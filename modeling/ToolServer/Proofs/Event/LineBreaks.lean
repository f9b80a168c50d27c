/-
Which data a block keeps:

* `EventStream.unifyBreaks`: a text with every line break written as a line feed;
* `EventStream.isPaired`: whether a line feed follows every carriage return of a text;
* `dataLines_paired`: the lines that a block writes for paired data;
* `sum_readWeight_data`: how much of these lines a reader gets;
* `block_read_back_iff`: a block is read as its data, up to the kind of the line breaks,
  if and only if the data is paired.

A block parts its data at line feeds and takes one carriage return off the end of each
line. A reader of event streams also ends a line at a carriage return that stands alone,
so such a carriage return cuts a line that was written as one. What follows it is read as
a field of its own, and the reader gets less than what was written. This is measured by
weights: a line of data weighs its length, and one more for its end.
-/
import ToolServer.Proofs.Event.ReadBack

namespace ToolServer

namespace EventStream

/-! ### Line breaks -/

/-- A text with every line break written as a line feed. -/
def unifyBreaks : List Char → List Char
  | [] => []
  | '\r' :: '\n' :: rest => '\n' :: unifyBreaks rest
  | '\r' :: rest => '\n' :: unifyBreaks rest
  | c :: rest => c :: unifyBreaks rest

/-- Whether a line feed follows every carriage return of a text. -/
def isPaired : List Char → Bool
  | [] => true
  | '\r' :: '\n' :: rest => isPaired rest
  | '\r' :: _ => false
  | _ :: rest => isPaired rest

section
variable {c : Char} (cs : List Char)

@[simp]
lemma unifyBreaks_feed : unifyBreaks ('\n' :: cs) = '\n' :: unifyBreaks cs :=
  rfl

@[simp]
lemma unifyBreaks_pair : unifyBreaks ('\r' :: '\n' :: cs) = '\n' :: unifyBreaks cs :=
  rfl

@[simp]
lemma unifyBreaks_alone (h : c ≠ '\n') :
    unifyBreaks ('\r' :: c :: cs) = '\n' :: unifyBreaks (c :: cs) := by
  rw [unifyBreaks]
  rintro rest ⟨⟩
  exact h rfl

@[simp]
lemma unifyBreaks_cons (h : c ≠ '\r') : unifyBreaks (c :: cs) = c :: unifyBreaks cs := by
  rw [unifyBreaks]
  · exact fun _ eq => absurd eq h
  · exact h

@[simp]
lemma isPaired_alone (h : c ≠ '\n') : isPaired ('\r' :: c :: cs) = false := by
  rw [isPaired]
  rintro rest ⟨⟩
  exact h rfl

@[simp]
lemma isPaired_cons (h : c ≠ '\r') : isPaired (c :: cs) = isPaired cs := by
  rw [isPaired]
  · exact fun _ eq => absurd eq h
  · exact h

end

/-- Induction on a text by what its first characters are: a line feed, a pair of carriage
return and line feed, a carriage return that is the last character or that something else
follows, or any other character. -/
@[elab_as_elim]
lemma inductionOnBreaks {motive : List Char → Prop} (cs : List Char)
    (nil : motive [])
    (feed : ∀ cs, motive cs → motive ('\n' :: cs))
    (pair : ∀ cs, motive cs → motive ('\r' :: '\n' :: cs))
    (last : motive ['\r'])
    (alone : ∀ c cs, c ≠ '\n' → motive (c :: cs) → motive ('\r' :: c :: cs))
    (cons : ∀ c cs, c ≠ '\n' → c ≠ '\r' → motive cs → motive (c :: cs)) : motive cs := by
  fun_induction unifyBreaks cs with
  | case1 => exact nil
  | case2 cs ih => exact pair cs ih
  | case3 cs notPair ih =>
      cases cs with
      | nil => exact last
      | cons c cs => exact alone c cs (fun eq => notPair cs (by rw [eq])) ih
  | case4 c cs _ ret ih =>
      by_cases eq : c = '\n'
      · exact eq ▸ feed cs ih
      · exact cons c cs eq (fun eq => ret eq) ih

/-! ### The lines of some data -/

/-- The lines of some data, as a block writes them. -/
def written (cs : List Char) : List (List Char) :=
  (Block.lines cs).map Block.dropReturn

@[simp]
lemma written_feed (cs : List Char) : written ('\n' :: cs) = [] :: written cs :=
  rfl

@[simp]
lemma written_pair (cs : List Char) : written ('\r' :: '\n' :: cs) = [] :: written cs :=
  rfl

lemma dropReturn_cons {c : Char} {l : List Char} (h : c ≠ '\r' ∨ l ≠ []) :
    Block.dropReturn (c :: l) = c :: Block.dropReturn l := by
  cases l with
  | nil => simp [Block.dropReturn, h.resolve_right (by simp)]
  | cons d l =>
      rw [Block.dropReturn, Block.dropReturn, List.getLast?_cons_cons, List.dropLast_cons_cons]
      split_ifs <;> rfl

/-- A character that ends no line comes in front of the first line. -/
lemma lines_cons {c : Char} (h : c ≠ '\n') (cs : List Char) :
    ∃ l ls, Block.lines cs = l :: ls ∧ Block.lines (c :: cs) = (c :: l) :: ls := by
  obtain ⟨l, ls, eq⟩ := List.exists_cons_of_ne_nil (lines_ne_nil cs)
  refine ⟨l, ls, eq, ?_⟩
  rw [Block.lines, List.foldr_cons, ← Block.lines, eq, Block.consLine, if_neg h]

lemma written_cons {c : Char} (feed : c ≠ '\n') (ret : c ≠ '\r') (cs : List Char) :
    ∃ l ls, written cs = l :: ls ∧ written (c :: cs) = (c :: l) :: ls := by
  obtain ⟨l, ls, eq, cons⟩ := lines_cons feed cs
  refine ⟨Block.dropReturn l, ls.map Block.dropReturn, ?_, ?_⟩
  · rw [written, eq, List.map_cons]
  · rw [written, cons, List.map_cons, dropReturn_cons (.inl ret)]

/-- A carriage return that stands alone stays in its line, unless it is the last
character. -/
lemma written_alone {c : Char} (feed : c ≠ '\n') (cs : List Char) :
    ∃ l ls, written (c :: cs) = l :: ls ∧ written ('\r' :: c :: cs) = ('\r' :: l) :: ls := by
  obtain ⟨l, ls, eq, cons⟩ := lines_cons feed cs
  obtain ⟨_, _, eq', cons'⟩ := lines_cons (by decide : '\r' ≠ '\n') (c :: cs)
  obtain ⟨rfl, rfl⟩ := List.cons.inj (cons.symm.trans eq')
  refine ⟨Block.dropReturn (c :: l), ls.map Block.dropReturn, ?_, ?_⟩
  · rw [written, cons, List.map_cons]
  · rw [written, cons', List.map_cons, dropReturn_cons (.inr (List.cons_ne_nil _ _))]

lemma written_ne_nil (cs : List Char) : written cs ≠ [] := by
  simp [written, lines_ne_nil]

lemma feed_notMem_written (cs : List Char) : ∀ l ∈ written cs, '\n' ∉ l := by
  induction cs using inductionOnBreaks with
  | nil | last => decide
  | feed cs ih | pair cs ih => simpa using ih
  | alone c cs feed ih =>
      obtain ⟨l, ls, eq, alone⟩ := written_alone feed cs
      rw [eq] at ih
      simpa [alone] using ih
  | cons c cs feed ret ih =>
      obtain ⟨l, ls, eq, cons⟩ := written_cons feed ret cs
      rw [eq] at ih
      simpa [cons, Ne.symm feed] using ih

lemma intercalate_nil_cons {ls : List (List Char)} (h : ls ≠ []) :
    ['\n'].intercalate ([] :: ls) = '\n' :: ['\n'].intercalate ls := by
  obtain ⟨l, ls, rfl⟩ := List.exists_cons_of_ne_nil h
  rw [List.intercalate_cons_cons]
  rfl

lemma intercalate_cons (c : Char) (l : List Char) (ls : List (List Char)) :
    ['\n'].intercalate ((c :: l) :: ls) = c :: ['\n'].intercalate (l :: ls) := by
  cases ls with
  | nil => simp
  | cons k ls => simp [List.intercalate_cons_cons]

/-- **The lines of paired data have no carriage returns**, and are what stands between
its line breaks. -/
lemma written_paired {cs : List Char} (h : isPaired cs) :
    (∀ l ∈ written cs, '\r' ∉ l) ∧ ['\n'].intercalate (written cs) = unifyBreaks cs := by
  induction cs using inductionOnBreaks with
  | nil => decide
  | feed cs ih | pair cs ih =>
      obtain ⟨whole, eq⟩ := ih h
      refine ⟨by simpa using whole, ?_⟩
      simp [intercalate_nil_cons (written_ne_nil cs), eq]
  | last => cases h
  | alone c cs feed =>
      rw [isPaired_alone cs feed] at h
      cases h
  | cons c cs feed ret ih =>
      rw [isPaired_cons cs ret] at h
      obtain ⟨whole, eq⟩ := ih h
      obtain ⟨l, ls, here, cons⟩ := written_cons feed ret cs
      rw [here] at whole eq
      rw [cons, intercalate_cons, eq, unifyBreaks_cons cs ret]
      exact ⟨by simpa [Ne.symm ret] using whole, rfl⟩

/-! ### Weights -/

/-- What some lines of data weigh. -/
def weight (ls : List (List Char)) : Nat :=
  (ls.map fun l => l.length + 1).sum

@[simp]
lemma weight_cons (l : List Char) (ls : List (List Char)) :
    weight (l :: ls) = l.length + 1 + weight ls :=
  rfl

/-- The lines of a text weigh no more than the text with its line breaks unified. -/
lemma weight_written_le (cs : List Char) :
    weight (written cs) ≤ (unifyBreaks cs).length + 1 := by
  induction cs using inductionOnBreaks with
  | nil | last => decide
  | feed cs ih | pair cs ih =>
      simp only [written_feed, written_pair, unifyBreaks_feed, unifyBreaks_pair, weight_cons,
        List.length_cons, List.length_nil]
      omega
  | alone c cs feed ih =>
      obtain ⟨l, ls, eq, alone⟩ := written_alone feed cs
      rw [eq, weight_cons] at ih
      rw [alone, weight_cons, unifyBreaks_alone cs feed, List.length_cons, List.length_cons]
      omega
  | cons c cs feed ret ih =>
      obtain ⟨l, ls, eq, cons⟩ := written_cons feed ret cs
      rw [eq, weight_cons] at ih
      rw [cons, weight_cons, unifyBreaks_cons cs ret, List.length_cons, List.length_cons]
      omega

/-- A carriage return that stands alone is lost if it is the last character, and else it
is in one of the lines. -/
lemma weight_written_lt {cs : List Char} (h : isPaired cs = false) :
    weight (written cs) < (unifyBreaks cs).length + 1 ∨ ∃ l ∈ written cs, '\r' ∈ l := by
  induction cs using inductionOnBreaks with
  | nil => cases h
  | feed cs ih | pair cs ih =>
      have known := ih h
      simp only [written_feed, written_pair, unifyBreaks_feed, unifyBreaks_pair, weight_cons,
        List.length_cons, List.length_nil, List.mem_cons, exists_eq_or_imp, List.not_mem_nil,
        false_or]
      exact known.imp_left (by omega)
  | last => exact .inl (by decide)
  | alone c cs feed =>
      obtain ⟨l, ls, -, alone⟩ := written_alone feed cs
      exact .inr ⟨'\r' :: l, by rw [alone]; exact List.mem_cons_self, List.mem_cons_self⟩
  | cons c cs feed ret ih =>
      rw [isPaired_cons cs ret] at h
      obtain ⟨l, ls, eq, cons⟩ := written_cons feed ret cs
      have known := ih h
      rw [eq, weight_cons] at known
      rw [cons, weight_cons, unifyBreaks_cons cs ret, List.length_cons, List.length_cons]
      exact known.imp (by omega) (by simp [Ne.symm ret])

/-! ### What a reader gets -/

section
variable (start : List Char) {c : Char} (rest : List Char)

@[simp]
lemma linesFrom_feed : linesFrom start ('\n' :: rest) = start.reverse :: lines rest :=
  rfl

@[simp]
lemma linesFrom_pair : linesFrom start ('\r' :: '\n' :: rest) = start.reverse :: lines rest :=
  rfl

@[simp]
lemma linesFrom_alone (h : c ≠ '\n') :
    linesFrom start ('\r' :: c :: rest) = start.reverse :: linesFrom [] (c :: rest) := by
  rw [linesFrom]
  rintro rest ⟨⟩
  exact h rfl

@[simp]
lemma linesFrom_cons (feed : c ≠ '\n') (ret : c ≠ '\r') :
    linesFrom start (c :: rest) = linesFrom (c :: start) rest := by
  rw [linesFrom]
  · exact feed
  · exact fun _ eq => absurd eq ret
  · exact ret

end

/-- What a line of a text adds to the data of its message. -/
def readWeight (line : List Char) : Nat :=
  if (field line).1 = "data".toList then (field line).2.length + 1 else 0

/-- What the lines of a text add to the data of its messages. -/
def readWeights (ls : List (List Char)) : Nat :=
  (ls.map readWeight).sum

@[simp]
lemma readWeights_cons (l : List Char) (ls : List (List Char)) :
    readWeights (l :: ls) = readWeight l + readWeights ls :=
  rfl

/-- The name of a field takes up more than the end of its line. -/
lemma readWeight_le (line : List Char) : readWeight line ≤ line.length := by
  have parts : line.length = (line.takeWhile (· ≠ ':')).length
      + (line.dropWhile (· ≠ ':')).length := by
    rw [← List.length_append, List.takeWhile_append_dropWhile]
  rw [readWeight, field]
  split_ifs with named
  · have name : (line.takeWhile (· ≠ ':')).length = 4 := congrArg List.length named
    rw [parts, name]
    generalize line.dropWhile (· ≠ ':') = value
    split <;> simp only [List.length_cons, List.length_nil] <;> omega
  · exact Nat.zero_le _

/-- A line of data adds its value. -/
lemma readWeight_data (value : List Char) :
    readWeight ("data".toList ++ ':' :: ' ' :: value) = value.length + 1 := by
  rw [readWeight, field_line (by decide), if_pos rfl]

/-- What some messages hold. -/
def held (ms : List Message) : Nat :=
  (ms.map fun m => m.data.length + 1).sum

lemma held_append (ms ns : List Message) : held (ms ++ ns) = held ms + held ns := by
  simp [held]

lemma length_intercalate {ls : List (List Char)} (h : ls ≠ []) :
    (['\n'].intercalate ls).length + 1 = weight ls := by
  induction ls with
  | nil => exact absurd rfl h
  | cons l ls ih =>
      cases ls with
      | nil => simp [weight]
      | cons k ls =>
          rw [List.intercalate_cons_cons, List.length_append, List.length_append, weight_cons,
            ← ih (List.cons_ne_nil _ _), List.length_singleton]
          omega

lemma weight_reverse (ls : List (List Char)) : weight ls.reverse = weight ls := by
  simp [weight]

/-- A message holds the lines of its data. -/
lemma held_message? (f : Fields) : held f.message?.toList = weight f.data := by
  by_cases empty : f.data = []
  · rw [Fields.message?, if_pos (by rw [empty]; rfl), empty]
    rfl
  · have there : f.data.reverse ≠ [] := by simpa using empty
    rw [Fields.message?, if_neg (by simpa using empty), ← weight_reverse,
      ← length_intercalate there]
    simp [held]

lemma weight_push (f : Fields) (line : List Char) :
    weight (f.push (field line).1 (field line).2).data = weight f.data + readWeight line := by
  rw [Fields.push, readWeight]
  by_cases data : (field line).1 = "data".toList
  · rw [data, if_neg (by decide), if_neg (by decide), if_pos rfl, if_pos rfl, weight_cons]
    omega
  · simp only [if_neg data]
    split_ifs <;> rfl

/-- **Messages hold no more than the lines of data that they were read from.** -/
lemma held_messagesFrom (f : Fields) (ls : List (List Char)) :
    held (messagesFrom f ls) ≤ weight f.data + readWeights ls := by
  induction ls generalizing f with
  | nil => exact Nat.zero_le _
  | cons line ls ih =>
      rw [messagesFrom, readWeights_cons]
      split_ifs
      · have next : held (messagesFrom {} ls) ≤ 0 + readWeights ls := ih {}
        rw [held_append, held_message?]
        omega
      · have next := ih (f.push (field line).1 (field line).2)
        rw [weight_push] at next
        omega

/-- A reader gets no more from a text than the text is long, wherever it ends its lines. -/
lemma readWeights_linesFrom_le {l : List Char} (h : '\n' ∉ l) (start rest : List Char) :
    readWeights (linesFrom start (l ++ '\n' :: rest))
      ≤ start.length + l.length + readWeights (lines rest) := by
  have first (start : List Char) : readWeight start.reverse ≤ start.length := by
    simpa using readWeight_le start.reverse
  induction l using inductionOnBreaks generalizing start with
  | nil =>
      rw [List.nil_append, linesFrom_feed, readWeights_cons]
      exact Nat.add_le_add_right (first start) _
  | feed | pair => simp at h
  | last =>
      rw [List.singleton_append, linesFrom_pair, readWeights_cons]
      exact Nat.add_le_add_right ((first start).trans (Nat.le_add_right _ _)) _
  | alone c cs feed ih =>
      have here := first start
      have next := ih (by simpa using h) []
      simp only [List.cons_append, linesFrom_alone _ _ feed, readWeights_cons, List.length_cons,
        List.length_nil] at next ⊢
      omega
  | cons c cs feed ret ih =>
      have next := ih (fun mem => h (List.mem_cons_of_mem _ mem)) (c :: start)
      rw [List.cons_append, linesFrom_cons _ _ feed ret]
      simp only [List.length_cons] at next ⊢
      omega

/-- **A reader gets no more than what was written of a line of data**, and less if there
is a carriage return in it. -/
lemma readWeights_linesFrom_data {l : List Char} (h : '\n' ∉ l) (value rest : List Char) :
    readWeights (linesFrom ("data".toList ++ ':' :: ' ' :: value).reverse (l ++ '\n' :: rest))
        + (if '\r' ∈ l then 1 else 0)
      ≤ value.length + l.length + 1 + readWeights (lines rest) := by
  induction l using inductionOnBreaks generalizing value with
  | nil =>
      rw [List.nil_append, linesFrom_feed, readWeights_cons, List.reverse_reverse, readWeight_data,
        if_neg List.not_mem_nil]
      exact Nat.le_refl _
  | feed | pair => simp at h
  | last =>
      rw [List.singleton_append, linesFrom_pair, readWeights_cons, List.reverse_reverse,
        readWeight_data, if_pos List.mem_cons_self, List.length_singleton]
      omega
  | alone c cs feed =>
      -- What follows the carriage return is a line of its own, with or without a name.
      have others := readWeights_linesFrom_le (l := c :: cs) (by simpa using h) [] rest
      simp only [List.cons_append, List.length_nil, List.length_cons] at others
      rw [List.cons_append, List.cons_append, linesFrom_alone _ _ feed, readWeights_cons,
        List.reverse_reverse, readWeight_data, if_pos List.mem_cons_self, List.length_cons,
        List.length_cons]
      omega
  | cons c cs feed ret ih =>
      have next := ih (fun mem => h (List.mem_cons_of_mem _ mem)) (value ++ [c])
      have start : ("data".toList ++ ':' :: ' ' :: (value ++ [c])).reverse
          = c :: ("data".toList ++ ':' :: ' ' :: value).reverse := by simp
      have mem : '\r' ∈ c :: cs ↔ '\r' ∈ cs := by simp [Ne.symm ret]
      rw [start, ← linesFrom_cons _ _ feed ret, List.length_append, List.length_singleton] at next
      rw [List.cons_append, List.length_cons]
      simp only [mem]
      omega

/-- The lines of some data are read one after the other. -/
lemma readWeights_data {ls : List (List Char)} (h : ∀ l ∈ ls, '\n' ∉ l) (rest : List Char) :
    readWeights (lines (ls.flatMap (Block.fieldLine "data") ++ rest))
        + (if ∃ l ∈ ls, '\r' ∈ l then 1 else 0)
      ≤ weight ls + readWeights (lines rest) := by
  induction ls with
  | nil => simp [weight]
  | cons l ls ih =>
      rw [List.forall_mem_cons] at h
      have line : lines ((l :: ls).flatMap (Block.fieldLine "data") ++ rest)
          = linesFrom ("data".toList ++ [':', ' ']).reverse
            (l ++ '\n' :: (ls.flatMap (Block.fieldLine "data") ++ rest)) := by
        simp [lines, Block.fieldLine]
      have here := readWeights_linesFrom_data h.1 []
        (ls.flatMap (Block.fieldLine "data") ++ rest)
      have others := ih h.2
      have inside : (if ∃ k ∈ l :: ls, '\r' ∈ k then 1 else 0)
          ≤ (if '\r' ∈ l then 1 else 0) + if ∃ k ∈ ls, '\r' ∈ k then 1 else 0 := by
        simp only [List.mem_cons, exists_eq_or_imp]
        split_ifs <;> simp_all
      rw [line, weight_cons]
      rw [List.length_nil] at here
      omega

/-! ### Blocks -/

/-- **A block is read as one message with its name, its identifier and its data**, every
line break of which is written as a line feed, if and only if no carriage return of the
data stands alone. -/
theorem block_read_back_iff (b : Block) (event : ∀ e ∈ b.event, Unbroken e.toList)
    (id : ∀ i ∈ b.id, Unbroken i.toList) :
    messages b.text
        = [{ event := b.event.filter fun e => !e.isEmpty
             id := b.id
             data := String.ofList (unifyBreaks b.data.toList) }]
      ↔ isPaired b.data.toList := by
  constructor
  · intro read
    by_contra alone
    rw [Bool.not_eq_true] at alone
    -- The message read holds all of the data, so it holds more than the lines can give.
    have all : held (messages b.text) = (unifyBreaks b.data.toList).length + 1 := by
      rw [read]
      simp [held]
    have given : held (messages b.text)
        ≤ readWeights (lines ((dataLines b).flatMap (Block.fieldLine "data") ++ ['\n'])) := by
      have from_text := messagesFrom_text event id []
      rw [List.append_nil] at from_text
      rw [messages, from_text]
      exact (held_messagesFrom _ _).trans (Nat.zero_add _).le
    have parts := readWeights_data (feed_notMem_written b.data.toList) ['\n']
    have stop : readWeights (lines ['\n']) = 0 := rfl
    have most := weight_written_le b.data.toList
    have eq : dataLines b = written b.data.toList := rfl
    rw [eq] at given
    obtain less | inside := weight_written_lt alone
    · omega
    · rw [if_pos inside] at parts
      omega
  · intro paired
    obtain ⟨whole, eq⟩ := written_paired paired
    have sound : Sound b := ⟨event, id, fun l hl => ⟨feed_notMem_written _ l hl, whole l hl⟩⟩
    have read := messages_block sound []
    have lines : dataLines b = written b.data.toList := rfl
    rw [List.append_nil] at read
    rw [messages, read, messageOf, lines, eq]
    rfl

/-- Data with fields, empty lines and blanks of its own. -/
theorem block_read_back_iff_disguised :
    let b : Block := ⟨some "note", some "7: data", " a\r\n\nid: 8\r\ndata:"⟩
    ((∀ e ∈ b.event, Unbroken e.toList) ∧ ∀ i ∈ b.id, Unbroken i.toList) ∧
      messages b.text = [⟨some "note", some "7: data", " a\n\nid: 8\ndata:"⟩] := by
  intro b
  have event : ∀ e ∈ b.event, Unbroken e.toList := by decide
  have id : ∀ i ∈ b.id, Unbroken i.toList := by decide
  have data : String.ofList (unifyBreaks b.data.toList) = " a\n\nid: 8\ndata:" := by decide
  rw [← data]
  exact ⟨⟨event, id⟩, (block_read_back_iff b event id).mpr (by decide)⟩

/-- What follows a carriage return that stands alone is not read as data. -/
theorem lone_return_not_read_back :
    let b : Block := ⟨none, none, "a\rb"⟩
    messages b.text = [⟨none, none, "a"⟩] ∧
      messages b.text ≠ [⟨none, none, String.ofList (unifyBreaks b.data.toList)⟩] := by
  decide

end EventStream

end ToolServer
