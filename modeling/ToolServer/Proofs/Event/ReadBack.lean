/-
Event streams as their readers see them:

* `EventStream.lines`: the lines of a text, each of which ends at a line feed, at a
  carriage return or at both;
* `EventStream.field`: the field that a line gives, without one blank after its colon;
* `EventStream.messages`: the messages of a text, each of which ends at an empty line;
* `lines_line`: a line without breaks is read as it is, whatever follows it;
* `messages_block`: so is a block of such lines;
* `messageOfEvent_inj`: a message tells the kind and the content of its event;
* `blocks_read_back`: the blocks of some events are read as their messages, one by one.

A block writes its data line by line. The text of an event's content has one line
only, since all controls in it are escaped.
-/
import ToolServer.Event.Block
import ToolServer.Proofs.Json.OneLine

namespace ToolServer

/-! ### Reading -/

/-- A message of an event stream. -/
structure Message where
  /-- The name of the event, if it has one. -/
  event : Option String
  /-- The identifier, if it has one. -/
  id : Option String
  /-- The data. -/
  data : String
  deriving DecidableEq

namespace EventStream

/-- The lines of a text behind the beginning of a line, last character first. What
stands behind the last end of a line is not read. -/
def linesFrom (start : List Char) : List Char → List (List Char)
  | [] => []
  | '\n' :: rest => start.reverse :: linesFrom [] rest
  | '\r' :: '\n' :: rest => start.reverse :: linesFrom [] rest
  | '\r' :: rest => start.reverse :: linesFrom [] rest
  | c :: rest => linesFrom (c :: start) rest

/-- The lines of a text. -/
def lines (text : List Char) : List (List Char) :=
  linesFrom [] text

/-- The name and the value of the field in a line: what stands before and after its
first colon, without one blank behind that. -/
def field (line : List Char) : List Char × List Char :=
  (line.takeWhile (· ≠ ':'),
    match line.dropWhile (· ≠ ':') with
    | ':' :: ' ' :: value => value
    | _ :: value => value
    | [] => [])

/-- The fields of a message so far. -/
structure Fields where
  event : List Char := []
  id : Option (List Char) := none
  /-- The lines of the data, last one first. -/
  data : List (List Char) := []

/-- The fields after one more. A field without a known name is left out. -/
def Fields.push (f : Fields) (name value : List Char) : Fields :=
  if name = "event".toList then { f with event := value }
  else if name = "id".toList then { f with id := some value }
  else if name = "data".toList then { f with data := value :: f.data }
  else f

/-- The message that some fields make; without data they make none. -/
def Fields.message? (f : Fields) : Option Message :=
  if f.data.isEmpty then none
  else some
    { event := if f.event.isEmpty then none else some (String.ofList f.event)
      id := f.id.map String.ofList
      data := String.ofList (['\n'].intercalate f.data.reverse) }

/-- The messages of some lines, the first of which has some fields already. -/
def messagesFrom (f : Fields) : List (List Char) → List Message
  | [] => []
  | line :: rest =>
    if line.isEmpty then f.message?.toList ++ messagesFrom {} rest
    else messagesFrom (f.push (field line).1 (field line).2) rest

/-- The messages of a text. -/
def messages (text : String) : List Message :=
  messagesFrom {} (lines text.toList)

/-! ### Lines without breaks -/

/-- Whether a text has no line breaks. -/
def Unbroken (cs : List Char) : Prop :=
  '\n' ∉ cs ∧ '\r' ∉ cs

instance (cs : List Char) : Decidable (Unbroken cs) :=
  inferInstanceAs (Decidable (_ ∧ _))

lemma Unbroken.append {cs ds : List Char} (hc : Unbroken cs) (hd : Unbroken ds) :
    Unbroken (cs ++ ds) :=
  ⟨by simp [hc.1, hd.1], by simp [hc.2, hd.2]⟩

lemma linesFrom_line {line : List Char} (h : Unbroken line) (start rest : List Char) :
    linesFrom start (line ++ '\n' :: rest) = (start.reverse ++ line) :: lines rest := by
  induction line generalizing start with
  | nil => simp [linesFrom, lines]
  | cons c line ih =>
      obtain ⟨feed, ret⟩ := h
      rw [List.mem_cons, not_or] at feed ret
      have next : linesFrom start (c :: (line ++ '\n' :: rest))
          = linesFrom (c :: start) (line ++ '\n' :: rest) := by
        rw [linesFrom]
        · exact fun eq => feed.1 eq.symm
        · exact fun _ eq => absurd eq.symm ret.1
        · exact fun eq => ret.1 eq.symm
      rw [List.cons_append, next, ih ⟨feed.2, ret.2⟩]
      simp

/-- **A line without breaks is read as it is**, and what follows it is read on its own. -/
lemma lines_line {line : List Char} (h : Unbroken line) (rest : List Char) :
    lines (line ++ '\n' :: rest) = line :: lines rest :=
  linesFrom_line h [] rest

/-! ### Blocks -/

/-- A line that a block writes gives its field back. -/
lemma field_line {name : List Char} (h : ':' ∉ name) (value : List Char) :
    field (name ++ ':' :: ' ' :: value) = (name, value) := by
  have before : ∀ c ∈ name, decide (c ≠ ':') = true := fun c hc =>
    decide_eq_true fun eq => h (eq ▸ hc)
  rw [field, List.takeWhile_append_of_pos before, List.dropWhile_append_of_pos before]
  simp

/-- The names of the fields that a block writes. -/
def names : List String :=
  ["event", "id", "data"]

/-- A field that a block writes is read, and what follows it is read after it. -/
lemma messagesFrom_fieldLine (f : Fields) {name : String} (known : name ∈ names)
    {value : List Char} (h : Unbroken value) (rest : List Char) :
    messagesFrom f (lines (Block.fieldLine name value ++ rest))
      = messagesFrom (f.push name.toList value) (lines rest) := by
  have plain : ∀ name ∈ names, ':' ∉ name.toList ∧ Unbroken (name.toList ++ [':', ' ']) := by
    decide
  obtain ⟨colon, unbroken⟩ := plain name known
  have line : Block.fieldLine name value ++ rest
      = (name.toList ++ [':', ' '] ++ value) ++ '\n' :: rest := by
    simp [Block.fieldLine]
  have read : field (name.toList ++ [':', ' '] ++ value) = (name.toList, value) := by
    rw [List.append_assoc]
    exact field_line colon value
  rw [line, lines_line (unbroken.append h), messagesFrom, if_neg (by simp), read]

/-- The lines of the data are read one after the other. -/
lemma messagesFrom_data (f : Fields) {ls : List (List Char)} (h : ∀ l ∈ ls, Unbroken l)
    (rest : List Char) :
    messagesFrom f (lines (ls.flatMap (Block.fieldLine "data") ++ rest))
      = messagesFrom { f with data := ls.reverse ++ f.data } (lines rest) := by
  induction ls generalizing f with
  | nil => rfl
  | cons l ls ih =>
      rw [List.flatMap_cons, List.append_assoc,
        messagesFrom_fieldLine f (by decide) (h l List.mem_cons_self),
        ih _ fun l hl => h l (List.mem_cons_of_mem _ hl)]
      simp [Fields.push]

/-- The lines of the data that a block writes. -/
def dataLines (b : Block) : List (List Char) :=
  (Block.lines b.data.toList).map Block.dropReturn

/-- The message that a block stands for. An event without a name has none. -/
def messageOf (b : Block) : Message where
  event := b.event.filter fun e => !e.isEmpty
  id := b.id
  data := String.ofList (['\n'].intercalate (dataLines b))

/-- Whether no field of a block has a line break, and no line of its data. -/
structure Sound (b : Block) : Prop where
  event : ∀ e ∈ b.event, Unbroken e.toList
  id : ∀ i ∈ b.id, Unbroken i.toList
  data : ∀ l ∈ dataLines b, Unbroken l

lemma messagesFrom_eventLine {event : Option String} (h : ∀ e ∈ event, Unbroken e.toList)
    (rest : List Char) :
    messagesFrom {} (lines (Block.eventLine event ++ rest))
      = messagesFrom { event := (event.getD "").toList } (lines rest) := by
  cases event with
  | none => rfl
  | some e =>
      rw [Block.eventLine]
      split_ifs with empty
      · obtain rfl := String.isEmpty_iff.mp empty
        rfl
      · rw [messagesFrom_fieldLine _ (by decide) (h e rfl)]
        rfl

lemma messagesFrom_idLine (f : Fields) (none : f.id = none) {id : Option String}
    (h : ∀ i ∈ id, Unbroken i.toList) (rest : List Char) :
    messagesFrom f (lines (Block.idLine id ++ rest))
      = messagesFrom { f with id := id.map String.toList } (lines rest) := by
  cases id with
  | none => rw [Option.map_none, ← none]; rfl
  | some i => rw [Block.idLine, messagesFrom_fieldLine _ (by decide) (h i rfl)]; rfl

lemma lines_ne_nil (cs : List Char) : Block.lines cs ≠ [] := by
  induction cs with
  | nil => exact List.cons_ne_nil _ _
  | cons c cs ih =>
      rw [Block.lines, List.foldr_cons, Block.consLine.eq_def]
      split_ifs
      · exact List.cons_ne_nil _ _
      · split <;> exact List.cons_ne_nil _ _

/-- The fields of a block make its message. -/
lemma message?_fields (b : Block) :
    Fields.message? ⟨(b.event.getD "").toList, b.id.map String.toList, (dataLines b).reverse⟩
      = some (messageOf b) := by
  have there : (dataLines b).reverse ≠ [] := by simp [dataLines, lines_ne_nil]
  have id : (b.id.map String.toList).map String.ofList = b.id := by
    cases b.id <;> simp
  have event : (if (b.event.getD "").toList.isEmpty then none
      else some (String.ofList (b.event.getD "").toList)) = b.event.filter fun e => !e.isEmpty := by
    cases b.event with
    | none => rfl
    | some e => by_cases empty : e = "" <;> simp [empty, Option.filter_some]
  rw [Fields.message?, if_neg (by simpa using there), List.reverse_reverse, id, event, messageOf]

/-- The name and the identifier of a block are read before its data. -/
lemma messagesFrom_text {b : Block} (event : ∀ e ∈ b.event, Unbroken e.toList)
    (id : ∀ i ∈ b.id, Unbroken i.toList) (rest : List Char) :
    messagesFrom {} (lines (b.text.toList ++ rest))
      = messagesFrom { event := (b.event.getD "").toList, id := b.id.map String.toList }
          (lines ((dataLines b).flatMap (Block.fieldLine "data") ++ '\n' :: rest)) := by
  have text : b.text.toList ++ rest = Block.eventLine b.event ++ (Block.idLine b.id
      ++ ((dataLines b).flatMap (Block.fieldLine "data") ++ '\n' :: rest)) := by
    simp only [Block.text, dataLines, List.flatMap_map, String.toList_ofList, List.append_assoc,
      List.cons_append, List.nil_append]
  rw [text, messagesFrom_eventLine event, messagesFrom_idLine _ rfl id]

/-- **A block is read as the message that it stands for**, and what follows it is read
on its own. -/
lemma messages_block {b : Block} (h : Sound b) (rest : List Char) :
    messagesFrom {} (lines (b.text.toList ++ rest))
      = messageOf b :: messagesFrom {} (lines rest) := by
  have stop : lines ('\n' :: rest) = [] :: lines rest := lines_line (by decide : Unbroken []) rest
  rw [messagesFrom_text h.event h.id, messagesFrom_data _ h.data, stop, messagesFrom,
    if_pos List.isEmpty_nil]
  simp only [List.append_nil, message?_fields, Option.toList_some, List.singleton_append]

/-! ### Events -/

/-- The text of a value is one line. -/
lemma unbroken_text (v : Json) : Unbroken v.text.toList := by
  have visible : ∀ c ∈ v.text.toList, Json.IsVisible c := by
    simpa [Json.text] using Json.isVisible_of_mem_chars v
  exact ⟨fun feed => absurd (visible _ feed) (by decide),
    fun ret => absurd (visible _ ret) (by decide)⟩

/-- A text without breaks is one line of data, and is written as it is. -/
lemma lines_of_unbroken {cs : List Char} (h : Unbroken cs) :
    (Block.lines cs).map Block.dropReturn = [cs] := by
  have one : Block.lines cs = [cs] := by
    induction cs with
    | nil => rfl
    | cons c cs ih =>
        obtain ⟨feed, ret⟩ := h
        rw [List.mem_cons, not_or] at feed ret
        rw [Block.lines, List.foldr_cons, ← Block.lines, ih ⟨feed.2, ret.2⟩, Block.consLine.eq_def,
          if_neg fun eq => feed.1 eq.symm]
  have last : cs.getLast? ≠ some '\r' := fun last => h.2 (List.mem_of_getLast? last)
  rw [one, List.map_singleton, Block.dropReturn, if_neg last]

/-- The message that an event is read as. -/
def messageOfEvent (id : String) (e : Event) : Message where
  event := some e.kind.name
  id := if id = "" then none else some id
  data := e.payload.text

lemma sound_ofEvent (e : Event) {id : String} (h : Unbroken id.toList) :
    Sound (Block.ofEvent e id) := by
  refine ⟨?_, ?_, ?_⟩
  · rintro _ ⟨⟩
    have names : ∀ kind : EventKind, Unbroken kind.name.toList := by
      rintro (_ | _ | _ | _ | _) <;> decide
    exact names e.kind
  · intro i hi
    rw [Block.ofEvent] at hi
    split_ifs at hi
    · cases hi
    · exact Option.some.inj hi ▸ h
  · rw [dataLines, Block.ofEvent, lines_of_unbroken (unbroken_text _)]
    simpa using unbroken_text e.payload

lemma messageOf_ofEvent (e : Event) (id : String) :
    messageOf (Block.ofEvent e id) = messageOfEvent id e := by
  have named : ∀ kind : EventKind, kind.name ≠ "" := by
    rintro (_ | _ | _ | _ | _) <;> decide
  have data : dataLines (Block.ofEvent e id) = [e.payload.text.toList] :=
    lines_of_unbroken (unbroken_text _)
  rw [messageOf, data, messageOfEvent]
  simp [Block.ofEvent, named, Option.filter_some]

/-- Kinds have different names. -/
lemma EventKind.name_injective : Function.Injective EventKind.name := by
  intro kind kind' same
  cases kind <;> cases kind' <;> first | rfl | exact absurd same (by decide)

/-- **The message of an event tells its kind and its content.** -/
lemma messageOfEvent_inj {id : String} {e e' : Event}
    (same : messageOfEvent id e = messageOfEvent id e') :
    e.kind = e'.kind ∧ e.payload = e'.payload := by
  obtain ⟨name, -, data⟩ := Message.mk.inj same
  exact ⟨EventKind.name_injective (Option.some.inj name),
    Json.chars_injective (String.ofList_injective data)⟩

/-- **The blocks of some events are read as messages of these events**, one for each and in
their order, with the name of its kind, the identifier if it is not empty, and the text
of its content as data. Whatever strings the events have in them: no field and no
message is added, split or merged.

The kind and the content of an event are determined by its message, and the content can be
read off the data if it has whole numbers only and is not nested too deeply. -/
theorem blocks_read_back (events : List Event) (id : String)
    (unbroken : '\n' ∉ id.toList ∧ '\r' ∉ id.toList) :
    messages (String.join (events.map fun e => e.block id))
        = (events.map fun e => messageOfEvent id e)
      ∧ (∀ e e', messageOfEvent id e = messageOfEvent id e' →
        e.kind = e'.kind ∧ e.payload = e'.payload)
      ∧ ∀ e : Event, e.payload.IsWhole → e.payload.depth ≤ Json.maxNesting →
        Json.readAsWritten (Text.bytesOf (messageOfEvent id e).data) = .ok e.payload := by
  have all : ∀ events : List Event,
      messagesFrom {} (lines (events.flatMap fun e => (e.block id).toList))
        = events.map fun e => messageOfEvent id e := by
    intro events
    induction events with
    | nil => rfl
    | cons e events ih =>
        rw [List.flatMap_cons, Event.block, messages_block (sound_ofEvent e unbroken),
          messageOf_ofEvent, ih, List.map_cons]
  refine ⟨?_, fun e e' => messageOfEvent_inj, fun e => Json.readAsWritten_text⟩
  rw [messages, String.toList_join, List.flatMap_map]
  exact all events

/-- An event that tries to look like the end of its stream, and an identifier that looks
like a field. -/
theorem blocks_read_back_disguised :
    let id := "7: data"
    let chunk := Event.data (.string "x\n\nevent: end\r\ndata: \x7b\x7d\n\n") 1
    let failure := Event.error "event: end" false
    ('\n' ∉ id.toList ∧ '\r' ∉ id.toList) ∧
      messages (String.join ([chunk, failure].map fun e => e.block id))
        = [⟨some "data", some id, chunk.payload.text⟩,
          ⟨some "error", some id, failure.payload.text⟩] :=
  ⟨by decide, (blocks_read_back _ _ (by decide)).1⟩

end EventStream

end ToolServer
