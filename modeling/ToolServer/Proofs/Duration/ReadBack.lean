/-
Spans of time read back from their words:

* `Piece`, `pieces`: a number and its unit, and the pieces of a span in falling
  units;
* `words_eq`, `sum_span_pieces`: the words of a span are its pieces that are not
  nothing, and all of them together are the span;
* `parts_chars`, `parts_intercalate`: reading a piece adds what it stands for, and
  reading all of them adds their sum, unless that passes the longest span;
* `ofWords_words`: every span is read back from its words.
-/
import Mathlib.Tactic
import ToolServer.Duration.Decode
import ToolServer.Proofs.Number.Layout

namespace ToolServer.Duration

open ToolServer.Text (isBlank)

/-! ### Pieces -/

/-- A number and its unit, as they stand in the words of a span. -/
structure Piece where
  count : ℕ
  unit : String
  /-- What one of the unit counts. -/
  scale : Scale

/-- The nanoseconds that a number of a scale stands for. -/
def Scale.span (count : ℕ) : Scale → ℕ
  | .nanos each => count * each
  | .secs each => Duration.secs (count * each)

/-- The nanoseconds or seconds that one of a scale stands for. -/
def Scale.each : Scale → ℕ
  | .nanos each => each
  | .secs each => each

/-- Whether a scale is that of a unit with a name of letters. -/
structure Scale.GoesBy (scale : Scale) (name : String) : Prop where
  known : (unit? name).map Unit.whole = some scale
  named : name.toList ≠ []
  letters : name.toList.all isUnitLetter = true
  counts : 0 < scale.each

instance (scale : Scale) (name : String) : Decidable (scale.GoesBy name) :=
  decidable_of_iff ((unit? name).map Unit.whole = some scale ∧ name.toList ≠ [] ∧
      name.toList.all isUnitLetter = true ∧ 0 < scale.each)
    ⟨fun h => ⟨h.1, h.2.1, h.2.2.1, h.2.2.2⟩, fun h => ⟨h.known, h.named, h.letters, h.counts⟩⟩

namespace Piece

/-- The span that a piece stands for. -/
def span (p : Piece) : ℕ := p.scale.span p.count

/-- The characters of a piece. -/
def chars (p : Piece) : List Char :=
  decimalDigits p.count ++ p.unit.toList

/-- What the reader of a piece relies on: its unit goes by its name, and nanoseconds
are less than a second. -/
structure IsRead (p : Piece) : Prop where
  goesBy : p.scale.GoesBy p.unit
  brief : ∀ each, p.scale = .nanos each → p.count * each < Duration.secs 1

end Piece

/-- The name of a unit, which takes an `s` unless there is one of it. -/
def plural (n : ℕ) (unit : String) : String :=
  if n = 1 then unit else unit ++ "s"

/-- The pieces of a span in falling units, those of nothing included. -/
def pieces (d : ℕ) : List Piece :=
  let secs := wholeSecs d
  let nanos := subsecNanos d
  let inYear := secs % yearSecs
  let inMonth := inYear % monthSecs
  let inDay := inMonth % daySecs
  [⟨secs / yearSecs, plural (secs / yearSecs) "year", .secs yearSecs⟩,
    ⟨inYear / monthSecs, plural (inYear / monthSecs) "month", .secs monthSecs⟩,
    ⟨inMonth / daySecs, plural (inMonth / daySecs) "day", .secs daySecs⟩,
    ⟨inDay / 3600, "h", .secs 3600⟩, ⟨inDay % 3600 / 60, "m", .secs 60⟩,
    ⟨inDay % 60, "s", .secs 1⟩, ⟨nanos / 1000000, "ms", .nanos 1000000⟩,
    ⟨nanos / 1000 % 1000, "us", .nanos 1000⟩, ⟨nanos % 1000, "ns", .nanos 1⟩]

/-- The pieces that are not nothing. -/
def counts (ps : List Piece) : List Piece :=
  ps.filter fun p => p.count ≠ 0

lemma toList_counted (n : ℕ) (unit : String) (scale : Scale) :
    (counted n unit).map String.toList = (counts [⟨n, unit, scale⟩]).map Piece.chars := by
  by_cases none : n = 0
  · simp [counted, counts, none]
  · simp only [counted, counts, none, if_false, List.filter_cons, ne_eq, not_false_eq_true,
      decide_true, if_true, List.filter_nil, List.map_cons, List.map_nil, Piece.chars,
      String.toList_append]
    simp [decimalDigits, toString]

lemma countedPlural_eq (n : ℕ) (unit : String) :
    countedPlural n unit = counted n (plural n unit) := by
  by_cases one : n = 1
  · simp [counted, countedPlural, plural, one]
  · simp only [counted, countedPlural, plural, one, if_false]
    split_ifs
    · rfl
    · simp [toString, String.append_assoc]

lemma counts_cons_cons (p q : Piece) (ps : List Piece) :
    counts (p :: q :: ps) = counts [p] ++ counts (q :: ps) := by
  rw [counts, counts, counts, ← List.filter_append, List.singleton_append]

/-- The words of a span are its pieces that are not nothing, with blanks between them. -/
lemma words_eq {d : ℕ} (some : d ≠ 0) :
    (words d).toList = [' '].intercalate ((counts (pieces d)).map Piece.chars) := by
  have blank : " ".toList = [' '] := rfl
  rw [words, if_neg some]
  simp only [String.toList_intercalate, blank, pieces, counts_cons_cons, List.map_append,
    List.append_assoc, countedPlural_eq, ← toList_counted]

lemma secs_add (m n : ℕ) : secs (m + n) = secs m + secs n :=
  Nat.add_mul m n 1000000000

lemma secs_wholeSecs_add (d : ℕ) : secs (wholeSecs d) + subsecNanos d = d := by
  simp only [secs, wholeSecs, subsecNanos]
  omega

/-- The pieces of a span are the span. -/
lemma sum_span_pieces (d : ℕ) : ((pieces d).map Piece.span).sum = d := by
  have inSecs (n : ℕ) : n / yearSecs * yearSecs + (n % yearSecs / monthSecs * monthSecs
      + (n % yearSecs % monthSecs / daySecs * daySecs
        + (n % yearSecs % monthSecs % daySecs / 3600 * 3600
          + (n % yearSecs % monthSecs % daySecs % 3600 / 60 * 60
            + n % yearSecs % monthSecs % daySecs % 60)))) = n := by
    have inHour (r : ℕ) : r % 3600 / 60 * 60 + r % 60 = r % 3600 := by omega
    rw [inHour, Nat.div_add_mod', Nat.div_add_mod', Nat.div_add_mod', Nat.div_add_mod']
  have inNanos (n : ℕ) : n / 1000000 * 1000000 + (n / 1000 % 1000 * 1000 + n % 1000) = n := by
    omega
  -- the sum must not be unfolded by evaluation, whose numbers are large
  simp -implicitDefEqProofs only [pieces, List.map_cons, List.map_nil, List.sum_cons,
    List.sum_nil, Piece.span, Scale.span, mul_one, add_zero]
  rw [inNanos]
  simp -implicitDefEqProofs only [← add_assoc, ← secs_add]
  simp -implicitDefEqProofs only [add_assoc, inSecs, secs_wholeSecs_add]

lemma sum_span_counts (ps : List Piece) :
    ((counts ps).map Piece.span).sum = (ps.map Piece.span).sum := by
  induction ps with
  | nil => rfl
  | cons p ps ih =>
      by_cases none : p.count = 0
      · have nothing : p.span = 0 := by
          cases scale : p.scale <;> simp [Piece.span, scale, Scale.span, none, Duration.secs]
        rw [counts, List.filter_cons_of_neg (by simp [none]), List.map_cons, List.sum_cons,
          nothing, zero_add]
        exact ih
      · rw [counts, List.filter_cons_of_pos (by simp [none]), List.map_cons, List.map_cons,
          List.sum_cons, List.sum_cons]
        exact congrArg _ ih

lemma Scale.goesBy_plural {scale : Scale} {unit : String}
    (names : scale.GoesBy unit ∧ scale.GoesBy (unit ++ "s")) (n : ℕ) :
    scale.GoesBy (plural n unit) := by
  rw [plural]
  split_ifs
  · exact names.1
  · exact names.2

lemma isRead_secs (n : ℕ) {each : ℕ} {unit : String} (goesBy : (Scale.secs each).GoesBy unit) :
    Piece.IsRead ⟨n, unit, .secs each⟩ :=
  ⟨goesBy, fun _ eq => by cases eq⟩

lemma isRead_nanos {n each : ℕ} {unit : String} (goesBy : (Scale.nanos each).GoesBy unit)
    (brief : n * each < secs 1) : Piece.IsRead ⟨n, unit, .nanos each⟩ :=
  ⟨goesBy, fun _ eq => by cases eq; exact brief⟩

lemma isRead_of_mem_pieces {d : ℕ} : ∀ p ∈ pieces d, p.IsRead := by
  have year (n : ℕ) : (Scale.secs yearSecs).GoesBy (plural n "year") :=
    Scale.goesBy_plural (by decide) n
  have month (n : ℕ) : (Scale.secs monthSecs).GoesBy (plural n "month") :=
    Scale.goesBy_plural (by decide) n
  have day (n : ℕ) : (Scale.secs daySecs).GoesBy (plural n "day") :=
    Scale.goesBy_plural (by decide) n
  have less : subsecNanos d < 1000000000 := Nat.mod_lt _ (by decide)
  have second : secs 1 = 1000000000 := rfl
  simp only [pieces, List.forall_mem_cons]
  refine ⟨isRead_secs _ (year _), isRead_secs _ (month _), isRead_secs _ (day _),
    isRead_secs _ (by decide), isRead_secs _ (by decide), isRead_secs _ (by decide),
    isRead_nanos (by decide) ?_, isRead_nanos (by decide) ?_, isRead_nanos (by decide) ?_,
    List.forall_mem_nil _⟩
  all_goals
    rw [second]
    omega

/-! ### Reading pieces -/

/-- A letter is no digit and no blank. -/
lemma not_digit_of_isUnitLetter {c : Char} (h : isUnitLetter c = true) :
    c.isDigit = false ∧ isBlank c = false := by
  have code : 65 ≤ c.toNat ∧ c.toNat ≤ 90 ∨ 97 ≤ c.toNat ∧ c.toNat ≤ 122 ∨ c.toNat = 181 := by
    simp only [isUnitLetter, Bool.or_eq_true, Bool.and_eq_true, decide_eq_true_eq, beq_iff_eq] at h
    rcases h with (⟨low, high⟩ | ⟨low, high⟩) | rfl
    · exact .inr (.inl ⟨UInt32.le_iff_toNat_le.mp low, UInt32.le_iff_toNat_le.mp high⟩)
    · exact .inl ⟨UInt32.le_iff_toNat_le.mp low, UInt32.le_iff_toNat_le.mp high⟩
    · exact .inr (.inr rfl)
  constructor
  · by_contra digit
    have := toNat_of_isDigit (eq_true_of_ne_false digit)
    omega
  · simp only [isBlank, Bool.or_eq_false_iff, Bool.and_eq_false_iff, decide_eq_false_iff_not,
      beq_eq_false_iff_ne]
    omega

lemma le_ofDigitChars {ds : List Char} (n : ℕ) : n ≤ Nat.ofDigitChars 10 ds n := by
  induction ds generalizing n with
  | nil => exact le_rfl
  | cons c ds ih =>
      rw [Nat.ofDigitChars_cons]
      exact le_trans (by omega) (ih _)

/-- The digits of a number are read up to the letter behind them. -/
lemma number_digits {ds : List Char} (digits : AllDigits ds) {c : Char}
    (letter : isUnitLetter c = true) (rest : List Char) (n offset : ℕ)
    (small : Nat.ofDigitChars 10 ds n < numberBound) :
    ∃ offset', number n offset (ds ++ c :: rest)
      = .ok (Nat.ofDigitChars 10 ds n, none, ⟨offset', c :: rest⟩) := by
  induction ds generalizing n offset with
  | nil =>
      obtain ⟨digit, blank⟩ := not_digit_of_isUnitLetter letter
      exact ⟨offset, by simp [number, digit, blank, letter]⟩
  | cons d ds ih =>
      have digit : d.isDigit = true := digits d List.mem_cons_self
      rw [Nat.ofDigitChars_cons] at small ⊢
      have value : n * 10 + digitOf d = 10 * n + (d.toNat - '0'.toNat) := by
        rw [Nat.mul_comm]
        rfl
      obtain ⟨offset', read⟩ := ih (digits.of_subset (List.subset_cons_self d ds))
        (n * 10 + digitOf d) (offset + d.utf8Size) (by rwa [value])
      have fits : n * 10 + digitOf d < numberBound :=
        lt_of_le_of_lt (value ▸ le_ofDigitChars _) small
      refine ⟨offset', ?_⟩
      rw [List.cons_append, number]
      simp only [digit, if_true, fits]
      rw [read, value]

/-- What may stand behind a piece: nothing, or a blank and other characters. -/
def Behind (rest next : List Char) : Prop :=
  rest = [] ∧ next = [] ∨ rest = ' ' :: next

/-- The letters of a unit are read up to the blank or the end behind them. -/
lemma unitName_letters {ls : List Char} (letters : ∀ c ∈ ls, isUnitLetter c = true)
    {rest next : List Char} (behind : Behind rest next) (name : List Char) (offset : ℕ) :
    ∃ offset', unitName name offset (ls ++ rest)
      = .ok (String.ofList (name.reverse ++ ls), ⟨offset', next⟩) := by
  induction ls generalizing name offset with
  | nil =>
      obtain ⟨rfl, rfl⟩ | rfl := behind
      · exact ⟨offset, by rw [List.append_nil, List.append_nil]; rfl⟩
      · exact ⟨offset + 1, by rw [List.append_nil]; rfl⟩
  | cons l ls ih =>
      have letter : isUnitLetter l = true := letters l List.mem_cons_self
      obtain ⟨digit, blank⟩ := not_digit_of_isUnitLetter letter
      obtain ⟨offset', read⟩ := ih (fun c h => letters c (List.mem_cons_of_mem _ h)) (l :: name)
        (offset + l.utf8Size)
      refine ⟨offset', ?_⟩
      rw [List.cons_append, unitName]
      simp [digit, blank, letter, read]

lemma lt_numberBound_of_secs_le {n : ℕ} (h : secs n ≤ max) : n < numberBound := by
  simp only [secs, max, numberBound] at *
  omega

/-- What a piece counts is within the bound of numbers, if its span is that of a
part of the longest one. -/
lemma mul_each_lt {p : Piece} (h : p.IsRead) (fits : p.span ≤ max) :
    p.count * p.scale.each < numberBound := by
  cases scale : p.scale with
  | nanos each => exact lt_trans (h.brief each scale) (by decide)
  | secs each =>
      rw [Piece.span, scale] at fits
      exact lt_numberBound_of_secs_le fits

lemma add?_span {p : Piece} (h : p.IsRead) {total : ℕ} (fits : total + p.span ≤ max) :
    add? total p.count 1 p.scale = some (total + p.span) := by
  have bound : ¬ numberBound ≤ p.count * p.scale.each :=
    not_le.mpr (mul_each_lt h (le_trans (by omega) fits))
  rw [Piece.span] at fits ⊢
  cases scale : p.scale with
  | nanos each =>
      have brief : p.count * each < secs 1 := h.brief each scale
      have low : subsecNanos total + p.count * each < numberBound := by
        have part : subsecNanos total < 1000000000 := Nat.mod_lt _ (by decide)
        simp only [secs, numberBound] at *
        omega
      rw [scale] at bound fits
      simp only [Scale.each, Scale.span] at bound fits
      simp [add?, Nat.mod_one, bound, low, fits, Scale.span]
  | secs each =>
      rw [scale] at bound fits
      simp only [Scale.each, Scale.span] at bound fits
      simp [add?, Nat.mod_one, bound, fits, Scale.span]

/-- Adding a piece to a span adds what it stands for. -/
lemma addPart_unit {p : Piece} (h : p.IsRead) {total : ℕ} (fits : total + p.span ≤ max) :
    addPart total p.count none p.unit = .ok (total + p.span) := by
  obtain ⟨u, known, whole⟩ : ∃ u, unit? p.unit = some u ∧ u.whole = p.scale := by
    simpa using h.goesBy.known
  rw [addPart, known]
  simp only [whole, add?_span h fits]

/-- Reading a piece adds what it stands for, and goes on behind it. -/
lemma parts_chars {p : Piece} (h : p.IsRead) {total : ℕ} (fits : total + p.span ≤ max)
    {rest next : List Char} (behind : Behind rest next) (fuel offset : ℕ) :
    ∃ offset', parts (fuel + 1) total ⟨offset, p.chars ++ rest⟩
      = parts fuel (total + p.span) ⟨offset', next⟩ := by
  obtain ⟨d, ds, spelled⟩ := List.exists_cons_of_ne_nil (decimalDigits_ne_nil p.count)
  obtain ⟨l, ls, name⟩ := List.exists_cons_of_ne_nil h.goesBy.named
  have digits : AllDigits (d :: ds) := spelled ▸ allDigits_decimalDigits p.count
  have letters : ∀ c ∈ l :: ls, isUnitLetter c = true :=
    name ▸ List.all_eq_true.mp h.goesBy.letters
  have value : Nat.ofDigitChars 10 ds (digitOf d) = p.count := by
    have whole := digitsValue_decimalDigits p.count
    rw [spelled, digitsValue, Nat.ofDigitChars_cons] at whole
    simpa [digitOf] using whole
  have small : p.count < numberBound :=
    lt_of_le_of_lt (Nat.le_mul_of_pos_right _ h.goesBy.counts)
      (mul_each_lt h (le_trans (by omega) fits))
  obtain ⟨numbered, readNumber⟩ := number_digits (digits.of_subset (List.subset_cons_self d ds))
    (letters l List.mem_cons_self) (ls ++ rest) (digitOf d) (offset + d.utf8Size) (by rwa [value])
  obtain ⟨offset', readUnit⟩ := unitName_letters letters behind [] numbered
  have first : firstDigit? offset offset (p.chars ++ rest)
      = .ok (some (digitOf d, ⟨offset + d.utf8Size, ds ++ l :: (ls ++ rest)⟩)) := by
    rw [Piece.chars, spelled, name]
    simp only [List.cons_append, List.append_assoc]
    rw [firstDigit?, if_pos (digits d List.mem_cons_self)]
  refine ⟨offset', ?_⟩
  rw [parts]
  simp only [first, readNumber, value, bind, Except.bind]
  rw [List.cons_append] at readUnit
  simp only [readUnit, List.reverse_nil, List.nil_append, ← name, String.ofList_toList,
    addPart_unit h fits]

/-- **Pieces with blanks between them are read one by one.** -/
lemma parts_intercalate {ps : List Piece} (read : ∀ p ∈ ps, p.IsRead) {total fuel : ℕ}
    (fits : total + (ps.map Piece.span).sum ≤ max) (enough : ps.length < fuel) (offset : ℕ) :
    parts fuel total ⟨offset, [' '].intercalate (ps.map Piece.chars)⟩
      = .ok (total + (ps.map Piece.span).sum) := by
  induction ps generalizing total fuel offset with
  | nil =>
      cases fuel with
      | zero => exact absurd enough (Nat.not_lt_zero _)
      | succ fuel => rfl
  | cons p ps ih =>
      cases fuel with
      | zero => exact absurd enough (Nat.not_lt_zero _)
      | succ fuel =>
          obtain ⟨first, others⟩ := List.forall_mem_cons.mp read
          have sum : total + ((p :: ps).map Piece.span).sum
              = total + p.span + (ps.map Piece.span).sum := by
            rw [List.map_cons, List.sum_cons, add_assoc]
          rw [sum] at fits ⊢
          have behind := ih others fits (Nat.lt_of_succ_lt_succ enough)
          have fitsFirst : total + p.span ≤ max := le_trans (Nat.le_add_right _ _) fits
          cases ps with
          | nil =>
              obtain ⟨offset', here⟩ := parts_chars first fitsFirst (.inl ⟨rfl, rfl⟩) fuel offset
              rw [List.append_nil] at here
              rw [List.map_singleton, List.intercalate_singleton, here]
              exact behind offset'
          | cons q ps =>
              obtain ⟨offset', here⟩ := parts_chars first fitsFirst
                (.inr (rfl : _ = ' ' :: [' '].intercalate ((q :: ps).map Piece.chars))) fuel offset
              rw [List.map_cons, List.map_cons, List.intercalate_cons_cons, List.append_assoc,
                List.singleton_append]
              exact here.trans (behind offset')

/-! ### Whole spans -/

lemma chars_subset_intercalate {p : Piece} {ps : List Piece} (h : p ∈ ps) :
    p.chars ⊆ [' '].intercalate (ps.map Piece.chars) := by
  induction ps with
  | nil => exact absurd h List.not_mem_nil
  | cons q ps ih =>
      cases ps with
      | nil =>
          obtain rfl := List.mem_singleton.mp h
          rw [List.map_singleton, List.intercalate_singleton]
          exact List.Subset.refl _
      | cons r ps =>
          rw [List.map_cons, List.map_cons, List.intercalate_cons_cons]
          rcases List.mem_cons.mp h with rfl | h
          · exact fun c hc => List.mem_append_left _ (List.mem_append_left _ hc)
          · exact fun c hc => List.mem_append_right _ (ih h hc)

/-- There are no more pieces than characters. -/
lemma length_le_length_intercalate (ps : List Piece) :
    ps.length ≤ ([' '].intercalate (ps.map Piece.chars)).length := by
  have some (p : Piece) : 0 < p.chars.length := by
    rw [Piece.chars, List.length_append]
    exact Nat.add_pos_left (List.length_pos_iff.mpr (decimalDigits_ne_nil _)) _
  induction ps with
  | nil => exact Nat.zero_le _
  | cons p ps ih =>
      cases ps with
      | nil =>
          rw [List.map_singleton, List.intercalate_singleton]
          exact some p
      | cons q ps =>
          rw [List.map_cons, List.map_cons, List.intercalate_cons_cons, List.length_append,
            List.length_append, List.length_cons]
          have := some p
          rw [List.map_cons] at ih
          omega

/-- The words of some span have a letter. -/
lemma exists_letter_words {d : ℕ} (some : d ≠ 0) :
    ∃ c ∈ (words d).toList, isUnitLetter c = true := by
  have any : counts (pieces d) ≠ [] := by
    intro none
    have sum := sum_span_counts (pieces d)
    rw [none, sum_span_pieces] at sum
    exact some sum.symm
  obtain ⟨p, hp⟩ := List.exists_mem_of_ne_nil _ any
  have read : p.IsRead := isRead_of_mem_pieces p (List.mem_of_mem_filter hp)
  obtain ⟨c, hc⟩ := List.exists_mem_of_ne_nil _ read.goesBy.named
  rw [words_eq some]
  exact ⟨c, chars_subset_intercalate hp (List.mem_append_right _ hc), 
    List.all_eq_true.mp read.goesBy.letters c hc⟩

/-- **A span is read back from its words.** -/
theorem ofWords_words {d : ℕ} (fits : d ≤ max) : ofWords (words d) = .ok d := by
  by_cases some : d = 0
  · subst some
    rfl
  obtain ⟨c, inside, letter⟩ := exists_letter_words some
  have notZero : words d ≠ "0" := by
    intro zero
    rw [zero] at inside
    obtain rfl := List.mem_singleton.mp inside
    exact absurd letter (by decide)
  have notBlank : (words d).toList.all isBlank = false := by
    refine List.all_eq_false.mpr ⟨c, inside, ?_⟩
    rw [(not_digit_of_isUnitLetter letter).2]
    exact Bool.false_ne_true
  have read : ∀ p ∈ counts (pieces d), p.IsRead := fun p hp =>
    isRead_of_mem_pieces p (List.mem_of_mem_filter hp)
  have sum : ((counts (pieces d)).map Piece.span).sum = d :=
    (sum_span_counts _).trans (sum_span_pieces d)
  have enough : (counts (pieces d)).length < (words d).length + 1 := by
    rw [← String.length_toList, words_eq some]
    exact Nat.lt_succ_of_le (length_le_length_intercalate _)
  rw [ofWords, if_neg notZero, notBlank, if_neg Bool.false_ne_true, words_eq some,
    parts_intercalate read (by rwa [Nat.zero_add, sum]) enough, sum, Nat.zero_add]

/-- **A span in a document is read back.** -/
theorem decode_toJson {d : ℕ} (fits : d ≤ max) : decode (toJson d) = .ok d := by
  simp only [decode, toJson, Decode.Document.string?, Json.string?, ofWords_words fits]

end ToolServer.Duration
