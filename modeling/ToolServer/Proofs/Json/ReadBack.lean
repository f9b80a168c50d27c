/-
JSON text is read back as the value that it was written for:

* `readString_escaped`: a string between quotes;
* `readNumber_decimalDigits`: a whole number;
* `IsWhole`, `depth`: values whose numbers are whole, and how deep their
  containers are nested;
* `Shallow`: such values within some depth, by the members of objects and the
  items of arrays;
* `readRaw_chars`: every such value, whatever follows its text, if its depth is
  within the bound;
* `readAsWritten_text`, `read_text`: a whole text, read as it stands or with the
  members of its objects sorted.
-/
import ToolServer.Json.Printer
import ToolServer.Json.Reader
import ToolServer.Proofs.Number.Layout
import ToolServer.Proofs.Text.Utf8

namespace ToolServer.Json

open ToolServer.Text (Bytes encode encodeChar encode_append encode_cons)

/-! ### Strings -/

/-- Whether a character of a string is written with a backslash. -/
def NeedsEscape (c : Char) : Prop :=
  c.toNat < 0x20 ∨ c = '"' ∨ c = '\\'

lemma escapeChar_of_not_needsEscape {c : Char} (h : ¬ NeedsEscape c) : escapeChar c = [c] := by
  have control : ∀ d : Char, d.toNat < 0x20 → c ≠ d := fun d hd eq => h (.inl (eq ▸ hd))
  have quote : c ≠ '"' := fun eq => h (.inr (.inl eq))
  have backslash : c ≠ '\\' := fun eq => h (.inr (.inr eq))
  have small : ¬ c.toNat < 0x20 := fun lt => h (.inl lt)
  simp [escapeChar, quote, backslash, control '\x08' (by decide), control '\x0c' (by decide),
    control '\n' (by decide), control '\r' (by decide), control '\t' (by decide), small]

/-- An escape is read as the character that it stands for. -/
lemma readEscape_escapeChar {c : Char} (h : NeedsEscape c) :
    ∃ cs, escapeChar c = '\\' :: cs ∧ ∀ rest, readEscape (encode cs ++ rest) = .ok (c, rest) := by
  have controls : ∀ n < 0x20, ∃ cs, escapeChar (Char.ofNat n) = '\\' :: cs ∧
      ∀ rest, readEscape (encode cs ++ rest) = .ok (Char.ofNat n, rest) := by
    intro n hn
    interval_cases n <;> exact ⟨_, rfl, fun rest => rfl⟩
  rcases h with small | rfl | rfl
  · have := controls c.toNat small
    rwa [Char.ofNat_toNat] at this
  · exact ⟨['"'], rfl, fun rest => rfl⟩
  · exact ⟨['\\'], rfl, fun rest => rfl⟩

/-- The bytes of characters from 128 on are all from 128 on. -/
lemma byte_ge_of_mem_encodeChar {c : Char} (h : 0x80 ≤ c.toNat) :
    ∀ b ∈ encodeChar c, 0x80 ≤ b.toNat := by
  have valid := Text.toNat_valid c
  intro b hb
  simp only [encodeChar] at hb
  generalize c.toNat = n at h valid hb
  have bytes : ∀ m, 0x80 ≤ m → m < 256 → m.toUInt8 = b → 0x80 ≤ b.toNat := by
    rintro m low high rfl
    rw [Text.toNat_byte high]
    exact low
  split_ifs at hb with one two three
  · omega
  · rcases List.mem_cons.mp hb with rfl | hb
    · exact bytes _ (by omega) (by omega) rfl
    · exact bytes _ (by omega) (by omega) (List.mem_singleton.mp hb).symm
  · simp only [List.mem_cons, List.not_mem_nil, or_false] at hb
    rcases hb with rfl | rfl | rfl <;> exact bytes _ (by omega) (by omega) rfl
  · simp only [List.mem_cons, List.not_mem_nil, or_false] at hb
    rcases hb with rfl | rfl | rfl | rfl <;> exact bytes _ (by omega) (by omega) rfl

lemma encodeChar_of_ascii {c : Char} (h : c.toNat < 0x80) : encodeChar c = [c.toNat.toUInt8] := by
  rw [encodeChar]
  exact if_pos h

/-- Whether a byte of a string is read as it is. -/
def IsPlain (b : UInt8) : Prop :=
  b ≠ 0x22 ∧ b ≠ 0x5C ∧ ¬ b < 0x20

/-- The bytes of a character that is written as it is are read as they are. -/
lemma isPlain_of_not_needsEscape {c : Char} (h : ¬ NeedsEscape c) :
    ∀ b ∈ encodeChar c, IsPlain b := by
  have plain : ∀ b : UInt8, 0x20 ≤ b.toNat → b.toNat ≠ 0x22 → b.toNat ≠ 0x5C → IsPlain b :=
    fun b low quote backslash => ⟨fun eq => quote (by rw [eq]; rfl),
      fun eq => backslash (by rw [eq]; rfl),
      fun lt => absurd (UInt8.lt_iff_toNat_lt.mp lt) (not_lt.mpr low)⟩
  intro b hb
  by_cases ascii : c.toNat < 0x80
  · rw [encodeChar_of_ascii ascii, List.mem_singleton] at hb
    have number : b.toNat = c.toNat := by rw [hb, Text.toNat_byte (by omega)]
    refine plain b ?_ ?_ ?_
    · rw [number]
      exact not_lt.mp fun lt => h (.inl lt)
    · rw [number]
      exact fun eq => h (.inr (.inl (Char.toNat_inj.mp eq)))
    · rw [number]
      exact fun eq => h (.inr (.inr (Char.toNat_inj.mp eq)))
  · have := byte_ge_of_mem_encodeChar (not_lt.mp ascii) b hb
    exact plain b (by omega) (by omega) (by omega)

lemma readStringFrom_plain {bytes : Bytes} (h : ∀ b ∈ bytes, IsPlain b)
    (fuel : ℕ) (done rest : Bytes) :
    readStringFrom (fuel + bytes.length) done (bytes ++ rest)
      = readStringFrom fuel (bytes.reverse ++ done) rest := by
  induction bytes generalizing done with
  | nil => rfl
  | cons b bytes ih =>
      obtain ⟨quote, backslash, control⟩ := h b List.mem_cons_self
      rw [List.length_cons, ← Nat.add_assoc, List.cons_append, readStringFrom]
      simp only [beq_iff_eq, quote, backslash, control, if_false]
      rw [ih fun x hx => h x (List.mem_cons_of_mem _ hx)]
      simp

/-- A string is read up to its closing quote. -/
lemma readStringFrom_escaped (cs : List Char) (fuel : ℕ) (done rest : Bytes) :
    readStringFrom (fuel + (encode (cs.flatMap escapeChar)).length + 1) done
        (encode (cs.flatMap escapeChar) ++ 0x22 :: rest)
      = .ok (done.reverse ++ encode cs, rest) := by
  induction cs generalizing fuel done with
  | nil => simp [readStringFrom]
  | cons c cs ih =>
      by_cases needs : NeedsEscape c
      · obtain ⟨xs, escape, read⟩ := readEscape_escapeChar needs
        have bytes : encode ((c :: cs).flatMap escapeChar)
            = 0x5C :: (encode xs ++ encode (cs.flatMap escapeChar)) := by
          rw [List.flatMap_cons, escape, encode_append, encode_cons]
          rfl
        rw [bytes, List.cons_append, List.append_assoc]
        have enough : fuel + (0x5C :: (encode xs ++ encode (cs.flatMap escapeChar))).length + 1
            = (fuel + (encode xs).length + (encode (cs.flatMap escapeChar)).length + 1) + 1 := by
          simp only [List.length_cons, List.length_append]
          omega
        rw [enough, readStringFrom]
        simp only [read]
        show readStringFrom _ _ _ = _
        rw [ih]
        simp [encode_cons]
      · have bytes : encode ((c :: cs).flatMap escapeChar)
            = encodeChar c ++ encode (cs.flatMap escapeChar) := by
          rw [List.flatMap_cons, escapeChar_of_not_needsEscape needs, encode_append, encode_cons,
            Text.encode_nil, List.append_nil]
        have enough : fuel + (encodeChar c ++ encode (cs.flatMap escapeChar)).length + 1
            = (fuel + (encode (cs.flatMap escapeChar)).length + 1) + (encodeChar c).length := by
          rw [List.length_append]
          omega
        rw [bytes, List.append_assoc, enough,
          readStringFrom_plain (isPlain_of_not_needsEscape needs), ih]
        simp [encode_cons]

/-- The bytes of a string behind its opening quote. -/
lemma encode_escaped (s : String) :
    encode (escaped s) = 0x22 :: (encode (s.toList.flatMap escapeChar) ++ [0x22]) := by
  rw [escaped, List.cons_append, encode_cons, encode_append]
  rfl

/-- **A string is read back.** -/
theorem readString_escaped (s : String) (rest : Bytes) :
    readString (encode (s.toList.flatMap escapeChar) ++ 0x22 :: rest) = .ok (s, rest) := by
  have enough : (encode (s.toList.flatMap escapeChar) ++ 0x22 :: rest).length + 1
      = rest.length + 1 + (encode (s.toList.flatMap escapeChar)).length + 1 := by
    rw [List.length_append, List.length_cons]
    omega
  have text : Text.stringOf? (encode s.toList) = some s := Text.stringOf?_bytesOf s
  rw [readString, enough, readStringFrom_escaped, List.reverse_nil, List.nil_append]
  simp only [bind, Except.bind, text]

/-! ### Numbers -/

/-- The byte of a digit is a digit of the same value. -/
lemma digit_byte {c : Char} (h : c.isDigit = true) :
    ∃ b, encodeChar c = [b] ∧ isDigit b = true ∧ digitValue b = c.toNat - 48 := by
  have bounds := toNat_of_isDigit h
  have number := Text.toNat_byte (n := c.toNat) (by omega)
  refine ⟨_, encodeChar_of_ascii (by omega), ?_, ?_⟩
  · exact Text.within_iff.mpr ⟨number.symm ▸ bounds.1, number.symm ▸ bounds.2⟩
  · rw [digitValue, number]

lemma isDigit_of_mem_encode {ds : List Char} (h : AllDigits ds) :
    ∀ b ∈ encode ds, isDigit b = true := by
  induction ds with
  | nil => simp
  | cons c ds ih =>
      obtain ⟨x, bytes, digit, -⟩ := digit_byte (h c List.mem_cons_self)
      intro b hb
      rw [encode_cons, bytes, List.singleton_append, List.mem_cons] at hb
      exact hb.elim (fun eq => eq ▸ digit) (ih (h.of_subset (List.subset_cons_self c ds)) b)

/-- Whether a number ends before these bytes. -/
def EndsNumber (rest : Bytes) : Prop :=
  ∀ b ∈ rest.head?, isDigit b = false ∧ b ≠ 0x2E ∧ b ≠ 0x65 ∧ b ≠ 0x45

/-- Digits are read up to their end. -/
lemma span_digits {ds : List Char} (h : AllDigits ds) {rest : Bytes} (ends : EndsNumber rest) :
    (encode ds ++ rest).takeWhile isDigit = encode ds ∧
      (encode ds ++ rest).dropWhile isDigit = rest := by
  have digits := isDigit_of_mem_encode h
  rw [List.takeWhile_append_of_pos digits, List.dropWhile_append_of_pos digits]
  cases rest with
  | nil => simp
  | cons b rest =>
      have other : isDigit b = false := (ends b rfl).1
      simp [other]

/-- Digits that spell a number of 64 bits are all taken in. -/
lemma foldl_pushInteger {ds : List Char} (h : AllDigits ds) (value : ℕ)
    (fits : Nat.ofDigitChars 10 ds value < 0x10000000000000000) :
    (encode ds).foldl Significand.pushInteger ⟨value, 0, true⟩
      = ⟨Nat.ofDigitChars 10 ds value, 0, true⟩ := by
  induction ds generalizing value with
  | nil => rfl
  | cons c ds ih =>
      obtain ⟨b, bytes, -, digit⟩ := digit_byte (h c List.mem_cons_self)
      have next : value * 10 + digitValue b = 10 * value + (c.toNat - '0'.toNat) := by
        rw [digit, Nat.mul_comm]
        rfl
      rw [Nat.ofDigitChars_cons] at fits ⊢
      -- the digits so far spell no more than all of them
      have less : 10 * value + (c.toNat - '0'.toNat)
          ≤ Nat.ofDigitChars 10 ds (10 * value + (c.toNat - '0'.toNat)) := by
        rw [Nat.ofDigitChars_eq_ofDigitChars_zero]
        exact (Nat.le_mul_of_pos_left _ (by positivity)).trans (Nat.le_add_right _ _)
      have sofar : value * 10 + digitValue b < 0x10000000000000000 := by
        calc value * 10 + digitValue b = 10 * value + (c.toNat - '0'.toNat) := next
          _ ≤ Nat.ofDigitChars 10 ds (10 * value + (c.toNat - '0'.toNat)) := less
          _ < 0x10000000000000000 := fits
      rw [encode_cons, bytes, List.singleton_append, List.foldl_cons, Significand.pushInteger]
      simp only [Bool.true_and, decide_eq_true_iff, sofar, if_true]
      rw [next]
      exact ih (h.of_subset (List.subset_cons_self c ds)) _ fits

/-- Only zero begins with the digit zero. -/
lemma head_decimalDigits {n : ℕ} (pos : 0 < n) {c : Char} {cs : List Char}
    (digits : decimalDigits n = c :: cs) : c ≠ '0' := by
  rintro rfl
  have length : decimalLength n = cs.length + 1 := by
    rw [decimalLength, ← decimalDigits, digits, List.length_cons]
  have value : digitsValue cs = n := by
    rw [← digitsValue_zeros_append 1 cs, ← digitsValue_decimalDigits n, digits]
    rfl
  have few : digitsValue cs < 10 ^ cs.length :=
    digitsValue_lt ((allDigits_decimalDigits n).of_subset (by simp [digits]))
  have many := pow_decimalLength_le pos
  rw [length, Nat.add_sub_cancel] at many
  omega

lemma readAfterInteger_end (negative : Bool) (value : ℕ) {rest : Bytes}
    (ends : EndsNumber rest) :
    readAfterInteger negative ⟨value, 0, true⟩ rest = .ok (wholeNumber negative value, rest) := by
  cases rest with
  | nil => rfl
  | cons b rest =>
      obtain ⟨-, point, small, large⟩ := ends b rfl
      rw [readAfterInteger]
      · simp [small, large]
      · intro rest' eq
        exact point (List.cons.inj eq).1

/-- **A whole number is read back**, up to what cannot belong to it. -/
theorem readNumber_decimalDigits (negative : Bool) {n : ℕ} (fits : n < 2 ^ 64) {rest : Bytes}
    (ends : EndsNumber rest) :
    readNumber negative (encode (decimalDigits n) ++ rest) = .ok (wholeNumber negative n, rest) := by
  have digits := allDigits_decimalDigits n
  obtain ⟨c, cs, spelled⟩ := List.exists_cons_of_ne_nil (decimalDigits_ne_nil n)
  obtain ⟨b, bytes, digit, value⟩ := digit_byte (digits c (by simp [spelled]))
  have input : encode (decimalDigits n) ++ rest = b :: (encode cs ++ rest) := by
    rw [spelled, encode_cons, bytes]
    rfl
  by_cases zero : n = 0
  · subst zero
    have none : rest.head?.any isDigit = false := by
      cases rest with
      | nil => rfl
      | cons x rest => exact (ends x rfl).1
    show readNumber negative (0x30 :: rest) = _
    rw [readNumber]
    simp only [none, beq_self_eq_true, if_true]
    exact readAfterInteger_end negative 0 ends
  · have first : ¬ b = 0x30 := by
      rintro rfl
      refine head_decimalDigits (Nat.pos_of_ne_zero zero) spelled (Char.toNat_inj.mp ?_)
      have := toNat_of_isDigit (digits c (by simp [spelled]))
      change 0 = c.toNat - 48 at value
      show c.toNat = 48
      omega
    obtain ⟨before, after⟩ := span_digits digits ends
    rw [input] at before after ⊢
    rw [readNumber]
    simp only [beq_iff_eq, first, digit, if_true, if_false, before, after]
    have whole := Nat.ofDigitChars_ten_toDigits (n := n)
    rw [foldl_pushInteger digits 0 (by rw [decimalDigits, whole]; exact fits), decimalDigits, whole]
    exact readAfterInteger_end negative n ends

lemma wholeNumber_natural (n : UInt64) : wholeNumber false n.toNat = .natural n := by
  rw [wholeNumber]
  simp

lemma wholeNumber_negative (n : Fin 0x8000000000000000) :
    wholeNumber true (n.val + 1) = .negative n := by
  have bound : 0 < n.val + 1 ∧ n.val + 1 ≤ 0x8000000000000000 := ⟨Nat.succ_pos _, n.isLt⟩
  simp only [wholeNumber, if_true, dif_pos bound]
  rfl

/-! ### Values -/

mutual

/-- Whether all numbers of a value are whole. -/
def IsWhole : Json → Prop
  | .number n => n.toInt?.isSome = true
  | .array items => AreWhole items
  | .object members => HaveWhole members
  | .null | .bool _ | .string _ => True

/-- Whether all numbers of some values are whole. -/
def AreWhole : List Json → Prop
  | [] => True
  | v :: rest => v.IsWhole ∧ AreWhole rest

/-- Whether all numbers of the values of some members are whole. -/
def HaveWhole : List (String × Json) → Prop
  | [] => True
  | (_, v) :: rest => v.IsWhole ∧ HaveWhole rest

end

mutual

/-- How deep the containers of a value are nested. -/
def depth : Json → ℕ
  | .array items => depthOfItems items + 1
  | .object members => depthOfMembers members + 1
  | .null | .bool _ | .number _ | .string _ => 0

/-- How deep the containers of some values are nested. -/
def depthOfItems : List Json → ℕ
  | [] => 0
  | v :: rest => max v.depth (depthOfItems rest)

/-- How deep the containers of the values of some members are nested. -/
def depthOfMembers : List (String × Json) → ℕ
  | [] => 0
  | (_, v) :: rest => max v.depth (depthOfMembers rest)

end

lemma areWhole_iff {vs : List Json} : AreWhole vs ↔ ∀ v ∈ vs, v.IsWhole := by
  induction vs with
  | nil => simp [AreWhole]
  | cons v vs ih => simp [AreWhole, ih]

lemma haveWhole_iff {ms : List (String × Json)} : HaveWhole ms ↔ ∀ m ∈ ms, m.2.IsWhole := by
  induction ms with
  | nil => simp [HaveWhole]
  | cons m ms ih => simp [HaveWhole, ih]

lemma depthOfItems_le_iff {vs : List Json} {n : ℕ} :
    depthOfItems vs ≤ n ↔ ∀ v ∈ vs, v.depth ≤ n := by
  induction vs with
  | nil => simp [depthOfItems]
  | cons v vs ih => simp [depthOfItems, ih]

lemma depthOfMembers_le_iff {ms : List (String × Json)} {n : ℕ} :
    depthOfMembers ms ≤ n ↔ ∀ m ∈ ms, m.2.depth ≤ n := by
  induction ms with
  | nil => simp [depthOfMembers]
  | cons m ms ih => simp [depthOfMembers, ih]

/-- Whether all numbers of a value are whole and its containers are nested no deeper
than some levels. -/
def Shallow (levels : ℕ) (v : Json) : Prop :=
  v.IsWhole ∧ v.depth ≤ levels

lemma Shallow.mono {m n : ℕ} (le : m ≤ n) {v : Json} (h : v.Shallow m) : v.Shallow n :=
  ⟨h.1, h.2.trans le⟩

@[simp] lemma shallow_bool (n : ℕ) (b : Bool) : (bool b).Shallow n := ⟨trivial, Nat.zero_le n⟩

@[simp] lemma shallow_string (n : ℕ) (s : String) : (string s).Shallow n :=
  ⟨trivial, Nat.zero_le n⟩

@[simp] lemma shallow_ofNat (n k : ℕ) : (ofNat k).Shallow n := ⟨rfl, Nat.zero_le n⟩

@[simp] lemma shallow_array_iff {vs : List Json} {n : ℕ} :
    (array vs).Shallow (n + 1) ↔ ∀ v ∈ vs, v.Shallow n := by
  rw [Shallow, IsWhole, depth, areWhole_iff, Nat.add_le_add_iff_right, depthOfItems_le_iff]
  exact forall₂_and.symm

@[simp] lemma shallow_object_iff {ms : List (String × Json)} {n : ℕ} :
    (object ms).Shallow (n + 1) ↔ ∀ m ∈ ms, m.2.Shallow n := by
  rw [Shallow, IsWhole, depth, haveWhole_iff, Nat.add_le_add_iff_right, depthOfMembers_le_iff]
  exact forall₂_and.symm

lemma Number.chars_eq_cons (n : Number) :
    ∃ c cs, n.chars = c :: cs ∧ (c.isDigit = true ∨ c = '-') := by
  have digits : ∀ k, ∃ c cs, decimalDigits k = c :: cs ∧ (c.isDigit = true ∨ c = '-') := fun k => by
    obtain ⟨c, cs, spelled⟩ := List.exists_cons_of_ne_nil (decimalDigits_ne_nil k)
    exact ⟨c, cs, spelled, .inl (allDigits_decimalDigits k c (by simp [spelled]))⟩
  cases n with
  | natural n => exact digits n.toNat
  | negative n => exact ⟨'-', _, rfl, .inr rfl⟩
  | float x =>
      obtain ⟨c, cs, unsigned, hc⟩ := Layout.unsigned_eq_cons (l := layout) rfl x
      cases negative : x.isNegative with
      | true => exact ⟨'-', layout.unsigned x, by rw [chars, Layout.render_eq, negative]; rfl, .inr rfl⟩
      | false =>
          refine ⟨c, cs, ?_, .inl hc⟩
          rw [chars, Layout.render_eq, negative, unsigned]
          rfl

/-- A digit is none of the other bytes that a value may begin or end with. -/
lemma ne_of_isDigit {b c : UInt8} (h : isDigit b = true) (hc : isDigit c = false) : b ≠ c := by
  rintro rfl
  rw [h] at hc
  exact Bool.noConfusion hc

lemma isBlankByte_of_isDigit {b : UInt8} (h : isDigit b = true) : isBlankByte b = false := by
  simp only [isBlankByte, Bool.or_eq_false_iff, beq_eq_false_iff_ne]
  exact ⟨⟨⟨ne_of_isDigit h rfl, ne_of_isDigit h rfl⟩, ne_of_isDigit h rfl⟩, ne_of_isDigit h rfl⟩

/-- The first byte of a value is neither a blank nor a closing bracket. -/
lemma encode_chars_eq_cons (v : Json) :
    ∃ b bs, encode v.chars = b :: bs ∧ isBlankByte b = false ∧ b ≠ 0x5D := by
  cases v with
  | null => exact ⟨_, _, rfl, rfl, by decide⟩
  | bool b => cases b <;> exact ⟨_, _, rfl, rfl, by decide⟩
  | string s => exact ⟨0x22, _, encode_escaped s, rfl, by decide⟩
  | array items => cases items <;> exact ⟨0x5B, _, rfl, rfl, by decide⟩
  | object members =>
      cases members with
      | nil => exact ⟨0x7B, _, rfl, rfl, by decide⟩
      | cons m rest => exact ⟨0x7B, _, rfl, rfl, by decide⟩
  | number n =>
      obtain ⟨c, cs, spelled, digit | rfl⟩ := n.chars_eq_cons
      · obtain ⟨b, bytes, hb, -⟩ := digit_byte digit
        refine ⟨b, encode cs, ?_, isBlankByte_of_isDigit hb, ne_of_isDigit hb rfl⟩
        rw [chars, spelled, encode_cons, bytes]
        rfl
      · exact ⟨0x2D, encode cs, by rw [chars, spelled, encode_cons]; rfl, rfl, by decide⟩

lemma skipBlanks_of_not_blank {b : UInt8} {bs : Bytes} (h : isBlankByte b = false) :
    skipBlanks (b :: bs) = b :: bs :=
  List.dropWhile_cons_of_neg (by simp [h])

/-! What the first byte of a value says. -/

lemma readRaw_digit {b : UInt8} (h : isDigit b = true) (levels : ℕ) (bs : Bytes) :
    readRaw levels (b :: bs)
      = (readNumber false (b :: bs)).map fun r => (.number r.1, r.2) := by
  have other : ∀ c, isDigit c = false → (b == c) = false := fun c hc =>
    beq_eq_false_iff_ne.mpr (ne_of_isDigit h hc)
  cases levels <;>
    simp [readRaw, skipBlanks_of_not_blank (isBlankByte_of_isDigit h), h, other 0x6E rfl,
      other 0x74 rfl, other 0x66 rfl, other 0x2D rfl]

lemma readRaw_minus (levels : ℕ) (bs : Bytes) :
    readRaw levels (0x2D :: bs) = (readNumber true bs).map fun r => (.number r.1, r.2) := by
  cases levels <;> rfl

lemma readRaw_quote (levels : ℕ) (bs : Bytes) :
    readRaw levels (0x22 :: bs) = (readString bs).map fun r => (.string r.1, r.2) := by
  cases levels <;> rfl

lemma readRaw_bracket (levels : ℕ) (bs : Bytes) :
    readRaw (levels + 1) (0x5B :: bs) = readItems (readRaw levels) (bs.length + 1) [] bs :=
  rfl

lemma readRaw_brace (levels : ℕ) (bs : Bytes) :
    readRaw (levels + 1) (0x7B :: bs)
      = (readMembers (readRaw levels) (bs.length + 1) [] bs).map fun r => (.object r.1, r.2) :=
  rfl

lemma readRaw_number (levels : ℕ) {n : Number} (whole : n.toInt?.isSome = true) {rest : Bytes}
    (ends : EndsNumber rest) :
    readRaw levels (encode n.chars ++ rest) = .ok (.number n, rest) := by
  cases n with
  | natural n =>
      have read := readNumber_decimalDigits false n.toNat_lt ends
      obtain ⟨c, cs, spelled⟩ := List.exists_cons_of_ne_nil (decimalDigits_ne_nil n.toNat)
      obtain ⟨b, bytes, digit, -⟩ :=
        digit_byte (allDigits_decimalDigits n.toNat c (by simp [spelled]))
      rw [wholeNumber_natural] at read
      rw [Number.chars]
      rw [spelled, encode_cons, bytes, List.append_assoc, List.singleton_append] at read ⊢
      rw [readRaw_digit digit, read]
      rfl
  | negative n =>
      have fits : n.val + 1 < 2 ^ 64 := by omega
      rw [Number.chars, encode_cons, List.append_assoc]
      show readRaw levels (0x2D :: (encode (decimalDigits (n.val + 1)) ++ rest)) = _
      rw [readRaw_minus, readNumber_decimalDigits true fits ends, wholeNumber_negative]
      rfl
  | float x => simp [Number.toInt?] at whole

/-! Steps from one item or member to the next. -/

variable {item : Bytes → Except Stop (Json × Bytes)}

lemma readItems_first (fuel : ℕ) (v : Json) (bs rest : Bytes)
    (read : item (encode v.chars ++ bs) = .ok (v, rest)) :
    readItems item (fuel + 1) [] (encode v.chars ++ bs) = readItems item fuel [v] rest := by
  obtain ⟨b, cs, bytes, blank, bracket⟩ := encode_chars_eq_cons v
  rw [bytes, List.cons_append] at read ⊢
  rw [readItems, skipBlanks_of_not_blank blank]
  simp only [beq_iff_eq, bracket, if_false, List.isEmpty_nil, if_true, read]
  rfl

lemma readItems_next (fuel : ℕ) {done : List Json} (some : done ≠ []) (v : Json) (bs rest : Bytes)
    (read : item (encode v.chars ++ bs) = .ok (v, rest)) :
    readItems item (fuel + 1) done (0x2C :: (encode v.chars ++ bs))
      = readItems item fuel (v :: done) rest := by
  obtain ⟨b, cs, bytes, blank, bracket⟩ := encode_chars_eq_cons v
  rw [bytes, List.cons_append] at read ⊢
  have comma : isBlankByte 0x2C = false := rfl
  have notBracket : (0x2C : UInt8) ≠ 0x5D := by decide
  rw [readItems, skipBlanks_of_not_blank comma]
  simp only [beq_iff_eq, notBracket, if_false, List.isEmpty_iff, some, if_true,
    skipBlanks_of_not_blank blank, bracket, read]
  rfl

lemma readMember_escaped (key : String) (v : Json) (bs rest : Bytes)
    (read : item (encode v.chars ++ bs) = .ok (v, rest)) :
    readMember item (encode (key.toList.flatMap escapeChar) ++ 0x22 :: 0x3A
      :: (encode v.chars ++ bs)) = .ok ((key, v), rest) := by
  have colon : isBlankByte 0x3A = false := rfl
  rw [readMember, readString_escaped]
  simp only [bind, Except.bind, skipBlanks_of_not_blank colon, beq_self_eq_true, if_true, read]
  rfl

lemma readMembers_first (fuel : ℕ) (key : String) (v : Json) (bs rest : Bytes)
    (read : item (encode v.chars ++ bs) = .ok (v, rest)) :
    readMembers item (fuel + 1) [] (encode (escaped key) ++ 0x3A :: (encode v.chars ++ bs))
      = readMembers item fuel [(key, v)] rest := by
  have quote : isBlankByte 0x22 = false := rfl
  have notBrace : (0x22 : UInt8) ≠ 0x7D := by decide
  rw [encode_escaped, List.cons_append, List.append_assoc, List.singleton_append, readMembers,
    skipBlanks_of_not_blank quote]
  simp only [beq_iff_eq, notBrace, if_false, List.isEmpty_nil, if_true,
    readMember_escaped key v bs rest read]
  rfl

lemma readMembers_next (fuel : ℕ) {done : List (String × Json)} (some : done ≠ []) (key : String)
    (v : Json) (bs rest : Bytes) (read : item (encode v.chars ++ bs) = .ok (v, rest)) :
    readMembers item (fuel + 1) done
        (0x2C :: (encode (escaped key) ++ 0x3A :: (encode v.chars ++ bs)))
      = readMembers item fuel ((key, v) :: done) rest := by
  have comma : isBlankByte 0x2C = false := rfl
  have quote : isBlankByte 0x22 = false := rfl
  have notBrace : (0x2C : UInt8) ≠ 0x7D := by decide
  rw [encode_escaped, List.cons_append, List.append_assoc, List.singleton_append, readMembers,
    skipBlanks_of_not_blank comma]
  simp only [beq_iff_eq, notBrace, if_false, List.isEmpty_iff, some, if_true,
    skipBlanks_of_not_blank quote, readMember_escaped key v bs rest read]
  rfl

/-- What follows an item or a member ends a number. -/
lemma endsNumber_moreItems (vs : List Json) (rest : Bytes) :
    EndsNumber (encode (moreItems vs) ++ rest) := by
  intro b hb
  cases vs <;>
    · obtain rfl := Option.some.inj hb
      decide

lemma endsNumber_moreMembers (ms : List (String × Json)) (rest : Bytes) :
    EndsNumber (encode (moreMembers ms) ++ rest) := by
  intro b hb
  cases ms <;>
    · obtain rfl := Option.some.inj hb
      decide

lemma length_lt_moreItems (vs : List Json) : vs.length < (encode (moreItems vs)).length := by
  induction vs with
  | nil => decide
  | cons v vs ih =>
      rw [moreItems, List.cons_append, encode_cons, encode_append]
      show _ < ([0x2C] ++ _).length
      simp only [List.length_append, List.length_cons]
      omega

lemma length_lt_moreMembers (ms : List (String × Json)) :
    ms.length < (encode (moreMembers ms)).length := by
  induction ms with
  | nil => decide
  | cons m ms ih =>
      obtain ⟨key, v⟩ := m
      rw [moreMembers, encode_append]
      simp only [List.cons_append, encode_cons, List.length_append, List.length_cons]
      show _ < ([0x2C] : Bytes).length + _ + _
      simp only [List.length_cons]
      omega

mutual

/-- **A value is read back**, whatever follows its text. -/
theorem readRaw_chars : ∀ (v : Json) (levels : ℕ) (rest : Bytes), v.IsWhole → v.depth ≤ levels →
    EndsNumber rest → readRaw levels (encode v.chars ++ rest) = .ok (v, rest)
  | .null, levels, rest, _, _, _ => by cases levels <;> rfl
  | .bool true, levels, rest, _, _, _ => by cases levels <;> rfl
  | .bool false, levels, rest, _, _, _ => by cases levels <;> rfl
  | .number n, levels, rest, whole, _, ends => readRaw_number levels whole ends
  | .string s, levels, rest, _, _, _ => by
      rw [chars, encode_escaped, List.cons_append, List.append_assoc, readRaw_quote]
      show (readString (_ ++ 0x22 :: rest)).map _ = _
      rw [readString_escaped]
      rfl
  | .array [], levels + 1, rest, _, _, _ => rfl
  | .array (v :: vs), levels + 1, rest, whole, deep, _ => by
      have deep : max v.depth (depthOfItems vs) ≤ levels := Nat.le_of_succ_le_succ deep
      have first := readRaw_chars v levels (encode (moreItems vs) ++ rest) whole.1
        ((le_max_left _ _).trans deep) (endsNumber_moreItems vs rest)
      have enough := length_lt_moreItems vs
      have text : encode (chars (.array (v :: vs))) ++ rest
          = 0x5B :: (encode v.chars ++ (encode (moreItems vs) ++ rest)) := by
        simp only [chars, List.cons_append, encode_cons, encode_append, List.append_assoc]
        rfl
      rw [text, readRaw_bracket, readItems_first _ v _ _ first]
      refine readItems_moreItems vs levels _ [v] rest whole.2 ((le_max_right _ _).trans deep)
        (List.cons_ne_nil _ _) ?_
      simp only [List.length_append]
      omega
  | .object [], levels + 1, rest, _, _, _ => rfl
  | .object ((key, v) :: ms), levels + 1, rest, whole, deep, _ => by
      have deep : max v.depth (depthOfMembers ms) ≤ levels := Nat.le_of_succ_le_succ deep
      have first := readRaw_chars v levels (encode (moreMembers ms) ++ rest) whole.1
        ((le_max_left _ _).trans deep) (endsNumber_moreMembers ms rest)
      have enough := length_lt_moreMembers ms
      have text : encode (chars (.object ((key, v) :: ms))) ++ rest = 0x7B ::
          (encode (escaped key) ++ 0x3A :: (encode v.chars ++ (encode (moreMembers ms) ++ rest))) := by
        simp only [chars, List.cons_append, encode_cons, encode_append, List.append_assoc]
        rfl
      rw [text, readRaw_brace, readMembers_first _ key v _ _ first,
        readMembers_moreMembers ms levels _ [(key, v)] rest whole.2
          ((le_max_right _ _).trans deep) (List.cons_ne_nil _ _) ?_]
      · rfl
      · simp only [List.length_append, List.length_cons]
        omega

/-- The items behind some others are read back. -/
theorem readItems_moreItems : ∀ (vs : List Json) (levels fuel : ℕ) (done : List Json)
    (rest : Bytes), AreWhole vs → depthOfItems vs ≤ levels → done ≠ [] → vs.length < fuel →
    readItems (readRaw levels) fuel done (encode (moreItems vs) ++ rest)
      = .ok (.array (done.reverse ++ vs), rest)
  | [], levels, fuel + 1, done, rest, _, _, _, _ => by
      rw [List.append_nil]
      rfl
  | v :: vs, levels, fuel + 1, done, rest, whole, deep, others, enough => by
      have first := readRaw_chars v levels (encode (moreItems vs) ++ rest) whole.1
        ((le_max_left _ _).trans deep) (endsNumber_moreItems vs rest)
      have text : encode (moreItems (v :: vs)) ++ rest
          = 0x2C :: (encode v.chars ++ (encode (moreItems vs) ++ rest)) := by
        simp only [moreItems, List.cons_append, encode_cons, encode_append, List.append_assoc]
        rfl
      rw [text, readItems_next _ others v _ _ first,
        readItems_moreItems vs levels fuel (v :: done) rest whole.2
          ((le_max_right _ _).trans deep) (List.cons_ne_nil _ _) (Nat.lt_of_succ_lt_succ enough),
        List.reverse_cons, List.append_assoc]
      rfl

/-- The members behind some others are read back. -/
theorem readMembers_moreMembers : ∀ (ms : List (String × Json)) (levels fuel : ℕ)
    (done : List (String × Json)) (rest : Bytes), HaveWhole ms → depthOfMembers ms ≤ levels →
    done ≠ [] → ms.length < fuel →
    readMembers (readRaw levels) fuel done (encode (moreMembers ms) ++ rest)
      = .ok (done.reverse ++ ms, rest)
  | [], levels, fuel + 1, done, rest, _, _, _, _ => by
      rw [List.append_nil]
      rfl
  | (key, v) :: ms, levels, fuel + 1, done, rest, whole, deep, others, enough => by
      have first := readRaw_chars v levels (encode (moreMembers ms) ++ rest) whole.1
        ((le_max_left _ _).trans deep) (endsNumber_moreMembers ms rest)
      have text : encode (moreMembers ((key, v) :: ms)) ++ rest = 0x2C ::
          (encode (escaped key) ++ 0x3A :: (encode v.chars ++ (encode (moreMembers ms) ++ rest))) := by
        simp only [moreMembers, List.cons_append, encode_cons, encode_append, List.append_assoc]
        rfl
      rw [text, readMembers_next _ others key v _ _ first,
        readMembers_moreMembers ms levels fuel ((key, v) :: done) rest whole.2
          ((le_max_right _ _).trans deep) (List.cons_ne_nil _ _) (Nat.lt_of_succ_lt_succ enough),
        List.reverse_cons, List.append_assoc]
      rfl

end

/-- **A whole text is read back.** -/
theorem readAsWritten_text {v : Json} (whole : v.IsWhole) (deep : v.depth ≤ maxNesting) :
    readAsWritten (Text.bytesOf v.text) = .ok v := by
  have bytes : Text.bytesOf v.text = encode v.chars := by
    rw [text, Text.bytesOf, String.toList_ofList]
  have raw := readRaw_chars v maxNesting [] whole deep (by simp [EndsNumber])
  rw [List.append_nil] at raw
  rw [readAsWritten, bytes, raw]
  rfl

/-- A whole text is read back with the members of its objects sorted. -/
theorem read_text {v : Json} (whole : v.IsWhole) (deep : v.depth ≤ maxNesting) :
    read (Text.bytesOf v.text) = .ok v.canonical := by
  rw [read, readAsWritten_text whole deep]
  rfl

end ToolServer.Json
