/-
Text as bytes and back:

* `nextChar_encodeChar`: the bytes of a character are read as that character,
  whatever follows;
* `decode?_encode`, `stringOf?_bytesOf`: the bytes of a text are read as that
  text;
* `encode_injective`: different texts have different bytes;
* `encodeChar_append_lt`, `bytesOf_lt_bytesOf_iff`: characters and texts are in the order of
  their bytes.
-/
import Mathlib.Data.String.Basic
import Mathlib.Tactic
import ToolServer.Text.Utf8

namespace ToolServer.Text

/-! ### Bytes -/

lemma toNat_byte {n : ℕ} (h : n < 256) : n.toUInt8.toNat = n := by
  rw [UInt8.toNat_ofNat', Nat.mod_eq_of_lt h]

lemma within_iff {a low high : UInt8} :
    (low ≤ a && a ≤ high) = true ↔ low.toNat ≤ a.toNat ∧ a.toNat ≤ high.toNat := by
  rw [Bool.and_eq_true, decide_eq_true_iff, decide_eq_true_iff, UInt8.le_iff_toNat_le,
    UInt8.le_iff_toNat_le]

lemma isTail_iff {b : UInt8} : isTail b = true ↔ 0x80 ≤ b.toNat ∧ b.toNat ≤ 0xBF :=
  within_iff

lemma beq_byte_iff {a b : UInt8} : (a == b) = true ↔ a.toNat = b.toNat := by
  rw [beq_iff_eq, UInt8.toNat_inj]

lemma tailBits_eq (b : UInt8) : tailBits b = b.toNat - 0x80 := rfl

lemma fitsThree_of_tail {a b : UInt8} (low : 0x80 ≤ b.toNat) (high : b.toNat ≤ 0xBF)
    (first : a.toNat = 0xE0 → 0xA0 ≤ b.toNat) (surrogate : a.toNat = 0xED → b.toNat ≤ 0x9F) :
    fitsThree a b = true := by
  rw [fitsThree]
  split_ifs with h1 h2
  · exact within_iff.mpr ⟨first (beq_byte_iff.mp h1), high⟩
  · exact within_iff.mpr ⟨low, surrogate (beq_byte_iff.mp h2)⟩
  · exact isTail_iff.mpr ⟨low, high⟩

lemma fitsFour_of_tail {a b : UInt8} (low : 0x80 ≤ b.toNat) (high : b.toNat ≤ 0xBF)
    (first : a.toNat = 0xF0 → 0x90 ≤ b.toNat) (last : a.toNat = 0xF4 → b.toNat ≤ 0x8F) :
    fitsFour a b = true := by
  rw [fitsFour]
  split_ifs with h1 h2
  · exact within_iff.mpr ⟨first (beq_byte_iff.mp h1), high⟩
  · exact within_iff.mpr ⟨low, last (beq_byte_iff.mp h2)⟩
  · exact isTail_iff.mpr ⟨low, high⟩

/-! ### Characters of one to four bytes -/

lemma nextChar_one {a : UInt8} {n : ℕ} (rest : Bytes) (high : n < 0x80) (ha : a.toNat = n) :
    nextChar a rest = .ok (Char.ofNat n, rest) := by
  have one : a < 0x80 := UInt8.lt_iff_toNat_lt.mpr (ha ▸ high)
  rw [nextChar.eq_def, if_pos one, ha]

lemma nextChar_two {a b : UInt8} {n : ℕ} (rest : Bytes) (low : 0x80 ≤ n) (high : n < 0x800)
    (ha : a.toNat = 0xC0 + n / 0x40) (hb : b.toNat = 0x80 + n % 0x40) :
    nextChar a (b :: rest) = .ok (Char.ofNat n, rest) := by
  have one : ¬ a < 0x80 := fun lt => by
    have : a.toNat < 0x80 := UInt8.lt_iff_toNat_lt.mp lt
    omega
  have two : (0xC2 ≤ a && a ≤ 0xDF) = true :=
    within_iff.mpr ⟨show 0xC2 ≤ a.toNat by omega, show a.toNat ≤ 0xDF by omega⟩
  have number : (a.toNat - 0xC0) * 0x40 + tailBits b = n := by
    have last := tailBits_eq b
    omega
  rw [nextChar.eq_def, if_neg one, if_pos two]
  simp only [isTail_iff.mpr (show 0x80 ≤ b.toNat ∧ b.toNat ≤ 0xBF by omega), if_true, number]

lemma nextChar_three {a b c : UInt8} {n : ℕ} (rest : Bytes) (low : 0x800 ≤ n)
    (high : n < 0x10000) (valid : n < 0xD800 ∨ 0xDFFF < n) (ha : a.toNat = 0xE0 + n / 0x1000)
    (hb : b.toNat = 0x80 + n / 0x40 % 0x40) (hc : c.toNat = 0x80 + n % 0x40) :
    nextChar a (b :: c :: rest) = .ok (Char.ofNat n, rest) := by
  have one : ¬ a < 0x80 := fun lt => by
    have : a.toNat < 0x80 := UInt8.lt_iff_toNat_lt.mp lt
    omega
  have two : ¬ (0xC2 ≤ a && a ≤ 0xDF) = true := fun within => by
    have : a.toNat ≤ 0xDF := (within_iff.mp within).2
    omega
  have three : (0xE0 ≤ a && a ≤ 0xEF) = true :=
    within_iff.mpr ⟨show 0xE0 ≤ a.toNat by omega, show a.toNat ≤ 0xEF by omega⟩
  have fits : fitsThree a b = true :=
    fitsThree_of_tail (by omega) (by omega) (by omega) (by omega)
  have number : (a.toNat - 0xE0) * 0x1000 + tailBits b * 0x40 + tailBits c = n := by
    have second := tailBits_eq b
    have third := tailBits_eq c
    omega
  rw [nextChar.eq_def, if_neg one, if_neg two, if_pos three]
  simp only [fits, isTail_iff.mpr (show 0x80 ≤ c.toNat ∧ c.toNat ≤ 0xBF by omega), if_true, number]

lemma nextChar_four {a b c d : UInt8} {n : ℕ} (rest : Bytes) (low : 0x10000 ≤ n)
    (high : n < 0x110000) (ha : a.toNat = 0xF0 + n / 0x40000)
    (hb : b.toNat = 0x80 + n / 0x1000 % 0x40) (hc : c.toNat = 0x80 + n / 0x40 % 0x40)
    (hd : d.toNat = 0x80 + n % 0x40) :
    nextChar a (b :: c :: d :: rest) = .ok (Char.ofNat n, rest) := by
  have one : ¬ a < 0x80 := fun lt => by
    have : a.toNat < 0x80 := UInt8.lt_iff_toNat_lt.mp lt
    omega
  have two : ¬ (0xC2 ≤ a && a ≤ 0xDF) = true := fun within => by
    have : a.toNat ≤ 0xDF := (within_iff.mp within).2
    omega
  have three : ¬ (0xE0 ≤ a && a ≤ 0xEF) = true := fun within => by
    have : a.toNat ≤ 0xEF := (within_iff.mp within).2
    omega
  have four : (0xF0 ≤ a && a ≤ 0xF4) = true :=
    within_iff.mpr ⟨show 0xF0 ≤ a.toNat by omega, show a.toNat ≤ 0xF4 by omega⟩
  have fits : fitsFour a b = true :=
    fitsFour_of_tail (by omega) (by omega) (by omega) (by omega)
  have number : (a.toNat - 0xF0) * 0x40000 + tailBits b * 0x1000 + tailBits c * 0x40
      + tailBits d = n := by
    have second := tailBits_eq b
    have third := tailBits_eq c
    have fourth := tailBits_eq d
    omega
  rw [nextChar.eq_def, if_neg one, if_neg two, if_neg three, if_pos four]
  simp only [fits, isTail_iff.mpr (show 0x80 ≤ c.toNat ∧ c.toNat ≤ 0xBF by omega),
    isTail_iff.mpr (show 0x80 ≤ d.toNat ∧ d.toNat ≤ 0xBF by omega), if_true, number]

/-- The numbers of characters leave out the surrogates. -/
lemma toNat_valid (c : Char) : c.toNat < 0xD800 ∨ (0xDFFF < c.toNat ∧ c.toNat < 0x110000) :=
  c.valid

/-- **The bytes of a character are read as that character**, whatever follows. -/
theorem nextChar_encodeChar (c : Char) (rest : Bytes) :
    ∃ a bs, encodeChar c = a :: bs ∧ nextChar a (bs ++ rest) = .ok (c, rest) := by
  have valid := toNat_valid c
  have same := Char.ofNat_toNat c
  simp only [encodeChar]
  generalize c.toNat = n at valid same ⊢
  subst same
  split_ifs with one two three
  · exact ⟨_, _, rfl, nextChar_one rest one (toNat_byte (by omega))⟩
  · exact ⟨_, _, rfl, nextChar_two rest (by omega) two (toNat_byte (by omega))
      (toNat_byte (by omega))⟩
  · exact ⟨_, _, rfl, nextChar_three rest (by omega) three (by omega) (toNat_byte (by omega))
      (toNat_byte (by omega)) (toNat_byte (by omega))⟩
  · exact ⟨_, _, rfl, nextChar_four rest (by omega) (by omega) (toNat_byte (by omega))
      (toNat_byte (by omega)) (toNat_byte (by omega)) (toNat_byte (by omega))⟩

/-! ### Texts -/

lemma decodeFrom_encode (cs done : List Char) (index : ℕ) :
    decodeFrom index done (encode cs) = .ok (done.reverse ++ cs) := by
  induction cs generalizing done index with
  | nil =>
      rw [encode, List.flatMap_nil, decodeFrom, List.append_nil]
  | cons c cs ih =>
      obtain ⟨a, bs, bytes, next⟩ := nextChar_encodeChar c (encode cs)
      rw [encode, List.flatMap_cons, ← encode, bytes, List.cons_append, decodeFrom]
      split
      · next fault h =>
          rw [next] at h
          cases h
      · next c' rest' h =>
          rw [next] at h
          cases h
          rw [ih, List.reverse_cons, List.append_assoc]
          rfl

/-- **The bytes of a text are read as that text.** -/
theorem decode?_encode (cs : List Char) : decode? (encode cs) = .ok cs :=
  decodeFrom_encode cs [] 0

theorem encode_injective : Function.Injective encode := fun cs ds h => by
  have same : decode? (encode cs) = decode? (encode ds) := congrArg decode? h
  rw [decode?_encode, decode?_encode] at same
  exact Except.ok.inj same

@[simp] lemma encode_nil : encode [] = [] := rfl

lemma encode_append (cs ds : List Char) : encode (cs ++ ds) = encode cs ++ encode ds :=
  List.flatMap_append

lemma encode_cons (c : Char) (cs : List Char) : encode (c :: cs) = encodeChar c ++ encode cs :=
  List.flatMap_cons

lemma stringOf?_bytesOf (s : String) : stringOf? (bytesOf s) = some s := by
  rw [stringOf?, bytesOf, decode?_encode]
  exact congrArg some String.ofList_toList

/-! ### Order -/

/-- Byte strings are compared byte by byte: the first ones decide unless they are equal. -/
lemma byte_cons_lt {m n : ℕ} {as bs : Bytes} (hm : m < 256) (hn : n < 256) (le : m ≤ n)
    (eq : m = n → as < bs) : m.toUInt8 :: as < n.toUInt8 :: bs := by
  rw [List.cons_lt_cons_iff, UInt8.lt_iff_toNat_lt, toNat_byte hm, toNat_byte hn]
  rcases Nat.lt_or_eq_of_le le with less | same
  · exact .inl less
  · exact .inr ⟨congrArg _ same, eq same⟩

/-- **The bytes of a smaller character are smaller**, whatever follows. -/
lemma encodeChar_append_lt {c d : Char} (h : c < d) (as bs : Bytes) :
    encodeChar c ++ as < encodeChar d ++ bs := by
  have less : c.toNat < d.toNat := h
  have limit : d.toNat < 0x110000 := by
    have := toNat_valid d
    omega
  simp only [encodeChar]
  generalize c.toNat = m at less ⊢
  generalize d.toNat = n at less limit ⊢
  split_ifs
  all_goals simp only [List.cons_append, List.nil_append]
  -- The smaller character never has more bytes.  One round for each byte: `omega` discards
  -- the pairs of lengths that the bytes so far have ruled out.
  all_goals try omega
  all_goals refine byte_cons_lt (by omega) (by omega) (by omega) fun first => ?_
  -- With equal first bytes, the characters have as many bytes as each other.
  all_goals try omega
  all_goals refine byte_cons_lt (by omega) (by omega) (by omega) fun second => ?_
  all_goals try omega
  all_goals refine byte_cons_lt (by omega) (by omega) (by omega) fun third => ?_
  all_goals try omega
  exact byte_cons_lt (by omega) (by omega) (by omega) fun fourth => by omega

lemma encode_lt_encode {cs ds : List Char} (h : cs < ds) : encode cs < encode ds := by
  induction h with
  | @nil d ds =>
      obtain ⟨a, bs, bytes, -⟩ := nextChar_encodeChar d []
      rw [encode_nil, encode_cons, bytes]
      exact List.nil_lt_cons a _
  | rel less =>
      rw [encode_cons, encode_cons]
      exact encodeChar_append_lt less _ _
  | cons rest ih =>
      rw [encode_cons, encode_cons]
      exact List.append_left_lt ih

/-- **Texts are in the order of their bytes.** -/
theorem bytesOf_lt_bytesOf_iff {s t : String} : bytesOf s < bytesOf t ↔ s < t := by
  have mono {s t : String} (less : s < t) : bytesOf s < bytesOf t :=
    encode_lt_encode (String.lt_iff_toList_lt.mp less)
  refine ⟨fun bytes => ?_, mono⟩
  rcases lt_trichotomy s t with less | rfl | more
  · exact less
  · exact absurd bytes (List.lt_irrefl _)
  · exact absurd bytes (List.lt_asymm (mono more))

end ToolServer.Text
