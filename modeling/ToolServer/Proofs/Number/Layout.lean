/-
The text of floating-point numbers:

* `textValue`: the rational that a text with a point and an exponent stands for;
* `textValue_inPlace`, `textValue_scientific`: both ways of writing a decimal
  stand for that decimal;
* `render_injective`: two finite numbers with the same text are the same number;
* `isNumberChar_of_mem_render`, `exists_mark_of_render`: the characters of a
  text, one of which is a point or an exponent mark.
-/
import Mathlib.Data.List.TakeWhile
import ToolServer.Proofs.Number.Rounding

namespace ToolServer

/-! ### Digits -/

/-- Whether some characters are decimal digits. -/
def AllDigits (cs : List Char) : Prop :=
  ∀ c ∈ cs, c.isDigit = true

lemma AllDigits.append {cs ds : List Char} (hc : AllDigits cs) (hd : AllDigits ds) :
    AllDigits (cs ++ ds) := fun c h => (List.mem_append.mp h).elim (hc c) (hd c)

lemma AllDigits.of_subset {cs ds : List Char} (hd : AllDigits ds) (h : cs ⊆ ds) :
    AllDigits cs := fun c hc => hd c (h hc)

lemma allDigits_decimalDigits (n : ℕ) : AllDigits (decimalDigits n) :=
  fun _ => Nat.isDigit_of_mem_toDigits (by decide) (by decide)

lemma allDigits_zeros (n : ℕ) : AllDigits (List.replicate n '0') := fun c h => by
  rw [List.eq_of_mem_replicate h]
  rfl

lemma decimalDigits_ne_nil (n : ℕ) : decimalDigits n ≠ [] :=
  Nat.toDigits_ne_nil

lemma AllDigits.ne {cs : List Char} (h : AllDigits cs) (mark : Char) (hm : mark.isDigit = false) :
    ∀ c ∈ cs, c ≠ mark := fun c hc eq => by
  rw [← eq, h c hc] at hm
  exact Bool.noConfusion hm

/-- What stands before and behind a mark. -/
lemma span_mark {whole : List Char} {mark : Char} (h : ∀ c ∈ whole, c ≠ mark)
    (rest : List Char) :
    (whole ++ mark :: rest).takeWhile (· ≠ mark) = whole ∧
      ((whole ++ mark :: rest).dropWhile (· ≠ mark)).drop 1 = rest := by
  have before : ∀ c ∈ whole, decide (c ≠ mark) = true := fun c hc => decide_eq_true (h c hc)
  rw [List.takeWhile_append_of_pos before, List.dropWhile_append_of_pos before]
  simp

/-- A text without a mark. -/
lemma span_no_mark {whole : List Char} {mark : Char} (h : ∀ c ∈ whole, c ≠ mark) :
    whole.takeWhile (· ≠ mark) = whole ∧ (whole.dropWhile (· ≠ mark)).drop 1 = [] := by
  have before : ∀ c ∈ whole, decide (c ≠ mark) = true := fun c hc => decide_eq_true (h c hc)
  rw [List.takeWhile_eq_self_iff.mpr before, List.dropWhile_eq_nil_iff.mpr before]
  exact ⟨rfl, rfl⟩

/-- The number that decimal digits spell. -/
def digitsValue (cs : List Char) : ℕ :=
  Nat.ofDigitChars 10 cs 0

@[simp] lemma digitsValue_decimalDigits (n : ℕ) : digitsValue (decimalDigits n) = n :=
  Nat.ofDigitChars_ten_toDigits

lemma toNat_of_isDigit {c : Char} (h : c.isDigit = true) : 48 ≤ c.toNat ∧ c.toNat ≤ 57 := by
  rw [Char.isDigit, Bool.and_eq_true, decide_eq_true_iff, decide_eq_true_iff] at h
  exact ⟨UInt32.le_iff_toNat_le.mp h.1, UInt32.le_iff_toNat_le.mp h.2⟩

lemma digitsValue_lt {cs : List Char} (h : AllDigits cs) : digitsValue cs < 10 ^ cs.length := by
  induction cs with
  | nil => exact Nat.zero_lt_one
  | cons c cs ih =>
      have digit : c.toNat - 48 ≤ 9 := by
        have := toNat_of_isDigit (h c List.mem_cons_self)
        omega
      have rest : digitsValue cs < 10 ^ cs.length :=
        ih (h.of_subset (List.subset_cons_self c cs))
      have split : digitsValue (c :: cs) = 10 ^ cs.length * (c.toNat - 48) + digitsValue cs := by
        rw [digitsValue, Nat.ofDigitChars_cons, Nat.ofDigitChars_eq_ofDigitChars_zero, mul_zero,
          zero_add]
        rfl
      calc digitsValue (c :: cs) = 10 ^ cs.length * (c.toNat - 48) + digitsValue cs := split
        _ < 10 ^ cs.length * 9 + 10 ^ cs.length :=
            Nat.add_lt_add_of_le_of_lt (Nat.mul_le_mul_left _ digit) rest
        _ = 10 ^ (c :: cs).length := by rw [List.length_cons, pow_succ]; ring

lemma decimalDigits_injective : Function.Injective decimalDigits := by
  intro m n h
  calc m = digitsValue (decimalDigits m) := (digitsValue_decimalDigits m).symm
    _ = digitsValue (decimalDigits n) := by rw [h]
    _ = n := digitsValue_decimalDigits n

lemma digitsValue_zeros_append (n : ℕ) (cs : List Char) :
    digitsValue (List.replicate n '0' ++ cs) = digitsValue cs := by
  rw [digitsValue, Nat.ofDigitChars_append, Nat.ofDigitChars_replicate_zero, mul_zero, digitsValue]

lemma digitsValue_append_zeros (n : ℕ) (cs : List Char) :
    digitsValue (cs ++ List.replicate n '0') = 10 ^ n * digitsValue cs := by
  rw [digitsValue, Nat.ofDigitChars_append, Nat.ofDigitChars_replicate_zero, digitsValue]

/-! ### What a text stands for -/

/-- The rational that digits with a point stand for. -/
def pointValue (cs : List Char) : ℚ :=
  let whole := cs.takeWhile (· ≠ '.')
  let behind := (cs.dropWhile (· ≠ '.')).drop 1
  digitsValue (whole ++ behind) / 10 ^ behind.length

/-- The integer that the digits of an exponent stand for, after its sign. -/
def exponentValue : List Char → ℤ
  | '-' :: cs => -digitsValue cs
  | '+' :: cs => digitsValue cs
  | cs => digitsValue cs

/-- The rational that a text stands for. -/
def textValue (cs : List Char) : ℚ :=
  pointValue (cs.takeWhile (· ≠ 'e')) * 10 ^ exponentValue ((cs.dropWhile (· ≠ 'e')).drop 1)

lemma pointValue_of_point {whole behind : List Char} (h : AllDigits whole) :
    pointValue (whole ++ '.' :: behind)
      = digitsValue (whole ++ behind) / 10 ^ behind.length := by
  obtain ⟨before, after⟩ := span_mark (h.ne '.' rfl) behind
  rw [pointValue, before, after]

lemma pointValue_of_digits {whole : List Char} (h : AllDigits whole) :
    pointValue whole = digitsValue whole := by
  obtain ⟨before, after⟩ := span_no_mark (h.ne '.' rfl)
  rw [pointValue, before, after]
  simp

/-- Without an exponent mark a text stands for its digits and its point. -/
lemma textValue_of_no_mark {cs : List Char} (h : ∀ c ∈ cs, c ≠ 'e') :
    textValue cs = pointValue cs := by
  obtain ⟨before, after⟩ := span_no_mark h
  rw [textValue, before, after]
  simp [exponentValue, digitsValue]

lemma textValue_of_mark {cs tail : List Char} (h : ∀ c ∈ cs, c ≠ 'e') :
    textValue (cs ++ 'e' :: tail) = pointValue cs * 10 ^ exponentValue tail := by
  obtain ⟨before, after⟩ := span_mark h tail
  rw [textValue, before, after]

/-! ### Decimals as text -/

/-- What stands before and behind the point of a decimal with its digits in
place. -/
lemma Decimal.inPlace_shape (d : Decimal) :
    ∃ whole behind, d.inPlace = whole ++ '.' :: behind ∧ whole ≠ [] ∧ AllDigits whole ∧
      AllDigits behind ∧ (digitsValue (whole ++ behind) / 10 ^ behind.length : ℚ) = d.value := by
  have digits := allDigits_decimalDigits d.digits
  have nonempty := decimalDigits_ne_nil d.digits
  simp only [inPlace]
  split_ifs with large short
  · have spelled : digitsValue (decimalDigits d.digits ++ List.replicate d.exponent.toNat '0'
        ++ List.replicate 1 '0') = 10 ^ 1 * (10 ^ d.exponent.toNat * d.digits) := by
      rw [digitsValue_append_zeros, digitsValue_append_zeros, digitsValue_decimalDigits]
    refine ⟨_, List.replicate 1 '0', rfl, by simp [nonempty],
      digits.append (allDigits_zeros _), allDigits_zeros 1, ?_⟩
    have exponent : (10 : ℚ) ^ d.exponent = 10 ^ d.exponent.toNat := by
      rw [← zpow_natCast, Int.toNat_of_nonneg large]
    rw [spelled, value, exponent, List.length_replicate]
    push_cast
    ring
  · have behind : (decimalDigits d.digits).length
        - ((decimalDigits d.digits).length - (-d.exponent).toNat) = (-d.exponent).toNat := by
      omega
    refine ⟨_, _, rfl, ?_, digits.of_subset (List.take_subset _ _),
      digits.of_subset (List.drop_subset _ _), ?_⟩
    · exact List.ne_nil_of_length_pos (by rw [List.length_take]; omega)
    · rw [List.take_append_drop, digitsValue_decimalDigits, List.length_drop, behind, value,
        ← neg_neg d.exponent, zpow_neg, div_eq_mul_inv, ← zpow_natCast, neg_neg,
        Int.toNat_of_nonneg (by omega)]
  · have behind : (-d.exponent).toNat - (decimalDigits d.digits).length
        + (decimalDigits d.digits).length = (-d.exponent).toNat := by
      omega
    refine ⟨['0'], List.replicate ((-d.exponent).toNat - (decimalDigits d.digits).length) '0'
      ++ decimalDigits d.digits, rfl, by simp, allDigits_zeros 1,
      (allDigits_zeros _).append digits, ?_⟩
    have spelled : digitsValue (['0'] ++ (List.replicate ((-d.exponent).toNat
        - (decimalDigits d.digits).length) '0' ++ decimalDigits d.digits)) = d.digits := by
      rw [show ['0'] = List.replicate 1 '0' from rfl, digitsValue_zeros_append,
        digitsValue_zeros_append, digitsValue_decimalDigits]
    rw [spelled, List.length_append, List.length_replicate, behind, value,
      ← neg_neg d.exponent, zpow_neg, div_eq_mul_inv, ← zpow_natCast, neg_neg,
      Int.toNat_of_nonneg (by omega)]

lemma Decimal.textValue_inPlace (d : Decimal) : textValue d.inPlace = d.value := by
  obtain ⟨whole, behind, text, -, hw, hb, value⟩ := d.inPlace_shape
  have unmarked : ∀ c ∈ whole ++ '.' :: behind, c ≠ 'e' := by
    intro c hc
    rcases List.mem_append.mp hc with hc | hc
    · exact hw.ne 'e' rfl c hc
    · rcases List.mem_cons.mp hc with rfl | hc
      · decide
      · exact hb.ne 'e' rfl c hc
  calc textValue d.inPlace = textValue (whole ++ '.' :: behind) := by rw [text]
    _ = pointValue (whole ++ '.' :: behind) := textValue_of_no_mark unmarked
    _ = digitsValue (whole ++ behind) / 10 ^ behind.length := pointValue_of_point hw
    _ = d.value := value

/-- An exponent with its sign. -/
def signedExponent (e : ℤ) : List Char :=
  if e < 0 then integerDigits e else '+' :: integerDigits e

lemma exponentValue_signedExponent (e : ℤ) : exponentValue (signedExponent e) = e := by
  rw [signedExponent, integerDigits]
  split_ifs with negative
  · rw [exponentValue, digitsValue_decimalDigits]
    omega
  · rw [exponentValue, digitsValue_decimalDigits]
    omega

/-- What stands before and behind the exponent mark of a decimal. -/
lemma Decimal.scientific_shape (d : Decimal) :
    ∃ c cs, c.isDigit = true ∧ (∀ x ∈ cs, x.isDigit = true ∨ x = '.') ∧
      d.scientific ['+'] = c :: cs ++ 'e' :: signedExponent d.leading ∧
      pointValue (c :: cs) * 10 ^ d.leading = d.value := by
  have tail : (if d.leading < 0 then integerDigits d.leading
      else ['+'] ++ integerDigits d.leading) = signedExponent d.leading := rfl
  have digits := allDigits_decimalDigits d.digits
  have spelled := digitsValue_decimalDigits d.digits
  have length : d.leading = d.exponent + ((decimalDigits d.digits).length : ℤ) - 1 := rfl
  simp only [scientific, tail]
  split
  · next nil => exact absurd nil (decimalDigits_ne_nil _)
  · next c single =>
      rw [single] at digits spelled length
      refine ⟨c, [], digits c (by simp), by simp, rfl, ?_⟩
      rw [pointValue_of_digits digits, spelled, value, length]
      simp
  · next c cs _ several =>
      rw [several] at digits spelled length
      have first : AllDigits [c] := digits.of_subset (by simp)
      have rest : AllDigits cs := digits.of_subset (List.subset_cons_self _ _)
      refine ⟨c, '.' :: cs, digits c (by simp), ?_, rfl, ?_⟩
      · intro x hx
        exact (List.mem_cons.mp hx).elim .inr fun hx => .inl (rest x hx)
      · have point : pointValue (c :: '.' :: cs) = digitsValue (c :: cs) / 10 ^ cs.length :=
          pointValue_of_point first
        have exponent : d.leading = d.exponent + (cs.length : ℤ) := by
          rw [length, List.length_cons]
          push_cast
          ring
        calc pointValue (c :: '.' :: cs) * 10 ^ d.leading
            = d.digits / 10 ^ cs.length * 10 ^ (d.exponent + (cs.length : ℤ)) := by
              rw [point, spelled, exponent]
          _ = d.digits / 10 ^ cs.length * (10 ^ d.exponent * 10 ^ cs.length) := by
              rw [zpow_add₀ (by norm_num), zpow_natCast]
          _ = d.value := by
              rw [value]
              field_simp

lemma Decimal.textValue_scientific (d : Decimal) : textValue (d.scientific ['+']) = d.value := by
  obtain ⟨c, cs, hc, hcs, text, value⟩ := d.scientific_shape
  have unmarked : ∀ x ∈ c :: cs, x ≠ 'e' := by
    rintro x hx rfl
    rcases List.mem_cons.mp hx with rfl | hx
    · exact absurd hc (by decide)
    · exact absurd (hcs _ hx) (by decide)
  calc textValue (d.scientific ['+'])
      = textValue (c :: cs ++ 'e' :: signedExponent d.leading) := by rw [text]
    _ = pointValue (c :: cs) * 10 ^ exponentValue (signedExponent d.leading) :=
        textValue_of_mark unmarked
    _ = pointValue (c :: cs) * 10 ^ d.leading := by rw [exponentValue_signedExponent]
    _ = d.value := value

/-! ### Floating-point numbers as text -/

namespace Layout

/-- The text of a decimal, without a sign. -/
def body (l : Layout) (d : Decimal) : List Char :=
  if l.leastPlain ≤ d.leading ∧ d.leading ≤ l.greatestPlain then d.inPlace
  else d.scientific l.positiveSign

/-- The text of a number, without a sign. -/
def unsigned (l : Layout) (x : Binary64) : List Char :=
  if x.isZero then ['0', '.', '0'] else l.body x.magnitude.shortest

lemma render_eq (l : Layout) (x : Binary64) :
    l.render x = (if x.isNegative then ['-'] else []) ++ l.unsigned x := by
  rw [render, unsigned, body]
  dsimp only
  split_ifs <;> rfl

variable {l : Layout} (plus : l.positiveSign = ['+'])
include plus

lemma textValue_body (d : Decimal) : textValue (l.body d) = d.value := by
  rw [body]
  split_ifs
  · exact d.textValue_inPlace
  · rw [plus]
    exact d.textValue_scientific

/-- Without its sign a text begins with a digit. -/
lemma unsigned_eq_cons (x : Binary64) : ∃ c cs, l.unsigned x = c :: cs ∧ c.isDigit = true := by
  rw [unsigned, body]
  split_ifs
  · exact ⟨'0', ['.', '0'], rfl, rfl⟩
  · obtain ⟨whole, behind, text, nonempty, hw, -⟩ := x.magnitude.shortest.inPlace_shape
    obtain ⟨c, cs, rfl⟩ := List.exists_cons_of_ne_nil nonempty
    exact ⟨c, cs ++ '.' :: behind, text, hw c (by simp)⟩
  · obtain ⟨c, cs, hc, -, text, -⟩ := x.magnitude.shortest.scientific_shape
    exact ⟨c, cs ++ 'e' :: signedExponent _, by rw [plus, text]; rfl, hc⟩

/-- The text of a number that is not zero stands for something that rounds to
it; that of zero stands for zero. -/
lemma textValue_unsigned (x : Binary64) :
    if x.isZero then textValue (l.unsigned x) = 0
    else 0 < textValue (l.unsigned x) ∧ x.magnitude.Rounds (textValue (l.unsigned x)) := by
  rw [unsigned]
  split_ifs with zero
  · have unmarked : ∀ c ∈ ['0', '.', '0'], c ≠ 'e' := by simp
    have point : pointValue ['0', '.', '0'] = digitsValue ['0', '0'] / 10 ^ 1 :=
      pointValue_of_point (allDigits_zeros 1)
    rw [textValue_of_no_mark unmarked, point]
    norm_num [digitsValue, Nat.ofDigitChars]
  · obtain ⟨rounds, positive⟩ :=
      (Binary64.magnitude_standard (Bool.eq_false_iff.mpr zero)).shortest_rounds
    rw [textValue_body plus]
    refine ⟨?_, rounds⟩
    rw [Decimal.value]
    positivity

/-- The sign of a number is at the beginning of its text. -/
lemma sign_of_render {x y : Binary64} (h : l.render x = l.render y) :
    x.isNegative = y.isNegative ∧ l.unsigned x = l.unsigned y := by
  obtain ⟨c, cs, hx, hc⟩ := unsigned_eq_cons plus x
  obtain ⟨d, ds, hy, hd⟩ := unsigned_eq_cons plus y
  have minus : '-'.isDigit = false := rfl
  rw [render_eq, render_eq] at h
  cases hnx : x.isNegative <;> cases hny : y.isNegative
  · simpa [hnx, hny] using h
  · simp [hnx, hny, hx] at h
    rw [h.1, minus] at hc
    exact absurd hc Bool.false_ne_true
  · simp [hnx, hny, hy] at h
    rw [← h.1, minus] at hd
    exact absurd hd Bool.false_ne_true
  · simpa [hnx, hny] using h

/-- **Different numbers have different texts.** -/
theorem render_injective : Function.Injective l.render := by
  intro x y h
  obtain ⟨sign, text⟩ := sign_of_render plus h
  have hx := textValue_unsigned plus x
  have hy := textValue_unsigned plus y
  rw [text] at hx
  split_ifs at hx hy with zx zy zy
  · rw [Binary64.isZero_iff] at zx zy
    exact Binary64.eq_of_unsigned sign (zx.trans zy.symm)
  · exact absurd hx hy.1.ne'
  · exact absurd hy hx.1.ne'
  · exact Binary64.eq_of_magnitude sign
      ((Binary64.magnitude_standard (Bool.eq_false_iff.mpr zx)).eq_of_rounds
        (Binary64.magnitude_standard (Bool.eq_false_iff.mpr zy)) hx.2 hy.2)

omit plus in
lemma mem_render_of_mem_unsigned {x : Binary64} {c : Char} (h : c ∈ l.unsigned x) :
    c ∈ l.render x := by
  rw [render_eq]
  exact List.mem_append_right _ h

/-- A point or an exponent mark tells a floating-point number from a whole one. -/
lemma exists_mark_of_render (x : Binary64) : ∃ c ∈ l.render x, c = '.' ∨ c = 'e' := by
  by_cases zero : x.isZero = true
  · refine ⟨'.', mem_render_of_mem_unsigned ?_, .inl rfl⟩
    simp [unsigned, zero]
  · by_cases plain : l.leastPlain ≤ x.magnitude.shortest.leading ∧
      x.magnitude.shortest.leading ≤ l.greatestPlain
    · obtain ⟨whole, behind, text, -⟩ := x.magnitude.shortest.inPlace_shape
      refine ⟨'.', mem_render_of_mem_unsigned ?_, .inl rfl⟩
      simp [unsigned, zero, body, plain, text]
    · obtain ⟨c, cs, -, -, text, -⟩ := x.magnitude.shortest.scientific_shape
      refine ⟨'e', mem_render_of_mem_unsigned ?_, .inr rfl⟩
      rw [unsigned, if_neg zero, body, if_neg plain, plus, text]
      simp

end Layout

/-! ### Characters of numbers -/

/-- Whether a character belongs to the text of a number. -/
def isNumberChar (c : Char) : Bool :=
  c.isDigit || c ∈ ['-', '+', '.', 'e']

lemma isNumberChar_of_isDigit {c : Char} (h : c.isDigit = true) : isNumberChar c = true := by
  simp [isNumberChar, h]

lemma AllDigits.isNumberChar {cs : List Char} (h : AllDigits cs) :
    ∀ c ∈ cs, isNumberChar c = true :=
  fun c hc => isNumberChar_of_isDigit (h c hc)

lemma isNumberChar_of_mem_signedExponent (e : ℤ) : ∀ c ∈ signedExponent e, isNumberChar c = true := by
  have digits := (allDigits_decimalDigits e.natAbs).isNumberChar
  intro c hc
  rw [signedExponent, integerDigits] at hc
  split_ifs at hc
  · exact (List.mem_cons.mp hc).elim (fun eq => eq ▸ rfl) (digits c)
  · exact (List.mem_cons.mp hc).elim (fun eq => eq ▸ rfl) (digits c)

lemma Decimal.isNumberChar_of_mem_inPlace (d : Decimal) :
    ∀ c ∈ d.inPlace, isNumberChar c = true := by
  obtain ⟨whole, behind, text, -, hw, hb, -⟩ := d.inPlace_shape
  intro c hc
  rw [text, List.mem_append, List.mem_cons] at hc
  rcases hc with hc | rfl | hc
  · exact hw.isNumberChar c hc
  · rfl
  · exact hb.isNumberChar c hc

lemma Decimal.isNumberChar_of_mem_scientific (d : Decimal) :
    ∀ c ∈ d.scientific ['+'], isNumberChar c = true := by
  obtain ⟨x, xs, hx, hxs, text, -⟩ := d.scientific_shape
  intro c hc
  rw [text, List.mem_append, List.mem_cons, List.mem_cons] at hc
  rcases hc with (rfl | hc) | rfl | hc
  · exact isNumberChar_of_isDigit hx
  · exact (hxs c hc).elim isNumberChar_of_isDigit fun eq => eq ▸ rfl
  · rfl
  · exact isNumberChar_of_mem_signedExponent _ c hc

lemma Layout.isNumberChar_of_mem_render {l : Layout} (plus : l.positiveSign = ['+'])
    (x : Binary64) : ∀ c ∈ l.render x, isNumberChar c = true := by
  intro c hc
  rw [render_eq, List.mem_append] at hc
  rcases hc with hc | hc
  · split_ifs at hc
    · rw [List.mem_singleton.mp hc]
      rfl
    · simp at hc
  · rw [unsigned, body] at hc
    split_ifs at hc
    · simp only [List.mem_cons, List.not_mem_nil, or_false] at hc
      rcases hc with rfl | rfl | rfl <;> rfl
    · exact x.magnitude.shortest.isNumberChar_of_mem_inPlace c hc
    · rw [plus] at hc
      exact x.magnitude.shortest.isNumberChar_of_mem_scientific c hc

end ToolServer
