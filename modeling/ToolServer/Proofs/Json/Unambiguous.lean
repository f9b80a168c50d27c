/-
The text of a value determines it:

* `Number.chars_injective`: whole numbers and floating-point numbers have
  different texts;
* `escaped_append_inj`, `chars_append_inj`: a string or a value, with what
  follows it, determines both itself and the rest;
* `chars_injective`: different values have different texts. The order of the
  members of an object counts.
-/
import ToolServer.Proofs.Json.ReadBack

namespace ToolServer.Json

open ToolServer.Text (encode encode_append encode_cons)

/-! ### Strings and numbers -/

/-- The text of a string is prefix-free. -/
lemma escaped_append_inj {k l : String} {r s : List Char}
    (h : escaped k ++ r = escaped l ++ s) : k = l ∧ r = s := by
  have bytes : ∀ (k : String) (r : List Char), encode (escaped k ++ r)
      = 0x22 :: (encode (k.toList.flatMap escapeChar) ++ 0x22 :: encode r) := fun k r => by
    rw [encode_append, encode_escaped, List.cons_append, List.append_assoc]
    rfl
  have same := congrArg encode h
  rw [bytes, bytes] at same
  have read := congrArg readString (List.cons.inj same).2
  rw [readString_escaped, readString_escaped] at read
  obtain ⟨rfl, -⟩ := Prod.mk.inj (Except.ok.inj read)
  exact ⟨rfl, List.append_cancel_left h⟩

/-- The text of a whole number consists of digits and a minus sign. -/
lemma Number.isDigit_of_mem_chars {n : Number} (whole : n.toInt?.isSome = true) :
    ∀ c ∈ n.chars, c.isDigit = true ∨ c = '-' := by
  intro c hc
  cases n with
  | natural n => exact .inl (allDigits_decimalDigits _ c hc)
  | negative n =>
      rcases List.mem_cons.mp hc with rfl | hc
      · exact .inr rfl
      · exact .inl (allDigits_decimalDigits _ c hc)
  | float x => simp [toInt?] at whole

/-- No whole number has the text of a floating-point number. -/
lemma Number.chars_ne_float {n : Number} (whole : n.toInt?.isSome = true) (x : Binary64) :
    n.chars ≠ (Number.float x).chars := by
  intro same
  obtain ⟨c, hc, mark⟩ := Layout.exists_mark_of_render (l := layout) rfl x
  have plain := isDigit_of_mem_chars whole c (same ▸ hc)
  rcases mark with rfl | rfl <;> exact absurd plain (by decide)

/-- **Different numbers have different texts.** -/
theorem Number.chars_injective : Function.Injective Number.chars := by
  have minus : ∀ (k : ℕ) (cs : List Char), decimalDigits k ≠ '-' :: cs := fun k cs same => by
    have digit := allDigits_decimalDigits k '-' (by simp [same])
    exact absurd digit (by decide)
  intro m n h
  cases m with
  | natural a =>
      cases n with
      | natural b => rw [UInt64.toNat_inj.mp (decimalDigits_injective h)]
      | negative b => exact absurd h (minus _ _)
      | float y => exact absurd h (chars_ne_float rfl y)
  | negative a =>
      cases n with
      | natural b => exact absurd h.symm (minus _ _)
      | negative b =>
          have same : a.val + 1 = b.val + 1 := decimalDigits_injective (List.cons.inj h).2
          rw [Fin.ext (Nat.succ.inj same)]
      | float y => exact absurd h (chars_ne_float rfl y)
  | float x =>
      cases n with
      | natural b => exact absurd h.symm (chars_ne_float rfl x)
      | negative b => exact absurd h.symm (chars_ne_float rfl x)
      | float y => rw [Layout.render_injective (l := layout) rfl h]

lemma Number.isNumberChar_of_mem_chars (n : Number) : ∀ c ∈ n.chars, isNumberChar c = true := by
  intro c hc
  cases n with
  | natural n => exact (allDigits_decimalDigits _).isNumberChar c hc
  | negative n =>
      rcases List.mem_cons.mp hc with rfl | hc
      · rfl
      · exact (allDigits_decimalDigits _).isNumberChar c hc
  | float x => exact Layout.isNumberChar_of_mem_render rfl x c hc

/-- Whether a number ends before this text. -/
def EndsNumberText (rest : List Char) : Prop :=
  ∀ c ∈ rest.head?, isNumberChar c = false

/-- The text of a number is prefix-free before what cannot belong to a number. -/
lemma Number.chars_append_inj {m n : Number} {r s : List Char} (hr : EndsNumberText r)
    (hs : EndsNumberText s) (h : m.chars ++ r = n.chars ++ s) : m = n ∧ r = s := by
  have upto : ∀ (n : Number) {r : List Char}, EndsNumberText r →
      (n.chars ++ r).takeWhile isNumberChar = n.chars := fun n r hr => by
    rw [List.takeWhile_append_of_pos n.isNumberChar_of_mem_chars]
    cases r with
    | nil => simp
    | cons c r => simp [hr c rfl]
  have same : m.chars = n.chars := by rw [← upto m hr, ← upto n hs, h]
  refine ⟨chars_injective same, ?_⟩
  rw [same] at h
  exact List.append_cancel_left h

/-! ### Values -/

/-- What a value is, by its first character. -/
def kindOf (c : Char) : ℕ :=
  if c = 'n' then 0
  else if c = 't' then 1
  else if c = 'f' then 2
  else if c = '"' then 3
  else if c = '[' then 4
  else if c = '\x7b' then 5
  else if c.isDigit || c = '-' then 6
  else 7

/-- What a value is. -/
def kind : Json → ℕ
  | .null => 0
  | .bool true => 1
  | .bool false => 2
  | .string _ => 3
  | .array _ => 4
  | .object _ => 5
  | .number _ => 6

lemma kind_lt (v : Json) : v.kind < 7 := by
  cases v with
  | bool b => cases b <;> simp [kind]
  | _ => simp [kind]

/-- The first character of a value says what it is. -/
lemma chars_eq_cons (v : Json) : ∃ c cs, v.chars = c :: cs ∧ kindOf c = v.kind := by
  cases v with
  | null => exact ⟨_, _, rfl, rfl⟩
  | bool b => cases b <;> exact ⟨_, _, rfl, rfl⟩
  | string s => exact ⟨_, _, rfl, rfl⟩
  | array items => cases items <;> exact ⟨'[', _, rfl, rfl⟩
  | object members =>
      cases members with
      | nil => exact ⟨'\x7b', _, rfl, rfl⟩
      | cons m rest => exact ⟨'\x7b', _, rfl, rfl⟩
  | number n =>
      obtain ⟨c, cs, spelled, hc⟩ := n.chars_eq_cons
      refine ⟨c, cs, spelled, ?_⟩
      have other : ∀ d : Char, d.isDigit = false → d ≠ '-' → c ≠ d := fun d hd minus => by
        rintro rfl
        exact hc.elim (fun digit => by rw [hd] at digit; exact Bool.noConfusion digit) minus
      simp [kindOf, kind, other 'n' rfl (by decide), other 't' rfl (by decide),
        other 'f' rfl (by decide), other '"' rfl (by decide), other '[' rfl (by decide),
        other '\x7b' rfl (by decide), hc]

lemma kind_eq_of_append {v w : Json} {r s : List Char} (h : v.chars ++ r = w.chars ++ s) :
    v.kind = w.kind := by
  obtain ⟨c, cs, hv, hc⟩ := v.chars_eq_cons
  obtain ⟨d, ds, hw, hd⟩ := w.chars_eq_cons
  rw [hv, hw] at h
  rw [← hc, ← hd, (List.cons.inj h).1]

/-- No value begins with a closing bracket. -/
lemma chars_ne_bracket (v : Json) (r s : List Char) : v.chars ++ r ≠ ']' :: s := by
  intro h
  obtain ⟨c, cs, hv, hc⟩ := v.chars_eq_cons
  rw [hv] at h
  rw [(List.cons.inj h).1] at hc
  have other : kindOf ']' = 7 := rfl
  have small := v.kind_lt
  omega

lemma endsNumberText_moreItems (vs : List Json) (r : List Char) :
    EndsNumberText (moreItems vs ++ r) := by
  intro c hc
  cases vs <;>
    · obtain rfl := Option.some.inj hc
      rfl

lemma endsNumberText_moreMembers (ms : List (String × Json)) (r : List Char) :
    EndsNumberText (moreMembers ms ++ r) := by
  intro c hc
  cases ms <;>
    · obtain rfl := Option.some.inj hc
      rfl

mutual

/-- **The text of a value is prefix-free**: before what cannot belong to a number
it determines both the value and the rest. -/
theorem chars_append_inj : ∀ (v w : Json) (r s : List Char), EndsNumberText r →
    EndsNumberText s → v.chars ++ r = w.chars ++ s → v = w ∧ r = s := by
  intro v w r s hr hs h
  have same := kind_eq_of_append h
  match v, w with
  | .null, .null => exact ⟨rfl, List.append_cancel_left h⟩
  | .bool true, .bool true => exact ⟨rfl, List.append_cancel_left h⟩
  | .bool false, .bool false => exact ⟨rfl, List.append_cancel_left h⟩
  | .number m, .number n =>
      obtain ⟨rfl, rest⟩ := Number.chars_append_inj hr hs h
      exact ⟨rfl, rest⟩
  | .string k, .string l =>
      obtain ⟨rfl, rest⟩ := escaped_append_inj h
      exact ⟨rfl, rest⟩
  | .array [], .array [] => exact ⟨rfl, List.append_cancel_left h⟩
  | .array [], .array (w :: ws) =>
      simp only [chars, List.cons_append, List.nil_append, List.append_assoc] at h
      exact absurd (List.cons.inj h).2.symm (chars_ne_bracket w _ _)
  | .array (v :: vs), .array [] =>
      simp only [chars, List.cons_append, List.nil_append, List.append_assoc] at h
      exact absurd (List.cons.inj h).2 (chars_ne_bracket v _ _)
  | .array (v :: vs), .array (w :: ws) =>
      simp only [chars, List.cons_append, List.append_assoc] at h
      obtain ⟨rfl, more⟩ := chars_append_inj v w _ _ (endsNumberText_moreItems vs r)
        (endsNumberText_moreItems ws s) (List.cons.inj h).2
      obtain ⟨rfl, rest⟩ := moreItems_append_inj vs ws r s more
      exact ⟨rfl, rest⟩
  | .object [], .object [] => exact ⟨rfl, List.append_cancel_left h⟩
  | .object [], .object ((l, w) :: ns) => simp [chars, escaped] at h
  | .object ((k, v) :: ms), .object [] => simp [chars, escaped] at h
  | .object ((k, v) :: ms), .object ((l, w) :: ns) =>
      simp only [chars, List.cons_append, List.append_assoc] at h
      obtain ⟨rfl, behind⟩ := escaped_append_inj (List.cons.inj h).2
      obtain ⟨rfl, more⟩ := chars_append_inj v w _ _ (endsNumberText_moreMembers ms r)
        (endsNumberText_moreMembers ns s) (List.cons.inj behind).2
      obtain ⟨rfl, rest⟩ := moreMembers_append_inj ms ns r s more
      exact ⟨rfl, rest⟩

/-- The same of the items behind some others. -/
theorem moreItems_append_inj : ∀ (vs ws : List Json) (r s : List Char),
    moreItems vs ++ r = moreItems ws ++ s → vs = ws ∧ r = s
  | [], [], r, s, h => ⟨rfl, List.append_cancel_left h⟩
  | [], w :: ws, r, s, h => by simp [moreItems] at h
  | v :: vs, [], r, s, h => by simp [moreItems] at h
  | v :: vs, w :: ws, r, s, h => by
      simp only [moreItems, List.cons_append, List.append_assoc] at h
      obtain ⟨rfl, more⟩ := chars_append_inj v w _ _ (endsNumberText_moreItems vs r)
        (endsNumberText_moreItems ws s) (List.cons.inj h).2
      obtain ⟨rfl, rest⟩ := moreItems_append_inj vs ws r s more
      exact ⟨rfl, rest⟩

/-- The same of the members behind some others. -/
theorem moreMembers_append_inj : ∀ (ms ns : List (String × Json)) (r s : List Char),
    moreMembers ms ++ r = moreMembers ns ++ s → ms = ns ∧ r = s
  | [], [], r, s, h => ⟨rfl, List.append_cancel_left h⟩
  | [], (l, w) :: ns, r, s, h => by simp [moreMembers] at h
  | (k, v) :: ms, [], r, s, h => by simp [moreMembers] at h
  | (k, v) :: ms, (l, w) :: ns, r, s, h => by
      simp only [moreMembers, List.cons_append, List.append_assoc] at h
      obtain ⟨rfl, behind⟩ := escaped_append_inj (List.cons.inj h).2
      obtain ⟨rfl, more⟩ := chars_append_inj v w _ _ (endsNumberText_moreMembers ms r)
        (endsNumberText_moreMembers ns s) (List.cons.inj behind).2
      obtain ⟨rfl, rest⟩ := moreMembers_append_inj ms ns r s more
      exact ⟨rfl, rest⟩

end

/-- **Different values have different texts.** -/
theorem chars_injective : Function.Injective chars := fun v w h =>
  (chars_append_inj v w [] [] (by simp [EndsNumberText]) (by simp [EndsNumberText])
    (by rw [h])).1

end ToolServer.Json
