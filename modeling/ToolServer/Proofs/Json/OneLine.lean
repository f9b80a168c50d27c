/-
The text of a value has no control characters, and so fits on one line:

* `IsVisible`: characters that are no controls;
* `isVisible_of_mem_chars`: the text of a value has no others;
* `visible_of_mem_bytesOf_text`: nor do its bytes, line feeds in particular.

Controls in strings are escaped, and the bytes of a character beyond ASCII are all
from 128 on.
-/
import ToolServer.Proofs.Json.Unambiguous

namespace ToolServer.Json

open ToolServer.Text (bytesOf encode encodeChar)

/-- Whether a character is no control. -/
def IsVisible (c : Char) : Prop :=
  0x20 ≤ c.toNat

instance (c : Char) : Decidable (IsVisible c) :=
  inferInstanceAs (Decidable (0x20 ≤ c.toNat))

/-- The characters of a fixed text are looked at one by one. -/
lemma isVisible_of_all {cs : List Char} (h : cs.all (IsVisible ·) = true) :
    ∀ c ∈ cs, IsVisible c :=
  fun c hc => of_decide_eq_true (List.all_eq_true.mp h c hc)

/-- Of a string no control is written as it is. -/
lemma isVisible_of_mem_escapeChar (c : Char) : ∀ d ∈ escapeChar c, IsVisible d := by
  have controls : ∀ n < 0x20, (escapeChar (Char.ofNat n)).all (IsVisible ·) = true := by
    decide
  by_cases special : NeedsEscape c
  · rcases special with small | rfl | rfl
    · have visible := isVisible_of_all (controls c.toNat small)
      rwa [Char.ofNat_toNat] at visible
    · exact isVisible_of_all rfl
    · exact isVisible_of_all rfl
  · rw [escapeChar_of_not_needsEscape special]
    intro d hd
    rw [List.mem_singleton.mp hd]
    exact not_lt.mp fun small => special (.inl small)

lemma isVisible_of_mem_escaped (s : String) : ∀ c ∈ escaped s, IsVisible c := by
  intro c hc
  simp only [escaped, List.cons_append, List.mem_cons, List.mem_append, List.mem_flatMap,
    List.not_mem_nil, or_false] at hc
  rcases hc with rfl | ⟨d, -, hc⟩ | rfl
  · decide
  · exact isVisible_of_mem_escapeChar d c hc
  · decide

lemma Number.isVisible_of_mem_chars (n : Number) : ∀ c ∈ n.chars, IsVisible c := by
  intro c hc
  have number := n.isNumberChar_of_mem_chars c hc
  simp only [isNumberChar, Bool.or_eq_true, List.mem_cons, List.not_mem_nil, or_false,
    decide_eq_true_eq] at number
  rcases number with digit | rfl | rfl | rfl | rfl
  · exact le_trans (by decide) (toNat_of_isDigit digit).1
  all_goals decide

mutual

/-- **The text of a value has no control characters.** -/
theorem isVisible_of_mem_chars : ∀ v : Json, ∀ c ∈ v.chars, IsVisible c
  | .null => isVisible_of_all rfl
  | .bool true => isVisible_of_all rfl
  | .bool false => isVisible_of_all rfl
  | .number n => n.isVisible_of_mem_chars
  | .string s => isVisible_of_mem_escaped s
  | .array [] => isVisible_of_all rfl
  | .array (v :: rest) => by
      intro c hc
      rw [chars, List.cons_append, List.mem_cons, List.mem_append] at hc
      rcases hc with rfl | hc | hc
      · decide
      · exact isVisible_of_mem_chars v c hc
      · exact isVisible_of_mem_moreItems rest c hc
  | .object [] => isVisible_of_all rfl
  | .object ((k, v) :: rest) => by
      intro c hc
      simp only [chars, List.cons_append, List.mem_cons, List.mem_append] at hc
      rcases hc with rfl | (hc | rfl | hc) | hc
      · decide
      · exact isVisible_of_mem_escaped k c hc
      · decide
      · exact isVisible_of_mem_chars v c hc
      · exact isVisible_of_mem_moreMembers rest c hc

theorem isVisible_of_mem_moreItems : ∀ vs : List Json, ∀ c ∈ moreItems vs, IsVisible c
  | [] => isVisible_of_all rfl
  | v :: rest => by
      intro c hc
      rw [moreItems, List.cons_append, List.mem_cons, List.mem_append] at hc
      rcases hc with rfl | hc | hc
      · decide
      · exact isVisible_of_mem_chars v c hc
      · exact isVisible_of_mem_moreItems rest c hc

theorem isVisible_of_mem_moreMembers : ∀ ms : List (String × Json), ∀ c ∈ moreMembers ms,
    IsVisible c
  | [] => isVisible_of_all rfl
  | (k, v) :: rest => by
      intro c hc
      simp only [moreMembers, List.cons_append, List.mem_cons, List.mem_append] at hc
      rcases hc with rfl | (hc | rfl | hc) | hc
      · decide
      · exact isVisible_of_mem_escaped k c hc
      · decide
      · exact isVisible_of_mem_chars v c hc
      · exact isVisible_of_mem_moreMembers rest c hc

end

/-- The bytes of a character that is no control are none either. -/
lemma visible_of_mem_encodeChar {c : Char} (h : IsVisible c) :
    ∀ b ∈ encodeChar c, 0x20 ≤ b.toNat := by
  intro b hb
  by_cases ascii : c.toNat < 0x80
  · rw [encodeChar_of_ascii ascii, List.mem_singleton] at hb
    rw [hb, Text.toNat_byte (by omega)]
    exact h
  · exact le_trans (by decide) (byte_ge_of_mem_encodeChar (not_lt.mp ascii) b hb)

/-- **The bytes of the text of a value are no controls.** -/
theorem visible_of_mem_bytesOf_text (v : Json) : ∀ b ∈ bytesOf v.text, 0x20 ≤ b.toNat := by
  intro b hb
  rw [bytesOf, text, String.toList_ofList, encode, List.mem_flatMap] at hb
  obtain ⟨c, hc, hb⟩ := hb
  exact visible_of_mem_encodeChar (isVisible_of_mem_chars v c hc) b hb

/-- The text of a value has no line feed. -/
theorem lineFeed_not_mem_bytesOf_text (v : Json) : 0x0A ∉ bytesOf v.text := by
  intro there
  exact absurd (visible_of_mem_bytesOf_text v _ there) (by decide)

end ToolServer.Json
