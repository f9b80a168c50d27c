/-
The keys under which results are stored tell calls apart:

* `keyMaterial_injective`: calls with the same bytes have the same tool and
  arguments with the same canonical form;
* `digest_eq_of_hex_eq`: the digits of a digest determine it;
* `key_separates`: two calls have the same bytes if and only if they are the same
  up to the order of object members. Then they have the same key; otherwise they
  have the same key only if their digests collide.
-/
import ToolServer.Cache.Key
import ToolServer.Proofs.Json.Canonical
import ToolServer.Proofs.Json.Unambiguous

namespace ToolServer

/-! ### Digests -/

/-- Blocks of one length that determine what they stand for determine a list. -/
lemma flatMap_injective {α β : Type} {f : α → List β} {n : ℕ} (pos : 0 < n)
    (length : ∀ a, (f a).length = n) (inj : Function.Injective f) :
    Function.Injective fun as : List α => as.flatMap f := by
  have nonempty : ∀ a as, (a :: as).flatMap f ≠ [] := fun a as nil => by
    have := congrArg List.length nil
    rw [List.flatMap_cons, List.length_append, length, List.length_nil] at this
    omega
  intro as
  induction as with
  | nil =>
      intro bs h
      cases bs with
      | nil => rfl
      | cons b bs => exact absurd h.symm (nonempty b bs)
  | cons a as ih =>
      intro bs h
      cases bs with
      | nil => exact absurd h (nonempty a as)
      | cons b bs =>
          obtain ⟨first, rest⟩ := List.append_inj h ((length a).trans (length b).symm)
          rw [inj first, ih rest]

namespace Text

lemma hexDigit_injective {m n : ℕ} (hm : m < 16) (hn : n < 16) (h : hexDigit m = hexDigit n) :
    m = n := by
  have all : ∀ m < 16, ∀ n < 16, hexDigit m = hexDigit n → m = n := by decide
  exact all m hm n hn h

lemma hexOfBytes_injective : Function.Injective hexOfBytes := by
  refine flatMap_injective two_pos (fun _ => rfl) ?_
  intro a b h
  have ha := a.toNat_lt
  have hb := b.toNat_lt
  obtain ⟨high, low⟩ := List.cons.inj h
  have high := hexDigit_injective (by omega) (by omega) high
  have low := hexDigit_injective (by omega) (by omega) (List.cons.inj low).1
  exact UInt8.toNat_inj.mp (by omega)

end Text

namespace Sha256

lemma bytesOfWord_injective : Function.Injective bytesOfWord := by
  have byte : ∀ (x n : UInt32), (x >>> n).toUInt8.toNat = x.toNat / 2 ^ (n.toNat % 32) % 2 ^ 8 :=
    fun x n => by
      rw [UInt32.toNat_toUInt8, UInt32.toNat_shiftRight, Nat.shiftRight_eq_div_pow]
  intro a b h
  have same : ∀ n, (a >>> n).toUInt8 = (b >>> n).toUInt8 →
      a.toNat / 2 ^ (n.toNat % 32) % 2 ^ 8 = b.toNat / 2 ^ (n.toNat % 32) % 2 ^ 8 := by
    intro n equal
    calc a.toNat / 2 ^ (n.toNat % 32) % 2 ^ 8 = (a >>> n).toUInt8.toNat := (byte a n).symm
      _ = (b >>> n).toUInt8.toNat := by rw [equal]
      _ = b.toNat / 2 ^ (n.toNat % 32) % 2 ^ 8 := byte b n
  have ha := a.toNat_lt
  have hb := b.toNat_lt
  obtain ⟨first, h⟩ := List.cons.inj h
  obtain ⟨second, h⟩ := List.cons.inj h
  obtain ⟨third, h⟩ := List.cons.inj h
  have first : a.toNat / 2 ^ 24 % 2 ^ 8 = b.toNat / 2 ^ 24 % 2 ^ 8 := same 24 first
  have second : a.toNat / 2 ^ 16 % 2 ^ 8 = b.toNat / 2 ^ 16 % 2 ^ 8 := same 16 second
  have third : a.toNat / 2 ^ 8 % 2 ^ 8 = b.toNat / 2 ^ 8 % 2 ^ 8 := same 8 third
  have fourth : a.toNat % 2 ^ 8 = b.toNat % 2 ^ 8 := congrArg UInt8.toNat (List.cons.inj h).1
  exact UInt32.toNat_inj.mp (by omega)

/-- The digits of a digest determine it. -/
lemma digest_eq_of_hex_eq {a b : Text.Bytes} (h : hex a = hex b) : digest a = digest b :=
  flatMap_injective four_pos (fun _ => rfl) bytesOfWord_injective
    (Text.hexOfBytes_injective (String.ofList_injective h))

end Sha256

namespace Cache

/-- The bytes of a call determine its tool and the canonical form of its arguments. -/
lemma keyMaterial_injective {t₁ t₂ : String} {a₁ a₂ : Json}
    (h : keyMaterial t₁ a₁ = keyMaterial t₂ a₂) : t₁ = t₂ ∧ a₁.canonical = a₂.canonical := by
  have same := Json.chars_injective (Text.encode_injective h)
  simpa using same

/-- **Two calls share a key if they are the same up to the order of object members,
and otherwise only if their digests collide.** The bytes that are digested are
equal in the first case and different in the second. -/
theorem key_separates {t₁ t₂ : String} {a₁ a₂ : Json} (h₁ : a₁.WellFormed) (h₂ : a₂.WellFormed) :
    (keyMaterial t₁ a₁ = keyMaterial t₂ a₂ ↔ t₁ = t₂ ∧ a₁.Same a₂)
    ∧ (t₁ = t₂ ∧ a₁.Same a₂ → keyOf t₁ a₁ = keyOf t₂ a₂)
    ∧ (¬ (t₁ = t₂ ∧ a₁.Same a₂) → keyOf t₁ a₁ = keyOf t₂ a₂ →
        keyMaterial t₁ a₁ ≠ keyMaterial t₂ a₂ ∧
          Sha256.digest (keyMaterial t₁ a₁) = Sha256.digest (keyMaterial t₂ a₂)) := by
  have material : keyMaterial t₁ a₁ = keyMaterial t₂ a₂ ↔ t₁ = t₂ ∧ a₁.Same a₂ := by
    rw [Json.same_iff h₁ h₂]
    refine ⟨keyMaterial_injective, ?_⟩
    rintro ⟨rfl, canonical⟩
    rw [keyMaterial, keyMaterial, canonical]
  refine ⟨material, fun same => ?_, fun different shared => ⟨?_, ?_⟩⟩
  · rw [keyOf, keyOf, material.mpr same]
  · exact fun equal => different (material.mp equal)
  · exact Sha256.digest_eq_of_hex_eq shared

/-- Two orders of the members of one object. -/
theorem key_separates_reordered :
    let a₁ := Json.object [("a", .null), ("b", .array [.bool true])]
    let a₂ := Json.object [("b", .array [.bool true]), ("a", .null)]
    a₁.WellFormed ∧ a₂.WellFormed ∧ keyOf "echo" a₁ = keyOf "echo" a₂ ∧
      keyMaterial "echo" a₁ ≠ keyMaterial "echo" .null := by
  intro a₁ a₂
  have h₁ : a₁.WellFormed := ⟨by decide, trivial, ⟨trivial, trivial⟩, trivial⟩
  have h₂ : a₂.WellFormed := ⟨by decide, ⟨trivial, trivial⟩, trivial, trivial⟩
  have same : a₁.Same a₂ :=
    .object (.cons .null (.cons (.array (.cons (.bool true) .nil)) .nil)) (.swap _ _ _)
  have none : Json.null.WellFormed := trivial
  refine ⟨h₁, h₂, (key_separates h₁ h₂).2.1 ⟨rfl, same⟩, ?_⟩
  intro equal
  have other : (Json.object _).Same .null := ((key_separates h₁ none).1.mp equal).2
  cases other

end Cache

end ToolServer
