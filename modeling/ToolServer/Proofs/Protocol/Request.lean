/-
The requests that objects stand for:

* `Json.isIdentifier`, `RequestId.toJson_of_ofJson?`: the values that are
  identifiers, and that an identifier is written as it was read;
* `Decode.Slots.value_field`: a field of a record with distinct keys is decided by
  the value of its key;
* `Request.IsRead`: the request that some members stand for;
* `Request.decode_eq_ok_iff`: decoding gives exactly this request, and fails where
  there is none.

A decoder looks for a field among all members and reports one that is there twice;
an object that has been read has every key once.
-/
import Mathlib.Tactic
import ToolServer.Protocol.Message

namespace ToolServer

/-! ### Identifiers -/

/-- Whether a value may be the identifier of a request: a string, or an integer of
64 bits. -/
def Json.isIdentifier : Json → Bool
  | .string _ => true
  | .number n => n.toInt?.any fun i => -0x8000000000000000 ≤ i ∧ i < 0x8000000000000000
  | _ => false

/-- A number is the only one of its value that is no floating-point number. -/
lemma Json.Number.ofInt?_of_toInt? {n : Number} {i : ℤ} (h : n.toInt? = some i) :
    ofInt? i = some n := by
  cases n with
  | natural n =>
      obtain rfl := Option.some.inj h
      have small : (n.toNat : ℤ) < 0x10000000000000000 := by exact_mod_cast n.toNat_lt
      simp [ofInt?, small]
  | negative n =>
      obtain rfl := Option.some.inj h
      have negative : ¬ (0 : ℤ) ≤ -(n.val : ℤ) - 1 := by omega
      rw [ofInt?, if_neg negative]
      simp
  | float x => cases h

/-- **An identifier is written as it was read.** -/
lemma RequestId.toJson_of_ofJson? {v : Json} {id : RequestId} (h : ofJson? v = some id) :
    id.toJson = v := by
  cases v with
  | string s =>
      obtain rfl := Option.some.inj h
      rfl
  | number n =>
      simp only [ofJson?] at h
      split at h
      · next i value =>
          split_ifs at h with range
          obtain rfl := Option.some.inj h
          have same : (Int64.ofInt i).toInt = i :=
            Int64.toInt_ofInt_of_le (by simpa using range.1) (by simpa using range.2)
          rw [toJson, same, Json.ofInt, Json.Number.ofInt?_of_toInt? value]
      · cases h
  | null | bool | array | object => cases h

/-- Exactly the identifiers are read. -/
lemma RequestId.isSome_ofJson? (v : Json) : (ofJson? v).isSome = v.isIdentifier := by
  cases v with
  | number n =>
      simp only [ofJson?, Json.isIdentifier]
      cases n.toInt? with
      | none => rfl
      | some i =>
          rw [Option.any_some]
          dsimp only
          split_ifs with range <;> simp [range]
  | string s => rfl
  | null | bool | array | object => rfl

/-! ### Fields of a record with distinct keys -/

/-- The members of an object. -/
def Json.members : Json → List (String × Json)
  | .object members => members
  | _ => []

/-- The members with a key are at most one, which is found by its key. -/
lemma Json.filter_key {members : List (String × Json)}
    (distinct : (members.map Prod.fst).Nodup) (key : String) :
    (members.filter fun m => m.1 = key) = ((lookup key members).map fun v => (key, v)).toList := by
  induction members with
  | nil => rfl
  | cons m members ih =>
      obtain ⟨fresh, distinct⟩ := List.nodup_cons.mp distinct
      have ih := ih distinct
      by_cases here : m.1 = key
      · have none : (members.filter fun m => m.1 = key) = [] := by
          refine List.filter_eq_nil_iff.mpr fun n hn same => fresh ?_
          rw [here, ← of_decide_eq_true same]
          exact List.mem_map_of_mem hn
        rw [List.filter_cons_of_pos (by simpa using here), none, lookup,
          List.find?_cons_of_pos (by simpa using here)]
        simp [← here]
      · rw [List.filter_cons_of_neg (by simpa using here), ih, lookup, lookup,
          List.find?_cons_of_neg (by simpa using here)]

namespace Decode.Slots

/-- A field is the value of its key, or absent. -/
lemma value_field {β : Type} {members : List (String × Json)}
    (distinct : (members.map Prod.fst).Nodup) (expected name : String) (index : ℕ)
    (item : Decoder Json β) (absent : Option β) :
    ((Slots.mk (.named members) expected).field name index item absent).value
      = match Json.lookup name members with
        | some v => item v
        | none => match absent with
          | some v => .ok v
          | none => .error (.missing name) := by
  rw [field]
  dsimp only
  rw [Json.filter_key distinct]
  cases Json.lookup name members <;> rfl

section
variable {β : Type} {members : List (String × Json)} {expected : String} {index : ℕ}
  {item : Decoder Json β} {absent : Option β} {unset x : β} {v : Json}

lemma value_field_present (distinct : (members.map Prod.fst).Nodup) (name : String)
    (read : item v = .ok x) (written : Json.lookup name members = some v) :
    ((Slots.mk (.named members) expected).field name index item absent).value = .ok x := by
  rw [value_field distinct, written]
  exact read

lemma value_field_absent (distinct : (members.map Prod.fst).Nodup) (name : String)
    (left : Json.lookup name members = none) :
    ((Slots.mk (.named members) expected).field name index item (some unset)).value
      = .ok unset := by
  rw [value_field distinct, left]

end

end Decode.Slots

/-- A list is read if its items are. -/
lemma Decode.mapM_map_eq_ok {α β : Type} (write : β → α) {read : α → Except Mismatch β}
    {xs : List β} (h : ∀ x ∈ xs, read (write x) = .ok x) :
    (xs.map write).mapM read = .ok xs := by
  induction xs with
  | nil => rfl
  | cons x xs ih =>
      obtain ⟨first, rest⟩ := List.forall_mem_cons.mp h
      rw [List.map_cons, List.mapM_cons, first, ih rest]
      rfl

lemma Decode.string_eq_ok_iff {v : Json} {s : String} : string v = .ok s ↔ v = .string s := by
  cases v <;> simp [string, expect, Document.string?, Json.string?]

/-- A string that a record must have. -/
lemma Decode.Slots.string_field_iff {members : List (String × Json)}
    (distinct : (members.map Prod.fst).Nodup) {expected name s : String} {index : ℕ} :
    ((Slots.mk (.named members) expected).field name index string none).value = .ok s
      ↔ Json.lookup name members = some (.string s) := by
  rw [value_field distinct]
  cases Json.lookup name members with
  | none => simp
  | some v => simp [string_eq_ok_iff]

/-- What a record may have or not, where null is as good as nothing. -/
lemma Decode.Slots.optional_field_iff {β : Type} {members : List (String × Json)}
    (distinct : (members.map Prod.fst).Nodup) {expected name : String} {index : ℕ}
    {item : Decoder Json β} {found : Option β} :
    ((Slots.mk (.named members) expected).field name index (optional item) (some none)).value
        = .ok found
      ↔ ((Json.lookup name members).filter fun v => !v.isNull).map item = found.map .ok := by
  rw [value_field distinct]
  cases Json.lookup name members with
  | none => cases found <;> simp
  | some v =>
      cases null : v.isNull with
      | true => cases found <;> simp [optional, Document.isAbsent, null]
      | false =>
          cases read : item v <;> cases found <;>
            simp [optional, Document.isAbsent, null, read, Except.map]

/-- The identifier of a record that may have one. -/
lemma RequestId.field_iff {members : List (String × Json)}
    (distinct : (members.map Prod.fst).Nodup) {expected name : String} {index : ℕ}
    {found : Option RequestId} :
    ((Decode.Slots.mk (.named members) expected).field name index (Decode.optional decode)
        (some none)).value = .ok found
      ↔ ((Json.lookup name members).filter fun v => !v.isNull).map ofJson? = found.map some := by
  rw [Decode.Slots.optional_field_iff distinct]
  cases (Json.lookup name members).filter fun v => !v.isNull with
  | none => cases found <;> simp
  | some v => cases read : ofJson? v <;> cases found <;> simp [decode, read]

/-- Anything that a record may have or not. -/
lemma Decode.Slots.anything_field_iff {members : List (String × Json)}
    (distinct : (members.map Prod.fst).Nodup) {expected name : String} {index : ℕ}
    {found : Option Json} :
    ((Slots.mk (.named members) expected).field name index (optional anything)
        (some none)).value = .ok found
      ↔ (Json.lookup name members).filter (fun v => !v.isNull) = found := by
  rw [optional_field_iff distinct]
  cases (Json.lookup name members).filter fun v => !v.isNull <;> cases found <;> simp [anything]

/-! ### Requests -/

namespace Request

/-- The request that the members of an object stand for: the version and the method
are strings, and the identifier is one of the values that it may have, unless it is
absent or null. -/
structure IsRead (members : List (String × Json)) (r : Request) : Prop where
  version : Json.lookup "jsonrpc" members = some (.string r.version)
  id : ((Json.lookup "id" members).filter fun v => !v.isNull).map RequestId.ofJson?
    = r.id.map some
  method : Json.lookup "method" members = some (.string r.method)
  params : (Json.lookup "params" members).filter (fun v => !v.isNull) = r.params

/-- Members stand for one request at most. -/
lemma IsRead.unique {members : List (String × Json)} {r r' : Request} (h : IsRead members r)
    (h' : IsRead members r') : r = r' := by
  have version : r.version = r'.version := by
    simpa using h.version.symm.trans h'.version
  have id : r.id = r'.id := Option.map_injective (Option.some_injective _) (h.id.symm.trans h'.id)
  have method : r.method = r'.method := by
    simpa using h.method.symm.trans h'.method
  have params : r.params = r'.params := h.params.symm.trans h'.params
  cases r
  cases r'
  simp_all

/-- **Decoding gives exactly the request that the members stand for.** -/
theorem decode_eq_ok_iff {members : List (String × Json)}
    (distinct : (members.map Prod.fst).Nodup) {r : Request} :
    decode (.object members) = .ok r ↔ IsRead members r := by
  simp only [decode, Decode.slots, Decode.Document.record?, bind, Except.bind]
  split
  · next version id method params hv hi hm hp =>
      have read : IsRead members ⟨version, id, method, params⟩ :=
        ⟨(Decode.Slots.string_field_iff distinct).mp hv, (RequestId.field_iff distinct).mp hi,
          (Decode.Slots.string_field_iff distinct).mp hm,
          (Decode.Slots.anything_field_iff distinct).mp hp⟩
      simp only [Decode.Slots.exhausted, pure, Except.pure, Except.ok.injEq]
      constructor
      · rintro rfl
        exact read
      · exact fun h => read.unique h
  · next unread =>
      constructor
      · intro h
        cases h
      · intro h
        exact (unread _ _ _ _ ((Decode.Slots.string_field_iff distinct).mpr h.version)
          ((RequestId.field_iff distinct).mpr h.id)
          ((Decode.Slots.string_field_iff distinct).mpr h.method)
          ((Decode.Slots.anything_field_iff distinct).mpr h.params)).elim

end Request

end ToolServer
