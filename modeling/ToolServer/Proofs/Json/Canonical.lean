/-
Values that differ in the order of object members only:

* `WellFormed`: no object has two members with the same key;
* `Same`: equality up to the order of the members of objects, at every depth;
* `sortMembers_perm`, `sortMembers_eq_of_perm`: sorting keeps the members, if
  their keys are distinct, and forgets their order;
* `same_iff`: two well-formed values are the same if and only if their canonical
  forms are equal;
* `wellFormed_canonical`: canonical forms are well-formed.
-/
import Mathlib.Data.List.Perm.Basic
import Mathlib.Data.String.Basic
import Mathlib.Tactic
import ToolServer.Json.Value

namespace ToolServer.Json

/-! ### Well-formed values -/

mutual

/-- Whether the keys of every object in a value are distinct. -/
def WellFormed : Json → Prop
  | .array items => AreWellFormed items
  | .object members => (members.map Prod.fst).Nodup ∧ HaveWellFormed members
  | .null | .bool _ | .number _ | .string _ => True

/-- Whether some values are well-formed. -/
def AreWellFormed : List Json → Prop
  | [] => True
  | v :: rest => v.WellFormed ∧ AreWellFormed rest

/-- Whether the values of some members are well-formed. -/
def HaveWellFormed : List (String × Json) → Prop
  | [] => True
  | (_, v) :: rest => v.WellFormed ∧ HaveWellFormed rest

end

lemma haveWellFormed_iff {ms : List (String × Json)} :
    HaveWellFormed ms ↔ ∀ m ∈ ms, m.2.WellFormed := by
  induction ms with
  | nil => simp [HaveWellFormed]
  | cons m ms ih => simp [HaveWellFormed, ih]

/-! ### Values that are the same -/

mutual

/-- Equality of values up to the order of the members of objects. -/
inductive Same : Json → Json → Prop
  | null : Same .null .null
  | bool (b : Bool) : Same (.bool b) (.bool b)
  | number (n : Number) : Same (.number n) (.number n)
  | string (s : String) : Same (.string s) (.string s)
  | array {vs ws : List Json} (items : AreSame vs ws) : Same (.array vs) (.array ws)
  | object {ms ns ns' : List (String × Json)} (members : HaveSame ms ns) (order : ns.Perm ns') :
      Same (.object ms) (.object ns')

/-- Equality of the values of two lists, one by one. -/
inductive AreSame : List Json → List Json → Prop
  | nil : AreSame [] []
  | cons {v w : Json} {vs ws : List Json} (first : Same v w) (rest : AreSame vs ws) :
      AreSame (v :: vs) (w :: ws)

/-- Equality of the keys and the values of two lists of members, one by one. -/
inductive HaveSame : List (String × Json) → List (String × Json) → Prop
  | nil : HaveSame [] []
  | cons {key : String} {v w : Json} {ms ns : List (String × Json)} (first : Same v w)
      (rest : HaveSame ms ns) : HaveSame ((key, v) :: ms) ((key, w) :: ns)

end

/-! ### Sorted members -/

/-- Whether the keys of some members are increasing. -/
def Increasing (ms : List (String × Json)) : Prop :=
  ms.Pairwise fun m n => m.1 < n.1

lemma mem_insertMember {key : String} {v : Json} {ms : List (String × Json)}
    {m : String × Json} (h : m ∈ insertMember key v ms) : m = (key, v) ∨ m ∈ ms := by
  induction ms with
  | nil => exact .inl (List.mem_singleton.mp h)
  | cons n ms ih =>
      obtain ⟨k, w⟩ := n
      rw [insertMember] at h
      split_ifs at h
      · exact List.mem_cons.mp h
      · exact (List.mem_cons.mp h).imp_right (List.mem_cons_of_mem _)
      · rcases List.mem_cons.mp h with rfl | h
        · exact .inr List.mem_cons_self
        · exact (ih h).imp_right (List.mem_cons_of_mem _)

/-- Members stay sorted when one is put in its place. -/
lemma Increasing.insertMember {ms : List (String × Json)} (h : Increasing ms) (key : String)
    (v : Json) : Increasing (insertMember key v ms) := by
  induction ms with
  | nil => exact List.pairwise_singleton _ _
  | cons m ms ih =>
      obtain ⟨k, w⟩ := m
      obtain ⟨first, rest⟩ := List.pairwise_cons.mp h
      rw [Json.insertMember]
      split_ifs with before same
      · refine List.pairwise_cons.mpr ⟨?_, h⟩
        intro n hn
        rcases List.mem_cons.mp hn with rfl | hn
        · exact before
        · exact before.trans (first n hn)
      · subst same
        exact List.pairwise_cons.mpr ⟨first, rest⟩
      · refine List.pairwise_cons.mpr ⟨?_, ih rest⟩
        intro n hn
        rcases mem_insertMember hn with rfl | hn
        · exact lt_of_le_of_ne (not_lt.mp before) fun eq => same eq.symm
        · exact first n hn

/-- A member with a new key is put among the others. -/
lemma insertMember_perm {key : String} {ms : List (String × Json)} (v : Json)
    (absent : key ∉ ms.map Prod.fst) : (insertMember key v ms).Perm ((key, v) :: ms) := by
  induction ms with
  | nil => exact .refl _
  | cons m ms ih =>
      obtain ⟨k, w⟩ := m
      rw [List.map_cons, List.mem_cons, not_or] at absent
      rw [insertMember]
      split_ifs with before same
      · exact .refl _
      · exact absurd same absent.1
      · exact ((ih absent.2).cons _).trans (.swap _ _ _)

lemma increasing_sortMembers (ms : List (String × Json)) : Increasing (sortMembers ms) := by
  have key : ∀ (ms sorted : List (String × Json)), Increasing sorted →
      Increasing (ms.foldl (fun sorted m => insertMember m.1 m.2 sorted) sorted) := by
    intro ms
    induction ms with
    | nil => exact fun sorted h => h
    | cons m ms ih => exact fun sorted h => ih _ (h.insertMember m.1 m.2)
  exact key ms [] .nil

/-- Sorting keeps members with distinct keys. -/
lemma sortMembers_perm {ms : List (String × Json)} (distinct : (ms.map Prod.fst).Nodup) :
    (sortMembers ms).Perm ms := by
  have key : ∀ (ms sorted : List (String × Json)), ((sorted ++ ms).map Prod.fst).Nodup →
      (ms.foldl (fun sorted m => insertMember m.1 m.2 sorted) sorted).Perm (sorted ++ ms) := by
    intro ms
    induction ms with
    | nil => exact fun sorted _ => by rw [List.append_nil]; exact .refl _
    | cons m ms ih =>
        intro sorted h
        have order : (m :: sorted ++ ms).Perm (sorted ++ m :: ms) := List.perm_middle.symm
        have h' := (order.map Prod.fst).nodup_iff.mpr h
        have absent : m.1 ∉ sorted.map Prod.fst := by
          rw [List.cons_append, List.map_cons, List.nodup_cons, List.map_append] at h'
          exact fun there => h'.1 (List.mem_append_left _ there)
        have put : (insertMember m.1 m.2 sorted).Perm (m :: sorted) :=
          insertMember_perm m.2 absent
        have more := put.append_right ms
        calc ((m :: ms).foldl (fun sorted m => insertMember m.1 m.2 sorted) sorted).Perm
              (insertMember m.1 m.2 sorted ++ ms) := ih _ ((more.map Prod.fst).nodup_iff.mpr h')
          List.Perm _ (m :: sorted ++ ms) := more
          List.Perm _ (sorted ++ m :: ms) := order
  exact key ms [] distinct

/-- Sorting forgets the order of members with distinct keys. -/
lemma sortMembers_eq_of_perm {ms ns : List (String × Json)} (order : ms.Perm ns)
    (distinct : (ns.map Prod.fst).Nodup) : sortMembers ms = sortMembers ns := by
  have distinct' : (ms.map Prod.fst).Nodup := (order.map Prod.fst).nodup_iff.mpr distinct
  refine List.Perm.eq_of_pairwise (fun m n _ _ lt gt => absurd gt (lt_asymm lt))
    (increasing_sortMembers ms) (increasing_sortMembers ns) ?_
  calc (sortMembers ms).Perm ms := sortMembers_perm distinct'
    ms.Perm ns := order
    ns.Perm (sortMembers ns) := (sortMembers_perm distinct).symm

/-- What is in the order of another list after a map is a map of that list in some
order. -/
lemma exists_perm_of_perm_map {α β : Type} {f : α → β} {bs : List β} {as : List α}
    (h : bs.Perm (as.map f)) : ∃ cs : List α, bs = cs.map f ∧ cs.Perm as := by
  have swap := congrFun (congrFun (List.eq_map_comp_perm f) bs) as
  exact swap.mpr h

/-! ### Canonical forms -/

lemma canonicalMembers_eq_map (ms : List (String × Json)) :
    canonicalMembers ms = ms.map fun m => (m.1, m.2.canonical) := by
  induction ms with
  | nil => rfl
  | cons m ms ih => rw [canonicalMembers, ih, List.map_cons]

lemma keys_canonicalMembers (ms : List (String × Json)) :
    (canonicalMembers ms).map Prod.fst = ms.map Prod.fst := by
  rw [canonicalMembers_eq_map, List.map_map]
  rfl

mutual

/-- Values that are the same have one canonical form. -/
lemma Same.canonical_eq {v w : Json} : Same v w → w.WellFormed → v.canonical = w.canonical
  | .null, _ | .bool _, _ | .number _, _ | .string _, _ => rfl
  | .array items, h => by rw [canonical, canonical, items.canonical_eq h]
  | .object members order, h => by
      have well := haveWellFormed_iff.mpr fun m hm =>
        haveWellFormed_iff.mp h.2 m (order.mem_iff.mp hm)
      rw [canonical, canonical, ofMembers, ofMembers, members.canonical_eq well,
        sortMembers_eq_of_perm _ (by rw [keys_canonicalMembers]; exact h.1)]
      rw [canonicalMembers_eq_map, canonicalMembers_eq_map]
      exact order.map _

lemma AreSame.canonical_eq {vs ws : List Json} : AreSame vs ws → AreWellFormed ws →
    canonicalItems vs = canonicalItems ws
  | .nil, _ => rfl
  | .cons first rest, h => by
      rw [canonicalItems, canonicalItems, first.canonical_eq h.1, rest.canonical_eq h.2]

lemma HaveSame.canonical_eq {ms ns : List (String × Json)} : HaveSame ms ns →
    HaveWellFormed ns → canonicalMembers ms = canonicalMembers ns
  | .nil, _ => rfl
  | .cons first rest, h => by
      rw [canonicalMembers, canonicalMembers, first.canonical_eq h.1, rest.canonical_eq h.2]

end

mutual

/-- Values with one canonical form are the same. -/
lemma same_of_canonical_eq : ∀ (v w : Json), v.WellFormed → w.WellFormed →
    v.canonical = w.canonical → Same v w
  | .null, w, _, _, h => by
      cases w with
      | null => exact .null
      | _ => simp [canonical, ofMembers] at h
  | .bool b, w, _, _, h => by
      cases w with
      | bool c => simp only [canonical, Json.bool.injEq] at h; exact h ▸ .bool b
      | _ => simp [canonical, ofMembers] at h
  | .number n, w, _, _, h => by
      cases w with
      | number m => simp only [canonical, Json.number.injEq] at h; exact h ▸ .number n
      | _ => simp [canonical, ofMembers] at h
  | .string s, w, _, _, h => by
      cases w with
      | string t => simp only [canonical, Json.string.injEq] at h; exact h ▸ .string s
      | _ => simp [canonical, ofMembers] at h
  | .array vs, w, hv, hw, h => by
      cases w with
      | array ws =>
          simp only [canonical, Json.array.injEq] at h
          exact .array (areSame_of_canonical_eq vs ws hv hw h)
      | _ => simp [canonical, ofMembers] at h
  | .object ms, w, hv, hw, h => by
      cases w with
      | object ns' =>
          simp only [canonical, ofMembers, Json.object.injEq] at h
          have sorted : (canonicalMembers ms).Perm (canonicalMembers ns') := by
            refine (sortMembers_perm ?_).symm.trans (h ▸ sortMembers_perm ?_)
            · rw [keys_canonicalMembers]
              exact hv.1
            · rw [keys_canonicalMembers]
              exact hw.1
          -- the members of the second object, in the order of the first
          obtain ⟨ns, same, order⟩ : ∃ ns, canonicalMembers ms = canonicalMembers ns ∧
              ns.Perm ns' := by
            rw [canonicalMembers_eq_map ns'] at sorted
            obtain ⟨ns, same, order⟩ := exists_perm_of_perm_map sorted
            exact ⟨ns, same.trans (canonicalMembers_eq_map ns).symm, order⟩
          have well := haveWellFormed_iff.mpr fun m hm =>
            haveWellFormed_iff.mp hw.2 m (order.mem_iff.mp hm)
          exact .object (haveSame_of_canonical_eq ms ns hv.2 well same) order
      | _ => simp [canonical, ofMembers] at h

lemma areSame_of_canonical_eq : ∀ (vs ws : List Json), AreWellFormed vs → AreWellFormed ws →
    canonicalItems vs = canonicalItems ws → AreSame vs ws
  | [], [], _, _, _ => .nil
  | v :: vs, w :: ws, hv, hw, h => by
      obtain ⟨first, rest⟩ := List.cons.inj h
      exact .cons (same_of_canonical_eq v w hv.1 hw.1 first)
        (areSame_of_canonical_eq vs ws hv.2 hw.2 rest)

lemma haveSame_of_canonical_eq : ∀ (ms ns : List (String × Json)), HaveWellFormed ms →
    HaveWellFormed ns → canonicalMembers ms = canonicalMembers ns → HaveSame ms ns
  | [], [], _, _, _ => .nil
  | (k, v) :: ms, (l, w) :: ns, hv, hw, h => by
      obtain ⟨first, rest⟩ := List.cons.inj h
      obtain ⟨rfl, value⟩ := Prod.mk.inj first
      exact .cons (same_of_canonical_eq v w hv.1 hw.1 value)
        (haveSame_of_canonical_eq ms ns hv.2 hw.2 rest)

end

/-- **Two values are the same if and only if their canonical forms are equal.** -/
theorem same_iff {v w : Json} (hv : v.WellFormed) (hw : w.WellFormed) :
    Same v w ↔ v.canonical = w.canonical :=
  ⟨fun h => h.canonical_eq hw, same_of_canonical_eq v w hv hw⟩

lemma mem_of_mem_sortMembers {ms : List (String × Json)} {m : String × Json}
    (h : m ∈ sortMembers ms) : m ∈ ms := by
  have key : ∀ (ms sorted : List (String × Json)),
      m ∈ ms.foldl (fun sorted m => insertMember m.1 m.2 sorted) sorted → m ∈ sorted ∨ m ∈ ms := by
    intro ms
    induction ms with
    | nil => exact fun sorted h => .inl h
    | cons n ms ih =>
        intro sorted h
        rcases ih _ h with put | later
        · rcases mem_insertMember put with rfl | before
          · exact .inr List.mem_cons_self
          · exact .inl before
        · exact .inr (List.mem_cons_of_mem _ later)
  exact (key ms [] h).resolve_left List.not_mem_nil

mutual

/-- A canonical form is well-formed, whatever it was made from. -/
lemma wellFormed_canonical : ∀ v : Json, v.canonical.WellFormed
  | .null | .bool _ | .number _ | .string _ => trivial
  | .array vs => areWellFormed_canonicalItems vs
  | .object ms => by
      refine ⟨List.pairwise_map.mpr ((increasing_sortMembers _).imp fun lt => ne_of_lt lt), ?_⟩
      exact haveWellFormed_iff.mpr fun m hm =>
        haveWellFormed_iff.mp (haveWellFormed_canonicalMembers ms) m (mem_of_mem_sortMembers hm)

lemma areWellFormed_canonicalItems : ∀ vs : List Json, AreWellFormed (canonicalItems vs)
  | [] => trivial
  | v :: vs => ⟨wellFormed_canonical v, areWellFormed_canonicalItems vs⟩

lemma haveWellFormed_canonicalMembers :
    ∀ ms : List (String × Json), HaveWellFormed (canonicalMembers ms)
  | [] => trivial
  | (_, v) :: ms => ⟨wellFormed_canonical v, haveWellFormed_canonicalMembers ms⟩

end

end ToolServer.Json
