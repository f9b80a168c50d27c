/-
The order in which a store forgets:

* `Operation`, `Swept.apply`: an operation on a store, and the store after it;
* `History`, `History.run`: a store with the keys that have been touched in it,
  after any list of operations at any times;
* `Store.Recent`: the invariant of a store. Its entries stand in the order of
  last touch;
* `recent_apply`, `recent_run`: no operation breaks the invariant, so that it
  holds at any time;
* `Leaves`: the ways in which an entry leaves a store;
* `store_forgets_oldest`: what is in a store, and what leaves it.

An entry that is past its time keeps its place until somebody finds it.
-/
import Mathlib.Tactic
import ToolServer.Cache.Sweep

namespace ToolServer.Cache

open ToolServer.Text (Bytes)

/-! ### Operations -/

/-- Something that is done with a store. -/
inductive Operation
  /-- A key is looked up. -/
  | get (key : String)
  /-- A key is set. -/
  | set (key : String) (value : Bytes) (ttl : Nat)
  /-- A key is taken out. -/
  | delete (key : String)
  /-- Everything is taken out. -/
  | clear
  /-- The store is given up. -/
  | close
  /-- All entries are taken out that are past their time. -/
  | cleanExpired

/-- The store after an operation at some time. -/
def Swept.apply (s : Swept) (now : Nat) : Operation → Swept
  | .get key => { s with store := (s.store.get now key).2 }
  | .set key value ttl => { s with store := s.store.set now key value ttl }
  | .delete key => { s with store := (s.store.delete key).2 }
  | .clear => { s with store := s.store.clear }
  | .close => s.close
  | .cleanExpired => { s with store := (s.store.cleanExpired now).2 }

namespace Store

/-- The keys of a store, the most recently touched first. -/
def keys (s : Store) : List String :=
  s.entries.map Entry.key

/-- The key that an operation touches: one that is set, or looked up and found
alive. -/
def touched? (s : Store) (now : Nat) : Operation → Option String
  | .get key =>
    match (s.get now key).1 with
    | .ok _ => some key
    | .error _ => none
  | .set key .. => some key
  | .delete _ | .clear | .close | .cleanExpired => none

end Store

/-- A store and the keys that have been touched in it, the latest first. -/
structure History where
  now : Swept
  touched : List String := []

namespace History

/-- What comes of an operation at some time. -/
def next (h : History) (op : Nat × Operation) : History :=
  ⟨h.now.apply op.1 op.2, (h.now.store.touched? op.1 op.2).toList ++ h.touched⟩

/-- What comes of a list of operations on a new store without sweeps of its own. -/
def run (maxEntries defaultTtl : Nat) (ops : List (Nat × Operation)) : History :=
  ops.foldl next { now := { store := .new maxEntries defaultTtl, interval := 0 } }

lemma run_concat (maxEntries defaultTtl : Nat) (ops : List (Nat × Operation))
    (op : Nat × Operation) :
    run maxEntries defaultTtl (ops ++ [op]) = (run maxEntries defaultTtl ops).next op := by
  rw [run, List.foldl_append]
  rfl

end History

/-! ### What operations do to the entries -/

namespace Store

lemma find?_eq_none_iff {s : Store} {key : String} :
    s.find? key = none ↔ ∀ e ∈ s.entries, e.key ≠ key := by
  simp [find?]

lemma mem_of_find? {s : Store} {key : String} {e : Entry} (h : s.find? key = some e) :
    e ∈ s.entries :=
  List.mem_of_find?_eq_some h

/-- An entry is found under its own key. -/
lemma key_of_find? {s : Store} {key : String} {e : Entry} (h : s.find? key = some e) :
    e.key = key := by
  simpa using List.find?_some h

@[simp] lemma mem_others {s : Store} {key : String} {e : Entry} :
    e ∈ s.others key ↔ e ∈ s.entries ∧ e.key ≠ key := by
  simp [others]

/-- A key that is not there leaves all entries to the others. -/
lemma others_of_absent {s : Store} {key : String} (absent : s.find? key = none) :
    s.others key = s.entries := by
  rw [others, List.filter_eq_self]
  exact fun e he => by simpa using find?_eq_none_iff.mp absent e he

/-- A look-up finds nothing, finds an entry past its time and takes it out, or
finds an entry alive and puts it first. -/
lemma get_cases (s : Store) (now : Nat) (key : String) :
    (s.find? key = none ∧ (s.get now key).1 = .error .notFound ∧
      (s.get now key).2.entries = s.entries)
    ∨ (∃ e, s.find? key = some e ∧ e.isExpired now = true ∧ (s.get now key).1 = .error .expired ∧
      (s.get now key).2.entries = s.others key)
    ∨ ∃ e, s.find? key = some e ∧ e.isExpired now = false ∧
      (s.get now key).1 = .ok { e with hits := e.hits + 1 } ∧
      (s.get now key).2.entries = { e with hits := e.hits + 1 } :: s.others key := by
  rw [get]
  cases found : s.find? key with
  | none => exact .inl ⟨rfl, rfl, rfl⟩
  | some e =>
      cases expired : e.isExpired now with
      | true => exact .inr (.inl ⟨e, rfl, expired, by simp [expired], by simp [expired]⟩)
      | false => exact .inr (.inr ⟨e, rfl, expired, by simp [expired], by simp [expired]⟩)

lemma mustEvict_iff {s : Store} {key : String} :
    s.mustEvict key = true ↔ s.find? key = none ∧ s.capacity ≤ s.entries.length := by
  simp [mustEvict]

lemma set_entries_of_mustEvict {s : Store} {key : String} (evict : s.mustEvict key = true)
    (now : Nat) (value : Bytes) (ttl : Nat) :
    (s.set now key value ttl).entries
      = .new key value now (s.effectiveTtl ttl) :: s.entries.dropLast := by
  simp [set, evict]

lemma set_entries_of_room {s : Store} {key : String} (room : s.mustEvict key = false)
    (now : Nat) (value : Bytes) (ttl : Nat) :
    (s.set now key value ttl).entries
      = .new key value now (s.effectiveTtl ttl) :: s.others key := by
  simp [set, room]

lemma delete_entries (s : Store) (key : String) : (s.delete key).2.entries = s.others key := by
  rw [delete]
  cases found : s.find? key with
  | none => exact (others_of_absent found).symm
  | some e => rfl

@[simp] lemma get_capacity (s : Store) (now : Nat) (key : String) :
    (s.get now key).2.capacity = s.capacity := by
  rw [get]
  split
  · rfl
  · split_ifs <;> rfl

@[simp] lemma set_capacity (s : Store) (now : Nat) (key : String) (value : Bytes) (ttl : Nat) :
    (s.set now key value ttl).capacity = s.capacity := by
  rw [set]
  split_ifs <;> rfl

@[simp] lemma delete_capacity (s : Store) (key : String) :
    (s.delete key).2.capacity = s.capacity := by
  rw [delete]
  split <;> rfl

end Store

/-- The size of a store is bounded by the same number at any time. -/
lemma Swept.apply_capacity (s : Swept) (now : Nat) (op : Operation) :
    (s.apply now op).store.capacity = s.store.capacity := by
  cases op <;> simp [apply, close, Store.clear, Store.cleanExpired]

/-! ### The invariant -/

/-- Whether the keys stand in the order of last touch, `touched` being the keys
that have been touched, the latest first. -/
def InOrder (touched keys : List String) : Prop :=
  (∀ k ∈ keys, k ∈ touched) ∧ keys.Pairwise fun k l => touched.idxOf k < touched.idxOf l

lemma InOrder.nodup {touched keys : List String} (h : InOrder touched keys) : keys.Nodup :=
  h.2.imp fun lt eq => by simp [eq] at lt

lemma InOrder.sublist {touched keys kept : List String} (h : InOrder touched keys)
    (le : kept.Sublist keys) : InOrder touched kept :=
  ⟨fun k hk => h.1 k (le.subset hk), h.2.sublist le⟩

/-- A key that is touched goes first. -/
lemma InOrder.touch {touched kept : List String} {key : String} (h : InOrder touched kept)
    (other : key ∉ kept) : InOrder (key :: touched) (key :: kept) := by
  have later : ∀ k ∈ kept, (key :: touched).idxOf k = touched.idxOf k + 1 := fun k hk =>
    List.idxOf_cons_ne _ fun eq => other (eq ▸ hk)
  refine ⟨?_, List.pairwise_cons.mpr ⟨?_, ?_⟩⟩
  · intro k hk
    rcases List.mem_cons.mp hk with rfl | hk
    · exact List.mem_cons_self
    · exact List.mem_cons_of_mem _ (h.1 k hk)
  · intro k hk
    rw [List.idxOf_cons_self, later k hk]
    exact Nat.succ_pos _
  · refine h.2.imp_of_mem fun {k l} hk hl lt => ?_
    rw [later k hk, later l hl]
    exact Nat.succ_lt_succ lt

namespace Store

/-- A store whose entries stand in the order of last touch, and which is not too
large. -/
structure Recent (touched : List String) (s : Store) : Prop where
  inOrder : InOrder touched s.keys
  bounded : s.entries.length ≤ s.capacity

/-- Some of the entries, in the same order, are as good as all. -/
lemma Recent.sublist {touched : List String} {s s' : Store} (h : s.Recent touched)
    (capacity : s'.capacity = s.capacity) (le : s'.entries.Sublist s.entries) :
    s'.Recent touched :=
  ⟨h.inOrder.sublist (le.map _), capacity ▸ le.length_le.trans h.bounded⟩

/-- An entry of a key that is touched goes in front of the others. -/
lemma Recent.touch {touched : List String} {s s' : Store} {e : Entry} {kept : List Entry}
    (h : s.Recent touched) (capacity : s'.capacity = s.capacity)
    (entries : s'.entries = e :: kept) (le : kept.Sublist s.entries)
    (other : ∀ x ∈ kept, x.key ≠ e.key) (room : kept.length < s.capacity) :
    s'.Recent (e.key :: touched) := by
  refine ⟨?_, ?_⟩
  · rw [keys, entries, List.map_cons]
    refine (h.inOrder.sublist (le.map _)).touch ?_
    intro there
    obtain ⟨x, hx, eq⟩ := List.mem_map.mp there
    exact other x hx eq
  · rw [entries, capacity]
    exact room

/-- Without an entry that is there, there is room for one. -/
lemma Recent.room_of_present {touched : List String} {s : Store} (h : s.Recent touched)
    {key : String} {e : Entry} (found : s.find? key = some e) :
    (s.others key).length < s.capacity := by
  have fewer : (s.others key).length < s.entries.length := by
    refine List.length_filter_lt_length_iff_exists.mpr ⟨e, mem_of_find? found, ?_⟩
    simp [key_of_find? found]
  calc (s.others key).length < s.entries.length := fewer
    _ ≤ s.capacity := h.bounded

lemma Recent.get {touched : List String} {s : Store} (h : s.Recent touched) (now : Nat)
    (key : String) :
    (s.get now key).2.Recent ((s.touched? now (.get key)).toList ++ touched) := by
  rcases s.get_cases now key with ⟨-, result, entries⟩ | ⟨e, -, -, result, entries⟩ |
    ⟨e, found, -, result, entries⟩
  · simp only [touched?, result]
    exact h.sublist (get_capacity ..) (by rw [entries])
  · simp only [touched?, result]
    exact h.sublist (get_capacity ..) (by rw [entries]; exact List.filter_sublist)
  · simp only [touched?, result]
    obtain rfl := key_of_find? found
    have first := h.touch (get_capacity ..) entries List.filter_sublist
      (fun x hx => (mem_others.mp hx).2) (h.room_of_present found)
    exact first

lemma Recent.set {touched : List String} {s : Store} (h : s.Recent touched)
    (positive : 0 < s.capacity) (now : Nat) (key : String) (value : Bytes) (ttl : Nat) :
    (s.set now key value ttl).Recent (key :: touched) := by
  cases evict : s.mustEvict key with
  | true =>
      have absent := find?_eq_none_iff.mp (mustEvict_iff.mp evict).1
      refine h.touch (set_capacity ..) (set_entries_of_mustEvict evict now value ttl)
        (List.dropLast_sublist _) (fun x hx => absent x (List.mem_of_mem_dropLast hx)) ?_
      rw [List.length_dropLast]
      have := h.bounded
      omega
  | false =>
      refine h.touch (set_capacity ..) (set_entries_of_room evict now value ttl)
        List.filter_sublist (fun x hx => (mem_others.mp hx).2) ?_
      cases found : s.find? key with
      | some e => exact h.room_of_present found
      | none =>
          rw [others_of_absent found]
          by_contra full
          rw [mustEvict_iff.mpr ⟨found, not_lt.mp full⟩] at evict
          exact Bool.noConfusion evict

end Store

/-- **No operation breaks the order.** -/
lemma recent_apply {touched : List String} {s : Swept} (h : s.store.Recent touched)
    (positive : 0 < s.store.capacity) (now : Nat) (op : Operation) :
    (s.apply now op).store.Recent ((s.store.touched? now op).toList ++ touched) := by
  cases op with
  | get key => exact h.get now key
  | set key value ttl => exact h.set positive now key value ttl
  | delete key =>
      refine h.sublist (s.store.delete_capacity key) ?_
      rw [Swept.apply, Store.delete_entries]
      exact List.filter_sublist
  | clear => exact h.sublist rfl (List.nil_sublist _)
  | close => exact h.sublist rfl (List.nil_sublist _)
  | cleanExpired => exact h.sublist rfl List.filter_sublist

/-- The bound of the size of a store is the one that it was made with. -/
lemma capacity_run (maxEntries defaultTtl : Nat) (ops : List (Nat × Operation)) :
    (History.run maxEntries defaultTtl ops).now.store.capacity = max maxEntries 1 := by
  induction ops using List.reverseRecOn with
  | nil => rfl
  | append_singleton ops op ih =>
      rw [History.run_concat, History.next, Swept.apply_capacity]
      exact ih

/-- **At any time the entries stand in the order of last touch.** -/
theorem recent_run (maxEntries defaultTtl : Nat) (ops : List (Nat × Operation)) :
    (History.run maxEntries defaultTtl ops).now.store.Recent
      (History.run maxEntries defaultTtl ops).touched := by
  induction ops using List.reverseRecOn with
  | nil => exact ⟨⟨by simp [History.run, Store.keys, Store.new], .nil⟩, Nat.zero_le _⟩
  | append_singleton ops op ih =>
      rw [History.run_concat]
      refine recent_apply ih ?_ op.1 op.2
      rw [capacity_run]
      exact Nat.lt_of_lt_of_le Nat.zero_lt_one (le_max_right _ _)

/-! ### What leaves a store -/

/-- Whether an entry is the one that was touched least recently. -/
def Store.IsOldest (touched : List String) (s : Store) (e : Entry) : Prop :=
  e ∈ s.entries ∧ ∀ x ∈ s.entries, x ≠ e → touched.idxOf x.key < touched.idxOf e.key

/-- The ways in which an entry leaves a store by an operation at some time. -/
inductive Leaves (touched : List String) (s : Store) (now : Nat) (e : Entry) : Operation → Prop
  /-- The store is full, another key is set, and the entry is the oldest one. -/
  | evicted {key : String} {value : Bytes} {ttl : Nat} (absent : s.find? key = none)
      (full : s.entries.length = s.capacity) (oldest : s.IsOldest touched e) :
      Leaves touched s now e (.set key value ttl)
  /-- Its key is taken out. -/
  | deleted : Leaves touched s now e (.delete e.key)
  /-- Its key is looked up past its time. -/
  | expired (past : e.isExpired now = true) : Leaves touched s now e (.get e.key)
  /-- Entries past their time are taken out. -/
  | swept (past : e.isExpired now = true) : Leaves touched s now e .cleanExpired
  /-- Everything is taken out. -/
  | cleared : Leaves touched s now e .clear
  /-- The store is given up. -/
  | closed : Leaves touched s now e .close

namespace Store

/-- The last entry is the oldest one. -/
lemma Recent.exists_oldest {touched : List String} {s : Store} (h : s.Recent touched)
    (nonempty : s.entries ≠ []) :
    ∃ oldest, s.IsOldest touched oldest ∧ s.entries.dropLast = s.entries.filter (· ≠ oldest) := by
  obtain ⟨init, last, entries⟩ : ∃ init last, s.entries = init ++ [last] :=
    ⟨_, _, (List.dropLast_append_getLast nonempty).symm⟩
  have older : ∀ x ∈ init, touched.idxOf x.key < touched.idxOf last.key := by
    have order := h.inOrder.2
    rw [keys, entries, List.map_append, List.pairwise_append] at order
    exact fun x hx => order.2.2 _ (List.mem_map_of_mem hx) _ (by simp)
  have ne : ∀ x ∈ init, x ≠ last := by
    rintro x hx rfl
    exact lt_irrefl _ (older x hx)
  refine ⟨last, ⟨by simp [entries], ?_⟩, ?_⟩
  · intro x hx hne
    rw [entries] at hx
    rcases List.mem_append.mp hx with hx | hx
    · exact older x hx
    · exact absurd (List.mem_singleton.mp hx) hne
  · rw [entries, List.dropLast_concat, List.filter_append,
      List.filter_eq_self.mpr fun x hx => by simpa using ne x hx]
    simp

/-- A key that is set in a full store without it takes the place of the oldest
entry. -/
lemma Recent.set_full {touched : List String} {s : Store} (h : s.Recent touched)
    (positive : 0 < s.capacity) {key : String} (absent : s.find? key = none)
    (full : s.entries.length = s.capacity) :
    ∃ oldest, s.IsOldest touched oldest ∧ ∀ now value ttl,
      (s.set now key value ttl).entries
        = .new key value now (s.effectiveTtl ttl) :: s.entries.filter (· ≠ oldest) := by
  have nonempty : s.entries ≠ [] := List.ne_nil_of_length_pos (full ▸ positive)
  obtain ⟨oldest, isOldest, rest⟩ := h.exists_oldest nonempty
  refine ⟨oldest, isOldest, ?_⟩
  intro now value ttl
  rw [set_entries_of_mustEvict (mustEvict_iff.mpr ⟨absent, full.ge⟩), rest]

/-- A key that is set in a store with it, or with room, takes nobody's place. -/
lemma set_roomy {s : Store} {key : String}
    (room : s.find? key ≠ none ∨ s.entries.length < s.capacity) (now : Nat) (value : Bytes)
    (ttl : Nat) :
    (s.set now key value ttl).entries
      = .new key value now (s.effectiveTtl ttl) :: s.others key := by
  refine set_entries_of_room (Bool.eq_false_iff.mpr ?_) now value ttl
  intro evict
  obtain ⟨absent, full⟩ := mustEvict_iff.mp evict
  rcases room with present | room
  · exact present absent
  · exact absurd room (not_lt.mpr full)

/-- A look-up that fails leaves the others as they are. -/
lemma get_failed {s : Store} {now : Nat} {key : String} {err : CacheError}
    (failed : (s.get now key).1 = .error err) : (s.get now key).2.entries = s.others key := by
  rcases s.get_cases now key with ⟨absent, -, entries⟩ | ⟨e, -, -, -, entries⟩ |
    ⟨e, -, -, result, -⟩
  · rw [entries, others_of_absent absent]
  · exact entries
  · rw [result] at failed
    cases failed

end Store

/-- An entry is there under its own key. -/
lemma Store.Recent.find?_of_mem {touched : List String} {s : Store} (h : s.Recent touched)
    {e : Entry} (there : e ∈ s.entries) : s.find? e.key = some e := by
  cases found : s.find? e.key with
  | none => exact absurd rfl (find?_eq_none_iff.mp found e there)
  | some x =>
      rw [List.inj_on_of_nodup_map h.inOrder.nodup (mem_of_find? found) there
        (key_of_find? found)]

/-- A look-up takes out no key but its own, and that only past its time. -/
lemma leaves_of_get {touched : List String} {s : Store} (h : s.Recent touched) {now : Nat}
    {key : String} {e : Entry} (there : e ∈ s.entries) (gone : e.key ∉ (s.get now key).2.keys) :
    Leaves touched s now e (.get key) := by
  have not_kept : e ∉ (s.get now key).2.entries := fun kept => gone (List.mem_map_of_mem kept)
  rcases s.get_cases now key with ⟨-, -, entries⟩ | ⟨x, hx, past, -, entries⟩ |
    ⟨x, hx, -, -, entries⟩
  · exact absurd (entries.symm ▸ there) not_kept
  · by_cases same : e.key = key
    · subst same
      obtain rfl := Option.some.inj ((h.find?_of_mem there).symm.trans hx)
      exact .expired past
    · exact absurd (entries.symm ▸ Store.mem_others.mpr ⟨there, same⟩) not_kept
  · by_cases same : e.key = key
    · refine absurd ?_ gone
      simp [Store.keys, entries, same, Store.key_of_find? hx]
    · exact absurd (entries.symm ▸ List.mem_cons_of_mem _ (Store.mem_others.mpr ⟨there, same⟩))
        not_kept

/-- A key that is set takes out the oldest entry, and that only if there is no room. -/
lemma leaves_of_set {touched : List String} {s : Store} (h : s.Recent touched) {now : Nat}
    {key : String} {value : Bytes} {ttl : Nat} {e : Entry} (there : e ∈ s.entries)
    (gone : e.key ∉ (s.set now key value ttl).keys) :
    Leaves touched s now e (.set key value ttl) := by
  have not_kept : e ∉ (s.set now key value ttl).entries := fun kept =>
    gone (List.mem_map_of_mem kept)
  cases evict : s.mustEvict key with
  | false =>
      have entries := Store.set_entries_of_room evict now value ttl
      by_cases same : e.key = key
      · refine absurd ?_ gone
        simp [Store.keys, entries, same, Entry.new]
      · exact absurd
          (entries.symm ▸ List.mem_cons_of_mem _ (Store.mem_others.mpr ⟨there, same⟩)) not_kept
  | true =>
      obtain ⟨absent, full⟩ := Store.mustEvict_iff.mp evict
      obtain ⟨oldest, isOldest, rest⟩ := h.exists_oldest (List.ne_nil_of_mem there)
      have entries := Store.set_entries_of_mustEvict evict now value ttl
      by_cases same : e = oldest
      · exact .evicted absent (le_antisymm h.bounded full) (same ▸ isOldest)
      · refine absurd (entries.symm ▸ List.mem_cons_of_mem _ ?_) not_kept
        rw [rest]
        simp [there, same]

/-- An entry whose key is gone after an operation has left in one of the ways. -/
lemma leaves_of_gone {touched : List String} {s : Swept} (h : s.store.Recent touched)
    {now : Nat} {op : Operation} {e : Entry} (there : e ∈ s.store.entries)
    (gone : e.key ∉ (s.apply now op).store.keys) : Leaves touched s.store now e op := by
  -- an entry that an operation keeps is not gone
  have not_kept : e ∉ (s.apply now op).store.entries := fun kept =>
    gone (List.mem_map_of_mem kept)
  cases op with
  | get key => exact leaves_of_get h there gone
  | set key value ttl => exact leaves_of_set h there gone
  | delete key =>
      by_cases same : e.key = key
      · exact same ▸ .deleted
      · exact absurd
          ((s.store.delete_entries key).symm ▸ Store.mem_others.mpr ⟨there, same⟩) not_kept
  | clear => exact .cleared
  | close => exact .closed
  | cleanExpired =>
      cases past : e.isExpired now with
      | true => exact .swept past
      | false => exact absurd (List.mem_filter.mpr ⟨there, by simp [past]⟩) not_kept

/-- **A store forgets what was touched least recently.** After any operations on
a new store, at any times:

* the keys are distinct, each entry is there under its own key, and there are no
  more than the store is made for;
* the entries stand in the order of last touch, the most recent one first;
* a key that is set in a full store without it takes the place of the oldest
  entry and of no other;
* a key that is set in a store with it, or with room, takes nobody's place;
* a look-up that fails leaves the others in their order;
* an entry leaves by no other way than `Leaves` says. -/
theorem store_forgets_oldest (maxEntries defaultTtl : Nat) (ops : List (Nat × Operation)) :
    let h := History.run maxEntries defaultTtl ops
    let s := h.now.store
    (s.keys.Nodup ∧ (∀ key e, s.find? key = some e → e.key = key) ∧
      (∀ e ∈ s.entries, s.find? e.key = some e) ∧ s.entries.length ≤ max maxEntries 1)
    ∧ ((∀ key ∈ s.keys, key ∈ h.touched) ∧
      s.keys.Pairwise fun newer older => h.touched.idxOf newer < h.touched.idxOf older)
    ∧ (∀ key, s.find? key = none → s.entries.length = max maxEntries 1 →
        ∃ oldest, s.IsOldest h.touched oldest ∧ ∀ now value ttl,
          (s.set now key value ttl).entries
            = .new key value now (s.effectiveTtl ttl) :: s.entries.filter (· ≠ oldest))
    ∧ (∀ now key value ttl, s.find? key ≠ none ∨ s.entries.length < max maxEntries 1 →
        (s.set now key value ttl).entries
          = .new key value now (s.effectiveTtl ttl) :: s.others key)
    ∧ (∀ now key err, (s.get now key).1 = .error err →
        (s.get now key).2.entries = s.others key)
    ∧ ∀ now op, ∀ e ∈ s.entries, e.key ∉ (h.now.apply now op).store.keys →
        Leaves h.touched s now e op := by
  intro h s
  have recent : s.Recent h.touched := recent_run maxEntries defaultTtl ops
  have capacity : s.capacity = max maxEntries 1 := capacity_run maxEntries defaultTtl ops
  have positive : 0 < s.capacity :=
    capacity ▸ Nat.lt_of_lt_of_le Nat.zero_lt_one (le_max_right _ _)
  refine ⟨⟨recent.inOrder.nodup, fun _ _ => Store.key_of_find?, fun _ => recent.find?_of_mem,
    capacity ▸ recent.bounded⟩, recent.inOrder, ?_, ?_, fun _ _ _ => Store.get_failed,
    fun _ _ _ there gone => leaves_of_gone recent there gone⟩
  · intro key absent full
    exact recent.set_full positive absent (full.trans capacity.symm)
  · intro now key value ttl room
    exact Store.set_roomy (capacity.symm ▸ room) now value ttl

end ToolServer.Cache
