/-
Stores of different size on which the same is done at the same times:

* `Store.Within`: the invariant of two stores. The entries of the smaller one are
  among those of the larger one, in the same order, and the larger one has at least
  as many places to spare;
* `Within.get`, `Within.set`, `Within.filter`: no operation breaks the invariant;
* `Within.get_ok`: what the smaller store finds the larger one finds as well;
* `larger_store_keeps_more`: so it is at any time, after any operations.

The entries alone do not make an invariant: a larger store that were full while the
smaller one is not would give up an entry that the smaller one keeps. The places to
spare rule that out.
-/
import ToolServer.Proofs.Cache.Recency

namespace ToolServer.Cache

open ToolServer.Text (Bytes)

/-- A condition leaves at most as many of some items out as of all. -/
lemma length_filter_of_sublist {α : Type} {some all : List α} (h : some.Sublist all)
    (p : α → Bool) :
    some.length + (all.filter p).length ≤ all.length + (some.filter p).length := by
  have fewer : some.countP (fun a => !p a) ≤ all.countP fun a => !p a := h.countP_le
  have some_length := List.length_eq_countP_add_countP p (l := some)
  have all_length := List.length_eq_countP_add_countP p (l := all)
  simp only [List.countP_eq_length_filter, Bool.not_eq_true] at *
  simp only [Bool.decide_eq_false] at some_length all_length
  omega

namespace Store

/-! ### Two stores -/

/-- A store whose entries are among those of a larger one, in the same order, while
that has at least as many places to spare. -/
structure Within (small large : Store) : Prop where
  entries : small.entries.Sublist large.entries
  defaultTtl : small.defaultTtl = large.defaultTtl
  spare : small.capacity + large.entries.length ≤ large.capacity + small.entries.length

variable {small large : Store} {touched : List String}

/-- What is there in the smaller store is there in the larger one. -/
lemma Within.find?_of_some (h : Within small large) (recent : large.Recent touched)
    {key : String} {e : Entry} (found : small.find? key = some e) :
    large.find? key = some e := by
  obtain rfl := key_of_find? found
  exact recent.find?_of_mem (h.entries.subset (mem_of_find? found))

lemma Within.find?_of_none (h : Within small large) {key : String}
    (absent : large.find? key = none) : small.find? key = none :=
  find?_eq_none_iff.mpr fun e there =>
    find?_eq_none_iff.mp absent e (h.entries.subset there)

/-- An entry that is there takes a place. -/
lemma length_others_lt {s : Store} {key : String} {e : Entry} (found : s.find? key = some e) :
    (s.others key).length < s.entries.length := by
  refine List.length_filter_lt_length_iff_exists.mpr ⟨e, mem_of_find? found, ?_⟩
  simp [key_of_find? found]

/-! ### Operations -/

/-- The same entries are taken out of both stores. -/
lemma Within.filter (h : Within small large) (p : Entry → Bool) {small' large' : Store}
    (left : small'.entries = small.entries.filter p)
    (right : large'.entries = large.entries.filter p)
    (defaults : small'.defaultTtl = small.defaultTtl ∧ large'.defaultTtl = large.defaultTtl)
    (capacities : small'.capacity = small.capacity ∧ large'.capacity = large.capacity) :
    Within small' large' := by
  have removed := length_filter_of_sublist h.entries p
  have spare := h.spare
  refine ⟨?_, ?_, ?_⟩
  · rw [left, right]
    exact h.entries.filter p
  · rw [defaults.1, defaults.2]
    exact h.defaultTtl
  · rw [left, right, capacities.1, capacities.2]
    omega

/-- A key is touched in both stores: the same entry goes first, and no other entry
of its key is left. -/
lemma Within.touch (h : Within small large) (key : String) (e : Entry) {small' large' : Store}
    (left : small'.entries = e :: small.others key)
    (right : large'.entries = e :: large.others key)
    (defaults : small'.defaultTtl = small.defaultTtl ∧ large'.defaultTtl = large.defaultTtl)
    (capacities : small'.capacity = small.capacity ∧ large'.capacity = large.capacity) :
    Within small' large' := by
  have removed : small.entries.length + (large.others key).length
      ≤ large.entries.length + (small.others key).length :=
    length_filter_of_sublist h.entries _
  have spare := h.spare
  refine ⟨?_, ?_, ?_⟩
  · rw [left, right]
    exact (h.entries.filter _).cons_cons e
  · rw [defaults.1, defaults.2]
    exact h.defaultTtl
  · rw [left, right, capacities.1, capacities.2, List.length_cons, List.length_cons]
    omega

@[simp] lemma get_defaultTtl (s : Store) (now : Nat) (key : String) :
    (s.get now key).2.defaultTtl = s.defaultTtl := by
  rw [get]
  split
  · rfl
  · split_ifs <;> rfl

@[simp] lemma set_defaultTtl (s : Store) (now : Nat) (key : String) (value : Bytes) (ttl : Nat) :
    (s.set now key value ttl).defaultTtl = s.defaultTtl := by
  rw [set]
  split_ifs <;> rfl

@[simp] lemma delete_defaultTtl (s : Store) (key : String) :
    (s.delete key).2.defaultTtl = s.defaultTtl := by
  rw [delete]
  split <;> rfl

/-- **A look-up keeps one store within the other**, also if it finds something in the
larger one only. -/
lemma Within.get (h : Within small large) (recent : large.Recent touched) (now : Nat)
    (key : String) : Within (small.get now key).2 (large.get now key).2 := by
  have defaults := And.intro (small.get_defaultTtl now key) (large.get_defaultTtl now key)
  have capacities := And.intro (small.get_capacity now key) (large.get_capacity now key)
  rcases large.get_cases now key with ⟨absent, -, right⟩ | ⟨e, found, past, -, right⟩ |
    ⟨e, found, alive, -, right⟩
  · -- nothing is there in either store
    rcases small.get_cases now key with ⟨-, -, left⟩ | ⟨e, found, -⟩ | ⟨e, found, -⟩
    · rw [← others_of_absent absent] at right
      rw [← others_of_absent (h.find?_of_none absent)] at left
      exact h.filter _ left right defaults capacities
    · simp [h.find?_of_none absent] at found
    · simp [h.find?_of_none absent] at found
  · -- an entry past its time is taken out wherever it is
    refine h.filter _ ?_ right defaults capacities
    rcases small.get_cases now key with ⟨absent, -, left⟩ | ⟨e', -, -, -, left⟩ |
      ⟨e', found', alive, -⟩
    · rw [left]
      exact (others_of_absent absent).symm
    · exact left
    · obtain rfl := Option.some.inj ((h.find?_of_some recent found').symm.trans found)
      simp [past] at alive
  · rcases small.get_cases now key with ⟨absent, -, left⟩ | ⟨e', found', past, -⟩ |
      ⟨e', found', -, -, left⟩
    · -- the larger store puts an entry first that the smaller one has no more
      have spare := h.spare
      have fewer := length_others_lt found
      refine ⟨?_, ?_, ?_⟩
      · rw [left, right, ← others_of_absent absent]
        exact (h.entries.filter _).cons _
      · rw [defaults.1, defaults.2]
        exact h.defaultTtl
      · rw [left, right, capacities.1, capacities.2, List.length_cons]
        omega
    · obtain rfl := Option.some.inj ((h.find?_of_some recent found').symm.trans found)
      simp [past] at alive
    · obtain rfl := Option.some.inj ((h.find?_of_some recent found').symm.trans found)
      exact h.touch key _ left right defaults capacities

/-- **Setting a key keeps one store within the other.** The larger store takes
somebody's place only if the smaller one does so, too. -/
lemma Within.set (h : Within small large) (bounded : small.entries.length ≤ small.capacity)
    (positive : 0 < small.capacity) (recent : large.Recent touched) (now : Nat) (key : String)
    (value : Bytes) (ttl : Nat) :
    Within (small.set now key value ttl) (large.set now key value ttl) := by
  have defaults := And.intro (small.set_defaultTtl now key value ttl)
    (large.set_defaultTtl now key value ttl)
  have capacities := And.intro (small.set_capacity now key value ttl)
    (large.set_capacity now key value ttl)
  have life : small.effectiveTtl ttl = large.effectiveTtl ttl := by
    rw [effectiveTtl, effectiveTtl, h.defaultTtl]
  have spare := h.spare
  cases evict : small.mustEvict key with
  | false =>
      have left := set_entries_of_room evict now value ttl
      have room : large.mustEvict key = false := by
        by_contra evict'
        obtain ⟨absent, full⟩ := mustEvict_iff.mp (Bool.of_not_eq_false evict')
        have vacant := mt mustEvict_iff.mpr (Bool.eq_false_iff.mp evict)
        exact vacant ⟨h.find?_of_none absent, by omega⟩
      have right := set_entries_of_room room now value ttl
      rw [life] at left
      exact h.touch key _ left right defaults capacities
  | true =>
      have left := set_entries_of_mustEvict evict now value ttl
      obtain ⟨absent, full⟩ := mustEvict_iff.mp evict
      rw [life] at left
      have length : (small.set now key value ttl).entries.length = small.entries.length := by
        rw [left, List.length_cons, List.length_dropLast]
        omega
      -- the larger store grows at most up to its bound
      cases evict' : large.mustEvict key with
      | true =>
          have right := set_entries_of_mustEvict evict' now value ttl
          refine ⟨?_, by rw [defaults.1, defaults.2, h.defaultTtl], ?_⟩
          · rw [left, right]
            have kept : small.entries.dropLast.Sublist large.entries.dropLast := by
              simpa using h.entries.reverse.tail.reverse
            exact kept.cons_cons _
          · have shorter := h.entries.length_le
            rw [length, right, capacities.1, capacities.2, List.length_cons,
              List.length_dropLast]
            omega
      | false =>
          have right := set_entries_of_room evict' now value ttl
          refine ⟨?_, by rw [defaults.1, defaults.2, h.defaultTtl], ?_⟩
          · rw [left, right, ← others_of_absent absent]
            exact ((List.dropLast_sublist _).trans (h.entries.filter _)).cons_cons _
          · have fits : (large.others key).length < large.capacity := by
              cases found : large.find? key with
              | some e => exact recent.room_of_present found
              | none =>
                  rw [others_of_absent found]
                  by_contra full'
                  rw [mustEvict_iff.mpr ⟨found, not_lt.mp full'⟩] at evict'
                  cases evict'
            rw [length, right, capacities.1, capacities.2, List.length_cons]
            omega

/-- **What the smaller store finds the larger one finds as well**, and it is the same. -/
lemma Within.get_ok (h : Within small large) (recent : large.Recent touched) {now : Nat}
    {key : String} {e : Entry} (hit : (small.get now key).1 = .ok e) :
    (large.get now key).1 = .ok e := by
  rcases small.get_cases now key with ⟨-, missed, -⟩ | ⟨e', -, -, missed, -⟩ |
    ⟨e', found, alive, there, -⟩
  · simp [missed] at hit
  · simp [missed] at hit
  · have found' := h.find?_of_some recent found
    rw [there] at hit
    simpa [Store.get, found', alive] using hit

end Store

/-! ### Any operations -/

/-- **No operation takes the entries of the smaller store out of the larger one.** -/
lemma within_apply {small large : Swept} {touched : List String}
    (h : Store.Within small.store large.store) (le : small.store.capacity ≤ large.store.capacity)
    (positive : 0 < small.store.capacity)
    (bounded : small.store.entries.length ≤ small.store.capacity)
    (recent : large.store.Recent touched) (now : Nat) (op : Operation) :
    Store.Within (small.apply now op).store (large.apply now op).store := by
  cases op with
  | get key => exact h.get recent now key
  | set key value ttl => exact h.set bounded positive recent now key value ttl
  | delete key =>
      exact h.filter _ (Store.delete_entries ..) (Store.delete_entries ..)
        ⟨Store.delete_defaultTtl .., Store.delete_defaultTtl ..⟩
        ⟨Store.delete_capacity .., Store.delete_capacity ..⟩
  | clear | close => exact ⟨.slnil, h.defaultTtl, Nat.add_le_add_right le 0⟩
  | cleanExpired => exact h.filter _ rfl rfl ⟨rfl, rfl⟩ ⟨rfl, rfl⟩

/-- **At any time one store is within the other.** -/
lemma within_run {small large : ℕ} (le : small ≤ large) (defaultTtl : ℕ)
    (ops : List (ℕ × Operation)) :
    Store.Within (History.run small defaultTtl ops).now.store
      (History.run large defaultTtl ops).now.store := by
  have capacities : max small 1 ≤ max large 1 := max_le_max_right 1 le
  induction ops using List.reverseRecOn with
  | nil => exact ⟨.slnil, rfl, Nat.add_le_add_right capacities 0⟩
  | append_singleton ops op ih =>
      have recent := recent_run small defaultTtl ops
      rw [History.run_concat, History.run_concat]
      refine within_apply ih ?_ ?_ recent.bounded (recent_run large defaultTtl ops) op.1 op.2
      · rw [capacity_run, capacity_run]
        exact capacities
      · rw [capacity_run]
        exact Nat.lt_of_lt_of_le Nat.zero_lt_one (le_max_right _ _)

/-- **A larger store keeps more.** If the same operations are done at the same times
on a store and on one that is made for more entries, then at any time:

* the entries of the smaller store are all there in the larger one, with the same
  values, times and hits, and in the same order of last touch;
* a look-up that finds an entry in the smaller store finds the same one in the
  larger one. -/
theorem larger_store_keeps_more {small large : ℕ} (le : small ≤ large) (defaultTtl : ℕ)
    (ops : List (ℕ × Operation)) :
    let s := (History.run small defaultTtl ops).now.store
    let l := (History.run large defaultTtl ops).now.store
    s.entries.Sublist l.entries
      ∧ ∀ now key e, (s.get now key).1 = .ok e → (l.get now key).1 = .ok e := by
  intro s l
  have within : Store.Within s l := within_run le defaultTtl ops
  exact ⟨within.entries, fun now key e => within.get_ok (recent_run large defaultTtl ops)⟩

/-- Operations after which two stores differ: a look-up finds its key in the larger
store only, which then gives up another one than it would have. -/
def splitting : List (ℕ × Operation) :=
  [(0, .set "a" [1] 0), (1, .set "b" [2] 0), (2, .get "a"), (3, .set "c" [3] 0),
    (4, .get "c")]

theorem larger_store_keeps_more_splitting :
    let s := (History.run 1 60 splitting).now.store
    let l := (History.run 2 60 splitting).now.store
    s.keys = ["c"] ∧ l.keys = ["c", "a"] ∧ s.entries.Sublist l.entries
      ∧ ∃ e, e.hits = 2 ∧ (s.get 5 "c").1 = .ok e ∧ (l.get 5 "c").1 = .ok e := by
  intro s l
  obtain ⟨kept, found⟩ := larger_store_keeps_more (by decide : 1 ≤ 2) 60 splitting
  refine ⟨by decide, by decide, kept, ⟨"c", [3], 3, 63, 2⟩, rfl, by rfl, ?_⟩
  exact found 5 "c" _ rfl

end ToolServer.Cache
