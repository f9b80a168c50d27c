/-
How long a store keeps what has been set:

* `since`: the other keys that have been touched since a key was touched last;
* `Store.Retains`: what is left of a result that was stored under a key. It is
  there, or past its time, or so many other keys have been touched since that they
  may have taken its place;
* `Recent.pushed_out`: what takes the place of an entry comes after as many other
  keys as the store has room for;
* `Retains.get`, `Retains.set_other`, `Retains.cleanExpired`: no operation breaks
  this, but for one that sets the key again or takes everything out;
* `Retains.holds`: a result is there as long as it is not past its time and as
  fewer other keys have been touched.

A key that is gone is touched no more before it is set again, so that the number of
the others only grows.
-/
import Mathlib.Data.List.TakeWhile
import ToolServer.Proofs.Cache.Recency

namespace ToolServer.Cache

open ToolServer.Text (Bytes)

/-! ### Other keys -/

/-- The other keys that have been touched since a key was touched last, each of them
once, `touched` being all that have been touched, the latest first. -/
def since (touched : List String) (key : String) : List String :=
  (touched.takeWhile (· ≠ key)).dedup

lemma since_touch_self (touched : List String) (key : String) :
    since (key :: touched) key = [] := by
  simp [since]

/-- Distinct keys that have all been touched since are no more than there are. -/
lemma length_le_since {touched keys : List String} {key : String} (nodup : keys.Nodup)
    (later : ∀ k ∈ keys, k ∈ touched.takeWhile (· ≠ key)) :
    keys.length ≤ (since touched key).length :=
  (nodup.subperm fun k hk => List.mem_dedup.mpr (later k hk)).length_le

/-- The number of other keys does not go down when another key is touched. -/
lemma length_since_le {key other : String} (touched : List String) (ne : other ≠ key) :
    (since touched key).length ≤ (since (other :: touched) key).length := by
  refine length_le_since (List.nodup_dedup _) fun k hk => ?_
  rw [List.takeWhile_cons_of_pos (by simpa using ne)]
  exact List.mem_cons_of_mem _ (List.mem_dedup.mp hk)

/-- What comes before a key in the order of last touch has been touched since. -/
lemma mem_takeWhile_of_idxOf_lt {touched : List String} {k key : String}
    (before : touched.idxOf k < touched.idxOf key) : k ∈ touched.takeWhile (· ≠ key) := by
  induction touched with
  | nil => simp at before
  | cons t touched ih =>
      by_cases here : t = key
      · rw [here, List.idxOf_cons_self] at before
        exact absurd before (Nat.not_lt_zero _)
      · rw [List.takeWhile_cons_of_pos (by simpa using here)]
        by_cases first : t = k
        · exact first ▸ List.mem_cons_self
        · rw [List.idxOf_cons_ne _ first, List.idxOf_cons_ne _ here] at before
          exact List.mem_cons_of_mem _ (ih (Nat.lt_of_succ_lt_succ before))

namespace Store

/-! ### What is left of a result -/

/-- Whether there is an entry of a key with some value and some time of expiry. -/
def Holds (s : Store) (key : String) (value : Bytes) (expiresAt : Nat) : Prop :=
  ∃ e ∈ s.entries, e.key = key ∧ e.value = value ∧ e.expiresAt = expiresAt

/-- What is left at some time of a value that was set under a key: it is there, or past
its time, or gone after so many other keys have been touched as there is room for. -/
inductive Retains (touched : List String) (s : Store) (now : Nat) (key : String) (value : Bytes)
    (expiresAt : Nat) : Prop
  | there (holds : s.Holds key value expiresAt)
  | past (ended : expiresAt ≤ now)
  | gone (absent : ∀ e ∈ s.entries, e.key ≠ key)
      (others : s.capacity ≤ (since touched key).length)

variable {touched : List String} {s s' : Store} {now now' : Nat} {key other : String}
  {value : Bytes} {expiresAt : Nat}

/-- **A value is there** as long as it is not past its time and as fewer other keys have
been touched since than there is room for. -/
lemma Retains.holds (h : s.Retains touched now key value expiresAt) (alive : now < expiresAt)
    (few : (since touched key).length < s.capacity) : s.Holds key value expiresAt := by
  cases h with
  | there holds => exact holds
  | past ended => exact absurd alive (not_lt.mpr ended)
  | gone absent others => exact absurd few (not_lt.mpr others)

/-- What is there is found, if no other entry has its key. -/
lemma Holds.find? (h : s.Holds key value expiresAt) (recent : s.Recent touched) :
    ∃ e, s.find? key = some e ∧ e.value = value ∧ e.expiresAt = expiresAt := by
  obtain ⟨e, there, rfl, same, ends⟩ := h
  exact ⟨e, recent.find?_of_mem there, same, ends⟩

/-! ### Operations -/

/-- An operation that keeps the entries of a key, or takes them out past their time, and
puts none in. -/
lemma Retains.of_entries (h : s.Retains touched now key value expiresAt)
    (le : now ≤ now') (capacity : s'.capacity = s.capacity)
    (kept : ∀ e ∈ s.entries, e.key = key → e ∈ s'.entries ∨ e.expiresAt ≤ now')
    (none : ∀ e ∈ s'.entries, e.key = key → e ∈ s.entries) :
    s'.Retains touched now' key value expiresAt := by
  cases h with
  | there holds =>
      obtain ⟨e, there, rfl, same, ends⟩ := holds
      rcases kept e there rfl with there | ended
      · exact .there ⟨e, there, rfl, same, ends⟩
      · exact .past (ends ▸ ended)
  | past ended => exact .past (ended.trans le)
  | gone absent others =>
      exact .gone (fun e he same => absent e (none e he same) same) (capacity ▸ others)

/-- Nothing but another key has been touched. -/
lemma Retains.touch_other (h : s.Retains touched now key value expiresAt) (ne : other ≠ key) :
    s.Retains (other :: touched) now key value expiresAt := by
  cases h with
  | there holds => exact .there holds
  | past ended => exact .past ended
  | gone absent others => exact .gone absent (others.trans (length_since_le touched ne))

/-- The first entries of a full store come after as many other keys as there is room for,
less one. -/
lemma Recent.mem_takeWhile_of_dropLast (recent : s.Recent touched) {last : Entry}
    (atEnd : s.entries.getLast? = some last) :
    ∀ e ∈ s.entries.dropLast, e.key ∈ touched.takeWhile (· ≠ last.key) := by
  obtain ⟨init, entries⟩ : ∃ init, s.entries = init ++ [last] :=
    List.getLast?_eq_some_iff.mp atEnd
  intro e he
  rw [entries, List.dropLast_concat] at he
  have order := recent.inOrder.2
  rw [keys, entries, List.map_append, List.pairwise_append] at order
  exact mem_takeWhile_of_idxOf_lt (order.2.2 _ (List.mem_map_of_mem he) _ (by simp))

/-- **An entry whose place is taken** comes after as many other keys as there is room
for: those of all other entries, and the one that is set. -/
lemma Recent.pushed_out (recent : s.Recent touched) (evict : s.mustEvict other = true)
    {last : Entry} (atEnd : s.entries.getLast? = some last) (ne : other ≠ last.key) :
    s.capacity ≤ (since (other :: touched) last.key).length := by
  obtain ⟨absent, full⟩ := mustEvict_iff.mp evict
  have absent := find?_eq_none_iff.mp absent
  have distinct : (other :: s.entries.dropLast.map Entry.key).Nodup := by
    refine List.nodup_cons.mpr ⟨?_, recent.inOrder.nodup.sublist ((List.dropLast_sublist _).map _)⟩
    intro there
    obtain ⟨e, he, same⟩ := List.mem_map.mp there
    exact absent e (List.mem_of_mem_dropLast he) same
  have later : ∀ k ∈ other :: s.entries.dropLast.map Entry.key,
      k ∈ (other :: touched).takeWhile (· ≠ last.key) := by
    rw [List.takeWhile_cons_of_pos (by simpa using ne)]
    intro k hk
    rcases List.mem_cons.mp hk with rfl | hk
    · exact List.mem_cons_self
    · obtain ⟨e, he, rfl⟩ := List.mem_map.mp hk
      exact List.mem_cons_of_mem _ (recent.mem_takeWhile_of_dropLast atEnd e he)
  have nonempty : s.entries ≠ [] := by
    rintro empty
    simp [empty] at atEnd
  have some := List.length_pos_of_ne_nil nonempty
  calc s.capacity ≤ s.entries.length := full
    _ = (other :: s.entries.dropLast.map Entry.key).length := by
        rw [List.length_cons, List.length_map, List.length_dropLast]
        omega
    _ ≤ (since (other :: touched) last.key).length := length_le_since distinct later

/-- Looking a key up keeps the entries of all other keys. -/
lemma Retains.get_other (h : s.Retains touched now key value expiresAt) (ne : other ≠ key) :
    (s.get now other).2.Retains ((s.touched? now (.get other)).toList ++ touched) now key value
      expiresAt := by
  have keep : ∀ e ∈ s.entries, e.key = key → e ∈ s.others other := fun e he same =>
    mem_others.mpr ⟨he, same ▸ ne.symm⟩
  rcases s.get_cases now other with ⟨-, result, entries⟩ | ⟨e, -, -, result, entries⟩ |
    ⟨e, found, -, result, entries⟩
  · simp only [touched?, result]
    refine h.of_entries le_rfl (get_capacity ..) (fun e he _ => .inl ?_) fun e he _ => ?_
    · rwa [entries]
    · rwa [entries] at he
  · simp only [touched?, result]
    refine h.of_entries le_rfl (get_capacity ..) (fun e he same => .inl ?_) fun e he _ => ?_
    · rw [entries]
      exact keep e he same
    · rw [entries] at he
      exact (mem_others.mp he).1
  · simp only [touched?, result]
    refine (h.touch_other ne).of_entries le_rfl (get_capacity ..) (fun e he same => .inl ?_)
      fun x hx same => ?_
    · rw [entries]
      exact List.mem_cons_of_mem _ (keep e he same)
    · rw [entries] at hx
      rcases List.mem_cons.mp hx with rfl | hx
      · exact absurd ((key_of_find? found).symm.trans same) ne
      · exact (mem_others.mp hx).1

/-- Looking the key itself up finds its entry or takes it out past its time. -/
lemma Retains.get_self (h : s.Retains touched now key value expiresAt)
    (recent : s.Recent touched) :
    (s.get now key).2.Retains ((s.touched? now (.get key)).toList ++ touched) now key value
      expiresAt := by
  have only : ∀ x e, x ∈ s.entries → x.key = key → s.find? key = some e → x = e := by
    rintro x e hx rfl found
    exact Option.some.inj ((recent.find?_of_mem hx).symm.trans found)
  rcases s.get_cases now key with ⟨-, result, entries⟩ | ⟨e, found, past, result, entries⟩ |
    ⟨e, found, -, result, entries⟩
  · simp only [touched?, result]
    refine h.of_entries le_rfl (get_capacity ..) (fun e he _ => .inl ?_) fun e he _ => ?_
    · rwa [entries]
    · rwa [entries] at he
  · simp only [touched?, result]
    refine h.of_entries le_rfl (get_capacity ..) (fun x hx same => .inr ?_) fun x hx _ => ?_
    · rw [only x e hx same found]
      exact of_decide_eq_true past
    · rw [entries] at hx
      exact (mem_others.mp hx).1
  · simp only [touched?, result]
    cases h with
    | there holds =>
        obtain ⟨x, hx, same, rfl, rfl⟩ := holds
        obtain rfl := only x e hx same found
        refine .there ⟨{ x with hits := x.hits + 1 }, ?_, same, rfl, rfl⟩
        rw [entries]
        exact List.mem_cons_self
    | past ended => exact .past ended
    | gone absent others => exact absurd (key_of_find? found) (absent e (mem_of_find? found))

/-- **Looking a key up breaks nothing.** -/
lemma Retains.get (h : s.Retains touched now key value expiresAt) (recent : s.Recent touched)
    (other : String) :
    (s.get now other).2.Retains ((s.touched? now (.get other)).toList ++ touched) now key value
      expiresAt := by
  by_cases same : other = key
  · exact same ▸ h.get_self recent
  · exact h.get_other same

/-- **Setting another key breaks nothing.** -/
lemma Retains.set_other (h : s.Retains touched now key value expiresAt)
    (recent : s.Recent touched) (ne : other ≠ key) (value' : Bytes) (ttl : Nat) :
    (s.set now other value' ttl).Retains (other :: touched) now key value expiresAt := by
  cases evict : s.mustEvict other with
  | false =>
      have entries := set_entries_of_room evict now value' ttl
      refine (h.touch_other ne).of_entries le_rfl (set_capacity ..) (fun e he same => .inl ?_)
        fun e he same => ?_
      · rw [entries]
        exact List.mem_cons_of_mem _ (mem_others.mpr ⟨he, same ▸ ne.symm⟩)
      · rw [entries] at he
        rcases List.mem_cons.mp he with rfl | he
        · exact absurd same ne
        · exact (mem_others.mp he).1
  | true =>
      have entries := set_entries_of_mustEvict evict now value' ttl
      -- the entries that stay are those in front of the last one
      have stays : ∀ e ∈ (s.set now other value' ttl).entries, e.key = key →
          e ∈ s.entries.dropLast := by
        intro e he same
        rw [entries] at he
        rcases List.mem_cons.mp he with rfl | he
        · exact absurd same ne
        · exact he
      by_cases last : ∃ e, s.entries.getLast? = some e ∧ e.key = key
      · obtain ⟨e, atEnd, rfl⟩ := last
        refine .gone (fun x hx same => ?_) ?_
        · have before := recent.mem_takeWhile_of_dropLast atEnd x (stays x hx same)
          simpa [same] using List.mem_takeWhile_imp before
        · rw [set_capacity]
          exact recent.pushed_out evict atEnd ne
      · refine (h.touch_other ne).of_entries le_rfl (set_capacity ..) (fun e he same => .inl ?_)
          fun e he same => List.mem_of_mem_dropLast (stays e he same)
        obtain ⟨atEnd, hlast⟩ : ∃ x, x ∈ s.entries.getLast? :=
          ⟨_, List.getLast?_eq_some_getLast (List.ne_nil_of_mem he)⟩
        rw [entries]
        refine List.mem_cons_of_mem _ ?_
        rw [← List.dropLast_append_getLast? _ hlast, List.mem_append, List.mem_singleton] at he
        exact he.resolve_right fun eq => last ⟨atEnd, hlast, eq ▸ same⟩

/-- What has just been set is there. -/
lemma holds_set (s : Store) (now : Nat) (key : String) (value : Bytes) (ttl : Nat) :
    (s.set now key value ttl).Holds key value
      (Duration.deadlineAfter now (s.effectiveTtl ttl)) := by
  refine ⟨.new key value now (s.effectiveTtl ttl), ?_, rfl, rfl, rfl⟩
  cases evict : s.mustEvict key with
  | true => rw [set_entries_of_mustEvict evict]; exact List.mem_cons_self
  | false => rw [set_entries_of_room evict]; exact List.mem_cons_self

/-- **A sweep breaks nothing**, if it is not ahead of the time. -/
lemma Retains.cleanExpired (h : s.Retains touched now key value expiresAt) (le : now ≤ now')
    {swept : Nat} (done : swept ≤ now') :
    (s.cleanExpired swept).2.Retains touched now' key value expiresAt := by
  refine h.of_entries le rfl (fun e he _ => ?_) fun e he _ => (List.mem_filter.mp he).1
  by_cases past : e.isExpired swept = true
  · exact .inr ((of_decide_eq_true past).trans done)
  · exact .inl (List.mem_filter.mpr ⟨he, by simpa using past⟩)

end Store

end ToolServer.Cache
