/-
What goes through a store is accounted for:

* `Moment`, `ledger`: an operation with its time and the store that it finds, and all of
  them, after any operations on a new store;
* `Moment.looksUp`, `sets`, `deletes`, `replaces`, `emptied`: what an operation counts for;
* `Moment.Books`, `books_apply`: what one operation adds to the counts. An entry comes in
  when its key is set, and whatever leaves is counted once;
* `Accounted`, `accounted_run`: no operation breaks the account, so that it is right at any
  time;
* `entries_are_accounted_for`: what holds of the counts of a store at any time.

A look-up past the time of an entry is a miss and an eviction at once. A key that is set
again is no eviction, although its old entry is gone.
-/
import ToolServer.Proofs.Cache.Recency

namespace ToolServer.Cache

/-! ### The ledger of a store -/

/-- An operation with its time and the store that it finds. -/
structure Moment where
  store : Swept
  now : ℕ
  op : Operation

/-- The store after an operation. -/
def Moment.after (m : Moment) : Swept :=
  m.store.apply m.now m.op

/-- All operations of a list on a store, each with the store that it finds. -/
def ledgerFrom (s : Swept) : List (ℕ × Operation) → List Moment
  | [] => []
  | op :: ops => ⟨s, op.1, op.2⟩ :: ledgerFrom (s.apply op.1 op.2) ops

/-- All operations of a list on a new store, each with the store that it finds. -/
def ledger (maxEntries defaultTtl : ℕ) (ops : List (ℕ × Operation)) : List Moment :=
  ledgerFrom (History.run maxEntries defaultTtl []).now ops

lemma ledgerFrom_concat (h : History) (ops : List (ℕ × Operation)) (op : ℕ × Operation) :
    ledgerFrom h.now (ops ++ [op])
      = ledgerFrom h.now ops ++ [⟨(ops.foldl History.next h).now, op.1, op.2⟩] := by
  induction ops generalizing h with
  | nil => rfl
  | cons first ops ih => exact congrArg (_ :: ·) (ih (h.next first))

lemma ledger_concat (maxEntries defaultTtl : ℕ) (ops : List (ℕ × Operation))
    (op : ℕ × Operation) :
    ledger maxEntries defaultTtl (ops ++ [op])
      = ledger maxEntries defaultTtl ops
        ++ [⟨(History.run maxEntries defaultTtl ops).now, op.1, op.2⟩] :=
  ledgerFrom_concat _ ops op

/-! ### What an operation counts for -/

namespace Moment

/-- Whether a key is looked up. -/
def looksUp (m : Moment) : Bool :=
  match m.op with
  | .get _ => true
  | .set .. | .delete _ | .clear | .close | .cleanExpired => false

/-- Whether a key is set. -/
def sets (m : Moment) : Bool :=
  match m.op with
  | .set .. => true
  | .get _ | .delete _ | .clear | .close | .cleanExpired => false

/-- Whether a key is taken out that is there. -/
def deletes (m : Moment) : Bool :=
  match m.op with
  | .delete key => (m.store.store.delete key).1.isOk
  | .get _ | .set .. | .clear | .close | .cleanExpired => false

/-- Whether a key is set that is there, alive or not. -/
def replaces (m : Moment) : Bool :=
  match m.op with
  | .set key .. => (m.store.store.find? key).isSome
  | .get _ | .delete _ | .clear | .close | .cleanExpired => false

/-- The number of entries that are taken out because everything is. -/
def emptied (m : Moment) : ℕ :=
  match m.op with
  | .clear | .close => m.store.store.entries.length
  | .get _ | .set .. | .delete _ | .cleanExpired => 0

end Moment

/-- Whether none of some counts is larger than later ones. -/
structure Counters.Below (c c' : Counters) : Prop where
  hits : c.hits ≤ c'.hits
  misses : c.misses ≤ c'.misses
  sets : c.sets ≤ c'.sets
  deletes : c.deletes ≤ c'.deletes
  evictions : c.evictions ≤ c'.evictions

lemma Counters.Below.refl (c : Counters) : c.Below c :=
  ⟨le_rfl, le_rfl, le_rfl, le_rfl, le_rfl⟩

lemma Counters.Below.trans {c c' c'' : Counters} (h : c.Below c') (h' : c'.Below c'') :
    c.Below c'' :=
  ⟨h.hits.trans h'.hits, h.misses.trans h'.misses, h.sets.trans h'.sets,
    h.deletes.trans h'.deletes, h.evictions.trans h'.evictions⟩

/-! ### One operation -/

/-- What an operation that leads to some store adds to the counts. The last equation says
where the entries are: those that were there and the one that is set are there now, or have
been taken out, pushed out or replaced. -/
structure Moment.Books (m : Moment) (s' : Store) : Prop where
  lookUps : s'.counters.hits + s'.counters.misses
    = m.store.store.counters.hits + m.store.store.counters.misses + if m.looksUp then 1 else 0
  sets : s'.counters.sets = m.store.store.counters.sets + if m.sets then 1 else 0
  deletes : s'.counters.deletes = m.store.store.counters.deletes + if m.deletes then 1 else 0
  evictions : m.store.store.counters.evictions ≤ s'.counters.evictions
  misses : m.store.store.counters.misses ≤ s'.counters.misses
  hits : m.store.store.counters.hits ≤ s'.counters.hits
  entries : m.store.store.entries.length + (if m.sets then 1 else 0)
      + m.store.store.counters.evictions
    = s'.entries.length + s'.counters.evictions + (if m.deletes then 1 else 0)
      + (if m.replaces then 1 else 0) + m.emptied

namespace Store

variable {s : Store} {touched : List String} {now : ℕ} {key : String} {e : Entry}

/-- Without the entry of a key there is one entry less. -/
lemma Recent.length_others (recent : s.Recent touched) (found : s.find? key = some e) :
    (s.others key).length + 1 = s.entries.length := by
  have once : (s.entries.countP fun x => x.key = key) = 1 := by
    have nodup := recent.inOrder.nodup
    have there : key ∈ s.keys := key_of_find? found ▸ List.mem_map_of_mem (mem_of_find? found)
    have count := List.count_eq_one_of_mem nodup there
    rw [keys, List.count, List.countP_map] at count
    rw [← count]
    exact List.countP_congr fun x _ => by simp
  have split := s.entries.length_eq_countP_add_countP fun x => decide (x.key = key)
  rw [once] at split
  rw [others, ← List.countP_eq_length_filter, split, Nat.add_comm]
  congr 1
  exact List.countP_congr fun x _ => by simp

end Store

section Operations

variable {s : Swept} {touched : List String} (recent : s.store.Recent touched) (now : ℕ)
  (key : String)

include recent

/-- A look-up is a hit or a miss. What it finds past its time is an eviction, too. -/
lemma books_get : Moment.Books ⟨s, now, .get key⟩ (s.apply now (.get key)).store := by
  simp only [Swept.apply, Store.get]
  cases found : s.store.find? key with
  | none => exact ⟨rfl, rfl, rfl, le_rfl, Nat.le_succ _, le_rfl, rfl⟩
  | some e =>
      have fewer := recent.length_others found
      dsimp only
      split_ifs with past
      · refine ⟨rfl, rfl, rfl, Nat.le_succ _, Nat.le_succ _, le_rfl, ?_⟩
        show s.store.entries.length + 0 + s.store.counters.evictions
          = (s.store.others key).length + (s.store.counters.evictions + 1) + 0 + 0 + 0
        omega
      · refine ⟨Nat.add_right_comm .., rfl, rfl, le_rfl, le_rfl, Nat.le_succ _, ?_⟩
        show s.store.entries.length + 0 + s.store.counters.evictions
          = (s.store.others key).length + 1 + s.store.counters.evictions + 0 + 0 + 0
        omega

/-- A key that is set takes the place of its old entry, or of another one, or a free one. -/
lemma books_set (positive : 0 < s.store.capacity) (value : Text.Bytes) (ttl : ℕ) :
    Moment.Books ⟨s, now, .set key value ttl⟩ (s.apply now (.set key value ttl)).store := by
  have replaces : Moment.replaces ⟨s, now, .set key value ttl⟩ = (s.store.find? key).isSome := rfl
  simp only [Swept.apply, Store.set]
  split_ifs with evict
  · -- the place of another one: the last entry goes, and there is one
    obtain ⟨absent, full⟩ := Store.mustEvict_iff.mp evict
    rw [absent] at replaces
    refine ⟨rfl, rfl, rfl, Nat.le_succ _, le_rfl, le_rfl, ?_⟩
    rw [replaces]
    show s.store.entries.length + 1 + s.store.counters.evictions
      = s.store.entries.dropLast.length + 1 + (s.store.counters.evictions + 1) + 0 + 0 + 0
    rw [List.length_dropLast]
    omega
  · refine ⟨rfl, rfl, rfl, le_rfl, le_rfl, le_rfl, ?_⟩
    rw [replaces]
    cases found : s.store.find? key with
    | none =>
        rw [Store.others_of_absent found]
        rfl
    | some e =>
        have fewer := recent.length_others found
        show s.store.entries.length + 1 + s.store.counters.evictions
          = (s.store.others key).length + 1 + s.store.counters.evictions + 0 + 1 + 0
        omega

/-- A key that is taken out counts if it is there. -/
lemma books_delete : Moment.Books ⟨s, now, .delete key⟩ (s.apply now (.delete key)).store := by
  have deletes : Moment.deletes ⟨s, now, .delete key⟩ = (s.store.delete key).1.isOk := rfl
  simp only [Swept.apply]
  cases found : s.store.find? key with
  | none =>
      have missing : s.store.delete key = (.error .notFound, s.store) := by
        simp only [Store.delete, found]
      rw [missing] at deletes ⊢
      refine ⟨rfl, rfl, ?_, le_rfl, le_rfl, le_rfl, ?_⟩ <;> rw [deletes] <;> rfl
  | some e =>
      have fewer := recent.length_others found
      have deleted : s.store.delete key = (.ok (), { s.store with
          entries := s.store.others key
          counters := { s.store.counters with
            deletes := s.store.counters.deletes + 1 } }) := by
        simp only [Store.delete, found]
      rw [deleted] at deletes ⊢
      refine ⟨rfl, rfl, ?_, le_rfl, le_rfl, le_rfl, ?_⟩ <;> rw [deletes]
      · rfl
      · show s.store.entries.length + 0 + s.store.counters.evictions
          = (s.store.others key).length + s.store.counters.evictions + 1 + 0 + 0
        omega

/-- **What one operation adds to the counts.** -/
lemma books_apply (positive : 0 < s.store.capacity) (op : Operation) :
    Moment.Books ⟨s, now, op⟩ (s.apply now op).store := by
  cases op with
  | get key => exact books_get recent now key
  | set key value ttl => exact books_set recent now key positive value ttl
  | delete key => exact books_delete recent now key
  | clear | close =>
      refine ⟨rfl, rfl, rfl, le_rfl, le_rfl, le_rfl, ?_⟩
      show s.store.entries.length + 0 + s.store.counters.evictions
        = 0 + s.store.counters.evictions + 0 + 0 + s.store.entries.length
      omega
  | cleanExpired =>
      refine ⟨rfl, rfl, rfl, Nat.le_add_right .., le_rfl, le_rfl, ?_⟩
      have split := s.store.entries.length_eq_countP_add_countP fun e => e.isExpired now
      have kept : (s.store.entries.countP fun e => !e.isExpired now)
          = s.store.entries.countP fun e => decide ¬(e.isExpired now) = true :=
        List.countP_congr fun e _ => by simp
      show s.store.entries.length + 0 + s.store.counters.evictions
        = (s.store.entries.filter fun e => !e.isExpired now).length
          + (s.store.counters.evictions + s.store.entries.countP fun e => e.isExpired now)
          + 0 + 0 + 0
      rw [← List.countP_eq_length_filter, kept]
      omega

end Operations

/-! ### The account of a store -/

/-- A store whose counts are those of all that has been done with it. -/
structure Accounted (past : List Moment) (s : Store) : Prop where
  lookUps : s.counters.hits + s.counters.misses = past.countP Moment.looksUp
  sets : s.counters.sets = past.countP Moment.sets
  deletes : s.counters.deletes = past.countP Moment.deletes
  entries : s.counters.sets = s.entries.length + s.counters.deletes + s.counters.evictions
    + past.countP Moment.replaces + (past.map Moment.emptied).sum

/-- What an operation adds to the counts goes on the account. -/
lemma Accounted.concat {past : List Moment} {m : Moment} {s' : Store}
    (h : Accounted past m.store.store) (books : m.Books s') : Accounted (past ++ [m]) s' := by
  have lookUps := books.lookUps
  have sets := books.sets
  have deletes := books.deletes
  have before := h.entries
  have entries := books.entries
  refine ⟨?_, ?_, ?_, ?_⟩ <;> simp only [List.countP_append, List.countP_singleton,
    List.map_append, List.map_cons, List.map_nil, List.sum_append, List.sum_singleton]
  · rw [lookUps, h.lookUps]
  · rw [sets, h.sets]
  · rw [deletes, h.deletes]
  · omega

lemma capacity_pos (maxEntries defaultTtl : ℕ) (ops : List (ℕ × Operation)) :
    0 < (History.run maxEntries defaultTtl ops).now.store.capacity := by
  rw [capacity_run]
  exact Nat.lt_of_lt_of_le Nat.zero_lt_one (le_max_right _ _)

/-- **At any time the account of a store is right.** -/
theorem accounted_run (maxEntries defaultTtl : ℕ) (ops : List (ℕ × Operation)) :
    Accounted (ledger maxEntries defaultTtl ops)
      (History.run maxEntries defaultTtl ops).now.store := by
  induction ops using List.reverseRecOn with
  | nil => exact ⟨rfl, rfl, rfl, rfl⟩
  | append_singleton ops op ih =>
      rw [ledger_concat, History.run_concat]
      exact Accounted.concat ih (books_apply (recent_run maxEntries defaultTtl ops) op.1
        (capacity_pos maxEntries defaultTtl ops) op.2)

/-- **No count ever goes down.** -/
theorem below_run (maxEntries defaultTtl : ℕ) (ops more : List (ℕ × Operation)) :
    (History.run maxEntries defaultTtl ops).now.store.counters.Below
      (History.run maxEntries defaultTtl (ops ++ more)).now.store.counters := by
  induction more using List.reverseRecOn with
  | nil =>
      rw [List.append_nil]
      exact .refl _
  | append_singleton more op ih =>
      rw [← List.append_assoc, History.run_concat]
      have books := books_apply (recent_run maxEntries defaultTtl (ops ++ more)) op.1
        (capacity_pos maxEntries defaultTtl (ops ++ more)) op.2
      exact ih.trans ⟨books.hits, books.misses, books.sets ▸ Nat.le_add_right _ _,
        books.deletes ▸ Nat.le_add_right _ _, books.evictions⟩

/-- **Every entry is accounted for.** After any operations on a new store, at any times:

* hits and misses are as many as look-ups, sets as keys that have been set, and deletes as
  keys that have been taken out and were there;
* of the entries that have been set, each one is there, has been taken out, has been
  evicted, has been replaced by a later entry of its key, or was there when everything was
  taken out, and is counted for one of these only;
* there are no more entries than the store is made for;
* no count goes down, whatever is done afterwards. -/
theorem entries_are_accounted_for (maxEntries defaultTtl : ℕ) (ops : List (ℕ × Operation)) :
    let past := ledger maxEntries defaultTtl ops
    let stats := (History.run maxEntries defaultTtl ops).now.store.stats
    let c := stats.counters
    (c.hits + c.misses = past.countP Moment.looksUp
      ∧ c.sets = past.countP Moment.sets ∧ c.deletes = past.countP Moment.deletes)
    ∧ c.sets = stats.size + c.deletes + c.evictions + past.countP Moment.replaces
        + (past.map Moment.emptied).sum
    ∧ (stats.size ≤ stats.maxSize ∧ stats.maxSize = max maxEntries 1)
    ∧ ∀ more, c.Below (History.run maxEntries defaultTtl (ops ++ more)).now.store.counters := by
  intro past stats c
  have account := accounted_run maxEntries defaultTtl ops
  have recent := recent_run maxEntries defaultTtl ops
  exact ⟨⟨account.lookUps, account.sets, account.deletes⟩, account.entries,
    ⟨recent.bounded, capacity_run maxEntries defaultTtl ops⟩,
    below_run maxEntries defaultTtl ops⟩

end ToolServer.Cache
