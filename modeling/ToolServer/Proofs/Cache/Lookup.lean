/-
What a look-up finds, told from all that has been done before:

* `SetLast`, `Undisturbed`: when a key has been set last, and whether it has been taken out
  or pushed out since;
* `Fate`, `fate_apply`: what one operation does to the entry of a key;
* `Tells`, `tells_run`: the invariant. The entry of a key is that of the last time that the
  key was set, and a key without an entry has been taken out, pushed out, or is past its
  time;
* `Moment.since_le_of_pushesOut`: a key that is pushed out was touched before as many others as
  there is room for;
* `lookups_follow_the_past`: what a look-up finds at any time.

The entries of other keys matter only for what is pushed out.
-/
import ToolServer.Proofs.Cache.Capacity
import ToolServer.Proofs.Cache.Ledger
import ToolServer.Proofs.Cache.Survival

namespace ToolServer.Cache

open ToolServer.Text (Bytes)

/-! ### What has been done with a key -/

namespace Operation

/-- Whether an operation sets a key. -/
def setsKey (key : String) : Operation → Bool
  | .set other .. => decide (other = key)
  | .get _ | .delete _ | .clear | .close | .cleanExpired => false

/-- Whether an operation takes a key out, be it past its time or not. -/
def removes (key : String) : Operation → Bool
  | .delete other => decide (other = key)
  | .clear | .close => true
  | .get _ | .set .. | .cleanExpired => false

end Operation

namespace Moment

/-- Whether a key is looked up and found. -/
def finds (key : String) (m : Moment) : Bool :=
  match m.op with
  | .get other => decide (other = key) && (m.store.store.get m.now other).1.isOk
  | .set .. | .delete _ | .clear | .close | .cleanExpired => false

/-- Whether a key is pushed out: it is there before something is set, and not afterwards. -/
def pushesOut (key : String) (m : Moment) : Bool :=
  m.sets && (m.store.store.find? key).isSome && (m.after.store.find? key).isNone

/-- The key that an operation touches: one that is set, or looked up and found alive. -/
def touched? (m : Moment) : Option String :=
  m.store.store.touched? m.now m.op

end Moment

/-- The keys that have been touched, the latest first. -/
def touchedIn (past : List Moment) : List String :=
  (past.filterMap Moment.touched?).reverse

/-- When a key was set last, and what has been done later. -/
structure SetLast (past : List Moment) (key : String) (value : Bytes) (start ttl : ℕ)
    (later : List Moment) : Prop where
  split : ∃ before m, past = before ++ m :: later ∧ m.now = start ∧ m.op = .set key value ttl
  last : ∀ m ∈ later, m.op.setsKey key = false

/-- Whether a key has been neither taken out nor pushed out. -/
def Undisturbed (key : String) (later : List Moment) : Prop :=
  ∀ m ∈ later, m.op.removes key = false ∧ m.pushesOut key = false

/-- When an entry ends that has been set at some time. -/
def endOf (defaultTtl start ttl : ℕ) : ℕ :=
  start + min (if ttl = 0 then defaultTtl else ttl) Duration.farFuture

variable {past later : List Moment} {m : Moment} {key : String} {value : Bytes} {start ttl : ℕ}

/-- A key was set last by the latest operation, or before it. -/
lemma setLast_concat_iff : SetLast (past ++ [m]) key value start ttl later ↔
    (later = [] ∧ m.now = start ∧ m.op = .set key value ttl) ∨
      ∃ earlier, later = earlier ++ [m] ∧ m.op.setsKey key = false ∧
        SetLast past key value start ttl earlier := by
  constructor
  · rintro ⟨⟨before, x, split, time, op⟩, last⟩
    rcases List.eq_nil_or_concat later with rfl | ⟨earlier, y, rfl⟩
    · obtain ⟨-, rfl⟩ := List.append_inj' split rfl |>.imp_right List.singleton_inj.mp
      exact .inl ⟨rfl, time, op⟩
    · rw [List.concat_eq_append, ← List.cons_append, ← List.append_assoc] at split
      obtain ⟨rfl, same⟩ := List.append_inj' split rfl
      obtain rfl := List.singleton_inj.mp same
      rw [List.concat_eq_append] at last ⊢
      exact .inr ⟨earlier, rfl, last _ (by simp), ⟨before, x, rfl, time, op⟩,
        fun z hz => last z (List.mem_append_left _ hz)⟩
  · rintro (⟨rfl, time, op⟩ | ⟨earlier, rfl, other, ⟨before, x, rfl, time, op⟩, last⟩)
    · exact ⟨⟨past, m, rfl, time, op⟩, nofun⟩
    · refine ⟨⟨before, x, by simp, time, op⟩, ?_⟩
      exact List.forall_mem_append.mpr ⟨last, by simpa using other⟩

lemma undisturbed_concat_iff : Undisturbed key (later ++ [m]) ↔
    Undisturbed key later ∧ m.op.removes key = false ∧ m.pushesOut key = false := by
  rw [Undisturbed, List.forall_mem_append, List.forall_mem_singleton]
  rfl

/-! ### What one operation does to the entry of a key -/

/-- What an operation does to the entry of a key, from what was there to what is. -/
inductive Fate (m : Moment) (key : String) : Option Entry → Option Entry → Prop
  /-- The key is set. -/
  | set {old : Option Entry} {value : Bytes} {ttl : ℕ} (op : m.op = .set key value ttl) :
      Fate m key old
        (some (.new key value m.now (m.store.store.effectiveTtl ttl)))
  /-- The key is looked up and found. -/
  | found {e : Entry} (unset : m.op.setsKey key = false) (unmoved : m.op.removes key = false)
      (unpushed : m.pushesOut key = false) (found : m.finds key = true) :
      Fate m key (some e) (some { e with hits := e.hits + 1 })
  /-- The entry is past its time. -/
  | expired {e : Entry} (unset : m.op.setsKey key = false) (past : e.expiresAt ≤ m.now) :
      Fate m key (some e) none
  /-- The key is taken out. -/
  | removed {old : Option Entry} (unset : m.op.setsKey key = false)
      (removed : m.op.removes key = true) : Fate m key old none
  /-- The key is pushed out. -/
  | pushedOut {e : Entry} (unset : m.op.setsKey key = false) (pushed : m.pushesOut key = true) :
      Fate m key (some e) none
  /-- The entry stays as it is. -/
  | kept {e : Entry} (unset : m.op.setsKey key = false) (unmoved : m.op.removes key = false)
      (unpushed : m.pushesOut key = false) (unfound : m.finds key = false) :
      Fate m key (some e) (some e)
  /-- There is no entry. -/
  | absent (unset : m.op.setsKey key = false) : Fate m key none none

namespace Store

variable {s s' : Store} {other : String} {e : Entry}

/-- Another key is looked for among the entries that are not of some key. -/
lemma find?_others_of_ne (s : Store) (ne : other ≠ key) :
    (s.others other).find? (fun e => e.key = key) = s.find? key := by
  rw [others, List.find?_filter, find?]
  congr 1
  funext e
  by_cases same : e.key = key <;> simp [same, ne.symm]

/-- The entries of other keys hold none of the key. -/
lemma find?_others_self (s : Store) (key : String) :
    (s.others key).find? (fun e => e.key = key) = none := by
  simp [others]

lemma find?_of_entries {entries : List Entry} (same : s'.entries = entries) (key : String) :
    s'.find? key = entries.find? fun e => e.key = key := by
  rw [find?, same]

/-- Without the last entry, the entry of a key is the same or is gone. -/
lemma find?_dropLast (s : Store) (key : String) :
    (s.entries.dropLast.find? fun e => e.key = key) = s.find? key ∨
      (s.entries.dropLast.find? fun e => e.key = key) = none := by
  cases found : s.entries.dropLast.find? fun e => e.key = key with
  | none => exact .inr rfl
  | some e =>
      left
      rw [find?]
      exact ((List.dropLast_prefix s.entries).find?_eq_some found).symm

/-- What is set is there. -/
lemma find?_set_self (s : Store) (now : ℕ) (key : String) (value : Bytes) (ttl : ℕ) :
    (s.set now key value ttl).find? key = some (.new key value now (s.effectiveTtl ttl)) := by
  cases evict : s.mustEvict key with
  | true =>
      exact (find?_of_entries (set_entries_of_mustEvict evict ..) key).trans
        (List.find?_cons_of_pos (by simp [Entry.new]))
  | false =>
      exact (find?_of_entries (set_entries_of_room evict ..) key).trans
        (List.find?_cons_of_pos (by simp [Entry.new]))

/-- With room for another key that is set, the entry of a key stays as it is. -/
lemma find?_set_of_room (room : s.mustEvict other = false) (ne : other ≠ key) (now : ℕ)
    (value : Bytes) (ttl : ℕ) : (s.set now other value ttl).find? key = s.find? key := by
  refine (find?_of_entries (set_entries_of_room room ..) key).trans ?_
  rw [List.find?_cons_of_neg (by simp [Entry.new, ne])]
  exact s.find?_others_of_ne ne

/-- Without room for it, the entry of a key is looked for among all but the last one. -/
lemma find?_set_of_mustEvict (evict : s.mustEvict other = true) (ne : other ≠ key) (now : ℕ)
    (value : Bytes) (ttl : ℕ) : (s.set now other value ttl).find? key
      = s.entries.dropLast.find? fun e => e.key = key :=
  (find?_of_entries (set_entries_of_mustEvict evict ..) key).trans
    (List.find?_cons_of_neg (by simp [Entry.new, ne]))

end Store

/-- An entry that is neither taken out nor pushed out nor found. -/
lemma Fate.stays {x : Option Entry} (unset : m.op.setsKey key = false)
    (unmoved : m.op.removes key = false) (unfound : m.finds key = false)
    (before : m.store.store.find? key = x) (after : m.after.store.find? key = x) :
    Fate m key (m.store.store.find? key) (m.after.store.find? key) := by
  have unpushed : m.pushesOut key = false := by
    cases x <;> simp [Moment.pushesOut, before, after]
  rw [before, after]
  cases x with
  | none => exact .absent unset
  | some e => exact .kept unset unmoved unpushed unfound

section Fates

variable (s : Swept) (now : ℕ) (key other : String)

/-- A look-up of a key finds it, takes it out past its time, or finds nothing. -/
lemma fate_get_self : Fate ⟨s, now, .get key⟩ key (s.store.find? key)
    ((s.apply now (.get key)).store.find? key) := by
  have finds : Moment.finds key ⟨s, now, .get key⟩ = (s.store.get now key).1.isOk := by
    simp [Moment.finds]
  rcases s.store.get_cases now key with ⟨absent, -, entries⟩ | ⟨e, found, past, -, entries⟩ |
    ⟨e, found, -, result, entries⟩
  · have gone : (s.apply now (.get key)).store.find? key = none :=
      (Store.find?_of_entries entries key).trans absent
    rw [absent, gone]
    exact .absent rfl
  · have gone : (s.apply now (.get key)).store.find? key = none :=
      (Store.find?_of_entries entries key).trans (s.store.find?_others_self key)
    rw [found, gone]
    exact .expired rfl (of_decide_eq_true past)
  · have there : (s.apply now (.get key)).store.find? key
        = some { e with hits := e.hits + 1 } := by
      refine (Store.find?_of_entries entries key).trans (List.find?_cons_of_pos ?_)
      simpa using Store.key_of_find? found
    rw [found, there]
    refine .found rfl rfl rfl ?_
    rw [finds, result]
    rfl

/-- A look-up of another key leaves the entry of a key as it is. -/
lemma fate_get_other (ne : other ≠ key) : Fate ⟨s, now, .get other⟩ key (s.store.find? key)
    ((s.apply now (.get other)).store.find? key) := by
  have unfound : Moment.finds key ⟨s, now, .get other⟩ = false := by simp [Moment.finds, ne]
  refine Fate.stays rfl rfl unfound rfl ?_
  rcases s.store.get_cases now other with ⟨-, -, entries⟩ | ⟨e, -, -, -, entries⟩ |
    ⟨e, found, -, -, entries⟩
  · exact Store.find?_of_entries entries key
  · exact (Store.find?_of_entries entries key).trans (s.store.find?_others_of_ne ne)
  · refine (Store.find?_of_entries entries key).trans ?_
    rw [List.find?_cons_of_neg (by simpa [Store.key_of_find? found] using ne)]
    exact s.store.find?_others_of_ne ne

/-- What is set is there. -/
lemma fate_set_self (value : Bytes) (ttl : ℕ) : Fate ⟨s, now, .set key value ttl⟩ key
    (s.store.find? key) ((s.apply now (.set key value ttl)).store.find? key) := by
  have there : (s.apply now (.set key value ttl)).store.find? key
      = some (.new key value now (s.store.effectiveTtl ttl)) := s.store.find?_set_self ..
  rw [there]
  exact .set rfl

/-- Another key that is set pushes a key out or leaves its entry as it is. -/
lemma fate_set_other (ne : other ≠ key) (value : Bytes) (ttl : ℕ) :
    Fate ⟨s, now, .set other value ttl⟩ key (s.store.find? key)
      ((s.apply now (.set other value ttl)).store.find? key) := by
  have unset : Operation.setsKey key (.set other value ttl) = false := by
    simp [Operation.setsKey, ne]
  cases evict : s.store.mustEvict other with
  | false =>
      exact Fate.stays unset rfl rfl rfl (Store.find?_set_of_room evict ne now value ttl)
  | true =>
      have after : (s.apply now (.set other value ttl)).store.find? key
          = s.store.entries.dropLast.find? fun e => e.key = key :=
        Store.find?_set_of_mustEvict evict ne now value ttl
      rcases s.store.find?_dropLast key with same | gone
      · exact Fate.stays unset rfl rfl rfl (after.trans same)
      · cases found : s.store.find? key with
        | none => exact found ▸ Fate.stays unset rfl rfl found (after.trans gone)
        | some e =>
            rw [after, gone]
            refine .pushedOut unset ?_
            show (s.store.find? key).isSome
              && ((s.apply now (.set other value ttl)).store.find? key).isNone
            rw [found, after, gone]
            rfl

/-- A key that is taken out is gone; another one leaves the entry as it is. -/
lemma fate_delete : Fate ⟨s, now, .delete other⟩ key (s.store.find? key)
    ((s.apply now (.delete other)).store.find? key) := by
  have after := Store.find?_of_entries (s.store.delete_entries other) key
  by_cases same : other = key
  · subst same
    have gone : (s.apply now (.delete other)).store.find? other = none :=
      after.trans (s.store.find?_others_self other)
    rw [gone]
    exact .removed rfl (by simp [Operation.removes])
  · exact Fate.stays rfl (by simp [Operation.removes, same]) rfl rfl
      (after.trans (s.store.find?_others_of_ne same))

/-- A sweep takes an entry out past its time, and leaves it as it is before. -/
lemma fate_cleanExpired {touched : List String} (recent : s.store.Recent touched) :
    Fate ⟨s, now, .cleanExpired⟩ key (s.store.find? key)
      ((s.apply now .cleanExpired).store.find? key) := by
  have after : (s.apply now .cleanExpired).store.find? key
      = s.store.entries.find? fun e => !e.isExpired now && decide (e.key = key) := by
    refine List.find?_filter.trans ?_
    congr 1
    funext e
    simp
  cases found : s.store.find? key with
  | none =>
      refine found ▸ Fate.stays rfl rfl rfl found (after.trans ?_)
      have absent := Store.find?_eq_none_iff.mp found
      simp only [List.find?_eq_none, Bool.and_eq_true, decide_eq_true_eq, not_and]
      exact fun e there _ => absent e there
  | some e =>
      -- no other entry has the key, so the sweep decides about this one
      have only : ∀ x ∈ s.store.entries, x.key = key → x = e := by
        rintro x there rfl
        exact Option.some.inj ((recent.find?_of_mem there).symm.trans found)
      cases past : e.isExpired now with
      | true =>
          have gone : (s.apply now .cleanExpired).store.find? key = none := by
            rw [after, List.find?_eq_none]
            intro x there
            by_cases same : x.key = key
            · simp [only x there same, past]
            · simp [same]
          rw [gone]
          exact .expired rfl (of_decide_eq_true past)
      | false =>
          refine found ▸ Fate.stays rfl rfl rfl found (after.trans ?_)
          rw [← found, Store.find?]
          refine List.find?_congr fun x there => ?_
          by_cases same : x.key = key
          · simp [only x there same, past]
          · simp [same]

/-- **What one operation does to the entry of a key.** -/
theorem fate_apply {touched : List String} (recent : s.store.Recent touched) (op : Operation) :
    Fate ⟨s, now, op⟩ key (s.store.find? key) ((s.apply now op).store.find? key) := by
  cases op with
  | get other =>
      by_cases same : other = key
      · exact same ▸ fate_get_self s now other
      · exact fate_get_other s now key other same
  | set other value ttl =>
      by_cases same : other = key
      · exact same ▸ fate_set_self s now other value ttl
      · exact fate_set_other s now key other same value ttl
  | delete other => exact fate_delete s now key other
  | clear | close => exact .removed rfl rfl
  | cleanExpired => exact fate_cleanExpired s now key recent

end Fates

/-! ### The entry of a key -/

/-- What an entry says that was set last at some time. -/
def entryOf (defaultTtl : ℕ) (key : String) (value : Bytes) (start ttl : ℕ)
    (later : List Moment) : Entry :=
  ⟨key, value, start, endOf defaultTtl start ttl, later.countP (Moment.finds key)⟩

/-- What there is of a key tells what has been done with it up to some time. -/
structure Tells (defaultTtl : ℕ) (past : List Moment) (key : String) (now : ℕ)
    (found : Option Entry) : Prop where
  /-- What is there has been set. -/
  isSet : found.isSome = true → ∃ value start ttl later, SetLast past key value start ttl later
  /-- It is what was set last, and has not been disturbed. -/
  there : ∀ e, found = some e → ∀ value start ttl later,
    SetLast past key value start ttl later →
      e = entryOf defaultTtl key value start ttl later ∧ Undisturbed key later
  /-- What is not there has been disturbed or is past its time. -/
  gone : found = none → ∀ value start ttl later, SetLast past key value start ttl later →
    Undisturbed key later → endOf defaultTtl start ttl ≤ now

variable {defaultTtl now now' : ℕ} {found found' : Option Entry}

lemma Tells.mono (h : Tells defaultTtl past key now found) (le : now ≤ now') :
    Tells defaultTtl past key now' found :=
  ⟨h.isSet, h.there, fun gone value start ttl later last undisturbed =>
    (h.gone gone value start ttl later last undisturbed).trans le⟩

/-- Whatever does not set a key is done later than the last time that it was set. -/
lemma setLast_of_unset (unset : m.op.setsKey key = false)
    (last : SetLast (past ++ [m]) key value start ttl later) :
    ∃ earlier, later = earlier ++ [m] ∧ SetLast past key value start ttl earlier := by
  rcases setLast_concat_iff.mp last with ⟨-, -, op⟩ | ⟨earlier, rfl, -, last⟩
  · simp [op, Operation.setsKey] at unset
  · exact ⟨earlier, rfl, last⟩

/-- What is set tells of itself. -/
lemma tells_set (default : m.store.store.defaultTtl = defaultTtl)
    (op : m.op = .set key value ttl) :
    Tells defaultTtl (past ++ [m]) key m.now
      (some (.new key value m.now (m.store.store.effectiveTtl ttl))) where
  isSet _ := ⟨value, m.now, ttl, [], setLast_concat_iff.mpr (.inl ⟨rfl, rfl, op⟩)⟩
  there e there value' start' ttl' later last := by
    obtain rfl := Option.some.inj there
    rcases setLast_concat_iff.mp last with ⟨rfl, rfl, op'⟩ | ⟨-, -, unset, -⟩
    · obtain ⟨-, rfl, rfl⟩ : key = key ∧ value = value' ∧ ttl = ttl' := by
        simpa [op] using op'
      refine ⟨?_, by simp [Undisturbed]⟩
      simp [entryOf, Entry.new, endOf, Duration.deadlineAfter, Store.effectiveTtl, default]
    · simp [op, Operation.setsKey] at unset
  gone gone := by cases gone

/-- An entry that is left where it is goes on telling, with what was found counted. -/
lemma Tells.stays {e : Entry} (h : Tells defaultTtl past key m.now (some e))
    (unset : m.op.setsKey key = false) (unmoved : m.op.removes key = false)
    (unpushed : m.pushesOut key = false) :
    Tells defaultTtl (past ++ [m]) key m.now
      (some { e with hits := e.hits + (m.finds key).toNat }) where
  isSet _ := by
    obtain ⟨value, start, ttl, later, last⟩ := h.isSet rfl
    exact ⟨value, start, ttl, later ++ [m],
      setLast_concat_iff.mpr (.inr ⟨later, rfl, unset, last⟩)⟩
  there x there value start ttl later last := by
    obtain rfl := Option.some.inj there
    obtain ⟨earlier, rfl, before⟩ := setLast_of_unset unset last
    obtain ⟨rfl, undisturbed⟩ := h.there e rfl value start ttl earlier before
    refine ⟨?_, undisturbed_concat_iff.mpr ⟨undisturbed, unmoved, unpushed⟩⟩
    cases finds : m.finds key <;> simp [entryOf, finds]
  gone gone := by cases gone

/-- Nothing tells of a key after what leaves nothing of it, for one of the reasons that there
are: it is past its time, it is taken out, it is pushed out, or there was nothing before. -/
lemma Tells.lost (h : Tells defaultTtl past key m.now found)
    (unset : m.op.setsKey key = false)
    (reason : (∀ e, found = some e → e.expiresAt ≤ m.now) ∨ m.op.removes key = true
      ∨ m.pushesOut key = true) :
    Tells defaultTtl (past ++ [m]) key m.now none where
  isSet there := by cases there
  there _ there := by cases there
  gone _ value start ttl later last undisturbed := by
    obtain ⟨earlier, rfl, before⟩ := setLast_of_unset unset last
    obtain ⟨undisturbed, unmoved, unpushed⟩ := undisturbed_concat_iff.mp undisturbed
    rcases reason with ended | removed | pushed
    · cases there : found with
      | none => exact h.gone there value start ttl earlier before undisturbed
      | some e =>
          obtain ⟨rfl, -⟩ := h.there e there value start ttl earlier before
          exact ended _ there
    · simp [unmoved] at removed
    · simp [unpushed] at pushed

/-- **Every operation keeps what there is of a key telling.** -/
lemma Tells.concat (h : Tells defaultTtl past key m.now found)
    (default : m.store.store.defaultTtl = defaultTtl) (fate : Fate m key found found') :
    Tells defaultTtl (past ++ [m]) key m.now found' := by
  cases fate with
  | set op => exact tells_set default op
  | found unset unmoved unpushed finds =>
      simpa only [finds, Bool.toNat_true] using h.stays unset unmoved unpushed
  | kept unset unmoved unpushed unfound =>
      simpa only [unfound, Bool.toNat_false, Nat.add_zero] using h.stays unset unmoved unpushed
  | expired unset ended =>
      refine h.lost unset (.inl fun x there => ?_)
      obtain rfl := Option.some.inj there
      exact ended
  | removed unset removed => exact h.lost unset (.inr (.inl removed))
  | pushedOut unset pushed => exact h.lost unset (.inr (.inr pushed))
  | absent unset => exact h.lost unset (.inl fun x there => by cases there)

/-- The life of an entry that is set without one is the same at any time. -/
lemma defaultTtl_run (maxEntries defaultTtl : ℕ) (ops : List (ℕ × Operation)) :
    (History.run maxEntries defaultTtl ops).now.store.defaultTtl = defaultTtl := by
  induction ops using List.reverseRecOn with
  | nil => rfl
  | append_singleton ops op ih =>
      rw [History.run_concat, History.next]
      cases op.2 <;> simp [Swept.apply, Swept.close, Store.clear, Store.cleanExpired, ih]

/-- **At any time what there is of a key tells what has been done with it.** -/
theorem tells_run (maxEntries defaultTtl : ℕ) (ops : List (ℕ × Operation)) (key : String)
    {now : ℕ} (ordered : (ops.map Prod.fst ++ [now]).Pairwise (· ≤ ·)) :
    Tells defaultTtl (ledger maxEntries defaultTtl ops) key now
      ((History.run maxEntries defaultTtl ops).now.store.find? key) := by
  induction ops using List.reverseRecOn generalizing now with
  | nil =>
      refine ⟨nofun, nofun, fun _ value start ttl later last => ?_⟩
      obtain ⟨⟨before, m, split, -⟩, -⟩ := last
      simp [ledger, ledgerFrom] at split
  | append_singleton ops op ih =>
      rw [List.map_append, List.pairwise_append] at ordered
      obtain ⟨ordered, -, le⟩ := ordered
      rw [ledger_concat, History.run_concat]
      refine Tells.mono ?_ (le op.1 (by simp) now (by simp))
      exact Tells.concat (m := ⟨_, op.1, op.2⟩) (ih ordered)
        (defaultTtl_run maxEntries defaultTtl ops)
        (fate_apply _ op.1 key (recent_run maxEntries defaultTtl ops) op.2)

/-! ### Keys that are pushed out -/

/-- What is pushed out has been touched, and then as many other keys as there is room for. -/
lemma Moment.since_le_of_pushesOut {touched : List String}
    (recent : m.store.store.Recent touched) (pushed : m.pushesOut key = true) :
    key ∈ touched ∧
      m.store.store.capacity ≤ (since (m.touched?.toList ++ touched) key).length := by
  obtain ⟨s, now, op⟩ := m
  cases op with
  | get | delete | clear | close | cleanExpired => simp [pushesOut, sets] at pushed
  | set other value ttl =>
      obtain ⟨there, gone⟩ : (s.store.find? key).isSome = true ∧
          (s.store.set now other value ttl).find? key = none := by
        simpa [pushesOut, sets, after, Swept.apply] using pushed
      obtain ⟨e, found⟩ := Option.isSome_iff_exists.mp there
      have listed : e ∈ s.store.entries := Store.mem_of_find? found
      obtain rfl : e.key = key := Store.key_of_find? found
      have ne : other ≠ e.key := by
        rintro rfl
        simp [Store.find?_set_self] at gone
      have evict : s.store.mustEvict other = true := by
        by_contra room
        rw [Store.find?_set_of_room (by simpa using room) ne, found] at gone
        cases gone
      -- it is not among the others, so it is the last one
      rw [Store.find?_set_of_mustEvict evict ne] at gone
      have atEnd : s.store.entries.getLast? = some e := by
        obtain ⟨init, last, entries⟩ : ∃ init last, s.store.entries = init ++ [last] :=
          ⟨_, _, (List.dropLast_append_getLast (List.ne_nil_of_mem listed)).symm⟩
        rw [entries, List.mem_append, List.mem_singleton] at listed
        rw [entries, List.dropLast_concat, List.find?_eq_none] at gone
        rcases listed with before | rfl
        · exact absurd (decide_eq_true rfl) (gone e before)
        · simp [entries]
      refine ⟨recent.inOrder.1 _ (List.mem_map_of_mem (Store.mem_of_find? found)), ?_⟩
      exact recent.pushed_out evict atEnd ne

lemma touchedIn_concat (past : List Moment) (m : Moment) :
    touchedIn (past ++ [m]) = m.touched?.toList ++ touchedIn past := by
  rw [touchedIn, List.filterMap_append, List.reverse_append, touchedIn]
  cases touched : m.touched? <;> simp [touched]

/-- The keys that have been touched are noted as they are touched. -/
lemma touched_run (maxEntries defaultTtl : ℕ) (ops : List (ℕ × Operation)) :
    (History.run maxEntries defaultTtl ops).touched
      = touchedIn (ledger maxEntries defaultTtl ops) := by
  induction ops using List.reverseRecOn with
  | nil => rfl
  | append_singleton ops op ih =>
      rw [ledger_concat, touchedIn_concat, ← ih, History.run_concat]
      rfl

/-- What is done at some moment finds the store that the operations before it have left. -/
lemma ledger_split {maxEntries defaultTtl : ℕ} {ops : List (ℕ × Operation)}
    {before : List Moment} (split : ledger maxEntries defaultTtl ops = before ++ m :: later) :
    ∃ done, before = ledger maxEntries defaultTtl done ∧
      m.store = (History.run maxEntries defaultTtl done).now := by
  induction ops using List.reverseRecOn generalizing later with
  | nil => simp [ledger, ledgerFrom] at split
  | append_singleton ops op ih =>
      rw [ledger_concat] at split
      rcases List.eq_nil_or_concat later with rfl | ⟨earlier, y, rfl⟩
      · obtain ⟨rfl, same⟩ := List.append_inj' split rfl
        exact ⟨ops, rfl, congrArg Moment.store (List.singleton_inj.mp same).symm⟩
      · rw [List.concat_eq_append, ← List.cons_append, ← List.append_assoc] at split
        exact ih (List.append_inj' split rfl).1

/-! ### Keys that are gone -/

/-- A key that is gone stays so as long as it is not set. -/
lemma absent_run (maxEntries defaultTtl : ℕ) (ops more : List (ℕ × Operation))
    (absent : (History.run maxEntries defaultTtl ops).now.store.find? key = none)
    (unset : ∀ op ∈ more, op.2.setsKey key = false) :
    (History.run maxEntries defaultTtl (ops ++ more)).now.store.find? key = none := by
  induction more using List.reverseRecOn with
  | nil => rwa [List.append_nil]
  | append_singleton more op ih =>
      obtain ⟨before, now⟩ := List.forall_mem_append.mp unset
      have fate := fate_apply (History.run maxEntries defaultTtl (ops ++ more)).now op.1 key
        (recent_run maxEntries defaultTtl (ops ++ more)) op.2
      rw [ih before] at fate
      rw [← List.append_assoc, History.run_concat, History.next]
      generalize (Swept.apply _ op.1 op.2).store.find? key = found at fate ⊢
      cases fate with
      | set op' =>
          have sets := now op (List.mem_singleton_self op)
          simp [show op.2 = _ from op', Operation.setsKey] at sets
      | removed | absent => rfl

namespace Store

variable {s : Store} {e : Entry}

lemma get_of_absent (absent : s.find? key = none) (now : ℕ) :
    (s.get now key).1 = .error .notFound := by
  simp [get, absent]

/-- An entry past its time is found to be so, and is taken out. -/
lemma get_of_expired (found : s.find? key = some e) (past : e.expiresAt ≤ now) :
    (s.get now key).1 = .error .expired ∧ (s.get now key).2.find? key = none := by
  have expired : e.isExpired now = true := decide_eq_true past
  rcases s.get_cases now key with ⟨absent, -⟩ | ⟨x, -, -, result, entries⟩ | ⟨x, found', alive, -⟩
  · simp [absent] at found
  · exact ⟨result, (find?_of_entries entries key).trans (s.find?_others_self key)⟩
  · obtain rfl := Option.some.inj (found'.symm.trans found)
    simp [alive] at expired

/-- A look-up finds exactly what is there and not past its time. -/
lemma get_ok_iff : (s.get now key).1 = .ok e ↔
    ∃ x, s.find? key = some x ∧ now < x.expiresAt ∧ e = { x with hits := x.hits + 1 } := by
  rcases s.get_cases now key with ⟨absent, result, -⟩ | ⟨x, found, past, result, -⟩ |
    ⟨x, found, alive, result, -⟩
  · simp [result, absent]
  · have ended : x.expiresAt ≤ now := of_decide_eq_true past
    simp [result, found, ended]
  · have ends : now < x.expiresAt := not_le.mp (of_decide_eq_false alive)
    simp [result, found, ends, eq_comm]

end Store

/-! ### Look-ups -/

/-- **Look-ups follow the past.** After any operations on a new store, at times that do not
go back, and at no earlier time:

* a key is found exactly if it has been set, and since it was set last it has been neither
  taken out nor pushed out, and its time has not ended;
* what is found is the value that was set last, with the time at which it was set and the
  end that followed from it then, and with the number of times that it has been found since,
  this one included;
* a key that was pushed out had been touched, and since then at least as many distinct other
  keys as the store has places;
* an entry that is past its time is reported so and taken out, and whatever is done
  afterwards its key is not there until it is set again. -/
theorem lookups_follow_the_past (maxEntries defaultTtl : ℕ) (ops : List (ℕ × Operation))
    (key : String) (now : ℕ) (ordered : (ops.map Prod.fst ++ [now]).Pairwise (· ≤ ·)) :
    let past := ledger maxEntries defaultTtl ops
    let s := (History.run maxEntries defaultTtl ops).now.store
    ((∃ e, (s.get now key).1 = .ok e) ↔ ∃ value start ttl later,
        SetLast past key value start ttl later ∧ Undisturbed key later
          ∧ now < endOf defaultTtl start ttl)
    ∧ (∀ value start ttl later e, SetLast past key value start ttl later →
        (s.get now key).1 = .ok e →
        e = ⟨key, value, start, endOf defaultTtl start ttl,
          later.countP (Moment.finds key) + 1⟩)
    ∧ (∀ before m later, past = before ++ m :: later → m.pushesOut key = true →
        key ∈ touchedIn before ∧
          max maxEntries 1 ≤ (since (touchedIn (before ++ [m])) key).length)
    ∧ ∀ e, s.find? key = some e → e.expiresAt ≤ now →
        (s.get now key).1 = .error .expired ∧ (s.get now key).2.find? key = none
        ∧ ∀ more time, (∀ op ∈ more, op.2.setsKey key = false) →
            ((History.run maxEntries defaultTtl
              (ops ++ (now, .get key) :: more)).now.store.get time key).1
                = .error .notFound := by
  intro past s
  have tells : Tells defaultTtl past key now (s.find? key) :=
    tells_run maxEntries defaultTtl ops key ordered
  refine ⟨⟨?_, ?_⟩, ?_, ?_, ?_⟩
  · rintro ⟨e, hit⟩
    obtain ⟨x, found, alive, -⟩ := Store.get_ok_iff.mp hit
    obtain ⟨value, start, ttl, later, last⟩ := tells.isSet (by rw [found]; rfl)
    obtain ⟨rfl, undisturbed⟩ := tells.there x found value start ttl later last
    exact ⟨value, start, ttl, later, last, undisturbed, alive⟩
  · rintro ⟨value, start, ttl, later, last, undisturbed, alive⟩
    cases found : s.find? key with
    | none =>
        have ended := tells.gone found value start ttl later last undisturbed
        exact absurd alive (not_lt.mpr ended)
    | some x =>
        obtain ⟨rfl, -⟩ := tells.there x found value start ttl later last
        exact ⟨_, Store.get_ok_iff.mpr ⟨_, found, alive, rfl⟩⟩
  · rintro value start ttl later e last hit
    obtain ⟨x, found, -, rfl⟩ := Store.get_ok_iff.mp hit
    obtain ⟨rfl, -⟩ := tells.there x found value start ttl later last
    rfl
  · intro before m later split pushed
    obtain ⟨done, rfl, store⟩ := ledger_split split
    have recent : m.store.store.Recent (touchedIn (ledger maxEntries defaultTtl done)) := by
      rw [store, ← touched_run]
      exact recent_run maxEntries defaultTtl done
    have capacity : m.store.store.capacity = max maxEntries 1 := by
      rw [store, capacity_run]
    rw [touchedIn_concat, ← capacity]
    exact m.since_le_of_pushesOut recent pushed
  · intro e found ended
    obtain ⟨expired, gone⟩ := Store.get_of_expired found ended
    refine ⟨expired, gone, fun more time unset => Store.get_of_absent ?_ time⟩
    rw [List.append_cons]
    refine absent_run maxEntries defaultTtl _ more ?_ unset
    rw [History.run_concat]
    exact gone

/-- A key that is set twice and found twice, beside one that is pushed out. -/
def crowded : List (ℕ × Operation) :=
  [(0, .set "a" [1] 5), (1, .set "a" [2] 0), (2, .get "a"), (3, .set "b" [3] 0),
    (4, .get "a"), (5, .set "c" [4] 0)]

theorem lookups_follow_the_past_crowded :
    let past := ledger 2 60 crowded
    let s := (History.run 2 60 crowded).now.store
    (s.get 60 "a").1 = .ok ⟨"a", [2], 1, 61, 3⟩
      ∧ (∃ value start ttl later, SetLast past "a" value start ttl later
          ∧ Undisturbed "a" later ∧ 60 < endOf 60 start ttl)
      ∧ (s.get 60 "b").1 = .error .notFound
      ∧ ¬ ∃ value start ttl later, SetLast past "b" value start ttl later
          ∧ Undisturbed "b" later ∧ 60 < endOf 60 start ttl := by
  intro past s
  have ordered : (crowded.map Prod.fst ++ [60]).Pairwise (· ≤ ·) := by decide
  obtain ⟨found, -⟩ := lookups_follow_the_past 2 60 crowded "a" 60 ordered
  obtain ⟨lost, -⟩ := lookups_follow_the_past 2 60 crowded "b" 60 ordered
  have missed : (s.get 60 "b").1 = .error .notFound := rfl
  refine ⟨rfl, found.mp ⟨_, rfl⟩, missed, fun kept => ?_⟩
  obtain ⟨e, hit⟩ := lost.mpr kept
  rw [missed] at hit
  cases hit

end ToolServer.Cache
