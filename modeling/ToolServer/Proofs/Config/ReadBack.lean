/-
Configurations read back from their JSON text:

* `Selection.cut`: a document without some of its sections and without some of
  the fields of the others;
* `value_field_keeping`: a field of a record that has lost some of its members is
  its value if it is still there, and what stands for it otherwise;
* `CacheConfig.decode_keeping` and its likes: a section without some of its fields
  is read as itself, those fields unset;
* `settings_read_back`: the text of a configuration, cut or whole, and the text of
  the rules of caching of a tool.

The decoders put the names of a table and the tags of a tool in their order. What
is written is in that order already, so that each goes behind all before it.
-/
import Mathlib.Data.String.Basic
import ToolServer.Config.File
import ToolServer.Proofs.Duration.ReadBack
import ToolServer.Proofs.Json.ReadBack
import ToolServer.Proofs.Protocol.Request
import ToolServer.Tool.Caching

namespace ToolServer

/-! ### Cutting documents -/

/-- The members of an object with names that are kept. -/
def Json.keeping (keep : String → Bool) : Json → Json
  | .object members => .object (members.filter fun m => keep m.1)
  | v => v

/-- The sections of a configuration that are kept, and the fields of each. -/
structure Selection where
  sections : String → Bool
  fields : String → String → Bool

/-- Everything is kept. -/
def Selection.everything : Selection := ⟨fun _ => true, fun _ _ => true⟩

/-- The sections of a document that are kept, each with its fields that are kept. -/
def Selection.cut (s : Selection) : Json → Json
  | .object members =>
    .object ((members.filter fun m => s.sections m.1).map fun m =>
      (m.1, m.2.keeping (s.fields m.1)))
  | v => v

lemma Json.keeping_true (v : Json) : v.keeping (fun _ => true) = v := by
  cases v <;> simp [keeping]

lemma Selection.everything_cut (v : Json) : everything.cut v = v := by
  cases v <;> simp [cut, everything, Json.keeping_true]

/-! ### What is left of a configuration -/

/-- The configuration with its fields unset that are not kept. -/
def CacheConfig.restrict (keep : String → Bool) (c : CacheConfig) : CacheConfig :=
  let unset : CacheConfig := {}
  { enabled := if keep "enabled" then c.enabled else unset.enabled
    store := if keep "store" then c.store else unset.store
    defaultTtl := if keep "default_ttl" then c.defaultTtl else unset.defaultTtl
    maxEntries := if keep "max_entries" then c.maxEntries else unset.maxEntries
    cleanupInterval := if keep "cleanup_interval" then c.cleanupInterval else unset.cleanupInterval
    toolTtls := if keep "tool_ttls" then c.toolTtls else unset.toolTtls }

/-- The configuration with its fields unset that are not kept. -/
def ExecutorConfig.restrict (keep : String → Bool) (c : ExecutorConfig) : ExecutorConfig :=
  let unset : ExecutorConfig := {}
  { bufferSize := if keep "buffer_size" then c.bufferSize else unset.bufferSize
    timeout := if keep "timeout" then c.timeout else unset.timeout
    maxEvents := if keep "max_events" then c.maxEvents else unset.maxEvents
    maxConcurrent := if keep "max_concurrent" then c.maxConcurrent else unset.maxConcurrent
    terminalTimeout :=
      if keep "terminal_event_timeout" then c.terminalTimeout else unset.terminalTimeout }

/-- The configuration with its fields unset that are not kept. -/
def LoggingConfig.restrict (keep : String → Bool) (c : LoggingConfig) : LoggingConfig :=
  let unset : LoggingConfig := {}
  { level := if keep "level" then c.level else unset.level
    format := if keep "format" then c.format else unset.format }

/-- The configuration with its fields unset that are not kept. -/
def HttpConfig.restrict (keep : String → Bool) (c : HttpConfig) : HttpConfig :=
  let unset : HttpConfig := {}
  { address := if keep "address" then c.address else unset.address
    maxRequestSize := if keep "max_request_size" then c.maxRequestSize else unset.maxRequestSize
    allowedOrigins := if keep "allowed_origins" then c.allowedOrigins else unset.allowedOrigins }

/-- The configuration with its sections and fields unset that are not kept. -/
def Selection.restrict (s : Selection) (c : ServerConfig) : ServerConfig :=
  let unset : ServerConfig := {}
  { cache := if s.sections "cache" then c.cache.restrict (s.fields "cache") else unset.cache
    executor :=
      if s.sections "executor" then c.executor.restrict (s.fields "executor") else unset.executor
    logging :=
      if s.sections "logging" then c.logging.restrict (s.fields "logging") else unset.logging
    http := if s.sections "http" then c.http.restrict (s.fields "http") else unset.http }

lemma Selection.everything_restrict (c : ServerConfig) : everything.restrict c = c := rfl

/-! ### What the fields of a configuration hold -/

/-- Whether the fields of a configuration hold spans up to the longest one, numbers
of 64 bits, and one span for each name. -/
structure CacheConfig.Fits (c : CacheConfig) : Prop where
  defaultTtl : c.defaultTtl ≤ Duration.max
  maxEntries : c.maxEntries < 2 ^ 64
  cleanupInterval : c.cleanupInterval ≤ Duration.max
  toolTtls : ∀ t ∈ c.toolTtls, t.2 ≤ Duration.max
  ordered : c.toolTtls.Pairwise fun t u => t.1 < u.1

/-- Whether the fields of a configuration hold spans up to the longest one and
numbers of 64 bits. -/
structure ExecutorConfig.Fits (c : ExecutorConfig) : Prop where
  bufferSize : c.bufferSize < 2 ^ 64
  timeout : c.timeout ≤ Duration.max
  maxEvents : c.maxEvents < 2 ^ 64
  maxConcurrent : c.maxConcurrent < 2 ^ 64
  terminalTimeout : c.terminalTimeout ≤ Duration.max

/-- Whether the fields of a configuration hold what they can: spans up to the longest
one and numbers of 64 bits. -/
structure ServerConfig.Fits (c : ServerConfig) : Prop where
  cache : c.cache.Fits
  executor : c.executor.Fits
  maxRequestSize : c.http.maxRequestSize < 2 ^ 64

/-- Whether the rules of caching hold a span up to the longest one, and each tag once. -/
structure Tool.Caching.Fits (c : Caching) : Prop where
  ttl : ∀ d ∈ c.ttl, d ≤ Duration.max
  ordered : c.tags.Pairwise (· < ·)

/-! ### Lists and tables -/

namespace Decode

lemma bool_bool (b : Bool) : bool (Json.bool b) = .ok b := rfl

lemma string_string (s : String) : string (Json.string s) = .ok s := rfl

lemma list_map_string (xs : List String) :
    list string (Json.array (xs.map Json.string)) = .ok xs :=
  mapM_map_eq_ok Json.string fun _ _ => rfl

lemma table_map_toJson {ts : List (String × ℕ)} (fits : ∀ t ∈ ts, t.2 ≤ Duration.max) :
    table Duration.decode (Json.object (ts.map fun t => (t.1, Duration.toJson t.2))) = .ok ts :=
  mapM_map_eq_ok (fun t : String × ℕ => (t.1, Duration.toJson t.2)) fun t ht => by
    rw [Duration.decode_toJson (fits t ht)]
    rfl

lemma natural_ofNat (expected : String) {n : ℕ} (fits : n < 2 ^ 64) :
    natural expected (Json.ofNat n) = .ok n := by
  have same : n.toUInt64.toNat = n := Nat.mod_eq_of_lt fits
  have range : (0 : ℤ) ≤ (n : ℤ) ∧ (n : ℤ) ≤ 0xFFFFFFFFFFFFFFFF := by omega
  simp only [natural, integerIn, Document.integer?, Json.ofNat, Json.Number.toInt?, same, range,
    and_self, if_true]
  rfl

end Decode

/-- Putting items in their place one by one leaves a list as it is, if each of them
belongs behind all before it. -/
lemma foldl_put {α : Type} {before : α → α → Prop} {put : α → List α → List α}
    (last : ∀ x sorted, (∀ y ∈ sorted, before y x) → put x sorted = sorted ++ [x]) {xs : List α}
    (ordered : xs.Pairwise before) : xs.foldl (fun sorted x => put x sorted) [] = xs := by
  have behind : ∀ xs sorted : List α, (sorted ++ xs).Pairwise before →
      xs.foldl (fun sorted x => put x sorted) sorted = sorted ++ xs := by
    intro xs
    induction xs with
    | nil => exact fun sorted _ => (List.append_nil sorted).symm
    | cons x xs ih =>
        intro sorted h
        have least : ∀ y ∈ sorted, before y x := fun y hy =>
          (List.pairwise_append.mp h).2.2 y hy x List.mem_cons_self
        rw [List.foldl_cons, last x sorted least, ih _ (by simpa using h), List.append_assoc,
          List.singleton_append]
  exact behind xs [] ordered

lemma insertNamed_last {β : Type} (t : String × β) (sorted : List (String × β))
    (h : ∀ u ∈ sorted, u.1 < t.1) : insertNamed t.1 t.2 sorted = sorted ++ [t] := by
  induction sorted with
  | nil => rfl
  | cons u sorted ih =>
      obtain ⟨first, rest⟩ := List.forall_mem_cons.mp h
      have behind : ¬ t.1 < u.1 := lt_asymm first
      have other : t.1 ≠ u.1 := ne_of_gt first
      rw [insertNamed, if_neg behind, if_neg other, ih rest, List.cons_append]

lemma Tool.insertTag_last (t : String) (sorted : List String) (h : ∀ u ∈ sorted, u < t) :
    insertTag t sorted = sorted ++ [t] := by
  induction sorted with
  | nil => rfl
  | cons u sorted ih =>
      obtain ⟨first, rest⟩ := List.forall_mem_cons.mp h
      have behind : ¬ t < u := lt_asymm first
      have other : t ≠ u := ne_of_gt first
      rw [insertTag, if_neg behind, if_neg other, ih rest, List.cons_append]

/-! ### Records without some of their members -/

lemma Json.lookup_filter (keep : String → Bool) (key : String) (members : List (String × Json)) :
    lookup key (members.filter fun m => keep m.1)
      = if keep key then lookup key members else none := by
  induction members with
  | nil => simp [lookup]
  | cons m members ih =>
      rw [List.filter_cons]
      by_cases here : m.1 = key
      · subst here
        by_cases kept : keep m.1 = true
        · simp [lookup, kept]
        · rw [if_neg kept, ih, if_neg kept, if_neg kept]
      · have skip (ms : List (String × Json)) : lookup key (m :: ms) = lookup key ms := by
          rw [lookup, List.find?_cons_of_neg (by simpa using here)]
          rfl
        by_cases kept : keep m.1 = true
        · rw [if_pos kept, skip, ih, skip]
        · rw [if_neg kept, ih, skip]

section Fields

variable {β : Type} {members : List (String × Json)} {expected : String} {index : ℕ}
  {item : Decode.Decoder Json β} {unset x : β} {v : Json}

/-- **A field of a record that has lost some members** is its value if it is still
there, and what stands for it otherwise. -/
lemma Decode.Slots.value_field_keeping (distinct : (members.map Prod.fst).Nodup)
    (keep : String → Bool) (name : String) (read : item v = .ok x)
    (written : Json.lookup name members = some v) :
    ((Slots.mk (.named (members.filter fun m => keep m.1)) expected).field name index item
      (some unset)).value = .ok (if keep name then x else unset) := by
  have fewer : ((members.filter fun m => keep m.1).map Prod.fst).Nodup :=
    distinct.sublist (List.filter_sublist.map _)
  have found := Json.lookup_filter keep name members
  split_ifs at found ⊢ with kept
  · exact value_field_present fewer name read (found.trans written)
  · exact value_field_absent fewer name found

end Fields

/-! ### Sections -/

lemma StoreKind.decode_name (k : StoreKind) : decode (Json.string k.name) = .ok k := by
  cases k <;> rfl

lemma LogFormat.decode_name (f : LogFormat) : decode (Json.string f.name) = .ok f := by
  cases f <;> rfl

theorem CacheConfig.decode_keeping {c : CacheConfig} (fits : c.Fits) (keep : String → Bool) :
    decode (c.toJson.keeping keep) = .ok (c.restrict keep) := by
  have distinct : (c.toJson.members.map Prod.fst).Nodup :=
    (by decide : ["enabled", "store", "default_ttl", "max_entries", "cleanup_interval",
      "tool_ttls"].Nodup)
  have ordered : (if keep "tool_ttls" then c.toolTtls else []).Pairwise fun t u => t.1 < u.1 := by
    split_ifs
    · exact fits.ordered
    · exact .nil
  have slots : Decode.slots "CacheConfig" 6 (c.toJson.keeping keep)
      = .ok ⟨.named (c.toJson.members.filter fun m => keep m.1), _⟩ := rfl
  rw [decode, slots]
  simp only [Bind.bind, Except.bind,
    Decode.Slots.value_field_keeping distinct keep "enabled" (Decode.bool_bool _) rfl,
    Decode.Slots.value_field_keeping distinct keep "store" (StoreKind.decode_name _) rfl,
    Decode.Slots.value_field_keeping distinct keep "default_ttl"
      (Duration.decode_toJson fits.defaultTtl) rfl,
    Decode.Slots.value_field_keeping distinct keep "max_entries"
      (Decode.natural_ofNat _ fits.maxEntries) rfl,
    Decode.Slots.value_field_keeping distinct keep "cleanup_interval"
      (Duration.decode_toJson fits.cleanupInterval) rfl,
    Decode.Slots.value_field_keeping distinct keep "tool_ttls"
      (Decode.table_map_toJson fits.toolTtls) rfl]
  simp only [Decode.Slots.exhausted]
  rw [foldl_put insertNamed_last ordered]
  rfl

theorem ExecutorConfig.decode_keeping {c : ExecutorConfig} (fits : c.Fits)
    (keep : String → Bool) : decode (c.toJson.keeping keep) = .ok (c.restrict keep) := by
  have distinct : (c.toJson.members.map Prod.fst).Nodup :=
    (by decide : ["buffer_size", "timeout", "max_events", "max_concurrent",
      "terminal_event_timeout"].Nodup)
  have slots : Decode.slots "ExecutorConfig" 5 (c.toJson.keeping keep)
      = .ok ⟨.named (c.toJson.members.filter fun m => keep m.1), _⟩ := rfl
  rw [decode, slots]
  simp only [Bind.bind, Except.bind,
    Decode.Slots.value_field_keeping distinct keep "buffer_size"
      (Decode.natural_ofNat _ fits.bufferSize) rfl,
    Decode.Slots.value_field_keeping distinct keep "timeout"
      (Duration.decode_toJson fits.timeout) rfl,
    Decode.Slots.value_field_keeping distinct keep "max_events"
      (Decode.natural_ofNat _ fits.maxEvents) rfl,
    Decode.Slots.value_field_keeping distinct keep "max_concurrent"
      (Decode.natural_ofNat _ fits.maxConcurrent) rfl,
    Decode.Slots.value_field_keeping distinct keep "terminal_event_timeout"
      (Duration.decode_toJson fits.terminalTimeout) rfl]
  rfl

theorem LoggingConfig.decode_keeping (c : LoggingConfig) (keep : String → Bool) :
    decode (c.toJson.keeping keep) = .ok (c.restrict keep) := by
  have distinct : (c.toJson.members.map Prod.fst).Nodup :=
    (by decide : ["level", "format"].Nodup)
  have slots : Decode.slots "LoggingConfig" 2 (c.toJson.keeping keep)
      = .ok ⟨.named (c.toJson.members.filter fun m => keep m.1), _⟩ := rfl
  rw [decode, slots]
  simp only [Bind.bind, Except.bind,
    Decode.Slots.value_field_keeping distinct keep "level" (Decode.string_string _) rfl,
    Decode.Slots.value_field_keeping distinct keep "format" (LogFormat.decode_name _) rfl]
  rfl

theorem HttpConfig.decode_keeping {c : HttpConfig} (fits : c.maxRequestSize < 2 ^ 64)
    (keep : String → Bool) : decode (c.toJson.keeping keep) = .ok (c.restrict keep) := by
  have distinct : (c.toJson.members.map Prod.fst).Nodup :=
    (by decide : ["address", "max_request_size", "allowed_origins"].Nodup)
  have slots : Decode.slots "HttpConfig" 3 (c.toJson.keeping keep)
      = .ok ⟨.named (c.toJson.members.filter fun m => keep m.1), _⟩ := rfl
  rw [decode, slots]
  simp only [Bind.bind, Except.bind,
    Decode.Slots.value_field_keeping distinct keep "address" (Decode.string_string _) rfl,
    Decode.Slots.value_field_keeping distinct keep "max_request_size"
      (Decode.natural_ofNat _ fits) rfl,
    Decode.Slots.value_field_keeping distinct keep "allowed_origins"
      (Decode.list_map_string _) rfl]
  rfl

/-! ### The whole configuration -/

/-- **A configuration without some of its sections and fields** is read as itself,
those sections and fields unset. -/
theorem ServerConfig.decode_cut {c : ServerConfig} (fits : c.Fits) (s : Selection) :
    decode (s.cut c.toJson) = .ok (s.restrict c) := by
  let sections := c.toJson.members.map fun m => (m.1, m.2.keeping (s.fields m.1))
  have distinct : (sections.map Prod.fst).Nodup :=
    (by decide : ["cache", "executor", "logging", "http"].Nodup)
  have cut : s.cut c.toJson = .object (sections.filter fun m => s.sections m.1) := by
    simp only [sections, List.filter_map]
    rfl
  have slots : Decode.slots "ServerConfig" 4 (Json.object (sections.filter fun m => s.sections m.1))
      = .ok ⟨.named (sections.filter fun m => s.sections m.1), _⟩ := rfl
  rw [decode, cut, slots]
  simp only [Bind.bind, Except.bind,
    Decode.Slots.value_field_keeping distinct s.sections "cache"
      (CacheConfig.decode_keeping fits.cache _) rfl,
    Decode.Slots.value_field_keeping distinct s.sections "executor"
      (ExecutorConfig.decode_keeping fits.executor _) rfl,
    Decode.Slots.value_field_keeping distinct s.sections "logging"
      (LoggingConfig.decode_keeping c.logging _) rfl,
    Decode.Slots.value_field_keeping distinct s.sections "http"
      (HttpConfig.decode_keeping fits.maxRequestSize _) rfl]
  rfl

/-! ### Rules of caching -/

/-- **The rules of caching of a tool** are read as themselves, what is absent being
left out. -/
theorem Tool.Caching.decode_toJson {c : Caching} (fits : c.Fits) : decode c.toJson = .ok c := by
  obtain ⟨cacheable, ttl, tags⟩ := c
  have distinct : ((toJson ⟨cacheable, ttl, tags⟩).members.map Prod.fst).Nodup := by
    cases ttl <;> cases tags <;> simp [toJson, Json.members]
  have span (expected : String) : ((Decode.Slots.mk (.named (toJson ⟨cacheable, ttl, tags⟩).members)
      expected).field "ttl" 1 (Decode.optional Duration.decode) (some none)).value = .ok ttl := by
    cases ttl with
    | none => exact Decode.Slots.value_field_absent distinct "ttl" (by cases tags <;> rfl)
    | some d =>
        have read : Decode.optional Duration.decode (Duration.toJson d) = .ok (some d) :=
          congrArg (Except.map some) (Duration.decode_toJson (fits.ttl d rfl))
        exact Decode.Slots.value_field_present distinct "ttl" read (by cases tags <;> rfl)
  have names (expected : String) : ((Decode.Slots.mk (.named (toJson ⟨cacheable, ttl, tags⟩).members)
      expected).field "tags" 2 (Decode.list Decode.string) (some [])).value = .ok tags := by
    cases tags with
    | nil => exact Decode.Slots.value_field_absent distinct "tags" (by cases ttl <;> rfl)
    | cons t tags =>
        exact Decode.Slots.value_field_present distinct "tags"
          (Decode.list_map_string (t :: tags)) (by cases ttl <;> rfl)
  have slots : Decode.slots "ToolCacheMetadata" 3 (toJson ⟨cacheable, ttl, tags⟩)
      = .ok ⟨.named (toJson ⟨cacheable, ttl, tags⟩).members, _⟩ := rfl
  rw [decode, slots]
  simp only [Bind.bind, Except.bind, span, names,
    Decode.Slots.value_field_present distinct "cacheable" (Decode.bool_bool cacheable) rfl,
    Decode.Slots.exhausted]
  rw [foldl_put insertTag_last fits.ordered]
  rfl

/-! ### Text -/

lemma Json.Shallow.keeping {n : ℕ} {v : Json} (h : v.Shallow n) (keep : String → Bool) :
    (v.keeping keep).Shallow n := by
  cases v with
  | object members =>
      cases n with
      | zero => exact absurd h.2 (Nat.not_succ_le_zero _)
      | succ n =>
          exact shallow_object_iff.mpr fun m hm =>
            shallow_object_iff.mp h m (List.mem_of_mem_filter hm)
  | null | bool | number | string | array => exact h

lemma Selection.shallow_cut {n : ℕ} {v : Json} (h : v.Shallow n) (s : Selection) :
    (s.cut v).Shallow n := by
  cases v with
  | object members =>
      cases n with
      | zero => exact absurd h.2 (Nat.not_succ_le_zero _)
      | succ n =>
          refine Json.shallow_object_iff.mpr fun m hm => ?_
          obtain ⟨whole, inside, rfl⟩ := List.mem_map.mp hm
          exact (Json.shallow_object_iff.mp h whole (List.mem_of_mem_filter inside)).keeping _
  | null | bool | number | string | array => exact h

@[simp] lemma Duration.shallow_toJson (n d : ℕ) : (toJson d).Shallow n :=
  Json.shallow_string n _

lemma ServerConfig.shallow_toJson (c : ServerConfig) : c.toJson.Shallow 3 := by
  have ttls : (Json.object (c.cache.toolTtls.map fun t => (t.1, Duration.toJson t.2))).Shallow 1 :=
    Json.shallow_object_iff.mpr fun m hm => by
      obtain ⟨t, -, rfl⟩ := List.mem_map.mp hm
      exact Duration.shallow_toJson 0 t.2
  simp [toJson, CacheConfig.toJson, ExecutorConfig.toJson, LoggingConfig.toJson,
    HttpConfig.toJson, ttls]

lemma Tool.Caching.shallow_toJson (c : Caching) : c.toJson.Shallow 2 := by
  obtain ⟨cacheable, ttl, tags⟩ := c
  cases ttl <;> cases tags <;> simp [toJson]

/-- The rules of caching that a text stands for. -/
def Tool.Caching.ofText? (text : String) : Option Caching :=
  (Json.readAsWritten (Text.bytesOf text)).toOption.bind fun v => (decode v).toOption

/-- **Settings are read back from their text.** Where sections and fields have been
taken out of the text of a configuration, these are unset and all else is as it was;
where nothing has been taken out, the configuration is the same. The rules of caching
of a tool are the same in every case. -/
theorem settings_read_back (c : ServerConfig) (fits : c.Fits) (rules : Tool.Caching)
    (rulesFit : rules.Fits) :
    (∀ s : Selection, FileFormat.json.decode (s.cut c.toJson).text = some (s.restrict c))
      ∧ FileFormat.json.decode c.toJson.text = some c
      ∧ Tool.Caching.ofText? rules.toJson.text = some rules := by
  have cut (s : Selection) :
      FileFormat.json.decode (s.cut c.toJson).text = some (s.restrict c) := by
    have shallow := (s.shallow_cut c.shallow_toJson).mono (by decide : 3 ≤ Json.maxNesting)
    rw [FileFormat.decode, Json.readAsWritten_text shallow.1 shallow.2]
    exact congrArg Except.toOption (ServerConfig.decode_cut fits s)
  refine ⟨cut, ?_, ?_⟩
  · have whole := cut .everything
    rwa [Selection.everything_cut, Selection.everything_restrict] at whole
  · have shallow := rules.shallow_toJson.mono (by decide : 2 ≤ Json.maxNesting)
    rw [Tool.Caching.ofText?, Json.readAsWritten_text shallow.1 shallow.2]
    exact congrArg Except.toOption (Tool.Caching.decode_toJson rulesFit)

/-- A configuration whose store keeps results for the longest span, without the section
on HTTP and without the limits of the store, and a tool with two tags. -/
theorem settings_read_back_longest :
    FileFormat.json.decode ((Selection.mk (· ≠ "http") fun _ f => f ≠ "max_entries").cut
        (ServerConfig.mk ⟨true, .durable, Duration.max, 7, 1, [("a\"\n", Duration.max), ("b", 0)]⟩
          ⟨1, Duration.max, 18446744073709551615, 3, 999999999⟩ ⟨"µ", .compact⟩
          ⟨"here", 5, ["*"]⟩).toJson).text
      = some ⟨⟨true, .durable, Duration.max, 1000, 1, [("a\"\n", Duration.max), ("b", 0)]⟩,
          ⟨1, Duration.max, 18446744073709551615, 3, 999999999⟩, ⟨"µ", .compact⟩, {}⟩ := by
  have fits : ServerConfig.Fits (.mk
      ⟨true, .durable, Duration.max, 7, 1, [("a\"\n", Duration.max), ("b", 0)]⟩
      ⟨1, Duration.max, 18446744073709551615, 3, 999999999⟩ ⟨"µ", .compact⟩ ⟨"here", 5, ["*"]⟩) :=
    ⟨⟨le_rfl, by decide, by decide, by decide, by decide⟩,
      ⟨by decide, le_rfl, by decide, by decide, by decide⟩, by decide⟩
  have rulesFit : Tool.Caching.Fits ⟨true, some Duration.max, ["x", "y"]⟩ :=
    ⟨by rintro d ⟨⟩; exact le_rfl, by decide⟩
  exact (settings_read_back _ fits _ rulesFit).1 _

end ToolServer
