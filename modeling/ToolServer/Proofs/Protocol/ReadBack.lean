/-
Messages read back from their text:

* `Json.Arranges`: a function that puts the members of objects in some order;
* `Json.ReadsAs`: a text is read as some value, whether the members of its objects are
  sorted on the way or not;
* `Json.ReadsBack`: a value's text is read as a second one, and so is the text of that one;
* `RpcError.settled` and its likes: a message without what is null where it may be absent;
* `RpcError.decode_arranged` and its likes: the document of a message, in any order, is
  decoded as the settled message;
* `messages_read_back`: every message is read back as the settled one;
* `null_data_not_read_back`: an error whose data is null is not what comes back.

A message is written with its fields in a fixed order, and read in two ways: as it stands,
or after the members of all objects have been sorted. Decoding does not depend on the
order, so that one lemma about a message does for both.
-/
import ToolServer.Proofs.Json.Canonical
import ToolServer.Proofs.Json.ReadBack
import ToolServer.Proofs.Protocol.Request

namespace ToolServer

/-! ### Documents in any order -/

namespace Json

variable {f : Json → Json}

lemma lookup_eq_some_iff {members : List (String × Json)}
    (distinct : (members.map Prod.fst).Nodup) {key : String} {v : Json} :
    lookup key members = some v ↔ (key, v) ∈ members := by
  have found := filter_key distinct key
  constructor
  · intro there
    rw [there] at found
    have mem : (key, v) ∈ members.filter fun m => m.1 = key := by rw [found]; simp
    exact (List.mem_filter.mp mem).1
  · intro mem
    have kept : (key, v) ∈ members.filter fun m => m.1 = key :=
      List.mem_filter.mpr ⟨mem, decide_eq_true rfl⟩
    rw [found] at kept
    cases there : lookup key members with
    | none => simp [there] at kept
    | some w => simpa [there, eq_comm] using kept

/-- Sorting members with distinct keys leaves the value of every key. -/
lemma lookup_sortMembers {members : List (String × Json)}
    (distinct : (members.map Prod.fst).Nodup) (key : String) :
    lookup key (sortMembers members) = lookup key members := by
  have order := sortMembers_perm distinct
  have distinct' := (order.map Prod.fst).nodup_iff.mpr distinct
  ext v
  rw [lookup_eq_some_iff distinct', lookup_eq_some_iff distinct, order.mem_iff]

lemma lookup_map (key : String) (members : List (String × Json)) :
    lookup key (members.map fun m => (m.1, f m.2)) = (lookup key members).map f := by
  induction members with
  | nil => rfl
  | cons m members ih =>
      by_cases here : m.1 = key
      · simp [lookup, here]
      · simpa [lookup, here] using ih

/-- Whether a function on values puts the members of objects in some order, and does
nothing else to values that are not in their canonical form. -/
structure Arranges (f : Json → Json) : Prop where
  keeps : ∀ v, v.canonical = v → f v = v
  array : ∀ items, f (.array items) = .array (items.map f)
  object : ∀ members, (members.map Prod.fst).Nodup →
    ∃ members', f (.object members) = .object members' ∧ (members'.map Prod.fst).Nodup ∧
      ∀ key, lookup key members' = (lookup key members).map f

/-- What may be there or not is left as it is, if it is in its canonical form. -/
lemma Arranges.map_eq (h : Arranges f) {v : Option Json} (sorted : ∀ w ∈ v, w.canonical = w) :
    v.map f = v := by
  cases v with
  | none => rfl
  | some w => exact congrArg some (h.keeps w (sorted w rfl))

/-- What is there is found as it is, if it is in its canonical form. -/
lemma Arranges.found (h : Arranges f) {found there : Option Json} {v : Json}
    (look : found = there.map f) (eq : there = some v) (sorted : v.canonical = v) :
    found = some v := by
  rw [look, eq, Option.map_some, h.keeps v sorted]

lemma arranges_id : Arranges id where
  keeps _ _ := rfl
  array items := by simp
  object members distinct := ⟨members, rfl, distinct, fun key => by simp⟩

lemma canonicalItems_eq_map (items : List Json) : canonicalItems items = items.map canonical := by
  induction items with
  | nil => rfl
  | cons v items ih => rw [canonicalItems, ih, List.map_cons]

lemma arranges_canonical : Arranges canonical where
  keeps _ h := h
  array items := by rw [canonical, canonicalItems_eq_map]
  object members distinct := by
    have distinct' : ((canonicalMembers members).map Prod.fst).Nodup := by
      rwa [keys_canonicalMembers]
    refine ⟨sortMembers (canonicalMembers members), rfl, ?_, fun key => ?_⟩
    · exact ((sortMembers_perm distinct').map Prod.fst).nodup_iff.mpr distinct'
    · rw [lookup_sortMembers distinct', canonicalMembers_eq_map, lookup_map]

lemma canonical_ofInt (i : ℤ) : (ofInt i).canonical = ofInt i := by
  rw [ofInt]
  split <;> rfl

/-- A whole number has the value that it was made of. -/
lemma Number.toInt?_of_ofInt? {i : ℤ} {n : Number} (h : ofInt? i = some n) :
    n.toInt? = some i := by
  rw [ofInt?] at h
  split_ifs at h with natural small negative
  · obtain rfl := Option.some.inj h
    have same : i.toNat.toUInt64.toNat = i.toNat := Nat.mod_eq_of_lt (by omega)
    rw [toInt?, same, Int.toNat_of_nonneg natural]
  · obtain rfl := Option.some.inj h
    rw [toInt?, Int.toNat_of_nonneg (by omega)]
    exact congrArg some (by omega)

lemma isWhole_ofInt (i : ℤ) : (ofInt i).IsWhole := by
  rw [ofInt]
  cases number : Number.ofInt? i with
  | none => trivial
  | some n => exact Option.isSome_of_eq_some (Number.toInt?_of_ofInt? number)

lemma depth_ofInt (i : ℤ) : (ofInt i).depth = 0 := by
  rw [ofInt]
  split <;> rfl

/-- An integer of 64 bits is a number. -/
lemma ofInt_eq_number {i : ℤ} (low : -0x8000000000000000 ≤ i) (high : i < 0x8000000000000000) :
    ∃ n : Number, ofInt i = .number n ∧ n.toInt? = some i := by
  have fits : (Number.ofInt? i).isSome := by
    rw [Number.ofInt?]
    split_ifs with natural small negative
    · rfl
    · omega
    · rfl
    · omega
  obtain ⟨n, number⟩ := Option.isSome_iff_exists.mp fits
  exact ⟨n, by rw [ofInt, number], Number.toInt?_of_ofInt? number⟩

/-- An object is no deeper than another if its values are not. -/
lemma depth_object_le {members members' : List (String × Json)}
    (each : ∀ m ∈ members', ∃ m' ∈ members, m.2.depth ≤ m'.2.depth) :
    (object members').depth ≤ (object members).depth := by
  rw [depth, depth, Nat.add_le_add_iff_right, depthOfMembers_le_iff]
  intro m hm
  obtain ⟨m', hm', le⟩ := each m hm
  exact le.trans (depthOfMembers_le_iff.mp le_rfl m' hm')

/-! ### Texts -/

/-- Whether a text is read as some value, whether the members of objects are sorted before
the value is decoded or not. -/
structure ReadsAs {α : Type} (decode : Decode.Decoder Json α) (text : String) (x : α) : Prop where
  written : ∃ v, readAsWritten (Text.bytesOf text) = .ok v ∧ decode v = .ok x
  sorted : ∃ v, read (Text.bytesOf text) = .ok v ∧ decode v = .ok x

/-- Whether the text of a value is read as another one, whose own text is read as it is. -/
structure ReadsBack {α : Type} (encode : α → Json) (decode : Decode.Decoder Json α)
    (x y : α) : Prop where
  once : ReadsAs decode (encode x).text y
  again : ReadsAs decode (encode y).text y

/-- A text is read as what its document stands for in any order. -/
lemma Shallow.readsAs {α : Type} {decode : Decode.Decoder Json α} {v : Json} {x : α}
    (shallow : v.Shallow maxNesting) (h : ∀ f, Arranges f → decode (f v) = .ok x) :
    ReadsAs decode v.text x :=
  ⟨⟨v, readAsWritten_text shallow.1 shallow.2, h id arranges_id⟩,
    ⟨v.canonical, read_text shallow.1 shallow.2, h canonical arranges_canonical⟩⟩

end Json

/-! ### Identifiers -/

namespace RequestId

/-- **Every identifier is read as it was written**, a string as a string whatever is in it
and an integer of 64 bits as the same integer. -/
lemma ofJson?_toJson (id : RequestId) : ofJson? id.toJson = some id := by
  cases id with
  | string s => rfl
  | number n =>
      have low : -0x8000000000000000 ≤ n.toInt := n.le_toInt
      have high : n.toInt < 0x8000000000000000 := n.toInt_lt
      obtain ⟨number, eq, value⟩ := Json.ofInt_eq_number low high
      rw [toJson, eq, ofJson?, value]
      dsimp only
      rw [if_pos ⟨low, high⟩, Int64.ofInt_toInt]

lemma decode_toJson (id : RequestId) : decode id.toJson = .ok id := by
  rw [decode, ofJson?_toJson]

lemma canonical_toJson (id : RequestId) : id.toJson.canonical = id.toJson := by
  cases id with
  | string s => rfl
  | number n => exact Json.canonical_ofInt n.toInt

lemma isNull_toJson (id : RequestId) : id.toJson.isNull = false := by
  cases null : id.toJson.isNull with
  | false => rfl
  | true =>
      have read := id.ofJson?_toJson
      cases written : id.toJson with
      | null => rw [written] at read; cases read
      | _ => rw [written] at null; cases null

lemma shallow_toJson (id : RequestId) (n : ℕ) : id.toJson.Shallow n := by
  cases id with
  | string s => exact Json.shallow_string n s
  | number i => exact ⟨Json.isWhole_ofInt _, Json.depth_ofInt _ ▸ Nat.zero_le n⟩

/-- An identifier that may be there or not is left as it is. -/
lemma map_toJson {f : Json → Json} (arranges : Json.Arranges f) (id : Option RequestId) :
    (id.map toJson).map f = id.map toJson := by
  refine arranges.map_eq fun v hv => ?_
  obtain ⟨id, -, rfl⟩ := Option.map_eq_some_iff.mp hv
  exact id.canonical_toJson

lemma map_ofJson? (id : Option RequestId) :
    ((id.map toJson).filter fun v => !v.isNull).map ofJson? = id.map some := by
  cases id with
  | none => rfl
  | some id => simp [Option.filter_some, id.isNull_toJson, id.ofJson?_toJson]

/-- The text of an identifier is read as that identifier. -/
lemma readsAs (id : RequestId) : Json.ReadsAs decode id.toJson.text id :=
  Json.Shallow.readsAs (id.shallow_toJson _) fun _ arranges => by
    rw [arranges.keeps _ id.canonical_toJson, id.decode_toJson]

end RequestId

/-! ### Errors -/

/-- Whether a value has whole numbers only, and objects with their keys in order. -/
structure Json.IsNeat (v : Json) : Prop where
  whole : v.IsWhole
  sorted : v.canonical = v

/-- What is not null. -/
def Json.unlessNull (v : Option Json) : Option Json :=
  v.filter fun v => !v.isNull

lemma Json.mem_unlessNull {v : Option Json} {w : Json} (h : w ∈ unlessNull v) : w ∈ v :=
  (Option.filter_eq_some_iff.mp h).1

/-- Null is as good as nothing where nothing stands for null. -/
lemma Json.getD_unlessNull (v : Option Json) : (unlessNull v).getD .null = v.getD .null := by
  cases v with
  | none => rfl
  | some w => cases w <;> rfl

lemma Json.unlessNull_eq_self_iff {v : Option Json} : unlessNull v = v ↔ v ≠ some .null := by
  rcases v with _ | _ | _ <;> simp [unlessNull, Option.filter_some, isNull]

lemma Json.unlessNull_unlessNull (v : Option Json) : unlessNull (unlessNull v) = unlessNull v := by
  simp [unlessNull]

namespace RpcError

/-- The error without data that is null. -/
def settled (e : RpcError) : RpcError :=
  { e with data := Json.unlessNull e.data }

/-- Whether the code has 32 bits and the data is neat. -/
structure Fits (e : RpcError) : Prop where
  low : -0x80000000 ≤ e.code
  high : e.code ≤ 0x7FFFFFFF
  data : ∀ d ∈ e.data, d.IsNeat

variable {e : RpcError} {f : Json → Json}

lemma decodeCode_ofInt {code : ℤ} (low : -0x80000000 ≤ code) (high : code ≤ 0x7FFFFFFF) :
    decodeCode (Json.ofInt code) = .ok code := by
  obtain ⟨n, eq, value⟩ := Json.ofInt_eq_number (i := code) (by omega) (by omega)
  rw [eq, decodeCode, Decode.integerIn]
  simp only [Decode.Document.integer?, value, low, high, and_self, if_true]

lemma members_toJson (e : RpcError) :
    (e.toJson.members.map Prod.fst).Nodup ∧
      Json.lookup "code" e.toJson.members = some (Json.ofInt e.code) ∧
      Json.lookup "message" e.toJson.members = some (.string e.message) ∧
      Json.lookup "data" e.toJson.members = e.data := by
  cases data : e.data <;> simp [toJson, Json.members, Json.lookup, data]

/-- **The document of an error stands for the error**, in any order. -/
lemma decode_arranged (fits : e.Fits) (arranges : Json.Arranges f) :
    decode (f e.toJson) = .ok e.settled := by
  obtain ⟨distinct, code, message, data⟩ := e.members_toJson
  obtain ⟨members, document, distinct', look⟩ := arranges.object _ distinct
  have code' : Json.lookup "code" members = some (Json.ofInt e.code) :=
    arranges.found (look _) code (Json.canonical_ofInt e.code)
  have message' : Json.lookup "message" members = some (.string e.message) :=
    arranges.found (look _) message rfl
  have data' : Json.lookup "data" members = e.data := by
    rw [look, data, arranges.map_eq fun d hd => (fits.data d hd).sorted]
  rw [show f e.toJson = .object members from document, decode]
  simp only [Decode.slots, Decode.Document.record?, Bind.bind, Except.bind,
    Decode.Slots.value_field_present distinct' "code" (decodeCode_ofInt fits.low fits.high) code',
    (Decode.Slots.string_field_iff distinct').mpr message',
    (Decode.Slots.anything_field_iff distinct').mpr rfl, data']
  rfl

/-- The document of an error is an object, in any order. -/
lemma isNull_arranged (e : RpcError) (arranges : Json.Arranges f) :
    (f e.toJson).isNull = false := by
  obtain ⟨members, document, -⟩ := arranges.object _ e.members_toJson.1
  rw [show f e.toJson = .object members from document]
  rfl

lemma isWhole_toJson (fits : e.Fits) : e.toJson.IsWhole := by
  rw [toJson, Json.IsWhole, Json.haveWhole_iff]
  intro m hm
  simp only [List.mem_append, List.mem_cons, List.not_mem_nil, or_false, Option.mem_toList,
    Option.map_eq_some_iff] at hm
  rcases hm with (rfl | rfl) | ⟨d, hd, rfl⟩
  · exact Json.isWhole_ofInt e.code
  · trivial
  · exact (fits.data d hd).whole

lemma Fits.settled (fits : e.Fits) : e.settled.Fits :=
  ⟨fits.low, fits.high, fun d hd => fits.data d (Json.mem_unlessNull hd)⟩

/-- Only data that is null is not kept. -/
lemma settled_eq_self_iff {e : RpcError} : e.settled = e ↔ e.data ≠ some .null := by
  rw [← Json.unlessNull_eq_self_iff, settled, mk.injEq]
  simp only [true_and]

lemma settled_settled (e : RpcError) : e.settled.settled = e.settled := by
  rw [settled, settled, Json.unlessNull_unlessNull]

lemma depth_settled_le (e : RpcError) : e.settled.toJson.depth ≤ e.toJson.depth := by
  refine Json.depth_object_le fun m hm => ⟨m, ?_, le_rfl⟩
  simp only [settled, List.mem_append, List.mem_cons, List.not_mem_nil, or_false,
    Option.mem_toList, Option.map_eq_some_iff] at hm ⊢
  obtain first | ⟨d, hd, rfl⟩ := hm
  · exact .inl first
  · exact .inr ⟨d, Json.mem_unlessNull hd, rfl⟩

/-- The text of an error is read as the settled error. -/
lemma readsAs (fits : e.Fits) (deep : e.toJson.depth ≤ Json.maxNesting) :
    Json.ReadsAs decode e.toJson.text e.settled :=
  Json.Shallow.readsAs ⟨isWhole_toJson fits, deep⟩ fun _ => decode_arranged fits

lemma readsBack (fits : e.Fits) (deep : e.toJson.depth ≤ Json.maxNesting) :
    Json.ReadsBack toJson decode e e.settled where
  once := readsAs fits deep
  again := by
    have again := readsAs fits.settled (e.depth_settled_le.trans deep)
    rwa [e.settled_settled] at again

end RpcError

/-! ### Requests -/

namespace Request

/-- The request without parameters that are null. -/
def settled (r : Request) : Request :=
  { r with params := Json.unlessNull r.params }

/-- Whether the parameters are neat. -/
def Fits (r : Request) : Prop :=
  ∀ p ∈ r.params, p.IsNeat

variable {r : Request} {f : Json → Json}

lemma members_toJson (r : Request) :
    (r.toJson.members.map Prod.fst).Nodup ∧
      Json.lookup "jsonrpc" r.toJson.members = some (.string r.version) ∧
      Json.lookup "id" r.toJson.members = r.id.map RequestId.toJson ∧
      Json.lookup "method" r.toJson.members = some (.string r.method) ∧
      Json.lookup "params" r.toJson.members = r.params := by
  cases id : r.id <;> cases params : r.params <;>
    simp [toJson, Json.members, Json.lookup, id, params]

/-- **The document of a request stands for the request**, in any order. -/
lemma decode_arranged (fits : r.Fits) (arranges : Json.Arranges f) :
    decode (f r.toJson) = .ok r.settled := by
  obtain ⟨distinct, version, id, method, params⟩ := r.members_toJson
  obtain ⟨members, document, distinct', look⟩ := arranges.object _ distinct
  rw [show f r.toJson = .object members from document, decode_eq_ok_iff distinct']
  refine ⟨?_, ?_, ?_, ?_⟩
  · rw [arranges.found (look _) version rfl]
    rfl
  · rw [look, id, RequestId.map_toJson arranges]
    exact RequestId.map_ofJson? r.id
  · rw [arranges.found (look _) method rfl]
    rfl
  · rw [look, params, arranges.map_eq fun p hp => (fits p hp).sorted]
    rfl

lemma isWhole_toJson (fits : r.Fits) : r.toJson.IsWhole := by
  rw [toJson, Json.IsWhole, Json.haveWhole_iff]
  intro m hm
  simp only [List.mem_append, List.mem_singleton, Option.mem_toList, Option.map_eq_some_iff] at hm
  rcases hm with ((rfl | ⟨id, -, rfl⟩) | rfl) | ⟨p, hp, rfl⟩
  · trivial
  · exact (id.shallow_toJson 0).1
  · trivial
  · exact (fits p hp).whole

lemma Fits.settled (fits : r.Fits) : r.settled.Fits :=
  fun p hp => fits p (Json.mem_unlessNull hp)

/-- Only parameters that are null are not kept. -/
lemma settled_eq_self_iff {r : Request} : r.settled = r ↔ r.params ≠ some .null := by
  rw [← Json.unlessNull_eq_self_iff, settled, mk.injEq]
  simp only [true_and]

lemma settled_settled (r : Request) : r.settled.settled = r.settled := by
  rw [settled, settled, Json.unlessNull_unlessNull]

lemma depth_settled_le (r : Request) : r.settled.toJson.depth ≤ r.toJson.depth := by
  refine Json.depth_object_le fun m hm => ⟨m, ?_, le_rfl⟩
  simp only [settled, List.mem_append, Option.mem_toList, Option.map_eq_some_iff] at hm ⊢
  obtain first | ⟨p, hp, rfl⟩ := hm
  · exact .inl first
  · exact .inr ⟨p, Json.mem_unlessNull hp, rfl⟩

/-- The text of a request is read as the settled request. -/
lemma readsAs (fits : r.Fits) (deep : r.toJson.depth ≤ Json.maxNesting) :
    Json.ReadsAs decode r.toJson.text r.settled :=
  Json.Shallow.readsAs ⟨isWhole_toJson fits, deep⟩ fun _ => decode_arranged fits

lemma readsBack (fits : r.Fits) (deep : r.toJson.depth ≤ Json.maxNesting) :
    Json.ReadsBack toJson decode r r.settled where
  once := readsAs fits deep
  again := by
    have again := readsAs fits.settled (r.depth_settled_le.trans deep)
    rwa [r.settled_settled] at again

end Request

/-! ### Responses -/

namespace Response

/-- The response without a result, or data of an error, that is null. -/
def settled (r : Response) : Response :=
  { r with result := Json.unlessNull r.result, error := r.error.map RpcError.settled }

/-- Whether the result is neat and the error fits. -/
structure Fits (r : Response) : Prop where
  result : ∀ v ∈ r.result, v.IsNeat
  error : ∀ e ∈ r.error, e.Fits

variable {r : Response} {f : Json → Json}

lemma members_toJson (r : Response) :
    (r.toJson.members.map Prod.fst).Nodup ∧
      Json.lookup "jsonrpc" r.toJson.members = some (.string r.version) ∧
      Json.lookup "id" r.toJson.members = some ((r.id.map RequestId.toJson).getD .null) ∧
      Json.lookup "result" r.toJson.members = r.result ∧
      Json.lookup "error" r.toJson.members = r.error.map RpcError.toJson := by
  cases result : r.result <;> cases error : r.error <;>
    simp [toJson, Json.members, Json.lookup, result, error]

/-- **The document of a response stands for the response**, in any order. -/
lemma decode_arranged (fits : r.Fits) (arranges : Json.Arranges f) :
    decode (f r.toJson) = .ok r.settled := by
  obtain ⟨distinct, version, id, result, error⟩ := r.members_toJson
  obtain ⟨members, document, distinct', look⟩ := arranges.object _ distinct
  have version' : Json.lookup "jsonrpc" members = some (.string r.version) :=
    arranges.found (look _) version rfl
  have id' : ((Json.lookup "id" members).filter fun v => !v.isNull).map RequestId.ofJson?
      = r.id.map some := by
    rw [look, id, Option.map_some]
    cases r.id with
    | none =>
        rw [Option.map_none, Option.getD_none, arranges.keeps _ rfl]
        rfl
    | some id =>
        rw [Option.map_some, Option.getD_some, arranges.keeps _ id.canonical_toJson]
        exact RequestId.map_ofJson? (some id)
  have result' : Json.lookup "result" members = r.result := by
    rw [look, result, arranges.map_eq fun v hv => (fits.result v hv).sorted]
  have error' : ((Json.lookup "error" members).filter fun v => !v.isNull).map RpcError.decode
      = (r.error.map RpcError.settled).map .ok := by
    rw [look, error]
    cases given : r.error with
    | none => rfl
    | some e =>
        have decoded := RpcError.decode_arranged (fits.error e given) arranges
        simp [Option.filter_some, e.isNull_arranged arranges, decoded]
  rw [show f r.toJson = .object members from document, decode]
  simp only [Decode.slots, Decode.Document.record?, Bind.bind, Except.bind,
    Decode.Slots.omissible, (Decode.Slots.string_field_iff distinct').mpr version',
    (RequestId.field_iff distinct').mpr id', (Decode.Slots.anything_field_iff distinct').mpr rfl,
    (Decode.Slots.optional_field_iff distinct').mpr error', result']
  rfl

lemma isWhole_toJson (fits : r.Fits) : r.toJson.IsWhole := by
  rw [toJson, Json.IsWhole, Json.haveWhole_iff]
  intro m hm
  simp only [List.mem_append, List.mem_cons, List.not_mem_nil, or_false, Option.mem_toList,
    Option.map_eq_some_iff] at hm
  rcases hm with ((rfl | rfl) | ⟨v, hv, rfl⟩) | ⟨e, he, rfl⟩
  · trivial
  · cases r.id with
    | none => trivial
    | some id => exact (id.shallow_toJson 0).1
  · exact (fits.result v hv).whole
  · exact RpcError.isWhole_toJson (fits.error e he)

lemma Fits.settled (fits : r.Fits) : r.settled.Fits where
  result v hv := fits.result v (Json.mem_unlessNull hv)
  error e he := by
    obtain ⟨e, given, rfl⟩ := Option.map_eq_some_iff.mp he
    exact (fits.error e given).settled

/-- Only a result and data that are null are not kept. -/
lemma settled_eq_self_iff {r : Response} :
    r.settled = r ↔ r.result ≠ some .null ∧ ∀ e ∈ r.error, e.data ≠ some .null := by
  have error : r.error.map RpcError.settled = r.error ↔ ∀ e ∈ r.error, e.data ≠ some .null := by
    cases r.error with
    | none => simp
    | some e => simp [RpcError.settled_eq_self_iff]
  rw [← Json.unlessNull_eq_self_iff, ← error, settled, mk.injEq]
  simp only [true_and]

lemma settled_settled (r : Response) : r.settled.settled = r.settled := by
  simp only [settled, Json.unlessNull_unlessNull, Option.map_map, Function.comp_def,
    RpcError.settled_settled]

lemma depth_settled_le (r : Response) : r.settled.toJson.depth ≤ r.toJson.depth := by
  refine Json.depth_object_le fun m hm => ?_
  simp only [settled, List.mem_append, Option.mem_toList, Option.map_eq_some_iff] at hm ⊢
  obtain (first | ⟨v, hv, rfl⟩) | ⟨_, ⟨e, he, rfl⟩, rfl⟩ := hm
  · exact ⟨m, .inl (.inl first), le_rfl⟩
  · exact ⟨_, .inl (.inr ⟨v, Json.mem_unlessNull hv, rfl⟩), le_rfl⟩
  · exact ⟨_, .inr ⟨e, he, rfl⟩, e.depth_settled_le⟩

/-- The text of a response is read as the settled response. -/
lemma readsAs (fits : r.Fits) (deep : r.toJson.depth ≤ Json.maxNesting) :
    Json.ReadsAs decode r.toJson.text r.settled :=
  Json.Shallow.readsAs ⟨isWhole_toJson fits, deep⟩ fun _ => decode_arranged fits

lemma readsBack (fits : r.Fits) (deep : r.toJson.depth ≤ Json.maxNesting) :
    Json.ReadsBack toJson decode r r.settled where
  once := readsAs fits deep
  again := by
    have again := readsAs fits.settled (r.depth_settled_le.trans deep)
    rwa [r.settled_settled] at again

/-- A response that has been settled has the same result, and the settled error. -/
lemma toResult_settled (r : Response) :
    r.settled.toResult = r.toResult.mapError RpcError.settled := by
  rw [toResult, toResult]
  cases error : r.error with
  | some e => simp [settled, error, Except.mapError]
  | none => simp [settled, error, Except.mapError, Json.getD_unlessNull]

end Response

/-! ### Results of calls -/

namespace ContentItem

variable {f : Json → Json}

lemma members_toJson (c : ContentItem) :
    (c.toJson.members.map Prod.fst).Nodup ∧
      Json.lookup "type" c.toJson.members = some (.string c.type) ∧
      Json.lookup "text" c.toJson.members = c.text.map Json.string := by
  cases text : c.text <;> simp [toJson, Json.members, Json.lookup, text]

/-- **The document of a piece of content stands for it**, in any order. -/
lemma decode_arranged (c : ContentItem) (arranges : Json.Arranges f) :
    decode (f c.toJson) = .ok c := by
  obtain ⟨distinct, type, text⟩ := c.members_toJson
  obtain ⟨members, document, distinct', look⟩ := arranges.object _ distinct
  have type' : Json.lookup "type" members = some (.string c.type) :=
    arranges.found (look _) type rfl
  have text' : ((Json.lookup "text" members).filter fun v => !v.isNull).map Decode.string
      = c.text.map .ok := by
    rw [look, text]
    cases c.text with
    | none => rfl
    | some t =>
        rw [Option.map_some, Option.map_some, arranges.keeps _ rfl]
        rfl
  rw [show f c.toJson = .object members from document, decode]
  simp only [Decode.slots, Decode.Document.record?, Bind.bind, Except.bind,
    (Decode.Slots.string_field_iff distinct').mpr type',
    (Decode.Slots.optional_field_iff distinct').mpr text']
  rfl

lemma shallow_toJson (c : ContentItem) : c.toJson.Shallow 1 := by
  rw [toJson, Json.shallow_object_iff]
  intro m hm
  simp only [List.mem_append, List.mem_singleton, Option.mem_toList, Option.map_eq_some_iff] at hm
  rcases hm with rfl | ⟨t, -, rfl⟩ <;> exact Json.shallow_string 0 _

end ContentItem

namespace CallResult

variable {f : Json → Json}

lemma members_toJson (r : CallResult) :
    (r.toJson.members.map Prod.fst).Nodup ∧
      Json.lookup "content" r.toJson.members = some (.array (r.content.map ContentItem.toJson)) ∧
      Json.lookup "isError" r.toJson.members = if r.isError then some (.bool true) else none := by
  cases failed : r.isError <;> simp [toJson, Json.members, Json.lookup, failed]

/-- **The document of a call's result stands for it**, in any order. -/
lemma decode_arranged (r : CallResult) (arranges : Json.Arranges f) :
    decode (f r.toJson) = .ok r := by
  obtain ⟨distinct, content, failed⟩ := r.members_toJson
  obtain ⟨members, document, distinct', look⟩ := arranges.object _ distinct
  have items : Decode.list ContentItem.decode
      (f (.array (r.content.map ContentItem.toJson))) = .ok r.content := by
    rw [arranges.array, List.map_map]
    exact Decode.mapM_map_eq_ok _ fun c _ => c.decode_arranged arranges
  have content' : Json.lookup "content" members
      = some (f (.array (r.content.map ContentItem.toJson))) := by
    rw [look, content, Option.map_some]
  have failed' : ∀ expected, ((Decode.Slots.mk (.named members) expected).field "isError" 1
      Decode.bool (some false)).value = .ok r.isError := by
    intro expected
    cases given : r.isError with
    | false =>
        refine Decode.Slots.value_field_absent distinct' "isError" ?_
        rw [look, failed, given]
        rfl
    | true =>
        have written : Json.lookup "isError" r.toJson.members = some (.bool true) := by
          rw [failed, given, if_pos rfl]
        exact Decode.Slots.value_field_present distinct' "isError" rfl
          (arranges.found (look _) written rfl)
  rw [show f r.toJson = .object members from document, decode]
  simp only [Decode.slots, Decode.Document.record?, Bind.bind, Except.bind,
    Decode.Slots.value_field_present distinct' "content" items content', failed']
  rfl

lemma shallow_toJson (r : CallResult) : r.toJson.Shallow 3 := by
  rw [toJson, Json.shallow_object_iff]
  intro m hm
  rcases List.mem_append.mp hm with content | failed
  · obtain rfl := List.mem_singleton.mp content
    refine (Json.shallow_array_iff ..).mpr fun v hv => ?_
    obtain ⟨c, -, rfl⟩ := List.mem_map.mp hv
    exact c.shallow_toJson
  · split at failed
    · obtain rfl := List.mem_singleton.mp failed
      exact Json.shallow_bool _ _
    · cases failed

/-- The text of a call's result is read as that result. -/
lemma readsAs (r : CallResult) : Json.ReadsAs decode r.toJson.text r :=
  Json.Shallow.readsAs (r.shallow_toJson.mono (by decide)) fun _ => r.decode_arranged

end CallResult

/-! ### Every message -/

/-- **Every message is read back from its text**, as it stands or by way of a document with
sorted members. What is lost is a null where nothing could be: in the parameters of a
request, in the result of a response, and in the data of an error. -/
theorem messages_read_back :
    (∀ id : RequestId, Json.ReadsBack RequestId.toJson RequestId.decode id id) ∧
    (∀ r : Request, r.Fits → r.toJson.depth ≤ Json.maxNesting →
      Json.ReadsBack Request.toJson Request.decode r r.settled ∧
      (r.settled = r ↔ r.params ≠ some .null) ∧
      r.settled.isNotification = r.isNotification) ∧
    (∀ r : Response, r.Fits → r.toJson.depth ≤ Json.maxNesting →
      Json.ReadsBack Response.toJson Response.decode r r.settled ∧
      (r.settled = r ↔ r.result ≠ some .null ∧ ∀ e ∈ r.error, e.data ≠ some .null) ∧
      r.settled.isSuccess = r.isSuccess ∧
      r.settled.toResult = r.toResult.mapError RpcError.settled) ∧
    (∀ e : RpcError, e.Fits → e.toJson.depth ≤ Json.maxNesting →
      Json.ReadsBack RpcError.toJson RpcError.decode e e.settled ∧
      (e.settled = e ↔ e.data ≠ some .null)) ∧
    ∀ r : CallResult, Json.ReadsBack CallResult.toJson CallResult.decode r r := by
  refine ⟨fun id => ⟨id.readsAs, id.readsAs⟩, fun r fits deep => ?_, fun r fits deep => ?_,
    fun e fits deep => ?_, fun r => ⟨r.readsAs, r.readsAs⟩⟩
  · exact ⟨Request.readsBack fits deep, Request.settled_eq_self_iff, rfl⟩
  · refine ⟨Response.readsBack fits deep, Response.settled_eq_self_iff, ?_, r.toResult_settled⟩
    exact Option.isNone_map
  · exact ⟨RpcError.readsBack fits deep, RpcError.settled_eq_self_iff⟩

/-- The least identifier, in a request whose parameters hold a null and are none. -/
theorem messages_read_back_least :
    let r : Request := .new (.number (-0x8000000000000000)) "ping" (some (.array [.null]))
    r.Fits ∧ r.toJson.depth ≤ Json.maxNesting ∧ Json.ReadsAs Request.decode r.toJson.text r := by
  intro r
  have fits : r.Fits := by
    rintro _ ⟨⟩
    exact ⟨⟨trivial, trivial⟩, rfl⟩
  have deep : r.toJson.depth ≤ Json.maxNesting := by decide
  obtain ⟨back, same, -⟩ := messages_read_back.2.1 r fits deep
  rw [same.mpr fun null => by cases null] at back
  exact ⟨fits, deep, back.once⟩

/-- **An error whose data is null is not what comes back**: the data is gone. -/
theorem null_data_not_read_back :
    let r : Response := .failure none ⟨1, "refused", some .null⟩
    r.Fits ∧ r.toJson.depth ≤ Json.maxNesting ∧
    ∃ r', Json.ReadsAs Response.decode r.toJson.text r' ∧ r'.toResult ≠ r.toResult := by
  intro r
  have fits : r.Fits := by
    refine ⟨fun v hv => (by cases hv), ?_⟩
    rintro _ ⟨⟩
    refine ⟨by decide, by decide, ?_⟩
    rintro _ ⟨⟩
    exact ⟨trivial, rfl⟩
  have deep : r.toJson.depth ≤ Json.maxNesting := by decide
  refine ⟨fits, deep, r.settled, Response.readsAs fits deep, fun same => ?_⟩
  have data : some Json.null = none := congrArg RpcError.data (Except.error.inj same.symm)
  cases data

end ToolServer
