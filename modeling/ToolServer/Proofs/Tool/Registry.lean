/-
Tools that are registered one after the other:

* `Sorted.insertTool`, `find?_insertTool`: what one registration does;
* `Registry.get?_ofList`, `Registry.sorted_ofList`: a registry has the last tool of every
  name, in increasing order of the names;
* `Registry.eq_of_get?_eq`: there is one such registry, in whatever order the tools came;
* `Registry.list_eq`: its list is a sort of the tools, in whatever order they are kept;
* `Registry.Holds`: what a registry says about the tools that have been registered;
* `Lists`, `Server.lists_toolList`: what a server says about its tools;
* `registries_hold_last_tools`: all of this for every sequence of registrations.

The order is that of the bytes of the names.
-/
import ToolServer.Proofs.Text.Utf8
import ToolServer.Proofs.Tool.Schema
import ToolServer.Server.Request

namespace ToolServer

open ToolServer.Text (bytesOf)

namespace Tool

/-! ### One registration -/

/-- Whether the names of some tools are increasing. -/
def Sorted (tools : List Definition) : Prop :=
  tools.Pairwise fun t u => t.name < u.name

lemma Sorted.nodup {tools : List Definition} (h : Sorted tools) :
    (tools.map Definition.name).Nodup :=
  List.pairwise_map.mpr (h.imp fun less => ne_of_lt less)

/-- Tools are put in their places as members of objects are. -/
lemma map_insertTool (t : Definition) (tools : List Definition) :
    (insertTool t tools).map (fun u => (u.name, Json.null))
      = Json.insertMember t.name .null (tools.map fun u => (u.name, Json.null)) := by
  induction tools with
  | nil => rfl
  | cons first tools ih =>
      rw [insertTool, List.map_cons, Json.insertMember]
      split_ifs
      · rfl
      · rfl
      · rw [List.map_cons, ih]

lemma sorted_iff_increasing {tools : List Definition} :
    Sorted tools ↔ Json.Increasing (tools.map fun t => (t.name, Json.null)) := by
  rw [Sorted, Json.Increasing, List.pairwise_map]

/-- Tools stay in their order when one is put in its place. -/
lemma Sorted.insertTool {tools : List Definition} (h : Sorted tools) (t : Definition) :
    Sorted (insertTool t tools) := by
  rw [sorted_iff_increasing, map_insertTool]
  exact (sorted_iff_increasing.mp h).insertMember t.name .null

lemma find?_cons_name (t : Definition) (tools : List Definition) (name : String) :
    (t :: tools).find? (fun u => u.name = name)
      = if t.name = name then some t else tools.find? fun u => u.name = name := by
  by_cases here : t.name = name <;> simp [here]

/-- **A tool that is put in its place is found under its name**, and all others as before. -/
lemma find?_insertTool (t : Definition) (tools : List Definition) (name : String) :
    (insertTool t tools).find? (fun u => u.name = name)
      = if t.name = name then some t else tools.find? fun u => u.name = name := by
  induction tools with
  | nil => rw [insertTool, find?_cons_name]
  | cons first tools ih =>
      rw [insertTool]
      by_cases before : t.name < first.name
      · rw [if_pos before, find?_cons_name]
      · rw [if_neg before]
        by_cases same : t.name = first.name
        · rw [if_pos same, find?_cons_name, find?_cons_name, ← same]
          split_ifs <;> rfl
        · rw [if_neg same, find?_cons_name, find?_cons_name, ih]
          split_ifs with there here
          · exact absurd (here.trans there.symm) same
          · rfl
          · rfl
          · rfl

/-! ### Many registrations -/

namespace Registry

lemma ofList_concat (tools : List Definition) (t : Definition) :
    ofList (tools ++ [t]) = ((ofList tools).register t).2 :=
  List.foldl_concat _ _ t tools

/-- **A registry has the last tool of every name.** -/
lemma get?_ofList (tools : List Definition) (name : String) :
    (ofList tools).get? name = lastNamed Definition.name tools name := by
  induction tools using List.reverseRecOn with
  | nil => rfl
  | append_singleton tools t ih =>
      rw [ofList_concat, lastNamed_concat, ← ih]
      exact find?_insertTool t _ name

lemma sorted_ofList (tools : List Definition) : Sorted (ofList tools).tools := by
  induction tools using List.reverseRecOn with
  | nil => exact .nil
  | append_singleton tools t ih =>
      rw [ofList_concat]
      exact ih.insertTool t

/-- Among tools in order, those that are there are those that are found. -/
lemma mem_iff_get? {r : Registry} (sorted : Sorted r.tools) (t : Definition) :
    t ∈ r.tools ↔ r.get? t.name = some t := by
  constructor
  · intro mem
    cases found : r.get? t.name with
    | none =>
        have other := List.find?_eq_none.mp found t mem
        simp at other
    | some u =>
        have named : u.name = t.name := by simpa using List.find?_some found
        exact congrArg some
          (List.inj_on_of_nodup_map sorted.nodup (List.mem_of_find?_eq_some found) mem named)
  · exact List.mem_of_find?_eq_some

/-- **There is one registry in order that has these tools.** -/
lemma eq_of_get?_eq {r r' : Registry} (sorted : Sorted r.tools) (sorted' : Sorted r'.tools)
    (same : ∀ name, r.get? name = r'.get? name) : r = r' := by
  have nodup {r : Registry} (sorted : Sorted r.tools) : r.tools.Nodup := .of_map _ sorted.nodup
  have perm : r.tools.Perm r'.tools :=
    (List.perm_ext_iff_of_nodup (nodup sorted) (nodup sorted')).mpr fun t => by
      rw [mem_iff_get? sorted, mem_iff_get? sorted', same]
  have tools : r.tools = r'.tools :=
    List.Perm.eq_of_pairwise (fun t u _ _ less more => absurd more (lt_asymm less)) sorted sorted'
      perm
  obtain ⟨tools₁⟩ := r
  obtain ⟨tools₂⟩ := r'
  exact congrArg mk tools

/-- **The list of tools that are kept in any order** has them in order. -/
lemma list_eq {r : Registry} (sorted : Sorted r.tools) {kept : List Definition}
    (perm : kept.Perm r.tools) : list ⟨kept⟩ = r.tools := by
  rw [list]
  have ordered : (kept.mergeSort fun t u => t.name ≤ u.name).Pairwise
      fun t u => decide (t.name ≤ u.name) = true :=
    List.pairwise_mergeSort
      (fun _ _ _ first second => decide_eq_true
        ((of_decide_eq_true first).trans (of_decide_eq_true second)))
      (fun t u => by simpa using le_total t.name u.name) kept
  have there := List.mergeSort_perm kept fun t u => t.name ≤ u.name
  refine List.Perm.eq_of_pairwise (fun t u mem mem' le ge => ?_) ordered
    (sorted.imp fun less => decide_eq_true less.le) (there.trans perm)
  have named : t.name = u.name := le_antisymm (of_decide_eq_true le) (of_decide_eq_true ge)
  exact List.inj_on_of_nodup_map sorted.nodup ((there.trans perm).mem_iff.mp mem) mem' named

/-- What a registry says about the tools that have been registered. -/
structure Holds (r : Registry) (tools : List Definition) : Prop where
  /-- The last tool of a name is found under it. -/
  found : ∀ name, r.get? name = lastNamed Definition.name tools name
  /-- There are as many tools as there are names. -/
  size : r.size = (tools.map Definition.name).dedup.length
  /-- Each name is there once. -/
  names : r.names.Perm (tools.map Definition.name).dedup
  /-- The names are in the order of their bytes. -/
  increasing : r.names.Pairwise fun name name' => bytesOf name < bytesOf name'
  /-- Each tool is the last one of its name. -/
  last : ∀ t ∈ r.tools, lastNamed Definition.name tools t.name = some t
  /-- The list does not depend on the order in which the tools are kept. -/
  sorted : ∀ kept : List Definition, kept.Perm r.tools → list ⟨kept⟩ = r.tools

lemma names_eq (tools : List Definition) :
    (ofList tools).names = (ofList tools).tools.map Definition.name :=
  congrArg (List.map _) (list_eq (sorted_ofList tools) (.refl _))

lemma mem_names_iff (tools : List Definition) (name : String) :
    name ∈ (ofList tools).names ↔ name ∈ tools.map Definition.name := by
  have sorted := sorted_ofList tools
  rw [names_eq, List.mem_map, List.mem_map]
  constructor
  · rintro ⟨t, mem, rfl⟩
    have last := (mem_iff_get? sorted t).mp mem
    rw [get?_ofList] at last
    exact ⟨t, mem_of_lastNamed last, rfl⟩
  · rintro ⟨t, mem, rfl⟩
    obtain ⟨u, last⟩ := exists_lastNamed Definition.name mem
    rw [← get?_ofList] at last
    exact ⟨u, List.mem_of_find?_eq_some last, by simpa using List.find?_some last⟩

lemma holds_ofList (tools : List Definition) : (ofList tools).Holds tools := by
  have sorted := sorted_ofList tools
  have names : (ofList tools).names.Perm (tools.map Definition.name).dedup :=
    (List.perm_ext_iff_of_nodup (names_eq tools ▸ sorted.nodup) (List.nodup_dedup _)).mpr
      fun name => (mem_names_iff tools name).trans List.mem_dedup.symm
  refine
    { found := get?_ofList tools
      size := ?_
      names
      increasing := ?_
      last := fun t mem => ?_
      sorted := fun kept perm => list_eq sorted perm }
  · rw [← names.length_eq, size, names_eq, List.length_map]
  · rw [names_eq]
    exact List.pairwise_map.mpr (sorted.imp fun less => Text.bytesOf_lt_bytesOf_iff.mpr less)
  · rw [← get?_ofList]
    exact (mem_iff_get? sorted t).mp mem

end Registry

/-! ### What a server says about its tools -/

/-- An entry of a list of tools that describes a tool. The objects of its schema are sorted. -/
structure Describes (t : Definition) (entry : Json) : Prop where
  name : entry.get? "name" = some (.string t.name)
  description : entry.get? "description" = some (.string t.description)
  schema : entry.get? "inputSchema" = some t.schema.canonical

lemma describes_toJson (t : Definition) :
    Describes t (ToolInfo.toJson ⟨t.name, t.description, t.schema⟩).canonical := by
  have look (key : String) : (ToolInfo.toJson ⟨t.name, t.description, t.schema⟩).canonical.get? key
      = Json.lookup key [("name", .string t.name), ("description", .string t.description),
        ("inputSchema", t.schema.canonical)] := by
    rw [ToolInfo.toJson, Json.canonical, Json.ofMembers, Json.get?, Json.lookup_sortMembers]
    · rfl
    · simp [Json.canonicalMembers]
  exact ⟨by rw [look]; rfl, by rw [look]; rfl, by rw [look]; rfl⟩

/-- The answer with one entry for each of some tools. -/
def Lists (tools : List Definition) (answer : Json) : Prop :=
  ∃ entries, answer = .object [("tools", .array entries)] ∧ List.Forall₂ Describes tools entries

end Tool

namespace Server

open Tool

variable {σ : Type}

lemma lists_toolList (s : Server σ) : Lists s.tools.list s.toolList := by
  refine ⟨_, rfl, ?_⟩
  rw [Json.canonicalItems_eq_map, List.map_map, List.forall₂_map_right_iff]
  exact List.forall₂_same.mpr fun t _ => describes_toJson t

/-- A request for the list of the tools is answered with it. -/
lemma handle_toolList [ResultCache σ] (s : Server σ) (id : RequestId) (params : Option Json)
    (caller : Execution.Token) :
    s.handle (.new id "tools/list" params) caller
      = (s, .ready (some (.success (some id) s.toolList))) := by
  have version : ¬ (Request.new id "tools/list" params).version ≠ messageVersion := not_not.mpr rfl
  have method : ∀ params, s.answer "tools/list" params caller = (s, .ready (.ok s.toolList)) := by
    intro params
    simp [answer]
  rw [handle, if_neg version]
  simp only [Request.new, method]
  rfl

end Server

/-! ### Registries and their lists -/

namespace Tool

/-- **A registry holds the last tool of every name, and nothing else depends on how the tools
were registered.** It gives back the tool whose place a new one takes. Its names, and the list
of tools that a server answers, have each name once and in the order of its bytes, with the
description and the schema of its last tool. Registrations with the same last tools make the
same registry, and servers with it give the same answer. -/
theorem registries_hold_last_tools {σ : Type} [ResultCache σ] (tools : List Definition)
    (s : Server σ) :
    (Registry.ofList tools).Holds tools ∧
    (∀ t, (Registry.ofList tools).register t
      = (lastNamed Definition.name tools t.name, Registry.ofList (tools ++ [t]))) ∧
    (∀ id params caller, ∃ answer,
      ({ s with tools := Registry.ofList tools } : Server σ).handle
          (.new id "tools/list" params) caller
        = ({ s with tools := Registry.ofList tools },
          .ready (some (.success (some id) answer))) ∧
      Lists (Registry.ofList tools).tools answer) ∧
    ∀ tools' : List Definition,
      (∀ name, lastNamed Definition.name tools' name = lastNamed Definition.name tools name) →
        Registry.ofList tools' = Registry.ofList tools ∧
        ∀ (s' : Server σ) (id : RequestId) (params : Option Json) (caller : Execution.Token),
          (({ s' with tools := Registry.ofList tools' } : Server σ).handle
              (.new id "tools/list" params) caller).2
            = (({ s with tools := Registry.ofList tools } : Server σ).handle
              (.new id "tools/list" params) caller).2 := by
  refine ⟨Registry.holds_ofList tools, fun t => ?_, fun id params caller => ?_, fun tools' same => ?_⟩
  · rw [Registry.ofList_concat, ← Registry.get?_ofList]
    rfl
  · have lists := Server.lists_toolList { s with tools := Registry.ofList tools }
    rw [Registry.list_eq (Registry.sorted_ofList tools) (.refl _)] at lists
    exact ⟨_, Server.handle_toolList _ id params caller, lists⟩
  · have one : Registry.ofList tools' = Registry.ofList tools :=
      Registry.eq_of_get?_eq (Registry.sorted_ofList tools') (Registry.sorted_ofList tools)
        fun name => by rw [Registry.get?_ofList, Registry.get?_ofList, same]
    refine ⟨one, fun s' id params caller => ?_⟩
    rw [one, Server.handle_toolList, Server.handle_toolList]
    rfl

end Tool

end ToolServer
