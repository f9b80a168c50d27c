/-
The schema of the arguments of a tool:

* `lastNamed`: the last of some things with a name;
* `Json.lookup_sortMembers_last`: sorted members have the last value of every key;
* `Publishes`, `publishes_inputSchema`: the properties of a schema are the parameters, the
  last one of every name;
* `Requires`, `requires_inputSchema`: the names that a schema requires are those of all
  required parameters;
* `schema_consistent_iff`: a schema requires what it publishes as required, each name once, if
  and only if no parameter comes after a required one of its name;
* `optional_parameter_is_required`: a name can be required though its parameter is not.

A parameter takes the place of an earlier one of its name among the properties, but not among
the names that are required.
-/
import ToolServer.Proofs.Protocol.ReadBack
import ToolServer.Tool.Parameter

namespace ToolServer

/-! ### The last of a name -/

/-- The last of some things with a name. -/
def lastNamed {α : Type} (nameOf : α → String) (things : List α) (name : String) : Option α :=
  things.reverse.find? fun x => nameOf x = name

section LastNamed

variable {α β : Type} {nameOf : α → String} {things : List α} {name : String} {x : α}

lemma lastNamed_concat (things : List α) (x : α) (name : String) :
    lastNamed nameOf (things ++ [x]) name
      = if nameOf x = name then some x else lastNamed nameOf things name := by
  rw [lastNamed, List.reverse_concat, List.find?_cons]
  by_cases here : nameOf x = name
  · simp [here]
  · simp [here, lastNamed]

lemma lastNamed_cons (x : α) (things : List α) (name : String) :
    lastNamed nameOf (x :: things) name
      = (lastNamed nameOf things name).or (if nameOf x = name then some x else none) := by
  rw [lastNamed, List.reverse_cons, List.find?_append, ← lastNamed]
  by_cases here : nameOf x = name <;> simp [here]

lemma lastNamed_map (nameOf : α → String) (nameOf' : β → String) (f : α → β)
    (same : ∀ x, nameOf' (f x) = nameOf x) (things : List α) (name : String) :
    lastNamed nameOf' (things.map f) name = (lastNamed nameOf things name).map f := by
  rw [lastNamed, ← List.map_reverse, List.find?_map, lastNamed]
  simp only [Function.comp_def, same]

lemma lastNamed_eq_none_iff : lastNamed nameOf things name = none ↔ ∀ x ∈ things, nameOf x ≠ name := by
  simp [lastNamed]

lemma mem_of_lastNamed (h : lastNamed nameOf things name = some x) : x ∈ things :=
  List.mem_reverse.mp (List.mem_of_find?_eq_some h)

lemma name_of_lastNamed (h : lastNamed nameOf things name = some x) : nameOf x = name := by
  simpa using List.find?_some h

/-- There is a last one of every name that is there. -/
lemma exists_lastNamed (nameOf : α → String) (mem : x ∈ things) :
    ∃ y, lastNamed nameOf things (nameOf x) = some y := by
  refine Option.ne_none_iff_exists'.mp fun none => ?_
  exact lastNamed_eq_none_iff.mp none x mem rfl

end LastNamed

/-! ### Sorted members -/

namespace Json

lemma lookup_cons (key k : String) (v : Json) (members : List (String × Json)) :
    lookup key ((k, v) :: members) = if k = key then some v else lookup key members := by
  by_cases here : k = key <;> simp [lookup, here]

/-- A member that is put in its place is found, and changes nothing for other keys. -/
lemma lookup_insertMember (key k : String) (v : Json) (members : List (String × Json)) :
    lookup key (insertMember k v members) = if k = key then some v else lookup key members := by
  induction members with
  | nil => rw [insertMember, lookup_cons]
  | cons m members ih =>
      obtain ⟨k', v'⟩ := m
      rw [insertMember]
      by_cases before : k < k'
      · rw [if_pos before, lookup_cons]
      · rw [if_neg before]
        by_cases same : k = k'
        · subst same
          rw [if_pos rfl, lookup_cons, lookup_cons]
          split_ifs <;> rfl
        · rw [if_neg same, lookup_cons, lookup_cons, ih]
          split_ifs with there here
          · exact absurd (here.trans there.symm) same
          · rfl
          · rfl
          · rfl

/-- **Sorted members have the last value of every key.** -/
lemma lookup_sortMembers_last (key : String) (members : List (String × Json)) :
    lookup key (sortMembers members) = (lastNamed Prod.fst members key).map Prod.snd := by
  induction members using List.reverseRecOn with
  | nil => rfl
  | append_singleton members m ih =>
      have put : sortMembers (members ++ [m]) = insertMember m.1 m.2 (sortMembers members) :=
        List.foldl_concat _ _ m members
      rw [put, lookup_insertMember, ih, lastNamed_concat]
      split_ifs <;> rfl

end Json

namespace Tool

open Json (lookup)

/-! ### What a schema says -/

/-- Whether a schema publishes some parameters: it has a property for each of their names, with
the schema of the last parameter of that name. -/
def Publishes (schema : Json) (ps : List Parameter) : Prop :=
  ∃ members, schema.get? "properties" = some (.object members) ∧ (members.map Prod.fst).Nodup ∧
    ∀ name, lookup name members = (lastNamed Parameter.name ps name).map Parameter.schema

/-- Whether a schema requires some names, in this order. If there are none, it says nothing
about it. -/
def Requires (schema : Json) (names : List String) : Prop :=
  schema.get? "required" = if names = [] then none else some (.array (names.map .string))

/-- Whether a schema requires each name once whose last parameter is required, and no others. -/
def RequiresPublished (schema : Json) (ps : List Parameter) : Prop :=
  ∃ names, Requires schema names ∧ names.Nodup ∧
    ∀ name, name ∈ names ↔ ∃ p, lastNamed Parameter.name ps name = some p ∧ p.required = true

/-- The names of all required parameters. -/
def requiredNames (ps : List Parameter) : List String :=
  (ps.filter (·.required)).map Parameter.name

lemma Requires.unique {schema : Json} {names names' : List String} (h : Requires schema names)
    (h' : Requires schema names') : names = names' := by
  have same := h.symm.trans h'
  split_ifs at same with empty empty' empty'
  · rw [empty, empty']
  · have strings := Json.array.inj (Option.some.inj same)
    exact List.map_injective_iff.mpr (fun _ _ => Json.string.inj) strings

lemma publishes_inputSchema (ps : List Parameter) : Publishes (inputSchema ps) ps := by
  refine ⟨Json.sortMembers (ps.map fun p => (p.name, p.schema)), ?_, ?_, fun name => ?_⟩
  · rw [inputSchema, Json.ofMembers, Json.get?, Json.lookup_sortMembers_last]
    split_ifs <;> simp [lastNamed, Json.ofMembers]
  · exact List.pairwise_map.mpr
      ((Json.increasing_sortMembers _).imp fun less => ne_of_lt less)
  · rw [Json.lookup_sortMembers_last,
      lastNamed_map Parameter.name Prod.fst (fun p => (p.name, p.schema)) (fun _ => rfl),
      Option.map_map]
    rfl

lemma requires_inputSchema (ps : List Parameter) :
    Requires (inputSchema ps) (requiredNames ps) := by
  rw [Requires, inputSchema, Json.ofMembers, Json.get?, Json.lookup_sortMembers_last]
  by_cases none : ps.filter (·.required) = []
  · simp [requiredNames, none, lastNamed]
  · simp [requiredNames, none, lastNamed]

/-! ### What is required -/

/-- If the last parameter of a name is required, the name is. -/
lemma mem_requiredNames {ps : List Parameter} {name : String} {p : Parameter}
    (last : lastNamed Parameter.name ps name = some p) (required : p.required = true) :
    name ∈ requiredNames ps :=
  List.mem_map.mpr ⟨p, List.mem_filter.mpr ⟨mem_of_lastNamed last, required⟩, name_of_lastNamed last⟩

/-- What is required is there. -/
lemma exists_last_of_required {ps : List Parameter} {name : String} (h : name ∈ requiredNames ps) :
    ∃ p, lastNamed Parameter.name ps name = some p := by
  obtain ⟨q, mem, rfl⟩ := List.mem_map.mp h
  exact exists_lastNamed Parameter.name (List.mem_filter.mp mem).1

/-- **Each name is required once, and because of its last parameter, if and only if no
parameter comes after a required one of its name.** -/
lemma nodup_requiredNames_iff (ps : List Parameter) :
    ((requiredNames ps).Nodup ∧ ∀ name ∈ requiredNames ps,
        ∃ p, lastNamed Parameter.name ps name = some p ∧ p.required = true)
      ↔ ps.Pairwise fun p q => p.required = true → q.name ≠ p.name := by
  induction ps with
  | nil => simp [requiredNames]
  | cons p ps ih =>
      -- Behind the first parameter the same names have the same last parameters.
      have behind {name : String} (h : name ∈ requiredNames ps) :
          lastNamed Parameter.name (p :: ps) name = lastNamed Parameter.name ps name := by
        obtain ⟨q, last⟩ := exists_last_of_required h
        rw [lastNamed_cons, last, Option.some_or]
      rw [List.pairwise_cons, ← ih]
      by_cases required : p.required = true
      · have names : requiredNames (p :: ps) = p.name :: requiredNames ps := by
          simp [requiredNames, required]
        rw [names, List.nodup_cons, List.forall_mem_cons]
        constructor
        · rintro ⟨⟨fresh, distinct⟩, ⟨r, last, because⟩, others⟩
          refine ⟨fun q mem _ same => ?_, distinct, fun name h => ?_⟩
          · -- The last parameter of this name comes later and is required, so the name is
            -- there twice.
            obtain ⟨r', later⟩ := exists_lastNamed Parameter.name mem
            rw [same] at later
            rw [lastNamed_cons, later, Option.some_or] at last
            obtain rfl := Option.some.inj last
            exact fresh (mem_requiredNames later because)
          · obtain ⟨r, last, because⟩ := others name h
            exact ⟨r, (behind h).symm.trans last, because⟩
        · rintro ⟨other, distinct, others⟩
          have none : lastNamed Parameter.name ps p.name = none :=
            lastNamed_eq_none_iff.mpr fun q mem => other q mem required
          refine ⟨⟨fun there => ?_, distinct⟩, ⟨p, ?_, required⟩, fun name h => ?_⟩
          · obtain ⟨q, last⟩ := exists_last_of_required there
            rw [none] at last
            cases last
          · rw [lastNamed_cons, none, if_pos rfl, Option.none_or]
          · obtain ⟨r, last, because⟩ := others name h
            exact ⟨r, (behind h).trans last, because⟩
      · have names : requiredNames (p :: ps) = requiredNames ps := by
          simp [requiredNames, required]
        have nothing : ∀ q ∈ ps, p.required = true → q.name ≠ p.name :=
          fun q _ true => absurd true required
        have same : (∀ name ∈ requiredNames ps,
              ∃ r, lastNamed Parameter.name (p :: ps) name = some r ∧ r.required = true)
            ↔ ∀ name ∈ requiredNames ps,
              ∃ r, lastNamed Parameter.name ps name = some r ∧ r.required = true :=
          forall₂_congr fun name h => by rw [behind h]
        rw [names, same]
        exact (and_iff_right nothing).symm

lemma requiresPublished_iff (ps : List Parameter) :
    RequiresPublished (inputSchema ps) ps
      ↔ ps.Pairwise fun p q => p.required = true → q.name ≠ p.name := by
  rw [← nodup_requiredNames_iff]
  constructor
  · rintro ⟨names, requires, distinct, published⟩
    rw [requires.unique (requires_inputSchema ps)] at distinct published
    exact ⟨distinct, fun name h => (published name).mp h⟩
  · rintro ⟨distinct, published⟩
    exact ⟨_, requires_inputSchema ps, distinct, fun name =>
      ⟨published name, fun ⟨_, last, required⟩ => mem_requiredNames last required⟩⟩

/-! ### Schemas -/

/-- **A schema publishes its parameters, the last one of every name. It requires what it
publishes as required, each name once, if and only if no parameter comes after a required one
of its name.** -/
theorem schema_consistent_iff (ps : List Parameter) :
    Publishes (inputSchema ps) ps ∧
      (RequiresPublished (inputSchema ps) ps
        ↔ ps.Pairwise fun p q => p.required = true → q.name ≠ p.name) :=
  ⟨publishes_inputSchema ps, requiresPublished_iff ps⟩

/-- A name is required although the parameter that is published for it may be left out. -/
theorem optional_parameter_is_required :
    let p := Parameter.string "a" ""
    let q := p.requiring false
    Requires (inputSchema [p, q]) ["a"] ∧ lastNamed Parameter.name [p, q] "a" = some q ∧
      q.required = false ∧ ¬ RequiresPublished (inputSchema [p, q]) [p, q] := by
  intro p q
  have requires : Requires (inputSchema [p, q]) ["a"] := requires_inputSchema [p, q]
  have last : lastNamed Parameter.name [p, q] "a" = some q := rfl
  refine ⟨requires, last, rfl, ?_⟩
  rintro ⟨names, requires', -, published⟩
  rw [requires'.unique requires] at published
  obtain ⟨r, last', required⟩ := (published "a").mp List.mem_cons_self
  obtain rfl := Option.some.inj (last.symm.trans last')
  cases required

end Tool

end ToolServer
