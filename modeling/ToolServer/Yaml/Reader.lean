/-
YAML documents from their tokens:

* `Source`: the tokens that are left, with the anchors seen so far;
* `node`, `items`, `entries` and the like: what stands in front of the tokens;
* `Node.ofText?`: the only document of a text.

An alias stands for the node of its anchor. Tags say nothing about a node here.
-/
import ToolServer.Yaml.Node
import ToolServer.Yaml.Token

namespace ToolServer.Yaml

/-- The tokens that are left, and what they may refer to. -/
structure Source where
  tokens : List Token
  /-- The nodes with a name, latest first. -/
  anchors : List (List Char × Node) := []
  /-- The handles that tags may have. -/
  handles : List (List Char) := []

/-- A reading of some tokens, which may fail. -/
abbrev Reading (α : Type) := StateT Source Option α

namespace Reading

/-- The next token, which stays. -/
def peek : Reading (Option Token) :=
  fun s => some (s.tokens.head?, s)

/-- Leaves the next token behind. -/
def skip : Reading Unit :=
  fun s => some ((), { s with tokens := s.tokens.tail })

/-- Leaves the next token behind if it is the given one, and tells whether it is. -/
def take (t : Token) : Reading Bool := do
  if (← peek) = some t then
    skip
    return true
  else return false

/-- Leaves the next token behind, which has to be the given one. -/
def require (t : Token) : Reading Unit := do
  if !(← take t) then failure

/-- Whether the next token is one of some. -/
def atAny (ts : List (Option Token)) : Reading Bool := do
  return ts.contains (← peek)

/-! ### Names -/

/-- The anchor in front of a node, and whether there is a tag. -/
def properties : (fuel : Nat) → Option (List Char) → Bool →
    Reading (Option (List Char) × Bool)
  | 0, anchor, tagged => return (anchor, tagged)
  | fuel + 1, anchor, tagged => do
    match ← peek with
    | some (.anchor name) =>
      if anchor.isSome then return (anchor, tagged)
      skip
      properties fuel (some name) tagged
    | some (.tag handle) =>
      if tagged then return (anchor, tagged)
      let s ← get
      if !handle.isEmpty && handle != ['!'] && handle != ['!', '!']
          && !s.handles.contains handle then failure
      skip
      properties fuel anchor true
    | _ => return (anchor, tagged)

/-- Gives a node a name. -/
def name (anchor : Option (List Char)) (node : Node) : Reading Unit :=
  modify fun s => match anchor with
    | some a => { s with anchors := (a, node) :: s.anchors }
    | none => s

/-- The node with a name. -/
def named (anchor : List Char) : Reading Node := do
  match (← get).anchors.find? (·.1 = anchor) with
  | some (_, node) => return node
  | none => failure

/-! ### Nodes -/

mutual

/-- The node in front. `inBlock` says whether block collections may stand here,
`inKey` whether a sequence may start without indentation. -/
def node (inBlock inKey : Bool) : (fuel : Nat) → Reading Node
  | 0 => failure
  | fuel + 1 => do
    if let some (.alias anchor) := ← peek then
      skip
      return ← named anchor
    let (anchor, tagged) ← properties 2 none false
    name anchor .endless
    let content ← content inBlock inKey (anchor.isSome || tagged) fuel
    name anchor content
    return content

/-- The content of a node behind its properties; it may be left out if
`mayBeEmpty`. -/
def content (inBlock inKey mayBeEmpty : Bool) : (fuel : Nat) → Reading Node
  | 0 => failure
  | fuel + 1 => do
    match ← peek with
    | some (.scalar isPlain text) =>
      skip
      return .scalar isPlain text
    | some .openBracket =>
      skip
      return .sequence (← flowItems true fuel)
    | some .openBrace =>
      skip
      return .mapping (← flowEntries true fuel)
    | t =>
      if inKey && t = some .dash then
        return .sequence (← items false fuel)
      else if inBlock && t = some .sequenceStart then
        skip
        return .sequence (← items true fuel)
      else if inBlock && t = some .mappingStart then
        skip
        return .mapping (← entries fuel)
      else if mayBeEmpty then return .empty
      else failure

/-- The items of a block sequence. Without an indentation of its own it ends in
front of the first token that is no dash. -/
def items (indented : Bool) : (fuel : Nat) → Reading (List Node)
  | 0 => failure
  | fuel + 1 => do
    if ← take .dash then
      let ends := if indented then [.dash, .blockEnd] else [.dash, .key, .colon, .blockEnd]
      let item ← part true false (ends.map some) fuel
      return item :: (← items indented fuel)
    else
      if indented then require .blockEnd
      return []

/-- The entries of a block mapping. -/
def entries : (fuel : Nat) → Reading (List (Node × Node))
  | 0 => failure
  | fuel + 1 => do
    if ← take .blockEnd then return []
    require .key
    let ends := [some .key, some .colon, some .blockEnd]
    let key ← part true true ends fuel
    let value ← if ← take .colon then part true true ends fuel else pure .empty
    return (key, value) :: (← entries fuel)

/-- A node that is left out where one of some tokens is next. -/
def part (inBlock inKey : Bool) (ends : List (Option Token)) : (fuel : Nat) → Reading Node
  | 0 => failure
  | fuel + 1 => do
    if ← atAny ends then return .empty
    node inBlock inKey fuel

/-- The items of a flow sequence up to its bracket. An item may be a mapping with
one entry, written without braces. -/
def flowItems (first : Bool) : (fuel : Nat) → Reading (List Node)
  | 0 => failure
  | fuel + 1 => do
    if ← take .closeBracket then return []
    if !first then
      require .comma
      if ← take .closeBracket then return []
    let ends := [some .comma, some .closeBracket]
    let item ←
      if ← take .key then
        let key ← part false false (some .colon :: ends) fuel
        let value ← if ← take .colon then part false false ends fuel else pure .empty
        pure (.mapping [(key, value)])
      else node false false fuel
    return item :: (← flowItems false fuel)

/-- The entries of a flow mapping up to its brace. A key may stand alone. -/
def flowEntries (first : Bool) : (fuel : Nat) → Reading (List (Node × Node))
  | 0 => failure
  | fuel + 1 => do
    if ← take .closeBrace then return []
    if !first then
      require .comma
      if ← take .closeBrace then return []
    let ends := [some .comma, some .closeBrace]
    let entry ←
      if ← take .key then
        let key ← part false false (some .colon :: ends) fuel
        let value ← if ← take .colon then part false false ends fuel else pure .empty
        pure (key, value)
      else pure (← node false false fuel, .empty)
    return entry :: (← flowEntries false fuel)

end

/-! ### Documents -/

/-- The directives in front of a document: at most one version of the language,
which has to be known, and handles of different names. -/
def directives : (fuel : Nat) → (versioned : Bool) → Reading Unit
  | 0, _ => failure
  | fuel + 1, versioned => do
    match ← peek with
    | some (.version number) =>
      let known := ["1.1", "1.2"].contains (String.ofList number)
      if versioned || !known then failure
      skip
      directives fuel true
    | some (.handle name) =>
      if (← get).handles.contains name then failure
      modify fun s => { s with handles := name :: s.handles }
      skip
      directives fuel versioned
    | _ => return ()

/-- Leaves the marks of the end of a document behind. -/
def documentEnds : (fuel : Nat) → Reading Unit
  | 0 => return ()
  | fuel + 1 => do
    if ← take .documentEnd then documentEnds fuel

/-- The only document, which may be empty. -/
def document (fuel : Nat) : Reading Node := do
  let before := (← get).tokens.length
  directives fuel false
  let directed := (← get).tokens.length < before
  let explicit ← take .documentStart
  if directed && !explicit then failure
  let ends :=
    if explicit then [none, some .documentEnd, some .documentStart] else [none]
  let node ← part true false ends fuel
  documentEnds fuel
  if (← peek).isSome then failure
  return node

end Reading

/-- The only document of a text. -/
def Node.ofText? (text : List Char) : Option Node := do
  let tokens ← Token.ofText? text
  let (node, _) ← Reading.document (8 * tokens.length + 8) { tokens }
  return node

end ToolServer.Yaml
