import AssemblyInfo.Yaml.Tag
import AssemblyInfo.Yaml.Token.Basic

/-!
# Nodes

A document is a graph of nodes: an alias leads to the node with its anchor, which may be a node
around it. Nodes are named by numbers.
-/

namespace AssemblyInfo.Yaml

/-- What a node consists of. -/
inductive Content where
  | scalar (text : String)
  | sequence (items : List Nat)
  | mapping (entries : List (Nat × Nat))
  deriving DecidableEq, Repr, Inhabited

/-- A node: its tag and its content. -/
structure Node where
  tag : Tag
  content : Content
  deriving DecidableEq, Repr, Inhabited

/-- A document, with the number of its outermost node. -/
structure Graph where
  nodes : Array Node
  root : Nat
  deriving Repr

/-- The state of the reading. -/
structure Draft where
  tokens : List Token
  nodes : Array Node := #[]
  anchors : List (String × Nat) := []
  handles : List (String × String) := []

/-- A reading that takes tokens. -/
abbrev Compose := StateT Draft (Except Problem)

namespace Compose

/-- `fail cause` stops: the text is malformed. -/
def fail {α : Type} (cause : Cause) : Compose α :=
  throw (.malformed cause)

/-- `peek` is the next token. Where the text cannot be read, the reading stops. -/
def peek : Compose (Option Token) := do
  match (← get).tokens with
  | [] => return none
  | .stop problem :: _ => throw problem
  | token :: _ => return some token

def drop : Compose Unit :=
  modify fun draft => { draft with tokens := draft.tokens.tail }

/-- `take? token` passes over `token` if it comes next. -/
def take? (token : Token) : Compose Bool := do
  if (← peek) = some token then
    drop
    return true
  else return false

def isNext (tokens : List Token) : Compose Bool := do
  match ← peek with
  | some token => return tokens.contains token
  | none => return false

/-- `comma isFirst` passes over the comma before an item, unless the item is the first. -/
def comma (isFirst : Bool) : Compose Unit := do
  if isFirst then return
  else if ← take? .flowEntry then return
  else fail .unexpectedToken

/-! ### Nodes and anchors -/

def reserve (anchor : Option String) : Compose Nat := do
  let draft ← get
  let id := draft.nodes.size
  let anchors :=
    match anchor with
    | some name => (name, id) :: draft.anchors
    | none => draft.anchors
  set { draft with nodes := draft.nodes.push default, anchors }
  return id

def define (id : Nat) (node : Node) : Compose Unit :=
  modify fun draft => { draft with nodes := draft.nodes.setIfInBounds id node }

/-- `checkAnchor anchor` fails if `anchor` is in use. -/
def checkAnchor : Option String → Compose Unit
  | some name => do
    if (← get).anchors.any fun entry => entry.1 = name then fail .duplicateAnchor
  | none => return

def addScalar (anchor : Option String) (tag : Tag) (text : String) : Compose Nat := do
  let id ← reserve anchor
  define id ⟨tag, .scalar text⟩
  return id

def addEmpty : Compose Nat :=
  addScalar none (.ofPlain []) ""

def aliased (name : String) : Compose Nat := do
  match (← get).anchors.find? fun entry => entry.1 = name with
  | some (_, id) => return id
  | none => fail .undefinedAlias

/-! ### Properties of nodes -/

/-- The anchor and the tag in front of a node. -/
structure Properties where
  anchor : Option String := none
  tag : Option TagName := none

/-- `anchor?` reads an anchor if one comes next. -/
def anchor? : Compose (Option String) := do
  match ← peek with
  | some (.anchor name) => drop; return some name
  | _ => return none

/-- `tag?` reads a tag if one comes next. -/
def tag? : Compose (Option TagName) := do
  match ← peek with
  | some (.tag name) => drop; return some name
  | _ => return none

/-- `properties` reads an anchor and a tag, in either order. -/
def properties : Compose Properties := do
  match ← anchor? with
  | some anchor => return { anchor, tag := ← tag? }
  | none =>
    match ← tag? with
    | some tag => return { anchor := ← anchor?, tag }
    | none => return {}

/-- `fullName tag` is the name of a tag, where handles stand for what they are declared as. -/
def fullName (tag : TagName) : Compose String := do
  match tag.handle with
  | none => return tag.suffix
  | some handle =>
    match (← get).handles.find? fun entry => entry.1 = handle with
    | some (_, expansion) => return expansion ++ tag.suffix
    | none => fail .undefinedHandle

/-- `givenTag? name` is the tag of a node, if it has one. A lone exclamation mark is none. -/
def givenTag? (name : Option String) : Option Tag :=
  match name with
  | some name => if name = "!" then none else some (.ofName name)
  | none => none

/-! ### Collections -/

/-- The place of a node. -/
inductive Place where
  /-- Within a flow collection. -/
  | flow
  /-- Within a block collection. -/
  | block
  /-- In a block mapping, where the items of a sequence need no indentation. -/
  | entry
  deriving DecidableEq, Repr

mutual

/-- `node fuel place` reads a node. -/
def node : Nat → Place → Compose Nat
  | 0, _ => fail .unexpectedToken
  | fuel + 1, place => do
    match ← peek with
    | some (.alias name) =>
      drop
      aliased name
    | _ =>
      let properties ← properties
      let name ← properties.tag.mapM fullName
      let next ← peek
      let tag := givenTag? name
      let anchor := properties.anchor
      checkAnchor anchor
      let sequence := fun (items : Compose (List Nat)) => do
        let id ← reserve anchor
        define id ⟨tag.getD .seq, .sequence (← items)⟩
        return id
      let mapping := fun (entries : Compose (List (Nat × Nat))) => do
        let id ← reserve anchor
        define id ⟨tag.getD .map, .mapping (← entries)⟩
        return id
      match next, place with
      | some .blockEntry, .entry => sequence (bareItems fuel)
      | some (.scalar text isPlain), _ =>
        drop
        let resolved :=
          if name = some "!" || (isPlain && name.isNone) then Tag.ofPlain text.toList else .str
        addScalar anchor (tag.getD resolved) text
      | some .flowSequenceStart, _ => drop; sequence (flowItems fuel true)
      | some .flowMappingStart, _ => drop; mapping (flowEntries fuel true)
      | token, place =>
        if place != .flow && token = some .blockSequenceStart then
          drop
          sequence (blockItems fuel)
        else if place != .flow && token = some .blockMappingStart then
          drop
          mapping (blockEntries fuel)
        else if anchor.isSome || name.isSome then
          addScalar anchor (tag.getD (.ofPlain [])) ""
        else fail .unexpectedToken

def blockItems : Nat → Compose (List Nat)
  | 0 => fail .unexpectedToken
  | fuel + 1 => do
    if ← take? .blockEntry then
      let item ← if ← isNext [.blockEntry, .blockEnd] then addEmpty else node fuel .block
      return item :: (← blockItems fuel)
    else if ← take? .blockEnd then return []
    else fail .unexpectedToken

/-- `bareItems fuel` reads the items of a sequence without indentation. -/
def bareItems : Nat → Compose (List Nat)
  | 0 => fail .unexpectedToken
  | fuel + 1 => do
    if ← take? .blockEntry then
      let isEmpty ← isNext [.blockEntry, .key, .value, .blockEnd]
      let item ← if isEmpty then addEmpty else node fuel .block
      return item :: (← bareItems fuel)
    else return []

/-- `blockPart fuel` reads a key or a value of a block mapping, after its indicator. -/
def blockPart : Nat → Compose Nat
  | 0 => fail .unexpectedToken
  | fuel + 1 => do
    if ← isNext [.key, .value, .blockEnd] then addEmpty else node fuel .entry

def blockEntries : Nat → Compose (List (Nat × Nat))
  | 0 => fail .unexpectedToken
  | fuel + 1 => do
    if ← take? .key then
      let key ← blockPart fuel
      let value ← if ← take? .value then blockPart fuel else addEmpty
      return (key, value) :: (← blockEntries fuel)
    else if ← take? .blockEnd then return []
    else fail .unexpectedToken

/-- `flowPart fuel ends` reads a key or a value of a flow mapping, which is missing if one of `ends`
comes next. -/
def flowPart : Nat → List Token → Compose Nat
  | 0, _ => fail .unexpectedToken
  | fuel + 1, ends => do
    if ← isNext ends then addEmpty else node fuel .flow

/-- `flowItems fuel isFirst` reads the items of a flow sequence. An item may be a mapping of one
entry. -/
def flowItems : Nat → Bool → Compose (List Nat)
  | 0, _ => fail .unexpectedToken
  | fuel + 1, isFirst => do
    if ← take? .flowSequenceEnd then return []
    comma isFirst
    if ← take? .flowSequenceEnd then return []
    if ← take? .key then
      let id ← reserve none
      let key ← flowPart fuel [.value, .flowEntry, .flowSequenceEnd]
      let value ←
        if ← take? .value then flowPart fuel [.flowEntry, .flowSequenceEnd] else addEmpty
      define id ⟨.map, .mapping [(key, value)]⟩
      return id :: (← flowItems fuel false)
    else
      let item ← node fuel .flow
      return item :: (← flowItems fuel false)

def flowEntries : Nat → Bool → Compose (List (Nat × Nat))
  | 0, _ => fail .unexpectedToken
  | fuel + 1, isFirst => do
    if ← take? .flowMappingEnd then return []
    comma isFirst
    if ← take? .flowMappingEnd then return []
    if ← take? .key then
      let key ← flowPart fuel [.value, .flowEntry, .flowMappingEnd]
      let value ←
        if ← take? .value then flowPart fuel [.flowEntry, .flowMappingEnd] else addEmpty
      return (key, value) :: (← flowEntries fuel false)
    else
      let key ← node fuel .flow
      let value ← addEmpty
      return (key, value) :: (← flowEntries fuel false)

end

/-! ### Documents -/

def dropAll (token : Token) : Nat → Compose Unit
  | 0 => return
  | fuel + 1 => do
    if ← take? token then dropAll token fuel

def directives : Nat → Bool → Compose Unit
  | 0, _ => return
  | fuel + 1, isVersioned => do
    match ← peek with
    | some (.directive directive) =>
      drop
      match directive with
      | .version major _ =>
        if isVersioned || major != 1 then fail .refusedDirective
        directives fuel true
      | .tagHandle handle expansion =>
        let draft ← get
        if draft.handles.any fun entry => entry.1 = handle then fail .refusedDirective
        set { draft with handles := (handle, expansion) :: draft.handles }
        directives fuel isVersioned
      | .other => directives fuel isVersioned
    | _ => return

/-- The handles that every document has; its own declarations come first. -/
def defaultHandles : List (String × String) := [("!", "!"), ("!!", tagRoot)]

def addDefaultHandles : Compose Unit :=
  modify fun draft => { draft with handles := draft.handles ++ defaultHandles }

/-- `explicitContent fuel` reads a document after its start; it may be empty. -/
def explicitContent (fuel : Nat) : Compose Nat := do
  match ← peek with
  | none | some (.directive _) | some .documentStart | some .documentEnd => addEmpty
  | _ => node fuel .block

/-- `document? fuel` reads the only document of a text, if there is one. -/
def document? (fuel : Nat) : Compose (Option Nat) := do
  match ← peek with
  | none => return none
  | some (.directive _) | some .documentStart =>
    directives fuel false
    addDefaultHandles
    if !(← take? .documentStart) then fail .unexpectedToken
    some <$> explicitContent fuel
  | _ =>
    addDefaultHandles
    some <$> node fuel .block

/-- `refuseNext fuel` refuses another document once its directives and the token after them have
been read. -/
def refuseNext (fuel : Nat) : Compose Unit := do
  modify fun draft => { draft with handles := [] }
  directives fuel false
  let _ ← peek
  fail .severalDocuments

/-- `stream fuel` reads a text of one document or none. -/
def stream (fuel : Nat) : Compose (Option Nat) := do
  let root ← document? fuel
  dropAll .documentEnd fuel
  if (← peek).isSome then refuseNext fuel
  return root

end Compose

/-- `Graph.ofTokens? tokens` is the document that `tokens` write, if they write one. -/
def Graph.ofTokens? (tokens : List Token) : Except Problem (Option Graph) := do
  let (root, draft) ← (Compose.stream (4 * tokens.length + 4)).run { tokens }
  return root.map fun root => ⟨draft.nodes, root⟩

end AssemblyInfo.Yaml
