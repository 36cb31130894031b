import AssemblyInfo.Value.Key
import AssemblyInfo.Yaml.Node
import AssemblyInfo.Yaml.Scalar

/-!
# Shapes of nodes

A node is read once, however many aliases lead to it. Collections are filled in the order in which
they are met, outer ones first; so a problem with a scalar is found before a problem within a
collection beside it. Mappings that are merged into others come before the entries of these.
-/

namespace AssemblyInfo.Yaml

/-- The value of a node, where the parts of a collection are named by their nodes. -/
inductive Shape where
  | scalar (value : Value)
  | list (items : List Nat)
  | pairs (entries : List (Nat × Nat))
  | map (entries : List (Value × Nat))
  | set (items : List Value)

/-- The state of the reading. -/
structure Build where
  nodes : Array Node
  shapes : Array (Option Shape)
  /-- The collections that are still to be filled. -/
  queue : List Nat := []

/-- A reading of nodes. -/
abbrev Construct := StateT Build (Except Problem)

namespace Construct

/-- `fail cause` stops: the text is malformed. -/
def fail {α : Type} (cause : Cause) : Construct α :=
  throw (.malformed cause)

def nodeAt (id : Nat) : Construct Node := do
  return (← get).nodes[id]?.getD default

def setNode (id : Nat) (node : Node) : Construct Unit :=
  modify fun build => { build with nodes := build.nodes.setIfInBounds id node }

def setShape (id : Nat) (shape : Shape) : Construct Unit :=
  modify fun build => { build with shapes := build.shapes.setIfInBounds id (some shape) }

def enqueue (id : Nat) : Construct Unit :=
  modify fun build => { build with queue := build.queue ++ [id] }

def entriesAt (id : Nat) : Construct (List (Nat × Nat)) := do
  match (← nodeAt id).content with
  | .mapping entries => return entries
  | _ => fail .wrongShape

def itemsAt (id : Nat) : Construct (List Nat) := do
  match (← nodeAt id).content with
  | .sequence items => return items
  | _ => fail .wrongShape

def isMappingAt (id : Nat) : Construct Bool := do
  match (← nodeAt id).content with
  | .mapping _ => return true
  | _ => return false

/-- `firstWithTag? tag entries` is the first entry whose key has the given tag, and its place. -/
def firstWithTag? (tag : Tag) (entries : List (Nat × Nat)) :
    Construct (Option (Nat × Nat × Nat)) := do
  let build ← get
  let hasTag := fun (entry : Nat × Nat) => (build.nodes[entry.1]?.getD default).tag = tag
  match entries.findIdx? hasTag with
  | some place => return (entries[place]?).map fun entry => (place, entry)
  | none => return none

/-! ### Scalars -/

/-- `textAt fuel id` is the text of a scalar; a mapping stands for the value under its mark. -/
def textAt : Nat → Nat → Construct String
  | 0, _ => throw (.fault .endless)
  | fuel + 1, id => do
    match (← nodeAt id).content with
    | .scalar text => return text
    | .sequence _ => fail .wrongShape
    | .mapping entries =>
      match ← firstWithTag? .value entries with
      | some (_, _, value) => textAt fuel value
      | none => fail .wrongShape

def scalarAt (id : Nat) (tag : Tag) : Construct Value := do
  let text ← textAt ((← get).nodes.size + 1) id
  if tag = .timestamp && (← isMappingAt id) then throw (.fault .timestampMapping)
  match scalarOf (id + 1) tag text.toList with
  | .ok value => return value
  | .error problem => throw problem

/-- `start tag` is the empty collection of the given kind, if it is one. -/
def start : Tag → Option Shape
  | .seq => some (.list [])
  | .map => some (.map [])
  | .set => some (.set [])
  | .orderedMap | .pairs => some (.pairs [])
  | _ => none

def isScalarTag : Tag → Bool
  | .null | .bool | .int | .float | .binary | .timestamp | .str => true
  | _ => false

/-- `visit id` reads a node, unless it has been read: a scalar at once, a collection later. -/
def visit (id : Nat) : Construct Shape := do
  match (← get).shapes[id]? with
  | some (some shape) => return shape
  | _ =>
    let tag := (← nodeAt id).tag
    match start tag with
    | some shape =>
      setShape id shape
      enqueue id
      return shape
    | none =>
      if !isScalarTag tag then fail .unknownTag
      let shape := Shape.scalar (← scalarAt id tag)
      setShape id shape
      return shape

/-! ### Merging -/

def unmark (entries : List (Nat × Nat)) : Construct Unit :=
  entries.forM fun entry => do
    let key ← nodeAt entry.1
    if key.tag = .value then setNode entry.1 { key with tag := .str }

mutual

/-- `flatten fuel id` puts the entries of merged mappings into the mapping `id`. Every step takes a
mark away, so the number of marks bounds the steps. -/
def flatten : Nat → Nat → List (Nat × Nat) → Construct Unit
  | 0, _, _ => throw (.fault .endless)
  | fuel + 1, id, merged => do
    let node ← nodeAt id
    let entries ← entriesAt id
    match ← firstWithTag? .merge entries with
    | some (place, _, value) =>
      setNode id { node with content := .mapping (entries.eraseIdx place) }
      let more ← mergedFrom fuel value
      flatten fuel id (merged ++ more)
    | none =>
      unmark entries
      setNode id { node with content := .mapping (merged ++ entries) }

/-- `mergedFrom fuel id` is the entries of the mapping `id`, or of the mappings in the sequence `id`,
the last one first. -/
def mergedFrom : Nat → Nat → Construct (List (Nat × Nat))
  | 0, _ => throw (.fault .endless)
  | fuel + 1, id => do
    match (← nodeAt id).content with
    | .mapping _ =>
      flatten fuel id []
      entriesAt id
    | .sequence items =>
      let parts ← items.mapM fun item => do
        if !(← isMappingAt item) then fail .wrongShape
        flatten fuel item []
        entriesAt item
      return parts.reverse.flatten
    | .scalar _ => fail .wrongShape

end

def entryCount (nodes : Array Node) : Nat :=
  nodes.foldl (fun n node => match node.content with
    | .mapping entries => n + entries.length
    | _ => n) 0

/-! ### Filling -/

/-- `keyAt id` is the value of a key, which is no collection. -/
def keyAt (id : Nat) : Construct Value := do
  match ← visit id with
  | .scalar value => if value.isHashable then return value else fail .unhashableKey
  | _ => fail .unhashableKey

def putEntries (done : List (Value × Nat)) : List (Nat × Nat) → Construct (List (Value × Nat))
  | [] => return done
  | (key, value) :: rest => do
    let name ← keyAt key
    let _ ← visit value
    putEntries (Value.putEntry name value done) rest

def mergeSteps (id : Nat) : Construct Nat := do
  match ← firstWithTag? .merge (← entriesAt id) with
  | some _ => return 2 * entryCount (← get).nodes + 2
  | none => return 1

/-- `mappingAt id` is the entries of a mapping, merged ones included. -/
def mappingAt (id : Nat) : Construct (List (Value × Nat)) := do
  if ← isMappingAt id then flatten (← mergeSteps id) id []
  putEntries [] (← entriesAt id)

/-- `pairAt id` is the only entry of a mapping. -/
def pairAt (id : Nat) : Construct (Nat × Nat) := do
  match ← entriesAt id with
  | [(key, value)] =>
    let _ ← visit key
    let _ ← visit value
    return (key, value)
  | _ => fail .wrongShape

/-- `fill id` reads the parts of a collection. -/
def fill (id : Nat) : Construct Unit := do
  match (← nodeAt id).tag with
  | .seq =>
    let items ← itemsAt id
    items.forM fun item => do
      let _ ← visit item
    setShape id (.list items)
  | .map => setShape id (.map (← mappingAt id))
  | .set => setShape id (.set ((← mappingAt id).map Prod.fst))
  | _ => setShape id (.pairs (← (← itemsAt id).mapM pairAt))

/-- `fillAll fuel` fills the collections that are put off, first come first served. -/
def fillAll : Nat → Construct Unit
  | 0 => return
  | fuel + 1 => do
    match (← get).queue with
    | [] => return
    | id :: rest =>
      modify fun build => { build with queue := rest }
      fill id
      fillAll fuel

end Construct

end AssemblyInfo.Yaml
