import AssemblyInfo.Yaml.Shape
import AssemblyInfo.Yaml.Token.Lexer

/-!
# Documents

A document keeps the values of its nodes apart, since an alias may lead to a node around it, and
since aliases of aliases make the whole value grow beyond measure. The whole value is worked out as
far as it is looked at, and a cycle is cut where it closes.
-/

namespace AssemblyInfo.Yaml

/-- A reader of documents. -/
abbrev Reader := List Char → Except Problem Value

/-- A document that has been read: the values of its nodes, and its outermost node. -/
structure Document where
  shapes : Array (Option Shape)
  root : Nat

def Document.ofGraph? (graph : Graph) : Except Problem Document := do
  let start : Build :=
    { nodes := graph.nodes, shapes := Array.replicate graph.nodes.size none }
  let reading : Construct Unit := do
    let _ ← Construct.visit graph.root
    Construct.fillAll (graph.nodes.size + 1)
  let (_, build) ← reading.run start
  return ⟨build.shapes, graph.root⟩

/-- `shape.value below` is the value of `shape`, where `below` gives the values of nodes. -/
def Shape.value (below : Nat → Value) : Shape → Value
  | .scalar value => value
  | .set items => .set false items
  | .list items => .list (items.map below)
  | .map entries => .map (entries.map fun (key, item) => (key, below item))
  | .pairs entries => .list (entries.map fun (key, item) => .tuple [below key, below item])

namespace Document

/-- `document.valueAt fuel free around id` is the value of the node `id` within the collections
`around`. Collections are worked out when they are looked at; those of the outer `free` levels do not
count as being around. -/
def valueAt (document : Document) : Nat → Nat → List Nat → Nat → Value
  | 0, _, _, _ => .again false
  | fuel + 1, free, around, id =>
    let below :=
      match free with
      | 0 => document.valueAt fuel 0 (id :: around)
      | free + 1 => document.valueAt fuel free around
    match document.shapes[id]?.join with
    | some (.scalar value) => value
    | some shape =>
      if around.contains id then .again false else .later fun _ => shape.value below
    | none => .null

/-- `document.value free` is the value of `document`. No path without repetition is longer than the
number of its nodes. -/
def value (document : Document) (free : Nat) : Value :=
  document.valueAt (document.shapes.size + free + 1) free [] document.root

end Document

/-- `load free text` is the value of the document that `text` writes, null if there is none. A cycle
is cut where it closes, apart from the outer `free` levels, which are always written out. The line
breaks of `text` are line feeds. -/
def load (free : Nat) (text : List Char) : Except Problem Value := do
  if !text.all isPrintable then throw (.malformed .unprintable)
  match ← Graph.ofTokens? (Token.ofChars text) with
  | none => return .null
  | some graph => return (← Document.ofGraph? graph).value free

end AssemblyInfo.Yaml
