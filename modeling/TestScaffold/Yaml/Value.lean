import TestScaffold.Yaml.Graph
import TestScaffold.Yaml.Scalar

/-!
The value that a YAML text stands for.

* A `Value` is a scalar or a collection, which is given by its number, since
  it may be met in several places, also inside itself. Only scalars are keys of
  a mapping. Of two entries with the same key the last one gives the value.
* A mapping with the key `<<` takes in the entries of the mappings that stand
  there; its own entries go after theirs (`Graph.flatten`).
* A mapping tagged as a scalar stands for the scalar under its key `=`
  (`Graph.mainText`).
* Collections are filled one after another, in the order in which they are
  met, so of several faults the one nearest to the root is found first.

`Document.read` reads a text, and `load` the octets of a file. `load` is a
`Loader`, of which there may be others.
-/

namespace TestScaffold.Yaml

/-- A value: a scalar, or a collection by its number. -/
inductive Value
  | scalar (s : Scalar)
  | collection (number : Nat)
  deriving DecidableEq, Repr

/-- The parts of a value. -/
inductive Collection
  | seq (items : List Value)
  | map (entries : List (Scalar × Value))
  | set (members : List Scalar)
  | pairs (entries : List (Value × Value))
  deriving DecidableEq, Repr

/-- The value of a text. -/
structure Document where
  root : Value
  /-- The collections, by their numbers. -/
  collections : Array (Option Collection)
  deriving DecidableEq, Repr

/-- The parts of a value of a document. -/
def Document.parts (d : Document) : Value → Option Collection
  | .scalar _ => none
  | .collection number => (d.collections[number]?).join

/-! ### Main values -/

namespace Graph

/-- How many mappings lead to a main value, one inside the other. -/
def chainMax : Nat := 970

def tag? (g : Graph) (number : Nat) : Option Tag :=
  (g[number]? : Option Node).map (·.tag)

def content? (g : Graph) (number : Nat) : Option Content :=
  (g[number]? : Option Node).map (·.content)

/-- The text of a node that is tagged as a scalar, at most `fuel` mappings
deep. -/
def mainText (g : Graph) : Nat → Nat → Except Fault (Text)
  | 0, _ => .error .tooDeep
  | fuel + 1, number =>
    match g.content? number with
    | some (.scalar s) => .ok s
    | some (.mapping entries) =>
      match entries.find? fun e => g.tag? e.1 = some .main with
      | some e => mainText g fuel e.2
      | none => .error .malformed
    | _ => .error .malformed

/-! ### Entries of other mappings -/

/-- The entries of a mapping. -/
def entries? (g : Graph) (number : Nat) : Option (List (Nat × Nat)) :=
  match g.content? number with
  | some (.mapping es) => some es
  | _ => none

def setEntries (g : Graph) (number : Nat) (es : List (Nat × Nat)) : Graph :=
  g.modify number fun n => { n with content := .mapping es }

/-- The keys `=` of some entries made keys like any others. -/
def plainKeys (g : Graph) (es : List (Nat × Nat)) : Graph :=
  es.foldl
    (fun g e => g.modify e.1 fun n => if n.tag = .main then { n with tag := .text } else n)
    g

/-- The first entry with the key `<<`, and the others. -/
def cutMerge? (g : Graph) : List (Nat × Nat) → Option (Nat × List (Nat × Nat))
  | [] => none
  | e :: es =>
    if g.tag? e.1 = some .merge then some (e.2, es)
    else (cutMerge? g es).map fun p => (p.1, e :: p.2)

/-- The graph where a mapping has the entries that it takes in; `taken` are
those found so far. A mapping that is taken in is treated in the same way
before. -/
def flattenWith :
    Nat → Nat → List (Nat × Nat) → Graph → Except Fault Graph
  | 0, _, _, _ => .error .tooDeep
  | fuel + 1, number, taken, g => do
    let entriesOf (number : Nat) (g : Graph) :
        Except Fault (List (Nat × Nat) × Graph) := do
      if (g.entries? number).isNone then .error .malformed
      else
        let g ← flattenWith fuel number [] g
        return ((g.entries? number).getD [], g)
    let own := (g.entries? number).getD []
    match g.cutMerge? own with
    | none => return (g.plainKeys own).setEntries number (taken ++ own)
    | some (source, rest) =>
      let g := g.setEntries number rest
      let (more, g) ←
        match g.content? source with
        | some (.sequence items) =>
          items.foldlM
            (fun (found, g) item => do
              let (es, g) ← entriesOf item g
              return (es ++ found, g))
            ([], g)
        | _ => entriesOf source g
      flattenWith fuel number (taken ++ more) g

/-- The graph where a mapping has the entries that it takes in. -/
def flatten (number : Nat) (g : Graph) : Except Fault Graph :=
  let merges := g.foldl
    (fun n node =>
      match node.content with
      | .mapping es => n + es.countP fun e => g.tag? e.1 = some .merge
      | _ => n)
    0
  flattenWith (2 * merges + 2) number [] g

end Graph

/-! ### Filling -/

/-- A document that is being filled. -/
structure Building where
  graph : Graph
  /-- The values of the nodes that have been met. -/
  known : Array (Option Value)
  /-- The collections that have been met and are still empty. -/
  waiting : List Nat
  collections : Array (Option Collection)

/-- A step of filling. -/
abbrev Filling (α : Type) : Type := StateT Building (Except Fault) α

def Tag.isCollection : Tag → Bool
  | .sequence | .mapping | .set | .orderedMap | .pairs => true
  | _ => false

namespace Building

/-- The value of a node that is no collection. -/
def scalarOf (g : Graph) (number : Nat) (n : Node) : Except Fault Scalar := do
  match n.tag with
  | .merge | .main | .other => .error .malformed
  | tag =>
    let s ← g.mainText Graph.chainMax number
    match tag, n.content with
    | .timestamp, .mapping _ => .error .timestampNotText
    | _, _ => Scalar.read tag s

/-- The value of a node. It is the same whenever the node is met. -/
def value (number : Nat) : Filling Value := do
  let b ← get
  match (b.known[number]?).join, b.graph[number]? with
  | some v, _ => return v
  | none, none => throw .malformed
  | none, some n =>
    if n.tag.isCollection then
      let v := Value.collection number
      set { b with
        known := b.known.setIfInBounds number (some v)
        waiting := b.waiting ++ [number] }
      return v
    else
      let v := Value.scalar (← scalarOf b.graph number n)
      set { b with known := b.known.setIfInBounds number (some v) }
      return v

/-- The entries with one more. A key that is there keeps its place. -/
def insert (k : Scalar) (v : Value) : List (Scalar × Value) → List (Scalar × Value)
  | [] => [(k, v)]
  | (k', v') :: es =>
    if k'.isSame k then (k', v) :: es else (k', v') :: insert k v es

/-- The entries of a mapping with what it takes in. A collection cannot be a
key. -/
def mappingOf (number : Nat) : Filling (List (Scalar × Value)) := do
  let g ← Graph.flatten number (← get).graph
  modify fun b => { b with graph := g }
  ((g.entries? number).getD []).foldlM
    (fun es e => do
      match ← value e.1 with
      | .collection _ => throw .malformed
      | .scalar k => return insert k (← value e.2) es)
    []

/-- The only entry of a mapping that has one, and takes in no others. -/
def pairOf (number : Nat) : Filling (Value × Value) := do
  match (← get).graph.entries? number with
  | some [e] => return (← value e.1, ← value e.2)
  | _ => throw .malformed

/-- The parts of a collection. -/
def partsOf (number : Nat) (n : Node) : Filling Collection := do
  match n.tag, n.content with
  | .sequence, .sequence items => return .seq (← items.mapM value)
  | .mapping, .mapping _ => return .map (← mappingOf number)
  | .set, .mapping _ => return .set ((← mappingOf number).map (·.1))
  | .orderedMap, .sequence items | .pairs, .sequence items =>
    return .pairs (← items.mapM pairOf)
  | _, _ => throw .malformed

/-- All collections filled, at most `fuel` of them. -/
def fill : Nat → Filling Unit
  | 0 => return ()
  | fuel + 1 => do
    match (← get).waiting with
    | [] => return ()
    | number :: waiting =>
      modify fun b => { b with waiting := waiting }
      match (← get).graph[number]? with
      | none => throw .malformed
      | some n =>
        let c ← partsOf number n
        modify fun b =>
          { b with collections := b.collections.setIfInBounds number (some c) }
        fill fuel

/-- The document with the given root. -/
def document (root : Nat) (g : Graph) : Except Fault Document := do
  let nothing {α : Type} : Array (Option α) := Array.replicate g.size none
  let filling : Filling Value := do
    let v ← value root
    fill g.size
    return v
  let (v, b) ← filling.run ⟨g, nothing, [], nothing⟩
  return ⟨v, b.collections⟩

end Building

/-- The value of a text; nothing for a text without a document. -/
def Document.read (s : Source) : Except Fault Document := do
  match ← Graph.read? s with
  | none => return ⟨.scalar .null, #[]⟩
  | some (root, g) => Building.document root g

/-- A reader of YAML: the value of the octets of a file. -/
abbrev Loader : Type := List UInt8 → Except LoadFault Document

/-- The value of the octets of a file. -/
def load : Loader := fun octets =>
  (Document.read (.ofOctets octets)).mapError Fault.report

end TestScaffold.Yaml
