import TestScaffold.Yaml.Lexer
import TestScaffold.Yaml.Tag

/-!
The graph of nodes that a sequence of tokens describes.

A node is a scalar, a sequence or a mapping, each with its tag; the parts of a
collection are given by the numbers of their nodes. A node may have a name, and
the name may stand for it in other places after its beginning, so a node can be
part of several collections, and of itself. A node that is left out is an empty
plain scalar.

* `Parse` is what is known while tokens are read, `Parse.node` reads one node,
  the others the parts of collections, each of which ends where its last token
  is;
* `Graph.read?` reads a whole text, which is at most one document. A fault of
  the text is met where the token after it is asked for.
-/

namespace TestScaffold.Yaml

/-- What a node holds. -/
inductive Content
  | scalar (text : Text)
  | sequence (items : List Nat)
  | mapping (entries : List (Nat × Nat))
  deriving DecidableEq, Repr

structure Node where
  tag : Tag
  content : Content
  deriving DecidableEq, Repr

/-- The nodes of a document, by their numbers. -/
abbrev Graph := Array Node

/-- What is known while tokens are read: the tokens to come and the fault after
them, the tag handles of the document, and the nodes and names so far. -/
structure Parse where
  tokens : List Token
  fault : Option Fault
  handles : List (Text × Text)
  names : List (Text × Nat)
  nodes : Graph

namespace Parse

/-- The next token; none at the end of the text. -/
def peek (p : Parse) : Except Fault (Option Token) :=
  match p.tokens, p.fault with
  | t :: _, _ => .ok (some t)
  | [], none => .ok none
  | [], some f => .error f

def drop (p : Parse) : Parse := { p with tokens := p.tokens.tail }

/-- Whether the next token is among the given ones. -/
def before (ts : List Token) (p : Parse) : Except Fault Bool :=
  p.peek.map fun t? => t?.any (· ∈ ts)

/-! ### Tags and names -/

/-- The handles that every document has. -/
def commonHandles : List (Text × Text) :=
  [([char '!'], [char '!']), ([char '!', char '!'], standardTags)]

/-- What the tag of a node stands for. -/
def tagText (p : Parse) (name : TagName) : Except Fault Text :=
  match name.handle with
  | none => .ok name.suffix
  | some h =>
    match p.handles.lookup h with
    | some before => .ok (before ++ name.suffix)
    | none => .error .malformed

/-- The name and the tag before a node, in either order. -/
def properties (p : Parse) :
    Except Fault (Option Text × Option TagName × Parse) := do
  match ← p.peek with
  | some (.anchor a) =>
    let p := p.drop
    match ← p.peek with
    | some (.tag n) => return (some a, some n, p.drop)
    | _ => return (some a, none, p)
  | some (.tag n) =>
    let p := p.drop
    match ← p.peek with
    | some (.anchor a) => return (some a, some n, p.drop)
    | _ => return (none, some n, p)
  | _ => return (none, none, p)

/-- The tag of a scalar. A plain one without a tag, and any with the tag `!`,
is left to its text; another one without a tag is a text. -/
def scalarTag (plain : Bool) (text : Text) : Option Text → Tag
  | none => if plain then impliedTag text else .text
  | some s => if s = [char '!'] then impliedTag text else Tag.ofText s

/-- The tag of a collection. -/
def collectionTag (default : Tag) : Option Text → Tag
  | none => default
  | some s => if s = [char '!'] then default else Tag.ofText s

/-- One more node, and its number. No name is given twice. -/
def add (p : Parse) (name : Option Text) (n : Node) : Except Fault (Nat × Parse) :=
  let number := p.nodes.size
  let q := { p with nodes := p.nodes.push n }
  match name with
  | none => .ok (number, q)
  | some a =>
    if (p.names.lookup a).isSome then .error .malformed
    else .ok (number, { q with names := (a, number) :: p.names })

/-- The parts of a node that was added before them. -/
def complete (p : Parse) (number : Nat) (c : Content) : Parse :=
  { p with nodes := p.nodes.modify number fun n => { n with content := c } }

/-- A node that is left out. -/
def addMissing (p : Parse) : Nat × Parse :=
  (p.nodes.size, { p with nodes := p.nodes.push ⟨.null, .scalar []⟩ })

/-! ### Nodes -/

/-- Where a node may stand: in brackets, among blocks, or after a key, where
the dashes of a sequence need no indentation. -/
inductive Place
  | flow
  | block
  | entry
  deriving DecidableEq, Repr

/-- How many collections may be open at once. -/
def depthMax : Nat := 488

/-- What begins at a token. -/
inductive Opening
  | scalar (plain : Bool) (text : Text)
  | flowSequence
  | flowMapping
  | blockSequence
  | looseSequence
  | blockMapping
  /-- Something else. -/
  | nothing

/-- What may begin at a token in a place. -/
def Place.opening (place : Place) : Option Token → Opening
  | some (.scalar plain s) => .scalar plain s
  | some .openSequence => .flowSequence
  | some .openMapping => .flowMapping
  | some .dash => if place = .entry then .looseSequence else .nothing
  | some .blockSequence => if place = .flow then .nothing else .blockSequence
  | some .blockMapping => if place = .flow then .nothing else .blockMapping
  | _ => .nothing

mutual

/-- One node, by its number. At most `depth` collections may be opened inside
one another. -/
def node (place : Place) (depth : Nat) : Nat → Parse → Except Fault (Nat × Parse)
  | 0, _ => .error .malformed
  | fuel + 1, p => do
    match ← p.peek with
    | some (.alias a) =>
      match p.names.lookup a with
      | some number => return (number, p.drop)
      | none => .error .malformed
    | _ =>
      let (name, tagName, p) ← p.properties
      let tag ← match tagName with
        | none => pure none
        | some n => (p.tagText n).map some
      match place.opening (← p.peek), depth with
      | .scalar plain s, _ => p.drop.add name ⟨scalarTag plain s tag, .scalar s⟩
      | .nothing, _ =>
        if name.isSome ∨ tag.isSome then
          p.add name ⟨scalarTag true [] tag, .scalar []⟩
        else .error .malformed
      | _, 0 => .error .tooDeep
      | .flowSequence, depth + 1 =>
        let (number, p) ← p.drop.add name ⟨collectionTag .sequence tag, .sequence []⟩
        let (items, p) ← flowItems true depth fuel p
        return (number, p.complete number (.sequence items))
      | .blockSequence, depth + 1 =>
        let (number, p) ← p.drop.add name ⟨collectionTag .sequence tag, .sequence []⟩
        let (items, p) ← blockItems depth fuel p
        return (number, p.complete number (.sequence items))
      | .looseSequence, depth + 1 =>
        let (number, p) ← p.add name ⟨collectionTag .sequence tag, .sequence []⟩
        let (items, p) ← looseItems depth fuel p
        return (number, p.complete number (.sequence items))
      | .flowMapping, depth + 1 =>
        let (number, p) ← p.drop.add name ⟨collectionTag .mapping tag, .mapping []⟩
        let (entries, p) ← flowEntries true depth fuel p
        return (number, p.complete number (.mapping entries))
      | .blockMapping, depth + 1 =>
        let (number, p) ← p.drop.add name ⟨collectionTag .mapping tag, .mapping []⟩
        let (entries, p) ← blockEntries depth fuel p
        return (number, p.complete number (.mapping entries))
termination_by structural fuel => fuel

/-- A node, unless one of the given tokens shows that it is left out. -/
def optional (place : Place) (ends : List Token) (depth : Nat) :
    Nat → Parse → Except Fault (Nat × Parse)
  | 0, _ => .error .malformed
  | fuel + 1, p => do
    if ← p.before ends then return p.addMissing else node place depth fuel p
termination_by structural fuel => fuel

/-- The elements of a sequence that is indented. -/
def blockItems (depth : Nat) : Nat → Parse → Except Fault (List Nat × Parse)
  | 0, _ => .error .malformed
  | fuel + 1, p => do
    match ← p.peek with
    | some .dash =>
      let (n, p) ← optional .block [.dash, .blockEnd] depth fuel p.drop
      let (ns, p) ← blockItems depth fuel p
      return (n :: ns, p)
    | some .blockEnd => return ([], p.drop)
    | _ => .error .malformed
termination_by structural fuel => fuel

/-- The elements of a sequence at the column of the key before it. -/
def looseItems (depth : Nat) : Nat → Parse → Except Fault (List Nat × Parse)
  | 0, _ => .error .malformed
  | fuel + 1, p => do
    match ← p.peek with
    | some .dash =>
      let (n, p) ←
        optional .block [.dash, .key, .value, .blockEnd] depth fuel p.drop
      let (ns, p) ← looseItems depth fuel p
      return (n :: ns, p)
    | _ => return ([], p)
termination_by structural fuel => fuel

/-- The entries of a mapping that is written line by line. -/
def blockEntries (depth : Nat) :
    Nat → Parse → Except Fault (List (Nat × Nat) × Parse)
  | 0, _ => .error .malformed
  | fuel + 1, p => do
    match ← p.peek with
    | some .key =>
      let (k, p) ← optional .entry [.key, .value, .blockEnd] depth fuel p.drop
      let (v, p) ← blockValue depth fuel p
      let (es, p) ← blockEntries depth fuel p
      return ((k, v) :: es, p)
    | some .blockEnd => return ([], p.drop)
    | _ => .error .malformed
termination_by structural fuel => fuel

/-- What follows a key in such a mapping. -/
def blockValue (depth : Nat) : Nat → Parse → Except Fault (Nat × Parse)
  | 0, _ => .error .malformed
  | fuel + 1, p => do
    match ← p.peek with
    | some .value => optional .entry [.key, .value, .blockEnd] depth fuel p.drop
    | _ => return p.addMissing
termination_by structural fuel => fuel

/-- The elements of a sequence in brackets. One that begins as a key is a
mapping of one entry. -/
def flowItems (first : Bool) (depth : Nat) :
    Nat → Parse → Except Fault (List Nat × Parse)
  | 0, _ => .error .malformed
  | fuel + 1, p => do
    let t? ← p.peek
    if t? = some .closeSequence then return ([], p.drop)
    else if !first && t? != some .comma then .error .malformed
    else
      let p := if first then p else p.drop
      match ← p.peek with
      | some .closeSequence => return ([], p.drop)
      | some .key =>
        match depth with
        | 0 => .error .tooDeep
        | below + 1 =>
          let (number, p) ← p.drop.add none ⟨.mapping, .mapping []⟩
          let (k, p) ←
            optional .flow [.value, .comma, .closeSequence] below fuel p
          let (v, p) ← flowValue .closeSequence below fuel p
          let (ns, p) ←
            flowItems false depth fuel (p.complete number (.mapping [(k, v)]))
          return (number :: ns, p)
      | _ =>
        let (n, p) ← node .flow depth fuel p
        let (ns, p) ← flowItems false depth fuel p
        return (n :: ns, p)
termination_by structural fuel => fuel

/-- The entries of a mapping in braces. -/
def flowEntries (first : Bool) (depth : Nat) :
    Nat → Parse → Except Fault (List (Nat × Nat) × Parse)
  | 0, _ => .error .malformed
  | fuel + 1, p => do
    let t? ← p.peek
    if t? = some .closeMapping then return ([], p.drop)
    else if !first && t? != some .comma then .error .malformed
    else
      let p := if first then p else p.drop
      match ← p.peek with
      | some .closeMapping => return ([], p.drop)
      | some .key =>
        let (k, p) ←
          optional .flow [.value, .comma, .closeMapping] depth fuel p.drop
        let (v, p) ← flowValue .closeMapping depth fuel p
        let (es, p) ← flowEntries false depth fuel p
        return ((k, v) :: es, p)
      | _ =>
        let (k, p) ← node .flow depth fuel p
        let (v, p) := p.addMissing
        let (es, p) ← flowEntries false depth fuel p
        return ((k, v) :: es, p)
termination_by structural fuel => fuel

/-- What follows a key in brackets or braces. -/
def flowValue (close : Token) (depth : Nat) :
    Nat → Parse → Except Fault (Nat × Parse)
  | 0, _ => .error .malformed
  | fuel + 1, p => do
    match ← p.peek with
    | some .value => optional .flow [.comma, close] depth fuel p.drop
    | _ => return p.addMissing
termination_by structural fuel => fuel

end

/-! ### Documents -/

/-- The directives before a document, at most `fuel` of them: the handles that
they add. -/
def directives (versionSeen : Bool) : Nat → Parse → Except Fault Parse
  | 0, _ => .error .malformed
  | fuel + 1, p => do
    match ← p.peek with
    | some (.directive (.version major _)) =>
      if versionSeen ∨ major ≠ 1 then .error .malformed
      else directives true fuel p.drop
    | some (.directive (.handle h s)) =>
      if (p.handles.lookup h).isSome then .error .malformed
      else
        directives versionSeen fuel { p.drop with handles := (h, s) :: p.handles }
    | some (.directive .other) => directives versionSeen fuel p.drop
    | _ => return p

/-- What comes before the nodes of a document with directives. -/
def start (fuel : Nat) (p : Parse) : Except Fault Parse := do
  let p ← directives false fuel { p with handles := [] }
  match ← p.peek with
  | some .documentStart =>
    return { p.drop with handles := p.handles ++ commonHandles }
  | _ => .error .malformed

/-- The root of the document that begins here. Without directives and without
a mark at its beginning it is not left out. -/
def document (fuel : Nat) (p : Parse) : Except Fault (Nat × Parse) := do
  match ← p.peek with
  | some (.directive _) | some .documentStart =>
    let p ← start fuel p
    match ← p.peek with
    | none | some (.directive _) | some .documentStart | some .documentEnd =>
      return p.addMissing
    | _ => node .block depthMax fuel p
  | _ => node .block depthMax fuel { p with handles := commonHandles }

/-- The end of a text after its document. A second one is refused, but its
beginning is read. -/
def finish (fuel : Nat) : Nat → Parse → Except Fault Unit
  | 0, _ => .error .malformed
  | n + 1, p => do
    match ← p.peek with
    | some .documentEnd => finish fuel n p.drop
    | none => return ()
    | _ =>
      let _ ← start fuel p
      .error .malformed

end Parse

/-- The graph that a text describes, and its root; nothing for a text without
a document. -/
def Graph.read? (s : Source) : Except Fault (Option (Nat × Graph)) := do
  let (ts, fault) := tokens s
  let p : Parse := ⟨ts, fault, [], [], #[]⟩
  match ← p.peek with
  | none => return none
  | _ =>
    let fuel := 8 * ts.length + 8
    let (root, p) ← Parse.document fuel p
    let _ ← Parse.finish fuel (ts.length + 1) p
    return some (root, p.nodes)

end TestScaffold.Yaml
