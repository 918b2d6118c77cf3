import TestScaffold.Error
import TestScaffold.Yaml.Value

/-!
The settings of the generator: what marks a test dependency in a build file,
and where source roots are.

A settings file is a mapping with at most the two keys `dependency_marker` and
`source_roots`; a key that is not there has its default.

* `Settings.ofEntries` accepts a mapping or names what is wrong with it: first
  the unknown keys, in order, then the source roots, then the marker.
* Keys need not be texts. Others are always unknown, but they cannot be listed,
  and those of different types have no order (`keyOrder`), numbers apart.
* `Settings.ofOctets` is for a whole file. What its octets stand for is up to a
  reader of YAML, of which nothing is supposed.
-/

namespace TestScaffold

/-- What the stages of a run look for. -/
structure Settings where
  dependencyMarker : Text
  sourceRoots : List Text
  deriving DecidableEq, Repr

namespace Settings

/-- The settings without a file. -/
def default : Settings :=
  ⟨"testImplementation".toText,
    ["src/main/kotlin".toText, "src/main/java".toText]⟩

def markerKey : Text := "dependency_marker".toText

def rootsKey : Text := "source_roots".toText

/-! ### Keys -/

/-- The name of the type of a key. -/
def typeName : Yaml.Scalar → Text
  | .null => "NoneType".toText
  | .bool _ => "bool".toText
  | .int _ => "int".toText
  | .float _ => "float".toText
  | .text _ => "str".toText
  | .octets _ => "bytes".toText
  | .timestamp t =>
    if t.time.isSome then "datetime.datetime".toText else "datetime.date".toText

/-- Whether a timestamp says how far it is from universal time. -/
def hasOffset (t : Yaml.Timestamp) : Bool :=
  t.time.any fun time => time.offset.isSome

/-- Whether a timestamp is before another one. Days and times of day have no
order among each other, nor have times with and without an offset. -/
def stampLt (s t : Yaml.Timestamp) : Except KeyConflict Bool :=
  if s.time.isSome ≠ t.time.isSome then .error .dayAndTime
  else if hasOffset s ≠ hasOffset t then .error .offsets
  else .ok ([s.year, s.month, s.day] < [t.year, t.month, t.day])

/-- Whether one key is before another, if they have an order. -/
def keyLt (a b : Yaml.Scalar) : Except KeyConflict Bool :=
  match a, b with
  | .text s, .text t => .ok (s.map (·.toNat) < t.map (·.toNat))
  | .octets s, .octets t => .ok (s.map (·.toNat) < t.map (·.toNat))
  | .timestamp s, .timestamp t => stampLt s t
  | a, b =>
    match a.number?, b.number? with
    | some m, some n => .ok (m.lt n)
    | _, _ => .error (.types (typeName a) (typeName b))

/-- A key put into an ordered list of keys, after those that are not after
it. -/
def insertKey (k : Yaml.Scalar) :
    List Yaml.Scalar → Except KeyConflict (List Yaml.Scalar)
  | [] => .ok [k]
  | a :: as =>
    match keyLt k a with
    | .error e => .error e
    | .ok true => .ok (k :: a :: as)
    | .ok false => (insertKey k as).map (a :: ·)

/-- The keys in order. -/
def keyOrder (keys : List Yaml.Scalar) : Except KeyConflict (List Yaml.Scalar) :=
  keys.foldlM (fun sorted k => insertKey k sorted) []

/-- The text of a key. -/
def keyText? : Yaml.Scalar → Option Text
  | .text s => some s
  | _ => none

/-- The key of a text. -/
def keyOf (s : Text) : Yaml.Scalar := .text s

/-- The error for keys that are unknown, if there are any. -/
def refuseUnknown (path : Text) (keys : List Yaml.Scalar) : Except Failure Unit := do
  let unknown := keys.filter fun k =>
    k ≠ keyOf rootsKey ∧ k ≠ keyOf markerKey
  let sorted ← (keyOrder unknown).mapError .keysUnordered
  match sorted with
  | [] => return ()
  | _ =>
    match sorted.find? fun k => (keyText? k).isNone with
    | some k => .error (.keyNotText (typeName k))
    | none =>
      .error (.scaffold (.settingsUnknownKeys path (sorted.filterMap keyText?)))

/-! ### Values -/

/-- A text that is not empty. -/
def filledText? : Yaml.Value → Option Text
  | .scalar (.text s) => if s = [] then none else some s
  | _ => none

/-- A list of texts that are not empty, which is not empty either. -/
def filledTexts? : Option Yaml.Collection → Option (List Text)
  | some (.seq []) => none
  | some (.seq items) => items.mapM filledText?
  | _ => none

/-- The settings in the entries of a mapping. -/
def ofEntries (path : Text) (d : Yaml.Document)
    (entries : List (Yaml.Scalar × Yaml.Value)) : Except Failure Settings := do
  refuseUnknown path (entries.map (·.1))
  let roots ← match entries.lookup (keyOf rootsKey) with
    | none => pure default.sourceRoots
    | some v =>
      match filledTexts? (d.parts v) with
      | some ts => pure ts
      | none => .error (.scaffold (.settingsNoList path rootsKey))
  let marker ← match entries.lookup (keyOf markerKey) with
    | none => pure default.dependencyMarker
    | some v =>
      match filledText? v with
      | some s => pure s
      | none => .error (.scaffold (.settingsNoText path markerKey))
  return ⟨marker, roots⟩

/-- The settings in the value of a file; an empty file has none. -/
def ofDocument (path : Text) (d : Yaml.Document) : Except Failure Settings :=
  match d.root, d.parts d.root with
  | .scalar .null, _ => .ok default
  | _, some (.map entries) => ofEntries path d entries
  | _, _ => .error (.scaffold (.settingsNoMapping path))

/-- The settings in the octets of a file. -/
def ofOctets (load : Yaml.Loader) (path : Text) (octets : List UInt8) :
    Except Failure Settings :=
  match load octets with
  | .error (.malformed what) => .error (.scaffold (.settingsMalformed path what))
  | .error (.other kind message) => .error (.unreadableValue kind message)
  | .ok d => ofDocument path d

end Settings

end TestScaffold
