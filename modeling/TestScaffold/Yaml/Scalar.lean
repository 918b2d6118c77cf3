import TestScaffold.Yaml.Base64
import TestScaffold.Yaml.Tag

/-!
The values of scalars: nothing, truth values, numbers, texts, octets and
timestamps.

`Scalar.read` reads a text under a tag. As keys of a mapping two scalars are
the same if they are equal as numbers, or else as values (`Scalar.isSame`).
-/

namespace TestScaffold.Yaml

/-- A value without parts. -/
inductive Scalar
  | null
  | bool (b : Bool)
  | int (n : Int)
  | float (d : Double)
  | text (ps : Text)
  | octets (bs : List UInt8)
  | timestamp (t : Timestamp)
  deriving DecidableEq, Repr

namespace Scalar

/-- The words for the truth values. -/
def truthWords : List (Text × Bool) :=
  [("yes".toText, true), ("true".toText, true), ("on".toText, true),
    ("no".toText, false), ("false".toText, false), ("off".toText, false)]

/-- The truth value of a word of any case. -/
def readTruth (ps : Text) : Except Fault Bool :=
  let low := Text.lower ps
  match truthWords.lookup low with
  | some b => .ok b
  | none => .error (.notTruth low)

/-- The octets of a text of base 64. -/
def readOctets (ps : Text) : Except Fault (List UInt8) :=
  match if ps.all (·.toNat < 0x80) then Base64.decode ps else none with
  | some bs => .ok bs
  | none => .error .malformed

def readTimestamp (ps : Text) : Except Fault Timestamp :=
  match Timestamp.read? (dropLineFeed ps) with
  | none => .error .notTimestamp
  | some t => t.check

/-- The value of a text under a tag; a collection is not one. -/
def read (tag : Tag) (ps : Text) : Except Fault Scalar :=
  match tag with
  | .null => .ok .null
  | .bool => (readTruth ps).map .bool
  | .int => (readInteger ps).map .int
  | .float => (readDecimal ps).map .float
  | .text => .ok (.text ps)
  | .binary => (readOctets ps).map .octets
  | .timestamp => (readTimestamp ps).map .timestamp
  | _ => .error .malformed

/-- The exact value of a truth value or a number. -/
def number? : Scalar → Option Double
  | .bool b => some (.finite (if b then Double.one else 0))
  | .int n => some (.finite (n * Double.one))
  | .float d => some d
  | _ => none

/-- Whether two keys are the same. -/
def isSame (a b : Scalar) : Bool :=
  match a.number?, b.number? with
  | some m, some n => m = n
  | none, none => a = b
  | _, _ => false

end Scalar

end TestScaffold.Yaml
