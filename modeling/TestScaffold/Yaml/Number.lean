import TestScaffold.Double
import TestScaffold.Text.Blank
import TestScaffold.Text.Casing
import TestScaffold.Text.Digit
import TestScaffold.Yaml.Fault

/-!
Numbers in a YAML text: decimal, with underscores, in other bases, and in
groups of base sixty (`1:30` is ninety).

* `isInteger` and `isDecimal` say which plain scalars are taken for a number;
* `readInteger` and `readDecimal` give the number of these and of any other
  text that is tagged as one.
-/

namespace TestScaffold.Yaml

/-! ### Which plain scalars are numbers -/

def isDigit (c : CodePoint) : Bool := char '0' ≤ c && c ≤ char '9'

/-- One character or more, all with a property. -/
def isRun (p : CodePoint → Bool) (s : Text) : Bool := s ≠ [] && s.all p

/-- The text after a sign, if it begins with one. -/
def dropSign : Text → Text
  | char '+' :: s => s
  | char '-' :: s => s
  | s => s

/-- A group of digits below sixty. -/
def isSixtieth : Text → Bool
  | [a] => isDigit a
  | [a, b] => char '0' ≤ a && a ≤ char '5' && isDigit b
  | _ => false

/-- A digit, then digits and underscores. -/
def isDigits : Text → Bool
  | c :: s => isDigit c && s.all fun d => isDigit d || d == char '_'
  | [] => false

/-- The same, without a zero at the beginning. -/
def isCount (s : Text) : Bool := isDigits s && s.head? != some (char '0')

def isInteger (s : Text) : Bool :=
  let t := dropSign s
  match t with
  | char '0' :: char 'b' :: r => isRun (fun c => c == char '0' || c == char '1' || c == char '_') r
  | char '0' :: char 'x' :: r => isRun (fun c => (Text.hexValue? c).isSome || c == char '_') r
  | [char '0'] => true
  | char '0' :: r => isRun (fun c => (char '0' ≤ c && c ≤ char '7') || c == char '_') r
  | _ =>
    match Text.fields (char ':') t with
    | first :: rest => isCount first && rest.all isSixtieth
    | [] => false

/-- The exponent of a number, or nothing. -/
def isExponent : Text → Bool
  | [] => true
  | e :: sign :: ds =>
    (e == char 'e' || e == char 'E') && (sign == char '+' || sign == char '-') && isRun isDigit ds
  | _ => false

/-- Digits and underscores, and perhaps an exponent. -/
def isFraction (s : Text) : Bool :=
  isExponent (s.dropWhile fun c => isDigit c || c == char '_')

def isDecimal (s : Text) : Bool :=
  let t := dropSign s
  if [".inf".toText, ".Inf".toText, ".INF".toText].contains t then true
  else if [".nan".toText, ".NaN".toText, ".NAN".toText].contains s then true
  else
    match Text.cut? [char '.'] t with
    | none => false
    | some ([], after) => t = s && isDigits (after.take 1) && isFraction after
    | some (whole, after) =>
      match Text.fields (char ':') whole with
      | [_] => isDigits whole && isFraction after
      | first :: rest =>
        isDigits first && rest.all isSixtieth &&
          after.all fun c => isDigit c || c == char '_'
      | [] => false

/-! ### Reading -/

/-- The character of ASCII that a code point counts as; a question mark for
one that is neither a blank nor a digit. -/
def ascii (c : CodePoint) : CodePoint :=
  if c.toNat < 0x7F then c
  else if Text.isBlank c then char ' '
  else
    match Text.digit? c with
    | some d => char (Nat.digitChar d)
    | none => char '?'

/-- The characters that a number is read from: blanks and digits of all
scripts are put for those of ASCII. -/
def toAscii (s : Text) : Text := s.map ascii

/-- A letter of ASCII in lower case. -/
def toAsciiLower (c : CodePoint) : CodePoint :=
  if char 'A' ≤ c ∧ c ≤ char 'Z' then .ofNat (c.toNat + 32) else c

/-- The blanks that may stand around a number. -/
def isNumberBlank (c : CodePoint) : Bool :=
  c == char ' ' || c == char '\t' || c == char '\n' || c == char '\x0B' || c == char '\x0C' ||
    c == char '\r'

/-- The sign of a number and what follows it. -/
def takeSign : Text → Bool × Text
  | char '+' :: s => (false, s)
  | char '-' :: s => (true, s)
  | s => (false, s)

/-- The letter after a zero that announces a base. -/
def baseLetter (base : Nat) : Option CodePoint :=
  if base = 2 then some (char 'b') else if base = 8 then some (char 'o')
  else if base = 16 then some (char 'x') else none

/-- An integer of a base: blanks, a sign and the letter of the base may stand
before the digits, and blanks after them. Only of decimal digits there may be
too many. -/
def integerOf (base : Nat) (ps : Text) : Except Fault Int :=
  let (negative, t) := takeSign ((toAscii ps).dropWhile isNumberBlank)
  let t := match t with
    | char '0' :: c :: r => if baseLetter base = some (toAsciiLower c) then r else t
    | _ => t
  let isBaseDigit (c : CodePoint) : Bool := (Text.hexValue? c).any (· < base)
  let ds := t.takeWhile isBaseDigit
  if base = 10 ∧ digitMax < ds.length then .error (.integerTooLong ds.length)
  else if ds = [] ∨ !(t.dropWhile isBaseDigit).all isNumberBlank then
    .error (.notInteger base ps)
  else
    let n : Int := Text.value base ds
    .ok (if negative then -n else n)

/-- The integer of a text that is tagged as one. -/
def readInteger (ps : Text) : Except Fault Int :=
  let (negative, ps) := takeSign (ps.filter (· ≠ char '_'))
  let signed (n : Except Fault Int) : Except Fault Int :=
    n.map fun n => if negative then -n else n
  match ps with
  | [] => .error .emptyNumber
  | [char '0'] => .ok 0
  | char '0' :: char 'b' :: digits => signed (integerOf 2 digits)
  | char '0' :: char 'x' :: digits => signed (integerOf 16 digits)
  | char '0' :: _ => signed (integerOf 8 ps)
  | _ =>
    if char ':' ∈ ps then
      signed ((Text.fields (char ':') ps).foldlM
        (fun n g => (integerOf 10 g).map (n * 60 + ·)) 0)
    else signed (integerOf 10 ps)

/-- The number of a text in decimal notation, without a sign: digits, perhaps
with a point, and perhaps an exponent; or a word. -/
def unsignedOf? (t : Text) : Option Double :=
  if t = "inf".toText ∨ t = "infinity".toText then some (.infinite false)
  else if t = "nan".toText then some .undefined
  else
    let whole := t.takeWhile isDigit
    let t := t.dropWhile isDigit
    let (part, t) := match t with
      | char '.' :: t => (t.takeWhile isDigit, t.dropWhile isDigit)
      | _ => ([], t)
    let digits := whole ++ part
    let number (exponent : Int) : Double :=
      .ofDecimal (Text.value 10 digits) digits.length (exponent - part.length)
    if digits = [] then none
    else
      match t with
      | [] => some (number 0)
      | char 'e' :: t =>
        let (negative, ds) := takeSign t
        let exponent : Int := Text.value 10 ds
        if isRun isDigit ds then
          some (number (if negative then -exponent else exponent))
        else none
      | _ => none

/-- A number in decimal notation: blanks and a sign may stand before it, and
blanks after it. -/
def decimalOf (ps : Text) : Except Fault Double :=
  let t := (toAscii ps).dropWhile isNumberBlank
  let (negative, t) := takeSign (t.reverse.dropWhile isNumberBlank).reverse
  match unsignedOf? t with
  | none => .error (.notDecimal ps)
  | some d => .ok (if negative then d.negate else d)

/-- A sum with groups of base sixty, of which the last one comes first; the
next one counts `weight` times. -/
def sumGroups (weight : Nat) (sum : Double) : List Double → Except Fault Double
  | [] => .ok sum
  | d :: ds =>
    match Double.ofInt weight with
    | .finite steps => sumGroups (weight * 60) (sum.add (d.scale steps.toNat)) ds
    | _ => .error .groupTooGreat

/-- The number with a fraction of a text that is tagged as one. -/
def readDecimal (ps : Text) : Except Fault Double :=
  let ps := Text.lower (ps.filter (· ≠ char '_'))
  let (negative, t) := takeSign ps
  let signed (d : Double) : Double := if negative then d.negate else d
  if ps = [] then .error .emptyNumber
  else if t = ".inf".toText then .ok (signed (.infinite false))
  else if t = ".nan".toText then .ok .undefined
  else if char ':' ∈ t then do
    let ds ← (Text.fields (char ':') t).mapM decimalOf
    return signed (← sumGroups 1 (.finite 0) ds.reverse)
  else (decimalOf t).map signed

end TestScaffold.Yaml
