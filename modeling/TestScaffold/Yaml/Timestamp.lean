import TestScaffold.Yaml.Fault
import TestScaffold.Text.Numeral

/-!
Dates and times of day in a YAML text: `2024-01-31`, and with a time
`2024-1-31T8:05:00.5 -3:30`.

* `Timestamp.read?` reads the form; `isPlain` says which of them are taken
  for a timestamp without a tag;
* `Timestamp.check` says whether there is such a day, time and offset.
-/

namespace TestScaffold.Yaml

/-- A time of day: with the digits of the fraction of a second, and the
distance from universal time in minutes, if it is given. -/
structure DayTime where
  hour : Nat
  minute : Nat
  second : Nat
  fraction : Text
  offset : Option Int
  deriving DecidableEq, Repr

/-- A day, perhaps with a time of day. -/
structure Timestamp where
  year : Nat
  month : Nat
  day : Nat
  time : Option DayTime
  deriving DecidableEq, Repr

namespace Timestamp

def isDigit (c : CodePoint) : Bool := char '0' ≤ c && c ≤ char '9'

/-- As many digits as there are, from `least` to `most`. -/
def digits? (least most : Nat) (s : Text) : Option (Text × Text) :=
  let ds := (s.take most).takeWhile isDigit
  if ds.length < least then none else some (ds, s.drop ds.length)

def isGap (c : CodePoint) : Bool := c == char ' ' || c == char '\t'

/-- The distance from universal time at the end of a timestamp. -/
def offset? (s : Text) : Option (Option Int) := do
  match s.dropWhile isGap with
  | [] => if s = [] then some none else none
  | [char 'Z'] => some (some 0)
  | sign :: rest =>
    if sign ≠ char '+' ∧ sign ≠ char '-' then none
    else
      let (h, rest) ← digits? 1 2 rest
      let m ← match rest with
        | [] => some []
        | char ':' :: rest => do
          let (m, rest) ← digits? 2 2 rest
          if rest = [] then some m else none
        | _ => none
      let minutes : Int := Text.value 10 h * 60 + Text.value 10 m
      some (some (if sign = char '-' then -minutes else minutes))

/-- The time of day that ends a timestamp. -/
def time? (s : Text) : Option DayTime := do
  let (h, s) ← digits? 1 2 s
  let s ← Text.dropPrefix? [char ':'] s
  let (m, s) ← digits? 2 2 s
  let s ← Text.dropPrefix? [char ':'] s
  let (sec, s) ← digits? 2 2 s
  let (fraction, s) := match s with
    | char '.' :: s => (s.takeWhile isDigit, s.dropWhile isDigit)
    | _ => ([], s)
  let offset ← offset? s
  return ⟨Text.value 10 h, Text.value 10 m, Text.value 10 sec, fraction, offset⟩

/-- The timestamp that a text describes, and whether its month and its day
have two digits each. -/
def readForm? (s : Text) : Option (Timestamp × Bool) := do
  let (y, s) ← digits? 4 4 s
  let s ← Text.dropPrefix? [char '-'] s
  let (m, s) ← digits? 1 2 s
  let s ← Text.dropPrefix? [char '-'] s
  let (d, s) ← digits? 1 2 s
  let stamp (time : Option DayTime) : Timestamp × Bool :=
    (⟨Text.value 10 y, Text.value 10 m, Text.value 10 d, time⟩,
      m.length = 2 ∧ d.length = 2)
  match s with
  | [] => return stamp none
  | c :: rest =>
    if c = char 'T' ∨ c = char 't' then return stamp (some (← time? rest))
    else if isGap c then return stamp (some (← time? (rest.dropWhile isGap)))
    else none

def read? (s : Text) : Option Timestamp := (readForm? s).map (·.1)

/-- Whether a text is taken for a timestamp: a day alone needs two digits for
its month and its day. -/
def isPlain (s : Text) : Bool :=
  match readForm? s with
  | some (t, twoDigits) => t.time.isSome || twoDigits
  | none => false

/-! ### The calendar -/

def isLeap (year : Nat) : Bool :=
  year % 4 == 0 && (year % 100 != 0 || year % 400 == 0)

def daysIn (year month : Nat) : Nat :=
  if month = 2 then if isLeap year then 29 else 28
  else if month = 4 ∨ month = 6 ∨ month = 9 ∨ month = 11 then 30
  else 31

/-- The first thing about a timestamp that there is not. -/
def check (t : Timestamp) : Except Fault Timestamp :=
  let offset := (t.time.bind (·.offset)).getD 0
  if offset ≤ -1440 ∨ 1440 ≤ offset then .error (.offsetOutOfRange offset)
  else if t.year = 0 then .error (.yearOutOfRange t.year)
  else if t.month = 0 ∨ 12 < t.month then .error .monthOutOfRange
  else if t.day = 0 ∨ daysIn t.year t.month < t.day then .error .dayOutOfRange
  else
    match t.time with
    | none => .ok t
    | some time =>
      if 23 < time.hour then .error .hourOutOfRange
      else if 59 < time.minute then .error .minuteOutOfRange
      else if 59 < time.second then .error .secondOutOfRange
      else .ok t

end Timestamp

end TestScaffold.Yaml
