import TestScaffold.Text.Quoted
import TestScaffold.Text.Utf8

/-!
What can be wrong with a YAML text.

Most texts that are refused are `malformed`: they follow no rule of the
grammar, or have a tag, an alias or a key that cannot be. The other causes are
scalars whose form announces a number, a truth value or a date that there is
none of; they are reported under the kind of the value.

The parts of a text that come after a fault are not looked at, so of several
faults the first one counts.

A `LoadFault` is what is left of that for a program that only distinguishes
texts that are malformed.
-/

namespace TestScaffold.Yaml

/-- The greatest number of decimal digits that are read as an integer. -/
def digitMax : Nat := 4300

/-- Why a YAML text has no value. -/
inductive Fault
  | malformed
  /-- Collections inside one another beyond all measure, or endlessly. -/
  | tooDeep
  /-- An escape for a code point beyond the last one. -/
  | noCodePoint (n : Nat)
  /-- Octets that are no text, met after a part of the text was read. -/
  | undecodable (f : Utf8.Fault)
  /-- A number without any digit or sign. -/
  | emptyNumber
  | notInteger (base : Nat) (text : Text)
  | integerTooLong (digits : Nat)
  | notDecimal (text : Text)
  /-- A group of a number of base sixty that counts for too much. -/
  | groupTooGreat
  | notTruth (text : Text)
  | notTimestamp
  /-- A mapping, with a main value, that is tagged as a timestamp. -/
  | timestampNotText
  | yearOutOfRange (year : Nat)
  | monthOutOfRange
  | dayOutOfRange
  | hourOutOfRange
  | minuteOutOfRange
  | secondOutOfRange
  /-- A distance from universal time of a day or more, in minutes. -/
  | offsetOutOfRange (minutes : Int)
  deriving DecidableEq, Repr

namespace Fault

def kind : Fault → Text
  | .malformed => "YAMLError".toText
  | .tooDeep => "RecursionError".toText
  | .noCodePoint n =>
    if n < 0x80000000 then "ValueError".toText else "OverflowError".toText
  | .undecodable _ => "UnicodeDecodeError".toText
  | .emptyNumber => "IndexError".toText
  | .groupTooGreat => "OverflowError".toText
  | .notTruth _ => "KeyError".toText
  | .notTimestamp => "AttributeError".toText
  | .timestampNotText => "TypeError".toText
  | _ => "ValueError".toText

/-- A span of time in days and seconds, each named where it is not zero. -/
def spanText (minutes : Int) : Text :=
  let days := Int.fdiv minutes 1440
  let seconds := Int.fmod minutes 1440 * 60
  let dayPart := if days = 0 then [] else ["days=".toText ++ Text.ofInt days]
  let secondPart :=
    if seconds = 0 then [] else ["seconds=".toText ++ Text.ofInt seconds]
  let parts := dayPart ++ secondPart
  "datetime.timedelta(".toText ++
    (if parts = [] then [char '0'] else Text.join [char ',', char ' '] parts) ++ [char ')']

/-- How much of a quoted text is shown where an integer is expected. -/
def shownMax : Nat := 200

def message : Fault → Text
  | .malformed => "<yaml error>".toText
  | .tooDeep => "maximum recursion depth exceeded".toText
  | .noCodePoint n =>
    if n < 0x80000000 then "chr() arg not in range(0x110000)".toText
    else "Python int too large to convert to C int".toText
  | .undecodable f => f.message
  | .emptyNumber => "string index out of range".toText
  | .notInteger base t =>
    "invalid literal for int() with base ".toText ++ Text.ofNat base ++
      ": ".toText ++ (Text.quote t).take shownMax
  | .integerTooLong n =>
    "Exceeds the limit (4300 digits) for integer string conversion: ".toText ++
      "value has ".toText ++ Text.ofNat n ++
      " digits; use sys.set_int_max_str_digits() to increase the limit".toText
  | .notDecimal t =>
    "could not convert string to float: ".toText ++ Text.quote t
  | .groupTooGreat => "int too large to convert to float".toText
  | .notTruth t => Text.quote t
  | .notTimestamp => "'NoneType' object has no attribute 'groupdict'".toText
  | .timestampNotText =>
    "expected string or bytes-like object, got 'list'".toText
  | .yearOutOfRange y =>
    "year ".toText ++ Text.ofNat y ++ " is out of range".toText
  | .monthOutOfRange => "month must be in 1..12".toText
  | .dayOutOfRange => "day is out of range for month".toText
  | .hourOutOfRange => "hour must be in 0..23".toText
  | .minuteOutOfRange => "minute must be in 0..59".toText
  | .secondOutOfRange => "second must be in 0..59".toText
  | .offsetOutOfRange m =>
    "offset must be a timedelta strictly between ".toText ++
      "-timedelta(hours=24) and timedelta(hours=24), not ".toText ++
      spanText m ++ [char '.']

end Fault

/-- Why a file has no value, as it is reported. -/
inductive LoadFault
  | malformed (what : Text)
  | other (kind message : Text)
  deriving DecidableEq, Repr

def Fault.report : Fault → LoadFault
  | .malformed => .malformed Fault.malformed.message
  | f => .other f.kind f.message

end TestScaffold.Yaml
