import TestScaffold.Text.Numeral

/-!
Texts as octets in UTF-8.

Decoding reads octet by octet; between two characters nothing is pending, and
within a character the state is an `Unfinished` sequence, which knows how many
octets it lacks and which ones may come next. An octet that may not come next
ends the sequence, which is then an ill-formed one, and is read again as a
beginning. So each ill-formed sequence is as long as it can be while it is
still the beginning of a character.

* `encode` writes; `decodeLossy` reads every list of octets and puts one
  replacement character for each ill-formed sequence;
* `decode` refuses the first ill-formed sequence with a `Fault`.
-/

namespace TestScaffold.Utf8

/-- The octets of a code point. A half that stands for an octet which belongs
to no character gives this octet back; any other has the three octets that its
number asks for. -/
def encodePoint : CodePoint → List UInt8
  | char c => String.utf8EncodeChar c
  | .half n =>
    if CodePoint.isStray (.half n) then [UInt8.ofNat (n - 0x400)]
    else [0xED, UInt8.ofNat (0xA0 + n / 64), UInt8.ofNat (0x80 + n % 64)]

/-- Each code point has at least one octet, also one that is only a half. -/
theorem encodePoint_ne_nil (p : CodePoint) : encodePoint p ≠ [] := by
  cases p with
  | char c => exact String.utf8EncodeChar_ne_nil
  | half n =>
    rw [encodePoint]
    split <;> exact List.cons_ne_nil _ _

/-- The octets of a text. -/
def encode (s : Text) : List UInt8 := s.flatMap encodePoint

/-- The character put for an ill-formed sequence. -/
def replacement : CodePoint := char '\uFFFD'

/-- The beginning of a character whose other octets are still to come. -/
structure Unfinished where
  /-- The first octet. -/
  lead : UInt8
  /-- How many octets have been read. -/
  taken : Nat
  /-- How many octets come after the next one. -/
  after : Nat
  /-- The least next octet. -/
  lo : UInt8
  /-- The greatest next octet. -/
  hi : UInt8
  /-- The bits of the code point read so far. -/
  bits : Nat
  deriving DecidableEq, Repr

/-- What an octet is at the beginning of a character. -/
inductive Lead
  | whole (c : Char)
  | opens (u : Unfinished)
  | wrong

/-- The role of an octet where a character begins. The bounds on the second
octet leave out the overlong forms, the surrogates and what is beyond the last
code point. -/
def Lead.ofOctet (b : UInt8) : Lead :=
  let n := b.toNat
  if n < 0x80 then .whole (Char.ofNat n)
  else if n < 0xC2 then .wrong
  else if n < 0xE0 then .opens ⟨b, 1, 0, 0x80, 0xBF, n - 0xC0⟩
  else if n < 0xF0 then
    .opens ⟨b, 1, 1, if n = 0xE0 then 0xA0 else 0x80,
      if n = 0xED then 0x9F else 0xBF, n - 0xE0⟩
  else if n < 0xF5 then
    .opens ⟨b, 1, 2, if n = 0xF0 then 0x90 else 0x80,
      if n = 0xF4 then 0x8F else 0xBF, n - 0xF0⟩
  else .wrong

/-- Whether the octet may come next. -/
def Unfinished.accepts (u : Unfinished) (b : UInt8) : Bool :=
  u.lo ≤ b && b ≤ u.hi

/-- The code point read so far, with the six bits of one more octet. -/
def Unfinished.bitsWith (u : Unfinished) (b : UInt8) : Nat :=
  u.bits * 64 + (b.toNat - 0x80)

/-- The sequence with one more octet, when it still lacks others. -/
def Unfinished.extend (u : Unfinished) (b : UInt8) : Unfinished :=
  { u with
    taken := u.taken + 1
    after := u.after - 1
    lo := 0x80
    hi := 0xBF
    bits := u.bitsWith b }

/-! ### Reading with replacement -/

/-- One octet between two characters: the characters that it completes and
what it leaves pending. -/
def beginLossy (b : UInt8) : Text × Option Unfinished :=
  match Lead.ofOctet b with
  | .whole c => ([char c], none)
  | .opens u => ([], some u)
  | .wrong => ([replacement], none)

/-- One octet in any state. -/
def feedLossy : Option Unfinished → UInt8 → Text × Option Unfinished
  | none, b => beginLossy b
  | some u, b =>
    if u.accepts b then
      if u.after = 0 then ([char (Char.ofNat (u.bitsWith b))], none)
      else ([], some (u.extend b))
    else (replacement :: (beginLossy b).1, (beginLossy b).2)

/-- The characters of the octets that follow a pending sequence. -/
def decodeLossyFrom : Option Unfinished → List UInt8 → Text
  | none, [] => []
  | some _, [] => [replacement]
  | u?, b :: bs => (feedLossy u? b).1 ++ decodeLossyFrom (feedLossy u? b).2 bs

/-- The text of any octets, with one replacement character for each
ill-formed sequence. -/
def decodeLossy (bs : List UInt8) : Text := decodeLossyFrom none bs

/-! ### Strict reading -/

/-- Why a sequence of octets is ill-formed. -/
inductive Flaw
  | start
  | continuation
  | ending
  deriving DecidableEq, Repr

/-- An ill-formed sequence: its place, its length and its first octet. -/
structure Fault where
  flaw : Flaw
  position : Nat
  length : Nat
  octet : UInt8
  deriving DecidableEq, Repr

def Flaw.message : Flaw → Text
  | .start => "invalid start byte".toText
  | .continuation => "invalid continuation byte".toText
  | .ending => "unexpected end of data".toText

/-- The wording: a sequence of one octet is named by it, a longer one by the
positions of its first and last octet. -/
def Fault.message (f : Fault) : Text :=
  "'utf-8' codec can't decode byte".toText ++
    (if f.length = 1 then
      " 0x".toText ++ Text.hex 2 f.octet.toNat ++ " in position ".toText ++
        Text.ofNat f.position
    else
      "s in position ".toText ++ Text.ofNat f.position ++ [char '-'] ++
        Text.ofNat (f.position + f.length - 1)) ++
    ": ".toText ++ f.flaw.message

/-- One octet between two characters, at the given position. -/
def begin (position : Nat) (b : UInt8) :
    Except Fault (Text × Option Unfinished) :=
  match Lead.ofOctet b with
  | .whole c => .ok ([char c], none)
  | .opens u => .ok ([], some u)
  | .wrong => .error ⟨.start, position, 1, b⟩

/-- One octet in any state. -/
def feed (position : Nat) :
    Option Unfinished → UInt8 → Except Fault (Text × Option Unfinished)
  | none, b => begin position b
  | some u, b =>
    if u.accepts b then
      if u.after = 0 then .ok ([char (Char.ofNat (u.bitsWith b))], none)
      else .ok ([], some (u.extend b))
    else .error ⟨.continuation, position - u.taken, u.taken, u.lead⟩

/-- The characters of the octets that follow a pending sequence, and the
sequence that is pending after them. -/
def decodeFrom (position : Nat) :
    Option Unfinished → List UInt8 → Except Fault (Text × Option Unfinished)
  | u?, [] => .ok ([], u?)
  | u?, b :: bs =>
    match feed position u? b with
    | .error f => .error f
    | .ok (out, u?) =>
      match decodeFrom (position + 1) u? bs with
      | .error f => .error f
      | .ok (s, u?) => .ok (out ++ s, u?)

/-- The fault of a sequence that the end cuts off. It is all that is left to
look at when the end is met, so it is placed at zero. -/
def Unfinished.fault (u : Unfinished) : Fault := ⟨.ending, 0, u.taken, u.lead⟩

/-- The text of well-formed octets. -/
def decode (bs : List UInt8) : Except Fault Text :=
  match decodeFrom 0 none bs with
  | .error f => .error f
  | .ok (s, none) => .ok s
  | .ok (_, some u) => .error u.fault

end TestScaffold.Utf8
