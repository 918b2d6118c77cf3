import TestScaffold.Text.Basic
import TestScaffold.Text.Digit

/-!
The words of a command line: which arguments are options, and which one.

* A `Switch` is an option that the program knows; `spellings` has its names.
  A long name may be cut short as long as it is the only one that begins so.
* A `Word` is what one argument is taken for. A text may be attached to an
  option: after an equals sign, or right after the letter of a short name,
  where it may again begin with an equals sign.
* What looks like a negative number, or holds a space, is no unknown option;
  two dashes make everything after them plain (`words`).
* There are two ways of reading what is attached to an option, a `Dialect` for
  each.
-/

namespace TestScaffold.CommandLine

/-- How a text that is attached to an option is read. -/
inductive Dialect
  /-- Two dashes are no value, and letters may come after an equals sign. -/
  | early
  /-- A value may be anything, but nothing has a value that takes none. -/
  | late
  deriving DecidableEq, Repr

/-- The options of the program. -/
inductive Switch
  | help
  | config
  | dryRun
  | logDir
  | verbose
  deriving DecidableEq, Repr

/-- All names of options. -/
def spellings : List (Text × Switch) :=
  [("-h".toText, .help), ("--help".toText, .help),
    ("--config".toText, .config), ("--dry-run".toText, .dryRun),
    ("--log-dir".toText, .logDir), ("-v".toText, .verbose),
    ("--verbose".toText, .verbose)]

namespace Switch

/-- Whether an option has a value. -/
def takesValue : Switch → Bool
  | .config | .logDir => true
  | _ => false

/-- All names of an option. -/
def title (o : Switch) : Text :=
  Text.join [char '/'] ((spellings.filter (·.2 = o)).map (·.1))

/-- The option of a letter. -/
def ofLetter? (c : CodePoint) : Option Switch := spellings.lookup [char '-', c]

end Switch

/-- Why a command line is refused. -/
inductive UsageFault
  | ambiguous (word : Text) (names : List Text)
  | noValue (o : Switch)
  | ignoredValue (o : Switch) (value : Text)
  | missing (names : List Text)
  | unrecognized (words : List Text)
  deriving DecidableEq, Repr

/-- A text that is attached to the name of an option. -/
structure Attached where
  /-- The name is a dash and a letter. -/
  short : Bool
  /-- There is an equals sign between the name and the text. -/
  sign : Bool
  text : Text
  deriving DecidableEq, Repr

/-- What an argument is taken for. -/
inductive Word
  | plain (s : Text)
  | option (o : Switch) (attached : Option Attached)
  | unknown (s : Text)
  /-- The two dashes after which there are no options. -/
  | dashes
  deriving DecidableEq, Repr

/-- The argument that ends the options. -/
def twoDashes : Text := [char '-', char '-']

/-- Whether the name of an option is a letter. -/
def isShort (name : Text) : Bool := !Text.startsWith twoDashes name

namespace Word

/-- An argument cut at its first equals sign. -/
def assignment (s : Text) : Text × Option Text :=
  match Text.cut? [char '='] s with
  | some (name, value) => (name, some value)
  | none => (s, none)

/-- An argument with two dashes that is no name of an option: a beginning of
a name, perhaps with a text attached. -/
def ofLong? (s : Text) : Except UsageFault (Option Word) :=
  let (start, value) := assignment s
  match spellings.filter fun p => Text.startsWith start p.1 with
  | [] => .ok none
  | [(_, o)] => .ok (some (.option o (value.map (⟨false, true, ·⟩))))
  | several => .error (.ambiguous s (several.map (·.1)))

/-- An argument with one dash that is no name of an option: a letter with a
text attached. -/
def ofShort? : Text → Option Word
  | char '-' :: c :: value =>
    (Switch.ofLetter? c).map fun o => .option o (some ⟨true, false, value⟩)
  | _ => none

/-- An argument that begins with a dash and means no option. -/
def ofOther (s : Text) : Word :=
  if Text.looksNegative s ∨ char ' ' ∈ s then .plain s else .unknown s

/-- What an argument is taken for, as long as there may be options. -/
def ofText (s : Text) : Except UsageFault Word :=
  if s.head? ≠ some (char '-') then .ok (.plain s)
  else
    match spellings.lookup s with
    | some o => .ok (.option o none)
    | none =>
      if s = [char '-'] then .ok (.plain s)
      else
        match assignment s with
        | (name, some value) =>
          match spellings.lookup name with
          | some o => .ok (.option o (some ⟨isShort name, true, value⟩))
          | none => abbreviated s
        | _ => abbreviated s
where
  /-- An argument that begins with the name of no option. -/
  abbreviated (s : Text) : Except UsageFault Word :=
    if isShort s then .ok ((ofShort? s).getD (ofOther s))
    else do return (← ofLong? s).getD (ofOther s)

end Word

/-- What the arguments are taken for. -/
def words : List Text → Except UsageFault (List Word)
  | [] => .ok []
  | s :: rest =>
    if s = twoDashes then .ok (.dashes :: rest.map .plain)
    else do return (← Word.ofText s) :: (← words rest)

end TestScaffold.CommandLine
