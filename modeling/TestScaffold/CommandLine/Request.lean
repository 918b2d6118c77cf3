import TestScaffold.CommandLine.Word

/-!
What a command line asks for.

The words are read from left to right. An option takes its value from what is
attached to it or from the next plain word; the first two plain words that are
no values are the annotation and the source file. A request for help ends the
reading at once. At the end nothing must be missing, and nothing left over.

* `flagsOf` reads the letters after a short name as further options, with what
  is left over;
* `Request.read` reads the words, and `Request.parse` a whole command line.
-/

namespace TestScaffold.CommandLine

/-- The arguments of a run. -/
structure Arguments where
  annotationName : Text
  path : Text
  config : Option Text
  dryRun : Bool
  logDir : Option Text
  verbose : Bool
  deriving DecidableEq, Repr

/-- What a command line asks for. -/
inductive Request
  | help
  | run (a : Arguments)
  deriving DecidableEq, Repr

/-- What has been read of a command line. -/
structure Reading where
  /-- The annotation and the path, as far as they have been read. -/
  positional : List Text
  config : Option Text
  dryRun : Bool
  logDir : Option Text
  verbose : Bool
  /-- Words that nothing asks for. -/
  extra : List Text
  deriving DecidableEq, Repr

/-- The names of the arguments that must be given. -/
def positionalNames : List Text :=
  ["annotation_name".toText, "source_path".toText]

namespace Reading

/-- Nothing has been read. -/
def start : Reading := ⟨[], none, false, none, false, []⟩

/-- The reading with one more word that nothing asks for. -/
def addExtra (r : Reading) (s : Text) : Reading :=
  { r with extra := r.extra ++ [s] }

/-- Whether a plain word is still asked for. -/
def isOpen (r : Reading) : Bool := r.positional.length < positionalNames.length

/-- The reading with one more plain word. -/
def addPlain (r : Reading) (s : Text) : Reading :=
  if r.isOpen then { r with positional := r.positional ++ [s] } else r.addExtra s

/-- The reading with an option, or nothing if help is asked for. -/
def addFlag (r : Reading) : Switch → Option Reading
  | .help => none
  | .dryRun => some { r with dryRun := true }
  | .verbose => some { r with verbose := true }
  | _ => some r

/-- The reading with the value of an option, the last one of which counts. -/
def addValue (r : Reading) (o : Switch) (value : Text) : Reading :=
  match o with
  | .config => { r with config := some value }
  | .logDir => { r with logDir := some value }
  | _ => r

/-- The request, if the reading is complete. -/
def finish (r : Reading) : Except UsageFault Request :=
  match r.positional with
  | name :: path :: _ =>
    if r.extra = [] then
      .ok (.run ⟨name, path, r.config, r.dryRun, r.logDir, r.verbose⟩)
    else .error (.unrecognized r.extra)
  | few => .error (.missing (positionalNames.drop few.length))

end Reading

/-- The options that one word stands for, and what is left of it. -/
structure Flags where
  switches : List Switch
  extra : Option Text
  deriving DecidableEq, Repr

/-- One more option before the others. -/
def Flags.cons (o : Switch) (f : Flags) : Flags := { f with switches := o :: f.switches }

/-- The options that a short option without a value has attached to it: every
letter must be another one. -/
def letters (o : Switch) : Text → Except UsageFault Flags
  | [] => .error (.ignoredValue o [])
  | c :: s =>
    match Switch.ofLetter? c with
    | none => .error (.ignoredValue o (c :: s))
    | some next =>
      if s = [] then .ok ⟨[o, next], none⟩ else (letters next s).map (.cons o)

/-- The same, where the letters end with the first one that is no option, and
where an equals sign, before or among them, begins a value. -/
def lettersBefore (o : Switch) (sign : Bool) : Text → Except UsageFault Flags
  | [] => .error (.ignoredValue o [])
  | c :: s =>
    if sign ∨ c = char '-' then .error (.ignoredValue o (c :: s))
    else
      match Switch.ofLetter? c, s with
      | none, _ => .ok ⟨[o], some (char '-' :: c :: s)⟩
      | some next, [] => .ok ⟨[o, next], none⟩
      | some next, char '=' :: value => .error (.ignoredValue next value)
      | some next, s => (lettersBefore next false s).map (.cons o)

/-- The options that one word stands for. -/
def flagsOf (dialect : Dialect) (o : Switch) :
    Option Attached → Except UsageFault Flags
  | none => .ok ⟨[o], none⟩
  | some a =>
    if a.short then
      match dialect with
      | .early => letters o a.text
      | .late => lettersBefore o a.sign a.text
    else .error (.ignoredValue o a.text)

namespace Request

/-- A value as it is read. Two dashes are dropped once, be it before the value
or the value itself. -/
def plainValue (afterDashes : Bool) (s : Text) : Text :=
  if s = twoDashes ∧ !afterDashes then [] else s

/-- A value that is attached to an option, as it is read. -/
def attachedValue (dialect : Dialect) (s : Text) : Text :=
  match dialect with
  | .early => plainValue false s
  | .late => s

/-- The request in the remaining words. -/
def read (dialect : Dialect) (r : Reading) : List Word → Except UsageFault Request
  | [] => r.finish
  | .unknown s :: rest => read dialect (r.addExtra s) rest
  | .plain s :: .dashes :: rest =>
    if r.isOpen then read dialect (r.addPlain (plainValue false s)) rest
    else read dialect ((r.addExtra s).addExtra twoDashes) rest
  | .plain s :: rest =>
    if r.isOpen then read dialect (r.addPlain (plainValue false s)) rest
    else read dialect (r.addExtra s) rest
  | .dashes :: .plain s :: rest =>
    if r.isOpen then read dialect (r.addPlain (plainValue true s)) rest
    else read dialect ((r.addExtra twoDashes).addExtra s) rest
  | .dashes :: rest => read dialect (r.addExtra twoDashes) rest
  | .option o attached :: rest =>
    if o.takesValue then
      match attached, rest with
      | some a, rest =>
        read dialect (r.addValue o (attachedValue dialect a.text)) rest
      | none, .plain s :: rest => read dialect (r.addValue o s) rest
      | none, _ => .error (.noValue o)
    else
      match flagsOf dialect o attached with
      | .error e => .error e
      | .ok flags =>
        match flags.switches.foldlM Reading.addFlag r with
        | none => .ok .help
        | some r => read dialect (flags.extra.toList.foldl .addExtra r) rest

/-- The request of a command line. -/
def parse (dialect : Dialect) (args : List Text) : Except UsageFault Request := do
  read dialect .start (← words args)

end Request

end TestScaffold.CommandLine
