import TestScaffold.Disk.Canonical
import TestScaffold.Yaml.Fault

/-!
How a run may fail.

* A `ScaffoldError` is what the generator itself refuses: six kinds, each with
  its causes. `ScaffoldError.message` has the wording.
* A `Failure` is anything that ends an action without a result. Besides the
  errors above these are refused accesses, values that cannot be read or have
  no order, and the ways in which a run is told to stop.
-/

namespace TestScaffold

/-- What the generator refuses. -/
inductive ScaffoldError
  | noAnnotationName
  | noSourcePath
  | sourceMissing
  | sourceUnreadable (path : Text) (e : SystemError)
  | noModuleRoot
  | noSourceRoot (roots : List Text)
  | noBuildFile
  | moduleUnlistable (path : Text) (e : SystemError)
  | buildFileUnreadable (path : Text) (e : SystemError)
  | settingsUnreadable (path : Text) (e : SystemError)
  | settingsMalformed (path what : Text)
  | settingsNoMapping (path : Text)
  | settingsUnknownKeys (path : Text) (keys : List Text)
  | settingsNoList (path key : Text)
  | settingsNoText (path key : Text)
  | noTestDependencies
  | noFunctions
  | noTestDirectory
  | testUnwritable (path : Text) (e : SystemError)
  deriving DecidableEq, Repr

/-- The kinds of these errors. -/
inductive ErrorKind
  | usage
  | notFound
  | configuration
  | dependency
  | extraction
  | write
  deriving DecidableEq, Repr

def ErrorKind.name : ErrorKind → Text
  | .usage => "UsageError".toText
  | .notFound => "NotFoundError".toText
  | .configuration => "ConfigResolutionError".toText
  | .dependency => "DependencyError".toText
  | .extraction => "ExtractionError".toText
  | .write => "WriteError".toText

namespace ScaffoldError

def kind : ScaffoldError → ErrorKind
  | .noAnnotationName | .noSourcePath => .usage
  | .sourceMissing | .sourceUnreadable _ _ => .notFound
  | .noModuleRoot | .noSourceRoot _ | .noBuildFile | .moduleUnlistable _ _
  | .buildFileUnreadable _ _ | .settingsUnreadable _ _ | .settingsMalformed _ _
  | .settingsNoMapping _ | .settingsUnknownKeys _ _ | .settingsNoList _ _ | .settingsNoText _ _ =>
    .configuration
  | .noTestDependencies => .dependency
  | .noFunctions => .extraction
  | .noTestDirectory | .testUnwritable _ _ => .write

/-- A file that an access was refused to. -/
def accessText (what path : Text) (e : SystemError) : Text :=
  "Cannot ".toText ++ what ++ [char ' '] ++ path ++ ": ".toText ++ e.message

def message : ScaffoldError → Text
  | .noAnnotationName => "Invalid annotation name".toText
  | .noSourcePath => "Invalid path".toText
  | .sourceMissing => "The specified file does not exist.".toText
  | .sourceUnreadable p e => accessText "read source file".toText p e
  | .noModuleRoot => "file path should contain /src".toText
  | .noSourceRoot roots =>
    "file path should contain ".toText ++ Text.join " or ".toText roots
  | .noBuildFile => "Cannot determine gradle file of the provided module".toText
  | .moduleUnlistable p e => accessText "list module root".toText p e
  | .buildFileUnreadable p e => accessText "read build file".toText p e
  | .settingsUnreadable p e => accessText "read config file".toText p e
  | .settingsMalformed p what =>
    "Invalid YAML in config file ".toText ++ p ++ ": ".toText ++ what
  | .settingsNoMapping p =>
    "Config file ".toText ++ p ++ " must contain a mapping".toText
  | .settingsUnknownKeys p keys =>
    "Unknown config keys in ".toText ++ p ++ ": ".toText ++
      Text.join ", ".toText keys
  | .settingsNoList p key =>
    key ++ " in ".toText ++ p ++ " must be a non-empty list of strings".toText
  | .settingsNoText p key =>
    key ++ " in ".toText ++ p ++ " must be a non-empty string".toText
  | .noTestDependencies =>
    "Required dependencies for unit testing are not added.".toText
  | .noFunctions => "No function found to generate unit tests".toText
  | .noTestDirectory => "Cannot create test file".toText
  | .testUnwritable p e => accessText "write test file".toText p e

end ScaffoldError

/-- With what a run ends: an exit status, or another value that it was given
instead of one. -/
inductive Status
  | number (n : Int)
  | flag (b : Bool)
  /-- Any value that is neither a number nor absent, as it is written. -/
  | text (s : Text)
  | absent
  deriving DecidableEq, Repr

def Status.message : Status → Text
  | .number n => Text.ofInt n
  | .flag true => "True".toText
  | .flag false => "False".toText
  | .text s => s
  | .absent => "None".toText

/-- Why two keys of a mapping have no order. -/
inductive KeyConflict
  /-- Their types, the one first that stands on the left. -/
  | types (left right : Text)
  | dayAndTime
  /-- Only one of two times has an offset from universal time. -/
  | offsets
  deriving DecidableEq, Repr

def KeyConflict.message : KeyConflict → Text
  | .types a b =>
    "'<' not supported between instances of '".toText ++ a ++
      "' and '".toText ++ b ++ [char '\x27']
  | .dayAndTime => "can't compare datetime.datetime to datetime.date".toText
  | .offsets =>
    "can't compare offset-naive and offset-aware datetimes".toText

/-- Anything that ends an action without a result. -/
inductive Failure
  | scaffold (e : ScaffoldError)
  | system (e : SystemError)
  /-- A text was given for a path and is none. -/
  | notPath (text : Text)
  /-- A text was to be written that the encoding of its place does not have. -/
  | unencodable (message : Text)
  /-- A path asks for too many directories at once. -/
  | tooDeep
  /-- So does the path of a log. -/
  | logTooDeep
  /-- A number has too many digits to be written. -/
  | numberTooLong
  /-- A text was to be split at every occurrence of the empty text. -/
  | emptySeparator
  | linkLoop (path : Text)
  /-- A file has no value, and not because it is malformed. -/
  | unreadableValue (kind message : Text)
  /-- Keys that are no texts were to be listed; the first one's type. -/
  | keyNotText (type : Text)
  /-- Keys were to be put into an order. -/
  | keysUnordered (c : KeyConflict)
  /-- A failure of a body that the library knows nothing about. -/
  | foreign (kind message : Text)
  | exit (status : Status)
  | interrupted (message : Text)
  /-- Another way of being told to stop that the library knows nothing about. -/
  | halted (kind message : Text)
  deriving DecidableEq, Repr

namespace Failure

def kind : Failure → Text
  | .scaffold e => e.kind.name
  | .system e => e.errno.kind
  | .notPath t =>
    if (Text.pathRefusal? t).isSome then "UnicodeEncodeError".toText
    else "ValueError".toText
  | .unencodable _ => "UnicodeEncodeError".toText
  | .emptySeparator | .numberTooLong => "ValueError".toText
  | .tooDeep | .logTooDeep => "RecursionError".toText
  | .linkLoop _ => "RuntimeError".toText
  | .unreadableValue k _ => k
  | .keyNotText _ | .keysUnordered _ => "TypeError".toText
  | .foreign k _ => k
  | .exit _ => "SystemExit".toText
  | .interrupted _ => "KeyboardInterrupt".toText
  | .halted k _ => k

def message : Failure → Text
  | .scaffold e => e.message
  | .system e => e.message
  | .notPath t => (Text.pathRefusal? t).getD "embedded null byte".toText
  | .unencodable m => m
  | .tooDeep => "maximum recursion depth exceeded".toText
  | .logTooDeep =>
    "maximum recursion depth exceeded while calling a Python object".toText
  | .numberTooLong =>
    "Exceeds the limit (4300 digits) for integer string conversion; ".toText ++
      "use sys.set_int_max_str_digits() to increase the limit".toText
  | .emptySeparator => "empty separator".toText
  | .linkLoop p => "Symlink loop from ".toText ++ Text.quote p
  | .unreadableValue _ m => m
  | .keyNotText t =>
    "sequence item 0: expected str instance, ".toText ++ t ++ " found".toText
  | .keysUnordered c => c.message
  | .foreign _ m => m
  | .exit s => s.message
  | .interrupted m => m
  | .halted _ m => m

/-- Whether something went wrong, as opposed to a run that was told to stop. -/
def isError : Failure → Bool
  | .exit _ | .interrupted _ | .halted _ _ => false
  | _ => true

/-- A refused access as a failure. -/
def ofAccess : AccessError → Failure
  | .notPath t => .notPath t
  | .tooDeep => .tooDeep
  | .system e => .system e

/-- Directories for a log that cannot be made, as a failure. -/
def ofMaking : AccessError → Failure
  | .tooDeep => .logTooDeep
  | e => .ofAccess e

/-- A path without a location as a failure. -/
def ofResolve : ResolveError → Failure
  | .notPath t => .notPath t
  | .loop p => .linkLoop p

end Failure

end TestScaffold
