import TestScaffold.CommandLine.Request
import TestScaffold.Stub
import TestScaffold.Text.Quoted

/-!
What the command line says about itself: the usage, the help, and why a
command line is refused.
-/

namespace TestScaffold.CommandLine

/-- The name of the program. -/
def programName : Text := "generate_unit_tests.py".toText

/-- How the program is called. -/
def usage : Text :=
  unlines
    ["usage: generate_unit_tests.py [-h] [--config CONFIG] [--dry-run]".toText,
      "                              [--log-dir LOG_DIR] [-v]".toText,
      "                              annotation_name source_path".toText,
      []]

/-- What the program does and which arguments it takes. -/
def help : Text :=
  usage ++ unlines
    [[],
      "Generate JUnit test stubs for annotated Kotlin functions.".toText,
      [],
      "positional arguments:".toText,
      "  annotation_name    Annotation to look for, without the leading @".toText,
      "  source_path        Path to a source file under src/main/kotlin or".toText,
      "                     src/main/java".toText,
      [],
      "options:".toText,
      "  -h, --help         show this help message and exit".toText,
      "  --config CONFIG    YAML file overriding the dependency marker and source".toText,
      "                     roots".toText,
      "  --dry-run          Print the test file instead of writing it".toText,
      "  --log-dir LOG_DIR  Directory for the utgen audit log".toText,
      "  -v, --verbose      Log at DEBUG level".toText,
      []]

/-- The message about one option. -/
def aboutSwitch (o : Switch) (what : Text) : Text :=
  "argument ".toText ++ o.title ++ ": ".toText ++ what

def UsageFault.message : UsageFault → Text
  | .ambiguous s names =>
    "ambiguous option: ".toText ++ s ++ " could match ".toText ++
      Text.join ", ".toText names
  | .noValue o => aboutSwitch o "expected one argument".toText
  | .ignoredValue o value =>
    aboutSwitch o ("ignored explicit argument ".toText ++ Text.quote value)
  | .missing names =>
    "the following arguments are required: ".toText ++
      Text.join ", ".toText names
  | .unrecognized ws =>
    "unrecognized arguments: ".toText ++ Text.join [char ' '] ws

/-- What is written about a command line that is refused. -/
def refusal (f : UsageFault) : Text :=
  usage ++ programName ++ ": error: ".toText ++ f.message ++ [char '\n']

end TestScaffold.CommandLine
