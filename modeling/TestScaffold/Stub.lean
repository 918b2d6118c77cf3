import TestScaffold.Signature.Basic
import TestScaffold.Text.LowerCase

/-!
The generated test file: a test class with a stub for each function.

* `Stub.render` is the block of one function, `Stub.renderAll` all blocks with
  a blank line between two of them;
* `TestFile.render` puts the header and the class around them. Names are
  inserted as they are, so the same input gives the same text.
-/

namespace TestScaffold

/-- Lines joined by line feeds. -/
def unlines (ls : List Text) : Text := Text.join [char '\n'] ls

/-- A line with text, indented by `n` steps of four spaces. -/
def indented (n : Nat) (s : Text) : Text := List.replicate (4 * n) (char ' ') ++ s

namespace Stub

/-- The lines of the stub of a function, in the body of a class. -/
def lines (functionName paramNames : Text) : List Text :=
  [indented 1 "@Test".toText,
    indented 1 ("fun ".toText ++ Text.lowerFirst functionName ++
      "Test() \x7b".toText),
    indented 2 ("//TODO: val result = ".toText ++ functionName ++ [char '('] ++
      paramNames ++ [char ')']),
    indented 2 "//TODO: Add logic for your test".toText,
    indented 2 "//TODO: Assert the result is expected".toText,
    indented 1 [char '\x7d']]

def render (functionName paramNames : Text) : Text :=
  unlines (lines functionName paramNames)

/-- The stubs of functions, with a blank line between them. -/
def renderAll (sigs : List Signature) : Text :=
  Text.join [char '\n', char '\n'] (sigs.map fun s => render s.name s.paramNames)

end Stub

namespace TestFile

/-- The lines before the stubs: the package, unless it is the default one,
the imports, a comment, and the beginning of the class. -/
def header (package base fileName : Text) : List Text :=
  (if package = [] then [] else ["package ".toText ++ package, []]) ++
    ["import org.junit.After".toText,
      "import org.junit.Before".toText,
      "import org.junit.Test".toText,
      [],
      "/**".toText,
      " * Unit tests for ".toText ++ fileName ++
        ", which will execute on the development machine (host).".toText,
      " *".toText,
      " * See [testing documentation](http://d.android.com/tools/testing).".toText,
      " */".toText,
      [],
      "class ".toText ++ base ++ "Test \x7b".toText,
      indented 1 "@Before".toText,
      indented 1 "fun setup() \x7b".toText,
      indented 2 "//TODO: setup prerequisites for tests".toText,
      indented 1 [char '\x7d'],
      [],
      indented 1 "@After".toText,
      indented 1 "fun tearDown() \x7b".toText,
      indented 2 "//TODO: clear resources after test".toText,
      indented 1 [char '\x7d'],
      []]

/-- The test file around the stubs. -/
def render (package base fileName stubs : Text) : Text :=
  unlines (header package base fileName ++ [stubs, [char '\x7d']]) ++ [char '\n']

end TestFile

end TestScaffold
