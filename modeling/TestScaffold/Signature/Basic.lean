import TestScaffold.Text.Basic
import TestScaffold.Text.Blank
import TestScaffold.Text.Word

/-!
Functions as a source text declares them, and the names of their parameters.

* `Signature` keeps the parameters as they are written;
* `parameterNames` reduces `a: Int, b: String` to `a, b`: of each piece
  between commas the first word stays, without its colons. A comma inside a
  type makes one more piece.
-/

namespace TestScaffold

/-- The names in a text of parameters, joined by a comma and a space. -/
def parameterNames (parameters : Text) : Text :=
  Text.join [char ',', char ' ']
    ((Text.fields (char ',') parameters).map fun piece =>
      (Text.firstWord piece).filter (· != char ':'))

/-- A declared function: its name, the text between its parentheses and the
leading word of its result type. -/
structure Signature where
  name : Text
  parameters : Text
  returnType : Text
  deriving DecidableEq, Repr

/-- The names of the parameters. -/
def Signature.paramNames (s : Signature) : Text := parameterNames s.parameters

/-- The function in one line, as a log shows it. -/
def Signature.summary (s : Signature) : Text :=
  s.name ++ [char '('] ++ s.paramNames ++ "): ".toText ++ s.returnType

end TestScaffold
