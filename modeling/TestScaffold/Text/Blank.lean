import TestScaffold.Text.Basic
import TestScaffold.Text.Ranges

/-!
Blank characters: the ones that separate words, in every script. They are
the characters with the Unicode property *White_Space*, and with them the four
separators U+001C to U+001F of the control block.

* `Char.isWhitespace` is the ASCII part (`isBlank_of_isWhitespace`);
* `firstWord` is the first maximal run of other characters.
-/

namespace TestScaffold.Text

/-- The code points of the blank characters. -/
def blankRanges : Ranges :=
  [(9, 13), (28, 32), (133, 133), (160, 160), (5760, 5760), (8192, 8202),
    (8232, 8233), (8239, 8239), (8287, 8287), (12288, 12288)]

/-- Whether a character separates words. -/
def isBlank (c : CodePoint) : Bool := blankRanges.covers c.toNat

/-- The ASCII blanks are among them. -/
theorem isBlank_of_isWhitespace {c : Char} (h : c.isWhitespace) : isBlank (char c) := by
  simp only [Char.isWhitespace, Bool.or_eq_true, decide_eq_true_eq] at h
  rcases h with ((rfl | rfl) | rfl) | rfl <;> decide

/-- The first run of characters that are not blank, past leading blanks;
empty when all of the text is blank. -/
def firstWord (s : Text) : Text :=
  (s.dropWhile isBlank).takeWhile (!isBlank ·)

end TestScaffold.Text
