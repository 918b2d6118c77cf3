import TestScaffold.Text.CodePoint

/-!
Texts as lists of code points, and the few cuts that paths, messages and
generated files are made with.

* `dropPrefix?` removes a known beginning;
* `cut?` splits a text around the *first* occurrence of a pattern: what is
  found before is never empty-handed about an earlier occurrence;
* `fields` splits at every occurrence of one separating character, so a text
  with `n` separators has `n + 1` fields (`length_fields`) and joining the
  fields again gives the text back (`join_fields`).
-/

namespace TestScaffold

/-- A text: source code, a path, a message. -/
abbrev Text := List CodePoint

namespace Text

/-- The text has no halves of surrogate pairs, so it consists of characters. -/
def AllChars (s : Text) : Prop := ∀ p ∈ s, p.isHalf = false

instance (s : Text) : Decidable (AllChars s) :=
  inferInstanceAs (Decidable (∀ p ∈ s, p.isHalf = false))

/-- What follows `pat` at the beginning of a text, if the text begins so. -/
def dropPrefix? : Text → Text → Option Text
  | [], s => some s
  | _ :: _, [] => none
  | p :: ps, c :: s => if p = c then dropPrefix? ps s else none

/-- What is left after a prefix is what has to be put after it. -/
theorem dropPrefix?_eq_some_iff {pat s rest : Text} :
    dropPrefix? pat s = some rest ↔ s = pat ++ rest := by
  induction pat generalizing s with
  | nil => simp [dropPrefix?]
  | cons p ps ih =>
    cases s with
    | nil => simp [dropPrefix?]
    | cons c s =>
      by_cases h : p = c
      · simp [dropPrefix?, h, ih]
      · simp [dropPrefix?, h, Ne.symm h]

/-- Whether a text begins with `pat`. -/
def startsWith (pat s : Text) : Bool := (dropPrefix? pat s).isSome

/-- The text before and after the first occurrence of `pat`, if there is
one. The empty pattern occurs first at the very beginning. -/
def cut? (pat : Text) : Text → Option (Text × Text)
  | [] => (dropPrefix? pat []).map fun rest => ([], rest)
  | c :: s =>
    match dropPrefix? pat (c :: s) with
    | some rest => some ([], rest)
    | none => (cut? pat s).map fun p => (c :: p.1, p.2)

/-- Whether `pat` occurs anywhere in the text. -/
def contains (pat s : Text) : Bool := (cut? pat s).isSome

/-- The text before the first occurrence of `pat`, or all of it. -/
def before (pat s : Text) : Text :=
  match cut? pat s with
  | some p => p.1
  | none => s

/-- The text with the first occurrence of `pat`, if any, replaced. -/
def replaceFirst (pat new s : Text) : Text :=
  match cut? pat s with
  | some p => p.1 ++ new ++ p.2
  | none => s

/-- A cut leaves out the pattern and nothing else. -/
theorem eq_append_of_cut? {pat s a b : Text} (h : cut? pat s = some (a, b)) :
    s = a ++ pat ++ b := by
  induction s generalizing a with
  | nil =>
    cases hp : dropPrefix? pat [] with
    | none => simp [cut?, hp] at h
    | some rest =>
      obtain ⟨rfl, rfl⟩ : [] = a ∧ rest = b := by simpa [cut?, hp] using h
      simpa using dropPrefix?_eq_some_iff.1 hp
  | cons c s ih =>
    cases hp : dropPrefix? pat (c :: s) with
    | some rest =>
      obtain ⟨rfl, rfl⟩ : [] = a ∧ rest = b := by simpa [cut?, hp] using h
      simpa using dropPrefix?_eq_some_iff.1 hp
    | none =>
      obtain ⟨a', b', hc, rfl, rfl⟩ : ∃ a' b', cut? pat s = some (a', b') ∧
          c :: a' = a ∧ b' = b := by simpa [cut?, hp] using h
      simp [ih hc]

/-- The pieces of a text between the occurrences of one character. -/
def fields (sep : CodePoint) : Text → List Text
  | [] => [[]]
  | c :: s =>
    if c = sep then [] :: fields sep s
    else
      match fields sep s with
      | [] => [[c]]
      | f :: fs => (c :: f) :: fs

/-- There is one field more than there are separators. -/
theorem length_fields (sep : CodePoint) (s : Text) :
    (fields sep s).length = s.count sep + 1 := by
  induction s with
  | nil => rfl
  | cons c s ih =>
    by_cases h : c = sep
    · simp [fields, h, ih]
    · cases hf : fields sep s with
      | nil => simp [hf] at ih
      | cons f fs => simp_all [fields]

/-- The parts joined by a separating text. -/
def join (sep : Text) : List Text → Text
  | [] => []
  | [t] => t
  | t :: u :: ts => t ++ sep ++ join sep (u :: ts)

/-- Joining the fields of a text gives it back. -/
theorem join_fields (sep : CodePoint) (s : Text) : join [sep] (fields sep s) = s := by
  induction s with
  | nil => rfl
  | cons c s ih =>
    have hl := length_fields sep s
    cases hf : fields sep s with
    | nil => simp [hf] at hl
    | cons f fs =>
      rw [hf] at ih
      by_cases h : c = sep
      · simp [fields, h, hf, join, ih]
      · cases fs with
        | nil => simp_all [fields, join]
        | cons g gs => simp_all [fields, join]

/-- The text before the last occurrence of a character and the text after
it; with no occurrence all of the text is after. -/
def cutLast (sep : CodePoint) (s : Text) : Text × Text :=
  let tail := (s.reverse.takeWhile (· != sep)).reverse
  ((s.take (s.length - tail.length)).dropLast, tail)

/-- The least number of occurrences of `fill` put before a text to make it
`width` characters long. -/
def padRight (width : Nat) (fill : CodePoint) (s : Text) : Text :=
  s ++ List.replicate (width - s.length) fill

/-- Texts compare character by character, by code point. -/
def le : Text → Text → Bool
  | [], _ => true
  | _ :: _, [] => false
  | a :: s, b :: t => a < b || (a == b && le s t)

end Text

end TestScaffold
