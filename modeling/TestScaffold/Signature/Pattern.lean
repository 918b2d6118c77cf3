import TestScaffold.Signature.Basic

/-!
Annotated functions in a source text.

A declaration is an annotation, blanks, perhaps a visibility, perhaps blanks,
the word `fun`, blanks, a name, the parameters in parentheses, a colon,
perhaps blanks, and a result type. Its parts follow each other without a
choice to come back to: what one part reads, no other reading of it could
leave to the next.

* `Declaration.read?` reads one declaration at the beginning of a text, and
  what it leaves is shorter (`length_lt_of_read?`);
* `signatures` are all declarations of a text from left to right, each read
  where the one before ended.
-/

namespace TestScaffold

namespace Declaration

/-- The visibilities that may stand before `fun`. -/
def visibilities : List Text :=
  ["private".toText, "public".toText,
    "protected".toText,
    "internal".toText]

/-- What follows any number of blanks. -/
def skipBlanks (s : Text) : Text := s.dropWhile Text.isBlank

/-- What follows one blank or more. -/
def skipSomeBlanks? (s : Text) : Option Text :=
  match s with
  | c :: _ => if Text.isBlank c then some (skipBlanks s) else none
  | [] => none

/-- What follows a visibility, if the text begins with one. -/
def skipVisibility (s : Text) : Text :=
  (visibilities.findSome? fun v => Text.dropPrefix? v s).getD s

/-- A name and what follows it. -/
def readWord? (s : Text) : Option (Text × Text) :=
  let name := s.takeWhile Text.isWord
  if name = [] then none else some (name, s.dropWhile Text.isWord)

/-- The declaration at the beginning of a text, and what follows it. -/
def read? (annotationName s : Text) : Option (Signature × Text) := do
  let s ← Text.dropPrefix? (char '@' :: annotationName) s
  let s ← skipSomeBlanks? s
  let s := skipBlanks (skipVisibility s)
  let s ← Text.dropPrefix? "fun".toText s
  let s ← skipSomeBlanks? s
  let (name, s) ← readWord? s
  let s ← Text.dropPrefix? [char '('] s
  let parameters := s.takeWhile (· != char ')')
  let s ← Text.dropPrefix? [char ')', char ':'] (s.dropWhile (· != char ')'))
  let (returnType, s) ← readWord? (skipBlanks s)
  return (⟨name, parameters, returnType⟩, s)

/-! ### What is read is gone -/

/-- What is read off makes a text shorter by its length. This and the next lemmas bound what
each part of a declaration leaves over, for the scan to end. -/
theorem length_of_dropPrefix? {pat s rest : Text}
    (h : Text.dropPrefix? pat s = some rest) :
    s.length = pat.length + rest.length := by
  rw [Text.dropPrefix?_eq_some_iff.1 h, List.length_append]

theorem length_of_skipSomeBlanks? {s rest : Text}
    (h : skipSomeBlanks? s = some rest) : rest.length ≤ s.length := by
  cases s with
  | nil => simp [skipSomeBlanks?] at h
  | cons c s =>
    by_cases hc : Text.isBlank c
    · obtain rfl : skipBlanks (c :: s) = rest := by
        simpa [skipSomeBlanks?, hc] using h
      exact (List.dropWhile_sublist _).length_le
    · simp [skipSomeBlanks?, hc] at h

theorem length_skipVisibility_le (s : Text) :
    (skipVisibility s).length ≤ s.length := by
  unfold skipVisibility
  cases h : visibilities.findSome? fun v => Text.dropPrefix? v s with
  | none => simp
  | some rest =>
    obtain ⟨v, _, hv⟩ := List.exists_of_findSome?_eq_some h
    have := length_of_dropPrefix? hv
    simp
    omega

theorem length_of_readWord? {s name rest : Text}
    (h : readWord? s = some (name, rest)) : rest.length ≤ s.length := by
  simp only [readWord?] at h
  split at h
  · cases h
  · cases h
    exact (List.dropWhile_sublist _).length_le

/-- Reading a declaration leaves less than there was, so a scan ends. -/
theorem length_lt_of_read? {annotationName s rest : Text} {sig : Signature}
    (h : read? annotationName s = some (sig, rest)) : rest.length < s.length := by
  simp only [read?, Option.bind_eq_bind, Option.pure_def,
    Option.bind_eq_some_iff, Option.some.injEq, Prod.mk.injEq,
    Prod.exists] at h
  obtain ⟨s₁, h₁, s₂, h₂, s₃, h₃, s₄, h₄, name, s₅, h₅, s₆, h₆, s₇, h₇,
    ret, s₈, h₈, -, rfl⟩ := h
  have e₁ := length_of_dropPrefix? h₁
  have e₂ := length_of_skipSomeBlanks? h₂
  have e₃ := length_of_dropPrefix? h₃
  have e₄ := length_of_skipSomeBlanks? h₄
  have e₅ := length_of_readWord? h₅
  have e₆ := length_of_dropPrefix? h₆
  have e₇ := length_of_dropPrefix? h₇
  have e₈ := length_of_readWord? h₈
  have b₁ : (skipBlanks (skipVisibility s₂)).length ≤ s₂.length :=
    Nat.le_trans (List.dropWhile_sublist _).length_le (length_skipVisibility_le s₂)
  have b₂ : (skipBlanks s₇).length ≤ s₇.length := (List.dropWhile_sublist _).length_le
  have b₃ : (s₆.dropWhile (· != char ')')).length ≤ s₆.length :=
    (List.dropWhile_sublist _).length_le
  simp only [List.length_cons] at e₁
  omega

end Declaration

/-- The annotated functions of a text, in order, duplicates included. -/
def signatures (annotationName : Text) (s : Text) : List Signature :=
  match s with
  | [] => []
  | c :: rest =>
    match _h : Declaration.read? annotationName (c :: rest) with
    | some (sig, left) => sig :: signatures annotationName left
    | none => signatures annotationName rest
termination_by s.length
decreasing_by
  · exact Declaration.length_lt_of_read? _h
  · simp

end TestScaffold
