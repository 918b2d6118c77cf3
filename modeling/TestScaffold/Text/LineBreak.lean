import TestScaffold.Text.Basic

/-!
Line breaks of text files: a carriage return, a line feed and the pair of
them all end a line. Reading turns each into one line feed.
-/

namespace TestScaffold.Text

/-- Every line break as a single line feed. -/
def unifyBreaks : Text → Text
  | [] => []
  | char '\r' :: char '\n' :: s => char '\n' :: unifyBreaks s
  | c :: s => (if c = char '\r' then char '\n' else c) :: unifyBreaks s

/-- No carriage return is left. -/
theorem not_mem_unifyBreaks (s : Text) : char '\r' ∉ unifyBreaks s := by
  fun_induction unifyBreaks s with
  | case1 => simp
  | case2 s ih => simpa using ih
  | case3 c s _ ih =>
    simp only [List.mem_cons, not_or]
    refine ⟨?_, ih⟩
    split <;> simp_all [eq_comm]

/-- Where there is none, nothing is changed. -/
theorem unifyBreaks_eq_self {s : Text} (h : char '\r' ∉ s) : unifyBreaks s = s := by
  induction s with
  | nil => rfl
  | cons c s ih =>
    have hc : c ≠ char '\r' := fun e => h (by simp [e])
    have hs : char '\r' ∉ s := fun e => h (by simp [e])
    rw [unifyBreaks.eq_def]
    split
    · contradiction
    · simp_all
    · simp_all

end TestScaffold.Text
