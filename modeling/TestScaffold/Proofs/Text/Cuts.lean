import Mathlib.Tactic
import TestScaffold.Proofs.Text.Runs
import TestScaffold.Text.Basic

/-!
Texts that are cut.

* `cutLast_append_cons`: what has no further occurrence of a character is cut
  off at its last one. `cutLast_cases`: each text has no occurrence, or is such
  a one.
* What is before a pattern, or has it replaced, has no characters but those of
  the text and of what was put in (`mem_of_mem_before`,
  `mem_of_mem_replaceFirst`).
-/

namespace TestScaffold.Text

variable {sep : CodePoint} {s t : Text}

/-- Read from the end, a text goes on up to its last separator. -/
lemma takeWhile_reverse_append_cons (s : Text) (ht : sep ∉ t) :
    (s ++ sep :: t).reverse.takeWhile (· != sep) = t.reverse := by
  have hrev : (s ++ sep :: t).reverse = t.reverse ++ sep :: s.reverse := by simp
  rw [hrev]
  refine takeWhile_append (fun c hc => ?_) (by simp)
  have hne : c ≠ sep := fun h => ht (by simpa [h] using hc)
  simpa using hne

/-- A cut at the last separator is found by what has none of them after it. -/
lemma cutLast_append_cons (s : Text) (ht : sep ∉ t) : cutLast sep (s ++ sep :: t) = (s, t) := by
  have hsplit : s ++ sep :: t = (s ++ [sep]) ++ t := by simp
  have hlen : (s ++ sep :: t).length - t.length = (s ++ [sep]).length := by
    simp only [List.length_append, List.length_cons, List.length_nil]
    omega
  simp only [cutLast, takeWhile_reverse_append_cons s ht, List.reverse_reverse, hlen]
  rw [hsplit, List.take_left, List.dropLast_concat]

/-- Where there is no separator, nothing stands before the cut. -/
lemma cutLast_of_notMem (hs : sep ∉ s) : cutLast sep s = ([], s) := by
  have hall : ∀ c ∈ s.reverse, (c != sep) = true := fun c hc => by
    have hne : c ≠ sep := fun h => hs (by simpa [h] using hc)
    simpa using hne
  have htake : s.reverse.takeWhile (· != sep) = s.reverse := by
    simpa using takeWhile_append (s := []) hall (by simp)
  simp [cutLast, htake]

/-- What is cut is the whole text, or before and after the last occurrence. -/
lemma cutLast_cases (sep : CodePoint) (s : Text) :
    (sep ∉ s ∧ cutLast sep s = ([], s)) ∨
      ∃ a b, s = a ++ sep :: b ∧ sep ∉ b ∧ cutLast sep s = (a, b) := by
  by_cases hs : sep ∈ s
  · obtain ⟨b, a, hrev, hb⟩ := List.eq_append_cons_of_mem (List.mem_reverse.mpr hs)
    have heq : s = a.reverse ++ sep :: b.reverse := by
      rw [← List.reverse_reverse s, hrev]
      simp
    have hb' : sep ∉ b.reverse := by simpa using hb
    exact .inr ⟨_, _, heq, hb', by rw [heq, cutLast_append_cons _ hb']⟩
  · exact .inl ⟨hs, cutLast_of_notMem hs⟩

/-! ### Characters -/

/-- What stands before a pattern is from the text. -/
lemma mem_of_mem_before {pat s : Text} {c : CodePoint} (h : c ∈ before pat s) : c ∈ s := by
  rw [before] at h
  split at h
  · next p hcut =>
      rw [eq_append_of_cut? hcut]
      simp [h]
  · exact h

/-- A replacement brings in the characters of what is new, and no others. -/
lemma mem_of_mem_replaceFirst {pat new s : Text} {c : CodePoint} (h : c ∈ replaceFirst pat new s) :
    c ∈ s ∨ c ∈ new := by
  rw [replaceFirst] at h
  split at h
  · next p hcut =>
      rw [eq_append_of_cut? hcut]
      simp only [List.mem_append] at h ⊢
      tauto
  · exact .inl h

end TestScaffold.Text
