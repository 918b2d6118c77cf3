import Mathlib.Data.List.TakeWhile
import TestScaffold.Text.Blank
import TestScaffold.Text.Word

/-!
Runs of characters of one class, and the two classes that declarations are
written with.

* `Stops p s` says that a run of characters with the property `p` that comes
  before `s` ends there. A text is then cut back into its run and the rest
  (`takeWhile_append`, `dropWhile_append`), and every text is cut so
  (`stops_dropWhile`).
* A character that separates words stands in no word (`not_isWord_of_isBlank`):
  no range of the one table meets a range of the other, which
  `covers_disjoint` lifts to all code points.
-/

namespace TestScaffold.Text

/-! ### Runs -/

/-- A run of characters with the property ends before the text: the text has
no first character, or one without the property. -/
def Stops (p : CodePoint → Bool) (s : List CodePoint) : Prop := ∀ c ∈ s.head?, p c = false

@[simp] lemma stops_nil (p : CodePoint → Bool) : Stops p [] := by simp [Stops]

@[simp] lemma stops_cons {p : CodePoint → Bool} {c : CodePoint} {s : List CodePoint} :
    Stops p (c :: s) ↔ p c = false := by simp [Stops]

/-- What begins a text decides where a run before it ends. -/
lemma Stops.append {p : CodePoint → Bool} {s t : List CodePoint} (hs : Stops p s)
    (ht : Stops p t) : Stops p (s ++ t) := by
  cases s with
  | nil => exact ht
  | cons c s => exact hs

/-- After a maximal run there is nothing that would go on with it. -/
lemma stops_dropWhile (p : CodePoint → Bool) (s : List CodePoint) : Stops p (s.dropWhile p) := by
  intro c hc
  have h := List.head?_dropWhile_not p s
  rw [hc] at h
  simpa using h

lemma takeWhile_eq_nil {p : CodePoint → Bool} {s : List CodePoint} (hs : Stops p s) :
    s.takeWhile p = [] := by
  cases s with
  | nil => rfl
  | cons c s => simpa using hs

/-- Where a text stops at once there is no run to be dropped. -/
lemma dropWhile_eq_self {p : CodePoint → Bool} {s : List CodePoint} (hs : Stops p s) :
    s.dropWhile p = s := by
  cases s with
  | nil => rfl
  | cons c s => simpa using hs

/-- The run at the beginning of a text that begins with all of it. -/
lemma takeWhile_append {p : CodePoint → Bool} {w s : List CodePoint} (hw : ∀ c ∈ w, p c)
    (hs : Stops p s) : (w ++ s).takeWhile p = w := by
  rw [List.takeWhile_append_of_pos hw, takeWhile_eq_nil hs, List.append_nil]

/-- What follows the run at the beginning of a text. -/
lemma dropWhile_append {p : CodePoint → Bool} {w s : List CodePoint} (hw : ∀ c ∈ w, p c)
    (hs : Stops p s) : (w ++ s).dropWhile p = s := by
  rw [List.dropWhile_append_of_pos hw, dropWhile_eq_self hs]

/-! ### Tables of ranges -/

/-- A number that is covered is in one of the ranges. -/
lemma Ranges.exists_of_covers {rs : Ranges} {n : ℕ} (h : rs.covers n) :
    ∃ r ∈ rs, r.1 ≤ n ∧ n ≤ r.2 := by
  induction rs with
  | nil => simp [covers] at h
  | cons r rs ih =>
      by_cases hlo : n < r.1
      · simp [covers, hlo] at h
      · by_cases hhi : n ≤ r.2
        · exact ⟨r, by simp, by omega, hhi⟩
        · obtain ⟨r', hr', hn⟩ := ih (by simpa [covers, hlo, hhi] using h)
          exact ⟨r', by simp [hr'], hn⟩

/-- Two tables of which no range meets a range of the other cover no code point
both. -/
lemma Ranges.covers_disjoint {rs qs : Ranges} {n : ℕ}
    (h : rs.all fun r => qs.all fun q => r.2 < q.1 || q.2 < r.1)
    (hr : rs.covers n) : qs.covers n = false := by
  by_contra hq
  obtain ⟨r, hrs, hr⟩ := exists_of_covers hr
  obtain ⟨q, hqs, hq⟩ := exists_of_covers (by simpa using hq)
  have hrq := List.all_eq_true.mp (List.all_eq_true.mp h r hrs) q hqs
  simp only [Bool.or_eq_true, decide_eq_true_eq] at hrq
  omega

/-! ### Blank and word characters -/

/-- No character is both, since the two tables have no number in common. -/
lemma not_isWord_of_isBlank {c : CodePoint} (h : isBlank c) : isWord c = false := by
  have hapart : blankRanges.all fun r => wordRanges.all fun q => r.2 < q.1 || q.2 < r.1 := by
    decide +kernel
  exact Ranges.covers_disjoint hapart h

lemma not_isBlank_of_isWord {c : CodePoint} (h : isWord c) : isBlank c = false := by
  by_contra hb
  simp [not_isWord_of_isBlank (by simpa using hb)] at h

/-- A run of blanks ends before a word. -/
lemma Stops.blank_of_word {w s : List CodePoint} (hne : w ≠ [])
    (hw : ∀ c ∈ w, isWord c) : Stops isBlank (w ++ s) := by
  cases w with
  | nil => contradiction
  | cons c w => simpa using not_isBlank_of_isWord (hw c (by simp))

end TestScaffold.Text
