import TestScaffold.Proofs.Text.Fields
import TestScaffold.Proofs.Text.Occurrences

/-!
Texts that are split at a separator with a pad after it.

* `pieces` cuts a text at the first occurrence of the separator and its pad, and goes on
  after it. A separator without its pad stays in its piece.
* `join_pieces`: to join the pieces gives the text back.
* `pieces_join`: joined texts without the separator are the pieces of the whole. The cut
  after the first of them is there, since nothing of the pad can begin an occurrence
  (`not_infix_append_dropLast_of_notMem`).
-/

namespace TestScaffold.Text

/-- The pieces of a text between the occurrences of a separator with its pad, found from
left to right. -/
def pieces (sep : CodePoint) (pad s : Text) : List Text :=
  match _h : cut? (sep :: pad) s with
  | none => [s]
  | some (a, b) => a :: pieces sep pad b
termination_by s.length
decreasing_by
  simp only [eq_append_of_cut? _h, List.length_append, List.length_cons]
  omega

variable {sep : CodePoint} {pad s t : Text}

lemma pieces_of_cut?_eq_none (h : cut? (sep :: pad) s = none) : pieces sep pad s = [s] := by
  rw [pieces]
  split <;> simp_all

lemma pieces_of_cut?_eq_some {a b : Text} (h : cut? (sep :: pad) s = some (a, b)) :
    pieces sep pad s = a :: pieces sep pad b := by
  rw [pieces]
  split <;> simp_all

lemma pieces_ne_nil (sep : CodePoint) (pad s : Text) : pieces sep pad s ≠ [] := by
  rw [pieces]
  split <;> simp

/-- **To join the pieces gives the text back.** -/
theorem join_pieces (sep : CodePoint) (pad s : Text) :
    join (sep :: pad) (pieces sep pad s) = s := by
  fun_induction pieces sep pad s with
  | case1 s hcut => rfl
  | case2 s a b hcut ih =>
      rw [join_cons (pieces_ne_nil sep pad b), ih, eq_append_of_cut? hcut, List.append_assoc]

/-- After a text without the separator there is no occurrence before the first one that is
put there: it would have to begin in its pad. -/
lemma not_infix_append_dropLast_of_notMem (hpad : sep ∉ pad) (ht : sep ∉ t) :
    ¬sep :: pad <:+: t ++ (sep :: pad).dropLast := by
  rintro ⟨u, v, h⟩
  cases pad with
  | nil =>
      have hmem : sep ∈ u ++ [sep] ++ v := by simp
      rw [h] at hmem
      exact ht (by simpa using hmem)
  | cons c pad =>
      -- the separator stands once on the right, so the pad would have to fit into less than itself
      have hfront : sep ∉ (c :: pad).dropLast := fun hmem => hpad (List.dropLast_subset _ hmem)
      have hsame : t ++ sep :: (c :: pad).dropLast = u ++ sep :: (c :: pad ++ v) := by
        simpa using h.symm
      obtain ⟨-, -, hrest⟩ := (List.append_cons_inj_of_notMem ht hfront).mp hsame
      have hlen := congrArg List.length hrest
      simp only [List.length_dropLast, List.length_append, List.length_cons] at hlen
      omega

/-- **Joined texts are the pieces of the whole**, if they hold no separator. -/
theorem pieces_join (hpad : sep ∉ pad) {ts : List Text} (hne : ts ≠ [])
    (hts : ∀ t ∈ ts, sep ∉ t) : pieces sep pad (join (sep :: pad) ts) = ts := by
  induction ts with
  | nil => contradiction
  | cons t ts ih =>
      have ht : sep ∉ t := hts t (by simp)
      by_cases hrest : ts = []
      · have hnone : cut? (sep :: pad) t = none := by
          rw [cut?_eq_none_iff]
          exact fun h => ht (h.subset (by simp))
        rw [hrest, join, pieces_of_cut?_eq_none hnone]
      · have hfirst := not_infix_append_dropLast_of_notMem hpad ht
        have hcut := cut?_append (by simp) hfirst (join (sep :: pad) ts)
        rw [join_cons hrest, pieces_of_cut?_eq_some hcut, ih hrest fun u hu => hts u (by simp [hu])]

/-- A separator without its pad parts nothing. -/
example : pieces (char ',') [char ' '] "a, , b,c, ".toText =
    ["a".toText, [], "b,c".toText, []] := by decide +kernel

end TestScaffold.Text
