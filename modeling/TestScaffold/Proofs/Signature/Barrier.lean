import Mathlib.Data.List.Basic
import TestScaffold.Proofs.Signature.Printing

/-!
A closing parenthesis at the end of a line parts a source text: the functions before it
are found as if nothing came after, and those after it as if nothing came before.

* `Written.exists_cut`: a written function has one closing parenthesis, that of its
  parameters, and a colon after it, unless there is one in the annotation.
* `Written.isPrefix_of_barrier`: so it does not reach over a barrier, which has another
  character there. What is read before the barrier is read without it, too.
* `signatures_append_barrier`: the induction follows the search before the barrier.
-/

namespace TestScaffold

open Declaration

/-- What parts one source text from the next. -/
def barrier : Text := [char ')', char '\n']

namespace Declaration

variable {annotationName w s t : Text} {sig : Signature}

/-- **The parenthesis that closes the parameters is the only one**, and a colon follows
it. -/
lemma Written.exists_cut (h : Written annotationName w sig) (ha : char ')' ∉ annotationName) :
    ∃ x y, w = x ++ char ')' :: char ':' :: y ∧ char ')' ∉ x ∧ char ')' ∉ y := by
  obtain ⟨hsig, sp, rfl⟩ := h
  have hblank : ∀ {g : Text}, (∀ c ∈ g, Text.isBlank c) → char ')' ∉ g := fun hg hmem =>
    absurd (hg _ hmem) (by decide)
  have hword : ∀ {g : Text}, (∀ c ∈ g, Text.isWord c) → char ')' ∉ g := fun hg hmem =>
    absurd (hg _ hmem) (by decide)
  have hvisibility : char ')' ∉ sp.visibility := by
    have hall : ∀ v ∈ [] :: visibilities, char ')' ∉ v := by decide
    exact hall _ sp.visibility_mem
  refine ⟨char '@' :: annotationName ++ (sp.gap ++ (sp.visibility ++ (sp.funGap ++ ("fun".toText ++
    (sp.nameGap ++ (sig.name ++ (char '(' :: sig.parameters))))))), sp.typeGap ++ sig.returnType,
    by simp [Spelling.write], ?_, ?_⟩
  · simp [ha, hblank sp.gap_blank, hvisibility, hblank sp.funGap_blank, hblank sp.nameGap_blank,
      hword hsig.name_word, hsig.parameters_open]
  · simp [hblank sp.typeGap_blank, hword hsig.returnType_word]

/-- **A function does not reach over a barrier**, after which there is no colon. -/
lemma Written.isPrefix_of_barrier (h : Written annotationName w sig)
    (ha : char ')' ∉ annotationName) {u : Text} (heq : w ++ u = s ++ (barrier ++ t)) : w <+: s := by
  rcases List.append_eq_append_iff.mp heq with ⟨z, rfl, -⟩ | ⟨z, hw, hz⟩
  · exact List.prefix_append w z
  · cases z with
    | nil =>
        rw [List.append_nil] at hw
        exact hw ▸ List.prefix_rfl
    | cons c z =>
        obtain ⟨rfl, hend⟩ : char ')' = c ∧ char '\n' :: t = z ++ u := List.cons.inj hz
        obtain ⟨x, y, hcut, hx, hy⟩ := h.exists_cut ha
        have hy' : char ')' ∉ char ':' :: y := by simp [hy]
        obtain ⟨-, -, rfl⟩ := (List.append_cons_inj_of_notMem hx hy').mp (hcut.symm.trans hw)
        -- the barrier has a line break where the function has its colon
        simp at hend

/-- What cannot be read before a barrier cannot be read with it. -/
lemma read?_append_barrier (ha : char ')' ∉ annotationName) (h : read? annotationName s = none)
    (t : Text) : read? annotationName (s ++ (barrier ++ t)) = none := by
  by_contra hsome
  obtain ⟨⟨sig, u⟩, hread⟩ := Option.ne_none_iff_exists'.mp hsome
  obtain ⟨-, w, hw, heq⟩ := read?_eq_some_iff.mp hread
  obtain ⟨v, rfl⟩ := hw.isPrefix_of_barrier ha heq.symm
  rw [hw.read?] at h
  cases h

end Declaration

/-- **A barrier keeps source texts apart.** What is found in a text, a closing parenthesis
at the end of a line, and another text, is what is found in the first text and then what is
found in the other, whatever the first one ends with. -/
theorem signatures_append_barrier {annotationName : Text} (ha : char ')' ∉ annotationName)
    (s t : Text) :
    signatures annotationName (s ++ (barrier ++ t)) =
      signatures annotationName s ++ signatures annotationName t := by
  fun_induction signatures annotationName s with
  | case1 =>
      have hplain : char '@' ∉ barrier := by decide
      exact signatures_append_of_notMem hplain
  | case2 c rest sig left hread ih =>
      obtain ⟨hstops, w, hw, heq⟩ := read?_eq_some_iff.mp hread
      have hbarrier : Text.Stops Text.isWord (barrier ++ t) := Text.stops_cons.mpr (by decide)
      rw [heq, List.append_assoc, signatures_append_of_written hw (hstops.append hbarrier), ih,
        List.cons_append]
  | case3 c rest hread ih =>
      have hnone := read?_append_barrier ha hread t
      rw [List.cons_append] at hnone ⊢
      rw [signatures_cons_of_none hnone, ih]

/-- Neither the function that the first text breaks off in, nor the end of one that the
other begins with, makes a difference. -/
theorem signatures_append_barrier_unfinished :
    char ')' ∉ "Gen".toText ∧
      signatures "Gen".toText ("@Gen fun f(): A @Gen fun g(n: Int".toText ++
          (barrier ++ ": B @Gen fun h(): C".toText)) =
        [⟨"f".toText, [], "A".toText⟩, ⟨"h".toText, [], "C".toText⟩] := by
  have ha : char ')' ∉ "Gen".toText := by decide
  exact ⟨ha, (signatures_append_barrier ha _ _).trans (by decide +kernel)⟩

end TestScaffold
