import Mathlib.Tactic
import TestScaffold.Proofs.Text.Cuts

/-!
Where a pattern occurs first in a text.

* `contains_iff`: what `cut?` looks for are the occurrences of a pattern.
* `cut?_append`: a text is cut at an occurrence if nothing before it, together
  with what the pattern may share with it, holds the pattern. It is cut nowhere
  else (`cut?_eq_some_iff`).
* `infix_append_cons` and `infix_append_cons_of_cut`: a separator in a text
  parts its occurrences, of patterns without the separator and of patterns that
  hold it once. `not_infix_append_dropLast`: a pattern occurs no earlier than a
  part of it does.
-/

namespace TestScaffold.Text

variable {pat new s t a b : Text} {sep : CodePoint}

lemma dropPrefix?_eq_none_iff : dropPrefix? pat s = none ↔ ¬pat <+: s := by
  rw [← not_iff_not, not_not, ← ne_eq, Option.ne_none_iff_exists']
  constructor
  · rintro ⟨rest, h⟩
    exact ⟨rest, (dropPrefix?_eq_some_iff.mp h).symm⟩
  · rintro ⟨rest, h⟩
    exact ⟨rest, dropPrefix?_eq_some_iff.mpr h.symm⟩

/-- Nothing is cut where the pattern does not occur. -/
lemma cut?_eq_none_iff : cut? pat s = none ↔ ¬pat <:+: s := by
  induction s with
  | nil => simp [cut?, dropPrefix?_eq_none_iff, List.infix_nil, List.prefix_nil]
  | cons c s ih =>
      rw [List.infix_cons_iff, not_or, ← dropPrefix?_eq_none_iff, ← ih, cut?]
      cases dropPrefix? pat (c :: s) <;> simp

lemma contains_iff : contains pat s ↔ pat <:+: s := by
  rw [contains, Option.isSome_iff_ne_none, ne_eq, cut?_eq_none_iff, not_not]

/-! ### The first occurrence -/

/-- **A text is cut at the first occurrence.** One that began before would end
before the end of this one. -/
theorem cut?_append (hpat : pat ≠ []) (h : ¬pat <:+: a ++ pat.dropLast) (b : Text) :
    cut? pat (a ++ (pat ++ b)) = some (a, b) := by
  induction a with
  | nil =>
      have hdrop : dropPrefix? pat (pat ++ b) = some b := dropPrefix?_eq_some_iff.mpr rfl
      obtain ⟨c, p, rfl⟩ := List.exists_cons_of_ne_nil hpat
      rw [List.nil_append, List.cons_append] at *
      rw [cut?, hdrop]
  | cons c a ih =>
      have hnone : dropPrefix? pat (c :: (a ++ (pat ++ b))) = none := by
        -- an occurrence here would lie within the first part and all of the pattern but its end
        rw [dropPrefix?_eq_none_iff]
        intro hpre
        refine h (List.IsPrefix.isInfix ?_)
        have hwhole : c :: a ++ pat.dropLast <+: c :: (a ++ (pat ++ b)) := by
          rw [List.cons_append, List.cons_prefix_cons]
          refine ⟨rfl, List.prefix_append_right_inj _ |>.mpr ?_⟩
          exact (List.dropLast_prefix pat).trans (List.prefix_append pat b)
        refine List.prefix_of_prefix_length_le hpre hwhole ?_
        have hlen := List.length_pos_of_ne_nil hpat
        simp only [List.length_append, List.length_cons, List.length_dropLast]
        omega
      have hrest := ih fun hinf => h (hinf.trans (List.suffix_cons c _).isInfix)
      rw [List.cons_append, cut?, hnone, hrest]
      rfl

/-- No cut is after an occurrence. -/
lemma length_le_of_cut? {u w : Text} (h : cut? pat (u ++ (pat ++ w)) = some (a, b)) :
    a.length ≤ u.length := by
  induction u generalizing a with
  | nil =>
      have hdrop : dropPrefix? pat (pat ++ w) = some w := dropPrefix?_eq_some_iff.mpr rfl
      rw [List.nil_append] at h
      cases hs : pat ++ w with
      | nil =>
          have hlen := congrArg List.length (eq_append_of_cut? h)
          rw [hs, List.length_nil, List.length_append, List.length_append] at hlen
          omega
      | cons c s =>
          rw [hs] at h hdrop
          rw [cut?, hdrop] at h
          obtain ⟨rfl, -⟩ := Prod.mk.inj (Option.some.inj h)
          exact le_rfl
  | cons c u ih =>
      rw [List.cons_append, cut?] at h
      split at h
      · obtain ⟨rfl, -⟩ := Prod.mk.inj (Option.some.inj h)
        exact Nat.zero_le _
      · obtain ⟨⟨a', b'⟩, hcut, heq⟩ := Option.map_eq_some_iff.mp h
        obtain ⟨rfl, rfl⟩ := Prod.mk.inj heq
        exact Nat.succ_le_succ (ih hcut)

/-- **The cuts of a text are those at its first occurrences.** -/
theorem cut?_eq_some_iff (hpat : pat ≠ []) :
    cut? pat s = some (a, b) ↔ s = a ++ (pat ++ b) ∧ ¬pat <:+: a ++ pat.dropLast := by
  constructor
  · intro h
    refine ⟨by rw [eq_append_of_cut? h, List.append_assoc], ?_⟩
    rintro ⟨u, v, huv⟩
    -- an occurrence at `u` ends before the one that the text is cut at, so it begins before it
    have hlen := congrArg List.length huv
    have hpos := List.length_pos_of_ne_nil hpat
    have hfront : u ++ pat <+: s := by
      have hs := eq_append_of_cut? h
      have hcut : a ++ pat.dropLast <+: s := by
        rw [hs, List.append_assoc, List.prefix_append_right_inj]
        exact (List.dropLast_prefix pat).trans (List.prefix_append pat b)
      exact List.IsPrefix.trans ⟨v, huv⟩ hcut
    obtain ⟨w, hw⟩ := hfront
    rw [← hw, List.append_assoc] at h
    have hle := length_le_of_cut? h
    simp only [List.length_append, List.length_dropLast] at hlen
    omega
  · rintro ⟨rfl, hfirst⟩
    exact cut?_append hpat hfirst b

lemma before_append (hpat : pat ≠ []) (h : ¬pat <:+: a ++ pat.dropLast) (b : Text) :
    before pat (a ++ (pat ++ b)) = a := by
  rw [before, cut?_append hpat h]

lemma replaceFirst_append (hpat : pat ≠ []) (h : ¬pat <:+: a ++ pat.dropLast) (b : Text) :
    replaceFirst pat new (a ++ (pat ++ b)) = a ++ new ++ b := by
  rw [replaceFirst, cut?_append hpat h]

/-- What is replaced by a word of the same length leaves a text of the same length. -/
lemma length_replaceFirst (h : pat.length = new.length) (s : Text) :
    (replaceFirst pat new s).length = s.length := by
  rw [replaceFirst]
  split
  · next p hcut =>
      rw [eq_append_of_cut? hcut]
      simp only [List.length_append, h]
  · rfl

lemma replaceFirst_eq_nil_iff (h : pat.length = new.length) :
    replaceFirst pat new s = [] ↔ s = [] := by
  rw [← List.length_eq_zero_iff, length_replaceFirst h, List.length_eq_zero_iff]

/-- A pattern occurs no earlier than a part of it does. -/
lemma not_infix_append_dropLast {q : Text} (hpat : pat = a ++ (q ++ b)) (hq : q ≠ [])
    (h : ¬q <:+: s ++ a ++ q.dropLast) : ¬pat <:+: s ++ pat.dropLast := by
  rintro ⟨u, v, huv⟩
  refine h (List.IsSuffix.isInfix ⟨u ++ a, rfl⟩ |>.trans (List.IsPrefix.isInfix ?_))
  have hq' := List.length_pos_of_ne_nil hq
  have hpart : u ++ a ++ q <+: s ++ pat.dropLast := by
    refine ⟨b ++ v, ?_⟩
    rw [← huv, hpat]
    simp
  have hwhole : s ++ a ++ q.dropLast <+: s ++ pat.dropLast := by
    have hfront : q.dropLast <+: q ++ b := (List.dropLast_prefix q).trans (List.prefix_append q b)
    have hlong : s ++ a ++ q.dropLast <+: s ++ pat := by
      rw [hpat, List.append_assoc, List.prefix_append_right_inj, List.prefix_append_right_inj]
      exact hfront
    have hcut : s ++ pat.dropLast <+: s ++ pat :=
      (List.prefix_append_right_inj s).mpr (List.dropLast_prefix pat)
    refine List.prefix_of_prefix_length_le hlong hcut ?_
    have hpatlen := congrArg List.length hpat
    simp only [List.length_append, List.length_dropLast] at hpatlen ⊢
    omega
  refine List.prefix_of_prefix_length_le hpart hwhole ?_
  have hlen := congrArg List.length huv
  have hpatlen := congrArg List.length hpat
  simp only [List.length_append, List.length_dropLast] at hlen hpatlen ⊢
  omega

/-! ### Separators -/

/-- What ends a text and has no separator ends what follows the separator. -/
lemma suffix_of_append_eq {u : Text} (ha : sep ∉ a) (h : u ++ a = s ++ sep :: t) : a <:+ t := by
  rcases List.append_eq_append_iff.mp h with ⟨w, -, rfl⟩ | ⟨w, -, hw⟩
  · simp at ha
  · cases w with
    | nil =>
        rw [List.nil_append] at hw
        simp [← hw] at ha
    | cons c w =>
        rw [List.cons_append, List.cons.injEq] at hw
        exact ⟨w, hw.2.symm⟩

/-- What begins a text and has no separator begins what precedes the
separator. -/
lemma prefix_of_append_eq {v : Text} (hb : sep ∉ b) (h : b ++ v = s ++ sep :: t) : b <+: s := by
  rcases List.append_eq_append_iff.mp h with ⟨w, rfl, -⟩ | ⟨w, rfl, hw⟩
  · exact List.prefix_append b w
  · cases w with
    | nil => simp
    | cons c w =>
        rw [List.cons_append, List.cons.injEq] at hw
        simp [← hw.1] at hb

/-- A separator that a pattern does not hold parts its occurrences. -/
lemma infix_append_cons (hpat : sep ∉ pat) : pat <:+: s ++ sep :: t ↔ pat <:+: s ∨ pat <:+: t := by
  constructor
  · rintro ⟨u, v, h⟩
    rw [List.append_assoc] at h
    rcases List.append_eq_append_iff.mp h with ⟨w, rfl, hw⟩ | ⟨w, rfl, hw⟩
    · exact .inl ((prefix_of_append_eq hpat hw).isInfix.trans (List.suffix_append u w).isInfix)
    · cases w with
      | nil =>
          rw [List.nil_append] at hw
          cases pat with
          | nil => exact .inl (List.nil_infix)
          | cons c p => simp_all
      | cons c w =>
          rw [List.cons_append, List.cons.injEq] at hw
          exact .inr ⟨w, v, by rw [hw.2, List.append_assoc]⟩
  · rintro (h | h)
    · exact h.trans (List.prefix_append s _).isInfix
    · exact h.trans ((List.suffix_cons sep t).trans (List.suffix_append s _)).isInfix

/-- A separator parts the occurrences of a pattern that holds it once, but for
the one around it. -/
lemma infix_append_cons_of_cut (ha : sep ∉ a) (hb : sep ∉ b)
    (h : a ++ sep :: b <:+: s ++ sep :: t) :
    a ++ sep :: b <:+: s ∨ (a <:+ s ∧ b <+: t) ∨ a ++ sep :: b <:+: t := by
  obtain ⟨u, v, h⟩ := h
  have heq : (u ++ a) ++ sep :: (b ++ v) = s ++ sep :: t := by
    rw [← h]
    simp
  rcases List.append_eq_append_iff.mp heq with ⟨w, hs, hw⟩ | ⟨w, hs, hw⟩
  · cases w with
    | nil =>
        rw [List.nil_append, List.cons.injEq] at hw
        rw [List.append_nil] at hs
        exact .inr (.inl ⟨⟨u, hs.symm⟩, ⟨v, hw.2⟩⟩)
    | cons c w =>
        rw [List.cons_append, List.cons.injEq] at hw
        obtain ⟨r, rfl⟩ := prefix_of_append_eq hb hw.2
        exact .inl ⟨u, r, by simp [hs, hw.1]⟩
  · cases w with
    | nil =>
        rw [List.nil_append, List.cons.injEq] at hw
        rw [List.append_nil] at hs
        exact .inr (.inl ⟨⟨u, hs⟩, ⟨v, hw.2.symm⟩⟩)
    | cons c w =>
        rw [List.cons_append, List.cons.injEq] at hw
        obtain ⟨r, rfl⟩ := suffix_of_append_eq ha (hw.1 ▸ hs)
        exact .inr (.inr ⟨r, v, by simp [hw.2]⟩)

end TestScaffold.Text
