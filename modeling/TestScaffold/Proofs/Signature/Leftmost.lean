import Mathlib.Data.List.Sort
import TestScaffold.Proofs.Signature.Grammar

/-!
The annotated functions of a text are the leftmost ones that do not overlap.

* A `Finding` is a stretch of a text with what it declares; `Finding.InText`
  says that the function is written there, with all of the word of its result
  type.
* `IsScan` are the laws of a search from left to right: what is found stands
  there, in order and without overlap, and a function that begins anywhere
  begins within something that is found.
* `IsScan.unique`: these laws leave no choice. `exists_isScan`: `signatures`
  obeys them. The induction follows the search; a step over a stretch of the
  text moves all findings of the rest by its length (`isScan_shift`).
-/

namespace TestScaffold

open Declaration

/-- A function is written at a position, perhaps with only the first letters
of its result type. -/
def WrittenAt (annotationName s : Text) (p : ℕ) (sig : Signature) : Prop :=
  ∃ w t, s.drop p = w ++ t ∧ Written annotationName w sig

/-- A stretch of a text, and the function that it declares. -/
structure Finding where
  start : ℕ
  stop : ℕ
  signature : Signature
  deriving DecidableEq, Repr

namespace Finding

/-- The function is written at the stretch, which ends where the word of the
result type ends. -/
def InText (annotationName s : Text) (f : Finding) : Prop :=
  ∃ w t, s.drop f.start = w ++ t ∧ Written annotationName w f.signature ∧
    Text.Stops Text.isWord t ∧ f.stop = f.start + w.length

/-- The finding after a stretch of the given length. -/
def shift (n : ℕ) (f : Finding) : Finding := { f with start := n + f.start, stop := n + f.stop }

@[simp] lemma shift_start (n : ℕ) (f : Finding) : (f.shift n).start = n + f.start := rfl

@[simp] lemma shift_stop (n : ℕ) (f : Finding) : (f.shift n).stop = n + f.stop := rfl

@[simp] lemma shift_signature (n : ℕ) (f : Finding) : (f.shift n).signature = f.signature := rfl

/-- Where a function begins, it is determined, with its end. -/
lemma InText.unique {annotationName s : Text} {f g : Finding}
    (hf : f.InText annotationName s) (hg : g.InText annotationName s)
    (h : f.start = g.start) : f = g := by
  obtain ⟨w, t, hs, hw, ht, hstop⟩ := hf
  obtain ⟨w', t', hs', hw', ht', hstop'⟩ := hg
  rw [← h, hs] at hs'
  obtain ⟨hsig, rfl, -⟩ := hw.eq_of_stops hw' ht ht' hs'
  rw [← h] at hstop'
  cases f
  cases g
  simp_all

lemma inText_shift {annotationName u s : Text} {f : Finding} :
    (f.shift u.length).InText annotationName (u ++ s) ↔ f.InText annotationName s := by
  simp only [InText, shift_start, shift_stop, shift_signature, List.drop_length_add_append,
    Nat.add_assoc, Nat.add_left_cancel_iff]

end Finding

lemma Finding.InText.writtenAt {annotationName s : Text} {f : Finding}
    (h : f.InText annotationName s) : WrittenAt annotationName s f.start f.signature := by
  obtain ⟨w, t, hs, hw, -, -⟩ := h
  exact ⟨w, t, hs, hw⟩

/-! ### The laws of a search -/

/-- The findings of a search from left to right. -/
structure IsScan (annotationName s : Text) (fs : List Finding) : Prop where
  inText : ∀ f ∈ fs, f.InText annotationName s
  increasing : fs.Pairwise fun f g => f.start < g.start
  disjoint : fs.Pairwise fun f g => f.stop ≤ g.start
  /-- Nothing that begins before the next finding, or after the last one, is
  passed over. -/
  covering : ∀ p sig, WrittenAt annotationName s p sig → ∃ f ∈ fs, f.start ≤ p ∧ p < f.stop

namespace IsScan

variable {annotationName s : Text} {fs gs : List Finding}

/-- Two findings of one search do not overlap. -/
lemma stop_le (h : IsScan annotationName s fs) {f g : Finding} (hf : f ∈ fs) (hg : g ∈ fs)
    (hlt : f.start < g.start) : f.stop ≤ g.start := by
  refine List.Pairwise.forall_of_forall_of_flip
    (R := fun f g : Finding => f.start < g.start → f.stop ≤ g.start) ?_ ?_ ?_ hf hg hlt
  · exact fun f _ hlt => absurd hlt (lt_irrefl _)
  · exact h.disjoint.imp fun {f g} (hle : f.stop ≤ g.start) (_ : f.start < g.start) => hle
  · exact h.increasing.imp fun hlt hgt => absurd hlt (lt_asymm hgt)

/-- What one search finds, another one finds. The induction is on where it
begins: what the other search has there instead would begin before it and
overlap it in the first search. -/
lemma mem_of_mem (hfs : IsScan annotationName s fs) (hgs : IsScan annotationName s gs) :
    ∀ n, ∀ f : Finding, f.start = n → (f ∈ fs ↔ f ∈ gs) := by
  intro n
  induction n using Nat.strong_induction_on generalizing fs gs with
  | _ n ih =>
      have half : ∀ {fs gs : List Finding}, IsScan annotationName s fs →
          IsScan annotationName s gs → ∀ f ∈ fs, f.start = n → f ∈ gs := by
        intro fs gs hfs hgs f hf hn
        have hin := hfs.inText f hf
        obtain ⟨g, hg, hle, hlt⟩ := hgs.covering _ _ hin.writtenAt
        rcases hle.eq_or_lt with heq | hbefore
        · rwa [hin.unique (hgs.inText g hg) heq.symm]
        · have hgf := (ih g.start (hn ▸ hbefore) hfs hgs g rfl).mpr hg
          have := hfs.stop_le hgf hf hbefore
          omega
      exact fun f hn => ⟨fun hf => half hfs hgs f hf hn, fun hg => half hgs hfs f hg hn⟩

/-- **The laws of a search leave no choice.** -/
theorem unique (hfs : IsScan annotationName s fs) (hgs : IsScan annotationName s gs) : gs = fs := by
  have : Std.Antisymm fun f g : Finding => f.start < g.start :=
    ⟨fun _ _ h h' => absurd h (lt_asymm h')⟩
  have : Std.Irrefl fun f g : Finding => f.start < g.start := ⟨fun _ => lt_irrefl _⟩
  exact hgs.increasing.eq_of_mem_iff hfs.increasing fun f => hgs.mem_of_mem hfs _ f rfl

end IsScan

/-! ### The search of `signatures` -/

lemma writtenAt_append {annotationName u s : Text} {p : ℕ} {sig : Signature} :
    WrittenAt annotationName (u ++ s) (u.length + p) sig ↔ WrittenAt annotationName s p sig := by
  simp only [WrittenAt, List.drop_length_add_append]

/-- A search that finds nothing new in a first stretch goes on as a search of
what follows it. -/
lemma isScan_shift {annotationName u s : Text} {fs : List Finding}
    (hfs : IsScan annotationName s fs)
    (hu : ∀ p < u.length, ∀ sig, ¬WrittenAt annotationName (u ++ s) p sig) :
    IsScan annotationName (u ++ s) (fs.map (Finding.shift u.length)) where
  inText := by
    rintro f hf
    obtain ⟨g, hg, rfl⟩ := List.mem_map.mp hf
    exact Finding.inText_shift.mpr (hfs.inText g hg)
  increasing := List.pairwise_map.mpr (hfs.increasing.imp fun h => by simpa using h)
  disjoint := List.pairwise_map.mpr (hfs.disjoint.imp fun h => by simpa using h)
  covering := by
    intro p sig hp
    obtain ⟨q, rfl⟩ : ∃ q, p = u.length + q :=
      Nat.exists_eq_add_of_le (not_lt.mp fun hlt => hu p hlt sig hp)
    obtain ⟨f, hf, hle, hlt⟩ := hfs.covering q sig (writtenAt_append.mp hp)
    exact ⟨_, List.mem_map_of_mem hf, by simpa using hle, by simpa using hlt⟩

/-- A search that finds a function at the very beginning goes on as a search of
what follows it. -/
lemma isScan_cons {annotationName w s : Text} {sig : Signature} {fs : List Finding}
    (hw : Written annotationName w sig) (hs : Text.Stops Text.isWord s)
    (hfs : IsScan annotationName s fs) :
    IsScan annotationName (w ++ s) (⟨0, w.length, sig⟩ :: fs.map (Finding.shift w.length)) where
  inText := by
    intro f hf
    rcases List.mem_cons.mp hf with rfl | hf
    · exact ⟨w, s, rfl, hw, hs, (Nat.zero_add _).symm⟩
    · obtain ⟨g, hg, rfl⟩ := List.mem_map.mp hf
      exact Finding.inText_shift.mpr (hfs.inText g hg)
  increasing := by
    refine List.pairwise_cons.mpr ⟨fun f hf => ?_, ?_⟩
    · obtain ⟨g, -, rfl⟩ := List.mem_map.mp hf
      obtain ⟨v, rfl⟩ := hw.exists_cons
      simp only [Finding.shift_start, List.length_cons]
      omega
    · exact List.pairwise_map.mpr (hfs.increasing.imp fun h => by simpa using h)
  disjoint := by
    refine List.pairwise_cons.mpr ⟨fun f hf => ?_, ?_⟩
    · obtain ⟨g, -, rfl⟩ := List.mem_map.mp hf
      simp
    · exact List.pairwise_map.mpr (hfs.disjoint.imp fun h => by simpa using h)
  covering := by
    intro p sig' hp
    by_cases hlt : p < w.length
    · exact ⟨_, List.mem_cons_self, Nat.zero_le _, hlt⟩
    · obtain ⟨q, rfl⟩ := Nat.exists_eq_add_of_le (not_lt.mp hlt)
      obtain ⟨f, hf, hle, hlt⟩ := hfs.covering q sig' (writtenAt_append.mp hp)
      exact ⟨_, List.mem_cons_of_mem _ (List.mem_map_of_mem hf), by simpa using hle,
        by simpa using hlt⟩

/-- Nothing is written at the beginning of a text that cannot be read. -/
lemma not_writtenAt_zero {annotationName s : Text} {sig : Signature}
    (h : read? annotationName s = none) : ¬WrittenAt annotationName s 0 sig := by
  rintro ⟨w, t, hs, hw⟩
  rw [List.drop_zero] at hs
  rw [hs, hw.read?] at h
  cases h

/-- **What `signatures` finds is a search from left to right.** -/
theorem exists_isScan (annotationName s : Text) :
    ∃ fs, IsScan annotationName s fs ∧
      signatures annotationName s = fs.map Finding.signature := by
  fun_induction signatures annotationName s with
  | case1 =>
      refine ⟨[], ⟨by simp, List.Pairwise.nil, List.Pairwise.nil, ?_⟩, rfl⟩
      rintro p sig ⟨w, t, hs, hw⟩
      obtain ⟨v, rfl⟩ := hw.exists_cons
      simp at hs
  | case2 c rest sig left h ih =>
      obtain ⟨fs, hfs, heq⟩ := ih
      obtain ⟨hstops, w, hw, hs⟩ := read?_eq_some_iff.mp h
      refine ⟨_, hs ▸ isScan_cons hw hstops hfs, ?_⟩
      simp [heq, Function.comp_def]
  | case3 c rest h ih =>
      obtain ⟨fs, hfs, heq⟩ := ih
      refine ⟨_, isScan_shift (u := [c]) hfs ?_, ?_⟩
      · intro p hp sig
        obtain rfl : p = 0 := by simpa using hp
        exact not_writtenAt_zero h
      · simp [heq, Function.comp_def]

/-- **The annotated functions of a text are the leftmost ones that do not
overlap.** There is one search from left to right, and `signatures` are its
findings in order. Where a function is written, its name and parameters are
determined, its result type up to the letters that are left out at its end,
and a finding altogether. -/
theorem signatures_leftmost (annotationName s : Text) :
    (∃ fs, IsScan annotationName s fs ∧
      signatures annotationName s = fs.map Finding.signature ∧
      ∀ gs, IsScan annotationName s gs → gs = fs) ∧
    (∀ p sig sig', WrittenAt annotationName s p sig → WrittenAt annotationName s p sig' →
      sig.name = sig'.name ∧ sig.parameters = sig'.parameters ∧
        (sig.returnType <+: sig'.returnType ∨ sig'.returnType <+: sig.returnType)) ∧
    ∀ f g : Finding, f.InText annotationName s → g.InText annotationName s →
      f.start = g.start → f = g := by
  refine ⟨?_, ?_, fun f g hf hg h => hf.unique hg h⟩
  · obtain ⟨fs, hfs, heq⟩ := exists_isScan annotationName s
    exact ⟨fs, hfs, heq, fun gs hgs => hfs.unique hgs⟩
  · rintro p sig sig' ⟨w, t, hs, hw⟩ ⟨w', t', hs', hw'⟩
    exact hw.agree hw' (hs.symm.trans hs')

end TestScaffold
