import Mathlib.Tactic.Lemma
import TestScaffold.Text.Basic

/-!
Texts that are split at a separating character and joined again.

* `fields_append_cons`: a separator parts the fields before it from those
  after it, so splitting is a matter of one separator at a time. What comes
  before all separators goes to the first field (`fields_append_of_notMem`).
* `fields_join`: texts without the separator, joined by the separator and a pad
  after it, are the fields of the whole; all but the first one have the pad
  before them.
* `fields_eq_append_iff` and `head?_fields_eq_some_iff`: where in a text some of
  its fields stand.
-/

namespace TestScaffold.Text

lemma fields_ne_nil (sep : CodePoint) (s : Text) : fields sep s ≠ [] := by
  intro h
  have hl := length_fields sep s
  simp [h] at hl

/-- A text without the separator is its only field. -/
lemma fields_of_notMem {sep : CodePoint} {s : Text} (h : sep ∉ s) : fields sep s = [s] := by
  induction s with
  | nil => rfl
  | cons c s ih =>
      have hc : c ≠ sep := fun hc => h (by simp [hc])
      have hs : sep ∉ s := fun hs => h (by simp [hs])
      simp [fields, hc, ih hs]

/-- No field has the separator in it. -/
lemma notMem_of_mem_fields {sep : CodePoint} {s f : Text} (h : f ∈ fields sep s) : sep ∉ f := by
  induction s generalizing f with
  | nil => simp_all [fields]
  | cons c s ih =>
      obtain ⟨g, gs, hg⟩ := List.exists_cons_of_ne_nil (fields_ne_nil sep s)
      by_cases hc : c = sep
      · simp only [fields, hc, ↓reduceIte, List.mem_cons] at h
        rcases h with rfl | h
        · simp
        · exact ih h
      · simp only [fields, hc, ↓reduceIte, hg, List.mem_cons] at h
        rcases h with rfl | h
        · have hg' := ih (f := g) (by simp [hg])
          simp [hg', Ne.symm hc]
        · exact ih (by simp [hg, h])

lemma mem_of_mem_fields {sep c : CodePoint} {s f : Text} (h : f ∈ fields sep s) (hc : c ∈ f) :
    c ∈ s := by
  induction s generalizing f with
  | nil => simp_all [fields]
  | cons a s ih =>
      obtain ⟨g, gs, hg⟩ := List.exists_cons_of_ne_nil (fields_ne_nil sep s)
      by_cases ha : a = sep
      · simp only [fields, ha, ↓reduceIte, List.mem_cons] at h
        rcases h with rfl | h
        · simp at hc
        · exact .tail _ (ih h hc)
      · simp only [fields, ha, ↓reduceIte, hg, List.mem_cons] at h
        rcases h with rfl | h
        · rcases List.mem_cons.mp hc with rfl | hc
          · simp
          · exact .tail _ (ih (f := g) (by simp [hg]) hc)
        · exact .tail _ (ih (by simp [hg, h]) hc)

/-- A separator parts what is before it from what is after it. -/
lemma fields_append_cons (sep : CodePoint) (s t : Text) :
    fields sep (s ++ sep :: t) = fields sep s ++ fields sep t := by
  induction s with
  | nil => simp [fields]
  | cons c s ih =>
      by_cases hc : c = sep
      · simp [fields, hc, ih]
      · obtain ⟨f, fs, hf⟩ := List.exists_cons_of_ne_nil (fields_ne_nil sep s)
        simp [fields, hc, ih, hf]

/-- What has no separator and comes first goes to the first field. -/
lemma fields_append_of_notMem {sep : CodePoint} {s t f : Text} {fs : List Text} (hs : sep ∉ s)
    (ht : fields sep t = f :: fs) : fields sep (s ++ t) = (s ++ f) :: fs := by
  induction s with
  | nil => exact ht
  | cons c s ih =>
      have hc : c ≠ sep := fun hc => hs (by simp [hc])
      have hrest := ih fun hmem => hs (by simp [hmem])
      simp [fields, hc, hrest]

/-- Characters may be exchanged before or after, if the separator stays apart
from all others. -/
lemma fields_map {sep : CodePoint} {g : CodePoint → CodePoint} (hg : ∀ c, g c = sep ↔ c = sep)
    (s : Text) :
    fields sep (s.map g) = (fields sep s).map (List.map g) := by
  induction s with
  | nil => rfl
  | cons c s ih =>
      obtain ⟨f, fs, hf⟩ := List.exists_cons_of_ne_nil (fields_ne_nil sep s)
      by_cases hc : c = sep
      · simp [fields, hc, (hg sep).mpr rfl, ih]
      · have hgc : g c ≠ sep := fun h => hc ((hg c).mp h)
        simp [fields, hc, hgc, ih, hf]

lemma join_cons {sep t : Text} {ts : List Text} (h : ts ≠ []) :
    join sep (t :: ts) = t ++ (sep ++ join sep ts) := by
  obtain ⟨u, us, rfl⟩ := List.exists_cons_of_ne_nil h
  simp [join]

lemma join_append {sep : Text} {ss ts : List Text} (hss : ss ≠ []) (hts : ts ≠ []) :
    join sep (ss ++ ts) = join sep ss ++ (sep ++ join sep ts) := by
  induction ss with
  | nil => contradiction
  | cons s ss ih =>
      by_cases h : ss = []
      · rw [h, List.singleton_append, join_cons hts, join]
      · have hne : ss ++ ts ≠ [] := by simp [h]
        rw [List.cons_append, join_cons hne, ih h, join_cons h]
        simp only [List.append_assoc]

/-- To join the fields with another character puts it in the place of the separator. -/
lemma join_fields_eq_map (sep new : CodePoint) (s : Text) :
    join [new] (fields sep s) = s.map fun c => if c = sep then new else c := by
  induction s with
  | nil => rfl
  | cons c s ih =>
      by_cases hc : c = sep
      · rw [fields, if_pos hc, join_cons (fields_ne_nil sep s), ih, List.map_cons, if_pos hc]
        rfl
      · obtain ⟨f, fs, hf⟩ := List.exists_cons_of_ne_nil (fields_ne_nil sep s)
        rw [List.map_cons, ← ih, fields, if_neg hc, if_neg hc, hf]
        cases fs <;> simp [join]

/-- Joined texts are the fields of the whole, where the pad after a separator
goes to the field that it stands before. -/
lemma fields_join {sep : CodePoint} {pad t : Text} {ts : List Text} (hpad : sep ∉ pad)
    (ht : sep ∉ t) (hts : ∀ u ∈ ts, sep ∉ u) :
    fields sep (join (sep :: pad) (t :: ts)) = t :: ts.map (pad ++ ·) := by
  have key : ∀ lead : Text, sep ∉ lead →
      fields sep (lead ++ join (sep :: pad) (t :: ts)) = (lead ++ t) :: ts.map (pad ++ ·) := by
    induction ts generalizing t with
    | nil =>
        intro lead hlead
        simpa [join] using fields_of_notMem (s := lead ++ t) (by simp [hlead, ht])
    | cons u ts ih =>
        intro lead hlead
        have hu : sep ∉ u := hts u (by simp)
        have hrest := ih hu (fun v hv => hts v (by simp [hv])) pad hpad
        have hsplit : lead ++ join (sep :: pad) (t :: u :: ts) =
            (lead ++ t) ++ sep :: (pad ++ join (sep :: pad) (u :: ts)) := by
          simp [join]
        rw [hsplit, fields_append_cons, fields_of_notMem (by simp [hlead, ht]), hrest]
        simp
  simpa using key [] (by simp)

/-- **The fields of a text fall into two groups at one of its separators.** -/
lemma fields_eq_append_iff {sep : CodePoint} {s : Text} {xs ys : List Text} (hxs : xs ≠ [])
    (hys : ys ≠ []) :
    fields sep s = xs ++ ys ↔ ∃ a b, s = a ++ sep :: b ∧ fields sep a = xs ∧ fields sep b = ys := by
  constructor
  · intro h
    have hmem : ∀ f ∈ xs ++ ys, sep ∉ f := fun f hf => notMem_of_mem_fields (h ▸ hf)
    have hback : ∀ zs : List Text, zs ≠ [] → (∀ f ∈ zs, sep ∉ f) →
        fields sep (join [sep] zs) = zs := by
      intro zs hne hzs
      obtain ⟨z, zs, rfl⟩ := List.exists_cons_of_ne_nil hne
      have hpad : sep ∉ ([] : Text) := by simp
      simpa using fields_join hpad (hzs z (by simp)) fun f hf => hzs f (by simp [hf])
    refine ⟨join [sep] xs, join [sep] ys, ?_, hback xs hxs fun f hf => hmem f (by simp [hf]),
      hback ys hys fun f hf => hmem f (by simp [hf])⟩
    rw [← join_fields sep s, h, join_append hxs hys]
    rfl
  · rintro ⟨a, b, rfl, rfl, rfl⟩
    exact fields_append_cons sep a b

/-- Only such a text has a single field. -/
lemma fields_eq_singleton_iff {sep : CodePoint} {s w : Text} :
    fields sep s = [w] ↔ s = w ∧ sep ∉ w := by
  constructor
  · intro h
    refine ⟨?_, notMem_of_mem_fields (h ▸ List.mem_singleton_self w)⟩
    rw [← join_fields sep s, h]
    rfl
  · rintro ⟨rfl, hw⟩
    exact fields_of_notMem hw

/-- The first field ends at the first separator. -/
lemma head?_fields_eq_some_iff {sep : CodePoint} {s w : Text} :
    (fields sep s).head? = some w ↔
      sep ∉ w ∧ ∃ rest, s = w ++ rest ∧ (rest = [] ∨ rest.head? = some sep) := by
  constructor
  · intro h
    obtain ⟨ws, hws⟩ := List.head?_eq_some_iff.mp h
    have hw : sep ∉ w := notMem_of_mem_fields (hws ▸ List.mem_cons_self)
    by_cases hne : ws = []
    · refine ⟨hw, [], ?_, .inl rfl⟩
      rw [List.append_nil]
      exact (fields_eq_singleton_iff.mp (hne ▸ hws)).1
    · obtain ⟨a, b, rfl, ha, -⟩ := (fields_eq_append_iff (List.cons_ne_nil w []) hne).mp hws
      obtain ⟨rfl, -⟩ := fields_eq_singleton_iff.mp ha
      exact ⟨hw, sep :: b, rfl, .inr rfl⟩
  · rintro ⟨hw, rest, rfl, rfl | hrest⟩
    · rw [List.append_nil, fields_of_notMem hw]
      rfl
    · obtain ⟨b, rfl⟩ := List.head?_eq_some_iff.mp hrest
      rw [fields_append_cons, fields_of_notMem hw]
      rfl

lemma notMem_join {c : CodePoint} {sep : Text} {ts : List Text} (hsep : c ∉ sep)
    (hts : ∀ t ∈ ts, c ∉ t) : c ∉ join sep ts := by
  induction ts with
  | nil => simp [join]
  | cons t ts ih =>
      have ht := hts t (by simp)
      have hrest := ih fun u hu => hts u (by simp [hu])
      cases ts with
      | nil => simpa [join] using ht
      | cons u ts => simp [join, hsep, ht, hrest]

lemma mem_join {c : CodePoint} {sep t : Text} {ts : List Text} (ht : t ∈ ts) (hc : c ∈ t) :
    c ∈ join sep ts := by
  induction ts with
  | nil => cases ht
  | cons u ts ih =>
      cases ts with
      | nil => simpa [join, ← List.mem_singleton.mp ht] using hc
      | cons v ts =>
          rw [join, List.mem_append, List.mem_append]
          rcases List.mem_cons.mp ht with rfl | ht
          · exact .inl (.inl hc)
          · exact .inr (ih ht)

end TestScaffold.Text
