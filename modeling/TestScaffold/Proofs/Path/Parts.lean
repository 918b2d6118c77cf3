import TestScaffold.Proofs.Disk.Writing

/-!
The parts of a path beside those of another one.

* `partsOf_append_of_seam`: a path that is cut at a slash has the parts of both
  sides.
* `partsOf_of_isPrefix`: wherever a path is cut, all parts of what is before the cut
  are parts of the path, but the last one, which begins one. `partsOf_map`: the
  parts stay where they are when letters are exchanged.
* `prefix_of_lexical`: where a path leads further into a directory, it does so
  by its parts, if two dots are at most its last one.
-/

namespace TestScaffold

namespace Disk

variable {p q : Text}

/-- At such a place a path can be cut. -/
lemma steps_append_of_seam (h : q = [] ∨ q.head? = some (char '/') ∨ p.getLast? = some (char '/')) :
    steps (p ++ q) = steps p ++ steps q := by
  rcases h with rfl | h | h
  · simp
  · obtain ⟨t, rfl⟩ := List.head?_eq_some_iff.mp h
    rw [steps_append_slash, steps_slash]
  · obtain ⟨t, rfl⟩ := List.getLast?_eq_some_iff.mp h
    have hassoc : t ++ [char '/'] ++ q = t ++ char '/' :: q := by simp
    rw [hassoc, steps_append_slash, steps_append_slash, steps_nil, List.append_nil]

end Disk

namespace Path

variable {p q s : Text} {e : Text} {xs ys : List Text}

lemma partsOf_append_of_seam
    (h : q = [] ∨ q.head? = some (char '/') ∨ p.getLast? = some (char '/')) :
    partsOf (p ++ q) = partsOf p ++ partsOf q := by
  simp only [partsOf_eq_filter, Disk.steps_append_of_seam h, List.filter_append]

lemma partsOf_append_slash (p q : Text) :
    partsOf (p ++ char '/' :: q) = partsOf p ++ partsOf q := by
  simp only [partsOf_eq_filter, Disk.steps_append_slash, List.filter_append]

/-- The parts of a beginning of a path are the first ones of the path. -/
lemma partsOf_beginning (h : Beginning p q) : partsOf p <+: partsOf q := by
  obtain ⟨r, rfl, hseam⟩ := h
  rw [partsOf_append_of_seam hseam]
  exact List.prefix_append _ _

/-- What comes before all slashes and names something is in the first part. -/
lemma partsOf_append_of_notMem (hs : char '/' ∉ s) (hne : s ≠ []) (hdot : s ≠ [char '.'])
    (q : Text) : ∃ f fs, partsOf (s ++ q) = (s ++ f) :: fs := by
  obtain ⟨f, fs, hf⟩ := List.exists_cons_of_ne_nil (Text.fields_ne_nil (char '/') q)
  refine ⟨f, fs.filter fun p => p != [] && p != [char '.'], ?_⟩
  have hkept : s ++ f ≠ [char '.'] := by
    intro h
    cases s with
    | nil => exact hne rfl
    | cons c s =>
        obtain ⟨rfl, hrest⟩ := List.cons.inj h
        obtain ⟨rfl, -⟩ := List.append_eq_nil_iff.mp (show s ++ f = [] from hrest)
        exact hdot rfl
  rw [partsOf, Text.fields_append_of_notMem hs hf, List.filter_cons_of_pos]
  simp [hne, hkept]

/-- **The parts of what begins a path are those of the path**, but the last one
may be cut. -/
theorem partsOf_of_isPrefix (h : p <+: q) (hp : partsOf p = xs ++ e :: ys) :
    ∃ e' zs, partsOf q = xs ++ e' :: zs ∧ e <+: e' ∧ (ys ≠ [] → e' = e) := by
  obtain ⟨r, rfl⟩ := h
  -- what is before the last slash, and what may be cut
  have hsplit := eq_upToSlash_append p
  set up := (p.reverse.dropWhile (· != char '/')).reverse with hup
  set last := (p.reverse.takeWhile (· != char '/')).reverse with hlast
  have hslash : char '/' ∉ last := by
    intro hmem
    have h := List.mem_takeWhile_imp (List.mem_reverse.mp hmem)
    simp at h
  have hseam : ∀ t, partsOf (up ++ t) = partsOf up ++ partsOf t := by
    intro t
    by_cases hnil : up = []
    · simp [hnil, partsOf_eq_filter]
    · refine partsOf_append_of_seam (.inr (.inr ?_))
      rw [hup, List.getLast?_reverse]
      have hstops := Text.stops_dropWhile (· != char '/') p.reverse
      rcases hd : p.reverse.dropWhile (· != char '/') with _ | ⟨c, t⟩
      · simp [hup, hd] at hnil
      · rw [hd, Text.stops_cons] at hstops
        simpa using hstops
  have hq : partsOf (p ++ r) = partsOf up ++ partsOf (last ++ r) := by
    conv_lhs => rw [hsplit, List.append_assoc]
    exact hseam _
  rw [hsplit, hseam] at hp
  rw [hq]
  -- if nothing is cut, the parts go on after those of the beginning; otherwise the last of them
  -- does
  by_cases hnone : last = [] ∨ last = [char '.']
  · have hparts : partsOf last = [] := by
      rcases hnone with h | h <;> rw [h] <;> decide
    rw [hparts, List.append_nil] at hp
    exact ⟨e, ys ++ partsOf (last ++ r), by simp [hp], List.prefix_rfl, fun _ => rfl⟩
  · rw [not_or] at hnone
    obtain ⟨f, fs, hf⟩ := partsOf_append_of_notMem hslash hnone.1 hnone.2 r
    have hparts : partsOf last = [last] := by
      rw [partsOf, Text.fields_of_notMem hslash, List.filter_cons_of_pos (by simp [hnone])]
      rfl
    rw [hparts] at hp
    rw [hf]
    rcases List.eq_nil_or_concat ys with rfl | ⟨zs, z, rfl⟩
    · obtain ⟨hxs, he⟩ := List.append_inj' hp rfl
      obtain rfl : last = e := by simpa using he
      exact ⟨last ++ f, fs, by rw [hxs], List.prefix_append _ _, by simp⟩
    · have hp' : partsOf up ++ [last] = (xs ++ e :: zs) ++ [z] := by simpa using hp
      obtain ⟨hxs, -⟩ := List.append_inj' hp' rfl
      exact ⟨e, zs ++ (last ++ f) :: fs, by simp [hxs], List.prefix_rfl, fun _ => rfl⟩

/-- Letters may be exchanged before or after a path is taken apart. -/
lemma partsOf_map {g : CodePoint → CodePoint} (hslash : ∀ c, g c = char '/' ↔ c = char '/')
    (hdot : ∀ c, g c = char '.' ↔ c = char '.') (s : Text) :
    partsOf (s.map g) = (partsOf s).map (List.map g) := by
  have hpart : ∀ f : Text, f.map g = [char '.'] ↔ f = [char '.'] := by
    intro f
    cases f with
    | nil => simp
    | cons c f => simp [hdot]
  rw [partsOf, partsOf, Text.fields_map hslash, List.filter_map]
  congr 1
  refine List.filter_congr fun f _ => ?_
  rw [Bool.eq_iff_iff]
  simp [hpart]

end Path

namespace Disk

variable {l : Location} {cs ys : List Text}

/-- Single dots lead nowhere. -/
lemma lexical_partsOf (l : Location) (p : Text) :
    lexical l (Path.partsOf p) = lexical l (steps p) := by
  have hfilter : ∀ (todo : List Text) (l : Location),
      lexical l (todo.filter (· != [char '.'])) = lexical l todo := by
    intro todo
    induction todo with
    | nil => exact fun _ => rfl
    | cons c todo ih =>
        intro l
        by_cases hc : c = [char '.']
        · simp [hc, lexical_cons, stepTo, ih]
        · simp [hc, lexical_cons, ih]
  rw [Path.partsOf_eq_filter, hfilter]

lemma lexical_eq_reverse (h : ∀ c ∈ cs, c ≠ [char '.'] ∧ c ≠ [char '.', char '.']) (l : Location) :
    lexical l cs = cs.reverse ++ l := by
  induction cs generalizing l with
  | nil => rfl
  | cons c cs ih =>
      obtain ⟨hdot, hdots⟩ := h c (by simp)
      rw [lexical_cons, stepTo, if_neg hdot, if_neg hdots, ih fun b hb => h b (by simp [hb])]
      simp

/-- **Parts that lead further into a directory begin with what is further in**,
if two dots are at most the last one of them. -/
theorem prefix_of_lexical (hdot : [char '.'] ∉ cs) (hdots : [char '.', char '.'] ∉ cs.dropLast)
    (hne : ys ≠ []) (h : lexical l cs = ys.reverse ++ l) : ys <+: cs := by
  rcases List.eq_nil_or_concat cs with rfl | ⟨zs, c, rfl⟩
  · have hlen := congrArg List.length h
    simp only [lexical_nil, List.length_append, List.length_reverse] at hlen
    have hpos := List.length_pos_of_ne_nil hne
    omega
  rw [List.concat_eq_append] at *
  have hplain : ∀ b ∈ zs, b ≠ [char '.'] ∧ b ≠ [char '.', char '.'] := by
    intro b hb
    constructor
    · rintro rfl
      exact hdot (by simp [hb])
    · rintro rfl
      exact hdots (by simpa using hb)
  have hc : c ≠ [char '.'] := by
    rintro rfl
    exact hdot (by simp)
  by_cases hup : c = [char '.', char '.']
  · -- the last part goes back by one, so what is before it leads there
    rw [lexical_append, lexical_eq_reverse hplain, hup, lexical_cons, lexical_nil, stepTo,
      if_neg (by decide), if_pos rfl] at h
    rcases List.eq_nil_or_concat zs with rfl | ⟨ws, w, rfl⟩
    · have hlen := congrArg List.length h
      simp only [List.reverse_nil, List.nil_append, List.length_tail, List.length_append,
        List.length_reverse] at hlen
      have hpos := List.length_pos_of_ne_nil hne
      omega
    · have heq : ws.reverse ++ l = ys.reverse ++ l := by simpa using h
      obtain rfl : ws = ys := by simpa using heq
      exact ⟨[w, c], by simp⟩
  · rw [lexical_concat hc hup, lexical_eq_reverse hplain] at h
    have heq : (zs ++ [c]).reverse ++ l = ys.reverse ++ l := by simpa using h
    obtain rfl := List.reverse_injective (List.append_cancel_right heq)
    exact List.prefix_rfl

end Disk

end TestScaffold
