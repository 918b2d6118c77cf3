import TestScaffold.Proofs.Disk.Adding
import TestScaffold.Proofs.Disk.Nesting

/-!
Straight paths: those that pass no link, if their dots are taken by spelling.

* `Path.spelled` is a path as it is put together from parts, after the root or
  after the working directory. Its last part is put on and taken off again
  (`joinTo_spelled`, `splitLast_spelled`).
* `Clear` says that no place on the way is a link. A walk on a clear way follows
  no link, so it comes to where its steps say (`stride_of_resolve`).
* `Straight` is a clear path that does not begin with exactly two slashes.
  `canonical_of_straight`: the path without links that it stands for is the
  spelling of its place. `openLog_of_straight`: its absolute path is opened there.
-/

namespace TestScaffold

namespace Path

/-! ### Parts put together -/

/-- The parts of a path after the root, or after the working directory. -/
def spelled (rooted : Bool) (ps : List Text) : Text :=
  (if rooted then [char '/'] else []) ++ Text.join [char '/'] ps

variable {rooted : Bool} {ps : List Text} {c : Text}

lemma join_concat (hps : ps ≠ []) (c : Text) :
    Text.join [char '/'] (ps ++ [c]) = Text.join [char '/'] ps ++ char '/' :: c :=
  Text.join_append hps (by simp)

lemma spelled_concat (hps : ps ≠ []) (c : Text) :
    spelled rooted (ps ++ [c]) = spelled rooted ps ++ char '/' :: c := by
  rw [spelled, join_concat hps, spelled, List.append_assoc]

/-- A path that is spelled from its parts is followed by them. -/
lemma steps_spelled (h : ∀ c ∈ ps, c ≠ [] ∧ char '/' ∉ c) :
    Disk.steps (spelled rooted ps) = ps := by
  cases rooted with
  | false => exact Disk.steps_join h
  | true => exact (Disk.steps_slash _).trans (Disk.steps_join h)

lemma head?_join (h : ∀ c ∈ ps, c ≠ [] ∧ char '/' ∉ c) :
    (Text.join [char '/'] ps).head? ≠ some (char '/') := by
  cases ps with
  | nil => simp [Text.join]
  | cons c ps =>
      obtain ⟨hne, hslash⟩ := h c (by simp)
      obtain ⟨b, s, rfl⟩ := List.exists_cons_of_ne_nil hne
      have hb : b ≠ char '/' := fun hb => hslash (by simp [hb])
      cases ps <;> simpa [Text.join] using hb

/-- It begins with a slash if it is spelled from the root. -/
lemma head?_spelled (h : ∀ c ∈ ps, c ≠ [] ∧ char '/' ∉ c) :
    (spelled rooted ps).head? = some (char '/') ↔ rooted = true := by
  cases rooted with
  | false => simpa [spelled] using head?_join h
  | true => simp [spelled]

lemma leadingSlashes_cons {s : Text} (h : s.head? ≠ some (char '/')) :
    leadingSlashes (char '/' :: s) = 1 := by
  unfold leadingSlashes
  split <;> simp_all

/-- A path of parts keeps one slash at its beginning, or none. -/
lemma leadingSlashes_spelled (h : ∀ c ∈ ps, c ≠ [] ∧ char '/' ∉ c) :
    leadingSlashes (spelled rooted ps) ≠ 2 := by
  have hjoin := head?_join h
  cases rooted with
  | false =>
      have hzero : leadingSlashes (Text.join [char '/'] ps) = 0 := by
        unfold leadingSlashes
        split <;> simp_all
      simp [spelled, hzero]
  | true => simp [spelled, leadingSlashes_cons hjoin]

/-- Two slashes at the beginning are kept by a path, and come from nothing else. -/
lemma leadingSlashes_toText {p : Path} (hslashes : p.slashes ≤ 1)
    (h : ∀ c ∈ p.parts, c ≠ [] ∧ char '/' ∉ c) : leadingSlashes p.toText ≠ 2 := by
  obtain ⟨slashes, parts⟩ := p
  rw [toText]
  split
  · decide
  · interval_cases slashes
    · exact @leadingSlashes_spelled false _ h
    · exact @leadingSlashes_spelled true _ h

lemma slashes_ofText_le {t : Text} (h : leadingSlashes t ≠ 2) : (ofText t).slashes ≤ 1 := by
  change leadingSlashes t ≤ 1
  unfold leadingSlashes at h ⊢
  split <;> simp_all

/-- The parts of a path are not empty and have no slash in them. -/
lemma parts_ofText (t : Text) : ∀ c ∈ (ofText t).parts, c ≠ [] ∧ char '/' ∉ c := by
  intro c hc
  refine ⟨?_, notMem_of_mem_parts hc⟩
  have hkept := (List.mem_filter.mp hc).2
  rw [Bool.and_eq_true_iff] at hkept
  simpa using hkept.1

lemma getLast?_spelled (h : ∀ c ∈ ps, c ≠ [] ∧ char '/' ∉ c) (hps : ps ≠ []) :
    spelled rooted ps ≠ [] ∧ (spelled rooted ps).getLast? ≠ some (char '/') := by
  obtain ⟨qs, c, rfl⟩ := List.eq_nil_or_concat ps |>.resolve_left hps
  obtain ⟨hne, hslash⟩ := h c (by simp)
  have hlast : ∀ s : Text, s ++ c ≠ [] ∧ (s ++ c).getLast? ≠ some (char '/') := by
    intro s
    rw [List.getLast?_append_of_ne_nil _ hne]
    exact ⟨by simp [hne], fun hc => hslash (List.mem_of_getLast? hc)⟩
  by_cases hqs : qs = []
  · subst hqs
    exact hlast _
  · rw [List.concat_eq_append, spelled_concat hqs, List.append_cons]
    exact hlast _

/-- A part put on. -/
lemma joinTo_spelled (h : ∀ c ∈ ps, c ≠ [] ∧ char '/' ∉ c) (hc : char '/' ∉ c) :
    joinTo (spelled rooted ps) c = spelled rooted (ps ++ [c]) := by
  have hhead : c.head? ≠ some (char '/') := fun hhead => hc (List.mem_of_head? hhead)
  rw [joinTo, if_neg hhead]
  by_cases hps : ps = []
  · subst hps
    cases rooted <;> simp [spelled, Text.join]
  · obtain ⟨hne, hlast⟩ := @getLast?_spelled rooted _ h hps
    rw [if_neg (by simp [hne, hlast]), spelled_concat hps]

/-- A part taken off. -/
lemma splitLast_spelled (h : ∀ c ∈ ps, c ≠ [] ∧ char '/' ∉ c) (hc : char '/' ∉ c) :
    splitLast (spelled rooted (ps ++ [c])) = (spelled rooted ps, c) := by
  by_cases hps : ps = []
  · subst hps
    have hend : ∀ b ∈ c.reverse, (b != char '/') = true := by
      intro b hb
      simpa using fun heq : b = char '/' => hc (heq ▸ by simpa using hb)
    cases rooted with
    | false =>
        have htail : c.reverse.takeWhile (· != char '/') = c.reverse := by
          simpa using Text.takeWhile_append hend (s := []) (by simp)
        simp [spelled, Text.join, splitLast, htail]
    | true =>
        have htail : (c.reverse ++ [char '/']).takeWhile (· != char '/') = c.reverse :=
          Text.takeWhile_append hend (by simp)
        simp [spelled, Text.join, splitLast, htail]
  · obtain ⟨hne, hlast⟩ := @getLast?_spelled rooted _ h hps
    rw [spelled_concat hps, splitLast_append hne hlast hc]

/-- The parts above those of a path: two dots are put on where none can be taken
off. -/
def partsAbove (rooted : Bool) (ps : List Text) : List Text :=
  match ps.getLast? with
  | none => if rooted then [] else [[char '.', char '.']]
  | some c => if c = [char '.', char '.'] then ps ++ [c] else ps.dropLast

lemma parentOf_spelled (h : ∀ c ∈ ps, c ≠ [] ∧ char '/' ∉ c) :
    parentOf (spelled rooted ps) = spelled rooted (partsAbove rooted ps) := by
  by_cases hps : ps = []
  · subst hps
    cases rooted <;> decide
  obtain ⟨qs, c, rfl⟩ := List.eq_nil_or_concat ps |>.resolve_left hps
  rw [List.concat_eq_append] at h ⊢
  have hqs : ∀ c ∈ qs, c ≠ [] ∧ char '/' ∉ c := fun b hb => h b (by simp [hb])
  obtain ⟨hne, hslash⟩ := h c (by simp)
  rw [parentOf, if_neg (getLast?_spelled h (by simp)).1, splitLast_spelled hqs hslash]
  by_cases hdots : c = [char '.', char '.']
  · subst hdots
    simp only [partsAbove, List.getLast?_concat, if_true]
    rw [joinTo_spelled hqs hslash, joinTo_spelled h hslash]
  · simp [partsAbove, hdots]

end Path

namespace Disk

open TestScaffold.Path (spelled)

variable {d d' : Disk} {aim : Aim} {slash : Bool} {here l : Location} {todo : List Text}
  {path c : Text}

/-! ### Clear ways -/

/-- Nothing on the way along the steps is a link. -/
def Clear (d : Disk) (l : Location) (todo : List Text) : Prop :=
  ∀ xs, xs <+: todo → ∀ t, d.get? (lexical l xs) ≠ some (.link t)

instance (o : Option Node) : Decidable (∀ t, o ≠ some (.link t)) :=
  match o with
  | some (.link t) => .isFalse fun h => h t rfl
  | none | some .dir | some (.file _) | some .faulty => .isTrue (by simp)

instance (d : Disk) (l : Location) (todo : List Text) : Decidable (d.Clear l todo) :=
  decidable_of_iff (∀ xs ∈ todo.inits, ∀ t, d.get? (lexical l xs) ≠ some (.link t)) (by
    simp only [List.mem_inits, Clear])

namespace Clear

lemma start (h : d.Clear l todo) (t : Text) : d.get? l ≠ some (.link t) :=
  h [] List.nil_prefix t

/-- What is clear from a place on is clear from the next one. -/
lemma tail (h : d.Clear l (c :: todo)) : d.Clear (stepTo l c) todo := fun xs hxs t =>
  h (c :: xs) (by simpa using hxs) t

lemma last (h : d.Clear l todo) (t : Text) : d.get? (lexical l todo) ≠ some (.link t) :=
  h todo List.prefix_rfl t

/-- A clear path can be followed one step further, if no link is there. -/
lemma concat (h : d.Clear l todo) (hc : ∀ t, d.get? (lexical l (todo ++ [c])) ≠ some (.link t)) :
    d.Clear l (todo ++ [c]) := by
  intro xs hxs
  rcases List.prefix_concat_iff.mp hxs with rfl | hxs
  · exact hc
  · exact h xs hxs

lemma of_prefix {xs : List Text} (h : d.Clear l todo) (hxs : xs <+: todo) : d.Clear l xs :=
  fun ys hys => h ys (hys.trans hxs)

/-- No new link is in the way. -/
lemma adds (h : d.Clear l todo) (hd : d.Adds d') : d'.Clear l todo := fun xs hxs t hl =>
  h xs hxs t (hd.get?_link hl)

/-- A clear path is one stride. -/
lemma stride_ne_link (h : d.Clear l todo) {k : Location} {t : Text} {rest : List Text} :
    d.stride aim slash l todo ≠ .link k t rest := by
  fun_induction stride d aim slash l todo with
  | case4 l rest hl ih => exact ih (by simpa [stepTo] using h.tail)
  | case5 l rest hl hdot ih => exact ih (by simpa [stepTo] using h.tail)
  | case11 l c rest hl hdot hdots hfile hlong t₀ ht hend =>
      have hnone := h.tail.start t₀
      rw [stepTo, if_neg hdot, if_neg hdots] at hnone
      exact absurd ht hnone
  | case12 l c rest hl hdot hdots hfile hlong n₀ hlink hn₀ ih =>
      exact ih (by simpa [stepTo, hdot, hdots] using h.tail)
  | _ => simp

/-- A clear path leads where a stride along its steps leads. -/
lemma stride_of_resolve {s : Spot} (h : d.Clear (origin here path) (steps path))
    (hres : d.resolve here path aim = .ok s) :
    d.stride aim (endsInSlash path) (origin here path) (steps path) = .arrived s := by
  rw [resolve] at hres
  split at hres
  · cases hres
  split at hres
  · cases hres
  rw [walk] at hres
  split at hres
  · next hstride =>
      split at hres
      · cases hres
      · rw [hstride, Except.ok.inj hres]
  · next hstride => rw [hstride, Except.ok.inj hres]
  · cases hres
  · next hstride => exact absurd hstride h.stride_ne_link

/-- At the end of a clear path there is no link. -/
lemma linkAt?_eq_none (h : d.Clear (origin here path) (steps path)) :
    d.linkAt? here path = none := by
  rw [linkAt?]
  split
  · next l t hres =>
      have hstride := h.stride_of_resolve hres
      have hget := get?_of_resolve_found hres
      rw [eq_lexical_of_found hstride] at hget
      exact absurd hget (h.last t)
  · rfl

end Clear

/-! ### Paths without links -/

/-- The first step of a text, and the steps after it. -/
lemma steps_cons {b : CodePoint} (hb : b ≠ char '/') (s : Text) :
    steps (b :: s) =
      (b :: s.takeWhile (· != char '/')) :: steps ((s.dropWhile (· != char '/')).drop 1) := by
  have hname : char '/' ∉ b :: s.takeWhile (· != char '/') := by
    intro hmem
    rcases List.mem_cons.mp hmem with heq | hmem
    · exact hb heq.symm
    · simpa using List.mem_takeWhile_imp hmem
  have hstep : steps (b :: s.takeWhile (· != char '/')) = [b :: s.takeWhile (· != char '/')] :=
    steps_of_notMem (by simp) hname
  have hcut : s.takeWhile (· != char '/') ++ s.dropWhile (· != char '/') = s :=
    List.takeWhile_append_dropWhile
  cases hrest : s.dropWhile (· != char '/') with
  | nil =>
      rw [hrest, List.append_nil] at hcut
      rw [hcut] at hstep ⊢
      simpa using hstep
  | cons e rest =>
      have hstops := Text.stops_dropWhile (· != char '/') s
      rw [hrest, Text.stops_cons] at hstops
      obtain rfl : e = char '/' := by simpa using hstops
      have hsplit : b :: s = (b :: s.takeWhile (· != char '/')) ++ char '/' :: rest := by
        conv_lhs => rw [← hcut, hrest]
        rfl
      rw [hsplit, steps_append_slash, hstep]
      rfl

/-- Where the parts above those of a clear path lead. -/
lemma lexical_partsAbove {rooted : Bool} {ps : List Text}
    (hdot : [char '.'] ∉ ps) : lexical (if rooted then [] else here) (Path.partsAbove rooted ps) =
      (lexical (if rooted then [] else here) ps).tail := by
  by_cases hps : ps = []
  · subst hps
    cases rooted <;> simp [Path.partsAbove, lexical_cons, stepTo]
  obtain ⟨qs, c, rfl⟩ := List.eq_nil_or_concat ps |>.resolve_left hps
  rw [List.concat_eq_append] at hdot ⊢
  have hc : c ≠ [char '.'] := by
    rintro rfl
    simp at hdot
  by_cases hdots : c = [char '.', char '.']
  · subst hdots
    simp [Path.partsAbove, lexical_append, lexical_cons, stepTo]
  · rw [lexical_concat hc hdots]
    simp [Path.partsAbove, hdots]

/-- What is found of a path: its parts, none of them a single dot, and the place
that they lead to on a clear way. -/
structure Found (d : Disk) (here : Location) (rooted : Bool) (ps : List Text) (l : Location) :
    Prop where
  parts : ∀ c ∈ ps, c ≠ [] ∧ char '/' ∉ c
  notMem : [char '.'] ∉ ps
  clear : d.Clear (if rooted then [] else here) ps
  place : lexical (if rooted then [] else here) ps = l

namespace Found

variable {rooted : Bool} {ps : List Text}

/-- One name more. -/
lemma concat (h : d.Found here rooted ps l) (hne : c ≠ []) (hc : char '/' ∉ c)
    (hdot : c ≠ [char '.']) (hdots : c ≠ [char '.', char '.'])
    (hlink : ∀ t, d.get? (c :: l) ≠ some (.link t)) :
    d.Found here rooted (ps ++ [c]) (c :: l) := by
  have hplace : lexical (if rooted then [] else here) (ps ++ [c]) = c :: l := by
    rw [lexical_concat hdot hdots, h.place]
  refine ⟨fun b hb => ?_, by simp [h.notMem, Ne.symm hdot], h.clear.concat ?_, hplace⟩
  · rcases List.mem_append.mp hb with hb | hb
    · exact h.parts b hb
    · obtain rfl := List.mem_singleton.mp hb
      exact ⟨hne, hc⟩
  · rwa [hplace]

/-- Two dots more. -/
lemma above (h : d.Found here rooted ps l) (hlink : ∀ t, d.get? l.tail ≠ some (.link t)) :
    d.Found here rooted (Path.partsAbove rooted ps) l.tail := by
  have hplace : lexical (if rooted then [] else here) (Path.partsAbove rooted ps) = l.tail := by
    rw [lexical_partsAbove h.notMem, h.place]
  by_cases hps : ps = []
  · subst hps
    cases rooted with
    | true => exact ⟨by simp [Path.partsAbove], by simp [Path.partsAbove], h.clear, hplace⟩
    | false =>
        refine ⟨by simp [Path.partsAbove], by simp [Path.partsAbove], ?_, hplace⟩
        exact @Clear.concat _ _ [] _ h.clear (by simpa [Path.partsAbove] using hplace ▸ hlink)
  obtain ⟨qs, c, rfl⟩ := List.eq_nil_or_concat ps |>.resolve_left hps
  rw [List.concat_eq_append] at h hplace ⊢
  by_cases hdots : c = [char '.', char '.']
  · subst hdots
    simp only [Path.partsAbove, List.getLast?_concat, if_true] at hplace ⊢
    refine ⟨fun b hb => ?_, by simpa using h.notMem, h.clear.concat (hplace ▸ hlink), hplace⟩
    rcases List.mem_append.mp hb with hb | hb
    · exact h.parts b hb
    · obtain rfl := List.mem_singleton.mp hb
      simp
  · have habove : Path.partsAbove rooted (qs ++ [c]) = qs := by simp [Path.partsAbove, hdots]
    rw [habove] at hplace ⊢
    exact ⟨fun b hb => h.parts b (by simp [hb]), fun hmem => h.notMem (by simp [hmem]),
      h.clear.of_prefix (List.prefix_append _ _), hplace⟩

lemma origin_eq (h : d.Found here rooted ps l) :
    origin here (spelled rooted ps) = if rooted then [] else here := by
  simp only [origin, Path.head?_spelled h.parts]

/-- What is found is no link. -/
lemma linkAt?_eq_none (h : d.Found here rooted ps l) :
    d.linkAt? here (spelled rooted ps) = none := by
  refine Clear.linkAt?_eq_none ?_
  rw [h.origin_eq, Path.steps_spelled h.parts]
  exact h.clear

end Found

/-- The first step of a text, where it is a name, put on what is found. -/
lemma Found.next {rooted : Bool} {ps : List Text} {b : CodePoint} {s : Text}
    (h : d.Found here rooted ps l) (hs : d.Clear l (steps (b :: s))) (hb : b ≠ char '/')
    (hdot : b :: s.takeWhile (· != char '/') ≠ [char '.'])
    (hdots : b :: s.takeWhile (· != char '/') ≠ [char '.', char '.']) :
    ∃ l', d.Found here rooted (ps ++ [b :: s.takeWhile (· != char '/')]) l' ∧
      Path.joinTo (spelled rooted ps) (b :: s.takeWhile (· != char '/')) =
        spelled rooted (ps ++ [b :: s.takeWhile (· != char '/')]) ∧
      d.Clear l' (steps ((s.dropWhile (· != char '/')).drop 1)) ∧
      lexical l (steps (b :: s)) = lexical l' (steps ((s.dropWhile (· != char '/')).drop 1)) := by
  rw [steps_cons hb] at hs ⊢
  set name := b :: s.takeWhile (· != char '/')
  have hslash : char '/' ∉ name := notMem_of_mem_steps (p := b :: s) (by simp [steps_cons hb, name])
  have hstep : stepTo l name = name :: l := by rw [stepTo, if_neg hdot, if_neg hdots]
  have hrest := hs.tail
  rw [hstep] at hrest
  refine ⟨name :: l, h.concat (by simp [name]) hslash hdot hdots hrest.start,
    Path.joinTo_spelled h.parts hslash, hrest, ?_⟩
  rw [lexical_cons, hstep]

lemma mem_of_mem_rest {b e : CodePoint} {s : Text} (h : e ∈ (s.dropWhile (· != char '/')).drop 1) :
    e ∈ b :: s :=
  .tail b ((List.dropWhile_sublist _).mem (List.mem_of_mem_drop h))

/-- **On a clear way nothing is replaced**: the text after what has been found is
taken apart step by step, and what is found in the end leads to where its steps
say. Only a part that is in no path is refused. -/
lemma settle_of_found (budget : ℕ) {rooted : Bool} {ps : List Text} {s : Text}
    (h : d.Found here rooted ps l) (hs : d.Clear l (steps s)) :
    (∃ ps', d.settle here budget [] (spelled rooted ps) s [] = .ok (spelled rooted ps') ∧
        d.Found here rooted ps' (lexical l (steps s))) ∨
      ¬s.isPath ∧ ∃ q, d.settle here budget [] (spelled rooted ps) s [] = .error (.notPath q) := by
  have hafter : ∀ {b : CodePoint} {s : Text}, ¬Text.isPath ((s.dropWhile (· != char '/')).drop 1) →
      ¬Text.isPath (b :: s) := fun hno hpath =>
    hno (Text.isPath_of_subset hpath fun _ => mem_of_mem_rest)
  -- by induction on the run, for which what it began with has to be forgotten: nothing was seen
  -- yet, and no link is being followed
  generalize hseen : ([] : List (Text × Option Text)) = seen
  generalize hdone : spelled rooted ps = done
  generalize haround : ([] : List Pending) = around
  fun_induction settle d here budget seen done s around generalizing ps l
  case case1 => exact .inl ⟨ps, by rw [hdone], by simpa using h⟩
  case case2 => cases haround
  case case3 ih =>
      rw [steps_slash] at hs ⊢
      exact (ih h hs hseen hdone haround).imp_right fun hno =>
        ⟨fun hpath => hno.1 (Text.isPath_cons.mp hpath).2, hno.2⟩
  case case4 hb _ _ _ hdot ih =>
      rw [steps_cons hb] at hs ⊢
      have hrest := hs.tail
      rw [lexical_cons]
      rw [stepTo, if_pos hdot] at hrest ⊢
      exact (ih h hrest hseen hdone haround).imp_right fun hno => ⟨hafter hno.1, hno.2⟩
  case case5 hb _ _ _ hdot hdots ih =>
      rw [steps_cons hb] at hs ⊢
      have hrest := hs.tail
      rw [lexical_cons]
      rw [stepTo, if_neg hdot, if_pos hdots] at hrest ⊢
      have habove := @Path.parentOf_spelled rooted _ h.parts
      exact (ih (h.above hrest.start) hrest hseen (by rw [← habove, hdone]) haround).imp_right
        fun hno => ⟨hafter hno.1, hno.2⟩
  case case6 hno =>
      refine .inr ⟨fun hpath => hno (Text.isPath_of_subset hpath fun c hc => ?_), _, rfl⟩
      exact List.cons_subset_cons _ (List.takeWhile_sublist _).subset hc
  case case7 hb _ _ _ hdot hdots _ _ _ ih =>
      obtain ⟨l', hfound, hjoin, hrest, hlex⟩ := h.next hs hb hdot hdots
      rw [hlex]
      exact (ih hfound hrest hseen (by rw [← hjoin, hdone]) haround).imp_right fun hno =>
        ⟨hafter hno.1, hno.2⟩
  -- the remaining cases are those of a link
  all_goals
    obtain ⟨l', hfound, hjoin, -⟩ := h.next hs ‹_› ‹_› ‹_›
    have hnone := hfound.linkAt?_eq_none
    rw [← hjoin, hdone] at hnone
    cases hnone.symm.trans ‹d.linkAt? here _ = some _›

/-- The path passes no link, its dots taken by spelling, and it does not begin
with exactly two slashes. -/
structure Straight (d : Disk) (here : Location) (path : Text) : Prop where
  slashes : Path.leadingSlashes path ≠ 2
  clear : d.Clear (origin here path) (steps path)

lemma straight_iff : d.Straight here path ↔
    Path.leadingSlashes path ≠ 2 ∧ d.Clear (origin here path) (steps path) :=
  ⟨fun h => ⟨h.slashes, h.clear⟩, fun ⟨h₁, h₂⟩ => ⟨h₁, h₂⟩⟩

instance (d : Disk) (here : Location) (path : Text) : Decidable (d.Straight here path) :=
  decidable_of_iff _ straight_iff.symm

lemma Straight.adds (h : d.Straight here path) (hd : d.Adds d') : d'.Straight here path :=
  ⟨h.slashes, h.clear.adds hd⟩

/-- Without links all that can be wrong with a path are two slashes at the beginning. -/
lemma LinkFree.straight (hd : d.LinkFree) (h : Path.leadingSlashes path ≠ 2) :
    d.Straight here path :=
  ⟨h, fun xs _ => hd (lexical (origin here path) xs)⟩

/-! ### Places -/

/-- Names lead to a place whose names are names again. -/
lemma isName_lexical (hl : ∀ c ∈ l, Path.IsName c) (htodo : ∀ c ∈ todo, c ≠ [] ∧ char '/' ∉ c) :
    ∀ c ∈ lexical l todo, Path.IsName c := by
  induction todo generalizing l with
  | nil => exact hl
  | cons b todo ih =>
      rw [lexical_cons]
      refine ih (fun c hc => ?_) fun c hc => htodo c (by simp [hc])
      rw [stepTo] at hc
      split at hc
      · exact hl c hc
      split at hc
      · exact hl c (List.mem_of_mem_tail hc)
      · rcases List.mem_cons.mp hc with rfl | hc
        · obtain ⟨hne, hslash⟩ := htodo c (by simp)
          exact ⟨hne, hslash, ‹_›, ‹_›⟩
        · exact hl c hc

lemma isName_placeOf (hhere : ∀ c ∈ here, Path.IsName c) (path : Text) :
    ∀ c ∈ placeOf here path, Path.IsName c := by
  refine isName_lexical (fun c hc => ?_)
    fun c hc => ⟨ne_nil_of_mem_steps hc, notMem_of_mem_steps hc⟩
  rw [origin] at hc
  split at hc
  · simp at hc
  · exact hhere c hc

/-- What is above a place was passed on the way, unless it is above its
beginning. -/
lemma of_suffix_lexical {m : Location} (h : m <:+ lexical l todo) :
    m <:+ l ∨ ∃ xs, xs <+: todo ∧ lexical l xs = m := by
  induction todo using List.reverseRecOn with
  | nil => exact .inl h
  | append_singleton todo c ih =>
      have hbefore : m <:+ lexical l todo →
          m <:+ l ∨ ∃ xs, xs <+: todo ++ [c] ∧ lexical l xs = m := by
        intro hm
        refine (ih hm).imp_right fun ⟨xs, hxs, heq⟩ => ⟨xs, hxs.trans (List.prefix_append _ _), heq⟩
      rw [lexical_append, lexical_cons, lexical_nil, stepTo] at h
      split at h
      · exact hbefore h
      split at h
      · exact hbefore (h.trans (List.tail_suffix _))
      · rcases List.suffix_cons_iff.mp h with rfl | h
        · exact .inr ⟨todo ++ [c], List.prefix_rfl, lexical_concat ‹_› ‹_›⟩
        · exact hbefore h

lemma IsTree.get?_of_suffix {m : Location} (h : d.IsTree) (hl : d.get? l = some .dir)
    (hm : m <:+ l) : d.get? m = some .dir := by
  induction l with
  | nil =>
      obtain rfl := List.suffix_nil.mp hm
      exact hl
  | cons c l ih =>
      rcases List.suffix_cons_iff.mp hm with rfl | hm
      · exact hl
      · exact ih (h.parent c l (by simp [hl])) hm

lemma pathTo_eq_spelled (l : Location) : pathTo l = spelled true l.reverse := rfl

lemma parts_reverse (hl : ∀ c ∈ l, Path.IsName c) : ∀ c ∈ l.reverse, c ≠ [] ∧ char '/' ∉ c := by
  intro c hc
  have hname := hl c (by simpa using hc)
  exact ⟨hname.ne_nil, hname.notMem⟩

/-- The path to a place is followed by its names from the root. -/
lemma steps_pathTo (hl : ∀ c ∈ l, Path.IsName c) : steps (pathTo l) = l.reverse := by
  rw [pathTo_eq_spelled, Path.steps_spelled (parts_reverse hl)]

lemma leadingSlashes_pathTo (hl : ∀ c ∈ l, Path.IsName c) : Path.leadingSlashes (pathTo l) ≠ 2 := by
  rw [pathTo_eq_spelled]
  exact Path.leadingSlashes_spelled (parts_reverse hl)

lemma leadingSlashes_joinTo_pathTo (hhere : ∀ c ∈ here, Path.IsName c)
    (h : Path.leadingSlashes path ≠ 2) :
    Path.leadingSlashes (Path.joinTo (pathTo here) path) = 1 := by
  refine (Path.leadingSlashes_of_head (Path.head?_joinTo_pathTo here path)).resolve_right ?_
  by_cases hhead : path.head? = some (char '/')
  · rwa [Path.joinTo, if_pos hhead]
  have hparts := parts_reverse hhere
  have hjoin := Path.head?_join hparts
  cases here with
  | nil =>
      have hjoined : Path.joinTo (pathTo []) path = char '/' :: path := by
        simp [Path.joinTo, hhead, pathTo, Text.join]
      rw [hjoined, Path.leadingSlashes_cons hhead]
      simp
  | cons c here =>
      have hne : Text.join [char '/'] (c :: here).reverse ≠ [] :=
        (@Path.getLast?_spelled false _ hparts (by simp)).1
      have hcons : ∀ t,
          (Text.join [char '/'] (c :: here).reverse ++ t).head? ≠ some (char '/') := by
        intro t
        rwa [List.head?_append_of_ne_nil _ hne]
      rw [Path.joinTo, if_neg hhead, pathTo]
      split
      · rw [List.cons_append, Path.leadingSlashes_cons (hcons _)]
        simp
      · rw [List.cons_append, Path.leadingSlashes_cons (hcons _)]
        simp

/-- The absolute path is the spelling of the place, unless exactly two slashes
stand at the beginning. -/
lemma absolute_eq_pathTo_of_slashes (hhere : ∀ c ∈ here, Path.IsName c)
    (h : Path.leadingSlashes path ≠ 2) :
    Path.absolute (pathTo here) path = pathTo (placeOf here path) := by
  rw [Path.absolute_eq_append hhere, leadingSlashes_joinTo_pathTo hhere h]
  rfl

/-- The path of a place has the names that lead to it as its parts. -/
lemma ofText_pathTo (hl : ∀ c ∈ l, Path.IsName c) : Path.ofText (pathTo l) = ⟨1, l.reverse⟩ := by
  have hparts : Path.partsOf (pathTo l) = l.reverse := by
    rw [Path.partsOf_eq_filter, steps_pathTo hl, List.filter_eq_self]
    intro c hc
    simpa using (hl c (by simpa using hc)).ne_dot
  have hslashes : Path.leadingSlashes (pathTo l) = 1 :=
    Path.leadingSlashes_cons (Path.head?_join (parts_reverse hl))
  rw [Path.ofText, hparts, hslashes]

/-- The path of a place is its only spelling. -/
lemma toText_ofText_pathTo (hl : ∀ c ∈ l, Path.IsName c) :
    (Path.ofText (pathTo l)).toText = pathTo l := by
  rw [ofText_pathTo hl]
  simp [Path.toText, pathTo]

lemma stride_ne_tooManyLinks : d.stride aim slash l todo ≠ .blocked .tooManyLinks := by
  fun_induction stride d aim slash l todo <;> simp_all

lemma Clear.stat_ne_tooManyLinks (h : d.Clear (origin here path) (steps path)) :
    d.stat here path ≠ .error .tooManyLinks := by
  have hresolve : d.resolve here path .content ≠ .error .tooManyLinks := by
    rw [resolve]
    split
    · simp
    split
    · simp
    rw [walk]
    split
    · split <;> simp
    · simp
    · next e hstride =>
        rintro heq
        rw [Except.error.inj heq] at hstride
        exact stride_ne_tooManyLinks hstride
    · next hstride => exact absurd hstride h.stride_ne_link
  rw [stat]
  split
  · next e he => exact fun heq => hresolve (by rw [he, Except.error.inj heq])
  · simp
  · simp

/-- The way to the place of a straight path is clear. -/
lemma Straight.clear_pathTo (htree : d.IsTree) (hhere : d.get? here = some .dir)
    (h : d.Straight here path) :
    d.Clear (origin here (pathTo (placeOf here path))) (steps (pathTo (placeOf here path))) := by
  have hplace := isName_placeOf (htree.isName_of_mem (l := here) (by simp [hhere])) path
  have horigin : origin here (pathTo (placeOf here path)) = [] := by simp [origin, pathTo]
  rw [horigin, steps_pathTo hplace]
  intro xs hxs t
  obtain ⟨m, rfl⟩ : ∃ m, xs = m.reverse := ⟨xs.reverse, by simp⟩
  have hm : m <:+ placeOf here path := by simpa using hxs.reverse
  rw [Path.lexical_reverse fun c hc => hplace c (hm.mem hc)]
  rcases of_suffix_lexical hm with habove | ⟨ys, hys, rfl⟩
  · have hdir := htree.get?_of_suffix (get?_origin hhere path) habove
    simp [hdir]
  · exact h.clear ys hys t

/-- **A straight path stands for the spelling of its place**, unless it is in fact
no path. -/
theorem canonical_of_straight (htree : d.IsTree) (hhere : d.get? here = some .dir)
    (h : d.Straight here path) :
    d.canonical here path = .ok (Path.ofText (pathTo (placeOf here path))) ∨
      ((¬path.isPath ∨ ¬(pathTo (placeOf here path)).isPath) ∧
        ∃ q, d.canonical here path = .error (.notPath q)) := by
  have hnames : ∀ c ∈ here, Path.IsName c := htree.isName_of_mem (by simp [hhere])
  have hstart : (if path.head? = some (char '/') then [char '/'] else [] : Text) =
      spelled (decide (path.head? = some (char '/'))) [] := by
    by_cases hhead : path.head? = some (char '/') <;> simp [hhead, spelled, Text.join]
  have horigin : origin here path =
      if decide (path.head? = some (char '/')) = true then [] else here := by
    simp [origin]
  have hfound : d.Found here (decide (path.head? = some (char '/'))) [] (origin here path) := by
    refine ⟨by simp, by simp, ?_, by rw [horigin]; rfl⟩
    rw [← horigin]
    exact h.clear.of_prefix List.nil_prefix
  rw [canonical, hstart]
  dsimp only
  rcases settle_of_found (d.linkBudget here path) hfound h.clear with
    ⟨ps, hps, hplace⟩ | ⟨hno, q, herror⟩
  · have heq : placeOf here (spelled (decide (path.head? = some (char '/'))) ps) =
        placeOf here path := by
      rw [placeOf, hplace.origin_eq, Path.steps_spelled hplace.parts, hplace.place]
      rfl
    rw [hps]
    dsimp only
    rw [absolute_eq_pathTo_of_slashes hnames (Path.leadingSlashes_spelled hplace.parts), heq,
      toText_ofText_pathTo (isName_placeOf hnames path)]
    split
    · next hno => exact .inr ⟨.inr hno, _, rfl⟩
    · have hstat := (h.clear_pathTo htree hhere).stat_ne_tooManyLinks
      split
      · next hloop => exact absurd hloop hstat
      · exact .inl rfl
  · rw [herror]
    exact .inr ⟨.inl hno, q, rfl⟩

/-- The path of a directory is straight, since nothing above it is a link. -/
lemma IsTree.straight_pathTo (h : d.IsTree) (hl : d.get? l = some .dir) (here : Location) :
    d.Straight here (pathTo l) := by
  have hnames : ∀ c ∈ l, Path.IsName c := h.isName_of_mem (by simp [hl])
  refine ⟨leadingSlashes_pathTo hnames, ?_⟩
  have horigin : origin here (pathTo l) = [] := by simp [origin, pathTo]
  rw [horigin, steps_pathTo hnames]
  intro xs hxs t
  obtain ⟨m, rfl⟩ : ∃ m, xs = m.reverse := ⟨xs.reverse, by simp⟩
  have hm : m <:+ l := by simpa using hxs.reverse
  rw [Path.lexical_reverse fun c hc => hnames c (hm.mem hc), h.get?_of_suffix hl hm]
  simp

lemma canonical_of_straight_of_isPath (htree : d.IsTree) (hhere : d.get? here = some .dir)
    (h : d.Straight here path) (hpath : path.isPath)
    (hplace : (pathTo (placeOf here path)).isPath) :
    d.canonical here path = .ok (Path.ofText (pathTo (placeOf here path))) := by
  rcases canonical_of_straight htree hhere h with heq | ⟨hno, -⟩
  · exact heq
  · exact absurd hno (by simp [hpath, hplace])

/-- What a straight path stands for, if it can be understood. -/
lemma eq_of_canonical (htree : d.IsTree) (hhere : d.get? here = some .dir)
    (h : d.Straight here path) {p : Path} (hp : d.canonical here path = .ok p) :
    p = Path.ofText (pathTo (placeOf here path)) := by
  rcases canonical_of_straight htree hhere h with heq | ⟨-, _, herror⟩
  · rw [hp] at heq
    exact Except.ok.inj heq
  · rw [hp] at herror
    cases herror

/-- **The absolute path of a straight one is opened at its place**, also when
something has been added meanwhile. -/
theorem openLog_of_straight {d₁ : Disk} (htree : d.IsTree) (hhere : d.get? here = some .dir)
    (h : d.Straight here path) (hd : d.Adds d₁)
    (hopen : d₁.openLog here (Path.absolute (pathTo here) path) = .ok (d', l)) :
    l = placeOf here path := by
  have hnames : ∀ c ∈ here, Path.IsName c := htree.isName_of_mem (by simp [hhere])
  have hplace := isName_placeOf hnames path
  rw [absolute_eq_pathTo_of_slashes hnames h.slashes] at hopen
  have horigin : origin here (pathTo (placeOf here path)) = [] := by simp [origin, pathTo]
  have hlexical : lexical (origin here (pathTo (placeOf here path)))
      (steps (pathTo (placeOf here path))) = placeOf here path := by
    rw [horigin, steps_pathTo hplace, Path.lexical_reverse hplace]
  -- directories may have been added since, but no links
  have hclear := (h.clear_pathTo htree hhere).adds hd
  rw [openLog, target] at hopen
  split at hopen
  · cases hopen
  cases hres : d₁.resolve here (pathTo (placeOf here path)) .file with
  | error e => simp [hres] at hopen
  | ok spot =>
      have hstride := hclear.stride_of_resolve hres
      cases spot with
      | vacant k c =>
          have heq := eq_lexical_of_vacant hstride
          rw [hlexical] at heq
          obtain ⟨-, rfl⟩ : d₁.put (c :: k) (.file []) = d' ∧ c :: k = l := by
            simpa [hres] using hopen
          exact heq
      | found k n =>
          have heq := eq_lexical_of_found hstride
          rw [hlexical] at heq
          have hk : k = l := by
            cases n <;> simp [hres] at hopen
            · exact hopen.2
            · exact hopen.2
          rw [← hk, heq]

end Disk

end TestScaffold
