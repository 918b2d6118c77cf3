import Mathlib.Tactic.Lemma
import TestScaffold.Proofs.Text.Runs
import TestScaffold.Signature.Pattern

/-!
The grammar of annotated functions, and its reader.

A function is written as its annotation, blanks, perhaps a visibility and
perhaps blanks, the word `fun`, blanks, its name, its parameters in
parentheses, a colon, perhaps blanks, and its result type.

* `Spelling` holds what a writer may choose, `Spelling.write` is the text, and
  `Written` relates a text to what it declares. A `Signature.Writable` has a
  name and a result type that are words, and no parenthesis that closes the
  parameters early.
* `read?_eq_some_iff`: `Declaration.read?` reads exactly the written functions,
  each up to where the word of its result type ends.
* `Written.agree`: two ways to read a function at the beginning of one text
  agree on name and parameters, and one result type begins with the other.
  The blanks and the visibility can be cut in several ways, what is read
  cannot.
-/

namespace TestScaffold

/-- A signature that can be written down so that its parts are told apart. -/
structure Signature.Writable (sig : Signature) : Prop where
  name_ne_nil : sig.name ≠ []
  name_word : ∀ c ∈ sig.name, Text.isWord c
  parameters_open : char ')' ∉ sig.parameters
  returnType_ne_nil : sig.returnType ≠ []
  returnType_word : ∀ c ∈ sig.returnType, Text.isWord c

namespace Declaration

/-- What may be chosen when a function is written: its visibility, if any, and
the blanks. Those on both sides of a visibility that is left out stand next to
each other. -/
structure Spelling where
  gap : Text
  visibility : Text
  funGap : Text
  nameGap : Text
  typeGap : Text
  gap_ne_nil : gap ≠ []
  gap_blank : ∀ c ∈ gap, Text.isBlank c
  visibility_mem : visibility ∈ [] :: visibilities
  funGap_blank : ∀ c ∈ funGap, Text.isBlank c
  nameGap_ne_nil : nameGap ≠ []
  nameGap_blank : ∀ c ∈ nameGap, Text.isBlank c
  typeGap_blank : ∀ c ∈ typeGap, Text.isBlank c

/-- A function as it is written. -/
def Spelling.write (sp : Spelling) (annotationName : Text) (sig : Signature) : Text :=
  char '@' :: annotationName ++ (sp.gap ++ (sp.visibility ++ (sp.funGap ++
    ("fun".toText ++ (sp.nameGap ++ (sig.name ++ ([char '('] ++ (sig.parameters ++
      ([char ')', char ':'] ++ (sp.typeGap ++ sig.returnType))))))))))

/-- The text is a way to write the function. -/
def Written (annotationName w : Text) (sig : Signature) : Prop :=
  sig.Writable ∧ ∃ sp : Spelling, w = sp.write annotationName sig

/-! ### One part -/

@[simp] lemma dropPrefix?_append (pat s : Text) :
    Text.dropPrefix? pat (pat ++ s) = some s :=
  Text.dropPrefix?_eq_some_iff.mpr rfl

lemma skipBlanks_append {g s : Text} (hg : ∀ c ∈ g, Text.isBlank c)
    (hs : Text.Stops Text.isBlank s) : skipBlanks (g ++ s) = s :=
  Text.dropWhile_append hg hs

lemma exists_skipBlanks (s : Text) :
    ∃ g, (∀ c ∈ g, Text.isBlank c) ∧ s = g ++ skipBlanks s :=
  ⟨s.takeWhile Text.isBlank, fun _ hc => List.mem_takeWhile_imp hc,
    List.takeWhile_append_dropWhile.symm⟩

lemma skipSomeBlanks?_append {g s : Text} (hne : g ≠ [])
    (hg : ∀ c ∈ g, Text.isBlank c) (hs : Text.Stops Text.isBlank s) :
    skipSomeBlanks? (g ++ s) = some s := by
  have hskip := skipBlanks_append hg hs
  cases g with
  | nil => contradiction
  | cons c g =>
      rw [List.cons_append] at hskip ⊢
      simp [skipSomeBlanks?, hg c (by simp), hskip]

lemma exists_of_skipSomeBlanks? {s t : Text} (h : skipSomeBlanks? s = some t) :
    ∃ g, g ≠ [] ∧ (∀ c ∈ g, Text.isBlank c) ∧ s = g ++ t := by
  cases s with
  | nil => simp [skipSomeBlanks?] at h
  | cons c s =>
      by_cases hc : Text.isBlank c
      · obtain rfl : skipBlanks (c :: s) = t := by simpa [skipSomeBlanks?, hc] using h
        obtain ⟨g, hg, hs⟩ := exists_skipBlanks (c :: s)
        refine ⟨g, ?_, hg, hs⟩
        rintro rfl
        -- blanks were skipped, so something is gone
        have hstops := Text.stops_dropWhile Text.isBlank (c :: s)
        rw [List.nil_append, skipBlanks] at hs
        rw [← hs, Text.stops_cons, hc] at hstops
        cases hstops
      · simp [skipSomeBlanks?, hc] at h

lemma skipVisibility_append {v : Text} (hv : v ∈ visibilities) (s : Text) :
    skipVisibility (v ++ s) = s := by
  simp only [visibilities, List.mem_cons, List.not_mem_nil, or_false] at hv
  rcases hv with rfl | rfl | rfl | rfl <;>
    simp [skipVisibility, visibilities, Text.dropPrefix?]

lemma skipVisibility_fun (s : Text) :
    skipVisibility ("fun".toText ++ s) = "fun".toText ++ s := by
  simp [skipVisibility, visibilities, Text.dropPrefix?]

lemma exists_skipVisibility (s : Text) :
    ∃ v ∈ [] :: visibilities, s = v ++ skipVisibility s := by
  cases h : visibilities.findSome? fun v => Text.dropPrefix? v s with
  | none => exact ⟨[], by simp, by simp [skipVisibility, h]⟩
  | some t =>
      obtain ⟨v, hv, hvs⟩ := List.exists_of_findSome?_eq_some h
      refine ⟨v, List.mem_cons_of_mem _ hv, ?_⟩
      simpa [skipVisibility, h] using Text.dropPrefix?_eq_some_iff.mp hvs

/-- A visibility begins with no blank. -/
lemma stops_visibility {v : Text} (hv : v ∈ visibilities) (s : Text) :
    Text.Stops Text.isBlank (v ++ s) := by
  simp only [visibilities, List.mem_cons, List.not_mem_nil, or_false] at hv
  rcases hv with rfl | rfl | rfl | rfl <;> exact Text.stops_cons.mpr (by decide)

lemma stops_fun (s : Text) : Text.Stops Text.isBlank ("fun".toText ++ s) :=
  Text.stops_cons.mpr (by decide)

/-- With the blanks before it and after it, a visibility that may be missing is
skipped up to the word `fun`. -/
lemma skip_to_fun (sp : Spelling) (s : Text) :
    ∃ t, skipSomeBlanks?
        (sp.gap ++ (sp.visibility ++ (sp.funGap ++ ("fun".toText ++ s)))) = some t ∧
      skipBlanks (skipVisibility t) = "fun".toText ++ s := by
  rcases List.mem_cons.mp sp.visibility_mem with hv | hv
  · refine ⟨"fun".toText ++ s, ?_, ?_⟩
    · rw [hv, List.nil_append, ← List.append_assoc]
      refine skipSomeBlanks?_append (by simp [sp.gap_ne_nil]) (fun c hc => ?_) (stops_fun s)
      exact (List.mem_append.mp hc).elim (sp.gap_blank c) (sp.funGap_blank c)
    · rw [skipVisibility_fun]
      exact Text.dropWhile_eq_self (stops_fun s)
  · refine ⟨sp.visibility ++ (sp.funGap ++ ("fun".toText ++ s)), ?_, ?_⟩
    · exact skipSomeBlanks?_append sp.gap_ne_nil sp.gap_blank (stops_visibility hv _)
    · rw [skipVisibility_append hv]
      exact skipBlanks_append sp.funGap_blank (stops_fun s)

lemma readWord?_append {w s : Text} (hne : w ≠ []) (hw : ∀ c ∈ w, Text.isWord c)
    (hs : Text.Stops Text.isWord s) : readWord? (w ++ s) = some (w, s) := by
  simp only [readWord?, Text.takeWhile_append hw hs, Text.dropWhile_append hw hs, hne, ↓reduceIte]

lemma of_readWord? {s w t : Text} (h : readWord? s = some (w, t)) :
    w ≠ [] ∧ (∀ c ∈ w, Text.isWord c) ∧ Text.Stops Text.isWord t ∧ s = w ++ t := by
  simp only [readWord?] at h
  split at h
  · cases h
  · next hne =>
      cases h
      exact ⟨hne, fun _ hc => List.mem_takeWhile_imp hc, Text.stops_dropWhile _ _,
        List.takeWhile_append_dropWhile.symm⟩

/-- The parameters reach up to the first closing parenthesis. -/
lemma parameters_append {p s : Text} (hp : char ')' ∉ p) :
    (p ++ ([char ')', char ':'] ++ s)).takeWhile (· != char ')') = p ∧
      (p ++ ([char ')', char ':'] ++ s)).dropWhile (· != char ')') = [char ')', char ':'] ++ s := by
  have hall : ∀ c ∈ p, (c != char ')') = true := by
    intro c hc
    have hne : c ≠ char ')' := fun h => hp (h ▸ hc)
    simpa using hne
  have hstops : Text.Stops (· != char ')') ([char ')', char ':'] ++ s) :=
    Text.stops_cons.mpr (by simp)
  exact ⟨Text.takeWhile_append hall hstops, Text.dropWhile_append hall hstops⟩

/-! ### A whole declaration -/

/-- What is written is read, up to the end of the word of the result type. -/
lemma read?_write {annotationName : Text} {sig : Signature} (hsig : sig.Writable)
    (sp : Spelling) {s : Text} (hs : Text.Stops Text.isWord s) :
    read? annotationName (sp.write annotationName sig ++ s) = some (sig, s) := by
  obtain ⟨t, ht, hfun⟩ := skip_to_fun sp (sp.nameGap ++ (sig.name ++ ([char '('] ++
    (sig.parameters ++ ([char ')', char ':'] ++ (sp.typeGap ++ (sig.returnType ++ s)))))))
  have hgap := skipSomeBlanks?_append sp.nameGap_ne_nil sp.nameGap_blank
    (Text.Stops.blank_of_word (s := [char '('] ++ (sig.parameters ++ ([char ')', char ':'] ++
      (sp.typeGap ++ (sig.returnType ++ s))))) hsig.name_ne_nil hsig.name_word)
  have hname := readWord?_append hsig.name_ne_nil hsig.name_word
    (s := [char '('] ++ (sig.parameters ++
      ([char ')', char ':'] ++ (sp.typeGap ++ (sig.returnType ++ s)))))
    (Text.stops_cons.mpr (by decide))
  obtain ⟨hparams, hrest⟩ := parameters_append (s := sp.typeGap ++ (sig.returnType ++ s))
    hsig.parameters_open
  have htype := skipBlanks_append sp.typeGap_blank
    (Text.Stops.blank_of_word (s := s) hsig.returnType_ne_nil hsig.returnType_word)
  have hret := readWord?_append hsig.returnType_ne_nil hsig.returnType_word hs
  simp only [read?, Spelling.write, List.append_assoc, dropPrefix?_append, ht, hfun, hgap, hname,
    hparams, hrest, htype, hret, Option.bind_eq_bind, Option.bind_some, Option.pure_def]

/-- What is read was written. -/
lemma written_of_read? {annotationName s t : Text} {sig : Signature}
    (h : read? annotationName s = some (sig, t)) :
    Text.Stops Text.isWord t ∧ ∃ w, Written annotationName w sig ∧ s = w ++ t := by
  simp only [read?, Option.bind_eq_bind, Option.pure_def, Option.bind_eq_some_iff,
    Option.some.injEq, Prod.mk.injEq, Prod.exists] at h
  obtain ⟨s₁, h₁, s₂, h₂, s₃, h₃, s₄, h₄, name, s₅, h₅, s₆, h₆, s₇, h₇, ret, s₈, h₈, rfl, rfl⟩ := h
  obtain rfl := Text.dropPrefix?_eq_some_iff.mp h₁
  obtain ⟨gap, hgap, hgap', rfl⟩ := exists_of_skipSomeBlanks? h₂
  obtain ⟨v, hv, hvis⟩ := exists_skipVisibility s₂
  obtain ⟨funGap, hfunGap, hfun⟩ := exists_skipBlanks (skipVisibility s₂)
  rw [Text.dropPrefix?_eq_some_iff.mp h₃] at hfun
  obtain ⟨nameGap, hnameGap, hnameGap', rfl⟩ := exists_of_skipSomeBlanks? h₄
  obtain ⟨hname, hname', -, rfl⟩ := of_readWord? h₅
  obtain rfl := Text.dropPrefix?_eq_some_iff.mp h₆
  obtain ⟨typeGap, htypeGap, htype⟩ := exists_skipBlanks s₇
  obtain ⟨hret, hret', hstops, hs₇⟩ := of_readWord? h₈
  refine ⟨hstops, _, ⟨⟨hname, hname', ?_, hret, hret'⟩, ⟨gap, v, funGap, nameGap, typeGap, hgap,
    hgap', hv, hfunGap, hnameGap, hnameGap', htypeGap⟩, rfl⟩, ?_⟩
  · intro hmem
    simpa using List.mem_takeWhile_imp hmem
  · have hparams : s₆ = s₆.takeWhile (· != char ')') ++ ([char ')', char ':'] ++ s₇) := by
      rw [← Text.dropPrefix?_eq_some_iff.mp h₇, List.takeWhile_append_dropWhile]
    simp only [Spelling.write, List.append_assoc]
    rw [← hs₇, ← htype, ← hparams, ← hfun, ← hvis]

/-- **The reader reads exactly what is written**: a function at the beginning
of a text, with all of the word of its result type. -/
theorem read?_eq_some_iff {annotationName s t : Text} {sig : Signature} :
    read? annotationName s = some (sig, t) ↔
      Text.Stops Text.isWord t ∧ ∃ w, Written annotationName w sig ∧ s = w ++ t := by
  refine ⟨written_of_read?, ?_⟩
  rintro ⟨ht, w, ⟨hsig, sp, rfl⟩, rfl⟩
  exact read?_write hsig sp ht

/-! ### What is read is determined -/

/-- More letters after a written function belong to its result type. -/
lemma Written.extend {annotationName w : Text} {sig : Signature}
    (h : Written annotationName w sig) {u : Text} (hu : ∀ c ∈ u, Text.isWord c) :
    Written annotationName (w ++ u) { sig with returnType := sig.returnType ++ u } := by
  obtain ⟨hsig, sp, rfl⟩ := h
  refine ⟨{ hsig with returnType_ne_nil := ?_, returnType_word := ?_ }, sp, ?_⟩
  · simp [hsig.returnType_ne_nil]
  · intro c hc
    exact (List.mem_append.mp hc).elim (hsig.returnType_word c) (hu c)
  · simp [Spelling.write]

/-- A written function is read with all letters that follow it. -/
lemma Written.read? {annotationName w : Text} {sig : Signature}
    (h : Written annotationName w sig) (s : Text) :
    Declaration.read? annotationName (w ++ s) =
      some ({ sig with returnType := sig.returnType ++ s.takeWhile Text.isWord },
        s.dropWhile Text.isWord) := by
  refine read?_eq_some_iff.mpr ⟨Text.stops_dropWhile _ _, _,
    h.extend (u := s.takeWhile Text.isWord) fun _ hc => List.mem_takeWhile_imp hc, ?_⟩
  rw [List.append_assoc, List.takeWhile_append_dropWhile]

/-- **Only the end of the result type is open**: of two ways to read a function
at the beginning of a text, one may take fewer letters for the result type. -/
theorem Written.agree {annotationName w w' s s' : Text} {sig sig' : Signature}
    (h : Written annotationName w sig) (h' : Written annotationName w' sig')
    (hs : w ++ s = w' ++ s') :
    sig.name = sig'.name ∧ sig.parameters = sig'.parameters ∧
      (sig.returnType <+: sig'.returnType ∨ sig'.returnType <+: sig.returnType) := by
  have hread := h.read? s
  rw [hs, h'.read? s', Option.some.injEq, Prod.mk.injEq, Signature.mk.injEq] at hread
  obtain ⟨⟨hname, hparams, hret⟩, -⟩ := hread
  exact ⟨hname.symm, hparams.symm,
    List.prefix_or_prefix_of_prefix ⟨_, hret.symm⟩ (List.prefix_append _ _)⟩

/-- Nothing is open where the result type has all of its letters. -/
theorem Written.eq_of_stops {annotationName w w' s s' : Text} {sig sig' : Signature}
    (h : Written annotationName w sig) (h' : Written annotationName w' sig')
    (hs : Text.Stops Text.isWord s) (hs' : Text.Stops Text.isWord s')
    (heq : w ++ s = w' ++ s') : sig = sig' ∧ w = w' ∧ s = s' := by
  have hread := read?_eq_some_iff.mpr ⟨hs, w, h, rfl⟩
  rw [read?_eq_some_iff.mpr ⟨hs', w', h', heq⟩, Option.some.injEq, Prod.mk.injEq] at hread
  obtain ⟨rfl, rfl⟩ := hread
  exact ⟨rfl, List.append_cancel_right heq, rfl⟩

/-- A written function has at least its sign. -/
lemma Written.exists_cons {annotationName w : Text} {sig : Signature}
    (h : Written annotationName w sig) : ∃ v, w = char '@' :: v := by
  obtain ⟨-, sp, rfl⟩ := h
  exact ⟨_, rfl⟩

end Declaration

end TestScaffold
