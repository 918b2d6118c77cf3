import TestScaffold.Proofs.Signature.Grammar
import TestScaffold.Proofs.Signature.Names

/-!
Reading undoes writing.

* A `Declaration` is a function with its parameters apart, and how it is
  spelled; `Declaration.write` is its text. A `Listing` is a source text in
  which declarations stand between other texts, which hold no sign `@`.
* `parameterNames_write`: the names of written parameters are the names.
* `signatures_write`: the annotated functions of a listing are its
  declarations, in order, with the parameters as they are written. The search
  passes over the other texts, in which nothing can begin
  (`signatures_append_of_notMem`), and reads each declaration to its end
  (`signatures_append_of_written`).
-/

namespace TestScaffold

/-! ### Parameters -/

/-- A parameter, as it is written before and after its colon. -/
structure Parameter where
  name : Text
  type : Text
  name_ne_nil : name ≠ []
  name_plain : ∀ c ∈ name, Text.isBlank c = false ∧ c ≠ char ',' ∧ c ≠ char ':' ∧ c ≠ char ')'
  type_plain : char ',' ∉ type ∧ char ')' ∉ type

namespace Parameter

def write (p : Parameter) : Text := p.name ++ ([char ':', char ' '] ++ p.type)

/-- The text of parameters, between the parentheses. -/
def writeAll (ps : List Parameter) : Text := Text.join [char ',', char ' '] (ps.map write)

lemma notMem_write {c : CodePoint} (p : Parameter) (hc : c = char ',' ∨ c = char ')') :
    c ∉ p.write := by
  have hname : c ∉ p.name := by
    intro hmem
    obtain ⟨-, h₁, -, h₂⟩ := p.name_plain c hmem
    exact hc.elim h₁ h₂
  have htype : c ∉ p.type := by
    rcases hc with rfl | rfl
    · exact p.type_plain.1
    · exact p.type_plain.2
  rcases hc with rfl | rfl <;> simp [write, hname, htype]

/-- The first word of a written parameter is its name with the colon. -/
lemma firstWord_write (p : Parameter) : Text.firstWord p.write = p.name ++ [char ':'] := by
  have hword : ∀ c ∈ p.name ++ [char ':'], (!Text.isBlank c) = true := by
    intro c hc
    rcases List.mem_append.mp hc with hc | hc
    · simp [(p.name_plain c hc).1]
    · obtain rfl := List.mem_singleton.mp hc
      decide
  have hstops : Text.Stops Text.isBlank p.write := by
    obtain ⟨c, n, hn⟩ := List.exists_cons_of_ne_nil p.name_ne_nil
    rw [write, hn, List.cons_append, Text.stops_cons]
    exact (p.name_plain c (by simp [hn])).1
  have hwrite : p.write = (p.name ++ [char ':']) ++ (char ' ' :: p.type) := by simp [write]
  rw [Text.firstWord, Text.dropWhile_eq_self hstops, hwrite]
  exact Text.takeWhile_append hword (Text.stops_cons.mpr (by decide))

lemma filter_name (p : Parameter) : (p.name ++ [char ':']).filter (· != char ':') = p.name := by
  have hname : p.name.filter (· != char ':') = p.name :=
    List.filter_eq_self.mpr fun c hc => by simpa using (p.name_plain c hc).2.2.1
  simp [hname]

lemma nameOf_write (p : Parameter) : nameOf p.write = p.name := by
  rw [nameOf, p.firstWord_write, p.filter_name]

/-- **The names of written parameters are the names.** -/
theorem parameterNames_write (ps : List Parameter) :
    parameterNames (writeAll ps) = Text.join [char ',', char ' '] (ps.map name) := by
  cases ps with
  | nil => rfl
  | cons p ps =>
      have hcomma : ∀ t ∈ (p :: ps).map write, char ',' ∉ t := fun t ht => by
        obtain ⟨q, -, rfl⟩ := List.mem_map.mp ht
        exact q.notMem_write (.inl rfl)
      have hname : nameOf ∘ write = name := funext nameOf_write
      rw [parameterNames_eq_join, writeAll, namesOf_join (by simp) hcomma, List.map_map, hname]

end Parameter

/-! ### Declarations -/

/-- An annotated function with its parameters apart, and how it is spelled. -/
structure Declaration where
  name : Text
  parameters : List Parameter
  returnType : Text
  spelling : Declaration.Spelling
  name_ne_nil : name ≠ []
  name_word : ∀ c ∈ name, Text.isWord c
  returnType_ne_nil : returnType ≠ []
  returnType_word : ∀ c ∈ returnType, Text.isWord c

namespace Declaration

/-- What the function is read as. -/
def signature (d : Declaration) : Signature :=
  ⟨d.name, Parameter.writeAll d.parameters, d.returnType⟩

def write (d : Declaration) (annotationName : Text) : Text :=
  d.spelling.write annotationName d.signature

lemma written_write (d : Declaration) (annotationName : Text) :
    Written annotationName (d.write annotationName) d.signature := by
  refine ⟨⟨d.name_ne_nil, d.name_word, ?_, d.returnType_ne_nil, d.returnType_word⟩,
    d.spelling, rfl⟩
  refine Text.notMem_join (by decide) fun t ht => ?_
  obtain ⟨p, -, rfl⟩ := List.mem_map.mp ht
  exact p.notMem_write (.inr rfl)

end Declaration

/-! ### Listings -/

/-- A source text: a first text, and declarations, each with the text up to the
next one. The texts hold no sign `@`, and those after a declaration do not go
on with its result type. -/
structure Listing where
  before : Text
  items : List (Declaration × Text)
  before_plain : char '@' ∉ before
  items_plain : ∀ i ∈ items, char '@' ∉ i.2 ∧ Text.Stops Text.isWord i.2

/-- Declarations and the texts after them. -/
def writeItems (annotationName : Text) (items : List (Declaration × Text)) : Text :=
  items.flatMap fun i => i.1.write annotationName ++ i.2

def Listing.write (l : Listing) (annotationName : Text) : Text :=
  l.before ++ writeItems annotationName l.items

open Declaration

/-- A declaration begins with the sign `@`, so no word goes on there. -/
lemma stops_writeItems (annotationName : Text) (items : List (Declaration × Text)) :
    Text.Stops Text.isWord (writeItems annotationName items) := by
  cases items with
  | nil => exact Text.stops_nil _
  | cons i items =>
      obtain ⟨v, hv⟩ := (i.1.written_write annotationName).exists_cons
      simp only [writeItems, List.flatMap_cons, hv, List.cons_append, Text.stops_cons]
      decide

/-- Where nothing is read, the search goes on at the next character. -/
lemma signatures_cons_of_none {annotationName s : Text} {c : CodePoint}
    (h : read? annotationName (c :: s) = none) :
    signatures annotationName (c :: s) = signatures annotationName s := by
  rw [signatures]
  split <;> simp_all

lemma signatures_cons_of_ne {annotationName s : Text} {c : CodePoint} (hc : c ≠ char '@') :
    signatures annotationName (c :: s) = signatures annotationName s :=
  signatures_cons_of_none (by simp [read?, Text.dropPrefix?, Ne.symm hc])

/-- Nothing begins in a text without the sign `@`. -/
lemma signatures_append_of_notMem {annotationName u s : Text} (hu : char '@' ∉ u) :
    signatures annotationName (u ++ s) = signatures annotationName s := by
  induction u with
  | nil => rfl
  | cons c u ih =>
      have hc : c ≠ char '@' := fun hc => hu (by simp [hc])
      rw [List.cons_append, signatures_cons_of_ne hc, ih fun h => hu (by simp [h])]

/-- The search reads what is written at the beginning, and goes on after it. -/
lemma signatures_append_of_written {annotationName w s : Text} {sig : Signature}
    (hw : Written annotationName w sig) (hs : Text.Stops Text.isWord s) :
    signatures annotationName (w ++ s) = sig :: signatures annotationName s := by
  have hread := read?_eq_some_iff.mpr ⟨hs, w, hw, rfl⟩
  obtain ⟨v, rfl⟩ := hw.exists_cons
  rw [List.cons_append] at hread ⊢
  rw [signatures]
  split <;> simp_all

lemma signatures_writeItems (annotationName : Text) {items : List (Declaration × Text)}
    (h : ∀ i ∈ items, char '@' ∉ i.2 ∧ Text.Stops Text.isWord i.2) :
    signatures annotationName (writeItems annotationName items) =
      items.map fun i => i.1.signature := by
  induction items with
  | nil => simp [writeItems, signatures]
  | cons i items ih =>
      obtain ⟨hplain, hstops⟩ := h i (by simp)
      have hrest := ih fun j hj => h j (by simp [hj])
      have hsplit : writeItems annotationName (i :: items) =
          i.1.write annotationName ++ (i.2 ++ writeItems annotationName items) := by
        simp [writeItems]
      rw [hsplit, signatures_append_of_written (i.1.written_write annotationName)
        (hstops.append (stops_writeItems annotationName items)),
        signatures_append_of_notMem hplain, hrest, List.map_cons]

/-- **Reading undoes writing.** The annotated functions of a listing are its
declarations, in order, each with its parameters as they are written, and the
parameter names of each are the names of its parameters. -/
theorem signatures_write (annotationName : Text) (l : Listing) :
    signatures annotationName (l.write annotationName) = l.items.map (fun i => i.1.signature) ∧
    (signatures annotationName (l.write annotationName)).map Signature.paramNames =
      l.items.map fun i => Text.join [char ',', char ' '] (i.1.parameters.map Parameter.name) := by
  have hsigs : signatures annotationName (l.write annotationName) =
      l.items.map fun i => i.1.signature := by
    rw [Listing.write, signatures_append_of_notMem l.before_plain,
      signatures_writeItems annotationName l.items_plain]
  refine ⟨hsigs, ?_⟩
  rw [hsigs, List.map_map]
  exact List.map_congr_left fun i _ => Parameter.parameterNames_write i.1.parameters

end TestScaffold
