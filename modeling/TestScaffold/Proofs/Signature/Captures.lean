import TestScaffold.Proofs.Signature.Leftmost
import TestScaffold.Proofs.Text.Fields

/-!
What the parts of a found function are made of.

* `exists_written_of_mem_signatures`: it stands in the text.
* `writable_of_mem_signatures`: its name and its result type are words, and its
  parameters end before the first closing parenthesis.
* `Signature.names` are the names of its parameters apart, which
  `parameterNames` joins. Whatever stands between the parentheses, they hold no
  blank, no comma and no colon (`plain_of_mem_namesOf`).
-/

namespace TestScaffold

/-- **What is found is written in the text.** -/
theorem exists_written_of_mem_signatures {annotationName s : Text} {sig : Signature}
    (h : sig ∈ signatures annotationName s) :
    ∃ u w t, s = u ++ (w ++ t) ∧ Declaration.Written annotationName w sig := by
  obtain ⟨fs, hfs, heq⟩ := exists_isScan annotationName s
  rw [heq] at h
  obtain ⟨f, hf, rfl⟩ := List.mem_map.mp h
  obtain ⟨w, t, hdrop, hw, -, -⟩ := hfs.inText f hf
  exact ⟨s.take f.start, w, t, by rw [← hdrop, List.take_append_drop], hw⟩

/-- **What is found can be written.** -/
theorem writable_of_mem_signatures {annotationName s : Text} {sig : Signature}
    (h : sig ∈ signatures annotationName s) : sig.Writable := by
  obtain ⟨-, w, -, -, hw⟩ := exists_written_of_mem_signatures h
  exact hw.1

/-- The names in a text of parameters, one for each piece between commas. -/
def namesOf (parameters : Text) : List Text :=
  (Text.fields (char ',') parameters).map fun piece => (Text.firstWord piece).filter (· != char ':')

/-- The names of the parameters of a function. -/
def Signature.names (sig : Signature) : List Text := namesOf sig.parameters

lemma parameterNames_eq_join (parameters : Text) :
    parameterNames parameters = Text.join [char ',', char ' '] (namesOf parameters) := rfl

lemma mem_of_mem_firstWord {s : Text} {c : CodePoint} (h : c ∈ Text.firstWord s) : c ∈ s :=
  (List.dropWhile_suffix Text.isBlank).subset (List.takeWhile_subset _ h)

lemma not_isBlank_of_mem_firstWord {s : Text} {c : CodePoint} (h : c ∈ Text.firstWord s) :
    Text.isBlank c = false := by
  simpa using List.mem_takeWhile_imp h

/-- The characters of a name are among the parameters. -/
lemma mem_of_mem_namesOf {parameters n : Text} (hn : n ∈ namesOf parameters) {c : CodePoint}
    (hc : c ∈ n) : c ∈ parameters := by
  obtain ⟨piece, hpiece, rfl⟩ := List.mem_map.mp hn
  exact Text.mem_of_mem_fields hpiece (mem_of_mem_firstWord (List.mem_of_mem_filter hc))

/-- **A name holds nothing that separates.** -/
theorem plain_of_mem_namesOf {parameters n : Text} (hn : n ∈ namesOf parameters) {c : CodePoint}
    (hc : c ∈ n) : Text.isBlank c = false ∧ c ≠ char ',' ∧ c ≠ char ':' := by
  obtain ⟨piece, hpiece, rfl⟩ := List.mem_map.mp hn
  obtain ⟨hword, hcolon⟩ := List.mem_filter.mp hc
  refine ⟨not_isBlank_of_mem_firstWord hword, ?_, by simpa using hcolon⟩
  rintro rfl
  exact Text.notMem_of_mem_fields hpiece (mem_of_mem_firstWord hword)

end TestScaffold
