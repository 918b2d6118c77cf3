import TestScaffold.Proofs.Generator.Inputs
import TestScaffold.Proofs.Text.Lossy
import TestScaffold.Proofs.Text.Occurrences

/-!
The marker of test dependencies in a build file of any octets.

* `infix_unifyBreaks_iff`: a text without line breaks occurs in a text exactly if it occurs in
  the same text with all line breaks as line feeds.
* `hasTestDependencies_iff`: **a marker is found exactly if it has octets, being a text of
  characters, and these are in the build file**, be there what it will around them.
-/

namespace TestScaffold

namespace Text

variable {s t : Text}

lemma prefix_unifyBreaks_iff (hreturn : char '\r' ∉ s) (hfeed : char '\n' ∉ s) :
    s <+: unifyBreaks t ↔ s <+: t := by
  induction s generalizing t with
  | nil => simp
  | cons c s ih =>
      have hc : c ≠ char '\r' ∧ c ≠ char '\n' :=
        ⟨fun h => hreturn (by simp [h]), fun h => hfeed (by simp [h])⟩
      have hrest : ∀ {t}, s <+: unifyBreaks t ↔ s <+: t :=
        ih (fun h => hreturn (by simp [h])) fun h => hfeed (by simp [h])
      fun_cases unifyBreaks t with
      | case1 => rfl
      | case2 t => simp [hc]
      | case3 d t _ =>
          rw [List.cons_prefix_cons, List.cons_prefix_cons, hrest]
          refine and_congr_left fun _ => ?_
          split
          · next h => simp [h, hc]
          · rfl

lemma infix_cons_of_notMem {c : CodePoint} (h : c ∉ s) : s <:+: c :: t ↔ s <:+: t := by
  refine ⟨fun hin => ?_, fun hin => hin.trans (List.suffix_cons c t).isInfix⟩
  rcases List.infix_cons_iff.mp hin with hin | hin
  · cases s with
    | nil => exact List.nil_infix
    | cons d s => simp [(List.cons_prefix_cons.mp hin).1] at h
  · exact hin

/-- Line breaks of whatever kind do not come between the characters of a text without any. -/
lemma infix_unifyBreaks_iff (hreturn : char '\r' ∉ s) (hfeed : char '\n' ∉ s) :
    s <:+: unifyBreaks t ↔ s <:+: t := by
  fun_induction unifyBreaks t with
  | case1 => rfl
  | case2 t ih =>
      rw [infix_cons_of_notMem hfeed, infix_cons_of_notMem hreturn, infix_cons_of_notMem hfeed, ih]
  | case3 d t hbreak ih =>
      have hfront := prefix_unifyBreaks_iff (t := d :: t) hreturn hfeed
      rw [unifyBreaks.eq_3 d t hbreak] at hfront
      rw [List.infix_cons_iff, List.infix_cons_iff, ih, hfront]

end Text

namespace BuildFile

open TestScaffold.Action

variable {s : Session} {file marker : Text} {octets : List UInt8}

/-- **A marker is found exactly if it has octets and these are in the build file.** The octets
around them may be ill-formed in any way and have any line breaks. -/
theorem hasTestDependencies_iff (hread : s.disk.readFile s.here file = .ok octets)
    (hreturn : char '\r' ∉ marker) (hfeed : char '\n' ∉ marker) (hnew : Utf8.replacement ∉ marker) :
    ∃ found, runOn (hasTestDependencies file marker) s = (.ok found, s) ∧
      (found = true ↔ marker.AllChars ∧ Utf8.encode marker <:+: octets) := by
  refine ⟨Text.contains marker (sourceText octets), ?_, ?_⟩
  · rw [hasTestDependencies, runOn_look_bind, Disk.isFile_of_readFile hread]
    rw [if_pos rfl, runOn_look_bind, hread, runOn_accessOr_ok_bind]
    rfl
  · rw [Text.contains_iff, sourceText, Text.infix_unifyBreaks_iff hreturn hfeed,
      Utf8.infix_decodeLossy_iff hnew]

/-- A session at the root of a disk with nothing but a build file. -/
def buildOnly (octets : List UInt8) : Session :=
  { Generator.oneModule with
    disk := ⟨[(["build.gradle".toText], .file octets)]⟩
    here := [] }

/-- A marker of characters of two and three octets is found between sequences that are cut off,
and it is not found where one of its own is. -/
theorem hasTestDependencies_iff_cutOff :
    let file := "build.gradle".toText
    let marker := "é€".toText
    let around := [0xEF, 0xBB, 0xBF, 0xE2, 0x82] ++ (Utf8.encode marker ++ [0xF0, 0x9F, 0x0D, 0x0A])
    let within : List UInt8 := [0xC3, 0xA9, 0xE2, 0x82, 0x0D, 0x0A, 0xAC]
    (char '\r') ∉ marker ∧ char '\n' ∉ marker ∧ Utf8.replacement ∉ marker ∧
      (buildOnly around).disk.readFile (buildOnly around).here file = .ok around ∧
      (buildOnly within).disk.readFile (buildOnly within).here file = .ok within ∧
      (runOn (hasTestDependencies file marker) (buildOnly around)).1 = .ok true ∧
      (runOn (hasTestDependencies file marker) (buildOnly within)).1 = .ok false := by
  intro file marker around within
  have hreturn : char '\r' ∉ marker := by decide
  have hfeed : char '\n' ∉ marker := by decide
  have hnew : Utf8.replacement ∉ marker := by decide
  have haround : (buildOnly around).disk.readFile (buildOnly around).here file = .ok around := by
    decide +kernel
  have hwithin : (buildOnly within).disk.readFile (buildOnly within).here file = .ok within := by
    decide +kernel
  obtain ⟨found, hrun, hfound⟩ := hasTestDependencies_iff haround hreturn hfeed hnew
  obtain ⟨lost, hrun', hlost⟩ := hasTestDependencies_iff hwithin hreturn hfeed hnew
  refine ⟨hreturn, hfeed, hnew, haround, hwithin, ?_, ?_⟩
  · rw [hrun, hfound.mpr ⟨by decide, _, _, List.append_assoc _ _ _⟩]
  · have habsent : ¬Utf8.encode marker <:+: within := by decide +kernel
    rw [hrun', Bool.eq_false_iff.mpr fun h => habsent (hlost.mp h).2]

end BuildFile

end TestScaffold
