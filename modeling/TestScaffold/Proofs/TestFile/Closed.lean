import TestScaffold.Generator
import TestScaffold.Proofs.Session.Telling
import TestScaffold.Proofs.TestFile.Lines
import TestScaffold.Proofs.Text.Lossy

/-!
A generated test file holds no function to generate from.

A function has its parameters between parentheses and a colon right after them. The calls of
a generated file have their parentheses, too, but each ends with its line, and so does all
else that opens in the file.

* `Bracket.read?` reads a text from left to right, and refuses it at a colon that follows a
  pair of parentheses. No text that it reads to its end holds a function
  (`signatures_eq_nil_of_isSome`).
* A line is `Quiet` when nothing is open after it. `Quiet.join` puts quiet lines together, so
  that a file is read to its end when each of its lines is.
* `signatures_render_eq_nil`: **nothing is found in a generated file, whatever was found in
  the source and whatever annotation is looked for**, neither in its contents nor in what is
  read back from the octets written.
-/

namespace TestScaffold

open Declaration

/-! ### Parentheses -/

/-- Where a text has come to: outside of parentheses, within a pair of them, or right after
one. -/
inductive Bracket where
  | shut
  | opened
  | closed
  deriving DecidableEq, Repr

namespace Bracket

/-- One character further, unless it is the colon after a pair of parentheses. -/
def next? : Bracket → CodePoint → Option Bracket
  | .opened, c => some (if c = char ')' then .closed else .opened)
  | .closed, char ':' => none
  | _, c => some (if c = char '(' then .opened else .shut)

/-- Where a whole text has come to. -/
def read? (b : Bracket) (s : Text) : Option Bracket := s.foldlM next? b

variable {b : Bracket} {s t : Text}

@[simp] lemma read?_nil (b : Bracket) : b.read? [] = some b := rfl

@[simp] lemma read?_cons (b : Bracket) (c : CodePoint) (s : Text) :
    b.read? (c :: s) = (b.next? c).bind (·.read? s) := rfl

@[simp] lemma read?_append (b : Bracket) (s t : Text) :
    b.read? (s ++ t) = (b.read? s).bind (·.read? t) :=
  List.foldlM_append

lemma next?_open (b : Bracket) : b.next? (char '(') = some .opened := by cases b <;> rfl

/-- Nothing opens by itself. -/
lemma read?_of_notMem_open (h : char '(' ∉ s) : shut.read? s = some .shut := by
  induction s with
  | nil => rfl
  | cons c s ih =>
      rw [List.mem_cons, not_or] at h
      have hnext : shut.next? c = some .shut := by simp [next?, Ne.symm h.1]
      rw [read?_cons, hnext]
      exact ih h.2

/-- Nothing closes by itself. -/
lemma read?_of_notMem_close (h : char ')' ∉ s) : opened.read? s = some .opened := by
  induction s with
  | nil => rfl
  | cons c s ih =>
      rw [List.mem_cons, not_or] at h
      have hnext : opened.next? c = some .opened := by simp [next?, Ne.symm h.1]
      rw [read?_cons, hnext]
      exact ih h.2

/-- A pair of parentheses and a colon are refused wherever they stand. -/
lemma read?_parameters (b : Bracket) {p : Text} (hp : char ')' ∉ p) (t : Text) :
    b.read? (char '(' :: (p ++ ([char ')', char ':'] ++ t))) = none := by
  rw [read?_cons, next?_open, Option.bind_some, read?_append, read?_of_notMem_close hp]
  rfl

/-- **A function is refused**, whatever comes before it. -/
theorem read?_written {annotationName w : Text} {sig : Signature}
    (h : Written annotationName w sig) (b : Bracket) (s t : Text) :
    b.read? (s ++ (w ++ t)) = none := by
  obtain ⟨hsig, sp, rfl⟩ := h
  have hsplit : ∃ u v, sp.write annotationName sig =
      u ++ char '(' :: (sig.parameters ++ ([char ')', char ':'] ++ v)) :=
    ⟨char '@' :: annotationName ++ (sp.gap ++ (sp.visibility ++ (sp.funGap ++ ("fun".toText ++
      (sp.nameGap ++ sig.name))))), sp.typeGap ++ sig.returnType, by simp [Spelling.write]⟩
  obtain ⟨u, v, hw⟩ := hsplit
  have hassoc : s ++ (sp.write annotationName sig ++ t) =
      (s ++ u) ++ char '(' :: (sig.parameters ++ ([char ')', char ':'] ++ (v ++ t))) := by simp [hw]
  rw [hassoc, read?_append]
  exact Option.bind_eq_none_iff.mpr fun b' _ => b'.read?_parameters hsig.parameters_open (v ++ t)

/-- Line breaks of all kinds are read alike. -/
lemma read?_unifyBreaks (b : Bracket) (s : Text) : b.read? (Text.unifyBreaks s) = b.read? s := by
  have hbreak : ∀ b : Bracket, b.next? (char '\r') = b.next? (char '\n') := by
    rintro (_ | _ | _) <;> rfl
  have htwice : ∀ b : Bracket, (b.next? (char '\r')).bind (·.next? (char '\n')) =
      b.next? (char '\n') := by
    rintro (_ | _ | _) <;> rfl
  fun_induction Text.unifyBreaks s generalizing b with
  | case1 => rfl
  | case2 s ih =>
      simp only [read?_cons, ← htwice b, Option.bind_assoc]
      congr 1
      funext b'
      congr 1
      funext b''
      exact ih b''
  | case3 c s _ ih =>
      split
      · next hc => simp only [hc, read?_cons, hbreak, ih]
      · simp only [read?_cons, ih]

end Bracket

/-- **A text that is read to its end holds no function.** -/
theorem signatures_eq_nil_of_isSome {s : Text} {b : Bracket} (h : (b.read? s).isSome)
    (annotationName : Text) : signatures annotationName s = [] := by
  refine List.eq_nil_iff_forall_not_mem.mpr fun sig hsig => ?_
  obtain ⟨u, w, t, rfl, hw⟩ := exists_written_of_mem_signatures hsig
  rw [b.read?_written hw u t] at h
  cases h

/-! ### Quiet lines -/

/-- Nothing is open after the line. -/
def Quiet (l : Text) : Prop := Bracket.shut.read? (l ++ [char '\n']) = some .shut

instance (l : Text) : Decidable (Quiet l) := inferInstanceAs (Decidable (_ = _))

namespace Quiet

variable {l sep : Text} {ls : List Text}

lemma of_notMem (h : char '(' ∉ l) : Quiet l := Bracket.read?_of_notMem_open (by simp [h])

lemma append (hs : char '(' ∉ sep) (hl : Quiet l) : Quiet (sep ++ l) := by
  rw [Quiet, List.append_assoc, Bracket.read?_append, Bracket.read?_of_notMem_open hs]
  exact hl

/-- A call ends with its line. -/
lemma call {name params : Text} (hname : char '(' ∉ name) (hparams : char ')' ∉ params) :
    Quiet (name ++ [char '('] ++ params ++ [char ')']) := by
  have hsplit : name ++ [char '('] ++ params ++ [char ')'] ++ [char '\n'] =
      name ++ char '(' :: (params ++ [char ')', char '\n']) := by simp
  rw [Quiet, hsplit, Bracket.read?_append, Bracket.read?_of_notMem_open hname, Option.bind_some,
    Bracket.read?_cons, Bracket.next?_open, Option.bind_some, Bracket.read?_append,
    Bracket.read?_of_notMem_close hparams]
  rfl

/-- **Quiet lines make a quiet text**, with line breaks between them and with what else does
not open anything. -/
theorem join (hsep : char '(' ∉ sep) (hls : ∀ l ∈ ls, Quiet l) :
    Quiet (Text.join (char '\n' :: sep) ls) := by
  induction ls with
  | nil => rfl
  | cons l ls ih =>
      have hl : Quiet l := hls l (by simp)
      have hrest : Quiet (Text.join (char '\n' :: sep) ls) := ih fun k hk => hls k (by simp [hk])
      by_cases hne : ls = []
      · simpa [hne, Text.join] using hl
      · have hsplit : Text.join (char '\n' :: sep) (l :: ls) ++ [char '\n'] =
            (l ++ [char '\n']) ++ (sep ++ (Text.join (char '\n' :: sep) ls ++ [char '\n'])) := by
          simp [Text.join_cons hne]
        rw [Quiet, hsplit, Bracket.read?_append, hl, Option.bind_some, Bracket.read?_append,
          Bracket.read?_of_notMem_open hsep]
        exact hrest

end Quiet

/-! ### The lines of a file -/

namespace Stub

/-- The lines of a stub are quiet: its name is a word, and its parameters are of the text
that ended where something closed. -/
lemma quiet_of_mem_block {sig : Signature} (hsig : sig.Writable) :
    ∀ l ∈ block sig, Quiet l := by
  have hname : char '(' ∉ sig.name := fun h => absurd (hsig.name_word _ h) (by decide)
  have hlower : char '(' ∉ Text.lowerFirst sig.name :=
    Text.notMem_lowerFirst (by decide +kernel) hname
  have hparams : char ')' ∉ sig.paramNames := by
    rw [Signature.paramNames, parameterNames_eq_join]
    exact Text.notMem_join (by decide) fun n hn hmem =>
      hsig.parameters_open (mem_of_mem_namesOf hn hmem)
  have hdecl : Quiet ("    fun ".toText ++ Text.lowerFirst sig.name ++ "Test() \x7b".toText) :=
    Quiet.append (by simp [hlower]) (by decide)
  have hcall : Quiet (TestFile.callMark ++ call sig) :=
    (Quiet.call hname hparams).append (by decide)
  have hrest : ∀ l ∈ ["        //TODO: Add logic for your test".toText,
      "        //TODO: Assert the result is expected".toText, "    \x7d".toText], Quiet l := by
    decide
  have hmark : Quiet "    @Test".toText := by decide
  exact List.forall_mem_cons.mpr ⟨hmark, List.forall_mem_cons.mpr ⟨hdecl,
    List.forall_mem_cons.mpr ⟨hcall, hrest⟩⟩⟩

lemma quiet_renderAll {sigs : List Signature} (hsigs : ∀ sig ∈ sigs, sig.Writable) :
    Quiet (renderAll sigs) := by
  refine Quiet.join (by decide) fun l hl => ?_
  obtain ⟨sig, hsig, rfl⟩ := List.mem_map.mp hl
  exact Quiet.join (by decide) (quiet_of_mem_block (hsigs sig hsig))

end Stub

namespace TestFile

variable {package base fileName : Text}

/-- The lines of the header are quiet. The only one that has parentheses and a name has the
parentheses after the name. -/
lemma quiet_of_mem_header (hpackage : char '(' ∉ package) (hbase : char '(' ∉ base)
    (hfile : char '(' ∉ fileName) : ∀ l ∈ header package base fileName, Quiet l := by
  have hpackage' : ∀ l ∈ (if package = [] then [] else ["package ".toText ++ package, []]),
      Quiet l := by
    intro l hl
    refine Quiet.of_notMem ?_
    split at hl
    · cases hl
    · simp only [List.mem_cons, List.not_mem_nil, or_false] at hl
      rcases hl with rfl | rfl <;> simp [hpackage]
  -- texts that are given have no opening bracket, so that of the comment is all there is in this
  -- line
  have hunit : Quiet (" * Unit tests for ".toText ++ fileName ++
      ", which will execute on the development machine (host).".toText) :=
    Quiet.append (by simp [hfile]) (by decide)
  have hclass : Quiet ("class ".toText ++ base ++ "Test \x7b".toText) :=
    Quiet.of_notMem (by simp [hbase])
  have hbefore : ∀ l ∈ ["import org.junit.After".toText, "import org.junit.Before".toText,
      "import org.junit.Test".toText, [], "/**".toText], Quiet l := by decide
  have hbetween : ∀ l ∈ [" *".toText,
      " * See [testing documentation](http://d.android.com/tools/testing).".toText,
      " */".toText, []], Quiet l := by decide
  have hafter : ∀ l ∈ [indented 1 "@Before".toText, indented 1 "fun setup() \x7b".toText,
      indented 2 "//TODO: setup prerequisites for tests".toText, indented 1 [char '\x7d'], [],
      indented 1 "@After".toText, indented 1 "fun tearDown() \x7b".toText,
      indented 2 "//TODO: clear resources after test".toText, indented 1 [char '\x7d'], []],
      Quiet l := by decide
  have htail := List.forall_mem_append.mpr ⟨hbetween, List.forall_mem_cons.mpr ⟨hclass, hafter⟩⟩
  exact List.forall_mem_append.mpr ⟨hpackage',
    List.forall_mem_append.mpr ⟨hbefore, List.forall_mem_cons.mpr ⟨hunit, htail⟩⟩⟩

/-- **A file is read to its end**, from stubs that are. -/
theorem read?_render (hpackage : char '(' ∉ package) (hbase : char '(' ∉ base)
    (hfile : char '(' ∉ fileName) {stubs : Text} (hstubs : Quiet stubs) :
    Bracket.shut.read? (render package base fileName stubs) = some .shut := by
  have hend : Quiet [char '\x7d'] := by decide
  refine Quiet.join (by decide) fun l hl => ?_
  rcases List.mem_append.mp hl with hl | hl
  · exact quiet_of_mem_header hpackage hbase hfile l hl
  · simp only [List.mem_cons, List.not_mem_nil, or_false] at hl
    rcases hl with rfl | rfl
    · exact hstubs
    · exact hend

end TestFile

/-- **Nothing is found in a generated file**, whatever was found in the source and whatever
annotation is looked for: neither in its contents nor, if these are characters and so can be
written, in what is read back from the octets. -/
theorem signatures_render_eq_nil {package base fileName : Text} (hpackage : char '(' ∉ package)
    (hbase : char '(' ∉ base) (hfile : char '(' ∉ fileName)
    (annotationName source searched : Text) :
    let contents := TestFile.render package base fileName
      (Stub.renderAll (signatures annotationName source))
    ∀ text, text = contents ∨ (contents.AllChars ∧ text = sourceText (Utf8.encode contents)) →
      signatures searched text = [] ∧
        ∀ s : Session, (Action.runOn (Generator.extract text searched) s).1 =
          .error (.scaffold .noFunctions) := by
  intro contents text htext
  have hcontents : Bracket.shut.read? contents = some .shut :=
    TestFile.read?_render hpackage hbase hfile
      (Stub.quiet_renderAll fun sig hsig => writable_of_mem_signatures hsig)
  have hback (hchars : contents.AllChars) :
      sourceText (Utf8.encode contents) = Text.unifyBreaks contents := by
    have hdecode := Utf8.decodeLossy_encode hchars []
    rw [List.append_nil] at hdecode
    rw [sourceText, hdecode]
    exact congrArg Text.unifyBreaks (List.append_nil contents)
  have hread : Bracket.shut.read? text = some .shut := by
    rcases htext with rfl | ⟨hchars, rfl⟩
    · exact hcontents
    · rw [hback hchars, Bracket.read?_unifyBreaks, hcontents]
  have hnil := signatures_eq_nil_of_isSome (Option.isSome_of_eq_some hread) searched
  exact ⟨hnil, fun s => by simp [Generator.extract, Generator.findFunctions, hnil]⟩

/-- A parameter that spells a function of its own is called in the file, and not declared. -/
theorem signatures_render_eq_nil_brokenSource :
    signatures "Gen".toText Stub.brokenSource ≠ [] ∧ char '(' ∉ "):A".toText ∧
      char '(' ∉ "@Gen fun f".toText ∧ char '(' ∉ "):B\r\n".toText ∧
      signatures "Gen".toText (TestFile.render "):A".toText "@Gen fun f".toText "):B\r\n".toText
        (Stub.renderAll (signatures "Gen".toText Stub.brokenSource))) = [] := by
  have hfound : signatures "Gen".toText Stub.brokenSource ≠ [] := by decide +kernel
  have hpackage : char '(' ∉ "):A".toText := by decide
  have hbase : char '(' ∉ "@Gen fun f".toText := by decide
  have hfile : char '(' ∉ "):B\r\n".toText := by decide
  have hnone := signatures_render_eq_nil hpackage hbase hfile "Gen".toText Stub.brokenSource
    "Gen".toText _ (.inl rfl)
  exact ⟨hfound, hpackage, hbase, hfile, hnone.1⟩

end TestScaffold
