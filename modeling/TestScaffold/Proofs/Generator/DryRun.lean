import TestScaffold.Proofs.Disk.Nesting
import TestScaffold.Proofs.Generator.Effects

/-!
A dry run beside a run that writes, from the same session.

Both make the same draft, so they differ in the last stage only.

* `Action.Silent` is an action that prints nothing, whatever it ends with;
  writing the test is one (`write_silent`).
* `write_of_lacks` and `write_of_not_lacks`: writing gives up exactly where more
  directories are missing than the host has room for, and otherwise it succeeds, or
  it is refused by the system or by the encoding.
* `dryRun_agrees`: **what a dry run says is what a run does.** There are two cases in
  which it is not: that of the missing directories, and that of a content without
  an encoding.
-/

namespace TestScaffold

namespace Disk

variable {P : Location → Prop} {d d' : Disk} {here : Location} {path : Text}

lemma AgreesOff.exists?_eq (h : AgreesOff P d d') : d'.exists? here path = d.exists? here path := by
  have himp : ∀ {d d' : Disk}, AgreesOff P d d' → d.exists? here path → d'.exists? here path := by
    intro d d' h hexists
    obtain ⟨hpath, l, n, hres⟩ := exists?_iff.mp hexists
    obtain ⟨n', -, -, hres'⟩ := h.resolve_found hres
    exact exists?_iff.mpr ⟨hpath, l, n', hres'⟩
  exact Bool.eq_iff_iff.mpr ⟨himp h.symm, himp h⟩

/-- What is missing does not depend on the content of files. -/
lemma AgreesOff.lacksParents_iff (h : AgreesOff P d d') {depth : ℕ} :
    d'.LacksParents here depth path ↔ d.LacksParents here depth path := by
  induction depth generalizing path with
  | zero => exact Iff.rfl
  | succ depth ih => rw [LacksParents, LacksParents, LacksParent, LacksParent, h.exists?_eq, ih]

end Disk

/-! ### Silent actions -/

namespace Action

variable {α β : Type}

/-- The action prints nothing. -/
def Silent (m : Action α) : Prop := ∀ s, (runOn m s).2.stdout = s.stdout

namespace Silent

lemma pure (a : α) : Silent (pure a : Action α) := fun _ => rfl

lemma log (logger : Text) (level : ℤ) (message : Text) : Silent (Action.log logger level message) :=
  fun s => s.stdout_log _

/-- What prints nothing may be followed by what prints nothing. -/
lemma bind {m : Action α} {f : α → Action β} (hm : Silent m) (hf : ∀ a, Silent (f a)) :
    Silent (m >>= f) := by
  intro s
  have hs := hm s
  rcases h : runOn m s with ⟨e | a, s'⟩
  · rw [h] at hs
    rw [runOn_bind_of_error h, hs]
  · rw [h] at hs
    rw [runOn_bind_of_ok h, hf a s', hs]

lemma accessOr (wrap : SystemError → ScaffoldError) (x : Except AccessError α) :
    Silent (Action.accessOr wrap x) := by
  cases x with
  | ok a => exact pure a
  | error e => cases e <;> exact fun _ => rfl

lemma changeMost (f : Disk → Location → Except AccessError Unit × Disk) :
    Silent (Action.changeMost f) := fun _ => rfl

lemma changeFor (f : Disk → Location → Except AccessError (Disk × α)) :
    Silent (Action.changeFor f) := by
  intro s
  rcases h : f s.disk s.here with e | ⟨d, a⟩
  · rw [runOn_changeFor_of_error h]
  · rw [runOn_changeFor_of_ok h]

lemma host : Silent Action.host := fun _ => rfl

end Silent

end Action

namespace Generator

open TestScaffold.Action

variable {s s' : Session} {dir name content path : Text}

lemma fill_silent (path : Text) (place : Location) (content : Text) :
    Silent (fill path place content) := by
  rw [fill]
  split
  · exact fun _ => rfl
  · exact Silent.host.bind fun _ => (Silent.changeMost _).bind fun _ => .accessOr _ _

lemma write_silent (dir name content : Text) : Silent (write dir name content) := by
  refine Silent.host.bind fun _ => (Silent.changeMost _).bind fun _ => ?_
  refine (Silent.accessOr _ _).bind fun _ => (Silent.changeFor _).bind fun _ => ?_
  refine (Silent.accessOr _ _).bind fun _ => (fill_silent _ _ _).bind fun _ => ?_
  exact (Silent.log _ _ _).bind fun _ => fun _ => rfl

/-- The lines of a run are printed before its last stage. -/
lemma finish_silent (dryRun : Bool) (t : Draft) : Silent (finish dryRun t) := by
  cases dryRun with
  | true => exact (Silent.log _ _ _).bind fun _ => .pure _
  | false => exact (write_silent _ _ _).bind fun _ => .pure _

/-! ### How writing ends -/

/-- Where too many directories are missing the system gives up before it has made one. -/
lemma write_of_lacks (h : s.disk.LacksParents s.here (s.host.testRoom + 1) dir) :
    runOn (write dir name content) s = (.error .tooDeep, s) := by
  have hmade := runOn_changeMost (s := s) fun d here => d.makeDirs here (s.host.testRoom + 1) dir
  rw [Disk.makeDirs_of_lacks h] at hmade
  rw [write, runOn_host_bind, runOn_bind_of_ok hmade]
  rfl

/-- A file that is open gets its content, or the content is refused. -/
lemma fill_ends (path : Text) (place : Location) (content : Text) (s : Session) :
    (content.AllChars ∧ (runOn (fill path place content) s).1 = .ok ()) ∨
      ∃ e, (runOn (fill path place content) s).1 = .error e ∧ IsRefused path content e := by
  cases hwhat : Encoding.utf8.refusal? content with
  | some what =>
      rw [runOn_fill_of_refused hwhat]
      exact .inr ⟨_, rfl, .inr ⟨what, hwhat, rfl⟩⟩
  | none =>
      have hchars := Encoding.refusal?_utf8_eq_none_iff.mp hwhat
      rw [runOn_fill_of_allChars hchars]
      rcases hfill : (s.disk.fill s.host.refusal? place (Utf8.encode content)).1 with e | u
      · obtain ⟨e', rfl⟩ := Disk.exists_system_of_fill hfill
        exact .inr ⟨_, rfl, .inl ⟨e', rfl⟩⟩
      · exact .inl ⟨hchars, rfl⟩

/-- Where not too many directories are missing, writing succeeds or is refused. -/
lemma write_of_not_lacks (content : Text) (hdir : dir.isPath)
    (hpath : (Path.joinTo dir name).isPath)
    (h : ¬s.disk.LacksParents s.here (s.host.testRoom + 1) dir) :
    (content.AllChars ∧ ∃ p, (runOn (write dir name content) s).1 = .ok p) ∨
      ∃ e, (runOn (write dir name content) s).1 = .error e ∧
        IsRefused (Path.joinTo dir name) content e := by
  rcases hrun : runOn (write dir name content) s with ⟨r, s'⟩
  have hends := fun place d' => fill_ends (Path.joinTo dir name) place content { s with disk := d' }
  cases write_course hrun with
  | unmade hmake =>
      obtain ⟨e', rfl⟩ := (Disk.makeDirs_failure hdir (by rw [hmake])).resolve_right h
      exact .inr ⟨_, rfl, .inl ⟨e', rfl⟩⟩
  | unopened hmake hopen =>
      obtain ⟨e', rfl⟩ := exists_system_of_openFile hpath hopen
      exact .inr ⟨_, rfl, .inl ⟨e', rfl⟩⟩
  | @unfilled d d' place e _ hmake hopen hfill =>
      exact .inr (by simpa [hfill] using hends place d')
  | @written d d' place s₂ _ hmake hopen hfill htell =>
      exact .inl ⟨by simpa [hfill] using hends place d', _, rfl⟩

/-! ### Two runs -/

lemma exists_ok_of_isOk {ε α : Type} {x : Except ε α} (h : x.isOk = true) : ∃ a, x = .ok a := by
  cases x with
  | ok a => exact ⟨a, rfl⟩
  | error e => cases h

variable {settings : Settings} {annotationName path : Text} {t : Draft}

/-- A dry run ends with its draft. -/
lemma dryRun_of_draft (hdraft : runOn (draft settings annotationName path) s = (.ok t, s')) :
    (runOn (generate settings true annotationName path) s).1 =
      .ok ⟨none, t.content, t.signatures⟩ := by
  rw [generate_eq, runOn_bind_of_ok hdraft]
  rfl

/-- A run that writes ends as writing its draft does. -/
lemma run_of_draft (hdraft : runOn (draft settings annotationName path) s = (.ok t, s')) :
    (runOn (generate settings false annotationName path) s).1 =
      (runOn (write t.dir t.name t.content) s').1.map
        fun p => ⟨some p, t.content, t.signatures⟩ := by
  rw [generate_eq, runOn_bind_of_ok hdraft, runOn_finish_real]

/-- What is missing for a draft was missing before it was made. -/
lemma lacksParents_of_draft (hdraft : runOn (draft settings annotationName path) s = (.ok t, s')) :
    s'.disk.LacksParents s'.here (s'.host.testRoom + 1) t.dir ↔
      s.disk.LacksParents s.here (s.host.testRoom + 1) t.dir := by
  have htold := (draft_onlyTells settings annotationName path).onlyTold hdraft
  rw [htold.here, htold.host, htold.disk.lacksParents_iff]

/-- So does the run that was to write the draft. -/
lemma run_of_lacks (hdraft : runOn (draft settings annotationName path) s = (.ok t, s'))
    (h : s.disk.LacksParents s.here (s.host.testRoom + 1) t.dir) :
    (runOn (generate settings false annotationName path) s).1 = .error .tooDeep := by
  rw [run_of_draft hdraft, write_of_lacks ((lacksParents_of_draft hdraft).mpr h)]
  rfl

/-- **What a dry run says is what a run does.** From the same session, both
print the same; what a run ends with that writes the test, the dry run ends
with, but for the path; what the dry run fails with, the other fails with, and
leaves the same session. Where the dry run succeeds, the other one gives up if more
directories are missing for the test than the host has room for. Otherwise it succeeds
too, or the system refuses to write the test, or the content of the test has no
encoding and so is not written. -/
theorem dryRun_agrees (settings : Settings) (annotationName path : Text) (s : Session) :
    let dry := runOn (generate settings true annotationName path) s
    let real := runOn (generate settings false annotationName path) s
    real.2.stdout = dry.2.stdout ∧
      (∀ g, real.1 = .ok g → dry.1 = .ok { g with testPath := none }) ∧
      (∀ e, dry.1 = .error e → real = dry) ∧
      ∀ g, dry.1 = .ok g → g.testPath = none ∧
        ∃ dir name, Layout.testPlace path = .ok (dir, name) ∧
          let lacks := s.disk.LacksParents s.here (s.host.testRoom + 1) dir
          (lacks → real.1 = .error .tooDeep) ∧
          (¬lacks →
            (g.content.AllChars ∧ ∃ p, real.1 = .ok { g with testPath := some p }) ∨
            (∃ e, real.1 = .error (.scaffold (.testUnwritable (Path.joinTo dir name) e))) ∨
            ∃ what, Encoding.utf8.refusal? g.content = some what ∧
              real.1 = .error (.unencodable what)) := by
  intro dry real
  rcases hdraft : runOn (draft settings annotationName path) s with ⟨e | t, s₁⟩
  · -- without a draft there is nothing in which the runs differ
    have hend : ∀ b, runOn (generate settings b annotationName path) s = (.error e, s₁) :=
      fun b => by rw [generate_eq, runOn_bind_of_error hdraft]
    simp [dry, real, hend]
  have hdry : dry.1 = .ok ⟨none, t.content, t.signatures⟩ := dryRun_of_draft hdraft
  have hreal : real.1 = (runOn (write t.dir t.name t.content) s₁).1.map fun p =>
      ⟨some p, t.content, t.signatures⟩ := run_of_draft hdraft
  have hstdout : ∀ b, (runOn (generate settings b annotationName path) s).2.stdout = s₁.stdout :=
    fun b => by rw [generate_eq, runOn_bind_of_ok hdraft, finish_silent]
  refine ⟨(hstdout false).trans (hstdout true).symm, fun g hg => ?_, fun e he => ?_, fun g hg => ?_⟩
  · rcases hwrite : (runOn (write t.dir t.name t.content) s₁).1 with e | p
    · rw [hreal, hwrite] at hg
      cases hg
    · rw [hreal, hwrite] at hg
      obtain rfl := Except.ok.inj hg
      exact hdry
  · rw [hdry] at he
    cases he
  · obtain rfl : _ = g := Except.ok.inj (hdry.symm.trans hg)
    obtain ⟨hdir, hpath, -⟩ := place_of_draft hdraft
    refine ⟨rfl, t.dir, t.name, (draft_eq_ok hdraft).1, run_of_lacks hdraft, fun h => ?_⟩
    rw [hreal]
    rcases write_of_not_lacks t.content hdir hpath
        (mt (lacksParents_of_draft hdraft).mp h) with ⟨hchars, p, hp⟩ | ⟨e, he, hrefused⟩
    · exact .inl ⟨hchars, p, by rw [hp]; rfl⟩
    · rw [he]
      rcases hrefused with ⟨why, rfl⟩ | ⟨what, hwhat, rfl⟩
      · exact .inr (.inl ⟨why, rfl⟩)
      · exact .inr (.inr ⟨what, hwhat, rfl⟩)

/-- The path of the source of `oneModule` as seen from the root, with a thousand
dots in it. -/
def deepSource : Text := "m/src/main/kotlin".toText ++ Disk.dots 1000 ++ "/A.kt".toText

/-- Where no test has a directory yet, a thousand are missing for this one. -/
lemma lacksParents_deepSource {d : Disk} {here : Location} {depth : ℕ} (hd : d.LinkFree)
    (hmissing : d.exists? here "m/src/test/kotlin".toText = false) (hdepth : depth ≤ 1000) :
    ∃ dir name, Layout.testPlace deepSource = .ok (dir, name) ∧
      d.LacksParents here depth dir := by
  have hplace : Layout.testPlace deepSource =
      .ok ("m/src/test/kotlin".toText ++ Disk.dots 1000 ++ [char '/'], "ATest.kt".toText) := by
    decide +kernel
  exact ⟨_, _, hplace, (Disk.lacksParents_dots hd (by simp) (by decide) hmissing hdepth).2⟩

/-- The name of a source with the octet 255 in it, which is no character. -/
def strayName : Text := "A".toText ++ .half 1279 :: ".kt".toText

/-- A session at the root, with a module whose source has this name. -/
def oneStray : Session :=
  let main : Location := ["kotlin".toText, "main".toText, "src".toText, "m".toText]
  let source := "@Gen fun double(n: Int): Int = 2 * n\n".toText
  { oneModule with
    disk := ⟨[(main.drop 3, .dir),
      ("build.gradle".toText :: main.drop 3, .file (Utf8.encode "testImplementation".toText)),
      (main.drop 2, .dir), (main.drop 1, .dir), (main, .dir),
      (strayName :: main, .file (Utf8.encode source))]⟩
    here := [] }

def straySource : Text := "m/src/main/kotlin/".toText ++ strayName

/-- For the path with the dots, and for the name with the octet, the dry run
succeeds, and the other one neither succeeds nor is refused by the system. -/
theorem dryRun_escapes :
    (∃ g, (runOn (generate .default true "Gen".toText deepSource)
        { oneModule with here := [] }).1 = .ok g) ∧
      (runOn (generate .default false "Gen".toText deepSource)
        { oneModule with here := [] }).1 = .error .tooDeep ∧
      (∃ g, (runOn (generate .default true "Gen".toText straySource) oneStray).1 = .ok g) ∧
      ∃ what, (runOn (generate .default false "Gen".toText straySource) oneStray).1 =
        .error (.unencodable what) := by
  have hisOk : (runOn (draft .default "Gen".toText deepSource)
      { oneModule with here := [] }).1.isOk = true := by
    decide +kernel
  have hmissing : oneModule.disk.exists? [] "m/src/test/kotlin".toText = false := by
    decide +kernel
  rcases hdraft : runOn (draft .default "Gen".toText deepSource) { oneModule with here := [] } with
    ⟨e | t, s'⟩
  · rw [hdraft] at hisOk
    cases hisOk
  obtain ⟨dir, name, hplace, hlacks⟩ :
      ∃ dir name, Layout.testPlace deepSource = .ok (dir, name) ∧
        oneModule.disk.LacksParents [] 985 dir :=
    lacksParents_deepSource oneModule_isPlain.linkFree hmissing (by decide)
  obtain ⟨rfl, rfl⟩ := Prod.mk.inj (Except.ok.inj (hplace.symm.trans (draft_eq_ok hdraft).1))
  refine ⟨⟨_, dryRun_of_draft hdraft⟩, run_of_lacks hdraft hlacks, ?_, ?_⟩
  · have hdry :
        (runOn (generate .default true "Gen".toText straySource) oneStray).1.isOk = true := by
      decide +kernel
    exact exists_ok_of_isOk hdry
  · let what : String := "'utf-8' codec can't encode character '\\udcff' in position 93: " ++
      "surrogates not allowed"
    exact ⟨what.toText, by decide +kernel⟩

end Generator

end TestScaffold
