import TestScaffold.CommandLine.Run
import TestScaffold.Proofs.Generator.Endings
import TestScaffold.Proofs.Session.Watching
import TestScaffold.Proofs.Settings.Refusals

/-!
The stages of a run of the program.

* `setUpJournal_readies`: the journal as the arguments ask for. Its handlers are
  the console, the log that was found and the one of the arguments
  (`Arguments.handlers`); each of them takes all routine records, but the
  console only if the run is to be verbose. `aired_shown` is what is seen of them on
  the standard error output: a log is silent, unless it cannot take a record.
* `generateFor_told` and `generateFor_prints`: what settings and generator tell
  and print.
-/

namespace TestScaffold

open TestScaffold.Action

namespace CommandLine

/-! ### The journal -/

namespace Arguments

/-- The directory of the log that is asked for. -/
def ownDir? (a : Arguments) : Option Path :=
  match a.logDir with
  | some (c :: cs) => some (Path.ofText (c :: cs))
  | _ => none

/-- The level of a run. -/
def level (a : Arguments) : ℤ := if a.verbose then Level.debug else Level.info

/-- The handlers of a run. If it is verbose, all of them take all that is told. -/
def handlers (a : Arguments) (hs : List Handler) : List Handler :=
  if a.verbose then hs.map fun h => { h with level := Level.debug } else hs

lemma level_le_info (a : Arguments) : a.level ≤ Level.info := by
  rw [level]
  split <;> decide

end Arguments

variable {a : Arguments} {s s' : Session} {hs : List Handler}

/-- A verbose run has its level lowered, and that of its handlers. -/
lemma verbose_readies (ht : s.journal.Tuned Level.info hs)
    (h : runOn (if a.verbose then Audit.setLevel Audit.mainLogger Level.debug else pure ()) s =
      (.ok (), s')) :
    s.Readied a.level (a.handlers hs) s' ∧ s'.disk = s.disk := by
  rw [Arguments.level, Arguments.handlers]
  split at h
  · next hverbose =>
      obtain rfl := (Prod.mk.inj h).2
      rw [if_pos hverbose, if_pos hverbose]
      exact ⟨Audit.setLevel_readies ht (by decide), rfl⟩
  · next hverbose =>
      obtain rfl := (Prod.mk.inj h).2
      rw [if_neg hverbose, if_neg hverbose]
      exact ⟨⟨.refl _, ht, rfl⟩, rfl⟩

/-- The log is attached first, and then the levels are lowered. -/
lemma setUpJournal_eq (a : Arguments) :
    setUpJournal a = (match a.ownDir? with
      | some dir => discard (Audit.attach Audit.mainLogger dir Level.info)
      | none => pure ()) >>= fun _ =>
        if a.verbose then Audit.setLevel Audit.mainLogger Level.debug else pure () := by
  obtain ⟨name, path, config, dryRun, logDir, verbose⟩ := a
  rw [setUpJournal, Arguments.ownDir?]
  cases verbose <;> rcases logDir with - | - | ⟨c, cs⟩ <;> rfl

/-- **The journal as the arguments ask for.** The log of a directory is attached
if there is one, unless it cannot be opened. -/
theorem setUpJournal_readies (ht : s.journal.Tuned Level.info hs)
    (h : runOn (setUpJournal a) s = (.ok (), s')) :
    ∃ own : List Handler, s.Readied a.level (a.handlers (hs ++ own)) s' ∧
      (∀ x ∈ own, x.level = Level.info ∧ x.sink.isFile) ∧
      ∀ dir, a.ownDir? = some dir →
        ∃ x s₁, runOn (Audit.attach Audit.mainLogger dir Level.info) s = (.ok x, s₁) ∧
          Audit.Gets s hs dir Level.info s'.disk x own := by
  rw [setUpJournal_eq] at h
  obtain ⟨_, s₁, hfirst, h⟩ := runOn_bind_eq_ok.mp h
  cases hdir : a.ownDir? with
  | none =>
      rw [hdir] at hfirst
      obtain rfl := (Prod.mk.inj hfirst).2
      exact ⟨[], by simpa using (verbose_readies ht h).1, by simp⟩
  | some dir =>
      rw [hdir] at hfirst
      obtain ⟨x, hattach⟩ := runOn_discard_eq_ok.mp hfirst
      obtain ⟨own, hready, hown⟩ := Audit.attach_readies ht hattach
      obtain ⟨hready', hdisk⟩ := verbose_readies hready.tuned h
      refine ⟨own, hready.trans hready', hown.of_mem, fun dir' heq => ?_⟩
      obtain rfl := Option.some.inj heq
      rw [hdisk]
      exact ⟨x, s₁, hattach, hown⟩

/-! ### The handlers of a run -/

/-- The console, which has the warnings, and some logs. -/
def console : Handler := ⟨.console, Level.warning⟩

/-- What a run with a number of logs shows of some records: their lines, if it is to be
verbose, and a report from each log that cannot take a line. -/
def Arguments.shown (a : Arguments) (host : Host) (stamp : Text) (n : ℕ) (rs : List Record) :
    Text :=
  rs.flatMap fun r => (if a.verbose then r.line stamp else []) ++ r.losses host stamp n

variable {logs : List Handler} {host : Host} {stamp : Text} {rs : List Record} {r : Record}

/-- The console takes warnings, and if the run is verbose all records. -/
lemma aired_singleton (hlogs : ∀ x ∈ logs, x.level = Level.info ∧ x.sink.isFile)
    (hr : a.level ≤ r.level) :
    Record.aired host stamp (a.handlers (console :: logs)) [r] =
      (if a.verbose ∨ Level.warning ≤ r.level then r.line stamp else []) ++
        r.losses host stamp logs.length := by
  have hfiles : (logs.flatMap fun x => r.airedAt host stamp x.sink) =
      r.losses host stamp logs.length :=
    Record.flatMap_airedAt host r fun x hx => (hlogs x hx).2
  rw [Arguments.level] at hr
  rw [Arguments.handlers, Record.aired, List.flatMap_singleton]
  cases hverbose : a.verbose with
  | true =>
      rw [hverbose, if_pos rfl] at hr
      rw [if_pos rfl, if_pos (.inl rfl), List.filter_eq_self.mpr (by simp [hr]),
        List.flatMap_map, List.flatMap_cons, hfiles]
      rfl
  | false =>
      rw [hverbose, if_neg (by simp)] at hr
      have hall : logs.filter (fun x => x.level ≤ r.level) = logs :=
        List.filter_eq_self.mpr fun x hx => by simpa [(hlogs x hx).1] using hr
      rw [if_neg (by simp), List.filter_cons, hall]
      by_cases hwarning : Level.warning ≤ r.level
      · have hline : r.airedAt host stamp console.sink = r.line stamp := rfl
        simp [show console.level = Level.warning from rfl, hwarning, hfiles, hline]
      · simp [console, hwarning, hfiles]

lemma aired_eq_flatMap (hs : List Handler) :
    Record.aired host stamp hs rs = rs.flatMap fun r => Record.aired host stamp hs [r] := by
  simp [Record.aired]

/-- A routine record is shown if the run is verbose. -/
lemma aired_shown (hlogs : ∀ x ∈ logs, x.level = Level.info ∧ x.sink.isFile)
    (hrs : ∀ r ∈ rs, r.IsRoutine a.level) :
    Record.aired host stamp (a.handlers (console :: logs)) rs =
      a.shown host stamp logs.length rs := by
  rw [aired_eq_flatMap]
  refine List.flatMap_congr fun r hr => ?_
  have hwarning : ¬Level.warning ≤ r.level := not_le.mpr ((hrs r hr).2.trans_lt (by decide))
  rw [aired_singleton hlogs (hrs r hr).1]
  simp only [hwarning, or_false]

/-- A log takes all records that reach the level of the run. -/
lemma copies_standsAt (hlogs : ∀ x ∈ logs, x.level = Level.info) (hr : a.level ≤ r.level)
    (l : Location) :
    r.copies (a.handlers (console :: logs)) (·.standsAt l) = logs.countP (·.sink.standsAt l) := by
  rw [Arguments.level] at hr
  rw [Arguments.handlers, Record.copies]
  cases hverbose : a.verbose with
  | true =>
      rw [hverbose, if_pos rfl] at hr
      simp [console, Sink.standsAt, List.countP_map, Function.comp_def, hr]
  | false =>
      rw [hverbose, if_neg (by simp)] at hr
      rw [if_neg (by simp), List.countP_cons_of_neg (by simp [console, Sink.standsAt])]
      refine List.countP_congr fun x hx => ?_
      simp [hlogs x hx, hr]

/-! ### Settings and generator -/

open TestScaffold.Generator

variable {made : Except Failure Generated}

/-- Settings and generator succeed where both do. -/
lemma generateFor_eq_ok_iff {g : Generated} :
    (runOn (generateFor a) s).1 = .ok g ↔ ∃ settings,
      (runOn (loadSettings a.config) s).1 = .ok settings ∧
        (runOn (generate settings a.dryRun a.annotationName a.path) s).1 = .ok g := by
  have hsession := loadSettings_session a.config s
  rcases hload : runOn (loadSettings a.config) s with ⟨e | settings, s₁⟩
  · rw [generateFor, runOn_bind_of_error hload]
    simp
  · rw [hload] at hsession
    obtain rfl : s₁ = s := hsession
    rw [generateFor, runOn_bind_of_ok hload]
    simp

lemma generateFor_told {level : ℤ} (ht : s.journal.Tuned level hs)
    (h : runOn (generateFor a) s = (made, s')) :
    ∃ (rs : List Record) (W : Location → Prop), (∀ r ∈ rs, r.IsRoutine level) ∧
      s.Heard level hs W rs s' ∧
      ∀ l, W l → Writes made ∧ (s.disk.IsTree → s'.HasTestAt a.path l) := by
  have hsession := loadSettings_session a.config s
  rcases hload : runOn (loadSettings a.config) s with ⟨e | settings, s₁⟩
  · rw [hload] at hsession
    obtain rfl : s₁ = s := hsession
    rw [generateFor, runOn_bind_of_error hload] at h
    obtain ⟨-, rfl⟩ := Prod.mk.inj h
    exact ⟨[], _, by simp, .refl (fun _ => False) ht, fun _ => False.elim⟩
  · rw [hload] at hsession
    obtain rfl : s₁ = s := hsession
    rw [generateFor, runOn_bind_of_ok hload] at h
    exact generate_told (loadSettings_isFilled hload).roots ht h

/-- What settings and generator fail with is an error. -/
lemma generateFor_isError {f : Failure} (h : (runOn (generateFor a) s).1 = .error f) :
    f.isError = true := by
  rcases hload : runOn (loadSettings a.config) s with ⟨e | settings, s₁⟩
  · rw [generateFor, runOn_bind_of_error hload] at h
    obtain rfl := Except.error.inj h
    exact loadSettings_isError (by rw [hload])
  · rw [generateFor, runOn_bind_of_ok hload] at h
    rcases (generate_prints (loadSettings_isFilled hload).roots Prod.mk.eta.symm).2 f h with
      ⟨e, rfl, -⟩ | ⟨rfl | ⟨what, rfl⟩, -⟩
    · rfl
    · rfl
    · rfl

/-- The place of the test of a run asks for more directories than the host has room for. -/
def Arguments.AsksTooMuch (a : Arguments) (s : Session) : Prop :=
  ∃ dir name, Layout.testPlace a.path = .ok (dir, name) ∧
    s.disk.LacksParents s.here (s.host.testRoom + 1) dir

/-- The test that a run would write has no encoding, for this reason. -/
def Arguments.HasNoEncoding (a : Arguments) (s : Session) (what : Text) : Prop :=
  ∃ settings g, (runOn (loadSettings a.config) s).1 = .ok settings ∧
    (runOn (generate settings true a.annotationName a.path) s).1 = .ok g ∧
    Encoding.utf8.refusal? g.content = some what

/-- **What settings and generator print**, and how they fail. -/
theorem generateFor_prints (hsettings : Settings.Answers (runOn (loadSettings a.config) s).1)
    (h : runOn (generateFor a) s = (made, s')) :
    (∀ g, made = .ok g → s'.stdout = s.stdout ++ (findingLine ++ generatingLine)) ∧
      ∀ f, made = .error f → (∃ e, f = .scaffold e ∧ s'.stdout = s.stdout ++ progress e) ∨
        (s'.stdout = s.stdout ++ (findingLine ++ generatingLine) ∧ a.dryRun = false ∧
          ((f = .tooDeep ∧ a.AsksTooMuch s) ∨
            ∃ what, f = .unencodable what ∧ a.HasNoEncoding s what)) := by
  have hsession := loadSettings_session a.config s
  rcases hload : runOn (loadSettings a.config) s with ⟨f | settings, s₁⟩
  · rw [hload] at hsession hsettings
    obtain rfl : s₁ = s := hsession
    rw [generateFor, runOn_bind_of_error hload] at h
    obtain ⟨rfl, rfl⟩ := Prod.mk.inj h
    have hkind : f.IsConfiguration := Settings.answers_error.mp hsettings
    refine ⟨by simp, fun f' hf => .inl ?_⟩
    obtain rfl := Except.error.inj hf
    cases f with
    | scaffold e =>
        have hprogress : progress e = [] := by
          rw [progress, show e.kind = .configuration from hkind]
        exact ⟨e, rfl, by rw [hprogress, List.append_nil]⟩
    | _ => exact hkind.elim
  · rw [hload] at hsession
    obtain rfl : s₁ = s := hsession
    rw [generateFor, runOn_bind_of_ok hload] at h
    have hroots := (loadSettings_isFilled hload).roots
    obtain ⟨hok, herror⟩ := generate_prints hroots h
    refine ⟨hok, fun f hf => ?_⟩
    have hend : (runOn (generate settings a.dryRun a.annotationName a.path) s₁).1 = .error f := by
      rw [h]
      exact hf
    -- failures of the settings were dealt with, so it is the generator that fails
    rcases herror f hf with hrefused | ⟨rfl | ⟨what, rfl⟩, hstdout⟩
    · exact .inl hrefused
    · obtain ⟨hreal, -, hlacks⟩ := (generate_tooDeep_iff _ _ _ s₁ hroots).mp hend
      exact .inr ⟨hstdout, hreal, .inl ⟨rfl, hlacks⟩⟩
    · obtain ⟨hreal, ⟨g, hg, hwhat⟩, -⟩ := (generate_unencodable_iff _ _ _ _ s₁ hroots).mp hend
      exact .inr ⟨hstdout, hreal, .inr ⟨what, rfl, settings, g, by rw [hload], hg, hwhat⟩⟩

end CommandLine

end TestScaffold
