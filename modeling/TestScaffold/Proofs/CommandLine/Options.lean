import TestScaffold.CommandLine.Request
import TestScaffold.Proofs.Disk.Growth

/-!
The options of the journal on a command line.

* `Agrees` are two readings of a command line that ask for the same, but for the
  options of the journal. Whatever comes later on both command lines, the readings go
  on to agree (`read_agrees`).
* `JournalOptions` are words that set the options of the journal, each log in a
  directory that is there. Each option can be done without (`Dispensable.append`), so a
  command line with such words in front of it agrees with the one without them
  (`parse_agrees_append`).
-/

namespace TestScaffold.CommandLine

/-- The two ask for the same, but for the options of the journal. -/
structure Arguments.SameTask (a a' : Arguments) : Prop where
  annotationName : a'.annotationName = a.annotationName
  path : a'.path = a.path
  config : a'.config = a.config
  dryRun : a'.dryRun = a.dryRun

/-- Two answers to a command line that differ in the options of the journal at most,
where the relation holds between the directories of the logs. -/
inductive Agrees (R : Option Text → Option Text → Prop) :
    Except UsageFault Request → Except UsageFault Request → Prop
  | refused (f : UsageFault) : Agrees R (.error f) (.error f)
  | help : Agrees R (.ok .help) (.ok .help)
  | run {a a' : Arguments} (task : a.SameTask a') (logDir : R a.logDir a'.logDir) :
      Agrees R (.ok (.run a)) (.ok (.run a'))

/-- Logs may be compared by less. -/
lemma Agrees.mono {R R' : Option Text → Option Text → Prop} {x x' : Except UsageFault Request}
    (h : Agrees R x x') (hR : ∀ o o', R o o' → R' o o') : Agrees R' x x' := by
  cases h with
  | refused f => exact .refused f
  | help => exact .help
  | run task logDir => exact .run task (hR _ _ logDir)

/-! ### Readings -/

/-- The same for what has been read so far. -/
structure Reading.Agrees (R : Option Text → Option Text → Prop) (r r' : Reading) : Prop where
  positional : r'.positional = r.positional
  config : r'.config = r.config
  dryRun : r'.dryRun = r.dryRun
  extra : r'.extra = r.extra
  logDir : R r.logDir r'.logDir

variable {R : Option Text → Option Text → Prop} {r r' : Reading} {dialect : Dialect}

namespace Reading.Agrees

/-- Readings that agree are through with their arguments at the same time. -/
lemma isOpen (h : r.Agrees R r') : r'.isOpen = r.isOpen := by
  rw [Reading.isOpen, Reading.isOpen, h.positional]

lemma addExtra (h : r.Agrees R r') (s : Text) : (r.addExtra s).Agrees R (r'.addExtra s) :=
  { h with extra := congrArg (· ++ [s]) h.extra }

lemma addExtras (h : r.Agrees R r') (extras : List Text) :
    (extras.foldl .addExtra r).Agrees R (extras.foldl .addExtra r') := by
  induction extras generalizing r r' with
  | nil => exact h
  | cons s extras ih => exact ih (h.addExtra s)

/-- One more plain word is the same argument for both. -/
lemma addPlain (h : r.Agrees R r') (s : Text) : (r.addPlain s).Agrees R (r'.addPlain s) := by
  rw [Reading.addPlain, Reading.addPlain, h.isOpen]
  split
  · exact { h with positional := congrArg (· ++ [s]) h.positional }
  · exact h.addExtra s

/-- The last log counts, so the readings may have agreed on none before it. -/
lemma addValue (h : r.Agrees R r') (hR : ∀ v, R (some v) (some v)) (o : Switch) (v : Text) :
    (r.addValue o v).Agrees R (r'.addValue o v) := by
  cases o with
  | config => exact { h with config := rfl }
  | logDir => exact { h with logDir := hR v }
  | _ => exact h

/-- A flag asks for help in both readings or in neither. -/
lemma addFlag (h : r.Agrees R r') (o : Switch) :
    (r.addFlag o = none ∧ r'.addFlag o = none) ∨
      ∃ t t', r.addFlag o = some t ∧ r'.addFlag o = some t' ∧ t.Agrees R t' := by
  cases o with
  | help => exact .inl ⟨rfl, rfl⟩
  | dryRun => exact .inr ⟨_, _, rfl, rfl, { h with dryRun := rfl }⟩
  | verbose => exact .inr ⟨_, _, rfl, rfl, { h with }⟩
  | _ => exact .inr ⟨_, _, rfl, rfl, h⟩

/-- A cluster of flags is refused by both, or read by both. -/
lemma addFlags (h : r.Agrees R r') (flags : List Switch) :
    (flags.foldlM Reading.addFlag r = none ∧ flags.foldlM Reading.addFlag r' = none) ∨
      ∃ t t', flags.foldlM Reading.addFlag r = some t ∧
        flags.foldlM Reading.addFlag r' = some t' ∧ t.Agrees R t' := by
  induction flags generalizing r r' with
  | nil => exact .inr ⟨r, r', rfl, rfl, h⟩
  | cons o flags ih =>
      rw [List.foldlM_cons, List.foldlM_cons]
      rcases h.addFlag o with ⟨hnone, hnone'⟩ | ⟨t, t', hsome, hsome', ht⟩
      · rw [hnone, hnone']
        exact .inl ⟨rfl, rfl⟩
      · rw [hsome, hsome']
        exact ih ht

/-- What readings that agree ask for in the end agrees as well. -/
lemma finish (h : r.Agrees R r') : CommandLine.Agrees R r.finish r'.finish := by
  rw [Reading.finish, Reading.finish, h.positional, h.extra]
  split
  · split
    · exact .run ⟨rfl, rfl, h.config, h.dryRun⟩ h.logDir
    · exact .refused _
  · exact .refused _

end Reading.Agrees

/-- **Whatever comes later on both command lines**, two readings go on to agree. -/
theorem read_agrees (hR : ∀ v, R (some v) (some v)) (ws : List Word) (h : r.Agrees R r') :
    Agrees R (Request.read dialect r ws) (Request.read dialect r' ws) := by
  fun_induction Request.read dialect r ws generalizing r' with
  | case1 r => exact h.finish
  | case2 r s rest ih => exact ih (h.addExtra s)
  | case3 r s rest hopen ih =>
      rw [Request.read, if_pos (h.isOpen ▸ hopen)]
      exact ih (h.addPlain _)
  | case4 r s rest hopen ih =>
      rw [Request.read, if_neg (h.isOpen ▸ hopen)]
      exact ih ((h.addExtra _).addExtra _)
  | case5 r s rest hne hopen ih =>
      rw [Request.read, if_pos (h.isOpen ▸ hopen)]
      · exact ih (h.addPlain _)
      · exact hne
  | case6 r s rest hne hopen ih =>
      rw [Request.read, if_neg (h.isOpen ▸ hopen)]
      · exact ih (h.addExtra _)
      · exact hne
  | case7 r s rest hopen ih =>
      rw [Request.read, if_pos (h.isOpen ▸ hopen)]
      exact ih (h.addPlain _)
  | case8 r s rest hopen ih =>
      rw [Request.read, if_neg (h.isOpen ▸ hopen)]
      exact ih ((h.addExtra _).addExtra _)
  | case9 r rest hne ih =>
      rw [Request.read]
      · exact ih (h.addExtra _)
      · exact hne
  | case10 r o hvalue a rest ih =>
      rw [Request.read, if_pos hvalue]
      exact ih (h.addValue hR o _)
  | case11 r o hvalue s rest ih =>
      rw [Request.read, if_pos hvalue]
      exact ih (h.addValue hR o s)
  | case12 r o rest hvalue hne =>
      rw [Request.read, if_pos hvalue]
      · exact .refused _
      · exact hne
  -- a flag, and what is in one cluster with it: both readings have the same flags, so that one
  -- asks for help where the other does
  | case13 r o attached rest hvalue f hflags =>
      rw [Request.read.eq_def dialect r']
      dsimp only
      rw [if_neg hvalue, hflags]
      exact .refused f
  | case14 r o attached rest hvalue flags hflags hhelp =>
      rw [Request.read.eq_def dialect r']
      dsimp only
      rw [if_neg hvalue, hflags]
      dsimp only
      rcases h.addFlags flags.switches with ⟨-, hhelp'⟩ | ⟨t, t', ht, -⟩
      · rw [hhelp']
        exact .help
      · rw [hhelp] at ht
        cases ht
  | case15 r o attached rest hvalue flags hflags t hread ih =>
      rw [Request.read.eq_def dialect r']
      dsimp only
      rw [if_neg hvalue, hflags]
      dsimp only
      rcases h.addFlags flags.switches with ⟨hhelp, -⟩ | ⟨t₁, t', ht, ht', hagrees⟩
      · rw [hread] at hhelp
        cases hhelp
      · obtain rfl := Option.some.inj (hread.symm.trans ht)
        rw [ht']
        exact ih (hagrees.addExtras _)

/-! ### Options in front of a command line -/

/-- Words that set the options of the journal, and whose logs are in directories that
are there. -/
inductive JournalOptions (d : Disk) (here : Location) : List Text → Prop
  | nil : JournalOptions d here []
  | verbose {s : Text} {ws : List Text} (hs : s = "--verbose".toText ∨ s = "-v".toText)
      (h : JournalOptions d here ws) : JournalOptions d here (s :: ws)
  | logDir {dir : Text} {ws : List Text} (hdir : d.isDir here dir)
      (hdash : dir.head? ≠ some (char '-')) (h : JournalOptions d here ws) :
      JournalOptions d here ("--log-dir".toText :: dir :: ws)
  | attached {dir : Text} {ws : List Text} (hdir : d.isDir here dir)
      (h : JournalOptions d here ws) :
      JournalOptions d here (("--log-dir=".toText ++ dir) :: ws)

/-- Nothing has to be made for the log: it is not asked for, or its directory is there. -/
def HasLogDir (d : Disk) (here : Location) (logDir : Option Text) : Prop :=
  ∀ dir, logDir = some dir → dir = [] ∨ d.isDir here dir

/-- The logs of two runs may differ where nothing has to be made for them. -/
def LogDirs (d : Disk) (here : Location) (o o' : Option Text) : Prop :=
  o' = o ∨ (HasLogDir d here o ∧ HasLogDir d here o')

variable {d : Disk} {here : Location} {added args : List Text}

lemma LogDirs.of_grows {d' : Disk} (hg : d.Grows d') {o o' : Option Text}
    (h : LogDirs d here o o') : LogDirs d' here o o' := by
  have hkept : ∀ {o}, HasLogDir d here o → HasLogDir d' here o := fun ho dir hdir =>
    (ho dir hdir).imp_right (Disk.isDir_of_grows hg)
  exact h.imp_right (And.imp hkept hkept)

lemma HasLogDir.of_isDir {dir : Text} (h : d.isDir here dir) : HasLogDir d here (some dir) := by
  intro t ht
  exact .inr (Option.some.inj ht ▸ h)

/-- A value that is attached to its option may lose something in an early dialect, but is
a directory or nothing then. -/
lemma hasLogDir_attachedValue (dialect : Dialect) {dir : Text} (h : d.isDir here dir) :
    HasLogDir d here (some (Request.attachedValue dialect dir)) := by
  cases dialect with
  | late => exact .of_isDir h
  | early =>
      rw [Request.attachedValue, Request.plainValue]
      split
      · intro t ht
        exact .inl (Option.some.inj ht).symm
      · exact .of_isDir h

lemma words_cons_of_ok {s : Text} {w : Word} (hne : s ≠ twoDashes) (h : Word.ofText s = .ok w)
    (rest : List Text) : words (s :: rest) = (words rest).map (w :: ·) := by
  rw [words, if_neg hne, h]
  cases words rest with
  | ok ws => rfl
  | error f => rfl

lemma ofText_verbose {s : Text} (hs : s = "--verbose".toText ∨ s = "-v".toText) :
    Word.ofText s = .ok (.option .verbose none) := by
  rcases hs with rfl | rfl <;> rfl

lemma ofText_logDir : Word.ofText "--log-dir".toText = .ok (.option .logDir none) := rfl

lemma ofText_attached (dir : Text) :
    Word.ofText ("--log-dir=".toText ++ dir) =
      .ok (.option .logDir (some ⟨false, true, dir⟩)) := rfl

lemma read_verbose (r : Reading) (ws : List Word) :
    Request.read dialect r (.option .verbose none :: ws) =
      Request.read dialect { r with verbose := true } ws := by
  rw [Request.read.eq_def]
  rfl

lemma read_logDir (r : Reading) (dir : Text) (ws : List Word) :
    Request.read dialect r (.option .logDir none :: .plain dir :: ws) =
      Request.read dialect { r with logDir := some dir } ws := by
  rw [Request.read.eq_def]
  rfl

lemma read_attached (r : Reading) (dir : Text) (ws : List Word) :
    Request.read dialect r (.option .logDir (some ⟨false, true, dir⟩) :: ws) =
      Request.read dialect { r with logDir := some (Request.attachedValue dialect dir) } ws := by
  rw [Request.read.eq_def]
  rfl

/-- The texts can be done without: a reading that begins with their words agrees with
one that does not. -/
def Dispensable (dialect : Dialect) (d : Disk) (here : Location) (added : List Text) : Prop :=
  ∃ ws, (∀ args, words (added ++ args) = (words args).map (ws ++ ·)) ∧
    ∀ r r' rest, r.Agrees (LogDirs d here) r' → HasLogDir d here r.logDir →
      Agrees (LogDirs d here) (Request.read dialect r rest) (Request.read dialect r' (ws ++ rest))

lemma dispensable_nil (dialect : Dialect) (d : Disk) (here : Location) :
    Dispensable dialect d here [] := by
  refine ⟨[], fun args => ?_, fun r r' rest hagrees _ => ?_⟩
  · rw [List.nil_append]
    cases words args <;> rfl
  · exact read_agrees (fun _ => .inl rfl) rest hagrees

/-- One more option: its words set something in a reading that the other one need not
have. -/
lemma Dispensable.append (h : Dispensable dialect d here added) (option : List Text)
    (ws : List Word) (set : Reading → Reading)
    (hwords : ∀ args, words (option ++ args) = (words args).map (ws ++ ·))
    (hread : ∀ r rest, Request.read dialect r (ws ++ rest) = Request.read dialect (set r) rest)
    (hset : ∀ r r' : Reading, r.Agrees (LogDirs d here) r' → HasLogDir d here r.logDir →
      r.Agrees (LogDirs d here) (set r')) : Dispensable dialect d here (option ++ added) := by
  obtain ⟨ws', hwords', hread'⟩ := h
  refine ⟨ws ++ ws', fun args => ?_, fun r r' rest hagrees hdir => ?_⟩
  · rw [List.append_assoc, hwords, hwords']
    cases words args with
    | ok more => exact congrArg Except.ok (List.append_assoc ws ws' more).symm
    | error f => rfl
  · rw [List.append_assoc, hread]
    exact hread' r (set r') rest (hset r r' hagrees hdir) hdir

/-- All options of the journal can be done without, one after the other. -/
lemma dispensable_of_journalOptions (h : JournalOptions d here added) :
    Dispensable dialect d here added := by
  induction h with
  | nil => exact dispensable_nil dialect d here
  | @verbose s more hs h ih =>
      have hne : s ≠ twoDashes := by
        rcases hs with rfl | rfl <;> decide
      exact ih.append [s] [.option .verbose none] (fun r => { r with verbose := true })
        (words_cons_of_ok hne (ofText_verbose hs)) read_verbose fun r r' hagrees _ =>
          { hagrees with }
  | @logDir dir more hisDir hdash h ih =>
      have hne : dir ≠ twoDashes := by
        rintro rfl
        exact hdash rfl
      have hplain : Word.ofText dir = .ok (.plain dir) := by rw [Word.ofText, if_pos hdash]
      refine ih.append ["--log-dir".toText, dir] [.option .logDir none, .plain dir]
        (fun r => { r with logDir := some dir }) (fun args => ?_)
        (fun r rest => read_logDir r dir rest) fun r r' hagrees hdir =>
          { hagrees with logDir := .inr ⟨hdir, .of_isDir hisDir⟩ }
      rw [List.cons_append, List.cons_append, List.nil_append,
        words_cons_of_ok (by decide) ofText_logDir, words_cons_of_ok hne hplain]
      cases words args <;> rfl
  | @attached dir more hisDir h ih =>
      have hne : "--log-dir=".toText ++ dir ≠ twoDashes := by
        simp [twoDashes]
      exact ih.append ["--log-dir=".toText ++ dir] [.option .logDir (some ⟨false, true, dir⟩)]
        (fun r => { r with logDir := some (Request.attachedValue dialect dir) })
        (words_cons_of_ok hne (ofText_attached dir)) (fun r rest => read_attached r dir rest)
        fun r r' hagrees hdir =>
          { hagrees with logDir := .inr ⟨hdir, hasLogDir_attachedValue dialect hisDir⟩ }

/-- **A command line with options of the journal in front of it** asks for the same as
the one without them. -/
theorem parse_agrees_append (h : JournalOptions d here added) (args : List Text) :
    Agrees (LogDirs d here) (Request.parse dialect args)
      (Request.parse dialect (added ++ args)) := by
  obtain ⟨ws, hwords, hread⟩ := dispensable_of_journalOptions h
  rw [Request.parse, Request.parse, hwords]
  cases words args with
  | error f => exact .refused f
  | ok rest =>
      exact hread .start .start rest ⟨rfl, rfl, rfl, rfl, .inl rfl⟩
        (by simp [HasLogDir, Reading.start])

end TestScaffold.CommandLine
