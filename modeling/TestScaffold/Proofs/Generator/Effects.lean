import TestScaffold.Proofs.Disk.Writing
import TestScaffold.Proofs.Generator.Draft

/-!
What a run of the generator does to the disk.

* `Session.Keeps` is what is kept by a run that tries to write a test: what is new are
  directories on the way to it, and besides them there is at most the file itself.
* `write_course`: how far the writing of a test gets. `write_cases`: without links it gives
  up before anything is made, or it ends in one of the ways of `WriteEnds`: it is refused,
  with some directories made on the way, or after the file was opened, or it is done.
  `generate_cases` are the ways in which a run ends.
* `ne_source` and `ne_buildFile`: the place of a test is neither that of its
  source nor that of the build file, however the path is spelled.
* `generate_effect`: **a run changes nothing but the test file and the directories on the
  way to it**, apart from the logs that its records go to. Not even that is changed by a
  dry run (but `generate_leaves`: its records may be written to a log), or where the run
  fails before it writes.
-/

namespace TestScaffold

namespace Session

variable {s s' : Session} {path : Text} {l : Location} {n : Node}

/-- The path leads to the node at the location. -/
def LeadsTo (s : Session) (path : Text) (l : Location) (n : Node) : Prop :=
  s.disk.resolve s.here path .content = .ok (.found l n)

/-- Nothing was made, changed or removed, apart from the logs. -/
def Untouched (s s' : Session) : Prop :=
  ∀ l, ¬s.journal.WritesTo l → s'.disk.get? l = s.disk.get? l

/-- A directory was made on the way along the path. -/
def NewDir (s s' : Session) (path : Text) (l : Location) : Prop :=
  s.disk.get? l = none ∧ s'.disk.get? l = some .dir ∧
    ∃ p, Path.Beginning p path ∧ s'.LeadsTo p l .dir

lemma OnlyTold.untouched (h : s.OnlyTold s') : s.Untouched s' := fun l => (h.disk l).2

lemma OnlyTold.leadsTo (h : s.OnlyTold s') (hres : s.LeadsTo path l n) :
    ∃ n', n'.shape = n.shape ∧ (¬s.journal.WritesTo l → n' = n) ∧ s'.LeadsTo path l n' := by
  obtain ⟨n', hs, hn, hres'⟩ := h.disk.resolve_found hres
  rw [← h.here] at hres'
  exact ⟨n', hs, hn, hres'⟩

/-- A file that is read after something was told was there before. -/
lemma OnlyTold.exists_leadsTo_of_readFile (h : s.OnlyTold s') {bs : List UInt8}
    (hread : s'.disk.readFile s'.here path = .ok bs) :
    ∃ l bs', s.LeadsTo path l (.file bs') := by
  obtain ⟨l, hres⟩ := Disk.resolve_of_readFile hread
  obtain ⟨n, hs, -, hleads⟩ := h.symm.leadsTo hres
  cases n with
  | file bs' => exact ⟨l, bs', hleads⟩
  | _ => simp [Node.shape] at hs

/-- A path leads where it led, if the disk has only grown and what was there is
still the same. -/
lemma LeadsTo.of_grows (h : s.LeadsTo path l n) (hg : s.disk.Grows s'.disk)
    (hhere : s'.here = s.here) (hsame : s'.disk.get? l = s.disk.get? l) :
    s'.LeadsTo path l n := by
  obtain ⟨n', -, hres⟩ := Disk.resolve_found_of_grows hg h
  rw [Disk.get?_of_resolve_found hres, Disk.get?_of_resolve_found h] at hsame
  obtain rfl := Option.some.inj hsame
  rw [LeadsTo, hhere]
  exact hres

/-! ### What a written test leaves alone -/

/-- From the first session to the second one nothing was done, apart from the logs, but what
belongs to a test: directories were made on the way along a path, and a file was perhaps put
at a place, or written over. -/
structure Keeps (dir : Text) (place : Location) (s s' : Session) : Prop where
  here : s'.here = s.here
  loggers : s'.journal.loggers = s.journal.loggers
  grows : s.disk.Grows s'.disk
  isPlain : s.IsPlain → s'.IsPlain
  others : ∀ l, l ≠ place → ¬s.journal.WritesTo l →
    s'.disk.get? l = s.disk.get? l ∨ s.NewDir s' dir l
  own : ¬s.journal.WritesTo place → s'.disk.get? place = s.disk.get? place ∨
    s.NewDir s' dir place ∨ (∀ n, s.disk.get? place = some n → ∃ bs, n = .file bs) ∧
      ∃ bs, s'.disk.get? place = some (.file bs)

namespace Keeps

variable {s₀ : Session} {dir : Text} {place : Location} {d d' : Disk} {bs : List UInt8}

lemma writesTo_iff (h : Keeps dir place s s') : s'.journal.WritesTo l ↔ s.journal.WritesTo l := by
  simp only [Journal.WritesTo, h.loggers]

/-- Directories only were made. -/
lemma of_addsDirs (h : Disk.AddsDirs s.here dir s.disk d) (place : Location) :
    Keeps dir place s { s with disk := d } := by
  have hnodes : ∀ l, d.get? l = s.disk.get? l ∨ s.NewDir { s with disk := d } dir l := h.nodes
  refine ⟨rfl, rfl, h.grows, fun hs => ?_, fun l _ _ => hnodes l, fun _ => ?_⟩
  · exact hs.of_grows (h.linkFree hs.linkFree) (h.isTree hs.isTree) h.grows
  · exact (hnodes place).imp_right .inl

/-- Something was told before. -/
lemma after (htold : s₀.OnlyTold s) (h : Keeps dir place s s') : Keeps dir place s₀ s' := by
  have hsame : ∀ {l}, ¬s₀.journal.WritesTo l →
      (s'.disk.get? l = s.disk.get? l ∨ s.NewDir s' dir l) →
        s'.disk.get? l = s₀.disk.get? l ∨ s₀.NewDir s' dir l := by
    rintro l hl (heq | ⟨hnone, hdir⟩)
    · exact .inl (heq.trans (htold.untouched l hl))
    · exact .inr ⟨htold.disk.get?_eq_none_iff.mp hnone, hdir⟩
  refine ⟨h.here.trans htold.here, h.loggers.trans htold.loggers, htold.disk.grows.trans h.grows,
    h.isPlain ∘ htold.isPlain, fun l hl hlog => ?_, fun hlog => ?_⟩
  · exact hsame hlog (h.others l hl (mt htold.writesTo_iff.mp hlog))
  · rcases h.own (mt htold.writesTo_iff.mp hlog) with heq | hnew | ⟨hfree, hfile⟩
    · exact (hsame hlog (.inl heq)).imp_right .inl
    · exact (hsame hlog (.inr hnew)).imp_right .inl
    · refine .inr (.inr ⟨fun n hn => ?_, hfile⟩)
      rw [← htold.untouched place hlog] at hn
      exact hfree n hn

/-- Something was told afterwards. -/
lemma tell {s'' : Session} (h : Keeps dir place s s') (htold : s'.OnlyTold s'') :
    Keeps dir place s s'' := by
  have hnew : ∀ {l}, s.NewDir s' dir l → s.NewDir s'' dir l := by
    rintro l ⟨hnone, hdir, p, hp, hleads⟩
    obtain ⟨n, hn, -, hleads'⟩ := htold.leadsTo hleads
    obtain rfl := Node.shape_eq_dir.mp hn
    exact ⟨hnone, htold.disk.grows.get?_dir hdir, p, hp, hleads'⟩
  have hsame : ∀ {l}, ¬s.journal.WritesTo l → s''.disk.get? l = s'.disk.get? l := fun hl =>
    htold.untouched _ (mt h.writesTo_iff.mp hl)
  refine ⟨htold.here.trans h.here, htold.loggers.trans h.loggers,
    h.grows.trans htold.disk.grows, htold.isPlain ∘ h.isPlain, fun l hl hlog => ?_,
    fun hlog => ?_⟩
  · exact (h.others l hl hlog).imp (hsame hlog).trans hnew
  · rw [hsame hlog]
    exact (h.own hlog).imp_right (Or.imp_left hnew)

/-- A file was put after the directories. -/
lemma of_putsFile (h : Disk.AddsDirs s.here dir s.disk d) (hputs : Disk.PutsFile place bs d d') :
    Keeps dir place s { s with disk := d' } := by
  have hg := h.grows.trans hputs.grows
  have hnew : ∀ {l}, s.NewDir { s with disk := d } dir l →
      s.NewDir { s with disk := d' } dir l := by
    rintro l ⟨hnone, hdir, p, hp, hleads⟩
    obtain ⟨n, hn, hres⟩ := Disk.resolve_found_of_grows hputs.grows hleads
    obtain rfl := Node.shape_eq_dir.mp hn
    exact ⟨hnone, hputs.grows.get?_dir hdir, p, hp, hres⟩
  refine ⟨rfl, rfl, hg, fun hs => ?_, fun l hl hlog => ?_, fun hlog => .inr (.inr ⟨?_, bs, ?_⟩)⟩
  · exact hs.of_grows (hputs.linkFree (h.linkFree hs.linkFree))
      (hputs.isTree (h.isTree hs.isTree)) hg
  · have hsame := (of_addsDirs h place).others l hl hlog
    exact hsame.imp (hputs.get?_of_ne hl).trans hnew
  · intro n hn
    obtain ⟨n', hn', hshape⟩ := h.grows _ _ hn
    obtain ⟨bs', rfl⟩ := hputs.free n' hn'
    cases n with
    | file bs'' => exact ⟨bs'', rfl⟩
    | _ => cases hshape
  · exact hputs.get?_self

/-- What stands elsewhere stays as it is. -/
lemma get?_of_some (h : Keeps dir place s s') (hl : l ≠ place) (hlog : ¬s.journal.WritesTo l)
    (hn : s.disk.get? l = some n) : s'.disk.get? l = some n := by
  rcases h.others l hl hlog with heq | ⟨hnone, -⟩
  · rw [heq, hn]
  · rw [hn] at hnone
    cases hnone

end Keeps

end Session

namespace Generator

open TestScaffold.Action

variable {s s' : Session} {dir name content path : Text} {place : Location} {bs : List UInt8}

/-! ### Writing -/

/-- Where the system opens a file, the text can be its path; otherwise it is refused for
that, or by the system. -/
lemma exists_system_of_openFile {d : Disk} {here : Location} {e : AccessError}
    (hpath : path.isPath) (h : d.openFile here path = .error e) : ∃ e', e = .system e' := by
  rw [Disk.openFile, if_neg (not_not_intro hpath)] at h
  split at h <;> cases h
  exact ⟨_, rfl⟩

/-- The failure to write a content at a path. -/
def IsRefused (path content : Text) (e : Failure) : Prop :=
  (∃ why, e = .scaffold (.testUnwritable path why)) ∨
    ∃ what, Encoding.utf8.refusal? content = some what ∧ e = .unencodable what

lemma IsRefused.isUnwritable {e : Failure} (h : IsRefused path content e) : e.IsUnwritable := by
  rcases h with ⟨why, rfl⟩ | ⟨what, -, rfl⟩
  · exact trivial
  · exact trivial

/-- From the first session to the second one a test was put at its place: directories
were made for it, the file was put where its path leads, and the rest was told. -/
structure Puts (dir name : Text) (place : Location) (bs : List UInt8) (s s' : Session) :
    Prop where
  place_eq : place = Disk.placeOf s.here (Path.joinTo dir name)
  disks : ∃ d d' n, Disk.AddsDirs s.here dir s.disk d ∧ Disk.PutsFile place bs d d' ∧
    d'.resolve s.here (Path.joinTo dir name) .content = .ok (.found place n) ∧
    ({ s with disk := d' } : Session).OnlyTold s'

namespace Puts

lemma keeps (h : Puts dir name place bs s s') : Session.Keeps dir place s s' := by
  obtain ⟨d, d', n, hadds, hputs, -, htold⟩ := h.disks
  exact (Session.Keeps.of_putsFile hadds hputs).tell htold

lemma host (h : Puts dir name place bs s s') : s'.host = s.host := by
  obtain ⟨d, d', n, -, -, -, htold⟩ := h.disks
  exact htold.host

lemma ne_nil (h : Puts dir name place bs s s') : place ≠ [] := by
  obtain ⟨d, d', n, -, hputs, -⟩ := h.disks
  exact hputs.ne_nil

/-- More may be told after it. -/
lemma tell {s'' : Session} (h : Puts dir name place bs s s') (htold : s'.OnlyTold s'') :
    Puts dir name place bs s s'' := by
  obtain ⟨d, d', n, hadds, hputs, hres, htold'⟩ := h.disks
  exact ⟨h.place_eq, d, d', n, hadds, hputs, hres, htold'.trans htold⟩

/-- The path of the test leads to a file. -/
lemma leadsTo (h : Puts dir name place bs s s') :
    ∃ bs', s'.LeadsTo (Path.joinTo dir name) place (.file bs') := by
  obtain ⟨d, d', n, -, hputs, hres, htold⟩ := h.disks
  obtain rfl : n = .file bs :=
    Option.some.inj ((Disk.get?_of_resolve_found hres).symm.trans hputs.get?_self)
  obtain ⟨n', hn', -, hleads⟩ := htold.leadsTo hres
  cases n' with
  | file bs' => exact ⟨bs', hleads⟩
  | _ => simp [Node.shape] at hn'

lemma get?_place (h : Puts dir name place bs s s') (hlog : ¬s.journal.WritesTo place) :
    s'.disk.get? place = some (.file bs) := by
  obtain ⟨d, d', n, -, hputs, -, htold⟩ := h.disks
  rw [htold.untouched place hlog]
  exact hputs.get?_self

end Puts

/-- The ways in which writing ends, unless too many directories are missing. -/
inductive WriteEnds (dir name content : Text) (s : Session) : Except Failure Text → Session → Prop
  /-- Directories are made, and the file is as it was. -/
  | refused {d : Disk} {e : Failure} (hadds : Disk.AddsDirs s.here dir s.disk d)
      (he : IsRefused (Path.joinTo dir name) content e) :
      WriteEnds dir name content s (.error e) { s with disk := d }
  /-- The file is opened, and then it fails. -/
  | broken {place : Location} {bs : List UInt8} {s' : Session} {e : Failure}
      (hputs : Puts dir name place bs s s') (he : IsRefused (Path.joinTo dir name) content e) :
      WriteEnds dir name content s (.error e) s'
  /-- The file has the content. -/
  | done {place : Location} {s' : Session}
      (hputs : Puts dir name place (Utf8.encode content) s s') (hchars : content.AllChars)
      (hfree : s.host.refusal? place (Utf8.encode content) = none) :
      WriteEnds dir name content s
        (.ok (Path.absolute (Disk.pathTo s.here) (Path.joinTo dir name))) s'

lemma encode_ne_nil (h : content ≠ []) : Utf8.encode content ≠ [] := by
  obtain ⟨c, s, rfl⟩ := List.exists_cons_of_ne_nil h
  simp [Utf8.encode, Utf8.encodePoint_ne_nil]

/-- A content without octets is refused before anything is written. -/
lemma runOn_fill_of_refused {what : Text} (h : Encoding.utf8.refusal? content = some what) :
    runOn (fill path place content) s = (.error (.unencodable what), s) := by
  rw [fill, h]
  rfl

/-- Any other content is given to the system. -/
lemma runOn_fill_of_allChars (h : content.AllChars) :
    runOn (fill path place content) s =
      runOn (accessOr (.testUnwritable path)
          (s.disk.fill s.host.refusal? place (Utf8.encode content)).1)
        { s with disk := (s.disk.fill s.host.refusal? place (Utf8.encode content)).2 } := by
  rw [fill, Encoding.refusal?_utf8_eq_none_iff.mpr h]
  rfl

/-- What becomes of a file that is there to be filled. -/
lemma fill_cases {d : Disk} (hadds : Disk.AddsDirs s.here dir s.disk d) {d' : Disk}
    (hplace : place = Disk.placeOf s.here (Path.joinTo dir name)) (hcontent : content ≠ [])
    (hopen : (d.get? place = some .faulty ∧ d' = d) ∨
      Disk.PutsFile place [] d d' ∧
        ∃ n, d'.resolve s.here (Path.joinTo dir name) .content = .ok (.found place n)) :
    let run := runOn (fill (Path.joinTo dir name) place content) { s with disk := d' }
    (run.1 = .ok () ∧ Puts dir name place (Utf8.encode content) s run.2 ∧ content.AllChars ∧
        s.host.refusal? place (Utf8.encode content) = none) ∨
      ∃ e, run.1 = .error e ∧ IsRefused (Path.joinTo dir name) content e ∧
        (run.2 = { s with disk := d } ∨ ∃ bs, Puts dir name place bs s run.2) := by
  intro run
  -- what has no encoding is not given to the system at all
  by_cases hchars : content.AllChars
  swap
  · obtain ⟨what, hwhat⟩ := Option.ne_none_iff_exists'.mp
      (mt Encoding.refusal?_utf8_eq_none_iff.mp hchars)
    refine .inr ⟨.unencodable what, ?_, .inr ⟨what, hwhat, rfl⟩, ?_⟩
    · simp only [run, runOn_fill_of_refused hwhat]
    · simp only [run, runOn_fill_of_refused hwhat]
      rcases hopen with ⟨-, rfl⟩ | ⟨hputs, n, hres⟩
      · exact .inl rfl
      · exact .inr ⟨[], hplace, d, d', n, hadds, hputs, hres, .refl _⟩
  simp only [run, runOn_fill_of_allChars hchars]
  rcases hopen with ⟨hfaulty, rfl⟩ | ⟨hputs, n, hres⟩
  · -- a faulty file can be opened, and takes nothing
    have hfill : d'.fill s.host.refusal? place (Utf8.encode content) =
        (.error (.system ⟨.inputOutput, none⟩), d') := by
      rw [Disk.fill, if_neg (encode_ne_nil hcontent), if_pos hfaulty]
    rw [hfill]
    exact .inr ⟨_, rfl, .inl ⟨_, rfl⟩, .inl rfl⟩
  obtain ⟨r, d'', hfill⟩ :
      ∃ r d'', d'.fill s.host.refusal? place (Utf8.encode content) = (r, d'') := ⟨_, _, rfl⟩
  obtain ⟨bs, hputs', hends⟩ := Disk.fill_effect (encode_ne_nil hcontent) hputs hfill
  obtain ⟨n', -, hres'⟩ := Disk.resolve_found_of_grows (hputs.grows_of_refill hputs') hres
  have hput : Puts dir name place bs s { s with disk := d'' } :=
    ⟨hplace, d, d'', n', hadds, hputs', hres', .refl _⟩
  rw [hfill]
  rcases hends with ⟨rfl, rfl, hfree⟩ | ⟨e, rfl, -⟩
  · exact .inl ⟨rfl, hput, hchars, hfree⟩
  · exact .inr ⟨_, rfl, .inl ⟨e, rfl⟩, .inr ⟨bs, hput⟩⟩

/-- What becomes of it if the system does not let the test be written at a path. -/
def unwritable (path : Text) : AccessError → Failure
  | .system e => .scaffold (.testUnwritable path e)
  | e => .ofAccess e

lemma runOn_accessOr_unwritable_bind {α β : Type} (e : AccessError) (k : α → Action β) :
    runOn (accessOr (.testUnwritable path) (.error e) >>= k) s =
      (.error (unwritable path e), s) := by
  cases e <;> rfl

/-- **The course of writing**, as far as it gets: the directories are made, the file is
opened and filled, and that is told. -/
inductive WriteCourse (dir name content : Text) (s : Session) :
    Except Failure Text → Session → Prop
  /-- Not all the directories are made. -/
  | unmade {d : Disk} {e : AccessError}
      (hmake : s.disk.makeDirs s.here (s.host.testRoom + 1) dir = (.error e, d)) :
      WriteCourse dir name content s (.error (unwritable (Path.joinTo dir name) e))
        { s with disk := d }
  /-- The file is not opened. -/
  | unopened {d : Disk} {e : AccessError}
      (hmake : s.disk.makeDirs s.here (s.host.testRoom + 1) dir = (.ok (), d))
      (hopen : d.openFile s.here (Path.joinTo dir name) = .error e) :
      WriteCourse dir name content s (.error (unwritable (Path.joinTo dir name) e))
        { s with disk := d }
  /-- The file does not take the content. -/
  | unfilled {d d' : Disk} {place : Location} {e : Failure} {s' : Session}
      (hmake : s.disk.makeDirs s.here (s.host.testRoom + 1) dir = (.ok (), d))
      (hopen : d.openFile s.here (Path.joinTo dir name) = .ok (d', place))
      (hfill : runOn (fill (Path.joinTo dir name) place content) { s with disk := d' } =
        (.error e, s')) :
      WriteCourse dir name content s (.error e) s'
  /-- The file takes the content. -/
  | written {d d' : Disk} {place : Location} {s' s'' : Session}
      (hmake : s.disk.makeDirs s.here (s.host.testRoom + 1) dir = (.ok (), d))
      (hopen : d.openFile s.here (Path.joinTo dir name) = .ok (d', place))
      (hfill : runOn (fill (Path.joinTo dir name) place content) { s with disk := d' } =
        (.ok (), s'))
      (htell : s'' = s'.log ⟨stubLogger, Level.info, "Wrote ".toText ++ Path.joinTo dir name⟩) :
      WriteCourse dir name content s
        (.ok (Path.absolute s''.herePath (Path.joinTo dir name))) s''

/-- Writing takes such a course, whatever is on the disk. -/
lemma write_course {r : Except Failure Text} (h : runOn (write dir name content) s = (r, s')) :
    WriteCourse dir name content s r s' := by
  have hmade := runOn_changeMost (s := s) fun d here => d.makeDirs here (s.host.testRoom + 1) dir
  rcases hmake : s.disk.makeDirs s.here (s.host.testRoom + 1) dir with ⟨e | u, d⟩
  · rw [write, runOn_host_bind, runOn_bind_of_ok hmade, hmake, runOn_accessOr_unwritable_bind] at h
    obtain ⟨rfl, rfl⟩ := Prod.mk.inj h
    exact .unmade hmake
  rw [write, runOn_host_bind, runOn_bind_of_ok hmade, hmake, runOn_accessOr_ok_bind] at h
  rcases hopen : d.openFile s.here (Path.joinTo dir name) with e | ⟨d', place⟩
  · rw [runOn_bind_of_ok (runOn_changeFor_of_error (s := { s with disk := d }) hopen),
      runOn_accessOr_unwritable_bind] at h
    obtain ⟨rfl, rfl⟩ := Prod.mk.inj h
    exact .unopened hmake hopen
  rw [runOn_bind_of_ok (runOn_changeFor_of_ok (s := { s with disk := d }) hopen),
    runOn_accessOr_ok_bind] at h
  rcases hfill : runOn (fill (Path.joinTo dir name) place content) { s with disk := d' } with
    ⟨e | u, s₂⟩
  · rw [runOn_bind_of_error hfill] at h
    obtain ⟨rfl, rfl⟩ := Prod.mk.inj h
    exact .unfilled hmake hopen hfill
  · rw [runOn_bind_of_ok hfill, runOn_log_bind] at h
    obtain ⟨rfl, rfl⟩ := Prod.mk.inj h
    exact .written hmake hopen hfill rfl

/-- **The ways in which writing ends.** -/
theorem write_cases (hd : s.disk.LinkFree) (hdir : dir.isPath)
    (hpath : (Path.joinTo dir name).isPath)
    (hslash : Disk.endsInSlash (Path.joinTo dir name) = false) (hcontent : content ≠ [])
    {r : Except Failure Text} (h : runOn (write dir name content) s = (r, s')) :
    (s' = s ∧ r = .error .tooDeep) ∨ WriteEnds dir name content s r s' := by
  have hadds : ∀ {r d}, s.disk.makeDirs s.here (s.host.testRoom + 1) dir = (r, d) →
      Disk.AddsDirs s.here dir s.disk d := fun hmake => (Disk.makeDirs_effect _ hd hdir hmake).1
  cases write_course h with
  | unmade hmake =>
      rcases (Disk.makeDirs_effect _ hd hdir hmake).2 _ rfl with ⟨rfl, rfl⟩ | ⟨e', rfl⟩
      · exact .inl ⟨rfl, rfl⟩
      · exact .inr (.refused (hadds hmake) (.inl ⟨e', rfl⟩))
  | unopened hmake hopen =>
      obtain ⟨e', rfl⟩ := exists_system_of_openFile hpath hopen
      exact .inr (.refused (hadds hmake) (.inl ⟨e', rfl⟩))
  | unfilled hmake hopen hfill =>
      obtain ⟨hplace, hopened⟩ := Disk.openFile_effect ((hadds hmake).linkFree hd) hslash hopen
      have hcases := fill_cases (hadds hmake) hplace hcontent hopened
      rw [hfill] at hcases
      rcases hcases with ⟨hok, -⟩ | ⟨e, heq, he, rfl | ⟨bs, hputs⟩⟩
      · cases hok
      · obtain rfl := Except.error.inj heq
        exact .inr (.refused (hadds hmake) he)
      · obtain rfl := Except.error.inj heq
        exact .inr (.broken hputs he)
  | @written d d' place s₂ _ hmake hopen hfill htell =>
      obtain ⟨hplace, hopened⟩ := Disk.openFile_effect ((hadds hmake).linkFree hd) hslash hopen
      have hcases := fill_cases (hadds hmake) hplace hcontent hopened
      rw [hfill] at hcases
      rcases hcases with ⟨-, hputs, hchars, hfree⟩ | ⟨e, heq, -⟩
      · have htold : s₂.OnlyTold s' := htell ▸ .log _ _
        have hhere := htold.here.trans hputs.keeps.here
        rw [Session.herePath, hhere]
        exact .inr (.done (hputs.tell htold) hchars hfree)
      · cases heq

namespace WriteEnds

variable {r : Except Failure Text} {s₀ : Session}

/-- However writing ends, nothing is done but what belongs to the test. -/
lemma keeps (h : WriteEnds dir name content s r s') :
    Session.Keeps dir (Disk.placeOf s.here (Path.joinTo dir name)) s s' := by
  cases h with
  | refused hadds => exact .of_addsDirs hadds _
  | broken hputs => exact hputs.place_eq ▸ hputs.keeps
  | done hputs => exact hputs.place_eq ▸ hputs.keeps

lemma of_error {e : Failure} (h : WriteEnds dir name content s (.error e) s') :
    IsRefused (Path.joinTo dir name) content e := by
  cases h with
  | refused _ he => exact he
  | broken _ he => exact he

end WriteEnds

/-! ### The place of a test -/

/-- The place of a test has the name that the layout says. -/
lemma exists_placeOf_eq (here : Location) (hplace : Layout.testPlace path = .ok (dir, name)) :
    ∃ up, Disk.placeOf here (Path.joinTo dir name) = Layout.testFileName path :: up := by
  obtain ⟨hdir, rfl, -⟩ := Layout.testPlace_eq_ok hplace
  have hname := Layout.isName_testFileName path
  rw [Disk.placeOf, Disk.steps_joinTo hdir hname.ne_nil hname.notMem,
    Disk.lexical_concat hname.ne_dot hname.ne_dots]
  exact ⟨_, rfl⟩

/-- The place of a test can have a path where its source can. -/
lemma isPath_testPlace (hpath : path.isPath) (h : Layout.testPlace path = .ok (dir, name)) :
    dir.isPath ∧ (Path.joinTo dir name).isPath := by
  have hnew : ∀ c : CodePoint, ¬c.fitsPath → c ∉ "Test".toText := fun c hc =>
    Text.notMem_of_isPath (by decide) hc
  have hdir : dir.isPath := Text.isPath_of_notMem fun c hc hmem =>
    Text.notMem_of_isPath hpath hc (Layout.mem_of_mem_testPlace h (.inl hmem) (hnew c hc))
  have hname : name.isPath := Text.isPath_of_notMem fun c hc hmem =>
    Text.notMem_of_isPath hpath hc (Layout.mem_of_mem_testPlace h (.inr hmem) (hnew c hc))
  exact ⟨hdir, Path.isPath_joinTo hdir hname⟩

/-- The name of a test is longer than that of its source. -/
lemma ne_source (hs : s.IsPlain) {l up : Location} {bs : List UInt8}
    (h : s.LeadsTo path l (.file bs)) : l ≠ Layout.testFileName path :: up := by
  obtain ⟨up', rfl⟩ := Disk.exists_name_of_resolve_found hs.linkFree hs.isTree (by simp) h
  intro heq
  have hlen := Layout.length_testFileName path
  rw [← (List.cons.inj heq).1] at hlen
  omega

lemma isName_of_mem_names {name : Text} (h : name ∈ BuildFile.names) : Path.IsName name := by
  have hall : ∀ c ∈ BuildFile.names,
      c ≠ [] ∧ char '/' ∉ c ∧ c ≠ [char '.'] ∧ c ≠ [char '.', char '.'] := by decide
  obtain ⟨hne, hslash, hdot, hdots⟩ := hall name h
  exact ⟨hne, hslash, hdot, hdots⟩

/-- No build file has the letter in its name that every test has. -/
lemma ne_buildFile (hd : s.disk.LinkFree) {root name : Text} {l up : Location} {n : Node}
    (hname : name ∈ BuildFile.names) (h : s.LeadsTo (root ++ char '/' :: name) l n) :
    l ≠ Layout.testFileName path :: up := by
  have hletter : ∀ c ∈ BuildFile.names, char 'T' ∉ c := by decide
  have hproper := isName_of_mem_names hname
  rw [Disk.eq_lexical_of_resolve_found hd h, Disk.steps_append_slash,
    Disk.steps_of_notMem hproper.ne_nil hproper.notMem,
    Disk.lexical_concat hproper.ne_dot hproper.ne_dots]
  intro heq
  exact hletter name hname ((List.cons.inj heq).1 ▸ Layout.upper_mem_testFileName path)

/-! ### The whole run -/

variable {settings : Settings} {dryRun : Bool} {annotationName : Text} {s₁ : Session} {t : Draft}
  {r : Except Failure Generated}

/-- What can be said of the place of a draft: its texts can be paths, and the path of the
test is that of a file. -/
lemma place_of_draft (hdraft : runOn (draft settings annotationName path) s = (.ok t, s₁)) :
    t.dir.isPath ∧ (Path.joinTo t.dir t.name).isPath ∧
      Disk.endsInSlash (Path.joinTo t.dir t.name) = false := by
  obtain ⟨hplace, -, ⟨s₂, bs, -, hread⟩, -⟩ := draft_eq_ok hdraft
  obtain ⟨hdir, hpath⟩ := isPath_testPlace (Disk.isPath_of_readFile hread) hplace
  obtain ⟨-, hname, -⟩ := Layout.testPlace_eq_ok hplace
  have hproper : Path.IsName t.name := hname ▸ Layout.isName_testFileName path
  exact ⟨hdir, hpath, Disk.endsInSlash_joinTo hproper.ne_nil hproper.notMem⟩

/-- **The ways in which a run ends.** It has only told something; or it has made
a draft and tried to write it. -/
theorem generate_cases (hs : s.IsPlain)
    (h : runOn (generate settings dryRun annotationName path) s = (r, s')) :
    (s.OnlyTold s' ∧ (∀ e, r = .error e → ¬e.IsUnwritable) ∧ ∀ g, r = .ok g → dryRun = true) ∨
      dryRun = false ∧ ∃ t s₁ r', runOn (draft settings annotationName path) s = (.ok t, s₁) ∧
        WriteEnds t.dir t.name t.content s₁ r' s' ∧
        r = r'.map fun p => ⟨some p, t.content, t.signatures⟩ := by
  rw [generate_eq] at h
  have htells := draft_onlyTells settings annotationName path
  rcases hdraft : runOn (draft settings annotationName path) s with ⟨e | t, s₁⟩
  · -- no draft, and nothing was done
    rw [runOn_bind_of_error hdraft] at h
    obtain ⟨rfl, rfl⟩ := Prod.mk.inj h
    refine .inl ⟨htells.onlyTold hdraft, fun e' he => ?_, by simp⟩
    obtain rfl := Except.error.inj he
    exact htells.of_failure hdraft
  have htold := htells.onlyTold hdraft
  rw [runOn_bind_of_ok hdraft] at h
  cases dryRun with
  | true =>
      rw [runOn_finish_dry] at h
      obtain ⟨rfl, rfl⟩ := Prod.mk.inj h
      exact .inl ⟨htold.trans (.log _ _), by simp, fun _ _ => rfl⟩
  | false =>
      obtain ⟨hdir, hpath, hslash⟩ := place_of_draft hdraft
      rcases hwrite : runOn (write t.dir t.name t.content) s₁ with ⟨r', s₂⟩
      rw [runOn_finish_real, hwrite] at h
      obtain ⟨rfl, rfl⟩ := Prod.mk.inj h
      rcases write_cases (htold.disk.linkFree hs.linkFree) hdir hpath hslash
        (draft_eq_ok hdraft).2.1 hwrite with ⟨rfl, rfl⟩ | hends
      · refine .inl ⟨htold, fun e he => ?_, fun g hg => ?_⟩
        · obtain rfl := Except.error.inj he
          exact id
        · cases hg
      · exact .inr ⟨rfl, t, s₁, r', rfl, hends, rfl⟩

/-- A run leaves a session on a tree without links where it was one. -/
lemma isPlain_of_generate (hs : s.IsPlain)
    (h : runOn (generate settings dryRun annotationName path) s = (r, s')) : s'.IsPlain := by
  rcases generate_cases hs h with ⟨htold, -, -⟩ | ⟨-, t, s₁, r', hdraft, hends, -⟩
  · exact htold.isPlain hs
  · exact hends.keeps.isPlain (((draft_onlyTells _ _ _).onlyTold hdraft).isPlain hs)

/-- What a run has done at most that has made a draft: the test file is where the layout
says, what else is new are directories on the way to it, and source and build file are as
they were. -/
structure Confined (path : Text) (s s' : Session) (dir name : Text) (place : Location) :
    Prop where
  testPlace : Layout.testPlace path = .ok (dir, name)
  others : ∀ l, l ≠ place → ¬s.journal.WritesTo l →
    s'.disk.get? l = s.disk.get? l ∨ s.NewDir s' dir l
  own : ¬s.journal.WritesTo place → s'.disk.get? place = s.disk.get? place ∨
    s.NewDir s' dir place ∨ (∀ n, s.disk.get? place = some n → ∃ bs, n = .file bs) ∧
      ∃ bs, s'.disk.get? place = some (.file bs)
  inputs : ∀ p, p = path ∨ (runOn (BuildFile.find path) s).1 = .ok p →
    ∃ l bs, l ≠ place ∧ s.LeadsTo p l (.file bs) ∧
      (¬s.journal.WritesTo l → s'.LeadsTo p l (.file bs))

/-- What a run has done that has written a test file: the file has the content of the
result, its path is that of the result, and what else was done is no more than that. -/
structure HasWritten (path : Text) (g : Generated) (s s' : Session) (dir name : Text)
    (place : Location) : Prop extends Confined path s s' dir name place where
  leadsTo : ∃ bs, s'.LeadsTo (Path.joinTo dir name) place (.file bs)
  encodable : g.content.AllChars
  content : ¬s.journal.WritesTo place → s'.disk.get? place = some (.file (Utf8.encode g.content))
  testPath : g.testPath = some (Disk.pathTo place) ∨
    g.testPath = some (char '/' :: Disk.pathTo place)

/-- However a draft is written, the run is confined to the test. -/
lemma confined_of_draft (hs : s.IsPlain)
    (hdraft : runOn (draft settings annotationName path) s = (.ok t, s₁))
    (hkeeps : Session.Keeps t.dir (Disk.placeOf s₁.here (Path.joinTo t.dir t.name)) s₁ s') :
    Confined path s s' t.dir t.name (Disk.placeOf s.here (Path.joinTo t.dir t.name)) := by
  have htold := (draft_onlyTells settings annotationName path).onlyTold hdraft
  obtain ⟨hplace, -, ⟨s₂, bs, htold₂, hsource⟩, -, file, s₃, bs', hfind, hbuild⟩ :=
    draft_eq_ok hdraft
  obtain ⟨up, hup⟩ := exists_placeOf_eq s.here hplace
  rw [htold.here] at hkeeps
  have hall := hkeeps.after htold
  -- neither of the files that are read is at the place of the test
  have hkept : ∀ p l bs, l ≠ Layout.testFileName path :: up → s.LeadsTo p l (.file bs) →
      ∃ l bs, l ≠ Disk.placeOf s.here (Path.joinTo t.dir t.name) ∧ s.LeadsTo p l (.file bs) ∧
        (¬s.journal.WritesTo l → s'.LeadsTo p l (.file bs)) := by
    intro p l bs hl hleads
    rw [← hup] at hl
    refine ⟨l, bs, hl, hleads, fun hlog => hleads.of_grows hall.grows hall.here ?_⟩
    have hget := Disk.get?_of_resolve_found hleads
    rw [hall.get?_of_some hl hlog hget, hget]
  refine ⟨hplace, hall.others, hall.own, fun p hp => ?_⟩
  rcases hp with rfl | hp
  · obtain ⟨l, bs, hleads⟩ := htold₂.exists_leadsTo_of_readFile hsource
    exact hkept p l bs (ne_source hs hleads) hleads
  · obtain rfl : file = p := by simpa [hfind] using hp
    obtain ⟨root, name, -, -, -, hname, rfl⟩ := find_eq_ok hfind
    obtain ⟨l, bs, hleads⟩ := (find_onlyTells.onlyTold hfind).exists_leadsTo_of_readFile hbuild
    exact hkept _ l bs (ne_buildFile hs.linkFree (List.mem_of_find?_eq_some hname) hleads) hleads

/-- What a run has done that has made its draft and written it. -/
lemma hasWritten_of_puts (hs : s.IsPlain)
    (hdraft : runOn (draft settings annotationName path) s = (.ok t, s₁))
    (hputs : Puts t.dir t.name place (Utf8.encode t.content) s₁ s')
    (hchars : t.content.AllChars) :
    HasWritten path
      ⟨some (Path.absolute (Disk.pathTo s₁.here) (Path.joinTo t.dir t.name)), t.content,
        t.signatures⟩ s s' t.dir t.name place := by
  have htold := (draft_onlyTells settings annotationName path).onlyTold hdraft
  have hplace : place = Disk.placeOf s.here (Path.joinTo t.dir t.name) := by
    rw [hputs.place_eq, htold.here]
  have hconfined := confined_of_draft hs hdraft (hputs.place_eq ▸ hputs.keeps)
  rw [← hplace] at hconfined
  refine ⟨hconfined, hputs.leadsTo, hchars, fun hlog => ?_, ?_⟩
  · exact hputs.get?_place (mt htold.writesTo_iff.mp hlog)
  · rw [hplace, htold.here]
    simpa [Disk.placeOf] using Path.absolute_eq_pathTo hs.isName_here (Path.joinTo t.dir t.name)

/-- **What a run does to the disk.** A dry run, and one that ends with a failure
other than that of writing, leave it as it was. Where the system refuses to write the test,
the run has made directories on the way to it and no more than the file itself, which may
have been made, emptied or cut short. A run that succeeds has written the test, and nothing
else. The logs that records go to are left out of this. The disk stays a tree without
links. -/
theorem generate_effect (hs : s.IsPlain)
    (h : runOn (generate settings dryRun annotationName path) s = (r, s')) :
    s'.IsPlain ∧
      (dryRun = true → s.Untouched s') ∧
      (∀ e, r = .error e → ¬e.IsUnwritable → s.Untouched s') ∧
      (∀ p why, r = .error (.scaffold (.testUnwritable p why)) → ∃ dir name place,
        p = Path.joinTo dir name ∧ place = Disk.placeOf s.here p ∧
          Confined path s s' dir name place) ∧
      (∀ g, r = .ok g → dryRun = false →
        ∃ dir name place, HasWritten path g s s' dir name place) := by
  refine ⟨isPlain_of_generate hs h, ?_⟩
  rcases generate_cases hs h with
    ⟨htold, hfails, hdry⟩ | ⟨rfl, t, s₁, r', hdraft, hends, rfl⟩
  · refine ⟨fun _ => htold.untouched, fun _ _ _ => htold.untouched, fun p why he => ?_,
      fun g hg hwet => ?_⟩
    · exact absurd trivial (hfails _ he)
    · rw [hdry g hg] at hwet
      cases hwet
  have hkeeps := hends.keeps
  refine ⟨by simp, ?_⟩
  cases r' with
  | error e =>
      have hrefused := hends.of_error
      refine ⟨fun e' he hother => ?_, fun p why he => ?_, fun g hg => by cases hg⟩
      · obtain rfl : e = e' := Except.error.inj he
        exact absurd hrefused.isUnwritable hother
      · obtain rfl : e = _ := Except.error.inj he
        rcases hrefused with ⟨why', hwhy⟩ | ⟨what, -, hwhat⟩
        · obtain ⟨rfl, rfl⟩ := ScaffoldError.testUnwritable.inj (Failure.scaffold.inj hwhy)
          exact ⟨t.dir, t.name, _, rfl, rfl, confined_of_draft hs hdraft hkeeps⟩
        · cases hwhat
  | ok p =>
      refine ⟨fun e he => (by cases he), fun p why he => (by cases he), fun g hg _ => ?_⟩
      obtain rfl := Except.ok.inj hg
      cases hends with
      | done hputs hchars =>
          exact ⟨t.dir, t.name, _, hasWritten_of_puts hs hdraft hputs hchars⟩

/-- A session with one module, of a build file and a source of one function. -/
def oneModule : Session :=
  let root : Location := ["m".toText]
  let main : Location := "main".toText :: "src".toText :: root
  let source := "@Gen fun double(n: Int): Int = 2 * n\n".toText
  { host := .lenient 984 981 .late
    disk := ⟨[(root, .dir),
      ("build.gradle".toText :: root, .file (Utf8.encode "testImplementation".toText)),
      ("src".toText :: root, .dir), (main, .dir), ("kotlin".toText :: main, .dir),
      ("A.kt".toText :: "kotlin".toText :: main, .file (Utf8.encode source))]⟩
    here := ["m".toText]
    settingsVar := none
    logDirVar := none
    arguments := []
    stamp := []
    elapsed := []
    journal := .start ⟨Level.warning, []⟩ loggers
    stdout := []
    stderr := []
    records := [] }

lemma oneModule_isPlain : oneModule.IsPlain :=
  ⟨Disk.linkFree_of_nodes (by simp [oneModule]), Disk.isTree_of_nodes (by decide +kernel), by
    decide +kernel⟩

/-- The path of its source, not in the shortest spelling. -/
def oneSource : Text := "../m//src/main/kotlin/./A.kt".toText

theorem generate_effect_oneModule : oneModule.IsPlain ∧
    ∃ g s' dir name place, runOn (generate .default false "Gen".toText oneSource) oneModule =
        (.ok g, s') ∧
      HasWritten oneSource g oneModule s' dir name place ∧
      s'.disk.get? place = some (.file (Utf8.encode g.content)) := by
  refine ⟨oneModule_isPlain, ?_⟩
  have hok : (runOn (generate .default false "Gen".toText oneSource) oneModule).1.isOk = true := by
    decide +kernel
  rcases hrun : runOn (generate .default false "Gen".toText oneSource) oneModule with ⟨e | g, s'⟩
  · rw [hrun] at hok
    cases hok
  · obtain ⟨dir, name, place, hwritten⟩ :=
      (generate_effect oneModule_isPlain hrun).2.2.2.2 g rfl rfl
    exact ⟨g, s', dir, name, place, rfl, hwritten,
      hwritten.content (Journal.not_writesTo_start rfl loggers place)⟩

/-- This session at the root, with a log for the records of the run. -/
def oneLogged : Session :=
  let s : Session :=
    { oneModule with here := [], journal := .start ⟨Level.debug, [⟨.collection, 0⟩]⟩ loggers }
  (runOn (Audit.attach Audit.mainLogger (Path.ofText "logs".toText) Level.info) s).2

/-- This session at the root, with a system that has room for no content. -/
def oneFull : Session :=
  { oneModule with
    host := { oneModule.host with refusal? := fun _ _ => some ⟨.noSpace, []⟩ }
    here := [] }

/-- **A dry run writes to a log that is attached, and a run whose test cannot be written may
have made its file.** -/
theorem generate_leaves :
    (let run :=
        runOn (generate .default true "Gen".toText "m/src/main/kotlin/A.kt".toText) oneLogged
      let log : Location := [Audit.fileName, "logs".toText]
      run.1.isOk = true ∧ oneLogged.disk.get? log = some (.file []) ∧
        run.2.disk.get? log ≠ some (.file [])) ∧
    (let run := runOn (generate .default false "Gen".toText "m/src/main/kotlin/A.kt".toText) oneFull
      let test : Location :=
        ["ATest.kt".toText, "kotlin".toText, "test".toText, "src".toText, "m".toText]
      (∃ p why, run.1 = .error (.scaffold (.testUnwritable p why))) ∧
        oneFull.disk.get? test = none ∧ run.2.disk.get? test = some (.file [])) := by
  refine ⟨by decide +kernel, ⟨"m/src/test/kotlin/ATest.kt".toText, ⟨.noSpace, none⟩, ?_⟩, ?_⟩ <;>
    decide +kernel

end Generator

end TestScaffold
