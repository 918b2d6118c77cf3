import TestScaffold.Proofs.Generator.Effects

/-!
What a draft looks at.

* `Inputs` are the module and the build file of a source, with the octets of
  both files, and `Session.Sees` says that this is what is found from a session.
  Telling something does not change it (`Sees.of_onlyTold`), as no log is kept
  in one of these files.
* `Decided` is an action that ends in the same way wherever the same is seen. It
  goes through the steps of an action.
* `draft_decided`: **a draft is decided by its inputs**, and where one was made
  these can be named (`exists_sees_of_draft`).
-/

namespace TestScaffold

/-- What is found for a source: its octets, the module, and the name and the
octets of the build file. -/
structure Inputs where
  source : List UInt8
  root : Text
  name : Text
  build : List UInt8

/-- The path of the build file. -/
def Inputs.file (i : Inputs) : Text := i.root ++ char '/' :: i.name

namespace Disk

variable {d : Disk} {here l : Location} {path : Text}

/-- A file is read where its path can be one and leads to it. -/
lemma readFile_eq_ok_iff {bs : List UInt8} :
    d.readFile here path = .ok bs ↔
      path.isPath ∧ ∃ l, d.resolve here path .content = .ok (.found l (.file bs)) := by
  constructor
  · exact fun h => ⟨isPath_of_readFile h, resolve_of_readFile h⟩
  · rintro ⟨hpath, l, hres⟩
    simp [readFile, stat, hpath, hres]

lemma isFile_of_readFile {bs : List UInt8} (h : d.readFile here path = .ok bs) :
    d.isFile here path := by
  obtain ⟨hpath, l, hres⟩ := readFile_eq_ok_iff.mp h
  simp [isFile, stat, hpath, hres]

/-- Where a path leads, its entries are those of the place. -/
lemma hasEntry_eq {dir name : Text} {n : Node}
    (h : d.resolve here dir .content = .ok (.found l n)) :
    BuildFile.hasEntry d here dir name = (d.get? (name :: l)).isSome := by
  rw [BuildFile.hasEntry, h]

lemma unlistable?_eq (host : Host) {dir : Text} {n : Node}
    (h : d.resolve here dir .content = .ok (.found l n)) :
    BuildFile.unlistable? host d here dir = host.unlistable? l := by
  rw [BuildFile.unlistable?, h]

end Disk

namespace Session

variable {s s' : Session} {path p : Text} {i : Inputs}

/-- The path leads to no place that a log is kept in. -/
def Unlogged (s : Session) (p : Text) : Prop := ∀ l n, s.LeadsTo p l n → ¬s.journal.WritesTo l

/-- What is found for the source at a path, from a session that keeps no log in
it. -/
structure Sees (path : Text) (i : Inputs) (s : Session) : Prop where
  moduleRoot : Layout.moduleRoot path = .ok i.root
  isDir : s.disk.isDir s.here i.root
  listed : BuildFile.unlistable? s.host s.disk s.here i.root = none
  name : BuildFile.names.find? (BuildFile.hasEntry s.disk s.here i.root) = some i.name
  build : s.disk.readFile s.here i.file = .ok i.build
  source : s.disk.readFile s.here path = .ok i.source
  unlogged : ∀ p, p = path ∨ p = i.file → s.Unlogged p

namespace OnlyTold

lemma unlogged (ht : s.OnlyTold s') (h : s.Unlogged p) : s'.Unlogged p := by
  intro l n hleads
  obtain ⟨n', -, -, hleads'⟩ := ht.symm.leadsTo hleads
  rw [ht.writesTo_iff]
  exact h l n' hleads'

/-- A file that is no log is read as it was before something was told. -/
lemma readFile (ht : s.OnlyTold s') (h : s.Unlogged p) {bs : List UInt8}
    (hread : s.disk.readFile s.here p = .ok bs) : s'.disk.readFile s'.here p = .ok bs := by
  obtain ⟨hpath, l, hres⟩ := Disk.readFile_eq_ok_iff.mp hread
  obtain ⟨n', -, hsame, hleads⟩ := ht.leadsTo hres
  rw [hsame (h l _ hres)] at hleads
  exact Disk.readFile_eq_ok_iff.mpr ⟨hpath, l, hleads⟩

end OnlyTold

/-- What is found stays so where something is told. -/
lemma Sees.of_onlyTold (h : s.Sees path i) (ht : s.OnlyTold s') : s'.Sees path i where
  moduleRoot := h.moduleRoot
  isDir := by
    obtain ⟨hpath, l, hres⟩ := Disk.isDir_iff.mp h.isDir
    obtain ⟨n', hn', -, hleads⟩ := ht.leadsTo hres
    obtain rfl := Node.shape_eq_dir.mp hn'
    exact Disk.isDir_iff.mpr ⟨hpath, l, hleads⟩
  listed := by
    obtain ⟨-, l, hres⟩ := Disk.isDir_iff.mp h.isDir
    obtain ⟨n', -, -, hleads⟩ := ht.leadsTo hres
    rw [Disk.unlistable?_eq _ hleads, ht.host, ← Disk.unlistable?_eq _ hres, h.listed]
  name := by
    obtain ⟨-, l, hres⟩ := Disk.isDir_iff.mp h.isDir
    obtain ⟨n', -, -, hleads⟩ := ht.leadsTo hres
    have hentry : BuildFile.hasEntry s'.disk s'.here i.root =
        BuildFile.hasEntry s.disk s.here i.root := by
      funext name
      have hnone := ht.disk.get?_eq_none_iff (l := name :: l)
      rw [Disk.hasEntry_eq hleads, Disk.hasEntry_eq hres, Bool.eq_iff_iff,
        Option.isSome_iff_ne_none, Option.isSome_iff_ne_none, ne_eq, ne_eq, hnone]
    rw [hentry, h.name]
  build := ht.readFile (h.unlogged _ (.inr rfl)) h.build
  source := ht.readFile (h.unlogged _ (.inl rfl)) h.source
  unlogged p hp := ht.unlogged (h.unlogged p hp)

end Session

/-! ### Decided actions -/

namespace Action

variable {α β : Type} {path : Text} {i : Inputs} {E : Failure → Prop}

/-- The action ends in the same way wherever the same is seen. -/
def Decided (path : Text) (i : Inputs) (m : Action α) : Prop :=
  ∃ r, ∀ s, s.Sees path i → (runOn m s).1 = r

namespace Decided

lemma of_runOn {m : Action α} {r : Except Failure α} (h : ∀ s, (runOn m s).1 = r) :
    Decided path i m := ⟨r, fun s _ => h s⟩

lemma pure (a : α) : Decided path i (pure a : Action α) := of_runOn fun _ => rfl

lemma refuse (e : ScaffoldError) : Decided path i (Action.refuse e : Action α) :=
  of_runOn fun _ => rfl

/-- Every console has the characters of ASCII. -/
lemma print {t : Text} (ht : t.isAscii) : Decided path i (Action.print t) :=
  of_runOn (r := .ok ()) fun s => by rw [runOn_print_of_ascii ht s]

lemma log (logger : Text) (level : ℤ) (message : Text) :
    Decided path i (Action.log logger level message) := of_runOn fun _ => rfl

/-- What is seen is still seen after a step that only tells. -/
lemma bind {m : Action α} {f : α → Action β} (ht : OnlyTells E m) (hm : Decided path i m)
    (hf : ∀ a, Decided path i (f a)) : Decided path i (m >>= f) := by
  obtain ⟨r, hr⟩ := hm
  cases r with
  | error e =>
      refine ⟨.error e, fun s hs => ?_⟩
      have hend : runOn m s = (.error e, (runOn m s).2) := Prod.ext (hr s hs) rfl
      rw [runOn_bind_of_error hend]
  | ok a =>
      obtain ⟨r', hr'⟩ := hf a
      refine ⟨r', fun s hs => ?_⟩
      have hend : runOn m s = (.ok a, (runOn m s).2) := Prod.ext (hr s hs) rfl
      rw [runOn_bind_of_ok hend]
      exact hr' _ (hs.of_onlyTold (ht.told s))

/-- A step whose result is known. -/
lemma bind_of_ok {m : Action α} {f : α → Action β} {a : α} (ht : OnlyTells E m)
    (hm : ∀ s, s.Sees path i → (runOn m s).1 = .ok a) (hf : Decided path i (f a)) :
    Decided path i (m >>= f) := by
  obtain ⟨r, hr⟩ := hf
  refine ⟨r, fun s hs => ?_⟩
  have hend : runOn m s = (.ok a, (runOn m s).2) := Prod.ext (hm s hs) rfl
  rw [runOn_bind_of_ok hend]
  exact hr _ (hs.of_onlyTold (ht.told s))

lemma forM {l : List β} {f : β → Action PUnit} (ht : ∀ b, OnlyTells E (f b))
    (hf : ∀ b, Decided path i (f b)) : Decided path i (l.forM f) := by
  induction l with
  | nil => exact pure _
  | cons b l ih => exact bind (ht b) (hf b) fun _ => ih

end Decided

end Action

/-! ### Drafts -/

namespace Generator

open TestScaffold.Action

variable {s s' : Session} {settings : Settings} {annotationName path : Text} {i : Inputs}

lemma validate_decided : Decided path i (validate annotationName path) := by
  refine ⟨if annotationName = [] then .error (.scaffold .noAnnotationName) else .ok (),
    fun s hs => ?_⟩
  have hpath : path ≠ [] := by
    rintro rfl
    obtain ⟨-, l, hres⟩ := Disk.readFile_eq_ok_iff.mp hs.source
    simp [Disk.resolve] at hres
  rw [validate]
  split
  · rfl
  · rw [runOn_look_bind, if_pos (Disk.isFile_of_readFile hs.source)]
    rfl

/-- The build file is the one that is seen, and the same directory is listed for it. -/
lemma find_of_sees (hs : s.Sees path i) : (runOn (BuildFile.find path) s).1 = .ok i.file := by
  have hroot : runOn (MonadExcept.ofExcept ((Layout.moduleRoot path).mapError Failure.scaffold) :
      Action Text) s = (.ok i.root, s) := by
    rw [runOn_ofExcept, hs.moduleRoot]
    rfl
  rw [BuildFile.find]
  rw [runOn_bind_of_ok hroot, runOn_look_bind, if_pos hs.isDir, runOn_host_bind, runOn_look_bind,
    hs.listed]
  dsimp only
  rw [runOn_look_bind, hs.name]
  rfl

/-- Whether the marker is there is a matter of the build file that is seen. -/
lemma hasTestDependencies_of_sees (marker : Text) (hs : s.Sees path i) :
    (runOn (BuildFile.hasTestDependencies i.file marker) s).1 =
      .ok (Text.contains marker (sourceText i.build)) := by
  rw [BuildFile.hasTestDependencies]
  rw [runOn_look_bind, if_pos (Disk.isFile_of_readFile hs.build), runOn_look_bind, hs.build]
  rfl

lemma readSource_of_sees (hs : s.Sees path i) :
    (runOn (readSource path) s).1 = .ok (sourceText i.source) := by
  rw [readSource]
  rw [runOn_look_bind, hs.source]
  rfl

/-- The signatures are those of the source text, which is an input. -/
lemma extract_decided (source annotationName : Text) :
    Decided path i (extract source annotationName) := by
  have htold : ∀ b : Signature, OnlyTells (¬·.IsUnwritable)
      (log signatureLogger Level.debug (char ' ' :: char ' ' :: b.summary)) := fun _ => .log _ _ _
  rw [extract, findFunctions]
  refine Decided.bind (E := (¬·.IsUnwritable)) ?_ ?_ fun sigs => ?_
  · exact (OnlyTells.log _ _ _).bind fun _ => (OnlyTells.forM htold).bind fun _ => .pure _
  · refine Decided.bind (E := (¬·.IsUnwritable)) (.log _ _ _) (.log _ _ _) fun _ => ?_
    exact .bind (.forM htold) (.forM htold fun _ => .log _ _ _) fun _ => .pure _
  · cases sigs with
    | nil => exact .refuse _
    | cons f fs => exact .pure _

/-- **A draft is decided by its inputs.** -/
theorem draft_decided (settings : Settings) (annotationName path : Text) (i : Inputs) :
    Decided path i (draft settings annotationName path) := by
  rw [draft]
  refine .bind validate_onlyTells validate_decided fun _ => ?_
  refine .bind_of_ok find_onlyTells (fun _ => find_of_sees) ?_
  refine .bind_of_ok hasTestDependencies_onlyTells (fun _ => hasTestDependencies_of_sees _) ?_
  cases Text.contains settings.dependencyMarker (sourceText i.build) with
  | false =>
      simp only [Bool.not_false, ↓reduceIte, refuse_bind]
      exact .refuse _
  | true => ?_
  refine .bind (.ofExcept fun _ => packageName_failure) (.of_runOn fun _ => by
    rw [runOn_ofExcept]) fun package => ?_
  refine .bind (E := (¬·.IsUnwritable)) (.log _ _ _) (.log _ _ _) fun _ => ?_
  refine .bind_of_ok readSource_onlyTells (fun _ => readSource_of_sees) ?_
  refine .bind (E := (¬·.IsUnwritable)) (.print isAscii_findingLine) (.print isAscii_findingLine)
    fun _ => ?_
  refine .bind extract_onlyTells (extract_decided _ _) fun sigs => ?_
  refine .bind (E := (¬·.IsUnwritable)) (.print isAscii_generatingLine)
    (.print isAscii_generatingLine) fun _ => ?_
  exact .bind (.ofExcept fun _ => testPlace_failure) (.of_runOn fun _ => by rw [runOn_ofExcept])
    fun _ => .pure _

/-- Two sessions from which the same is seen give the same draft. -/
lemma draft_congr (hs : s.Sees path i) (hs' : s'.Sees path i) :
    (runOn (draft settings annotationName path) s).1 =
      (runOn (draft settings annotationName path) s').1 := by
  obtain ⟨r, hr⟩ := draft_decided settings annotationName path i
  rw [hr s hs, hr s' hs']

/-- **Where a draft was made, its inputs are seen**, if no log is kept in
them. -/
theorem exists_sees_of_draft {t : Draft}
    (h : runOn (draft settings annotationName path) s = (.ok t, s'))
    (hlogs : ∀ p, p = path ∨ (runOn (BuildFile.find path) s).1 = .ok p → s.Unlogged p) :
    ∃ i, s.Sees path i := by
  obtain ⟨-, -, ⟨s₁, source, htold₁, hsource⟩, -, file, s₂, build, hfind, hbuild⟩ := draft_eq_ok h
  have htold₂ := find_onlyTells.onlyTold hfind
  obtain ⟨root, name, hroot, hdir, hlisted, hname, rfl⟩ := find_eq_ok hfind
  have hpath := hlogs path (.inl rfl)
  have hfile := hlogs (root ++ char '/' :: name) (.inr (by rw [hfind]))
  refine ⟨⟨source, root, name, build⟩, hroot, hdir, hlisted, hname, ?_, ?_, ?_⟩
  · exact htold₂.symm.readFile (htold₂.unlogged hfile) hbuild
  · exact htold₁.symm.readFile (htold₁.unlogged hpath) hsource
  · rintro p (rfl | rfl)
    · exact hpath
    · exact hfile

end Generator

end TestScaffold
