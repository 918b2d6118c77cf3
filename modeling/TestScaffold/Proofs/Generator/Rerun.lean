import TestScaffold.Proofs.Disk.Nesting
import TestScaffold.Proofs.Generator.Inputs
import TestScaffold.Proofs.Layout.Mirror
import TestScaffold.Proofs.Layout.TestDir

/-!
A run after a run.

* `hasEntry_of_puts`: the first run makes no entry in its module that has the
  name of a build file, so the second one finds the same build file.
* `sees_of_puts`: the second run sees what the first one saw, and so it makes
  the same draft.
* `write_again`: where the directories are there already, writing only puts the
  same octets in the same place.
* `generate_again`: **a run that succeeds can be repeated**, with the same result
  and with no further change.
-/

namespace TestScaffold

namespace Disk

variable {d : Disk} {here l : Location} {path : Text} {n : Node}

/-- What is there is found also by a walk for a file. -/
lemma resolve_file_of_content (hd : d.LinkFree) (hslash : endsInSlash path = false)
    (h : d.resolve here path .content = .ok (.found l n)) :
    d.resolve here path .file = .ok (.found l n) := by
  obtain ⟨hne, hlong, hstride, -⟩ := (resolve_eq_ok_iff hd).mp h
  rw [hslash, ← stride_file_eq_content, ← hslash] at hstride
  exact (resolve_eq_ok_iff hd).mpr ⟨hne, hlong, hstride, by simp⟩

/-- A file that is opened to be written over is emptied. -/
lemma openFile_of_file (hd : d.LinkFree) (hslash : endsInSlash path = false)
    (hpath : path.isPath) {bs : List UInt8}
    (h : d.resolve here path .content = .ok (.found l (.file bs))) :
    d.openFile here path = .ok (d.put l (.file []), l) := by
  simp [openFile, target, hpath, resolve_file_of_content hd hslash h]

/-- What the system does not refuse is in the file afterwards. -/
lemma fill_of_empty {refusal? : Location → List UInt8 → Option Refusal} {content : List UInt8}
    (hl : l ≠ []) (hcontent : content ≠ []) (hfree : refusal? l content = none) :
    (d.put l (.file [])).fill refusal? l content = (.ok (), d.put l (.file content)) := by
  rw [fill, if_neg hcontent, if_neg (by simp [get?_put_self d hl]), hfree, put_put]

end Disk

namespace Generator

open TestScaffold.Action

variable {s s' s₁ : Session} {settings : Settings} {annotationName path : Text} {i : Inputs}
  {t : Draft} {place : Location} {bs : List UInt8}

/-! ### The same draft -/

/-- A source is a file, so its module is not all of its path. -/
lemma exists_rest_of_sees (hs : s.Sees path i) :
    i.root ≠ [] ∧ ∃ rest, path = i.root ++ char '/' :: ("src".toText ++ rest) := by
  obtain ⟨hne, ⟨hroot, -⟩ | ⟨rest, hrest, -⟩⟩ := Layout.moduleRoot_cases hs.moduleRoot
  · obtain ⟨-, l, hdir⟩ := Disk.isDir_iff.mp hs.isDir
    obtain ⟨-, l', hfile⟩ := Disk.readFile_eq_ok_iff.mp hs.source
    rw [← hroot, hdir] at hfile
    simp at hfile
  · exact ⟨hne, rest, hrest⟩

section

variable (hs : s.IsPlain) (hup : [char '.', char '.'] ∉ Disk.steps path) (hsees : s.Sees path i)
  (hplace : Layout.testPlace path = .ok (t.dir, t.name)) (htold : s.OnlyTold s₁)
  (hputs : Puts t.dir t.name place bs s₁ s')

include hs hup hsees hplace htold hputs

/-- **A run makes no build file.** -/
lemma get?_buildFile_of_puts {l : Location} {n : Node} {b : Text}
    (hroot : s.LeadsTo i.root l n) (hb : b ∈ BuildFile.names) :
    s'.disk.get? (b :: l) = none ↔ s.disk.get? (b :: l) = none := by
  obtain ⟨hne, rest, hpath⟩ := exists_rest_of_sees hsees
  have hl := Disk.eq_lexical_of_resolve_found hs.linkFree hroot
  -- the test has a letter in its name that no build file has
  have hnot : b :: l ≠ place := by
    have hletter : ∀ b ∈ BuildFile.names, char 'T' ∉ b := by decide
    obtain ⟨up, hup⟩ := exists_placeOf_eq s₁.here hplace
    intro heq
    rw [hputs.place_eq, hup] at heq
    exact hletter b hb ((List.cons.inj heq).1 ▸ Layout.upper_mem_testFileName path)
  obtain ⟨d, d', m, hadds, hput, -, htold'⟩ := hputs.disks
  have hdirs : d.get? (b :: l) = s₁.disk.get? (b :: l) := by
    rcases hadds.nodes (b :: l) with heq | ⟨-, -, p, hbegin, hres⟩
    · exact heq
    · have hp : p ≠ [] := by
        rintro rfl
        simp [Disk.resolve] at hres
      have hat := Disk.eq_lexical_of_resolve_found
        (hadds.linkFree (htold.isPlain hs).linkFree) hres
      rw [htold.here, hl] at hat
      exact absurd hat.symm (Layout.lexical_testDir_ne s.here hpath hne hup hplace hp hbegin hb)
  calc s'.disk.get? (b :: l) = none
      ↔ d'.get? (b :: l) = none := htold'.disk.get?_eq_none_iff
    _ ↔ s₁.disk.get? (b :: l) = none := by rw [hput.get?_of_ne hnot, hdirs]
    _ ↔ s.disk.get? (b :: l) = none := htold.disk.get?_eq_none_iff

/-- The second run finds what the first one found. -/
lemma sees_of_puts {g : Generated} (hwritten : HasWritten path g s s' t.dir t.name place) :
    s'.Sees path i := by
  have hkeeps := hputs.keeps
  have hg : s.disk.Grows s'.disk := htold.disk.grows.trans hkeeps.grows
  have hhere : s'.here = s.here := hkeeps.here.trans htold.here
  have hwrites : ∀ l, s'.journal.WritesTo l ↔ s.journal.WritesTo l := fun l =>
    hkeeps.writesTo_iff.trans htold.writesTo_iff
  -- what is read before is read after
  have hinputs : ∀ p, p = path ∨ p = i.file → s'.Unlogged p ∧
      ∀ bs, s.disk.readFile s.here p = .ok bs → s'.disk.readFile s'.here p = .ok bs := by
    intro p hp
    have hfound : p = path ∨ (runOn (BuildFile.find path) s).1 = .ok p := by
      rcases hp with hp | rfl
      · exact .inl hp
      · exact .inr (find_of_sees hsees)
    obtain ⟨l, bs, -, hleads, hkept⟩ := hwritten.inputs p hfound
    have hlog := hsees.unlogged p hp l _ hleads
    have hleads' := hkept hlog
    refine ⟨fun l' n hl' => ?_, fun bs' hread => ?_⟩
    · rw [Session.LeadsTo, hleads'] at hl'
      obtain ⟨rfl, -⟩ := Spot.found.inj (Except.ok.inj hl')
      rwa [hwrites]
    · obtain ⟨hpath, l', hres⟩ := Disk.readFile_eq_ok_iff.mp hread
      rw [hleads] at hres
      obtain ⟨rfl, hfile⟩ := Spot.found.inj (Except.ok.inj hres)
      rw [hfile] at hleads'
      exact Disk.readFile_eq_ok_iff.mpr ⟨hpath, l, hleads'⟩
  obtain ⟨hpath, l, hres⟩ := Disk.isDir_iff.mp hsees.isDir
  obtain ⟨n, hn, hres'⟩ := Disk.resolve_found_of_grows hg hres
  obtain rfl := Node.shape_eq_dir.mp hn
  rw [← hhere] at hres'
  refine ⟨hsees.moduleRoot, Disk.isDir_iff.mpr ⟨hpath, l, hres'⟩, ?_, ?_, ?_, ?_, ?_⟩
  · rw [Disk.unlistable?_eq _ hres', hputs.host, htold.host, ← Disk.unlistable?_eq _ hres,
      hsees.listed]
  · have hentry : ∀ b ∈ BuildFile.names, BuildFile.hasEntry s'.disk s'.here i.root b =
        BuildFile.hasEntry s.disk s.here i.root b := by
      intro b hb
      have hnone := get?_buildFile_of_puts hs hup hsees hplace htold hputs hres hb
      rw [Disk.hasEntry_eq hres', Disk.hasEntry_eq hres, Bool.eq_iff_iff,
        Option.isSome_iff_ne_none, Option.isSome_iff_ne_none, ne_eq, ne_eq, hnone]
    rw [← hsees.name]
    exact List.find?_congr hentry
  · exact (hinputs _ (.inr rfl)).2 _ hsees.build
  · exact (hinputs _ (.inl rfl)).2 _ hsees.source
  · exact fun p hp => (hinputs p hp).1

end

/-! ### The same file -/

/-- A file that is there is written again, and nothing is made for it. -/
lemma write_again {dir name content : Text} {l : Location} (hd : s.disk.LinkFree)
    (hdir : dir ≠ []) (hname : Path.IsName name) (hpath : (Path.joinTo dir name).isPath)
    (h : s.LeadsTo (Path.joinTo dir name) l (.file bs)) (hl : l ≠ []) (hcontent : content ≠ [])
    (hchars : content.AllChars) (hfree : s.host.refusal? l (Utf8.encode content) = none) :
    ∃ s', ({ s with disk := s.disk.put l (.file (Utf8.encode content)) } : Session).OnlyTold s' ∧
      runOn (write dir name content) s =
        (.ok (Path.absolute (Disk.pathTo s.here) (Path.joinTo dir name)), s') := by
  obtain ⟨q, hjoin, hseam, hsteps⟩ := Path.joinTo_eq_append hdir hname
  have hpath' : dir.isPath := (Text.isPath_append.mp (hjoin ▸ hpath)).1
  have hleads := h
  rw [Session.LeadsTo, hjoin] at hleads
  obtain ⟨k, hk⟩ := Disk.dir_of_append hd hdir hseam (by simp [hsteps]) hleads
  -- no directory is missing, so that none is made
  have hmade := runOn_changeMost (s := s) fun d here => d.makeDirs here (s.host.testRoom + 1) dir
  rw [Disk.makeDirs_of_dir hd hpath' hk] at hmade
  have hopened := runOn_changeFor_of_ok (s := s)
    (f := fun d here => d.openFile here (Path.joinTo dir name))
    (Disk.openFile_of_file hd (Disk.endsInSlash_joinTo hname.ne_nil hname.notMem) hpath h)
  have hfilled : runOn (fill (Path.joinTo dir name) l content)
      { s with disk := s.disk.put l (.file []) } =
        (.ok (), { s with disk := s.disk.put l (.file (Utf8.encode content)) }) := by
    rw [runOn_fill_of_allChars hchars, Disk.fill_of_empty hl (encode_ne_nil hcontent) hfree]
    rfl
  have htold := Session.OnlyTold.log
    { s with disk := s.disk.put l (.file (Utf8.encode content)) }
    ⟨stubLogger, Level.info, "Wrote ".toText ++ Path.joinTo dir name⟩
  refine ⟨_, htold, ?_⟩
  rw [write, runOn_host_bind, runOn_bind_of_ok hmade, runOn_accessOr_ok_bind,
    runOn_bind_of_ok hopened, runOn_accessOr_ok_bind, runOn_bind_of_ok hfilled, runOn_log_bind]
  change (Except.ok (Path.absolute (Disk.pathTo (Session.log _ _).here) _), _) = _
  rw [htold.here]

/-- **A run that succeeds can be repeated.** The second run has the result of
the first one, and after it everything is as the first one left it, but for the
logs. No two dots may be in the path, and no log in the files that are read. -/
theorem generate_again {g : Generated} (hs : s.IsPlain)
    (hup : [char '.', char '.'] ∉ Disk.steps path)
    (hlogs : ∀ p, p = path ∨ (runOn (BuildFile.find path) s).1 = .ok p → s.Unlogged p)
    (h : runOn (generate settings false annotationName path) s = (.ok g, s')) :
    ∃ s'', runOn (generate settings false annotationName path) s' = (.ok g, s'') ∧
      ∀ l, ¬s.journal.WritesTo l → s''.disk.get? l = s'.disk.get? l := by
  rcases generate_cases hs h with ⟨-, -, hdry⟩ | ⟨-, t, s₁, r', hdraft, hends, hg⟩
  · exact absurd (hdry g rfl) (by simp)
  cases hends with
  | refused => cases hg
  | broken => cases hg
  | @done place _ hputs hchars hfree =>
  obtain rfl := Except.ok.inj hg
  have htold := (draft_onlyTells settings annotationName path).onlyTold hdraft
  obtain ⟨hplace, hcontent, -⟩ := draft_eq_ok hdraft
  obtain ⟨-, hpath, -⟩ := place_of_draft hdraft
  obtain ⟨hdir, hname, -⟩ := Layout.testPlace_eq_ok hplace
  -- the second run makes the same draft
  obtain ⟨i, hsees⟩ := exists_sees_of_draft hdraft hlogs
  have hsees' := sees_of_puts hs hup hsees hplace htold hputs
    (hasWritten_of_puts hs hdraft hputs hchars)
  obtain ⟨s₂, hdraft'⟩ : ∃ s₂, runOn (draft settings annotationName path) s' = (.ok t, s₂) := by
    refine ⟨(runOn (draft settings annotationName path) s').2, Prod.ext ?_ rfl⟩
    rw [← draft_congr hsees hsees', hdraft]
  have htold₂ := (draft_onlyTells settings annotationName path).onlyTold hdraft'
  -- and writes it where it stands
  have hplain := htold₂.isPlain (isPlain_of_generate hs h)
  obtain ⟨bs, hleads⟩ := (hputs.tell htold₂).leadsTo
  have hhost : s₂.host = s₁.host := htold₂.host.trans hputs.host
  obtain ⟨s₃, htold₃, hwrite⟩ := write_again hplain.linkFree hdir
    (hname ▸ Layout.isName_testFileName path) hpath hleads hputs.ne_nil hcontent hchars
    (hhost ▸ hfree)
  refine ⟨s₃, ?_, fun l hl => ?_⟩
  · have hhere : s₂.here = s₁.here := htold₂.here.trans hputs.keeps.here
    rw [generate_eq, runOn_bind_of_ok hdraft', runOn_finish_real, hwrite, hhere]
    rfl
  · have hwrites₁ : ¬s₁.journal.WritesTo l := by rwa [htold.writesTo_iff]
    have hwrites' : ¬s'.journal.WritesTo l := by rwa [hputs.keeps.writesTo_iff]
    have hwrites₂ : ¬s₂.journal.WritesTo l := by rwa [htold₂.writesTo_iff]
    let content := Node.file (Utf8.encode t.content)
    have hput : s₃.disk.get? l = (s₂.disk.put place content).get? l := htold₃.untouched l hwrites₂
    by_cases hat : l = place
    · subst hat
      calc s₃.disk.get? l = some content := by
            rw [hput, Disk.get?_put_self s₂.disk hputs.ne_nil]
        _ = s'.disk.get? l := (hputs.get?_place hwrites₁).symm
    · calc s₃.disk.get? l = s₂.disk.get? l := by rw [hput, Disk.get?_put_of_ne _ hat]
        _ = s'.disk.get? l := htold₂.untouched l hwrites'

/-- The path of the source of `oneModule` without two dots. -/
def straightSource : Text := ".//src/main/kotlin/./A.kt".toText

theorem generate_again_oneModule : ∃ g s' s'',
    runOn (generate .default false "Gen".toText straightSource) oneModule = (.ok g, s') ∧
      runOn (generate .default false "Gen".toText straightSource) s' = (.ok g, s'') ∧
      ∀ l, s''.disk.get? l = s'.disk.get? l := by
  have hnolog : ∀ l, ¬oneModule.journal.WritesTo l := Journal.not_writesTo_start rfl loggers
  have hok : (runOn (generate .default false "Gen".toText straightSource)
      oneModule).1.isOk = true := by
    decide +kernel
  rcases hrun : runOn (generate .default false "Gen".toText straightSource) oneModule with
    ⟨e | g, s'⟩
  · rw [hrun] at hok
    cases hok
  · obtain ⟨s'', hagain, hsame⟩ := generate_again oneModule_isPlain (by decide +kernel)
      (fun _ _ l _ _ => hnolog l) hrun
    exact ⟨g, s', s'', rfl, hagain, fun l => hsame l (hnolog l)⟩

end Generator

end TestScaffold
