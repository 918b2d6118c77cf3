import TestScaffold.Proofs.Disk.Refusing
import TestScaffold.Proofs.Disk.Tree
import TestScaffold.Proofs.Text.Runs

/-!
What making directories and writing a file do to a disk.

* `Path.Beginning` is a path cut at a slash. What `Path.splitLast` leaves of a
  path is such a beginning (`beginning_splitLast`), so all directories that are
  made for a path are at ends of its beginnings.
* `AddsDirs` says this of two disks: apart from such new directories nothing
  differs. `makeDirs_effect` is the induction over the parts of a path,
  from the inside. It holds whether all directories can be made or not; when
  there are too many at once, none is made.
* `openFile_effect` and `fill_effect`: a file is made and filled where its path
  says, on a free place or in the place of a file, and nothing else differs,
  whether it can be filled or not.
-/

namespace TestScaffold

namespace Path

/-- The path cut at a slash, or all of it. -/
def Beginning (p path : Text) : Prop :=
  ∃ q, path = p ++ q ∧ (q = [] ∨ q.head? = some (char '/') ∨ p.getLast? = some (char '/'))

lemma Beginning.refl (path : Text) : Beginning path path := ⟨[], by simp, .inl rfl⟩

/-- A beginning of a beginning is one of the whole path. -/
lemma Beginning.trans {p q r : Text} (h : Beginning p q) (h' : Beginning q r) : Beginning p r := by
  obtain ⟨s, rfl, hs⟩ := h
  obtain ⟨t, rfl, ht⟩ := h'
  refine ⟨s ++ t, by simp, ?_⟩
  rcases hs with rfl | hs | hs
  · simpa using ht
  · cases s with
    | nil => simp at hs
    | cons c s => exact .inr (.inl (by simpa using hs))
  · exact .inr (.inr hs)

lemma Beginning.isPath {p path : Text} (h : Beginning p path) (hpath : path.isPath) : p.isPath := by
  obtain ⟨q, rfl, -⟩ := h
  exact (Text.isPath_append.mp hpath).1

/-- A path up to its last slash, and what follows that slash. -/
lemma eq_upToSlash_append (path : Text) :
    path = (path.reverse.dropWhile (· != char '/')).reverse ++
      (path.reverse.takeWhile (· != char '/')).reverse := by
  rw [← List.reverse_append, List.takeWhile_append_dropWhile, List.reverse_reverse]

/-- What is before the last part of a path, when that is something. -/
lemma beginning_splitLast {path : Text} (hne : (splitLast path).1 ≠ []) :
    Beginning (splitLast path).1 path := by
  have hpath := eq_upToSlash_append path
  set tail := (path.reverse.takeWhile (· != char '/')).reverse with htail
  set up := path.reverse.dropWhile (· != char '/') with hup
  have htake : path.take (path.length - tail.length) = up.reverse := by
    conv_lhs => rw [hpath]
    simp
  have hlast : up ≠ [] → up.head? = some (char '/') := by
    intro hup'
    obtain ⟨c, s, hcs⟩ := List.exists_cons_of_ne_nil hup'
    have hstops := Text.stops_dropWhile (· != char '/') path.reverse
    rw [← hup, hcs, Text.stops_cons] at hstops
    simpa [hcs] using hstops
  -- cut at the last slash; slashes before it go with it, unless there is nothing else
  have hsplit : splitLast path =
      if up.reverse.all (· == char '/') then (up.reverse, tail)
      else ((up.dropWhile (· == char '/')).reverse, tail) := by
    simp only [splitLast, ← htail, htake, List.reverse_reverse]
  rw [hsplit] at hne ⊢
  split at hne
  · next hall =>
      rw [if_pos hall]
      refine ⟨tail, hpath, .inr (.inr ?_)⟩
      simpa using hlast (by simpa using hne)
  · next hall =>
      rw [if_neg hall]
      refine ⟨(up.takeWhile (· == char '/')).reverse ++ tail, ?_, .inr (.inl ?_)⟩
      · rw [← List.append_assoc, ← List.reverse_append, List.takeWhile_append_dropWhile]
        exact hpath
      · -- the slashes that are left out are at least the last one
        have hup' : up ≠ [] := by
          rintro h
          simp [h] at hall
        obtain ⟨s, hs⟩ : ∃ s, up = char '/' :: s := by
          obtain ⟨c, s, hcs⟩ := List.exists_cons_of_ne_nil hup'
          have hc := hlast hup'
          rw [hcs] at hc
          obtain rfl : c = char '/' := by simpa using hc
          exact ⟨s, hcs⟩
        have hslash : ∀ c ∈ up.takeWhile (· == char '/'), c = char '/' := fun c hc => by
          simpa using List.mem_takeWhile_imp hc
        have hne' : up.takeWhile (· == char '/') ≠ [] := by simp [hs]
        rw [List.head?_append_of_ne_nil _ (by simpa using hne'), List.head?_reverse,
          List.getLast?_eq_some_getLast hne', hslash _ (List.getLast_mem hne')]

/-- What is before the last part of a path, also when that has slashes after
it. -/
lemma beginning_cut {path : Text}
    (hne : (if (splitLast path).2 = [] then splitLast (splitLast path).1
      else splitLast path).1 ≠ []) :
    Beginning (if (splitLast path).2 = [] then splitLast (splitLast path).1
      else splitLast path).1 path := by
  split at hne
  · next hlast =>
      rw [if_pos hlast]
      refine (beginning_splitLast hne).trans (beginning_splitLast fun hnil => hne ?_)
      rw [hnil]
      rfl
  · next hlast =>
      rw [if_neg hlast]
      exact beginning_splitLast hne

end Path

namespace Disk

/-- The second disk has new directories, each at the end of a beginning of the
path, and otherwise what the first one has; it is still a tree. -/
structure AddsDirs (here : Location) (path : Text) (d d' : Disk) : Prop where
  nodes : ∀ l, d'.get? l = d.get? l ∨
    (d.get? l = none ∧ d'.get? l = some .dir ∧
      ∃ p, Path.Beginning p path ∧ d'.resolve here p .content = .ok (.found l .dir))
  isTree : d.IsTree → d'.IsTree

namespace AddsDirs

variable {here : Location} {path : Text} {d d' d'' : Disk}

lemma refl (here : Location) (path : Text) (d : Disk) : AddsDirs here path d d :=
  ⟨fun _ => .inl rfl, id⟩

lemma grows (h : AddsDirs here path d d') : Grows d d' := by
  intro l n hn
  rcases h.nodes l with heq | ⟨hnone, -, -⟩
  · exact ⟨n, by rw [heq, hn], rfl⟩
  · rw [hn] at hnone
    cases hnone

lemma linkFree (h : AddsDirs here path d d') (hd : d.LinkFree) : d'.LinkFree := by
  intro l t
  rcases h.nodes l with heq | ⟨-, hdir, -⟩
  · rw [heq]
    exact hd l t
  · simp [hdir]

lemma mono {p : Text} (hp : Path.Beginning p path) (h : AddsDirs here p d d') :
    AddsDirs here path d d' := by
  refine ⟨fun l => ?_, h.isTree⟩
  rcases h.nodes l with heq | ⟨hnone, hdir, q, hq, hres⟩
  · exact .inl heq
  · exact .inr ⟨hnone, hdir, q, hq.trans hp, hres⟩

/-- Directories along a path may be added in more than one step. -/
lemma trans (h : AddsDirs here path d d') (h' : AddsDirs here path d' d'') :
    AddsDirs here path d d'' := by
  refine ⟨fun l => ?_, h'.isTree ∘ h.isTree⟩
  rcases h'.nodes l with heq' | ⟨hnone', hdir', hp'⟩
  · rcases h.nodes l with heq | ⟨hnone, hdir, p, hp, hres⟩
    · exact .inl (heq'.trans heq)
    · -- a directory made before is still where the path leads
      obtain ⟨n, hn, hres'⟩ := resolve_found_of_grows h'.grows hres
      rw [Node.shape_eq_dir.mp hn] at hres'
      exact .inr ⟨hnone, heq'.trans hdir, p, hp, hres'⟩
  · rcases h.nodes l with heq | ⟨-, hdir, -⟩
    · exact .inr ⟨heq ▸ hnone', hdir', hp'⟩
    · rw [hdir] at hnone'
      cases hnone'

end AddsDirs

variable {here : Location} {path : Text} {d d' : Disk}

/-- A directory that is made is one on the way. -/
lemma addsDirs_of_makeDir (hd : d.LinkFree) (h : d.makeDir here path = .ok d') :
    AddsDirs here path d d' := by
  rw [makeDir] at h
  split at h
  · cases h
  split at h
  · cases h
  · cases h
  · next l c hvacant =>
      cases h
      have hfree := get?_of_resolve_vacant hd hvacant
      obtain ⟨hname, hdir⟩ := of_resolve_vacant hd hvacant
      refine ⟨fun k => ?_, fun ht => ht.put hname hdir (by simp [hfree])⟩
      by_cases hk : k = c :: l
      · subst hk
        exact .inr ⟨hfree, get?_put_self d (by simp) .dir, path, .refl path,
          resolve_put_of_vacant hd (by simp) (fun _ => rfl) hvacant⟩
      · exact .inl (get?_put_of_ne d hk .dir)

lemma addsDirs_of_ensureDir (hd : d.LinkFree) (h : d.ensureDir here path = .ok d') :
    AddsDirs here path d d' := by
  rw [ensureDir] at h
  split at h
  · next hmake =>
      cases h
      exact addsDirs_of_makeDir hd hmake
  · cases h
  · split at h
    · cases h
      exact .refl here path d
    · cases h

/-- What can be a path is refused by the system only. -/
lemma exists_system_of_ensureDir (hpath : path.isPath) {e : AccessError}
    (h : d.ensureDir here path = .error e) : ∃ e', e = .system e' := by
  rw [ensureDir] at h
  split at h
  · cases h
  · next hno => exact absurd (exists_system_of_makeDir hpath hno) (by simp)
  · next e₀ _ he₀ =>
      split at h
      · cases h
      · cases h
        exact exists_system_of_makeDir hpath he₀

/-- What is made for the path itself, after all that is before it. -/
lemma finish_effect (hd : d.LinkFree) (hpath : path.isPath) {r : Except AccessError Unit}
    (h : (match d.ensureDir here path with
      | .ok d' => ((.ok (), d') : Except AccessError Unit × Disk)
      | .error e => (.error e, d)) = (r, d')) :
    AddsDirs here path d d' ∧ ∀ e, r = .error e → ∃ e', e = .system e' := by
  split at h
  · next hensure =>
      obtain ⟨rfl, rfl⟩ := Prod.mk.inj h
      exact ⟨addsDirs_of_ensureDir hd hensure, by simp⟩
  · next e hensure =>
      obtain ⟨rfl, rfl⟩ := Prod.mk.inj h
      obtain ⟨e', rfl⟩ := exists_system_of_ensureDir hpath hensure
      exact ⟨.refl here path d, by simp⟩

/-- What is made for the path after what was made before its last part. A last
part that is a single dot needs nothing more. -/
lemma rest_effect (hd : d.LinkFree) (hpath : path.isPath) {d₁ : Disk} {last : Text}
    {r : Except AccessError Unit} (h₁ : AddsDirs here path d d₁)
    (h : (if last = [char '.'] then ((.ok (), d₁) : Except AccessError Unit × Disk)
      else match d₁.ensureDir here path with
        | .ok d' => (.ok (), d')
        | .error e => (.error e, d₁)) = (r, d')) :
    AddsDirs here path d d' ∧ ∀ e, r = .error e → ∃ e', e = .system e' := by
  split at h
  · obtain ⟨rfl, rfl⟩ := Prod.mk.inj h
    exact ⟨h₁, by simp⟩
  · obtain ⟨hmore, hsystem⟩ := finish_effect (h₁.linkFree hd) hpath h
    exact ⟨h₁.trans hmore, hsystem⟩

/-- **Making directories only adds directories on the way.** Where it fails
because there are too many, it adds none; else the system has refused it. -/
theorem makeDirs_effect (depth : ℕ) {r : Except AccessError Unit} (hd : d.LinkFree)
    (hpath : path.isPath) (h : d.makeDirs here depth path = (r, d')) :
    AddsDirs here path d d' ∧
      ∀ e, r = .error e → (e = .tooDeep ∧ d' = d) ∨ ∃ e', e = .system e' := by
  induction depth generalizing path d d' r with
  | zero =>
      obtain ⟨rfl, rfl⟩ := Prod.mk.inj h
      exact ⟨.refl here path d, fun e he => .inl ⟨(Except.error.inj he).symm, rfl⟩⟩
  | succ depth ih =>
      rw [makeDirs] at h
      set cut := if (Path.splitLast path).2 = [] then Path.splitLast (Path.splitLast path).1
        else Path.splitLast path with hcut
      split at h
      · next hmissing =>
          have hbefore := Path.beginning_cut (hcut ▸ hmissing.1)
          rw [← hcut] at hbefore
          -- what is made before the last part, all of it or not
          obtain ⟨r₁, d₁, h₁⟩ : ∃ r₁ d₁, d.makeDirs here depth cut.1 = (r₁, d₁) := ⟨_, _, rfl⟩
          obtain ⟨hadds, hfails⟩ := ih hd (hbefore.isPath hpath) h₁
          rw [h₁] at h
          cases r₁ with
          | ok u =>
              obtain ⟨hadds, hsystem⟩ := rest_effect hd hpath (hadds.mono hbefore) h
              exact ⟨hadds, fun e he => .inr (hsystem e he)⟩
          | error e =>
              dsimp only at h
              split at h
              · obtain ⟨hadds, hsystem⟩ := rest_effect hd hpath (hadds.mono hbefore) h
                exact ⟨hadds, fun e he => .inr (hsystem e he)⟩
              · obtain ⟨rfl, rfl⟩ := Prod.mk.inj h
                exact ⟨hadds.mono hbefore, hfails⟩
      · obtain ⟨hadds, hsystem⟩ := finish_effect hd hpath h
        exact ⟨hadds, fun e he => .inr (hsystem e he)⟩

/-! ### Files -/

/-- A walk for a file that is not named as a directory is a walk for what is
there. -/
lemma stride_file_eq_content (l : Location) (todo : List Text) :
    d.stride .file false l todo = d.stride .content false l todo := by
  fun_induction stride d .file false l todo <;> simp_all [stride]

/-- A path that is opened for writing is read from where it was written. -/
lemma resolve_content_of_file (hd : d.LinkFree) (hslash : endsInSlash path = false) {s : Spot}
    (h : d.resolve here path .file = .ok s) : d.resolve here path .content = .ok s := by
  obtain ⟨hne, hlong, hstride, -⟩ := (resolve_eq_ok_iff hd).mp h
  rw [hslash, stride_file_eq_content, ← hslash] at hstride
  exact (resolve_eq_ok_iff hd).mpr ⟨hne, hlong, hstride, by simp [hslash]⟩

/-- Of what is put in one place the last counts. -/
lemma put_put (d : Disk) (l : Location) (m n : Node) : (d.put l m).put l n = d.put l n := by
  simp [put, List.filter_filter]

/-- The second disk has a file of the given content at the location, on a free
place or in the place of a file, and otherwise what the first one has; it is
still a tree. -/
structure PutsFile (l : Location) (content : List UInt8) (d d' : Disk) : Prop where
  eq_put : d' = d.put l (.file content)
  ne_nil : l ≠ []
  free : ∀ n, d.get? l = some n → ∃ bs, n = .file bs
  isTree : d.IsTree → d'.IsTree

namespace PutsFile

variable {l : Location} {content : List UInt8}

lemma get?_self (h : PutsFile l content d d') : d'.get? l = some (.file content) := by
  rw [h.eq_put, get?_put_self d h.ne_nil]

/-- All other places keep what they have. -/
lemma get?_of_ne (h : PutsFile l content d d') {m : Location} (hm : m ≠ l) :
    d'.get? m = d.get? m := by
  rw [h.eq_put, get?_put_of_ne d hm]

lemma grows (h : PutsFile l content d d') : Grows d d' := by
  rw [h.eq_put]
  refine .put h.ne_nil fun m hm => ?_
  obtain ⟨bs, rfl⟩ := h.free m hm
  rfl

lemma linkFree (h : PutsFile l content d d') (hd : d.LinkFree) : d'.LinkFree := by
  rw [h.eq_put]
  exact hd.put h.ne_nil (by simp)

/-- Only the last content counts. -/
lemma refill (h : PutsFile l content d d') (bs : List UInt8) :
    PutsFile l bs d (d'.put l (.file bs)) := by
  have hput : d'.put l (.file bs) = d.put l (.file bs) := by
    rw [h.eq_put, put_put]
  refine ⟨hput, h.ne_nil, h.free, fun ht => ?_⟩
  have ht' := h.isTree ht
  obtain ⟨c, up, rfl⟩ := List.exists_cons_of_ne_nil h.ne_nil
  exact ht'.put (ht'.isName c up (by simp [h.get?_self])) (ht'.parent c up (by simp [h.get?_self]))
    (by simp [h.get?_self])

/-- Whatever the file is filled with, what leads to it still does. -/
lemma grows_of_refill {bs : List UInt8} {d'' : Disk} (h : PutsFile l content d d')
    (h' : PutsFile l bs d d'') : Grows d' d'' := by
  intro k n hn
  by_cases hk : k = l
  · subst hk
    rw [h.get?_self] at hn
    exact ⟨.file bs, h'.get?_self, by rw [← Option.some.inj hn, Node.shape, Node.shape]⟩
  · rw [h.get?_of_ne hk, ← h'.get?_of_ne hk] at hn
    exact ⟨n, hn, rfl⟩

end PutsFile

/-- A file that is opened to be written cannot be, or is made or emptied. -/
theorem openFile_effect (hd : d.LinkFree) (hslash : endsInSlash path = false) {l : Location}
    (h : d.openFile here path = .ok (d', l)) :
    l = placeOf here path ∧
      ((d.get? l = some .faulty ∧ d' = d) ∨
        (PutsFile l [] d d' ∧ ∃ n, d'.resolve here path .content = .ok (.found l n))) := by
  rw [openFile, target] at h
  split at h
  · cases h
  cases hres : d.resolve here path .file with
  | error e => simp [hres] at h
  | ok s =>
      -- what is opened for writing is found for reading, so that the file can be spoken of by its
      -- place
      have hcont := resolve_content_of_file hd hslash hres
      cases s with
      | vacant m c =>
          obtain ⟨rfl, rfl⟩ : d.put (c :: m) (.file []) = d' ∧ c :: m = l := by
            simpa [hres] using h
          have hfree := get?_of_resolve_vacant hd hres
          obtain ⟨hname, hdir⟩ := of_resolve_vacant hd hres
          refine ⟨eq_lexical_of_vacant ((resolve_eq_ok_iff hd).mp hres).2.2.1, .inr ⟨?_, _,
            resolve_put_of_vacant hd (by simp) (by simp [hslash]) hres⟩⟩
          exact ⟨rfl, by simp, by simp [hfree], fun ht => ht.put hname hdir (by simp [hfree])⟩
      | found m n =>
          have hget := get?_of_resolve_found hres
          have hlexical := eq_lexical_of_resolve_found hd hres
          cases n with
          | dir => simp [hres] at h
          | link t => exact absurd hget (hd m t)
          | faulty =>
              obtain ⟨rfl, rfl⟩ : d = d' ∧ m = l := by simpa [hres] using h
              exact ⟨hlexical, .inl ⟨hget, rfl⟩⟩
          | file bs =>
              obtain ⟨rfl, rfl⟩ : d.put m (.file []) = d' ∧ m = l := by simpa [hres] using h
              obtain ⟨c, up, rfl⟩ : ∃ c up, m = c :: up := by
                cases m with
                | nil => simp [get?] at hget
                | cons c up => exact ⟨c, up, rfl⟩
              have hputs : PutsFile (c :: up) [] d (d.put (c :: up) (.file [])) := by
                refine ⟨rfl, by simp, by simp [hget], fun ht => ?_⟩
                exact ht.put (ht.isName c up (by simp [hget])) (ht.parent c up (by simp [hget]))
                  (by simp [hget])
              obtain ⟨n', -, hres'⟩ := resolve_found_of_grows hputs.grows hcont
              exact ⟨hlexical, .inr ⟨hputs, n', hres'⟩⟩

/-- A file that has been emptied is filled, or holds less than it should. -/
theorem fill_effect {refusal? : Location → List UInt8 → Option Refusal} {l : Location}
    {content : List UInt8} (hcontent : content ≠ []) (h : PutsFile l [] d d')
    {r : Except AccessError Unit} {d'' : Disk} (hfill : d'.fill refusal? l content = (r, d'')) :
    ∃ bs, PutsFile l bs d d'' ∧
      ((r = .ok () ∧ bs = content ∧ refusal? l content = none) ∨
        ∃ e, r = .error (.system e) ∧ (refusal? l content).isSome) := by
  have hself := h.get?_self
  rw [fill, if_neg hcontent, if_neg (by simp [hself])] at hfill
  split at hfill
  · next refusal hrefusal =>
      obtain ⟨rfl, rfl⟩ := Prod.mk.inj hfill
      exact ⟨refusal.written, h.refill _, .inr ⟨_, rfl, by simp [hrefusal]⟩⟩
  · next hrefusal =>
      obtain ⟨rfl, rfl⟩ := Prod.mk.inj hfill
      exact ⟨content, h.refill _, .inl ⟨rfl, rfl, hrefusal⟩⟩

end Disk

end TestScaffold
