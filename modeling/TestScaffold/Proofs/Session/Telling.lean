import Mathlib.Tactic
import TestScaffold.Proofs.Disk.Tree

/-!
Actions that only tell: whatever they end with, all that they leave behind are
texts and records.

* `runOn_bind` and the lemmas beside it say what the steps of an action do.
* `Journal.WritesTo` are the places of the files that a journal writes records
  to. A record changes nothing on the disk but the content of these
  (`Session.OnlyTold.log`).
* `OnlyTells` is the action that leaves a session in this way, and fails only as
  it is allowed to. It goes through the steps of an action, so each action needs
  one line for each of its steps.
* The host of a session stays, so what it may refuse is known from the beginning.
  The characters of ASCII are never refused (`runOn_print_of_ascii`).
-/

namespace TestScaffold

namespace Disk

/-- Both disks have the same at all places but the given ones, and there they
may differ in the content of files. -/
def AgreesOff (p : Location → Prop) (d d' : Disk) : Prop :=
  ∀ l, (d'.get? l).map Node.shape = (d.get? l).map Node.shape ∧
    (¬p l → d'.get? l = d.get? l)

namespace AgreesOff

variable {p : Location → Prop} {d d' d'' : Disk}

lemma refl (p : Location → Prop) (d : Disk) : AgreesOff p d d := fun _ => ⟨rfl, fun _ => rfl⟩

lemma trans (h : AgreesOff p d d') (h' : AgreesOff p d' d'') : AgreesOff p d d'' := fun l =>
  ⟨(h' l).1.trans (h l).1, fun hl => ((h' l).2 hl).trans ((h l).2 hl)⟩

lemma symm (h : AgreesOff p d d') : AgreesOff p d' d := fun l =>
  ⟨(h l).1.symm, fun hl => ((h l).2 hl).symm⟩

/-- What stands somewhere stays, since only contents differ. -/
lemma grows (h : AgreesOff p d d') : Grows d d' := by
  intro l n hn
  have hs := (h l).1
  rw [hn] at hs
  obtain ⟨n', hn', hshape⟩ := Option.map_eq_some_iff.mp hs
  exact ⟨n', hn', hshape⟩

/-- The same places are free. -/
lemma get?_eq_none_iff (h : AgreesOff p d d') {l : Location} :
    d'.get? l = none ↔ d.get? l = none := by
  have hs := (h l).1
  cases hd : d.get? l <;> cases hd' : d'.get? l <;> simp_all

/-- No link is new. -/
lemma linkFree (h : AgreesOff p d d') (hd : d.LinkFree) : d'.LinkFree := fun l t hl =>
  hd l t (h.symm.grows.get?_link hl)

lemma isTree (h : AgreesOff p d d') (ht : d.IsTree) : d'.IsTree where
  isName c l hl := ht.isName c l (mt h.get?_eq_none_iff.mpr hl)
  parent c l hl := h.grows.get?_dir (ht.parent c l (mt h.get?_eq_none_iff.mpr hl))

/-- A path that leads somewhere leads there on both disks, to the same unless
the place is a given one. -/
lemma resolve_found (h : AgreesOff p d d') {here l : Location} {path : Text} {aim : Aim} {n : Node}
    (hres : d.resolve here path aim = .ok (.found l n)) :
    ∃ n', n'.shape = n.shape ∧ (¬p l → n' = n) ∧
      d'.resolve here path aim = .ok (.found l n') := by
  obtain ⟨n', hs, hres'⟩ := resolve_found_of_grows h.grows hres
  refine ⟨n', hs, fun hl => ?_, hres'⟩
  have hget := (h l).2 hl
  rw [get?_of_resolve_found hres, get?_of_resolve_found hres'] at hget
  exact Option.some.inj hget

end AgreesOff

/-- More octets at the end of a file. -/
lemma agreesOff_append {p : Location → Prop} {l : Location} (hl : p l) (d : Disk)
    (more : List UInt8) : AgreesOff p d (d.append l more) := by
  intro k
  rw [append]
  split
  · next bs hfile =>
      by_cases hk : k = l
      · subst hk
        have hne : k ≠ [] := by
          rintro rfl
          simp [get?] at hfile
        rw [get?_put_self d hne, hfile]
        exact ⟨rfl, fun hn => absurd hl hn⟩
      · rw [get?_put_of_ne d hk]
        exact ⟨rfl, fun _ => rfl⟩
  · exact ⟨rfl, fun _ => rfl⟩

end Disk

/-- Some handler of the journal writes to the file at this place. -/
def Journal.WritesTo (j : Journal) (l : Location) : Prop :=
  ∃ p ∈ j.loggers, ∃ h ∈ p.2.handlers, ∃ path, h.sink = .file path l

/-- A journal that has only been started writes to no file, if its root does
not. -/
lemma Journal.not_writesTo_start {root : Logger} (h : root.handlers = []) (names : List Text)
    (l : Location) : ¬(Journal.start root names).WritesTo l := by
  rintro ⟨p, hp, x, hx, -⟩
  obtain rfl : p = (rootLogger, root) := by simpa [Journal.start] using hp
  simp [h] at hx

namespace Journal

variable {j : Journal} {r : Record} {l : Location} {name path : Text}

/-- A handler of any logger is one of the journal. -/
lemma writesTo_of_logger {x : Handler} (hx : x ∈ (j.logger name).handlers)
    (hsink : x.sink = .file path l) : j.WritesTo l := by
  cases hlook : j.loggers.lookup name with
  | none => simp [logger, hlook, Logger.fresh] at hx
  | some lg =>
      simp only [logger, hlook, Option.getD_some] at hx
      obtain ⟨as, bs, hsplit, -⟩ := List.lookup_eq_some_iff.mp hlook
      exact ⟨(name, lg), by simp [hsplit], x, hx, path, hsink⟩

/-- The places that a record goes to are those of handlers. -/
lemma writesTo_of_mem_sinks (h : .file path l ∈ j.sinks r) : j.WritesTo l := by
  rw [sinks] at h
  split at h
  · obtain ⟨x, hmem, hsink⟩ := List.mem_map.mp h
    obtain ⟨n, -, hx⟩ := List.mem_flatMap.mp (List.mem_filter.mp hmem).1
    exact writesTo_of_logger hx hsink
  · simp at h

/-- Another state of one logger brings the files of its handlers. -/
lemma writesTo_of_set {lg : Logger} (h : (j.set name lg).WritesTo l) :
    (∃ x ∈ lg.handlers, ∃ path, x.sink = .file path l) ∨ j.WritesTo l := by
  obtain ⟨p, hp, hfile⟩ := h
  rcases List.mem_cons.mp hp with rfl | hp
  · exact .inl hfile
  · exact .inr ⟨p, (List.mem_filter.mp hp).1, hfile⟩

/-- One more handler brings its own file. -/
lemma writesTo_of_addHandler {x : Handler} (h : (j.addHandler name x).WritesTo l) :
    (∃ path, x.sink = .file path l) ∨ j.WritesTo l := by
  rcases writesTo_of_set h with ⟨y, hy, path, hsink⟩ | h
  · rcases List.mem_append.mp hy with hy | hy
    · exact .inr (writesTo_of_logger hy hsink)
    · exact .inl ⟨path, List.mem_singleton.mp hy ▸ hsink⟩
  · exact .inr h

/-- A level brings no file. -/
lemma writesTo_of_setLevel {level : ℤ} (h : (j.setLevel name level).WritesTo l) :
    j.WritesTo l := by
  have hset : (j.set name { j.logger name with level := level }).WritesTo l := h
  rcases writesTo_of_set hset with ⟨x, hx, path, hsink⟩ | h
  · exact writesTo_of_logger hx hsink
  · exact h

end Journal

namespace Session

/-! ### Records -/

/-- The line of a record is kept by a file, if it has octets. -/
lemma deliver_file_of_allChars {s : Session} {r : Record} (h : (r.line s.stamp).AllChars)
    (path : Text) (l : Location) :
    s.deliver r (.file path l) =
      { s with disk := s.disk.append l (Utf8.encode (r.line s.stamp)) } := by
  rw [deliver, Encoding.refusal?_utf8_eq_none_iff.mpr h]

/-- Otherwise it is lost, and this is reported. -/
lemma deliver_file_of_not_allChars {s : Session} {r : Record} (h : ¬(r.line s.stamp).AllChars)
    (path : Text) (l : Location) :
    s.deliver r (.file path l) = { s with stderr := s.stderr ++ s.host.lossReport r } := by
  obtain ⟨what, hwhat⟩ := Option.ne_none_iff_exists'.mp
    (mt Encoding.refusal?_utf8_eq_none_iff.mp h)
  rw [deliver, hwhat]

lemma stdout_deliver (s : Session) (r : Record) (k : Sink) :
    (s.deliver r k).stdout = s.stdout := by
  cases k with
  | collection => rfl
  | console => rfl
  | file path l =>
      by_cases h : (r.line s.stamp).AllChars
      · rw [deliver_file_of_allChars h]
      · rw [deliver_file_of_not_allChars h]

/-- No record is written to the standard output. -/
lemma stdout_log (s : Session) (r : Record) : (s.log r).stdout = s.stdout := by
  have hall : ∀ (ks : List Sink) (t : Session), (ks.foldl (deliver r) t).stdout = t.stdout := by
    intro ks
    induction ks with
    | nil => exact fun _ => rfl
    | cons k ks ih =>
        intro t
        rw [List.foldl_cons, ih, stdout_deliver]
  exact hall _ _

/-- From the first session to the second one only texts and records were
written. -/
structure OnlyTold (s s' : Session) : Prop where
  host : s'.host = s.host
  here : s'.here = s.here
  loggers : s'.journal.loggers = s.journal.loggers
  disk : Disk.AgreesOff s.journal.WritesTo s.disk s'.disk

namespace OnlyTold

variable {s s' s'' : Session}

lemma refl (s : Session) : OnlyTold s s := ⟨rfl, rfl, rfl, .refl _ _⟩

/-- Records are written to the same files before and after. -/
lemma writesTo_iff (h : OnlyTold s s') {l : Location} :
    s'.journal.WritesTo l ↔ s.journal.WritesTo l := by
  simp only [Journal.WritesTo, h.loggers]

lemma trans (h : OnlyTold s s') (h' : OnlyTold s' s'') : OnlyTold s s'' where
  host := h'.host.trans h.host
  here := h'.here.trans h.here
  loggers := h'.loggers.trans h.loggers
  disk := by
    have heq : s'.journal.WritesTo = s.journal.WritesTo := funext fun _ => propext h.writesTo_iff
    exact h.disk.trans (heq ▸ h'.disk)

lemma symm (h : OnlyTold s s') : OnlyTold s' s where
  host := h.host.symm
  here := h.here.symm
  loggers := h.loggers.symm
  disk := by
    have heq : s'.journal.WritesTo = s.journal.WritesTo := funext fun _ => propext h.writesTo_iff
    exact heq ▸ h.disk.symm

lemma isPlain (h : OnlyTold s s') (hs : s.IsPlain) : s'.IsPlain where
  linkFree := h.disk.linkFree hs.linkFree
  isTree := h.disk.isTree hs.isTree
  here := h.here ▸ h.disk.grows.get?_dir hs.here

/-- A record that goes to one place changes at most the file there. -/
lemma deliver (s : Session) (r : Record) {k : Sink}
    (hk : ∀ path l, k = .file path l → s.journal.WritesTo l) : OnlyTold s (s.deliver r k) := by
  cases k with
  | collection => exact ⟨rfl, rfl, rfl, .refl _ _⟩
  | console => exact ⟨rfl, rfl, rfl, .refl _ _⟩
  | file path l =>
      by_cases h : (r.line s.stamp).AllChars
      · rw [deliver_file_of_allChars h]
        exact ⟨rfl, rfl, rfl, Disk.agreesOff_append (hk path l rfl) _ _⟩
      · rw [deliver_file_of_not_allChars h]
        exact ⟨rfl, rfl, rfl, .refl _ _⟩

/-- A record is written to all of its sinks, one after the other. -/
lemma foldl_deliver (r : Record) {ks : List Sink}
    (hks : ∀ path l, .file path l ∈ ks → s.journal.WritesTo l) :
    OnlyTold s (ks.foldl (Session.deliver r) s) := by
  induction ks generalizing s with
  | nil => exact refl s
  | cons k ks ih =>
      have hk := deliver s r (k := k) fun path l heq => hks path l (by simp [heq])
      refine hk.trans (ih fun path l hmem => ?_)
      exact hk.writesTo_iff.mpr (hks path l (by simp [hmem]))

/-- **A record changes nothing but the contents of logs.** -/
lemma log (s : Session) (r : Record) : OnlyTold s (s.log r) := by
  let j := (s.journal.meet r.logger).decide r.logger r.level
  have hsinks : ∀ path l, .file path l ∈ j.sinks r → j.WritesTo l :=
    fun _ _ => Journal.writesTo_of_mem_sinks
  have hjournal : OnlyTold s { s with journal := j } := ⟨rfl, rfl, rfl, .refl _ _⟩
  exact hjournal.trans (foldl_deliver r hsinks)

end OnlyTold

end Session

namespace Action

variable {α β : Type} {s s' s'' : Session}

/-! ### Runs -/

@[simp] lemma runOn_pure (a : α) : runOn (pure a) s = (.ok a, s) := rfl

/-- A step that fails ends the action. -/
lemma runOn_bind (m : Action α) (f : α → Action β) :
    runOn (m >>= f) s =
      match runOn m s with
      | (.ok a, s') => runOn (f a) s'
      | (.error e, s') => (.error e, s') := by
  simp only [runOn, ExceptT.run_bind, StateT.run_bind]
  rcases StateT.run (ExceptT.run m) s with ⟨e | a, s'⟩
  · rfl
  · rfl

lemma runOn_bind_of_ok {m : Action α} {a : α} (h : runOn m s = (.ok a, s'))
    (f : α → Action β) : runOn (m >>= f) s = runOn (f a) s' := by
  rw [runOn_bind, h]

lemma runOn_bind_of_error {m : Action α} {e : Failure} (h : runOn m s = (.error e, s'))
    (f : α → Action β) : runOn (m >>= f) s = (.error e, s') := by
  rw [runOn_bind, h]

/-- All steps of an action that does not fail succeed. -/
lemma runOn_bind_eq_ok {m : Action α} {f : α → Action β} {b : β} :
    runOn (m >>= f) s = (.ok b, s'') ↔
      ∃ a s', runOn m s = (.ok a, s') ∧ runOn (f a) s' = (.ok b, s'') := by
  rw [runOn_bind]
  rcases hm : runOn m s with ⟨e | a, s'⟩
  · simp
  · simp

@[simp] lemma runOn_refuse (e : ScaffoldError) :
    runOn (refuse e : Action α) s = (.error (.scaffold e), s) := rfl

@[simp] lemma runOn_get (s : Session) : runOn (get : Action Session) s = (.ok s, s) := rfl

@[simp] lemma runOn_look (f : Disk → Location → α) :
    runOn (look f) s = (.ok (f s.disk s.here), s) := rfl

@[simp] lemma runOn_log (logger : Text) (level : ℤ) (message : Text) :
    runOn (log logger level message) s = (.ok (), s.log ⟨logger, level, message⟩) := rfl

@[simp] lemma runOn_host (s : Session) : runOn Action.host s = (.ok s.host, s) := rfl

/-- A text that the console has is written to it. -/
lemma runOn_print_of_ok {t : Text} (h : s.host.console.refusal? t = none) :
    runOn (print t) s = (.ok (), { s with stdout := s.stdout ++ t }) := by
  rw [print, runOn_bind_of_ok (runOn_get s), h]
  rfl

/-- Of any other text nothing is written. -/
lemma runOn_print_of_refused {t what : Text} (h : s.host.console.refusal? t = some what) :
    runOn (print t) s = (.error (.unencodable what), s) := by
  rw [print, runOn_bind_of_ok (runOn_get s), h]
  rfl

/-- Every console has the characters of ASCII. -/
lemma runOn_print_of_ascii {t : Text} (h : t.isAscii) (s : Session) :
    runOn (print t) s = (.ok (), { s with stdout := s.stdout ++ t }) :=
  runOn_print_of_ok (s.host.console.ascii t h)

@[simp] lemma runOn_ofExcept (x : Except Failure α) :
    runOn (ofExcept x : Action α) s = (x, s) := by
  cases x <;> rfl

@[simp] lemma runOn_look_bind (f : Disk → Location → α) (k : α → Action β) :
    runOn (look f >>= k) s = runOn (k (f s.disk s.here)) s := rfl

@[simp] lemma runOn_log_bind (logger : Text) (level : ℤ) (message : Text) (k : Unit → Action β) :
    runOn (log logger level message >>= k) s = runOn (k ()) (s.log ⟨logger, level, message⟩) := rfl

@[simp] lemma runOn_host_bind (k : Host → Action β) :
    runOn (Action.host >>= k) s = runOn (k s.host) s := rfl

/-- An answer that is not refused is the result. -/
lemma runOn_accessOr_eq_ok {wrap : SystemError → ScaffoldError} {x : Except AccessError α} {a : α} :
    runOn (accessOr wrap x) s = (.ok a, s') ↔ x = .ok a ∧ s' = s := by
  cases x with
  | error e =>
      obtain ⟨f, hf⟩ : ∃ f, runOn (accessOr wrap (.error e) : Action α) s = (.error f, s) := by
        cases e <;> exact ⟨_, rfl⟩
      simp [hf]
  | ok b =>
      change runOn (pure b) s = (.ok a, s') ↔ _
      simp [eq_comm]

@[simp] lemma runOn_accessOr_ok_bind (wrap : SystemError → ScaffoldError) (a : α)
    (k : α → Action β) : runOn (accessOr wrap (.ok a) >>= k) s = runOn (k a) s := rfl

@[simp] lemma runOn_accessOr_system_bind (wrap : SystemError → ScaffoldError) (e : SystemError)
    (k : α → Action β) :
    runOn (accessOr wrap (.error (.system e)) >>= k) s = (.error (.scaffold (wrap e)), s) := rfl

@[simp] lemma runOn_accessOr_notPath_bind (wrap : SystemError → ScaffoldError) (p : Text)
    (k : α → Action β) :
    runOn (accessOr wrap (.error (.notPath p)) >>= k) s = (.error (.notPath p), s) := rfl

lemma runOn_changeMost (f : Disk → Location → Except AccessError Unit × Disk) :
    runOn (changeMost f) s =
      (.ok (f s.disk s.here).1, { s with disk := (f s.disk s.here).2 }) := rfl

/-- A change that is not refused has happened, -/
lemma runOn_change_of_ok {f : Disk → Location → Except AccessError Disk} {d : Disk}
    (h : f s.disk s.here = .ok d) :
    runOn (change f) s = (.ok (.ok ()), { s with disk := d }) := by
  rw [change, runOn_bind_of_ok (runOn_get s), h]
  rfl

/-- and one that is refused has not. -/
lemma runOn_change_of_error {f : Disk → Location → Except AccessError Disk} {e : AccessError}
    (h : f s.disk s.here = .error e) : runOn (change f) s = (.ok (.error e), s) := by
  rw [change, runOn_bind_of_ok (runOn_get s), h]
  rfl

/-- A change with a result that is not refused has happened, -/
lemma runOn_changeFor_of_ok {f : Disk → Location → Except AccessError (Disk × α)} {d : Disk} {a : α}
    (h : f s.disk s.here = .ok (d, a)) :
    runOn (changeFor f) s = (.ok (.ok a), { s with disk := d }) := by
  rw [changeFor, runOn_bind_of_ok (runOn_get s), h]
  rfl

/-- and one that is refused has not. -/
lemma runOn_changeFor_of_error {f : Disk → Location → Except AccessError (Disk × α)}
    {e : AccessError} (h : f s.disk s.here = .error e) :
    runOn (changeFor f) s = (.ok (.error e), s) := by
  rw [changeFor, runOn_bind_of_ok (runOn_get s), h]
  rfl

/-- An action that is refused goes no further. -/
lemma refuse_bind (e : ScaffoldError) (f : α → Action β) :
    (refuse e : Action α) >>= f = refuse e := rfl

/-! ### Telling -/

/-- However the action ends, it has only told, and it fails only as said. -/
structure OnlyTells (E : Failure → Prop) (m : Action α) : Prop where
  told : ∀ s, Session.OnlyTold s (runOn m s).2
  fails : ∀ s e, (runOn m s).1 = .error e → E e

namespace OnlyTells

variable {E : Failure → Prop}

lemma onlyTold {m : Action α} (hm : OnlyTells E m) {r : Except Failure α}
    (h : runOn m s = (r, s')) : s.OnlyTold s' := by
  have hs := hm.told s
  rwa [h] at hs

lemma of_failure {m : Action α} (hm : OnlyTells E m) {e : Failure}
    (h : runOn m s = (.error e, s')) : E e := hm.fails s e (by rw [h])

/-- An action that changes nothing. -/
lemma of_runOn {m : Action α} {r : Session → Except Failure α}
    (h : ∀ s, runOn m s = (r s, s)) (hE : ∀ e s, r s = .error e → E e) : OnlyTells E m where
  told s := by
    rw [h s]
    exact .refl s
  fails s e he := hE e s (by rw [← he, h s])

lemma pure (a : α) : OnlyTells E (pure a : Action α) :=
  of_runOn (fun _ => runOn_pure a) (by simp)

lemma refuse {e : ScaffoldError} (he : E (.scaffold e)) :
    OnlyTells E (Action.refuse e : Action α) :=
  of_runOn (fun _ => runOn_refuse e) (by simp [he])

lemma look (f : Disk → Location → α) : OnlyTells E (Action.look f) :=
  of_runOn (fun _ => runOn_look f) (by simp)

lemma host : OnlyTells E Action.host := of_runOn (r := fun s => .ok s.host) runOn_host (by simp)

lemma ofExcept {x : Except Failure α} (hx : ∀ e, x = .error e → E e) :
    OnlyTells E (MonadExcept.ofExcept x : Action α) :=
  of_runOn (fun _ => runOn_ofExcept x) fun e _ => hx e

lemma accessOr {wrap : SystemError → ScaffoldError} {x : Except AccessError α}
    (hwrap : ∀ e, E (.scaffold (wrap e))) (hpath : ∀ p, E (.notPath p)) (hdeep : E .tooDeep) :
    OnlyTells E (Action.accessOr wrap x) := by
  cases x with
  | ok a => exact pure a
  | error e =>
      cases e with
      | notPath p =>
          exact of_runOn (fun _ => runOn_ofExcept (.error (.notPath p))) (by simp [hpath])
      | tooDeep => exact of_runOn (fun _ => runOn_ofExcept (.error .tooDeep)) (by simp [hdeep])
      | system e => exact refuse (hwrap e)

lemma log (logger : Text) (level : ℤ) (message : Text) :
    OnlyTells E (Action.log logger level message) where
  told s := .log s _
  fails s e he := by simp at he

/-- A text of ASCII can be printed everywhere. -/
lemma print {t : Text} (ht : t.isAscii) : OnlyTells E (Action.print t) where
  told s := by
    rw [runOn_print_of_ascii ht]
    exact ⟨rfl, rfl, rfl, .refl _ _⟩
  fails s e he := by simp [runOn_print_of_ascii ht] at he

/-- A step that only tells, and then an action that does. -/
lemma bind {m : Action α} {f : α → Action β} (hm : OnlyTells E m) (hf : ∀ a, OnlyTells E (f a)) :
    OnlyTells E (m >>= f) where
  told s := by
    rcases h : runOn m s with ⟨e | a, s'⟩
    · rw [runOn_bind_of_error h]
      exact hm.onlyTold h
    · rw [runOn_bind_of_ok h]
      exact (hm.onlyTold h).trans ((hf a).told s')
  fails s e he := by
    rcases h : runOn m s with ⟨e' | a, s'⟩
    · rw [runOn_bind_of_error h] at he
      obtain rfl : e' = e := by simpa using he
      exact hm.of_failure h
    · rw [runOn_bind_of_ok h] at he
      exact (hf a).fails s' e he

lemma ite {c : Prop} [Decidable c] {m n : Action α} (hm : OnlyTells E m) (hn : OnlyTells E n) :
    OnlyTells E (if c then m else n) := by
  split
  · exact hm
  · exact hn

lemma forM {l : List β} {f : β → Action PUnit} (hf : ∀ b, OnlyTells E (f b)) :
    OnlyTells E (l.forM f) := by
  induction l with
  | nil => exact pure _
  | cons b l ih => exact (hf b).bind fun _ => ih

end OnlyTells

end Action

end TestScaffold
