import TestScaffold.Proofs.Disk.Adding
import TestScaffold.Proofs.Journal.Tuned

/-!
What an action tells: its records, and what it prints.

* `Session.Heard` says of two sessions which records were made between them.
  They are in the collection, on the console, and in the files of logs, once for each
  handler; nothing else was done to a file, unless it stands at one of the given
  places. A file does not take a line without octets, and this is reported. One
  record makes such a step (`Heard.log_of_le`), and steps follow each other
  (`Heard.trans`).
* `Action.Narrates` is an action that does nothing but make records and print.
  It goes through the steps of an action, and says what has been printed when
  the action succeeds, and which failures there are after what has been printed.
  A step is looked at for the results only that the step before it may have
  (`Action.Yields`).
-/

namespace TestScaffold

/-! ### Files that records are written to -/

namespace Utf8

@[simp] lemma encode_nil : encode [] = [] := rfl

@[simp] lemma encode_append (s t : Text) : encode (s ++ t) = encode s ++ encode t :=
  List.flatMap_append

lemma encode_flatten_replicate (n : ℕ) (s : Text) :
    encode (List.replicate n s).flatten = (List.replicate n (encode s)).flatten := by
  induction n with
  | zero => rfl
  | succ n ih => simp [List.replicate_succ, ih]

end Utf8

namespace Disk

/-- More octets at the end of a file, if the sink is one. -/
def receive (more : List UInt8) (d : Disk) : Sink → Disk
  | .file _ l => d.append l more
  | _ => d

lemma get?_append_of_ne {l k : Location} (h : k ≠ l) (d : Disk) (more : List UInt8) :
    (d.append l more).get? k = d.get? k := by
  rw [append]
  split
  · exact get?_put_of_ne d h _
  · rfl

lemma get?_append_self {d : Disk} {l : Location} {bs : List UInt8} (h : d.get? l = some (.file bs))
    (more : List UInt8) : (d.append l more).get? l = some (.file (bs ++ more)) := by
  have hne : l ≠ [] := by
    rintro rfl
    simp [get?] at h
  simp only [append, h]
  exact get?_put_self d hne _

/-- A file has received as many copies as there are sinks at its place. -/
lemma get?_foldl_receive {d : Disk} {l : Location} {bs : List UInt8} (more : List UInt8)
    (ks : List Sink) (h : d.get? l = some (.file bs)) :
    (ks.foldl (receive more) d).get? l =
      some (.file (bs ++ (List.replicate (ks.countP (·.standsAt l)) more).flatten)) := by
  induction ks generalizing d bs with
  | nil => simpa using h
  | cons k ks ih =>
      rw [List.foldl_cons]
      cases k with
      | collection => exact ih h
      | console => exact ih h
      | file path place =>
          by_cases hplace : place = l
          · subst hplace
            rw [receive, ih (get?_append_self h more)]
            simp [Sink.standsAt, List.replicate_succ]
          · rw [receive, ih ((get?_append_of_ne (Ne.symm hplace) d more).trans h)]
            simp [Sink.standsAt, hplace]

end Disk

namespace Session

/-! ### Records between two sessions -/

/-- What becomes of a disk where a line comes to some sinks. -/
def inscribe (line : Text) (ks : List Sink) (d : Disk) : Disk :=
  if line.AllChars then ks.foldl (Disk.receive (Utf8.encode line)) d else d

lemma deliver_eq (r : Record) (k : Sink) (s : Session) :
    s.deliver r k =
      { s with
        disk := inscribe (r.line s.stamp) [k] s.disk
        stderr := s.stderr ++ r.airedAt s.host s.stamp k
        records := s.records ++ List.replicate ([k].countP (· = .collection)) r } := by
  cases k with
  | collection => simp [deliver, inscribe, Disk.receive, Record.airedAt]
  | console => simp [deliver, inscribe, Disk.receive, Record.airedAt]
  | file path l =>
      by_cases h : (r.line s.stamp).AllChars
      · simp [deliver_file_of_allChars h, inscribe, Disk.receive, Record.airedAt, h]
      · simp [deliver_file_of_not_allChars h, inscribe, Record.airedAt, h]

/-- A record that comes to some sinks, one after the other. -/
lemma foldl_deliver_eq (r : Record) (ks : List Sink) (s : Session) :
    ks.foldl (deliver r) s =
      { s with
        disk := inscribe (r.line s.stamp) ks s.disk
        stderr := s.stderr ++ ks.flatMap (r.airedAt s.host s.stamp)
        records := s.records ++ List.replicate (ks.countP (· = .collection)) r } := by
  induction ks generalizing s with
  | nil => simp [inscribe]
  | cons k ks ih =>
      have hcons : ∀ line d, inscribe line ks (inscribe line [k] d) =
          inscribe line (k :: ks) d := by
        intro line d
        unfold inscribe
        split <;> rfl
      rw [List.foldl_cons, ih, deliver_eq, hcons]
      simp [List.countP_cons, ← List.replicate_append_replicate, Nat.add_comm]

/-- Between the sessions the records were made, in the journal of a run with the
level and the handlers. A file has got its share of those that it can take, unless it
stands at one of the given places. -/
structure Heard (s : Session) (level : ℤ) (hs : List Handler) (W : Location → Prop)
    (rs : List Record) (s' : Session) : Prop where
  host : s'.host = s.host
  here : s'.here = s.here
  stamp : s'.stamp = s.stamp
  elapsed : s'.elapsed = s.elapsed
  tuned : s'.journal.Tuned level hs
  records : s'.records = s.records ++ rs
  stderr : s'.stderr = s.stderr ++ Record.aired s.host s.stamp hs rs
  files : ∀ l bs, ¬W l → s.disk.get? l = some (.file bs) →
    s'.disk.get? l = some (.file
      (bs ++ Utf8.encode (Record.written s.stamp hs (·.standsAt l) (Record.kept s.stamp rs))))

namespace Heard

variable {s s' s'' : Session} {level : ℤ} {hs : List Handler} {W W' : Location → Prop}
  {rs rs' : List Record} {r : Record}

lemma refl (W : Location → Prop) (h : s.journal.Tuned level hs) : s.Heard level hs W [] s :=
  ⟨rfl, rfl, rfl, rfl, h, by simp, by simp, fun _ _ _ hl => by simpa using hl⟩

/-- More places may be left out. -/
lemma mono (hW : ∀ l, W l → W' l) (h : s.Heard level hs W rs s') : s.Heard level hs W' rs s' :=
  { h with files := fun l bs hl => h.files l bs (mt (hW l) hl) }

lemma trans (h : s.Heard level hs W rs s') (h' : s'.Heard level hs W rs' s'') :
    s.Heard level hs W (rs ++ rs') s'' where
  host := h'.host.trans h.host
  here := h'.here.trans h.here
  stamp := h'.stamp.trans h.stamp
  elapsed := h'.elapsed.trans h.elapsed
  tuned := h'.tuned
  records := by rw [h'.records, h.records, List.append_assoc]
  stderr := by
    rw [h'.stderr, h.stderr, h.stamp, h.host, Record.aired_append, List.append_assoc]
  files l bs hW hl := by
    rw [h'.files l _ hW (h.files l bs hW hl), h.stamp, Record.kept_append, Record.written_append,
      Utf8.encode_append, List.append_assoc]

/-- What is changed on the disk at the places that are left out, or printed, is no
record. -/
lemma of_disk (ht : s.journal.Tuned level hs) {d : Disk}
    (hd : ∀ l bs, ¬W l → s.disk.get? l = some (.file bs) → d.get? l = some (.file bs)) (t : Text) :
    s.Heard level hs W [] { s with disk := d, stdout := t } :=
  { refl W ht with files := fun l bs hW hl => by simpa using hd l bs hW hl }

/-- A record that reaches the level is collected, and all handlers that let it pass
get it. -/
lemma log_of_le (ht : s.journal.Tuned level hs) (hn : r.logger ∈ Generator.loggers)
    (hr : level ≤ r.level) : s.Heard level hs W [r] (s.log r) := by
  have hj := ht.decide r.logger r.level
  let passing : List Sink := (hs.filter fun h => h.level ≤ r.level).map (·.sink)
  have hlog : s.log r = (passing ++ [Sink.collection]).foldl (deliver r)
      { s with journal := s.journal.decide r.logger r.level } := by
    rw [log, ht.meet hn]
    exact congrArg (List.foldl (deliver r) _) (hj.sinks_of_le hn hr)
  have hcopies : ∀ p : Sink → Bool, passing.countP p = r.copies hs p := fun p => by
    simp [passing, Record.copies, List.countP_map, List.countP_filter, Function.comp_def,
      Bool.and_comm]
  have hnone : r.copies hs (· = .collection) = 0 := by
    simp only [Record.copies, List.countP_eq_zero, Bool.and_eq_true, decide_eq_true_eq, not_and]
    exact fun h hmem _ => ht.apart h hmem
  rw [hlog, foldl_deliver_eq]
  refine ⟨rfl, rfl, rfl, rfl, hj, ?_, ?_, fun l bs _ hl => ?_⟩
  · simp [hcopies, hnone]
  · simp [passing, Record.aired, Record.airedAt, List.flatMap_map]
  · by_cases hchars : (r.line s.stamp).AllChars
    · rw [inscribe, if_pos hchars, Disk.get?_foldl_receive _ _ hl]
      simp [hcopies, Record.written, Record.kept, hchars, Sink.standsAt,
        Utf8.encode_flatten_replicate]
    · rw [inscribe, if_neg hchars]
      simpa [Record.kept, hchars] using hl

/-- Any other record changes nothing. -/
lemma log_of_lt (ht : s.journal.Tuned level hs) (hn : r.logger ∈ Generator.loggers)
    (hpos : 0 < r.level) (hr : r.level < level) : s.Heard level hs W [] (s.log r) := by
  have hj := ht.decide r.logger r.level
  have hlog : s.log r = { s with journal := s.journal.decide r.logger r.level } := by
    rw [log, ht.meet hn]
    exact congrArg (List.foldl (deliver r) _) (hj.sinks_of_lt hn hpos hr)
  rw [hlog]
  exact { refl W ht with tuned := hj }

end Heard

end Session

/-- The record reaches the level, and is no warning. -/
def Record.IsRoutine (level : ℤ) (r : Record) : Prop := level ≤ r.level ∧ r.level ≤ Level.info

/-- A record is made, or it does not reach the level. -/
lemma Session.Heard.log {s : Session} {level : ℤ} {hs : List Handler} {W : Location → Prop}
    (r : Record) (ht : s.journal.Tuned level hs) (hn : r.logger ∈ Generator.loggers)
    (hpos : 0 < r.level) (hr : r.level ≤ Level.info) :
    ∃ rs : List Record, (∀ r ∈ rs, r.IsRoutine level) ∧ s.Heard level hs W rs (s.log r) := by
  rcases le_or_gt level r.level with hle | hlt
  · exact ⟨[r], by simpa using ⟨hle, hr⟩, .log_of_le ht hn hle⟩
  · exact ⟨[], by simp, .log_of_lt ht hn hpos hlt⟩

namespace Action

variable {α β : Type} {s s' : Session} {m : Action α}

/-! ### Telling while printing -/

/-- The action succeeds with this result in some session. -/
def Yields (m : Action α) (a : α) : Prop := ∃ s s', runOn m s = (.ok a, s')

lemma yields_look {f : Disk → Location → α} {a : α} (h : (look f).Yields a) :
    ∃ d here, a = f d here := by
  obtain ⟨s, s', hrun⟩ := h
  exact ⟨s.disk, s.here, (Except.ok.inj (Prod.mk.inj hrun).1).symm⟩

/-- However the action ends, it has only made routine records, for the journal
of a run, and printed something: where it succeeds the given text, and where it
fails a text that goes with the failure. -/
structure Narrates (out : Text) (bad : Failure → Text → Prop) (m : Action α) : Prop where
  told : ∀ (s : Session) level hs, s.journal.Tuned level hs →
    ∃ rs : List Record, (∀ r ∈ rs, r.IsRoutine level) ∧
      s.Heard level hs (fun _ => False) rs (runOn m s).2
  prints : ∀ s a s', runOn m s = (.ok a, s') → s'.stdout = s.stdout ++ out
  fails : ∀ s e s', runOn m s = (.error e, s') → ∃ t, bad e t ∧ s'.stdout = s.stdout ++ t

namespace Narrates

variable {out out' : Text} {bad : Failure → Text → Prop}

/-- An action that changes nothing. -/
lemma of_runOn {r : Session → Except Failure α} (h : ∀ s, runOn m s = (r s, s))
    (hbad : ∀ e s, r s = .error e → bad e []) : Narrates [] bad m where
  told s level hs ht := by
    rw [h s]
    exact ⟨[], by simp, .refl _ ht⟩
  prints s a s' hrun := by
    obtain rfl : s = s' := (Prod.mk.inj (h s ▸ hrun)).2
    simp
  fails s e s' hrun := by
    obtain ⟨he, rfl⟩ := Prod.mk.inj (h s ▸ hrun)
    exact ⟨[], hbad e s he, by simp⟩

lemma pure (a : α) : Narrates [] bad (pure a : Action α) :=
  of_runOn (fun _ => runOn_pure a) (by simp)

/-- What is refused never succeeds, so the text for that may be any. -/
lemma refuse {e : ScaffoldError} (he : bad (.scaffold e) []) :
    Narrates out bad (Action.refuse e : Action α) where
  told s level hs ht := ⟨[], by simp, .refl _ ht⟩
  prints s a s' hrun := by simp at hrun
  fails s f s' hrun := by
    obtain ⟨rfl, rfl⟩ : .scaffold e = f ∧ s = s' := by simpa using hrun
    exact ⟨[], he, by simp⟩

lemma look (f : Disk → Location → α) : Narrates [] bad (Action.look f) :=
  of_runOn (fun _ => runOn_look f) (by simp)

lemma ofExcept {x : Except Failure α} (hx : ∀ e, x = .error e → bad e []) :
    Narrates [] bad (MonadExcept.ofExcept x : Action α) :=
  of_runOn (fun _ => runOn_ofExcept x) fun e _ => hx e

/-- An access that is refused by nothing but the system. -/
lemma accessOr {wrap : SystemError → ScaffoldError} {x : Except AccessError α}
    (hx : ∀ e, x = .error e → ∃ e', e = .system e') (hwrap : ∀ e, bad (.scaffold (wrap e)) []) :
    Narrates [] bad (Action.accessOr wrap x) := by
  cases x with
  | ok a => exact pure a
  | error e =>
      obtain ⟨e', rfl⟩ := hx e rfl
      exact refuse (hwrap e')

lemma log {logger : Text} {level : ℤ} (message : Text) (hlogger : logger ∈ Generator.loggers)
    (hpos : 0 < level) (hlevel : level ≤ Level.info) :
    Narrates [] bad (Action.log logger level message) where
  told s l hs ht := Session.Heard.log ⟨logger, level, message⟩ ht hlogger hpos hlevel
  prints s a s' hrun := by
    obtain rfl := (Prod.mk.inj hrun).2
    simp [Session.log, Session.foldl_deliver_eq]
  fails s e s' hrun := by simp at hrun

lemma host : Narrates [] bad Action.host :=
  of_runOn (r := fun s => .ok s.host) runOn_host (by simp)

/-- Every console has the characters of ASCII. -/
lemma print {t : Text} (ht : t.isAscii) : Narrates t bad (Action.print t) where
  told s level hs htuned := by
    rw [runOn_print_of_ascii ht]
    exact ⟨[], by simp, .of_disk htuned (fun _ _ _ => id) _⟩
  prints s a s' hrun := by
    rw [runOn_print_of_ascii ht] at hrun
    obtain rfl := (Prod.mk.inj hrun).2
    rfl
  fails s e s' hrun := by simp [runOn_print_of_ascii ht] at hrun

/-- A step, and then an action on each result that the step may have. -/
lemma bind {f : α → Action β} (hm : Narrates out bad m)
    (hf : ∀ a, m.Yields a → Narrates out' (fun e t => bad e (out ++ t)) (f a)) :
    Narrates (out ++ out') bad (m >>= f) where
  told s level hs ht := by
    obtain ⟨rs, hrs, hheard⟩ := hm.told s level hs ht
    rcases hrun : runOn m s with ⟨e | a, s₁⟩
    · rw [runOn_bind_of_error hrun]
      rw [hrun] at hheard
      exact ⟨rs, hrs, hheard⟩
    · rw [runOn_bind_of_ok hrun]
      rw [hrun] at hheard
      obtain ⟨rs', hrs', hheard'⟩ := (hf a ⟨s, s₁, hrun⟩).told s₁ level hs hheard.tuned
      exact ⟨rs ++ rs', by simpa [or_imp, forall_and] using ⟨hrs, hrs'⟩, hheard.trans hheard'⟩
  prints s b s' hrun := by
    obtain ⟨a, s₁, hrun₁, hrun₂⟩ := runOn_bind_eq_ok.mp hrun
    rw [(hf a ⟨s, s₁, hrun₁⟩).prints s₁ b s' hrun₂, hm.prints s a s₁ hrun₁, List.append_assoc]
  fails s e s' hrun := by
    rcases hrun₁ : runOn m s with ⟨e₁ | a, s₁⟩
    · rw [runOn_bind_of_error hrun₁] at hrun
      obtain ⟨rfl, rfl⟩ : e₁ = e ∧ s₁ = s' := by simpa using hrun
      exact hm.fails s e₁ s₁ hrun₁
    · rw [runOn_bind_of_ok hrun₁] at hrun
      obtain ⟨t, ht, hstdout⟩ := (hf a ⟨s, s₁, hrun₁⟩).fails s₁ e s' hrun
      exact ⟨out ++ t, ht, by rw [hstdout, hm.prints s a s₁ hrun₁, List.append_assoc]⟩

/-- A step that prints nothing where it succeeds. -/
lemma seq {f : α → Action β} (hm : Narrates [] bad m)
    (hf : ∀ a, m.Yields a → Narrates out bad (f a)) : Narrates out bad (m >>= f) :=
  hm.bind hf

/-- A step after which nothing is printed where all succeeds. -/
lemma last {f : α → Action β} (hm : Narrates out bad m)
    (hf : ∀ a, m.Yields a → Narrates [] (fun e t => bad e (out ++ t)) (f a)) :
    Narrates out bad (m >>= f) :=
  List.append_nil out ▸ hm.bind hf

lemma forM {l : List β} {f : β → Action PUnit} (hf : ∀ b, Narrates [] bad (f b)) :
    Narrates [] bad (l.forM f) := by
  induction l with
  | nil => exact pure _
  | cons b l ih => exact (hf b).seq fun _ _ => ih

end Narrates

end Action

end TestScaffold
