import Mathlib.Tactic
import TestScaffold.Generator
import TestScaffold.Proofs.Session.Telling
import TestScaffold.Proofs.Yaml.Reading

/-!
How the reading of settings may end.

* `keyOrder_perm` and `keyOrder_of_texts`: keys are put into an order without
  loss, and texts always have one.
* `Settings.IsReadable` are the files that end with settings or with an error
  of the settings: the reader of YAML finds nothing wrong with them but their form,
  and the keys of a mapping are texts.
* `loadSettings_answers_iff`: **on all other files another failure escapes**, with
  any reader. With the one of this library these are octets that are no text,
  values such as a day that the calendar does not have, and mappings with a key
  such as a number.
* `loadSettings_undecodable`: the failure of a file of at most a page that is no
  text.
* `Settings.IsFilled`: settings that are read have a marker and source roots, and no empty one.
* `loadSettings_isError`: all that the reading fails with is an error, and no way
  of telling a run to stop.
-/

namespace TestScaffold

/-- The failure is an error of the settings or of the layout. -/
def Failure.IsConfiguration : Failure → Prop
  | .scaffold e => e.kind = .configuration
  | _ => False

namespace Settings

/-! ### The order of keys -/

/-- Keys are only put in order: a key is inserted somewhere. -/
lemma insertKey_perm {k : Yaml.Scalar} {ks ks' : List Yaml.Scalar}
    (h : insertKey k ks = .ok ks') : ks'.Perm (k :: ks) := by
  induction ks generalizing ks' with
  | nil =>
      obtain rfl : [k] = ks' := by simpa [insertKey] using h
      exact .refl _
  | cons a as ih =>
      rw [insertKey] at h
      split at h
      · cases h
      · cases h
        exact .refl _
      · cases hrest : insertKey k as with
        | error c => simp [hrest, Except.map] at h
        | ok bs =>
            obtain rfl : a :: bs = ks' := by simpa [hrest, Except.map] using h
            exact ((ih hrest).cons a).trans (.swap k a as)

/-- Keys that have been put into an order are the same keys. -/
lemma keyOrder_perm {ks ks' : List Yaml.Scalar} (h : keyOrder ks = .ok ks') : ks'.Perm ks := by
  have key : ∀ {before after : List Yaml.Scalar},
      ks.foldlM (fun sorted k => insertKey k sorted) before = .ok after →
        after.Perm (ks ++ before) := by
    clear h
    induction ks with
    | nil =>
        intro before after h
        obtain rfl : before = after := by simpa [pure, Except.pure] using h
        exact .refl _
    | cons k ks ih =>
        intro before after h
        rw [List.foldlM_cons] at h
        cases hk : insertKey k before with
        | error c => simp [hk, bind, Except.bind] at h
        | ok bs =>
            simp only [hk, bind, Except.bind] at h
            have hinsert : (ks ++ bs).Perm (ks ++ k :: before) := (insertKey_perm hk).append_left ks
            exact (ih h).trans (hinsert.trans List.perm_middle)
  simpa using key h

/-- A text has a place among texts. -/
lemma insertKey_of_texts {k : Yaml.Scalar} {ks : List Yaml.Scalar} (hk : (keyText? k).isSome)
    (hks : ∀ a ∈ ks, (keyText? a).isSome) : ∃ ks', insertKey k ks = .ok ks' := by
  induction ks with
  | nil => exact ⟨[k], rfl⟩
  | cons a as ih =>
      obtain ⟨bs, hbs⟩ := ih fun b hb => hks b (by simp [hb])
      have ha := hks a (by simp)
      obtain ⟨b, hlt⟩ : ∃ b, keyLt k a = .ok b := by
        cases k <;> simp [keyText?] at hk
        cases a <;> simp [keyText?] at ha
        exact ⟨_, rfl⟩
      cases b with
      | true => exact ⟨k :: a :: as, by simp [insertKey, hlt]⟩
      | false => exact ⟨a :: bs, by simp [insertKey, hlt, hbs, Except.map]⟩

/-- Texts have an order. -/
lemma keyOrder_of_texts {ks : List Yaml.Scalar} (hks : ∀ k ∈ ks, (keyText? k).isSome) :
    ∃ ks', keyOrder ks = .ok ks' := by
  have key : ∀ before : List Yaml.Scalar, (∀ k ∈ before, (keyText? k).isSome) →
      ∃ after, ks.foldlM (fun sorted k => insertKey k sorted) before = .ok after := by
    induction ks with
    | nil => exact fun before _ => ⟨before, rfl⟩
    | cons k ks ih =>
        intro before hbefore
        have hk := hks k (by simp)
        obtain ⟨bs, hbs⟩ := insertKey_of_texts hk hbefore
        have hall : ∀ a ∈ bs, (keyText? a).isSome := by
          intro a ha
          rcases List.mem_cons.mp ((insertKey_perm hbs).mem_iff.mp ha) with rfl | ha
          · exact hk
          · exact hbefore a ha
        obtain ⟨after, hafter⟩ := ih (fun a ha => hks a (by simp [ha])) bs hall
        exact ⟨after, by simpa [List.foldlM_cons, hbs, bind, Except.bind] using hafter⟩
  exact key [] (by simp)

/-! ### Answers -/

/-- The result is a value, or an error of the settings. -/
def Answers {α : Type} (r : Except Failure α) : Prop := ∀ e, r = .error e → e.IsConfiguration

variable {α β : Type}

@[simp] lemma answers_ok (a : α) : Answers (.ok a : Except Failure α) := by
  intro e he
  cases he

@[simp] lemma answers_error {e : Failure} :
    Answers (.error e : Except Failure α) ↔ e.IsConfiguration := by
  simp [Answers]

/-- The two stages may fail, each with an error of the settings. -/
lemma Answers.bind {x : Except Failure α} {f : α → Except Failure β} (hx : Answers x)
    (hf : ∀ a, Answers (f a)) : Answers (x >>= f) := by
  cases x with
  | error e => exact answers_error.mpr (hx e rfl)
  | ok a => exact hf a

/-- The keys that the settings know are texts. -/
lemma isSome_keyText?_keyOf (t : Text) : (keyText? (keyOf t)).isSome := rfl

/-- Unknown keys are an error of the settings, if they are texts. -/
lemma refuseUnknown_answers_iff {path : Text} {keys : List Yaml.Scalar} :
    Answers (refuseUnknown path keys) ↔ ∀ k ∈ keys, (keyText? k).isSome := by
  let unknown := keys.filter fun k => k ≠ keyOf rootsKey ∧ k ≠ keyOf markerKey
  have hunknown : (∀ k ∈ unknown, (keyText? k).isSome) ↔ ∀ k ∈ keys, (keyText? k).isSome := by
    constructor
    · intro hall k hk
      by_cases hknown : k ≠ keyOf rootsKey ∧ k ≠ keyOf markerKey
      · exact hall k (List.mem_filter.mpr ⟨hk, by simpa using hknown⟩)
      · rw [not_and_or, not_not, not_not] at hknown
        rcases hknown with rfl | rfl
        · exact isSome_keyText?_keyOf rootsKey
        · exact isSome_keyText?_keyOf markerKey
    · exact fun hall k hk => hall k (List.mem_filter.mp hk).1
  -- known keys are texts, so only the unknown ones have to be looked at
  rw [← hunknown]
  change Answers ((keyOrder unknown).mapError Failure.keysUnordered >>= _) ↔ _
  cases hsorted : keyOrder unknown with
  | error c =>
      refine iff_of_false answers_error.mp fun hall => ?_
      obtain ⟨ks, hks⟩ := keyOrder_of_texts hall
      rw [hsorted] at hks
      cases hks
  | ok sorted =>
      -- they were sorted, which is no matter for what holds of all of them
      have hmem : (∀ k ∈ unknown, (keyText? k).isSome) ↔ ∀ k ∈ sorted, (keyText? k).isSome :=
        forall_congr' fun k => by rw [(keyOrder_perm hsorted).mem_iff]
      rw [hmem]
      dsimp only [Except.mapError, bind, Except.bind]
      cases sorted with
      | nil => exact iff_of_true (answers_ok _) (by simp)
      | cons k ks =>
          dsimp only
          split
          · next a hfind =>
              refine iff_of_false answers_error.mp fun hall => ?_
              have ha : keyText? a = none := by simpa using List.find?_some hfind
              have hsome := hall a (List.mem_of_find?_eq_some hfind)
              rw [ha] at hsome
              cases hsome
          · next hfind =>
              refine iff_of_true (answers_error.mpr rfl) fun a ha => ?_
              rw [Option.isSome_iff_ne_none]
              simpa using List.find?_eq_none.mp hfind a ha

/-- The value of an entry that need not be there. -/
def entryOr (e : ScaffoldError) (a : α) (read? : Yaml.Value → Option α) :
    Option Yaml.Value → Except Failure α
  | none => .ok a
  | some v =>
    match read? v with
    | some b => .ok b
    | none => .error (.scaffold e)

lemma entryOr_answers {e : ScaffoldError} (he : e.kind = .configuration) (a : α)
    (read? : Yaml.Value → Option α) (v? : Option Yaml.Value) :
    Answers (entryOr e a read? v?) := by
  unfold entryOr
  split
  · exact answers_ok _
  · split
    · exact answers_ok _
    · exact answers_error.mpr he

/-- First the keys are looked at, and then the two entries. -/
lemma ofEntries_eq (path : Text) (d : Yaml.Document)
    (entries : List (Yaml.Scalar × Yaml.Value)) :
    ofEntries path d entries = do
      refuseUnknown path (entries.map (·.1))
      let roots ← entryOr (.settingsNoList path rootsKey) default.sourceRoots
        (fun v => filledTexts? (d.parts v)) (entries.lookup (keyOf rootsKey))
      let marker ← entryOr (.settingsNoText path markerKey) default.dependencyMarker
        filledText? (entries.lookup (keyOf markerKey))
      return ⟨marker, roots⟩ := by
  unfold ofEntries entryOr
  refine bind_congr fun _ => ?_
  cases entries.lookup (keyOf rootsKey) with
  | none =>
      cases entries.lookup (keyOf markerKey) with
      | none => rfl
      | some w =>
          dsimp only
          cases filledText? w <;> rfl
  | some v =>
      dsimp only
      cases filledTexts? (d.parts v) with
      | none => rfl
      | some roots =>
          cases entries.lookup (keyOf markerKey) with
          | none => rfl
          | some w =>
              dsimp only
              cases filledText? w <;> rfl

/-- A mapping whose keys are texts gives settings, or says what is wrong with
it. -/
lemma ofEntries_answers_iff {path : Text} {d : Yaml.Document}
    {entries : List (Yaml.Scalar × Yaml.Value)} :
    Answers (ofEntries path d entries) ↔ ∀ p ∈ entries, (keyText? p.1).isSome := by
  have hkeys : Answers (refuseUnknown path (entries.map (·.1))) ↔
      ∀ p ∈ entries, (keyText? p.1).isSome := by
    rw [refuseUnknown_answers_iff]
    simp
  rw [← hkeys, ofEntries_eq]
  cases hunknown : refuseUnknown path (entries.map (·.1)) with
  | error e => exact answers_error.trans answers_error.symm
  | ok _ =>
      refine iff_of_true (.bind (answers_ok _) fun _ => ?_) (answers_ok _)
      exact .bind (entryOr_answers rfl _ _ _) fun roots =>
        .bind (entryOr_answers rfl _ _ _) fun marker => answers_ok _

/-! ### Files -/

/-- The octets of a settings file can be read: they have a value as YAML, or the
form of none, and if the value is a mapping, its keys are texts. -/
structure IsReadable (load : Yaml.Loader) (octets : List UInt8) : Prop where
  fault : ∀ f, load octets = .error f → ∃ what, f = .malformed what
  keys : ∀ d entries, load octets = .ok d →
    d.parts d.root = some (.map entries) → ∀ p ∈ entries, (keyText? p.1).isSome

/-- A document that is no mapping is refused, so only the keys of a mapping matter. -/
lemma ofDocument_answers_iff {path : Text} {d : Yaml.Document} :
    Answers (ofDocument path d) ↔
      ∀ entries, d.parts d.root = some (.map entries) → ∀ p ∈ entries, (keyText? p.1).isSome := by
  rw [ofDocument]
  split
  · next hnull =>
      refine iff_of_true (answers_ok _) fun entries hparts => ?_
      simp [hnull, Yaml.Document.parts] at hparts
  · next entries hparts _ =>
      rw [ofEntries_answers_iff, hparts]
      simp
  · next hother =>
      refine iff_of_true (answers_error.mpr rfl) fun entries hparts => ?_
      exact absurd hparts (hother entries)

/-- A file that can be read gives settings, or says what is wrong with it. -/
theorem ofOctets_answers_iff {load : Yaml.Loader} {path : Text} {octets : List UInt8} :
    Answers (ofOctets load path octets) ↔ IsReadable load octets := by
  unfold ofOctets
  split
  · next what hfault =>
      refine iff_of_true (answers_error.mpr rfl) ⟨fun f hf => ?_, fun d entries hd => ?_⟩
      · rw [hfault] at hf
        exact ⟨what, (Except.error.inj hf).symm⟩
      · rw [hfault] at hd
        cases hd
  · next kind message hfault =>
      refine iff_of_false answers_error.mp fun h => ?_
      obtain ⟨what, hwhat⟩ := h.fault _ hfault
      cases hwhat
  · next d hd =>
      rw [ofDocument_answers_iff]
      constructor
      · refine fun h => ⟨fun f hf => ?_, fun d' entries hd' => ?_⟩
        · rw [hd] at hf
          cases hf
        · rw [hd] at hd'
          obtain rfl := Except.ok.inj hd'
          exact h entries
      · exact fun h entries => h.keys d entries hd

/-! ### Settings that are read -/

/-- What the stages of a run look for is no empty text, and there is a source root. -/
structure IsFilled (settings : Settings) : Prop where
  marker : settings.dependencyMarker ≠ []
  roots_ne_nil : settings.sourceRoots ≠ []
  roots : ∀ r ∈ settings.sourceRoots, r ≠ []

/-- A setting that is taken is not empty: this is so for each kind of value. -/
lemma ne_nil_of_filledText? {v : Yaml.Value} {t : Text} (h : filledText? v = some t) : t ≠ [] := by
  unfold filledText? at h
  split at h
  · split at h
    · cases h
    · next hps =>
        obtain rfl := Option.some.inj h
        exact hps
  · cases h

lemma ne_nil_of_mapM {items : List Yaml.Value} {ts : List Text}
    (h : items.mapM filledText? = some ts) : ∀ t ∈ ts, t ≠ [] := by
  induction items generalizing ts with
  | nil =>
      obtain rfl : [] = ts := by simpa using h
      simp
  | cons v items ih =>
      rw [List.mapM_cons] at h
      obtain ⟨t, ht, h⟩ := Option.bind_eq_some_iff.mp h
      obtain ⟨rest, hrest, h⟩ := Option.bind_eq_some_iff.mp h
      obtain rfl := Option.some.inj h
      simpa using ⟨ne_nil_of_filledText? ht, ih hrest⟩

lemma ne_nil_of_filledTexts? {c : Option Yaml.Collection} {ts : List Text}
    (h : filledTexts? c = some ts) : ts ≠ [] ∧ ∀ t ∈ ts, t ≠ [] := by
  unfold filledTexts? at h
  split at h
  · cases h
  · next items hne =>
      refine ⟨?_, ne_nil_of_mapM h⟩
      rintro rfl
      cases items with
      | nil => exact hne rfl
      | cons v items =>
          rw [List.mapM_cons] at h
          obtain ⟨t, -, h⟩ := Option.bind_eq_some_iff.mp h
          obtain ⟨rest, -, h⟩ := Option.bind_eq_some_iff.mp h
          cases h
  · cases h

lemma entryOr_eq_ok {α : Type} {e : ScaffoldError} {a b : α} {read? : Yaml.Value → Option α}
    {v? : Option Yaml.Value} (h : entryOr e a read? v? = .ok b) :
    b = a ∨ ∃ v, read? v = some b := by
  unfold entryOr at h
  split at h
  · exact .inl (Except.ok.inj h).symm
  · next v =>
      split at h
      · next hread =>
          obtain rfl := Except.ok.inj h
          exact .inr ⟨v, hread⟩
      · cases h

lemma exists_of_bind_eq_ok {α β : Type} {x : Except Failure α} {f : α → Except Failure β} {b : β}
    (h : x >>= f = .ok b) : ∃ a, x = .ok a ∧ f a = .ok b := by
  cases x with
  | error e => cases h
  | ok a => exact ⟨a, rfl, h⟩

lemma default_sourceRoots : ∀ r ∈ default.sourceRoots, r ≠ [] := by decide

lemma default_isFilled : default.IsFilled :=
  ⟨by decide, by decide, default_sourceRoots⟩

/-- What the entries give, and what is the default without them, is filled. -/
lemma ofEntries_isFilled {path : Text} {d : Yaml.Document} {settings : Settings}
    {entries : List (Yaml.Scalar × Yaml.Value)} (h : ofEntries path d entries = .ok settings) :
    settings.IsFilled := by
  rw [ofEntries_eq] at h
  obtain ⟨_, -, h⟩ := exists_of_bind_eq_ok h
  obtain ⟨roots, hroots, h⟩ := exists_of_bind_eq_ok h
  obtain ⟨marker, hmarker, h⟩ := exists_of_bind_eq_ok h
  obtain rfl := Except.ok.inj h
  have hroots' : roots ≠ [] ∧ ∀ r ∈ roots, r ≠ [] := by
    rcases entryOr_eq_ok hroots with rfl | ⟨v, hv⟩
    · exact ⟨default_isFilled.roots_ne_nil, default_isFilled.roots⟩
    · exact ne_nil_of_filledTexts? hv
  refine ⟨?_, hroots'.1, hroots'.2⟩
  rcases entryOr_eq_ok hmarker with rfl | ⟨v, hv⟩
  · exact default_isFilled.marker
  · exact ne_nil_of_filledText? hv

lemma ofDocument_isFilled {path : Text} {d : Yaml.Document} {settings : Settings}
    (h : ofDocument path d = .ok settings) : settings.IsFilled := by
  rw [ofDocument] at h
  split at h
  · obtain rfl := Except.ok.inj h
    exact default_isFilled
  · exact ofEntries_isFilled h
  · cases h

/-- **The settings of a file have a marker and source roots, and none of them is empty.** -/
theorem isFilled_of_ofOctets {load : Yaml.Loader} {path : Text} {octets : List UInt8}
    {settings : Settings} (h : ofOctets load path octets = .ok settings) : settings.IsFilled := by
  unfold ofOctets at h
  cases hread : load octets with
  | error f => cases f <;> simp [hread] at h
  | ok d =>
      rw [hread] at h
      exact ofDocument_isFilled h

/-! ### Failures -/

/-- What keys and values of settings fail with is an error, and no way of telling a
run to stop. -/
lemma isError_of_refuseUnknown {path : Text} {keys : List Yaml.Scalar} {f : Failure}
    (h : refuseUnknown path keys = .error f) : f.isError = true := by
  change ((keyOrder _).mapError Failure.keysUnordered >>= _) = _ at h
  cases hsorted : keyOrder (keys.filter fun k => k ≠ keyOf rootsKey ∧ k ≠ keyOf markerKey) with
  | error c =>
      rw [hsorted] at h
      obtain rfl := Except.error.inj h
      rfl
  | ok sorted =>
      rw [hsorted] at h
      dsimp only [Except.mapError, bind, Except.bind] at h
      split at h
      · cases h
      · split at h <;>
        · obtain rfl := Except.error.inj h
          rfl

lemma isError_of_entryOr {α : Type} {e : ScaffoldError} {a : α} {read? : Yaml.Value → Option α}
    {v? : Option Yaml.Value} {f : Failure} (h : entryOr e a read? v? = .error f) :
    f.isError = true := by
  unfold entryOr at h
  split at h
  · cases h
  · split at h
    · cases h
    · obtain rfl := Except.error.inj h
      rfl

lemma isError_of_bind {α β : Type} {x : Except Failure α} {k : α → Except Failure β} {f : Failure}
    (hx : ∀ f, x = .error f → f.isError = true) (hk : ∀ a f, k a = .error f → f.isError = true)
    (h : x >>= k = .error f) : f.isError = true := by
  cases x with
  | error e => exact hx f (congrArg Except.error (Except.error.inj h))
  | ok a => exact hk a f h

lemma isError_of_ofOctets {load : Yaml.Loader} {path : Text} {octets : List UInt8} {f : Failure}
    (h : ofOctets load path octets = .error f) : f.isError = true := by
  unfold ofOctets at h
  split at h
  · obtain rfl := Except.error.inj h
    rfl
  · obtain rfl := Except.error.inj h
    rfl
  rw [ofDocument] at h
  split at h
  · cases h
  · rw [ofEntries_eq] at h
    exact isError_of_bind (fun _ => isError_of_refuseUnknown)
      (fun _ _ => isError_of_bind (fun _ => isError_of_entryOr)
        fun _ _ => isError_of_bind (fun _ => isError_of_entryOr) fun _ _ hf => by cases hf) h
  · obtain rfl := Except.error.inj h
    rfl

end Settings

namespace Generator

open TestScaffold.Action

variable {given : Option Text} {s : Session}

/-- Reading the settings as one equation. -/
lemma runOn_loadSettings (given : Option Text) (s : Session) :
    runOn (loadSettings given) s =
      if settingsPath given s = [] then (.ok .default, s)
      else runOn (accessOr (.settingsUnreadable (settingsPath given s))
        (s.disk.readFile s.here (settingsPath given s)) >>= fun octets =>
          ofExcept (Settings.ofOctets s.host.yaml (settingsPath given s) octets)) s := by
  change runOn (if settingsPath given s = [] then _ else _) s = _
  split <;> rfl

lemma loadSettings_session (given : Option Text) (s : Session) :
    (runOn (loadSettings given) s).2 = s := by
  rw [runOn_loadSettings]
  split
  · rfl
  · rcases s.disk.readFile s.here (settingsPath given s) with e | octets
    · cases e <;> rfl
    · rw [runOn_accessOr_ok_bind, runOn_ofExcept]

/-- Whatever settings are read, they are filled. -/
lemma loadSettings_isFilled {settings : Settings} {s' : Session}
    (h : runOn (loadSettings given) s = (.ok settings, s')) : settings.IsFilled := by
  rw [runOn_loadSettings] at h
  split at h
  · obtain rfl := Except.ok.inj (Prod.mk.inj h).1
    exact Settings.default_isFilled
  · obtain ⟨octets, s₁, -, h⟩ := runOn_bind_eq_ok.mp h
    exact Settings.isFilled_of_ofOctets (Prod.mk.inj (runOn_ofExcept _ ▸ h)).1

/-- Whatever is in a file of settings, it does not tell a run to stop. -/
lemma loadSettings_isError {f : Failure} (h : (runOn (loadSettings given) s).1 = .error f) :
    f.isError = true := by
  rw [runOn_loadSettings] at h
  split at h
  · cases h
  · exact ((OnlyTells.accessOr (E := (·.isError = true)) (fun _ => rfl) (fun _ => rfl) rfl).bind
      fun _ =>
      OnlyTells.ofExcept fun _ => Settings.isError_of_ofOctets).fails s f h

/-- A file that can be opened gives what its octets give. -/
lemma runOn_loadSettings_of_readFile {octets : List UInt8}
    (hread : s.disk.readFile s.here (settingsPath given s) = .ok octets) :
    runOn (loadSettings given) s =
      (Settings.ofOctets s.host.yaml (settingsPath given s) octets, s) := by
  have hpath : settingsPath given s ≠ [] := by
    intro hpath
    rw [hpath] at hread
    cases hread
  rw [runOn_loadSettings, if_neg hpath, hread, runOn_accessOr_ok_bind, runOn_ofExcept]

/-- **A short settings file that is no text makes another failure escape.** -/
theorem loadSettings_undecodable {octets : List UInt8} {f : Utf8.Fault}
    (hyaml : s.host.yaml = Yaml.load)
    (hread : s.disk.readFile s.here (settingsPath given s) = .ok octets)
    (hlen : octets.length ≤ Yaml.Reader.pageSize) (h : Utf8.decode octets = .error f) :
    runOn (loadSettings given) s =
      (.error (.unreadableValue "UnicodeDecodeError".toText f.message), s) := by
  have hfault : Yaml.load octets = .error (.other "UnicodeDecodeError".toText f.message) := by
    rw [Yaml.load, Yaml.Document.read_undecodable hlen h]
    rfl
  rw [runOn_loadSettings_of_readFile hread, hyaml]
  unfold Settings.ofOctets
  rw [hfault]

/-- **The files for which reading the settings ends as it should.** With no path
and with a file that can be read the result is settings or an error of the
settings, and a file that the system does not hand over is such an error too.
On any other path or file another failure escapes. Nothing is changed. -/
theorem loadSettings_answers_iff (given : Option Text) (s : Session) :
    (runOn (loadSettings given) s).2 = s ∧
      (Settings.Answers (runOn (loadSettings given) s).1 ↔
        (settingsPath given s).isPath ∧
          ∀ octets, s.disk.readFile s.here (settingsPath given s) = .ok octets →
            Settings.IsReadable s.host.yaml octets) := by
  cases hread : s.disk.readFile s.here (settingsPath given s) with
  | ok octets =>
      rw [runOn_loadSettings_of_readFile hread, Settings.ofOctets_answers_iff]
      refine ⟨rfl, fun h => ⟨Disk.isPath_of_readFile hread, fun octets' ho => ?_⟩,
        fun h => h.2 octets rfl⟩
      obtain rfl := Except.ok.inj ho
      exact h
  | error e =>
      rw [runOn_loadSettings]
      split
      · next hpath => exact ⟨rfl, iff_of_true (Settings.answers_ok _) (by simp [hpath])⟩
      · rw [hread]
        rcases Disk.of_readFile_error hread with ⟨hno, rfl⟩ | ⟨hpath, e', rfl⟩
        · rw [runOn_accessOr_notPath_bind]
          exact ⟨rfl, iff_of_false Settings.answers_error.mp fun h => hno h.1⟩
        · rw [runOn_accessOr_system_bind]
          exact ⟨rfl, iff_of_true (Settings.answers_error.mpr rfl) ⟨hpath, by simp⟩⟩

/-- A session at the root of a disk with nothing but a settings file. -/
def settingsOnly (octets : List UInt8) : Session where
  host := .lenient 984 981 .late
  disk := ⟨[(["c.yml".toText], .file octets)]⟩
  here := []
  settingsVar := some "c.yml".toText
  logDirVar := none
  arguments := []
  stamp := []
  elapsed := []
  journal := .start ⟨Level.warning, []⟩ loggers
  stdout := []
  stderr := []
  records := []

/-- Three files for which another failure escapes: with a number as a key, with
a day that the calendar does not have, and with an octet that begins no
character. -/
theorem loadSettings_escapes :
    (runOn (loadSettings none) (settingsOnly (Utf8.encode "1: x\n".toText))).1 =
        .error (.keyNotText "int".toText) ∧
      (runOn (loadSettings none) (settingsOnly (Utf8.encode "day: 2001-02-30\n".toText))).1 =
        .error (.unreadableValue "ValueError".toText "day is out of range for month".toText) ∧
      (runOn (loadSettings none) (settingsOnly [0xFF])).1 =
        .error (.unreadableValue "UnicodeDecodeError".toText
          (Utf8.Fault.message ⟨.start, 0, 1, 0xFF⟩)) := by
  have hyaml : (settingsOnly [0xFF]).host.yaml = Yaml.load :=
    Host.lenient_yaml 984 981 .late
  have hread : (settingsOnly [0xFF]).disk.readFile (settingsOnly [0xFF]).here
      (settingsPath none (settingsOnly [0xFF])) = .ok [0xFF] := by
    decide +kernel
  have hfault : Utf8.decode [0xFF] = .error ⟨.start, 0, 1, 0xFF⟩ := by
    decide +kernel
  refine ⟨by decide +kernel, by decide +kernel, ?_⟩
  rw [loadSettings_undecodable hyaml hread (by decide) hfault]

end Generator

end TestScaffold
