import TestScaffold.Proofs.Settings.Refusals
import TestScaffold.Proofs.Yaml.Keys

/-!
Which mappings are settings, and what is wrong with the others.

* `refuseUnknown_of_texts`: keys that are texts are all known, or the others are listed in
  order.
* `Accepts`, `Takes` and `Faults` say of a mapping, by what is an entry of it and not by where
  the entry stands, that it is accepted, which settings it gives, and what is wrong with it.
  `ofEntries_cases`: one or the other is the case.
* `loadSettings_accepts`: **a settings file with texts for keys is accepted exactly if its keys
  are known and their values well typed**; what is read has no empty marker, no empty
  source root and not no source roots.
-/

namespace TestScaffold

namespace Settings

variable {path : Text} {d : Yaml.Document} {entries : List (Yaml.Scalar × Yaml.Value)}
  {keys : List Yaml.Scalar}

/-! ### Names of keys -/

/-- The names are in the order of their code points. -/
def Ordered (names : List Text) : Prop :=
  names.Pairwise fun s t => s.map (·.toNat) ≤ t.map (·.toNat)

/-- A name that is put into an ordered list of names has its place there. -/
lemma insertKey_ordered (s : Text) {names : List Text}
    (h : Ordered names) :
    ∃ names', insertKey (.text s) (names.map .text) = .ok (names'.map .text) ∧ Ordered names' := by
  induction names with
  | nil => exact ⟨[s], rfl, List.pairwise_singleton _ _⟩
  | cons t names ih =>
      obtain ⟨hfirst, hrest⟩ := List.pairwise_cons.mp h
      by_cases hlt : s.map (·.toNat) < t.map (·.toNat)
      · refine ⟨s :: t :: names, by simp [insertKey, keyLt, hlt], List.pairwise_cons.mpr ⟨?_, h⟩⟩
        intro u hu
        rcases List.mem_cons.mp hu with rfl | hu
        · exact le_of_lt hlt
        · exact (le_of_lt hlt).trans (hfirst u hu)
      · obtain ⟨names', hinsert, hordered⟩ := ih hrest
        refine ⟨t :: names', by simp [insertKey, keyLt, hlt, hinsert, Except.map],
          List.pairwise_cons.mpr ⟨fun u hu => ?_, hordered⟩⟩
        have hmem : u ∈ s :: names := by
          have hu' := (insertKey_perm hinsert).mem_iff.mp (List.mem_map_of_mem hu)
          simpa using hu'
        rcases List.mem_cons.mp hmem with rfl | hmem
        · exact not_lt.mp hlt
        · exact hfirst u hmem

/-- Names are put into their order. -/
lemma keyOrder_ordered (names : List Text) :
    ∃ names', keyOrder (names.map .text) = .ok (names'.map .text) ∧ Ordered names' := by
  have key : ∀ before : List Text, Ordered before →
      ∃ after, (names.map Yaml.Scalar.text).foldlM (fun sorted k => insertKey k sorted)
        (before.map .text) = .ok (after.map .text) ∧ Ordered after := by
    induction names with
    | nil => exact fun before h => ⟨before, rfl, h⟩
    | cons s names ih =>
        intro before h
        obtain ⟨names', hinsert, hordered⟩ := insertKey_ordered s h
        obtain ⟨after, hafter, hsorted⟩ := ih names' hordered
        exact ⟨after, by simpa [hinsert, bind, Except.bind] using hafter, hsorted⟩
  exact key [] .nil

lemma exists_names (h : ∀ k ∈ keys, (keyText? k).isSome) :
    ∃ names : List Text, keys = names.map .text := by
  induction keys with
  | nil => exact ⟨[], rfl⟩
  | cons k keys ih =>
      obtain ⟨names, rfl⟩ := ih fun a ha => h a (by simp [ha])
      have hk := h k (by simp)
      cases k <;> simp [keyText?] at hk
      exact ⟨_ :: names, rfl⟩

/-- The keys that the settings do not know. -/
def unknownKeys (keys : List Yaml.Scalar) : List Yaml.Scalar :=
  keys.filter fun k => k ≠ keyOf rootsKey ∧ k ≠ keyOf markerKey

/-- Of keys that are texts, those that are unknown are listed in order. -/
lemma refuseUnknown_of_texts (path : Text) (h : ∀ k ∈ keys, (keyText? k).isSome) :
    (unknownKeys keys = [] ∧ refuseUnknown path keys = .ok ()) ∨
      ∃ names, names ≠ [] ∧ Ordered names ∧ (names.map Yaml.Scalar.text).Perm (unknownKeys keys) ∧
        refuseUnknown path keys =
          .error (.scaffold (.settingsUnknownKeys path names)) := by
  have htexts : ∀ k ∈ unknownKeys keys, (keyText? k).isSome := fun k hk =>
    h k (List.mem_filter.mp hk).1
  obtain ⟨names, hnames⟩ := exists_names htexts
  obtain ⟨sorted, horder, hsorted⟩ := keyOrder_ordered names
  rw [← hnames] at horder
  have hperm := keyOrder_perm horder
  have hunknown : refuseUnknown path keys = if sorted = [] then .ok ()
      else .error (.scaffold (.settingsUnknownKeys path sorted)) := by
    have hnone : (sorted.map Yaml.Scalar.text).find? (fun k => (keyText? k).isNone) = none := by
      simp [keyText?]
    have hmap : (sorted.map Yaml.Scalar.text).filterMap keyText? = sorted := by
      simp [List.filterMap_map, Function.comp_def, keyText?]
    change (keyOrder (unknownKeys keys)).mapError Failure.keysUnordered >>= _ = _
    rw [horder]
    cases sorted with
    | nil => rfl
    | cons t sorted =>
        dsimp only [Except.mapError, bind, Except.bind]
        rw [hnone, hmap, if_neg (List.cons_ne_nil t sorted)]
        rfl
  cases sorted with
  | nil => exact .inl ⟨hperm.symm.eq_nil, hunknown⟩
  | cons t sorted => exact .inr ⟨t :: sorted, List.cons_ne_nil t sorted, hsorted, hperm, hunknown⟩

/-! ### Values -/

/-- The value is this text, which is not empty. -/
def IsFilledText (v : Yaml.Value) (t : Text) : Prop :=
  v = .scalar (.text t) ∧ t ≠ []

/-- The value is a list, which is not empty, of these texts, which are not empty. -/
def IsFilledTexts (d : Yaml.Document) (v : Yaml.Value) (ts : List Text) : Prop :=
  ∃ items, d.parts v = some (.seq items) ∧ items ≠ [] ∧ List.Forall₂ IsFilledText items ts

lemma filledText?_eq_some_iff {v : Yaml.Value} {t : Text} :
    filledText? v = some t ↔ IsFilledText v t := by
  unfold filledText?
  split
  · next t' =>
      by_cases ht : t' = []
      · simp +contextual [IsFilledText, ht]
      · have hne : t' = t → t ≠ [] := fun heq => heq ▸ ht
        simpa [IsFilledText, ht] using hne
  · next hother =>
      refine iff_of_false (by simp) ?_
      rintro ⟨rfl, -⟩
      exact hother t rfl

lemma filledText?_eq_none_iff {v : Yaml.Value} :
    filledText? v = none ↔ ¬∃ t, IsFilledText v t := by
  simp only [Option.eq_none_iff_forall_ne_some, ne_eq, filledText?_eq_some_iff, not_exists]

lemma mapM_filledText?_eq_some_iff {items : List Yaml.Value} {ts : List Text} :
    items.mapM filledText? = some ts ↔ List.Forall₂ IsFilledText items ts := by
  induction items generalizing ts with
  | nil => simp [eq_comm]
  | cons v items ih =>
      rw [List.mapM_cons, List.forall₂_cons_left_iff]
      constructor
      · intro h
        obtain ⟨t, ht, h⟩ := Option.bind_eq_some_iff.mp h
        obtain ⟨rest, hrest, h⟩ := Option.bind_eq_some_iff.mp h
        exact ⟨t, rest, filledText?_eq_some_iff.mp ht, ih.mp hrest, (Option.some.inj h).symm⟩
      · rintro ⟨t, rest, ht, hrest, rfl⟩
        simp [filledText?_eq_some_iff.mpr ht, ih.mpr hrest]

lemma filledTexts?_eq_some_iff {v : Yaml.Value} {ts : List Text} :
    filledTexts? (d.parts v) = some ts ↔ IsFilledTexts d v ts := by
  unfold filledTexts?
  split
  · next hparts => simp [IsFilledTexts, hparts]
  · next items hne hparts =>
      have hne' : items ≠ [] := hne
      simp [IsFilledTexts, hparts, hne', mapM_filledText?_eq_some_iff]
  · next hother =>
      refine iff_of_false (by simp) ?_
      rintro ⟨items, hparts, -⟩
      exact hother items hparts

lemma filledTexts?_eq_none_iff {v : Yaml.Value} :
    filledTexts? (d.parts v) = none ↔ ¬∃ ts, IsFilledTexts d v ts := by
  simp only [Option.eq_none_iff_forall_ne_some, ne_eq, filledTexts?_eq_some_iff, not_exists]

/-! ### Mappings -/

/-- The keys are known, and the values are what they should be. -/
structure Accepts (d : Yaml.Document) (entries : List (Yaml.Scalar × Yaml.Value)) : Prop where
  known : ∀ p ∈ entries, p.1 = keyOf rootsKey ∨ p.1 = keyOf markerKey
  roots : ∀ v, (keyOf rootsKey, v) ∈ entries → ∃ ts, IsFilledTexts d v ts
  marker : ∀ v, (keyOf markerKey, v) ∈ entries → ∃ t, IsFilledText v t

/-- Each setting is the value of its key, or the default without one. -/
structure Takes (d : Yaml.Document) (entries : List (Yaml.Scalar × Yaml.Value))
    (settings : Settings) : Prop where
  roots : ∀ v, (keyOf rootsKey, v) ∈ entries → IsFilledTexts d v settings.sourceRoots
  roots_absent : (∀ v, (keyOf rootsKey, v) ∉ entries) →
    settings.sourceRoots = default.sourceRoots
  marker : ∀ v, (keyOf markerKey, v) ∈ entries → IsFilledText v settings.dependencyMarker
  marker_absent : (∀ v, (keyOf markerKey, v) ∉ entries) →
    settings.dependencyMarker = default.dependencyMarker

/-- What is wrong with a mapping: all its unknown keys, in order; or else its source roots; or
else its marker. -/
inductive Faults (path : Text) (d : Yaml.Document) (entries : List (Yaml.Scalar × Yaml.Value)) :
    ScaffoldError → Prop
  | unknown (names : List Text) (hne : names ≠ []) (hordered : Ordered names)
      (hall : (names.map Yaml.Scalar.text).Perm (unknownKeys (entries.map (·.1)))) :
      Faults path d entries (.settingsUnknownKeys path names)
  | roots (hknown : unknownKeys (entries.map (·.1)) = []) (v : Yaml.Value)
      (hv : (keyOf rootsKey, v) ∈ entries) (hno : ¬∃ ts, IsFilledTexts d v ts) :
      Faults path d entries (.settingsNoList path rootsKey)
  | marker (hknown : unknownKeys (entries.map (·.1)) = [])
      (hroots : ∀ v, (keyOf rootsKey, v) ∈ entries → ∃ ts, IsFilledTexts d v ts) (v : Yaml.Value)
      (hv : (keyOf markerKey, v) ∈ entries) (hno : ¬∃ t, IsFilledText v t) :
      Faults path d entries (.settingsNoText path markerKey)

lemma unknownKeys_eq_nil_iff : unknownKeys (entries.map (·.1)) = [] ↔
    ∀ p ∈ entries, p.1 = keyOf rootsKey ∨ p.1 = keyOf markerKey := by
  simp [unknownKeys, or_iff_not_imp_left]

/-- In a mapping with distinct keys, of which one is a text, this key has one value. -/
lemma lookup_eq_some_iff (h : Yaml.DistinctKeys entries) {t : Text} {v : Yaml.Value} :
    entries.lookup (keyOf t) = some v ↔ (keyOf t, v) ∈ entries := by
  rw [List.lookup_eq_some_iff]
  constructor
  · rintro ⟨front, back, rfl, -⟩
    simp
  · intro hmem
    obtain ⟨front, back, rfl⟩ := List.append_of_mem hmem
    refine ⟨front, back, rfl, fun p hp => ?_⟩
    have hdiffer := (List.pairwise_append.mp h).2.2 p hp _ List.mem_cons_self
    rw [bne_iff_ne]
    rintro heq
    simp [← heq, Yaml.Scalar.isSame, keyOf, Yaml.Scalar.number?] at hdiffer

/-- The value of an entry is read, or there is no entry; or it cannot be read. -/
lemma entryOr_cases {α : Type} (e : ScaffoldError) (a : α) (read? : Yaml.Value → Option α)
    (h : Yaml.DistinctKeys entries) (t : Text) :
    (∃ b, entryOr e a read? (entries.lookup (keyOf t)) = .ok b ∧
        (∀ v, (keyOf t, v) ∈ entries → read? v = some b) ∧
        ((∀ v, (keyOf t, v) ∉ entries) → b = a)) ∨
      (entryOr e a read? (entries.lookup (keyOf t)) = .error (.scaffold e) ∧
        ∃ v, (keyOf t, v) ∈ entries ∧ read? v = none) := by
  simp only [← lookup_eq_some_iff h]
  cases hv : entries.lookup (keyOf t) with
  | none => exact .inl ⟨a, rfl, by simp, fun _ => rfl⟩
  | some v =>
      cases hread : read? v with
      | none => exact .inr ⟨by simp [entryOr, hread], v, rfl, hread⟩
      | some b => exact .inl ⟨b, by simp [entryOr, hread], by simpa using hread, by simp⟩

/-- **A mapping with texts for keys is accepted and taken as it is, or something is wrong with
it.** -/
theorem ofEntries_cases (path : Text) (h : Yaml.DistinctKeys entries)
    (htexts : ∀ p ∈ entries, (keyText? p.1).isSome) :
    (∃ settings, ofEntries path d entries = .ok settings ∧ Accepts d entries ∧
        Takes d entries settings) ∨
      ∃ e, ofEntries path d entries = .error (.scaffold e) ∧ ¬Accepts d entries ∧
        Faults path d entries e := by
  rw [ofEntries_eq]
  have hkeys : ∀ k ∈ entries.map (·.1), (keyText? k).isSome := by simpa using htexts
  -- the three checks in their order; the first that fails says what is wrong
  rcases refuseUnknown_of_texts path hkeys with ⟨hknown, hrefuse⟩ |
    ⟨names, hne, hordered, hall, hrefuse⟩
  swap
  · refine .inr ⟨_, by rw [hrefuse]; rfl, fun haccepts => hne ?_, .unknown names hne hordered hall⟩
    rw [unknownKeys_eq_nil_iff.mpr haccepts.known] at hall
    exact List.map_eq_nil_iff.mp hall.eq_nil
  rw [hrefuse]
  rcases entryOr_cases (.settingsNoList path rootsKey) default.sourceRoots
    (fun v => filledTexts? (d.parts v)) h rootsKey with
    ⟨roots, hroots, hrootsTaken, hrootsAbsent⟩ | ⟨hroots, v, hv, hno⟩
  swap
  · have hno' := filledTexts?_eq_none_iff.mp hno
    refine .inr ⟨_, by rw [hroots]; rfl, fun haccepts => hno' (haccepts.roots v hv), ?_⟩
    exact .roots hknown v hv hno'
  rw [hroots]
  have hlist : ∀ v, (keyOf rootsKey, v) ∈ entries → IsFilledTexts d v roots := fun v hv =>
    filledTexts?_eq_some_iff.mp (hrootsTaken v hv)
  rcases entryOr_cases (.settingsNoText path markerKey) default.dependencyMarker filledText? h
    markerKey with ⟨marker, hmarker, hmarkerTaken, hmarkerAbsent⟩ | ⟨hmarker, v, hv, hno⟩
  · have htext : ∀ v, (keyOf markerKey, v) ∈ entries → IsFilledText v marker := fun v hv =>
      filledText?_eq_some_iff.mp (hmarkerTaken v hv)
    refine .inl ⟨⟨marker, roots⟩, by rw [hmarker]; rfl, ?_, ?_⟩
    · exact ⟨unknownKeys_eq_nil_iff.mp hknown, fun v hv => ⟨roots, hlist v hv⟩,
        fun v hv => ⟨marker, htext v hv⟩⟩
    · exact ⟨hlist, hrootsAbsent, htext, hmarkerAbsent⟩
  · have hno' := filledText?_eq_none_iff.mp hno
    refine .inr ⟨_, by rw [hmarker]; rfl, fun haccepts => hno' (haccepts.marker v hv), ?_⟩
    exact .marker hknown (fun v hv => ⟨roots, hlist v hv⟩) v hv hno'

/-! ### The order of entries -/

variable {entries' : List (Yaml.Scalar × Yaml.Value)} {settings settings' : Settings}

lemma Accepts.perm (h : entries'.Perm entries) (ha : Accepts d entries) : Accepts d entries' where
  known p hp := ha.known p (h.mem_iff.mp hp)
  roots v hv := ha.roots v (h.mem_iff.mp hv)
  marker v hv := ha.marker v (h.mem_iff.mp hv)

lemma Takes.perm (h : entries'.Perm entries) (ht : Takes d entries settings) :
    Takes d entries' settings where
  roots v hv := ht.roots v (h.mem_iff.mp hv)
  roots_absent hno := ht.roots_absent fun v hv => hno v (h.mem_iff.mpr hv)
  marker v hv := ht.marker v (h.mem_iff.mp hv)
  marker_absent hno := ht.marker_absent fun v hv => hno v (h.mem_iff.mpr hv)

/-- A mapping gives one settings. -/
lemma Takes.unique (ht : Takes d entries settings) (ht' : Takes d entries settings') :
    settings = settings' := by
  have hroots : settings.sourceRoots = settings'.sourceRoots := by
    by_cases hv : ∃ v, (keyOf rootsKey, v) ∈ entries
    · obtain ⟨v, hv⟩ := hv
      have hread := filledTexts?_eq_some_iff.mpr (ht.roots v hv)
      rw [filledTexts?_eq_some_iff.mpr (ht'.roots v hv)] at hread
      exact (Option.some.inj hread).symm
    · have hno := not_exists.mp hv
      rw [ht.roots_absent hno, ht'.roots_absent hno]
  have hmarker : settings.dependencyMarker = settings'.dependencyMarker := by
    by_cases hv : ∃ v, (keyOf markerKey, v) ∈ entries
    · obtain ⟨v, hv⟩ := hv
      have hread := filledText?_eq_some_iff.mpr (ht.marker v hv)
      rw [filledText?_eq_some_iff.mpr (ht'.marker v hv)] at hread
      exact (Option.some.inj hread).symm
    · have hno := not_exists.mp hv
      rw [ht.marker_absent hno, ht'.marker_absent hno]
  cases settings
  cases settings'
  simp_all

/-- A mapping gives these settings exactly if it is accepted and taken as it is. -/
lemma ofEntries_eq_ok_iff (path : Text) (h : Yaml.DistinctKeys entries)
    (htexts : ∀ p ∈ entries, (keyText? p.1).isSome) :
    ofEntries path d entries = .ok settings ↔ Accepts d entries ∧ Takes d entries settings := by
  rcases ofEntries_cases (d := d) path h htexts with
    ⟨settings', hok, haccepts, htakes⟩ | ⟨e, herror, hno, -⟩
  · rw [hok]
    constructor
    · rintro heq
      obtain rfl := Except.ok.inj heq
      exact ⟨haccepts, htakes⟩
    · rintro ⟨-, ht⟩
      rw [htakes.unique ht]
  · rw [herror]
    exact iff_of_false (by simp) fun h => hno h.1

/-- A file with a mapping gives what its entries give. -/
lemma ofOctets_of_load {load : Yaml.Loader} {octets : List UInt8} (hd : load octets = .ok d)
    (hparts : d.parts d.root = some (.map entries)) :
    ofOctets load path octets = ofEntries path d entries := by
  unfold ofOctets
  rw [hd]
  dsimp only
  unfold ofDocument
  split
  · next hnull => simp [hnull, Yaml.Document.parts] at hparts
  · next hfound _ =>
      obtain rfl := Yaml.Collection.map.inj (Option.some.inj (hparts.symm.trans hfound))
      rfl
  · next hother => exact absurd hparts (hother entries)

end Settings

namespace Generator

open TestScaffold.Action

variable {given : Option Text} {s : Session}

/-- **Which settings files are accepted.** Whatever is read, no setting is empty. A file that
can be read, and is a mapping with texts for keys, is accepted exactly if its keys are known and
its values well typed. Then each setting is the value of its key or the default, in whatever
order the entries stand; otherwise the error says what is wrong with it. Of the reader of YAML
it is only supposed that it keeps keys apart. -/
theorem loadSettings_accepts (given : Option Text) (s : Session)
    (hyaml : Yaml.DistinguishesKeys s.host.yaml) :
    (∀ settings, (runOn (loadSettings given) s).1 = .ok settings → settings.IsFilled) ∧
      ∀ octets d entries, s.disk.readFile s.here (settingsPath given s) = .ok octets →
        s.host.yaml octets = .ok d →
        d.parts d.root = some (.map entries) → (∀ p ∈ entries, (Settings.keyText? p.1).isSome) →
        ((∃ settings, (runOn (loadSettings given) s).1 = .ok settings) ↔
            Settings.Accepts d entries) ∧
          (∀ settings, (runOn (loadSettings given) s).1 = .ok settings →
            Settings.Takes d entries settings ∧ ∀ entries', entries'.Perm entries →
              Settings.ofEntries (settingsPath given s) d entries' = .ok settings) ∧
          ∀ f, (runOn (loadSettings given) s).1 = .error f →
            ∃ e, f = .scaffold e ∧ Settings.Faults (settingsPath given s) d entries e := by
  refine ⟨fun settings h => loadSettings_isFilled (Prod.ext h rfl), ?_⟩
  intro octets d entries hread hd hparts htexts
  have hdistinct := hyaml octets d hd _ _ hparts
  have hrun : (runOn (loadSettings given) s).1 =
      Settings.ofEntries (settingsPath given s) d entries := by
    rw [runOn_loadSettings_of_readFile hread, Settings.ofOctets_of_load hd hparts]
  rw [hrun]
  refine ⟨?_, fun settings hok => ?_, fun f herror => ?_⟩
  · rcases Settings.ofEntries_cases (settingsPath given s) hdistinct htexts with
      ⟨settings, hok, haccepts, -⟩ | ⟨e, herror, hno, -⟩
    · exact iff_of_true ⟨settings, hok⟩ haccepts
    · exact iff_of_false (by simp [herror]) hno
  · obtain ⟨haccepts, htakes⟩ := (Settings.ofEntries_eq_ok_iff _ hdistinct htexts).mp hok
    refine ⟨htakes, fun entries' hperm => ?_⟩
    have htexts' : ∀ p ∈ entries', (Settings.keyText? p.1).isSome := fun p hp =>
      htexts p (hperm.mem_iff.mp hp)
    exact (Settings.ofEntries_eq_ok_iff _ (hdistinct.perm hperm) htexts').mpr
      ⟨haccepts.perm hperm, htakes.perm hperm⟩
  · rcases Settings.ofEntries_cases (settingsPath given s) hdistinct htexts with
      ⟨settings, hok, -⟩ | ⟨e, herror', -, hfaults⟩
    · rw [hok] at herror
      cases herror
    · rw [herror'] at herror
      exact ⟨e, (Except.error.inj herror).symm, hfaults⟩

/-- A settings file with all that can be wrong. -/
def allWrong : List UInt8 :=
  Utf8.encode "zeta: 1\nsource_roots: []\nalpha: 1\ndependency_marker: 3\n".toText

/-- Its entries. -/
def allWrongEntries : List (Yaml.Scalar × Yaml.Value) :=
  [(Settings.keyOf "zeta".toText, .scalar (.int 1)),
    (Settings.keyOf Settings.rootsKey, .collection 4),
    (Settings.keyOf "alpha".toText, .scalar (.int 1)),
    (Settings.keyOf Settings.markerKey, .scalar (.int 3))]

/-- Its value. -/
def allWrongDocument : Yaml.Document where
  root := .collection 0
  collections := #[some (.map allWrongEntries), none, none, none, some (.seq []), none, none, none,
    none]

/-- Of all that is wrong with this file its unknown keys are named, in order. -/
theorem loadSettings_accepts_allWrong :
    let s := settingsOnly allWrong
    let e := ScaffoldError.settingsUnknownKeys "c.yml".toText ["alpha".toText, "zeta".toText]
    Yaml.DistinguishesKeys s.host.yaml ∧
      s.disk.readFile s.here (settingsPath none s) = .ok allWrong ∧
      s.host.yaml allWrong = .ok allWrongDocument ∧
      allWrongDocument.parts allWrongDocument.root = some (.map allWrongEntries) ∧
      (∀ p ∈ allWrongEntries, (Settings.keyText? p.1).isSome) ∧
      (runOn (loadSettings none) s).1 = .error (.scaffold e) ∧
      ¬Settings.Accepts allWrongDocument allWrongEntries ∧
      Settings.Faults "c.yml".toText allWrongDocument allWrongEntries e := by
  intro s e
  have hread : s.disk.readFile s.here (settingsPath none s) = .ok allWrong := by decide +kernel
  have hyaml : Yaml.DistinguishesKeys s.host.yaml := by
    change Yaml.DistinguishesKeys (Host.lenient ..).yaml
    rw [Host.lenient_yaml]
    exact Yaml.distinguishesKeys_load
  have hd : s.host.yaml allWrong = .ok allWrongDocument := by decide +kernel
  have hparts : allWrongDocument.parts allWrongDocument.root = some (.map allWrongEntries) := rfl
  have htexts : ∀ p ∈ allWrongEntries, (Settings.keyText? p.1).isSome := by decide
  have hrun : (runOn (loadSettings none) s).1 = .error (.scaffold e) := by decide +kernel
  obtain ⟨haccepts, -, hfaults⟩ :=
    (loadSettings_accepts none s hyaml).2 allWrong allWrongDocument allWrongEntries hread hd hparts
      htexts
  obtain ⟨e', he, hfault⟩ := hfaults _ hrun
  obtain rfl := Failure.scaffold.inj he
  refine ⟨hyaml, hread, hd, hparts, htexts, hrun, fun h => ?_, hfault⟩
  obtain ⟨settings, hok⟩ := haccepts.mpr h
  rw [hrun] at hok
  cases hok

end Generator

end TestScaffold
