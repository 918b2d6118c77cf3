import Mathlib.Tactic
import TestScaffold.Yaml.Value

/-!
The keys of a mapping that is read.

* `Filling.Keeps` is a step of filling that leaves all mappings with keys of
  their own, if they had them, and has a value of the given kind. It goes
  through the steps one by one.
* `Document.distinctKeys`: **no two entries of a mapping that is read have the
  same key.**
-/

namespace TestScaffold.Yaml

/-- No key is the same as one before it. -/
def DistinctKeys (entries : List (Scalar × Value)) : Prop :=
  entries.Pairwise fun p q => p.1.isSame q.1 = false

lemma Scalar.isSame_comm (a b : Scalar) : a.isSame b = b.isSame a := by
  unfold isSame
  cases a.number? <;> cases b.number? <;> simp [eq_comm]

/-- The order of the entries does not matter. -/
lemma DistinctKeys.perm {entries entries' : List (Scalar × Value)} (h : entries'.Perm entries)
    (hd : DistinctKeys entries) : DistinctKeys entries' :=
  (h.pairwise_iff fun hpq => by rwa [Scalar.isSame_comm]).mpr hd

/-- A mapping has distinct keys; other collections have none. -/
def Collection.IsDistinct : Collection → Prop
  | .map entries => DistinctKeys entries
  | _ => True

/-- All mappings that have been filled have distinct keys. -/
def Building.IsDistinct (b : Building) : Prop := ∀ c, some c ∈ b.collections → c.IsDistinct

/-! ### Steps of filling -/

namespace Filling

variable {α β : Type} {P : α → Prop} {Q : β → Prop}

/-- The step keeps the keys of all mappings distinct, and has a value of this kind. -/
def Keeps (m : Filling α) (P : α → Prop) : Prop :=
  ∀ b, b.IsDistinct → ∀ a b', m.run b = .ok (a, b') → b'.IsDistinct ∧ P a

namespace Keeps

/-- A result that is right from the start stays right. -/
lemma pure {a : α} (ha : P a) : Keeps (pure a) P := by
  intro b hb a' b' h
  obtain ⟨rfl, rfl⟩ := Prod.mk.inj (Except.ok.inj h)
  exact ⟨hb, ha⟩

lemma throw (f : Fault) : Keeps (throw f) P := by
  intro b hb a b' h
  cases h

/-- What is only looked up or refused leaves the collections as they are. -/
lemma lift (x : Except Fault α) : Keeps (liftM x) fun _ => True := by
  intro b hb a b' h
  cases x with
  | error f => cases h
  | ok a' =>
      obtain ⟨rfl, rfl⟩ := Prod.mk.inj (Except.ok.inj h)
      exact ⟨hb, trivial⟩

lemma get : Keeps get Building.IsDistinct := by
  intro b hb a b' h
  obtain ⟨rfl, rfl⟩ := Prod.mk.inj (Except.ok.inj h)
  exact ⟨hb, hb⟩

lemma set {b : Building} (hb : b.IsDistinct) : Keeps (set b) fun _ => True := by
  intro b₀ _ a b' h
  obtain ⟨rfl, rfl⟩ := Prod.mk.inj (Except.ok.inj h)
  exact ⟨hb, trivial⟩

lemma modify {f : Building → Building} (hf : ∀ b, b.IsDistinct → (f b).IsDistinct) :
    Keeps (modify f) fun _ => True := by
  intro b hb a b' h
  obtain ⟨rfl, rfl⟩ := Prod.mk.inj (Except.ok.inj h)
  exact ⟨hf b hb, trivial⟩

/-- A step keeps the keys apart, and so do the steps that go on with what it has found. -/
lemma bind {m : Filling α} {k : α → Filling β} (hm : Keeps m P) (hk : ∀ a, P a → Keeps (k a) Q) :
    Keeps (m >>= k) Q := by
  intro b hb c b' h
  rw [StateT.run_bind] at h
  cases hrun : m.run b with
  | error f => simp [hrun, Bind.bind, Except.bind] at h
  | ok p =>
      rw [hrun] at h
      obtain ⟨hb', ha⟩ := hm b hb p.1 p.2 hrun
      exact hk p.1 ha p.2 hb' c b' h

/-- A loop does if each round of it does. -/
lemma foldlM {xs : List α} {f : β → α → Filling β} (hf : ∀ a x, Q a → Keeps (f a x) Q) {init : β}
    (hinit : Q init) : Keeps (xs.foldlM f init) Q := by
  induction xs generalizing init with
  | nil => exact pure hinit
  | cons x xs ih => exact (hf init x hinit).bind fun a ha => ih ha

lemma mapM {xs : List α} {f : α → Filling β} (hf : ∀ x, Keeps (f x) fun _ => True) :
    Keeps (xs.mapM f) fun _ => True := by
  induction xs with
  | nil => exact pure trivial
  | cons x xs ih =>
      rw [List.mapM_cons]
      exact (hf x).bind fun y _ => ih.bind fun ys _ => pure trivial

end Keeps

end Filling

namespace Building

open Filling (Keeps)

/-! ### Entries -/

lemma mem_insert {k : Scalar} {v : Value} {es : List (Scalar × Value)} {p : Scalar × Value}
    (h : p ∈ insert k v es) : p.1 = k ∨ ∃ q ∈ es, p.1 = q.1 := by
  fun_induction insert k v es with
  | case1 => exact .inl (congrArg Prod.fst (List.mem_singleton.mp h))
  | case2 k' v' es hsame =>
      rcases List.mem_cons.mp h with rfl | h
      · exact .inr ⟨_, List.mem_cons_self, rfl⟩
      · exact .inr ⟨p, List.mem_cons_of_mem _ h, rfl⟩
  | case3 k' v' es hsame ih =>
      rcases List.mem_cons.mp h with rfl | h
      · exact .inr ⟨_, List.mem_cons_self, rfl⟩
      · exact (ih h).imp_right fun ⟨q, hq, hp⟩ => ⟨q, List.mem_cons_of_mem _ hq, hp⟩

/-- A key that is there already gets the new value, so that it stays the only one. -/
lemma distinctKeys_insert {k : Scalar} {v : Value} {es : List (Scalar × Value)}
    (hes : DistinctKeys es) : DistinctKeys (insert k v es) := by
  fun_induction insert k v es with
  | case1 => exact List.pairwise_singleton _ _
  | case2 k' v' es hsame =>
      obtain ⟨hfirst, hrest⟩ := List.pairwise_cons.mp hes
      exact List.pairwise_cons.mpr ⟨hfirst, hrest⟩
  | case3 k' v' es hsame ih =>
      obtain ⟨hfirst, hrest⟩ := List.pairwise_cons.mp hes
      refine List.pairwise_cons.mpr ⟨fun p hp => ?_, ih hrest⟩
      rcases mem_insert hp with hp | ⟨q, hq, hp⟩
      · simpa [hp] using hsame
      · rw [hp]
        exact hfirst q hq

/-- Asking for a value makes a scalar, or leaves a collection to be filled later. -/
lemma value_keeps (number : ℕ) : Keeps (value number) fun _ => True := by
  refine Keeps.get.bind fun b hb => ?_
  split
  · exact .pure trivial
  · exact .throw _
  · split
    · refine .bind (.set hb) fun _ _ => ?_
      exact .pure trivial
    · refine (Keeps.lift _).bind fun a _ => .bind (.set hb) fun _ _ => ?_
      exact .pure trivial

lemma mappingOf_keeps (number : ℕ) : Keeps (mappingOf number) DistinctKeys := by
  refine Keeps.get.bind fun b _ => (Keeps.lift _).bind fun g _ => ?_
  refine .bind (.modify fun _ hb => hb) fun _ _ => .foldlM (fun es e hes => ?_) List.Pairwise.nil
  refine (value_keeps e.1).bind fun v _ => ?_
  cases v with
  | collection number => exact .throw _
  | scalar k => exact (value_keeps e.2).bind fun v _ => .pure (distinctKeys_insert hes)

lemma pairOf_keeps (number : ℕ) : Keeps (pairOf number) fun _ => True := by
  refine Keeps.get.bind fun b _ => ?_
  split
  · exact (value_keeps _).bind fun _ _ => (value_keeps _).bind fun _ _ => .pure trivial
  · exact .throw _

/-- Entries are only in a mapping, and that has put them in one by one. -/
lemma partsOf_keeps (number : ℕ) (n : Node) : Keeps (partsOf number n) Collection.IsDistinct := by
  unfold partsOf
  split
  · exact (Keeps.mapM value_keeps).bind fun _ _ => .pure trivial
  · exact (mappingOf_keeps number).bind fun _ hes => .pure hes
  · exact (mappingOf_keeps number).bind fun _ _ => .pure trivial
  · exact (Keeps.mapM pairOf_keeps).bind fun _ _ => .pure trivial
  · exact (Keeps.mapM pairOf_keeps).bind fun _ _ => .pure trivial
  · exact .throw _

/-! ### Collections -/

/-- One more collection is filled. -/
lemma IsDistinct.setIfInBounds {b : Building} {c : Collection} (hb : b.IsDistinct)
    (hc : c.IsDistinct) (number : ℕ) :
    ({ b with collections := b.collections.setIfInBounds number (some c) } :
      Building).IsDistinct := by
  intro c' hc'
  rcases Array.mem_or_eq_of_mem_setIfInBounds hc' with hmem | heq
  · exact hb c' hmem
  · rwa [Option.some.inj heq]

/-- The run: one collection after the other is filled, until none is left. -/
lemma fill_keeps (fuel : ℕ) : Keeps (fill fuel) fun _ => True := by
  induction fuel with
  | zero => exact .pure trivial
  | succ fuel ih =>
      rw [fill]
      refine Keeps.get.bind fun b _ => ?_
      split
      · exact .pure trivial
      · refine .bind (.modify fun _ hb => hb) fun _ _ => Keeps.get.bind fun b _ => ?_
        split
        · exact .throw _
        · refine (partsOf_keeps _ _).bind fun c hc => ?_
          exact .bind (.modify fun _ hb => hb.setIfInBounds hc _) fun _ _ => ih

/-- A building begins without collections, so that the run has filled all of them. -/
lemma document_isDistinct {root : ℕ} {g : Graph} {d : Document} (h : document root g = .ok d)
    {c : Collection} (hc : some c ∈ d.collections) : c.IsDistinct := by
  let start : Building := ⟨g, Array.replicate g.size none, [], Array.replicate g.size none⟩
  let filling : Filling Value := do
    let v ← value root
    fill g.size
    return v
  have hfill : Keeps filling fun _ => True :=
    (value_keeps root).bind fun _ _ => (fill_keeps _).bind fun _ _ => .pure trivial
  have hstart : start.IsDistinct := fun c hc => by simp [start] at hc
  change filling.run start >>= _ = _ at h
  cases hrun : filling.run start with
  | error f => simp [hrun, bind, Except.bind] at h
  | ok p =>
      rw [hrun] at h
      obtain rfl := Except.ok.inj h
      exact (hfill start hstart p.1 p.2 hrun).1 c hc

end Building

/-- **No two entries of a mapping that is read have the same key.** -/
theorem Document.distinctKeys {source : Source} {d : Document} (h : Document.read source = .ok d)
    {v : Value} {entries : List (Scalar × Value)} (hv : d.parts v = some (.map entries)) :
    DistinctKeys entries := by
  have hmem : some (.map entries) ∈ d.collections := by
    cases v with
    | scalar k => cases hv
    | collection number => exact Array.mem_of_getElem? (Option.join_eq_some_iff.mp hv)
  change Graph.read? source >>= _ = _ at h
  cases hgraph : Graph.read? source with
  | error f => simp [hgraph, bind, Except.bind] at h
  | ok found =>
      rw [hgraph] at h
      cases found with
      | none =>
          obtain rfl := Except.ok.inj h
          simp at hmem
      | some p => exact Building.document_isDistinct h hmem

/-- The reader gives no mapping with the same key twice. -/
def DistinguishesKeys (load : Loader) : Prop :=
  ∀ octets d, load octets = .ok d → ∀ v entries, d.parts v = some (.map entries) →
    DistinctKeys entries

lemma read_of_load {octets : List UInt8} {d : Document} (h : load octets = .ok d) :
    Document.read (.ofOctets octets) = .ok d := by
  rw [load] at h
  cases hread : Document.read (.ofOctets octets) with
  | error f => simp [hread, Except.mapError] at h
  | ok d' =>
      rw [hread] at h
      exact congrArg Except.ok (Except.ok.inj h)

/-- The reader of this library is one that keeps keys apart. -/
theorem distinguishesKeys_load : DistinguishesKeys load := fun _ _ h _ _ hv =>
  Document.distinctKeys (read_of_load h) hv

end TestScaffold.Yaml
