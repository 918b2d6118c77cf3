import Mathlib.Tactic
import TestScaffold.Text.Utf8

/-!
Octets that are decoded in parts.

* `feed_cases`: an octet ends a character, or makes the unfinished one longer
  by itself.
* `decodeFrom_append`: what is left unfinished by the first part is where the
  second one goes on.
* `exists_held`: **the octets that are left unfinished are the last ones**, and
  on their own they lead to the same state, so a reader has to keep only them.
-/

namespace TestScaffold.Utf8

variable {m n : Nat} {b : UInt8} {bs cs : List UInt8} {s t : Text}
  {u? v? w? : Option Unfinished}

/-- How many octets a state has taken since the last character. -/
def held (u? : Option Unfinished) : Nat := (u?.map (·.taken)).getD 0

@[simp] lemma held_none : held none = 0 := rfl

@[simp] lemma held_some (u : Unfinished) : held (some u) = u.taken := rfl

/-! ### One octet -/

/-- Between two characters an octet is one by itself, or begins one. -/
lemma begin_cases (h : begin n b = .ok (s, v?)) :
    (∃ c, s = [char c] ∧ v? = none) ∨ ∃ v, s = [] ∧ v? = some v ∧ v.taken = 1 := by
  rw [begin] at h
  split at h
  · next c _ =>
      obtain ⟨rfl, rfl⟩ := Prod.mk.inj (Except.ok.inj h)
      exact .inl ⟨c, rfl, rfl⟩
  · next u hlead =>
      obtain ⟨rfl, rfl⟩ := Prod.mk.inj (Except.ok.inj h)
      refine .inr ⟨u, rfl, rfl, ?_⟩
      simp only [Lead.ofOctet] at hlead
      split_ifs at hlead <;> (obtain rfl := Lead.opens.inj hlead; rfl)
  · cases h

/-- An octet ends a character, or makes the unfinished one longer. -/
lemma feed_cases (h : feed n u? b = .ok (s, v?)) :
    (∃ c, s = [char c] ∧ v? = none) ∨ ∃ v, s = [] ∧ v? = some v ∧ v.taken = held u? + 1 := by
  cases u? with
  | none => simpa using begin_cases h
  | some u =>
      simp only [feed] at h
      split_ifs at h
      · obtain ⟨rfl, rfl⟩ := Prod.mk.inj (Except.ok.inj h)
        exact .inl ⟨_, rfl, rfl⟩
      · obtain ⟨rfl, rfl⟩ := Prod.mk.inj (Except.ok.inj h)
        exact .inr ⟨_, rfl, rfl, rfl⟩

/-- The position of an octet matters only to a fault. -/
lemma feed_of_ok (h : feed n u? b = .ok (s, v?)) : feed m u? b = .ok (s, v?) := by
  cases u? with
  | none =>
      simp only [feed, begin] at h ⊢
      split at h <;> simp_all
  | some u =>
      simp only [feed] at h ⊢
      split_ifs at h ⊢ <;> assumption

/-! ### Several octets -/

@[simp] lemma decodeFrom_nil : decodeFrom n u? [] = .ok ([], u?) := rfl

lemma decodeFrom_cons_eq_ok :
    decodeFrom n u? (b :: bs) = .ok (s, w?) ↔
      ∃ s₁ v? s₂, feed n u? b = .ok (s₁, v?) ∧ decodeFrom (n + 1) v? bs = .ok (s₂, w?) ∧
        s = s₁ ++ s₂ := by
  rw [decodeFrom]
  constructor
  · intro h
    split at h
    · cases h
    · next s₁ v? hb =>
        split at h
        · cases h
        · next s₂ w? hbs =>
            obtain ⟨rfl, rfl⟩ := Prod.mk.inj (Except.ok.inj h)
            exact ⟨s₁, v?, s₂, hb, hbs, rfl⟩
  · rintro ⟨s₁, v?, s₂, hb, hbs, rfl⟩
    simp only [hb, hbs]

lemma decodeFrom_of_ok (h : decodeFrom n u? bs = .ok (s, v?)) :
    decodeFrom m u? bs = .ok (s, v?) := by
  induction bs generalizing m n u? s with
  | nil => exact h
  | cons b bs ih =>
      obtain ⟨s₁, w?, s₂, hb, hbs, rfl⟩ := decodeFrom_cons_eq_ok.mp h
      exact decodeFrom_cons_eq_ok.mpr ⟨s₁, w?, s₂, feed_of_ok hb, ih hbs, rfl⟩

/-- The second part is decoded from the state after the first one. -/
lemma decodeFrom_append (hbs : decodeFrom n u? bs = .ok (s, v?))
    (hcs : decodeFrom m v? cs = .ok (t, w?)) :
    decodeFrom n u? (bs ++ cs) = .ok (s ++ t, w?) := by
  induction bs generalizing n u? s with
  | nil =>
      obtain ⟨rfl, rfl⟩ := Prod.mk.inj (Except.ok.inj hbs)
      exact decodeFrom_of_ok hcs
  | cons b bs ih =>
      obtain ⟨s₁, u₁, s₂, hb, hrest, rfl⟩ := decodeFrom_cons_eq_ok.mp hbs
      exact decodeFrom_cons_eq_ok.mpr ⟨s₁, u₁, s₂ ++ t, hb, ih hrest, by simp⟩

/-- Each character takes an octet at least. -/
lemma length_decodeFrom_le (h : decodeFrom n u? bs = .ok (s, v?)) :
    s.length + held v? ≤ bs.length + held u? := by
  induction bs generalizing n u? s with
  | nil =>
      obtain ⟨rfl, rfl⟩ := Prod.mk.inj (Except.ok.inj h)
      simp
  | cons b bs ih =>
      obtain ⟨s₁, u₁, s₂, hb, hbs, rfl⟩ := decodeFrom_cons_eq_ok.mp h
      have hrest := ih hbs
      rcases feed_cases hb with ⟨c, rfl, rfl⟩ | ⟨v, rfl, rfl, htaken⟩
      · simp only [held_none, List.length_append, List.length_cons, List.length_nil] at hrest ⊢
        omega
      · simp only [held_some, htaken, List.nil_append, List.length_cons] at hrest ⊢
        omega

/-- What is left unfinished after octets before which some were left unfinished
already. -/
lemma exists_held_append (hcs : decodeFrom 0 none cs = .ok ([], u?)) (hlen : cs.length = held u?)
    (h : decodeFrom n u? bs = .ok (s, v?)) :
    ∃ front back, cs ++ bs = front ++ back ∧ back.length = held v? ∧
      decodeFrom 0 none back = .ok ([], v?) := by
  induction bs generalizing n u? s cs with
  | nil =>
      obtain ⟨rfl, rfl⟩ := Prod.mk.inj (Except.ok.inj h)
      exact ⟨[], cs, by simp, hlen, hcs⟩
  | cons b bs ih =>
      obtain ⟨s₁, u₁, s₂, hb, hbs, rfl⟩ := decodeFrom_cons_eq_ok.mp h
      rcases feed_cases hb with ⟨c, rfl, rfl⟩ | ⟨v, rfl, rfl, htaken⟩
      · -- a character has ended, so nothing before the rest is left
        have hnone : decodeFrom 0 none [] = .ok ([], none) := rfl
        obtain ⟨front, back, happend, hback⟩ := ih hnone rfl hbs
        refine ⟨cs ++ b :: front, back, ?_, hback⟩
        simp [← happend]
      · have hone : decodeFrom n u? [b] = .ok ([], some v) :=
          decodeFrom_cons_eq_ok.mpr ⟨[], some v, [], hb, rfl, rfl⟩
        obtain ⟨front, back, happend, hback⟩ :=
          ih (decodeFrom_append hcs hone) (by simp [hlen, htaken]) hbs
        refine ⟨front, back, ?_, hback⟩
        simpa using happend

/-- **What is left unfinished are the last octets**, and they lead there on
their own. -/
theorem exists_held (h : decodeFrom n none bs = .ok (s, v?)) :
    ∃ front back, bs = front ++ back ∧ back.length = held v? ∧
      decodeFrom 0 none back = .ok ([], v?) := by
  have hnone : decodeFrom 0 none [] = .ok ([], none) := rfl
  simpa using exists_held_append hnone rfl h

end TestScaffold.Utf8
