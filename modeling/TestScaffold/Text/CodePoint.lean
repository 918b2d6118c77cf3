/-!
Code points, which texts are made of: the characters, and the halves of
surrogate pairs.

A half is no character and is not found in a text that was read from a file. It
stands in a path for an octet that belongs to no character, and in a quoted
text where an escape asks for it.

* Code points have numbers, and are ordered by them; `CodePoint.ofNat` goes
  back (`ofNat_toNat`);
* `String.toText` is how constant texts are written.
-/

namespace TestScaffold

/-- A character, or one of the halves of surrogate pairs. -/
inductive CodePoint
  | char (c : Char)
  | half (n : Fin 0x800)
  deriving DecidableEq, Repr

export CodePoint (char)

namespace CodePoint

/-- The number of a code point. The halves come in the gap between U+D7FF and
U+E000. -/
def toNat : CodePoint → Nat
  | char c => c.toNat
  | .half n => 0xD800 + n

/-- The code point of a number. -/
def ofNat (n : Nat) : CodePoint :=
  if h : 0xD800 ≤ n ∧ n < 0xE000 then .half ⟨n - 0xD800, by omega⟩
  else char (Char.ofNat n)

/-- Whether a code point is half of a surrogate pair. -/
def isHalf : CodePoint → Bool
  | char _ => false
  | .half _ => true

/-- Whether a code point stands for an octet that belongs to no character. -/
def isStray : CodePoint → Bool
  | char _ => false
  | .half n => 0x480 ≤ n.val && n.val < 0x500

@[simp] theorem toNat_char (c : Char) : (char c).toNat = c.toNat := rfl

@[simp] theorem isHalf_char (c : Char) : (char c).isHalf = false := rfl

/-- Any code point but a half is a character. -/
theorem exists_char {p : CodePoint} (h : p.isHalf = false) : ∃ c, p = char c := by
  cases p with
  | char c => exact ⟨c, rfl⟩
  | half n => cases h

/-- The number of a code point determines it. -/
theorem ofNat_toNat (p : CodePoint) : ofNat p.toNat = p := by
  cases p with
  | char c =>
    have hgap : ¬(0xD800 ≤ c.toNat ∧ c.toNat < 0xE000) := by
      rcases c.valid with hbelow | habove
      · exact fun h => absurd hbelow (Nat.not_lt.mpr h.1)
      · exact fun h => absurd habove.1 (Nat.not_lt.mpr (Nat.le_of_lt_succ h.2))
    rw [toNat_char, ofNat, dif_neg hgap, Char.ofNat_toNat]
  | half n =>
    have hn := n.isLt
    have hgap : 0xD800 ≤ (half n).toNat ∧ (half n).toNat < 0xE000 := by
      simp only [toNat]
      omega
    rw [ofNat, dif_pos hgap]
    simp [toNat]

theorem toNat_inj {p q : CodePoint} : p.toNat = q.toNat ↔ p = q :=
  ⟨fun h => by rw [← ofNat_toNat p, h, ofNat_toNat], fun h => h ▸ rfl⟩

/-- Each number below the end of the code space is that of a code point. -/
theorem toNat_ofNat {n : Nat} (h : n < 0x110000) : (ofNat n).toNat = n := by
  by_cases hgap : 0xD800 ≤ n ∧ n < 0xE000
  · rw [ofNat, dif_pos hgap]
    exact Nat.add_sub_cancel' hgap.1
  · have hvalid : n.isValidChar := by
      rcases Nat.lt_or_ge n 0xD800 with hbelow | habove
      · exact .inl hbelow
      · exact .inr ⟨Nat.lt_of_not_le fun hle => hgap ⟨habove, Nat.lt_succ_of_le hle⟩, h⟩
    rw [ofNat, dif_neg hgap, toNat_char, Char.ofNat, dif_pos hvalid]
    rfl

/-- Other numbers stand for the code point zero. -/
theorem ofNat_of_ge {n : Nat} (h : 0x110000 ≤ n) : ofNat n = char '\x00' := by
  have hgap : ¬(0xD800 ≤ n ∧ n < 0xE000) := fun hgap => by omega
  have hvalid : ¬n.isValidChar := by
    rintro (hbelow | habove)
    · omega
    · exact Nat.not_lt.mpr h habove.2
  rw [ofNat, dif_neg hgap, Char.ofNat, dif_neg hvalid]
  rfl

instance : LT CodePoint := ⟨fun a b => a.toNat < b.toNat⟩

instance : LE CodePoint := ⟨fun a b => a.toNat ≤ b.toNat⟩

instance (a b : CodePoint) : Decidable (a < b) :=
  inferInstanceAs (Decidable (a.toNat < b.toNat))

instance (a b : CodePoint) : Decidable (a ≤ b) :=
  inferInstanceAs (Decidable (a.toNat ≤ b.toNat))

end CodePoint

end TestScaffold

/-- The code points of a string. -/
@[simp]
def String.toText (s : String) : List TestScaffold.CodePoint :=
  s.toList.map .char
