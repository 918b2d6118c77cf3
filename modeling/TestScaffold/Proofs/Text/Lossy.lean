import Mathlib.Tactic
import TestScaffold.Text.Utf8

/-!
Octets that are decoded with replacement.

* `Completes` says which octets end a sequence that has been begun, and with
  which character; they are the last bits of its number (`completes_iff`).
  `encodeChar_eq_cons_iff`: these are the octets that the character is written as,
  and no others.
* `decodeLossyFrom_append`: an octet that goes on with no sequence is decoded
  apart from what is before it, so **decoding always finds back**.
* `decodeLossy_cons`: decoding takes one octet and some that go on with it, for a
  replacement or for the character that they are written as.
* `infix_decodeLossy_iff`: **a text without the replacement occurs in what is
  decoded exactly if it consists of characters and its octets occur in what is
  read.**
-/

namespace TestScaffold.Utf8

variable {b : UInt8} {bs cs : List UInt8} {c : Char} {s t : Text} {u : Unfinished} {n : ℕ}

/-! ### Characters in octets -/

/-- The octet that goes on with the last six bits of a number. -/
def tail (n : ℕ) : UInt8 := .ofNat (n % 64 + 0x80)

@[simp] lemma toNat_tail (n : ℕ) : (tail n).toNat = n % 64 + 0x80 := by
  rw [tail, UInt8.toNat_ofNat']
  omega

/-- The octets that go on with the last bits of a number, six bits for each. -/
def tails : ℕ → ℕ → List UInt8
  | 0, _ => []
  | k + 1, n => tail (n / 64 ^ k) :: tails k n

lemma eq_tail (h : b.toNat = n % 64 + 0x80) : b = tail n :=
  UInt8.toNat_inj.mp (by rw [h, toNat_tail])

lemma eq_ofNat (h : b.toNat = n) : b = .ofNat n := by
  rw [← h, UInt8.ofNat_toNat]

lemma toNat_ofNat (h : n.isValidChar) : (Char.ofNat n).toNat = n := by
  rw [Char.ofNat, dif_pos h]
  rfl

/-- The code of a character by its length: this and the next three lemmas have one octet
to four. -/
lemma encodeChar_one (h : n < 0x80) : String.utf8EncodeChar (Char.ofNat n) = [.ofNat n] := by
  have hval : (Char.ofNat n).val.toNat = n := toNat_ofNat (.inl (by omega))
  simp only [String.utf8EncodeChar, hval]
  rw [if_pos (by omega)]

lemma encodeChar_two (h : 0x80 ≤ n) (h' : n < 0x800) :
    String.utf8EncodeChar (Char.ofNat n) = .ofNat (n / 64 + 0xC0) :: tails 1 n := by
  have hval : (Char.ofNat n).val.toNat = n := toNat_ofNat (.inl (by omega))
  simp only [String.utf8EncodeChar, hval]
  rw [if_neg (by omega), if_pos (by omega), Nat.mod_eq_of_lt (a := n / 64) (by omega)]
  simp [tails, tail]

lemma encodeChar_three (h : 0x800 ≤ n) (h' : n < 0x10000) (hvalid : n.isValidChar) :
    String.utf8EncodeChar (Char.ofNat n) = .ofNat (n / 4096 + 0xE0) :: tails 2 n := by
  have hval : (Char.ofNat n).val.toNat = n := toNat_ofNat hvalid
  simp only [String.utf8EncodeChar, hval]
  rw [if_neg (by omega), if_neg (by omega), if_pos (by omega),
    Nat.mod_eq_of_lt (a := n / 4096) (by omega)]
  simp [tails, tail]

lemma encodeChar_four (h : 0x10000 ≤ n) (h' : n < 0x110000) :
    String.utf8EncodeChar (Char.ofNat n) = .ofNat (n / 262144 + 0xF0) :: tails 3 n := by
  have hval : (Char.ofNat n).val.toNat = n := toNat_ofNat (.inr ⟨by omega, h'⟩)
  simp only [String.utf8EncodeChar, hval]
  rw [if_neg (by omega), if_neg (by omega), if_neg (by omega),
    Nat.mod_eq_of_lt (a := n / 262144) (by omega)]
  simp [tails, tail]

/-! ### Sequences -/

/-- The octets end a sequence that has been begun, and it is the character. -/
inductive Completes : Unfinished → List UInt8 → Char → Prop
  | last {u : Unfinished} {b : UInt8} (hb : u.accepts b = true) (hafter : u.after = 0) :
      Completes u [b] (Char.ofNat (u.bitsWith b))
  | more {u : Unfinished} {b : UInt8} {bs : List UInt8} {c : Char} (hb : u.accepts b = true)
      (hafter : u.after ≠ 0) (hbs : Completes (u.extend b) bs c) : Completes u (b :: bs) c

/-- A sequence that lacks one octet is completed by an octet that it accepts. -/
lemma completes_last (h : u.after = 0) :
    Completes u bs c ↔ ∃ b, u.accepts b = true ∧ bs = [b] ∧ c = Char.ofNat (u.bitsWith b) := by
  constructor
  · intro hbs
    cases hbs with
    | last hb hafter => exact ⟨_, hb, rfl, rfl⟩
    | more hb hafter hbs => exact absurd h hafter
  · rintro ⟨b, hb, hbs, hc⟩
    rw [hbs, hc]
    exact .last hb h

/-- A sequence that lacks more goes on with such an octet, and is completed by the rest.
-/
lemma completes_more (h : u.after ≠ 0) :
    Completes u bs c ↔ ∃ b cs, u.accepts b = true ∧ bs = b :: cs ∧ Completes (u.extend b) cs c := by
  constructor
  · intro hbs
    cases hbs with
    | last hb hafter => exact absurd hafter h
    | more hb hafter hbs => exact ⟨_, _, hb, rfl, hbs⟩
  · rintro ⟨b, cs, hb, rfl, hcs⟩
    exact .more hb h hcs

lemma accepts_iff : u.accepts b = true ↔ u.lo.toNat ≤ b.toNat ∧ b.toNat ≤ u.hi.toNat := by
  simp [Unfinished.accepts, UInt8.le_iff_toNat_le]

@[simp] lemma extend_after (u : Unfinished) (b : UInt8) : (u.extend b).after = u.after - 1 := rfl

@[simp] lemma extend_lo (u : Unfinished) (b : UInt8) : (u.extend b).lo.toNat = 0x80 := rfl

@[simp] lemma extend_hi (u : Unfinished) (b : UInt8) : (u.extend b).hi.toNat = 0xBF := rfl

@[simp] lemma extend_bits (u : Unfinished) (b : UInt8) :
    (u.extend b).bits = u.bits * 64 + (b.toNat - 0x80) := rfl

lemma bitsWith_eq (u : Unfinished) (b : UInt8) :
    u.bitsWith b = u.bits * 64 + (b.toNat - 0x80) := rfl

/-- The octets that begin a sequence of two, three or four, and what may come
second. -/
lemma opens_cases (h : Lead.ofOctet b = .opens u) :
    (0xC2 ≤ b.toNat ∧ b.toNat < 0xE0 ∧ u.after = 0 ∧ u.bits + 0xC0 = b.toNat ∧
        u.lo.toNat = 0x80 ∧ u.hi.toNat = 0xBF) ∨
      (0xE0 ≤ b.toNat ∧ b.toNat < 0xF0 ∧ u.after = 1 ∧ u.bits + 0xE0 = b.toNat ∧
        (b.toNat = 0xE0 ∧ u.lo.toNat = 0xA0 ∨ b.toNat ≠ 0xE0 ∧ u.lo.toNat = 0x80) ∧
        (b.toNat = 0xED ∧ u.hi.toNat = 0x9F ∨ b.toNat ≠ 0xED ∧ u.hi.toNat = 0xBF)) ∨
      (0xF0 ≤ b.toNat ∧ b.toNat < 0xF5 ∧ u.after = 2 ∧ u.bits + 0xF0 = b.toNat ∧
        (b.toNat = 0xF0 ∧ u.lo.toNat = 0x90 ∨ b.toNat ≠ 0xF0 ∧ u.lo.toNat = 0x80) ∧
        (b.toNat = 0xF4 ∧ u.hi.toNat = 0x8F ∨ b.toNat ≠ 0xF4 ∧ u.hi.toNat = 0xBF)) := by
  have hchoice : ∀ (n : ℕ) (x y : UInt8),
      b.toNat = n ∧ (if b.toNat = n then x else y).toNat = x.toNat ∨
        b.toNat ≠ n ∧ (if b.toNat = n then x else y).toNat = y.toNat := fun n x y => by
    by_cases hn : b.toNat = n <;> simp [hn]
  rw [Lead.ofOctet] at h
  split at h
  · cases h
  split at h
  · cases h
  split at h
  · obtain rfl := Lead.opens.inj h
    exact .inl ⟨by omega, by omega, rfl, Nat.sub_add_cancel (by omega), rfl, rfl⟩
  split at h
  · obtain rfl := Lead.opens.inj h
    exact .inr (.inl ⟨by omega, by omega, rfl, Nat.sub_add_cancel (by omega),
      hchoice _ _ _, hchoice _ _ _⟩)
  split at h
  · obtain rfl := Lead.opens.inj h
    exact .inr (.inr ⟨by omega, by omega, rfl, Nat.sub_add_cancel (by omega),
      hchoice _ _ _, hchoice _ _ _⟩)
  · cases h

/-- These are the octets that open a sequence; the others below them would open one that
is too long for its character. -/
lemma exists_opens (hlow : 0xC2 ≤ b.toNat) (hhigh : b.toNat < 0xF5) :
    ∃ u, Lead.ofOctet b = .opens u := by
  simp only [Lead.ofOctet]
  rw [if_neg (by omega), if_neg (by omega)]
  split
  · exact ⟨_, rfl⟩
  split
  · exact ⟨_, rfl⟩
  · exact ⟨_, rfl⟩

/-! ### Going on -/

/-- The octet goes on with a sequence, and begins none. -/
def GoesOn (b : UInt8) : Prop := 0x80 ≤ b.toNat ∧ b.toNat ≤ 0xBF

/-- What the state accepts, if anything is pending, goes on with a sequence. -/
def Narrow (u? : Option Unfinished) : Prop := ∀ u ∈ u?, ∀ b, u.accepts b = true → GoesOn b

lemma narrow_none : Narrow none := by
  simp [Narrow]

lemma narrow_extend (u : Unfinished) (b : UInt8) : Narrow (some (u.extend b)) := by
  intro v hv d hd
  obtain rfl := Option.some.inj hv
  rwa [accepts_iff, extend_lo, extend_hi] at hd

lemma narrow_of_opens (h : Lead.ofOctet b = .opens u) : Narrow (some u) := by
  intro v hv d hd
  obtain rfl := Option.some.inj hv
  rw [accepts_iff] at hd
  rw [GoesOn]
  rcases opens_cases h with h | h | h <;> omega

lemma accepts_tail (hlo : u.lo.toNat = 0x80) (hhi : u.hi.toNat = 0xBF) (n : ℕ) :
    u.accepts (tail n) = true := by
  rw [accepts_iff, toNat_tail]
  omega

/-- **The octets that end a sequence** go on with the last bits of a number, whose first bits
are those of the sequence; only the first octet may be refused. -/
lemma completes_iff (hu : Narrow (some u)) : Completes u bs c ↔
    ∃ n, n / 64 ^ (u.after + 1) = u.bits ∧ u.accepts (tail (n / 64 ^ u.after)) = true ∧
      bs = tails (u.after + 1) n ∧ c = Char.ofNat n := by
  induction hk : u.after generalizing u bs with
  | zero =>
      rw [completes_last hk]
      simp only [tails, pow_zero, Nat.div_one, zero_add, pow_one]
      -- the octet and the bits of the number that it stands for determine each other
      constructor
      · rintro ⟨b, hb, rfl, hc⟩
        obtain ⟨hlow, hhigh⟩ := hu u rfl b hb
        have hn := bitsWith_eq u b
        have htail : tail (u.bitsWith b) = b := (eq_tail (by omega)).symm
        refine ⟨u.bitsWith b, by omega, ?_, by rw [htail], hc⟩
        rw [htail]
        exact hb
      · rintro ⟨n, hbits, haccepts, rfl, hc⟩
        have hn : u.bitsWith (tail n) = n := by
          rw [bitsWith_eq, toNat_tail]
          omega
        exact ⟨tail n, haccepts, rfl, by rw [hn, hc]⟩
  | succ k ih =>
      rw [completes_more (by omega)]
      have hnext : ∀ b : UInt8, (u.extend b).after = k := fun b => by
        rw [extend_after, hk, Nat.add_sub_cancel]
      have hdiv : ∀ n : ℕ, n / 64 ^ (k + 1 + 1) = n / 64 ^ (k + 1) / 64 := fun n => by
        rw [pow_succ _ (k + 1), Nat.div_div_eq_div_mul]
      simp only [ih (narrow_extend u _) (hnext _), extend_bits, hdiv]
      constructor
      · rintro ⟨b, cs, hb, rfl, n, hbits, -, rfl, rfl⟩
        obtain ⟨hlow, hhigh⟩ := hu u rfl b hb
        have htail : tail (n / 64 ^ (k + 1)) = b := (eq_tail (by omega)).symm
        have hcons : tails (k + 1 + 1) n = b :: tails (k + 1) n := by
          rw [← htail]
          rfl
        exact ⟨n, by omega, by rwa [htail], hcons.symm, rfl⟩
      · rintro ⟨n, hbits, haccepts, rfl, rfl⟩
        refine ⟨_, _, haccepts, rfl, n, ?_, accepts_tail rfl rfl _, rfl, rfl⟩
        rw [toNat_tail]
        omega

/-- A sequence that is ended is what its character is written as. -/
lemma encodeChar_of_completes (h : Lead.ofOctet b = .opens u) (hbs : Completes u bs c) :
    String.utf8EncodeChar c = b :: bs := by
  obtain ⟨n, hn, haccepts, rfl, rfl⟩ := (completes_iff (narrow_of_opens h)).mp hbs
  rw [accepts_iff, toNat_tail] at haccepts
  rcases opens_cases h with ⟨hlow, hhigh, hafter, hbits, hlo, hhi⟩ |
    ⟨hlow, hhigh, hafter, hbits, hlo, hhi⟩ | ⟨hlow, hhigh, hafter, hbits, hlo, hhi⟩
  · simp only [hafter] at hn haccepts ⊢
    rw [encodeChar_two (by omega) (by omega), ← eq_ofNat (b := b) (by omega)]
  · simp only [hafter] at hn haccepts ⊢
    have hvalid : n.isValidChar := by
      by_cases hhalf : b.toNat < 0xEE
      · exact .inl (by omega)
      · exact .inr ⟨by omega, by omega⟩
    rw [encodeChar_three (by omega) (by omega) hvalid, ← eq_ofNat (b := b) (by omega)]
  · simp only [hafter] at hn haccepts ⊢
    rw [encodeChar_four (by omega) (by omega), ← eq_ofNat (b := b) (by omega)]

/-- If an octet begins a sequence with the first bits of a number, the last bits end it. -/
lemma exists_completes {k : ℕ} (hlow : 0xC2 ≤ b.toNat) (hhigh : b.toNat < 0xF5)
    (h : ∀ u, Lead.ofOctet b = .opens u → u.after = k ∧ n / 64 ^ (k + 1) = u.bits ∧
      u.accepts (tail (n / 64 ^ k)) = true) :
    ∃ u, Lead.ofOctet b = .opens u ∧ Completes u (tails (k + 1) n) (Char.ofNat n) := by
  obtain ⟨u, hu⟩ := exists_opens hlow hhigh
  obtain ⟨rfl, hbits, haccepts⟩ := h u hu
  exact ⟨u, hu, (completes_iff (narrow_of_opens hu)).mpr ⟨n, hbits, haccepts, rfl, rfl⟩⟩

/-- The octets that a character is written as begin a sequence and end it. -/
lemma completes_of_encodeChar (h : String.utf8EncodeChar (Char.ofNat n) = b :: bs) (hn : 0x80 ≤ n)
    (hvalid : n.isValidChar) :
    ∃ u, Lead.ofOctet b = .opens u ∧ Completes u bs (Char.ofNat n) := by
  have hmax : n < 0x110000 := by
    rcases hvalid with hvalid | ⟨-, hvalid⟩ <;> omega
  have hlead : ∀ lead < 0x100, UInt8.ofNat lead = b → b.toNat = lead := by
    rintro lead hlt rfl
    rw [UInt8.toNat_ofNat']
    omega
  by_cases htwo : n < 0x800
  · obtain ⟨hb, rfl⟩ := List.cons.inj ((encodeChar_two hn htwo).symm.trans h)
    have hb := hlead _ (by omega) hb
    refine exists_completes (by omega) (by omega) fun u hu => ?_
    rw [accepts_iff, toNat_tail]
    rcases opens_cases hu with h | h | h <;> omega
  by_cases hthree : n < 0x10000
  · obtain ⟨hb, rfl⟩ := List.cons.inj ((encodeChar_three (by omega) hthree hvalid).symm.trans h)
    have hb := hlead _ (by omega) hb
    refine exists_completes (by omega) (by omega) fun u hu => ?_
    rw [accepts_iff, toNat_tail]
    rcases opens_cases hu with h | h | h
    · omega
    · rcases hvalid with hvalid | ⟨hvalid, -⟩ <;> omega
    · omega
  · obtain ⟨hb, rfl⟩ := List.cons.inj ((encodeChar_four (by omega) hmax).symm.trans h)
    have hb := hlead _ (by omega) hb
    refine exists_completes (by omega) (by omega) fun u hu => ?_
    rw [accepts_iff, toNat_tail]
    rcases opens_cases hu with h | h | h <;> omega

/-- **A character is written as the octets that are read as it**: one octet by itself, or
one that begins a sequence with those that end it. -/
theorem encodeChar_eq_cons_iff : String.utf8EncodeChar c = b :: bs ↔
    (Lead.ofOctet b = .whole c ∧ bs = []) ∨ ∃ u, Lead.ofOctet b = .opens u ∧ Completes u bs c := by
  constructor
  · intro h
    have hself := Char.ofNat_toNat c
    rw [← hself] at h ⊢
    by_cases hone : c.toNat < 0x80
    · rw [encodeChar_one hone] at h
      obtain ⟨hb, rfl⟩ := List.cons.inj h
      have hlead : b.toNat = c.toNat := by
        rw [← hb, UInt8.toNat_ofNat']
        omega
      refine .inl ⟨?_, rfl⟩
      rw [← hlead] at hone ⊢
      exact if_pos hone
    · exact .inr (completes_of_encodeChar h (by omega) c.valid)
  · rintro (⟨hb, rfl⟩ | ⟨u, hb, hbs⟩)
    · rw [Lead.ofOctet] at hb
      split at hb
      · next hone =>
          obtain rfl := Lead.whole.inj hb
          rw [encodeChar_one hone, ← eq_ofNat rfl]
      · split_ifs at hb
    · exact encodeChar_of_completes hb hbs

/-! ### Finding back -/

lemma narrow_beginLossy (b : UInt8) : Narrow (beginLossy b).2 := by
  unfold beginLossy
  split
  · exact narrow_none
  · next h => exact narrow_of_opens h
  · exact narrow_none

/-- Whatever comes, what is unfinished is narrow: after the first octet only the full
range is accepted. -/
lemma narrow_feedLossy (u? : Option Unfinished) (b : UInt8) : Narrow (feedLossy u? b).2 := by
  cases u? with
  | none => exact narrow_beginLossy b
  | some u =>
      rw [feedLossy]
      split_ifs
      · exact narrow_none
      · exact narrow_extend u b
      · exact narrow_beginLossy b

variable {u? : Option Unfinished}

/-- **Decoding finds back**: an octet that goes on with no sequence is decoded apart from what
is before it. -/
theorem decodeLossyFrom_append (hb : ¬GoesOn b) (hu : Narrow u?) (bs cs : List UInt8) :
    decodeLossyFrom u? (bs ++ b :: cs) = decodeLossyFrom u? bs ++ decodeLossy (b :: cs) := by
  induction bs generalizing u? with
  | nil =>
      cases u? with
      | none => rfl
      | some u =>
          have hrefused : u.accepts b = false := by
            rw [← Bool.not_eq_true]
            exact fun h => hb (hu u rfl b h)
          simp [decodeLossyFrom, decodeLossy, feedLossy, hrefused]
  | cons d bs ih =>
      rw [List.cons_append, decodeLossyFrom, decodeLossyFrom, ih (narrow_feedLossy u? d),
        List.append_assoc]

/-- The octets that end a sequence are decoded to its character. -/
lemma decodeLossyFrom_of_completes (h : Completes u bs c) (cs : List UInt8) :
    decodeLossyFrom (some u) (bs ++ cs) = char c :: decodeLossy cs := by
  induction h with
  | last hb hafter => simp [decodeLossyFrom, feedLossy, hb, hafter, decodeLossy]
  | more hb hafter hbs ih =>
      rw [List.cons_append, decodeLossyFrom]
      simpa [feedLossy, hb, hafter] using ih

/-- A character that is written is read. -/
lemma decodeLossy_encodeChar (c : Char) (bs : List UInt8) :
    decodeLossy (String.utf8EncodeChar c ++ bs) = char c :: decodeLossy bs := by
  obtain ⟨b, ds, hchar⟩ := List.exists_cons_of_ne_nil (String.utf8EncodeChar_ne_nil (c := c))
  rw [hchar, List.cons_append, decodeLossy, decodeLossyFrom]
  rcases encodeChar_eq_cons_iff.mp hchar with ⟨hlead, rfl⟩ | ⟨u, hlead, hds⟩
  · simp [feedLossy, beginLossy, hlead, decodeLossy]
  · simpa [feedLossy, beginLossy, hlead] using decodeLossyFrom_of_completes hds bs

/-- Nothing is lost of what was encoded. -/
lemma decodeLossy_encode (hs : s.AllChars) (bs : List UInt8) :
    decodeLossy (encode s ++ bs) = s ++ decodeLossy bs := by
  induction s with
  | nil => rfl
  | cons p s ih =>
      obtain ⟨c, rfl⟩ := CodePoint.exists_char (hs p (by simp))
      have hcons : encode (char c :: s) = String.utf8EncodeChar c ++ encode s := rfl
      rw [hcons, List.append_assoc, decodeLossy_encodeChar, ih fun q hq => hs q (by simp [hq])]
      rfl

/-- The first octet of a text goes on with no sequence. -/
lemma exists_encode_cons (c : Char) (s : Text) :
    ∃ b bs, encode (char c :: s) = b :: bs ∧ ¬GoesOn b := by
  obtain ⟨b, ds, hchar⟩ := List.exists_cons_of_ne_nil (String.utf8EncodeChar_ne_nil (c := c))
  refine ⟨b, ds ++ encode s, by simp [encode, encodePoint, hchar], fun ⟨hlow, hhigh⟩ => ?_⟩
  rcases encodeChar_eq_cons_iff.mp hchar with ⟨hlead, -⟩ | ⟨u, hlead, -⟩
  · simp only [Lead.ofOctet] at hlead
    rw [if_neg (by omega), if_pos (by omega)] at hlead
    cases hlead
  · rcases opens_cases hlead with h | h | h <;> omega

/-- A text that is written is read, whatever is before it and after it. -/
lemma decodeLossy_append_encode (hs : s ≠ []) (hchars : s.AllChars) (front back : List UInt8) :
    decodeLossy (front ++ (encode s ++ back)) = decodeLossy front ++ (s ++ decodeLossy back) := by
  obtain ⟨p, s, rfl⟩ := List.exists_cons_of_ne_nil hs
  obtain ⟨c, rfl⟩ := CodePoint.exists_char (hchars p (by simp))
  obtain ⟨b, bs, hcons, hb⟩ := exists_encode_cons c s
  have happend := decodeLossyFrom_append hb narrow_none front (bs ++ back)
  rw [← List.cons_append, ← hcons, decodeLossy_encode hchars] at happend
  exact happend

/-! ### Decoding backwards -/

/-- What is pending ends in a replacement, or in a character with some of the octets. -/
lemma decodeLossyFrom_some (u : Unfinished) (bs : List UInt8) :
    ∃ chunk rest c, bs = chunk ++ rest ∧ decodeLossyFrom (some u) bs = char c :: decodeLossy rest ∧
      (char c = replacement ∨ Completes u chunk c) := by
  induction bs generalizing u with
  | nil => exact ⟨[], [], _, rfl, rfl, .inl rfl⟩
  | cons b bs ih =>
      by_cases hb : u.accepts b = true
      · by_cases hafter : u.after = 0
        · refine ⟨[b], bs, _, rfl, ?_, .inr (.last hb hafter)⟩
          simp [decodeLossyFrom, feedLossy, hb, hafter, decodeLossy]
        · obtain ⟨chunk, rest, c, rfl, hdecode, hc⟩ := ih (u.extend b)
          refine ⟨b :: chunk, rest, c, rfl, ?_, hc.imp_right (.more hb hafter)⟩
          simpa [decodeLossyFrom, feedLossy, hb, hafter] using hdecode
      · refine ⟨[], b :: bs, '\uFFFD', rfl, ?_, .inl rfl⟩
        simp [decodeLossyFrom, feedLossy, hb, decodeLossy, replacement]

/-- **What is decoded from the first octets**: a replacement, or the character that they are
written as. -/
theorem decodeLossy_cons (b : UInt8) (bs : List UInt8) :
    ∃ chunk rest c, bs = chunk ++ rest ∧ decodeLossy (b :: bs) = char c :: decodeLossy rest ∧
      (char c = replacement ∨ String.utf8EncodeChar c = b :: chunk) := by
  rw [decodeLossy, decodeLossyFrom, feedLossy, beginLossy]
  cases hlead : Lead.ofOctet b with
  | whole c => exact ⟨[], bs, c, rfl, rfl, .inr (encodeChar_eq_cons_iff.mpr (.inl ⟨hlead, rfl⟩))⟩
  | opens u =>
      obtain ⟨chunk, rest, c, rfl, hdecode, hc⟩ := decodeLossyFrom_some u bs
      refine ⟨chunk, rest, c, rfl, hdecode, hc.imp_right fun hchunk => ?_⟩
      exact encodeChar_eq_cons_iff.mpr (.inr ⟨u, hlead, hchunk⟩)
  | wrong => exact ⟨[], bs, _, rfl, rfl, .inl rfl⟩

/-- A text without the sign for what is lost stems from its own code. -/
lemma prefix_of_prefix_decodeLossy (hs : replacement ∉ s) (h : s <+: decodeLossy bs) :
    encode s <+: bs := by
  induction s generalizing bs with
  | nil => exact List.nil_prefix
  | cons c s ih =>
      cases bs with
      | nil => simp [decodeLossy, decodeLossyFrom] at h
      | cons b bs =>
          obtain ⟨chunk, rest, d, rfl, hdecode, hd⟩ := decodeLossy_cons b bs
          rw [hdecode, List.cons_prefix_cons] at h
          obtain ⟨rfl, h⟩ := h
          have hchar : String.utf8EncodeChar d = b :: chunk :=
            hd.resolve_left fun hc => hs (by simp [hc])
          obtain ⟨more, hmore⟩ := ih (fun hmem => hs (by simp [hmem])) h
          exact ⟨more, by simp [encode, encodePoint, hchar, ← hmore]⟩

/-- Octets are decoded to characters, whatever they are. -/
lemma allChars_decodeLossy (bs : List UInt8) : (decodeLossy bs).AllChars := by
  induction hlen : bs.length using Nat.strong_induction_on generalizing bs with
  | _ n ih =>
    cases bs with
    | nil => exact fun p hp => by simp [decodeLossy, decodeLossyFrom] at hp
    | cons b bs =>
        obtain ⟨chunk, rest, c, rfl, hdecode, -⟩ := decodeLossy_cons b bs
        have hshorter : rest.length < n := by
          rw [← hlen, List.length_cons, List.length_append]
          omega
        rw [hdecode]
        intro p hp
        rcases List.mem_cons.mp hp with rfl | hp
        · rfl
        · exact ih rest.length hshorter rest rfl p hp

/-- **A text without the replacement occurs in what is decoded exactly if it consists of
characters and its octets occur in what is read.** -/
theorem infix_decodeLossy_iff (hs : replacement ∉ s) :
    s <:+: decodeLossy bs ↔ s.AllChars ∧ encode s <:+: bs := by
  constructor
  · intro h
    refine ⟨fun p hp => allChars_decodeLossy bs p (h.subset hp), ?_⟩
    induction hlen : bs.length using Nat.strong_induction_on generalizing bs with
    | _ n ih =>
      cases bs with
      | nil =>
          obtain rfl : s = [] := by simpa [decodeLossy, decodeLossyFrom] using h
          exact List.nil_infix
      | cons b bs =>
          -- the next octets are read as one character; an occurrence begins with it or after it
          obtain ⟨chunk, rest, c, rfl, hdecode, hc⟩ := decodeLossy_cons b bs
          rw [hdecode, List.infix_cons_iff, ← hdecode] at h
          rcases h with h | h
          · exact (prefix_of_prefix_decodeLossy hs h).isInfix
          · have hshorter : rest.length < n := by
              rw [← hlen, List.length_cons, List.length_append]
              omega
            have hrest := ih rest.length hshorter h rfl
            exact hrest.trans ((List.suffix_append chunk rest).trans (List.suffix_cons b _)).isInfix
  · rintro ⟨hchars, front, back, rfl⟩
    rw [List.append_assoc]
    cases s with
    | nil => exact List.nil_infix
    | cons c s =>
        rw [decodeLossy_append_encode (List.cons_ne_nil c s) hchars]
        exact ⟨decodeLossy front, decodeLossy back, by simp⟩

end TestScaffold.Utf8
