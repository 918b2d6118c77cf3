import TestScaffold.Text.Utf8

/-!
Texts that cannot be written down.

In UTF-8 a half of a surrogate pair has no octets. Where the system is told a
path, though, a half that stands for a single octet is that octet.

* `Utf8.refusal?` is what is said about a text that is refused. It names the
  place of the first code point that is at fault, and of the halves that come
  right after it.
* An `Encoding` is one that an output is kept in, `Encoding.utf8` for example.
  All that is supposed of it is that it has the characters of ASCII.
* `Text.isPath` says which texts the system takes for paths.
-/

namespace TestScaffold

namespace Utf8

/-- What is said about halves in a row, the first one at the given place. -/
def refusalAt (place : Nat) (halves : Text) : Text :=
  "'utf-8' codec can't encode character".toText ++
    (match halves with
    | [c] =>
      " '\\u".toText ++ Text.hex 4 c.toNat ++ "' in position ".toText ++
        Text.ofNat place
    | _ =>
      "s in position ".toText ++ Text.ofNat place ++ [char '-'] ++
        Text.ofNat (place + halves.length - 1)) ++
    ": surrogates not allowed".toText

/-- What is said about a text with halves, if it has others than those that are
taken for octets. -/
def refusal? (taken : CodePoint → Bool) (s : Text) : Option Text :=
  (s.findIdx? fun c => c.isHalf && !taken c).map fun place =>
    refusalAt place ((s.drop place).takeWhile (·.isHalf))

/-- A text is taken if all halves in it are. -/
theorem refusal?_eq_none_iff {taken : CodePoint → Bool} {s : Text} :
    refusal? taken s = none ↔ ∀ c ∈ s, c.isHalf → taken c := by
  simp [refusal?, List.findIdx?_eq_none_iff]

end Utf8

/-- Whether a text has characters of ASCII only. -/
def Text.isAscii (s : Text) : Bool := s.all (·.toNat < 0x80)

/-- An encoding that an output is kept in. -/
structure Encoding where
  /-- What is said about a text that it does not have. -/
  refusal? : Text → Option Text
  /-- It has the characters of ASCII. -/
  ascii : ∀ s : Text, s.isAscii → refusal? s = none

namespace Encoding

/-- UTF-8, which has all characters and no halves. -/
def utf8 : Encoding where
  refusal? := Utf8.refusal? fun _ => false
  ascii s hs := Utf8.refusal?_eq_none_iff.mpr fun c hc hhalf => by
    cases c with
    | char c => cases hhalf
    | half n =>
      have hsmall : 0xD800 + n.val < 0x80 := of_decide_eq_true (List.all_eq_true.mp hs _ hc)
      omega

/-- An encoding for all that there is. -/
def all : Encoding := ⟨fun _ => none, fun _ _ => rfl⟩

/-- UTF-8 takes the texts without halves. -/
theorem refusal?_utf8_eq_none_iff {s : Text} : utf8.refusal? s = none ↔ Text.AllChars s := by
  refine Utf8.refusal?_eq_none_iff.trans (forall_congr' fun c => forall_congr' fun _ => ?_)
  cases c.isHalf <;> simp

end Encoding

/-! ### Paths -/

/-- Whether a code point can be in a path: all can but NUL and the halves that
stand for no octet. -/
def CodePoint.fitsPath (c : CodePoint) : Bool :=
  c ≠ char '\x00' && (!c.isHalf || c.isStray)

theorem CodePoint.ne_of_fitsPath {b c : CodePoint} (hb : b.fitsPath) (hc : ¬c.fitsPath) :
    c ≠ b := by
  rintro rfl
  exact hc hb

namespace Text

/-- Whether a text can be a path. -/
def isPath (s : Text) : Bool := s.all (·.fitsPath)

/-- A text can be a path if all of its code points can be in one. -/
theorem isPath_iff {s : Text} : isPath s ↔ ∀ c ∈ s, c.fitsPath := by
  simp [isPath]

@[simp] theorem isPath_nil : isPath [] := rfl

@[simp] theorem isPath_cons {c : CodePoint} {s : Text} :
    isPath (c :: s) ↔ c.fitsPath ∧ isPath s := by
  simp [isPath]

@[simp] theorem isPath_append {s t : Text} : isPath (s ++ t) ↔ isPath s ∧ isPath t := by
  simp [isPath]

/-- What has all its code points from a path can be a path. -/
theorem isPath_of_subset {s t : Text} (hs : isPath s) (h : t ⊆ s) : isPath t :=
  isPath_iff.mpr fun c hc => isPath_iff.mp hs c (h hc)

/-- A text can be a path if all code points that are in no path are not in it. -/
theorem isPath_of_notMem {s : Text} (h : ∀ c : CodePoint, ¬c.fitsPath → c ∉ s) : isPath s :=
  isPath_iff.mpr fun c hc => Decidable.byContradiction fun hno => h c hno hc

theorem notMem_of_isPath {s : Text} (h : isPath s) {c : CodePoint} (hc : ¬c.fitsPath) : c ∉ s :=
  fun hmem => hc (isPath_iff.mp h c hmem)

/-- What the system is told instead of a path. Octets are looked for first. -/
def pathRefusal? (s : Text) : Option Text := Utf8.refusal? (·.isStray) s

end Text

end TestScaffold
