import Mathlib.Tactic
import TestScaffold.Proofs.Text.Octets
import TestScaffold.Yaml.Value

/-!
Files that are no text.

* `fetch_undecodable` and `fetch_unfinished`: an ill-formed sequence is met when
  its octets are fetched, or at the end of the file if it is cut off there.
* `Document.read_undecodable`: **a file of at most a page that is no text has no
  value**, whatever its characters before are. In a longer file what the first
  pages hold may be at fault before.
-/

namespace TestScaffold

namespace Text

lemma length_unifyBreaks_le (s : Text) : (unifyBreaks s).length ≤ s.length := by
  fun_induction unifyBreaks s with
  | case1 => simp
  | case2 s ih =>
      simp only [List.length_cons]
      omega
  | case3 c s _ ih =>
      simp only [List.length_cons]
      omega

end Text

namespace Yaml

namespace Reader

variable {r r' : Reader} {bs : List UInt8} {s : Text} {u : Utf8.Unfinished} {f : Utf8.Fault}
  {wanted fuel : ℕ}

lemma take_chunk (hlen : bs.length ≤ chunkSize) (k : ℕ) : bs.take (max chunkSize k) = bs :=
  List.take_of_length_le (le_max_of_le_left hlen)

/-- An ill-formed sequence is met when its octets are fetched. -/
lemma fetch_undecodable (hlen : bs.length ≤ chunkSize)
    (h : Utf8.decodeFrom 0 none bs = .error f) : (start bs).fetch wanted = .error f := by
  simp [fetch, start, take_chunk hlen, h, bind, Except.bind]

/-- A sequence that the end cuts off is kept, and makes no character. -/
lemma fetch_unfinished (wanted : ℕ) (hlen : bs.length ≤ chunkSize)
    (h : Utf8.decodeFrom 0 none bs = .ok (s, some u)) :
    ∃ r, (start bs).fetch wanted = .ok r ∧ r.rest = [] ∧
      Utf8.decodeFrom 0 none r.held = .ok ([], some u) ∧ r.ready.length < bs.length := by
  obtain ⟨front, back, happend, hback, hheld⟩ := Utf8.exists_held h
  have hne : bs ≠ [] := by
    rintro rfl
    cases h
  have hpos : back ≠ [] := by
    rintro rfl
    cases hheld
  have hdrop : bs.drop (bs.length - u.taken) = back := by
    rw [Utf8.held_some] at hback
    rw [happend, ← hback, List.length_append, Nat.add_sub_cancel, List.drop_left]
  -- a carriage return at the end is held back too, as a line feed may follow
  let heldReturn : Bool := if s = [] then false else s.getLast? = some (char '\r')
  let ready := Text.unifyBreaks (if heldReturn then s.dropLast else s)
  -- each character has an octet at least, and the sequence that is kept has one too
  have hready : ready.length < bs.length := by
    have hbreaks : ready.length ≤ s.length := by
      refine (Text.length_unifyBreaks_le _).trans ?_
      split
      · exact (List.dropLast_sublist s).length_le
      · exact le_rfl
    have hchars := Utf8.length_decodeFrom_le h
    have hkept := List.length_pos_of_ne_nil hpos
    rw [← hback, Utf8.held_none] at hchars
    omega
  refine ⟨⟨[], back, heldReturn, ready, if ready = [] then 1 else bs.length,
    max ready.length 1⟩, ?_, rfl, hheld, hready⟩
  simp [fetch, start, take_chunk hlen, h, bind, Except.bind, pure, Except.pure, hne, hdrop, ready,
    heldReturn]

/-- At the end nothing may be kept. -/
lemma fetch_at_end (hrest : r.rest = []) (h : Utf8.decodeFrom 0 none r.held = .ok ([], some u)) :
    r.fetch wanted = .error u.fault := by
  simp [fetch, hrest, h, bind, Except.bind]

lemma fill_of_fetch_eq_error (hready : r.ready.length < pageSize)
    (h : r.fetch (pageSize - r.ready.length) = .error f) : r.fill (fuel + 1) = .error f := by
  rw [fill, if_neg (by omega), h]
  rfl

lemma fill_of_fetch_eq_ok (hready : r.ready.length < pageSize) (hrest : r.rest ≠ [])
    (h : r.fetch (pageSize - r.ready.length) = .ok r') : r.fill (fuel + 1) = r'.fill fuel := by
  rw [fill, if_neg (by omega), h]
  simp [bind, Except.bind, hrest]

/-- There is no first page of a short file that is no text. -/
lemma page_undecodable (hlen : bs.length ≤ pageSize) (h : Utf8.decode bs = .error f) :
    (start bs).page = .error f := by
  have hchunk : bs.length ≤ chunkSize := hlen.trans (by decide)
  have hstart : (start bs).ready.length < pageSize := Nat.zero_lt_succ _
  have hfill : (start bs).fill (bs.length + 3) = .error f := by
    rw [Utf8.decode] at h
    split at h
    · next hdecode =>
        obtain rfl := Except.error.inj h
        exact fill_of_fetch_eq_error hstart (fetch_undecodable hchunk hdecode)
    · cases h
    · next s u hdecode =>
        obtain rfl := Except.error.inj h
        obtain ⟨r, hfetch, hrest, hheld, hready⟩ := fetch_unfinished pageSize hchunk hdecode
        have hne : bs ≠ [] := by
          rintro rfl
          cases hdecode
        rw [fill_of_fetch_eq_ok hstart hne hfetch]
        exact fill_of_fetch_eq_error (hready.trans_le hlen) (fetch_at_end hrest hheld)
  change (start bs).fill (bs.length + 3) >>= _ = _
  rw [hfill]
  rfl

end Reader

/-- **A file of at most a page that is no text has no value.** -/
theorem Document.read_undecodable {bs : List UInt8} {f : Utf8.Fault}
    (hlen : bs.length ≤ Reader.pageSize) (h : Utf8.decode bs = .error f) :
    Document.read (.ofOctets bs) = .error (.undecodable f) := by
  have hpages : (Reader.start bs).pages (bs.length + 1) = ([], some f) := by
    rw [Reader.pages, Reader.page_undecodable hlen h]
  have hsource : Source.ofOctets bs = ⟨[], some (.undecodable f)⟩ := by
    rw [Source.ofOctets, hpages]
    rfl
  rw [hsource]
  rfl

end Yaml

end TestScaffold
