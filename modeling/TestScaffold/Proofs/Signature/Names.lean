import TestScaffold.Proofs.Signature.Captures
import TestScaffold.Proofs.Text.Pieces
import TestScaffold.Proofs.Text.Runs

/-!
The names of parameters are a normal form.

* `nameOf` is the name in one piece of the parameters. Blanks before the piece make no
  difference to it (`nameOf_append`), and a name is its own name (`nameOf_of_plain`).
* `namesOf_join`: so the names of joined pieces are the names of the pieces, although all
  but the first have a blank before them.
* `pieces_parameterNames`: the joined names come apart into the names again. What comes
  apart into plain names is a text of names (`IsNames`), and those are the texts that
  `parameterNames` leaves as they are.
* `parameterNames_append_cons`: a comma parts the names before it from those after it.
-/

namespace TestScaffold

/-! ### The name in a piece -/

/-- The name in a piece between commas: its first word, without the colons. -/
def nameOf (piece : Text) : Text := (Text.firstWord piece).filter (· != char ':')

lemma namesOf_eq_map (parameters : Text) :
    namesOf parameters = (Text.fields (char ',') parameters).map nameOf := rfl

lemma nameOf_append {g : Text} (hg : ∀ c ∈ g, Text.isBlank c) (piece : Text) :
    nameOf (g ++ piece) = nameOf piece := by
  rw [nameOf, Text.firstWord, List.dropWhile_append_of_pos hg]
  rfl

/-- What may stand in a name: no blank, no comma and no colon. -/
def IsPlain (n : Text) : Prop := ∀ c ∈ n, Text.isBlank c = false ∧ c ≠ char ',' ∧ c ≠ char ':'

/-- A name is its own name. -/
lemma nameOf_of_plain {n : Text} (hn : IsPlain n) : nameOf n = n := by
  have hword : Text.firstWord n = n := by
    have hstart : Text.Stops Text.isBlank n := fun c hc => (hn c (List.mem_of_mem_head? hc)).1
    rw [Text.firstWord, Text.dropWhile_eq_self hstart, List.takeWhile_eq_self_iff]
    exact fun c hc => by simp [(hn c hc).1]
  rw [nameOf, hword, List.filter_eq_self]
  exact fun c hc => by simpa using (hn c hc).2.2

/-! ### The names in a text -/

lemma namesOf_ne_nil (parameters : Text) : namesOf parameters ≠ [] := by
  simp [namesOf_eq_map, Text.fields_ne_nil]

lemma length_namesOf (parameters : Text) :
    (namesOf parameters).length = parameters.count (char ',') + 1 := by
  rw [namesOf_eq_map, List.length_map, Text.length_fields]

/-- **The names of joined pieces are the names of the pieces.** -/
lemma namesOf_join {ts : List Text} (hne : ts ≠ []) (hts : ∀ t ∈ ts, char ',' ∉ t) :
    namesOf (Text.join [char ',', char ' '] ts) = ts.map nameOf := by
  obtain ⟨t, ts, rfl⟩ := List.exists_cons_of_ne_nil hne
  have hfields : Text.fields (char ',') (Text.join [char ',', char ' '] (t :: ts)) =
      t :: ts.map ([char ' '] ++ ·) :=
    Text.fields_join (by decide) (hts t (by simp)) fun u hu => hts u (by simp [hu])
  -- the blank of the separator goes to the piece after it, where it is no part of the name
  have hspace : ∀ c ∈ [char ' '], Text.isBlank c := List.forall_mem_singleton.mpr rfl
  have hother : nameOf ∘ ([char ' '] ++ ·) = nameOf := funext fun u => nameOf_append hspace u
  rw [namesOf_eq_map, hfields, List.map_cons, List.map_map, hother, List.map_cons]

lemma namesOf_append_cons (p q : Text) : namesOf (p ++ char ',' :: q) = namesOf p ++ namesOf q := by
  rw [namesOf_eq_map, Text.fields_append_cons, List.map_append]
  rfl

/-! ### Texts of names -/

/-- A text of names: its pieces hold nothing that could part a name from the next, or from
its type. -/
def IsNames (s : Text) : Prop := ∀ n ∈ Text.pieces (char ',') [char ' '] s, IsPlain n

/-- **The joined names come apart into the names.** -/
lemma pieces_parameterNames (p : Text) :
    Text.pieces (char ',') [char ' '] (parameterNames p) = namesOf p := by
  rw [parameterNames_eq_join]
  refine Text.pieces_join (by decide) (namesOf_ne_nil p) fun n hn hmem => ?_
  exact (plain_of_mem_namesOf hn hmem).2.1 rfl

lemma isNames_parameterNames (p : Text) : IsNames (parameterNames p) := by
  intro n hn
  rw [pieces_parameterNames] at hn
  exact fun c hc => plain_of_mem_namesOf hn hc

/-- A text of names is left as it is. -/
lemma IsNames.parameterNames_eq {s : Text} (hs : IsNames s) : parameterNames s = s := by
  have hne := Text.pieces_ne_nil (char ',') [char ' '] s
  have hplain : ∀ n ∈ Text.pieces (char ',') [char ' '] s, char ',' ∉ n := fun n hn hmem =>
    (hs n hn (char ',') hmem).2.1 rfl
  have hnames : (Text.pieces (char ',') [char ' '] s).map nameOf =
      Text.pieces (char ',') [char ' '] s :=
    (List.map_congr_left fun n hn => nameOf_of_plain (hs n hn)).trans (List.map_id' _)
  calc parameterNames s
      = Text.join [char ',', char ' ']
          (namesOf (Text.join [char ',', char ' '] (Text.pieces (char ',') [char ' '] s))) := by
        rw [Text.join_pieces, parameterNames_eq_join]
    _ = Text.join [char ',', char ' '] (Text.pieces (char ',') [char ' '] s) := by
        rw [namesOf_join hne hplain, hnames]
    _ = s := Text.join_pieces (char ',') [char ' '] s

/-- **A comma parts the names.** -/
lemma parameterNames_append_cons (p q : Text) :
    parameterNames (p ++ char ',' :: q) =
      parameterNames p ++ ([char ',', char ' '] ++ parameterNames q) := by
  rw [parameterNames_eq_join, namesOf_append_cons,
    Text.join_append (namesOf_ne_nil p) (namesOf_ne_nil q)]
  rfl

/-- **The names of parameters are a normal form.** They come apart into one name more than
there are commas, and no name holds a blank, a comma or a colon. The texts of such names are
those that are left as they are, so the names of names are the names. Parameters that are put
together with a comma have the names of both. -/
theorem parameterNames_normal (p q : Text) :
    (Text.pieces (char ',') [char ' '] (parameterNames p)).length = p.count (char ',') + 1 ∧
    IsNames (parameterNames p) ∧
    (parameterNames p = p ↔ IsNames p) ∧
    parameterNames (parameterNames p) = parameterNames p ∧
    parameterNames (p ++ char ',' :: q) =
      parameterNames p ++ ([char ',', char ' '] ++ parameterNames q) := by
  have hcount : (Text.pieces (char ',') [char ' '] (parameterNames p)).length =
      p.count (char ',') + 1 := by
    rw [pieces_parameterNames, length_namesOf]
  have hnames : IsNames (parameterNames p) := isNames_parameterNames p
  have hfixed : parameterNames p = p ↔ IsNames p :=
    ⟨fun h => h ▸ hnames, fun h => h.parameterNames_eq⟩
  exact ⟨hcount, hnames, hfixed, hnames.parameterNames_eq, parameterNames_append_cons p q⟩

/-- A piece of colons, one of blanks, and a comma in a type. -/
example : parameterNames "a :Int,b:Map<K, V>,::,\u2003, vararg items".toText =
    "a, bMap<K, V>, , , vararg".toText := by decide

end TestScaffold
