import FormDialogue.Choice.Asked

/-! # Asking for a style

A value whose equality is lawful equals at most one style, and has the hash of what it equals. For
such a value the dispatch and the vocabulary lead to the same style, although one goes through the
styles by equality and the other looks the value up. -/

namespace FormDialogue.Choice
open Record (Style)

/-- Cases in a dispatch and members of the vocabulary: no style is left out. -/
theorem Askable.mem_cases (style : Style) : style ∈ cases := by cases style <;> decide

theorem mem_styles (style : Style) : style ∈ Style.all := by cases style <;> decide

theorem name_inj {s t : Style} : s.name = t.name ↔ s = t := by
  cases s <;> cases t <;> decide

/-- Where at most one style fits, it is found wherever it stands. -/
theorem find?_eq_some_iff {p : Style → Bool} {styles : List Style} {style : Style}
    (hmem : ∀ s, s ∈ styles) (hunique : ∀ s t, p s = true → p t = true → s = t) :
    styles.find? p = some style ↔ p style = true := by
  constructor
  · exact List.find?_some
  · intro hstyle
    cases hfound : styles.find? p with
    | none => exact absurd hstyle (List.find?_eq_none.1 hfound style (hmem style))
    | some found => rw [hunique found style (List.find?_some hfound) hstyle]

namespace Askable
variable {α : Type} [Askable α] {asked : α} {style : Style}

/-- What is relied on about a value: it equals whatever style it is, it equals a style exactly if it
equals its name, it does not equal two of them, and values that are equal have the same hash. -/
structure Lawful (asked : α) : Prop where
  own : ∀ style, own asked = some style → equals asked style = true
  spells : ∀ style, spells asked style = equals asked style
  unique : ∀ s t, equals asked s = true → equals asked t = true → s = t
  hashed : ∀ sameHash style, hashed asked = some sameHash → equals asked style = true →
    sameHash style = true

theorem member?_eq_some_iff (h : Lawful asked) :
    member? asked = some style ↔ equals asked style = true := by
  rw [member?]
  cases hown : own asked with
  | some found =>
    have hfound := h.own found hown
    exact ⟨fun heq => Option.some.inj heq ▸ hfound, fun hstyle => by rw [h.unique _ _ hfound hstyle]⟩
  | none =>
    cases hhash : hashed asked with
    | none =>
      dsimp only
      rw [funext h.spells]
      exact find?_eq_some_iff mem_styles h.unique
    | some sameHash =>
      -- No style that the value equals is passed over for its hash.
      have hsame : (fun s => sameHash s && spells asked s) = equals asked := by
        funext s
        rw [h.spells]
        cases hs : equals asked s with
        | false => rw [Bool.and_false]
        | true => rw [h.hashed sameHash s hhash hs, Bool.and_true]
      dsimp only
      rw [hsame]
      exact find?_eq_some_iff mem_styles h.unique

theorem find?_cases_eq_some_iff (h : Lawful asked) :
    cases.find? (equals asked) = some style ↔ equals asked style = true :=
  find?_eq_some_iff mem_cases h.unique

/-- The dispatch and the vocabulary give the same style, or say the same about the value. -/
theorem styleOf_eq_dispatched (h : Lawful asked) : styleOf asked = dispatched asked := by
  have hsame : member? asked = cases.find? (equals asked) :=
    Option.ext fun style => (member?_eq_some_iff h).trans (find?_cases_eq_some_iff h).symm
  rw [styleOf, dispatched, hsame]

theorem styleOf_eq_ok_iff (h : Lawful asked) :
    styleOf asked = .ok style ↔ equals asked style = true := by
  rw [← member?_eq_some_iff h, styleOf]
  cases member? asked <;> simp

/-- Plain data are compared by what they are. -/
theorem lawful_datum [Limits] (d : Datum) : Lawful d where
  own := by
    intro style hown
    match d, hown with
    | .member (.style _), rfl => exact beq_self_eq_true _
  spells _ := rfl
  unique := by
    intro s t hs ht
    exact name_inj.1 (Option.some.inj ((eq_of_beq hs).symm.trans (eq_of_beq ht)))
  hashed := by
    intro sameHash style hhash hequals
    simp only [hashed] at hhash
    split at hhash
    all_goals cases hhash
    exact hequals

theorem equals_datum_iff [Limits] {d : Datum} :
    equals d style = true ↔ d.asText? = some style.name := beq_iff_eq

end Askable

/-- A style is asked for among data by its name. -/
theorem styleOf_eq_ok_iff [Limits] {asked : Datum} {style : Style} :
    styleOf asked = .ok style ↔ asked.asText? = some style.name :=
  (Askable.styleOf_eq_ok_iff (Askable.lawful_datum asked)).trans Askable.equals_datum_iff

end FormDialogue.Choice
