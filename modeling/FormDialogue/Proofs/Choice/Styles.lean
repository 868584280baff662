import FormDialogue.Proofs.Choice.AskedStyles
import FormDialogue.Proofs.Choice.Rendering

/-! # Laws of the styles

Choices are rendered in a style, which is asked for or is the one of the options. Automatic text is
one of two other styles, as the number of choices says; text in one line has the same failures as
the text without parentheses, and otherwise is this text in them; the styles that leave the layout
to the channel are all alike. In every style the case of choices comes first and only once. -/

namespace FormDialogue.Choice
open Number (Extended Numeral)
open Record (Options Style)
variable {style : Style} {threshold : Threshold} {o : Options}

/-! ## Asking for a style -/

section
variable {α : Type} [Askable α] {asked : α}

theorem renderChoices_asked (h : Askable.Lawful asked) (labels : List String) (o : Options)
    (threshold : Threshold) :
    renderChoices labels o (some asked) threshold = (do
      let style ← styleOf asked
      let q ← Renderer.create style threshold
      q.render labels o) := by
  rw [renderChoices, rendererFor, Askable.styleOf_eq_dispatched h]
  cases Askable.dispatched asked <;> rfl

/-- Asking for the style of the options is asking for none. -/
theorem renderChoices_own (h : Askable.Lawful asked) {o : Options}
    (hasked : Askable.equals asked o.choiceStyle = true) (labels : List String)
    (threshold : Threshold) :
    renderChoices labels o (some asked) threshold =
      renderChoices labels o none threshold := by
  rw [renderChoices_asked h, (Askable.styleOf_eq_ok_iff h).2 hasked]
  rfl

end

/-- The choices in a style that is asked for. -/
def renderIn (style : Style) (labels : List String) (o : Options) (threshold : Threshold) :
    Except Failure Rendering :=
  renderChoices labels o (some (.member (.style style))) threshold

theorem renderIn_eq (style : Style) (labels : List String) (o : Options) (threshold : Threshold) :
    renderIn style labels o threshold =
      Renderer.create style threshold >>= fun q => q.render labels o := by
  rw [renderIn, renderChoices_asked (Askable.lawful_datum _), styleOf_eq_ok_iff.2 rfl]
  rfl

/-- The threshold matters to automatic text only. -/
theorem renderIn_of_ne_autoText (hstyle : style ≠ .autoText) (labels : List String) (o : Options)
    (threshold : Threshold) :
    renderIn style labels o threshold =
      (Renderer.ofStyle style defaultThreshold).render labels o := by
  have hcreate : Renderer.create style threshold =
      .ok (Renderer.ofStyle style defaultThreshold) := by
    cases threshold with
    | number n => cases style <;> first | contradiction | rfl
    | other name => rw [Renderer.create, if_neg hstyle]
  rw [renderIn_eq, hcreate]
  rfl

/-! ## Whole thresholds -/

theorem below_int (a b : Int) : (Numeral.int a).below (.int b) = decide (a < b) := by
  have hle : Extended.le (.real b) (.real a) = decide (b ≤ a) :=
    decide_eq_decide.2 Rat.intCast_le_intCast
  change (!Extended.le (.real b) (.real a)) = _
  rw [hle, ← decide_not, decide_eq_decide, Int.not_le]

theorem atLeastOne_int (t : Int) : atLeastOne (.int t) = .int (max 1 t) := by
  rw [atLeastOne, below_int]
  by_cases h : 1 < t
  · rw [if_pos (decide_eq_true h), Int.max_eq_right (Int.le_of_lt h)]
  · rw [if_neg (by simpa using h), Int.max_eq_left (Int.not_lt.1 h)]

theorem below_atLeastOne (labels : List String) (t : Int) :
    (Numeral.int labels.length).below (atLeastOne (.int t)) =
      decide ((labels.length : Int) < max 1 t) := by
  rw [atLeastOne_int, below_int]

/-! ## Parentheses -/

theorem renderInline_of_ne_nil (parenthesize : Bool) {labels : List String} (hne : labels ≠ []) :
    renderInline parenthesize labels o =
      (joinItems .choiceSeparator .choiceLastSeparator o.choiceSeparator o.choiceLastSeparator
        (normalized labels o)).map fun joined =>
        if parenthesize && o.choiceParens != some false then "(" ++ joined ++ ")" else joined := by
  rw [renderInline, List.isEmpty_eq_false_iff.2 hne]
  cases joinItems .choiceSeparator .choiceLastSeparator o.choiceSeparator o.choiceLastSeparator
    (normalized labels o) <;> rfl

theorem renderInline_parenthesized (labels : List String) (o : Options) :
    renderInline true labels o =
      if labels = [] ∨ o.choiceParens = some false then renderInline false labels o
      else (renderInline false labels o).map fun s => "(" ++ s ++ ")" := by
  by_cases hempty : labels = []
  · rw [if_pos (.inl hempty), hempty]
    rfl
  · rw [renderInline_of_ne_nil true hempty, renderInline_of_ne_nil false hempty]
    by_cases hparens : o.choiceParens = some false
    · rw [if_pos (.inr hparens), hparens]
      rfl
    · rw [if_neg (not_or.2 ⟨hempty, hparens⟩)]
      cases joinItems .choiceSeparator .choiceLastSeparator o.choiceSeparator
        o.choiceLastSeparator (normalized labels o) with
      | error why => rfl
      | ok joined => simp [Except.map, hparens]

/-! ## The case of choices -/

theorem normalized_normalized (labels : List String) (o : Options) :
    normalized (normalized labels o) { o with choiceCase := .none } = normalized labels o := by
  have hnone : Text.normalize .none = id := funext Text.normalize_none
  rw [normalized, hnone, List.map_id]

theorem Renderer.render_normalized (r : Renderer) (labels : List String) (o : Options) :
    r.render (normalized labels o) { o with choiceCase := .none } = r.render labels o := by
  have hempty : (normalized labels o).isEmpty = labels.isEmpty := List.isEmpty_map
  have hlength : (normalized labels o).length = labels.length := List.length_map _
  have hinline : ∀ parenthesize,
      renderInline parenthesize (normalized labels o) { o with choiceCase := .none } =
        renderInline parenthesize labels o := by
    intro parenthesize
    rw [renderInline, renderInline, hempty, normalized_normalized]
  have hperLine : renderPerLine (normalized labels o) { o with choiceCase := .none } =
      renderPerLine labels o := by
    rw [renderPerLine, renderPerLine, hempty, normalized_normalized]
  cases r with
  | inline parenthesize => rw [render, render, hinline]
  | perLine => rw [render, render, hperLine]
  | autoText n => rw [render, render, hinline, hperLine, hlength]
  | presentation => rw [render, render, normalized_normalized]

/-! ## The laws -/

/-- The laws that relate the styles, as equations between outcomes, texts and failures alike. -/
theorem styles_related (labels : List String) (o : Options) (t : Int) :
    let outcome (style : Style) := renderIn style labels o (.ofInt t)
    renderChoices labels o none (.ofInt t) = outcome o.choiceStyle ∧
    (outcome .autoText =
      if (labels.length : Int) < max 1 t then outcome .inline else outcome .perLine) ∧
    (∃ bare : Except Failure String, outcome .inlineNoParen = bare.map .text ∧
      outcome .inline = if labels = [] ∨ o.choiceParens = some false then outcome .inlineNoParen
        else bare.map fun s => .text ("(" ++ s ++ ")")) ∧
    (∀ style ∈ [Style.auto, .buttons, .carousel, .default],
      outcome style = .ok (.labels (labels.map (Text.normalize o.choiceCase)))) ∧
    ∀ asked threshold, renderChoices labels o asked threshold =
      renderChoices (labels.map (Text.normalize o.choiceCase)) { o with choiceCase := .none }
        asked threshold := by
  intro outcome
  have houtcome : ∀ style, outcome style = (Renderer.ofStyle style (.int t)).render labels o :=
    fun style => renderIn_eq style labels o (.ofInt t)
  have hown := renderChoices_own (Askable.lawful_datum (.member (.style o.choiceStyle)))
    (Askable.equals_datum_iff.2 rfl) labels (.ofInt t)
  refine ⟨hown.symm, ?_, ⟨renderInline false labels o, ?_, ?_⟩, ?_, ?_⟩
  · rw [houtcome, houtcome, houtcome]
    change (if (Numeral.int labels.length).below (atLeastOne (.int t)) then _ else _) = _
    rw [below_atLeastOne]
    simp only [decide_eq_true_eq]
    rfl
  · rw [houtcome]
    rfl
  · rw [houtcome, houtcome]
    change (renderInline true labels o).map Rendering.text = _
    rw [renderInline_parenthesized]
    split
    · rfl
    · cases renderInline false labels o <;> rfl
  · intro style hstyle
    rw [houtcome]
    simp only [List.mem_cons, List.not_mem_nil, or_false] at hstyle
    rcases hstyle with rfl | rfl | rfl | rfl <;> rfl
  · intro asked threshold
    change (rendererFor o asked threshold >>= fun r => r.render labels o) =
      (rendererFor o asked threshold >>= fun r => r.render (normalized labels o) _)
    exact bind_congr fun r => (r.render_normalized labels o).symm

end FormDialogue.Choice
