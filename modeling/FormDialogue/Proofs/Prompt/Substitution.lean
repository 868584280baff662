import FormDialogue.Proofs.Prompt.Cutting
import FormDialogue.Proofs.Workspace.Running
import FormDialogue.Workspace.Prompting
import Mathlib.Tactic.SplitIfs

/-! # Substitution is one pass

The text of a record is made from the only cutting of the picked pattern at its placeholders. What
is copied stays as it is, every placeholder gives way to its wording or stays when it has none, and
no wording is read again. Choices are rendered first, whenever they are given and the pattern has a
place for them; a list is only rendered where the text that is cut has a place for it. Nothing else
can fail. -/

namespace FormDialogue.Prompt
open Choice (Rendering Threshold)
open Record (Options Style)
variable {o : Options} {a : Arguments} {threshold : Threshold} {why : Failure}

/-- The styles that leave the layout of choices to the channel. -/
def leavesLayout : Style → Bool
  | .default | .auto | .buttons | .carousel => true
  | .autoText | .inline | .perLine | .inlineNoParen => false

/-- The text that is cut: the pattern, without its marks for choices if the channel lays out the
choices that are given for them. -/
def cutText (pattern : List Char) (o : Options) (a : Arguments) : List Char :=
  if leavesLayout o.choiceStyle && a.choices.isSome && Text.occurs Record.choicesMark pattern then
    dropMarks pattern
  else pattern

/-- The choices as text, if they are given and not left to the channel. -/
def choicesText (o : Options) (a : Arguments) (threshold : Threshold) : Option String :=
  a.choices.bind fun labels =>
    match Choice.renderChoices labels o none threshold with
    | .ok (.text s) => some s
    | _ => none

/-- The text that is put in for a placeholder, if its argument is given. -/
def wording (o : Options) (a : Arguments) (choices : Option String) : Token → Option String
  | .field => a.field.map (Text.normalize o.fieldCase)
  | .value => a.value.map (Text.normalize o.valueCase)
  | .values => a.values.bind fun values => (Choice.renderList values o).toOption
  | .choices => choices

/-- The wording of a placeholder, or the placeholder itself. -/
def wordingOrMark (o : Options) (a : Arguments) (choices : Option String) (t : Token) : List Char :=
  ((wording o a choices t).map String.toList).getD t.mark

/-- The choices are given, the pattern has a place for them, and they cannot be rendered. -/
def ChoicesFail (pattern : List Char) (o : Options) (a : Arguments) (threshold : Threshold)
    (why : Failure) : Prop :=
  ∃ labels, a.choices = some labels ∧ Record.choicesMark <:+: pattern ∧
    Choice.renderChoices labels o none threshold = .error why

/-- A list is given, the text that is cut has a place for it, and it cannot be rendered. -/
def ListFails (k : Cutting) (o : Options) (a : Arguments) (why : Failure) : Prop :=
  ∃ values, a.values = some values ∧ Token.values ∈ k.tokens ∧
    Choice.renderList values o = .error why

/-! ## Choices -/

def renderedText : Option Rendering → Option String
  | some (.text s) => some s
  | _ => none

theorem renderChoices_of_leavesLayout (h : leavesLayout o.choiceStyle = true)
    (labels : List String) (threshold : Threshold) :
    Choice.renderChoices labels o none threshold = .ok (.labels (Choice.normalized labels o)) := by
  have hrenderer : Choice.rendererFor o none threshold = .ok .presentation := by
    unfold Choice.rendererFor
    cases hstyle : o.choiceStyle <;> rw [hstyle] at h
    all_goals first | contradiction | cases threshold <;> rfl
  rw [Choice.renderChoices, hrenderer]
  rfl

theorem create_eq_presentation {style : Style}
    (h : Choice.Renderer.create style threshold = .ok .presentation) :
    leavesLayout style = true := by
  cases threshold with
  | number n =>
    cases style <;> simp_all [Choice.Renderer.create, Choice.Renderer.ofStyle, leavesLayout]
  | other name =>
    cases style <;> simp_all [Choice.Renderer.create, Choice.Renderer.ofStyle, leavesLayout]

theorem render_text {r : Choice.Renderer} (hr : r ≠ .presentation) {labels : List String}
    {rendering : Rendering} (h : r.render labels o = .ok rendering) :
    ∃ s, rendering = .text s := by
  have hmap : ∀ e : Except Failure String, e.map Rendering.text = .ok rendering →
      ∃ s, rendering = .text s := by
    intro e he
    cases e with
    | error why => cases he
    | ok s => exact ⟨s, (Except.ok.inj he).symm⟩
  cases r with
  | inline parenthesize => exact hmap _ h
  | perLine => exact hmap _ h
  | autoText n =>
    rw [Choice.Renderer.render] at h
    split_ifs at h
    · exact hmap _ h
    · exact hmap _ h
  | presentation => exact absurd rfl hr

theorem renderChoices_text (hstyle : leavesLayout o.choiceStyle = false) {labels : List String}
    {rendering : Rendering} (h : Choice.renderChoices labels o none threshold = .ok rendering) :
    ∃ s, rendering = .text s := by
  unfold Choice.renderChoices Choice.rendererFor at h
  change (Choice.Renderer.create o.choiceStyle threshold >>= fun r => r.render labels o) = _ at h
  cases hr : Choice.Renderer.create o.choiceStyle threshold with
  | error why => rw [hr] at h; cases h
  | ok r =>
    rw [hr] at h
    refine render_text (fun he => ?_) h
    rw [he] at hr
    rw [create_eq_presentation hr] at hstyle
    contradiction

theorem shownChoices_eq_some_iff {pattern : List Char} {labels : List String} :
    shownChoices pattern a = some labels ↔
      a.choices = some labels ∧ Record.choicesMark <:+: pattern := by
  rw [← Text.occurs_iff, shownChoices]
  cases Text.occurs Record.choicesMark pattern <;> simp

theorem renderShown_of_none {pattern : List Char} (h : shownChoices pattern a = none) :
    renderShown pattern o a threshold = .ok none := by
  rw [renderShown, h]

theorem renderShown_of_some {pattern : List Char} {labels : List String}
    (h : shownChoices pattern a = some labels) :
    renderShown pattern o a threshold =
      (Choice.renderChoices labels o none threshold).map some := by
  rw [renderShown, h]

theorem renderShown_eq_error_iff {pattern : List Char} :
    renderShown pattern o a threshold = .error why ↔ ChoicesFail pattern o a threshold why := by
  constructor
  · intro h
    cases hshown : shownChoices pattern a with
    | none => rw [renderShown_of_none hshown] at h; cases h
    | some labels =>
      rw [renderShown_of_some hshown] at h
      obtain ⟨hlabels, hmark⟩ := shownChoices_eq_some_iff.1 hshown
      refine ⟨labels, hlabels, hmark, ?_⟩
      cases hr : Choice.renderChoices labels o none threshold with
      | error cause => rw [hr] at h; cases h; rfl
      | ok r => rw [hr] at h; cases h
  · rintro ⟨labels, hlabels, hmark, hr⟩
    rw [renderShown_of_some (shownChoices_eq_some_iff.2 ⟨hlabels, hmark⟩), hr]
    rfl

theorem renderShown_cases {pattern : List Char} {rendered : Option Rendering}
    (h : renderShown pattern o a threshold = .ok rendered) :
    shownChoices pattern a = none ∧ rendered = none ∨
      ∃ labels r, shownChoices pattern a = some labels ∧ rendered = some r ∧
        Choice.renderChoices labels o none threshold = .ok r := by
  cases hshown : shownChoices pattern a with
  | none =>
    rw [renderShown_of_none hshown] at h
    exact Or.inl ⟨rfl, (Except.ok.inj h).symm⟩
  | some labels =>
    rw [renderShown_of_some hshown] at h
    cases hr : Choice.renderChoices labels o none threshold with
    | error why => rw [hr] at h; cases h
    | ok r =>
      rw [hr] at h
      exact Or.inr ⟨labels, r, rfl, (Except.ok.inj h).symm, hr⟩

theorem layOut_eq_cutText {pattern : List Char} {rendered : Option Rendering}
    (h : renderShown pattern o a threshold = .ok rendered) :
    layOut pattern rendered = cutText pattern o a := by
  rcases renderShown_cases h with ⟨hshown, rfl⟩ | ⟨labels, r, hshown, rfl, hr⟩
  · have hno : (a.choices.isSome && Text.occurs Record.choicesMark pattern) = false := by
      unfold shownChoices at hshown
      split_ifs at hshown with hmark
      · simp [hshown]
      · simp [hmark]
    rw [cutText, Bool.and_assoc, hno, Bool.and_false]
    rfl
  · obtain ⟨hlabels, hmark⟩ := shownChoices_eq_some_iff.1 hshown
    rw [cutText, hlabels, Text.occurs_iff.2 hmark]
    cases hstyle : leavesLayout o.choiceStyle with
    | true =>
      rw [renderChoices_of_leavesLayout hstyle] at hr
      cases hr
      rfl
    | false =>
      obtain ⟨s, rfl⟩ := renderChoices_text hstyle hr
      rfl

theorem mark_infix_of_cutText {pattern : List Char}
    (h : Record.choicesMark <:+: cutText pattern o a) : Record.choicesMark <:+: pattern := by
  unfold cutText at h
  split_ifs at h with hdrop
  · simp only [Bool.and_eq_true] at hdrop
    exact Text.occurs_iff.1 hdrop.2
  · exact h

theorem renderedText_eq_choicesText {pattern : List Char} {rendered : Option Rendering}
    (h : renderShown pattern o a threshold = .ok rendered)
    (hmark : Record.choicesMark <:+: pattern) :
    renderedText rendered = choicesText o a threshold := by
  rcases renderShown_cases h with ⟨hshown, rfl⟩ | ⟨labels, r, hshown, rfl, hr⟩
  · have hnone : a.choices = none := by
      rwa [shownChoices, if_pos (Text.occurs_iff.2 hmark)] at hshown
    rw [choicesText, hnone]
    rfl
  · rw [choicesText, (shownChoices_eq_some_iff.1 hshown).1, Option.bind_some, hr]
    cases r <;> rfl

/-! ## Segments -/

theorem fillSegment_char (rendered : Option Rendering) (c : Char) :
    fillSegment o a rendered (.char c) = .ok [c] := rfl

theorem fillSegments_cons (rendered : Option Rendering) (s : Segment) (rest : List Segment) :
    fillSegments o a rendered (s :: rest) = (do
      let text ← fillSegment o a rendered s
      let more ← fillSegments o a rendered rest
      return text ++ more) := rfl

theorem fillSegments_copied (rendered : Option Rendering) (copied : List Char)
    (rest : List Segment) :
    fillSegments o a rendered (copied.map .char ++ rest) =
      (fillSegments o a rendered rest).map (copied ++ ·) := by
  induction copied with
  | nil =>
    change fillSegments o a rendered rest = _
    cases fillSegments o a rendered rest <;> rfl
  | cons c copied ih =>
    rw [List.map_cons, List.cons_append, fillSegments_cons, ih, fillSegment_char]
    cases fillSegments o a rendered rest <;> rfl

theorem fillSegment_list (rendered : Option Rendering) {values : List String}
    (hvalues : a.values = some values) :
    fillSegment o a rendered (.token .values) = (Choice.renderList values o).map String.toList := by
  unfold fillSegment replacement
  rw [hvalues]
  cases hlist : Choice.renderList values o with
  | error why => simp [hlist, Except.map]
  | ok s => simp [hlist, Except.map]

theorem fillSegment_token (rendered : Option Rendering) {t : Token}
    (h : t = .values → ∀ values why, a.values = some values →
      Choice.renderList values o ≠ .error why) :
    fillSegment o a rendered (.token t) = .ok (wordingOrMark o a (renderedText rendered) t) := by
  cases t with
  | field => rfl
  | value => rfl
  | values =>
    cases hvalues : a.values with
    | none =>
      unfold fillSegment replacement wordingOrMark wording
      rw [hvalues]
      rfl
    | some values =>
      rw [fillSegment_list rendered hvalues]
      unfold wordingOrMark wording
      rw [hvalues, Option.bind_some]
      cases hlist : Choice.renderList values o with
      | error why => exact absurd hlist (h rfl values why hvalues)
      | ok s => rfl
  | choices =>
    cases rendered with
    | none => rfl
    | some r => cases r <;> rfl

theorem fillSegments_next (rendered : Option Rendering) (copied : List Char) (t : Token)
    (rest : Cutting) :
    fillSegments o a rendered (Cutting.next copied t rest).segments = (do
      let text ← fillSegment o a rendered (.token t)
      let more ← fillSegments o a rendered rest.segments
      return copied ++ (text ++ more)) := by
  rw [Cutting.segments, fillSegments_copied, fillSegments_cons]
  cases fillSegment o a rendered (.token t) with
  | error why => rfl
  | ok text => cases fillSegments o a rendered rest.segments <;> rfl

theorem fillSegments_of_listFails {k : Cutting} (rendered : Option Rendering)
    (h : ListFails k o a why) : fillSegments o a rendered k.segments = .error why := by
  obtain ⟨values, hvalues, hmem, hlist⟩ := h
  induction k with
  | last copied => cases hmem
  | next copied t rest ih =>
    rw [fillSegments_next]
    -- The first placeholder of the list fails; whatever comes before it is filled.
    by_cases ht : t = .values
    · rw [ht, fillSegment_list rendered hvalues, hlist]
      rfl
    · rw [fillSegment_token rendered fun h => absurd h ht,
        ih ((List.mem_cons.1 hmem).resolve_left (Ne.symm ht))]
      rfl

theorem fillSegments_of_not_listFails {k : Cutting} (rendered : Option Rendering)
    (h : ∀ why, ¬ ListFails k o a why) :
    fillSegments o a rendered k.segments =
      .ok (k.put (wordingOrMark o a (renderedText rendered))) := by
  induction k with
  | last copied =>
    have hcopied := fillSegments_copied (o := o) (a := a) rendered copied []
    rw [List.append_nil] at hcopied
    rw [Cutting.segments, hcopied]
    exact congrArg Except.ok (List.append_nil copied)
  | next copied t rest ih =>
    have hrest : ∀ why, ¬ ListFails rest o a why := by
      rintro why ⟨values, hvalues, hmem, hlist⟩
      exact h why ⟨values, hvalues, List.mem_cons_of_mem t hmem, hlist⟩
    have ht : fillSegment o a rendered (.token t) =
        .ok (wordingOrMark o a (renderedText rendered) t) := by
      apply fillSegment_token
      intro ht values why hvalues hlist
      exact h why ⟨values, hvalues, ht ▸ List.mem_cons_self, hlist⟩
    rw [fillSegments_next, ht, ih hrest]
    rfl

theorem put_congr {k : Cutting} {f g : Token → List Char} (h : ∀ t ∈ k.tokens, f t = g t) :
    k.put f = k.put g := by
  induction k with
  | last copied => rfl
  | next copied t rest ih =>
    rw [Cutting.put, Cutting.put, h t List.mem_cons_self,
      ih fun u hu => h u (List.mem_cons_of_mem t hu)]

/-! ## Filling a pattern -/

section Fill
variable {pattern : String}

theorem fill_of_choicesFail (h : ChoicesFail pattern.toList o a threshold why) :
    fill pattern o a threshold = .error why := by
  rw [fill, renderShown_eq_error_iff.2 h]
  rfl

def cutting (pattern : String) (o : Options) (a : Arguments) : Cutting :=
  .ofText (cutText pattern.toList o a)

theorem exists_rendered (h : ∀ why, ¬ ChoicesFail pattern.toList o a threshold why) :
    ∃ rendered, renderShown pattern.toList o a threshold = .ok rendered ∧
      fill pattern o a threshold =
        (fillSegments o a rendered (cutting pattern o a).segments).map String.ofList := by
  cases hr : renderShown pattern.toList o a threshold with
  | error why => exact absurd (renderShown_eq_error_iff.1 hr) (h why)
  | ok rendered =>
    refine ⟨rendered, rfl, ?_⟩
    have hsegments := Cutting.segments_text (Cutting.free_ofText (cutText pattern.toList o a))
    rw [Cutting.text_ofText] at hsegments
    rw [fill, hr, cutting, ← hsegments, ← layOut_eq_cutText hr]
    change (fillSegments o a rendered _ >>= _) = _
    cases fillSegments o a rendered (segments (layOut pattern.toList rendered)) <;> rfl

theorem fill_of_listFails (hchoices : ∀ why, ¬ ChoicesFail pattern.toList o a threshold why)
    (h : ListFails (cutting pattern o a) o a why) : fill pattern o a threshold = .error why := by
  obtain ⟨rendered, -, hfill⟩ := exists_rendered hchoices
  rw [hfill, fillSegments_of_listFails rendered h]
  rfl

theorem fill_of_no_failure (hchoices : ∀ why, ¬ ChoicesFail pattern.toList o a threshold why)
    (hlist : ∀ why, ¬ ListFails (cutting pattern o a) o a why) :
    fill pattern o a threshold = .ok (.ofList
      ((cutting pattern o a).put (wordingOrMark o a (choicesText o a threshold)))) := by
  obtain ⟨rendered, hr, hfill⟩ := exists_rendered hchoices
  rw [hfill, fillSegments_of_not_listFails rendered hlist]
  refine congrArg (fun text => Except.ok (String.ofList text)) (put_congr fun t ht => ?_)
  cases t with
  | field => rfl
  | value => rfl
  | values => rfl
  | choices =>
    have hmark := Cutting.mark_infix_of_mem ht
    rw [cutting, Cutting.text_ofText] at hmark
    rw [renderedText_eq_choicesText hr (mark_infix_of_cutText hmark)]

theorem fill_eq_error_iff :
    fill pattern o a threshold = .error why ↔
      ChoicesFail pattern.toList o a threshold why ∨
        (∀ cause, ¬ ChoicesFail pattern.toList o a threshold cause) ∧
          ListFails (cutting pattern o a) o a why := by
  constructor
  · intro h
    by_cases hchoices : ∃ cause, ChoicesFail pattern.toList o a threshold cause
    · obtain ⟨cause, hcause⟩ := hchoices
      rw [fill_of_choicesFail hcause] at h
      cases h
      exact Or.inl hcause
    · have hno := not_exists.1 hchoices
      by_cases hlist : ∃ cause, ListFails (cutting pattern o a) o a cause
      · obtain ⟨cause, hcause⟩ := hlist
        rw [fill_of_listFails hno hcause] at h
        cases h
        exact Or.inr ⟨hno, hcause⟩
      · rw [fill_of_no_failure hno (not_exists.1 hlist)] at h
        cases h
  · rintro (h | ⟨hno, h⟩)
    · exact fill_of_choicesFail h
    · exact fill_of_listFails hno h

theorem fill_eq_ok_iff {out : String} :
    fill pattern o a threshold = .ok out ↔
      (∀ cause, ¬ ChoicesFail pattern.toList o a threshold cause) ∧
        (∀ cause, ¬ ListFails (cutting pattern o a) o a cause) ∧
          out.toList =
            (cutting pattern o a).put (wordingOrMark o a (choicesText o a threshold)) := by
  constructor
  · intro h
    have hno : ∀ cause, ¬ ChoicesFail pattern.toList o a threshold cause := by
      intro cause hcause
      rw [fill_of_choicesFail hcause] at h
      cases h
    have hlist : ∀ cause, ¬ ListFails (cutting pattern o a) o a cause := by
      intro cause hcause
      rw [fill_of_listFails hno hcause] at h
      cases h
    rw [fill_of_no_failure hno hlist] at h
    exact ⟨hno, hlist, by rw [← Except.ok.inj h, String.toList_ofList]⟩
  · rintro ⟨hno, hlist, hout⟩
    rw [fill_of_no_failure hno hlist, ← hout, String.ofList_toList]

end Fill

end FormDialogue.Prompt

namespace FormDialogue.Action
open Prompt (Arguments ChoicesFail Cutting ListFails Token choicesText cutText wordingOrMark)

theorem formatWith_of_selected {f : Formatter} {record : Record} {a : Arguments} {w : Workspace}
    {pattern : String} (h : ((select f.selector record).runIn w).1 = .ok pattern) :
    ((formatWith f record a).runIn w).1 =
      Prompt.fill pattern record.options a f.threshold := by
  rw [formatWith, runIn_bind, h]
  change ((report _ >>= fun _ => ofExcept _).runIn _).1 = _
  rw [runIn_bind_ok (runIn_report _ _), runIn_ofExcept]

theorem formatWith_of_not_selected {f : Formatter} {record : Record} {a : Arguments}
    {w : Workspace} {why : Failure} (h : ((select f.selector record).runIn w).1 = .error why) :
    ((formatWith f record a).runIn w).1 = .error why := by
  rw [formatWith, runIn_bind, h]

/-- The text of a record comes from the picked pattern in one pass: the only cutting of the text at
all of its placeholders, with every placeholder replaced by its wording or left where it has none.
It fails exactly when the choices cannot be rendered or, if they can, a list cannot be. -/
theorem format_substitutes_once (f : Formatter) (record : Record) (a : Arguments) (w : Workspace) :
    let o := record.options
    let result := ((formatWith f record a).runIn w).1
    match ((select f.selector record).runIn w).1 with
    | .error why => result = .error why
    | .ok pattern =>
      ∃ k : Cutting,
        (∀ k' : Cutting, k'.text = cutText pattern.toList o a ∧ k'.Free ↔ k' = k) ∧
        (∀ before t after, cutText pattern.toList o a = before ++ (Token.mark t ++ after) →
          k.CutAt before t after) ∧
        (∀ why, result = .error why ↔
          ChoicesFail pattern.toList o a f.threshold why ∨
            (∀ cause, ¬ ChoicesFail pattern.toList o a f.threshold cause) ∧
              ListFails k o a why) ∧
        (∀ out, result = .ok out ↔
          (∀ cause, ¬ ChoicesFail pattern.toList o a f.threshold cause) ∧
            (∀ cause, ¬ ListFails k o a cause) ∧
              out.toList = k.put (wordingOrMark o a (choicesText o a f.threshold))) := by
  intro o result
  cases hselected : ((select f.selector record).runIn w).1 with
  | error why => exact formatWith_of_not_selected hselected
  | ok pattern =>
    have hresult : result = Prompt.fill pattern o a f.threshold := formatWith_of_selected hselected
    refine ⟨Prompt.cutting pattern o a, fun k' => Cutting.eq_ofText_iff,
      fun before t after htext => ?_, fun why => ?_, fun out => ?_⟩
    · apply Cutting.cutAt_of_text_eq (Cutting.free_ofText _)
      rw [Cutting.text_ofText, htext]
    · rw [hresult]
      exact Prompt.fill_eq_error_iff
    · rw [hresult]
      exact Prompt.fill_eq_ok_iff

end FormDialogue.Action
