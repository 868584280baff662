import FormDialogue.Choice.Renderer

/-! # Rendering with options that are set

When every option is set, a list and a list of choices can always be rendered, except for one thing:
where choices are laid out one per line, their format may not fit the number and the label. -/

namespace FormDialogue.Choice
open Number (Numeral)
open Record (OptionName Options Style)
variable {o : Options} {n : Numeral} {labels : List String} {why : Failure}

/-- Choices are laid out one per line in the style for that, and automatically from the threshold
on. -/
def rendersLines (style : Style) (threshold : Numeral) (labels : List String) : Bool :=
  match style with
  | .perLine => true
  | .autoText => !(Numeral.int labels.length).below (atLeastOne threshold)
  | .default | .auto | .inline | .inlineNoParen | .buttons | .carousel => false

/-- The format does not fit the number and the label of an entry. -/
def EntryFails (labels : List String) (o : Options) (why : Failure) : Prop :=
  ∃ format i label fault, o.choiceFormat = some format ∧ (normalized labels o)[i]? = some label ∧
    Format.render format.toList (i + 1) label.toList = .error fault ∧ why = .format fault

theorem exists_text {v : Option String} (h : Record.OptionKind.text.isUnset v = false) :
    ∃ s, v = some s := by
  cases v with
  | none => cases h
  | some s => exact ⟨s, rfl⟩

theorem joinItems_of_set (separatorName lastName : OptionName) (separator last : String)
    (items : List String) :
    ∃ s, joinItems separatorName lastName (some separator) (some last) items = .ok s := by
  match items with
  | [] => exact ⟨_, rfl⟩
  | [item] => exact ⟨_, rfl⟩
  | first :: second :: rest => exact ⟨_, rfl⟩

theorem entries_error {format : String} {number : Nat}
    (h : entries format number labels = .error why) :
    ∃ i label fault, labels[i]? = some label ∧
      Format.render format.toList (number + i) label.toList = .error fault ∧
      why = .format fault := by
  induction labels generalizing number with
  | nil => cases h
  | cons label rest ih =>
    unfold entries at h
    cases hentry : Format.render format.toList number label.toList with
    | error fault =>
      have hfirst : entry format number label = .error (.format fault) := by rw [entry, hentry]
      rw [hfirst] at h
      cases h
      exact ⟨0, label, fault, rfl, hentry, rfl⟩
    | ok text =>
      have hfirst : entry format number label = .ok (String.ofList text) := by rw [entry, hentry]
      rw [hfirst] at h
      cases hrest : entries format (number + 1) rest with
      | ok lines =>
        rw [hrest] at h
        cases h
      | error cause =>
        rw [hrest] at h
        cases h
        obtain ⟨i, label, fault, hlabel, hrender, rfl⟩ := ih hrest
        refine ⟨i + 1, label, fault, by simpa using hlabel, ?_, rfl⟩
        rwa [Nat.add_right_comm, Nat.add_assoc] at hrender

theorem map_text_error {e : Except Failure String} (h : e.map Rendering.text = .error why) :
    e = .error why := by
  cases e with
  | ok s => cases h
  | error cause =>
    cases h
    rfl

theorem renderChoices_number (labels : List String) (o : Options) (n : Numeral) :
    renderChoices labels o none (.number n) = (Renderer.ofStyle o.choiceStyle n).render labels o :=
  rfl

section Resolved
variable (hresolved : o.isResolved = true)
include hresolved

theorem renderList_of_resolved (values : List String) : ∃ s, renderList values o = .ok s := by
  have hset := Options.isResolved_iff.1 hresolved
  obtain ⟨separator, hseparator⟩ := exists_text (v := o.separator) (hset .separator)
  obtain ⟨last, hlast⟩ := exists_text (v := o.lastSeparator) (hset .lastSeparator)
  rw [renderList, hseparator, hlast]
  exact joinItems_of_set _ _ separator last _

theorem renderInline_of_resolved (parenthesize : Bool) (labels : List String) :
    ∃ s, renderInline parenthesize labels o = .ok s := by
  have hset := Options.isResolved_iff.1 hresolved
  obtain ⟨separator, hseparator⟩ := exists_text (v := o.choiceSeparator) (hset .choiceSeparator)
  obtain ⟨last, hlast⟩ := exists_text (v := o.choiceLastSeparator) (hset .choiceLastSeparator)
  obtain ⟨joined, hjoined⟩ := joinItems_of_set .choiceSeparator .choiceLastSeparator separator last
    (normalized labels o)
  rw [renderInline, hseparator, hlast, hjoined]
  split
  · exact ⟨_, rfl⟩
  · exact ⟨_, rfl⟩

theorem renderPerLine_error {labels : List String} (h : renderPerLine labels o = .error why) :
    EntryFails labels o why := by
  have hset := Options.isResolved_iff.1 hresolved
  obtain ⟨format, hformat⟩ := exists_text (v := o.choiceFormat) (hset .choiceFormat)
  unfold renderPerLine at h
  rw [hformat] at h
  split at h
  · cases h
  · cases hlines : entries format 1 (normalized labels o) with
    | ok lines =>
      change (entries format 1 (normalized labels o) >>= fun lines => _) = _ at h
      rw [hlines] at h
      cases h
    | error cause =>
      change (entries format 1 (normalized labels o) >>= fun lines => _) = _ at h
      rw [hlines] at h
      cases h
      obtain ⟨i, label, fault, hlabel, hrender, hwhy⟩ := entries_error hlines
      rw [Nat.add_comm] at hrender
      exact ⟨format, i, label, fault, hformat, hlabel, hrender, hwhy⟩

/-- Choices that cannot be rendered are laid out one per line, and an entry of theirs does not fit
the format. -/
theorem renderChoices_error (h : renderChoices labels o none (.number n) = .error why) :
    rendersLines o.choiceStyle n labels = true ∧ EntryFails labels o why := by
  have hinline : ∀ parenthesize,
      (renderInline parenthesize labels o).map Rendering.text ≠ .error why := by
    intro parenthesize he
    obtain ⟨s, hs⟩ := renderInline_of_resolved hresolved parenthesize labels
    rw [hs] at he
    cases he
  have hperLine : (renderPerLine labels o).map Rendering.text = .error why →
      EntryFails labels o why := fun he => renderPerLine_error hresolved (map_text_error he)
  rw [renderChoices_number] at h
  cases hstyle : o.choiceStyle with
  | default => rw [hstyle] at h; cases h
  | auto => rw [hstyle] at h; cases h
  | buttons => rw [hstyle] at h; cases h
  | carousel => rw [hstyle] at h; cases h
  | inline => rw [hstyle] at h; exact absurd h (hinline true)
  | inlineNoParen => rw [hstyle] at h; exact absurd h (hinline false)
  | perLine => rw [hstyle] at h; exact ⟨rfl, hperLine h⟩
  | autoText =>
    rw [hstyle] at h
    change (if (Numeral.int labels.length).below (atLeastOne n) then _ else _) = _ at h
    split at h
    · exact absurd h (hinline true)
    · next hmany => exact ⟨by simpa [rendersLines] using hmany, hperLine h⟩

end Resolved

end FormDialogue.Choice
