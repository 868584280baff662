import FormDialogue.Proofs.Choice.Styles
import Mathlib.Algebra.GroupWithZero.Nat

/-! # Joined lists and choices in one line

A list of values and choices in one line without parentheses are joined alike. Two or more items
stand in order with the separator between them and the last separator before the final item, and
joining them fails exactly if one of the two is unset; then the first one that is unset is named. -/

namespace FormDialogue.Text
variable {separator last : String}

/-- What stands in front of each of several joined items. -/
def leads (separator last : String) (count : Nat) : List String :=
  "" :: (List.replicate (count - 2) separator ++ [last])

theorem joinWithLast_cons (item : String) {rest : List String} (hne : rest ≠ []) :
    joinWithLast separator last (item :: rest) =
      item ++ String.join (List.zipWith (· ++ ·)
        (List.replicate (rest.length - 1) separator ++ [last]) rest) := by
  induction rest generalizing item with
  | nil => contradiction
  | cons next rest ih =>
    -- The last separator comes with the final item, all others with an item that has a next one.
    cases rest with
    | nil => simp [joinWithLast, String.append_assoc]
    | cons third more =>
      have hjoin : joinWithLast separator last (item :: next :: third :: more) =
          item ++ separator ++ joinWithLast separator last (next :: third :: more) := rfl
      have hcount : (next :: third :: more).length - 1 = ((third :: more).length - 1) + 1 := rfl
      rw [hjoin, ih next (List.cons_ne_nil third more), hcount, List.replicate_succ,
        List.cons_append, List.zipWith_cons_cons, String.join_cons]
      simp only [String.append_assoc]

theorem joinWithLast_eq_join {items : List String} (h : 2 ≤ items.length) :
    joinWithLast separator last items =
      String.join (List.zipWith (· ++ ·) (leads separator last items.length) items) := by
  match items, h with
  | item :: next :: rest, _ =>
    rw [joinWithLast_cons item (List.cons_ne_nil next rest), leads, List.zipWith_cons_cons,
      String.join_cons, String.empty_append]
    rfl

theorem length_join_zipWith (leads items : List String) (h : leads.length = items.length) :
    (String.join (List.zipWith (· ++ ·) leads items)).length =
      (leads.map String.length).sum + (items.map String.length).sum := by
  induction leads generalizing items with
  | nil =>
    obtain rfl := List.length_eq_zero_iff.1 h.symm
    rfl
  | cons lead leads ih =>
    cases items with
    | nil => cases h
    | cons item items =>
      have hrest := ih items (Nat.succ.inj h)
      simp only [List.zipWith_cons_cons, String.join_cons, String.length_append, List.map_cons,
        List.sum_cons, hrest]
      omega

theorem length_joinWithLast {items : List String} (h : 2 ≤ items.length) :
    (joinWithLast separator last items).length =
      (items.map String.length).sum + (items.length - 2) * separator.length + last.length := by
  have hleads : (leads separator last items.length).length = items.length := by
    simp only [leads, List.length_cons, List.length_append, List.length_replicate, List.length_nil]
    omega
  have hsum : ((leads separator last items.length).map String.length).sum =
      (items.length - 2) * separator.length + last.length := by
    simp [leads]
  rw [joinWithLast_eq_join h, length_join_zipWith _ _ hleads, hsum]
  omega

end FormDialogue.Text

namespace FormDialogue.Choice
open Record (OptionName Options)
open Text (joinWithLast leads)
variable {separatorName lastName : OptionName} {separator last : Option String}
  {items : List String} {why : Failure}

/-- Joining several items lacks one of their separators, and the first one that is unset is
named. -/
def Lacks (count : Nat) (separator last : Option String) (separatorName lastName : String)
    (why : Failure) : Prop :=
  2 ≤ count ∧ (separator = none ∧ why = .unresolved [separatorName] ∨
    separator ≠ none ∧ last = none ∧ why = .unresolved [lastName])

theorem joinItems_of_two_le (h : 2 ≤ items.length) (separator last : String) :
    joinItems separatorName lastName (some separator) (some last) items =
      .ok (joinWithLast separator last items) := by
  match items, h with
  | item :: next :: rest, _ => rfl

theorem joinItems_eq_error_iff :
    joinItems separatorName lastName separator last items = .error why ↔
      Lacks items.length separator last separatorName.name lastName.name why := by
  match items with
  | [] => simp [joinItems, Lacks]
  | [item] => simp [joinItems, Lacks]
  | item :: next :: rest =>
    have hcount : 2 ≤ (item :: next :: rest).length := Nat.le_add_left 2 rest.length
    cases separator with
    | none => simp [joinItems, requireText, Lacks, bind, Except.bind, eq_comm]
    | some separator =>
      cases last with
      | none => simp [joinItems, requireText, Lacks, bind, Except.bind, eq_comm]
      | some last =>
        rw [joinItems_of_two_le hcount]
        simp [Lacks]

/-- The names of the separators matter to failures only. -/
theorem toOption_joinItems (separatorName lastName separatorName' lastName' : OptionName)
    (separator last : Option String) (items : List String) :
    (joinItems separatorName lastName separator last items).toOption =
      (joinItems separatorName' lastName' separator last items).toOption := by
  match items with
  | [] => rfl
  | [item] => rfl
  | item :: next :: rest => cases separator <;> cases last <;> rfl

theorem renderInline_bare (labels : List String) (o : Options) :
    renderInline false labels o = joinItems .choiceSeparator .choiceLastSeparator o.choiceSeparator
      o.choiceLastSeparator (normalized labels o) := by
  by_cases hempty : labels = []
  · rw [hempty]
    rfl
  · rw [renderInline_of_ne_nil false hempty]
    cases joinItems .choiceSeparator .choiceLastSeparator o.choiceSeparator o.choiceLastSeparator
      (normalized labels o) <;> rfl

/-- A list and choices in one line without parentheses agree, where the case and the separators of
choices are those of values: both are joined from the same items or fail for the same want. -/
theorem list_agrees_with_choices (values : List String) (o other : Options)
    (threshold : Threshold) :
    let o' := { other with
      choiceCase := o.valueCase
      choiceSeparator := o.separator
      choiceLastSeparator := o.lastSeparator }
    let items := values.map (Text.normalize o.valueCase)
    let listed := renderList values o
    let chosen := renderIn .inlineNoParen values o' threshold
    chosen.toOption = listed.toOption.map .text ∧
    (values = [] → listed = .ok "") ∧
    (∀ value, values = [value] → listed = .ok (Text.normalize o.valueCase value)) ∧
    (∀ separator last, 2 ≤ values.length → o.separator = some separator →
      o.lastSeparator = some last → ∃ text, listed = .ok text ∧
        text = String.join (List.zipWith (· ++ ·) (leads separator last items.length) items) ∧
        text.length = (items.map String.length).sum + (values.length - 2) * separator.length +
          last.length) ∧
    (∀ why, listed = .error why ↔
      Lacks values.length o.separator o.lastSeparator "separator" "last_separator" why) ∧
    ∀ why, chosen = .error why ↔
      Lacks values.length o.separator o.lastSeparator "choice_separator" "choice_last_separator"
        why := by
  intro o' items listed chosen
  have hlength : items.length = values.length := List.length_map _
  have hlisted : listed =
    joinItems .separator .lastSeparator o.separator o.lastSeparator items := rfl
  have hchosen : chosen = (joinItems .choiceSeparator .choiceLastSeparator o.separator
      o.lastSeparator items).map .text := by
    have hrender : chosen = (renderInline false values o').map .text :=
      renderIn_of_ne_autoText (by decide) values o' threshold
    rw [hrender, renderInline_bare]
    rfl
  refine ⟨?_, ?_, ?_, ?_, fun why => ?_, fun why => ?_⟩
  · rw [hchosen, hlisted, toOption_joinItems .separator .lastSeparator .choiceSeparator
      .choiceLastSeparator]
    cases joinItems .choiceSeparator .choiceLastSeparator o.separator o.lastSeparator items <;> rfl
  · rintro rfl
    rfl
  · rintro value rfl
    rfl
  · intro separator last hmany hseparator hlast
    rw [← hlength] at hmany ⊢
    refine ⟨_, ?_, Text.joinWithLast_eq_join hmany, Text.length_joinWithLast hmany⟩
    rw [hlisted, hseparator, hlast, joinItems_of_two_le hmany]
  · rw [hlisted, joinItems_eq_error_iff, hlength]
    rfl
  · have hmap : ∀ e : Except Failure String, e.map Rendering.text = .error why ↔ e = .error why :=
      fun e => ⟨map_text_error, fun he => by rw [he]; rfl⟩
    rw [hchosen, hmap, joinItems_eq_error_iff, hlength]
    rfl

theorem list_agrees_with_choices_sample :
    let o : Options :=
      { valueCase := .upper, separator := some ", ", lastSeparator := some " and " }
    let o' : Options :=
      { o with
        choiceCase := .upper
        choiceSeparator := some ", "
        choiceLastSeparator := some " and " }
    let values := ["Oslo", "Rome", "Bern"]
    renderList values o = .ok "OSLO, ROME and BERN" ∧
      (renderIn .inlineNoParen values o' default).toOption = some (.text "OSLO, ROME and BERN") ∧
      Lacks 3 none o.lastSeparator "separator" "last_separator" (.unresolved ["separator"]) ∧
      renderList values { o with separator := none } = .error (.unresolved ["separator"]) := by
  intro o o' values
  obtain ⟨hagree, -, -, hjoined, -, -⟩ := list_agrees_with_choices values o o default
  obtain ⟨text, hlisted, htext, -⟩ := hjoined ", " " and " (by decide) rfl rfl
  obtain rfl : text = "OSLO, ROME and BERN" := htext.trans (by decide +kernel)
  have hlacks : Lacks 3 none o.lastSeparator "separator" "last_separator"
      (.unresolved ["separator"]) := ⟨by decide, .inl ⟨rfl, rfl⟩⟩
  obtain ⟨-, -, -, -, hfails, -⟩ :=
    list_agrees_with_choices values { o with separator := none } o default
  rw [hlisted] at hagree
  exact ⟨hlisted, hagree, hlacks, (hfails _).2 hlacks⟩

end FormDialogue.Choice
