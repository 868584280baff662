import FormDialogue.Proofs.Choice.LabelPlaces
import FormDialogue.Proofs.Choice.Styles
import FormDialogue.Proofs.Format.PlainFields

/-! # Numbered lines

Choices one per line in a plain format: every label has one line, in order, with its number from one
on and the label as it is, whatever braces it holds. The lines can be told apart again by the line
breaks between them, if neither the format nor a label holds one. -/

namespace FormDialogue.Choice
open Format (PlainPart)
open Record (Options)
variable {parts : List PlainPart} {labels : List String} {o : Options}

/-- The choice format that consists of plain parts. -/
def plainFormat (parts : List PlainPart) : String := String.ofList (parts.flatMap PlainPart.text)

/-- The line of a label under a number. -/
def plainLine (parts : List PlainPart) (number : Nat) (label : String) : String :=
  String.ofList (parts.flatMap (PlainPart.filled number label.toList))

theorem entry_plain (parts : List PlainPart) (number : Nat) (label : String) :
    entry (plainFormat parts) number label = .ok (plainLine parts number label) := by
  rw [entry_eq_ok_iff, plainFormat, plainLine, String.toList_ofList, String.toList_ofList]
  exact Format.render_plain parts number label.toList

theorem entries_plain (parts : List PlainPart) (number : Nat) (labels : List String) :
    entries (plainFormat parts) number labels =
      .ok (labels.mapIdx fun i label => plainLine parts (number + i) label) := by
  induction labels generalizing number with
  | nil => rfl
  | cons label rest ih =>
    rw [entries, entry_plain, ih (number + 1), List.mapIdx_cons]
    simp only [Nat.add_zero, Nat.add_right_comm number 1, Nat.add_assoc]
    rfl

theorem newline_mem_plainLine {number : Nat} {label : String}
    (h : '\n' ∈ (plainLine parts number label).toList) :
    '\n' ∈ (plainFormat parts).toList ∨ '\n' ∈ label.toList := by
  rw [plainLine, String.toList_ofList] at h
  rw [plainFormat, String.toList_ofList]
  exact Format.newline_mem_filled h

theorem splitOn_lines {lines : List String} (hne : lines ≠ [])
    (h : ∀ line ∈ lines, '\n' ∉ line.toList) :
    ("\n".intercalate lines).toList.splitOn '\n' = lines.map String.toList := by
  have hbreak : "\n".toList = ['\n'] := rfl
  rw [String.toList_intercalate, hbreak, List.splitOn_intercalate '\n' _ (by simpa using hne)]
  intro line hline
  obtain ⟨line, hmem, rfl⟩ := List.mem_map.1 hline
  exact h line hmem

/-- In a plain format, choices one per line are their lines with single line breaks between them:
the number and the label in the places of their fields, label by label. Without further line breaks
the text falls apart into these lines again. -/
theorem lines_number_labels (hformat : o.choiceFormat = some (plainFormat parts))
    (hne : labels ≠ []) (threshold : Threshold) :
    let lines := labels.mapIdx fun i label =>
      plainLine parts (i + 1) (Text.normalize o.choiceCase label)
    let text := "\n".intercalate lines
    renderIn .perLine labels o threshold = .ok (.text text) ∧
    ('\n' ∉ (plainFormat parts).toList →
      (∀ label ∈ labels, '\n' ∉ (Text.normalize o.choiceCase label).toList) →
      text.toList.splitOn '\n' = lines.map String.toList) := by
  intro lines text
  have hentries : entries (plainFormat parts) 1 (normalized labels o) = .ok lines := by
    rw [entries_plain]
    refine congrArg Except.ok (List.ext_getElem? fun i => ?_)
    rw [List.getElem?_mapIdx, normalized, List.getElem?_map, Option.map_map,
      List.getElem?_mapIdx, Nat.add_comm 1]
    rfl
  have hlines : lines ≠ [] := by simpa [lines] using hne
  refine ⟨?_, fun hfree hlabels => splitOn_lines hlines fun line hline hbreak => ?_⟩
  · have hrender : renderIn .perLine labels o threshold = Renderer.perLine.render labels o :=
      renderIn_of_ne_autoText (by decide) labels o threshold
    rw [hrender, perLine_render hformat hne, hentries]
    rfl
  · obtain ⟨i, hi, rfl⟩ := List.mem_mapIdx.1 hline
    rcases newline_mem_plainLine hbreak with hmem | hmem
    · exact hfree hmem
    · exact hlabels _ (List.getElem_mem hi) hmem

theorem lines_number_labels_sample :
    let o : Options := { choiceFormat := some "* \x7b1\x7d (\x7b0\x7d)" }
    let text := "* \x7b0\x7d (1)\n* \x7b1\x7d (2)"
    renderIn .perLine ["\x7b0\x7d", "\x7b1\x7d"] o default = .ok (.text text) ∧
      text.toList.splitOn '\n' = ["* \x7b0\x7d (1)".toList, "* \x7b1\x7d (2)".toList] := by
  intro o text
  let parts : List PlainPart := [.literal '*' rfl, .literal ' ' rfl, .label, .literal ' ' rfl,
    .literal '(' rfl, .number, .literal ')' rfl]
  have hformat : o.choiceFormat = some (plainFormat parts) := by decide +kernel
  have hne : ["\x7b0\x7d", "\x7b1\x7d"] ≠ [] := by decide
  obtain ⟨hrender, hsplit⟩ := lines_number_labels hformat hne default
  have hlines : (["\x7b0\x7d", "\x7b1\x7d"].mapIdx fun i label =>
      plainLine parts (i + 1) (Text.normalize o.choiceCase label)) =
        ["* \x7b0\x7d (1)", "* \x7b1\x7d (2)"] := by decide +kernel
  rw [hlines] at hrender hsplit
  exact ⟨hrender, hsplit (by decide +kernel) (by decide +kernel)⟩

end FormDialogue.Choice
