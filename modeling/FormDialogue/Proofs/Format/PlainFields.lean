import FormDialogue.Proofs.Format.LabelField
import FormDialogue.Record.Basic

/-! # Formats of plain fields

A format without braces of its own, whose only fields are the plain ones of the number and of the
label. Reading cuts it exactly at these fields, and each of them becomes the number or the label,
whatever characters the label holds. -/

namespace FormDialogue.Format
open Record (labelMark numberMark)
variable {expand : List Char → Numbering → Result (List Char × Numbering)}
  {f : Field} {numbering : Numbering} {n : Nat} {t : List Char}

inductive PlainPart
  | literal (c : Char) (h : isBrace c = false)
  | number
  | label

namespace PlainPart

def text : PlainPart → List Char
  | literal c _ => [c]
  | number => numberMark
  | label => labelMark

/-- What becomes of the part for a number and a label. -/
def filled (n : Nat) (t : List Char) : PlainPart → List Char
  | literal c _ => [c]
  | number => (toString n).toList
  | label => t

def part : PlainPart → Part
  | literal c _ => .literal c
  | number => .field numberField
  | label => .field labelField

end PlainPart

/-! ## Reading -/

theorem nextPiece_literal {c : Char} (h : isBrace c = false) (rest : List Char) :
    nextPiece (c :: rest) = .ok (.literal c rest) := by
  rw [nextPiece.eq_def]
  dsimp only
  rw [h]
  rfl

theorem nextPiece_numberMark (rest : List Char) :
    nextPiece (numberMark ++ rest) = .ok (.field numberField rest) := rfl

theorem nextPiece_labelMark (rest : List Char) :
    nextPiece (labelMark ++ rest) = .ok (.field labelField rest) := rfl

theorem reads_plain (plain : List PlainPart) :
    Reads (plain.flatMap PlainPart.text) (plain.map PlainPart.part) := by
  induction plain with
  | nil => exact .finish
  | cons part plain ih =>
    rw [List.flatMap_cons, List.map_cons]
    cases part with
    | literal c h => exact .literal (nextPiece_literal h _) ih
    | number => exact .field (nextPiece_numberMark _) ih
    | label => exact .field (nextPiece_labelMark _) ih

/-! ## Writing -/

section
variable [Things] {operands : List (Operand Things.Thing)}

theorem writeField_named (hhead : f.head ≠ []) (h : ¬ IsAutomatic numbering) :
    writeField operands expand f numbering = writeField operands expand f .manual := by
  cases numbering with
  | undecided => exact writeField_undecided hhead
  | manual => rfl
  | automatic next => exact absurd ⟨next, rfl⟩ h

theorem writePart_plain (h : ¬ IsAutomatic numbering) (part : PlainPart) :
    ∃ next, ¬ IsAutomatic next ∧
      writePart (operandsFor n t) expand part.part numbering =
        .ok (part.filled n t, next) := by
  have hmanual : ¬ IsAutomatic .manual := by
    rintro ⟨_, ⟨⟩⟩
  cases part with
  | literal c _ => exact ⟨numbering, h, rfl⟩
  | number =>
    refine ⟨.manual, hmanual, ?_⟩
    have hdigits : (toString n).toList = Number.decimalDigits n := Nat.toList_repr
    rw [PlainPart.part, writePart, writeField_named (by decide) h, writeField_numberField,
      PlainPart.filled, hdigits]
  | label =>
    refine ⟨.manual, hmanual, ?_⟩
    rw [PlainPart.part, writePart, writeField_named (by decide) h, writeField_label]
    rfl

theorem yields_plain (h : ¬ IsAutomatic numbering) (plain : List PlainPart) :
    Yields n t numbering (plain.map PlainPart.part)
      (plain.flatMap (PlainPart.filled n t)) := by
  -- Plain fields name their operands, so numbering never becomes automatic.
  induction plain generalizing numbering with
  | nil => exact ⟨numbering, rfl⟩
  | cons part plain ih =>
    obtain ⟨after, hafter, hpart⟩ := writePart_plain h part
    obtain ⟨next, hrest⟩ := ih hafter
    exact ⟨next, writeParts_cons_eq_ok_iff.2 ⟨_, after, _, hpart, hrest, List.flatMap_cons⟩⟩

/-- A plain format is always rendered, with the number and the label in the places of its fields. -/
theorem render_plain (plain : List PlainPart) (n : Nat) (t : List Char) :
    render (plain.flatMap PlainPart.text) n t =
      .ok (plain.flatMap (PlainPart.filled n t)) := by
  have hundecided : ¬ IsAutomatic .undecided := by
    rintro ⟨_, ⟨⟩⟩
  exact (render_eq_ok_iff (reads_plain plain)).2 (yields_plain hundecided plain)

end

/-! ## Characters -/

/-- A line break in what becomes of a plain format comes from the format or from the label. -/
theorem newline_mem_filled {plain : List PlainPart}
    (h : '\n' ∈ plain.flatMap (PlainPart.filled n t)) :
    '\n' ∈ plain.flatMap PlainPart.text ∨ '\n' ∈ t := by
  obtain ⟨part, hpart, hmem⟩ := List.mem_flatMap.1 h
  cases part with
  | literal c _ => exact .inl (List.mem_flatMap.2 ⟨_, hpart, hmem⟩)
  | number =>
    have hdigits : (toString n).toList = Nat.toDigits 10 n := Nat.toList_repr
    rw [PlainPart.filled, hdigits] at hmem
    exact absurd (Nat.isDigit_of_mem_toDigits (by decide) (by decide) hmem) (by decide)
  | label => exact .inr hmem

end FormDialogue.Format
