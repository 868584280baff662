import FormDialogue.Proofs.Format.Parts
import Mathlib.Data.List.Forall2

/-! # The field of the label

Once a field names its operand, every field of the format has to, and what the fields write does
not depend on each other. So a format with the plain field of the label is rendered exactly if each
of its fields is written, and the text then holds the label. Fields of the number alone write the
same for every label. -/

namespace FormDialogue.Format
variable {expand : List Char → Numbering → Result (List Char × Numbering)}
  {format text label : List Char} {parts : List Part} {f : Field} {numbering : Numbering}
  {number : Nat}

/-! ## Numbering -/

/-- What every index keeps, every part and every format keeps. -/
def Kept (p : Numbering → Prop) : Prop :=
  ∀ name numbering index next, indexOf name numbering = .ok (index, next) → p numbering → p next

theorem kept_manual : Kept (· = .manual) := by
  rintro name numbering index next h rfl
  obtain ⟨number, -, h⟩ := bind_eq_ok_iff.1 h
  cases name with
  | nil => cases number <;> cases h
  | cons c name => cases number <;> cases h <;> rfl

def IsAutomatic (numbering : Numbering) : Prop := ∃ next, numbering = .automatic next

theorem kept_automatic : Kept IsAutomatic := by
  rintro name _ index next h ⟨k, rfl⟩
  obtain ⟨number, -, h⟩ := bind_eq_ok_iff.1 h
  cases name with
  | nil => cases number <;> cases h <;> exact ⟨_, rfl⟩
  | cons c name => cases number <;> cases h; exact ⟨_, rfl⟩

theorem indexOf_nil_undecided : indexOf [] .undecided = .ok (some 0, .automatic 1) := rfl

/-! ## Fields -/

/-- The part of a field name that stands for the operand. -/
def Field.head (f : Field) : List Char := f.name.takeWhile fun c => !isPathMark c

def plainField (name : Char) : Field := ⟨[name], none, [], false⟩

def numberField : Field := plainField '0'
def labelField : Field := plainField '1'

theorem head_plainField {c : Char} (h : isPathMark c = false) : (plainField c).head = [c] := by
  simp [Field.head, plainField, h]

theorem wholeNumber_zero : wholeNumber ['0'] = .ok (some 0) := by decide +kernel

theorem wholeNumber_one : wholeNumber ['1'] = .ok (some 1) := by decide +kernel

/-- A field of the number alone, or of a part of it. -/
def Field.IsNumber (f : Field) : Prop := f.nested = false ∧ wholeNumber f.head = .ok (some 0)

theorem isNumber_numberField : numberField.IsNumber := ⟨rfl, wholeNumber_zero⟩

theorem index_of_zero {name : List Char} (h : wholeNumber name = .ok (some 0))
    {index : Option Nat} {next : Numbering} (hindex : indexOf name numbering = .ok (index, next)) :
    index = some 0 := by
  rw [indexOf, h] at hindex
  cases name with
  | nil => cases h
  | cons c name =>
    cases numbering <;> cases hindex <;> rfl

/-! ## Lists of texts -/

theorem exists_forall₂_iff {α β : Type} {r : α → β → Prop} {as : List α} :
    (∃ bs, List.Forall₂ r as bs) ↔ ∀ a ∈ as, ∃ b, r a b := by
  induction as with
  | nil => exact ⟨nofun, fun _ => ⟨[], .nil⟩⟩
  | cons a as ih =>
    rw [List.forall_mem_cons, ← ih]
    constructor
    · rintro ⟨_, _ | ⟨hab, hrest⟩⟩
      exact ⟨⟨_, hab⟩, ⟨_, hrest⟩⟩
    · rintro ⟨⟨b, hab⟩, bs, hrest⟩
      exact ⟨b :: bs, .cons hab hrest⟩

theorem exists_mem_of_forall₂ {α β : Type} {r : α → β → Prop} {as : List α} {bs : List β} {a : α}
    (h : List.Forall₂ r as bs) (ha : a ∈ as) : ∃ b ∈ bs, r a b := by
  induction h with
  | nil => cases ha
  | cons hab _ ih =>
    rcases List.mem_cons.1 ha with rfl | ha
    · exact ⟨_, List.mem_cons_self, hab⟩
    · obtain ⟨b, hb, hr⟩ := ih ha
      exact ⟨b, List.mem_cons_of_mem _ hb, hr⟩

/-! ## What an index keeps, a format keeps -/

section
variable [Things] {operands : List (Operand Things.Thing)}

theorem operandOf_keeps {p : Numbering → Prop} (hp : Kept p) {name : List Char}
    {o : Operand Things.Thing} {next : Numbering} (h : operandOf operands name numbering = .ok (o, next))
    (hnumbering : p numbering) : p next := by
  obtain ⟨⟨index, after⟩, hindex, h⟩ := bind_eq_ok_iff.1 h
  have hafter := hp _ _ _ _ hindex hnumbering
  cases index with
  | none => cases h
  | some i =>
    dsimp only at h
    split at h
    · cases h
    · obtain ⟨_, -, h⟩ := bind_eq_ok_iff.1 h
      cases h
      exact hafter

section Keeping
variable {p : Numbering → Prop} (hp : Kept p)
  (hexpand : ∀ spec numbering text next, expand spec numbering = .ok (text, next) →
    p numbering → p next)

omit [Things] in
include hexpand in
theorem specBy_keeps {next : Numbering} (h : f.specBy expand numbering = .ok (text, next))
    (hnumbering : p numbering) : p next := by
  rw [Field.specBy] at h
  split at h
  · exact hexpand _ _ _ _ h hnumbering
  · cases h
    exact hnumbering

include hp hexpand

theorem writeField_keeps {next : Numbering}
    (h : writeField operands expand f numbering = .ok (text, next)) (hnumbering : p numbering) :
    p next := by
  obtain ⟨_, _, _, _, ho, -, hspec, -⟩ := writeField_eq_ok_iff.1 h
  exact specBy_keeps hexpand hspec (operandOf_keeps hp ho hnumbering)

theorem writePart_keeps {part : Part} {next : Numbering}
    (h : writePart operands expand part numbering = .ok (text, next)) (hnumbering : p numbering) :
    p next := by
  cases part with
  | literal c =>
    cases h
    exact hnumbering
  | field f => exact writeField_keeps hp hexpand h hnumbering

theorem writeParts_keeps {next : Numbering}
    (h : writeParts operands expand parts numbering = .ok (text, next))
    (hnumbering : p numbering) : p next := by
  induction parts generalizing numbering text with
  | nil =>
    cases h
    exact hnumbering
  | cons part parts ih =>
    obtain ⟨_, after, _, hpart, hrest, -⟩ := writeParts_cons_eq_ok_iff.1 h
    exact ih hrest (writePart_keeps hp hexpand hpart hnumbering)

end Keeping

theorem renderDeep_keeps {p : Numbering → Prop} (hp : Kept p) {depth : Nat} {next : Numbering}
    (h : renderDeep operands depth format numbering = .ok (text, next)) (hnumbering : p numbering) :
    p next := by
  induction depth generalizing format numbering text next with
  | zero => cases h
  | succ depth ih =>
    rw [renderDeep] at h
    obtain ⟨parts, hparts⟩ := reads_of_renderPieces (Nat.lt_succ_self _) h
    rw [renderPieces_of_reads hparts (Nat.lt_succ_self _)] at h
    exact writeParts_keeps hp (fun _ _ _ _ => ih) h hnumbering

/-- A field that names its operand decides for naming. -/
theorem operandOf_undecided (h : f.head ≠ []) :
    operandOf operands f.name .undecided = operandOf operands f.name .manual := by
  obtain ⟨c, name, hname⟩ := List.exists_cons_of_ne_nil h
  have hhead : f.name.takeWhile (fun c => !isPathMark c) = c :: name := hname
  rw [operandOf, operandOf, hhead]
  dsimp only
  rw [indexOf, indexOf]
  cases wholeNumber (c :: name) with
  | error fault => rfl
  | ok number => cases number <;> rfl

theorem operandOf_of_no_head (h : f.head = []) :
    operandOf operands f.name .manual = .error .manualThenAutomatic ∧
      ∀ o next, operandOf operands f.name .undecided = .ok (o, next) → IsAutomatic next := by
  have hhead : f.name.takeWhile (fun c => !isPathMark c) = [] := h
  constructor
  · rw [operandOf, hhead]
    rfl
  · intro o next ho
    rw [operandOf, hhead] at ho
    obtain ⟨⟨index, after⟩, hindex, ho⟩ := bind_eq_ok_iff.1 ho
    rw [indexOf_nil_undecided] at hindex
    cases hindex
    dsimp only at ho
    split at ho
    · cases ho
    · obtain ⟨_, -, ho⟩ := bind_eq_ok_iff.1 ho
      cases ho
      exact ⟨_, rfl⟩

theorem writeField_undecided (h : f.head ≠ []) :
    writeField operands expand f .undecided = writeField operands expand f .manual := by
  rw [writeField, writeField, operandOf_undecided h]

/-! ## Formats with the field of the label -/

/-- What a format is applied to. -/
def operandsFor (number : Nat) (label : List Char) : List (Operand Things.Thing) :=
  [.number number, .text label]

/-- How the formats in specifications are applied. -/
def expandFor (number : Nat) (label : List Char) :
    List Char → Numbering → Result (List Char × Numbering) :=
  renderDeep (operandsFor number label) 1

theorem expandFor_keeps {p : Numbering → Prop} (hp : Kept p) (spec : List Char)
    (numbering : Numbering) (text : List Char) (next : Numbering)
    (h : expandFor number label spec numbering = .ok (text, next)) (hnumbering : p numbering) :
    p next :=
  renderDeep_keeps hp h hnumbering

/-- A field that is a number and nothing else writes the operand with this number. -/
theorem writeField_plain {c : Char} {i : Nat} {o : Operand Things.Thing} (hmark : isPathMark c = false)
    (hnumber : wholeNumber [c] = .ok (some i)) (ho : operands[i]? = some o)
    (hwrite : o.write [] = .ok text) :
    writeField operands expand (plainField c) .manual = .ok (text, .manual) := by
  have hoperand : operandOf operands (plainField c).name .manual = .ok (o, .manual) := by
    have hhead : (plainField c).name.takeWhile (fun c => !isPathMark c) = [c] :=
      head_plainField hmark
    rw [operandOf, hhead]
    dsimp only
    rw [indexOf, hnumber]
    dsimp only [bind, Except.bind, pure, Except.pure]
    rw [ho]
    rfl
  exact writeField_eq_ok_iff.2 ⟨_, _, _, _, hoperand, rfl, rfl, hwrite⟩

theorem writeField_numberField (number : Nat) (label : List Char) :
    writeField (operandsFor number label) expand numberField .manual =
      .ok (Number.decimalDigits number, .manual) := by
  have ho : (operandsFor number label)[0]? = some (.number number) := rfl
  exact writeField_plain (by decide) wholeNumber_zero ho rfl

theorem writeField_label (number : Nat) (label : List Char) :
    writeField (operandsFor number label) expand labelField .manual = .ok (label, .manual) := by
  have ho : (operandsFor number label)[1]? = some (.text label) := rfl
  exact writeField_plain (by decide) wholeNumber_one ho rfl

theorem writeField_label_automatic (h : IsAutomatic numbering) {result : List Char × Numbering} :
    writeField operands expand labelField numbering ≠ .ok result := by
  intro hwritten
  obtain ⟨k, rfl⟩ := h
  obtain ⟨_, _, _, _, ho, -⟩ := writeField_eq_ok_iff.1 hwritten
  have hhead : labelField.name.takeWhile (fun c => !isPathMark c) = ['1'] := by decide
  rw [operandOf, hhead] at ho
  dsimp only at ho
  rw [indexOf, wholeNumber_one] at ho
  cases ho

/-- The parts are written for a number and a label as a text. -/
def Yields (number : Nat) (label : List Char) (numbering : Numbering) (parts : List Part)
    (text : List Char) : Prop :=
  ∃ next, writeParts (operandsFor number label) (expandFor number label) parts numbering =
    .ok (text, next)

/-- The field of the label names its operand, so it cannot follow a field that does not. -/
theorem not_yields_automatic (hlabel : .field labelField ∈ parts)
    (hnumbering : IsAutomatic numbering) : ¬ Yields number label numbering parts text := by
  induction parts generalizing numbering text with
  | nil => cases hlabel
  | cons part parts ih =>
    rintro ⟨next, h⟩
    obtain ⟨_, after, rest, hpart, hrest, -⟩ := writeParts_cons_eq_ok_iff.1 h
    rcases List.mem_cons.1 hlabel with rfl | hmem
    · exact writeField_label_automatic hnumbering hpart
    · have hafter := writePart_keeps kept_automatic (expandFor_keeps kept_automatic) hpart
        hnumbering
      exact ih hmem hafter ⟨next, hrest⟩

theorem yields_literal_iff {c : Char} :
    Yields number label numbering (.literal c :: parts) text ↔
      ∃ rest, Yields number label numbering parts rest ∧ text = c :: rest := by
  constructor
  · rintro ⟨next, h⟩
    obtain ⟨_, _, rest, hpart, hrest, rfl⟩ := writeParts_cons_eq_ok_iff.1 h
    cases hpart
    exact ⟨rest, ⟨next, hrest⟩, rfl⟩
  · rintro ⟨rest, ⟨next, hrest⟩, rfl⟩
    exact ⟨next, writeParts_cons_eq_ok_iff.2 ⟨_, _, rest, rfl, hrest, rfl⟩⟩

/-- A format with the field of the label is written as if every field had to name its operand. -/
theorem yields_undecided_iff (hlabel : .field labelField ∈ parts) :
    Yields number label .undecided parts text ↔ Yields number label .manual parts text := by
  induction parts generalizing text with
  | nil => cases hlabel
  | cons part parts ih =>
    cases part with
    | literal c =>
      rw [yields_literal_iff, yields_literal_iff]
      simp only [ih ((List.mem_cons.1 hlabel).resolve_left nofun)]
    | field f =>
      by_cases hhead : f.head = []
      · -- Counted fields and the field of the label exclude each other.
        obtain ⟨hmanual, hautomatic⟩ := operandOf_of_no_head hhead
        have hmem : .field labelField ∈ parts := by
          refine (List.mem_cons.1 hlabel).resolve_left fun heq => ?_
          rw [← Part.field.inj heq] at hhead
          exact absurd hhead (by decide)
        constructor
        · rintro ⟨next, h⟩
          obtain ⟨_, _, rest, hpart, hrest, -⟩ := writeParts_cons_eq_ok_iff.1 h
          obtain ⟨_, _, _, _, ho, -, hspec, -⟩ := writeField_eq_ok_iff.1 hpart
          have hafter := specBy_keeps (expandFor_keeps kept_automatic) hspec (hautomatic _ _ ho)
          exact absurd ⟨next, hrest⟩ (not_yields_automatic hmem hafter)
        · rintro ⟨next, h⟩
          obtain ⟨_, _, _, hpart, -⟩ := writeParts_cons_eq_ok_iff.1 h
          obtain ⟨_, _, _, _, ho, -⟩ := writeField_eq_ok_iff.1 hpart
          rw [hmanual] at ho
          cases ho
      · rw [Yields, Yields, writeParts, writeParts, writePart, writePart,
          writeField_undecided hhead]

/-- The text of a part where every field names its operand. -/
def Part.written (number : Nat) (label : List Char) (part : Part) : Result (List Char) :=
  (writePart (operandsFor number label) (expandFor number label) part .manual).map Prod.fst

theorem written_eq_ok_iff {part : Part} :
    part.written number label = .ok text ↔
      writePart (operandsFor number label) (expandFor number label) part .manual =
        .ok (text, .manual) := by
  rw [Part.written]
  cases h : writePart (operandsFor number label) (expandFor number label) part .manual with
  | error fault => exact ⟨nofun, nofun⟩
  | ok result =>
    obtain ⟨written, next⟩ := result
    obtain rfl := writePart_keeps kept_manual (expandFor_keeps kept_manual) h rfl
    simp [Except.map]

theorem yields_manual_iff :
    Yields number label .manual parts text ↔
      ∃ texts, List.Forall₂ (fun part written => part.written number label = .ok written)
        parts texts ∧ text = texts.flatten := by
  induction parts generalizing text with
  | nil =>
    constructor
    · rintro ⟨next, h⟩
      cases h
      exact ⟨[], .nil, rfl⟩
    · rintro ⟨texts, hall, rfl⟩
      cases hall
      exact ⟨_, rfl⟩
  | cons part parts ih =>
    constructor
    · rintro ⟨next, h⟩
      obtain ⟨written, after, rest, hpart, hrest, rfl⟩ := writeParts_cons_eq_ok_iff.1 h
      obtain rfl := writePart_keeps kept_manual (expandFor_keeps kept_manual) hpart rfl
      obtain ⟨texts, htexts, rfl⟩ := ih.1 ⟨next, hrest⟩
      exact ⟨written :: texts, .cons (written_eq_ok_iff.2 hpart) htexts, rfl⟩
    · rintro ⟨texts, hall, rfl⟩
      obtain ⟨written, texts, hpart, htexts, rfl⟩ := List.forall₂_cons_left_iff.1 hall
      obtain ⟨next, hrest⟩ := ih.2 ⟨texts, htexts, rfl⟩
      exact ⟨next, writeParts_cons_eq_ok_iff.2
        ⟨_, _, _, written_eq_ok_iff.1 hpart, hrest, rfl⟩⟩

/-! ## Rendering -/

theorem reads_of_render (h : render format number label = .ok text) :
    ∃ parts, Reads format parts := by
  rw [render] at h
  cases hdeep : renderDeep [.number number, .text label] 2 format .undecided with
  | error fault =>
    rw [hdeep] at h
    cases h
  | ok result => exact reads_of_renderPieces (Nat.lt_succ_self _) hdeep

theorem render_eq_ok_iff (hreads : Reads format parts) :
    render format number label = .ok text ↔ Yields number label .undecided parts text := by
  have hdeep : renderDeep [.number number, .text label] 2 format .undecided =
      writeParts (operandsFor number label) (expandFor number label) parts .undecided :=
    renderPieces_of_reads hreads (Nat.lt_succ_self _)
  rw [render, hdeep, Yields]
  cases writeParts (operandsFor number label) (expandFor number label) parts .undecided with
  | error fault => exact ⟨nofun, nofun⟩
  | ok result =>
    obtain ⟨written, next⟩ := result
    simp [Except.map]

section Label
variable (hreads : Reads format parts) (hlabel : .field labelField ∈ parts)
include hreads hlabel

theorem render_of_label :
    render format number label = .ok text ↔
      ∃ texts, List.Forall₂ (fun part written => part.written number label = .ok written)
        parts texts ∧ text = texts.flatten := by
  rw [render_eq_ok_iff hreads, yields_undecided_iff hlabel, yields_manual_iff]

/-- A format with the field of the label is rendered if all of its parts are written. -/
theorem exists_render_iff :
    (∃ text, render format number label = .ok text) ↔
      ∀ part ∈ parts, ∃ written, part.written number label = .ok written := by
  rw [← exists_forall₂_iff]
  simp only [render_of_label hreads hlabel]
  constructor
  · rintro ⟨_, texts, hall, -⟩
    exact ⟨texts, hall⟩
  · rintro ⟨texts, hall⟩
    exact ⟨_, texts, hall, rfl⟩

theorem label_infix_of_render (h : render format number label = .ok text) : label <:+: text := by
  obtain ⟨texts, hall, rfl⟩ := (render_of_label hreads hlabel).1 h
  obtain ⟨written, hmem, hwritten⟩ := exists_mem_of_forall₂ hall hlabel
  have hlabelled := (writeField_label number label).symm.trans (written_eq_ok_iff.1 hwritten)
  cases hlabelled
  obtain ⟨before, after, rfl⟩ := List.append_of_mem hmem
  exact ⟨before.flatten, after.flatten, by simp⟩

end Label

end

/-- A part of the number that is found in its class is written like any other. -/
example : render "\x7b0.from_bytes\x7d: \x7b1\x7d".toList 1 ['a'] =
    .ok "<built-in method from_bytes of type object at 0x0>: a".toList := by
  decide +kernel

/-! ## Fields of the number -/

section
variable [Things]

theorem operandOf_number (h : f.IsNumber) (label label' : List Char) :
    operandOf (operandsFor number label) f.name numbering =
      operandOf (operandsFor number label') f.name numbering := by
  rw [operandOf, operandOf]
  cases hindex : indexOf (f.name.takeWhile fun c => !isPathMark c) numbering with
  | error fault => rfl
  | ok result =>
    obtain ⟨index, next⟩ := result
    obtain rfl := index_of_zero h.2 hindex
    rfl

theorem writeParts_number (h : ∀ f, .field f ∈ parts → f.IsNumber) (label label' : List Char)
    (expand expand' : List Char → Numbering → Result (List Char × Numbering)) :
    writeParts (operandsFor number label) expand parts numbering =
      writeParts (operandsFor number label') expand' parts numbering := by
  induction parts generalizing numbering with
  | nil => rfl
  | cons part parts ih =>
    have hrest := fun numbering => @ih numbering fun f hf => h f (List.mem_cons_of_mem part hf)
    have hpart : writePart (operandsFor number label) expand part numbering =
        writePart (operandsFor number label') expand' part numbering := by
      cases part with
      | literal c => rfl
      | field f =>
        have hf := h f List.mem_cons_self
        rw [writePart, writePart, writeField, writeField, operandOf_number hf label label']
        simp only [Field.specBy, hf.1, Bool.false_eq_true, if_false]
    simp only [writeParts, hpart, hrest]

/-- Where every field is one of the number, the label makes no difference. -/
theorem render_number (hreads : Reads format parts) (h : ∀ f, .field f ∈ parts → f.IsNumber)
    (label label' : List Char) :
    render format number label = .ok text ↔ render format number label' = .ok text := by
  rw [render_eq_ok_iff hreads, render_eq_ok_iff hreads, Yields, Yields,
    writeParts_number h label label' _ (expandFor number label')]

end

end FormDialogue.Format
