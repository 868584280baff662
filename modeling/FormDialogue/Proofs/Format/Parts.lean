import FormDialogue.Format.Render

/-! # Parts of a format

A format that can be read through consists of literal characters and fields. Rendering it writes the
parts one after the other, and a format that cannot be read through is never rendered. -/

namespace FormDialogue

theorem bind_eq_ok_iff {ε α β : Type} {e : Except ε α} {f : α → Except ε β} {b : β} :
    (e >>= f) = .ok b ↔ ∃ a, e = .ok a ∧ f a = .ok b := by
  constructor
  · intro h
    cases e with
    | error fault => cases h
    | ok a => exact ⟨a, rfl, h⟩
  · rintro ⟨a, rfl, h⟩
    exact h

namespace Format
variable {format rest text : List Char} {f : Field} {numbering : Numbering} {fuel : Nat}

inductive Part
  | literal (c : Char)
  | field (f : Field)
  deriving DecidableEq, Repr

/-- The format consists of the parts. -/
inductive Reads : List Char → List Part → Prop
  | finish : Reads [] []
  | literal {format rest : List Char} {c : Char} {parts : List Part}
    (h : nextPiece format = .ok (.literal c rest)) (hrest : Reads rest parts) :
    Reads format (.literal c :: parts)
  | field {format rest : List Char} {f : Field} {parts : List Part}
    (h : nextPiece format = .ok (.field f rest)) (hrest : Reads rest parts) :
    Reads format (.field f :: parts)

/-! ## Reading comes to an end -/

theorem fieldName_rest_length {inBracket : Bool} {name name' : List Char} {c : Char}
    (h : fieldName inBracket name text = .ok (name', c, rest)) : rest.length < text.length := by
  induction text generalizing inBracket name with
  | nil => cases h
  | cons d text ih =>
    rw [fieldName] at h
    split at h
    · exact Nat.lt_succ_of_lt (ih h)
    split at h
    · cases h
    split at h
    · exact Nat.lt_succ_of_lt (ih h)
    split at h
    · cases h
      exact Nat.lt_succ_self _
    · exact Nat.lt_succ_of_lt (ih h)

theorem fieldSpec_rest_length {depth : Nat} {spec spec' : List Char}
    (h : fieldSpec depth spec text = .ok (spec', rest)) : rest.length < text.length := by
  induction text generalizing depth spec with
  | nil => cases h
  | cons d text ih =>
    rw [fieldSpec.eq_def] at h
    dsimp only at h
    split at h
    · exact Nat.lt_succ_of_lt (ih h)
    split at h
    · cases depth with
      | zero =>
        cases h
        exact Nat.lt_succ_self _
      | succ depth => exact Nat.lt_succ_of_lt (ih h)
    · exact Nat.lt_succ_of_lt (ih h)

theorem withSpec_rest_length {name : List Char} {conversion : Option Char}
    (h : withSpec name conversion text = .ok (f, rest)) : rest.length < text.length := by
  obtain ⟨⟨spec, more⟩, hspec, h⟩ := bind_eq_ok_iff.1 h
  cases h
  exact fieldSpec_rest_length hspec

theorem readField_rest_length (h : readField text = .ok (f, rest)) :
    rest.length < text.length := by
  obtain ⟨⟨name, c, more⟩, hname, h⟩ := bind_eq_ok_iff.1 h
  have hmore := fieldName_rest_length hname
  split at h
  · next heq =>
    cases heq
    exact Nat.lt_trans (withSpec_rest_length h) hmore
  · next heq =>
    cases heq
    split at h
    · cases h
    · exact absurd (withSpec_rest_length h) (Nat.not_lt_zero _)
    · cases h
      exact Nat.lt_trans (Nat.lt_add_of_pos_right Nat.zero_lt_two) hmore
    · exact Nat.lt_trans (withSpec_rest_length h) (Nat.lt_trans
        (Nat.lt_add_of_pos_right Nat.zero_lt_two) hmore)
    · cases h
  · next heq =>
    cases heq
    cases h
    exact hmore

/-- What is left to be read. -/
def Piece.left : Piece → List Char
  | literal _ rest | field _ rest => rest
  | finish => []

/-- The last piece comes at the end, and every other one leaves less to be read. -/
theorem nextPiece_progress {piece : Piece} (h : nextPiece format = .ok piece) :
    (piece = .finish ∧ format = []) ∨ (piece ≠ .finish ∧ piece.left.length < format.length) := by
  cases format with
  | nil =>
    cases h
    exact Or.inl ⟨rfl, rfl⟩
  | cons c format =>
    right
    rw [nextPiece.eq_def] at h
    dsimp only at h
    split at h
    · cases h
      exact ⟨nofun, Nat.lt_succ_self _⟩
    cases format with
    | nil => cases h
    | cons d more =>
      dsimp only at h
      split at h
      · cases h
        exact ⟨nofun, Nat.lt_add_of_pos_right Nat.zero_lt_two⟩
      split at h
      · cases h
      cases hfield : readField (d :: more) with
      | error fault =>
        rw [hfield] at h
        cases h
      | ok read =>
        rw [hfield] at h
        cases h
        exact ⟨nofun, Nat.lt_succ_of_lt (readField_rest_length hfield)⟩

theorem nextPiece_finish (h : nextPiece format = .ok .finish) : format = [] := by
  rcases nextPiece_progress h with ⟨-, hnil⟩ | ⟨hne, -⟩
  · exact hnil
  · exact absurd rfl hne

theorem left_lt_fuel {piece : Piece} (h : nextPiece format = .ok piece) (hne : piece ≠ .finish)
    (hfuel : format.length < fuel + 1) : piece.left.length < fuel := by
  rcases nextPiece_progress h with ⟨heq, -⟩ | ⟨-, hleft⟩
  · exact absurd heq hne
  · omega

/-! ## Writing the parts -/

section
variable [Things] {operands : List (Operand Things.Thing)}
  {expand : List Char → Numbering → Result (List Char × Numbering)}

def Operand.converted (o : Operand Things.Thing) : Option Char → Result (Operand Things.Thing)
  | some c => o.convert c
  | none => .ok o

def Field.specBy (expand : List Char → Numbering → Result (List Char × Numbering)) (f : Field)
    (numbering : Numbering) : Result (List Char × Numbering) :=
  if f.nested then expand f.spec numbering else .ok (f.spec, numbering)

/-- The text of a field, and the numbering after it. -/
def writeField (operands : List (Operand Things.Thing))
    (expand : List Char → Numbering → Result (List Char × Numbering)) (f : Field)
    (numbering : Numbering) : Result (List Char × Numbering) := do
  let (o, numbering) ← operandOf operands f.name numbering
  let o ← o.converted f.conversion
  let (spec, numbering) ← f.specBy expand numbering
  let written ← o.write spec
  return (written, numbering)

def writePart (operands : List (Operand Things.Thing))
    (expand : List Char → Numbering → Result (List Char × Numbering)) :
    Part → Numbering → Result (List Char × Numbering)
  | .literal c, numbering => .ok ([c], numbering)
  | .field f, numbering => writeField operands expand f numbering

def writeParts (operands : List (Operand Things.Thing))
    (expand : List Char → Numbering → Result (List Char × Numbering)) :
    List Part → Numbering → Result (List Char × Numbering)
  | [], numbering => .ok ([], numbering)
  | part :: rest, numbering => do
    let (written, numbering) ← writePart operands expand part numbering
    let (text, numbering) ← writeParts operands expand rest numbering
    return (written ++ text, numbering)

theorem writeField_eq_ok_iff {next : Numbering} :
    writeField operands expand f numbering = .ok (text, next) ↔
      ∃ o after o' spec, operandOf operands f.name numbering = .ok (o, after) ∧
        o.converted f.conversion = .ok o' ∧ f.specBy expand after = .ok (spec, next) ∧
        o'.write spec = .ok text := by
  constructor
  · intro h
    obtain ⟨⟨o, after⟩, ho, h⟩ := bind_eq_ok_iff.1 h
    obtain ⟨o', ho', h⟩ := bind_eq_ok_iff.1 h
    obtain ⟨⟨spec, next⟩, hspec, h⟩ := bind_eq_ok_iff.1 h
    obtain ⟨written, hwritten, h⟩ := bind_eq_ok_iff.1 h
    cases h
    exact ⟨o, after, o', spec, ho, ho', hspec, hwritten⟩
  · rintro ⟨o, after, o', spec, ho, ho', hspec, hwritten⟩
    refine bind_eq_ok_iff.2 ⟨_, ho, bind_eq_ok_iff.2 ⟨_, ho', bind_eq_ok_iff.2 ⟨_, hspec, ?_⟩⟩⟩
    exact bind_eq_ok_iff.2 ⟨_, hwritten, rfl⟩

theorem writeParts_cons_eq_ok_iff {part : Part} {parts : List Part} {next : Numbering} :
    writeParts operands expand (part :: parts) numbering = .ok (text, next) ↔
      ∃ written after rest, writePart operands expand part numbering = .ok (written, after) ∧
        writeParts operands expand parts after = .ok (rest, next) ∧ text = written ++ rest := by
  constructor
  · intro h
    obtain ⟨⟨written, after⟩, hwritten, h⟩ := bind_eq_ok_iff.1 h
    obtain ⟨⟨rest, next⟩, hrest, h⟩ := bind_eq_ok_iff.1 h
    cases h
    exact ⟨written, after, rest, hwritten, hrest, rfl⟩
  · rintro ⟨written, after, rest, hwritten, hrest, rfl⟩
    exact bind_eq_ok_iff.2 ⟨_, hwritten, bind_eq_ok_iff.2 ⟨_, hrest, rfl⟩⟩

/-! ## Rendering writes the parts -/

theorem renderPieces_literal {c : Char} (h : nextPiece format = .ok (.literal c rest)) :
    renderPieces operands expand (fuel + 1) format numbering = do
      let (text, numbering) ← renderPieces operands expand fuel rest numbering
      return (c :: text, numbering) := by
  rw [renderPieces, h]
  rfl

theorem renderPieces_field (h : nextPiece format = .ok (.field f rest)) :
    renderPieces operands expand (fuel + 1) format numbering = do
      let (written, numbering) ← writeField operands expand f numbering
      let (text, numbering) ← renderPieces operands expand fuel rest numbering
      return (written ++ text, numbering) := by
  rw [renderPieces, h, writeField]
  change (operandOf operands f.name numbering >>= _) =
    (operandOf operands f.name numbering >>= _) >>= _
  rw [bind_assoc]
  apply bind_congr
  intro x
  unfold Field.specBy
  -- The rest of the format is rendered in every branch alike.
  cases f.conversion <;> cases f.nested <;>
    simp only [Operand.converted, bind_assoc, pure_bind, Bool.false_eq_true, if_false, if_true]

theorem renderPieces_of_reads {parts : List Part} (h : Reads format parts)
    (hfuel : format.length < fuel) :
    renderPieces operands expand fuel format numbering =
      writeParts operands expand parts numbering := by
  induction h generalizing fuel numbering with
  | finish =>
    obtain ⟨fuel, rfl⟩ := Nat.exists_eq_add_one.2 (Nat.zero_lt_of_lt hfuel)
    rfl
  | literal h _ ih =>
    obtain ⟨fuel, rfl⟩ := Nat.exists_eq_add_one.2 (Nat.zero_lt_of_lt hfuel)
    rw [renderPieces_literal h, ih (left_lt_fuel h nofun hfuel)]
    rfl
  | field h _ ih =>
    obtain ⟨fuel, rfl⟩ := Nat.exists_eq_add_one.2 (Nat.zero_lt_of_lt hfuel)
    rw [renderPieces_field h, writeParts]
    apply bind_congr
    rintro ⟨written, numbering⟩
    dsimp only
    rw [ih (left_lt_fuel h nofun hfuel)]

/-- Only a format that can be read through is rendered. -/
theorem reads_of_renderPieces {result : List Char × Numbering} (hfuel : format.length < fuel)
    (h : renderPieces operands expand fuel format numbering = .ok result) :
    ∃ parts, Reads format parts := by
  induction fuel generalizing format numbering result with
  | zero => exact absurd hfuel (Nat.not_lt_zero _)
  | succ fuel ih =>
    cases hpiece : nextPiece format with
    | error fault =>
      rw [renderPieces, hpiece] at h
      cases h
    | ok piece =>
      cases piece with
      | finish =>
        obtain rfl := nextPiece_finish hpiece
        exact ⟨[], .finish⟩
      | literal c rest =>
        rw [renderPieces_literal hpiece] at h
        obtain ⟨_, hrest, -⟩ := bind_eq_ok_iff.1 h
        obtain ⟨parts, hparts⟩ := ih (left_lt_fuel hpiece nofun hfuel) hrest
        exact ⟨_, .literal hpiece hparts⟩
      | field f rest =>
        rw [renderPieces_field hpiece] at h
        obtain ⟨_, -, h⟩ := bind_eq_ok_iff.1 h
        obtain ⟨_, hrest, -⟩ := bind_eq_ok_iff.1 h
        obtain ⟨parts, hparts⟩ := ih (left_lt_fuel hpiece nofun hfuel) hrest
        exact ⟨_, .field hpiece hparts⟩

end

end Format

end FormDialogue
