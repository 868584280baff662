import FormDialogue.Proofs.Regex.Passing
import FormDialogue.Proofs.Regex.Reading

/-! # Counts in braces

The digits of a count stand between braces in the text. A count that is too large, or has too many
digits, ends the reading at once, and what is refused is not a fault of the syntax. -/

namespace FormDialogue.Regex
open Source
variable {pattern digits : List Char} {s : Source} {rest : List Token} {refusal : Refusal}

section
variable [Limits]

theorem ends_countOf (hcount : CountIn pattern digits)
    (hdigits : ∀ c ∈ digits, c.isDigit = true) : Ends pattern (fun _ => True) (countOf digits) := by
  unfold countOf
  split
  · next limit hlong => exact ⟨digits, hcount, hdigits, rfl, hlong⟩
  · dsimp only
    split
    · next hlarge => exact ⟨digits, hcount, hdigits, hlarge⟩
    · trivial

theorem ends_readCounts (h : .char '\x7b' :: s.rest <:+ tokens pattern) :
    Ends pattern (fun found => ∀ counts, found = some counts → counts.2.2.rest <:+ s.rest)
      (readCounts s) := by
  unfold readCounts
  refine (ends_takeWhile Char.isDigit _ s).bind ?_
  rintro ⟨low, s₁⟩ ⟨hlow, h₁⟩
  refine (ends_accept s₁ ',').bind ?_
  rintro ⟨comma, s₂⟩ h₂
  dsimp only at h₁ h₂ ⊢
  let Upper (found : List Char × Source) : Prop :=
    (∀ c ∈ found.1, c.isDigit = true) ∧ s₂.rest = (if comma then found.1.map .char else []) ++
      found.2.rest ∧ (comma = false → found.1 = low)
  refine .bind_ite (P := Upper) (fun hcomma => ?_) (fun hcomma => ?_) ?_
  · refine (ends_takeWhile Char.isDigit _ s₂).mono fun found hfound => ⟨hfound.1, ?_, fun hf => ?_⟩
    · rw [if_pos hcomma]
      exact hfound.2
    · rw [hcomma] at hf
      cases hf
  · refine ⟨hlow, ?_, fun _ => rfl⟩
    rw [if_neg hcomma]
    rfl
  rintro ⟨high, s₃⟩ ⟨hhigh, h₃, hsame⟩
  refine (ends_accept s₃ '\x7d').bind ?_
  rintro ⟨closed, s₄⟩ h₄
  dsimp only at h₃ h₄ ⊢
  cases closed with
  | false => exact fun _ hcounts => by cases hcounts
  | true =>
    rw [h₁, h₂, h₃, h₄] at h
    have hs : s₄.rest <:+ s.rest := by
      rw [h₁, h₂, h₃, h₄]
      simp only [← List.append_assoc]
      exact List.suffix_append _ _
    have hin : CountIn pattern low ∧ CountIn pattern high := by
      cases comma with
      | true =>
        have hbraces : '\x7b' :: low ++ ',' :: high ++ ['\x7d'] <:+: pattern :=
          infix_of_suffix s₄.rest (by simpa using h)
        exact ⟨.least hbraces, .most hbraces⟩
      | false =>
        obtain rfl : high = low := hsame rfl
        have hbraces : '\x7b' :: high ++ ['\x7d'] <:+: pattern :=
          infix_of_suffix s₄.rest (by simpa using h)
        exact ⟨.alone hbraces, .alone hbraces⟩
    refine (ends_countOf hin.1 hlow).bind fun least _ => ?_
    split
    · rintro _ ⟨⟩
      exact hs
    · refine (ends_countOf hin.2 hhigh).bind fun most _ => ?_
      split
      · exact .refuse _ _
      · rintro _ ⟨⟩
        exact hs

/-! ## Counts that are refused -/

theorem countOf_of_long {limit : Nat} (h : Limits.exceeded? digits.length = some limit) :
    countOf digits = .error (.longCount limit digits.length) := by
  rw [countOf, h]

theorem countOf_of_large (hshort : Limits.exceeded? digits.length = none)
    (hlarge : repeatLimit ≤ valueIn 10 digits) : countOf digits = .error .hugeCount := by
  rw [countOf, hshort]
  exact if_pos hlarge

theorem digits_ne_nil (h : countOf digits = .error refusal) : digits ≠ [] := by
  rintro rfl
  rw [countOf, Limits.exceeded?_of_small (by decide)] at h
  cases h

end

theorem takeWhile_all {p : Char → Bool} {cs : List Char} (limit : Nat)
    (hlimit : cs.length ≤ limit) (hcs : ∀ c ∈ cs, p c = true) (hrest : .dangling ∉ rest)
    (hstop : ∀ c, rest.head? = some (.char c) → p c = false) (i : Nat) :
    takeWhile p limit ⟨cs.map .char ++ rest, i⟩ = .ok (cs, ⟨rest, i + cs.length⟩) := by
  induction cs generalizing limit i with
  | nil =>
    cases limit with
    | zero => rfl
    | succ limit =>
      rw [List.map_nil, List.nil_append, takeWhile]
      split
      · next c rest' heq =>
        obtain rfl : rest = .char c :: rest' := heq
        rw [if_neg (by rw [hstop c rfl]; decide)]
        rfl
      · rfl
  | cons c cs ih =>
    obtain ⟨limit, rfl⟩ : ∃ k, limit = k + 1 :=
      ⟨limit - 1, by rw [List.length_cons] at hlimit; omega⟩
    obtain ⟨hc, hmore⟩ := List.forall_mem_cons.1 hcs
    have hrest' : .dangling ∉ cs.map Token.char ++ rest := by simpa using hrest
    have hread := ih limit (Nat.le_of_succ_le_succ hlimit) hmore (i + 1)
    rw [List.map_cons, List.cons_append, takeWhile]
    simp only [hc, if_true, checked_of_not_mem hrest', bind, Except.bind, hread]
    rw [List.length_cons, Nat.add_assoc, Nat.add_comm 1]
    rfl

section
variable [Limits]

theorem readCounts_error (hdigits : ∀ c ∈ digits, c.isDigit = true) (hrest : .dangling ∉ rest)
    (h : countOf digits = .error refusal) (i : Nat) :
    readCounts ⟨digits.map .char ++ .char '\x7d' :: rest, i⟩ = .error refusal := by
  have hclose : .dangling ∉ .char '\x7d' :: rest := by simpa using hrest
  have hlow := takeWhile_all (digits.map Token.char ++ .char '\x7d' :: rest).length
    (by simp) hdigits hclose (fun c hc => by cases hc; rfl) i
  have hcomma : accept ⟨.char '\x7d' :: rest, i + digits.length⟩ ',' =
      .ok (false, ⟨.char '\x7d' :: rest, i + digits.length⟩) := rfl
  simp only [readCounts, hlow, hcomma, accept_same hrest, h, bind, Except.bind, pure, Except.pure,
    Bool.false_eq_true, if_false, Bool.not_true]

theorem readChar_counts {r : Reader} {i : Nat} (hverbose : r.level.verbose = false)
    (hdigits : ∀ c ∈ digits, c.isDigit = true) (hrest : .dangling ∉ rest)
    (h : countOf digits = .error refusal) :
    readChar r i '\x7b' ⟨digits.map .char ++ .char '\x7d' :: rest, i + 1⟩ = .error refusal := by
  have hopen : peek ⟨digits.map .char ++ .char '\x7d' :: rest, i + 1⟩ (· == '\x7d') = false := by
    cases digits with
    | nil => exact absurd rfl (digits_ne_nil h)
    | cons d digits =>
      have hd : d.isDigit = true := hdigits d List.mem_cons_self
      refine beq_eq_false_iff_ne.2 ?_
      rintro rfl
      revert hd
      decide
  simp only [readChar, hverbose, Bool.false_and, Bool.false_eq_true, if_false, hopen,
    readCounts_error hdigits hrest h, bind, Except.bind]

end

/-- A group of one character, with a count behind it. -/
def counted (c : Char) (digits : List Char) : List Char :=
  '(' :: c :: '\x7b' :: digits ++ ['\x7d', ')']

theorem tokens_chars {cs : List Char} (h : '\\' ∉ cs) : tokens cs = cs.map .char := by
  induction cs with
  | nil => rfl
  | cons c cs ih =>
    obtain ⟨hc, hcs⟩ := not_or.1 (mt List.mem_cons.2 h)
    rw [tokens_char (Ne.symm hc), ih hcs, List.map_cons]

theorem tokens_counted {c : Char} (hc : c ≠ '\\') (hdigits : ∀ c ∈ digits, c.isDigit = true) :
    tokens (counted c digits) = .char '(' :: .char c :: .char '\x7b' ::
      (digits.map .char ++ [.char '\x7d', .char ')']) := by
  have hbackslash : '\\' ∉ digits := fun hmem => absurd (hdigits _ hmem) (by decide)
  rw [tokens_chars (by simp [counted, hbackslash, Ne.symm hc]), counted]
  simp

section
variable [Limits]

theorem readChar_group (rest : List Token) {r : Reader} {i : Nat}
    (hverbose : r.level.verbose = false) (hplain : rest.head? ≠ some (.char '?')) :
    ∃ r', readChar r i '(' ⟨rest, i + 1⟩ = .ok r' ∧ r'.source = ⟨rest, i + 1⟩ ∧
      r'.level.verbose = false ∧ r'.calls = 2 + r.calls := by
  simp only [readChar, hverbose, Bool.false_and, Bool.false_eq_true, if_false, readParenthesis,
    accept_other hplain, bind, Except.bind]
  exact ⟨_, rfl, rfl, hverbose, rfl⟩

theorem read_counted {flags : Flags} (hverbose : flags.verbose = false) {c : Char}
    (hc : c ∉ "\\()[?*+|\x7b.^$".toList) (hdigits : ∀ c ∈ digits, c.isDigit = true)
    (h : countOf digits = .error refusal) :
    read flags (counted c digits) = .error refusal := by
  have hother : ∀ d ∈ "\\()[?*+|\x7b.^$".toList, c ≠ d := fun d hd heq => hc (heq ▸ hd)
  have hmarks : "[?*+\x7b.(^$".toList ⊆ "\\()[?*+|\x7b.^$".toList := by decide
  have htokens := tokens_counted (hother '\\' (by decide)) hdigits
  have hcount : .dangling ∉ digits.map Token.char ++ [.char '\x7d', .char ')'] := by simp
  generalize hbraces : digits.map Token.char ++ [.char '\x7d', .char ')'] = braces at htokens hcount
  have hopen : .dangling ∉ .char '\x7b' :: braces := by simpa using hcount
  have hrest : .dangling ∉ .char c :: .char '\x7b' :: braces := by simpa using hcount
  have hsource : Source.ofPattern (counted c digits) = .ok ⟨tokens (counted c digits), 0⟩ :=
    checked_of_not_mem (by rw [htokens]; simpa using hcount) 0
  rw [read, hsource, htokens]
  let start : Reader := ⟨⟨.char '(' :: .char c :: .char '\x7b' :: braces, 0⟩, .none, flags,
    ⟨.whole, 0, flags.verbose, [], []⟩, []⟩
  obtain ⟨inner, hinner, hsource₁, hverbose₁, hcalls₁⟩ := readChar_group
    (.char c :: .char '\x7b' :: braces) (r := start) (i := 0) hverbose
    (by simpa using hother '?' (by decide))
  let body : Reader :=
    { inner with source := ⟨.char '\x7b' :: braces, 2⟩ }.push (.code false c.toNat)
  have hbody : readChar inner 1 c ⟨.char '\x7b' :: braces, 2⟩ = .ok body :=
    readChar_plain hverbose₁ (fun hmem => hc (hmarks hmem)) _
  have hend : readChar body 2 '\x7b' ⟨braces, 3⟩ = .error refusal :=
    hbraces ▸ readChar_counts (r := body) hverbose₁ hdigits (by decide) h
  -- The group is opened, its character is read, and the count behind it ends the reading.
  calc readAll (braces.length + 3 + 1) start
      = readAll (braces.length + 2 + 1) inner :=
        readAll_char rfl hrest (by decide) (by decide) hinner (calls_le_of_opened hcalls₁)
    _ = readAll (braces.length + 1 + 1) body :=
        readAll_char hsource₁ hopen (hother ')' (by decide)) (hother '|' (by decide)) hbody
          (calls_le_of_opened hcalls₁)
    _ = .error refusal := by
        rw [readAll_char_eq (i := 2) rfl hcount (by decide) (by decide), readNested_eq_error hend]
        rfl

theorem compile_counted {flags : Flags} (hverbose : flags.verbose = false) {c : Char}
    (hc : c ∉ "\\()[?*+|\x7b.^$".toList) (hdigits : ∀ c ∈ digits, c.isDigit = true)
    (h : countOf digits = .error refusal) :
    compile flags (String.ofList (counted c digits)) = .error refusal := by
  rw [compile, String.toList_ofList, read_counted hverbose hc hdigits h]
  rfl

end

end FormDialogue.Regex
