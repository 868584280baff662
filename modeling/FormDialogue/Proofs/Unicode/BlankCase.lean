import FormDialogue.Regex.CharTest

/-! # Blank characters have no case

No case mapping moves a blank character or leads to one, and no blank character shares its upper
case with another one. So a blank character agrees without regard to case with blank characters
only. -/

namespace FormDialogue.Unicode
variable {α : Type} {c : Char}

/-! ## Searching a table -/

theorem lastBelowFrom_mem {key : α → Nat} {table : Array α} {n fuel low high : Nat} {x : α}
    (h : lastBelowFrom key table n fuel low high = some x) : x ∈ table ∧ key x ≤ n := by
  induction fuel generalizing low high with
  | zero => cases h
  | succ fuel ih =>
    rw [lastBelowFrom] at h
    split at h
    · dsimp only at h
      split at h
      · cases h
      · next y hy =>
        split at h
        · exact ih h
        · next hle =>
          rw [Option.orElse_eq_or, Option.or_eq_some_iff] at h
          rcases h with h | ⟨-, h⟩
          · exact ih h
          · obtain rfl := Option.some.inj h
            exact ⟨Array.mem_of_getElem? hy, Nat.le_of_not_lt hle⟩
    · cases h

theorem lastBelow_mem {key : α → Nat} {table : Array α} {n : Nat} {x : α}
    (h : lastBelow key table n = some x) : x ∈ table ∧ key x ≤ n :=
  lastBelowFrom_mem h

/-! ## Blank characters in the tables -/

/-- No blank character lies between the ends of a shift, before or after it. -/
def Shift.sparesBlanks (s : Shift) : Bool :=
  blanks.all fun b =>
    (b < s.first || s.last < b) && ((b : Int) < s.first + s.offset || s.last + s.offset < b)

theorem lowerShifts_spare : ∀ s ∈ lowerShifts, s.sparesBlanks = true := by
  have h : lowerShifts.all Shift.sparesBlanks = true := by decide +kernel
  exact fun s hs => Array.all_eq_true_iff_forall_mem.1 h s hs

theorem lowerSiblings_spare : ∀ e ∈ lowerSiblings, ∀ b ∈ e.2, b ∉ blanks := by
  have h : (lowerSiblings.all fun e => e.2.all fun b => !blanks.contains b) = true := by
    decide +kernel
  intro e he b hb
  have hall := List.all_eq_true.1 (Array.all_eq_true_iff_forall_mem.1 h e he) b hb
  simpa using hall

theorem mem_blanks_of_isBlank (h : isBlank c = true) : c.toNat ∈ blanks :=
  List.contains_iff_mem.1 h

theorem mem_blanks_of_isBlank_ofNat {n : Nat} (h : isBlank (Char.ofNat n) = true) :
    n ∈ blanks := by
  have hmem := mem_blanks_of_isBlank h
  by_cases hvalid : n.isValidChar
  · rw [Char.ofNat, dif_pos hvalid] at hmem
    exact hmem
  · rw [Char.ofNat, dif_neg hvalid] at hmem
    exact absurd hmem (by decide)

theorem not_blank_of_target {shifts : Array Shift} (hspare : ∀ s ∈ shifts, s.sparesBlanks = true)
    {n d : Nat} {s : Shift} (hs : lastBelow Shift.first shifts n = some s)
    (hd : s.target? n = some d) : n ∉ blanks ∧ d ∉ blanks := by
  obtain ⟨hmem, hfirst⟩ := lastBelow_mem hs
  rw [Shift.target?] at hd
  split at hd
  · next hin =>
    have hlast : n ≤ s.last := by simpa using (Bool.and_eq_true_iff.1 hin).1
    have hblanks := List.all_eq_true.1 (hspare s hmem)
    obtain rfl := Option.some.inj hd
    constructor
    · intro hn
      have h := hblanks n hn
      simp at h
      omega
    · intro hn
      have hpos : (Int.toNat (n + s.offset)) ≠ 0 := fun h0 => by
        rw [h0] at hn
        exact absurd hn (by decide)
      have h := hblanks _ hn
      simp at h
      omega
  · cases hd

theorem shifted_cases (shifts : Array Shift) (c : Char) :
    shifted shifts c = c ∨ ∃ s d, lastBelow Shift.first shifts c.toNat = some s ∧
      s.target? c.toNat = some d ∧ shifted shifts c = Char.ofNat d := by
  rw [shifted]
  split
  · next d hd =>
    obtain ⟨s, hs, hd⟩ := Option.bind_eq_some_iff.1 hd
    exact Or.inr ⟨s, d, hs, hd, rfl⟩
  · exact Or.inl rfl

theorem shifted_of_isBlank {shifts : Array Shift} (hspare : ∀ s ∈ shifts, s.sparesBlanks = true)
    (h : isBlank c = true) : shifted shifts c = c := by
  rcases shifted_cases shifts c with heq | ⟨s, d, hs, hd, -⟩
  · exact heq
  · exact absurd (mem_blanks_of_isBlank h) (not_blank_of_target hspare hs hd).1

theorem isBlank_of_shifted {shifts : Array Shift} (hspare : ∀ s ∈ shifts, s.sparesBlanks = true)
    (h : isBlank (shifted shifts c) = true) : isBlank c = true := by
  rcases shifted_cases shifts c with heq | ⟨s, d, hs, hd, heq⟩
  · exact heq ▸ h
  · exact absurd (mem_blanks_of_isBlank_ofNat (heq ▸ h)) (not_blank_of_target hspare hs hd).2

/-! ## Lower case -/

theorem lowerHead_eq_shifted (h : c ≠ '\u0130') : lowerHead c = shifted lowerShifts c := by
  rw [lowerHead, lowerChar, if_neg h, List.headD_cons]

theorem ne_dotted_of_isBlank (h : isBlank c = true) : c ≠ '\u0130' := fun hc => by
  simp [hc, isBlank, blanks] at h

theorem lowerHead_of_isBlank (h : isBlank c = true) : lowerHead c = c := by
  rw [lowerHead_eq_shifted (ne_dotted_of_isBlank h)]
  exact shifted_of_isBlank lowerShifts_spare h

theorem isBlank_of_lowerHead (h : isBlank (lowerHead c) = true) : isBlank c = true := by
  by_cases hdot : c = '\u0130'
  · rw [hdot] at h
    exact absurd h (by decide)
  rw [lowerHead_eq_shifted hdot] at h
  exact isBlank_of_shifted lowerShifts_spare h

theorem filter_isBlank_shifted {shifts : Array Shift}
    (hspare : ∀ s ∈ shifts, s.sparesBlanks = true) (c : Char) :
    [shifted shifts c].filter isBlank = [c].filter isBlank := by
  cases hc : isBlank c with
  | true => rw [shifted_of_isBlank hspare hc]
  | false =>
    have hshifted : isBlank (shifted shifts c) = false := by
      rw [← Bool.not_eq_true] at hc ⊢
      exact fun h => hc (isBlank_of_shifted hspare h)
    simp [hshifted, hc]

theorem filter_isBlank_lowerChar (c : Char) :
    (lowerChar c).filter isBlank = [c].filter isBlank := by
  rw [lowerChar]
  split
  · next hdot =>
    rw [hdot]
    decide
  · exact filter_isBlank_shifted lowerShifts_spare c

/-! ## Upper case -/

theorem upperShifts_spare_blanks : ∀ s ∈ upperShifts, s.sparesBlanks = true := by
  have h : upperShifts.all Shift.sparesBlanks = true := by decide +kernel
  exact fun s hs => Array.all_eq_true_iff_forall_mem.1 h s hs

theorem upperSequences_spare_blanks :
    ∀ e ∈ upperSequences, e.1 ∉ blanks ∧ (e.2.map Char.ofNat).filter isBlank = [] := by
  have h : (upperSequences.all fun e =>
      !blanks.contains e.1 && ((e.2.map Char.ofNat).filter isBlank).isEmpty) = true := by
    decide +kernel
  intro e he
  simpa using Array.all_eq_true_iff_forall_mem.1 h e he

theorem filter_isBlank_upperChar (c : Char) :
    (upperChar c).filter isBlank = [c].filter isBlank := by
  rw [upperChar]
  split
  · next d mapped hlast =>
    split
    · next hd =>
      obtain ⟨hblank, hmapped⟩ := upperSequences_spare_blanks _ (lastBelow_mem hlast).1
      have hc : isBlank c = false := by
        rw [← Bool.not_eq_true]
        exact fun h => hblank (hd ▸ mem_blanks_of_isBlank h)
      rw [hmapped]
      simp [hc]
    · exact filter_isBlank_shifted upperShifts_spare_blanks c
  · exact filter_isBlank_shifted upperShifts_spare_blanks c

/-! ## Siblings -/

theorem not_blank_of_mem_siblings {a b : Nat} (h : b ∈ siblings a) : b ∉ blanks := by
  rw [siblings] at h
  split at h
  · next hlast =>
    split at h
    · exact lowerSiblings_spare _ (lastBelow_mem hlast).1 b h
    · cases h
  · cases h

end FormDialogue.Unicode

namespace FormDialogue.Regex
open Unicode (isBlank)
variable {flags : Flags} {c x : Char}

theorem charOf?_toNat (c : Char) : charOf? c.toNat = some c := by
  have hvalid : c.toNat.isValidChar := c.valid
  rw [charOf?, if_pos hvalid, Char.ofNat_toNat]

theorem foldCode_toNat (hascii : flags.ascii = false) (c : Char) :
    foldCode flags c.toNat = (Unicode.lowerHead c).toNat := by
  rw [foldCode, charOf?_toNat, Option.map_some, Option.getD_some, foldCase, hascii]
  rfl

/-- Only a blank character matches a blank one. -/
theorem isBlank_of_matchesCode (hascii : flags.ascii = false)
    (hmatch : matchesCode flags c.toNat x = true) (hx : isBlank x = true) : isBlank c = true := by
  rw [matchesCode] at hmatch
  split at hmatch
  · rw [sameFold, foldCode_toNat hascii, foldCase, hascii] at hmatch
    simp only [Bool.false_eq_true, if_false, Unicode.lowerHead_of_isBlank hx, Bool.or_eq_true,
      beq_iff_eq, Bool.not_false, Bool.true_and, List.contains_iff_mem] at hmatch
    rcases hmatch with heq | hmem
    · apply Unicode.isBlank_of_lowerHead
      rw [Char.toNat_inj.1 heq]
      exact hx
    · exact absurd (Unicode.mem_blanks_of_isBlank hx) (Unicode.not_blank_of_mem_siblings hmem)
  · rw [beq_iff_eq, Char.toNat_inj] at hmatch
    rwa [← hmatch]

end FormDialogue.Regex
