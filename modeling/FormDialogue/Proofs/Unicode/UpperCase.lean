import FormDialogue.Proofs.Unicode.LowerCase
import FormDialogue.Text.Casing

/-! # Upper case has no small letters

No mapping to upper case leads to one of the letters from a to z, and each of these letters has a
mapping. So the upper case of a text is free of them, whatever else it holds. -/

namespace FormDialogue.Unicode
variable {c x : Char}

/-- No code point of a shift is moved to a small letter. -/
def Shift.sparesSmall (s : Shift) : Bool := s.last + s.offset < 0x61 || 0x7A < s.first + s.offset

theorem upperShifts_spare : ∀ s ∈ upperShifts, s.sparesSmall = true := by
  have h : upperShifts.toList.all Shift.sparesSmall = true := by decide +kernel
  exact fun s hs => List.all_eq_true.1 h s (Array.mem_toList_iff.2 hs)

theorem upperSequences_spare :
    ∀ e ∈ upperSequences, ∀ n ∈ e.2, (Char.ofNat n).isLower = false := by
  have h : upperSequences.toList.all
      (fun e => e.2.all fun n => !(Char.ofNat n).isLower) = true := by decide +kernel
  intro e he n hn
  have hall := List.all_eq_true.1 (List.all_eq_true.1 h e (Array.mem_toList_iff.2 he)) n hn
  simpa using hall

theorem isLower_iff : c.isLower = true ↔ 0x61 ≤ c.toNat ∧ c.toNat ≤ 0x7A := by
  change (decide ('a'.val ≤ c.val) && decide (c.val ≤ 'z'.val)) = true ↔ _
  rw [Bool.and_eq_true, decide_eq_true_eq, decide_eq_true_eq, UInt32.le_iff_toNat_le,
    UInt32.le_iff_toNat_le]
  exact Iff.rfl

theorem isLower_ofNat {n : Nat} (h : n < 0x61 ∨ 0x7A < n) : (Char.ofNat n).isLower = false := by
  rw [← Bool.not_eq_true, isLower_iff]
  by_cases hvalid : n.isValidChar
  · rw [toNat_ofNat hvalid]
    omega
  · rw [Char.ofNat, dif_neg hvalid]
    decide

/-- The small letters themselves are moved. -/
theorem shifted_small (h : c.isLower = true) :
    shifted upperShifts c = Char.ofNat (c.toNat - 0x20) := by
  have hletters : ∀ i < 26, shifted upperShifts (Char.ofNat (0x61 + i)) =
      Char.ofNat (0x61 + i - 0x20) := by decide +kernel
  rw [isLower_iff] at h
  have hc := hletters (c.toNat - 0x61) (by omega)
  rwa [Nat.add_sub_cancel' h.1, Char.ofNat_toNat] at hc

theorem isLower_shifted (c : Char) : (shifted upperShifts c).isLower = false := by
  cases hlower : c.isLower with
  | true =>
    rw [shifted_small hlower]
    rw [isLower_iff] at hlower
    exact isLower_ofNat (by omega)
  | false =>
    rcases shifted_cases upperShifts c with heq | ⟨s, d, hs, hd, heq⟩
    · rw [heq]
      exact hlower
    · obtain ⟨hmem, hfirst⟩ := lastBelow_mem hs
      obtain ⟨hlast, rfl, -⟩ := Shift.target?_eq_some hfirst hd
      have hspare := upperShifts_spare s hmem
      simp only [Shift.sparesSmall, Bool.or_eq_true, decide_eq_true_eq] at hspare
      rw [heq]
      apply isLower_ofNat
      rw [Shift.moved]
      omega

theorem isLower_of_mem_upperChar (h : x ∈ upperChar c) : x.isLower = false := by
  rw [upperChar] at h
  split at h
  · next d mapped hlast =>
    split at h
    · obtain ⟨n, hn, rfl⟩ := List.mem_map.1 h
      exact upperSequences_spare _ (lastBelow_mem hlast).1 n hn
    · rw [List.mem_singleton.1 h]
      exact isLower_shifted c
  · rw [List.mem_singleton.1 h]
    exact isLower_shifted c

end FormDialogue.Unicode

namespace FormDialogue.Text

theorem isLower_of_mem_upper {text : List Char} {x : Char} (h : x ∈ upper text) :
    x.isLower = false := by
  obtain ⟨c, -, hx⟩ := List.mem_flatMap.1 h
  exact Unicode.isLower_of_mem_upperChar hx

end FormDialogue.Text
