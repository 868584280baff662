import FormDialogue.Proofs.Unicode.TableSearch

/-! # Lower case is settled

A character that is the lower case of another one is its own lower case, and it has an upper case.
So a character agrees with its lower case when they are compared without regard to case. The tables
are checked run by run: the ends of a run of lower-case characters are found in the same entries. -/

namespace FormDialogue.Unicode
variable {c : Char}

/-- A character that lower case leaves as it is and upper case does not. -/
def isSettled (c : Char) : Bool := lowerHead c == c && upperHead c != c

namespace Shift
variable {s t : Shift} {a b i n d step : Nat}

def moved (s : Shift) (n : Nat) : Nat := Int.toNat (n + s.offset)

/-- The shift, which begins at or before `a`, moves nothing from there on by steps. -/
def skips (t : Shift) (a step : Nat) : Bool :=
  t.last < a || (step % t.stride == 0 && (a - t.first) % t.stride != 0)

/-- The shift, which begins at or before `a`, moves everything from there to `b` by steps. -/
def takes (t : Shift) (a b step : Nat) : Bool :=
  b ≤ t.last && step % t.stride == 0 && (a - t.first) % t.stride == 0 && t.offset != 0

theorem sub_mod_stride (hfirst : t.first ≤ a) (hstep : step % t.stride = 0) (i : Nat) :
    (a + i * step - t.first) % t.stride = (a - t.first) % t.stride := by
  have hmul : i * step % t.stride = 0 := by
    rw [Nat.mul_mod, hstep, Nat.mul_zero, Nat.zero_mod]
  rw [Nat.sub_add_comm hfirst, Nat.add_mod, hmul, Nat.add_zero, Nat.mod_mod]

theorem target?_of_skips (hfirst : t.first ≤ a) (h : t.skips a step = true) (i : Nat) :
    t.target? (a + i * step) = none := by
  rw [target?, if_neg]
  rw [skips, Bool.or_eq_true, Bool.and_eq_true] at h
  simp only [decide_eq_true_eq, beq_iff_eq, bne_iff_ne, ne_eq] at h
  rcases h with hlast | ⟨hstep, hmod⟩
  · simp only [Bool.and_eq_true, decide_eq_true_eq]
    omega
  · rw [← sub_mod_stride hfirst hstep i] at hmod
    simp [hmod]

theorem target?_of_takes (hfirst : t.first ≤ a) (h : t.takes a b step = true)
    (hb : a + i * step ≤ b) : t.target? (a + i * step) = some (t.moved (a + i * step)) := by
  simp only [takes, Bool.and_eq_true, decide_eq_true_eq, beq_iff_eq] at h
  obtain ⟨⟨⟨hlast, hstep⟩, hmod⟩, -⟩ := h
  rw [← sub_mod_stride hfirst hstep i] at hmod
  rw [target?, if_pos, moved]
  simp [hmod, hb.trans hlast]

theorem moved_ne (h : t.takes a b step = true) (hn : 0 < n) : t.moved n ≠ n := by
  simp only [takes, Bool.and_eq_true, bne_iff_ne, ne_eq] at h
  rw [moved]
  omega

/-- Whether a run of code points from `a` to `b` can be read off from its ends. -/
def isSettledRun (a b step : Nat) : Bool :=
  (0 < a && (b < 0x130 || 0x130 < a) && (b < 0xD800 || (0xDFFF < a && b < 0x110000))) &&
  match lastBelow first lowerShifts a, lastBelow first lowerShifts b, lastBelow first upperShifts a,
    lastBelow first upperShifts b with
  | some l, some l', some u, some u' =>
    l.first == l'.first && u.first == u'.first && l.skips a step && u.takes a b step
  | _, _, _, _ => false

def targets (s : Shift) : List Nat :=
  (List.range ((s.last - s.first) / s.stride + 1)).map fun i => s.moved (s.first + i * s.stride)

/-- What the shift leads to is settled: as a run, or else one by one. -/
def isSettling (s : Shift) : Bool :=
  (0 ≤ s.first + s.offset && isSettledRun (s.moved s.first) (s.moved s.last) s.stride) ||
    s.targets.all fun n => isSettled (Char.ofNat n)

theorem target?_eq_some (hfirst : s.first ≤ n) (h : s.target? n = some d) :
    n ≤ s.last ∧ d = s.moved n ∧
      ∃ i ≤ (s.last - s.first) / s.stride, n = s.first + i * s.stride := by
  rw [target?] at h
  split at h
  · next hin =>
    simp only [Bool.and_eq_true, decide_eq_true_eq, beq_iff_eq] at hin
    have hdiv := Nat.div_add_mod (n - s.first) s.stride
    rw [hin.2, Nat.add_zero, Nat.mul_comm] at hdiv
    exact ⟨hin.1, (Option.some.inj h).symm, (n - s.first) / s.stride,
      Nat.div_le_div_right (Nat.sub_le_sub_right hin.1 _), by omega⟩
  · cases h

theorem moved_mem_targets {i : Nat} (h : i ≤ (s.last - s.first) / s.stride) :
    s.moved (s.first + i * s.stride) ∈ s.targets :=
  List.mem_map.2 ⟨i, List.mem_range.2 (Nat.lt_succ_of_le h), rfl⟩

end Shift

/-! ## The tables -/

theorem lowerShifts_rising : Rising Shift.first lowerShifts := by decide +kernel

theorem upperShifts_rising : Rising Shift.first upperShifts := by decide +kernel

theorem lowerShifts_settling : ∀ s ∈ lowerShifts, s.isSettling = true := by
  have h : lowerShifts.toList.all Shift.isSettling = true := by decide +kernel
  exact fun s hs => List.all_eq_true.1 h s (Array.mem_toList_iff.2 hs)

theorem upperSequences_move :
    ∀ e ∈ upperSequences, (e.2.map Char.ofNat).headD (Char.ofNat e.1) ≠ Char.ofNat e.1 := by
  have h : upperSequences.toList.all (fun e =>
      (e.2.map Char.ofNat).headD (Char.ofNat e.1) != Char.ofNat e.1) = true := by decide +kernel
  intro e he
  have hmove := List.all_eq_true.1 h e (Array.mem_toList_iff.2 he)
  exact bne_iff_ne.1 hmove

theorem upperHead_ne (h : shifted upperShifts c ≠ c) : upperHead c ≠ c := by
  rw [upperHead, upperChar]
  split
  · next d mapped hlast =>
    split
    · next hd =>
      have hmove := upperSequences_move _ (lastBelow_mem hlast).1
      rwa [hd, Char.ofNat_toNat] at hmove
    · rw [List.headD_cons]
      exact h
  · rw [List.headD_cons]
    exact h

/-! ## Runs of code points -/

theorem toNat_ofNat {n : Nat} (h : n < 0xD800 ∨ 0xDFFF < n ∧ n < 0x110000) :
    (Char.ofNat n).toNat = n := by
  have hvalid : n.isValidChar := h
  rw [Char.ofNat, dif_pos hvalid]
  rfl

theorem ofNat_ne {d : Nat} (hd : d ≠ c.toNat) (hc : 0 < c.toNat) : Char.ofNat d ≠ c := by
  rintro rfl
  by_cases hvalid : d.isValidChar
  · rw [toNat_ofNat hvalid] at hd
    exact hd rfl
  · rw [Char.ofNat, dif_neg hvalid] at hc
    exact absurd hc (by decide)

theorem isSettled_of_run {a b step i : Nat} (h : Shift.isSettledRun a b step = true)
    (hb : a + i * step ≤ b) : isSettled (Char.ofNat (a + i * step)) = true := by
  rw [Shift.isSettledRun, Bool.and_eq_true] at h
  obtain ⟨hrange, h⟩ := h
  simp only [Bool.and_eq_true, Bool.or_eq_true, decide_eq_true_eq] at hrange
  have hcode : (Char.ofNat (a + i * step)).toNat = a + i * step := toNat_ofNat (by omega)
  split at h
  · next l l' u u' hla hlb hua hub =>
    simp only [Bool.and_eq_true, beq_iff_eq] at h
    obtain ⟨⟨⟨hl, hu⟩, hskips⟩, htakes⟩ := h
    have hlower := lastBelow_between lowerShifts_rising hla hlb hl (Nat.le_add_right _ _) hb
    have hupper := lastBelow_between upperShifts_rising hua hub hu (Nat.le_add_right _ _) hb
    rw [isSettled, Bool.and_eq_true, beq_iff_eq, bne_iff_ne]
    constructor
    · rw [lowerHead_eq_shifted ?_, shifted, hcode, hlower, Option.bind_some,
        Shift.target?_of_skips (lastBelow_mem hla).2 hskips]
      intro hdot
      rw [hdot] at hcode
      have : ('\u0130').toNat = 0x130 := rfl
      omega
    · apply upperHead_ne
      rw [shifted, hcode, hupper, Option.bind_some,
        Shift.target?_of_takes (lastBelow_mem hua).2 htakes hb]
      apply ofNat_ne
      · rw [hcode]
        exact Shift.moved_ne htakes (by omega)
      · rw [hcode]
        omega
  · cases h

theorem isSettled_target {s : Shift} {n d : Nat} (hs : s ∈ lowerShifts) (hfirst : s.first ≤ n)
    (hd : s.target? n = some d) : isSettled (Char.ofNat d) = true := by
  obtain ⟨hlast, rfl, i, hi, rfl⟩ := Shift.target?_eq_some hfirst hd
  have hsettling := lowerShifts_settling s hs
  rw [Shift.isSettling, Bool.or_eq_true, Bool.and_eq_true, decide_eq_true_eq] at hsettling
  rcases hsettling with ⟨hpos, hrun⟩ | hall
  · have hmoved : s.moved (s.first + i * s.stride) = s.moved s.first + i * s.stride := by
      rw [Shift.moved, Shift.moved]
      push_cast
      omega
    have hend : s.moved s.first + i * s.stride ≤ s.moved s.last := by
      rw [← hmoved, Shift.moved, Shift.moved]
      omega
    rw [hmoved]
    exact isSettled_of_run hrun hend
  · exact List.all_eq_true.1 hall _ (Shift.moved_mem_targets hi)

/-- Every character but the capital I with a dot has one character in lower case: itself, or one
that is settled. -/
theorem lowerHead_settled (h : c ≠ '\u0130') :
    lowerHead c = c ∨ isSettled (lowerHead c) = true := by
  rw [lowerHead_eq_shifted h]
  rcases shifted_cases lowerShifts c with heq | ⟨s, d, hs, hd, heq⟩
  · exact Or.inl heq
  · obtain ⟨hmem, hfirst⟩ := lastBelow_mem hs
    exact Or.inr (heq ▸ isSettled_target hmem hfirst hd)

end FormDialogue.Unicode

namespace FormDialogue.Regex
variable {flags : Flags} {c : Char}

theorem matchesCode_self (hascii : flags.ascii = false) (c : Char) :
    matchesCode flags c.toNat c = true := by
  rw [matchesCode]
  split
  · rw [sameFold, foldCode_toNat hascii, foldCase, hascii]
    simp
  · exact beq_self_eq_true _

/-- A character matches where its lower case is asked for. -/
theorem matchesCode_lowerHead (hascii : flags.ascii = false) (hcaseless : flags.caseless = true)
    (h : c ≠ '\u0130') : matchesCode flags (Unicode.lowerHead c).toNat c = true := by
  rcases Unicode.lowerHead_settled h with hsame | hsettled
  · rw [hsame]
    exact matchesCode_self hascii c
  · rw [Unicode.isSettled, Bool.and_eq_true, beq_iff_eq, bne_iff_ne] at hsettled
    have hfolds : foldsCode flags (Unicode.lowerHead c).toNat = true := by
      rw [foldsCode, charOf?_toNat, Option.map_some, Option.getD_some, folds, hascii]
      simp [Unicode.hasCase, hsettled.2]
    rw [matchesCode, hcaseless, hfolds, Bool.true_and, if_pos rfl, sameFold,
      foldCode_toNat hascii, hsettled.1, foldCase, hascii]
    simp

end FormDialogue.Regex
