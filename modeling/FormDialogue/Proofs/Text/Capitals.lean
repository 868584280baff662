import FormDialogue.Proofs.Text.WordHeads

/-! # Capitals by positions and by words

What is in upper case in a capitalized text is known position by position, and word by word between
the blanks. Blanks have no case, so they all stay. A text of ASCII characters keeps its length, and
to capitalize it again changes nothing. -/

namespace FormDialogue.Unicode
variable {c : Char}

theorem forall_ascii {p : Char → Prop} (hall : ∀ n < 128, p (Char.ofNat n))
    (hc : c.toNat < 128) : p c := by
  have h := hall c.toNat hc
  rwa [Char.ofNat_toNat] at h

theorem lowerChar_ascii (hc : c.toNat < 128) : lowerChar c = [c.toLower] :=
  forall_ascii (p := fun c => lowerChar c = [c.toLower]) (by decide +kernel) hc

theorem upperChar_ascii (hc : c.toNat < 128) : upperChar c = [c.toUpper] :=
  forall_ascii (p := fun c => upperChar c = [c.toUpper]) (by decide +kernel) hc

theorem toLower_ascii (hc : c.toNat < 128) :
    c.toLower.toNat < 128 ∧ c.toLower.toLower = c.toLower :=
  forall_ascii (p := fun c => c.toLower.toNat < 128 ∧ c.toLower.toLower = c.toLower)
    (by decide +kernel) hc

theorem toUpper_ascii (hc : c.toNat < 128) :
    c.toUpper.toNat < 128 ∧ c.toUpper.toLower = c.toLower :=
  forall_ascii (p := fun c => c.toUpper.toNat < 128 ∧ c.toUpper.toLower = c.toLower)
    (by decide +kernel) hc

end FormDialogue.Unicode

namespace FormDialogue.Text
open Regex (Place Replaced)
open Unicode (isBlank isWord lowerChar upperChar)
variable {b c : Char} {before rest text piece : List Char} {start : Bool}

/-! ## Position by position -/

/-- A word character stands at the position, and a blank before it or nothing. -/
def startsWord (text : List Char) (i : Nat) : Bool :=
  text[i]?.any isWord && (i == 0 || text[i - 1]?.any isBlank)

theorem startsWord_here (before : List Char) (c : Char) (rest : List Char) :
    startsWord (before.reverse ++ c :: rest) before.length =
      (before.head?.all isBlank && isWord c) := by
  have hhere : (before.reverse ++ c :: rest)[before.length]? = some c := by
    rw [← List.length_reverse, List.getElem?_append_right (Nat.le_refl _), Nat.sub_self]
    rfl
  rw [startsWord, hhere]
  cases before with
  | nil => simp
  | cons b before =>
    have hprevious : ((b :: before).reverse ++ c :: rest)[before.length]? = some b := by
      rw [List.reverse_cons, List.append_assoc, ← List.length_reverse,
        List.getElem?_append_right (Nat.le_refl _), Nat.sub_self]
      rfl
    rw [List.length_cons, Nat.add_sub_cancel, hprevious]
    simp [Bool.and_comm]

theorem capitalizeFrom_eq_flatMap (before rest : List Char) :
    capitalizeFrom (before.head?.all isBlank) rest = (rest.zipIdx before.length).flatMap fun p =>
      if startsWord (before.reverse ++ rest) p.2 then upper [p.1] else [p.1] := by
  induction rest generalizing before with
  | nil => rfl
  | cons c rest ih =>
    have htext : (c :: before).reverse ++ rest = before.reverse ++ c :: rest := by simp
    have hrest := ih (c :: before)
    rw [List.head?_cons, Option.all_some, htext] at hrest
    rw [capitalizeFrom, hrest, List.zipIdx_cons, List.flatMap_cons, startsWord_here, upper,
      List.flatMap_singleton]
    rfl

/-! ## Word by word -/

theorem splitOnP_solid_append (h : ∀ c ∈ piece, isBlank c = false) {first : List Char}
    {others : List (List Char)} (hrest : rest.splitOnP isBlank = first :: others) :
    (piece ++ rest).splitOnP isBlank = (piece ++ first) :: others := by
  induction piece with
  | nil => exact hrest
  | cons c piece ih =>
    have htail := ih fun d hd => h d (List.mem_cons_of_mem c hd)
    rw [List.cons_append, List.splitOnP_cons_eq_if_modifyHead, h c List.mem_cons_self, htail]
    rfl

/-- What stands for a character that is not blank has no blank. -/
theorem solid_written (hc : isBlank c = false) :
    ∀ x ∈ (if start && isWord c then upperChar c else [c]), isBlank x = false := by
  have hupper : (upperChar c).filter isBlank = [] := by
    rw [Unicode.filter_isBlank_upperChar]
    simp [hc]
  intro x hx
  split at hx
  · simpa using List.filter_eq_nil_iff.1 hupper x hx
  · rwa [List.mem_singleton.1 hx]

theorem capitalizeFrom_blank (hc : isBlank c = true) (start : Bool) (rest : List Char) :
    capitalizeFrom start (c :: rest) = c :: capitalize rest := by
  simp [capitalizeFrom, capitalize, Unicode.isWord_of_isBlank hc, hc]

theorem splitOnP_capitalizeFrom {first : List Char} {others : List (List Char)}
    (h : rest.splitOnP isBlank = first :: others) :
    (capitalizeFrom start rest).splitOnP isBlank =
      capitalizeFrom start first :: others.map capitalize := by
  induction rest generalizing start first others with
  | nil =>
    rw [List.splitOnP_nil, List.cons.injEq] at h
    obtain ⟨rfl, rfl⟩ := h
    rfl
  | cons c rest ih =>
    obtain ⟨next, more, hrest⟩ := List.exists_cons_of_ne_nil (List.splitOnP_ne_nil isBlank rest)
    rw [List.splitOnP_cons_eq_if_modifyHead, hrest] at h
    cases hc : isBlank c with
    | true =>
      rw [if_pos hc, List.cons.injEq] at h
      obtain ⟨rfl, rfl⟩ := h
      rw [capitalizeFrom_blank hc, List.splitOnP_cons_eq_if_modifyHead, if_pos hc, capitalize,
        ih hrest]
      rfl
    | false =>
      rw [hc, if_neg Bool.false_ne_true, List.modifyHead_cons, List.cons.injEq] at h
      obtain ⟨rfl, rfl⟩ := h
      rw [capitalizeFrom, hc, splitOnP_solid_append (solid_written hc) (ih hrest)]
      rw [capitalizeFrom, hc]

theorem splitOnP_capitalize (text : List Char) :
    (capitalize text).splitOnP isBlank = (text.splitOnP isBlank).map capitalize := by
  obtain ⟨first, others, h⟩ := List.exists_cons_of_ne_nil (List.splitOnP_ne_nil isBlank text)
  rw [h, List.map_cons]
  exact splitOnP_capitalizeFrom h

/-! ## Blanks -/

theorem filter_isBlank_lowerFrom (before text : List Char) :
    (lowerFrom before text).filter isBlank = text.filter isBlank := by
  induction text generalizing before with
  | nil => rfl
  | cons c rest ih =>
    have hc : (lowerIn before c rest).filter isBlank = [c].filter isBlank := by
      rw [lowerIn]
      split
      · next hsigma =>
        rw [hsigma]
        split <;> decide
      · exact Unicode.filter_isBlank_lowerChar c
    rw [lowerFrom, List.filter_append, hc, ih, ← List.filter_append, List.singleton_append]

theorem filter_isBlank_capitalizeFrom (start : Bool) (text : List Char) :
    (capitalizeFrom start text).filter isBlank = text.filter isBlank := by
  induction text generalizing start with
  | nil => rfl
  | cons c rest ih =>
    have hc : (if start && isWord c then upperChar c else [c]).filter isBlank =
        [c].filter isBlank := by
      split
      · exact Unicode.filter_isBlank_upperChar c
      · rfl
    rw [capitalizeFrom, List.filter_append, hc, ih, ← List.filter_append, List.singleton_append]

/-! ## ASCII -/

def IsAscii (text : List Char) : Prop := ∀ c ∈ text, c.toNat < 128

instance (text : List Char) : Decidable (IsAscii text) :=
  List.decidableBAll (fun c : Char => c.toNat < 128) text

theorem lowerFrom_of_isAscii (h : IsAscii text) (before : List Char) :
    lowerFrom before text = text.map Char.toLower := by
  induction text generalizing before with
  | nil => rfl
  | cons c rest ih =>
    have hc := h c List.mem_cons_self
    have hsigma : c ≠ 'Σ' := fun heq => absurd hc (by rw [heq]; decide)
    rw [lowerFrom, lowerIn, if_neg hsigma, Unicode.lowerChar_ascii hc,
      ih fun d hd => h d (List.mem_cons_of_mem c hd)]
    rfl

theorem capitalizeFrom_of_isAscii (h : IsAscii text) (start : Bool) :
    IsAscii (capitalizeFrom start text) ∧ (capitalizeFrom start text).length = text.length ∧
      (capitalizeFrom start text).map Char.toLower = text.map Char.toLower := by
  induction text generalizing start with
  | nil => exact ⟨h, rfl, rfl⟩
  | cons c rest ih =>
    have hc := h c List.mem_cons_self
    obtain ⟨hsmall, hback⟩ := Unicode.toUpper_ascii hc
    obtain ⟨hascii, hlength, hlower⟩ := ih (fun d hd => h d (List.mem_cons_of_mem c hd)) (isBlank c)
    rw [capitalizeFrom, Unicode.upperChar_ascii hc]
    split
    · refine ⟨List.forall_mem_cons.2 ⟨hsmall, hascii⟩, ?_, ?_⟩
      · simp [hlength]
      · simp [hback, hlower]
    · refine ⟨List.forall_mem_cons.2 ⟨hc, hascii⟩, ?_, ?_⟩
      · simp [hlength]
      · simp [hlower]

theorem capitalize_lower_of_isAscii (h : IsAscii text) :
    (capitalize (lower text)).length = text.length ∧
      capitalize (lower (capitalize (lower text))) = capitalize (lower text) := by
  have hlower : lower text = text.map Char.toLower := lowerFrom_of_isAscii h []
  have hsmall : IsAscii (text.map Char.toLower) := by
    intro x hx
    obtain ⟨c, hc, rfl⟩ := List.mem_map.1 hx
    exact (Unicode.toLower_ascii (h c hc)).1
  have hsettled : (text.map Char.toLower).map Char.toLower = text.map Char.toLower := by
    rw [List.map_map]
    exact List.map_congr_left fun c hc => (Unicode.toLower_ascii (h c hc)).2
  obtain ⟨hascii, hlength, hback⟩ := capitalizeFrom_of_isAscii hsmall true
  rw [hlower, capitalize]
  refine ⟨by rw [hlength, List.length_map], ?_⟩
  rw [lower, lowerFrom_of_isAscii hascii, hback, hsettled]
  rfl

/-! ## Display texts -/

/-- A text in which words are to have capitals is put in lower case first. Then what the pattern
finds from left to right is replaced, with one possible outcome: a character is in upper case
exactly if it starts a word. All blanks stay, and what stands between them is capitalized by
itself. -/
theorem normalize_capitals (text : String) :
    let low := lower text.toList
    let out := (normalize .initialUpper text).toList
    (∃ e, Regex.compile .none headPattern = .ok e ∧
      ∀ written, Replaced e raised (.start low) written ↔ written = out) ∧
    out = (low.zipIdx.flatMap fun p => if startsWord low p.2 then upper [p.1] else [p.1]) ∧
    out.filter isBlank = text.toList.filter isBlank ∧
    out.splitOnP isBlank = (low.splitOnP isBlank).map capitalize ∧
    (IsAscii text.toList → (normalize .initialUpper text).length = text.length ∧
      normalize .initialUpper (normalize .initialUpper text) = normalize .initialUpper text) := by
  intro low out
  have hout : out = capitalize low := by
    simp only [out, low, normalize, Casing.apply, String.toList_ofList]
  refine ⟨⟨heads, compile_headPattern, fun written => ⟨fun h => ?_, ?_⟩⟩, ?_, ?_, ?_, ?_⟩
  · rw [hout]
    exact h.unique (replaced_capitalize low)
  · rintro rfl
    rw [hout]
    exact replaced_capitalize low
  · rw [hout]
    exact capitalizeFrom_eq_flatMap [] low
  · rw [hout, capitalize, filter_isBlank_capitalizeFrom]
    exact filter_isBlank_lowerFrom [] text.toList
  · rw [hout]
    exact splitOnP_capitalize low
  · intro hascii
    obtain ⟨hlength, hagain⟩ := capitalize_lower_of_isAscii hascii
    constructor
    · rw [← String.length_toList, ← String.length_toList]
      change out.length = _
      rw [hout]
      exact hlength
    · apply String.toList_injective
      change (normalize .initialUpper (String.ofList (capitalize low))).toList = out
      rw [hout, normalize, Casing.apply, String.toList_ofList, String.toList_ofList]
      exact hagain

theorem normalize_capitals_ascii :
    IsAscii "o  'neill, 3RD iS".toList ∧
      normalize .initialUpper "o  'neill, 3RD iS" = "O  'neill, 3rd Is" ∧
      (normalize .initialUpper "o  'neill, 3RD iS").length = 17 ∧
      normalize .initialUpper "O  'neill, 3rd Is" = "O  'neill, 3rd Is" := by
  have hascii : IsAscii "o  'neill, 3RD iS".toList := by decide
  have hvalue : normalize .initialUpper "o  'neill, 3RD iS" = "O  'neill, 3rd Is" := by
    decide +kernel
  obtain ⟨hlength, hagain⟩ := (normalize_capitals "o  'neill, 3RD iS").2.2.2.2 hascii
  rw [hvalue] at hagain
  exact ⟨hascii, hvalue, hlength, hagain⟩

end FormDialogue.Text
