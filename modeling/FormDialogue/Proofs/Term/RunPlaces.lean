import FormDialogue.Term.WordRuns
import Mathlib.Data.List.Range
import Mathlib.Tactic.Linarith

/-! # Where runs of words lie

A run of words is given by its length and by the word at which it starts. The runs up to a length
are those at all such places, each place once, ordered by length and then by start. A longer limit
only adds runs at the end, and a limit beyond the number of words adds none. -/

namespace FormDialogue.Term
variable {α : Type} {words run : List α} {size longest more length start : Nat} {most : Int}

/-- The words from the start on, as many as the length says. A place is a length and a start. -/
def runAt (words : List α) (place : Nat × Nat) : List α := (words.drop place.2).take place.1

/-- The places of runs with at most `longest` words among `size` words. -/
def runPlaces (size longest : Nat) : List (Nat × Nat) :=
  (List.range' 1 longest).flatMap fun length =>
    (List.range (size + 1 - length)).map fun start => (length, start)

theorem mem_runPlaces :
    (length, start) ∈ runPlaces size longest ↔
      1 ≤ length ∧ length ≤ longest ∧ start + length ≤ size := by
  simp only [runPlaces, List.mem_flatMap, List.mem_range'_1, List.mem_map, List.mem_range,
    Prod.mk.injEq]
  constructor
  · rintro ⟨k, hk, s, hs, rfl, rfl⟩
    omega
  · intro h
    exact ⟨length, by omega, start, by omega, rfl, rfl⟩

theorem pairwise_runPlaces (size longest : Nat) :
    (runPlaces size longest).Pairwise (Prod.Lex (· < ·) (· < ·)) := by
  rw [runPlaces, List.pairwise_flatMap]
  constructor
  · intro length _
    rw [List.pairwise_map]
    exact List.pairwise_lt_range.imp fun h => .right length h
  · have hlengths : (List.range' 1 longest).Pairwise (· < ·) := List.pairwise_lt_range'
    refine hlengths.imp fun {length more} h p hp q hq => ?_
    obtain ⟨s, -, rfl⟩ := List.mem_map.1 hp
    obtain ⟨t, -, rfl⟩ := List.mem_map.1 hq
    exact .left s t h

theorem runPlaces_succ (size longest : Nat) :
    runPlaces size (longest + 1) = runPlaces size longest ++
      (List.range (size - longest)).map fun start => (longest + 1, start) := by
  have hcount : size + 1 - (1 + longest) = size - longest := by omega
  rw [runPlaces, runPlaces, List.range'_1_concat, List.flatMap_append, List.flatMap_singleton,
    hcount, Nat.add_comm 1 longest]

theorem runPlaces_prefix_of_le (size : Nat) (h : longest ≤ more) :
    runPlaces size longest <+: runPlaces size more := by
  induction h with
  | refl => exact List.prefix_rfl
  | step _ ih =>
    rw [runPlaces_succ]
    exact ih.trans (List.prefix_append _ _)

/-- There are `size + 1 - length` places of each length. -/
theorem length_runPlaces (h : longest ≤ size) :
    2 * (runPlaces size longest).length + longest * longest = longest + 2 * (longest * size) := by
  induction longest with
  | zero => simp [runPlaces]
  | succ longest ih =>
    obtain ⟨rest, rfl⟩ := Nat.exists_eq_add_of_le h
    have hshorter := ih (by omega)
    have hcount : longest + 1 + rest - longest = rest + 1 := by omega
    rw [runPlaces_succ, List.length_append, List.length_map, List.length_range, hcount]
    linarith

/-! ## Runs -/

theorem windows_eq_map (h : 0 < length) (words : List α) :
    windows length words =
      (List.range (words.length + 1 - length)).map fun start => runAt words (length, start) := by
  induction words with
  | nil =>
    have hnone : ([] : List α).length + 1 - length = 0 := by
      rw [List.length_nil]
      omega
    rw [windows, hnone]
    rfl
  | cons w rest ih =>
    rw [windows]
    split
    · next hfits =>
      have hcount : (w :: rest).length + 1 - length = (rest.length + 1 - length) + 1 := by
        rw [List.length_cons]
        omega
      rw [ih, hcount, List.range_succ_eq_map, List.map_cons, List.map_map]
      rfl
    · next hlong =>
      have hnone : (w :: rest).length + 1 - length = 0 := by
        rw [List.length_cons]
        omega
      rw [hnone]
      rfl

theorem runsFrom_eq_flatMap (words : List α) (count length : Nat) :
    runsFrom words count length =
      (List.range' length count).flatMap fun length => windows length words := by
  induction count generalizing length with
  | zero => rfl
  | succ count ih => rw [runsFrom, ih, List.range'_succ, List.flatMap_cons]

theorem wordRuns_eq_map (words : List α) (most : Int) :
    wordRuns words most =
      (runPlaces words.length (min words.length most.toNat)).map (runAt words) := by
  rw [wordRuns, runsFrom_eq_flatMap, runPlaces, List.map_flatMap]
  refine List.flatMap_congr fun length hlength => ?_
  rw [windows_eq_map (List.mem_range'_1.1 hlength).1, List.map_map]
  rfl

/-- The runs are the contiguous parts of the words that are not empty and not too long. -/
theorem mem_wordRuns_iff :
    run ∈ wordRuns words most ↔ run ≠ [] ∧ (run.length : Int) ≤ most ∧ run <:+: words := by
  rw [wordRuns_eq_map, List.mem_map]
  constructor
  · rintro ⟨⟨length, start⟩, hplace, rfl⟩
    obtain ⟨hpos, hlongest, hend⟩ := mem_runPlaces.1 hplace
    have hlength : (runAt words (length, start)).length = length := by
      rw [runAt, List.length_take, List.length_drop]
      omega
    refine ⟨List.ne_nil_of_length_pos (by omega), by omega, ?_⟩
    exact (List.take_prefix _ _).isInfix.trans (List.drop_suffix _ _).isInfix
  · rintro ⟨hne, hmost, before, rest, rfl⟩
    have hpos := List.length_pos_of_ne_nil hne
    have hsize : (before ++ run ++ rest).length = before.length + run.length + rest.length := by
      rw [List.length_append, List.length_append]
    refine ⟨(run.length, before.length), mem_runPlaces.2 (by omega), ?_⟩
    rw [runAt, List.append_assoc, List.drop_left, List.take_left]

theorem length_wordRuns (words : List α) (most : Int) :
    let n : Int := words.length
    let k := max 0 (min n most)
    ((wordRuns words most).length : Int) = k * n - k * (k - 1) / 2 := by
  intro n k
  obtain ⟨longest, hlongest⟩ : ∃ longest : Nat, min words.length most.toNat = longest := ⟨_, rfl⟩
  have hk : k = longest := by omega
  have hdouble : 2 * (runPlaces words.length longest).length + longest * longest =
      longest + 2 * (longest * words.length) := length_runPlaces (by omega)
  have hlength : (wordRuns words most).length = (runPlaces words.length longest).length := by
    rw [wordRuns_eq_map, List.length_map, hlongest]
  zify at hdouble hlength
  have hhalf : k * (k - 1) = 2 * (k * n - (wordRuns words most).length) := by
    rw [hlength, hk]
    linarith
  rw [hhalf, Int.mul_ediv_cancel_left _ two_ne_zero]
  omega

theorem wordRuns_prefix_of_le (words : List α) {more : Int} (h : most ≤ more) :
    wordRuns words most <+: wordRuns words more := by
  rw [wordRuns_eq_map, wordRuns_eq_map]
  exact (runPlaces_prefix_of_le words.length (by omega)).map _

theorem wordRuns_of_length_le (h : (words.length : Int) ≤ most) :
    wordRuns words most = wordRuns words words.length := by
  have hsame : min words.length most.toNat = min words.length (words.length : Int).toNat := by omega
  rw [wordRuns, wordRuns, hsame]

/-- The runs of words are those at all places with a length from one up to the limit, each place
once, ordered by length and then by start. A limit that is larger by one adds runs at the end, and
none when there are no more words than the limit. -/
theorem wordRuns_enumerates_places (words : List α) (most : Int) :
    let n : Int := words.length
    let k := max 0 (min n most)
    ((wordRuns words most).length : Int) = k * n - k * (k - 1) / 2 ∧
    (∃ places : List (Nat × Nat),
      wordRuns words most =
        places.map (fun (length, start) => (words.drop start).take length) ∧
      (∀ length start : Nat, (length, start) ∈ places ↔
        1 ≤ length ∧ (length : Int) ≤ k ∧ (start : Int) ≤ n - length) ∧
      places.Pairwise (Prod.Lex (· < ·) (· < ·))) ∧
    wordRuns words most <+: wordRuns words (most + 1) ∧
    ∀ limit, n ≤ limit → wordRuns words limit = wordRuns words n := by
  intro n k
  refine ⟨length_wordRuns words most, ⟨_, wordRuns_eq_map words most, fun length start => ?_,
    pairwise_runPlaces _ _⟩, wordRuns_prefix_of_le words (Int.le_add_one (Int.le_refl most)),
    fun limit h => wordRuns_of_length_le h⟩
  rw [mem_runPlaces]
  omega

theorem wordRuns_enumerates_places_sample :
    let words := ["to", "be", "to"]
    ((words.length : Int) ≤ 7 ∧ wordRuns words 7 = wordRuns words 3) ∧
      ((wordRuns words 2).length : Int) = 2 * 3 - 2 * (2 - 1) / 2 := by
  intro words
  have hlength : (words.length : Int) ≤ 7 := by decide
  obtain ⟨hcount, -, -, hlong⟩ := wordRuns_enumerates_places words 2
  exact ⟨⟨hlength, hlong 7 hlength⟩, hcount⟩

example : wordRuns ["good", "morning"] 2 = [["good"], ["morning"], ["good", "morning"]] := by
  decide

end FormDialogue.Term
