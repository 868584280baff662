import FormDialogue.Proofs.Draw.Answers
import Mathlib.Algebra.Group.Nat.Defs
import Mathlib.Data.Nat.Find

/-! # Redrawing

What a draw gives is the first number below its bound in a sequence of numbers, each of them put
together from words of the generator and below twice the bound. If none of them is below the bound,
the draw does not come to an end. A draw without a positive bound is refused before the generator is
touched. So in a sequence of draws such requests can be left out, and all others are answered as
before. -/

namespace FormDialogue.Draw

namespace Generator
variable {n k : Nat} {g g' : Generator}

/-- The leading bits of a word are a number of so many bits. -/
theorem leadingBits_lt (w : UInt32) {count : Nat} (h : count ≤ 32) :
    w.toNat >>> (32 - count) < 2 ^ count := by
  rw [Nat.shiftRight_eq_div_pow, Nat.div_lt_iff_lt_mul (Nat.two_pow_pos _), ← Nat.pow_add,
    Nat.add_sub_of_le h]
  exact w.toNat_lt

theorem bits_lt (count : Nat) (g : Generator) : (g.bits count).1 < 2 ^ count := by
  -- One word is taken at a time, so the induction is on the bits that are still missing.
  induction count using Nat.strongRecOn generalizing g with
  | ind count ih =>
    rw [bits]
    by_cases hzero : count = 0
    · rw [if_pos hzero, hzero]
      exact Nat.one_pos
    · rw [if_neg hzero]
      dsimp only
      by_cases hlast : count ≤ 32
      · rw [if_pos hlast]
        exact leadingBits_lt g.next.1 hlast
      · rw [if_neg hlast]
        have hrest := ih (count - 32) (by omega) g.next.2
        have hsplit : 2 ^ 32 * 2 ^ (count - 32) = 2 ^ count := by
          rw [← Nat.pow_add, Nat.add_sub_of_le (by omega)]
        calc g.next.1.toNat + Nat.pow 2 32 * (bits (count - 32) g.next.2).1
          _ < 2 ^ 32 + 2 ^ 32 * (bits (count - 32) g.next.2).1 :=
            Nat.add_lt_add_right g.next.1.toNat_lt _
          _ = 2 ^ 32 * ((bits (count - 32) g.next.2).1 + 1) := by rw [Nat.mul_succ, Nat.add_comm]
          _ ≤ 2 ^ 32 * 2 ^ (count - 32) := Nat.mul_le_mul_left _ hrest
          _ = 2 ^ count := hsplit

theorem two_pow_bitLength_le (h : 0 < n) : 2 ^ bitLength n ≤ 2 * n := by
  have hn : n ≠ 0 := by omega
  rw [bitLength, if_neg hn, Nat.pow_succ, Nat.mul_comm]
  exact Nat.mul_le_mul_left 2 (Nat.log2_self_le hn)

/-! ## Rounds -/

/-- The generator after some rounds of drawing for a bound. -/
def afterRounds (n : Nat) : Nat → Generator → Generator
  | 0, g => g
  | k + 1, g => afterRounds n k (g.bits (bitLength n)).2

/-- The number that is drawn after some rounds. -/
def drawn (g : Generator) (n k : Nat) : Nat := ((afterRounds n k g).bits (bitLength n)).1

/-- After so many rounds a number is drawn that is below the bound, and none was before. -/
structure HitsAfter (g : Generator) (n k : Nat) : Prop where
  below : g.drawn n k < n
  first : ∀ j < k, n ≤ g.drawn n j

/-- What a draw gives that comes to an end: the number of the round that hits the bound, and the
generator after that round. -/
def Yields (g : Generator) (n i : Nat) (g' : Generator) : Prop :=
  ∃ k, g.HitsAfter n k ∧ g.drawn n k = i ∧ afterRounds n (k + 1) g = g'

theorem drawn_lt (h : 0 < n) (g : Generator) (k : Nat) : g.drawn n k < 2 * n :=
  Nat.lt_of_lt_of_le (bits_lt _ _) (two_pow_bitLength_le h)

theorem hitsAfter_zero (h : (g.bits (bitLength n)).1 < n) : g.HitsAfter n 0 :=
  ⟨h, fun _ hj => absurd hj (Nat.not_lt_zero _)⟩

theorem hitsAfter_succ_iff (h : n ≤ (g.bits (bitLength n)).1) :
    g.HitsAfter n (k + 1) ↔ (g.bits (bitLength n)).2.HitsAfter n k := by
  constructor
  · intro hk
    exact ⟨hk.below, fun j hj => hk.first (j + 1) (Nat.succ_lt_succ hj)⟩
  · intro hk
    refine ⟨hk.below, fun j hj => ?_⟩
    cases j with
    | zero => exact h
    | succ j => exact hk.first j (Nat.lt_of_succ_lt_succ hj)

theorem Yields.later {i : Nat} (hmiss : n ≤ (g.bits (bitLength n)).1)
    (h : (g.bits (bitLength n)).2.Yields n i g') : g.Yields n i g' := by
  obtain ⟨k, hk, hi, hg⟩ := h
  exact ⟨k + 1, (hitsAfter_succ_iff hmiss).2 hk, hi, hg⟩

theorem redraw_of_hitsAfter (h : g.HitsAfter n k) :
    g.redraw = some (⟨g.drawn n k, h.below⟩, afterRounds n (k + 1) g) := by
  induction k generalizing g with
  | zero =>
    have hbelow : (g.bits (bitLength n)).1 < n := h.below
    rw [redraw]
    exact dif_pos hbelow
  | succ k ih =>
    have hmiss : n ≤ (g.bits (bitLength n)).1 := h.first 0 (Nat.succ_pos k)
    rw [redraw]
    exact (dif_neg (Nat.not_lt.2 hmiss)).trans (ih ((hitsAfter_succ_iff hmiss).1 h))

theorem yields_of_redraw {i : Fin n} (h : g.redraw = some (i, g')) : g.Yields n i g' := by
  -- By induction on the recursion: a miss before what the later rounds yield changes nothing.
  refine redraw.partial_correctness (fun g r => g.Yields n r.1 r.2) ?_ g (i, g') h
  intro later ih g r hr
  dsimp only at hr
  by_cases hbelow : (g.bits (bitLength n)).1 < n
  · rw [dif_pos hbelow] at hr
    cases hr
    exact ⟨0, hitsAfter_zero hbelow, rfl, rfl⟩
  · rw [dif_neg hbelow] at hr
    exact (ih _ _ hr).later (Nat.not_lt.1 hbelow)

/-- A draw that does not come to an end misses the bound in every round. -/
theorem redraw_eq_none_iff : g.redraw (n := n) = none ↔ ∀ k, n ≤ g.drawn n k := by
  constructor
  · intro h k
    by_contra hbelow
    have hhit : ∃ j, g.drawn n j < n := ⟨k, Nat.not_le.1 hbelow⟩
    have hfirst : g.HitsAfter n (Nat.find hhit) :=
      ⟨Nat.find_spec hhit, fun j hj => Nat.not_lt.1 (Nat.find_min hhit hj)⟩
    rw [redraw_of_hitsAfter hfirst] at h
    cases h
  · intro h
    rw [Option.eq_none_iff_forall_ne_some]
    rintro ⟨i, g'⟩ hsome
    obtain ⟨k, hk, -, -⟩ := yields_of_redraw hsome
    exact Nat.not_lt.2 (h k) hk.below

theorem below_spec (h : 0 < n) (g : Generator) :
    g.Yields n (g.below h).1 (g.below h).2 ∨ ∀ k, n ≤ g.drawn n k := by
  cases hdrawn : g.redraw (n := n) with
  | none => exact .inr (redraw_eq_none_iff.1 hdrawn)
  | some r =>
    rw [below, hdrawn]
    exact .inl (yields_of_redraw hdrawn)

end Generator

namespace Source
variable {s : Source} {g : Generator} {upper seed : Int}

/-- The generator that a source draws from. -/
def generator? : Source → Option Generator
  | seeded g => some g
  | shared _ g => some g
  | scripted .. => none

theorem generator?_of_seed
    (h : seededBy (.int seed) = .ok s ∨ ∃ fresh, ofDatum (.int seed) fresh = .ok s) :
    s.generator? = some (.ofSeed seed) := by
  obtain h | ⟨_, h⟩ := h
  · rw [← Except.ok.inj h]
    rfl
  · rw [← Except.ok.inj h]
    rfl

theorem draw_of_generator {n : Nat} (hn : 0 < n) (h : s.generator? = some g) :
    (s.draw hn).1 = (g.below hn).1 ∧ (s.draw hn).2.generator? = some (g.below hn).2 := by
  cases s with
  | seeded g' =>
    cases h
    exact ⟨rfl, rfl⟩
  | shared withSeed g' =>
    cases h
    exact ⟨rfl, rfl⟩
  | scripted script calls => cases h

/-! ## Refused draws -/

theorem next_of_refused (s : Source) (h : upper < 1) :
    s.next upper = (.error (.emptyRange upper), s) := dif_neg (by omega)

theorem next_of_generator (h : s.generator? = some g) (hupper : 1 ≤ upper) :
    ∃ (i : Nat) (g' : Generator), i < upper ∧ (s.next upper).1 = .ok i ∧
      (s.next upper).2.generator? = some g' ∧
      (g.Yields upper.toNat i g' ∨ ∀ k, upper ≤ g.drawn upper.toNat k) := by
  have hn : 0 < upper.toNat := by omega
  have hnat : (upper.toNat : Int) = upper := Int.toNat_of_nonneg (by omega)
  obtain ⟨hi, hg⟩ := draw_of_generator hn h
  have hnext := s.next_of_pos hn
  rw [hnat] at hnext
  refine ⟨(g.below hn).1, (g.below hn).2, ?_, ?_, ?_, ?_⟩
  · have := (g.below hn).1.isLt
    omega
  · rw [hnext, hi]
  · rw [hnext]
    exact hg
  · refine (g.below_spec hn).imp_right fun hall k => ?_
    have := hall k
    omega

theorem generator?_nextAll (h : s.generator? = some g) (uppers : List Int) :
    ∃ g', (s.nextAll uppers).2.generator? = some g' := by
  induction uppers generalizing s g with
  | nil => exact ⟨g, h⟩
  | cons upper rest ih =>
    by_cases hupper : 1 ≤ upper
    · obtain ⟨_, g', -, -, hg', -⟩ := next_of_generator h hupper
      exact ih hg'
    · have hnext : (s.next upper).2 = s :=
        congrArg Prod.snd (s.next_of_refused (Int.not_le.1 hupper))
      exact ih (hnext ▸ h)

/-- Every request of a sequence with its answer. -/
def transcript (s : Source) (uppers : List Int) : List (Int × Except Failure Nat) :=
  uppers.zip (s.nextAll uppers).1

theorem transcript_cons (s : Source) (upper : Int) (rest : List Int) :
    s.transcript (upper :: rest) =
      (upper, (s.next upper).1) :: (s.next upper).2.transcript rest := rfl

theorem nextAll_cons_state (s : Source) (upper : Int) (rest : List Int) :
    (s.nextAll (upper :: rest)).2 = ((s.next upper).2.nextAll rest).2 := rfl

/-- Refused requests can be left out of a sequence. -/
theorem nextAll_filter (s : Source) (uppers : List Int) :
    (s.transcript uppers).filter (fun a => 1 ≤ a.1) =
        s.transcript (uppers.filter fun upper => 1 ≤ upper) ∧
      (s.nextAll (uppers.filter fun upper => 1 ≤ upper)).2 = (s.nextAll uppers).2 := by
  induction uppers generalizing s with
  | nil => exact ⟨rfl, rfl⟩
  | cons upper rest ih =>
    obtain ⟨hanswers, hstate⟩ := ih (s.next upper).2
    by_cases hupper : 1 ≤ upper
    · simp only [transcript_cons, nextAll_cons_state, List.filter_cons, hupper, decide_true,
        if_true, hanswers, hstate, and_self]
    · have hnext : (s.next upper).2 = s :=
        congrArg Prod.snd (s.next_of_refused (Int.not_le.1 hupper))
      rw [hnext] at hanswers hstate
      simp only [transcript_cons, nextAll_cons_state, List.filter_cons, hupper, decide_false, hnext,
        hanswers, hstate, Bool.false_eq_true, if_false, and_self]

/-- A source with a seed, after any requests, refuses a request without a positive bound and stays
as it is. To any other request it answers with a number below the bound: the first of the numbers
that its generator draws that is, if there is one at all. Without the refused requests, all other
answers and the source afterwards are the same. -/
theorem draws_pass_over_refused
    (hs : seededBy (.int seed) = .ok s ∨ ∃ fresh, ofDatum (.int seed) fresh = .ok s)
    (uppers : List Int) :
    (∀ (earlier : List Int) (upper : Int),
      let v := (s.nextAll earlier).2
      ∃ g, v.generator? = some g ∧
        (upper < 1 → v.next upper = (.error (.emptyRange upper), v)) ∧
        (1 ≤ upper → (∀ k, g.drawn upper.toNat k < 2 * upper) ∧
          ∃ (i : Nat) (g' : Generator), i < upper ∧ (v.next upper).1 = .ok i ∧
            (v.next upper).2.generator? = some g' ∧
            (g.Yields upper.toNat i g' ∨ ∀ k, upper ≤ g.drawn upper.toNat k))) ∧
    (s.transcript uppers).filter (fun a => 1 ≤ a.1) =
      s.transcript (uppers.filter fun upper => 1 ≤ upper) ∧
    (s.nextAll (uppers.filter fun upper => 1 ≤ upper)).2 = (s.nextAll uppers).2 := by
  refine ⟨fun earlier upper => ?_, s.nextAll_filter uppers⟩
  intro v
  obtain ⟨g, hg⟩ := generator?_nextAll (generator?_of_seed hs) earlier
  refine ⟨g, hg, v.next_of_refused, fun hupper => ⟨fun k => ?_, next_of_generator hg hupper⟩⟩
  have hn : 0 < upper.toNat := by omega
  have := g.drawn_lt hn k
  omega

theorem draws_pass_over_refused_sample :
    let s := Source.ofSeed (-7)
    seededBy (.int (-7)) = .ok s ∧
      ∃ i j : Nat, i < 6 ∧ j < 1000 ∧
        (s.nextAll [6, 0, 1000, -2]).1 =
          [.ok i, .error (.emptyRange 0), .ok j, .error (.emptyRange (-2))] ∧
        s.transcript [6, 1000] = [(6, .ok i), (1000, .ok j)] := by
  intro s
  have hs : seededBy (.int (-7)) = .ok s := rfl
  obtain ⟨hcalls, hanswers, -⟩ := draws_pass_over_refused (.inl hs) [6, 0, 1000, -2]
  clear_value s
  obtain ⟨_, -, -, hfirst⟩ := hcalls [] 6
  obtain ⟨-, i, _, hi, hi', -⟩ := hfirst (by decide)
  obtain ⟨_, -, hsecond, -⟩ := hcalls [6] 0
  obtain ⟨_, -, -, hthird⟩ := hcalls [6, 0] 1000
  obtain ⟨-, j, _, hj, hj', -⟩ := hthird (by decide)
  obtain ⟨_, -, hfourth, -⟩ := hcalls [6, 0, 1000] (-2)
  have hall : (s.nextAll [6, 0, 1000, -2]).1 =
      [.ok i, .error (.emptyRange 0), .ok j, .error (.emptyRange (-2))] := by
    have heach : (s.nextAll [6, 0, 1000, -2]).1 =
        [(s.next 6).1, ((s.nextAll [6]).2.next 0).1, ((s.nextAll [6, 0]).2.next 1000).1,
          ((s.nextAll [6, 0, 1000]).2.next (-2)).1] := rfl
    have hi'' : (s.next 6).1 = .ok i := hi'
    rw [heach, hi'', hsecond (by decide), hj', hfourth (by decide)]
  refine ⟨hs, i, j, by omega, by omega, hall, ?_⟩
  rw [transcript, hall] at hanswers
  exact hanswers.symm

end Source

end FormDialogue.Draw
