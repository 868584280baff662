import FormDialogue.Proofs.Regex.Exploring

/-! # The places nodes explore

What single characters, sequences, negated looks and loops over a class of characters explore. A
loop without an upper bound explores the places behind every number of characters that is enough,
and loses none of them by coming back from the greatest number. -/

namespace FormDialogue.Regex
variable {flags : Flags} {p q r : Place} {k : Continuation} {test : Char → Bool} {c : Char}
  {x y : List Char}

/-! ## Passing characters -/

/-- The way from a place over given characters to another place. -/
def Place.Passes (p : Place) : List Char → Place → Prop
  | [], r => r = p
  | c :: x, r => ∃ q, p.step? = some (c, q) ∧ q.Passes x r

theorem step?_eq_some_iff :
    p.step? = some (c, q) ↔ p.after = c :: q.after ∧ q.before = c :: p.before ∧
      q.position = p.position + 1 ∧ q.marks = p.marks := by
  obtain ⟨before, after, position, marks⟩ := p
  obtain ⟨before', after', position', marks'⟩ := q
  cases after with
  | nil => simp [Place.step?]
  | cons d rest =>
    simp only [Place.step?, Option.some.injEq, Prod.mk.injEq, Place.mk.injEq, List.cons.injEq]
    grind

theorem passes_iff :
    p.Passes x r ↔ p.after = x ++ r.after ∧ r.before = x.reverse ++ p.before ∧
      r.position = p.position + x.length ∧ r.marks = p.marks := by
  induction x generalizing p with
  | nil =>
    obtain ⟨before, after, position, marks⟩ := p
    obtain ⟨before', after', position', marks'⟩ := r
    simp only [Place.Passes, Place.mk.injEq, List.nil_append, List.reverse_nil, List.length_nil,
      Nat.add_zero]
    grind
  | cons c x ih =>
    constructor
    · rintro ⟨q, hstep, hrest⟩
      obtain ⟨hafter, hbefore, hposition, hmarks⟩ := step?_eq_some_iff.1 hstep
      obtain ⟨hafter', hbefore', hposition', hmarks'⟩ := ih.1 hrest
      refine ⟨by rw [hafter, hafter']; rfl, ?_, ?_, by rw [hmarks', hmarks]⟩
      · rw [hbefore', hbefore, List.reverse_cons, List.append_assoc]
        rfl
      · rw [hposition', hposition, List.length_cons]
        omega
    · rintro ⟨hafter, hbefore, hposition, hmarks⟩
      refine ⟨⟨c :: p.before, x ++ r.after, p.position + 1, p.marks⟩,
        step?_eq_some_iff.2 ⟨hafter, rfl, rfl, rfl⟩, ih.2 ⟨rfl, ?_, ?_, hmarks⟩⟩
      · rw [hbefore, List.reverse_cons, List.append_assoc]
        rfl
      · rw [hposition, List.length_cons]
        dsimp only
        omega

theorem passes_append : p.Passes (x ++ y) r ↔ ∃ q, p.Passes x q ∧ q.Passes y r := by
  induction x generalizing p with
  | nil => simp [Place.Passes]
  | cons c x ih =>
    constructor
    · rintro ⟨s, hstep, h⟩
      obtain ⟨q, hq, hr⟩ := ih.1 h
      exact ⟨q, ⟨s, hstep, hq⟩, hr⟩
    · rintro ⟨q, ⟨s, hstep, hq⟩, hr⟩
      exact ⟨s, hstep, ih.2 ⟨q, hq, hr⟩⟩

theorem Place.Passes.length_le (h : p.Passes x r) : x.length ≤ p.after.length := by
  rw [(passes_iff.1 h).1, List.length_append]
  exact Nat.le_add_right _ _

/-! ## Loops over one character -/

/-- A place behind characters that meet a test, as many as are needed when `count` are passed. -/
def RoundsTo (test : Char → Bool) (least count : Nat) (p r : Place) : Prop :=
  ∃ x, (∀ c ∈ x, test c = true) ∧ least ≤ count + x.length ∧ p.Passes x r

theorem roundsTo_step {least count : Nat} :
    RoundsTo test least count p r ↔ (∃ c q, p.step? = some (c, q) ∧ test c = true ∧
      RoundsTo test least (count + 1) q r) ∨ least ≤ count ∧ r = p := by
  constructor
  · rintro ⟨x, hx, hleast, hpasses⟩
    cases x with
    | nil => exact Or.inr ⟨hleast, hpasses⟩
    | cons c x =>
      obtain ⟨q, hstep, hpasses⟩ := hpasses
      obtain ⟨hc, hx⟩ := List.forall_mem_cons.1 hx
      rw [List.length_cons] at hleast
      exact Or.inl ⟨c, q, hstep, hc, x, hx, by omega, hpasses⟩
  · rintro (⟨c, q, hstep, hc, x, hx, hleast, hpasses⟩ | ⟨hleast, hr⟩)
    · refine ⟨c :: x, List.forall_mem_cons.2 ⟨hc, hx⟩, ?_, q, hstep, hpasses⟩
      rw [List.length_cons]
      omega
    · exact ⟨[], by simp, hleast, hr⟩

namespace Loop
variable {l : Loop}

theorem explores_greedyRounds (hkind : l.kind = .counted) (hmost : l.most = none)
    {fuel count : Nat} {last : Option Nat} (hp : p.marks = []) (hfuel : p.after.length < fuel)
    (hlast : ∀ i, last = some i → i < p.position) :
    ExploresFrom (fun k => l.greedyRounds (oneChar test) k fuel count last p)
      (RoundsTo test l.least count p) := by
  -- The rest of the text bounds the fuel. Every round passes a character, so the latest round began
  -- in front of the place and the guard against empty rounds never ends the loop.
  induction fuel generalizing p count last with
  | zero => omega
  | succ fuel ih =>
    have hnext : ∀ last, (∀ i, last = some i → i ≤ p.position) →
        ExploresFrom (fun k => oneChar test p fun q =>
            l.greedyRounds (oneChar test) k fuel (count + 1) last q)
          fun r => ∃ c q, p.step? = some (c, q) ∧ test c = true ∧
            RoundsTo test l.least (count + 1) q r := by
      intro last hlast
      refine ExploresFrom.oneChar hp fun c q hstep => ?_
      obtain ⟨hafter, -, hposition, hmarks⟩ := step?_eq_some_iff.1 hstep
      rw [hafter, List.length_cons] at hfuel
      exact ih (by rw [hmarks, hp]) (by omega) fun i hi => by have := hlast i hi; omega
    by_cases hcount : count < l.least
    · have hround : (fun k => l.greedyRounds (oneChar test) k (fuel + 1) count last p) = fun k =>
          oneChar test p fun q => l.greedyRounds (oneChar test) k fuel (count + 1) last q := by
        funext k
        rw [greedyRounds, if_pos hcount]
      rw [hround]
      refine (hnext last fun i hi => Nat.le_of_lt (hlast i hi)).congr fun r => ?_
      rw [roundsTo_step]
      exact ⟨Or.inl, fun h => h.elim id fun h => absurd h.1 (Nat.not_le_of_lt hcount)⟩
    · have hallows : l.allows count last p = true := by
        have hne : last ≠ some p.position := fun h => Nat.lt_irrefl _ (hlast _ h)
        simp [allows, hmost, hne]
      have hround : (fun k => l.greedyRounds (oneChar test) k (fuel + 1) count last p) = fun k =>
          (oneChar test p fun q =>
            l.greedyRounds (oneChar test) k fuel (count + 1) (some p.position) q).orElse
              fun marks => k { p with marks := marks } := by
        funext k
        rw [greedyRounds, if_neg hcount]
        simp only [hallows, if_true, extra, hkind]
      have hhere : ExploresFrom (fun k => k { p with marks := [] }) fun r => r = p := by
        rw [← hp]
        exact ExploresFrom.here hp
      have hmore := hnext (some p.position) fun i hi => by cases hi; exact Nat.le_refl _
      rw [hround]
      refine (hmore.orElse hhere).congr fun r => ?_
      rw [roundsTo_step]
      exact or_congr_right ⟨fun h => ⟨Nat.le_of_not_lt hcount, h⟩, fun h => h.2⟩

/-- What follows the rounds is tried as it is, up to where it sets out. -/
theorem place?_afterGreedy (next : Option Opening) (k : Continuation) (p : Place) :
    (l.afterGreedy next k p).place? = (k p).place? := by
  rw [afterGreedy]
  split
  · rfl
  · split
    · exact place?_setOut _
    · rw [place?_setOut, place?_undone]

theorem clean_afterGreedy (next : Option Opening) (hk : Clean k) :
    Clean (l.afterGreedy next k) := by
  intro p hp
  rw [afterGreedy]
  split
  · exact hk p hp
  · split
    · exact (hk p hp).setOut _
    · exact ((hk p hp).undone hp).setOut _

theorem explores_run (hkind : l.kind = .counted) (hmost : l.most = none)
    (next : Option Opening) (hp : p.marks = []) :
    ExploresFrom (l.run .greedy next (oneChar test) p) (RoundsTo test l.least 0 p) := by
  by_cases hroom : l.least ≤ p.after.length
  · have hround : l.round (oneChar test) = oneChar test := by
      funext p k
      rw [round, hkind]
    have hrun : l.run .greedy next (oneChar test) p = fun k =>
        (l.greedyRounds (oneChar test) (l.afterGreedy next k)
          (l.least + p.position + p.after.length + 2) 0 none p).setOut p.position := by
      funext k
      simp [run, hasRoom, begun, hkind, hroom, hround]
    rw [hrun]
    have hrounds : ExploresFrom (fun k => l.greedyRounds (oneChar test) k
        (l.least + p.position + p.after.length + 2) 0 none p) (RoundsTo test l.least 0 p) :=
      explores_greedyRounds hkind hmost hp (by omega) fun i hi => by cases hi
    exact (hrounds.wrap (place?_afterGreedy next) fun k hk => clean_afterGreedy next hk).setOut _
  · have hrun : l.run .greedy next (oneChar test) p = fun _ => p.blocked := by
      funext k
      simp [run, hasRoom, hkind, hroom]
    rw [hrun]
    refine (ExploresFrom.blocked hp).congr fun r => ⟨False.elim, ?_⟩
    rintro ⟨x, -, hleast, hpasses⟩
    have := hpasses.length_le
    omega

end Loop

/-! ## Nodes -/

/-- A node explores, in front of anything, the places of a relation. -/
def Node.Explores (flags : Flags) (n : Node) (reaches : Place → Place → Prop) : Prop :=
  ∀ next p, p.marks = [] → ExploresFrom (n.run flags false next p) (reaches p)

namespace Node
variable {n : Node} {ns : List Node} {reaches further : Place → Place → Prop} {cls : CharClass}

theorem Explores.congr (h : n.Explores flags reaches)
    (hiff : ∀ p r, reaches p r ↔ further p r) : n.Explores flags further :=
  fun next p hp => (h next p hp).congr (hiff p)

theorem explores_oneChar (hrun : ∀ next, n.run flags false next = oneChar test) :
    n.Explores flags fun p r => ∃ x, p.step? = some (x, r) ∧ test x = true := by
  intro next p hp
  have hone : ExploresFrom (fun k => oneChar test p fun q => k q)
      fun r => ∃ x q, p.step? = some (x, q) ∧ test x = true ∧ r = q :=
    ExploresFrom.oneChar hp fun x q hstep =>
      ExploresFrom.here (by rw [(step?_eq_some_iff.1 hstep).2.2.2, hp])
  rw [hrun]
  refine hone.congr fun r => ⟨?_, fun ⟨x, hstep, hx⟩ => ⟨x, r, hstep, hx, rfl⟩⟩
  rintro ⟨x, q, hstep, hx, rfl⟩
  exact ⟨x, hstep, hx⟩

theorem explores_code (c : Nat) :
    (code false c).Explores flags fun p r =>
      ∃ x, p.step? = some (x, r) ∧ matchesCode flags c x = true :=
  explores_oneChar fun next => by funext p k; simp [run]

theorem run_member (cls : CharClass) (looped : Bool) (next : Option Opening) :
    (set false [.member false cls]).run flags looped next =
      oneChar fun x => cls.holds flags x := by
  have hset : ∀ x, matchesSet flags [.member false cls] x = cls.holds flags x := by
    intro x
    simp [matchesSet, SetItem.folds, SetItem.holds]
  funext p k
  simp [run, hset]

theorem explores_member (flags : Flags) (cls : CharClass) :
    (set false [.member false cls]).Explores flags
      fun p r => ∃ x, p.step? = some (x, r) ∧ cls.holds flags x = true :=
  explores_oneChar fun next => run_member cls false next

theorem explores_loop (cls : CharClass) (least : Nat) :
    (loop .greedy least none (set false [.member false cls])).Explores flags
      (RoundsTo (fun x => cls.holds flags x) least 0) := by
  intro next p hp
  have hkind : (set false [.member false cls]).loopKind flags = .counted := by
    simp [loopKind, SetItem.folds]
  let l : Loop := ⟨.counted, least, none, false⟩
  have hrun : (loop .greedy least none (set false [.member false cls])).run flags false next p =
      l.run .greedy next (oneChar fun x => cls.holds flags x) p := by
    funext k
    rw [run, hkind]
    exact congrArg (fun body => l.run .greedy next body p k) (run_member cls _ none)
  rw [hrun]
  exact l.explores_run rfl rfl next hp

theorem no_step_iff :
    (∀ q, ¬ ∃ x, p.step? = some (x, q) ∧ test x = true) ↔
      ∀ c, p.after.head? = some c → test c = false := by
  constructor
  · intro hnone c hc
    obtain ⟨rest, hafter⟩ := List.head?_eq_some_iff.1 hc
    have hstep : p.step? = some (c, ⟨c :: p.before, rest, p.position + 1, p.marks⟩) :=
      step?_eq_some_iff.2 ⟨hafter, rfl, rfl, rfl⟩
    exact eq_false_of_ne_true fun htest => hnone _ ⟨c, hstep, htest⟩
  · rintro hnone q ⟨c, hstep, hc⟩
    have hafter := (step?_eq_some_iff.1 hstep).1
    rw [hnone c (by rw [hafter]; rfl)] at hc
    contradiction

theorem explores_ahead (cls : CharClass) :
    (ahead true (set false [.member false cls])).Explores flags
      fun p r => r = p ∧ ∀ c, p.after.head? = some c → cls.holds flags c = false := by
  intro next p hp
  have hseen := explores_member flags cls none p hp
  exact (ExploresFrom.look_negated p hp hseen).congr fun r => and_congr_right fun _ => no_step_iff

theorem explores_behind (cls : CharClass) :
    (behind true 1 1 (set false [.member false cls])).Explores flags
      fun p r => r = p ∧ ∀ c, p.before.head? = some c → cls.holds flags c = false := by
  intro next p hp
  cases hbefore : p.before with
  | nil =>
    have hrun : (behind true 1 1 (set false [.member false cls])).run flags false next p =
        fun k => k p := by
      funext k
      simp [run, Place.back?, hbefore]
    rw [hrun]
    exact (ExploresFrom.here hp).congr fun r => by simp [hbefore]
  | cons c rest =>
    let b : Place := ⟨rest, c :: p.after, p.position - 1, p.marks⟩
    have hrun : (behind true 1 1 (set false [.member false cls])).run flags false next p =
        fun k => look false true ((set false [.member false cls]).run flags false none b .found)
          b p k := by
      funext k
      simp [run, Place.back?, hbefore, b]
    rw [hrun]
    have hseen := explores_member flags cls none b hp
    refine (ExploresFrom.look_negated b hp hseen).congr fun r => and_congr_right fun _ => ?_
    rw [hbefore]
    exact no_step_iff (p := b)

theorem explores_ofItems_cons (hns : ns ≠ []) (hn : n.Explores flags reaches)
    (hrest : (ofItems ns).Explores flags further) :
    (ofItems (n :: ns)).Explores flags fun p r => ∃ q, reaches p q ∧ further q r := by
  intro next p hp
  obtain ⟨m, ns, rfl⟩ := List.exists_cons_of_ne_nil hns
  have hrun : (ofItems (n :: m :: ns)).run flags false next p = fun k =>
      n.run flags false ((ofItems (m :: ns)).opening? flags next) p fun q =>
        (ofItems (m :: ns)).run flags false next q k := rfl
  rw [hrun]
  exact (hn _ p hp).andThen (hrest next)

end Node

end FormDialogue.Regex
