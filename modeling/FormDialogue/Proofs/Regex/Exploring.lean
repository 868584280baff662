import FormDialogue.Regex.Matcher

/-! # The places a run explores

A run hands places to its continuation until one of them is accepted. For expressions without groups
that capture, no marks are left anywhere, and the places a run can hand on are described by a
relation: a run succeeds exactly if the continuation accepts one of these places. -/

namespace FormDialogue.Regex
variable {flags : Flags} {looped : Bool} {p q r : Place} {k : Continuation} {o : Outcome}
  {test : Char → Bool} {c : Char} {x y : List Char}

/-! ## Outcomes without marks -/

def Outcome.Clean : Outcome → Prop
  | .found _ => True
  | .failed marks _ => marks = []

/-- A continuation that leaves no marks where there are none. -/
def Clean (k : Continuation) : Prop := ∀ p, p.marks = [] → (k p).Clean

theorem clean_found : Clean .found := fun _ _ => trivial

theorem place?_setOut (i : Nat) : (o.setOut i).place? = o.place? := by
  cases o with
  | found p => rfl
  | failed marks left => cases left <;> rfl

theorem Outcome.Clean.setOut (h : o.Clean) (i : Nat) : (o.setOut i).Clean := by
  cases o with
  | found p => trivial
  | failed marks left => cases left <;> exact h

theorem place?_undone (p : Place) : (o.undone looped p).place? = o.place? := by
  cases o <;> rfl

theorem undo_nil (hp : p.marks = []) (looped : Bool) : p.undo looped [] = p := by
  cases looped with
  | true => rfl
  | false =>
    rw [Place.undo, if_neg Bool.false_ne_true, List.filter_nil, ← hp]

theorem Outcome.Clean.undone (h : o.Clean) (hp : p.marks = []) : (o.undone looped p).Clean := by
  cases o with
  | found q => trivial
  | failed marks left =>
    obtain rfl : marks = [] := h
    rw [Outcome.undone, undo_nil hp]
    exact hp

/-! ## Exploring from one place -/

/-- An attempt hands exactly the given places to its continuation, as long as none is accepted. -/
structure ExploresFrom (attempt : Continuation → Outcome) (reached : Place → Prop) : Prop where
  unmarked : ∀ r, reached r → r.marks = []
  clean : ∀ k, Clean k → (attempt k).Clean
  sound : ∀ k q, Clean k → (attempt k).place? = some q → ∃ r, reached r ∧ (k r).place? = some q
  complete : ∀ k r, Clean k → reached r → (attempt k).place? = none → (k r).place? = none

namespace ExploresFrom
variable {attempt other : Continuation → Outcome} {reached also : Place → Prop}

theorem congr (h : ExploresFrom attempt reached) (hiff : ∀ r, reached r ↔ also r) :
    ExploresFrom attempt also := by
  obtain rfl : reached = also := funext fun r => propext (hiff r)
  exact h

/-- Only what is reached and what is left by a failure counts. -/
theorem of_same (h : ExploresFrom attempt reached)
    (hplace : ∀ k, (other k).place? = (attempt k).place?)
    (hclean : ∀ k, (attempt k).Clean → (other k).Clean) : ExploresFrom other reached where
  unmarked := h.unmarked
  clean := fun k hk => hclean k (h.clean k hk)
  sound := fun k q hk hq => h.sound k q hk (hplace k ▸ hq)
  complete := fun k r hk hr hnone => h.complete k r hk hr (hplace k ▸ hnone)

theorem wrap (h : ExploresFrom attempt reached) {change : Continuation → Continuation}
    (hplace : ∀ k p, (change k p).place? = (k p).place?)
    (hclean : ∀ k, Clean k → Clean (change k)) :
    ExploresFrom (fun k => attempt (change k)) reached where
  unmarked := h.unmarked
  clean := fun k hk => h.clean _ (hclean k hk)
  sound := fun k q hk hq => by
    obtain ⟨r, hr, hkr⟩ := h.sound _ q (hclean k hk) hq
    exact ⟨r, hr, hplace k r ▸ hkr⟩
  complete := fun k r hk hr hnone => hplace k r ▸ h.complete _ r (hclean k hk) hr hnone

theorem here (hp : p.marks = []) : ExploresFrom (fun k => k p) fun r => r = p where
  unmarked := fun _ hr => hr ▸ hp
  clean := fun _ hk => hk p hp
  sound := fun _ _ _ hq => ⟨p, rfl, hq⟩
  complete := fun _ _ _ hr hnone => hr ▸ hnone

theorem blocked (hp : p.marks = []) : ExploresFrom (fun _ => p.blocked) fun _ => False where
  unmarked := fun _ hr => hr.elim
  clean := fun _ _ => hp
  sound := fun _ _ _ hq => by cases hq
  complete := fun _ _ _ hr => hr.elim

theorem setOut (h : ExploresFrom attempt reached) (i : Nat) :
    ExploresFrom (fun k => (attempt k).setOut i) reached :=
  h.of_same (fun _ => place?_setOut i) fun _ hclean => hclean.setOut i

theorem orElse {second : Continuation → Marks → Outcome} (h : ExploresFrom attempt reached)
    (h' : ExploresFrom (fun k => second k []) also) :
    ExploresFrom (fun k => (attempt k).orElse (second k)) fun r => reached r ∨ also r := by
  -- A failed first attempt leaves no marks, so the second one starts where it would start alone.
  have hcases : ∀ k, Clean k → (∃ q, attempt k = .found q ∧
      (attempt k).orElse (second k) = .found q) ∨
      ((attempt k).place? = none ∧
        ((attempt k).orElse (second k)).place? = (second k []).place? ∧
        (((second k []).Clean → ((attempt k).orElse (second k)).Clean))) := by
    intro k hk
    have hclean := h.clean k hk
    cases hfirst : attempt k with
    | found q => exact Or.inl ⟨q, rfl, rfl⟩
    | failed marks left =>
      rw [hfirst] at hclean
      obtain rfl : marks = [] := hclean
      refine Or.inr ⟨rfl, ?_⟩
      rw [Outcome.orElse]
      cases second k [] <;> exact ⟨rfl, id⟩
  constructor
  · rintro r (hr | hr)
    · exact h.unmarked r hr
    · exact h'.unmarked r hr
  · intro k hk
    rcases hcases k hk with ⟨q, -, hsum⟩ | ⟨-, -, hclean⟩
    · rw [hsum]
      trivial
    · exact hclean (h'.clean k hk)
  · intro k q hk hq
    rcases hcases k hk with ⟨q', hfirst, hsum⟩ | ⟨-, hsum, -⟩
    · rw [hsum] at hq
      obtain ⟨r, hr, hkr⟩ := h.sound k q hk (by rw [hfirst]; exact hq)
      exact ⟨r, Or.inl hr, hkr⟩
    · rw [hsum] at hq
      obtain ⟨r, hr, hkr⟩ := h'.sound k q hk hq
      exact ⟨r, Or.inr hr, hkr⟩
  · intro k r hk hr hnone
    rcases hcases k hk with ⟨q', -, hsum⟩ | ⟨hfirst, hsum, -⟩
    · rw [hsum] at hnone
      cases hnone
    · rcases hr with hr | hr
      · exact h.complete k r hk hr hfirst
      · exact h'.complete k r hk hr (hsum ▸ hnone)

theorem andThen {next : Place → Continuation → Outcome} {further : Place → Place → Prop}
    (h : ExploresFrom attempt reached)
    (h' : ∀ q, q.marks = [] → ExploresFrom (next q) (further q)) :
    ExploresFrom (fun k => attempt fun q => next q k) fun r => ∃ q, reached q ∧ further q r := by
  have hclean : ∀ k, Clean k → Clean fun q => next q k := fun k hk q hq => (h' q hq).clean k hk
  constructor
  · rintro r ⟨q, hq, hr⟩
    exact (h' q (h.unmarked q hq)).unmarked r hr
  · intro k hk
    exact h.clean _ (hclean k hk)
  · intro k q hk hq
    obtain ⟨s, hs, hnext⟩ := h.sound _ q (hclean k hk) hq
    obtain ⟨r, hr, hkr⟩ := (h' s (h.unmarked s hs)).sound k q hk hnext
    exact ⟨r, ⟨s, hs, hr⟩, hkr⟩
  · rintro k r hk ⟨s, hs, hr⟩ hnone
    have hnext := h.complete _ s (hclean k hk) hs hnone
    exact (h' s (h.unmarked s hs)).complete k r hk hr hnext

theorem oneChar {next : Place → Continuation → Outcome} {further : Place → Place → Prop}
    (hp : p.marks = [])
    (h : ∀ c q, p.step? = some (c, q) → ExploresFrom (next q) (further q)) :
    ExploresFrom (fun k => oneChar test p fun q => next q k)
      fun r => ∃ c q, p.step? = some (c, q) ∧ test c = true ∧ further q r := by
  cases hstep : p.step? with
  | none =>
    have hnone : (fun k => Regex.oneChar test p fun q => next q k) = fun _ => p.blocked := by
      funext k
      rw [Regex.oneChar, hstep]
    rw [hnone]
    exact (blocked hp).congr fun r => by simp
  | some step =>
    obtain ⟨c, q⟩ := step
    cases htest : test c with
    | true =>
      have hsome : (fun k => Regex.oneChar test p fun q => next q k) = next q := by
        funext k
        rw [Regex.oneChar, hstep]
        exact if_pos htest
      rw [hsome]
      refine (h c q hstep).congr fun r => ⟨fun hr => ⟨c, q, rfl, htest, hr⟩, ?_⟩
      rintro ⟨d, s, hds, -, hr⟩
      cases hds
      exact hr
    | false =>
      have hsome : (fun k => Regex.oneChar test p fun q => next q k) = fun _ => p.blocked := by
        funext k
        rw [Regex.oneChar, hstep]
        exact if_neg (ne_true_of_eq_false htest)
      rw [hsome]
      refine (blocked hp).congr fun r => ⟨False.elim, ?_⟩
      rintro ⟨d, s, hds, hd, -⟩
      cases hds
      rw [htest] at hd
      contradiction

theorem look_negated {body : Continuation → Outcome} {seen : Place → Prop} (b : Place)
    (hp : p.marks = []) (h : ExploresFrom body seen) :
    ExploresFrom (fun k => look looped true (body .found) b p k)
      fun r => r = p ∧ ∀ q, ¬ seen q := by
  have hbody := h.clean .found clean_found
  cases hfound : body .found with
  | found q =>
    obtain ⟨r, hr, hrq⟩ := h.sound .found q clean_found (by rw [hfound]; rfl)
    have hq : q.marks = [] := Option.some.inj hrq ▸ h.unmarked r hr
    have hfail : ExploresFrom (fun k => look looped true (.found q) b p k) fun _ => False :=
      (blocked hp).of_same (fun _ => rfl) fun _ _ => hq
    exact hfail.congr fun s => ⟨False.elim, fun hs => hs.2 r hr⟩
  | failed marks left =>
    rw [hfound] at hbody
    obtain rfl : marks = [] := hbody
    have hnone : ∀ q, ¬ seen q := by
      intro q hq
      have := h.complete .found q clean_found hq (by rw [hfound]; rfl)
      cases this
    simp only [look, undo_nil hp]
    exact ((here hp).setOut _).congr fun r => ⟨fun hr => ⟨hr, hnone⟩, fun hr => hr.1⟩

end ExploresFrom

end FormDialogue.Regex
