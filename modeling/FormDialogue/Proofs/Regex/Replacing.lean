import FormDialogue.Regex.Matcher

/-! # Replacing matches

A text in which an expression is replaced is read from left to right. Where a match starts, its
replacement is written and the reading goes on behind the match; elsewhere the next character is
kept. So matches do not overlap, and a character that a match has used up is not part of the next
one. -/

namespace FormDialogue.Regex

/-- Where the preferred match that starts at a place ends, with its groups. -/
def Expression.reachFrom? (e : Expression) (p : Place) : Option Place :=
  (e.root.run e.flags false none p .found).place?

/-- The text of a group, which is empty if the group took no part in the match. -/
def Place.groupText (p : Place) (group : Nat) : List Char :=
  match p.span? group with
  | some (a, b) => (p.text.drop a).take (b - a)
  | none => []

theorem Place.groupText_eq {p : Place} {group a n : Nat}
    (h : p.marks.bounds? group = some (a, a + n)) :
    p.groupText group = (p.text.drop a).take n := by
  rw [groupText, span?, h, Option.filter_some, if_pos (decide_eq_true (Nat.le_add_right a n))]
  exact congrArg (List.take · (p.text.drop a)) (Nat.add_sub_cancel_left ..)

/-- What is written from a place on, where `swap` gives the replacement of a match by its end. -/
inductive Replaced (e : Expression) (swap : Place → List Char) : Place → List Char → Prop
  | done {p : Place} (hnone : e.reachFrom? p = none) (hend : p.after = []) : Replaced e swap p []
  | keep {p next : Place} {c : Char} {out : List Char} (hnone : e.reachFrom? p = none)
    (hstep : p.step? = some (c, next)) (hrest : Replaced e swap next out) :
    Replaced e swap p (c :: out)
  | swap {p q : Place} {out : List Char} (hreach : e.reachFrom? p = some q)
    (hmoved : p.position < q.position) (hrest : Replaced e swap { q with marks := [] } out) :
    Replaced e swap p (swap q ++ out)

variable {e : Expression} {swap : Place → List Char} {p : Place} {out out' : List Char}

theorem Replaced.unique (h : Replaced e swap p out) (h' : Replaced e swap p out') : out = out' := by
  induction h generalizing out' with
  | done hnone hend =>
    cases h' with
    | done => rfl
    | keep _ hstep => simp [Place.step?, hend] at hstep
    | swap hreach => simp [hreach] at hnone
  | keep hnone hstep _ ih =>
    cases h' with
    | done _ hend => simp [Place.step?, hend] at hstep
    | keep _ hstep' hrest' =>
      rw [hstep, Option.some.injEq, Prod.mk.injEq] at hstep'
      obtain ⟨rfl, rfl⟩ := hstep'
      rw [ih hrest']
    | swap hreach => simp [hreach] at hnone
  | swap hreach _ _ ih =>
    cases h' with
    | done hnone => simp [hreach] at hnone
    | keep hnone => simp [hreach] at hnone
    | swap hreach' _ hrest' =>
      rw [hreach, Option.some.injEq] at hreach'
      subst hreach'
      rw [ih hrest']

/-! ## How an attempt ends -/

theorem oneChar_cons (test : Char → Bool) (c : Char) (before rest : List Char) (i : Nat)
    (marks : Marks) (k : Continuation) :
    oneChar test ⟨before, c :: rest, i, marks⟩ k =
      if test c then k ⟨c :: before, rest, i + 1, marks⟩ else .failed marks none := rfl

theorem place?_takenUp (flags : Flags) (looped : Bool) (p : Place) (n : Node)
    (outcome : Outcome) : (n.takenUp flags looped p outcome).place? = outcome.place? := by
  unfold Node.takenUp
  split
  · rfl
  · split
    · cases outcome with
      | found q => rfl
      | failed marks left => cases left <;> rfl
    · rfl

theorem place?_orElse_failed {marks : Marks} {left : Option Nat} (second : Marks → Outcome) :
    ((Outcome.failed marks left).orElse second).place? = (second marks).place? := by
  rw [Outcome.orElse]
  cases second marks <;> rfl

end FormDialogue.Regex
