import FormDialogue.Draw.Source
import Mathlib.Data.List.Forall2

/-! # Answers of sources

A pattern is picked with one draw where there are two or more, and without a draw otherwise. Any
answers below the bounds of their draws are the answers of a source. -/

namespace FormDialogue.Draw.Source

theorem pick_of_few {patterns : List String} (s : Source) (h : patterns.length < 2) :
    (s.pick patterns).2 = s := by
  match patterns with
  | [] => rfl
  | [p] => rfl
  | p :: q :: rest =>
    rw [List.length_cons, List.length_cons] at h
    omega

theorem next_of_pos (s : Source) {n : Nat} (h : 0 < n) :
    s.next n = (.ok (s.draw h).1, (s.draw h).2) := by
  have hbound : ∀ m (hm : 0 < m), m = n → ((.ok (s.draw hm).1, (s.draw hm).2) :
      Except Failure Nat × Source) = (.ok (s.draw h).1, (s.draw h).2) := by
    rintro m hm rfl
    rfl
  have hupper : (1 : Int) ≤ n := by omega
  exact (dif_pos hupper).trans (hbound _ _ (Int.toNat_natCast n))

theorem pick_of_many {patterns : List String} (s : Source) (h : 2 ≤ patterns.length) :
    ∃ (a : Fin patterns.length) (source : Source),
      s.next patterns.length = (.ok a, source) ∧
        s.pick patterns = (.ok (patterns[a], [.selected (a + 1) patterns.length]), source) := by
  have hpositive : 0 < patterns.length := by omega
  refine ⟨(s.draw hpositive).1, (s.draw hpositive).2, s.next_of_pos hpositive, ?_⟩
  match patterns with
  | [] => cases h
  | [p] =>
    rw [List.length_singleton] at h
    omega
  | p :: q :: rest => simp only [pick]

/-- What is picked depends on nothing but the answer to a draw for one of the patterns. -/
theorem pick_congr {s t : Source} {patterns : List String}
    (h : (s.next patterns.length).1 = (t.next patterns.length).1) :
    (s.pick patterns).1 = (t.pick patterns).1 := by
  by_cases hmany : 2 ≤ patterns.length
  · obtain ⟨a, _, hs, hpick⟩ := s.pick_of_many hmany
    obtain ⟨b, _, ht, hpick'⟩ := t.pick_of_many hmany
    rw [hs, ht] at h
    obtain rfl : a = b := Fin.ext (Except.ok.inj h)
    rw [hpick, hpick']
  · match patterns with
    | [] => rfl
    | [p] => rfl
    | p :: q :: rest => simp at hmany

/-! ## Scripts -/

theorem scriptEntry_append (played rest : List Int) (entry : Int) :
    scriptEntry (played ++ entry :: rest) played.length = entry := by
  have hlength : played.length < (played ++ entry :: rest).length := by simp
  rw [scriptEntry, Nat.mod_eq_of_lt hlength]
  simp

theorem reduce_of_lt {a n : Nat} (h : a < n) (hn : 0 < n) : (reduce hn (a : Int)).val = a := by
  change ((a : Int) % n).toNat = a
  rw [Int.emod_eq_of_lt (by omega) (by omega), Int.toNat_natCast]

theorem nextAll_scripted {answers uppers : List Nat} (h : List.Forall₂ (· < ·) answers uppers)
    (played : List Int) :
    ((scripted (played ++ answers.map Nat.cast) played.length).nextAll (uppers.map Nat.cast)).1 =
      answers.map .ok := by
  -- The script is split at the next answer, which is played with each draw.
  induction h generalizing played with
  | nil => rfl
  | @cons a n answers uppers hlt _ ih =>
    have hn : 0 < n := by omega
    let s := scripted (played ++ (a :: answers).map Nat.cast) played.length
    have hanswer : (s.next n).1 = .ok a := by
      rw [next_of_pos s hn]
      refine congrArg Except.ok ?_
      rw [draw, List.map_cons, scriptEntry_append]
      exact reduce_of_lt hlt hn
    have hnext : (s.next n).2 = scripted ((played ++ [(a : Int)]) ++ answers.map Nat.cast)
        (played ++ [(a : Int)]).length := by
      rw [next_of_pos s hn, List.length_append, List.append_assoc]
      rfl
    have hrest : ((s.next n).2.nextAll (uppers.map Nat.cast)).1 = answers.map .ok := by
      rw [hnext]
      exact ih _
    exact congrArg₂ List.cons hanswer hrest

/-- Whatever is answered within the bounds, there is a source that answers so. -/
theorem exists_answers {answers uppers : List Nat} (h : List.Forall₂ (· < ·) answers uppers) :
    ∃ s : Source, (s.nextAll (uppers.map Nat.cast)).1 = answers.map .ok :=
  ⟨_, nextAll_scripted h []⟩

end FormDialogue.Draw.Source
