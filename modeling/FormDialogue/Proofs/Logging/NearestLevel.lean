import FormDialogue.Logging.State
import Mathlib.Data.List.Infix

/-! # The nearest level

A logger is subject to the level of the nearest logger above it, or of itself, that was given one.
If there is none, it is subject to the level of the root. -/

namespace FormDialogue.Logging.State
variable {s : State} {logger : String} {level : Level} {path : LoggerPath}

/-- The level that a path is subject to: that of the longest path above it, or of itself, that was
given one, and that of the root if there is none. Zero counts as no level. -/
def Subject (s : State) (path : LoggerPath) (level : Level) : Prop :=
  (∃ near, near <+: path ∧ near ≠ [] ∧ s.ownLevel near = level ∧ level ≠ 0 ∧
    ∀ nearer, nearer <+: path → near.length < nearer.length → s.ownLevel nearer = 0) ∨
  (∀ near, near <+: path → near ≠ [] → s.ownLevel near = 0) ∧ level = s.rootLevel

theorem subject_nil_iff : s.Subject [] level ↔ level = s.rootLevel := by
  constructor
  · rintro (⟨near, hnear, hne, -⟩ | ⟨-, hlevel⟩)
    · exact absurd (List.prefix_nil.1 hnear) hne
    · exact hlevel
  · exact fun hlevel => .inr ⟨fun near hnear hne => absurd (List.prefix_nil.1 hnear) hne, hlevel⟩

theorem subject_of_own {part : String} (h : s.ownLevel (path ++ [part]) ≠ 0) :
    s.Subject (path ++ [part]) level ↔ level = s.ownLevel (path ++ [part]) := by
  have hself : path ++ [part] <+: path ++ [part] := List.prefix_refl _
  have hne : path ++ [part] ≠ [] := by simp
  constructor
  · rintro (⟨near, hnear, -, hlevel, -, hlast⟩ | ⟨hnone, -⟩)
    · -- A shorter path is not the nearest one, since the whole path has a level.
      obtain rfl | hshorter := List.prefix_concat_iff.1 hnear
      · exact hlevel.symm
      · have hlength : near.length < (path ++ [part]).length := by
          have := hshorter.length_le
          rw [List.length_append, List.length_singleton]
          omega
        exact absurd (hlast _ hself hlength) h
    · exact absurd (hnone _ hself hne) h
  · rintro rfl
    refine .inl ⟨_, hself, hne, rfl, h, fun nearer hnearer hlength => ?_⟩
    exact absurd hnearer.length_le (Nat.not_le.2 hlength)

theorem subject_above {part : String} (h : s.ownLevel (path ++ [part]) = 0) :
    s.Subject (path ++ [part]) level ↔ s.Subject path level := by
  have hprefix : path <+: path ++ [part] := List.prefix_append ..
  constructor
  · rintro (⟨near, hnear, hne, hlevel, hzero, hlast⟩ | ⟨hnone, hlevel⟩)
    · obtain rfl | hshorter := List.prefix_concat_iff.1 hnear
      · exact absurd (hlevel.symm.trans h) hzero
      · exact .inl ⟨near, hshorter, hne, hlevel, hzero,
          fun nearer hnearer => hlast nearer (hnearer.trans hprefix)⟩
    · exact .inr ⟨fun near hnear => hnone near (hnear.trans hprefix), hlevel⟩
  · rintro (⟨near, hnear, hne, hlevel, hzero, hlast⟩ | ⟨hnone, hlevel⟩)
    · refine .inl ⟨near, hnear.trans hprefix, hne, hlevel, hzero, fun nearer hnearer hlength => ?_⟩
      obtain rfl | hshorter := List.prefix_concat_iff.1 hnearer
      · exact h
      · exact hlast nearer hshorter hlength
    · refine .inr ⟨fun near hnear hne => ?_, hlevel⟩
      obtain rfl | hshorter := List.prefix_concat_iff.1 hnear
      · exact h
      · exact hnone near hshorter hne

theorem subject_reverse_iff {reversed : LoggerPath} :
    s.Subject reversed.reverse level ↔ level = s.levelAbove reversed := by
  induction reversed with
  | nil => exact subject_nil_iff
  | cons part outer ih =>
    rw [levelAbove, List.reverse_cons]
    by_cases hown : s.ownLevel (outer.reverse ++ [part]) = 0
    · rw [subject_above hown, ih, if_pos hown]
    · rw [subject_of_own hown, if_neg hown]

theorem subject_iff : s.Subject (pathOf logger) level ↔ level = s.effectiveLevel logger := by
  rw [effectiveLevel, ← subject_reverse_iff, List.reverse_reverse]

theorem exists_subject (s : State) (logger : String) : ∃ level, s.Subject (pathOf logger) level :=
  ⟨_, subject_iff.2 rfl⟩

end FormDialogue.Logging.State
