import FormDialogue.Validation.Scalar
import Mathlib.Tactic.SplitIfs

/-! # What checks accept

A combined check accepts what its parts accept. A check decides if it accepts or lists issues; every
check of a scalar value does, since only an expression can stop a check. -/

namespace FormDialogue.Validation

namespace Verdict
variable {α β γ : Type} {a : α} {b : β} {c : γ} {v : Verdict α} {u : Verdict β}

theorem map_eq_accepted_iff {f : α → β} :
    v.map f = accepted b ↔ ∃ a, v = accepted a ∧ f a = b := by
  cases v <;> simp [map]

theorem both_eq_accepted_iff {f : α → β → γ} :
    both f v u = accepted c ↔ ∃ a b, v = accepted a ∧ u = accepted b ∧ f a b = c := by
  cases v <;> cases u <;> simp [both]

theorem seq_eq_accepted_iff {f : Verdict (α → β)} :
    f <*> v = accepted b ↔ ∃ g a, f = accepted g ∧ v = accepted a ∧ g a = b := both_eq_accepted_iff

theorem within_eq_accepted_iff {name : String} : v.within name = accepted a ↔ v = accepted a := by
  cases v <;> simp [within]

theorem andThen_eq_accepted_iff {next : α → Verdict β} :
    v.andThen next = accepted b ↔ ∃ a, v = accepted a ∧ next a = accepted b := by
  cases v <;> simp [andThen]

/-- The check was not stopped. -/
def Decides (v : Verdict α) : Prop := ∀ why, v ≠ aborted why

@[simp] theorem decides_accepted (a : α) : (accepted a).Decides := fun _ h => by cases h

@[simp] theorem decides_fault (f : Fault) : (fault f : Verdict α).Decides := fun _ h => by cases h

theorem Decides.map (h : v.Decides) (f : α → β) : (v.map f).Decides := by
  cases v with
  | aborted why => exact absurd rfl (h why)
  | accepted a => exact decides_accepted _
  | refused issues => exact fun _ h => by cases h

theorem Decides.within (h : v.Decides) (name : String) : (v.within name).Decides := by
  cases v with
  | aborted why => exact absurd rfl (h why)
  | accepted a => exact decides_accepted _
  | refused issues => exact fun _ h => by cases h

theorem Decides.both (hv : v.Decides) (hu : u.Decides) (f : α → β → γ) :
    (Verdict.both f v u).Decides := by
  cases v with
  | aborted why => exact absurd rfl (hv why)
  | _ => cases u with
    | aborted why => exact absurd rfl (hu why)
    | _ => exact fun _ h => by cases h

theorem Decides.seq {f : Verdict (α → β)} (hf : f.Decides) (hv : v.Decides) : (f <*> v).Decides :=
  hf.both hv _

theorem Decides.andThen {next : α → Verdict β} (h : v.Decides) (hnext : ∀ a, (next a).Decides) :
    (v.andThen next).Decides := by
  cases v with
  | aborted why => exact absurd rfl (h why)
  | accepted a => exact hnext a
  | refused issues => exact fun _ h => by cases h

/-- A check that decides gives a value or the report of its issues. -/
theorem Decides.orFail (h : v.Decides) (model : String) :
    (∃ issues, v.orFail model = .error (.invalid ⟨model, issues⟩)) ∨
      ∃ a, v = accepted a ∧ v.orFail model = .ok a := by
  cases v with
  | aborted why => exact absurd rfl (h why)
  | accepted a => exact Or.inr ⟨a, rfl, rfl⟩
  | refused issues => exact Or.inl ⟨issues, rfl⟩

end Verdict

/-! ## Scalar values -/

variable {α : Type}

theorem decides_checkText (d : Datum) : (checkText d).Decides := by
  rw [checkText]
  split <;> simp

theorem decides_flagOfInt (n : Int) : (flagOfInt n).Decides := by
  rw [flagOfInt]
  split_ifs <;> simp

theorem decides_checkFlag (d : Datum) : (checkFlag d).Decides := by
  cases d with
  | int n => exact decides_flagOfInt n
  | real x =>
    rw [checkFlag]
    split
    · exact decides_flagOfInt _
    · exact Verdict.decides_fault _
  | text s | member m =>
    rw [checkFlag]
    split <;> simp
  | _ => simp [checkFlag]

theorem decides_intOfText (s : String) : (intOfText s).Decides := by
  rw [intOfText]
  split <;> simp

theorem decides_intOfReal (x : Number.Binary64) : (intOfReal x).Decides := by
  fun_cases intOfReal x <;> simp

theorem decides_checkInt (d : Datum) : (checkInt d).Decides := by
  fun_cases checkInt d <;> simp [decides_intOfText, decides_intOfReal]

theorem decides_checkPositive (d : Datum) : (checkPositive d).Decides := by
  refine (decides_checkInt d).andThen fun n => ?_
  split <;> simp

theorem decides_checkMember (names : List String) (ofName? : String → Option α) (d : Datum) :
    (checkMember names ofName? d).Decides := by
  rw [checkMember]
  split <;> simp

theorem decides_checkNullable {check : Datum → Verdict α} (h : ∀ d, (check d).Decides)
    (d : Datum) : (checkNullable check d).Decides := by
  rw [checkNullable.eq_def]
  split
  · exact Verdict.decides_accepted _
  · exact (h _).map _

end FormDialogue.Validation
