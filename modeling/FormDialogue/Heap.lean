/-! # Heaps

A heap holds values of one kind under references, so that a value can be shared and changed in
place. Writing under one reference leaves the values under all others as they are, and a new value
gets a reference that no earlier value has. -/

namespace FormDialogue

structure Ref (α : Type) where
  index : Nat

namespace Ref
variable {α : Type}

theorem ext {a b : Ref α} (h : a.index = b.index) : a = b := by
  cases a; cases b; simp_all

instance : DecidableEq (Ref α) := fun a b =>
  if h : a.index = b.index then isTrue (ext h) else isFalse fun e => h (e ▸ rfl)

instance : Repr (Ref α) := ⟨fun r => reprPrec r.index⟩

end Ref

structure Heap (α : Type) where
  size : Nat
  cell : Nat → α

namespace Heap
variable {α : Type}

def empty [Inhabited α] : Heap α := ⟨0, fun _ => default⟩

instance [Inhabited α] : Inhabited (Heap α) := ⟨empty⟩

def get (h : Heap α) (r : Ref α) : α := h.cell r.index

@[noinline] def set (h : Heap α) (r : Ref α) (a : α) : Heap α :=
  { h with cell := fun i => if i = r.index then a else h.cell i }

def modify (h : Heap α) (r : Ref α) (f : α → α) : Heap α := h.set r (f (h.get r))

def fresh (h : Heap α) : Ref α := ⟨h.size⟩

def push (h : Heap α) (a : α) : Heap α := { h.set h.fresh a with size := h.size + 1 }

/-- Whether a value was put under the reference. -/
def Has (h : Heap α) (r : Ref α) : Prop := r.index < h.size

instance (h : Heap α) (r : Ref α) : Decidable (h.Has r) := inferInstanceAs (Decidable (_ < _))

@[simp] theorem get_set_same (h : Heap α) (r : Ref α) (a : α) : (h.set r a).get r = a := by
  simp [get, set]

theorem get_set_other {h : Heap α} {r s : Ref α} (hne : s ≠ r) (a : α) :
    (h.set r a).get s = h.get s := by
  have : s.index ≠ r.index := fun e => hne (Ref.ext e)
  simp [get, set, this]

theorem set_get (h : Heap α) (r : Ref α) : h.set r (h.get r) = h := by
  obtain ⟨size, cell⟩ := h
  refine congrArg (Heap.mk size) (funext fun i => ?_)
  by_cases hi : i = r.index
  · rw [if_pos hi, get, hi]
  · exact if_neg hi

theorem set_set (h : Heap α) (r : Ref α) (a b : α) : (h.set r a).set r b = h.set r b := by
  refine congrArg (Heap.mk h.size) (funext fun i => ?_)
  by_cases hi : i = r.index
  · rw [if_pos hi, if_pos hi]
  · rw [if_neg hi, if_neg hi]
    exact if_neg hi

@[simp] theorem get_modify_same (h : Heap α) (r : Ref α) (f : α → α) :
    (h.modify r f).get r = f (h.get r) := by
  simp [modify]

theorem get_modify_other {h : Heap α} {r s : Ref α} (hne : s ≠ r) (f : α → α) :
    (h.modify r f).get s = h.get s := get_set_other hne _

@[simp] theorem get_push_fresh (h : Heap α) (a : α) : (h.push a).get h.fresh = a := by
  simp [get, push, set, fresh]

theorem get_push_old {h : Heap α} {r : Ref α} (hr : h.Has r) (a : α) :
    (h.push a).get r = h.get r := by
  have : r.index ≠ h.size := Nat.ne_of_lt hr
  simp [get, push, set, fresh, this]

end Heap

end FormDialogue
