import FormDialogue.Proofs.Workspace.LooseEdits

/-! # Lists of patterns in a memory

In a memory the patterns of a record are in a list of its own or in one that other records have too:
what is put into it through one of them is then among the patterns of all. An edit that checks
patterns or copies a record makes a new list, and every other edit leaves a record its list. So a
new record has its list to itself, it keeps that to itself in every run of edits, and no edit of one
record is seen at another. Where no list is shared, the records of a memory are those of a
workspace. -/

namespace FormDialogue
open Record (Kind Options)

/-- A record without its patterns, but with the list that they are in. -/
structure Cell where
  kind : Kind
  list : Ref (List String)
  options : Options
  localizable : Bool

namespace Cell

def of (record : Record) (list : Ref (List String)) : Cell :=
  ⟨record.kind, list, record.options, record.localizable⟩

instance : Inhabited Cell := ⟨of Record.blank ⟨0⟩⟩

end Cell

namespace Edit

/-- The records that are read or changed. -/
def records : Edit → List (Ref Record)
  | build .. => []
  | assign r .. | append r _ | promptFrom r | copy r => [r]
  | merge specific general => [specific, general]

/-- The record that is changed. A new one is not. -/
def target? : Edit → Option (Ref Record)
  | assign r .. | append r _ | merge r _ => some r
  | build .. | promptFrom _ | copy _ => none

end Edit

structure Memory where
  cells : Heap Cell
  lists : Heap (List String)

namespace Memory

def Has (m : Memory) (r : Ref Record) : Prop := m.cells.Has ⟨r.index⟩

instance (m : Memory) (r : Ref Record) : Decidable (m.Has r) :=
  inferInstanceAs (Decidable (m.cells.Has _))

def cell (m : Memory) (r : Ref Record) : Cell := m.cells.get ⟨r.index⟩

def listOf (m : Memory) (r : Ref Record) : Ref (List String) := (m.cell r).list

def read (m : Memory) (r : Ref Record) : Record :=
  let c := m.cell r
  ⟨c.kind, m.lists.get c.list, c.options, c.localizable⟩

def fresh (m : Memory) : Ref Record := ⟨m.cells.size⟩

/-! ## Edits -/

/-- A new record with a new list. -/
def push (m : Memory) (record : Record) : Memory :=
  ⟨m.cells.push (.of record m.lists.fresh), m.lists.push record.patterns⟩

/-- Changes a record that keeps its list. -/
def rewrite (m : Memory) (r : Ref Record) (record : Record) : Memory :=
  { m with cells := m.cells.set ⟨r.index⟩ (.of record (m.listOf r)) }

/-- Changes a record and gives it a new list. -/
def rebind (m : Memory) (r : Ref Record) (record : Record) : Memory :=
  ⟨m.cells.set ⟨r.index⟩ (.of record m.lists.fresh), m.lists.push record.patterns⟩

/-- Puts a pattern behind the others, in the list that they are in. -/
def extend (m : Memory) (r : Ref Record) (pattern : String) : Memory :=
  { m with lists := m.lists.modify (m.listOf r) (· ++ [pattern]) }

def build (m : Memory) (role : Record.Role) (d : Datum) : Memory :=
  match Validation.checkRecord role d with
  | .accepted (.fresh record) => m.push record
  | _ => m

def assign (m : Memory) (r : Ref Record) (name : String) (d : Datum) : Memory :=
  if Action.isHidden name then m
  else if LooseStore.computed.contains name then m
  else
    match Action.assigned (m.read r) name d with
    | .accepted record => if name = "patterns" then m.rebind r record else m.rewrite r record
    | _ => m

def merge (m : Memory) (specific general : Ref Record) : Memory :=
  let record := m.read specific
  m.rewrite specific { record with options := record.options.fill (m.read general).options }

def edited (m : Memory) : Edit → Memory
  | .build role d => m.build role d
  | .assign r name d => m.assign r name d
  | .append r pattern => m.extend r pattern
  | .merge specific general => m.merge specific general
  | .promptFrom r => m.build .prompt (.dict (m.read r).loose.promptData)
  | .copy r => m.push (m.read r)

/-- The memory after an edit. One of a record that is not there does nothing. -/
def after (m : Memory) (edit : Edit) : Memory :=
  if ∀ r ∈ edit.records, m.Has r then m.edited edit else m

def run (m : Memory) (edits : List Edit) : Memory := edits.foldl after m

/-- What an edit comes to that changes at most a certain record. -/
inductive Effect (m : Memory) : Option (Ref Record) → Memory → Prop
  | nothing {target : Option (Ref Record)} : Effect m target m
  | push (record : Record) : Effect m none (m.push record)
  | rewrite {r : Ref Record} (hr : m.Has r) (record : Record) :
    Effect m (some r) (m.rewrite r record)
  | rebind {r : Ref Record} (hr : m.Has r) (record : Record) :
    Effect m (some r) (m.rebind r record)
  | extend {r : Ref Record} (hr : m.Has r) (pattern : String) :
    Effect m (some r) (m.extend r pattern)

variable {m n : Memory} {c q r : Ref Record} {record : Record}

theorem edited_promptFrom (m : Memory) (r : Ref Record) :
    m.edited (.promptFrom r) = m.push (m.read r).asPrompt := by
  rw [edited, build, Validation.checkRecord, Record.checkRecordFields_promptData]
  rfl

theorem effect_build (m : Memory) (role : Record.Role) (d : Datum) :
    m.Effect none (m.build role d) := by
  rw [build]
  split
  · exact .push _
  · exact .nothing

theorem effect_after (m : Memory) (edit : Edit) : m.Effect edit.target? (m.after edit) := by
  rw [after]
  split
  · next hrecords =>
    cases edit with
    | build role d => exact effect_build m role d
    | assign r name d =>
      have hr : m.Has r := hrecords r List.mem_cons_self
      rw [edited, assign]
      split
      · exact .nothing
      · split
        · exact .nothing
        · split
          · next record _ =>
            split
            · exact .rebind hr record
            · exact .rewrite hr record
          · exact .nothing
    | append r pattern => exact .extend (hrecords r List.mem_cons_self) pattern
    | merge specific general => exact .rewrite (hrecords specific List.mem_cons_self) _
    | promptFrom r => exact effect_build m .prompt _
    | copy r => exact .push _
  · exact .nothing

/-! ## Records and lists after an edit -/

theorem cell_set_same (m : Memory) (r : Ref Record) (a : Cell) (lists : Heap (List String)) :
    (Memory.mk (m.cells.set ⟨r.index⟩ a) lists).cell r = a := Heap.get_set_same ..

theorem cell_set_other (hne : q ≠ r) (a : Cell) (lists : Heap (List String)) :
    (Memory.mk (m.cells.set ⟨r.index⟩ a) lists).cell q = m.cell q := by
  have hindex : (⟨q.index⟩ : Ref Cell) ≠ ⟨r.index⟩ := fun heq => hne (Ref.ext (Ref.mk.inj heq))
  exact Heap.get_set_other hindex a

theorem cell_push_old (hq : m.Has q) (record : Record) : (m.push record).cell q = m.cell q :=
  Heap.get_push_old (r := ⟨q.index⟩) hq _

theorem cell_push_fresh (m : Memory) (record : Record) :
    (m.push record).cell m.fresh = .of record m.lists.fresh := Heap.get_push_fresh ..

theorem read_of_cell {list : Ref (List String)} (h : m.cell r = .of record list)
    (hlist : m.lists.get list = record.patterns) : m.read r = record := by
  rw [read, h]
  dsimp only [Cell.of]
  rw [hlist]

theorem read_push_fresh (m : Memory) (record : Record) :
    (m.push record).read m.fresh = record :=
  read_of_cell (cell_push_fresh m record) (Heap.get_push_fresh ..)

theorem read_rebind (m : Memory) (r : Ref Record) (record : Record) :
    (m.rebind r record).read r = record :=
  read_of_cell (cell_set_same ..) (Heap.get_push_fresh ..)

theorem read_rewrite (h : record.patterns = (m.read r).patterns) :
    (m.rewrite r record).read r = record :=
  read_of_cell (cell_set_same ..) h.symm

theorem read_extend (m : Memory) (r : Ref Record) (pattern : String) :
    (m.extend r pattern).read r =
      { m.read r with patterns := (m.read r).patterns ++ [pattern] } := by
  have hlist := Heap.get_modify_same m.lists (m.listOf r) (· ++ [pattern])
  exact congrArg (Record.mk _ · _ _) hlist

theorem has_push_iff : (m.push record).Has q ↔ m.Has q ∨ q = m.fresh := by
  refine (Nat.lt_succ_iff_lt_or_eq (m := q.index)).trans (or_congr_right ?_)
  exact ⟨fun h => Ref.ext h, fun h => congrArg Ref.index h⟩

/-! ## Memories without loose ends -/

/-- Every record has a list that is there. -/
def WellFormed (m : Memory) : Prop := ∀ r, m.Has r → m.lists.Has (m.listOf r)

/-- A record has its list to itself. -/
def Owns (m : Memory) (c : Ref Record) : Prop :=
  m.Has c ∧ ∀ q, m.Has q → q ≠ c → m.listOf q ≠ m.listOf c

/-- No list is shared. -/
def Separated (m : Memory) : Prop := ∀ r, m.Has r → m.Owns r

theorem listOf_ne_fresh (hm : m.WellFormed) (hr : m.Has r) : m.listOf r ≠ m.lists.fresh := by
  intro heq
  have hlist := hm r hr
  rw [heq] at hlist
  exact Nat.lt_irrefl _ hlist

namespace Effect
variable {target : Option (Ref Record)} (h : m.Effect target n)
include h

theorem has (hr : m.Has r) : n.Has r := by
  cases h with
  | push record => exact has_push_iff.2 (Or.inl hr)
  | _ => exact hr

theorem lists_size : m.lists.size ≤ n.lists.size := by
  cases h with
  | push | rebind => exact Nat.le_succ _
  | _ => exact Nat.le_refl _

/-- At most one record has another list than before, and that is a new one. -/
theorem listOf_cases :
    (∀ q, n.Has q → m.Has q ∧ n.listOf q = m.listOf q) ∨
    ∃ x, n.listOf x = m.lists.fresh ∧ n.lists.Has m.lists.fresh ∧
      ∀ q, q ≠ x → n.Has q → m.Has q ∧ n.listOf q = m.listOf q := by
  cases h with
  | nothing => exact Or.inl fun q hq => ⟨hq, rfl⟩
  | push record =>
    refine Or.inr ⟨m.fresh, congrArg Cell.list (cell_push_fresh m record), Nat.lt_succ_self _, ?_⟩
    intro q hne hq
    have hold : m.Has q := (has_push_iff.1 hq).resolve_right hne
    exact ⟨hold, congrArg Cell.list (cell_push_old hold record)⟩
  | rewrite hr record =>
    next r =>
    refine Or.inl fun q hq => ⟨hq, ?_⟩
    by_cases hqr : q = r
    · subst hqr
      have hcell : (m.rewrite q record).cell q = .of record (m.listOf q) := cell_set_same ..
      rw [listOf, hcell]
      rfl
    · exact congrArg Cell.list (cell_set_other hqr ..)
  | rebind hr record =>
    next r =>
    refine Or.inr ⟨r, congrArg Cell.list (cell_set_same ..), Nat.lt_succ_self _, ?_⟩
    exact fun q hne hq => ⟨hq, congrArg Cell.list (cell_set_other hne ..)⟩
  | extend hr pattern => exact Or.inl fun q hq => ⟨hq, rfl⟩

theorem wellFormed (hm : m.WellFormed) : n.WellFormed := by
  have hkept {q : Ref Record} (hq : m.Has q) (heq : n.listOf q = m.listOf q) :
      n.lists.Has (n.listOf q) := by
    rw [heq]
    exact Nat.lt_of_lt_of_le (hm q hq) h.lists_size
  intro q hq
  rcases h.listOf_cases with hall | ⟨x, hx, hfresh, hothers⟩
  · exact hkept (hall q hq).1 (hall q hq).2
  · by_cases hqx : q = x
    · rw [hqx, hx]
      exact hfresh
    · exact hkept (hothers q hqx hq).1 (hothers q hqx hq).2

theorem owns (hm : m.WellFormed) (hc : m.Owns c) : n.Owns c := by
  refine ⟨h.has hc.1, fun q hq hqc => ?_⟩
  rcases h.listOf_cases with hall | ⟨x, hx, -, hothers⟩
  · rw [(hall q hq).2, (hall c (h.has hc.1)).2]
    exact hc.2 q (hall q hq).1 hqc
  · by_cases hcx : c = x
    · subst hcx
      obtain ⟨hold, heq⟩ := hothers q hqc hq
      rw [hx, heq]
      exact listOf_ne_fresh hm hold
    · rw [(hothers c hcx (h.has hc.1)).2]
      by_cases hqx : q = x
      · rw [hqx, hx]
        exact (listOf_ne_fresh hm hc.1).symm
      · obtain ⟨hold, heq⟩ := hothers q hqx hq
        rw [heq]
        exact hc.2 q hold hqc

/-- A record is as before, unless it is changed or shares the list of the one that is. -/
theorem read_eq (hm : m.WellFormed) (hq : m.Has q)
    (hfree : ∀ r, target = some r → m.Has r → q ≠ r ∧ m.listOf q ≠ m.listOf r) :
    n.read q = m.read q := by
  have hread (hcell : n.cell q = m.cell q)
      (hlist : n.lists.get (m.listOf q) = m.lists.get (m.listOf q)) : n.read q = m.read q := by
    rw [read, hcell]
    exact congrArg (Record.mk _ · _ _) hlist
  cases h with
  | nothing => rfl
  | push record => exact hread (cell_push_old hq record) (Heap.get_push_old (hm q hq) _)
  | rewrite hr record =>
    obtain ⟨hne, -⟩ := hfree _ rfl hr
    exact hread (cell_set_other hne ..) rfl
  | rebind hr record =>
    obtain ⟨hne, -⟩ := hfree _ rfl hr
    exact hread (cell_set_other hne ..) (Heap.get_push_old (hm q hq) _)
  | extend hr pattern =>
    obtain ⟨-, hne⟩ := hfree _ rfl hr
    exact hread rfl (Heap.get_modify_other hne (· ++ [pattern]))

/-- Of two records of which one has its list to itself, neither is changed through the other. -/
theorem read_apart (hm : m.WellFormed) (hc : m.Owns c) (hq : m.Has q)
    (hapart : ∀ r, target = some r → r ≠ q ∧ (r = c ∨ q = c)) : n.read q = m.read q := by
  refine h.read_eq hm hq fun r hr hhas => ?_
  obtain ⟨hne, hone⟩ := hapart r hr
  refine ⟨hne.symm, ?_⟩
  rcases hone with rfl | rfl
  · exact hc.2 q hq hne.symm
  · exact (hc.2 r hhas hne).symm

end Effect

theorem owns_push (hm : m.WellFormed) (record : Record) : (m.push record).Owns m.fresh := by
  refine ⟨has_push_iff.2 (Or.inr rfl), fun q hq hne => ?_⟩
  have hold : m.Has q := (has_push_iff.1 hq).resolve_right hne
  have hnew : (m.push record).listOf m.fresh = m.lists.fresh :=
    congrArg Cell.list (cell_push_fresh m record)
  have hkept : (m.push record).listOf q = m.listOf q :=
    congrArg Cell.list (cell_push_old hold record)
  rw [hnew, hkept]
  exact listOf_ne_fresh hm hold

/-- A record that was not there before has its list to itself. -/
theorem Effect.has_or_owns {target : Option (Ref Record)} (h : m.Effect target n)
    (hm : m.WellFormed) (hq : n.Has q) : m.Has q ∨ n.Owns q := by
  cases h with
  | push record =>
    rcases has_push_iff.1 hq with hold | rfl
    · exact Or.inl hold
    · exact Or.inr (owns_push hm record)
  | _ => exact Or.inl hq

theorem Effect.separated {target : Option (Ref Record)} (h : m.Effect target n)
    (hm : m.WellFormed) (hseparated : m.Separated) : n.Separated := by
  intro q hq
  rcases h.has_or_owns hm hq with hold | hown
  · exact h.owns hm (hseparated q hold)
  · exact hown

/-! ## Runs -/

theorem run_append (m : Memory) (edits more : List Edit) :
    m.run (edits ++ more) = (m.run edits).run more := List.foldl_append

theorem has_run (edits : List Edit) (hr : m.Has r) : (m.run edits).Has r := by
  induction edits generalizing m with
  | nil => exact hr
  | cons edit edits ih => exact ih ((m.effect_after edit).has hr)

theorem owns_run (edits : List Edit) (hm : m.WellFormed) (hc : m.Owns c) :
    (m.run edits).WellFormed ∧ (m.run edits).Owns c := by
  induction edits generalizing m with
  | nil => exact ⟨hm, hc⟩
  | cons edit edits ih =>
    have heffect := m.effect_after edit
    exact ih (heffect.wellFormed hm) (heffect.owns hm hc)

/-- Of two records of which one has its list to itself, neither is changed by a run of edits of the
other. -/
theorem read_run {edits : List Edit} (hm : m.WellFormed) (hc : m.Owns c) (hq : m.Has q)
    (hapart : ∀ edit ∈ edits, ∀ r, edit.target? = some r → r ≠ q ∧ (r = c ∨ q = c)) :
    (m.run edits).read q = m.read q := by
  induction edits generalizing m with
  | nil => rfl
  | cons edit edits ih =>
    have heffect := m.effect_after edit
    have hstep := heffect.read_apart hm hc hq (hapart edit List.mem_cons_self)
    refine (ih (heffect.wellFormed hm) (heffect.owns hm hc) (heffect.has hq) fun e he => ?_).trans
      hstep
    exact hapart e (List.mem_cons_of_mem edit he)

end Memory

end FormDialogue
