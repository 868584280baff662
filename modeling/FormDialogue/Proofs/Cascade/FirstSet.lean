import FormDialogue.Proofs.Workspace.Running
import FormDialogue.Workspace.Prompting
import Mathlib.Tactic.SplitIfs

/-! # Resolution takes the first set value

Resolving a record walks a chain: the record itself, its scopes in order, and the defaults of the
cascade. Every option of the record becomes the first value in the chain that is set, as the records
stood before, and nothing else in the store changes. A scope may be the record itself or occur more
than once, since filling a record from itself or for a second time changes nothing. -/

namespace FormDialogue
open Record (OptionKind OptionName Options)

namespace Store
variable {s t : Store} {r q : Ref Record} {n : OptionName} {chain : List (Ref Record)}

/-- The value of an option in the first record of a chain that sets it. -/
def firstSet (s : Store) (n : OptionName) : List (Ref Record) → n.Value
  | [] => n.kind.unset
  | r :: rest => if (s.get r).options.isUnset n then firstSet s n rest else (s.get r).options.get n

/-- No record of a chain sets the option. -/
def unsetThroughout (s : Store) (chain : List (Ref Record)) (n : OptionName) : Bool :=
  chain.all fun r => (s.get r).options.isUnset n

theorem firstSet_cons_of_unset (h : (s.get r).options.isUnset n = true) :
    s.firstSet n (r :: chain) = s.firstSet n chain := by
  simp [firstSet, h]

theorem firstSet_cons_of_set (h : (s.get r).options.isUnset n = false) :
    s.firstSet n (r :: chain) = (s.get r).options.get n := by
  simp [firstSet, h]

theorem isUnset_firstSet : n.kind.isUnset (s.firstSet n chain) = s.unsetThroughout chain n := by
  induction chain with
  | nil => exact OptionKind.isUnset_iff.2 rfl
  | cons r rest ih =>
    cases h : (s.get r).options.isUnset n with
    | true => simpa [firstSet_cons_of_unset h, unsetThroughout, h] using ih
    | false =>
      rw [firstSet_cons_of_set h, unsetThroughout, List.all_cons, h, Bool.false_and]
      exact h

theorem firstSet_congr
    (h : ∀ r ∈ chain, (s.get r).options.get n = (t.get r).options.get n) :
    s.firstSet n chain = t.firstSet n chain := by
  induction chain with
  | nil => rfl
  | cons r rest ih =>
    have hr := h r List.mem_cons_self
    have hrest := ih fun q hq => h q (List.mem_cons_of_mem r hq)
    have hunset : (s.get r).options.isUnset n = (t.get r).options.isUnset n := by
      rw [Options.isUnset, Options.isUnset, hr]
    rw [firstSet, firstSet, hunset, hr, hrest]

/-! ## Filling a record from a chain -/

theorem get_inherit_same (s : Store) (r q : Ref Record) :
    (s.inherit r q).get r =
      { s.get r with options := (s.get r).options.fill (s.get q).options } := by
  simp [inherit]

theorem get_inherit_other (h : q ≠ r) (g : Ref Record) : (s.inherit r g).get q = s.get q :=
  Heap.get_modify_other h _

theorem get_inheritAll_other (h : q ≠ r) (chain : List (Ref Record)) :
    (s.inheritAll r chain).get q = s.get q := by
  induction chain generalizing s with
  | nil => rfl
  | cons g rest ih => rw [inheritAll, ih, get_inherit_other h]

theorem get_fill_inherit (s : Store) (r g : Ref Record) (n : OptionName) :
    ((s.inherit r g).get r).options.get n = s.firstSet n [r, g] := by
  rw [get_inherit_same]
  cases h : (s.get r).options.isUnset n with
  | true =>
    rw [Options.get_fill_of_unset h, firstSet_cons_of_unset h]
    cases hg : (s.get g).options.isUnset n with
    | true =>
      rw [firstSet_cons_of_unset hg]
      exact OptionKind.isUnset_iff.1 hg
    | false => rw [firstSet_cons_of_set hg]
  | false => rw [Options.get_fill_of_set h, firstSet_cons_of_set h]

/-- One step along the chain: the record that was filled stands for itself and its filler, also
where it comes up again further down. -/
theorem firstSet_inherit (s : Store) (r g : Ref Record) (n : OptionName)
    (rest : List (Ref Record)) :
    (s.inherit r g).firstSet n (r :: rest) = s.firstSet n (r :: g :: rest) := by
  have hfill := get_fill_inherit s r g n
  cases hr : (s.get r).options.isUnset n with
  | false =>
    rw [firstSet_cons_of_set hr] at hfill ⊢
    rw [firstSet_cons_of_set (by rw [Options.isUnset, hfill]; exact hr), hfill]
  | true =>
    rw [firstSet_cons_of_unset hr] at hfill ⊢
    cases hg : (s.get g).options.isUnset n with
    | false =>
      rw [firstSet_cons_of_set hg] at hfill ⊢
      rw [firstSet_cons_of_set (by rw [Options.isUnset, hfill]; exact hg), hfill]
    | true =>
      rw [firstSet_cons_of_unset hg] at hfill ⊢
      have hunset : ((s.inherit r g).get r).options.isUnset n = true := by
        rw [Options.isUnset, hfill]
        exact OptionKind.isUnset_iff.2 rfl
      rw [firstSet_cons_of_unset hunset]
      -- Nothing was filled in, so all records of the rest still have what they had.
      apply firstSet_congr
      intro q _
      by_cases hq : q = r
      · subst hq
        rw [hfill]
        exact (OptionKind.isUnset_iff.1 hr).symm
      · rw [get_inherit_other hq]

theorem get_inheritAll_same (s : Store) (r : Ref Record) (chain : List (Ref Record)) :
    (s.inheritAll r chain).get r =
      { s.get r with options := .tabulate fun n => s.firstSet n (r :: chain) } := by
  induction chain generalizing s with
  | nil =>
    have h : Options.tabulate (fun n => s.firstSet n [r]) = (s.get r).options := by
      apply Options.ext_get
      intro n
      rw [Options.get_tabulate]
      cases hr : (s.get r).options.isUnset n with
      | true => rw [firstSet_cons_of_unset hr]; exact (OptionKind.isUnset_iff.1 hr).symm
      | false => rw [firstSet_cons_of_set hr]
    rw [h]
    rfl
  | cons g rest ih =>
    rw [inheritAll, ih, get_inherit_same]
    simp only [firstSet_inherit]

theorem unresolved_inheritAll (s : Store) (r : Ref Record) (chain : List (Ref Record)) :
    (s.inheritAll r chain).unresolved r =
      (OptionName.all.filter (s.unsetThroughout (r :: chain))).map OptionName.name := by
  have h : ((s.inheritAll r chain).get r).options.isUnset = s.unsetThroughout (r :: chain) := by
    funext n
    rw [Options.isUnset, get_inheritAll_same, Options.get_tabulate, isUnset_firstSet]
  rw [unresolved, Options.unresolved, h]

end Store

/-! ## Resolution -/

namespace Cascade

theorem readiness_of_unresolved {s : Store} {r : Ref Record} {names : List OptionName}
    (h : s.unresolved r = names.map OptionName.name) :
    (readiness s r).result =
      if names ≠ [] then .error (.unresolved (names.map OptionName.name))
      else if (s.get r).patterns = [] then .error (.noPatterns .resolution)
      else .ok () := by
  unfold readiness
  rw [h]
  cases names with
  | nil =>
    cases hp : (s.get r).patterns with
    | nil => simp [Outcome.failed]
    | cons p ps => simp [Outcome.done]
  | cons n ns => simp [Outcome.failed]

end Cascade

namespace Action

def chainOf (w : Workspace) (c : Ref Cascade) (record : Ref Record)
    (scopes : List (Option (Ref Record))) : List (Ref Record) :=
  record :: (scopes.reduceOption ++ [(w.cascades.get c).defaults])

def missingIn (w : Workspace) (chain : List (Ref Record)) : List OptionName :=
  OptionName.all.filter (w.store.unsetThroughout chain)

variable {c : Ref Cascade} {record : Ref Record} {scopes : List (Option (Ref Record))}
  {w : Workspace}

theorem runIn_resolve (c : Ref Cascade) (record : Ref Record) (scopes : List (Option (Ref Record)))
    (w : Workspace) :
    let outcome := (w.cascades.get c).resolve record scopes w.store
    ((resolve c record scopes).runIn w).1 = outcome.2.result.map (fun _ => record) ∧
      ((resolve c record scopes).runIn w).2.store = outcome.1 := by
  intro outcome
  have hget : (getCascade c).runIn w = (.ok (w.cascades.get c), w) := rfl
  have hstore := runIn_onStore ((w.cascades.get c).resolve record scopes) w
  rw [resolve, runIn_bind_ok hget]
  cases hresult : ((w.cascades.get c).resolve record scopes w.store).2.result with
  | ok u =>
    rw [hresult] at hstore
    rw [runIn_bind_ok hstore]
    exact ⟨rfl, rfl⟩
  | error why =>
    rw [hresult] at hstore
    rw [runIn_bind_error hstore]
    exact ⟨rfl, rfl⟩

theorem resolve_other {q : Ref Record} (hq : q ≠ record) :
    ((resolve c record scopes).runIn w).2.store.get q = w.store.get q := by
  rw [(runIn_resolve c record scopes w).2]
  exact Store.get_inheritAll_other hq _

theorem resolve_record :
    ((resolve c record scopes).runIn w).2.store.get record =
      { w.store.get record with
        options := .tabulate fun n => w.store.firstSet n (chainOf w c record scopes) } := by
  rw [(runIn_resolve c record scopes w).2]
  exact Store.get_inheritAll_same _ _ _

theorem resolve_result :
    ((resolve c record scopes).runIn w).1 =
      if missingIn w (chainOf w c record scopes) ≠ [] then
        .error (.unresolved ((missingIn w (chainOf w c record scopes)).map OptionName.name))
      else if (w.store.get record).patterns = [] then .error (.noPatterns .resolution)
      else .ok record := by
  have hnames : (w.store.inheritAll record
      (scopes.reduceOption ++ [(w.cascades.get c).defaults])).unresolved record =
      (missingIn w (chainOf w c record scopes)).map OptionName.name :=
    Store.unresolved_inheritAll _ _ _
  have hready := Cascade.readiness_of_unresolved hnames
  rw [Store.get_inheritAll_same] at hready
  rw [(runIn_resolve c record scopes w).1]
  change (Cascade.readiness _ record).result.map _ = _
  rw [hready]
  split_ifs <;> rfl

/-- Resolution gives every option of a record the first set value of the chain of the record, its
scopes and the defaults, whether it succeeds or not; it fails for the options that the whole chain
leaves unset, or else for want of a pattern in the record itself. A truth value and a text are set,
whichever they are. -/
theorem resolve_takes_first_set (c : Ref Cascade) (record : Ref Record)
    (scopes : List (Option (Ref Record))) (w : Workspace) :
    let chain := record :: (scopes.reduceOption ++ [(w.cascades.get c).defaults])
    let missing := OptionName.all.filter (w.store.unsetThroughout chain)
    let before := w.store.get record
    let result := ((resolve c record scopes).runIn w).1
    let store := ((resolve c record scopes).runIn w).2.store
    (∀ n, (store.get record).options.get n = w.store.firstSet n chain) ∧
      (store.get record).kind = before.kind ∧ (store.get record).patterns = before.patterns ∧
      (store.get record).localizable = before.localizable ∧
      (∀ q, q ≠ record → store.get q = w.store.get q) ∧
      (∀ names, result = .error (.unresolved names) ↔
        missing ≠ [] ∧ names = missing.map OptionName.name) ∧
      (result = .error (.noPatterns .resolution) ↔ missing = [] ∧ before.patterns = []) ∧
      (∀ q, result = .ok q ↔ missing = [] ∧ before.patterns ≠ [] ∧ q = record) ∧
      (∀ b, OptionKind.flag.isUnset (some b) = false) ∧
      (∀ text, OptionKind.text.isUnset (some text) = false) := by
  intro chain missing before result store
  have hrecord : store.get record =
      { before with options := .tabulate fun n => w.store.firstSet n chain } := resolve_record
  have hresult : result =
      if missing ≠ [] then .error (.unresolved (missing.map OptionName.name))
      else if before.patterns = [] then .error (.noPatterns .resolution)
      else .ok record := resolve_result
  refine ⟨fun n => ?_, by rw [hrecord], by rw [hrecord], by rw [hrecord],
    fun q hq => resolve_other hq, fun names => ?_, ?_, fun q => ?_, fun _ => rfl, fun _ => rfl⟩
  · rw [hrecord, Options.get_tabulate]
  · rw [hresult]
    split_ifs with hmissing hpattern
    · simp [hmissing, eq_comm]
    · simp [hmissing]
    · simp [hmissing]
  · rw [hresult]
    split_ifs with hmissing hpattern
    · simp [hmissing]
    · simpa [hpattern] using hmissing
    · simp [hpattern]
  · rw [hresult]
    split_ifs with hmissing hpattern
    · simp [hmissing]
    · simp [hpattern]
    · rw [Classical.not_not] at hmissing
      simp [hmissing, hpattern, eq_comm (a := q)]

end Action

end FormDialogue
