import FormDialogue.Proofs.Cascade.Merging
import FormDialogue.Proofs.Workspace.Resolving

/-! # Filling by assignment

A record may be filled option by option: what it leaves unset is assigned to it by name, and every
assignment is checked. Since a value of a record is a value of its option, no check refuses it, and
the record is filled all the same. -/

namespace FormDialogue
open Record (Feedback Member OptionKind OptionName Options Style)
open Text (Casing)

/-! ## Values as data -/

theorem Text.Casing.ofName?_name (x : Casing) : Casing.ofName? x.name = some x := by
  cases x <;> rfl

theorem Record.Style.ofName?_name (x : Style) : Style.ofName? x.name = some x := by
  cases x <;> rfl

theorem Record.Feedback.ofName?_name (x : Feedback) : Feedback.ofName? x.name = some x := by
  cases x <;> rfl

namespace Validation
variable {α : Type}

theorem checkMember_of_name {names : List String} {ofName? : String → Option α} {m : Member}
    {a : α} (h : ofName? m.name = some a) :
    checkMember names ofName? (.member m) = .accepted a := by
  have hname : (Datum.member m).asText?.bind ofName? = some a := h
  rw [checkMember, hname]

/-- A value of an option is accepted as it is. -/
theorem checkOption_datum (k : OptionKind) (v : k.Value) :
    checkOption k (k.datum v) = .accepted v := by
  cases k with
  | flag => cases v <;> rfl
  | text => cases v <;> rfl
  | casing => exact checkMember_of_name (Casing.ofName?_name v)
  | style => exact checkMember_of_name (Style.ofName?_name v)
  | feedback => exact checkMember_of_name (Feedback.ofName?_name v)

end Validation

/-! ## One option after the other -/

namespace Record.Options
variable {o g : Options} {n : OptionName}

def fillOption (o general : Options) (n : OptionName) : Options :=
  o.assign n ((o.fill general).get n)

theorem assign_get (o : Options) (n : OptionName) : o.assign n (o.get n) = o := by
  apply ext_get
  intro m
  by_cases h : n = m
  · subst h
    exact get_assign_same o n _
  · exact get_assign_other h _

theorem fillOption_self (o : Options) (n : OptionName) : o.fillOption o n = o := by
  rw [fillOption, fill_self, assign_get]

theorem fillOption_of_set (h : o.isUnset n = false) (g : Options) : o.fillOption g n = o := by
  rw [fillOption, get_fill_of_set h, assign_get]

theorem get_fillOption (o g : Options) (n m : OptionName) :
    (o.fillOption g n).get m = if n = m then (o.fill g).get m else o.get m := by
  by_cases h : n = m
  · subst h
    rw [if_pos rfl, fillOption, get_assign_same]
  · rw [if_neg h, fillOption, get_assign_other h]

theorem fill_fillOption (o g : Options) (n : OptionName) :
    (o.fillOption g n).fill g = o.fill g := by
  cases hunset : o.isUnset n with
  | false => rw [fillOption_of_set hunset]
  | true =>
    apply ext_get
    intro m
    have hget := get_fillOption o g n m
    by_cases h : n = m
    · subst h
      rw [if_pos rfl, get_fill_of_unset hunset] at hget
      rw [get_fill_of_unset hunset]
      -- The general options may leave it unset, too.
      cases hfilled : (o.fillOption g n).isUnset n with
      | false => rw [get_fill_of_set hfilled, hget]
      | true => exact get_fill_of_unset hfilled
    · rw [if_neg h] at hget
      rw [fill, get_tabulate, fill, get_tabulate, isUnset, isUnset, hget]

end Record.Options

namespace Store
variable {s : Store} {a b : Ref Record} {names : List OptionName}

def inheritOption (s : Store) (specific general : Ref Record) (n : OptionName) : Store :=
  s.modify specific fun r => { r with options := r.options.fillOption (s.get general).options n }

theorem inheritOption_self (s : Store) (a : Ref Record) (n : OptionName) :
    s.inheritOption a a n = s := by
  rw [inheritOption, Heap.modify, Options.fillOption_self]
  exact Heap.set_get s a

/-- The options that are still to come are filled one by one. All others are as filling leaves them,
and stay so. -/
theorem foldl_inheritOption (h : ∀ n, n ∉ names →
    ((s.get a).options.fill (s.get b).options).get n = (s.get a).options.get n) :
    names.foldl (fun s n => s.inheritOption a b n) s = s.inherit a b := by
  induction names generalizing s with
  | nil => exact (inherit_of_fill_eq (Options.ext_get fun n => h n List.not_mem_nil)).symm
  | cons n names ih =>
    rw [List.foldl_cons]
    -- The general record is read anew for every option. It may be the one that is filled.
    by_cases hb : b = a
    · subst hb
      rw [inheritOption_self]
      exact ih fun m _ => by rw [Options.fill_self]
    have ha : (s.inheritOption a b n).get a =
        { s.get a with options := (s.get a).options.fillOption (s.get b).options n } :=
      Heap.get_modify_same s a _
    have hother : (s.inheritOption a b n).get b = s.get b := Heap.get_modify_other hb _
    rw [ih]
    · rw [inherit, hother, Heap.modify, ha, inheritOption, Heap.modify, Heap.set_set,
        Options.fill_fillOption]
      rfl
    · intro m hm
      rw [ha, hother, Options.fill_fillOption, Options.get_fillOption]
      split
      · rfl
      · next hne => exact h m (List.not_mem_cons_of_ne_of_not_mem (Ne.symm hne) hm)

end Store

namespace Action
variable {a b : Ref Record} {n : OptionName} {w : Workspace}

theorem assigned_datum (record : Record) (n : OptionName) (v : n.Value) :
    assigned record n.name (n.kind.datum v) =
      .accepted { record with options := record.options.assign n v } := by
  have hassigned : assigned record n.name (n.kind.datum v) =
      (Validation.checkOption n.kind (n.kind.datum v)).map fun v =>
        { record with options := record.options.assign n v } := by
    cases n <;> rfl
  rw [hassigned, Validation.checkOption_datum]
  rfl

theorem isOwn_name (n : OptionName) : isOwn n.name = false := by
  cases n <;> rfl

theorem assignRecord_option (r : Ref Record) (n : OptionName) (v : n.Value) (w : Workspace) :
    (assignRecord r n.name (n.kind.datum v)).runIn w =
      (.ok (), { w with store := w.store.modify r fun record =>
        { record with options := record.options.assign n v } }) := by
  have hopen : ∀ title, assignOpen title (["is_resolved", "allow_numbers"] ++ computedAlways)
      n.name (assignOption r n.name (n.kind.datum v)) = assignOption r n.name (n.kind.datum v) := by
    intro title
    cases n <;> rfl
  rw [assignRecord, runIn_bind_ok (runIn_getRecord r w), isOwn_name, if_neg Bool.false_ne_true, hopen,
    assignOption,
    runIn_bind_ok (runIn_getRecord r w), assigned_datum]
  rfl

/-- Assigns to a record, if it leaves the option unset, what another record has for it. -/
def assignUnset (specific general : Ref Record) (n : OptionName) : Action Unit := do
  if (← getRecord specific).options.isUnset n then
    assignRecord specific n.name (n.kind.datum ((← getRecord general).options.get n))

theorem runIn_assignUnset (a b : Ref Record) (n : OptionName) (w : Workspace) :
    (assignUnset a b n).runIn w = (.ok (), { w with store := w.store.inheritOption a b n }) := by
  rw [assignUnset, runIn_bind_ok (runIn_getRecord a w)]
  cases h : (w.store.get a).options.isUnset n with
  | true =>
    rw [if_pos rfl, runIn_bind_ok (runIn_getRecord b w), assignRecord_option]
    rw [Store.inheritOption, Heap.modify, Heap.modify, Options.fillOption,
      Options.get_fill_of_unset h]
  | false =>
    have hsame : w.store.inheritOption a b n = w.store := by
      rw [Store.inheritOption, Heap.modify, Options.fillOption_of_set h]
      exact Heap.set_get w.store a
    rw [hsame]
    rfl

theorem runIn_forM_assignUnset (a b : Ref Record) (names : List OptionName) (w : Workspace) :
    (names.forM (assignUnset a b)).runIn w =
      (.ok (), { w with store := names.foldl (fun s n => s.inheritOption a b n) w.store }) := by
  induction names generalizing w with
  | nil => rfl
  | cons n names ih =>
    rw [List.forM_eq_forM, List.forM_cons, runIn_bind_ok (runIn_assignUnset a b n w)]
    exact ih _

theorem runIn_inherit_eq_assign (a b : Ref Record) (w : Workspace) :
    (inherit a b).runIn w = (OptionName.all.forM (assignUnset a b)).runIn w := by
  rw [runIn_forM_assignUnset, Store.foldl_inheritOption fun n hn => absurd (OptionName.mem_all n) hn]
  rfl

end Action

end FormDialogue
