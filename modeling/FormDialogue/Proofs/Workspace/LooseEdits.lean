import FormDialogue.Proofs.Record.Loose

/-! # Edits of loose records

Records are built, assigned to, extended, merged and copied. Every such edit is also defined for a
store of loose records, where values flow from one record to another by checked assignments. An edit
has the same result for loose records as in a workspace, and the loose records it leaves are those
of the workspace. -/

namespace FormDialogue
open Record (Attribute OptionKind OptionName Options Role)
open Validation (Verdict)

/-! ## Stores of loose records -/

def Heap.map {α β : Type} (f : α → β) (h : Heap α) : Heap β := ⟨h.size, fun i => f (h.cell i)⟩

theorem Heap.map_push {α β : Type} (f : α → β) (h : Heap α) (a : α) :
    (h.push a).map f = (h.map f).push (f a) := by
  refine congrArg (Heap.mk _) (funext fun i => ?_)
  change f (if i = h.size then a else h.cell i) = if i = h.size then f a else f (h.cell i)
  split <;> rfl

abbrev LooseStore := Heap Loose

namespace LooseStore

def read (s : LooseStore) (r : Ref Record) : Loose := s.get ⟨r.index⟩

def write (s : LooseStore) (r : Ref Record) (l : Loose) : LooseStore := s.set ⟨r.index⟩ l

def computed : List String := ["is_resolved", "allow_numbers"] ++ Action.computedAlways

/-- An assignment by name. One that fails leaves the store as it is. -/
def assign (s : LooseStore) (r : Ref Record) (name : String) (d : Datum) :
    LooseStore × Except Failure Unit :=
  let l := s.read r
  if Action.isHidden name then (s, .ok ())
  else if computed.contains name then (s, .error (.noSetter l.role.title name))
  else
    match ((l.assign name d).within name).orFail l.role.title with
    | .ok changed => (s.write r changed, .ok ())
    | .error why => (s, .error why)

/-- Goes through options by name. What the one record leaves unset is read off the other and
assigned, until an assignment fails. -/
def mergeOver (s : LooseStore) (specific general : Ref Record) :
    List OptionName → LooseStore × Except Failure Unit
  | [] => (s, .ok ())
  | n :: rest =>
    if ((s.read specific).value (.option n)).isUnset then
      match s.assign specific n.name ((s.read general).value (.option n)) with
      | (s, .ok _) => mergeOver s specific general rest
      | (s, .error why) => (s, .error why)
    else mergeOver s specific general rest

def merge (s : LooseStore) (specific general : Ref Record) : LooseStore × Except Failure Unit :=
  s.mergeOver specific general OptionName.all

def build (s : LooseStore) (role : Role) : Datum → LooseStore × Except Failure Unit
  | .object (.record _ given) =>
    if role.accepts given then (s, .ok ())
    else (s, .error (.invalid ⟨role.title, [⟨[], .model role.title⟩]⟩))
  | .dict entries =>
    match (Loose.build role entries).orFail role.title with
    | .ok l => (s.push l, .ok ())
    | .error why => (s, .error why)
  | _ => (s, .error (.invalid ⟨role.title, [⟨[], .model role.title⟩]⟩))

/-- Puts a pattern behind the others. -/
def append (s : LooseStore) (r : Ref Record) (pattern : String) : LooseStore :=
  let l := s.read r
  match l.value .patterns with
  | .list items => s.write r (l.put .patterns (.list (items ++ [.text pattern])))
  | _ => s

end LooseStore

/-- The data that a prompt with the attributes of a loose record is built from. -/
def Loose.promptData (l : Loose) : List (String × Datum) :=
  (l.role.attributes.map fun a => (a.name, l.value a)).filter
    (fun e => e.1 ≠ "usage" ∧ e.1 ≠ "localizable") ++ [("localizable", .bool false)]

theorem Record.checkRecordFields_promptData (record : Record) :
    Validation.checkRecordFields .prompt record.loose.promptData = .accepted record.asPrompt := by
  have hdata : record.loose.promptData = record.asPrompt.dump := by
    obtain ⟨kind, patterns, options, localizable⟩ := record
    cases kind <;> rfl
  rw [hdata]
  exact Validation.checkRecordFields_dump record.asPrompt

inductive Edit
  | build (role : Role) (d : Datum)
  | assign (r : Ref Record) (name : String) (d : Datum)
  | append (r : Ref Record) (pattern : String)
  | merge (specific general : Ref Record)
  | promptFrom (r : Ref Record)
  | copy (r : Ref Record)

namespace Edit

def act : Edit → Action Unit
  | build role d => discard (Action.buildRecord role d)
  | assign r name d => Action.assignRecord r name d
  | append r pattern => Action.appendPattern r pattern
  | merge specific general => Action.inherit specific general
  | promptFrom r => discard (Action.promptFrom r)
  | copy r => discard (Action.copyOf r)

def loose (s : LooseStore) : Edit → LooseStore × Except Failure Unit
  | build role d => s.build role d
  | assign r name d => s.assign r name d
  | append r pattern => (s.append r pattern, .ok ())
  | merge specific general => s.merge specific general
  | promptFrom r => s.build .prompt (.dict (s.read r).promptData)
  | copy r => (s.push (s.read r), .ok ())

end Edit

/-! ## Steps in a workspace -/

namespace Action
variable (r : Ref Record) (name : String) (d : Datum) (w : Workspace)

theorem isHidden_of_isOwn (h : isOwn name = true) : isHidden name = true := by
  rw [isOwn, Bool.or_eq_true, Bool.and_eq_true, List.isPrefixOf_iff_prefix] at h
  obtain ⟨⟨rest, hrest⟩, -⟩ | hroutine := h
  · rw [isHidden, ← hrest]
    rfl
  · rw [eq_of_beq hroutine]
    rfl

/-- What is assigned to a name of its own leaves the checked attributes of every record alone. -/
theorem assignOwn_cases :
    (∃ replaced, (assignOwn r name d).runIn w = (.ok (), { w with replaced := replaced })) ∨
    ∃ why, (assignOwn r name d).runIn w = (.error why, w) := by
  unfold assignOwn
  split
  · exact Or.inl ⟨_, rfl⟩
  · exact Or.inr ⟨_, rfl⟩
  · exact Or.inr ⟨_, rfl⟩
  · exact Or.inl ⟨w.replaced, rfl⟩

theorem runIn_assignRecord :
    (assignRecord r name d).runIn w =
      if isOwn name then (assignOwn r name d).runIn w
      else if isHidden name then (.ok (), w)
      else if LooseStore.computed.contains name then
        (.error (.noSetter (w.store.get r).kind.role.title name), w)
      else
        match ((assigned (w.store.get r) name d).within name).orFail
            (w.store.get r).kind.role.title with
        | .ok changed => (.ok (), { w with store := w.store.set r changed })
        | .error why => (.error why, w) := by
  rw [assignRecord, runIn_bind_ok (runIn_getRecord r w)]
  split
  · rfl
  · rw [assignOpen, LooseStore.computed]
    split
    · rfl
    split
    · rfl
    · rw [assignOption, runIn_bind_ok (runIn_getRecord r w)]
      cases ((assigned (w.store.get r) name d).within name).orFail
          (w.store.get r).kind.role.title with
      | ok changed => rw [runIn_bind_ok (runIn_ofExcept _ w)]; rfl
      | error why => exact runIn_bind_error (runIn_ofExcept _ w) _

/-- An assignment changes one record, or it fails and changes nothing. -/
theorem assignRecord_cases :
    (∃ record replaced, (assignRecord r name d).runIn w =
      (.ok (), { w with store := w.store.set r record, replaced := replaced }) ∧
        (isOwn name = false → replaced = w.replaced)) ∨
    ∃ why, (assignRecord r name d).runIn w = (.error why, w) := by
  rw [runIn_assignRecord]
  split
  · next hown =>
    obtain ⟨replaced, h⟩ | h := assignOwn_cases r name d w
    · refine Or.inl ⟨w.store.get r, replaced, ?_, fun hother => absurd hown (by simp [hother])⟩
      rw [h, Heap.set_get]
    · exact Or.inr h
  · split
    · refine Or.inl ⟨w.store.get r, w.replaced, ?_, fun _ => rfl⟩
      rw [Heap.set_get]
    · split
      · exact Or.inr ⟨_, rfl⟩
      · cases ((assigned (w.store.get r) name d).within name).orFail
            (w.store.get r).kind.role.title with
        | ok changed => exact Or.inl ⟨changed, w.replaced, rfl, fun _ => rfl⟩
        | error why => exact Or.inr ⟨why, rfl⟩

theorem runIn_buildRecord (role : Role) :
    (discard (buildRecord role d)).runIn w =
      match (Validation.checkRecord role d).orFail role.title with
      | .ok (.existing _) => (.ok (), w)
      | .ok (.fresh record) => (.ok (), { w with store := w.store.push record })
      | .error why => (.error why, w) := by
  rw [runIn_discard, buildRecord, runIn_bind, runIn_ofExcept]
  cases (Validation.checkRecord role d).orFail role.title with
  | ok built => cases built <;> rfl
  | error why => rfl

end Action

/-! ## Edit by edit -/

/-- The records of a store as loose ones. -/
def Store.loose (s : Store) : LooseStore := s.map Record.loose

namespace Store
variable (s : Store) (r : Ref Record) (record : Record)

theorem read_loose : s.loose.read r = (s.get r).loose := rfl

theorem loose_push : Store.loose (s.push record) = s.loose.push record.loose := Heap.map_push ..

theorem loose_set : Store.loose (s.set r record) = s.loose.write r record.loose := by
  refine congrArg (Heap.mk _) (funext fun i => ?_)
  change Record.loose (if i = r.index then record else s.cell i) =
    if i = r.index then record.loose else Record.loose (s.cell i)
  split <;> rfl

end Store

/-- What an action comes to for the loose records of a store. -/
def Action.looseIn (a : Action Unit) (w : Workspace) : LooseStore × Except Failure Unit :=
  (Store.loose (a.runIn w).2.store, (a.runIn w).1)

namespace LooseStore
variable (w : Workspace) (r : Ref Record)

theorem assign_eq {name : String} (h : Action.isOwn name = false) (d : Datum) :
    w.store.loose.assign r name d = (Action.assignRecord r name d).looseIn w := by
  rw [Action.looseIn, Action.runIn_assignRecord, h, if_neg Bool.false_ne_true, assign,
    Store.read_loose]
  split
  · rfl
  · split
    · rfl
    · rw [Loose.assign_eq, Verdict.within_map, Verdict.orFail_map]
      change (match Except.map Record.loose
        (((Action.assigned (w.store.get r) name d).within name).orFail
          (w.store.get r).kind.role.title) with
        | .ok changed => _
        | .error why => _) = _
      cases ((Action.assigned (w.store.get r) name d).within name).orFail
          (w.store.get r).kind.role.title with
      | ok changed => exact congrArg (·, _) (Store.loose_set ..).symm
      | error why => rfl

theorem build_eq (role : Role) (d : Datum) :
    w.store.loose.build role d = (discard (Action.buildRecord role d)).looseIn w := by
  rw [Action.looseIn, Action.runIn_buildRecord]
  cases d with
  | object o =>
    cases o with
    | record ref given =>
      rw [build, Validation.checkRecord]
      split <;> rfl
    | _ => rfl
  | dict entries =>
    rw [build, Loose.build_eq, Verdict.orFail_map, Validation.checkRecord, Verdict.orFail_map]
    cases (Validation.checkRecordFields role entries).orFail role.title with
    | ok record => exact congrArg (·, _) (Store.loose_push ..).symm
    | error why => rfl
  | _ => rfl

theorem append_eq (pattern : String) :
    (w.store.loose.append r pattern, .ok ()) = (Action.appendPattern r pattern).looseIn w := by
  let record := w.store.get r
  have hextended : ({ record with patterns := record.patterns ++ [pattern] } : Record).loose =
      record.loose.put .patterns (.list (record.patterns.map .text ++ [.text pattern])) := by
    rw [Loose.loose_patterns, List.map_append]
    rfl
  refine congrArg (·, _) ?_
  change w.store.loose.write r _ = Store.loose (w.store.set r _)
  rw [Store.loose_set, hextended]
  rfl

/-- A value of an option is inherited as data exactly if it is inherited. -/
theorem isUnset_datum (k : OptionKind) (v : k.Value) : (k.datum v).isUnset = k.isUnset v := by
  cases k with
  | flag => cases v <;> rfl
  | text => cases v <;> rfl
  | casing => cases v <;> rfl
  | style => cases v <;> rfl
  | feedback => cases v <;> rfl

theorem mergeOver_eq (specific general : Ref Record) (names : List OptionName) :
    w.store.loose.mergeOver specific general names =
      (names.forM (Action.assignUnset specific general)).looseIn w := by
  induction names generalizing w with
  | nil => rfl
  | cons n names ih =>
    let v := (w.store.get general).options.get n
    have hvalue : (w.store.loose.read general).value (.option n) = n.kind.datum v := rfl
    have hunset : ((w.store.loose.read specific).value (.option n)).isUnset =
        (w.store.get specific).options.isUnset n := isUnset_datum n.kind _
    rw [mergeOver, hvalue, hunset, List.forM_eq_forM, List.forM_cons, Action.looseIn]
    cases h : (w.store.get specific).options.isUnset n with
    | true =>
      let u : Workspace := { w with store := w.store.modify specific fun record =>
        { record with options := record.options.assign n v } }
      have hassign := Action.assignRecord_option specific n v w
      have hone : (Action.assignUnset specific general n).runIn w = (.ok (), u) := by
        rw [Action.assignUnset, Action.runIn_bind_ok (Action.runIn_getRecord specific w), h]
        exact hassign
      have hloose := assign_eq w specific (Action.isOwn_name n) (n.kind.datum v)
      rw [Action.looseIn, hassign] at hloose
      rw [if_pos rfl, hloose, Action.runIn_bind_ok hone]
      exact ih u
    | false =>
      have hone : (Action.assignUnset specific general n).runIn w = (.ok (), w) := by
        rw [Action.assignUnset, Action.runIn_bind_ok (Action.runIn_getRecord specific w), h]
        rfl
      rw [if_neg Bool.false_ne_true, Action.runIn_bind_ok hone]
      exact ih w

theorem merge_eq (specific general : Ref Record) :
    w.store.loose.merge specific general = (Action.inherit specific general).looseIn w := by
  rw [merge, mergeOver_eq, Action.looseIn, Action.looseIn, Action.runIn_inherit_eq_assign]

theorem promptFrom_eq : w.store.loose.build .prompt (.dict (w.store.loose.read r).promptData) =
    (discard (Action.promptFrom r)).looseIn w := by
  change w.store.loose.build .prompt (.dict (w.store.get r).loose.promptData) = _
  rw [build, Loose.build_eq, Record.checkRecordFields_promptData]
  exact congrArg (·, _) (Store.loose_push ..).symm

end LooseStore

/-- The edit does not assign to a name under which a record keeps itself. -/
def Edit.sparesOwn : Edit → Bool
  | assign _ name _ => !Action.isOwn name
  | _ => true

/-- An edit that spares the own names of records has the same result for loose records as in the
workspace, and they correspond afterwards, also if it fails. -/
theorem Edit.loose_eq {edit : Edit} (h : edit.sparesOwn = true) (w : Workspace) :
    edit.loose w.store.loose = edit.act.looseIn w := by
  cases edit with
  | build role d => exact LooseStore.build_eq w role d
  | assign r name d => exact LooseStore.assign_eq w r (by simpa [sparesOwn] using h) d
  | append r pattern => exact LooseStore.append_eq w r pattern
  | merge specific general => exact LooseStore.merge_eq w specific general
  | promptFrom r => exact LooseStore.promptFrom_eq w r
  | copy r => exact congrArg (·, _) (Store.loose_push ..).symm

end FormDialogue
