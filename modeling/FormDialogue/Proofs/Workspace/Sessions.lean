import FormDialogue.Proofs.Workspace.Calls
import FormDialogue.Proofs.Workspace.LooseEdits

/-! # Sessions on records

A session is any sequence of operations on records and cascades, including ones that fail. What an
operation does to the records is a sequence of edits. Taken on loose records, where nothing but the
checks on the way decides what a value is, the same edits lead to the records of the workspace. So
every value is one of its own option, and a merge between any two records succeeds. -/

namespace FormDialogue
open Record (Member OptionKind OptionName Role Usage)

inductive Operation
  | single (edit : Edit)
  | recordOf (role : Role) (patterns : List Datum) (options : List (String × Datum))
  | cascade (defaults : Ref Record) (templates : List (Ref Record))
  | register (c : Ref Cascade) (template : Ref Record)
  | resolve (c : Ref Cascade) (record : Ref Record) (scopes : List (Option (Ref Record)))
  | resolveTemplate (c : Ref Cascade) (usage : Usage) (overrides : List (Option (Ref Record)))

namespace Operation

def act : Operation → Action Unit
  | single edit => edit.act
  | recordOf role patterns options => discard (Action.recordOf role patterns options)
  | cascade defaults templates => discard (Action.buildCascade defaults templates)
  | register c template => Action.register c template
  | resolve c record scopes => discard (Action.resolve c record scopes)
  | resolveTemplate c usage overrides => discard (Action.resolveTemplate c usage overrides)

/-- The workspace after an operation, also after one that fails. -/
def after (w : Workspace) (o : Operation) : Workspace := (o.act.runIn w).2

/-- The records that are filled when templates are registered in turn: those up to the first that
has no usage. -/
def registeredInTurn (s : Store) : List (Ref Record) → List (Ref Record)
  | [] => []
  | t :: rest => if (s.get t).usage?.isSome then t :: registeredInTurn s rest else [t]

/-- The operation does not assign to a name under which a record keeps itself. -/
def sparesOwn : Operation → Bool
  | single edit => edit.sparesOwn
  | _ => true

/-- What an operation does to the records, edit by edit. -/
def edits (w : Workspace) : Operation → List Edit
  | single edit => [edit]
  | recordOf role patterns options =>
    if (Datum.entry? "cls" options).isSome || (Datum.entry? "patterns" options).isSome then []
    else [.build role (.dict (("patterns", .list patterns) :: options))]
  | cascade defaults templates =>
    if (w.store.unresolved defaults).isEmpty then
      (registeredInTurn w.store templates).map fun t => .merge t defaults
    else []
  | register c template => [.merge template (w.cascades.get c).defaults]
  | resolve c record scopes =>
    (scopes.reduceOption ++ [(w.cascades.get c).defaults]).map fun g => .merge record g
  | resolveTemplate c usage overrides =>
    match overrides.reduceOption with
    | [] => []
    | first :: rest =>
      (rest ++ ((w.cascades.get c).registered usage).toList ++ [(w.cascades.get c).defaults]).map
        fun g => .merge first g

end Operation

def LooseStore.afterEdits (s : LooseStore) (edits : List Edit) : LooseStore :=
  edits.foldl (fun s edit => (edit.loose s).1) s

/-- A workspace with loose records beside it. -/
structure Session where
  workspace : Workspace
  records : LooseStore

namespace Session

def start : Session := ⟨{}, .empty⟩

/-- An operation in the workspace, and its edits on the loose records. -/
def after (s : Session) (o : Operation) : Session :=
  ⟨o.after s.workspace, s.records.afterEdits (o.edits s.workspace)⟩

def run (operations : List Operation) : Session := operations.foldl after start

end Session

/-! ## Merges in a row -/

theorem LooseStore.merge_loose (s : Store) (specific general : Ref Record) :
    s.loose.merge specific general = (Store.loose (s.inherit specific general), .ok ()) :=
  LooseStore.merge_eq { store := s } specific general

theorem afterEdits_merges (s : Store) (record : Ref Record) (chain : List (Ref Record)) :
    s.loose.afterEdits (chain.map fun g => .merge record g) =
      Store.loose (s.inheritAll record chain) := by
  induction chain generalizing s with
  | nil => rfl
  | cons g chain ih =>
    rw [List.map_cons, LooseStore.afterEdits, List.foldl_cons, Edit.loose, LooseStore.merge_loose]
    exact ih (s.inherit record g)

theorem usage?_inherit (s : Store) (a b r : Ref Record) :
    ((s.inherit a b).get r).usage? = (s.get r).usage? := by
  rw [Record.usage?, Record.usage?, (Store.filledFrom_inherit s a b r).kind]

theorem registeredInTurn_inherit (s : Store) (a b : Ref Record) (templates : List (Ref Record)) :
    Operation.registeredInTurn (s.inherit a b) templates =
      Operation.registeredInTurn s templates := by
  induction templates with
  | nil => rfl
  | cons t rest ih =>
    rw [Operation.registeredInTurn, usage?_inherit, ih, Operation.registeredInTurn]

theorem register_isOk (c : Cascade) (t : Ref Record) (s : Store) :
    (c.register t s).2.result.isOk = (s.get t).usage?.isSome := by
  rw [Cascade.register, usage?_inherit]
  cases (s.get t).usage? <;> rfl

theorem afterEdits_registerAll (c : Cascade) (s : Store) (templates : List (Ref Record)) :
    s.loose.afterEdits ((Operation.registeredInTurn s templates).map fun t => .merge t c.defaults) =
      Store.loose (c.registerAll s templates).1 := by
  induction templates generalizing c s with
  | nil => rfl
  | cons t rest ih =>
    have hok := register_isOk c t s
    have hfirst (more : List Edit) : s.loose.afterEdits (.merge t c.defaults :: more) =
        LooseStore.afterEdits (Store.loose (c.register t s).1) more := by
      rw [LooseStore.afterEdits, List.foldl_cons, Edit.loose, LooseStore.merge_loose,
        Cascade.register_store]
      rfl
    rw [Operation.registeredInTurn, ← hok]
    rcases Cascade.registerAll_cons c t rest s with ⟨why, hwhy, hstore, -⟩ | ⟨c', hc', hstore, -⟩
    · rw [hwhy, hstore]
      exact hfirst []
    · have hdefaults := Cascade.register_defaults hc'
      have hrest := ih c' (c.register t s).1
      rw [hdefaults, Cascade.register_store, registeredInTurn_inherit] at hrest
      rw [hc', hstore, Cascade.register_store, ← hrest, ← Cascade.register_store c]
      exact hfirst _

/-! ## Operations -/

theorem Operation.afterEdits_resolve (c : Ref Cascade) (record : Ref Record)
    (scopes : List (Option (Ref Record))) (w : Workspace) :
    w.store.loose.afterEdits ((resolve c record scopes).edits w) =
      Store.loose ((Action.resolve c record scopes).runIn w).2.store := by
  obtain ⟨notices, hstate⟩ := Action.resolve_state c record scopes w
  rw [hstate]
  exact afterEdits_merges w.store record _

theorem Operation.afterEdits_eq {o : Operation} (h : o.sparesOwn = true) (w : Workspace) :
    w.store.loose.afterEdits (o.edits w) = Store.loose (o.after w).store := by
  cases o with
  | single edit => exact congrArg Prod.fst (edit.loose_eq h w)
  | recordOf role patterns options =>
    rw [after, act, edits, Action.recordOf]
    cases (Datum.entry? "cls" options).isSome with
    | true => rfl
    | false =>
      cases (Datum.entry? "patterns" options).isSome with
      | true => rfl
      | false =>
        let build : Edit := .build role (.dict (("patterns", .list patterns) :: options))
        exact congrArg Prod.fst (build.loose_eq rfl w)
  | cascade defaults templates =>
    obtain ⟨-, notices, hstate⟩ := Action.runIn_buildCascade defaults templates w
    rw [after, act, Action.runIn_discard, hstate, edits, Cascade.create]
    cases w.store.unresolved defaults with
    | nil => exact afterEdits_registerAll ⟨defaults, fun _ => none⟩ w.store templates
    | cons name names => rfl
  | register c template =>
    obtain ⟨notices, hstate⟩ := Action.register_state c template w
    rw [after, act, hstate, Cascade.register_store]
    exact congrArg Prod.fst (LooseStore.merge_loose w.store template _)
  | resolve c record scopes =>
    rw [after, act, Action.runIn_discard]
    exact afterEdits_resolve c record scopes w
  | resolveTemplate c usage overrides =>
    rw [after, act, Action.runIn_discard, edits]
    cases hchain : overrides.reduceOption with
    | nil =>
      rw [Action.resolveTemplate_nil hchain]
      rfl
    | cons first rest =>
      rw [Action.resolveTemplate_cons hchain, ← afterEdits_resolve, edits,
        Call.reduceOption_map_some_append]

/-- The attributes of no record are replaced. -/
theorem Operation.replaced_after {o : Operation} (h : o.sparesOwn = true) (w : Workspace) :
    (o.after w).replaced = w.replaced := by
  have hbuild (role : Role) (d : Datum) :
      ((discard (Action.buildRecord role d)).runIn w).2.replaced = w.replaced := by
    rw [Action.runIn_buildRecord]
    split <;> rfl
  cases o with
  | single edit =>
    cases edit with
    | build role d => exact hbuild role d
    | assign r name d =>
      -- This alone could replace attributes, under a name that is spared.
      have hown : Action.isOwn name = false := by simpa [sparesOwn, Edit.sparesOwn] using h
      rw [after, act, Edit.act]
      obtain ⟨record, replaced, hassign, hsame⟩ | ⟨why, hassign⟩ :=
        Action.assignRecord_cases r name d w
      · rw [hassign]
        exact hsame hown
      · rw [hassign]
    | append | merge | promptFrom | copy => rfl
  | recordOf role patterns options =>
    rw [after, act, Action.recordOf]
    split
    · rfl
    · split
      · rfl
      · exact hbuild role _
  | cascade defaults templates =>
    obtain ⟨-, notices, hstate⟩ := Action.runIn_buildCascade defaults templates w
    rw [after, act, Action.runIn_discard, hstate]
  | register c template =>
    obtain ⟨notices, hstate⟩ := Action.register_state c template w
    rw [after, act, hstate]
  | resolve c record scopes =>
    obtain ⟨notices, hstate⟩ := Action.resolve_state c record scopes w
    rw [after, act, Action.runIn_discard, hstate]
  | resolveTemplate c usage overrides =>
    rw [after, act, Action.runIn_discard]
    cases hchain : overrides.reduceOption with
    | nil => rw [Action.resolveTemplate_nil hchain]
    | cons first rest =>
      rw [Action.resolveTemplate_cons hchain]
      obtain ⟨notices, hstate⟩ := Action.resolve_state c first _ w
      rw [hstate]

namespace Session
variable {s : Session}

/-- The loose records are those of the workspace, and none of these has its attributes replaced. -/
structure InStep (s : Session) : Prop where
  records : s.records = Store.loose s.workspace.store
  replaced : s.workspace.replaced = []

theorem InStep.after (h : s.InStep) {o : Operation} (ho : o.sparesOwn = true) :
    (s.after o).InStep where
  records := by
    rw [Session.after, h.records]
    exact o.afterEdits_eq ho s.workspace
  replaced := (o.replaced_after ho s.workspace).trans h.replaced

theorem inStep_run {operations : List Operation} (h : ∀ o ∈ operations, o.sparesOwn = true) :
    (run operations).InStep :=
  List.foldlRecOn operations after (motive := InStep) ⟨rfl, rfl⟩ fun _ hs o ho => hs.after (h o ho)

end Session

/-! ## Values of an option -/

namespace Record

/-- What an option can hold: nothing or a value of its type, or a member of its own vocabulary. -/
def OptionKind.Admits : OptionKind → Datum → Prop
  | flag, d => d = .null ∨ ∃ b, d = .bool b
  | text, d => d = .null ∨ ∃ s, d = .text s
  | casing, d => ∃ x, d = .member (.casing x)
  | style, d => ∃ x, d = .member (.style x)
  | feedback, d => ∃ x, d = .member (.feedback x)

/-- The member of its own vocabulary that leaves an option to be inherited. -/
def OptionKind.default? : OptionKind → Option Datum
  | flag | text => none
  | casing => some (.member (.casing .default))
  | style => some (.member (.style .default))
  | feedback => some (.member (.feedback .default))

theorem OptionKind.admits_datum (k : OptionKind) (v : k.Value) : k.Admits (k.datum v) := by
  cases k with
  | flag =>
    cases v with
    | none => exact Or.inl rfl
    | some b => exact Or.inr ⟨b, rfl⟩
  | text =>
    cases v with
    | none => exact Or.inl rfl
    | some s => exact Or.inr ⟨s, rfl⟩
  | casing | style | feedback => exact ⟨v, rfl⟩

theorem OptionKind.isUnset_iff_default {k : OptionKind} {d : Datum} (h : k.Admits d) :
    d.isUnset = true ↔ d = .null ∨ k.default? = some d := by
  cases k with
  | flag =>
    rcases h with rfl | ⟨b, rfl⟩ <;> simp [Datum.isUnset, default?]
  | text =>
    rcases h with rfl | ⟨s, rfl⟩ <;> simp [Datum.isUnset, default?]
  | casing =>
    obtain ⟨x, rfl⟩ := h
    cases x <;> simp [Datum.isUnset, Member.isUnset, default?]
  | style =>
    obtain ⟨x, rfl⟩ := h
    cases x <;> simp [Datum.isUnset, Member.isUnset, default?]
  | feedback =>
    obtain ⟨x, rfl⟩ := h
    cases x <;> simp [Datum.isUnset, Member.isUnset, default?]

end Record

/-- Where no name is assigned to under which a record keeps itself, the loose records stay those of
the workspace, whatever is done in a session, and a further such edit has the same result for both.
Every option has a value of its own, and it is inherited exactly if it is absent or the default
member of its own vocabulary. An assignment that fails changes nothing, and no merge fails. -/
theorem session_stays_typed (operations : List Operation)
    (hown : ∀ o ∈ operations, o.sparesOwn = true) :
    let w := (Session.run operations).workspace
    let s := (Session.run operations).records
    (∀ r, s.read r = (w.store.get r).loose) ∧
    (∀ edit : Edit, edit.sparesOwn = true →
      edit.loose s = (Store.loose (edit.act.runIn w).2.store, (edit.act.runIn w).1)) ∧
    (∀ (r : Ref Record) (n : OptionName), ∃ d, Action.optionOf w r n = .ok d ∧
      (s.read r).value (.option n) = d ∧ n.kind.Admits d ∧
      (d.isUnset = true ↔ d = .null ∨ n.kind.default? = some d)) ∧
    (∀ r name d why, ((Action.assignRecord r name d).runIn w).1 = .error why →
      (Action.assignRecord r name d).runIn w = (.error why, w) ∧
        (Action.isOwn name = false → s.assign r name d = (s, .error why))) ∧
    ∀ specific general, (Action.inherit specific general).runIn w =
        (.ok (), { w with store := w.store.inherit specific general }) ∧
      s.merge specific general = (Store.loose (w.store.inherit specific general), .ok ()) := by
  intro w s
  obtain ⟨hs, hreplaced⟩ : (Session.run operations).InStep := Session.inStep_run hown
  change s = Store.loose w.store at hs
  have hread (r : Ref Record) : s.read r = (w.store.get r).loose := by
    rw [hs]
    rfl
  refine ⟨hread, fun edit hspares => ?_, fun r n => ?_, fun r name d why hwhy => ?_,
    fun specific general => ⟨rfl, ?_⟩⟩
  · rw [hs]
    exact edit.loose_eq hspares w
  · let d : Datum := n.kind.datum ((w.store.get r).options.get n)
    have hadmits : n.kind.Admits d := OptionKind.admits_datum n.kind _
    refine ⟨d, ?_, ?_, hadmits, OptionKind.isUnset_iff_default hadmits⟩
    · rw [Action.optionOf, Workspace.replaced?, hreplaced]
      rfl
    · rw [hread]
      rfl
  · obtain ⟨_, _, h, -⟩ | ⟨why', h⟩ := Action.assignRecord_cases r name d w
    · rw [h] at hwhy
      cases hwhy
    · rw [h] at hwhy
      cases hwhy
      refine ⟨h, fun hname => ?_⟩
      rw [hs, LooseStore.assign_eq w r hname, Action.looseIn, h]
  · rw [hs, LooseStore.merge_loose]

theorem session_stays_typed_sample :
    let operations : List Operation :=
      [.single (.build .plain (.dict [])),
        .single (.build .prompt (.dict [("choice_style", .text "inline"), ("separator", .null)])),
        .single (.assign ⟨0⟩ "separator" (.int 5)), .single (.assign ⟨0⟩ "choice_case" .null),
        .single (.merge ⟨0⟩ ⟨1⟩)]
    let w := (Session.run operations).workspace
    (∀ o ∈ operations, o.sparesOwn = true) ∧
      Action.optionOf w ⟨0⟩ .choiceStyle = .ok (.member (.style .inline)) ∧
      Record.OptionKind.style.Admits (.member (.style .inline)) ∧
      ((Action.inherit ⟨0⟩ ⟨1⟩).runIn w).1 = .ok () := by
  intro operations w
  have hown : ∀ o ∈ operations, o.sparesOwn = true := by decide
  obtain ⟨-, -, hoptions, -, hmerge⟩ := session_stays_typed operations hown
  obtain ⟨d, hoption, -, hadmits, -⟩ := hoptions ⟨0⟩ .choiceStyle
  have hstyle : Action.optionOf w ⟨0⟩ .choiceStyle = .ok (.member (.style .inline)) := rfl
  obtain rfl : d = .member (.style .inline) := Except.ok.inj (hoption.symm.trans hstyle)
  exact ⟨hown, hoption, hadmits, congrArg Prod.fst (hmerge ⟨0⟩ ⟨1⟩).1⟩

/-- A record keeps its attributes under a name that can be assigned to, and they are not checked
there: a separator can become a number. -/
theorem replaced_attributes_untyped :
    let changed (e : String × Datum) := if e.1 = "separator" then (e.1, Datum.int 5) else e
    let w := (Session.run [.single (.build .plain (.dict [])),
      .single (.assign ⟨0⟩ "__dict__" (.dict (Record.blank.dump.map changed)))]).workspace
    Action.optionOf w ⟨0⟩ .separator = .ok (.int 5) ∧
      ¬ Record.OptionKind.text.Admits (.int 5) := by
  intro changed w
  refine ⟨rfl, ?_⟩
  rintro (hnull | ⟨s, htext⟩)
  · cases hnull
  · cases htext

end FormDialogue
