import FormDialogue.Proofs.Cascade.Filling

/-! # The registry of a cascade

A cascade holds, for every usage, the template that was registered last for it. Its defaults set
every option, and so does every template that it holds: the template has the options that it had
when it was registered, filled from the defaults. Building a cascade and registering templates
establishes this, and filling records leaves it as it is. -/

namespace FormDialogue
open Record (OptionName Options Usage)
open Store (FilledFrom)

/-- A template that was registered, with the options that it had before. -/
structure Registration where
  usage : Usage
  template : Ref Record
  options : Options
  deriving DecidableEq, Repr

namespace Registration
variable {history : List Registration} {entry : Registration} {usage : Usage}

def of? (s : Store) (t : Ref Record) : Option Registration :=
  (s.get t).usage?.map fun usage => ⟨usage, t, (s.get t).options⟩

/-- Templates that are registered one after the other, each filled from the defaults. -/
def inTurn (defaults : Ref Record) : Store → List (Ref Record) → List Registration
  | _, [] => []
  | s, t :: rest => (of? s t).toList ++ inTurn defaults (s.inherit t defaults) rest

def latest (history : List Registration) (usage : Usage) : Option Registration :=
  (history.filter fun entry => entry.usage = usage).getLast?

theorem latest_append_same (history : List Registration) (entry : Registration) :
    latest (history ++ [entry]) entry.usage = some entry := by
  simp [latest, List.filter_append]

theorem latest_append_other (history : List Registration) (h : usage ≠ entry.usage) :
    latest (history ++ [entry]) usage = latest history usage := by
  simp [latest, List.filter_append, Ne.symm h]

theorem latest_append (history more : List Registration) (usage : Usage) :
    latest (history ++ more) usage = (latest more usage).or (latest history usage) := by
  rw [latest, List.filter_append, List.getLast?_append, latest, latest]

theorem usage_of_latest (h : latest history usage = some entry) : entry.usage = usage := by
  have hmem := List.mem_of_getLast? h
  simpa using (List.mem_filter.1 hmem).2

/-- A registered template is what registration made of it. -/
structure Holds (o : Options) (s : Store) (entry : Registration) : Prop where
  has : s.Has entry.template
  usage : (s.get entry.template).usage? = some entry.usage
  options : (s.get entry.template).options = entry.options.fill o

end Registration

namespace Cascade
open Registration
variable {c c' : Cascade} {s t : Store} {d r : Ref Record} {o : Options}
  {history : List Registration} {entry : Registration} {usage : Usage}

/-- The records that a cascade relies on. -/
def Guards (c : Cascade) (r : Ref Record) : Prop :=
  r = c.defaults ∨ ∃ usage, c.registered usage = some r

/-- A cascade over certain defaults after some registrations. -/
structure Registry (d : Ref Record) (o : Options) (history : List Registration) (c : Cascade)
    (s : Store) : Prop where
  defaults : c.defaults = d
  has : s.Has d
  options : (s.get d).options = o
  registered : ∀ usage, c.registered usage = (latest history usage).map Registration.template
  entries : ∀ usage entry, latest history usage = some entry → entry.Holds o s

namespace Registry

theorem of_guards (h : Registry d o history c s) (hr : c.Guards r) :
    r = d ∨ ∃ usage entry, latest history usage = some entry ∧ entry.template = r := by
  obtain hr | ⟨usage, hr⟩ := hr
  · exact Or.inl (hr.trans h.defaults)
  · rw [h.registered, Option.map_eq_some_iff] at hr
    exact Or.inr ⟨usage, hr⟩

theorem guards_defaults (h : Registry d o history c s) : c.Guards d := Or.inl h.defaults.symm

theorem guards_template (h : Registry d o history c s)
    (hlatest : latest history usage = some entry) : c.Guards entry.template := by
  refine Or.inr ⟨usage, ?_⟩
  rw [h.registered, hlatest]
  rfl

theorem has_of_guards (h : Registry d o history c s) (hr : c.Guards r) : s.Has r := by
  obtain rfl | ⟨usage, entry, hlatest, rfl⟩ := h.of_guards hr
  · exact h.has
  · exact (h.entries usage entry hlatest).has

theorem resolved_of_guards (h : Registry d o history c s) (ho : o.isResolved = true)
    (hr : c.Guards r) : (s.get r).options.isResolved = true := by
  obtain rfl | ⟨usage, entry, hlatest, rfl⟩ := h.of_guards hr
  · rw [h.options]
    exact ho
  · rw [(h.entries usage entry hlatest).options]
    exact Options.isResolved_fill _ ho

theorem congr (h : Registry d o history c s)
    (hkept : ∀ r, c.Guards r → t.Has r ∧ t.get r = s.get r) : Registry d o history c t where
  defaults := h.defaults
  has := (hkept d h.guards_defaults).1
  options := by
    rw [(hkept d h.guards_defaults).2]
    exact h.options
  registered := h.registered
  entries := by
    intro usage entry hlatest
    obtain ⟨hhas, hget⟩ := hkept entry.template (h.guards_template hlatest)
    have hentry := h.entries usage entry hlatest
    refine ⟨hhas, ?_, ?_⟩
    · rw [hget]
      exact hentry.usage
    · rw [hget]
      exact hentry.options

theorem of_filled (h : Registry d o history c s) (ho : o.isResolved = true)
    (hfilled : ∀ r, s.Has r → ∃ records chain, FilledFrom records chain s t r) :
    Registry d o history c t := by
  apply h.congr
  intro r hr
  -- What the cascade relies on is resolved, so that filling leaves it as it is.
  have hhas := h.has_of_guards hr
  obtain ⟨records, chain, hfill⟩ := hfilled r hhas
  exact ⟨hfill.has hhas, hfill.get_of_resolved (h.resolved_of_guards ho hr)⟩

theorem assign (h : Registry d o history c s) (hentry : entry.Holds o s) :
    Registry d o (history ++ [entry]) (c.assign entry.usage entry.template) s where
  defaults := h.defaults
  has := h.has
  options := h.options
  registered := by
    intro usage
    by_cases hu : usage = entry.usage
    · subst hu
      rw [latest_append_same]
      exact if_pos rfl
    · rw [latest_append_other history hu, ← h.registered]
      exact if_neg hu
  entries := by
    intro usage last hlatest
    by_cases hu : usage = entry.usage
    · subst hu
      rw [latest_append_same] at hlatest
      cases hlatest
      exact hentry
    · rw [latest_append_other history hu] at hlatest
      exact h.entries usage last hlatest

end Registry

/-! ## Registering -/

theorem register_result (c : Cascade) (template : Ref Record) (s : Store) :
    (c.register template s).2.result = match of? s template with
      | some entry => .ok (c.assign entry.usage entry.template)
      | none => .error (.noAttribute (s.get template).kind.role.title "usage") := by
  have hkind : ((s.inherit template c.defaults).get template).kind = (s.get template).kind := by
    rw [Store.get_inherit_same]
  have husage : ((s.inherit template c.defaults).get template).usage? =
      (s.get template).usage? := by
    rw [Record.usage?, Record.usage?, hkind]
  unfold register of?
  dsimp only
  rw [husage]
  cases (s.get template).usage? with
  | none => rw [hkind]; rfl
  | some usage => rfl

theorem Registry.register (h : Registry d o history c s) (ho : o.isResolved = true)
    {template : Ref Record} (hhas : s.Has template) :
    Registry d o (history ++ (of? s template).toList)
      ((c.register template s).2.result.toOption.getD c) (c.register template s).1 := by
  rw [register_store, h.defaults, register_result]
  have hfilled : Registry d o history c (s.inherit template d) :=
    h.of_filled ho fun r _ => ⟨_, _, Store.filledFrom_inherit s template d r⟩
  have hget := Store.get_inherit_same s template d
  cases hentry : of? s template with
  | none =>
    rw [Option.toList_none, List.append_nil]
    exact hfilled
  | some entry =>
    obtain ⟨usage, husage, rfl⟩ := Option.map_eq_some_iff.1 hentry
    refine hfilled.assign ⟨hhas, ?_, ?_⟩
    · rw [hget]
      exact husage
    · rw [hget, h.options]

theorem Registry.registerAll (h : Registry d o history c s) (ho : o.isResolved = true)
    {templates : List (Ref Record)} (hhas : ∀ t ∈ templates, s.Has t)
    (hok : (c.registerAll s templates).2.result = .ok c') :
    Registry d o (history ++ inTurn d s templates) c' (c.registerAll s templates).1 := by
  induction templates generalizing c s history with
  | nil =>
    cases hok
    rw [inTurn, List.append_nil]
    exact h
  | cons template rest ih =>
    have hfirst := h.register ho (hhas template List.mem_cons_self)
    obtain ⟨why, -, -, hresult⟩ | ⟨cascade, hregister, hstore, hresult⟩ :=
      registerAll_cons c template rest s
    · rw [hresult] at hok
      cases hok
    · rw [hresult] at hok
      rw [hstore]
      rw [hregister] at hfirst
      rw [register_store, h.defaults] at hok hfirst ⊢
      have hrest := ih hfirst (fun t ht => hhas t (List.mem_cons_of_mem template ht)) hok
      rw [List.append_assoc] at hrest
      exact hrest

theorem registerAll_error {templates : List (Ref Record)} {why : Failure}
    (h : (c.registerAll s templates).2.result = .error why) :
    ∃ typeName, why = .noAttribute typeName "usage" := by
  induction templates generalizing c s with
  | nil => cases h
  | cons template rest ih =>
    obtain ⟨cause, hregister, -, hresult⟩ | ⟨cascade, -, -, hresult⟩ :=
      registerAll_cons c template rest s
    · rw [hresult] at h
      cases h
      rw [register_result] at hregister
      cases hentry : of? s template with
      | some entry => rw [hentry] at hregister; cases hregister
      | none =>
        rw [hentry] at hregister
        cases hregister
        exact ⟨_, rfl⟩
    · rw [hresult] at h
      exact ih h

/-! ## Building -/

theorem unresolved_eq_nil : s.unresolved d = [] ↔ (s.get d).options.isResolved = true := by
  rw [Store.unresolved, List.map_eq_nil_iff, Options.isResolved, List.isEmpty_iff]

theorem create_of_resolved (h : (s.get d).options.isResolved = true)
    (templates : List (Ref Record)) :
    create d templates s = registerAll ⟨d, fun _ => none⟩ s templates := by
  rw [create, unresolved_eq_nil.2 h]

theorem create_of_unresolved (h : (s.get d).options.isResolved = false)
    (templates : List (Ref Record)) :
    create d templates s =
      (s, .failed (.unresolved (s.unresolved d)) [.incompleteDefaults (s.unresolved d)]) := by
  have hne : s.unresolved d ≠ [] := by
    intro hnil
    rw [unresolved_eq_nil, h] at hnil
    cases hnil
  unfold create
  split
  · next hnil => exact absurd hnil hne
  · rfl

theorem registry_create {templates : List (Ref Record)} (hd : s.Has d)
    (hhas : ∀ t ∈ templates, s.Has t) (hok : (create d templates s).2.result = .ok c) :
    (s.get d).options.isResolved = true ∧
      Registry d (s.get d).options (inTurn d s templates) c (create d templates s).1 := by
  cases hresolved : (s.get d).options.isResolved with
  | false =>
    rw [create_of_unresolved hresolved] at hok
    cases hok
  | true =>
    rw [create_of_resolved hresolved] at hok ⊢
    have hnew : Registry d (s.get d).options [] ⟨d, fun _ => none⟩ s :=
      ⟨rfl, hd, rfl, fun _ => rfl, fun _ _ hlatest => by cases hlatest⟩
    exact ⟨rfl, hnew.registerAll hresolved hhas hok⟩

end Cascade

end FormDialogue
