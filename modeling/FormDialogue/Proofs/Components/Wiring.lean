import FormDialogue.Proofs.Choice.AskedStyles
import FormDialogue.Proofs.Components.Requests

/-! # Runs of requests

In a run of requests, whatever else happens to the workspace between them, a component that was
given once is given ever after, and its parts are what is given for them. A request that fails
leaves its place empty, so that a later one tries again. -/

namespace FormDialogue
open FormDialogue.Action (Serves)
open Record (Style)

/-- What is asked of components. The style of a renderer is asked for with any value. -/
inductive Request
  | source
  | selector
  | cascade
  | compiler
  | renderer (asked : Datum)
  | formatter

namespace Request
variable {r : Ref Components} {w v : Workspace} {q : Request} {k : Slot} {x : Component}

/-- The place that a request looks into, if there is one. -/
def slot : Request → Except Failure Slot
  | source => .ok .source
  | selector => .ok .selector
  | cascade => .ok .cascade
  | compiler => .ok .compiler
  | renderer asked => (Choice.styleOf asked).map .renderer
  | formatter => .ok .formatter

def act (r : Ref Components) : Request → Action Component
  | source => .source <$> Action.sourceOf r
  | selector => .selector <$> Action.selectorOf r
  | cascade => .cascade <$> Action.cascadeOf r
  | compiler => .compiler <$> Action.compilerOf r
  | renderer asked => .renderer <$> Action.rendererOf r asked
  | formatter => .formatter <$> Action.formatterOf r

def after (r : Ref Components) (w : Workspace) (q : Request) : Workspace := ((q.act r).runIn w).2

theorem slot_renderer_iff {asked : Datum} {style : Style} :
    (renderer asked).slot = .ok (.renderer style) ↔ asked.asText? = some style.name := by
  rw [slot, ← Choice.styleOf_eq_ok_iff]
  cases Choice.styleOf asked <;> simp [Except.map]

theorem serves_map {α : Type} {wrap : α → Component} {a : Action α} (h : Serves r k wrap a w) :
    Serves r k id (wrap <$> a) w := by
  constructor <;> rw [Action.runIn_map]
  · exact h.grows
  · intro y hy
    obtain ⟨x, hx, rfl⟩ := Action.map_eq_ok_iff.1 hy
    exact h.given x hx
  · rw [← h.succeeds]
    simp only [Action.map_eq_ok_iff]
    exact ⟨fun ⟨_, x, hx, _⟩ => ⟨x, hx⟩, fun ⟨x, hx⟩ => ⟨_, x, hx, rfl⟩⟩
  · exact h.untouched
  · intro y hy
    obtain ⟨x, rfl, hrun⟩ := h.again y hy
    rw [hrun]
    exact ⟨_, rfl, rfl⟩

theorem act_serves (hw : Wired r w) (hk : q.slot = .ok k) : Serves r k id (q.act r) w := by
  cases q with
  | source => cases hk; exact serves_map (Action.sourceOf_serves hw)
  | selector => cases hk; exact serves_map (Action.selectorOf_serves hw)
  | cascade => cases hk; exact serves_map (Action.cascadeOf_serves hw)
  | compiler => cases hk; exact serves_map (Action.compilerOf_serves hw)
  | formatter => cases hk; exact serves_map (Action.formatterOf_serves hw)
  | renderer asked =>
    rw [slot] at hk
    cases hstyle : Choice.styleOf asked with
    | error why => rw [hstyle] at hk; cases hk
    | ok style =>
      rw [hstyle] at hk
      cases hk
      have hserves := serves_map (Action.rendererFor_serves hw style)
      have hrenderer : Action.rendererOf r asked = Action.rendererFor r style := by
        rw [Action.rendererOf_eq, hstyle]
        rfl
      rw [act, hrenderer]
      exact hserves

theorem act_of_unknown {why : Failure} (h : q.slot = .error why) (w : Workspace) :
    (q.act r).runIn w = (.error why, w) := by
  cases q with
  | renderer asked =>
    rw [slot] at h
    cases hstyle : Choice.styleOf asked with
    | ok style => rw [hstyle] at h; cases h
    | error why' =>
      rw [hstyle] at h
      cases h
      rw [act, Action.runIn_map, Action.rendererOf_eq, hstyle]
      rfl
  | _ => cases h

theorem act_spec (hw : Wired r w) (q : Request) :
    let made := (q.act r).runIn w
    Wired r made.2 ∧ Grows r w made.2 ∧
    (∀ x, made.1 = .ok x → ∃ k, q.slot = .ok k ∧ made.2.held r k = some x) ∧
    ((∃ x, made.1 = .ok x) ↔ ∃ k, q.slot = .ok k ∧ w.Obtainable r k) ∧
    (∀ k, ¬ w.Obtainable r k → made.2.held r k = none) := by
  intro made
  cases hk : q.slot with
  | error why =>
    have hmade : made = (.error why, w) := act_of_unknown hk w
    rw [hmade]
    refine ⟨hw, .refl w, nofun, by simp, fun k hk => ?_⟩
    exact (Grows.refl w).held_of_not_obtainable hw hk
  | ok k =>
    have hserves := act_serves hw hk
    refine ⟨hserves.grows.wired hw, hserves.grows, fun x hx => ⟨k, rfl, hserves.given x hx⟩, ?_,
      fun k' hk' => hserves.grows.held_of_not_obtainable hw hk'⟩
    rw [hserves.succeeds]
    simp

theorem act_of_held (hw : Wired r w) (hk : q.slot = .ok k) (hx : w.held r k = some x) :
    (q.act r).runIn w = (.ok x, w) := by
  obtain ⟨_, rfl, hrun⟩ := (act_serves hw hk).again x hx
  exact hrun

end Request

/-! ## Parts -/

namespace Component

/-- What a component was made from, with the request for each part. -/
def parts (w : Workspace) : Component → List (Request × Component)
  | selector p => [(.source, .source (w.selectors.get p).source)]
  | formatter f =>
    [(.selector, .selector (w.formatters.get f).selector),
      (.cascade, .cascade (w.formatters.get f).cascade)]
  | source _ | cascade _ | compiler _ | renderer _ => []

/-- A component that does not change by itself is as it was. -/
def Kept (w v : Workspace) : Component → Prop
  | selector p => v.selectors.get p = w.selectors.get p
  | formatter f => v.formatters.get f = w.formatters.get f
  | renderer q => v.renderers.Has q ∧ v.renderers.get q = w.renderers.get q
  | source _ | cascade _ | compiler _ => True

end Component

section Held
variable {r : Ref Components} {w v : Workspace} {k k' : Slot} {x : Component}

theorem held_selector_iff {p : Ref Selector} :
    w.held r k = some (.selector p) ↔ k = .selector ∧ (w.components.get r).selector = some p := by
  cases k <;> simp [Workspace.held, Components.held]

theorem held_formatter_iff {f : Ref Formatter} :
    w.held r k = some (.formatter f) ↔
      k = .formatter ∧ (w.components.get r).formatter = some f := by
  cases k <;> simp [Workspace.held, Components.held]

theorem held_renderer_iff {q : Ref Choice.Renderer} :
    w.held r k = some (.renderer q) ↔
      ∃ style, k = .renderer style ∧ (w.components.get r).renderer style = some q := by
  cases k <;> simp [Workspace.held, Components.held]

/-- The parts of what is held are held in their own places. -/
theorem Wired.held_parts (h : Wired r w) (hx : w.held r k = some x) :
    ∀ part ∈ x.parts w, ∃ k', part.1.slot = .ok k' ∧ w.held r k' = some part.2 := by
  cases x with
  | selector p =>
    have hsource := h.selector p (held_selector_iff.1 hx).2
    simp [Component.parts, Request.slot, Workspace.held, Components.held, hsource]
  | formatter f =>
    obtain ⟨hselector, hcascade⟩ := h.formatter f (held_formatter_iff.1 hx).2
    simp [Component.parts, Request.slot, Workspace.held, Components.held, hselector, hcascade]
  | source | cascade | compiler | renderer => simp [Component.parts]

theorem Wired.slot_eq (h : Wired r w) (hk : w.held r k = some x) (hk' : w.held r k' = some x) :
    k = k' := by
  cases x with
  | renderer q =>
    obtain ⟨style, rfl, hq⟩ := held_renderer_iff.1 hk
    obtain ⟨style', rfl, hq'⟩ := held_renderer_iff.1 hk'
    rw [h.distinct style style' q hq hq']
  | _ => cases k <;> cases k' <;> simp_all [Workspace.held, Components.held]

/-- What leaves the components and all that they hold as they are leaves the wiring as it is. -/
theorem Wired.of_kept (h : Wired r w) (hsame : v.components.get r = w.components.get r)
    (hkept : ∀ k x, w.held r k = some x → x.Kept w v) : Wired r v := by
  constructor <;> rw [hsame]
  · intro p hp
    have hget : v.selectors.get p = w.selectors.get p :=
      hkept .selector (.selector p) (held_selector_iff.2 ⟨rfl, hp⟩)
    rw [hget]
    exact h.selector p hp
  · intro f hf
    have hget : v.formatters.get f = w.formatters.get f :=
      hkept .formatter (.formatter f) (held_formatter_iff.2 ⟨rfl, hf⟩)
    rw [hget]
    exact h.formatter f hf
  · intro style q hq
    exact (hkept (.renderer style) (.renderer q) (held_renderer_iff.2 ⟨style, rfl, hq⟩)).1
  · exact h.distinct

theorem Wired.of_same (h : Wired r w) (hcomponents : v.components = w.components)
    (hselectors : v.selectors = w.selectors) (hformatters : v.formatters = w.formatters)
    (hrenderers : v.renderers = w.renderers) : Wired r v := by
  constructor
  · rw [hcomponents, hselectors]
    exact h.selector
  · rw [hcomponents, hformatters]
    exact h.formatter
  · rw [hcomponents, hrenderers]
    exact h.renderer
  · rw [hcomponents]
    exact h.distinct

end Held

/-! ## Runs -/

inductive Event
  | request (asked : Request)
  | elsewhere (after : Workspace)

namespace Event
variable {r : Ref Components} {w : Workspace} {e : Event} {events : List Event} {k : Slot}
  {x : Component}

def next (r : Ref Components) (w : Workspace) : Event → Workspace
  | request q => q.after r w
  | elsewhere after => after

def run (r : Ref Components) (w : Workspace) (events : List Event) : Workspace :=
  events.foldl (next r) w

/-- Every event meets a condition in the workspace in which it happens. -/
def Along (P : Workspace → Event → Prop) (r : Ref Components) : Workspace → List Event → Prop
  | _, [] => True
  | w, e :: rest => P w e ∧ Along P r (e.next r w) rest

/-- What is not a request leaves the components, and what they hold, as they are. Sources may be
drawn from, templates registered and settings assigned to. -/
def Spares (r : Ref Components) (w : Workspace) : Event → Prop
  | request _ => True
  | elsewhere after => after.components.get r = w.components.get r ∧
    ∀ k x, w.held r k = some x → x.Kept w after

theorem run_append (w : Workspace) (earlier later : List Event) :
    run r w (earlier ++ later) = run r (run r w earlier) later := List.foldl_append ..

theorem along_append {P : Workspace → Event → Prop} {earlier later : List Event} :
    Along P r w (earlier ++ later) ↔ Along P r w earlier ∧ Along P r (run r w earlier) later := by
  induction earlier generalizing w with
  | nil => simp [Along, run]
  | cons e rest ih => rw [List.cons_append, Along, ih, Along, and_assoc]; rfl

theorem next_spec (he : e.Spares r w) (hw : Wired r w) :
    Wired r (e.next r w) ∧ ∀ k x, w.held r k = some x → (e.next r w).held r k = some x := by
  cases e with
  | request q =>
    obtain ⟨hwired, hgrows, -⟩ := q.act_spec hw
    exact ⟨hwired, fun k x hx => hgrows.held hx⟩
  | elsewhere after =>
    obtain ⟨hsame, hkept⟩ := he
    exact ⟨hw.of_kept hsame hkept, fun k x hx => (congrArg (·.held k) hsame).trans hx⟩

theorem run_induction {P : Workspace → Event → Prop} {I : Workspace → Prop}
    (hstep : ∀ w e, P w e → I w → I (e.next r w)) (hevents : Along P r w events) (hw : I w) :
    I (run r w events) := by
  induction events generalizing w with
  | nil => exact hw
  | cons e rest ih => exact ih hevents.2 (hstep w e hevents.1 hw)

theorem run_spec (hevents : Along (Spares r) r w events) (hw : Wired r w) :
    Wired r (run r w events) ∧
      ∀ k x, w.held r k = some x → (run r w events).held r k = some x := by
  refine run_induction (I := fun v => Wired r v ∧ ∀ k x, w.held r k = some x → v.held r k = some x)
    (fun v e he hv => ?_) hevents ⟨hw, fun _ _ => id⟩
  obtain ⟨hwired, hheld⟩ := next_spec he hv.1
  exact ⟨hwired, fun k x hx => hheld k x (hv.2 k x hx)⟩

/-- What one request has given, every later one for the same place gives, and no other does. -/
theorem later_requests (hw : Wired r w) {q : Request} {later : List Event}
    (hlater : Along (Spares r) r w (.request q :: later)) {x : Component}
    (hx : ((q.act r).runIn w).1 = .ok x) :
    let u := run r w (.request q :: later)
    (∀ q' : Request, q'.slot = q.slot → (q'.act r).runIn u = (.ok x, u)) ∧
      (∀ (q' : Request) x', ((q'.act r).runIn u).1 = .ok x' → (x' = x ↔ q'.slot = q.slot)) ∧
      ∀ part ∈ x.parts u, (part.1.act r).runIn u = (.ok part.2, u) := by
  intro u
  obtain ⟨hwired, -, hgiven, -⟩ := q.act_spec hw
  obtain ⟨k, hk, hheld⟩ := hgiven x hx
  obtain ⟨hu, hkeeps⟩ := run_spec hlater.2 hwired
  have hlast : u.held r k = some x := hkeeps k x hheld
  have hsame : ∀ q' : Request, q'.slot = q.slot → (q'.act r).runIn u = (.ok x, u) :=
    fun q' hq' => Request.act_of_held hu (hq'.trans hk) hlast
  refine ⟨hsame, fun q' x' hx' => ⟨?_, fun hq' => ?_⟩, fun part hpart => ?_⟩
  · -- After the other request the component would be held in both places.
    rintro rfl
    obtain ⟨hwired', hgrows', hgiven', -⟩ := q'.act_spec hu
    obtain ⟨k', hk', hheld'⟩ := hgiven' x' hx'
    rw [hk, hk', hwired'.slot_eq (hgrows'.held hlast) hheld']
  · rw [hsame q' hq'] at hx'
    exact (Except.ok.inj hx').symm
  · obtain ⟨k', hk', hheld'⟩ := hu.held_parts hlast part hpart
    exact Request.act_of_held hu hk' hheld'

end Event

/-- Components that hold nothing yet are wired. -/
theorem wired_of_new (settings : Ref Settings) (w : Workspace) :
    let made := (Action.newComponents settings).runIn w
    made.1 = .ok w.components.fresh ∧
      made.2.components.get w.components.fresh = { settings := settings } ∧
      Wired w.components.fresh made.2 := by
  intro made
  have hget : made.2.components.get w.components.fresh = { settings := settings } :=
    Heap.get_push_fresh ..
  refine ⟨rfl, hget, ?_⟩
  constructor <;> rw [hget]
  · exact nofun
  · exact nofun
  · exact nofun
  · exact nofun

end FormDialogue
