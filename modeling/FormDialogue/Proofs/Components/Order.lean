import FormDialogue.Proofs.Components.Picture

/-! # The order of requests

Components are asked for and used in turn: patterns are picked by the selector or the formatter, the
source is drawn from, and the cascade resolves records and takes templates. Every use first asks for
the component that it goes through. What a use does to the picture of the workspace, and what it
picks, depends on the picture alone, and a request does not change it. So the picks stay the same
when requests are put in or left out anywhere in between. -/

namespace FormDialogue
open Draw (Source)
open Prompt (Arguments)
open Record (Declaration Usage)

/-- A pattern to pick through components. -/
inductive Picking
  | select (record : Ref Record)
  | format (record : Ref Record) (a : Arguments)
  | promptFor (d : Ref Declaration) (usage : Usage) (typePrompt : Option (Ref Record))
      (value : Option String) (choices : Option (List String))

namespace Picture

/-- A workspace with nothing but what the picture shows. -/
def stage (P : Picture) : Workspace where
  store := ⟨0, fun i => ⟨P.kind ⟨i⟩, P.patterns ⟨i⟩, .unset, true⟩⟩
  declarations := P.declarations
  misfits := P.misfits
  cascades := ⟨0, fun _ => ⟨⟨0⟩, P.registered⟩⟩

theorem declared_stage (r : Ref Components) (c : Configuration) (w : Workspace) :
    AlikeDeclared w (of r c w).stage := ⟨rfl, rfl, fun _ => rfl⟩

end Picture

namespace Picking
open FormDialogue.Action
variable {r : Ref Components} {c : Configuration} {w v : Workspace}

/-- Asks for the component to pick with, and gives the selector and the call that picks. -/
def ready (r : Ref Components) : Picking → Action (Ref Selector × Pick)
  | select record => do return (← selectorOf r, .select record)
  | format record a => do
    let f ← formatterOf r
    return (((← get).formatters.get f).selector, .format f record a)
  | promptFor d usage typePrompt value choices => do
    let f ← formatterOf r
    return (((← get).formatters.get f).selector, .promptFor f d usage typePrompt value choices)

/-- The patterns that are there to pick from, if it gets as far as that. -/
def patterns? (P : Picture) : Picking → Option (List String)
  | select record | format record _ => some (P.patterns record)
  | promptFor d usage .. =>
    match ((describeField d).runIn P.stage).1 with
    | .ok _ => promptPatterns? P.stage ⟨0⟩ d usage
    | .error _ => none

theorem promptPatterns?_of_declared {x y : Ref Cascade} (h : AlikeDeclared w v)
    (hpatterns : ∀ q, (v.store.get q).patterns = (w.store.get q).patterns)
    (hregistered : (v.cascades.get y).registered = (w.cascades.get x).registered)
    (d : Ref Declaration) (usage : Usage) :
    promptPatterns? v y d usage = promptPatterns? w x d usage := by
  simp only [promptPatterns?, (reads_promptOf d).result_of_declared h,
    (reads_templateFor d usage).result_of_declared h, hregistered, hpatterns]

/-- A formatter that was given has the selector and the cascade of the picture. -/
theorem formatter_ready (hw : Settled r c w) :
    ∃ f v, (formatterOf r).runIn w = (.ok f, v) ∧ Settled r c v ∧
      Picture.of r c v = Picture.of r c w ∧
      (v.components.get r).selector = some (v.formatters.get f).selector ∧
      Picture.registry r v = (v.cascades.get (v.formatters.get f).cascade).registered ∧
      (v.store.get (v.cascades.get (v.formatters.get f).cascade).defaults).options.isResolved =
        true := by
  obtain ⟨f, v, hrun, hheld, hv, hpicture⟩ := hw.given (formatterOf_serves hw.wired)
  obtain ⟨hselector, hcascade⟩ := hv.wired.formatter f (held_formatter_iff.1 hheld).2
  refine ⟨f, v, hrun, hv, hpicture, hselector, ?_, (hv.defaults _ hcascade).2⟩
  rw [Picture.registry, hcascade]

theorem ready_spec (hw : Settled r c w) (p : Picking) :
    ∃ selector call v, (p.ready r).runIn w = (.ok (selector, call), v) ∧ Settled r c v ∧
      Picture.of r c v = Picture.of r c w ∧ (v.components.get r).selector = some selector ∧
      call.Uses selector v ∧ call.Complete v ∧
      call.patterns? v = p.patterns? (Picture.of r c v) := by
  cases p with
  | select record =>
    obtain ⟨selector, v, hrun, hheld, hv, hpicture⟩ := hw.given (selectorOf_serves hw.wired)
    refine ⟨selector, .select record, v, ?_, hv, hpicture, (held_selector_iff.1 hheld).2,
      nofun, nofun, rfl⟩
    rw [ready, runIn_bind_ok hrun]
    rfl
  | format record a =>
    obtain ⟨f, v, hrun, hv, hpicture, hselector, -, hdefaults⟩ := formatter_ready hw
    refine ⟨(v.formatters.get f).selector, .format f record a, v, ?_, hv, hpicture, hselector, ?_,
      ?_, rfl⟩
    · rw [ready, runIn_bind_ok hrun]
      rfl
    · rintro _ ⟨⟩
      rfl
    · rintro _ ⟨⟩
      exact hdefaults
  | promptFor d usage typePrompt value choices =>
    obtain ⟨f, v, hrun, hv, hpicture, hselector, hregistry, hdefaults⟩ := formatter_ready hw
    refine ⟨(v.formatters.get f).selector, .promptFor f d usage typePrompt value choices, v, ?_, hv,
      hpicture, hselector, ?_, ?_, ?_⟩
    · rw [ready, runIn_bind_ok hrun]
      rfl
    · rintro _ ⟨⟩
      rfl
    · rintro _ ⟨⟩
      exact hdefaults
    · have hdeclared := Picture.declared_stage r c v
      rw [Pick.patterns?, patterns?, (reads_describeField d).result_of_declared hdeclared]
      cases ((describeField d).runIn v).1 with
      | ok field =>
        exact (promptPatterns?_of_declared hdeclared (fun _ => rfl) hregistry d usage).symm
      | error why => rfl

end Picking

/-- What is done with components: they are asked for, or used through a request of their own. -/
inductive Errand
  | request (asked : Request)
  | pick (p : Picking)
  | draw (upper : Int)
  | register (template : Ref Record)
  | resolve (record : Ref Record) (scopes : List (Option (Ref Record)))
  | resolveTemplate (usage : Usage) (overrides : List (Option (Ref Record)))

namespace Errand
open FormDialogue.Action
variable {r : Ref Components} {c : Configuration} {w v : Workspace}

def act (r : Ref Components) : Errand → Action Unit
  | request q => discard (q.act r)
  | pick p => do
    let (selector, call) ← p.ready r
    discard (call.act selector)
  | draw upper => do discard (drawAll (← sourceOf r) [upper])
  | register template => do Action.register (← cascadeOf r) template
  | resolve record scopes => do discard (Action.resolve (← cascadeOf r) record scopes)
  | resolveTemplate usage overrides => do
    discard (Action.resolveTemplate (← cascadeOf r) usage overrides)

def after (r : Ref Components) (w : Workspace) (e : Errand) : Workspace := ((e.act r).runIn w).2

/-- The pattern that an errand picks, if it is one that picks. -/
def picked (r : Ref Components) (w : Workspace) : Errand → List (Option String)
  | pick p =>
    match (p.ready r).runIn w with
    | (.ok (selector, call), v) => [call.picked? selector v]
    | (.error _, _) => [none]
  | request _ | draw _ | register _ | resolve .. | resolveTemplate .. => []

def effect (P : Picture) : Errand → Picture
  | pick p =>
    match p.patterns? P with
    | some patterns => { P with source := (P.source.pick patterns).2 }
    | none => P
  | draw upper => { P with source := (P.source.next upper).2 }
  | register template =>
    match P.kind template with
    | .template usage =>
      { P with registered := fun u => if u = usage then some template else P.registered u }
    | .plain | .prompt => P
  | request _ | resolve .. | resolveTemplate .. => P

def pickedFrom (P : Picture) : Errand → List (Option String)
  | pick p => [(p.patterns? P).bind fun patterns =>
      (P.source.pick patterns).1.toOption.map Prod.fst]
  | request _ | draw _ | register _ | resolve .. | resolveTemplate .. => []

/-! ## One errand -/

/-- Filling records, drawing and reporting leave the components as they are. -/
theorem settled_of_fills {F : Filling} (hv : Settled r c v) (halike : Alike v w)
    (hfills : Call.Fills F v w) :
    Settled r c w ∧ Picture.of r c w = { Picture.of r c v with source := Picture.drawn r c w } := by
  obtain ⟨⟨store, sources, notices, rfl⟩, hkind, hpatterns⟩ := halike
  refine ⟨⟨hv.wired.of_same rfl rfl rfl rfl, hv.settings, fun x hx => ?_, fun q hq => ?_⟩, ?_⟩
  · obtain ⟨hhas, hresolved⟩ := hv.defaults x hx
    have hfilled := hfills.filled (v.cascades.get x).defaults
    refine ⟨hfilled.has hhas, ?_⟩
    exact (congrArg (·.options.isResolved) (hfilled.get_of_resolved hresolved)).trans hresolved
  · rw [hkind, hpatterns]
    exact hv.blank q fun hhas => hq ((hfills.filled q).has hhas)
  · rw [Picture.of, Picture.of, funext hkind, funext hpatterns]
    rfl

theorem components_of_alike (h : Alike v w) : w.components = v.components := by
  obtain ⟨⟨_, _, _, rfl⟩, -, -⟩ := h
  rfl

theorem entropy_of_alike (h : Alike v w) : w.entropy = v.entropy := by
  obtain ⟨⟨_, _, _, rfl⟩, -, -⟩ := h
  rfl

theorem drawn_of_held {source : Ref Source} (h : (w.components.get r).source = some source) :
    Picture.drawn r c w = w.sources.get source := by
  rw [Picture.drawn, h]

theorem fills_pick (selector : Ref Selector) (call : Pick) (v : Workspace) :
    ∃ F, Call.Fills F v (call.after selector v) := by
  cases call with
  | select record =>
    exact ⟨⟨[], []⟩, (Call.Fills.refl _ v).quiet
      ((Call.quiet_getRecord record).bind (fun _ => quiet_select _ _) v)⟩
  | format f record a =>
    exact ⟨⟨[], []⟩, (Call.Fills.refl _ v).quiet
      (quiet_get.bind (fun _ => quiet_formatWith _ _ _) v)⟩
  | promptFor f d usage typePrompt value choices =>
    exact ⟨_, Call.fills_promptFor f d usage typePrompt value choices v⟩

theorem pick_spec (hw : Settled r c w) (p : Picking) :
    Settled r c ((pick p).after r w) ∧
      Picture.of r c ((pick p).after r w) = (pick p).effect (Picture.of r c w) ∧
      (pick p).picked r w = (pick p).pickedFrom (Picture.of r c w) := by
  obtain ⟨selector, call, v, hrun, hv, hpicture, hselector, huses, hcomplete, hpatterns⟩ :=
    p.ready_spec hw
  have hafter : (pick p).after r w = call.after selector v := by
    rw [after, act, runIn_bind_ok hrun, runIn_discard]
    rfl
  have hsource := hv.wired.selector selector hselector
  have hdrawn : v.sources.get (v.selectors.get selector).source = (Picture.of r c w).source := by
    rw [← hpicture, Picture.of, drawn_of_held hsource]
  have hreached : call.reached? v = p.patterns? (Picture.of r c w) := by
    rw [Pick.reached?_eq hcomplete, hpatterns, hpicture]
  -- What is drawn is read off the source, and all the rest is filling.
  obtain ⟨halike, -, hsources⟩ := Pick.after_spec huses
  obtain ⟨F, hfills⟩ := fills_pick selector call v
  obtain ⟨hsettled, hof⟩ := settled_of_fills hv halike hfills
  have hheld : ((call.after selector v).components.get r).source =
      some (v.selectors.get selector).source := by
    rw [components_of_alike halike, hsource]
  rw [drawn_of_held hheld, hsources, hreached, hpicture] at hof
  rw [hafter, hof, effect]
  refine ⟨hsettled, ?_, ?_⟩
  · cases p.patterns? (Picture.of r c w) with
    | none =>
      dsimp only
      rw [hdrawn]
    | some patterns =>
      dsimp only
      rw [Heap.get_set_same, hdrawn]
  · rw [picked, hrun, pickedFrom]
    dsimp only
    rw [Pick.picked?_eq, hreached, hdrawn]

theorem draw_spec (hw : Settled r c w) (upper : Int) :
    Settled r c ((draw upper).after r w) ∧
      Picture.of r c ((draw upper).after r w) = (draw upper).effect (Picture.of r c w) := by
  obtain ⟨source, v, hrun, hheld, hv, hpicture⟩ := hw.given (sourceOf_serves hw.wired)
  have hsource : (v.components.get r).source = some source := by
    simpa [Workspace.held, Components.held] using hheld
  let u : Workspace :=
    { v with sources := v.sources.set source ((v.sources.get source).next upper).2 }
  have hafter : (draw upper).after r w = u := by
    rw [after, act, runIn_bind_ok hrun, runIn_discard]
    rfl
  have hdrawn : Picture.drawn r c u = ((Picture.of r c w).source.next upper).2 := by
    rw [← hpicture, Picture.of, drawn_of_held hsource, drawn_of_held (w := u) hsource,
      Heap.get_set_same]
  obtain ⟨hsettled, hof⟩ := settled_of_fills hv (w := u) (.quiet ⟨_, _, rfl⟩)
    ((Call.Fills.refl ⟨[], []⟩ v).quiet ⟨_, _, rfl⟩)
  rw [hdrawn, hpicture] at hof
  rw [hafter]
  exact ⟨hsettled, hof⟩

/-- Resolving fills records and draws nothing. -/
theorem settled_of_prepares {F : Filling} (hv : Settled r c v) (h : Prepares v w)
    (hfills : Call.Fills F v w) : Settled r c w ∧ Picture.of r c w = Picture.of r c v := by
  obtain ⟨hsettled, hof⟩ := settled_of_fills hv h.alike hfills
  have hdrawn : Picture.drawn r c w = Picture.drawn r c v := by
    rw [Picture.drawn, components_of_alike h.alike, entropy_of_alike h.alike, h.sources,
      Picture.drawn]
  rw [hdrawn] at hof
  exact ⟨hsettled, hof⟩

theorem resolve_spec (hw : Settled r c w) (record : Ref Record)
    (scopes : List (Option (Ref Record))) :
    Settled r c ((resolve record scopes).after r w) ∧
      Picture.of r c ((resolve record scopes).after r w) = Picture.of r c w := by
  obtain ⟨cascade, v, hrun, -, hv, hpicture⟩ := hw.given (cascadeOf_serves hw.wired)
  rw [after, act, runIn_bind_ok hrun, runIn_discard, ← hpicture]
  exact settled_of_prepares hv (resolve_prepares cascade record scopes v)
    (Call.fills_resolve cascade record scopes v)

theorem resolveTemplate_spec (hw : Settled r c w) (usage : Usage)
    (overrides : List (Option (Ref Record))) :
    Settled r c ((resolveTemplate usage overrides).after r w) ∧
      Picture.of r c ((resolveTemplate usage overrides).after r w) = Picture.of r c w := by
  obtain ⟨cascade, v, hrun, -, hv, hpicture⟩ := hw.given (cascadeOf_serves hw.wired)
  rw [after, act, runIn_bind_ok hrun, runIn_discard, ← hpicture]
  exact settled_of_prepares hv (resolveTemplate_prepares cascade usage overrides v)
    (Call.fills_resolveTemplate cascade usage overrides v)

theorem request_spec (hw : Settled r c w) (q : Request) :
    Settled r c ((request q).after r w) ∧
      Picture.of r c ((request q).after r w) = Picture.of r c w := by
  rw [after, act, runIn_discard]
  exact (q.act_spec hw.wired).2.1.settled hw

theorem register_spec (hw : Settled r c w) (template : Ref Record) :
    Settled r c ((register template).after r w) ∧
      Picture.of r c ((register template).after r w) =
        (register template).effect (Picture.of r c w) := by
  obtain ⟨cascade, v, hrun, hheld, hv, hpicture⟩ := hw.given (cascadeOf_serves hw.wired)
  have hcascade : (v.components.get r).cascade = some cascade := by
    simpa [Workspace.held, Components.held] using hheld
  have hafter : (register template).after r w = ((Action.register cascade template).runIn v).2 := by
    rw [after, act, runIn_bind_ok hrun]
  have hfilled := Call.filledFrom_register cascade template v
  have hget := (Call.register_after cascade template v).2.1
  rw [Cascade.register_result, Call.after, Call.act] at hget
  obtain ⟨store, notices, cascades, hu⟩ : ∃ store notices cascades,
      ((Action.register cascade template).runIn v).2 =
        { v with store := store, notices := notices, cascades := cascades } := by
    obtain ⟨notices, hstate⟩ := register_state cascade template v
    exact ⟨_, notices, _, hstate⟩
  rw [hu] at hfilled hget
  rw [hafter, hu, effect, ← hpicture]
  dsimp only at hfilled hget
  -- The registered templates are the only thing in the picture that can be another one.
  have hof : ∀ registered, (cascades.get cascade).registered = registered →
      Picture.of r c { v with store := store, notices := notices, cascades := cascades } =
        { Picture.of r c v with registered := registered } := by
    rintro _ rfl
    simp only [Picture.of, Picture.registry, hcascade, (hfilled _).kind, (hfilled _).patterns]
    rfl
  have hdefaults : (cascades.get cascade).defaults = (v.cascades.get cascade).defaults := by
    rw [hget]
    cases Registration.of? v.store template <;> rfl
  refine ⟨⟨hv.wired.of_same rfl rfl rfl rfl, hv.settings, fun x hx => ?_, fun q hq => ?_⟩, ?_⟩
  · obtain rfl : cascade = x := Option.some.inj (hcascade.symm.trans hx)
    obtain ⟨hhas, hresolved⟩ := hv.defaults cascade hcascade
    dsimp only
    rw [hdefaults, (hfilled _).get_of_resolved hresolved]
    exact ⟨(hfilled _).has hhas, hresolved⟩
  · dsimp only
    rw [(hfilled q).kind, (hfilled q).patterns]
    exact hv.blank q fun hhas => hq ((hfilled q).has hhas)
  · have hregistry : (Picture.of r c v).registered = (v.cascades.get cascade).registered := by
      rw [Picture.of, Picture.registry, hcascade]
    have hkind : (Picture.of r c v).kind template = (v.store.get template).kind := rfl
    rw [Registration.of?, Record.usage?] at hget
    rw [hkind]
    cases hrole : (v.store.get template).kind with
    | plain | prompt =>
      rw [hrole] at hget
      exact hof _ ((congrArg Cascade.registered hget).trans hregistry.symm)
    | template usage =>
      rw [hrole] at hget
      refine hof _ ((congrArg Cascade.registered hget).trans ?_)
      rw [hregistry]
      rfl

/-- Every errand keeps the components settled, and does to the picture, and picks, what the picture
says. -/
theorem after_spec (hw : Settled r c w) (e : Errand) :
    Settled r c (e.after r w) ∧ Picture.of r c (e.after r w) = e.effect (Picture.of r c w) ∧
      e.picked r w = e.pickedFrom (Picture.of r c w) := by
  cases e with
  | request q => exact ⟨(request_spec hw q).1, (request_spec hw q).2, rfl⟩
  | pick p => exact pick_spec hw p
  | draw upper => exact ⟨(draw_spec hw upper).1, (draw_spec hw upper).2, rfl⟩
  | register template => exact ⟨(register_spec hw template).1, (register_spec hw template).2, rfl⟩
  | resolve record scopes =>
    exact ⟨(resolve_spec hw record scopes).1, (resolve_spec hw record scopes).2, rfl⟩
  | resolveTemplate usage overrides =>
    exact ⟨(resolveTemplate_spec hw usage overrides).1,
      (resolveTemplate_spec hw usage overrides).2, rfl⟩

/-! ## Runs -/

def isRequest : Errand → Bool
  | request _ => true
  | pick _ | draw _ | register _ | resolve .. | resolveTemplate .. => false

/-- What is done with the components, without the requests by themselves. -/
def uses (errands : List Errand) : List Errand := errands.filter fun e => !e.isRequest

def run (r : Ref Components) (w : Workspace) (errands : List Errand) : Workspace :=
  errands.foldl (after r) w

def picks (r : Ref Components) : Workspace → List Errand → List (Option String)
  | _, [] => []
  | w, e :: rest => e.picked r w ++ picks r (e.after r w) rest

theorem run_spec (hw : Settled r c w) (errands : List Errand) :
    Settled r c (run r w errands) ∧
      Picture.of r c (run r w errands) = (uses errands).foldl effect (Picture.of r c w) := by
  induction errands generalizing w with
  | nil => exact ⟨hw, rfl⟩
  | cons e rest ih =>
    obtain ⟨hsettled, hof, -⟩ := e.after_spec hw
    obtain ⟨hlast, hpicture⟩ := ih hsettled
    refine ⟨hlast, hpicture.trans ?_⟩
    rw [hof]
    cases e <;> rfl

/-- Two runs with the same uses pick the same patterns, from workspaces with the same picture. -/
theorem picks_eq_of_picture (hw : Settled r c w) (hv : Settled r c v)
    (hpicture : Picture.of r c v = Picture.of r c w) (errands : List Errand) :
    picks r v (uses errands) = picks r w errands := by
  induction errands generalizing w v with
  | nil => rfl
  | cons e rest ih =>
    obtain ⟨hwNext, hwOf, hwPicked⟩ := e.after_spec hw
    cases hrequest : e.isRequest with
    | true =>
      -- Only one of the runs makes the request, but it leaves the picture as it is.
      cases e with
      | request q => exact ih hwNext hv (hpicture.trans hwOf.symm)
      | _ => cases hrequest
    | false =>
      obtain ⟨hvNext, hvOf, hvPicked⟩ := e.after_spec hv
      have huses : uses (e :: rest) = e :: uses rest := by simp [uses, hrequest]
      rw [huses, picks, picks, hwPicked, hvPicked, hpicture,
        ih hwNext hvNext (by rw [hvOf, hwOf, hpicture])]

theorem picks_eq_of_uses (hw : Settled r c w) {errands errands' : List Errand}
    (huses : uses errands = uses errands') : picks r w errands = picks r w errands' := by
  rw [← picks_eq_of_picture hw hw rfl errands, huses, picks_eq_of_picture hw hw rfl errands']

end Errand

namespace Action
open Errand (uses picks)
open Settings (Origin)

theorem settled_of_new {w : Workspace} {settings : Ref Settings} {c : Configuration}
    (hsettings : w.settings.get settings = .ofConfiguration c)
    (htidy : w.store.Tidy) :
    Settled w.components.fresh c ((newComponents settings).runIn w).2 := by
  obtain ⟨-, hget, hwired⟩ := wired_of_new settings w
  refine ⟨hwired, ?_, fun x hx => ?_, fun q hq => ?_⟩
  · rw [Workspace.settingsOf, hget]
    exact hsettings
  · rw [hget] at hx
    cases hx
  · have hq : ((newComponents settings).runIn w).2.store.get q = .blank := htidy q hq
    rw [hq]
    exact ⟨rfl, rfl⟩

/-- In every run of requests for components, a component that was given once is given ever after for
its place and for no other, and its parts are what is given for them. A request is refused just when
its component cannot be had: a style is unknown, or the settings as they are do not allow what it
needs. Nothing is kept then for what cannot be had, so that a later request tries again. Over
accepted settings with a seed the picks do not depend on which requests stand between the uses, and
requests alone do not draw. -/
theorem components_given_once (w₀ : Workspace) (settings : Ref Settings) :
    let r := w₀.components.fresh
    let w := ((newComponents settings).runIn w₀).2
    (∀ events, Event.Along (Event.Spares r) r w events →
      let u := Event.run r w events
      (∀ earlier q later, events = earlier ++ .request q :: later →
        ∀ x, ((q.act r).runIn (Event.run r w earlier)).1 = .ok x →
          (∀ q' : Request, q'.slot = q.slot → (q'.act r).runIn u = (.ok x, u)) ∧
          (∀ (q' : Request) x', ((q'.act r).runIn u).1 = .ok x' → (x' = x ↔ q'.slot = q.slot)) ∧
          ∀ part ∈ x.parts u, (part.1.act r).runIn u = (.ok part.2, u)) ∧
      ∀ q : Request,
        let made := (q.act r).runIn u
        ((∃ x, made.1 = .ok x) ↔ ∃ k, q.slot = .ok k ∧ u.Obtainable r k) ∧
        (∀ why k, made.1 = .error why → q.slot = .ok k →
          u.held r k = none ∧ made.2.held r k = none) ∧
        (∀ k, ¬ u.Obtainable r k → made.2.held r k = none) ∧
        ∀ why, q.slot = .error why → made = (.error why, u)) ∧
    (∀ asked style, (Request.renderer asked).slot = .ok (.renderer style) ↔
      asked.asText? = some style.name) ∧
    ∀ o s seed, Settings.load o = .ok s → s.accepted.randomSeed = some seed →
      w₀.settings.get settings = s → w₀.store.Tidy →
      (∀ errands errands', uses errands = uses errands' →
        picks r w errands = picks r w errands') ∧
      ∀ errands, uses errands = [] → ∀ source,
        let u := Errand.run r w errands
        (u.components.get r).source = some source →
          u.sources.get source = .shared true (.ofSeed seed) := by
  intro r w
  obtain ⟨-, -, hw⟩ := wired_of_new settings w₀
  refine ⟨fun events hevents => ⟨?_, fun q => ?_⟩, fun _ _ => Request.slot_renderer_iff, ?_⟩
  · rintro earlier q later rfl x hx
    obtain ⟨hearlier, hlater⟩ := Event.along_append.1 hevents
    have h := Event.later_requests (Event.run_spec hearlier hw).1 hlater hx
    rw [← Event.run_append] at h
    exact h
  · have hu := (Event.run_spec hevents hw).1
    obtain ⟨-, -, -, hsucceeds, hnone⟩ := q.act_spec hu
    refine ⟨hsucceeds, fun why k hwhy hk => ?_, hnone, fun why hwhy => q.act_of_unknown hwhy _⟩
    have hnot : ¬ (Event.run r w events).Obtainable r k := by
      intro hobtainable
      obtain ⟨x, hx⟩ := hsucceeds.2 ⟨k, hk, hobtainable⟩
      rw [hwhy] at hx
      cases hx
    exact ⟨(Grows.refl _).held_of_not_obtainable hu hnot, hnone k hnot⟩
  · intro o s seed hload hseed hsettings htidy
    obtain ⟨c, -, rfl⟩ := Settings.load_eq_ok hload
    have hsettled : Settled r c w := settled_of_new hsettings htidy
    refine ⟨fun errands errands' huses => Errand.picks_eq_of_uses hsettled huses, ?_⟩
    intro errands huses source u hsource
    obtain ⟨-, hpicture⟩ := Errand.run_spec hsettled errands
    rw [huses] at hpicture
    have hdrawn : Picture.drawn r c u = Picture.drawn r c w := congrArg Picture.source hpicture
    have hnew : Picture.drawn r c w = .ofOptionalSeed c.randomSeed (w.entropy r) := by
      rw [Picture.drawn, (wired_of_new settings w₀).2.1]
    have hc : c.randomSeed = some seed := hseed
    rw [Errand.drawn_of_held hsource, hnew, hc] at hdrawn
    exact hdrawn

def stockSample : Workspace := ((newComponents ⟨0⟩).runIn { settings := Heap.empty.push .stock }).2

/-- The separator of the settings is gone, so that a cascade cannot be made. -/
def spoiledSample : Workspace :=
  ((assignSettings ⟨0⟩ "default_separator" .null).runIn stockSample).2

def mendedSample : Workspace :=
  ((assignSettings ⟨0⟩ "default_separator" (.text ", ")).runIn
    (Request.formatter.after ⟨0⟩ spoiledSample)).2

def mendingEvents : List Event :=
  [.elsewhere spoiledSample, .request .formatter, .elsewhere mendedSample, .request .formatter]

/-- Components over settings with a seed, beside a record with two patterns. -/
def seededSample (s : Settings) : Workspace :=
  ((newComponents ⟨0⟩).runIn {
    settings := Heap.empty.push s
    store := Heap.empty.push ⟨.plain, ["first", "second"], .unset, true⟩ }).2

theorem components_given_once_sample :
    let r : Ref Components := ⟨0⟩
    let failed := Request.formatter.after r spoiledSample
    let u := Event.run r stockSample mendingEvents
    (Event.Along (Event.Spares r) r stockSample mendingEvents ∧
      ((Request.formatter.act r).runIn spoiledSample).1 = .error (.unresolved ["separator"]) ∧
      failed.held r .selector = some (.selector ⟨0⟩) ∧ failed.held r .formatter = none ∧
      (Request.formatter.act r).runIn u = (.ok (.formatter ⟨0⟩), u) ∧
      (Request.cascade.act r).runIn u = (.ok (.cascade ⟨0⟩), u)) ∧
    ∃ s, Settings.load ⟨[("random_seed", .int 7)], [], none⟩ = .ok s ∧
      s.accepted.randomSeed = some 7 ∧
      picks r (seededSample s) [.pick (.select ⟨0⟩), .request .formatter, .pick (.select ⟨0⟩)] =
        picks r (seededSample s) [.request .cascade, .request .source, .pick (.select ⟨0⟩),
          .pick (.select ⟨0⟩)] := by
  intro r failed u
  have hevents : Event.Along (Event.Spares r) r stockSample mendingEvents := by
    refine ⟨⟨rfl, fun k x hx => ?_⟩, trivial, ⟨rfl, fun k x hx => ?_⟩, trivial, trivial⟩
    · cases k <;> cases hx
    · cases k <;> cases hx <;> trivial
  obtain ⟨hruns, -⟩ := components_given_once { settings := Heap.empty.push .stock } ⟨0⟩
  obtain ⟨hgiven, -⟩ := hruns mendingEvents hevents
  obtain ⟨hagain, -, hparts⟩ := hgiven (mendingEvents.take 3) .formatter [] rfl (.formatter ⟨0⟩) rfl
  refine ⟨⟨hevents, rfl, rfl, rfl, hagain .formatter rfl,
    hparts (.cascade, .cascade ⟨0⟩) (.tail _ (.head _))⟩, ?_⟩
  have hloaded : ((Settings.load ⟨[("random_seed", .int 7)], [], none⟩).toOption.map
      fun s => s.accepted.randomSeed) = some (some 7) := by decide +kernel
  obtain ⟨s, hload, hseed⟩ := Settings.exists_loaded hloaded
  refine ⟨s, hload, hseed, ?_⟩
  obtain ⟨-, -, horder⟩ := components_given_once
    { settings := Heap.empty.push s
      store := Heap.empty.push ⟨.plain, ["first", "second"], .unset, true⟩ } ⟨0⟩
  exact (horder _ s 7 hload hseed rfl (Heap.tidy_empty.push _)).1 _ _ rfl

end Action

end FormDialogue
