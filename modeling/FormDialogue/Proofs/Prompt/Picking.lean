import FormDialogue.Proofs.Draw.Answers
import FormDialogue.Proofs.Prompt.Reaching

/-! # Picking patterns

A call that makes a text does everything else first and then picks a pattern. Only the picking
draws, and only where there are two patterns or more. Where the defaults of its cascade set every
option, what a call reaches the picking with does not depend on what was filled or drawn before. -/

namespace FormDialogue
open Prompt (Arguments)
open Record (Declaration Usage)
open Draw (Source)

/-! ## Calls that pick -/

/-- A call that picks a pattern, and fills it unless it only selects. -/
inductive Pick
  | select (record : Ref Record)
  | format (f : Ref Formatter) (record : Ref Record) (a : Arguments)
  | promptFor (f : Ref Formatter) (d : Ref Declaration) (usage : Usage)
      (typePrompt : Option (Ref Record)) (value : Option String) (choices : Option (List String))

/-- What a call has when it picks: a record, and what the pattern is filled by and with. -/
structure Reached where
  record : Record
  filling : Option (Formatter × Arguments)

namespace Reached
open FormDialogue.Action

def act (r : Ref Selector) (x : Reached) : Action String :=
  match x.filling with
  | none => select r x.record
  | some (f, a) => formatWith f x.record a

def finish (x : Reached) (pattern : String) : Except Failure String :=
  match x.filling with
  | none => .ok pattern
  | some (f, a) => Prompt.fill pattern x.record.options a f.threshold

def Uses (r : Ref Selector) (x : Reached) : Prop := ∀ f a, x.filling = some (f, a) → f.selector = r

theorem runIn_act {r : Ref Selector} {x : Reached} (h : x.Uses r) (w : Workspace) :
    let source := (w.selectors.get r).source
    let picked := (w.sources.get source).pick x.record.patterns
    ((x.act r).runIn w).1 = picked.1.bind (fun found => x.finish found.1) ∧
      ∃ notices, ((x.act r).runIn w).2 =
        { w with sources := w.sources.set source picked.2, notices := notices } := by
  intro source picked
  obtain ⟨record, filling⟩ := x
  cases filling with
  | none =>
    obtain ⟨hresult, hstate⟩ := runIn_select r record w
    refine ⟨hresult.trans ?_, hstate⟩
    cases picked.1 <;> rfl
  | some made =>
    obtain ⟨f, a⟩ := made
    obtain rfl : f.selector = r := h f a rfl
    exact ⟨formatWith_result f record a w, formatWith_state f record a w⟩

end Reached

namespace Pick
open FormDialogue.Action
variable {r : Ref Selector} {p : Pick} {w v : Workspace} {x : Reached}

def act (r : Ref Selector) : Pick → Action String
  | select record => do Action.select r (← getRecord record)
  | format f record a => do
    let w ← get
    formatWith (w.formatters.get f) (w.store.get record) a
  | promptFor f d usage typePrompt value choices =>
    Action.promptFor f d usage typePrompt value choices

def after (r : Ref Selector) (w : Workspace) (p : Pick) : Workspace := ((p.act r).runIn w).2

/-- Everything that a call does before it picks a pattern. -/
def before : Pick → Action Reached
  | select record => do return ⟨← getRecord record, none⟩
  | format f record a => do
    let w ← get
    return ⟨w.store.get record, some (w.formatters.get f, a)⟩
  | promptFor f d usage typePrompt value choices => do
    let w ← get
    let f := w.formatters.get f
    let record ← promptRecord f.cascade d usage typePrompt
    let field ← describeField d
    return ⟨record, some (f, ⟨some field, value, none, choices⟩)⟩

def formatter? : Pick → Option (Ref Formatter)
  | select _ => none
  | format f .. | promptFor f .. => some f

def Uses (r : Ref Selector) (w : Workspace) (p : Pick) : Prop :=
  ∀ f, p.formatter? = some f → (w.formatters.get f).selector = r

/-- The defaults behind a call set every option. -/
def Complete (w : Workspace) (p : Pick) : Prop :=
  ∀ f, p.formatter? = some f →
    (w.store.get (w.cascades.get (w.formatters.get f).cascade).defaults).options.isResolved = true

theorem act_eq (r : Ref Selector) (p : Pick) (w : Workspace) :
    (p.act r).runIn w = (p.before >>= Reached.act r).runIn w := by
  cases p with
  | select record => rfl
  | format f record a => rfl
  | promptFor f d usage typePrompt value choices =>
    simp only [act, before, Action.promptFor, bind_assoc, pure_bind, Reached.act]

theorem before_prepares (p : Pick) : OnlyPrepares p.before := by
  intro w
  cases p with
  | select record => exact .refl w
  | format f record a => exact .refl w
  | promptFor f d usage typePrompt value choices =>
    rw [before, runIn_bind_ok (runIn_get w)]
    refine (promptRecord_prepares _ d usage typePrompt).bind (fun record => ?_) w
    exact (reads_describeField d).onlyPrepares.bind fun _ => (reads_pure _).onlyPrepares

theorem uses_of_before (h : p.Uses r w) (hx : (p.before.runIn w).1 = .ok x) :
    x.Uses r := by
  cases p with
  | select record =>
    cases hx
    exact fun f a hfilling => by cases hfilling
  | format f record a =>
    cases hx
    rintro _ _ ⟨⟩
    exact h f rfl
  | promptFor f d usage typePrompt value choices =>
    have hr : (w.formatters.get f).selector = r := h f rfl
    rw [before, runIn_bind_ok (runIn_get w)] at hx
    obtain ⟨record, -, hx⟩ := exists_of_bind_eq_ok hx
    obtain ⟨field, -, hx⟩ := exists_of_bind_eq_ok hx
    cases hx
    rintro _ _ ⟨⟩
    exact hr

/-! ## Picking -/

def reached? (w : Workspace) (p : Pick) : Option (List String) :=
  (p.before.runIn w).1.toOption.map fun x => x.record.patterns

def picked? (r : Ref Selector) (w : Workspace) (p : Pick) : Option String :=
  ((p.before >>= fun x => Action.select r x.record).runIn w).1.toOption

theorem picked?_eq (r : Ref Selector) (p : Pick) (w : Workspace) :
    p.picked? r w = (p.reached? w).bind fun patterns =>
      ((w.sources.get (w.selectors.get r).source).pick patterns).1.toOption.map Prod.fst := by
  have h := before_prepares p w
  rw [picked?, reached?, runIn_bind]
  cases (p.before.runIn w).1 with
  | error why => rfl
  | ok x =>
    dsimp only
    rw [(runIn_select r x.record _).1, h.sources, h.alike.selectors]
    dsimp only [Except.toOption, Option.map_some, Option.bind_some]
    cases ((w.sources.get (w.selectors.get r).source).pick x.record.patterns).1 with
    | error why => rfl
    | ok picked => rfl

theorem after_spec (h : p.Uses r w) :
    let v := p.after r w
    Alike w v ∧ (∀ q, (w.store.get q).options.isResolved = true → v.store.get q = w.store.get q) ∧
      v.sources = match p.reached? w with
        | none => w.sources
        | some patterns =>
          let source := (w.selectors.get r).source
          w.sources.set source ((w.sources.get source).pick patterns).2 := by
  intro v
  have hv : v = ((p.before >>= Reached.act r).runIn w).2 := congrArg Prod.snd (act_eq r p w)
  have hbefore := before_prepares p w
  rw [hv, runIn_bind, reached?]
  cases hx : (p.before.runIn w).1 with
  | error why => exact ⟨hbefore.alike, hbefore.resolved, hbefore.sources⟩
  | ok x =>
    obtain ⟨-, notices, hstate⟩ := Reached.runIn_act (uses_of_before h hx) (p.before.runIn w).2
    refine ⟨hbefore.alike.trans (.quiet ⟨_, notices, hstate⟩), fun q hq => ?_, ?_⟩
    · rw [hstate]
      exact hbefore.resolved q hq
    · rw [hstate]
      dsimp only [Except.toOption, Option.map_some]
      rw [hbefore.sources, hbefore.alike.selectors]

/-- What is reached depends on nothing that is filled, where the defaults set every option. -/
def patterns? (w : Workspace) : Pick → Option (List String)
  | select record | format _ record _ => some (w.store.get record).patterns
  | promptFor f d usage .. =>
    match ((describeField d).runIn w).1 with
    | .ok _ => promptPatterns? w (w.formatters.get f).cascade d usage
    | .error _ => none

theorem reached?_eq (h : p.Complete w) : p.reached? w = p.patterns? w := by
  cases p with
  | select record => rfl
  | format f record a => rfl
  | promptFor f d usage typePrompt value choices =>
    let c := (w.formatters.get f).cascade
    have hpatterns := promptRecord_patterns (h f rfl) d usage typePrompt
    have halike := (promptRecord_prepares c d usage typePrompt w).alike
    rw [reached?, before, runIn_bind_ok (runIn_get w), patterns?, ← hpatterns]
    dsimp only
    rw [runIn_bind]
    cases ((promptRecord c d usage typePrompt).runIn w).1 with
    | error why => cases ((describeField d).runIn w).1 <;> rfl
    | ok record =>
      dsimp only
      rw [runIn_bind, (reads_describeField d).result halike]
      cases ((describeField d).runIn w).1 with
      | error why => rfl
      | ok field => rfl

theorem patterns?_congr (h : Alike w v) (p : Pick) : p.patterns? v = p.patterns? w := by
  cases p with
  | select record => exact congrArg some (h.patterns record)
  | format f record a => exact congrArg some (h.patterns record)
  | promptFor f d usage typePrompt value choices =>
    simp only [patterns?, (reads_describeField d).result h, h.formatters,
      promptPatterns?_congr h]

/-! ## Runs -/

/-- The bound of the draw that a call makes, if it makes one. -/
def draws? (w : Workspace) (p : Pick) : Option Nat :=
  (p.reached? w).bind fun patterns => if 2 ≤ patterns.length then some patterns.length else none

def run (r : Ref Selector) (w : Workspace) (calls : List Pick) : Workspace :=
  calls.foldl (after r) w

def picks (r : Ref Selector) : Workspace → List Pick → List (Option String)
  | _, [] => []
  | w, p :: rest => p.picked? r w :: picks r (p.after r w) rest

/-- The patterns that are picked by the calls with a mark, in a run of all calls. -/
def markedPicks (r : Ref Selector) : Workspace → List (Bool × Pick) → List (Option String)
  | _, [] => []
  | w, (marked, p) :: rest =>
    (if marked then [p.picked? r w] else []) ++ markedPicks r (p.after r w) rest

def OnlyMarkedDraw (r : Ref Selector) : Workspace → List (Bool × Pick) → Prop
  | _, [] => True
  | w, (marked, p) :: rest =>
    (marked = false → p.draws? w = none) ∧ OnlyMarkedDraw r (p.after r w) rest

theorem sources_of_no_draw (h : p.Uses r w) (hdraw : p.draws? w = none) :
    (p.after r w).sources = w.sources := by
  rw [(after_spec h).2.2]
  cases hreached : p.reached? w with
  | none => rfl
  | some patterns =>
    have hfew : patterns.length < 2 := by
      rw [draws?, hreached, Option.bind_some] at hdraw
      split at hdraw
      · cases hdraw
      · omega
    dsimp only
    rw [Draw.Source.pick_of_few _ hfew, Heap.set_get]

theorem Uses.alike (h : p.Uses r w) (hv : Alike w v) : p.Uses r v := by
  intro f hf
  rw [hv.formatters]
  exact h f hf

theorem Complete.after {q : Pick} (h : p.Complete w) (hq : q.Uses r w) :
    p.Complete (q.after r w) := by
  intro f hf
  obtain ⟨halike, hresolved, -⟩ := after_spec hq
  rw [halike.formatters, halike.cascades, hresolved _ (h f hf)]
  exact h f hf

theorem picks_alike (huses : p.Uses r w) (hw : p.Complete w) (hv : p.Complete v)
    (h : Alike w v) (hsources : v.sources = w.sources) :
    p.picked? r v = p.picked? r w ∧ (p.after r v).sources = (p.after r w).sources := by
  have hreached : p.reached? v = p.reached? w := by
    rw [reached?_eq hv, reached?_eq hw, patterns?_congr h]
  rw [picked?_eq, picked?_eq, (after_spec huses).2.2, (after_spec (huses.alike h)).2.2,
    hreached, hsources, h.selectors]
  exact ⟨rfl, rfl⟩

theorem markedPicks_eq (calls : List (Bool × Pick)) (h : Alike w v)
    (hsources : v.sources = w.sources)
    (hcalls : ∀ c ∈ calls, c.2.Uses r w ∧ c.2.Complete w ∧ c.2.Complete v)
    (hdraws : OnlyMarkedDraw r w calls) :
    markedPicks r w calls = picks r v ((calls.filter Prod.fst).map Prod.snd) := by
  induction calls generalizing w v with
  | nil => rfl
  | cons call rest ih =>
    obtain ⟨marked, p⟩ := call
    obtain ⟨⟨huses, hw, hv⟩, hrest⟩ := List.forall_mem_cons.1 hcalls
    obtain ⟨hdraw, hothers⟩ := hdraws
    have hnext := after_spec huses
    have husesAfter : ∀ c ∈ rest, c.2.Uses r (p.after r w) ∧ c.2.Complete (p.after r w) :=
      fun c hc => ⟨(hrest c hc).1.alike hnext.1, (hrest c hc).2.1.after huses⟩
    cases marked with
    | false =>
      -- Only the run of all calls goes on, but it does not draw: the sources stay the same.
      refine ih (hnext.1.symm.trans h) ?_ (fun c hc => ⟨(husesAfter c hc).1, (husesAfter c hc).2,
        (hrest c hc).2.2⟩) hothers
      rw [sources_of_no_draw huses (hdraw rfl), hsources]
    | true =>
      have hnext' := after_spec (huses.alike h)
      obtain ⟨hpicked, hafter⟩ := picks_alike huses hw hv h hsources
      refine congrArg₂ List.cons hpicked.symm (ih (hnext.1.symm.trans (h.trans hnext'.1)) hafter
        (fun c hc => ⟨(husesAfter c hc).1, (husesAfter c hc).2, ?_⟩) hothers)
      exact (hrest c hc).2.2.after (huses.alike h)

theorem run_alike {calls : List Pick} (h : ∀ p ∈ calls, p.Uses r w) : Alike w (run r w calls) := by
  induction calls generalizing w with
  | nil => exact .refl w
  | cons p rest ih =>
    obtain ⟨hp, hrest⟩ := List.forall_mem_cons.1 h
    have hnext := (after_spec hp).1
    exact hnext.trans (ih fun q hq => (hrest q hq).alike hnext)

/-- What a call gives and draws, after it has done everything else. -/
theorem act_spec (h : p.Uses r w) :
    let source := (w.selectors.get r).source
    let result := ((p.act r).runIn w).1
    let v := p.after r w
    (∀ why, (p.before.runIn w).1 = .error why →
      p.picked? r w = none ∧ result = .error why ∧ v.sources = w.sources) ∧
    ∀ x, (p.before.runIn w).1 = .ok x →
      let patterns := x.record.patterns
      (patterns = [] → p.picked? r w = none ∧ result = .error (.noPatterns .selection) ∧
        v.sources = w.sources) ∧
      (∀ pattern, patterns = [pattern] → p.picked? r w = some pattern ∧
        result = x.finish pattern ∧ v.sources = w.sources) ∧
      (2 ≤ patterns.length → ∃ (a : Fin patterns.length) (drawn : Source),
        (w.sources.get source).next patterns.length = (.ok a, drawn) ∧
          p.picked? r w = some patterns[a] ∧ result = x.finish patterns[a] ∧
          v.sources = w.sources.set source drawn) := by
  intro source result v
  have hbefore := before_prepares p w
  have hresult : result = ((p.before >>= Reached.act r).runIn w).1 :=
    congrArg Prod.fst (act_eq r p w)
  have hpicked := picked?_eq r p w
  have hsources := (after_spec h).2.2
  rw [runIn_bind] at hresult
  rw [reached?] at hpicked hsources
  refine ⟨fun why hwhy => ?_, fun x hx => ?_⟩
  · rw [hwhy] at hresult hpicked hsources
    exact ⟨hpicked, hresult, hsources⟩
  intro patterns
  have hact := (Reached.runIn_act (uses_of_before h hx) (p.before.runIn w).2).1
  rw [hbefore.sources, hbefore.alike.selectors] at hact
  rw [hx] at hresult hpicked hsources
  let picked := (w.sources.get source).pick patterns
  have hpicked' : p.picked? r w = picked.1.toOption.map Prod.fst := hpicked
  have hresult' : result = picked.1.bind fun found => x.finish found.1 := hresult.trans hact
  have hsources' : v.sources = w.sources.set source picked.2 := hsources
  have hfew : patterns.length < 2 → v.sources = w.sources := fun hlength => by
    rw [hsources', Draw.Source.pick_of_few _ hlength, Heap.set_get]
  refine ⟨fun hnone => ?_, fun pattern hone => ?_, fun hmany => ?_⟩
  · have hpick : picked.1 = .error (.noPatterns .selection) := by
      have hnil : picked = (w.sources.get source).pick [] := by rw [← hnone]
      rw [hnil]
      rfl
    rw [hpick] at hpicked' hresult'
    exact ⟨hpicked', hresult', hfew (by rw [hnone]; exact Nat.two_pos)⟩
  · have hpick : picked.1 = .ok (pattern, []) := by
      have hlone : picked = (w.sources.get source).pick [pattern] := by rw [← hone]
      rw [hlone]
      rfl
    rw [hpick] at hpicked' hresult'
    exact ⟨hpicked', hresult', hfew (by rw [hone]; exact Nat.one_lt_two)⟩
  · obtain ⟨a, drawn, hnext, hpick⟩ := (w.sources.get source).pick_of_many hmany
    rw [show picked = _ from hpick] at hpicked' hresult' hsources'
    exact ⟨a, drawn, hnext, hpicked', hresult', hsources'⟩

/-- A call draws once, with the number of patterns for its bound, when it reaches the picking with
two patterns or more, and what is drawn is the place of the pattern that it uses, even if that
cannot be filled then. No other call draws. So calls that do not draw can be left out of a run or
put into it, and the others pick the same patterns, where the defaults behind the calls set every
option. Any answers within the bounds are those of a source. -/
theorem draws_once_to_choose (r : Ref Selector) (w : Workspace) :
    (∀ calls, (∀ p ∈ calls, p.Uses r w) → ∀ earlier p later, calls = earlier ++ p :: later →
      let v := run r w earlier
      let u := p.after r v
      let source := (v.selectors.get r).source
      let result := ((p.act r).runIn v).1
      (∀ why, (p.before.runIn v).1 = .error why →
        p.picked? r v = none ∧ result = .error why ∧ u.sources = v.sources) ∧
      ∀ x, (p.before.runIn v).1 = .ok x →
        let patterns := x.record.patterns
        (patterns = [] → p.picked? r v = none ∧ result = .error (.noPatterns .selection) ∧
          u.sources = v.sources) ∧
        (∀ pattern, patterns = [pattern] → p.picked? r v = some pattern ∧
          result = x.finish pattern ∧ u.sources = v.sources) ∧
        (2 ≤ patterns.length → ∃ (a : Fin patterns.length) (drawn : Source),
          (v.sources.get source).next patterns.length = (.ok a, drawn) ∧
            p.picked? r v = some patterns[a] ∧ result = x.finish patterns[a] ∧
            u.sources = v.sources.set source drawn)) ∧
    (∀ calls : List (Bool × Pick), (∀ c ∈ calls, c.2.Uses r w ∧ c.2.Complete w) →
      OnlyMarkedDraw r w calls →
      markedPicks r w calls = picks r w ((calls.filter Prod.fst).map Prod.snd)) ∧
    ∀ answers uppers : List Nat, List.Forall₂ (· < ·) answers uppers →
      ∃ s : Source, (s.nextAll (uppers.map Nat.cast)).1 = answers.map .ok := by
  refine ⟨?_, fun calls hcalls hdraws => ?_, fun answers uppers => Draw.Source.exists_answers⟩
  · rintro _ huses earlier p later rfl
    have hearlier : ∀ q ∈ earlier, q.Uses r w := fun q hq =>
      huses q (List.mem_append_left _ hq)
    have hp : p.Uses r w := huses p (List.mem_append_right _ List.mem_cons_self)
    exact act_spec (hp.alike (run_alike hearlier))
  · exact markedPicks_eq calls (.refl w) rfl
      (fun c hc => ⟨(hcalls c hc).1, (hcalls c hc).2, (hcalls c hc).2⟩) hdraws

/-- Two prompts and their records, with a source that answers with each of two patterns in turn. -/
def sample : Workspace where
  store := List.foldl Heap.push .empty [
    ⟨.plain, [], completeOptions, false⟩,
    ⟨.prompt, ["Your name?"], {}, false⟩,
    ⟨.plain, [], { separator := some "; " }, true⟩,
    ⟨.prompt, ["Which colour?", "What colour?"], {}, false⟩,
    ⟨.plain, ["Thanks.", "Noted."], {}, true⟩]
  declarations := [Record.Declaration.mk "name" none (some ⟨1⟩) [] none none none false,
    Record.Declaration.mk "colour" none (some ⟨3⟩) [] none none none false].foldl Heap.push .empty
  cascades := Heap.empty.push ⟨⟨0⟩, fun _ => none⟩
  sources := Heap.empty.push (.scripted [0, 1] 0)
  selectors := Heap.empty.push ⟨⟨0⟩⟩
  formatters := Heap.empty.push ⟨⟨0⟩, ⟨0⟩, default⟩

/-- The prompt of the first field has one pattern, so that only the other two calls draw. -/
def sampleCalls : List (Bool × Pick) := [
  (false, .promptFor ⟨0⟩ ⟨0⟩ .string (some ⟨2⟩) none none),
  (true, .promptFor ⟨0⟩ ⟨1⟩ .string (some ⟨1⟩) none none),
  (true, .select ⟨4⟩)]

theorem sampleCalls_formatter : ∀ c ∈ sampleCalls, ∀ f ∈ c.2.formatter?, f = ⟨0⟩ := by decide

theorem sampleCalls_use (hw : w.formatters = sample.formatters) :
    ∀ c ∈ sampleCalls, c.2.Uses ⟨0⟩ w := by
  intro c hc f hf
  rw [sampleCalls_formatter c hc f hf, hw]
  rfl

theorem draws_once_to_choose_sample :
    (∀ c ∈ sampleCalls, c.2.Uses ⟨0⟩ sample ∧ c.2.Complete sample) ∧
      OnlyMarkedDraw ⟨0⟩ sample sampleCalls ∧
      markedPicks ⟨0⟩ sample sampleCalls = [some "Which colour?", some "Noted."] := by
  have hcalls : ∀ c ∈ sampleCalls, c.2.Uses ⟨0⟩ sample ∧ c.2.Complete sample := by
    refine fun c hc => ⟨sampleCalls_use rfl c hc, fun f hf => ?_⟩
    rw [sampleCalls_formatter c hc f hf]
    rfl
  have hdraws : OnlyMarkedDraw ⟨0⟩ sample sampleCalls := ⟨fun _ => rfl, nofun, nofun, trivial⟩
  refine ⟨hcalls, hdraws, ?_⟩
  rw [(draws_once_to_choose ⟨0⟩ sample).2.1 sampleCalls hcalls hdraws]
  rfl

/-- The defaults behind the calls have lost an option, after the cascade was built. -/
def spoiled : Workspace := ((assignOption ⟨0⟩ "separator" .null).runIn sample).2

theorem omitted_call_shifts_picks :
    (∀ c ∈ sampleCalls, c.2.Uses ⟨0⟩ spoiled) ∧ OnlyMarkedDraw ⟨0⟩ spoiled sampleCalls ∧
      markedPicks ⟨0⟩ spoiled sampleCalls = [some "Which colour?", some "Noted."] ∧
      picks ⟨0⟩ spoiled ((sampleCalls.filter Prod.fst).map Prod.snd) = [none, some "Thanks."] :=
  ⟨sampleCalls_use rfl, ⟨fun _ => rfl, nofun, nofun, trivial⟩, rfl, rfl⟩

end Pick

end FormDialogue
