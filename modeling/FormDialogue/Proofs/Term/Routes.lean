import FormDialogue.Proofs.Term.Expanding
import FormDialogue.Proofs.Workspace.Running
import FormDialogue.Workspace.Prompting

/-! # Routes to matchers

Terms are expanded at once, or declared first and compiled later. The length of runs is asked for
when a declaration is compiled, or set on it before. Every route classifies what is given first, and
then expands the same alternatives, so that all of them give the same matchers or fail alike. -/

namespace FormDialogue.Action
open Term
variable {given : List Given} {alternatives : List Alternative} {n : Int} {why : Failure}
  {w : Workspace}

/-! ## Declaring -/

section
variable [Limits]

/-! ## Setting limits and compiling -/

theorem runIn_expandTerms (terms : List Given) (n : Int) (w : Workspace) :
    ((expandTerms terms n).runIn w).1 = Term.expandTerms terms n ∧
      ∃ notices, ((expandTerms terms n).runIn w).2 = { w with notices := notices } := by
  rw [expandTerms, runIn_bind, runIn_ofExcept]
  cases Term.expandTerms terms n with
  | ok ms => exact ⟨rfl, _, rfl⟩
  | error why => exact ⟨rfl, w.notices, rfl⟩

theorem expandGiven_of_classified (h : classifyAll given = .ok alternatives) :
    (expandGiven given n).runIn w = (expandTerms (alternatives.map .tagged) n).runIn w := by
  rw [expandGiven, h, runIn_bind, runIn_ofExcept]

end

/-! ## Routes -/

/-- The ways from terms to the matchers of their runs: at once, through a declaration that is
compiled with a length, and through a declaration on which the length is set. Other limits may have
been set on the declaration before. -/
inductive Route
  | direct
  | asked (limits : List Int)
  | limited (limits : List Int)

namespace Route

def limits : Route → List Int
  | direct => []
  | asked limits | limited limits => limits

/-- What a length that is too small is called. -/
def parameter : Route → String
  | direct | asked _ => "max_phrase_length"
  | limited _ => "max_phrase"

def act [Limits] (given : List Given) (n : Int) : Route → Action (List Matcher)
  | direct => expandGiven given n
  | asked limits => do
    let spec ← ofExcept (TermSpec.declare given)
    let spec ← ofExcept (limits.foldlM TermSpec.withMaxPhrase spec)
    compileSpec spec (some n)
  | limited limits => do
    let spec ← ofExcept (TermSpec.declare given)
    let spec ← ofExcept (limits.foldlM TermSpec.withMaxPhrase spec)
    compileSpec (← ofExcept (spec.withMaxPhrase n)) none

end Route

section
variable [Limits]

end

/-! ## Sessions -/

/-- A call on a declaration, which is named by its place among those that were made. -/
inductive SpecCall
  | limit (on : Nat) (n : Int)
  | compile (on : Nat) (asked : Option Int)

/-- The declarations that were made, in the order in which they were made. -/
structure SpecSession where
  specs : List TermSpec
  workspace : Workspace

namespace SpecSession
variable {x : SpecSession} {s t : TermSpec}

def next [Limits] (x : SpecSession) : SpecCall → SpecSession
  | .limit on n =>
    match x.specs[on]? with
    | some s =>
      match s.withMaxPhrase n with
      | .ok t => { x with specs := x.specs ++ [t] }
      | .error _ => x
    | none => x
  | .compile on asked =>
    match x.specs[on]? with
    | some s => { x with workspace := ((compileSpec s asked).runIn x.workspace).2 }
    | none => x

def run [Limits] (x : SpecSession) (calls : List SpecCall) : SpecSession := calls.foldl next x

/-- A session in which nothing but declarations with the same terms was made since another. -/
structure Extends (x y : SpecSession) : Prop where
  specs : x.specs <+: y.specs
  made : ∀ t ∈ y.specs, t ∈ x.specs ∨
    ∃ s ∈ x.specs, t.alternatives = s.alternatives ∧ ∃ n, 1 ≤ n ∧ t.lengthFor none = some n
  workspace : ∃ notices, y.workspace = { x.workspace with notices := notices }

theorem Extends.refl (x : SpecSession) : x.Extends x :=
  ⟨List.prefix_rfl, fun _ ht => Or.inl ht, x.workspace.notices, rfl⟩

theorem Extends.trans {y z : SpecSession} (hxy : x.Extends y) (hyz : y.Extends z) :
    x.Extends z where
  specs := hxy.specs.trans hyz.specs
  made := by
    intro t ht
    obtain ht | ⟨s, hs, halternatives, hlength⟩ := hyz.made t ht
    · exact hxy.made t ht
    · obtain hs | ⟨r, hr, hsame, -⟩ := hxy.made s hs
      · exact Or.inr ⟨s, hs, halternatives, hlength⟩
      · exact Or.inr ⟨r, hr, halternatives.trans hsame, hlength⟩
  workspace := by
    obtain ⟨notices, hy⟩ := hxy.workspace
    obtain ⟨notices', hz⟩ := hyz.workspace
    exact ⟨notices', by rw [hz, hy]⟩

end SpecSession

end FormDialogue.Action
