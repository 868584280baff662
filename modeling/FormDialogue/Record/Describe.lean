/-! # Descriptions

The texts under which a field or a value is shown. -/

namespace FormDialogue.Record

structure Describe where
  description : Option String
  title : Option String
  subtitle : Option String
  /-- Where an image for a card is found. -/
  image : Option String
  /-- The text that is posted when the value is chosen. -/
  message : Option String
  localizable : Bool
  deriving DecidableEq, Repr

end FormDialogue.Record
