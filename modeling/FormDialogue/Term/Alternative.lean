import FormDialogue.Failure

/-! # Alternatives

A term is declared by alternatives. An alternative is a phrase, which is recognised as whole words,
or a hand-written expression, which is used as it is. Plain text is an expression when it starts
with an opening parenthesis, and a phrase otherwise. Any other value is asked how it starts, which
few can tell. -/

namespace FormDialogue.Term

inductive Alternative
  | phrase (text : String)
  | expression (pattern : String)
  /-- A phrase or an expression of which the content is not text, with the error of using it. -/
  | unusable (kind text : String)
  deriving DecidableEq, Repr

inductive Given
  | tagged (a : Alternative)
  | plain (text : String)
  /-- A value that is not text, and what it answers when it is asked how it starts. -/
  | other (typeName : String) (answer : Except Failure Alternative)
  deriving Repr

/-- A value that cannot be asked how it starts. -/
def Given.bare (typeName : String) : Given :=
  .other typeName (.error (.noAttribute typeName "startswith"))

def groupingMark : Char := '('

def Alternative.ofText (text : String) : Alternative :=
  if text.toList.head? = some groupingMark then .expression text else .phrase text

/-- The alternative that is meant. -/
def Given.classify : Given → Except Failure Alternative
  | tagged a => .ok a
  | plain text => .ok (.ofText text)
  | other _ answer => answer

def classifyAll : List Given → Except Failure (List Alternative)
  | [] => .ok []
  | g :: rest => do
    let a ← g.classify
    let more ← classifyAll rest
    return a :: more

end FormDialogue.Term
