import FormDialogue.Text.Words

/-! # Settings files

A settings file binds names to values, one binding on a line. Values stand in single quotes, in
double quotes with escapes, or bare; a bare value ends at a comment and is trimmed. A line that
cannot be read is skipped. A value may refer to earlier bindings and to the environment. -/

namespace FormDialogue.Settings.Dotenv
open Unicode (isBlank)

/-- The text with every end of a line, also inside quotes, written as a line feed. -/
def withLineFeeds : List Char → List Char
  | [] => []
  | '\r' :: '\n' :: rest => '\n' :: withLineFeeds rest
  | c :: rest => (if c = '\r' then '\n' else c) :: withLineFeeds rest

def isLineEnd (c : Char) : Bool := c = '\n'

def isLineBlank (c : Char) : Bool := isBlank c && !isLineEnd c

def dropLineEnd : List Char → List Char
  | c :: rest => if isLineEnd c then rest else c :: rest
  | [] => []

def dropLine (text : List Char) : List Char := dropLineEnd (text.dropWhile fun c => !isLineEnd c)

def exportWord : List Char := "export".toList

/-- The word that may stand before a name. -/
def dropExport (text : List Char) : List Char :=
  if exportWord.isPrefixOf text then
    let rest := text.drop exportWord.length
    if rest.head?.any isLineBlank then rest.dropWhile isLineBlank else text
  else text

def isNameChar (c : Char) : Bool := c != '=' && c != '#' && !isBlank c

/-- A reading failed at the rest of the text. -/
abbrev Reading (α : Type) := Except (List Char) (α × List Char)

/-- The name of a binding; a comment has none. -/
def readName (text : List Char) : Reading (Option (List Char)) :=
  match text with
  | '#' :: _ => .ok (none, text)
  | '\'' :: rest =>
    match rest.span (· != '\'') with
    | (name, _ :: behind) => if name.isEmpty then .error text else .ok (some name, behind)
    | (_, []) => .error text
  | _ =>
    let name := text.takeWhile isNameChar
    if name.isEmpty then .error text else .ok (some name, text.dropWhile isNameChar)

/-- The content up to the closing quote and the rest behind it. A backslash belongs to the character
behind it, which is on the same line. -/
def closing (quote : Char) (content : List Char) : List Char → Option (List Char × List Char)
  | [] => none
  | [c] => if c = quote then some (content.reverse, []) else none
  | c :: d :: rest =>
    if c = quote then some (content.reverse, d :: rest)
    else if c = '\\' then
      if isLineEnd d then none else closing quote (d :: c :: content) rest
    else closing quote (c :: content) (d :: rest)

/-- The character that a letter stands for behind a backslash. -/
def doubleEscape? : Char → Option Char
  | '\\' => some '\\'
  | '\'' => some '\''
  | '"' => some '"'
  | 'a' => some '\x07'
  | 'b' => some '\x08'
  | 'f' => some '\x0c'
  | 'n' => some '\n'
  | 'r' => some '\r'
  | 't' => some '\t'
  | 'v' => some '\x0b'
  | _ => none

def singleEscape? : Char → Option Char
  | '\\' => some '\\'
  | '\'' => some '\''
  | _ => none

def unescape (escape? : Char → Option Char) : List Char → List Char
  | [] => []
  | [c] => [c]
  | c :: d :: rest =>
    match if c = '\\' then escape? d else none with
    | some e => e :: unescape escape? rest
    | none => c :: unescape escape? (d :: rest)

/-- A bare value without its comment, which needs a blank before it. -/
def beforeComment : List Char → List Char
  | [] => []
  | c :: rest =>
    if isBlank c && (rest.dropWhile isBlank).head? = some '#' then [] else c :: beforeComment rest

def readQuoted (quote : Char) (escape? : Char → Option Char) (text rest : List Char) :
    Reading (List Char) :=
  match closing quote [] rest with
  | some (content, behind) => .ok (unescape escape? content, behind)
  | none => .error text

/-- The value behind an equals sign. The blanks before a bare value count for the comment. -/
def readValue (text : List Char) : Reading (List Char) :=
  match text.dropWhile isLineBlank with
  | '\'' :: rest => readQuoted '\'' singleEscape? ('\'' :: rest) rest
  | '"' :: rest => readQuoted '"' doubleEscape? ('"' :: rest) rest
  | _ =>
    let line := text.takeWhile fun c => !isLineEnd c
    .ok (Text.trim (beforeComment line), text.dropWhile fun c => !isLineEnd c)

def readAssigned (text : List Char) : Reading (Option (List Char)) :=
  match text with
  | '=' :: rest => (readValue rest).map fun v => (some v.1, v.2)
  | _ => .ok (none, text)

/-- The end of a binding: a comment may stand before it. -/
def readEnd (text : List Char) : Except (List Char) (List Char) :=
  let text :=
    if (text.dropWhile isLineBlank).head? = some '#' then text.dropWhile fun c => !isLineEnd c
    else text
  let rest := text.dropWhile isLineBlank
  if rest.head?.all isLineEnd then .ok (dropLineEnd rest) else .error text

structure Binding where
  name : List Char
  /-- A name alone binds nothing. -/
  value : Option (List Char)
  deriving DecidableEq, Repr

def readBinding (text : List Char) : Except (List Char) (Option Binding × List Char) := do
  let (name, text) ← readName (dropExport text)
  let (value, text) ← readAssigned (text.dropWhile isLineBlank)
  let text ← readEnd text
  return (name.map fun n => ⟨n, value⟩, text)

/-- The bindings of a text; every reading passes at least one character. -/
def readBindings : Nat → List Char → List Binding
  | 0, _ => []
  | fuel + 1, text =>
    match text.dropWhile isBlank with
    | [] => []
    | c :: rest =>
      match readBinding (c :: rest) with
      | .ok (some b, rest) => b :: readBindings fuel rest
      | .ok (none, rest) => readBindings fuel rest
      | .error rest => readBindings fuel (dropLine rest)

/-- Names with their values, no name twice. -/
abbrev Bound := List (List Char × Option (List Char))

/-- Binds a name, which keeps its place if it is bound already. -/
def bind (bound : Bound) (name : List Char) (value : Option (List Char)) : Bound :=
  if bound.any fun b => b.1 == name then
    bound.map fun b => if b.1 == name then (name, value) else b
  else bound ++ [(name, value)]

def lookup (bound : Bound) (name : List Char) : Option (Option (List Char)) :=
  (bound.find? fun b => b.1 == name).map Prod.snd

/-- A reference at the front: its name, its alternative text, and the rest behind it. -/
def readReference? (text : List Char) : Option (List Char × List Char × List Char) :=
  match text with
  | '$' :: '\x7b' :: rest =>
    let (name, rest) := rest.span fun c => c != '\x7d' && c != ':'
    match rest with
    | '\x7d' :: behind => some (name, [], behind)
    | ':' :: '-' :: rest =>
      match rest.span (· != '\x7d') with
      | (alternative, _ :: behind) => some (name, alternative, behind)
      | (_, []) => none
    | _ => none
  | _ => none

/-- The value with its references replaced; the fuel bounds their number. -/
def expand (bound : Bound) : Nat → List Char → List Char
  | 0, text => text
  | _ + 1, [] => []
  | fuel + 1, c :: rest =>
    match readReference? (c :: rest) with
    | some (name, alternative, behind) =>
      ((lookup bound name).getD (some alternative)).getD [] ++ expand bound fuel behind
    | none => c :: expand bound fuel rest

/-- Binds names in order. A value may refer to what is bound before it, and else to `outer`. -/
def bindAll (outer bound : Bound) : List Binding → Bound
  | [] => bound
  | b :: rest =>
    let value := b.value.map fun v => expand (bound ++ outer) (v.length + 1) v
    bindAll outer (bind bound b.name value) rest

/-- The names and values of a settings file under an environment, in the order of their first
bindings. -/
def read (environment : List (List Char × List Char)) (text : List Char) : Bound :=
  bindAll (environment.map fun e => (e.1, some e.2)) []
    (readBindings (text.length + 1) (withLineFeeds text))

end FormDialogue.Settings.Dotenv
