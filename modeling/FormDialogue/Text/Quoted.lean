import FormDialogue.Unicode.Printable

/-! # Quoted text

A text between quotes, as shown in messages. Single quotes are preferred; double quotes are used
for a text that holds single quotes and no double ones. The quote in use and the backslash are
escaped, tab, newline and return have short escapes, and other characters that are not printable
are written as two, four or eight hexadecimal digits. -/

namespace FormDialogue.Text
open Unicode (isPrintable)

def hexDigit (n : Nat) : Char := Nat.digitChar (n % 16)

/-- The lowest `width` hexadecimal digits, most significant first. -/
def hexDigits : (width : Nat) → Nat → List Char
  | 0, _ => []
  | width + 1, n => hexDigits width (n / 16) ++ [hexDigit n]

def escapeCode (c : Char) : List Char :=
  let n := c.toNat
  if n < 0x100 then '\\' :: 'x' :: hexDigits 2 n
  else if n < 0x10000 then '\\' :: 'u' :: hexDigits 4 n
  else '\\' :: 'U' :: hexDigits 8 n

/-- One character inside quotes; `shown` tells which characters stand for themselves. -/
def quotedChar (shown : Char → Bool) (quote c : Char) : List Char :=
  if c = quote || c = '\\' then ['\\', c]
  else if c = '\t' then ['\\', 't']
  else if c = '\n' then ['\\', 'n']
  else if c = '\r' then ['\\', 'r']
  else if shown c then [c]
  else escapeCode c

def quoteFor (text : List Char) : Char :=
  if text.contains '\'' && !text.contains '"' then '"' else '\''

def quotedBy (shown : Char → Bool) (text : List Char) : List Char :=
  let quote := quoteFor text
  quote :: text.flatMap (quotedChar shown quote) ++ [quote]

def quoted (text : List Char) : List Char := quotedBy isPrintable text

def isPlain (c : Char) : Bool := 0x20 ≤ c.toNat && c.toNat < 0x7F

/-- The quoted text with only the printable characters of the basic alphabet as they are. -/
def quotedPlain (text : List Char) : List Char := quotedBy isPlain text

def quote (text : String) : String := String.ofList (quoted text.toList)

end FormDialogue.Text
