import FormDialogue.Regex.Basic
import FormDialogue.Regex.Token
import FormDialogue.Unicode.Letter

/-! # Flags written in an expression

The letters that switch flags at the head of a group. Flags before a closing parenthesis hold for
the whole expression; flags before a colon hold for one group, and a hyphen switches off those
behind it. -/

namespace FormDialogue.Regex

/-- The flag of a letter; the letter `L` names a flag that is never allowed. -/
def flag? : Char → Option Flags
  | 'i' => some { caseless := true }
  | 'm' => some { multiline := true }
  | 's' => some { dotAll := true }
  | 'x' => some { verbose := true }
  | 'a' => some { ascii := true }
  | 'u' => some { unicode := true }
  | 't' => some { bare := true }
  | 'L' => some {}
  | _ => none

def Token.flag? : Token → Option (Char × Flags)
  | .char c => (Regex.flag? c).map fun f => (c, f)
  | _ => none

def Token.isLetter : Token → Bool
  | .char c => Unicode.isLetter c
  | _ => false

/-- What the head of a group with flags says. -/
inductive FlagHead
  | whole (on : Flags)
  | one (on off : Flags)
  deriving Repr

/-- A token where a flag or one of some marks is expected. -/
def refuseFlag {α : Type} (t : Token) (what : String) (position : Nat) : Reading α :=
  if t.isLetter then refuse .unknownFlag (position - t.text.length)
  else refuse (.missing what) (position - t.text.length)

def readOff (on off : Flags) : Nat → Char × Flags → Source → Reading (FlagHead × Source)
  | 0, _, s => refuse (.missing ":") s.position
  | fuel + 1, (c, f), s =>
    if f.ascii || f.unicode || c = 'L' then refuse .offAlphabet s.position
    else do
      let off := off.union f
      match ← s.take with
      | (none, s) => refuse (.missing ":") s.position
      | (some t, s) =>
        if t.is ':' then
          if off.bare then refuse .offGlobalFlag (s.position - 1)
          else if on.meets off then refuse .onAndOff (s.position - 1)
          else return (.one on off, s)
        else
          match t.flag? with
          | some next => readOff on off fuel next s
          | none => refuseFlag t ":" s.position

/-- What follows the flags that are switched on; `mark` has been passed. -/
def endOn (on : Flags) (mark : Char) (s : Source) : Reading (FlagHead × Source) :=
  if mark = ')' then .ok (.whole on, s)
  else if on.bare then refuse .onGlobalFlag (s.position - 1)
  else if mark = '-' then do
    match ← s.take with
    | (none, s) => refuse (.missing "flag") s.position
    | (some t, s) =>
      match t.flag? with
      | some next => readOff on .none (s.rest.length + 1) next s
      | none => refuseFlag t "flag" s.position
  else .ok (.one on .none, s)

def readOn (on : Flags) : Nat → Char × Flags → Source → Reading (FlagHead × Source)
  | 0, _, s => refuse (.missing "-, : or )") s.position
  | fuel + 1, (c, f), s =>
    let on := on.union f
    if c = 'L' then refuse .localeFlag s.position
    else if (f.ascii || f.unicode) && on.ascii && on.unicode then refuse .alphabetFlags s.position
    else do
      match ← s.take with
      | (none, s) => refuse (.missing "-, : or )") s.position
      | (some t, s) =>
        match t with
        | .char ')' => endOn on ')' s
        | .char '-' => endOn on '-' s
        | .char ':' => endOn on ':' s
        | _ =>
          match t.flag? with
          | some next => readOn on fuel next s
          | none => refuseFlag t "-, : or )" s.position

end FormDialogue.Regex
