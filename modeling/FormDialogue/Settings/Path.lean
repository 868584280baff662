/-! # Paths

A path in its plain form: no empty and no single-dot parts, and no separator at the end. Two
separators in front are kept; one, or more than two, are one. -/

namespace FormDialogue.Settings

def pathParts (part : List Char) : List Char → List (List Char)
  | [] => [part.reverse]
  | c :: rest =>
    if c = '/' then part.reverse :: pathParts [] rest else pathParts (c :: part) rest

def pathRoot (path : List Char) : List Char :=
  match (path.takeWhile (· == '/')).length with
  | 0 => []
  | 2 => ['/', '/']
  | _ => ['/']

def isPlainPart (part : List Char) : Bool := !part.isEmpty && part != ['.']

def joinParts : List (List Char) → List Char
  | [] => []
  | [part] => part
  | part :: rest => part ++ '/' :: joinParts rest

def plainPath (path : String) : String :=
  let plain := pathRoot path.toList ++ joinParts ((pathParts [] path.toList).filter isPlainPart)
  if plain.isEmpty then "." else String.ofList plain

end FormDialogue.Settings
