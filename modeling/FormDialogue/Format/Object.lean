import FormDialogue.Format.Class
import FormDialogue.Format.Operand
import FormDialogue.Text.Join

/-! # Objects

The things that formats usually reach: classes and their routines, by themselves or of an object. A
routine of an object is shown with the address of that object, which only the surroundings know. The
descriptions of routines and the layout of classes are left out. -/

namespace FormDialogue.Format

inductive Object
  | nothing
  | ofClass (c : Class)
  | classes (items : List Class)
  | routine (r : Routine)
  /-- A routine of an object. -/
  | bound (r : Routine) (owner : Operand Object)
  /-- A class with the number or the text that stands in brackets behind it. -/
  | indexed (c : Class) (item : Operand Empty)

namespace Object

def classOf : Object → Class
  | nothing => .nothing
  | ofClass _ => .kind
  | classes _ => .tuple
  | routine r => r.sort.ofClass
  | bound r _ => if r.sort = .slot then .boundSlot else .boundMethod
  | indexed .. => .indexed

end Object

def Operand.classOf : Operand Object → Class
  | number _ => .number
  | text _ => .text
  | thing o => o.classOf

namespace Object
open Operand (classOf number text thing)

section
variable (address : Operand Object → Nat)

def shownBound (r : Routine) (owner : Operand Object) : List Char :=
  let place := owner.classOf.name ++ " object at 0x" ++
    String.ofList (Nat.toDigits 16 (address owner)) ++ ">"
  if r.sort = .slot then ("<method-wrapper '" ++ r.name ++ "' of " ++ place).toList
  else ("<built-in method " ++ r.name ++ " of " ++ place).toList

/-- The object as it is shown; `quote` writes texts. -/
def shownBy (quote : List Char → List Char) : Object → List Char
  | nothing => "None".toList
  | ofClass c => c.shown
  | classes [c] => '(' :: c.shown ++ [',', ')']
  | classes cs => '(' :: Text.separated (cs.map Class.shown) ++ [')']
  | routine r => r.shown
  | bound r owner => shownBound address r owner
  | indexed c (.number n) => c.name.toList ++ '[' :: Number.decimalDigits n ++ [']']
  | indexed c (.text t) => c.name.toList ++ '[' :: quote t ++ [']']

end

def ofText (s : String) : Operand Object := text s.toList

def ofText? (s : Option String) : Operand Object := (s.map ofText).getD (thing nothing)

def ofKind (c : Class) : Operand Object := thing (ofClass c)

/-- A routine under its name in a class or an object, the owner. -/
def access (r : Routine) (owner : Operand Object) (c : Class) : Operand Object :=
  match r.sort with
  | .slot | .method | .field | .member => thing (bound r owner)
  | .classMethod => thing (bound r (ofKind c))
  | .shared => thing (bound r (ofKind r.owner))

/-- An attribute that an object has from its class. -/
def inherited (o : Operand Object) (name : String) : Result (Operand Object) :=
  match o.classOf.routine? name with
  | some r => .ok (access r o o.classOf)
  | none => .error (.noAttribute o.classOf.name name.toList)

/-- A routine of the objects of a class stands for itself there. -/
def ofRoutine (r : Routine) (c : Class) : Operand Object :=
  match r.sort with
  | .slot | .method | .field | .member => thing (routine r)
  | .classMethod | .shared => access r (ofKind c) c

/-- An attribute of a class: of the class itself, of its objects, or of classes as objects. -/
def classAttribute (c : Class) (name : String) : Result (Operand Object) :=
  match name with
  | "__name__" | "__qualname__" => .ok (ofText c.name)
  | "__module__" => .ok (ofText "builtins")
  | "__bases__" => .ok (thing (classes (c.line.drop 1)))
  | "__mro__" => .ok (thing (classes c.line))
  | "__base__" => .ok (if c = .object then thing nothing else ofKind .object)
  | "__abstractmethods__" => .error (.bareAttribute name)
  | "__annotations__" => .error (.noClassAttribute c.name name.toList)
  | _ =>
    match c.routine? name, Class.kind.routine? name with
    | some r, _ => .ok (ofRoutine r c)
    | none, some r => .ok (access r (ofKind c) .kind)
    | none, none => .error (.noClassAttribute c.name name.toList)

def partOfThing (o : Object) (name : String) : Result (Operand Object) :=
  match o, name with
  | ofClass c, "__doc__" => .ok (ofText? c.description?)
  | _, "__doc__" => .ok (ofText? o.classOf.description?)
  | indexed .., "__reduce__" | indexed .., "__reduce_ex__" => inherited (thing o) name
  | ofClass c, _ | indexed c _, _ => classAttribute c name
  | routine r, "__name__" | bound r _, "__name__" => .ok (ofText r.name)
  | routine r, "__objclass__" => .ok (ofKind r.owner)
  | routine r, "__qualname__" => .ok (ofText (r.owner.name ++ "." ++ r.name))
  | bound r owner, "__objclass__" =>
    if r.sort = .slot then .ok (ofKind r.owner) else inherited (thing (bound r owner)) name
  | bound r owner, "__module__" =>
    if r.sort = .slot then inherited (thing (bound r owner)) name else .ok (thing nothing)
  -- A routine that is shared belongs to no object, unless it makes one.
  | bound r owner, "__self__" =>
    .ok (if r.sort = .shared && r.name != "__new__" then thing nothing else owner)
  | bound r (.thing (ofClass c)), "__qualname__" => .ok (ofText (c.name ++ "." ++ r.name))
  | bound r owner, "__qualname__" =>
    .ok (ofText ((if r.sort = .slot then r.owner else owner.classOf).name ++ "." ++ r.name))
  | _, _ => inherited (thing o) name

/-- The part of an operand under the name of an attribute. -/
def part (o : Operand Object) (path : List Char) : Result (Operand Object) :=
  let name := String.ofList path
  match o, name with
  | _, "__class__" => .ok (ofKind o.classOf)
  | thing t, _ => t.partOfThing name
  | number n, "real" | number n, "numerator" => .ok (number n)
  | number _, "imag" => .ok (number 0)
  | number _, "denominator" => .ok (number 1)
  | _, "__doc__" => .ok (ofText? o.classOf.description?)
  | _, _ => inherited o name

/-- The item of an object in brackets: at a position, or under the name. -/
def item (o : Object) (name : List Char) (index : Option Nat) : Result (Operand Object) :=
  match o, index with
  | classes cs, some i =>
    match cs[i]? with
    | some c => .ok (ofKind c)
    | none => .error .tupleRange
  | classes _, none => .error .tupleTextIndex
  | ofClass c, _ =>
    if c = .tuple || c = .kind then
      .ok (thing (indexed c ((index.map Operand.number).getD (.text name))))
    else .error (.classNotSubscriptable c.name)
  | _, _ => .error (.notSubscriptable o.classOf.name)

/-- The objects that are kept at the addresses. -/
@[reducible] def things (address : Operand Object → Nat) : Things where
  Thing := Object
  part := part
  item := item
  shown := shownBy address Text.quoted
  quoted := shownBy address Text.quoted
  quotedPlain := shownBy address Text.quotedPlain
  write o spec :=
    if spec.isEmpty then .ok (o.shownBy address Text.quoted)
    else .error (.noSpec o.classOf.name)

end Object

instance : Things := Object.things fun _ => 0

end FormDialogue.Format
