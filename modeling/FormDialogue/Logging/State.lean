import FormDialogue.Failure
import FormDialogue.Logging.Level

/-! # Where log lines go

Loggers form a tree by their dotted names. A line is let through by the level of the nearest logger
above it that has one. A record of it is made, which names its level, and every outlet of the root
whose level it reaches writes that. The plain set-up adds an outlet only if there is none; the full
set-up replaces all outlets. -/

namespace FormDialogue.Logging

/-- Where lines are written: the console or a file. -/
structure Outlet where
  file : Option String
  level : Level
  deriving DecidableEq, Repr

/-- The parts of the dotted name of a logger. -/
abbrev LoggerPath := List String

structure State where
  rootLevel : Level
  outlets : List Outlet
  /-- Levels that loggers were given, the latest first. -/
  levels : List (LoggerPath × Level)
  deriving DecidableEq, Repr

structure Line where
  logger : String
  level : Level
  text : String
  deriving DecidableEq, Repr

/-- The parts of a name between dots. -/
def pathFrom (part : List Char) : List Char → LoggerPath
  | [] => [String.ofList part.reverse]
  | c :: rest =>
    if c = '.' then String.ofList part.reverse :: pathFrom [] rest else pathFrom (c :: part) rest

/-- The path of a logger. Names of loggers have no empty parts here: a logger such as `a..b` has
fewer loggers above it than this path says. -/
def pathOf (name : String) : LoggerPath :=
  if name.isEmpty || name == "root" then [] else pathFrom [] name.toList

def shownLogger (name : String) : String := if name.isEmpty then "root" else name

def Line.isBelow (l : Line) (logger : String) : Bool := (pathOf logger).isPrefixOf (pathOf l.logger)

namespace State

def initial : State := ⟨.warning, [], []⟩

instance : Inhabited State := ⟨initial⟩

def ownLevel (s : State) (path : LoggerPath) : Level :=
  ((s.levels.find? fun l => l.1 == path).map Prod.snd).getD 0

/-- The level of the nearest logger with one, from the leaf up; `reversed` is the path from the
leaf. -/
def levelAbove (s : State) : (reversed : List String) → Level
  | [] => s.rootLevel
  | part :: outer =>
    let own := s.ownLevel (part :: outer).reverse
    if own = 0 then s.levelAbove outer else own

def effectiveLevel (s : State) (logger : String) : Level := s.levelAbove (pathOf logger).reverse

def setLevel (s : State) (logger : String) (level : Level) : State :=
  { s with levels := (pathOf logger, level) :: s.levels }

/-- Whether a line is let through. Lines without a positive level never are. -/
def lets (s : State) (l : Line) : Bool := 0 < l.level && s.effectiveLevel l.logger ≤ l.level

/-- The places where a line is written, outlet by outlet. There is no record of a line whose level is
too long to be named. -/
def log [Limits] (s : State) (l : Line) : Except Failure (List (Option String)) :=
  if s.lets l then
    match Limits.unwritten? l.level with
    | some limit => .error (.longNumber limit)
    | none => .ok ((s.outlets.filter fun o => o.level ≤ l.level).map Outlet.file)
  else .ok []

/-- How often a place shows a line. A line that fails is shown nowhere. -/
def copies [Limits] (s : State) (place : Option String) (l : Line) : Nat :=
  match s.log l with
  | .ok places => places.count place
  | .error _ => 0

/-- What a place shows of lines that are logged one after the other. -/
def shown [Limits] (s : State) (place : Option String) (lines : List Line) : List Line :=
  lines.flatMap fun l => List.replicate (s.copies place l) l

def withOutlet (s : State) : State :=
  if s.outlets.isEmpty then { s with outlets := [⟨none, 0⟩] } else s

/-- The lines for a logger and those below it that get through when that logger lets all lines with
the lowest named level through. -/
def overheard (s : State) (logger : String) (lines : List Line) : List Line :=
  let listening := s.setLevel logger .debug
  lines.filter fun l => l.isBelow logger && listening.lets l

/-- The plain set-up for a logger of its own. A meaning that is no level is refused, but an outlet
that was missing is there afterwards. -/
def configure (s : State) (own : String) : Meaning → State × Except Failure Unit
  | .level level =>
    let s := if s.outlets.isEmpty then { s.withOutlet with rootLevel := level } else s
    (s.setLevel own level, .ok ())
  | .word text => (s.withOutlet, .error (.unknownLevel (Text.quote text)))
  | .thing shown => (s.withOutlet, .error (.notLevel shown))
  | .rootLogger =>
    (s.withOutlet, .error (.notLevel ("<RootLogger root (" ++ s.rootLevel.name ++ ")>")))

/-- The level of the full set-up: only the lowest and the informative one are told apart. -/
def setupLevel (name : String) : Level := if name = "DEBUG" then .debug else .info

/-- The full set-up starts with the console. -/
def setupConsole (s : State) (level : Level) : State :=
  { s with rootLevel := level, outlets := [⟨none, level⟩] }

def addFile (s : State) (path : String) : State :=
  { s with outlets := s.outlets ++ [⟨some path, s.rootLevel⟩] }

end State

def Outlet.layout (o : Outlet) : String :=
  if o.file.isSome then
    "%(asctime)s | %(levelname)-8s | %(name)s:%(lineno)d | %(message)s"
  else "%(asctime)s | %(levelname)-8s | %(message)s"

def dateLayout : String := "%Y-%m-%d %H:%M:%S"

/-- The name of a level as a column of eight characters. -/
def Level.column (level : Level) : String :=
  let name := level.name
  name ++ String.ofList (List.replicate (8 - name.length) ' ')

end FormDialogue.Logging
