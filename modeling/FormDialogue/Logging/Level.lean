/-! # Levels

The severities of log lines. A level is a number, and the usual ones have names. -/

namespace FormDialogue.Logging

abbrev Level := Int

namespace Level

def debug : Level := 10
def info : Level := 20
def warning : Level := 30
def error : Level := 40
def critical : Level := 50

def name (level : Level) : String :=
  if level = 0 then "NOTSET"
  else if level = debug then "DEBUG"
  else if level = info then "INFO"
  else if level = warning then "WARNING"
  else if level = error then "ERROR"
  else if level = critical then "CRITICAL"
  else "Level " ++ toString level

end Level

/-- What the name of a level in the settings stands for. Some names are taken by texts and by other
things that are no levels. -/
inductive Meaning
  | level (number : Level)
  | word (text : String)
  | thing (shown : String)
  | rootLogger
  deriving DecidableEq, Repr

def plainLayout : String := "%(levelname)s:%(name)s:%(message)s"

def shownLayouts : String :=
  "\x7b'%': (<class 'logging.PercentStyle'>, '%(levelname)s:%(name)s:%(message)s'), " ++
    "'\x7b': (<class 'logging.StrFormatStyle'>, " ++
    "'\x7blevelname\x7d:\x7bname\x7d:\x7bmessage\x7d'), " ++
    "'$': (<class 'logging.StringTemplateStyle'>, " ++
    "'$\x7blevelname\x7d:$\x7bname\x7d:$\x7bmessage\x7d')\x7d"

def shownNames : String :=
  "\x7b50: 'CRITICAL', 40: 'ERROR', 30: 'WARNING', 20: 'INFO', 10: 'DEBUG', 0: 'NOTSET'\x7d"

def shownNumbers : String :=
  "\x7b'CRITICAL': 50, 'FATAL': 50, 'ERROR': 40, 'WARN': 30, 'WARNING': 30, 'INFO': 20, " ++
    "'DEBUG': 10, 'NOTSET': 0\x7d"

def classNames : List String :=
  ["BufferingFormatter", "FileHandler", "Filter", "Filterer", "Formatter", "Handler", "LogRecord",
    "Logger", "LoggerAdapter", "Manager", "NullHandler", "PercentStyle", "PlaceHolder",
    "RootLogger", "StrFormatStyle", "StreamHandler", "StringTemplateStyle", "_StderrHandler"]

def functionNames : List String :=
  ["_acquireLock", "_addHandlerRef", "_after_at_fork_child_reinit_locks", "_checkLevel",
    "_is_internal_frame", "_register_at_fork_reinit_lock", "_releaseLock", "_removeHandlerRef",
    "_showwarning", "addLevelName", "basicConfig", "captureWarnings", "critical", "currentframe",
    "debug", "disable", "error", "exception", "fatal", "getLevelName", "getLevelNamesMapping",
    "getLogRecordFactory", "getLogger", "getLoggerClass", "info", "log", "makeLogRecord",
    "setLogRecordFactory", "setLoggerClass", "shutdown", "warn", "warning"]

def moduleNames : List String :=
  ["atexit", "collections", "io", "os", "re", "sys", "threading", "time", "traceback", "warnings",
    "weakref"]

def levels : List (String × Level) :=
  [("DEBUG", .debug), ("INFO", .info), ("WARN", .warning), ("WARNING", .warning),
    ("ERROR", .error), ("CRITICAL", .critical), ("FATAL", .critical), ("NOTSET", 0),
    ("raiseExceptions", 1), ("logThreads", 1), ("logMultiprocessing", 1), ("logProcesses", 1)]

def words : List (String × String) :=
  [("BASIC_FORMAT", plainLayout), ("__name__", "logging"), ("__package__", "logging"),
    ("__status__", "production"), ("__version__", "0.5.1.2"), ("__date__", "07 February 2010")]

/-- The names that other things have, with what they are shown as. Functions and modules are shown
with the place where they are kept, which is left open here. -/
def things : List (String × String) :=
  [("_STYLES", shownLayouts), ("_levelToName", shownNames), ("_nameToLevel", shownNumbers),
    ("_loggerClass", "<class 'logging.Logger'>"),
    ("_logRecordFactory", "<class 'logging.LogRecord'>"),
    ("lastResort", "<_StderrHandler <stderr> (WARNING)>"),
    ("_defaultLastResort", "<_StderrHandler <stderr> (WARNING)>"),
    ("_warnings_showwarning", "None"), ("__class__", "<class 'module'>"),
    ("GenericAlias", "<class 'types.GenericAlias'>"), ("Template", "<class 'string.Template'>")] ++
    classNames.map (fun name => (name, "<class 'logging." ++ name ++ "'>")) ++
    functionNames.map (fun name => (name, "<function " ++ name ++ ">")) ++
    moduleNames.map fun name => (name, "<module '" ++ name ++ "'>")

/-- The meaning of a name. Unknown names stand for the informative level. -/
def Meaning.ofName (name : String) : Meaning :=
  if name = "root" then rootLogger
  else
    match levels.lookup name, words.lookup name, things.lookup name with
    | some number, _, _ => level number
    | _, some text, _ => word text
    | _, _, some shown => thing shown
    | none, none, none => level .info

end FormDialogue.Logging
