/-! # Classes

The classes that operands of a format and their parts belong to: a class has a name, a description,
and names of routines. Some of them belong to its objects, others to the class and those derived
from it, or to nothing but the class that has them. Every class but the most general one is derived
from that one alone. -/

namespace FormDialogue.Format

inductive Class
  | number
  | text
  | tuple
  | nothing
  /-- The most general class. -/
  | object
  /-- The class of classes. -/
  | kind
  | slot
  | method
  | classMethod
  | field
  | member
  | boundSlot
  | boundMethod
  | indexed
  deriving DecidableEq, Repr

namespace Class

def name : Class → String
  | number => "int"
  | text => "str"
  | tuple => "tuple"
  | nothing => "NoneType"
  | object => "object"
  | kind => "type"
  | slot => "wrapper_descriptor"
  | method => "method_descriptor"
  | classMethod => "classmethod_descriptor"
  | field => "getset_descriptor"
  | member => "member_descriptor"
  | boundSlot => "method-wrapper"
  | boundMethod => "builtin_function_or_method"
  | indexed => "types.GenericAlias"

def shown (c : Class) : List Char := ("<class '" ++ c.name ++ "'>").toList

def description? : Class → Option String
  | number => some (
    "int([x]) -> integer\nint(x, base=10) -> integer\n\n" ++
    "Convert a number or string to an integer, or return 0 if no arguments\n" ++
    "are given.  If x is a number, return x.__int__().  For floating point\n" ++
    "numbers, this truncates towards zero.\n\n" ++
    "If x is not a number or if base is given, then x must be a string,\n" ++
    "bytes, or bytearray instance representing an integer literal in the\n" ++
    "given base.  The literal can be preceded by '+' or '-' and be surrounded\n" ++
    "by whitespace.  The base defaults to 10.  Valid bases are 0 and 2-36.\n" ++
    "Base 0 means to interpret the base from the string as an integer literal.\n" ++
    ">>> int('0b100', base=0)\n4")
  | text => some (
    "str(object='') -> str\nstr(bytes_or_buffer[, encoding[, errors]]) -> str\n\n" ++
    "Create a new string object from the given object. If encoding or\n" ++
    "errors is specified, then the object must expose a data buffer\n" ++
    "that will be decoded using the given encoding and error handler.\n" ++
    "Otherwise, returns the result of object.__str__() (if defined)\nor repr(object).\n" ++
    "encoding defaults to sys.getdefaultencoding().\nerrors defaults to 'strict'.")
  | tuple => some (
    "Built-in immutable sequence.\n\n" ++
    "If no argument is given, the constructor returns an empty tuple.\n" ++
    "If iterable is specified the tuple is initialized from iterable's items.\n\n" ++
    "If the argument is a tuple, the return value is the same object.")
  | object => some (
    "The base class of the class hierarchy.\n\n" ++
    "When called, it accepts no arguments and returns a new featureless\n" ++
    "instance that has no instance attributes and cannot be given any.\n")
  | kind => some (
    "type(object) -> the object's type\ntype(name, bases, dict, **kwds) -> a new type")
  | _ => none

def slots : Class → List String
  | number =>
    ["__repr__", "__hash__", "__getattribute__", "__lt__", "__le__", "__eq__", "__ne__", "__gt__",
      "__ge__", "__add__", "__radd__", "__sub__", "__rsub__", "__mul__", "__rmul__", "__mod__",
      "__rmod__", "__divmod__", "__rdivmod__", "__pow__", "__rpow__", "__neg__", "__pos__",
      "__abs__", "__bool__", "__invert__", "__lshift__", "__rlshift__", "__rshift__", "__rrshift__",
      "__and__", "__rand__", "__xor__", "__rxor__", "__or__", "__ror__", "__int__", "__float__",
      "__floordiv__", "__rfloordiv__", "__truediv__", "__rtruediv__", "__index__"]
  | text =>
    ["__repr__", "__hash__", "__str__", "__getattribute__", "__lt__", "__le__", "__eq__", "__ne__",
      "__gt__", "__ge__", "__iter__", "__mod__", "__rmod__", "__len__", "__getitem__", "__add__",
      "__mul__", "__rmul__", "__contains__"]
  | tuple =>
    ["__repr__", "__hash__", "__getattribute__", "__lt__", "__le__", "__eq__", "__ne__", "__gt__",
      "__ge__", "__iter__", "__len__", "__getitem__", "__add__", "__mul__", "__rmul__",
      "__contains__"]
  | nothing => ["__repr__", "__bool__"]
  | object =>
    ["__repr__", "__hash__", "__str__", "__getattribute__", "__setattr__", "__delattr__", "__lt__",
      "__le__", "__eq__", "__ne__", "__gt__", "__ge__", "__init__"]
  | kind =>
    ["__repr__", "__call__", "__getattribute__", "__setattr__", "__delattr__", "__init__", "__or__",
      "__ror__"]
  | slot | method | classMethod => ["__repr__", "__call__", "__getattribute__", "__get__"]
  | field | member => ["__repr__", "__getattribute__", "__get__", "__set__", "__delete__"]
  | boundSlot | boundMethod =>
    ["__repr__", "__hash__", "__call__", "__getattribute__", "__lt__", "__le__", "__eq__", "__ne__",
      "__gt__", "__ge__"]
  | indexed =>
    ["__repr__", "__hash__", "__call__", "__getattribute__", "__lt__", "__le__", "__eq__", "__ne__",
      "__gt__", "__ge__", "__iter__", "__or__", "__ror__", "__getitem__"]

def methods : Class → List String
  | number =>
    ["conjugate", "bit_length", "bit_count", "to_bytes", "as_integer_ratio", "__trunc__",
      "__floor__", "__ceil__", "__round__", "__getnewargs__", "__format__", "__sizeof__"]
  | text =>
    ["encode", "replace", "split", "rsplit", "join", "capitalize", "casefold", "title", "center",
      "count", "expandtabs", "find", "partition", "index", "ljust", "lower", "lstrip", "rfind",
      "rindex", "rjust", "rstrip", "rpartition", "splitlines", "strip", "swapcase", "translate",
      "upper", "startswith", "endswith", "removeprefix", "removesuffix", "isascii", "islower",
      "isupper", "istitle", "isspace", "isdecimal", "isdigit", "isnumeric", "isalpha", "isalnum",
      "isidentifier", "isprintable", "zfill", "format", "format_map", "__format__", "__sizeof__",
      "__getnewargs__"]
  | tuple => ["__getnewargs__", "index", "count"]
  | object => ["__reduce_ex__", "__reduce__", "__getstate__", "__format__", "__sizeof__", "__dir__"]
  | kind => ["mro", "__subclasses__", "__instancecheck__", "__subclasscheck__", "__dir__",
      "__sizeof__"]
  | slot | method | member | boundSlot | boundMethod => ["__reduce__"]
  | indexed =>
    ["__mro_entries__", "__instancecheck__", "__subclasscheck__", "__reduce__", "__dir__"]
  | nothing | classMethod | field => []

/-- The routines that a class and those derived from it have. -/
def classMethods : Class → List String
  | number => ["from_bytes"]
  | tuple => ["__class_getitem__"]
  | object => ["__subclasshook__", "__init_subclass__"]
  | kind => ["__prepare__"]
  | _ => []

/-- The routines that belong to the class alone. -/
def sharedRoutines : Class → List String
  | number | tuple | nothing | object | kind | indexed => ["__new__"]
  | text => ["__new__", "maketrans"]
  | _ => []

def fields : Class → List String
  | number => ["real", "imag", "numerator", "denominator"]
  | object => ["__class__"]
  | kind =>
    ["__name__", "__qualname__", "__bases__", "__module__", "__abstractmethods__", "__dict__",
      "__doc__", "__text_signature__", "__annotations__"]
  | _ => []

def members : Class → List String
  | kind =>
    ["__basicsize__", "__itemsize__", "__flags__", "__weakrefoffset__", "__base__",
      "__dictoffset__", "__mro__"]
  | _ => []

end Class

/-- What a name of a class stands for. -/
inductive RoutineSort
  | slot
  | method
  | classMethod
  | shared
  | field
  | member
  deriving DecidableEq, Repr

def RoutineSort.ofClass : RoutineSort → Class
  | slot => .slot
  | method => .method
  | classMethod => .classMethod
  | shared => .boundMethod
  | field => .field
  | member => .member

structure Routine where
  sort : RoutineSort
  owner : Class
  name : String
  deriving DecidableEq, Repr

namespace Routine

def label : RoutineSort → String
  | .slot => "slot wrapper"
  | .method | .classMethod | .shared => "method"
  | .field => "attribute"
  | .member => "member"

def shown (r : Routine) : List Char :=
  ("<" ++ label r.sort ++ " '" ++ r.name ++ "' of '" ++ r.owner.name ++ "' objects>").toList

end Routine

namespace Class

def ownRoutine? (c : Class) (name : String) : Option Routine :=
  if c.slots.contains name then some ⟨.slot, c, name⟩
  else if c.methods.contains name then some ⟨.method, c, name⟩
  else if c.classMethods.contains name then some ⟨.classMethod, c, name⟩
  else if c.sharedRoutines.contains name then some ⟨.shared, c, name⟩
  else if c.fields.contains name then some ⟨.field, c, name⟩
  else if c.members.contains name then some ⟨.member, c, name⟩
  else none

/-- The classes that a class is derived from, itself first. -/
def line (c : Class) : List Class := if c = object then [object] else [c, object]

def routine? (c : Class) (name : String) : Option Routine := c.line.findSome? (·.ownRoutine? name)

end Class

end FormDialogue.Format
