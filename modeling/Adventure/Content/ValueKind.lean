import Adventure.Content

/-!
# The kinds of values that messages are filled with

* `Barrier`: what keeps a file from being written;
* `ValueKind`: the kinds of values, with their names, descriptions and lineage;
* `Content.kind`: the kind of a content.

A message may ask a value for its kind, and the kind for its name and its description.
-/

namespace Adventure

/-! ## 1. Barriers -/

/-- What keeps a file from being written. -/
inductive Barrier where
  | notFound
  | notDirectory
  | isDirectory
  | nameTooLong
deriving DecidableEq, Repr

namespace Barrier

/-- The number of a barrier. -/
def number : Barrier → Int
  | .notFound => 2
  | .notDirectory => 20
  | .isDirectory => 21
  | .nameTooLong => 36

/-- A barrier in words. -/
def reason : Barrier → String
  | .notFound => "No such file or directory"
  | .notDirectory => "Not a directory"
  | .isDirectory => "Is a directory"
  | .nameTooLong => "File name too long"

end Barrier

/-! ## 2. Kinds -/

/-- The kinds of values. -/
inductive ValueKind where
  | nothing
  | truth
  | whole
  | float
  | text
  | place
  | list
  | mapping
  | tuple
  /-- A file that is not there. -/
  | fileMissing
  /-- A file in the place of a directory. -/
  | fileNotDirectory
  /-- A directory in the place of a file. -/
  | fileIsDirectory
  /-- Whatever keeps a file from being used. -/
  | fileFault
  /-- Whatever goes wrong in a program. -/
  | failure
  /-- Whatever makes a program stop. -/
  | interruption
  /-- A method or a maker that has been taken from a value or a kind. -/
  | boundMethod
  /-- An operator that has been taken from a value. -/
  | boundOperator
  | operator
  | method
  | attribute
  | member
  | kindMethod
  /-- A kind that has been given an index. -/
  | special
  /-- All that a kind itself gives to its values. -/
  | register
  /-- The kind of the kinds themselves. -/
  | kind
  /-- The kind that all others are kinds of. -/
  | anything
deriving DecidableEq, Repr

namespace ValueKind

/-- The name of a kind. -/
def name : ValueKind → String
  | .nothing => "NoneType"
  | .truth => "bool"
  | .whole => "int"
  | .float => "float"
  | .text => "str"
  | .place => "LocationTag"
  | .list => "list"
  | .mapping => "dict"
  | .tuple => "tuple"
  | .fileMissing => "FileNotFoundError"
  | .fileNotDirectory => "NotADirectoryError"
  | .fileIsDirectory => "IsADirectoryError"
  | .fileFault => "OSError"
  | .failure => "Exception"
  | .interruption => "BaseException"
  | .boundMethod => "builtin_function_or_method"
  | .boundOperator => "method-wrapper"
  | .operator => "wrapper_descriptor"
  | .method => "method_descriptor"
  | .attribute => "getset_descriptor"
  | .member => "member_descriptor"
  | .kindMethod => "classmethod_descriptor"
  | .special => "GenericAlias"
  | .register => "mappingproxy"
  | .kind => "type"
  | .anything => "object"

/-- Where a kind comes from. -/
def home : ValueKind → String
  | .special => "types"
  | _ => "builtins"

/-- What a kind says of itself, if it says anything. -/
def description? : ValueKind → Option String
  | .nothing => none
  | .truth => some <|
    "bool(x) -> bool\n\nReturns True when the argument x is true, False otherwise.\n" ++
    "The builtins True and False are the only two instances of the class bool.\n" ++
    "The class bool is a subclass of the class int, and cannot be subclassed."
  | .whole => some <|
    "int([x]) -> integer\nint(x, base=10) -> integer\n\n" ++
    "Convert a number or string to an integer, or return 0 if no arguments\n" ++
    "are given.  If x is a number, return x.__int__().  For floating point\n" ++
    "numbers, this truncates towards zero.\n\n" ++
    "If x is not a number or if base is given, then x must be a string,\n" ++
    "bytes, or bytearray instance representing an integer literal in the\n" ++
    "given base.  The literal can be preceded by '+' or '-' and be surrounded\n" ++
    "by whitespace.  The base defaults to 10.  Valid bases are 0 and 2-36.\n" ++
    "Base 0 means to interpret the base from the string as an integer literal.\n" ++
    ">>> int('0b100', base=0)\n4"
  | .float => some "Convert a string or number to a floating point number, if possible."
  | .text => some <|
    "str(object='') -> str\nstr(bytes_or_buffer[, encoding[, errors]]) -> str\n\n" ++
    "Create a new string object from the given object. If encoding or\n" ++
    "errors is specified, then the object must expose a data buffer\n" ++
    "that will be decoded using the given encoding and error handler.\n" ++
    "Otherwise, returns the result of object.__str__() (if defined)\n" ++
    "or repr(object).\n" ++
    "encoding defaults to sys.getdefaultencoding().\nerrors defaults to 'strict'."
  | .place => none
  | .list => some <|
    "Built-in mutable sequence.\n\n" ++
    "If no argument is given, the constructor creates a new empty list.\n" ++
    "The argument must be an iterable if specified."
  | .mapping => some <|
    "dict() -> new empty dictionary\n" ++
    "dict(mapping) -> new dictionary initialized from a mapping object's\n" ++
    "    (key, value) pairs\n" ++
    "dict(iterable) -> new dictionary initialized as if via:\n" ++
    "    d = \x7b\x7d\n    for k, v in iterable:\n        d[k] = v\n" ++
    "dict(**kwargs) -> new dictionary initialized with the name=value pairs\n" ++
    "    in the keyword argument list.  For example:  dict(one=1, two=2)"
  | .tuple => some <|
    "Built-in immutable sequence.\n\n" ++
    "If no argument is given, the constructor returns an empty tuple.\n" ++
    "If iterable is specified the tuple is initialized from iterable's items.\n\n" ++
    "If the argument is a tuple, the return value is the same object."
  | .fileMissing => some "File not found."
  | .fileNotDirectory => some "Operation only works on directories."
  | .fileIsDirectory => some "Operation doesn't work on directories."
  | .fileFault => some "Base class for I/O related errors."
  | .failure => some "Common base class for all non-exit exceptions."
  | .interruption => some "Common base class for all exceptions"
  | .special => some <|
    "Represent a PEP 585 generic type\n\n" ++
    "E.g. for t = list[int], t.__origin__ is list and t.__args__ is (int,)."
  | .boundMethod => none
  | .boundOperator => none
  | .operator => none
  | .method => none
  | .attribute => none
  | .member => none
  | .kindMethod => none
  | .register => none
  | .kind => some <|
    "type(object) -> the object's type\ntype(name, bases, dict, **kwds) -> a new type"
  | .anything => some <|
    "The base class of the class hierarchy.\n\n" ++
    "When called, it accepts no arguments and returns a new featureless\n" ++
    "instance that has no instance attributes and cannot be given any.\n"

/-- The kinds that all values of a kind have too, from the closest one on. -/
def parents : ValueKind → List ValueKind
  | .anything => []
  | .truth => [.whole, .anything]
  | .fileMissing => [.fileFault, .failure, .interruption, .anything]
  | .fileNotDirectory => [.fileFault, .failure, .interruption, .anything]
  | .fileIsDirectory => [.fileFault, .failure, .interruption, .anything]
  | .fileFault => [.failure, .interruption, .anything]
  | .failure => [.interruption, .anything]
  | _ => [.anything]

/-- A kind in a message. -/
def shown (k : ValueKind) : String :=
  "<class '" ++ (if k.home = "builtins" then "" else k.home ++ ".") ++ k.name ++ "'>"

/-- What a kind says of its making, if it says anything. -/
def signature? : ValueKind → Option String
  | .anything => some "()"
  | .float => some "(x=0, /)"
  | .list => some "(iterable=(), /)"
  | .tuple => some "(iterable=(), /)"
  | _ => none

/-- The measures of a kind: the size of a value and of its elements, a number that stands for its
    abilities, and where a value keeps what refers to it and what it is given besides. -/
def measures : ValueKind → Nat × Nat × Nat × Nat × Nat
  | .anything => (16, 0, 529664, 0, 0)
  | .kind => (904, 40, 2148031744, 368, 264)
  | .nothing => (16, 0, 528640, 0, 0)
  | .truth => (32, 4, 21500160, 0, 0)
  | .whole => (24, 4, 21501184, 0, 0)
  | .float => (24, 0, 4199680, 0, 0)
  | .text => (80, 0, 273159424, 0, 0)
  | .list => (40, 0, 38294816, 0, 0)
  | .mapping => (48, 0, 541611328, 0, 0)
  | .tuple => (24, 8, 71849248, 0, 0)
  | .interruption => (72, 0, 1074287872, 0, 16)
  | .failure => (72, 0, 1074287872, 0, 16)
  | .fileFault => (112, 0, 1074287872, 0, 16)
  | .fileMissing => (112, 0, 1073763584, 0, 16)
  | .fileNotDirectory => (112, 0, 1073763584, 0, 16)
  | .fileIsDirectory => (112, 0, 1073763584, 0, 16)
  | .boundMethod => (56, 0, 547200, 40, 0)
  | .boundOperator => (32, 0, 20864, 0, 0)
  | .operator => (56, 0, 676224, 0, 0)
  | .method => (56, 0, 153984, 0, 0)
  | .attribute => (48, 0, 545152, 0, 0)
  | .member => (48, 0, 545152, 0, 0)
  | .kindMethod => (56, 0, 20864, 0, 0)
  | .special => (64, 0, 548096, 40, 0)
  | .register => (24, 0, 545088, 0, 0)
  | .place => (48, 0, 0, 0, 0)

end ValueKind

/-- The kind of a barrier. -/
def Barrier.kind : Barrier → ValueKind
  | .notFound => .fileMissing
  | .notDirectory => .fileNotDirectory
  | .isDirectory => .fileIsDirectory
  | .nameTooLong => .fileFault

/-- The kind of a content. -/
def Content.kind : Content → ValueKind
  | .null => .nothing
  | .bool _ => .truth
  | .int _ => .whole
  | .float _ => .float
  | .text _ => .text
  | .inventory => .place
  | .list _ => .list
  | .mapping _ => .mapping

end Adventure
