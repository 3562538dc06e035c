import Adventure.Content.ValueKind

/-!
# Traits: what a kind gives to its values under a name

* `TraitSort`, `Trait`: the sorts of traits, and a trait of a kind;
* `ValueKind.own`: the traits that a kind itself gives;
* `ValueKind.trait?`: the trait that the values of a kind have under a name.

A message may ask for a trait of a value by its name.
-/

namespace Adventure

/-! ## 1. Sorts -/

/-- The sorts of traits. -/
inductive TraitSort where
  /-- What makes a new value. -/
  | maker
  /-- What stands behind an operation on values. -/
  | operator
  | method
  /-- A method of the kind and not of a value. -/
  | kindMethod
  /-- A method of nothing at all. -/
  | loose
  /-- What is worked out from a value. -/
  | attribute
  /-- What a value keeps. -/
  | member
  /-- What all values have in common. -/
  | constant
deriving DecidableEq, Repr

/-- A trait that a kind gives to its values. -/
structure Trait where
  owner : ValueKind
  sort : TraitSort
  name : String
deriving DecidableEq, Repr

namespace Trait

/-- The trait is read off a value whenever it is asked for, and hides all else of its name. -/
def isRead (t : Trait) : Bool := t.sort = .attribute || t.sort = .member

/-- A trait by itself, not of a value. -/
def shown (t : Trait) : String :=
  let word := match t.sort with
    | .operator => "slot wrapper"
    | .attribute => "attribute"
    | .member => "member"
    | _ => "method"
  "<" ++ word ++ " '" ++ t.name ++ "' of '" ++ t.owner.name ++ "' objects>"

/-- The kind of a trait by itself. -/
def kind (t : Trait) : ValueKind :=
  match t.sort with
  | .operator => .operator
  | .attribute => .attribute
  | .member => .member
  | .kindMethod => .kindMethod
  | _ => .method

end Trait

/-! ## 2. The traits of the kinds -/

namespace ValueKind

/-- The traits that a kind itself gives to its values. -/
def own : ValueKind → List (TraitSort × List String)
  | .anything =>
    [(.maker, ["__new__"]),
      (.operator, ["__repr__", "__hash__", "__str__", "__getattribute__", "__setattr__",
        "__delattr__", "__lt__", "__le__", "__eq__", "__ne__", "__gt__", "__ge__", "__init__"]),
      (.method, ["__reduce_ex__", "__reduce__", "__getstate__"]),
      (.kindMethod, ["__subclasshook__", "__init_subclass__"]),
      (.method, ["__format__", "__sizeof__", "__dir__"]),
      (.attribute, ["__class__"]),
      (.constant, ["__doc__"])]
  | .kind =>
    [(.maker, ["__new__"]),
      (.operator, ["__repr__", "__call__", "__getattribute__", "__setattr__", "__delattr__",
        "__init__", "__or__", "__ror__"]),
      (.method, ["mro", "__subclasses__"]),
      (.kindMethod, ["__prepare__"]),
      (.method, ["__instancecheck__", "__subclasscheck__", "__dir__", "__sizeof__"]),
      (.member, ["__basicsize__", "__itemsize__", "__flags__", "__weakrefoffset__", "__base__",
        "__dictoffset__", "__mro__"]),
      (.attribute, ["__name__", "__qualname__", "__bases__", "__module__", "__abstractmethods__",
        "__dict__", "__doc__", "__text_signature__", "__annotations__"])]
  | .nothing =>
    [(.maker, ["__new__"]),
      (.operator, ["__repr__", "__bool__"]),
      (.constant, ["__doc__"])]
  | .truth =>
    [(.maker, ["__new__"]),
      (.operator, ["__repr__", "__and__", "__rand__", "__xor__", "__rxor__", "__or__", "__ror__"]),
      (.constant, ["__doc__"])]
  | .whole =>
    [(.maker, ["__new__"]),
      (.operator, ["__repr__", "__hash__", "__getattribute__", "__lt__", "__le__", "__eq__",
        "__ne__", "__gt__", "__ge__", "__add__", "__radd__", "__sub__", "__rsub__", "__mul__",
        "__rmul__", "__mod__", "__rmod__", "__divmod__", "__rdivmod__", "__pow__", "__rpow__",
        "__neg__", "__pos__", "__abs__", "__bool__", "__invert__", "__lshift__", "__rlshift__",
        "__rshift__", "__rrshift__", "__and__", "__rand__", "__xor__", "__rxor__", "__or__",
        "__ror__", "__int__", "__float__", "__floordiv__", "__rfloordiv__", "__truediv__",
        "__rtruediv__", "__index__"]),
      (.method, ["conjugate", "bit_length", "bit_count", "to_bytes"]),
      (.kindMethod, ["from_bytes"]),
      (.method, ["as_integer_ratio", "__trunc__", "__floor__", "__ceil__", "__round__",
        "__getnewargs__", "__format__", "__sizeof__"]),
      (.attribute, ["real", "imag", "numerator", "denominator"]),
      (.constant, ["__doc__"])]
  | .float =>
    [(.maker, ["__new__"]),
      (.operator, ["__repr__", "__hash__", "__getattribute__", "__lt__", "__le__", "__eq__",
        "__ne__", "__gt__", "__ge__", "__add__", "__radd__", "__sub__", "__rsub__", "__mul__",
        "__rmul__", "__mod__", "__rmod__", "__divmod__", "__rdivmod__", "__pow__", "__rpow__",
        "__neg__", "__pos__", "__abs__", "__bool__", "__int__", "__float__", "__floordiv__",
        "__rfloordiv__", "__truediv__", "__rtruediv__"]),
      (.method, ["conjugate", "__trunc__", "__floor__", "__ceil__", "__round__",
        "as_integer_ratio"]),
      (.kindMethod, ["fromhex"]),
      (.method, ["hex", "is_integer", "__getnewargs__"]),
      (.kindMethod, ["__getformat__"]),
      (.method, ["__format__"]),
      (.attribute, ["real", "imag"]),
      (.constant, ["__doc__"])]
  | .text =>
    [(.maker, ["__new__"]),
      (.operator, ["__repr__", "__hash__", "__str__", "__getattribute__", "__lt__", "__le__",
        "__eq__", "__ne__", "__gt__", "__ge__", "__iter__", "__mod__", "__rmod__", "__len__",
        "__getitem__", "__add__", "__mul__", "__rmul__", "__contains__"]),
      (.method, ["encode", "replace", "split", "rsplit", "join", "capitalize", "casefold",
        "title", "center", "count", "expandtabs", "find", "partition", "index", "ljust", "lower",
        "lstrip", "rfind", "rindex", "rjust", "rstrip", "rpartition", "splitlines", "strip",
        "swapcase", "translate", "upper", "startswith", "endswith", "removeprefix",
        "removesuffix", "isascii", "islower", "isupper", "istitle", "isspace", "isdecimal",
        "isdigit", "isnumeric", "isalpha", "isalnum", "isidentifier", "isprintable", "zfill",
        "format", "format_map", "__format__"]),
      (.loose, ["maketrans"]),
      (.method, ["__sizeof__", "__getnewargs__"]),
      (.constant, ["__doc__"])]
  | .list =>
    [(.maker, ["__new__"]),
      (.operator, ["__repr__"]),
      (.constant, ["__hash__"]),
      (.operator, ["__getattribute__", "__lt__", "__le__", "__eq__", "__ne__", "__gt__", "__ge__",
        "__iter__", "__init__", "__len__"]),
      (.method, ["__getitem__"]),
      (.operator, ["__setitem__", "__delitem__", "__add__", "__mul__", "__rmul__", "__contains__",
        "__iadd__", "__imul__"]),
      (.method, ["__reversed__", "__sizeof__", "clear", "copy", "append", "insert", "extend",
        "pop", "remove", "index", "count", "reverse", "sort"]),
      (.kindMethod, ["__class_getitem__"]),
      (.constant, ["__doc__"])]
  | .mapping =>
    [(.maker, ["__new__"]),
      (.operator, ["__repr__"]),
      (.constant, ["__hash__"]),
      (.operator, ["__getattribute__", "__lt__", "__le__", "__eq__", "__ne__", "__gt__", "__ge__",
        "__iter__", "__init__", "__or__", "__ror__", "__ior__", "__len__"]),
      (.method, ["__getitem__"]),
      (.operator, ["__setitem__", "__delitem__"]),
      (.method, ["__contains__", "__sizeof__", "get", "setdefault", "pop", "popitem", "keys",
        "items", "values", "update"]),
      (.kindMethod, ["fromkeys"]),
      (.method, ["clear", "copy", "__reversed__"]),
      (.kindMethod, ["__class_getitem__"]),
      (.constant, ["__doc__"])]
  | .tuple =>
    [(.maker, ["__new__"]),
      (.operator, ["__repr__", "__hash__", "__getattribute__", "__lt__", "__le__", "__eq__",
        "__ne__", "__gt__", "__ge__", "__iter__", "__len__", "__getitem__", "__add__", "__mul__",
        "__rmul__", "__contains__"]),
      (.method, ["__getnewargs__", "index", "count"]),
      (.kindMethod, ["__class_getitem__"]),
      (.constant, ["__doc__"])]
  | .interruption =>
    [(.maker, ["__new__"]),
      (.operator, ["__repr__", "__str__", "__getattribute__", "__setattr__", "__delattr__",
        "__init__"]),
      (.method, ["__reduce__", "__setstate__", "with_traceback", "add_note"]),
      (.member, ["__suppress_context__"]),
      (.attribute, ["__dict__", "args", "__traceback__", "__context__", "__cause__"]),
      (.constant, ["__doc__"])]
  | .failure =>
    [(.maker, ["__new__"]),
      (.operator, ["__init__"]),
      (.constant, ["__doc__"])]
  | .fileFault =>
    [(.maker, ["__new__"]),
      (.operator, ["__str__", "__init__"]),
      (.method, ["__reduce__"]),
      (.member, ["errno", "strerror", "filename", "filename2"]),
      (.attribute, ["characters_written"]),
      (.constant, ["__doc__"])]
  | .fileMissing =>
    [(.operator, ["__init__"]),
      (.constant, ["__doc__"])]
  | .fileNotDirectory =>
    [(.operator, ["__init__"]),
      (.constant, ["__doc__"])]
  | .fileIsDirectory =>
    [(.operator, ["__init__"]),
      (.constant, ["__doc__"])]
  | .boundMethod =>
    [(.operator, ["__repr__", "__hash__", "__call__", "__getattribute__", "__lt__", "__le__",
        "__eq__", "__ne__", "__gt__", "__ge__"]),
      (.method, ["__reduce__"]),
      (.member, ["__module__"]),
      (.attribute, ["__doc__", "__name__", "__qualname__", "__self__", "__text_signature__"])]
  | .boundOperator =>
    [(.operator, ["__repr__", "__hash__", "__call__", "__getattribute__", "__lt__", "__le__",
        "__eq__", "__ne__", "__gt__", "__ge__"]),
      (.method, ["__reduce__"]),
      (.member, ["__self__"]),
      (.attribute, ["__objclass__", "__name__", "__qualname__", "__doc__", "__text_signature__"])]
  | .operator =>
    [(.operator, ["__repr__", "__call__", "__getattribute__", "__get__"]),
      (.method, ["__reduce__"]),
      (.member, ["__objclass__", "__name__"]),
      (.attribute, ["__doc__", "__qualname__", "__text_signature__"])]
  | .method =>
    [(.operator, ["__repr__", "__call__", "__getattribute__", "__get__"]),
      (.method, ["__reduce__"]),
      (.member, ["__objclass__", "__name__"]),
      (.attribute, ["__doc__", "__qualname__", "__text_signature__"])]
  | .attribute =>
    [(.operator, ["__repr__", "__getattribute__", "__get__", "__set__", "__delete__"]),
      (.member, ["__objclass__", "__name__"]),
      (.attribute, ["__doc__", "__qualname__"])]
  | .member =>
    [(.operator, ["__repr__", "__getattribute__", "__get__", "__set__", "__delete__"]),
      (.method, ["__reduce__"]),
      (.member, ["__objclass__", "__name__"]),
      (.attribute, ["__doc__", "__qualname__"])]
  | .kindMethod =>
    [(.operator, ["__repr__", "__call__", "__getattribute__", "__get__"]),
      (.member, ["__objclass__", "__name__"]),
      (.attribute, ["__doc__", "__qualname__", "__text_signature__"])]
  | .special =>
    [(.maker, ["__new__"]),
      (.operator, ["__repr__", "__hash__", "__call__", "__getattribute__", "__lt__", "__le__",
        "__eq__", "__ne__", "__gt__", "__ge__", "__iter__", "__or__", "__ror__", "__getitem__"]),
      (.method, ["__mro_entries__", "__instancecheck__", "__subclasscheck__", "__reduce__",
        "__dir__"]),
      (.member, ["__origin__", "__args__", "__unpacked__"]),
      (.attribute, ["__parameters__", "__typing_unpacked_tuple_args__"]),
      (.constant, ["__doc__"])]
  | .register =>
    [(.maker, ["__new__"]),
      (.operator, ["__repr__", "__str__", "__getattribute__", "__lt__", "__le__", "__eq__",
        "__ne__", "__gt__", "__ge__", "__iter__", "__or__", "__ror__", "__ior__", "__len__",
        "__getitem__", "__contains__"]),
      (.method, ["get", "keys", "values", "items", "copy"]),
      (.kindMethod, ["__class_getitem__"]),
      (.method, ["__reversed__"]),
      (.constant, ["__doc__", "__hash__"])]
  | .place => []

/-- The trait that a kind itself gives under a name. -/
def ownTrait? (k : ValueKind) (name : String) : Option Trait :=
  (k.own.find? (fun run => run.2.contains name)).map (fun run => ⟨k, run.1, name⟩)

/-- **The trait that the values of a kind have under a name**: the closest kind that gives one
    decides. -/
def trait? (k : ValueKind) (name : String) : Option Trait :=
  (k :: k.parents).findSome? (fun owner => owner.ownTrait? name)

end ValueKind

end Adventure
