import Adventure.Content.Trait

/-!
# The manual: what traits say of themselves

* `Manual.saying?`: the entry of a trait, a description and how the trait is called, as far as there
  are any.

Operators say the same whatever kind they belong to; all other traits have entries of their own.
-/

namespace Adventure.Manual

/-- What a trait says of itself, and how it is called. -/
abbrev Entry := Option String × Option String

/-- What makers say. -/
def maker : Entry :=
  (some "Create and return a new object.  See help(type) for accurate signature.",
    some "($type, *args, **kwargs)")

/-- What operators say. -/
def operators : List (String × String × Option String) :=
  [("__repr__", "Return repr(self).",
      some "($self, /)"),
    ("__hash__", "Return hash(self).",
      some "($self, /)"),
    ("__str__", "Return str(self).",
      some "($self, /)"),
    ("__getattribute__", "Return getattr(self, name).",
      some "($self, name, /)"),
    ("__setattr__", "Implement setattr(self, name, value).",
      some "($self, name, value, /)"),
    ("__delattr__", "Implement delattr(self, name).",
      some "($self, name, /)"),
    ("__lt__", "Return self<value.",
      some "($self, value, /)"),
    ("__le__", "Return self<=value.",
      some "($self, value, /)"),
    ("__eq__", "Return self==value.",
      some "($self, value, /)"),
    ("__ne__", "Return self!=value.",
      some "($self, value, /)"),
    ("__gt__", "Return self>value.",
      some "($self, value, /)"),
    ("__ge__", "Return self>=value.",
      some "($self, value, /)"),
    ("__init__", "Initialize self.  See help(type(self)) for accurate signature.",
      some "($self, /, *args, **kwargs)"),
    ("__call__", "Call self as a function.",
      some "($self, /, *args, **kwargs)"),
    ("__or__", "Return self|value.",
      some "($self, value, /)"),
    ("__ror__", "Return value|self.",
      some "($self, value, /)"),
    ("__bool__", "True if self else False",
      some "($self, /)"),
    ("__and__", "Return self&value.",
      some "($self, value, /)"),
    ("__rand__", "Return value&self.",
      some "($self, value, /)"),
    ("__xor__", "Return self^value.",
      some "($self, value, /)"),
    ("__rxor__", "Return value^self.",
      some "($self, value, /)"),
    ("__add__", "Return self+value.",
      some "($self, value, /)"),
    ("__radd__", "Return value+self.",
      some "($self, value, /)"),
    ("__sub__", "Return self-value.",
      some "($self, value, /)"),
    ("__rsub__", "Return value-self.",
      some "($self, value, /)"),
    ("__mul__", "Return self*value.",
      some "($self, value, /)"),
    ("__rmul__", "Return value*self.",
      some "($self, value, /)"),
    ("__mod__", "Return self%value.",
      some "($self, value, /)"),
    ("__rmod__", "Return value%self.",
      some "($self, value, /)"),
    ("__divmod__", "Return divmod(self, value).",
      some "($self, value, /)"),
    ("__rdivmod__", "Return divmod(value, self).",
      some "($self, value, /)"),
    ("__pow__", "Return pow(self, value, mod).",
      some "($self, value, mod=None, /)"),
    ("__rpow__", "Return pow(value, self, mod).",
      some "($self, value, mod=None, /)"),
    ("__neg__", "-self",
      some "($self, /)"),
    ("__pos__", "+self",
      some "($self, /)"),
    ("__abs__", "abs(self)",
      some "($self, /)"),
    ("__invert__", "~self",
      some "($self, /)"),
    ("__lshift__", "Return self<<value.",
      some "($self, value, /)"),
    ("__rlshift__", "Return value<<self.",
      some "($self, value, /)"),
    ("__rshift__", "Return self>>value.",
      some "($self, value, /)"),
    ("__rrshift__", "Return value>>self.",
      some "($self, value, /)"),
    ("__int__", "int(self)",
      some "($self, /)"),
    ("__float__", "float(self)",
      some "($self, /)"),
    ("__floordiv__", "Return self//value.",
      some "($self, value, /)"),
    ("__rfloordiv__", "Return value//self.",
      some "($self, value, /)"),
    ("__truediv__", "Return self/value.",
      some "($self, value, /)"),
    ("__rtruediv__", "Return value/self.",
      some "($self, value, /)"),
    ("__index__",
      "Return self converted to an integer, if self is suitable for use as an index into a list.",
      some "($self, /)"),
    ("__iter__", "Implement iter(self).",
      some "($self, /)"),
    ("__len__", "Return len(self).",
      some "($self, /)"),
    ("__getitem__", "Return self[key].",
      some "($self, key, /)"),
    ("__contains__", "Return key in self.",
      some "($self, key, /)"),
    ("__setitem__", "Set self[key] to value.",
      some "($self, key, value, /)"),
    ("__delitem__", "Delete self[key].",
      some "($self, key, /)"),
    ("__iadd__", "Implement self+=value.",
      some "($self, value, /)"),
    ("__imul__", "Implement self*=value.",
      some "($self, value, /)"),
    ("__ior__", "Return self|=value.",
      some "($self, value, /)"),
    ("__get__", "Return an attribute of instance, which is of type owner.",
      some "($self, instance, owner=None, /)"),
    ("__set__", "Set an attribute of instance to value.",
      some "($self, instance, value, /)"),
    ("__delete__", "Delete an attribute of instance.",
      some "($self, instance, /)")]

/-- What all other traits say. -/
def others : List (ValueKind × String × Option String × Option String) :=
  [
    (.anything, "__reduce_ex__",
      some "Helper for pickle.",
      some "($self, protocol, /)"),
    (.anything, "__reduce__",
      some "Helper for pickle.",
      some "($self, /)"),
    (.anything, "__getstate__",
      some "Helper for pickle.",
      some "($self, /)"),
    (.anything, "__subclasshook__",
      some (
        "Abstract classes can override this to customize issubclass().\n\nThis is " ++
        "invoked early on by abc.ABCMeta.__subclasscheck__().\nIt should return True, " ++
        "False or NotImplemented.  If it returns\nNotImplemented, the normal algorithm " ++
        "is used.  Otherwise, it\noverrides the normal algorithm (and the outcome is " ++
        "cached).\n"),
      none),
    (.anything, "__init_subclass__",
      some (
        "This method is called when a class is subclassed.\n\nThe default " ++
        "implementation does nothing. It may be\noverridden to extend subclasses.\n"),
      none),
    (.anything, "__format__",
      some "Default object formatter.",
      some "($self, format_spec, /)"),
    (.anything, "__sizeof__",
      some "Size of object in memory, in bytes.",
      some "($self, /)"),
    (.anything, "__dir__",
      some "Default dir() implementation.",
      some "($self, /)"),
    (.anything, "__class__",
      some "the object's class",
      none),
    (.kind, "mro",
      some "Return a type's method resolution order.",
      some "($self, /)"),
    (.kind, "__subclasses__",
      some "Return a list of immediate subclasses.",
      some "($self, /)"),
    (.kind, "__prepare__",
      some "__prepare__() -> dict\nused to create the namespace for the class statement",
      none),
    (.kind, "__instancecheck__",
      some "Check if an object is an instance.",
      some "($self, instance, /)"),
    (.kind, "__subclasscheck__",
      some "Check if a class is a subclass.",
      some "($self, subclass, /)"),
    (.kind, "__dir__",
      some "Specialized __dir__ implementation for types.",
      some "($self, /)"),
    (.kind, "__sizeof__",
      some "Return memory consumption of the type object.",
      some "($self, /)"),
    (.whole, "conjugate",
      some "Returns self, the complex conjugate of any int.",
      none),
    (.whole, "bit_length",
      some (
        "Number of bits necessary to represent self in binary.\n\n>>> " ++
        "bin(37)\n'0b100101'\n>>> (37).bit_length()\n6"),
      some "($self, /)"),
    (.whole, "bit_count",
      some (
        "Number of ones in the binary representation of the absolute value of " ++
        "self.\n\nAlso known as the population count.\n\n>>> bin(13)\n'0b1101'\n>>> " ++
        "(13).bit_count()\n3"),
      some "($self, /)"),
    (.whole, "to_bytes",
      some (
        "Return an array of bytes representing an integer.\n\n  length\n    Length of " ++
        "bytes object to use.  An OverflowError is raised if the\n    integer is not " ++
        "representable with the given number of bytes.  Default\n    is length 1.\n  " ++
        "byteorder\n    The byte order used to represent the integer.  If byteorder is " ++
        "'big',\n    the most significant byte is at the beginning of the byte array.  " ++
        "If\n    byteorder is 'little', the most significant byte is at the end of " ++
        "the\n    byte array.  To request the native byte order of the host system, " ++
        "use\n    `sys.byteorder' as the byte order value.  Default is to use 'big'.\n " ++
        " signed\n    Determines whether two's complement is used to represent the " ++
        "integer.\n    If signed is False and a negative integer is given, an " ++
        "OverflowError\n    is raised."),
      some "($self, /, length=1, byteorder='big', *, signed=False)"),
    (.whole, "from_bytes",
      some (
        "Return the integer represented by the given array of bytes.\n\n  bytes\n    " ++
        "Holds the array of bytes to convert.  The argument must either\n    support " ++
        "the buffer protocol or be an iterable object producing bytes.\n    Bytes and " ++
        "bytearray are examples of built-in objects that support the\n    buffer " ++
        "protocol.\n  byteorder\n    The byte order used to represent the integer.  If " ++
        "byteorder is 'big',\n    the most significant byte is at the beginning of the " ++
        "byte array.  If\n    byteorder is 'little', the most significant byte is at " ++
        "the end of the\n    byte array.  To request the native byte order of the host " ++
        "system, use\n    `sys.byteorder' as the byte order value.  Default is to use " ++
        "'big'.\n  signed\n    Indicates whether two's complement is used to represent " ++
        "the integer."),
      some "($type, /, bytes, byteorder='big', *, signed=False)"),
    (.whole, "as_integer_ratio",
      none,
      some "($self, /)"),
    (.whole, "__trunc__",
      some "Truncating an Integral returns itself.",
      none),
    (.whole, "__floor__",
      some "Flooring an Integral returns itself.",
      none),
    (.whole, "__ceil__",
      some "Ceiling of an Integral returns itself.",
      none),
    (.whole, "__round__",
      some (
        "Rounding an Integral returns itself.\n\nRounding with an ndigits argument " ++
        "also returns an integer."),
      some "($self, ndigits=<unrepresentable>, /)"),
    (.whole, "__getnewargs__",
      none,
      some "($self, /)"),
    (.whole, "__format__",
      none,
      some "($self, format_spec, /)"),
    (.whole, "__sizeof__",
      some "Returns size in memory, in bytes.",
      some "($self, /)"),
    (.whole, "real",
      some "the real part of a complex number",
      none),
    (.whole, "imag",
      some "the imaginary part of a complex number",
      none),
    (.whole, "numerator",
      some "the numerator of a rational number in lowest terms",
      none),
    (.whole, "denominator",
      some "the denominator of a rational number in lowest terms",
      none),
    (.float, "conjugate",
      some "Return self, the complex conjugate of any float.",
      some "($self, /)"),
    (.float, "__trunc__",
      some "Return the Integral closest to x between 0 and x.",
      some "($self, /)"),
    (.float, "__floor__",
      some "Return the floor as an Integral.",
      some "($self, /)"),
    (.float, "__ceil__",
      some "Return the ceiling as an Integral.",
      some "($self, /)"),
    (.float, "__round__",
      some (
        "Return the Integral closest to x, rounding half toward even.\n\nWhen an " ++
        "argument is passed, work like built-in round(x, ndigits)."),
      some "($self, ndigits=None, /)"),
    (.float, "as_integer_ratio",
      none,
      some "($self, /)"),
    (.float, "fromhex",
      some (
        "Create a floating-point number from a hexadecimal string.\n\n>>> " ++
        "float.fromhex('0x1.ffffp10')\n2047.984375\n>>> " ++
        "float.fromhex('-0x1p-1074')\n-5e-324"),
      some "($type, string, /)"),
    (.float, "hex",
      some (
        "Return a hexadecimal representation of a floating-point number.\n\n>>> " ++
        "(-0.1).hex()\n'-0x1.999999999999ap-4'\n>>> " ++
        "3.14159.hex()\n'0x1.921f9f01b866ep+1'"),
      some "($self, /)"),
    (.float, "is_integer",
      some "Return True if the float is an integer.",
      some "($self, /)"),
    (.float, "__getnewargs__",
      none,
      some "($self, /)"),
    (.float, "__getformat__",
      none,
      some "($type, typestr, /)"),
    (.float, "__format__",
      some "Formats the float according to format_spec.",
      some "($self, format_spec, /)"),
    (.float, "real",
      some "the real part of a complex number",
      none),
    (.float, "imag",
      some "the imaginary part of a complex number",
      none),
    (.text, "encode",
      some (
        "Encode the string using the codec registered for encoding.\n\n  encoding\n    " ++
        "The encoding in which to encode the string.\n  errors\n    The error handling " ++
        "scheme to use for encoding errors.\n    The default is 'strict' meaning that " ++
        "encoding errors raise a\n    UnicodeEncodeError.  Other possible values are " ++
        "'ignore', 'replace' and\n    'xmlcharrefreplace' as well as any other name " ++
        "registered with\n    codecs.register_error that can handle " ++
        "UnicodeEncodeErrors."),
      some "($self, /, encoding='utf-8', errors='strict')"),
    (.text, "replace",
      some (
        "Return a copy with all occurrences of substring old replaced by new.\n\n  " ++
        "count\n    Maximum number of occurrences to replace.\n    -1 (the default " ++
        "value) means replace all occurrences.\n\nIf the optional argument count is " ++
        "given, only the first count occurrences are\nreplaced."),
      some "($self, old, new, count=-1, /)"),
    (.text, "split",
      some (
        "Return a list of the substrings in the string, using sep as the separator " ++
        "string.\n\n  sep\n    The separator used to split the string.\n\n    When set " ++
        "to None (the default value), will split on any whitespace\n    character " ++
        "(including \\n \\r \\t \\f and spaces) and will discard\n    empty strings " ++
        "from the result.\n  maxsplit\n    Maximum number of splits.\n    -1 (the " ++
        "default value) means no limit.\n\nSplitting starts at the front of the string " ++
        "and works to the end.\n\nNote, str.split() is mainly useful for data that has " ++
        "been intentionally\ndelimited.  With natural text that includes punctuation, " ++
        "consider using\nthe regular expression module."),
      some "($self, /, sep=None, maxsplit=-1)"),
    (.text, "rsplit",
      some (
        "Return a list of the substrings in the string, using sep as the separator " ++
        "string.\n\n  sep\n    The separator used to split the string.\n\n    When set " ++
        "to None (the default value), will split on any whitespace\n    character " ++
        "(including \\n \\r \\t \\f and spaces) and will discard\n    empty strings " ++
        "from the result.\n  maxsplit\n    Maximum number of splits.\n    -1 (the " ++
        "default value) means no limit.\n\nSplitting starts at the end of the string " ++
        "and works to the front."),
      some "($self, /, sep=None, maxsplit=-1)"),
    (.text, "join",
      some (
        "Concatenate any number of strings.\n\nThe string whose method is called is " ++
        "inserted in between each given string.\nThe result is returned as a new " ++
        "string.\n\nExample: '.'.join(['ab', 'pq', 'rs']) -> 'ab.pq.rs'"),
      some "($self, iterable, /)"),
    (.text, "capitalize",
      some (
        "Return a capitalized version of the string.\n\nMore specifically, make the " ++
        "first character have upper case and the rest lower\ncase."),
      some "($self, /)"),
    (.text, "casefold",
      some "Return a version of the string suitable for caseless comparisons.",
      some "($self, /)"),
    (.text, "title",
      some (
        "Return a version of the string where each word is titlecased.\n\nMore " ++
        "specifically, words start with uppercased characters and all remaining\ncased " ++
        "characters have lower case."),
      some "($self, /)"),
    (.text, "center",
      some (
        "Return a centered string of length width.\n\nPadding is done using the " ++
        "specified fill character (default is a space)."),
      some "($self, width, fillchar=' ', /)"),
    (.text, "count",
      some (
        "S.count(sub[, start[, end]]) -> int\n\nReturn the number of non-overlapping " ++
        "occurrences of substring sub in\nstring S[start:end].  Optional arguments " ++
        "start and end are\ninterpreted as in slice notation."),
      none),
    (.text, "expandtabs",
      some (
        "Return a copy where all tab characters are expanded using spaces.\n\nIf " ++
        "tabsize is not given, a tab size of 8 characters is assumed."),
      some "($self, /, tabsize=8)"),
    (.text, "find",
      some (
        "S.find(sub[, start[, end]]) -> int\n\nReturn the lowest index in S where " ++
        "substring sub is found,\nsuch that sub is contained within S[start:end].  " ++
        "Optional\narguments start and end are interpreted as in slice " ++
        "notation.\n\nReturn -1 on failure."),
      none),
    (.text, "partition",
      none,
      some "($self, sep, /)"),
    (.text, "index",
      some (
        "S.index(sub[, start[, end]]) -> int\n\nReturn the lowest index in S where " ++
        "substring sub is found,\nsuch that sub is contained within S[start:end].  " ++
        "Optional\narguments start and end are interpreted as in slice " ++
        "notation.\n\nRaises ValueError when the substring is not found."),
      none),
    (.text, "ljust",
      some (
        "Return a left-justified string of length width.\n\nPadding is done using the " ++
        "specified fill character (default is a space)."),
      some "($self, width, fillchar=' ', /)"),
    (.text, "lower",
      some "Return a copy of the string converted to lowercase.",
      some "($self, /)"),
    (.text, "lstrip",
      some (
        "Return a copy of the string with leading whitespace removed.\n\nIf chars is " ++
        "given and not None, remove characters in chars instead."),
      some "($self, chars=None, /)"),
    (.text, "rfind",
      some (
        "S.rfind(sub[, start[, end]]) -> int\n\nReturn the highest index in S where " ++
        "substring sub is found,\nsuch that sub is contained within S[start:end].  " ++
        "Optional\narguments start and end are interpreted as in slice " ++
        "notation.\n\nReturn -1 on failure."),
      none),
    (.text, "rindex",
      some (
        "S.rindex(sub[, start[, end]]) -> int\n\nReturn the highest index in S where " ++
        "substring sub is found,\nsuch that sub is contained within S[start:end].  " ++
        "Optional\narguments start and end are interpreted as in slice " ++
        "notation.\n\nRaises ValueError when the substring is not found."),
      none),
    (.text, "rjust",
      some (
        "Return a right-justified string of length width.\n\nPadding is done using the " ++
        "specified fill character (default is a space)."),
      some "($self, width, fillchar=' ', /)"),
    (.text, "rstrip",
      some (
        "Return a copy of the string with trailing whitespace removed.\n\nIf chars is " ++
        "given and not None, remove characters in chars instead."),
      some "($self, chars=None, /)"),
    (.text, "rpartition",
      none,
      some "($self, sep, /)"),
    (.text, "splitlines",
      some (
        "Return a list of the lines in the string, breaking at line " ++
        "boundaries.\n\nLine breaks are not included in the resulting list unless " ++
        "keepends is given and\ntrue."),
      some "($self, /, keepends=False)"),
    (.text, "strip",
      some (
        "Return a copy of the string with leading and trailing whitespace " ++
        "removed.\n\nIf chars is given and not None, remove characters in chars " ++
        "instead."),
      some "($self, chars=None, /)"),
    (.text, "swapcase",
      some (
        "Convert uppercase characters to lowercase and lowercase characters to " ++
        "uppercase."),
      some "($self, /)"),
    (.text, "translate",
      none,
      some "($self, table, /)"),
    (.text, "upper",
      some "Return a copy of the string converted to uppercase.",
      some "($self, /)"),
    (.text, "startswith",
      some (
        "S.startswith(prefix[, start[, end]]) -> bool\n\nReturn True if S starts with " ++
        "the specified prefix, False otherwise.\nWith optional start, test S beginning " ++
        "at that position.\nWith optional end, stop comparing S at that " ++
        "position.\nprefix can also be a tuple of strings to try."),
      none),
    (.text, "endswith",
      some (
        "S.endswith(suffix[, start[, end]]) -> bool\n\nReturn True if S ends with the " ++
        "specified suffix, False otherwise.\nWith optional start, test S beginning at " ++
        "that position.\nWith optional end, stop comparing S at that position.\nsuffix " ++
        "can also be a tuple of strings to try."),
      none),
    (.text, "removeprefix",
      none,
      some "($self, prefix, /)"),
    (.text, "removesuffix",
      none,
      some "($self, suffix, /)"),
    (.text, "isascii",
      some (
        "Return True if all characters in the string are ASCII, False " ++
        "otherwise.\n\nASCII characters have code points in the range " ++
        "U+0000-U+007F.\nEmpty string is ASCII too."),
      some "($self, /)"),
    (.text, "islower",
      some (
        "Return True if the string is a lowercase string, False otherwise.\n\nA string " ++
        "is lowercase if all cased characters in the string are lowercase and\nthere " ++
        "is at least one cased character in the string."),
      some "($self, /)"),
    (.text, "isupper",
      some (
        "Return True if the string is an uppercase string, False otherwise.\n\nA " ++
        "string is uppercase if all cased characters in the string are uppercase " ++
        "and\nthere is at least one cased character in the string."),
      some "($self, /)"),
    (.text, "istitle",
      some (
        "Return True if the string is a title-cased string, False otherwise.\n\nIn a " ++
        "title-cased string, upper- and title-case characters may only\nfollow uncased " ++
        "characters and lowercase characters only cased ones."),
      some "($self, /)"),
    (.text, "isspace",
      some (
        "Return True if the string is a whitespace string, False otherwise.\n\nA " ++
        "string is whitespace if all characters in the string are whitespace and " ++
        "there\nis at least one character in the string."),
      some "($self, /)"),
    (.text, "isdecimal",
      some (
        "Return True if the string is a decimal string, False otherwise.\n\nA string " ++
        "is a decimal string if all characters in the string are decimal and\nthere is " ++
        "at least one character in the string."),
      some "($self, /)"),
    (.text, "isdigit",
      some (
        "Return True if the string is a digit string, False otherwise.\n\nA string is " ++
        "a digit string if all characters in the string are digits and there\nis at " ++
        "least one character in the string."),
      some "($self, /)"),
    (.text, "isnumeric",
      some (
        "Return True if the string is a numeric string, False otherwise.\n\nA string " ++
        "is numeric if all characters in the string are numeric and there is at\nleast " ++
        "one character in the string."),
      some "($self, /)"),
    (.text, "isalpha",
      some (
        "Return True if the string is an alphabetic string, False otherwise.\n\nA " ++
        "string is alphabetic if all characters in the string are alphabetic and " ++
        "there\nis at least one character in the string."),
      some "($self, /)"),
    (.text, "isalnum",
      some (
        "Return True if the string is an alpha-numeric string, False otherwise.\n\nA " ++
        "string is alpha-numeric if all characters in the string are alpha-numeric " ++
        "and\nthere is at least one character in the string."),
      some "($self, /)"),
    (.text, "isidentifier",
      none,
      some "($self, /)"),
    (.text, "isprintable",
      some (
        "Return True if the string is printable, False otherwise.\n\nA string is " ++
        "printable if all of its characters are considered printable in\nrepr() or if " ++
        "it is empty."),
      some "($self, /)"),
    (.text, "zfill",
      some (
        "Pad a numeric string with zeros on the left, to fill a field of the given " ++
        "width.\n\nThe string is never truncated."),
      some "($self, width, /)"),
    (.text, "format",
      some (
        "S.format(*args, **kwargs) -> str\n\nReturn a formatted version of S, using " ++
        "substitutions from args and kwargs.\nThe substitutions are identified by " ++
        "braces ('\x7b' and '\x7d')."),
      none),
    (.text, "format_map",
      some (
        "S.format_map(mapping) -> str\n\nReturn a formatted version of S, using " ++
        "substitutions from mapping.\nThe substitutions are identified by braces " ++
        "('\x7b' and '\x7d')."),
      none),
    (.text, "__format__",
      some "Return a formatted version of the string as described by format_spec.",
      some "($self, format_spec, /)"),
    (.text, "maketrans",
      none,
      some "(x, y=<unrepresentable>, z=<unrepresentable>, /)"),
    (.text, "__sizeof__",
      some "Return the size of the string in memory, in bytes.",
      some "($self, /)"),
    (.list, "__getitem__",
      some "x.__getitem__(y) <==> x[y]",
      none),
    (.list, "__reversed__",
      some "Return a reverse iterator over the list.",
      some "($self, /)"),
    (.list, "__sizeof__",
      some "Return the size of the list in memory, in bytes.",
      some "($self, /)"),
    (.list, "clear",
      some "Remove all items from list.",
      some "($self, /)"),
    (.list, "copy",
      some "Return a shallow copy of the list.",
      some "($self, /)"),
    (.list, "append",
      some "Append object to the end of the list.",
      some "($self, object, /)"),
    (.list, "insert",
      some "Insert object before index.",
      some "($self, index, object, /)"),
    (.list, "extend",
      some "Extend list by appending elements from the iterable.",
      some "($self, iterable, /)"),
    (.list, "pop",
      some (
        "Remove and return item at index (default last).\n\nRaises IndexError if list " ++
        "is empty or index is out of range."),
      some "($self, index=-1, /)"),
    (.list, "remove",
      some (
        "Remove first occurrence of value.\n\nRaises ValueError if the value is not " ++
        "present."),
      some "($self, value, /)"),
    (.list, "index",
      some (
        "Return first index of value.\n\nRaises ValueError if the value is not present."),
      some "($self, value, start=0, stop=sys.maxsize, /)"),
    (.list, "count",
      some "Return number of occurrences of value.",
      some "($self, value, /)"),
    (.list, "reverse",
      some "Reverse *IN PLACE*.",
      some "($self, /)"),
    (.list, "sort",
      some (
        "Sort the list in ascending order and return None.\n\nThe sort is in-place " ++
        "(i.e. the list itself is modified) and stable (i.e. the\norder of two equal " ++
        "elements is maintained).\n\nIf a key function is given, apply it once to each " ++
        "list item and sort them,\nascending or descending, according to their " ++
        "function values.\n\nThe reverse flag can be set to sort in descending order."),
      some "($self, /, *, key=None, reverse=False)"),
    (.list, "__class_getitem__",
      some "See PEP 585",
      none),
    (.mapping, "__getitem__",
      some "x.__getitem__(y) <==> x[y]",
      none),
    (.mapping, "__contains__",
      some "True if the dictionary has the specified key, else False.",
      some "($self, key, /)"),
    (.mapping, "__sizeof__",
      some "D.__sizeof__() -> size of D in memory, in bytes",
      none),
    (.mapping, "get",
      some "Return the value for key if key is in the dictionary, else default.",
      some "($self, key, default=None, /)"),
    (.mapping, "setdefault",
      some (
        "Insert key with a value of default if key is not in the dictionary.\n\nReturn " ++
        "the value for key if key is in the dictionary, else default."),
      some "($self, key, default=None, /)"),
    (.mapping, "pop",
      some (
        "D.pop(k[,d]) -> v, remove specified key and return the corresponding " ++
        "value.\n\nIf the key is not found, return the default if given; " ++
        "otherwise,\nraise a KeyError."),
      some "($self, key, default=<unrepresentable>, /)"),
    (.mapping, "popitem",
      some (
        "Remove and return a (key, value) pair as a 2-tuple.\n\nPairs are returned in " ++
        "LIFO (last-in, first-out) order.\nRaises KeyError if the dict is empty."),
      some "($self, /)"),
    (.mapping, "keys",
      some "D.keys() -> a set-like object providing a view on D's keys",
      none),
    (.mapping, "items",
      some "D.items() -> a set-like object providing a view on D's items",
      none),
    (.mapping, "values",
      some "D.values() -> an object providing a view on D's values",
      none),
    (.mapping, "update",
      some (
        "D.update([E, ]**F) -> None.  Update D from dict/iterable E and F.\nIf E is " ++
        "present and has a .keys() method, then does:  for k in E: D[k] = E[k]\nIf E " ++
        "is present and lacks a .keys() method, then does:  for k, v in E: D[k] = " ++
        "v\nIn either case, this is followed by: for k in F:  D[k] = F[k]"),
      none),
    (.mapping, "fromkeys",
      some "Create a new dictionary with keys from iterable and values set to value.",
      some "($type, iterable, value=None, /)"),
    (.mapping, "clear",
      some "D.clear() -> None.  Remove all items from D.",
      none),
    (.mapping, "copy",
      some "D.copy() -> a shallow copy of D",
      none),
    (.mapping, "__reversed__",
      some "Return a reverse iterator over the dict keys.",
      some "($self, /)"),
    (.mapping, "__class_getitem__",
      some "See PEP 585",
      none),
    (.tuple, "__getnewargs__",
      none,
      some "($self, /)"),
    (.tuple, "index",
      some (
        "Return first index of value.\n\nRaises ValueError if the value is not present."),
      some "($self, value, start=0, stop=sys.maxsize, /)"),
    (.tuple, "count",
      some "Return number of occurrences of value.",
      some "($self, value, /)"),
    (.tuple, "__class_getitem__",
      some "See PEP 585",
      none),
    (.interruption, "with_traceback",
      some (
        "Exception.with_traceback(tb) --\n    set self.__traceback__ to tb and return " ++
        "self."),
      none),
    (.interruption, "add_note",
      some "Exception.add_note(note) --\n    add a note to the exception",
      none),
    (.interruption, "__context__",
      some "exception context",
      none),
    (.interruption, "__cause__",
      some "exception cause",
      none),
    (.fileFault, "errno",
      some "POSIX exception code",
      none),
    (.fileFault, "strerror",
      some "exception strerror",
      none),
    (.fileFault, "filename",
      some "exception filename",
      none),
    (.fileFault, "filename2",
      some "second exception filename",
      none),
    (.special, "__parameters__",
      some "Type variables in the GenericAlias.",
      none),
    (.register, "get",
      some "D.get(k[,d]) -> D[k] if k in D, else d.  d defaults to None.",
      none),
    (.register, "keys",
      some "D.keys() -> a set-like object providing a view on D's keys",
      none),
    (.register, "values",
      some "D.values() -> an object providing a view on D's values",
      none),
    (.register, "items",
      some "D.items() -> a set-like object providing a view on D's items",
      none),
    (.register, "copy",
      some "D.copy() -> a shallow copy of D",
      none),
    (.register, "__class_getitem__",
      some "See PEP 585",
      none),
    (.register, "__reversed__",
      some "D.__reversed__() -> reverse iterator",
      none)]

/-- The entry of a trait. -/
def saying? (t : Trait) : Option Entry :=
  match t.sort with
  | .maker => some maker
  | .operator => (operators.lookup t.name).map (fun e => (some e.1, e.2))
  | _ => (others.find? (fun e => e.1 = t.owner && e.2.1 == t.name)).map (fun e => e.2.2)

/-- What a trait says of itself. -/
def description? (t : Trait) : Option String := (saying? t).bind Prod.fst

/-- How a trait is called. -/
def signature? (t : Trait) : Option String := (saying? t).bind Prod.snd

end Adventure.Manual
