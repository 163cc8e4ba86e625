/-
  EngineBindings/Template/FieldTable.lean
  =======================================
  **The fields that belong to the types of values.**

  Every value has fields of its own before those of the context: operations that may be
  called elsewhere, and the parts that it is described by.  The tables hold the names of these
  fields, type by type and kind by kind; a field of the context that has one of these names is
  out of reach.
-/

namespace EngineBindings.Template

/-! ### Kinds of fields -/

/-- What a field of a type is. -/
inductive FieldKind where
  /-- An operation of the values of the type. -/
  | method
  /-- An operation that the type has in place of a general one. -/
  | wrapper
  /-- An operation of the type itself. -/
  | typeMethod
  /-- A part of a value that is worked out. -/
  | feature
  /-- A part of a value that is kept in it. -/
  | member
  /-- An operation that is written as a function. -/
  | function
  /-- A part of a value that a function works out. -/
  | property
  /-- An operation that the type leaves out; the field is there and holds nothing. -/
  | nothing
deriving DecidableEq, Repr

/-- The names of the fields of a type. -/
structure FieldTable where
  methods : List String := []
  wrappers : List String := []
  typeMethods : List String := []
  features : List String := []
  members : List String := []
  functions : List String := []
  properties : List String := []
  nothings : List String := []

/-- The kind of the field of a name. -/
def FieldTable.kind? (table : FieldTable) (name : String) : Option FieldKind :=
  if name ∈ table.methods then some .method
  else if name ∈ table.wrappers then some .wrapper
  else if name ∈ table.typeMethods then some .typeMethod
  else if name ∈ table.features then some .feature
  else if name ∈ table.members then some .member
  else if name ∈ table.functions then some .function
  else if name ∈ table.properties then some .property
  else if name ∈ table.nothings then some .nothing
  else none

/-! ### Tables -/

def objectFields : FieldTable where
  methods := ["__dir__", "__format__", "__getstate__", "__reduce__", "__reduce_ex__", "__sizeof__"]
  wrappers := ["__delattr__", "__eq__", "__ge__", "__getattribute__", "__gt__", "__hash__",
    "__init__", "__le__", "__lt__", "__ne__", "__repr__", "__setattr__", "__str__"]
  typeMethods := ["__init_subclass__", "__new__", "__subclasshook__"]
  features := ["__class__", "__doc__"]

def typeFields : FieldTable where
  methods := ["__dir__", "__instancecheck__", "__sizeof__", "__subclasscheck__", "__subclasses__",
    "mro"]
  wrappers := ["__call__", "__delattr__", "__getattribute__", "__init__", "__or__", "__repr__",
    "__ror__", "__setattr__"]
  typeMethods := ["__new__", "__prepare__"]
  features := ["__bases__", "__dict__", "__doc__", "__module__", "__name__", "__qualname__",
    "__text_signature__"]
  members := ["__base__", "__basicsize__", "__dictoffset__", "__flags__", "__itemsize__",
    "__mro__", "__weakrefoffset__"]

/-- The fields of the value that says that there is none. -/
def nothingFields : FieldTable where
  wrappers := ["__bool__", "__repr__"]
  typeMethods := ["__new__"]
  nothings := ["__doc__"]

def truthFields : FieldTable where
  wrappers := ["__and__", "__or__", "__rand__", "__repr__", "__ror__", "__rxor__", "__xor__"]
  typeMethods := ["__new__"]
  features := ["__doc__"]

def integerFields : FieldTable where
  methods := ["__ceil__", "__floor__", "__format__", "__getnewargs__", "__round__", "__sizeof__",
    "__trunc__", "as_integer_ratio", "bit_count", "bit_length", "conjugate", "to_bytes"]
  wrappers := ["__abs__", "__add__", "__and__", "__bool__", "__divmod__", "__eq__", "__float__",
    "__floordiv__", "__ge__", "__getattribute__", "__gt__", "__hash__", "__index__", "__int__",
    "__invert__", "__le__", "__lshift__", "__lt__", "__mod__", "__mul__", "__ne__", "__neg__",
    "__or__", "__pos__", "__pow__", "__radd__", "__rand__", "__rdivmod__", "__repr__",
    "__rfloordiv__", "__rlshift__", "__rmod__", "__rmul__", "__ror__", "__rpow__", "__rrshift__",
    "__rshift__", "__rsub__", "__rtruediv__", "__rxor__", "__sub__", "__truediv__", "__xor__"]
  typeMethods := ["__new__", "from_bytes"]
  features := ["__doc__", "denominator", "imag", "numerator", "real"]

def doubleFields : FieldTable where
  methods := ["__ceil__", "__floor__", "__format__", "__getnewargs__", "__round__", "__trunc__",
    "as_integer_ratio", "conjugate", "hex", "is_integer"]
  wrappers := ["__abs__", "__add__", "__bool__", "__divmod__", "__eq__", "__float__",
    "__floordiv__", "__ge__", "__getattribute__", "__gt__", "__hash__", "__int__", "__le__",
    "__lt__", "__mod__", "__mul__", "__ne__", "__neg__", "__pos__", "__pow__", "__radd__",
    "__rdivmod__", "__repr__", "__rfloordiv__", "__rmod__", "__rmul__", "__rpow__", "__rsub__",
    "__rtruediv__", "__sub__", "__truediv__"]
  typeMethods := ["__getformat__", "__new__", "fromhex"]
  features := ["__doc__", "imag", "real"]

def textFields : FieldTable where
  methods := ["__format__", "__getnewargs__", "__sizeof__", "capitalize", "casefold", "center",
    "count", "encode", "endswith", "expandtabs", "find", "format", "format_map", "index",
    "isalnum", "isalpha", "isascii", "isdecimal", "isdigit", "isidentifier", "islower",
    "isnumeric", "isprintable", "isspace", "istitle", "isupper", "join", "ljust", "lower",
    "lstrip", "partition", "removeprefix", "removesuffix", "replace", "rfind", "rindex", "rjust",
    "rpartition", "rsplit", "rstrip", "split", "splitlines", "startswith", "strip", "swapcase",
    "title", "translate", "upper", "zfill"]
  wrappers := ["__add__", "__contains__", "__eq__", "__ge__", "__getattribute__", "__getitem__",
    "__gt__", "__hash__", "__iter__", "__le__", "__len__", "__lt__", "__mod__", "__mul__",
    "__ne__", "__repr__", "__rmod__", "__rmul__", "__str__"]
  typeMethods := ["__new__", "maketrans"]
  features := ["__doc__"]

def listFields : FieldTable where
  methods := ["__getitem__", "__reversed__", "__sizeof__", "append", "clear", "copy", "count",
    "extend", "index", "insert", "pop", "remove", "reverse", "sort"]
  wrappers := ["__add__", "__contains__", "__delitem__", "__eq__", "__ge__", "__getattribute__",
    "__gt__", "__iadd__", "__imul__", "__init__", "__iter__", "__le__", "__len__", "__lt__",
    "__mul__", "__ne__", "__repr__", "__rmul__", "__setitem__"]
  typeMethods := ["__class_getitem__", "__new__"]
  features := ["__doc__"]
  nothings := ["__hash__"]

def dictionaryFields : FieldTable where
  methods := ["__contains__", "__getitem__", "__reversed__", "__sizeof__", "clear", "copy", "get",
    "items", "keys", "pop", "popitem", "setdefault", "update", "values"]
  wrappers := ["__delitem__", "__eq__", "__ge__", "__getattribute__", "__gt__", "__init__",
    "__ior__", "__iter__", "__le__", "__len__", "__lt__", "__ne__", "__or__", "__repr__",
    "__ror__", "__setitem__"]
  typeMethods := ["__class_getitem__", "__new__", "fromkeys"]
  features := ["__doc__"]
  nothings := ["__hash__"]

def tupleFields : FieldTable where
  methods := ["__getnewargs__", "count", "index"]
  wrappers := ["__add__", "__contains__", "__eq__", "__ge__", "__getattribute__", "__getitem__",
    "__gt__", "__hash__", "__iter__", "__le__", "__len__", "__lt__", "__mul__", "__ne__",
    "__repr__", "__rmul__"]
  typeMethods := ["__class_getitem__", "__new__"]
  features := ["__doc__"]

def rangeFields : FieldTable where
  methods := ["__reduce__", "__reversed__", "count", "index"]
  wrappers := ["__bool__", "__contains__", "__eq__", "__ge__", "__getattribute__", "__getitem__",
    "__gt__", "__hash__", "__iter__", "__le__", "__len__", "__lt__", "__ne__", "__repr__"]
  typeMethods := ["__new__"]
  features := ["__doc__"]
  members := ["start", "step", "stop"]

/-- The fields of operations of a value. -/
def builtinFields : FieldTable where
  methods := ["__reduce__"]
  wrappers := ["__call__", "__eq__", "__ge__", "__getattribute__", "__gt__", "__hash__", "__le__",
    "__lt__", "__ne__", "__repr__"]
  features := ["__doc__", "__name__", "__qualname__", "__self__", "__text_signature__"]
  members := ["__module__"]

/-- The fields of wrapped operations of a value. -/
def wrapperFields : FieldTable where
  methods := ["__reduce__"]
  wrappers := ["__call__", "__eq__", "__ge__", "__getattribute__", "__gt__", "__hash__", "__le__",
    "__lt__", "__ne__", "__repr__"]
  features := ["__doc__", "__name__", "__objclass__", "__qualname__", "__text_signature__"]
  members := ["__self__"]

def methodOfTypeFields : FieldTable where
  methods := ["__reduce__"]
  wrappers := ["__call__", "__get__", "__getattribute__", "__repr__"]
  features := ["__doc__", "__qualname__", "__text_signature__"]
  members := ["__name__", "__objclass__"]

def wrapperOfTypeFields : FieldTable where
  methods := ["__reduce__"]
  wrappers := ["__call__", "__get__", "__getattribute__", "__repr__"]
  features := ["__doc__", "__qualname__", "__text_signature__"]
  members := ["__name__", "__objclass__"]

/-- The fields of parts that are worked out. -/
def featureFields : FieldTable where
  wrappers := ["__delete__", "__get__", "__getattribute__", "__repr__", "__set__"]
  features := ["__doc__", "__qualname__"]
  members := ["__name__", "__objclass__"]

/-- The fields of parts that are kept. -/
def memberFields : FieldTable where
  methods := ["__reduce__"]
  wrappers := ["__delete__", "__get__", "__getattribute__", "__repr__", "__set__"]
  features := ["__doc__", "__qualname__"]
  members := ["__name__", "__objclass__"]

def boundFunctionFields : FieldTable where
  methods := ["__reduce__"]
  wrappers := ["__call__", "__delattr__", "__eq__", "__ge__", "__getattribute__", "__gt__",
    "__hash__", "__le__", "__lt__", "__ne__", "__repr__", "__setattr__"]
  typeMethods := ["__new__"]
  features := ["__doc__"]
  members := ["__func__", "__self__"]

def functionFields : FieldTable where
  wrappers := ["__call__", "__get__", "__repr__"]
  typeMethods := ["__new__"]
  features := ["__annotations__", "__code__", "__defaults__", "__dict__", "__kwdefaults__",
    "__name__", "__qualname__"]
  members := ["__builtins__", "__closure__", "__doc__", "__globals__", "__module__"]

def propertyFields : FieldTable where
  methods := ["__set_name__", "deleter", "getter", "setter"]
  wrappers := ["__delete__", "__get__", "__getattribute__", "__init__", "__set__"]
  typeMethods := ["__new__"]
  features := ["__isabstractmethod__"]
  members := ["__doc__", "fdel", "fget", "fset"]

def genericFields : FieldTable where
  methods := ["__dir__", "__instancecheck__", "__mro_entries__", "__reduce__", "__subclasscheck__"]
  wrappers := ["__call__", "__eq__", "__ge__", "__getattribute__", "__getitem__", "__gt__",
    "__hash__", "__iter__", "__le__", "__lt__", "__ne__", "__or__", "__repr__", "__ror__"]
  typeMethods := ["__new__"]
  features := ["__doc__", "__parameters__", "__typing_unpacked_tuple_args__"]
  members := ["__args__", "__origin__", "__unpacked__"]

def cyclerFields : FieldTable where
  features := ["__dict__", "__doc__", "__module__", "__weakref__"]
  functions := ["__init__", "__next__", "next", "reset"]
  properties := ["current"]

def joinerFields : FieldTable where
  features := ["__dict__", "__doc__", "__module__", "__weakref__"]
  functions := ["__call__", "__init__"]

def namesFields : FieldTable where
  features := ["__dict__", "__doc__", "__module__", "__weakref__"]
  functions := ["__getattribute__", "__init__", "__repr__", "__setitem__"]

def missingFields : FieldTable where
  features := ["__dict__", "__doc__", "__module__", "__weakref__"]
  functions := ["__reduce__", "__repr__"]

/-- The fields of the states of loops, as far as all of them share them. -/
def loopFields : FieldTable where
  features := ["__dict__", "__doc__", "__module__", "__weakref__"]
  functions := ["__call__", "__init__", "__iter__", "__len__", "__next__", "__repr__",
    "_peek_next", "_to_iterator", "changed", "cycle"]
  properties := ["depth", "first", "index", "last", "length", "nextitem", "previtem", "revindex",
    "revindex0"]

def templateFields : FieldTable where
  features := ["__dict__", "__doc__", "__module__", "__weakref__"]
  functions := ["__getitem__", "__init__", "__repr__"]

/-- The fields that absent values have in common with more lenient ones. -/
def absentBaseFields : FieldTable where
  features := ["__doc__", "__module__", "__slots__"]
  members := ["_undefined_exception", "_undefined_hint", "_undefined_name", "_undefined_obj"]
  functions := ["__add__", "__aiter__", "__bool__", "__call__", "__complex__", "__div__", "__eq__",
    "__float__", "__floordiv__", "__ge__", "__getattr__", "__getitem__", "__gt__", "__hash__",
    "__init__", "__int__", "__iter__", "__le__", "__len__", "__lt__", "__mod__", "__mul__",
    "__ne__", "__neg__", "__pos__", "__pow__", "__radd__", "__rdiv__", "__repr__",
    "__rfloordiv__", "__rmod__", "__rmul__", "__rpow__", "__rsub__", "__rtruediv__", "__str__",
    "__sub__", "__truediv__", "_fail_with_undefined_error"]
  properties := ["_undefined_message"]

def absentFields : FieldTable where
  features := ["__doc__", "__module__", "__slots__"]
  functions := ["__bool__", "__contains__", "__eq__", "__hash__", "__iter__", "__len__", "__ne__",
    "__str__"]

end EngineBindings.Template
