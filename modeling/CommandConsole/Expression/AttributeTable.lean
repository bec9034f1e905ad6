/-
The attributes of the built-in classes.
-/
namespace CommandConsole

/-- What an attribute of a class is. -/
inductive AttributeKind where
  /-- An operation that is called by its name. -/
  | method
  /-- An operation that an operator or a built-in routine asks for. -/
  | slot
  /-- A value that is computed from an object. -/
  | computed
  /-- A value that an object keeps. -/
  | stored
  /-- An operation of the class itself. -/
  | ofClass
  /-- An operation of the classes that a class comes from, which it does not
  have. -/
  | withheld
deriving DecidableEq

/-- Some attributes of one kind that a class defines. -/
structure AttributeRow where
  cls : String
  kind : AttributeKind
  names : List String

/-- The attributes of the built-in classes. -/
def AttributeRow.all : List AttributeRow :=
  [⟨"object", .method,
    ["__dir__", "__format__", "__getstate__", "__reduce__", "__reduce_ex__", "__sizeof__"]⟩,
   ⟨"object", .slot,
    ["__delattr__", "__eq__", "__ge__", "__getattribute__", "__gt__", "__hash__", "__init__",
     "__le__", "__lt__", "__ne__", "__repr__", "__setattr__", "__str__"]⟩,
   ⟨"object", .computed,
    ["__class__"]⟩,
   ⟨"object", .ofClass,
    ["__init_subclass__", "__new__", "__subclasshook__"]⟩,
   ⟨"type", .method,
    ["__dir__", "__instancecheck__", "__sizeof__", "__subclasscheck__", "__subclasses__",
     "mro"]⟩,
   ⟨"type", .slot,
    ["__call__", "__delattr__", "__getattribute__", "__init__", "__or__", "__repr__", "__ror__",
     "__setattr__"]⟩,
   ⟨"type", .computed,
    ["__abstractmethods__", "__annotations__", "__bases__", "__dict__", "__module__",
     "__name__", "__qualname__", "__text_signature__"]⟩,
   ⟨"type", .stored,
    ["__base__", "__basicsize__", "__dictoffset__", "__flags__", "__itemsize__", "__mro__",
     "__weakrefoffset__"]⟩,
   ⟨"type", .ofClass,
    ["__new__", "__prepare__"]⟩,
   ⟨"int", .method,
    ["__ceil__", "__floor__", "__format__", "__getnewargs__", "__round__", "__sizeof__",
     "__trunc__", "as_integer_ratio", "bit_count", "bit_length", "conjugate", "to_bytes"]⟩,
   ⟨"int", .slot,
    ["__abs__", "__add__", "__and__", "__bool__", "__divmod__", "__eq__", "__float__",
     "__floordiv__", "__ge__", "__getattribute__", "__gt__", "__hash__", "__index__", "__int__",
     "__invert__", "__le__", "__lshift__", "__lt__", "__mod__", "__mul__", "__ne__", "__neg__",
     "__or__", "__pos__", "__pow__", "__radd__", "__rand__", "__rdivmod__", "__repr__",
     "__rfloordiv__", "__rlshift__", "__rmod__", "__rmul__", "__ror__", "__rpow__",
     "__rrshift__", "__rshift__", "__rsub__", "__rtruediv__", "__rxor__", "__sub__",
     "__truediv__", "__xor__"]⟩,
   ⟨"int", .computed,
    ["denominator", "imag", "numerator", "real"]⟩,
   ⟨"int", .ofClass,
    ["__new__", "from_bytes"]⟩,
   ⟨"bool", .slot,
    ["__and__", "__or__", "__rand__", "__repr__", "__ror__", "__rxor__", "__xor__"]⟩,
   ⟨"bool", .ofClass,
    ["__new__"]⟩,
   ⟨"float", .method,
    ["__ceil__", "__floor__", "__format__", "__getnewargs__", "__round__", "__trunc__",
     "as_integer_ratio", "conjugate", "hex", "is_integer"]⟩,
   ⟨"float", .slot,
    ["__abs__", "__add__", "__bool__", "__divmod__", "__eq__", "__float__", "__floordiv__",
     "__ge__", "__getattribute__", "__gt__", "__hash__", "__int__", "__le__", "__lt__",
     "__mod__", "__mul__", "__ne__", "__neg__", "__pos__", "__pow__", "__radd__", "__rdivmod__",
     "__repr__", "__rfloordiv__", "__rmod__", "__rmul__", "__rpow__", "__rsub__",
     "__rtruediv__", "__sub__", "__truediv__"]⟩,
   ⟨"float", .computed,
    ["imag", "real"]⟩,
   ⟨"float", .ofClass,
    ["__getformat__", "__new__", "fromhex"]⟩,
   ⟨"complex", .method,
    ["__complex__", "__format__", "__getnewargs__", "conjugate"]⟩,
   ⟨"complex", .slot,
    ["__abs__", "__add__", "__bool__", "__eq__", "__ge__", "__getattribute__", "__gt__",
     "__hash__", "__le__", "__lt__", "__mul__", "__ne__", "__neg__", "__pos__", "__pow__",
     "__radd__", "__repr__", "__rmul__", "__rpow__", "__rsub__", "__rtruediv__", "__sub__",
     "__truediv__"]⟩,
   ⟨"complex", .stored,
    ["imag", "real"]⟩,
   ⟨"complex", .ofClass,
    ["__new__"]⟩,
   ⟨"str", .method,
    ["__format__", "__getnewargs__", "__sizeof__", "capitalize", "casefold", "center", "count",
     "encode", "endswith", "expandtabs", "find", "format", "format_map", "index", "isalnum",
     "isalpha", "isascii", "isdecimal", "isdigit", "isidentifier", "islower", "isnumeric",
     "isprintable", "isspace", "istitle", "isupper", "join", "ljust", "lower", "lstrip",
     "partition", "removeprefix", "removesuffix", "replace", "rfind", "rindex", "rjust",
     "rpartition", "rsplit", "rstrip", "split", "splitlines", "startswith", "strip", "swapcase",
     "title", "translate", "upper", "zfill"]⟩,
   ⟨"str", .slot,
    ["__add__", "__contains__", "__eq__", "__ge__", "__getattribute__", "__getitem__", "__gt__",
     "__hash__", "__iter__", "__le__", "__len__", "__lt__", "__mod__", "__mul__", "__ne__",
     "__repr__", "__rmod__", "__rmul__", "__str__"]⟩,
   ⟨"str", .ofClass,
    ["__new__", "maketrans"]⟩,
   ⟨"bytes", .method,
    ["__bytes__", "__getnewargs__", "capitalize", "center", "count", "decode", "endswith",
     "expandtabs", "find", "hex", "index", "isalnum", "isalpha", "isascii", "isdigit",
     "islower", "isspace", "istitle", "isupper", "join", "ljust", "lower", "lstrip",
     "partition", "removeprefix", "removesuffix", "replace", "rfind", "rindex", "rjust",
     "rpartition", "rsplit", "rstrip", "split", "splitlines", "startswith", "strip", "swapcase",
     "title", "translate", "upper", "zfill"]⟩,
   ⟨"bytes", .slot,
    ["__add__", "__contains__", "__eq__", "__ge__", "__getattribute__", "__getitem__", "__gt__",
     "__hash__", "__iter__", "__le__", "__len__", "__lt__", "__mod__", "__mul__", "__ne__",
     "__repr__", "__rmod__", "__rmul__", "__str__"]⟩,
   ⟨"bytes", .ofClass,
    ["__new__", "fromhex", "maketrans"]⟩,
   ⟨"bytearray", .method,
    ["__alloc__", "__reduce__", "__reduce_ex__", "__sizeof__", "append", "capitalize", "center",
     "clear", "copy", "count", "decode", "endswith", "expandtabs", "extend", "find", "hex",
     "index", "insert", "isalnum", "isalpha", "isascii", "isdigit", "islower", "isspace",
     "istitle", "isupper", "join", "ljust", "lower", "lstrip", "partition", "pop", "remove",
     "removeprefix", "removesuffix", "replace", "reverse", "rfind", "rindex", "rjust",
     "rpartition", "rsplit", "rstrip", "split", "splitlines", "startswith", "strip", "swapcase",
     "title", "translate", "upper", "zfill"]⟩,
   ⟨"bytearray", .slot,
    ["__add__", "__contains__", "__delitem__", "__eq__", "__ge__", "__getattribute__",
     "__getitem__", "__gt__", "__iadd__", "__imul__", "__init__", "__iter__", "__le__",
     "__len__", "__lt__", "__mod__", "__mul__", "__ne__", "__repr__", "__rmod__", "__rmul__",
     "__setitem__", "__str__"]⟩,
   ⟨"bytearray", .ofClass,
    ["__new__", "fromhex", "maketrans"]⟩,
   ⟨"bytearray", .withheld,
    ["__hash__"]⟩,
   ⟨"memoryview", .method,
    ["__enter__", "__exit__", "cast", "hex", "release", "tobytes", "tolist", "toreadonly"]⟩,
   ⟨"memoryview", .slot,
    ["__delitem__", "__eq__", "__ge__", "__getattribute__", "__getitem__", "__gt__", "__hash__",
     "__iter__", "__le__", "__len__", "__lt__", "__ne__", "__repr__", "__setitem__"]⟩,
   ⟨"memoryview", .computed,
    ["c_contiguous", "contiguous", "f_contiguous", "format", "itemsize", "nbytes", "ndim",
     "obj", "readonly", "shape", "strides", "suboffsets"]⟩,
   ⟨"memoryview", .ofClass,
    ["__new__"]⟩,
   ⟨"list", .method,
    ["__getitem__", "__reversed__", "__sizeof__", "append", "clear", "copy", "count", "extend",
     "index", "insert", "pop", "remove", "reverse", "sort"]⟩,
   ⟨"list", .slot,
    ["__add__", "__contains__", "__delitem__", "__eq__", "__ge__", "__getattribute__", "__gt__",
     "__iadd__", "__imul__", "__init__", "__iter__", "__le__", "__len__", "__lt__", "__mul__",
     "__ne__", "__repr__", "__rmul__", "__setitem__"]⟩,
   ⟨"list", .ofClass,
    ["__class_getitem__", "__new__"]⟩,
   ⟨"list", .withheld,
    ["__hash__"]⟩,
   ⟨"tuple", .method,
    ["__getnewargs__", "count", "index"]⟩,
   ⟨"tuple", .slot,
    ["__add__", "__contains__", "__eq__", "__ge__", "__getattribute__", "__getitem__", "__gt__",
     "__hash__", "__iter__", "__le__", "__len__", "__lt__", "__mul__", "__ne__", "__repr__",
     "__rmul__"]⟩,
   ⟨"tuple", .ofClass,
    ["__class_getitem__", "__new__"]⟩,
   ⟨"dict", .method,
    ["__contains__", "__getitem__", "__reversed__", "__sizeof__", "clear", "copy", "get",
     "items", "keys", "pop", "popitem", "setdefault", "update", "values"]⟩,
   ⟨"dict", .slot,
    ["__delitem__", "__eq__", "__ge__", "__getattribute__", "__gt__", "__init__", "__ior__",
     "__iter__", "__le__", "__len__", "__lt__", "__ne__", "__or__", "__repr__", "__ror__",
     "__setitem__"]⟩,
   ⟨"dict", .ofClass,
    ["__class_getitem__", "__new__", "fromkeys"]⟩,
   ⟨"dict", .withheld,
    ["__hash__"]⟩,
   ⟨"set", .method,
    ["__contains__", "__reduce__", "__sizeof__", "add", "clear", "copy", "difference",
     "difference_update", "discard", "intersection", "intersection_update", "isdisjoint",
     "issubset", "issuperset", "pop", "remove", "symmetric_difference",
     "symmetric_difference_update", "union", "update"]⟩,
   ⟨"set", .slot,
    ["__and__", "__eq__", "__ge__", "__getattribute__", "__gt__", "__iand__", "__init__",
     "__ior__", "__isub__", "__iter__", "__ixor__", "__le__", "__len__", "__lt__", "__ne__",
     "__or__", "__rand__", "__repr__", "__ror__", "__rsub__", "__rxor__", "__sub__", "__xor__"]⟩,
   ⟨"set", .ofClass,
    ["__class_getitem__", "__new__"]⟩,
   ⟨"set", .withheld,
    ["__hash__"]⟩,
   ⟨"frozenset", .method,
    ["__contains__", "__reduce__", "__sizeof__", "copy", "difference", "intersection",
     "isdisjoint", "issubset", "issuperset", "symmetric_difference", "union"]⟩,
   ⟨"frozenset", .slot,
    ["__and__", "__eq__", "__ge__", "__getattribute__", "__gt__", "__hash__", "__iter__",
     "__le__", "__len__", "__lt__", "__ne__", "__or__", "__rand__", "__repr__", "__ror__",
     "__rsub__", "__rxor__", "__sub__", "__xor__"]⟩,
   ⟨"frozenset", .ofClass,
    ["__class_getitem__", "__new__"]⟩,
   ⟨"range", .method,
    ["__reduce__", "__reversed__", "count", "index"]⟩,
   ⟨"range", .slot,
    ["__bool__", "__contains__", "__eq__", "__ge__", "__getattribute__", "__getitem__",
     "__gt__", "__hash__", "__iter__", "__le__", "__len__", "__lt__", "__ne__", "__repr__"]⟩,
   ⟨"range", .stored,
    ["start", "step", "stop"]⟩,
   ⟨"range", .ofClass,
    ["__new__"]⟩,
   ⟨"slice", .method,
    ["__reduce__", "indices"]⟩,
   ⟨"slice", .slot,
    ["__eq__", "__ge__", "__getattribute__", "__gt__", "__le__", "__lt__", "__ne__",
     "__repr__"]⟩,
   ⟨"slice", .stored,
    ["start", "step", "stop"]⟩,
   ⟨"slice", .ofClass,
    ["__new__"]⟩,
   ⟨"slice", .withheld,
    ["__hash__"]⟩,
   ⟨"map", .method,
    ["__reduce__"]⟩,
   ⟨"map", .slot,
    ["__getattribute__", "__iter__", "__next__"]⟩,
   ⟨"map", .ofClass,
    ["__new__"]⟩,
   ⟨"filter", .method,
    ["__reduce__"]⟩,
   ⟨"filter", .slot,
    ["__getattribute__", "__iter__", "__next__"]⟩,
   ⟨"filter", .ofClass,
    ["__new__"]⟩,
   ⟨"zip", .method,
    ["__reduce__", "__setstate__"]⟩,
   ⟨"zip", .slot,
    ["__getattribute__", "__iter__", "__next__"]⟩,
   ⟨"zip", .ofClass,
    ["__new__"]⟩,
   ⟨"enumerate", .method,
    ["__reduce__"]⟩,
   ⟨"enumerate", .slot,
    ["__getattribute__", "__iter__", "__next__"]⟩,
   ⟨"enumerate", .ofClass,
    ["__class_getitem__", "__new__"]⟩,
   ⟨"reversed", .method,
    ["__length_hint__", "__reduce__", "__setstate__"]⟩,
   ⟨"reversed", .slot,
    ["__getattribute__", "__iter__", "__next__"]⟩,
   ⟨"reversed", .ofClass,
    ["__new__"]⟩,
   ⟨"property", .method,
    ["__set_name__", "deleter", "getter", "setter"]⟩,
   ⟨"property", .slot,
    ["__delete__", "__get__", "__getattribute__", "__init__", "__set__"]⟩,
   ⟨"property", .computed,
    ["__isabstractmethod__"]⟩,
   ⟨"property", .stored,
    ["fdel", "fget", "fset"]⟩,
   ⟨"property", .ofClass,
    ["__new__"]⟩,
   ⟨"staticmethod", .slot,
    ["__call__", "__get__", "__init__", "__repr__"]⟩,
   ⟨"staticmethod", .computed,
    ["__dict__", "__isabstractmethod__"]⟩,
   ⟨"staticmethod", .stored,
    ["__func__", "__wrapped__"]⟩,
   ⟨"staticmethod", .ofClass,
    ["__new__"]⟩,
   ⟨"classmethod", .slot,
    ["__get__", "__init__", "__repr__"]⟩,
   ⟨"classmethod", .computed,
    ["__dict__", "__isabstractmethod__"]⟩,
   ⟨"classmethod", .stored,
    ["__func__", "__wrapped__"]⟩,
   ⟨"classmethod", .ofClass,
    ["__new__"]⟩,
   ⟨"super", .slot,
    ["__get__", "__getattribute__", "__init__", "__repr__"]⟩,
   ⟨"super", .stored,
    ["__self__", "__self_class__", "__thisclass__"]⟩,
   ⟨"super", .ofClass,
    ["__new__"]⟩,
   ⟨"NoneType", .slot,
    ["__bool__", "__repr__"]⟩,
   ⟨"NoneType", .ofClass,
    ["__new__"]⟩,
   ⟨"ellipsis", .method,
    ["__reduce__"]⟩,
   ⟨"ellipsis", .slot,
    ["__getattribute__", "__repr__"]⟩,
   ⟨"ellipsis", .ofClass,
    ["__new__"]⟩,
   ⟨"NotImplementedType", .method,
    ["__reduce__"]⟩,
   ⟨"NotImplementedType", .slot,
    ["__bool__", "__repr__"]⟩,
   ⟨"NotImplementedType", .ofClass,
    ["__new__"]⟩,
   ⟨"function", .slot,
    ["__call__", "__get__", "__repr__"]⟩,
   ⟨"function", .computed,
    ["__annotations__", "__code__", "__defaults__", "__dict__", "__kwdefaults__", "__name__",
     "__qualname__"]⟩,
   ⟨"function", .stored,
    ["__builtins__", "__closure__", "__globals__", "__module__"]⟩,
   ⟨"function", .ofClass,
    ["__new__"]⟩,
   ⟨"builtin_function_or_method", .method,
    ["__reduce__"]⟩,
   ⟨"builtin_function_or_method", .slot,
    ["__call__", "__eq__", "__ge__", "__getattribute__", "__gt__", "__hash__", "__le__",
     "__lt__", "__ne__", "__repr__"]⟩,
   ⟨"builtin_function_or_method", .computed,
    ["__name__", "__qualname__", "__self__", "__text_signature__"]⟩,
   ⟨"builtin_function_or_method", .stored,
    ["__module__"]⟩,
   ⟨"method_descriptor", .method,
    ["__reduce__"]⟩,
   ⟨"method_descriptor", .slot,
    ["__call__", "__get__", "__getattribute__", "__repr__"]⟩,
   ⟨"method_descriptor", .computed,
    ["__qualname__", "__text_signature__"]⟩,
   ⟨"method_descriptor", .stored,
    ["__name__", "__objclass__"]⟩,
   ⟨"wrapper_descriptor", .method,
    ["__reduce__"]⟩,
   ⟨"wrapper_descriptor", .slot,
    ["__call__", "__get__", "__getattribute__", "__repr__"]⟩,
   ⟨"wrapper_descriptor", .computed,
    ["__qualname__", "__text_signature__"]⟩,
   ⟨"wrapper_descriptor", .stored,
    ["__name__", "__objclass__"]⟩,
   ⟨"method-wrapper", .method,
    ["__reduce__"]⟩,
   ⟨"method-wrapper", .slot,
    ["__call__", "__eq__", "__ge__", "__getattribute__", "__gt__", "__hash__", "__le__",
     "__lt__", "__ne__", "__repr__"]⟩,
   ⟨"method-wrapper", .computed,
    ["__name__", "__objclass__", "__qualname__", "__text_signature__"]⟩,
   ⟨"method-wrapper", .stored,
    ["__self__"]⟩,
   ⟨"getset_descriptor", .slot,
    ["__delete__", "__get__", "__getattribute__", "__repr__", "__set__"]⟩,
   ⟨"getset_descriptor", .computed,
    ["__qualname__"]⟩,
   ⟨"getset_descriptor", .stored,
    ["__name__", "__objclass__"]⟩,
   ⟨"member_descriptor", .method,
    ["__reduce__"]⟩,
   ⟨"member_descriptor", .slot,
    ["__delete__", "__get__", "__getattribute__", "__repr__", "__set__"]⟩,
   ⟨"member_descriptor", .computed,
    ["__qualname__"]⟩,
   ⟨"member_descriptor", .stored,
    ["__name__", "__objclass__"]⟩,
   ⟨"generator", .method,
    ["__sizeof__", "close", "send", "throw"]⟩,
   ⟨"generator", .slot,
    ["__del__", "__getattribute__", "__iter__", "__next__", "__repr__"]⟩,
   ⟨"generator", .computed,
    ["__name__", "__qualname__", "gi_frame", "gi_running", "gi_suspended", "gi_yieldfrom"]⟩,
   ⟨"generator", .stored,
    ["gi_code"]⟩,
   ⟨"GenericAlias", .method,
    ["__dir__", "__instancecheck__", "__mro_entries__", "__reduce__", "__subclasscheck__"]⟩,
   ⟨"GenericAlias", .slot,
    ["__call__", "__eq__", "__ge__", "__getattribute__", "__getitem__", "__gt__", "__hash__",
     "__iter__", "__le__", "__lt__", "__ne__", "__or__", "__repr__", "__ror__"]⟩,
   ⟨"GenericAlias", .computed,
    ["__parameters__", "__typing_unpacked_tuple_args__"]⟩,
   ⟨"GenericAlias", .stored,
    ["__args__", "__origin__", "__unpacked__"]⟩,
   ⟨"GenericAlias", .ofClass,
    ["__new__"]⟩,
   ⟨"UnionType", .slot,
    ["__eq__", "__ge__", "__getattribute__", "__getitem__", "__gt__", "__hash__", "__le__",
     "__lt__", "__ne__", "__or__", "__repr__", "__ror__"]⟩,
   ⟨"UnionType", .computed,
    ["__parameters__"]⟩,
   ⟨"UnionType", .stored,
    ["__args__"]⟩,
   ⟨"mappingproxy", .method,
    ["__reversed__", "copy", "get", "items", "keys", "values"]⟩,
   ⟨"mappingproxy", .slot,
    ["__contains__", "__eq__", "__ge__", "__getattribute__", "__getitem__", "__gt__", "__ior__",
     "__iter__", "__le__", "__len__", "__lt__", "__ne__", "__or__", "__repr__", "__ror__",
     "__str__"]⟩,
   ⟨"mappingproxy", .ofClass,
    ["__class_getitem__", "__new__"]⟩,
   ⟨"mappingproxy", .withheld,
    ["__hash__"]⟩,
   ⟨"dict_keys", .method,
    ["__reversed__", "isdisjoint"]⟩,
   ⟨"dict_keys", .slot,
    ["__and__", "__contains__", "__eq__", "__ge__", "__getattribute__", "__gt__", "__iter__",
     "__le__", "__len__", "__lt__", "__ne__", "__or__", "__rand__", "__repr__", "__ror__",
     "__rsub__", "__rxor__", "__sub__", "__xor__"]⟩,
   ⟨"dict_keys", .computed,
    ["mapping"]⟩,
   ⟨"dict_keys", .withheld,
    ["__hash__"]⟩,
   ⟨"dict_values", .method,
    ["__reversed__"]⟩,
   ⟨"dict_values", .slot,
    ["__getattribute__", "__iter__", "__len__", "__repr__"]⟩,
   ⟨"dict_values", .computed,
    ["mapping"]⟩,
   ⟨"dict_items", .method,
    ["__reversed__", "isdisjoint"]⟩,
   ⟨"dict_items", .slot,
    ["__and__", "__contains__", "__eq__", "__ge__", "__getattribute__", "__gt__", "__iter__",
     "__le__", "__len__", "__lt__", "__ne__", "__or__", "__rand__", "__repr__", "__ror__",
     "__rsub__", "__rxor__", "__sub__", "__xor__"]⟩,
   ⟨"dict_items", .computed,
    ["mapping"]⟩,
   ⟨"dict_items", .withheld,
    ["__hash__"]⟩,
   ⟨"list_iterator", .method,
    ["__length_hint__", "__reduce__", "__setstate__"]⟩,
   ⟨"list_iterator", .slot,
    ["__getattribute__", "__iter__", "__next__"]⟩,
   ⟨"tuple_iterator", .method,
    ["__length_hint__", "__reduce__", "__setstate__"]⟩,
   ⟨"tuple_iterator", .slot,
    ["__getattribute__", "__iter__", "__next__"]⟩,
   ⟨"str_ascii_iterator", .method,
    ["__length_hint__", "__reduce__", "__setstate__"]⟩,
   ⟨"str_ascii_iterator", .slot,
    ["__getattribute__", "__iter__", "__next__"]⟩,
   ⟨"str_iterator", .method,
    ["__length_hint__", "__reduce__", "__setstate__"]⟩,
   ⟨"str_iterator", .slot,
    ["__getattribute__", "__iter__", "__next__"]⟩,
   ⟨"bytes_iterator", .method,
    ["__length_hint__", "__reduce__", "__setstate__"]⟩,
   ⟨"bytes_iterator", .slot,
    ["__getattribute__", "__iter__", "__next__"]⟩,
   ⟨"bytearray_iterator", .method,
    ["__length_hint__", "__reduce__", "__setstate__"]⟩,
   ⟨"bytearray_iterator", .slot,
    ["__getattribute__", "__iter__", "__next__"]⟩,
   ⟨"dict_keyiterator", .method,
    ["__length_hint__", "__reduce__"]⟩,
   ⟨"dict_keyiterator", .slot,
    ["__getattribute__", "__iter__", "__next__"]⟩,
   ⟨"set_iterator", .method,
    ["__length_hint__", "__reduce__"]⟩,
   ⟨"set_iterator", .slot,
    ["__getattribute__", "__iter__", "__next__"]⟩,
   ⟨"range_iterator", .method,
    ["__length_hint__", "__reduce__", "__setstate__"]⟩,
   ⟨"range_iterator", .slot,
    ["__getattribute__", "__iter__", "__next__"]⟩,
   ⟨"longrange_iterator", .method,
    ["__length_hint__", "__reduce__", "__setstate__"]⟩,
   ⟨"longrange_iterator", .slot,
    ["__getattribute__", "__iter__", "__next__"]⟩,
   ⟨"dict_valueiterator", .method,
    ["__length_hint__", "__reduce__"]⟩,
   ⟨"dict_valueiterator", .slot,
    ["__getattribute__", "__iter__", "__next__"]⟩,
   ⟨"dict_itemiterator", .method,
    ["__length_hint__", "__reduce__"]⟩,
   ⟨"dict_itemiterator", .slot,
    ["__getattribute__", "__iter__", "__next__"]⟩,
   ⟨"list_reverseiterator", .method,
    ["__length_hint__", "__reduce__", "__setstate__"]⟩,
   ⟨"list_reverseiterator", .slot,
    ["__getattribute__", "__iter__", "__next__"]⟩,
   ⟨"dict_reversekeyiterator", .method,
    ["__length_hint__", "__reduce__"]⟩,
   ⟨"dict_reversekeyiterator", .slot,
    ["__iter__", "__next__"]⟩,
   ⟨"dict_reverseitemiterator", .method,
    ["__length_hint__", "__reduce__"]⟩,
   ⟨"dict_reverseitemiterator", .slot,
    ["__iter__", "__next__"]⟩,
   ⟨"dict_reversevalueiterator", .method,
    ["__length_hint__", "__reduce__"]⟩,
   ⟨"dict_reversevalueiterator", .slot,
    ["__iter__", "__next__"]⟩,
   ⟨"callable_iterator", .method,
    ["__reduce__"]⟩,
   ⟨"callable_iterator", .slot,
    ["__getattribute__", "__iter__", "__next__"]⟩,
   ⟨"classmethod_descriptor", .slot,
    ["__call__", "__get__", "__getattribute__", "__repr__"]⟩,
   ⟨"classmethod_descriptor", .computed,
    ["__qualname__", "__text_signature__"]⟩,
   ⟨"classmethod_descriptor", .stored,
    ["__name__", "__objclass__"]⟩,
   ⟨"memory_iterator", .slot,
    ["__getattribute__", "__iter__", "__next__"]⟩,
   ⟨"code", .method,
    ["__sizeof__", "_varname_from_oparg", "co_lines", "co_positions", "replace"]⟩,
   ⟨"code", .slot,
    ["__eq__", "__ge__", "__getattribute__", "__gt__", "__hash__", "__le__", "__lt__", "__ne__",
     "__repr__"]⟩,
   ⟨"code", .computed,
    ["_co_code_adaptive", "co_cellvars", "co_code", "co_freevars", "co_lnotab", "co_varnames"]⟩,
   ⟨"code", .stored,
    ["co_argcount", "co_consts", "co_exceptiontable", "co_filename", "co_firstlineno",
     "co_flags", "co_kwonlyargcount", "co_linetable", "co_name", "co_names", "co_nlocals",
     "co_posonlyargcount", "co_qualname", "co_stacksize"]⟩,
   ⟨"code", .ofClass,
    ["__new__"]⟩,
   ⟨"cell", .slot,
    ["__eq__", "__ge__", "__getattribute__", "__gt__", "__le__", "__lt__", "__ne__",
     "__repr__"]⟩,
   ⟨"cell", .computed,
    ["cell_contents"]⟩,
   ⟨"cell", .ofClass,
    ["__new__"]⟩,
   ⟨"cell", .withheld,
    ["__hash__"]⟩,
   ⟨"BaseException", .method,
    ["__reduce__", "__setstate__", "add_note", "with_traceback"]⟩,
   ⟨"BaseException", .slot,
    ["__delattr__", "__getattribute__", "__init__", "__repr__", "__setattr__", "__str__"]⟩,
   ⟨"BaseException", .computed,
    ["__cause__", "__context__", "__dict__", "__traceback__", "args"]⟩,
   ⟨"BaseException", .stored,
    ["__suppress_context__"]⟩,
   ⟨"BaseException", .ofClass,
    ["__new__"]⟩,
   ⟨"BaseExceptionGroup", .method,
    ["derive", "split", "subgroup"]⟩,
   ⟨"BaseExceptionGroup", .slot,
    ["__init__", "__str__"]⟩,
   ⟨"BaseExceptionGroup", .stored,
    ["exceptions", "message"]⟩,
   ⟨"BaseExceptionGroup", .ofClass,
    ["__class_getitem__", "__new__"]⟩,
   ⟨"Exception", .slot,
    ["__init__"]⟩,
   ⟨"Exception", .ofClass,
    ["__new__"]⟩,
   ⟨"GeneratorExit", .slot,
    ["__init__"]⟩,
   ⟨"GeneratorExit", .ofClass,
    ["__new__"]⟩,
   ⟨"KeyboardInterrupt", .slot,
    ["__init__"]⟩,
   ⟨"KeyboardInterrupt", .ofClass,
    ["__new__"]⟩,
   ⟨"SystemExit", .slot,
    ["__init__"]⟩,
   ⟨"SystemExit", .stored,
    ["code"]⟩,
   ⟨"ArithmeticError", .slot,
    ["__init__"]⟩,
   ⟨"ArithmeticError", .ofClass,
    ["__new__"]⟩,
   ⟨"AssertionError", .slot,
    ["__init__"]⟩,
   ⟨"AssertionError", .ofClass,
    ["__new__"]⟩,
   ⟨"AttributeError", .slot,
    ["__init__", "__str__"]⟩,
   ⟨"AttributeError", .stored,
    ["name", "obj"]⟩,
   ⟨"BufferError", .slot,
    ["__init__"]⟩,
   ⟨"BufferError", .ofClass,
    ["__new__"]⟩,
   ⟨"EOFError", .slot,
    ["__init__"]⟩,
   ⟨"EOFError", .ofClass,
    ["__new__"]⟩,
   ⟨"ImportError", .method,
    ["__reduce__"]⟩,
   ⟨"ImportError", .slot,
    ["__init__", "__str__"]⟩,
   ⟨"ImportError", .stored,
    ["msg", "name", "path"]⟩,
   ⟨"LookupError", .slot,
    ["__init__"]⟩,
   ⟨"LookupError", .ofClass,
    ["__new__"]⟩,
   ⟨"MemoryError", .slot,
    ["__init__"]⟩,
   ⟨"MemoryError", .ofClass,
    ["__new__"]⟩,
   ⟨"NameError", .slot,
    ["__init__", "__str__"]⟩,
   ⟨"NameError", .stored,
    ["name"]⟩,
   ⟨"OSError", .method,
    ["__reduce__"]⟩,
   ⟨"OSError", .slot,
    ["__init__", "__str__"]⟩,
   ⟨"OSError", .computed,
    ["characters_written"]⟩,
   ⟨"OSError", .stored,
    ["errno", "filename", "filename2", "strerror"]⟩,
   ⟨"OSError", .ofClass,
    ["__new__"]⟩,
   ⟨"ReferenceError", .slot,
    ["__init__"]⟩,
   ⟨"ReferenceError", .ofClass,
    ["__new__"]⟩,
   ⟨"RuntimeError", .slot,
    ["__init__"]⟩,
   ⟨"RuntimeError", .ofClass,
    ["__new__"]⟩,
   ⟨"StopAsyncIteration", .slot,
    ["__init__"]⟩,
   ⟨"StopAsyncIteration", .ofClass,
    ["__new__"]⟩,
   ⟨"StopIteration", .slot,
    ["__init__"]⟩,
   ⟨"StopIteration", .stored,
    ["value"]⟩,
   ⟨"SyntaxError", .slot,
    ["__init__", "__str__"]⟩,
   ⟨"SyntaxError", .stored,
    ["end_lineno", "end_offset", "filename", "lineno", "msg", "offset", "print_file_and_line",
     "text"]⟩,
   ⟨"SystemError", .slot,
    ["__init__"]⟩,
   ⟨"SystemError", .ofClass,
    ["__new__"]⟩,
   ⟨"TypeError", .slot,
    ["__init__"]⟩,
   ⟨"TypeError", .ofClass,
    ["__new__"]⟩,
   ⟨"ValueError", .slot,
    ["__init__"]⟩,
   ⟨"ValueError", .ofClass,
    ["__new__"]⟩,
   ⟨"Warning", .slot,
    ["__init__"]⟩,
   ⟨"Warning", .ofClass,
    ["__new__"]⟩,
   ⟨"FloatingPointError", .slot,
    ["__init__"]⟩,
   ⟨"FloatingPointError", .ofClass,
    ["__new__"]⟩,
   ⟨"OverflowError", .slot,
    ["__init__"]⟩,
   ⟨"OverflowError", .ofClass,
    ["__new__"]⟩,
   ⟨"ZeroDivisionError", .slot,
    ["__init__"]⟩,
   ⟨"ZeroDivisionError", .ofClass,
    ["__new__"]⟩,
   ⟨"BytesWarning", .slot,
    ["__init__"]⟩,
   ⟨"BytesWarning", .ofClass,
    ["__new__"]⟩,
   ⟨"DeprecationWarning", .slot,
    ["__init__"]⟩,
   ⟨"DeprecationWarning", .ofClass,
    ["__new__"]⟩,
   ⟨"EncodingWarning", .slot,
    ["__init__"]⟩,
   ⟨"EncodingWarning", .ofClass,
    ["__new__"]⟩,
   ⟨"FutureWarning", .slot,
    ["__init__"]⟩,
   ⟨"FutureWarning", .ofClass,
    ["__new__"]⟩,
   ⟨"ImportWarning", .slot,
    ["__init__"]⟩,
   ⟨"ImportWarning", .ofClass,
    ["__new__"]⟩,
   ⟨"PendingDeprecationWarning", .slot,
    ["__init__"]⟩,
   ⟨"PendingDeprecationWarning", .ofClass,
    ["__new__"]⟩,
   ⟨"ResourceWarning", .slot,
    ["__init__"]⟩,
   ⟨"ResourceWarning", .ofClass,
    ["__new__"]⟩,
   ⟨"RuntimeWarning", .slot,
    ["__init__"]⟩,
   ⟨"RuntimeWarning", .ofClass,
    ["__new__"]⟩,
   ⟨"SyntaxWarning", .slot,
    ["__init__"]⟩,
   ⟨"SyntaxWarning", .ofClass,
    ["__new__"]⟩,
   ⟨"UnicodeWarning", .slot,
    ["__init__"]⟩,
   ⟨"UnicodeWarning", .ofClass,
    ["__new__"]⟩,
   ⟨"UserWarning", .slot,
    ["__init__"]⟩,
   ⟨"UserWarning", .ofClass,
    ["__new__"]⟩,
   ⟨"BlockingIOError", .slot,
    ["__init__"]⟩,
   ⟨"ChildProcessError", .slot,
    ["__init__"]⟩,
   ⟨"ConnectionError", .slot,
    ["__init__"]⟩,
   ⟨"FileExistsError", .slot,
    ["__init__"]⟩,
   ⟨"FileNotFoundError", .slot,
    ["__init__"]⟩,
   ⟨"InterruptedError", .slot,
    ["__init__"]⟩,
   ⟨"IsADirectoryError", .slot,
    ["__init__"]⟩,
   ⟨"NotADirectoryError", .slot,
    ["__init__"]⟩,
   ⟨"PermissionError", .slot,
    ["__init__"]⟩,
   ⟨"ProcessLookupError", .slot,
    ["__init__"]⟩,
   ⟨"TimeoutError", .slot,
    ["__init__"]⟩,
   ⟨"IndentationError", .slot,
    ["__init__"]⟩,
   ⟨"IndexError", .slot,
    ["__init__"]⟩,
   ⟨"IndexError", .ofClass,
    ["__new__"]⟩,
   ⟨"KeyError", .slot,
    ["__init__", "__str__"]⟩,
   ⟨"ModuleNotFoundError", .slot,
    ["__init__"]⟩,
   ⟨"NotImplementedError", .slot,
    ["__init__"]⟩,
   ⟨"NotImplementedError", .ofClass,
    ["__new__"]⟩,
   ⟨"RecursionError", .slot,
    ["__init__"]⟩,
   ⟨"RecursionError", .ofClass,
    ["__new__"]⟩,
   ⟨"UnboundLocalError", .slot,
    ["__init__"]⟩,
   ⟨"UnicodeError", .slot,
    ["__init__"]⟩,
   ⟨"UnicodeError", .ofClass,
    ["__new__"]⟩,
   ⟨"BrokenPipeError", .slot,
    ["__init__"]⟩,
   ⟨"ConnectionAbortedError", .slot,
    ["__init__"]⟩,
   ⟨"ConnectionRefusedError", .slot,
    ["__init__"]⟩,
   ⟨"ConnectionResetError", .slot,
    ["__init__"]⟩,
   ⟨"TabError", .slot,
    ["__init__"]⟩,
   ⟨"UnicodeDecodeError", .slot,
    ["__init__", "__str__"]⟩,
   ⟨"UnicodeDecodeError", .stored,
    ["encoding", "end", "object", "reason", "start"]⟩,
   ⟨"UnicodeDecodeError", .ofClass,
    ["__new__"]⟩,
   ⟨"UnicodeEncodeError", .slot,
    ["__init__", "__str__"]⟩,
   ⟨"UnicodeEncodeError", .stored,
    ["encoding", "end", "object", "reason", "start"]⟩,
   ⟨"UnicodeEncodeError", .ofClass,
    ["__new__"]⟩,
   ⟨"UnicodeTranslateError", .slot,
    ["__init__", "__str__"]⟩,
   ⟨"UnicodeTranslateError", .stored,
    ["encoding", "end", "object", "reason", "start"]⟩,
   ⟨"UnicodeTranslateError", .ofClass,
    ["__new__"]⟩,
   ⟨"ExceptionGroup", .computed,
    ["__weakref__"]⟩]

end CommandConsole
