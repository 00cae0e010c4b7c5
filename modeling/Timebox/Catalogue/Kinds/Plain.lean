import Timebox.Catalogue.Kind

/-!
# Kinds of plain values

Texts, numbers, collections, points in time and enumerations.
-/

namespace Timebox.Catalogue

/-- Kinds of plain values. -/
def plainKinds : List Kind := [
  { key := "str"
    onClass :=
      [(.value "builtin_function_or_method", words ["maketrans"]),
       (.value "method_descriptor", words
         ["__getnewargs__ capitalize casefold center count encode endswith expandtabs find",
          "format format_map index isalnum isalpha isascii isdecimal isdigit isidentifier",
          "islower isnumeric isprintable isspace istitle isupper join ljust lower lstrip",
          "partition removeprefix removesuffix replace rfind rindex rjust rpartition rsplit",
          "rstrip split splitlines startswith strip swapcase title translate upper zfill"]),
       (.value "wrapper_descriptor", words
         ["__add__ __contains__ __getitem__ __iter__ __len__ __mod__ __mul__ __rmod__",
          "__rmul__"])]
    onValue :=
      [(.value "str", words ["__doc__"])] },
  { key := "bytes"
    onClass :=
      [(.value "builtin_function_or_method", words ["fromhex maketrans"]),
       (.value "method_descriptor", words
         ["__bytes__ __getnewargs__ capitalize center count decode endswith expandtabs find",
          "hex index isalnum isalpha isascii isdigit islower isspace istitle isupper join",
          "ljust lower lstrip partition removeprefix removesuffix replace rfind rindex rjust",
          "rpartition rsplit rstrip split splitlines startswith strip swapcase title",
          "translate upper zfill"]),
       (.value "wrapper_descriptor", words
         ["__add__ __contains__ __getitem__ __iter__ __len__ __mod__ __mul__ __rmod__",
          "__rmul__"])]
    onValue :=
      [(.value "str", words ["__doc__"])] },
  { key := "int"
    onClass :=
      [(.value "builtin_function_or_method", words ["from_bytes"]),
       (.value "getset_descriptor", words ["denominator imag numerator real"]),
       (.value "method_descriptor", words
         ["__ceil__ __floor__ __getnewargs__ __round__ __trunc__ as_integer_ratio bit_count",
          "bit_length conjugate to_bytes"]),
       (.value "wrapper_descriptor", words
         ["__abs__ __add__ __and__ __bool__ __divmod__ __float__ __floordiv__ __index__",
          "__int__ __invert__ __lshift__ __mod__ __mul__ __neg__ __or__ __pos__ __pow__",
          "__radd__ __rand__ __rdivmod__ __rfloordiv__ __rlshift__ __rmod__ __rmul__ __ror__",
          "__rpow__ __rrshift__ __rshift__ __rsub__ __rtruediv__ __rxor__ __sub__",
          "__truediv__ __xor__"])]
    onValue :=
      [(.value "int", words ["denominator imag numerator real"]),
       (.value "str", words ["__doc__"])] },
  { key := "bool", ancestors := ["int", "object"] },
  { key := "float"
    onClass :=
      [(.value "builtin_function_or_method", words ["__getformat__ fromhex"]),
       (.value "getset_descriptor", words ["imag real"]),
       (.value "method_descriptor", words
         ["__ceil__ __floor__ __getnewargs__ __round__ __trunc__ as_integer_ratio conjugate",
          "hex is_integer"]),
       (.value "wrapper_descriptor", words
         ["__abs__ __add__ __bool__ __divmod__ __float__ __floordiv__ __int__ __mod__",
          "__mul__ __neg__ __pos__ __pow__ __radd__ __rdivmod__ __rfloordiv__ __rmod__",
          "__rmul__ __rpow__ __rsub__ __rtruediv__ __sub__ __truediv__"])]
    onValue :=
      [(.value "float", words ["imag real"]),
       (.value "str", words ["__doc__"])] },
  { key := "tuple"
    onClass :=
      [(.value "builtin_function_or_method", words ["__class_getitem__"]),
       (.value "method_descriptor", words ["__getnewargs__ count index"]),
       (.value "wrapper_descriptor", words
         ["__add__ __contains__ __getitem__ __iter__ __len__ __mul__ __rmul__"])]
    onValue :=
      [(.value "str", words ["__doc__"])] },
  { key := "list"
    onClass :=
      [(.value "NoneType", words ["__hash__"]),
       (.value "builtin_function_or_method", words ["__class_getitem__"]),
       (.value "method_descriptor", words
         ["__getitem__ __reversed__ append clear copy count extend index insert pop remove",
          "reverse sort"]),
       (.value "wrapper_descriptor", words
         ["__add__ __contains__ __delitem__ __iadd__ __imul__ __iter__ __len__ __mul__",
          "__rmul__ __setitem__"])]
    onValue :=
      [(.value "str", words ["__doc__"])] },
  { key := "dict"
    onClass :=
      [(.value "NoneType", words ["__hash__"]),
       (.value "builtin_function_or_method", words ["__class_getitem__ fromkeys"]),
       (.value "method_descriptor", words
         ["__contains__ __getitem__ __reversed__ clear copy get items keys pop popitem",
          "setdefault update values"]),
       (.value "wrapper_descriptor", words
         ["__delitem__ __ior__ __iter__ __len__ __or__ __ror__ __setitem__"])]
    onValue :=
      [(.value "str", words ["__doc__"])] },
  { key := "frozenset"
    onClass :=
      [(.value "builtin_function_or_method", words ["__class_getitem__"]),
       (.value "method_descriptor", words
         ["__contains__ copy difference intersection isdisjoint issubset issuperset",
          "symmetric_difference union"]),
       (.value "wrapper_descriptor", words
         ["__and__ __iter__ __len__ __or__ __rand__ __ror__ __rsub__ __rxor__ __sub__",
          "__xor__"])]
    onValue :=
      [(.value "str", words ["__doc__"])] },
  { key := "collections.Counter", ancestors := ["dict", "object"]
    onClass :=
      [(.value "function", words
         ["__add__ __and__ __delitem__ __eq__ __ge__ __gt__ __iadd__ __iand__ __init__",
          "__ior__ __isub__ __le__ __lt__ __missing__ __ne__ __neg__ __or__ __pos__",
          "__reduce__ __repr__ __sub__ _keep_positive copy elements most_common subtract",
          "total update"]),
       (.value "getset_descriptor", words ["__weakref__"]),
       (.value "method", words ["fromkeys"])] },
  { key := "collections.defaultdict", name := "collections.defaultdict"
    ancestors := ["dict", "object"]
    onClass :=
      [(.value "member_descriptor", words ["default_factory"]),
       (.value "method_descriptor", words ["__copy__ __missing__"])] },
  { key := "datetime.date", name := "datetime.date"
    onClass :=
      [(.value "builtin_function_or_method", words
         ["fromisocalendar fromisoformat fromordinal fromtimestamp today"]),
       (.value "datetime.date", words ["max min"]),
       (.value "datetime.timedelta", words ["resolution"]),
       (.value "getset_descriptor", words ["day month year"]),
       (.value "method_descriptor", words
         ["ctime isocalendar isoformat isoweekday replace strftime timetuple toordinal",
          "weekday"]),
       (.value "wrapper_descriptor", words ["__add__ __radd__ __rsub__ __sub__"])]
    onValue :=
      [(.value "int", words ["day month year"]),
       (.value "str", words ["__doc__"])] },
  { key := "datetime.datetime", name := "datetime.datetime"
    ancestors := ["datetime.date", "object"]
    onClass :=
      [(.value "builtin_function_or_method", words
         ["combine now strptime utcfromtimestamp utcnow"]),
       (.value "datetime.datetime", words ["max min"]),
       (.value "getset_descriptor", words ["fold hour microsecond minute second tzinfo"]),
       (.value "method_descriptor", words
         ["astimezone date dst time timestamp timetz tzname utcoffset utctimetuple"])]
    onValue :=
      [(.value "NoneType", words ["tzinfo"]),
       (.value "int", words ["fold hour microsecond minute second"])] },
  { key := "datetime.timedelta", name := "datetime.timedelta"
    onClass :=
      [(.value "datetime.timedelta", words ["max min resolution"]),
       (.value "member_descriptor", words ["days microseconds seconds"]),
       (.value "method_descriptor", words ["total_seconds"]),
       (.value "wrapper_descriptor", words
         ["__abs__ __add__ __bool__ __divmod__ __floordiv__ __mod__ __mul__ __neg__ __pos__",
          "__radd__ __rdivmod__ __rfloordiv__ __rmod__ __rmul__ __rsub__ __rtruediv__",
          "__sub__ __truediv__"])]
    onValue :=
      [(.value "int", words ["days microseconds seconds"]),
       (.value "str", words ["__doc__"])] },
  { key := "datetime.tzinfo", name := "datetime.tzinfo"
    onClass :=
      [(.value "method_descriptor", words ["dst fromutc tzname utcoffset"])] },
  { key := "datetime.timezone", name := "datetime.timezone"
    ancestors := ["datetime.tzinfo", "object"]
    onClass :=
      [(.value "datetime.timezone", words ["max min utc"]),
       (.value "method_descriptor", words ["__getinitargs__"])]
    onValue :=
      [(.value "str", words ["__doc__"])] },
  { key := "enum.EnumType", ancestors := ["type", "object"]
    onClass :=
      [(.value "function", words
         ["__bool__ __call__ __contains__ __delattr__ __dir__ __getattr__ __getitem__",
          "__iter__ __len__ __new__ __repr__ __reversed__ __setattr__ _convert_ _create_"]),
       (.value "method", words
         ["__prepare__ _check_for_existing_members_ _find_data_repr_ _find_data_type_",
          "_find_new_ _get_mixins_"]),
       (.value "property", words ["__members__"])]
    onValue :=
      [(.value "mappingproxy", words ["__members__"])] },
  { key := "enum.Enum", family := "enum.EnumType", terse := true
    onClass :=
      [(.class "object", words ["_member_type_"]),
       (.value "NoneType", words ["_value_repr_"]),
       (.value "bool", words ["_use_args_"]),
       (.value "dict", words ["_member_map_ _value2member_map_"]),
       (.value "function", words
         ["__copy__ __deepcopy__ __dir__ __format__ __hash__ __init__ __new__ __reduce_ex__",
          "__repr__ __str__ _generate_next_value_ _new_member_"]),
       (.value "getset_descriptor", words ["__weakref__"]),
       (.value "list", words ["_member_names_ _unhashable_values_"]),
       (.value "method", words ["_missing_"])] },
  { key := "dataclasses._DataclassParams"
    onClass :=
      [(.value "NoneType", words ["__doc__"]),
       (.value "function", words ["__init__ __repr__"]),
       (.value "member_descriptor", words ["eq frozen init order repr unsafe_hash"]),
       (.value "tuple", words ["__slots__"])]
    onValue :=
      [(.value "bool", words ["eq frozen init order repr unsafe_hash"]),
       (.value "str", words ["__module__"])] }]

end Timebox.Catalogue
