import Timebox.Catalogue.Kind

/-!
# Kinds for annotations

Annotations speak of what a value can do rather than of what it is. Their kinds say which members a
value must have.
-/

namespace Timebox.Catalogue

/-- Kinds for annotations. -/
def annotationKinds : List Kind := [
  { key := "_abc._abc_data", name := "_abc._abc_data"
    onValue :=
      [(.value "str", words ["__doc__ __module__"])] },
  { key := "collections.abc.Callable", family := "abc.ABCMeta"
    onClass :=
      [(.value "NoneType", words ["__doc__"]),
       (.value "_abc._abc_data", words ["_abc_impl"]),
       (.value "frozenset", words ["__abstractmethods__"]),
       (.value "function", words ["__call__"]),
       (.value "method", words ["__class_getitem__ __subclasshook__"]),
       (.value "tuple", words ["__slots__"])] },
  { key := "collections.abc.Container", family := "abc.ABCMeta"
    onClass :=
      [(.value "NoneType", words ["__doc__"]),
       (.value "_abc._abc_data", words ["_abc_impl"]),
       (.value "frozenset", words ["__abstractmethods__"]),
       (.value "function", words ["__contains__"]),
       (.value "method", words ["__class_getitem__ __subclasshook__"]),
       (.value "tuple", words ["__slots__"])] },
  { key := "collections.abc.Iterable", family := "abc.ABCMeta"
    onClass :=
      [(.value "NoneType", words ["__doc__"]),
       (.value "_abc._abc_data", words ["_abc_impl"]),
       (.value "frozenset", words ["__abstractmethods__"]),
       (.value "function", words ["__iter__"]),
       (.value "method", words ["__class_getitem__ __subclasshook__"]),
       (.value "tuple", words ["__slots__"])] },
  { key := "collections.abc.Sized", family := "abc.ABCMeta"
    onClass :=
      [(.value "NoneType", words ["__doc__"]),
       (.value "_abc._abc_data", words ["_abc_impl"]),
       (.value "frozenset", words ["__abstractmethods__"]),
       (.value "function", words ["__len__"]),
       (.value "method", words ["__subclasshook__"]),
       (.value "tuple", words ["__slots__"])] },
  { key := "typing.Any", family := "typing._AnyMeta"
    onClass :=
      [(.value "function", words ["__new__"]),
       (.value "getset_descriptor", words ["__weakref__"])] },
  { key := "typing.Generic"
    onClass :=
      [(.value "bool", words ["_is_protocol"]),
       (.value "method", words ["__class_getitem__ __init_subclass__"]),
       (.value "tuple", words ["__slots__"])] },
  { key := "typing._Final"
    onClass :=
      [(.value "getset_descriptor", words ["__weakref__"]),
       (.value "method", words ["__init_subclass__"]),
       (.value "tuple", words ["__slots__"])] },
  { key := "typing._NotIterable"
    onClass :=
      [(.value "NoneType", words ["__iter__"]),
       (.value "tuple", words ["__slots__"])] },
  { key := "abc.ABCMeta", ancestors := ["type", "object"]
    onClass :=
      [(.value "function", words
         ["__instancecheck__ __new__ __subclasscheck__ _abc_caches_clear _abc_registry_clear",
          "_dump_registry register"])] },
  { key := "collections.abc.Iterator", ancestors := ["collections.abc.Iterable", "object"]
    family := "abc.ABCMeta"
    onClass :=
      [(.value "function", words ["__next__"])] },
  { key := "typing.IO", ancestors := ["typing.Generic", "object"]
    onClass :=
      [(.value "function", words
         ["__enter__ __exit__ close fileno flush isatty read readable readline readlines",
          "seek seekable tell truncate writable write writelines"]),
       (.value "property", words ["closed mode name"]),
       (.value "tuple", words ["__orig_bases__ __parameters__"])] },
  { key := "typing._AnyMeta", ancestors := ["type", "object"]
    onClass :=
      [(.value "NoneType", words ["__doc__"]),
       (.value "function", words ["__instancecheck__ __repr__"])]
    onValue :=
      [(.value "str", words ["__doc__"])] },
  { key := "typing._BaseGenericAlias", ancestors := ["typing._Final", "object"]
    onClass :=
      [(.value "function", words
         ["__call__ __dir__ __getattr__ __init__ __instancecheck__ __mro_entries__",
          "__setattr__ __subclasscheck__"])] },
  { key := "typing._TypedDictMeta", ancestors := ["type", "object"]
    onClass :=
      [(.value "NoneType", words ["__doc__"]),
       (.value "function", words ["__call__ __instancecheck__ __new__ __subclasscheck__"])]
    onValue :=
      [(.value "str", words ["__doc__"])] },
  { key := "typing.TextIO", ancestors := ["typing.IO", "typing.Generic", "object"]
    onClass :=
      [(.value "property", words ["buffer encoding errors line_buffering newlines"])] },
  { key := "collections.abc.Collection"
    ancestors :=
      ["collections.abc.Sized", "collections.abc.Iterable", "collections.abc.Container", "object"]
    family := "abc.ABCMeta" },
  { key := "typing._SpecialGenericAlias"
    ancestors := ["typing._NotIterable", "typing._BaseGenericAlias", "typing._Final", "object"]
    onClass :=
      [(.value "NoneType", words ["__doc__"]),
       (.value "function", words ["__getitem__ __or__ __reduce__ __repr__ __ror__ copy_with"])]
    onValue :=
      [(.class "collections.abc.Iterable", words ["__origin__"]),
       (.value "NoneType", words ["__slots__ __weakref__"]),
       (.value "bool", words ["_inst"]),
       (.value "dict", words ["__dict__"]),
       (.value "int", words ["_nparams"]),
       (.value "str", words ["__doc__ __module__ _name"])] },
  { key := "collections.abc.Mapping"
    ancestors :=
      ["collections.abc.Collection", "collections.abc.Sized", "collections.abc.Iterable",
       "collections.abc.Container", "object"]
    family := "abc.ABCMeta"
    onClass :=
      [(.value "NoneType", words ["__hash__ __reversed__"]),
       (.value "function", words ["__eq__ __getitem__ get items keys values"]),
       (.value "str", words ["__doc__"])] },
  { key := "typing._CallableType"
    ancestors :=
      ["typing._SpecialGenericAlias", "typing._NotIterable", "typing._BaseGenericAlias",
       "typing._Final", "object"]
    onClass :=
      [(.value "function", words ["__getitem_inner__"])]
    onValue :=
      [(.class "collections.abc.Callable", words ["__origin__"])] }]

end Timebox.Catalogue
