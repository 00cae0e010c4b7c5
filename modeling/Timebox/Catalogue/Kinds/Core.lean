import Timebox.Catalogue.Kind

/-!
# Kinds that everything rests on

Classes, functions, the forms in which functions and fields stand in a class, and modules. All other
kinds extend the first of these, and all classes are values of the second.
-/

namespace Timebox.Catalogue

/-- Kinds of classes, functions and modules. -/
def coreKinds : List Kind := [
  { key := "object", ancestors := []
    onClass :=
      [(.bound "builtin_function_or_method" (.class "object"), words ["__new__"]),
       (.value "builtin_function_or_method", words ["__init_subclass__ __subclasshook__"]),
       (.value "method_descriptor", words
         ["__dir__ __format__ __getstate__ __reduce__ __reduce_ex__ __sizeof__"]),
       (.value "wrapper_descriptor", words
         ["__delattr__ __eq__ __ge__ __getattribute__ __gt__ __hash__ __init__ __le__ __lt__",
          "__ne__ __repr__ __setattr__ __str__"])] },
  { key := "type"
    onClass :=
      [(.value "method_descriptor", words
         ["__instancecheck__ __subclasscheck__ __subclasses__ mro"]),
       (.value "wrapper_descriptor", words ["__call__ __or__ __ror__"])]
    onValue :=
      [(.value "NoneType", words ["__text_signature__"]),
       (.bound "builtin_function_or_method" (.class "type"), words ["__prepare__"]),
       (.value "dict", words ["__annotations__"]),
       (.value "int", words
         ["__basicsize__ __dictoffset__ __flags__ __itemsize__ __weakrefoffset__"]),
       (.value "mappingproxy", words ["__dict__"]),
       (.value "str", words ["__doc__ __module__ __name__ __qualname__"]),
       (.value "tuple", words ["__bases__ __mro__"])] },
  { key := "function"
    onClass :=
      [(.value "getset_descriptor", words ["__code__ __defaults__ __kwdefaults__"]),
       (.value "member_descriptor", words ["__builtins__ __closure__ __globals__"]),
       (.value "wrapper_descriptor", words ["__call__ __get__"])]
    onValue :=
      [(.value "NoneType", words ["__closure__ __defaults__ __kwdefaults__"]),
       (.value "code", words ["__code__"]),
       (.value "dict", words ["__annotations__ __builtins__ __dict__ __globals__"]),
       (.value "str", words ["__doc__ __module__ __name__ __qualname__"])] },
  { key := "wrapped function", name := "function", ancestors := ["function", "object"]
    onValue :=
      [(.value "function", words ["__wrapped__"])] },
  { key := "builtin_function_or_method"
    onClass :=
      [(.value "getset_descriptor", words ["__doc__ __self__"]),
       (.value "wrapper_descriptor", words ["__call__"])]
    onValue :=
      [(.value "NoneType", words ["__module__"]),
       (.value "function", words ["__self__"]),
       (.value "str", words ["__doc__ __name__ __qualname__ __text_signature__"])] },
  { key := "builtin_method", ancestors := ["builtin_function_or_method", "object"]
    onClass :=
      [(.value "NoneType", words ["__doc__"])]
    onValue :=
      [(.value "re.Pattern", words ["__self__"])] },
  { key := "method", valueName := "function"
    onClass :=
      [(.value "member_descriptor", words ["__func__ __self__"]),
       (.value "wrapper_descriptor", words ["__call__"])]
    onValue :=
      [(.class "object", words ["__self__"]),
       (.value "NoneType", words ["__closure__ __defaults__ __doc__ __kwdefaults__"]),
       (.value "code", words ["__code__"]),
       (.value "dict", words ["__annotations__ __builtins__ __dict__ __globals__"]),
       (.value "function", words ["__func__"]),
       (.value "method-wrapper", words ["__get__"]),
       (.value "str", words ["__module__ __name__ __qualname__"])] },
  { key := "method-wrapper"
    onClass :=
      [(.value "getset_descriptor", words ["__doc__ __objclass__"]),
       (.value "member_descriptor", words ["__self__"]),
       (.value "wrapper_descriptor", words ["__call__"])]
    onValue :=
      [(.class "object", words ["__objclass__"]),
       (.value "function", words ["__self__"]),
       (.value "str", words ["__doc__ __name__ __qualname__ __text_signature__"])] },
  { key := "method_descriptor"
    onClass :=
      [(.value "getset_descriptor", words ["__doc__"]),
       (.value "member_descriptor", words ["__objclass__"]),
       (.value "wrapper_descriptor", words ["__call__ __get__"])]
    onValue :=
      [(.class "object", words ["__objclass__"]),
       (.value "str", words ["__doc__ __name__ __qualname__ __text_signature__"])] },
  { key := "wrapper_descriptor"
    onClass :=
      [(.value "getset_descriptor", words ["__doc__"]),
       (.value "member_descriptor", words ["__objclass__"]),
       (.value "wrapper_descriptor", words ["__call__ __get__"])]
    onValue :=
      [(.class "object", words ["__objclass__"]),
       (.value "str", words ["__doc__ __name__ __qualname__ __text_signature__"])] },
  { key := "getset_descriptor"
    onClass :=
      [(.value "getset_descriptor", words ["__doc__"]),
       (.value "member_descriptor", words ["__objclass__"]),
       (.value "wrapper_descriptor", words ["__delete__ __get__ __set__"])]
    onValue :=
      [(.class "object", words ["__objclass__"]),
       (.value "str", words ["__doc__ __name__ __qualname__"])] },
  { key := "member_descriptor"
    onClass :=
      [(.value "getset_descriptor", words ["__doc__"]),
       (.value "member_descriptor", words ["__objclass__"]),
       (.value "wrapper_descriptor", words ["__delete__ __get__ __set__"])]
    onValue :=
      [(.class "object", words ["__objclass__"]),
       (.value "NoneType", words ["__doc__"]),
       (.value "str", words ["__name__ __qualname__"])] },
  { key := "property"
    onClass :=
      [(.value "getset_descriptor", words ["__isabstractmethod__"]),
       (.value "member_descriptor", words ["fdel fget fset"]),
       (.value "method_descriptor", words ["__set_name__ deleter getter setter"]),
       (.value "wrapper_descriptor", words ["__delete__ __get__ __set__"])]
    onValue :=
      [(.value "NoneType", words ["__doc__ fdel fset"]),
       (.value "bool", words ["__isabstractmethod__"]),
       (.value "function", words ["fget"])] },
  { key := "mappingproxy"
    onClass :=
      [(.value "NoneType", words ["__doc__ __hash__"]),
       (.value "builtin_function_or_method", words ["__class_getitem__"]),
       (.value "method_descriptor", words ["__reversed__ copy get items keys values"]),
       (.value "wrapper_descriptor", words
         ["__contains__ __getitem__ __ior__ __iter__ __len__ __or__ __ror__"])] },
  { key := "module"
    onValue :=
      [(.value "_frozen_importlib.ModuleSpec", words ["__spec__"]),
       (.value "_frozen_importlib_external.SourceFileLoader", words ["__loader__"]),
       (.value "dict", words ["__annotations__ __builtins__ __dict__"]),
       (.value "str", words ["__cached__ __doc__ __file__ __name__ __package__"])] },
  { key := "package", name := "module", ancestors := ["module", "object"]
    onValue :=
      [(.value "list", words ["__path__"])] },
  { key := "code"
    onClass :=
      [(.value "getset_descriptor", words
         ["_co_code_adaptive co_cellvars co_code co_freevars co_lnotab co_varnames"]),
       (.value "member_descriptor", words
         ["co_argcount co_consts co_exceptiontable co_filename co_firstlineno co_flags",
          "co_kwonlyargcount co_linetable co_name co_names co_nlocals co_posonlyargcount",
          "co_qualname co_stacksize"]),
       (.value "method_descriptor", words ["_varname_from_oparg co_lines co_positions replace"])]
    onValue :=
      [(.value "bytes", words
         ["_co_code_adaptive co_code co_exceptiontable co_linetable co_lnotab"]),
       (.value "int", words
         ["co_argcount co_firstlineno co_flags co_kwonlyargcount co_nlocals",
          "co_posonlyargcount co_stacksize"]),
       (.value "str", words ["__doc__ co_filename co_name co_qualname"]),
       (.value "tuple", words ["co_cellvars co_consts co_freevars co_names co_varnames"])] },
  { key := "NoneType"
    onClass :=
      [(.value "NoneType", words ["__doc__"]),
       (.value "wrapper_descriptor", words ["__bool__"])] }]

end Timebox.Catalogue
