import Timebox.Catalogue.Kind

/-!
# Kinds of checked records

Records whose fields are checked when they are made. A class of such records knows its fields and
can make, copy, write and describe records.
-/

namespace Timebox.Catalogue

/-- Kinds of checked records and what belongs to them. -/
def modelKinds : List Kind := [
  { key := "pydantic._internal._model_construction.ModelMetaclass", name := "ModelMetaclass"
    ancestors := ["abc.ABCMeta", "type", "object"]
    onClass :=
      [(.value "function", words ["__getattr__ __instancecheck__"]),
       (.value "method", words ["__prepare__"])] },
  { key := "pydantic.main.BaseModel"
    family := "pydantic._internal._model_construction.ModelMetaclass"
    terse := true
    onClass :=
      [(.value "NoneType", words ["__pydantic_post_init__ __pydantic_parent_namespace__"]),
       (.value "_abc._abc_data", words ["_abc_impl"]),
       (.value "bool", words
         ["__pydantic_complete__ __pydantic_custom_init__ __pydantic_root_model__"]),
       (.value "dict", words
         ["__fields__ __private_attributes__ __pydantic_core_schema__",
          "__pydantic_generic_metadata__ model_computed_fields model_config model_fields"]),
       (.value "frozenset", words ["__abstractmethods__"]),
       (.value "function", words
         ["__copy__ __deepcopy__ __delattr__ __eq__ __getattr__ __getstate__ __init__ __iter__",
          "__pretty__ __repr__ __repr_args__ __repr_name__ __repr_str__ __rich_repr__",
          "__setattr__ __setstate__ __str__ _calculate_keys _copy_and_set_values _iter copy dict",
          "json model_copy model_dump model_dump_json model_post_init"]),
       (.value "inspect.Signature", words ["__signature__"]),
       (.value "member_descriptor", words
         ["__pydantic_extra__ __pydantic_fields_set__ __pydantic_private__"]),
       (.value "method", words
         ["__class_getitem__ __get_pydantic_core_schema__ __get_pydantic_json_schema__",
          "__pydantic_init_subclass__ _get_value construct from_orm model_construct",
          "model_json_schema model_parametrized_name model_rebuild model_validate",
          "model_validate_json model_validate_strings parse_file parse_obj parse_raw schema",
          "schema_json update_forward_refs validate"]),
       (.value "property", words ["__fields_set__ model_extra model_fields_set"]),
       (.value "pydantic._internal._decorators.DecoratorInfos", words
         ["__pydantic_decorators__"]),
       (.value "pydantic_core._pydantic_core.SchemaSerializer", words
         ["__pydantic_serializer__"]),
       (.value "pydantic_core._pydantic_core.SchemaValidator", words
         ["__pydantic_validator__"]),
       (.value "set", words ["__class_vars__"])] },
  { key := "pydantic_core._pydantic_core.SchemaSerializer"
    name := "pydantic_core._pydantic_core.SchemaSerializer" },
  { key := "pydantic_core._pydantic_core.SchemaValidator"
    name := "pydantic_core._pydantic_core.SchemaValidator" },
  { key := "pydantic_core._pydantic_core.ValidationError"
    name := "pydantic_core._pydantic_core.ValidationError"
    ancestors := ["ValueError", "Exception", "BaseException", "object"]
    onClass :=
      [(.value "builtin_function_or_method", words ["from_exception_data"]),
       (.value "getset_descriptor", words ["title"]),
       (.value "method_descriptor", words ["error_count errors json"])] },
  { key := "ValueError", ancestors := ["Exception", "BaseException", "object"] },
  { key := "pydantic.config.ConfigDict", ancestors := ["dict", "object"]
    family := "typing._TypedDictMeta"
    onClass :=
      [(.value "bool", words ["__total__"]),
       (.value "frozenset", words ["__optional_keys__ __required_keys__"]),
       (.value "getset_descriptor", words ["__weakref__"]),
       (.value "tuple", words ["__orig_bases__"])] }]

end Timebox.Catalogue
