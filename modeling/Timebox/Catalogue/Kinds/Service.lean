import Timebox.Catalogue.Kind

/-!
# Kinds of services

Logs, paths, patterns, faults, and what a module is loaded with.
-/

namespace Timebox.Catalogue

/-- Kinds of services. -/
def serviceKinds : List Kind := [
  { key := "BaseException"
    onClass :=
      [(.value "getset_descriptor", words ["__cause__ __context__ __traceback__ args"]),
       (.value "member_descriptor", words ["__suppress_context__"]),
       (.value "method_descriptor", words ["__setstate__ add_note with_traceback"])] },
  { key := "__future__._Feature"
    onClass :=
      [(.value "NoneType", words ["__doc__"]),
       (.value "function", words ["__init__ __repr__ getMandatoryRelease getOptionalRelease"]),
       (.value "getset_descriptor", words ["__weakref__"])]
    onValue :=
      [(.value "NoneType", words ["__weakref__ mandatory"]),
       (.value "dict", words ["__dict__"]),
       (.value "int", words ["compiler_flag"]),
       (.value "str", words ["__module__"]),
       (.value "tuple", words ["optional"])] },
  { key := "_frozen_importlib.ModuleSpec"
    onClass :=
      [(.value "NoneType", words ["__hash__"]),
       (.value "function", words ["__eq__ __init__ __repr__"]),
       (.value "getset_descriptor", words ["__weakref__"]),
       (.value "property", words ["cached has_location parent"])]
    onValue :=
      [(.value "NoneType", words ["__weakref__ loader_state"]),
       (.value "_frozen_importlib_external.SourceFileLoader", words ["loader"]),
       (.value "bool", words ["_initializing _set_fileattr has_location"]),
       (.value "dict", words ["__dict__"]),
       (.value "list", words ["_uninitialized_submodules submodule_search_locations"]),
       (.value "str", words ["__doc__ __module__ _cached cached name origin parent"])] },
  { key := "_frozen_importlib_external.FileLoader"
    onClass :=
      [(.value "function", words
         ["__eq__ __hash__ __init__ get_data get_filename get_resource_reader load_module"]),
       (.value "getset_descriptor", words ["__weakref__"])] },
  { key := "_frozen_importlib_external._LoaderBasics"
    onClass :=
      [(.value "function", words ["create_module exec_module is_package load_module"]),
       (.value "getset_descriptor", words ["__weakref__"])] },
  { key := "logging.Filter"
    onClass :=
      [(.value "function", words ["__init__ filter"]),
       (.value "getset_descriptor", words ["__weakref__"])] },
  { key := "logging.Filterer"
    onClass :=
      [(.value "function", words ["__init__ addFilter filter removeFilter"]),
       (.value "getset_descriptor", words ["__weakref__"])] },
  { key := "logging.Manager"
    onClass :=
      [(.value "function", words
         ["__init__ _clear_cache _fixupChildren _fixupParents getLogger setLogRecordFactory",
          "setLoggerClass"]),
       (.value "getset_descriptor", words ["__weakref__"]),
       (.value "property", words ["disable"])]
    onValue :=
      [(.value "NoneType", words ["__weakref__ logRecordFactory loggerClass"]),
       (.value "bool", words ["emittedNoHandlerWarning"]),
       (.value "dict", words ["__dict__ loggerDict"]),
       (.value "int", words ["_disable disable"]),
       (.value "logging.RootLogger", words ["root"]),
       (.value "str", words ["__doc__ __module__"])] },
  { key := "pathlib.PurePath"
    onClass :=
      [(.value "function", words
         ["__bytes__ __eq__ __fspath__ __ge__ __gt__ __hash__ __le__ __lt__ __new__",
          "__reduce__ __repr__ __rtruediv__ __str__ __truediv__ _make_child as_posix as_uri",
          "is_absolute is_relative_to is_reserved joinpath match relative_to with_name",
          "with_stem with_suffix"]),
       (.value "member_descriptor", words
         ["_cached_cparts _drv _hash _parts _pparts _root _str"]),
       (.value "method", words
         ["_format_parsed_parts _from_parsed_parts _from_parts _parse_args"]),
       (.value "property", words
         ["_cparts anchor drive name parent parents parts root stem suffix suffixes"]),
       (.value "tuple", words ["__slots__"])] },
  { key := "re.Pattern", name := "re.Pattern"
    onClass :=
      [(.value "builtin_function_or_method", words ["__class_getitem__"]),
       (.value "getset_descriptor", words ["groupindex"]),
       (.value "member_descriptor", words ["flags groups pattern"]),
       (.value "method_descriptor", words
         ["__copy__ __deepcopy__ findall finditer fullmatch match scanner search split sub",
          "subn"])]
    onValue :=
      [(.value "builtin_method", words ["finditer fullmatch match scanner search sub subn"]),
       (.value "dict", words ["groupindex"]),
       (.value "int", words ["flags groups"]),
       (.value "str", words ["__doc__ __module__ pattern"])] },
  { key := "Exception", ancestors := ["BaseException", "object"] },
  { key := "_frozen_importlib_external.SourceLoader"
    ancestors := ["_frozen_importlib_external._LoaderBasics", "object"]
    onClass :=
      [(.value "NoneType", words ["__doc__"]),
       (.value "function", words
         ["_cache_bytecode get_code get_source path_mtime path_stats set_data source_to_code"])] },
  { key := "logging.Logger", ancestors := ["logging.Filterer", "object"]
    onClass :=
      [(.value "function", words
         ["__reduce__ __repr__ _log addHandler callHandlers critical debug error exception",
          "fatal findCaller getChild getEffectiveLevel handle hasHandlers info isEnabledFor",
          "log makeRecord removeHandler setLevel warn warning"]),
       (.value "logging.Manager", words ["manager"]),
       (.value "logging.RootLogger", words ["root"])]
    onValue :=
      [(.value "NoneType", words ["__weakref__"]),
       (.value "bool", words ["disabled propagate"]),
       (.value "dict", words ["__dict__ _cache"]),
       (.value "int", words ["level"]),
       (.value "list", words ["filters handlers"]),
       (.value "logging.RootLogger", words ["parent"]),
       (.value "str", words ["__doc__ __module__ name"])] },
  { key := "pathlib.Path", ancestors := ["pathlib.PurePath", "object"]
    onClass :=
      [(.value "function", words
         ["__enter__ __exit__ _make_child_relpath _scandir absolute chmod exists expanduser",
          "glob group hardlink_to is_block_device is_char_device is_dir is_fifo is_file",
          "is_mount is_socket is_symlink iterdir lchmod link_to lstat mkdir open owner",
          "read_bytes read_text readlink rename replace resolve rglob rmdir samefile stat",
          "symlink_to touch unlink write_bytes write_text"]),
       (.value "method", words ["cwd home"])] },
  { key := "RuntimeError", ancestors := ["Exception", "BaseException", "object"] },
  { key := "logging.RootLogger", ancestors := ["logging.Logger", "logging.Filterer", "object"]
    onValue :=
      [(.value "NoneType", words ["parent"])] },
  { key := "_frozen_importlib_external.SourceFileLoader"
    ancestors :=
      ["_frozen_importlib_external.FileLoader", "_frozen_importlib_external.SourceLoader",
       "_frozen_importlib_external._LoaderBasics", "object"]
    onClass :=
      [(.value "str", words ["__doc__"])]
    onValue :=
      [(.value "NoneType", words ["__weakref__"]),
       (.value "dict", words ["__dict__"]),
       (.value "str", words ["__module__ name path"])] }]

end Timebox.Catalogue
