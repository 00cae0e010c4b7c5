import Timebox.Catalogue.Kind

/-!
# Kinds of the runner

The classes of the runner itself: journeys and their surroundings, arguments, faults, what listeners
are told, events and their sinks, alarms and waiters.
-/

namespace Timebox.Catalogue

/-- What every class of its own has. -/
def plainMembers : Members := [(.value "getset_descriptor", words ["__weakref__"])]

/-- What every class of records has. -/
def fieldMembers : Members :=
  plainMembers ++
  [(.value "dataclasses._DataclassParams", words ["__dataclass_params__"]),
   (.value "dict", words ["__dataclass_fields__"]),
   (.value "function", words ["__eq__ __init__ __repr__"]),
   (.value "tuple", words ["__match_args__"])]

/-- What a class of records has whose fields may change. -/
def recordMembers : Members := fieldMembers ++ [(.value "NoneType", words ["__hash__"])]

/-- What a class of records has whose fields stay as they are. -/
def frozenRecordMembers : Members :=
  fieldMembers ++ [(.value "function", words ["__delattr__ __hash__ __setattr__"])]

/-- A class of words. -/
def enumeration (key : String) (cases : List String) : Kind :=
  { key, ancestors := ["str", "enum.Enum", "object"], family := "enum.EnumType", terse := true
    onClass :=
      [(.value key, cases),
       (.class "str", words ["_member_type_"]),
       (.value "NoneType", words ["__doc__"]),
       (.value "builtin_function_or_method", words ["_new_member_"]),
       (.value "wrapper_descriptor", words ["__hash__ _value_repr_"])]
    onValue :=
      [(.class key, words ["__objclass__"]),
       (.value "NoneType", words ["__weakref__"]),
       (.value "dict", words ["__dict__"]),
       (.value "int", words ["_sort_order_"]),
       (.value "str", words ["__module__ _name_ _value_ name value"])] }

/-- Kinds of the runner. -/
def runnerKinds : List Kind := [
  { key := "ArgumentToken"
    onClass :=
      recordMembers ++
      [(.value "bool", words ["restored"])] },
  { key := "ArgumentStore"
    onClass :=
      plainMembers ++
      [(.value "function", words
         ["__contains__ __init__ __len__ as_dict get get_int override restore",
          "same_string_pairs snapshot"])] },
  { key := "ScheduledRunnerError"
    ancestors := ["RuntimeError", "Exception", "BaseException", "object"]
    onClass :=
      plainMembers ++
      [(.value "function", words ["__init__"]),
       (.value "str", words ["code"])] },
  { key := "InitializationError"
    ancestors := ["ScheduledRunnerError", "RuntimeError", "Exception", "BaseException", "object"] },
  { key := "ArgumentError"
    ancestors := ["ScheduledRunnerError", "RuntimeError", "Exception", "BaseException", "object"]
    onClass :=
      [(.value "NoneType", words ["__doc__"])] },
  { key := "ProfileError"
    ancestors := ["ScheduledRunnerError", "RuntimeError", "Exception", "BaseException", "object"]
    onClass :=
      [(.value "NoneType", words ["__doc__"])] },
  { key := "JourneyCancelled"
    ancestors := ["ScheduledRunnerError", "RuntimeError", "Exception", "BaseException", "object"] },
  { key := "JourneyTimedOut", ancestors := ["Exception", "BaseException", "object"]
    onClass :=
      plainMembers ++
      [(.value "function", words ["__init__ timeout_ms"]),
       (.value "str", words ["code"])] },
  { key := "JourneyContext"
    onClass :=
      recordMembers ++
      [(.value "function", words ["check_cancelled idle"])] },
  { key := "Journey"
    onClass :=
      plainMembers ++
      [(.value "function", words ["run set_up tear_down"])] },
  { key := "NarrativeFilter", ancestors := ["logging.Filter", "object"]
    onClass :=
      [(.value "NoneType", words ["__doc__"])] },
  enumeration "AfterTest" (words ["STAY_IN_APP EXIT"]),
  enumeration "RunStatus" (words ["PASSED FAILED TIMED_OUT IGNORED"]),
  { key := "RunOutcome"
    onClass :=
      frozenRecordMembers ++
      [(.value "NoneType", words ["error"]),
       (.value "property", words ["passed"])] },
  { key := "JourneyDescription"
    onClass :=
      frozenRecordMembers ++
      [(.value "function", words ["as_dict"]),
       (.value "property", words ["display_name"]),
       (.value "str", words ["scenario_at"])] },
  { key := "Failure"
    onClass :=
      frozenRecordMembers ++
      [(.value "function", words ["as_dict"]),
       (.value "property", words ["message"])] },
  { key := "RunListener"
    onClass :=
      plainMembers ++
      [(.value "NoneType", words ["__doc__"]),
       (.value "function", words ["test_failure test_finished test_ignored test_started"])] },
  { key := "RunNotifier"
    onClass :=
      plainMembers ++
      [(.value "NoneType", words ["__doc__"]),
       (.value "function", words
         ["__init__ _fire add_listener fire_test_failure fire_test_finished",
          "fire_test_ignored fire_test_started"])] },
  { key := "ListenerEvent"
    onClass :=
      frozenRecordMembers ++
      [(.value "NoneType", words ["failure"]),
       (.value "function", words ["as_dict"])] },
  { key := "RecordingListener", ancestors := ["RunListener", "object"]
    onClass :=
      [(.value "function", words ["__init__ kinds"]),
       (.value "property", words ["failures finished ignored started"])] },
  enumeration "ObsPhase"
    (words ["ARGS GATE EXECUTE IDLE_BEFORE_TEARDOWN TEARDOWN IDLE_BEFORE_NEXT"]),
  enumeration "ObsOutcome" (words ["OK FAIL TIMEOUT SKIP"]),
  enumeration "ObsSeverity" (words ["INFO ERROR"]),
  { key := "ObsEvent"
    onClass :=
      frozenRecordMembers ++
      [(.value "NoneType", words ["details"]),
       (.value "function", words ["to_dict"]),
       (.value "method", words ["now"])] },
  { key := "ObsSink"
    onClass :=
      plainMembers ++
      [(.value "NoneType", words ["__doc__"]),
       (.value "function", words ["emit"])] },
  { key := "NullObsSink", ancestors := ["ObsSink", "object"] },
  { key := "CompositeObsSink", ancestors := ["ObsSink", "object"]
    onClass :=
      [(.value "function", words ["__init__"])] },
  { key := "ConsoleObsSink", ancestors := ["ObsSink", "object"]
    onClass :=
      [(.value "function", words ["__init__"]),
       (.value "str", words ["__doc__"])] },
  { key := "MetricsObsSink", ancestors := ["ObsSink", "object"]
    onClass :=
      [(.value "function", words ["__init__ idle_ms snapshot"]),
       (.value "str", words ["__doc__"])] },
  enumeration "RunnerState" (words
    ["INIT ARGS_OVERRIDDEN SKIPPED RUNNING PASSED FAILED TIMED_OUT IDLE_BEFORE_TEARDOWN",
     "TEARDOWN IDLE_BEFORE_NEXT ARGS_RESTORED DONE"]),
  { key := "ScheduledScenarioRunner"
    onClass :=
      plainMembers ++
      [(.value "function", words
         ["__init__ _emit _read_teardown_leeway _record_outcome _run_journey",
          "_should_idle_before_teardown _tear_down _transition is_ignored",
          "perform_idle_before_next_scenario perform_idle_before_teardown run"]),
       (.value "property", words ["effective_deadline_ms teardown_leeway_ms"])] },
  { key := "PassingJourney", ancestors := ["Journey", "object"] },
  { key := "LongIdleJourney", ancestors := ["Journey", "object"] },
  { key := "ConfiguredIdleJourney", ancestors := ["Journey", "object"] },
  { key := "FailingJourney", ancestors := ["Journey", "object"]
    onClass :=
      [(.value "NoneType", words ["__doc__"])] },
  { key := "TimeoutEnforcer"
    onClass :=
      plainMembers ++
      [(.value "function", words ["__init__ run"])] },
  { key := "Alarm"
    onClass :=
      plainMembers ++
      [(.value "NoneType", words ["__doc__"]),
       (.value "function", words ["cancel set"])] },
  { key := "NullAlarm", ancestors := ["Alarm", "object"] },
  { key := "_AlarmToken"
    onClass := recordMembers },
  { key := "BoottimeAlarm", ancestors := ["Alarm", "object"]
    onClass :=
      [(.value "function", words ["__init__ _watch"]),
       (.value "str", words ["__doc__"])] },
  { key := "Waiter"
    onClass :=
      plainMembers ++
      [(.value "NoneType", words ["__doc__"]),
       (.value "function", words ["wait"])] },
  { key := "SuspensionAwareWaiter", ancestors := ["Waiter", "object"]
    onClass :=
      [(.value "function", words ["__init__"])] },
  { key := "RunnerProfile", ancestors := ["pydantic.main.BaseModel", "object"]
    family := "pydantic._internal._model_construction.ModelMetaclass"
    terse := true
    onClass :=
      [(.value "function", words ["as_options"])] },
  { key := "ExtraArg", ancestors := ["pydantic.main.BaseModel", "object"]
    family := "pydantic._internal._model_construction.ModelMetaclass"
    terse := true
    onClass :=
      [(.value "function", words ["__hash__"]),
       (.value "method", words ["_scalar_to_str"])] },
  { key := "ScenarioDescriptor", ancestors := ["pydantic.main.BaseModel", "object"]
    family := "pydantic._internal._model_construction.ModelMetaclass"
    terse := true
    onClass :=
      [(.value "function", words ["__hash__ extra_pairs"]),
       (.value "method", words ["_coerce_extras"])] }]

end Timebox.Catalogue
