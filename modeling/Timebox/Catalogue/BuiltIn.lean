import Timebox.Catalogue.Kinds.Annotation
import Timebox.Catalogue.Kinds.Core
import Timebox.Catalogue.Kinds.Model
import Timebox.Catalogue.Kinds.Plain
import Timebox.Catalogue.Kinds.Runner
import Timebox.Catalogue.Kinds.Service
import Timebox.Catalogue.Outside

/-!
# The built-in catalogue

The modules that identifiers can name, and the journeys among their classes. Four sample journeys
behave predictably, for demonstrations and checks: one finishes at once, one idles until it is
cancelled, one idles as long as an argument says, and one fails.
-/

namespace Timebox.Catalogue

/-! ### Journeys -/

/-- Commands of a built-in journey; they leave no note in the log. -/
def silently (steps : List Step) : List Command :=
  steps.map fun s => { phase := .run, step := s, recorded := false }

/-- The journey that others inherit from; it does not say how it runs. -/
def baseJourney : Journey :=
  { name := "longevity.scheduled_runner.journey.Journey"
    run := silently [.raise Blueprint.notImplemented] }

/-- Finishes at once. -/
def passingJourney : Journey :=
  { name := "longevity.scheduled_runner.samples.PassingJourney" }

/-- Idles minute by minute until it is cancelled. -/
def longIdleJourney : Journey :=
  { name := "longevity.scheduled_runner.samples.LongIdleJourney"
    run := silently [.idleLoop ⟨60000, by decide⟩, .check] }

/-- Idles as long as an argument says. -/
def configuredIdleJourney : Journey :=
  { name := "longevity.scheduled_runner.samples.ConfiguredIdleJourney"
    run := silently [.idleArgument "sample-idle-ms" 0, .check] }

/-- Fails at once. -/
def failingJourney : Journey :=
  { name := "longevity.scheduled_runner.samples.FailingJourney"
    run := silently [.raise (.general .assertion (some "sample journey failed"))] }

/-- A class that can be run but not constructed without arguments. -/
def runnerAsJourney : Journey :=
  { name := "longevity.scheduled_runner.runner.ScheduledScenarioRunner"
    construction := [Journey.raising (.general .badType (some
      ("ScheduledScenarioRunner.__init__() missing 4 required positional arguments: " ++
        "'journey', 'scenario', 'window_ms', and 'should_idle'")))]
    setUp := none
    tearDown := none }

/-- A class whose run takes more than a journey's run is given. -/
def enforcerAsJourney : Journey :=
  { name := "longevity.scheduled_runner.timeout.TimeoutEnforcer"
    setUp := none
    run := silently [.raise (.general .badType (some
      "TimeoutEnforcer.run() missing 1 required positional argument: 'deadline_ms'"))]
    tearDown := none }

/-! ### Modules -/

/-- The module `longevity`. -/
def rootModule : ModuleEntry :=
  { path := "longevity", isPackage := true
    attributes :=
      [(.value "list", words ["__all__"]),
       (.module "longevity.scheduled_runner", words ["scheduled_runner"])] }

/-- The module `longevity.scheduled_runner`. -/
def packageModule : ModuleEntry :=
  { path := "longevity.scheduled_runner", isPackage := true
    attributes :=
      namesakes (words
         ["ArgumentStore ArgumentToken InitializationError JourneyTimedOut Journey",
          "JourneyContext AfterTest ExtraArg Failure JourneyDescription RunOutcome RunStatus",
          "ScenarioDescriptor RecordingListener RunListener RunNotifier RunnerState",
          "ScheduledScenarioRunner TimeoutEnforcer Alarm BoottimeAlarm NullAlarm",
          "SuspensionAwareWaiter"]) ++
      [(.value "function", words ["is_excluded"]),
       (.value "int", words ["TEARDOWN_LEEWAY_DEFAULT_MS"]),
       (.value "list", words ["__all__"]),
       (.value "str", words ["FILTER_OPTION TEARDOWN_LEEWAY_OPTION"]),
       (.value "wrapped function", words ["scoped"])] ++
      submodules "longevity.scheduled_runner" (words
        ["arguments cli config errors filters journey logging_utils models notifier obs",
         "runner samples timeout waiter"]) }

/-- The module `longevity.scheduled_runner.arguments`. -/
def argumentsModule : ModuleEntry :=
  { path := "longevity.scheduled_runner.arguments"
    attributes :=
      namesakes (words
         ["ArgumentError ExtraArg ArgumentToken ArgumentStore"]) ++
      [(.value "__future__._Feature", words ["annotations"]),
       (.value "function", words ["contextmanager dataclass field _pairs"]),
       (.value "logging.Logger", words ["logger"]),
       (.value "wrapped function", words ["scoped"]),
       (.standIn "typing._SpecialGenericAlias" "collections.abc.Iterable", words ["Iterable"]),
       (.standIn "typing._SpecialGenericAlias" "collections.abc.Iterator", words ["Iterator"]),
       (.standIn "typing._SpecialGenericAlias" "collections.abc.Mapping", words ["Mapping"]),
       (.class "typing.Any", words ["Any"]),
       (.module "logging", words ["logging"])] }

/-- The module `longevity.scheduled_runner.cli`. -/
def cliModule : ModuleEntry :=
  { path := "longevity.scheduled_runner.cli"
    attributes :=
      namesakes (words
         ["ArgumentStore RunnerProfile RecordingListener RunNotifier CompositeObsSink",
          "ConsoleObsSink MetricsObsSink ObsSink ScheduledScenarioRunner TimeoutEnforcer",
          "BoottimeAlarm SuspensionAwareWaiter"]) ++
      [(.value "__future__._Feature", words ["annotations"]),
       (.value "function", words
         ["load_profile load_scenario configure_logging boottime_ms _parse_arg parse_args",
          "_build_options main"]),
       (.value "str", words ["FILTER_OPTION TEARDOWN_LEEWAY_OPTION"]),
       (.class "pathlib.Path", words ["Path"]),
       (.module "argparse", words ["argparse"]),
       (.module "json", words ["json"]),
       (.module "logging", words ["logging"])] }

/-- The module `longevity.scheduled_runner.config`. -/
def configModule : ModuleEntry :=
  { path := "longevity.scheduled_runner.config"
    attributes :=
      namesakes (words
         ["ProfileError ScenarioDescriptor RunnerProfile"]) ++
      [(.value "__future__._Feature", words ["annotations"]),
       (.value "function", words
         ["Field _expand_str _expand_payload _load_mapping load_profile load_scenario"]),
       (.value "int", words
         ["TEARDOWN_LEEWAY_DEFAULT_MS DEFAULT_CANCEL_GRACE_MS DEFAULT_ALARM_POLL_MS"]),
       (.value "re.Pattern", words ["_VAR_PATTERN"]),
       (.value "str", words ["FILTER_OPTION TEARDOWN_LEEWAY_OPTION"]),
       (.class "pathlib.Path", words ["Path"]),
       (.class "pydantic.config.ConfigDict", words ["ConfigDict"]),
       (.class "pydantic.main.BaseModel", words ["BaseModel"]),
       (.class "pydantic_core._pydantic_core.ValidationError", words ["ValidationError"]),
       (.class "typing.Any", words ["Any"]),
       (.module "os", words ["os"]),
       (.module "re", words ["re"]),
       (.module "yaml", words ["yaml"])] }

/-- The module `longevity.scheduled_runner.errors`. -/
def errorsModule : ModuleEntry :=
  { path := "longevity.scheduled_runner.errors"
    attributes :=
      namesakes (words
         ["ScheduledRunnerError InitializationError ArgumentError ProfileError",
          "JourneyCancelled JourneyTimedOut"]) ++
      [(.value "__future__._Feature", words ["annotations"]),
       (.value "dict", words ["_UNIT_NAMES _UNIT_TO_MS"]),
       (.value "function", words ["reason_code"])] }

/-- The module `longevity.scheduled_runner.filters`. -/
def filtersModule : ModuleEntry :=
  { path := "longevity.scheduled_runner.filters"
    attributes :=
      [(.value "__future__._Feature", words ["annotations"]),
       (.value "function", words ["canonical_name normalize_name parse_filter is_excluded"]),
       (.value "str", words ["FILTER_OPTION"]),
       (.standIn "typing._SpecialGenericAlias" "collections.abc.Iterable", words ["Iterable"])] }

/-- The module `longevity.scheduled_runner.journey`. -/
def journeyModule : ModuleEntry :=
  { path := "longevity.scheduled_runner.journey"
    attributes :=
      namesakes (words
         ["ArgumentStore InitializationError JourneyCancelled JourneyContext Journey"]) ++
      [(.value "__future__._Feature", words ["annotations"]),
       (.value "function", words ["dataclass field _import_attr _locate resolve_journey"]),
       (.module "importlib", words ["importlib"]),
       (.module "threading", words ["threading"])] }

/-- The module `longevity.scheduled_runner.logging_utils`. -/
def loggingUtilsModule : ModuleEntry :=
  { path := "longevity.scheduled_runner.logging_utils"
    attributes :=
      namesakes (words
         ["NarrativeFilter"]) ++
      [(.value "__future__._Feature", words ["annotations"]),
       (.value "function", words ["configure_logging"]),
       (.class "pathlib.Path", words ["Path"]),
       (.module "logging", words ["logging"])] }

/-- The module `longevity.scheduled_runner.models`. -/
def modelsModule : ModuleEntry :=
  { path := "longevity.scheduled_runner.models"
    attributes :=
      namesakes (words
         ["AfterTest RunStatus ExtraArg ScenarioDescriptor RunOutcome JourneyDescription",
          "Failure"]) ++
      [(.value "__future__._Feature", words ["annotations"]),
       (.value "function", words ["dataclass Field field_validator"]),
       (.class "enum.Enum", words ["Enum"]),
       (.class "pydantic.config.ConfigDict", words ["ConfigDict"]),
       (.class "pydantic.main.BaseModel", words ["BaseModel"]),
       (.class "typing.Any", words ["Any"])] }

/-- The module `longevity.scheduled_runner.notifier`. -/
def notifierModule : ModuleEntry :=
  { path := "longevity.scheduled_runner.notifier"
    attributes :=
      namesakes (words
         ["Failure JourneyDescription RunListener RunNotifier ListenerEvent",
          "RecordingListener"]) ++
      [(.value "__future__._Feature", words ["annotations"]),
       (.value "function", words ["dataclass"]),
       (.value "logging.Logger", words ["logger"]),
       (.class "typing.Any", words ["Any"]),
       (.module "logging", words ["logging"])] }

/-- The module `longevity.scheduled_runner.obs`. -/
def obsModule : ModuleEntry :=
  { path := "longevity.scheduled_runner.obs"
    attributes :=
      namesakes (words
         ["ObsPhase ObsOutcome ObsSeverity ObsEvent ObsSink NullObsSink CompositeObsSink",
          "ConsoleObsSink MetricsObsSink"]) ++
      [(.value "__future__._Feature", words ["annotations"]),
       (.value "function", words ["dataclass"]),
       (.value "logging.Logger", words ["logger"]),
       (.value "tuple", words ["_IDLE_PHASES"]),
       (.class "collections.Counter", words ["Counter"]),
       (.class "collections.defaultdict", words ["defaultdict"]),
       (.class "datetime.datetime", words ["datetime"]),
       (.class "datetime.timezone", words ["timezone"]),
       (.class "enum.Enum", words ["Enum"]),
       (.class "typing.Any", words ["Any"]),
       (.class "typing.TextIO", words ["TextIO"]),
       (.module "json", words ["json"]),
       (.module "logging", words ["logging"]),
       (.module "sys", words ["sys"])] }

/-- The module `longevity.scheduled_runner.runner`. -/
def runnerModule : ModuleEntry :=
  { path := "longevity.scheduled_runner.runner"
    attributes :=
      namesakes (words
         ["ArgumentStore ArgumentError JourneyContext AfterTest Failure JourneyDescription",
          "RunOutcome RunStatus ScenarioDescriptor RunNotifier NullObsSink ObsEvent",
          "ObsOutcome ObsPhase ObsSeverity ObsSink TimeoutEnforcer SuspensionAwareWaiter",
          "Waiter RunnerState ScheduledScenarioRunner"]) ++
      [(.value "__future__._Feature", words ["annotations"]),
       (.value "dict", words ["_OBS_OUTCOMES"]),
       (.value "function", words
         ["reason_code canonical_name is_excluded resolve_journey boottime_ms"]),
       (.value "int", words ["TEARDOWN_LEEWAY_DEFAULT_MS"]),
       (.value "str", words ["FILTER_OPTION TEARDOWN_LEEWAY_OPTION"]),
       (.standIn "typing._CallableType" "collections.abc.Callable", words ["Callable"]),
       (.standIn "typing._SpecialGenericAlias" "collections.abc.Mapping", words ["Mapping"]),
       (.class "enum.Enum", words ["Enum"]),
       (.class "typing.Any", words ["Any"]),
       (.module "logging", words ["logging"]),
       (.module "threading", words ["threading"])] }

/-- The module `longevity.scheduled_runner.samples`. -/
def samplesModule : ModuleEntry :=
  { path := "longevity.scheduled_runner.samples"
    attributes :=
      namesakes (words
         ["Journey JourneyContext PassingJourney LongIdleJourney ConfiguredIdleJourney",
          "FailingJourney"]) ++
      [(.value "__future__._Feature", words ["annotations"]),
       (.value "str", words ["SAMPLE_IDLE_OPTION"])] }

/-- The module `longevity.scheduled_runner.timeout`. -/
def timeoutModule : ModuleEntry :=
  { path := "longevity.scheduled_runner.timeout"
    attributes :=
      namesakes (words
         ["JourneyCancelled JourneyTimedOut RunOutcome RunStatus TimeoutEnforcer"]) ++
      [(.value "__future__._Feature", words ["annotations"]),
       (.value "function", words ["boottime_ms"]),
       (.value "int", words ["DEFAULT_CANCEL_GRACE_MS"]),
       (.value "logging.Logger", words ["logger"]),
       (.standIn "typing._CallableType" "collections.abc.Callable", words ["Callable"]),
       (.module "logging", words ["logging"]),
       (.module "threading", words ["threading"])] }

/-- The module `longevity.scheduled_runner.waiter`. -/
def waiterModule : ModuleEntry :=
  { path := "longevity.scheduled_runner.waiter"
    attributes :=
      namesakes (words
         ["Alarm NullAlarm _AlarmToken BoottimeAlarm Waiter SuspensionAwareWaiter"]) ++
      [(.value "__future__._Feature", words ["annotations"]),
       (.value "function", words ["dataclass field boottime_ms"]),
       (.value "int", words ["DEFAULT_ALARM_POLL_MS"]),
       (.value "logging.Logger", words ["logger"]),
       (.standIn "typing._CallableType" "collections.abc.Callable", words ["Callable"]),
       (.module "logging", words ["logging"]),
       (.module "threading", words ["threading"]),
       (.module "time", words ["time"])] }

/-! ### The catalogue -/

/-- The modules that identifiers can name. -/
def builtIn : Catalogue :=
  { modules :=
      [rootModule, packageModule, argumentsModule, cliModule, configModule, errorsModule,
       filtersModule, journeyModule, loggingUtilsModule, modelsModule, notifierModule, obsModule,
       runnerModule, samplesModule, timeoutModule, waiterModule] ++ outsideModules
    kinds :=
      runnerKinds ++ coreKinds ++ plainKinds ++ serviceKinds ++ modelKinds ++ annotationKinds
    journeys :=
      [("Journey", baseJourney), ("PassingJourney", passingJourney),
       ("LongIdleJourney", longIdleJourney), ("ConfiguredIdleJourney", configuredIdleJourney),
       ("FailingJourney", failingJourney), ("ScheduledScenarioRunner", runnerAsJourney),
       ("TimeoutEnforcer", enforcerAsJourney)] }

end Timebox.Catalogue
