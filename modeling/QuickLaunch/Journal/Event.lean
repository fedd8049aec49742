import QuickLaunch.Action
import QuickLaunch.Document.Printed
import QuickLaunch.Fault
import QuickLaunch.Journal.Level

/-!
# Log events

Everything the launcher writes to its log, one constructor for each kind of line. `Event.level` is
the level of the line, `Event.text` its text and `Event.cause?` the fault that it reports.
-/

namespace QuickLaunch

/-- An event that the log tells. -/
inductive Event where
  /-- A step asks for a workflow inside a workflow. -/
  | nestedWorkflow (segment : String)
  /-- The list of applications is a new one. -/
  | applicationsReplaced (count : Nat)
  /-- An action was not attempted. -/
  | skipped (action : Action) (detail : String)
  /-- An action was attempted in vain; `cause` is missing when nothing could be attempted. -/
  | failed (action : Action) (detail : String) (cause : Option Fault)
  /-- An action was carried out. -/
  | ran (action : Action)
  /-- A directory of shortcuts is not there. -/
  | directoryMissing (directory : String)
  /-- The index is complete. -/
  | indexed (count : Nat)
  /-- There is no settings file. -/
  | settingsMissing (path : String)
  /-- The settings file cannot be used. -/
  | settingsUnreadable (path : String) (cause : Fault)
  /-- The default settings are used instead. -/
  | settingsDefaulted
  /-- A configuration was written where there was none. -/
  | configurationCreated (path : String)
  /-- The configuration cannot be read. -/
  | configurationUnreadable (path : String) (cause : Fault)
  /-- The configuration is no table. -/
  | rootMalformed (kindName : String)
  /-- A section of the configuration is no list. -/
  | sectionMalformed (key : String)
  /-- An entry of a section is no table. -/
  | entryMalformed (key : String) (entry : Value)
  /-- A filter without a predicate is left out. -/
  | filterIgnored (name : String)
  /-- The first search result is carried out. -/
  | activating (title : String)
  /-- An action is about to be run although it cannot be carried out as a whole. -/
  | preconditionMissing (action : Action)
  /-- No filter has the name. -/
  | filterUnknown (name : String)
  deriving Inhabited

namespace Event

/-- The level of the line. -/
def level : Event → Level
  | .nestedWorkflow _ | .applicationsReplaced _ | .ran _ | .directoryMissing _ | .indexed _
  | .settingsMissing _ | .filterIgnored _ => .debug
  | .settingsDefaulted | .configurationCreated _ | .activating _ => .info
  | .skipped .. | .settingsUnreadable .. | .rootMalformed _ | .sectionMalformed _
  | .entryMalformed .. | .preconditionMissing _ => .warning
  | .failed .. | .configurationUnreadable .. | .filterUnknown _ => .error

/-- The text of the line. -/
def text : Event → String
  | .nestedWorkflow segment => s!"Nested workflow step treated as a path: {segment}"
  | .applicationsReplaced count => s!"Application list replaced ({count} items)"
  | .skipped action detail => s!"Skipped {action.label}: {detail}"
  | .failed action detail _ => s!"Failed to run {action.label}: {detail}"
  | .ran action => s!"Ran {action.label}"
  | .directoryMissing directory => s!"Shortcut directory not found: {directory}"
  | .indexed count => s!"Indexed {count} shortcuts"
  | .settingsMissing path => s!"Settings file not found at {path}, using defaults"
  | .settingsUnreadable path cause => s!"Could not load settings from {path}: {cause.message}"
  | .settingsDefaulted => "Using default settings"
  | .configurationCreated path => s!"Created default configuration at {path}"
  | .configurationUnreadable path _ => s!"Failed to load configuration from {path}"
  | .rootMalformed kindName => s!"Configuration root is {kindName}, expected an object"
  | .sectionMalformed key => s!"Skipping section '{key}': expected a list"
  | .entryMalformed key entry => s!"Skipping malformed entry in '{key}': {entry.printed}"
  | .filterIgnored name => s!"Ignoring filter '{name}' with empty predicate"
  | .activating title => s!"Activating '{title}'"
  | .preconditionMissing action => s!"Precondition does not hold for {action.text}"
  | .filterUnknown name => s!"Unknown filter: {name}"

/-- The fault that the line reports. -/
def cause? : Event → Option Fault
  | .failed _ _ cause => cause
  | .configurationUnreadable _ cause => some cause
  | _ => none

end Event

end QuickLaunch
