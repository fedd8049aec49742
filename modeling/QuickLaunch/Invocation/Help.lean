import QuickLaunch.Invocation.Basic

/-!
# Help

What the program prints when it is asked for help, about a command or in general.
-/

namespace QuickLaunch.Invocation

/-- The line about the request for help in the list of options, with a gap before its second
column. -/
def helpLine (gap : String) : String :=
  "  -h, --help" ++ gap ++ "show this help message and exit"

/-- The lines of general help. -/
def generalHelp : List String := [
  "usage: palette [-h] [--config CONFIG] [--settings SETTINGS]",
  "               [--log-level LOG_LEVEL]",
  "               \x7bresolve,run,search,filters\x7d ...",
  "",
  "Command-palette launcher",
  "",
  "positional arguments:",
  "  \x7bresolve,run,search,filters\x7d",
  "    resolve             Print the action a command resolves to",
  "    run                 Resolve and execute a command",
  "    search              Search applications and pinned actions",
  "    filters             List configured app filters",
  "",
  "options:",
  helpLine "            ",
  "  --config CONFIG       Launcher JSON document (overrides settings)",
  "  --settings SETTINGS   Settings TOML file",
  "  --log-level LOG_LEVEL",
  "                        Log level (overrides settings)"]

/-- The lines of help about a command that takes a command string. -/
def commandHelp (name : String) : List String := [
  "usage: palette " ++ name ++ " [-h] command",
  "",
  "positional arguments:",
  "  command",
  "",
  "options:",
  helpLine "  "]

/-- The lines of help about a command. -/
def Topic.help : Topic → List String
  | .resolve => commandHelp "resolve"
  | .run => commandHelp "run"
  | .search => [
    "usage: palette search [-h] [--filter FILTER] text",
    "",
    "positional arguments:",
    "  text",
    "",
    "options:",
    helpLine "       ",
    "  --filter FILTER  App filter name"]
  | .filters => [
    "usage: palette filters [-h]",
    "",
    "options:",
    helpLine "  "]

/-- The lines of help about a command or in general. -/
def help : Option Topic → List String
  | none => generalHelp
  | some topic => topic.help

end QuickLaunch.Invocation
