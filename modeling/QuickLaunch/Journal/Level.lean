import QuickLaunch.Text.Case

/-!
# Log levels

The seven levels of the log, in order of severity, and their names.
-/

namespace QuickLaunch

/-- A level of the log. -/
inductive Level where
  | trace | debug | info | success | warning | error | critical
  deriving DecidableEq, Repr, Inhabited

namespace Level

/-- All levels, the least severe first. -/
def all : List Level :=
  [.trace, .debug, .info, .success, .warning, .error, .critical]

/-- The name of a level. -/
def name : Level → String
  | .trace => "TRACE"
  | .debug => "DEBUG"
  | .info => "INFO"
  | .success => "SUCCESS"
  | .warning => "WARNING"
  | .error => "ERROR"
  | .critical => "CRITICAL"

/-- How severe a level is. -/
def severity : Level → Nat
  | .trace => 5
  | .debug => 10
  | .info => 20
  | .success => 25
  | .warning => 30
  | .error => 40
  | .critical => 50

/-- A line of this level passes a log that starts at `threshold`. -/
def passes (l threshold : Level) : Bool :=
  decide (threshold.severity ≤ l.severity)

/-- The level that a name in upper case letters names. -/
def ofName? (s : String) : Option Level :=
  all.find? (·.name == s)

end Level

end QuickLaunch
