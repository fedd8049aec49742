import QuickLaunch.Runner
import QuickLaunch.Settings.Basic

/-!
# The resident interpreter

A program that only runs actions keeps one interpreter. It is made from the default settings file
when it is first needed, and from then on it stays as it is. When it cannot be made, the next use
tries again.

* `Resident.use`: the interpreter, made if it has to be;
* `Resident.canRun`, `Resident.execute`: running actions with it.
-/

namespace QuickLaunch

/-- The interpreter that is kept, if it was made, and the host. -/
structure Resident where
  host : Host
  interpreter : Option Interpreter := none
  deriving Inhabited

namespace Resident

/-- The interpreter of the default settings file. -/
def fromSettings : Session Interpreter := do
  let settings ← Settings.load none
  Session.ofExcept (Interpreter.ofSettings (← Session.environment).family (.table settings))

/-- The interpreter, made if it has to be. -/
def use (r : Resident) : Resident × Except Fault Interpreter :=
  match r.interpreter with
  | some i => (r, .ok i)
  | none =>
    match fromSettings.run.run r.host with
    | (.ok i, h) => ({ host := h, interpreter := some i }, .ok i)
    | (.error fault, h) => ({ r with host := h }, .error fault)

/-- Whether everything that an action opens is there. -/
def canRun (r : Resident) (a : Action) : Resident × Except Fault Bool :=
  let (r, i) := r.use
  (r, i.map fun _ => Runner.canRun r.host.tree a)

/-- Run an action and tell the log how each attempt came out. -/
def execute (r : Resident) (a : Action) : Resident × Except Fault Unit :=
  match r.use with
  | (r, .ok i) =>
    let (result, h) := (Runner.perform i a).runOn r.host
    ({ r with host := h }, result)
  | (r, .error fault) => (r, .error fault)

end Resident

end QuickLaunch
