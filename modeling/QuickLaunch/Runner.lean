import QuickLaunch.Shell.Interpreter

/-!
# Running actions

Running an action attempts its steps one after another and gives an outcome for each attempt. A step
of a workflow is skipped when something that it would open is not there; whether it is, is looked up
right before the step. A failure stops nothing.

* `Runner.canRun`: whether everything that an action opens is there;
* `Runner.outcomes`: running an action, with an outcome for each attempt;
* `Runner.perform`: running an action and telling the log how each attempt came out;
* `Runner.run`, `Runner.execute`: what both of them make of a host;
* `Runner.runOn_outcomes`, `Runner.runOn_perform`: no fault of an attempt leaves them.
-/

namespace QuickLaunch

/-- How an attempt came out. -/
inductive Status where
  /-- It was carried out. -/
  | done
  /-- A step of a workflow was skipped since something it opens is not there. -/
  | notReady
  /-- A file to open is not there. -/
  | fileMissing (path : String)
  /-- It failed. -/
  | failed (cause : Fault)
  deriving DecidableEq, Repr, Inhabited

/-- How an attempt came out whose operation had this result. -/
def Status.ofResult : Except Fault Unit → Status
  | .ok () => .done
  | .error fault => .failed fault

/-- The result of attempting an action. -/
structure Outcome where
  action : Action
  status : Status
  deriving DecidableEq, Repr, Inhabited

namespace Outcome

/-- What there is to say about the outcome. -/
def detail (o : Outcome) : String :=
  match o.status with
  | .done => ""
  | .notReady => "precondition failed"
  | .fileMissing path => s!"file not found: {path}"
  | .failed cause => cause.message

/-- The fault that was met in the attempt. An action that cannot be attempted meets none. -/
def fault? (o : Outcome) : Option Fault :=
  match o.status with
  | .failed (.unsupportedAction _) => none
  | .failed cause => some cause
  | _ => none

/-- What the log is told. -/
def event (o : Outcome) : Event :=
  match o.status with
  | .done => .ran o.action
  | .notReady | .fileMissing _ => .skipped o.action o.detail
  | .failed _ => .failed o.action o.detail o.fault?

end Outcome

namespace Runner

mutual

/-- Everything that the action opens is there. -/
def canRun (t : Tree) : Action → Bool
  | .noop | .shell _ => true
  | .launch path => t.isFile path
  | .workflow steps => canRunAll t steps
  | .foreign _ => false

/-- Everything that the actions open is there. -/
def canRunAll (t : Tree) : List Action → Bool
  | [] => true
  | a :: rest => canRun t a && canRunAll t rest

end

/-- Whether everything that an action opens is there now. -/
def ready (a : Action) : Session Bool :=
  return canRun (← Session.tree) a

/-- Open a file. -/
def openFile (path : String) : Session Unit := do
  let desktop := (← Session.environment).desktop
  Session.start (openRequest desktop path) (openTies desktop)

/-- Hand a command to the interpreter. -/
def runCommand (i : Interpreter) (command : String) : Session Unit := do
  let request ← Session.ofExcept (i.request (← Session.environment).family command)
  Session.start request (some commandTies)

/-- Attempt an operation for an action. A fault ends the operation and nothing else. -/
def attempt (a : Action) (operation : Session Unit) : Session Outcome := do
  try
    operation
    pure ⟨a, .done⟩
  catch fault => pure ⟨a, .failed fault⟩

mutual

/-- Run an action. -/
def outcomes (i : Interpreter) : Action → Session (List Outcome)
  | .noop => return []
  | .workflow steps => stepOutcomes i steps
  | .launch path => do
    if (← Session.tree).isFile path then return [← attempt (.launch path) (openFile path)]
    else return [⟨.launch path, .fileMissing path⟩]
  | .shell command => return [← attempt (.shell command) (runCommand i command)]
  | .foreign typeName => return [⟨.foreign typeName, .failed (.unsupportedAction typeName)⟩]

/-- Run the steps of a workflow, skipping those that cannot be run when their turn comes. -/
def stepOutcomes (i : Interpreter) : List Action → Session (List Outcome)
  | [] => return []
  | a :: rest => do
    if ← ready a then
      let first ← outcomes i a
      let others ← stepOutcomes i rest
      return first ++ others
    else
      let others ← stepOutcomes i rest
      return ⟨a, .notReady⟩ :: others

end

/-- Run an action and tell the log how each attempt came out. -/
def perform (i : Interpreter) (a : Action) : Session Unit := do
  Session.note ((← outcomes i a).map Outcome.event)

/-- The host that running an action leaves, and the outcomes. -/
def run (i : Interpreter) (h : Host) (a : Action) : Host × List Outcome :=
  match (outcomes i a).runOn h with
  | (.ok os, h) => (h, os)
  | (.error _, h) => (h, [])

/-- The host after running an action and telling the log. -/
def execute (i : Interpreter) (h : Host) (a : Action) : Host :=
  ((perform i a).runOn h).2

/-! ## Laws -/

variable (i : Interpreter) (h : Host)

theorem runOn_ready (a : Action) : (ready a).runOn h = (.ok (canRun h.tree a), h) := rfl

/-- Whatever an operation does, its attempt has an outcome, and what it did to the host remains. -/
theorem runOn_attempt (a : Action) (operation : Session Unit) :
    (attempt a operation).runOn h =
      (.ok ⟨a, .ofResult (operation.runOn h).1⟩, (operation.runOn h).2) := by
  rw [attempt, Session.runOn_tryCatch, Session.runOn_bind]
  rcases operation.runOn h with ⟨_ | _, h'⟩ <;> rfl

theorem runOn_openFile (path : String) :
    (openFile path).runOn h =
      h.start (openRequest h.environment.desktop path) (openTies h.environment.desktop) := by
  simp [openFile, Session.runOn_bind]

theorem runOn_runCommand (command : String) :
    (runCommand i command).runOn h =
      match i.request h.environment.family command with
      | .ok request => h.start request (some commandTies)
      | .error fault => (.error fault, h) := by
  simp only [runCommand, Session.runOn_bind, Session.runOn_environment, Session.runOn_ofExcept]
  cases i.request h.environment.family command <;> simp

mutual

/-- No fault of an attempt ends a run. -/
theorem exists_runOn_outcomes (i : Interpreter) :
    (h : Host) → (a : Action) → ∃ os h', (outcomes i a).runOn h = (.ok os, h')
  | h, .noop => ⟨_, _, rfl⟩
  | h, .foreign typeName => ⟨_, _, rfl⟩
  | h, .shell command => by simp [outcomes, runOn_attempt]
  | h, .launch path => by
    simp only [outcomes, Session.runOn_bind, Session.runOn_tree]
    split <;> simp [runOn_attempt]
  | h, .workflow steps => exists_runOn_stepOutcomes i h steps

theorem exists_runOn_stepOutcomes (i : Interpreter) :
    (h : Host) → (steps : List Action) → ∃ os h', (stepOutcomes i steps).runOn h = (.ok os, h')
  | h, [] => ⟨_, _, rfl⟩
  | h, a :: rest => by
    simp only [stepOutcomes, Session.runOn_bind, runOn_ready]
    split
    · obtain ⟨first, h₁, hf⟩ := exists_runOn_outcomes i h a
      obtain ⟨others, h₂, ho⟩ := exists_runOn_stepOutcomes i h₁ rest
      simp [Session.runOn_bind, hf, ho]
    · obtain ⟨others, h₁, ho⟩ := exists_runOn_stepOutcomes i h rest
      simp [ho]

end

/-- Running an action ends with outcomes and without a fault. -/
theorem runOn_outcomes (a : Action) :
    (outcomes i a).runOn h = (.ok (run i h a).2, (run i h a).1) := by
  obtain ⟨os, h', e⟩ := exists_runOn_outcomes i h a
  simp [run, e]

/-- Performing an action ends without a fault. -/
theorem runOn_perform (a : Action) :
    (perform i a).runOn h =
      (.ok (), (run i h a).1.note ((run i h a).2.map Outcome.event)) := by
  simp [perform, Session.runOn_bind, runOn_outcomes]

theorem execute_eq (a : Action) :
    execute i h a = (run i h a).1.note ((run i h a).2.map Outcome.event) := by
  rw [execute, runOn_perform]

/-! ### What a run does, action by action -/

@[simp] theorem run_noop : run i h .noop = (h, []) := rfl

@[simp] theorem run_foreign (typeName : String) :
    run i h (.foreign typeName) =
      (h, [⟨.foreign typeName, .failed (.unsupportedAction typeName)⟩]) := rfl

theorem run_launch_of_isFile {path : String} (hf : h.tree.isFile path = true) :
    run i h (.launch path) =
      (((openFile path).runOn h).2, [⟨.launch path, .ofResult ((openFile path).runOn h).1⟩]) := by
  simp [run, outcomes, Session.runOn_bind, runOn_attempt, hf]

theorem run_launch_of_not_isFile {path : String} (hf : h.tree.isFile path = false) :
    run i h (.launch path) = (h, [⟨.launch path, .fileMissing path⟩]) := by
  simp [run, outcomes, Session.runOn_bind, hf]

theorem run_shell (command : String) :
    run i h (.shell command) =
      (((runCommand i command).runOn h).2,
        [⟨.shell command, .ofResult ((runCommand i command).runOn h).1⟩]) := by
  simp [run, outcomes, runOn_attempt]

@[simp] theorem run_workflow_nil : run i h (.workflow []) = (h, []) := rfl

theorem run_workflow_cons_of_canRun {a : Action} {rest : List Action}
    (ha : canRun h.tree a = true) :
    run i h (.workflow (a :: rest)) =
      ((run i (run i h a).1 (.workflow rest)).1,
        (run i h a).2 ++ (run i (run i h a).1 (.workflow rest)).2) := by
  have hr := runOn_outcomes i (run i h a).1 (.workflow rest)
  rw [outcomes] at hr
  rw [run, outcomes, stepOutcomes]
  simp [Session.runOn_bind, runOn_ready, ha, runOn_outcomes, hr]

theorem run_workflow_cons_of_not_canRun {a : Action} {rest : List Action}
    (ha : canRun h.tree a = false) :
    run i h (.workflow (a :: rest)) =
      ((run i h (.workflow rest)).1, ⟨a, .notReady⟩ :: (run i h (.workflow rest)).2) := by
  have hr := runOn_outcomes i h (.workflow rest)
  rw [outcomes] at hr
  rw [run, outcomes, stepOutcomes]
  simp [Session.runOn_bind, runOn_ready, ha, hr]

end Runner

end QuickLaunch
