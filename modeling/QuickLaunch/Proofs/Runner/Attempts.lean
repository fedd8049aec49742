import QuickLaunch.Runner

/-!
# What a run is made of

A run attempts single actions, passes over what is nothing to do, enters workflows and skips steps.
`Attempted` lists everything that can become of one attempt, and `run_induction` reduces a property
of runs to these cases, so that later modules look into neither.

* `Action.leaves`: what stands at the ends of a tree of workflows;
* `Attempted`, `exists_attempted`: the outcome of an attempt and the host that it leaves;
* `step_induction`: what holds of leaves and is kept by workflows, step by step, holds of every
  action;
* `run_induction`: what holds of every attempt and is kept by workflows holds of every run;
* `frame_run`: what no run changes;
* `run_note`: the log plays no part in a run.
-/

namespace QuickLaunch

/-- The action is no workflow: what stands at the ends of a tree of workflows. -/
def Action.IsLeaf : Action → Prop
  | .workflow _ => False
  | _ => True

mutual

/-- The leaves of an action, from left to right. -/
def Action.leaves : Action → List Action
  | .workflow steps => leavesAll steps
  | .noop => [.noop]
  | .launch path => [.launch path]
  | .shell command => [.shell command]
  | .foreign typeName => [.foreign typeName]

/-- The leaves of actions, those of the first one first. -/
def Action.leavesAll : List Action → List Action
  | [] => []
  | a :: rest => leaves a ++ leavesAll rest

end

theorem Action.leaves_workflow_cons (a : Action) (rest : List Action) :
    (workflow (a :: rest)).leaves = a.leaves ++ (workflow rest).leaves := by
  rw [leaves, leavesAll, leaves]

theorem Action.leaves_of_isLeaf {a : Action} (hl : a.IsLeaf) : a.leaves = [a] := by
  cases a with
  | workflow steps => exact hl.elim
  | noop => rfl
  | launch path => rfl
  | shell command => rfl
  | foreign typeName => rfl

namespace Runner

/-- What becomes of attempting an action on a host: the outcome and the host that is left. -/
inductive Attempted (i : Interpreter) (h : Host) : Action → Outcome → Host → Prop where
  /-- The file is handed to its opener. -/
  | opened (path : String) : h.tree.isFile path = true →
      Attempted i h (.launch path)
        ⟨.launch path, .ofResult
          (h.start (openRequest h.environment.desktop path) (openTies h.environment.desktop)).1⟩
        (h.start (openRequest h.environment.desktop path) (openTies h.environment.desktop)).2
  /-- There is no file to open. -/
  | missing (path : String) : h.tree.isFile path = false →
      Attempted i h (.launch path) ⟨.launch path, .fileMissing path⟩ h
  /-- The command is handed to the interpreter. -/
  | commanded (command : String) (request : Request) :
      i.request h.environment.family command = .ok request →
      Attempted i h (.shell command)
        ⟨.shell command, .ofResult (h.start request (some commandTies)).1⟩
        (h.start request (some commandTies)).2
  /-- The command cannot be handed to the interpreter. -/
  | unreadable (command : String) (fault : Fault) :
      i.request h.environment.family command = .error fault →
      Attempted i h (.shell command) ⟨.shell command, .failed fault⟩ h
  /-- Nothing is known about how to run the action. -/
  | unsupported (typeName : String) :
      Attempted i h (.foreign typeName)
        ⟨.foreign typeName, .failed (.unsupportedAction typeName)⟩ h

theorem Attempted.action_eq {i : Interpreter} {h h' : Host} {a : Action} {o : Outcome}
    (ha : Attempted i h a o h') : o.action = a := by
  cases ha <;> rfl

theorem Attempted.isLeaf {i : Interpreter} {h h' : Host} {a : Action} {o : Outcome}
    (ha : Attempted i h a o h') : a.IsLeaf := by
  cases ha <;> trivial

theorem Attempted.ne_noop {i : Interpreter} {h h' : Host} {a : Action} {o : Outcome}
    (ha : Attempted i h a o h') : a ≠ .noop := by
  cases ha <;> simp

/-- Running an action that is no workflow and not nothing is one attempt. -/
theorem exists_attempted (i : Interpreter) (h : Host) {a : Action} (hl : a.IsLeaf)
    (hn : a ≠ .noop) : ∃ o h', run i h a = (h', [o]) ∧ Attempted i h a o h' := by
  cases a with
  | noop => exact absurd rfl hn
  | workflow steps => exact hl.elim
  | foreign typeName => exact ⟨_, _, run_foreign i h typeName, .unsupported typeName⟩
  | launch path =>
    cases hf : h.tree.isFile path with
    | false => exact ⟨_, _, run_launch_of_not_isFile i h hf, .missing path hf⟩
    | true =>
      have hr := run_launch_of_isFile i h hf
      rw [runOn_openFile] at hr
      exact ⟨_, _, hr, .opened path hf⟩
  | shell command =>
    have hr := run_shell i h command
    rw [runOn_runCommand] at hr
    cases hq : i.request h.environment.family command with
    | ok request =>
      rw [hq] at hr
      exact ⟨_, _, hr, .commanded command request hq⟩
    | error fault =>
      rw [hq] at hr
      exact ⟨_, _, hr, .unreadable command fault hq⟩

/-- What holds of leaves holds of all actions on all hosts, if workflows keep it: one whose next
step can be run from that step and the rest on the host that the step leaves, one whose next step
cannot from the rest alone. -/
theorem step_induction {i : Interpreter} {P : Host → Action → Prop}
    (leaf : ∀ h a, a.IsLeaf → P h a)
    (done : ∀ h, P h (.workflow []))
    (ready : ∀ h a rest, canRun h.tree a = true → P h a → P (run i h a).1 (.workflow rest) →
      P h (.workflow (a :: rest)))
    (skipped : ∀ h a rest, canRun h.tree a = false → P h (.workflow rest) →
      P h (.workflow (a :: rest)))
    (h : Host) (a : Action) : P h a := by
  -- Both the actions and the lists of steps of workflows, since a workflow holds a list.
  revert h
  induction a using Action.rec (motive_2 := fun steps => ∀ h, P h (.workflow steps)) with
  | noop => exact fun h => leaf h .noop trivial
  | launch path => exact fun h => leaf h (.launch path) trivial
  | shell command => exact fun h => leaf h (.shell command) trivial
  | foreign typeName => exact fun h => leaf h (.foreign typeName) trivial
  | workflow steps ih => exact ih
  | nil h => exact done h
  | cons a rest iha ihrest h =>
    cases hc : canRun h.tree a with
    | true => exact ready h a rest hc (iha h) (ihrest _)
    | false => exact skipped h a rest hc (ihrest h)

/-- A property of runs follows from that of its attempts, if workflows keep it: one whose next step
can be run from the step's run and that of the rest, one whose next step cannot from the rest
alone. -/
theorem run_induction {i : Interpreter} {P : Host → Action → Host → List Outcome → Prop}
    (noop : ∀ h, P h .noop h [])
    (attempt : ∀ h a o h', Attempted i h a o h' → P h a h' [o])
    (done : ∀ h, P h (.workflow []) h [])
    (ready : ∀ h a rest h₁ h₂ first others, canRun h.tree a = true →
      P h a h₁ first → P h₁ (.workflow rest) h₂ others →
      P h (.workflow (a :: rest)) h₂ (first ++ others))
    (skipped : ∀ h a rest h' others, canRun h.tree a = false → P h (.workflow rest) h' others →
      P h (.workflow (a :: rest)) h' (⟨a, .notReady⟩ :: others))
    (h : Host) (a : Action) : P h a (run i h a).1 (run i h a).2 := by
  refine step_induction (i := i) (P := fun h a => P h a (run i h a).1 (run i h a).2)
    ?leaf done ?ready ?skipped h a
  case leaf =>
    intro h a hl
    by_cases hn : a = .noop
    · subst hn
      exact noop h
    · obtain ⟨o, h', hr, ha⟩ := exists_attempted i h hl hn
      rw [hr]
      exact attempt h a o h' ha
  case ready =>
    intro h a rest hc ha hrest
    rw [run_workflow_cons_of_canRun i h hc]
    exact ready h a rest _ _ _ _ hc ha hrest
  case skipped =>
    intro h a rest hc hrest
    rw [run_workflow_cons_of_not_canRun i h hc]
    exact skipped h a rest _ _ hc hrest

/-! ## What no run changes -/

/-- The second host differs from the first in its files and starts alone. -/
structure Frame (h h' : Host) : Prop where
  environment : h'.environment = h.environment
  rules : h'.rules = h.rules
  journal : h'.journal = h.journal
  threshold : h'.threshold = h.threshold

theorem Frame.refl (h : Host) : Frame h h := ⟨rfl, rfl, rfl, rfl⟩

theorem Frame.trans {h₁ h₂ h₃ : Host} (f : Frame h₁ h₂) (g : Frame h₂ h₃) : Frame h₁ h₃ :=
  ⟨g.environment.trans f.environment, g.rules.trans f.rules, g.journal.trans f.journal,
    g.threshold.trans f.threshold⟩

theorem Frame.start (h : Host) (r : Request) (ties : Option Ties) : Frame h (h.start r ties).2 :=
  ⟨rfl, rfl, rfl, rfl⟩

theorem Attempted.frame {i : Interpreter} {h h' : Host} {a : Action} {o : Outcome}
    (ha : Attempted i h a o h') : Frame h h' := by
  cases ha with
  | opened path _ => exact Frame.start h _ _
  | missing path _ => exact Frame.refl h
  | commanded command request _ => exact Frame.start h _ _
  | unreadable command fault _ => exact Frame.refl h
  | unsupported typeName => exact Frame.refl h

/-- A run changes nothing but the files and the starts. -/
theorem frame_run (i : Interpreter) (h : Host) (a : Action) : Frame h (run i h a).1 :=
  run_induction (P := fun h _ h' _ => Frame h h')
    (fun h => Frame.refl h)
    (fun _ _ _ _ ha => ha.frame)
    (fun h => Frame.refl h)
    (fun _ _ _ _ _ _ _ _ ha hrest => ha.trans hrest)
    (fun _ _ _ _ _ _ hrest => hrest)
    h a

/-- What was told to the log before a run plays no part in it. -/
theorem run_note (i : Interpreter) (h : Host) (events : List Event) (a : Action) :
    run i (h.note events) a = ((run i h a).1.note events, (run i h a).2) := by
  refine run_induction (i := i)
    (P := fun h a h' os => run i (h.note events) a = (h'.note events, os))
    ?noop ?attempt ?done ?ready ?skipped h a
  case noop => exact fun h => rfl
  case done => exact fun h => rfl
  case attempt =>
    intro h a o h' ha
    cases ha with
    | opened path hf => rw [run_launch_of_isFile i (h.note events) hf, runOn_openFile]; rfl
    | missing path hf => rw [run_launch_of_not_isFile i (h.note events) hf]
    | commanded command request hq =>
      rw [run_shell, runOn_runCommand, Host.note, hq]
      rfl
    | unreadable command fault hq =>
      rw [run_shell, runOn_runCommand, Host.note, hq]
      rfl
    | unsupported typeName => rfl
  case ready =>
    intro h a rest h₁ h₂ first others hc ha hrest
    rw [run_workflow_cons_of_canRun i (h.note events) hc, ha, hrest]
  case skipped =>
    intro h a rest h' others hc hrest
    rw [run_workflow_cons_of_not_canRun i (h.note events) hc, hrest]

end Runner

end QuickLaunch
