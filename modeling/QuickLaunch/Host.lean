import QuickLaunch.Document.Value
import QuickLaunch.Files.Tree
import QuickLaunch.Journal.Event

/-!
# The host

What the launcher finds around it and leaves behind: the environment, the files, the processes that
were started and the log. Each start of a process may have a rule, which says what the process does
to the files at once and whether the start fails.

* `Host.start`: a start under its rule;
* `Session`: computations that use the host and may fail; what they did to the host remains;
* `Session.runOn_bind`, `Session.runOn_tryCatch`: how such computations follow each other.
-/

namespace QuickLaunch

/-- The two ways in which a program is handed its words. -/
inductive Family where
  /-- As a list. -/
  | posix
  /-- As one command line. -/
  | windows
  deriving DecidableEq, Repr, Inhabited

/-- The desktops, by the program that opens a file. -/
inductive Desktop where
  | freedesktop | mac | windows
  deriving DecidableEq, Repr, Inhabited

/-- What is known about the user and the system. -/
structure Environment where
  home : Option String := none
  dataHome : Option String := none
  appData : Option String := none
  programData : Option String := none
  desktop : Desktop := .freedesktop
  family : Family := .posix
  deriving DecidableEq, Repr, Inhabited

/-- What a process is started with. -/
inductive Request where
  /-- A list of words, the program first. -/
  | words (argv : List Value)
  /-- A command line. -/
  | line (text : String)
  /-- A file, to be opened by the desktop itself. -/
  | document (path : String)
  deriving Repr, Inhabited

/-- Where a stream of a process leads. -/
inductive Stream where
  | inherited | nowhere
  deriving DecidableEq, Repr, Inhabited

/-- How a process is tied to the launcher. -/
structure Ties where
  input : Stream := .inherited
  output : Stream := .inherited
  errors : Stream := .inherited
  /-- It leads a session of its own. -/
  ownSession : Bool := false
  /-- It asks for no window where it would be given one. -/
  windowless : Bool := false
  deriving DecidableEq, Repr, Inhabited

/-- No ties. -/
def Ties.cut : Ties :=
  { input := .nowhere, output := .nowhere, errors := .nowhere, ownSession := true }

/-- The process shares no stream and no session with the launcher. -/
def Ties.detached (t : Ties) : Bool :=
  t.input == .nowhere && t.output == .nowhere && t.errors == .nowhere && t.ownSession

/-- A start of a process, which may have failed. A document that the desktop opens by itself has no
process with ties to the launcher. -/
structure Start where
  request : Request
  ties : Option Ties := none
  failed : Bool
  deriving Repr, Inhabited

/-- The start of a process of the launcher's own that is detached from it. -/
def Start.detached (s : Start) : Bool :=
  s.ties.any Ties.detached

/-- What happens when a process starts: a file appears, a file disappears, the start fails. -/
structure StartRule where
  create : Option String := none
  remove : Option String := none
  fail : Option String := none
  deriving DecidableEq, Repr, Inhabited

/-- The effect of a rule on the files. -/
def StartRule.apply (rule : StartRule) (t : Tree) : Tree :=
  let t := match rule.create with
    | some path => (t.writeDeep path ByteArray.empty).toOption.getD t
    | none => t
  match rule.remove with
  | some path => (t.remove path).toOption.getD t
  | none => t

/-- The surroundings of the launcher. -/
structure Host where
  environment : Environment := {}
  tree : Tree := {}
  rules : List (Nat × StartRule) := []
  starts : List Start := []
  journal : List Event := []
  /-- The level from which on the log keeps lines. -/
  threshold : Level := .trace
  deriving Inhabited

namespace Host

/-- The rule of the next start. -/
def nextRule (h : Host) : StartRule :=
  (h.rules.lookup h.starts.length).getD {}

/-- Start a process. -/
def start (h : Host) (r : Request) (ties : Option Ties) : Except Fault Unit × Host :=
  let rule := h.nextRule
  (match rule.fail with
    | some reason => .error (.refused reason)
    | none => .ok (),
    { h with tree := rule.apply h.tree, starts := h.starts ++ [⟨r, ties, rule.fail.isSome⟩] })

/-- A start is recorded, whether it fails or not. -/
theorem starts_start (h : Host) (r : Request) (ties : Option Ties) :
    (h.start r ties).2.starts = h.starts ++ [⟨r, ties, h.nextRule.fail.isSome⟩] := rfl

/-- Write to the log, which keeps the lines of the threshold's level and above. -/
def note (h : Host) (events : List Event) : Host :=
  { h with journal := h.journal ++ events.filter (·.level.passes h.threshold) }

end Host

/-- A computation that uses the host and may fail. -/
abbrev Session := ExceptT Fault (StateM Host)

namespace Session

variable {α β : Type}

/-- The result of a computation on a host, and the host that it leaves. -/
def runOn (x : Session α) (h : Host) : Except Fault α × Host :=
  x.run.run h

/-- A result, or the fault that stands for it. -/
def ofExcept (r : Except Fault α) : Session α :=
  ExceptT.mk (pure r)

/-- Write to the log. -/
def note (events : List Event) : Session Unit :=
  modify (·.note events)

/-- The files. -/
def tree : Session Tree :=
  return (← get).tree

/-- Replace the files. -/
def setTree (t : Tree) : Session Unit :=
  modify fun h => { h with tree := t }

/-- Keep the lines of a level and above from now on. -/
def setThreshold (level : Level) : Session Unit :=
  modify fun h => { h with threshold := level }

/-- The environment. -/
def environment : Session Environment :=
  return (← get).environment

/-- Start a process. -/
def start (r : Request) (ties : Option Ties) : Session Unit := do
  let (result, h) := (← get).start r ties
  set h
  ofExcept result

/-! ## Laws -/

@[simp] theorem runOn_pure (a : α) (h : Host) : runOn (pure a) h = (.ok a, h) := rfl

@[simp] theorem runOn_throw (fault : Fault) (h : Host) :
    runOn (throw fault : Session α) h = (.error fault, h) := rfl

@[simp] theorem runOn_ofExcept (r : Except Fault α) (h : Host) :
    runOn (ofExcept r) h = (r, h) := rfl

/-- A fault ends a sequence of computations. -/
theorem runOn_bind (x : Session α) (f : α → Session β) (h : Host) :
    runOn (x >>= f) h =
      match runOn x h with
      | (.ok a, h') => runOn (f a) h'
      | (.error fault, h') => (.error fault, h') := by
  simp only [runOn, ExceptT.run_bind, StateT.run_bind]
  rcases x.run.run h with ⟨_ | a, h'⟩ <;> rfl

@[simp] theorem runOn_map (f : α → β) (x : Session α) (h : Host) :
    runOn (f <$> x) h =
      match runOn x h with
      | (.ok a, h') => (.ok (f a), h')
      | (.error fault, h') => (.error fault, h') := by
  rw [map_eq_pure_bind, runOn_bind]
  rcases runOn x h with ⟨_ | a, h'⟩ <;> rfl

/-- What a computation did to the host before it failed remains when its fault is caught. -/
theorem runOn_tryCatch (x : Session α) (f : Fault → Session α) (h : Host) :
    runOn (tryCatch x f) h =
      match runOn x h with
      | (.ok a, h') => (.ok a, h')
      | (.error fault, h') => runOn (f fault) h' := by
  simp only [runOn, tryCatch, tryCatchThe, MonadExceptOf.tryCatch, ExceptT.tryCatch,
    ExceptT.run_mk, StateT.run_bind]
  obtain ⟨r, h', hx⟩ : ∃ r h', x.run.run h = (r, h') := ⟨_, _, rfl⟩
  rw [hx, show StateT.run x h = (r, h') from hx]
  cases r <;> rfl

@[simp] theorem runOn_tree (h : Host) : runOn tree h = (.ok h.tree, h) := rfl

@[simp] theorem runOn_environment (h : Host) : runOn environment h = (.ok h.environment, h) := rfl

@[simp] theorem runOn_note (events : List Event) (h : Host) :
    runOn (note events) h = (.ok (), h.note events) := rfl

@[simp] theorem runOn_setTree (t : Tree) (h : Host) :
    runOn (setTree t) h = (.ok (), { h with tree := t }) := rfl

@[simp] theorem runOn_start (r : Request) (ties : Option Ties) (h : Host) :
    runOn (start r ties) h = h.start r ties := rfl

end Session

end QuickLaunch
