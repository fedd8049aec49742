import Mathlib.Data.List.Forall2
import QuickLaunch.Proofs.Runner.Attempts

/-!
# The starts behind outcomes

Which processes a run has started can be read off its outcomes. `Caused` says what each outcome
stands for: a skipped step and an action that cannot be run for nothing, a file for one start of its
opener, a command for one start of the interpreter unless it could not be handed over.

* `Caused.detached`: the processes that are started have no ties to the launcher;
* `starts_run`: the starts of a run are those of its outcomes, in their order, and running an action
  ends without a fault.
-/

namespace QuickLaunch.Runner

/-- The starts that an outcome stands for, for an interpreter in an environment. -/
inductive Caused (i : Interpreter) (e : Environment) : Outcome → List Start → Prop where
  | notReady (a : Action) : Caused i e ⟨a, .notReady⟩ []
  | fileMissing (path : String) : Caused i e ⟨.launch path, .fileMissing path⟩ []
  | unsupported (typeName : String) :
      Caused i e ⟨.foreign typeName, .failed (.unsupportedAction typeName)⟩ []
  | opened (path : String) :
      Caused i e ⟨.launch path, .done⟩ [⟨openRequest e.desktop path, openTies e.desktop, false⟩]
  | openRefused (path reason : String) :
      Caused i e ⟨.launch path, .failed (.refused reason)⟩
        [⟨openRequest e.desktop path, openTies e.desktop, true⟩]
  | commanded (command : String) (request : Request) : i.request e.family command = .ok request →
      Caused i e ⟨.shell command, .done⟩ [⟨request, some commandTies, false⟩]
  | commandRefused (command reason : String) (request : Request) :
      i.request e.family command = .ok request →
      Caused i e ⟨.shell command, .failed (.refused reason)⟩ [⟨request, some commandTies, true⟩]
  /-- The command could not be read, so that there was nothing to start. -/
  | unreadable (command : String) (fault : Fault) : i.request e.family command = .error fault →
      Caused i e ⟨.shell command, .failed fault⟩ []

variable {i : Interpreter} {h h' : Host} {a : Action} {o : Outcome}

/-- A start that an outcome stands for is detached, unless the desktop opens the document by
itself. -/
theorem Caused.detached {e : Environment} {starts : List Start} (hc : Caused i e o starts)
    {s : Start} (hs : s ∈ starts) :
    s.detached = true ∨ e.desktop = .windows ∧ ∃ path, s.request = .document path := by
  have opener : ∀ path failed, s = ⟨openRequest e.desktop path, openTies e.desktop, failed⟩ →
      s.detached = true ∨ e.desktop = .windows ∧ ∃ path, s.request = .document path := by
    intro path failed hs
    subst hs
    cases e.desktop with
    | windows => exact .inr ⟨rfl, path, rfl⟩
    | mac => exact .inl rfl
    | freedesktop => exact .inl rfl
  cases hc with
  | notReady a => cases hs
  | fileMissing path => cases hs
  | unsupported typeName => cases hs
  | unreadable command fault _ => cases hs
  | opened path => exact opener path false (List.mem_singleton.mp hs)
  | openRefused path reason => exact opener path true (List.mem_singleton.mp hs)
  | commanded command request _ => rw [List.mem_singleton.mp hs]; exact .inl rfl
  | commandRefused command reason request _ => rw [List.mem_singleton.mp hs]; exact .inl rfl

theorem detached_of_caused {e : Environment} {os : List Outcome} {parts : List (List Start)}
    (hc : List.Forall₂ (Caused i e) os parts) {s : Start} (hs : s ∈ parts.flatten) :
    s.detached = true ∨ e.desktop = .windows ∧ ∃ path, s.request = .document path := by
  induction hc with
  | nil => cases hs
  | cons ho _ ih =>
    rw [List.flatten_cons, List.mem_append] at hs
    rcases hs with hs | hs
    · exact ho.detached hs
    · exact ih hs

/-- An attempt adds the starts that its outcome stands for. A start fails when its rule says so, and
then the outcome has failed too. -/
theorem Attempted.caused (ha : Attempted i h a o h') :
    ∃ starts, Caused i h.environment o starts ∧ h'.starts = h.starts ++ starts := by
  cases ha with
  | missing path _ => exact ⟨[], .fileMissing path, by simp⟩
  | unreadable command fault hq => exact ⟨[], .unreadable command fault hq, by simp⟩
  | unsupported typeName => exact ⟨[], .unsupported typeName, by simp⟩
  | opened path _ =>
    cases hf : h.nextRule.fail with
    | none =>
      refine ⟨_, ?_, Host.starts_start ..⟩
      simpa [Host.start, hf, Status.ofResult] using .opened path
    | some reason =>
      refine ⟨_, ?_, Host.starts_start ..⟩
      simpa [Host.start, hf, Status.ofResult] using .openRefused path reason
  | commanded command request hq =>
    cases hf : h.nextRule.fail with
    | none =>
      refine ⟨_, ?_, Host.starts_start ..⟩
      simpa [Host.start, hf, Status.ofResult] using .commanded command request hq
    | some reason =>
      refine ⟨_, ?_, Host.starts_start ..⟩
      simpa [Host.start, hf, Status.ofResult] using .commandRefused command reason request hq

/-- The outcomes of a run stand for the starts that it adds, part by part. -/
theorem caused_run (i : Interpreter) (h : Host) (a : Action) :
    ∃ parts, List.Forall₂ (Caused i h.environment) (run i h a).2 parts
      ∧ (run i h a).1.starts = h.starts ++ parts.flatten := by
  refine (run_induction (i := i)
    (P := fun h _ h' os => h'.environment = h.environment ∧
      ∃ parts, List.Forall₂ (Caused i h.environment) os parts
        ∧ h'.starts = h.starts ++ parts.flatten)
    ?noop ?attempt ?done ?ready ?skipped h a).2
  case noop => exact fun h => ⟨rfl, [], .nil, by simp⟩
  case done => exact fun h => ⟨rfl, [], .nil, by simp⟩
  case attempt =>
    intro h a o h' ha
    obtain ⟨starts, hc, hs⟩ := ha.caused
    exact ⟨ha.frame.environment, [starts], .cons hc .nil, by simp [hs]⟩
  case ready =>
    intro h a rest h₁ h₂ first others _ ⟨e₁, parts₁, hc₁, hs₁⟩ ⟨e₂, parts₂, hc₂, hs₂⟩
    rw [e₁] at hc₂ e₂
    exact ⟨e₂, parts₁ ++ parts₂, List.rel_append hc₁ hc₂, by simp [hs₁, hs₂]⟩
  case skipped =>
    intro h a rest h' others _ ⟨e, parts, hc, hs⟩
    exact ⟨e, [] :: parts, .cons (.notReady a) hc, by simp [hs]⟩

/-- The starts of a run are what its outcomes stand for, one after another, and all processes among
them are detached. Neither running an action nor performing it ends with a fault, and looking
whether it can be run leaves the host as it is. -/
theorem starts_run (i : Interpreter) (h : Host) (a : Action) :
    ∃ os h' parts,
      (outcomes i a).runOn h = (.ok os, h')
        ∧ List.Forall₂ (Caused i h.environment) os parts
        ∧ h'.starts = h.starts ++ parts.flatten
        ∧ (∀ s ∈ parts.flatten, s.detached = true
            ∨ h.environment.desktop = .windows ∧ ∃ path, s.request = .document path)
        ∧ (∃ h'', (perform i a).runOn h = (.ok (), h'') ∧ h''.starts = h'.starts)
        ∧ (ready a).runOn h = (.ok (canRun h.tree a), h) := by
  obtain ⟨parts, hc, hs⟩ := caused_run i h a
  exact ⟨_, _, parts, runOn_outcomes i h a, hc, hs, fun _ => detached_of_caused hc,
    ⟨_, runOn_perform i h a, rfl⟩, runOn_ready h a⟩

end QuickLaunch.Runner
