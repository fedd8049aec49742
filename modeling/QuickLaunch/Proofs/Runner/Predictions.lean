import QuickLaunch.Proofs.Files.Directories
import QuickLaunch.Proofs.Runner.Sequence

/-!
# Looking ahead

Whether an action can be run is looked up before anything of it is run, and once more before each of
its steps, on the files that the steps before it have left. Starts that remove no file leave every
path to a file a path to one, so that what could be run can be run when its turn comes. Without
starts that make files, nothing else can be run then.

* `canRun_of_keepsFiles`: what can be run can be run as long as the files stay;
* `tree_run`: what relates the files before and after every start does so for a run;
* `not_skipped_of_canRun`, `canRun_of_not_skipped`: what can be run skips nothing, and what skips
  nothing could be run;
* `canRun_iff_run`: looking ahead tells whether a run skips anything.
-/

namespace QuickLaunch

open QuickLaunch.Tree (KeepsFiles)

/-! ## What starts do to files -/

namespace StartRule

variable {rule : StartRule}

/-- The rule leaves the files as they are. -/
def Idle (rule : StartRule) : Prop :=
  rule.create = none ∧ rule.remove = none

theorem Idle.apply_eq (hr : rule.Idle) (t : Tree) : rule.apply t = t := by
  rw [apply, hr.1, hr.2]

theorem keepsFiles_apply (hr : rule.remove = none) (t : Tree) : KeepsFiles t (rule.apply t) := by
  rw [apply, hr]
  cases rule.create with
  | none => exact .refl t
  | some path =>
    simp only
    cases hw : t.writeDeep path ByteArray.empty with
    | error fault => exact .refl t
    | ok t' => exact Tree.keepsFiles_writeDeep hw

end StartRule

/-- What holds of the rules of a host and of having none holds of the rule of the next start. -/
theorem Host.nextRule_of_forall {P : StartRule → Prop} {h : Host} (hnone : P {})
    (hr : ∀ e ∈ h.rules, P e.2) : P h.nextRule := by
  rw [nextRule]
  cases hl : h.rules.lookup h.starts.length with
  | none => exact hnone
  | some rule =>
    obtain ⟨before, behind, heq, -⟩ := List.lookup_eq_some_iff.mp hl
    exact hr _ (heq ▸ List.mem_append_right before List.mem_cons_self)

namespace Runner

variable {t t' : Tree} {i : Interpreter} {h h' : Host} {a : Action} {o : Outcome}

/-! ## What can be run -/

mutual

/-- What can be run can be run as long as the files stay. -/
theorem canRun_of_keepsFiles (hk : KeepsFiles t t') :
    (a : Action) → canRun t a = true → canRun t' a = true
  | .noop, _ => by rw [canRun]
  | .shell _, _ => by rw [canRun]
  | .foreign _, hc => by simp [canRun] at hc
  | .launch path, hc => by
    rw [canRun] at hc ⊢
    exact hk.isFile hc
  | .workflow steps, hc => by
    rw [canRun] at hc ⊢
    exact canRunAll_of_keepsFiles hk steps hc

theorem canRunAll_of_keepsFiles (hk : KeepsFiles t t') :
    (steps : List Action) → canRunAll t steps = true → canRunAll t' steps = true
  | [], _ => by rw [canRunAll]
  | a :: rest, hc => by
    rw [canRunAll, Bool.and_eq_true] at hc ⊢
    exact ⟨canRun_of_keepsFiles hk a hc.1, canRunAll_of_keepsFiles hk rest hc.2⟩

end

theorem canRun_workflow_cons (t : Tree) (a : Action) (rest : List Action) :
    canRun t (.workflow (a :: rest)) = (canRun t a && canRun t (.workflow rest)) := by
  rw [canRun, canRunAll, canRun]

/-- An attempt is skipped if the action cannot be run, unless nothing is known about how to run
it. -/
theorem Attempted.canRun_iff (ha : Attempted i h a o h') (hk : ∀ typeName, a ≠ .foreign typeName) :
    canRun h.tree a = true ↔ o.status.verdict ≠ .skipped := by
  have started : ∀ r : Except Fault Unit, (Status.ofResult r).verdict ≠ .skipped := by
    rintro (fault | _) <;> nofun
  cases ha with
  | opened path hf => simp [canRun, hf, started]
  | missing path hf => simp [canRun, hf, Status.verdict]
  | commanded command request _ => simp [canRun, started]
  | unreadable command fault _ => simp [canRun, Status.verdict]
  | unsupported typeName => exact absurd rfl (hk typeName)

theorem Attempted.tree_cases (ha : Attempted i h a o h') :
    h'.tree = h.tree ∨ h'.tree = h.nextRule.apply h.tree := by
  cases ha with
  | opened path _ => exact .inr rfl
  | missing path _ => exact .inl rfl
  | commanded command request _ => exact .inr rfl
  | unreadable command fault _ => exact .inl rfl
  | unsupported typeName => exact .inl rfl

/-- What relates the files before and after every start relates them before and after a run. -/
theorem tree_run {R : Tree → Tree → Prop} (refl : ∀ t, R t t)
    (trans : ∀ {t₁ t₂ t₃}, R t₁ t₂ → R t₂ t₃ → R t₁ t₃) (i : Interpreter) (a : Action)
    (hr : ∀ e ∈ h.rules, ∀ t, R t (e.2.apply t)) : R h.tree (run i h a).1.tree := by
  refine (run_induction (i := i)
    (P := fun h _ h' _ => Frame h h' ∧
      ((∀ e ∈ h.rules, ∀ t, R t (e.2.apply t)) → R h.tree h'.tree))
    ?noop ?attempt ?done ?ready ?skipped h a).2 hr
  case noop => exact fun h => ⟨.refl h, fun _ => refl h.tree⟩
  case done => exact fun h => ⟨.refl h, fun _ => refl h.tree⟩
  case attempt =>
    refine fun h a o h' ha => ⟨ha.frame, fun hr => ?_⟩
    rcases ha.tree_cases with ht | ht
    · exact ht ▸ refl h.tree
    · exact ht ▸ Host.nextRule_of_forall (P := fun rule => ∀ t, R t (rule.apply t)) refl hr h.tree
  case ready =>
    rintro h a rest h₁ h₂ first others - ⟨hf, ha⟩ ⟨hf', hrest⟩
    exact ⟨hf.trans hf', fun hr => trans (ha hr) (hrest (hf.rules ▸ hr))⟩
  case skipped => exact fun h a rest h' others _ hrest => hrest

theorem keepsFiles_run (i : Interpreter) (a : Action) (hr : ∀ e ∈ h.rules, e.2.remove = none) :
    KeepsFiles h.tree (run i h a).1.tree :=
  tree_run .refl .trans i a fun e he => StartRule.keepsFiles_apply (hr e he)

theorem tree_run_of_idle (i : Interpreter) (a : Action) (hr : ∀ e ∈ h.rules, e.2.Idle) :
    (run i h a).1.tree = h.tree :=
  (tree_run (R := Eq) Eq.refl Eq.trans i a fun e he t => ((hr e he).apply_eq t).symm).symm

/-! ## What a run skips -/

/-- A leaf is skipped if it cannot be run, unless nothing is known about how to run it. -/
theorem canRun_iff_of_isLeaf (i : Interpreter) (h : Host) (hl : a.IsLeaf)
    (hk : ∀ typeName, a ≠ .foreign typeName) :
    canRun h.tree a = true ↔ ∀ o ∈ (run i h a).2, o.status.verdict ≠ .skipped := by
  by_cases hn : a = .noop
  · subst hn
    simp [canRun]
  · obtain ⟨o, h', hr, ha⟩ := exists_attempted i h hl hn
    simpa [hr] using ha.canRun_iff hk

/-- What can be run skips nothing if no start removes a file: the files stay, and a step that could
be run before can be run when its turn comes. -/
theorem not_skipped_of_canRun (hr : ∀ e ∈ h.rules, e.2.remove = none)
    (hc : canRun h.tree a = true) : ∀ o ∈ (run i h a).2, o.status.verdict ≠ .skipped := by
  refine step_induction (i := i)
    (P := fun h a => (∀ e ∈ h.rules, e.2.remove = none) → canRun h.tree a = true →
      ∀ o ∈ (run i h a).2, o.status.verdict ≠ .skipped)
    ?leaf ?done ?ready ?skipped h a hr hc
  case leaf =>
    intro h a hl _ hc
    refine (canRun_iff_of_isLeaf i h hl ?_).mp hc
    rintro typeName rfl
    simp [canRun] at hc
  case done => exact fun h _ _ => by simp
  case ready =>
    intro h a rest _ ha hrest hr hc
    rw [canRun_workflow_cons, Bool.and_eq_true] at hc
    rw [run_workflow_cons_of_canRun i h hc.1]
    refine List.forall_mem_append.mpr ⟨ha hr hc.1, hrest ?_ ?_⟩
    · exact (frame_run i h a).rules ▸ hr
    · exact canRun_of_keepsFiles (keepsFiles_run i a hr) _ hc.2
  case skipped =>
    intro h a rest hn _ _ hc
    rw [canRun_workflow_cons, hn] at hc
    cases hc

/-- What skips nothing could be run if no start changes the files and all its leaves are known. -/
theorem canRun_of_not_skipped (hr : ∀ e ∈ h.rules, e.2.Idle)
    (hk : ∀ typeName, .foreign typeName ∉ a.leaves)
    (hs : ∀ o ∈ (run i h a).2, o.status.verdict ≠ .skipped) : canRun h.tree a = true := by
  refine step_induction (i := i)
    (P := fun h a => (∀ e ∈ h.rules, e.2.Idle) → (∀ typeName, .foreign typeName ∉ a.leaves) →
      (∀ o ∈ (run i h a).2, o.status.verdict ≠ .skipped) → canRun h.tree a = true)
    ?leaf ?done ?ready ?skipped h a hr hk hs
  case leaf =>
    intro h a hl _ hk hs
    refine (canRun_iff_of_isLeaf i h hl ?_).mpr hs
    rintro typeName rfl
    exact hk typeName (by simp [Action.leaves])
  case done => exact fun h _ _ _ => by rw [canRun, canRunAll]
  case ready =>
    intro h a rest hc _ hrest hr hk hs
    rw [run_workflow_cons_of_canRun i h hc, List.forall_mem_append] at hs
    rw [canRun_workflow_cons, hc, Bool.true_and, ← tree_run_of_idle i a hr]
    refine hrest ((frame_run i h a).rules ▸ hr) (fun typeName hm => hk typeName ?_) hs.2
    rw [Action.leaves_workflow_cons]
    exact List.mem_append_right _ hm
  case skipped =>
    intro h a rest hn _ _ _ hs
    rw [run_workflow_cons_of_not_canRun i h hn] at hs
    exact absurd rfl (hs _ List.mem_cons_self)

/-- Looking ahead, which leaves the host as it is, tells whether a run skips anything: exactly, if
no start makes or removes a file, and that nothing is skipped, if no start removes one. -/
theorem canRun_iff_run (i : Interpreter) (h : Host) (a : Action)
    (hk : ∀ typeName, .foreign typeName ∉ a.leaves) :
    (ready a).runOn h = (.ok (canRun h.tree a), h)
      ∧ ((∀ e ∈ h.rules, e.2.create = none ∧ e.2.remove = none) →
        (canRun h.tree a = true ↔ ∀ o ∈ (run i h a).2, o.status.verdict ≠ .skipped))
      ∧ ((∀ e ∈ h.rules, e.2.remove = none) → canRun h.tree a = true →
        ∀ o ∈ (run i h a).2, o.status.verdict ≠ .skipped) := by
  refine ⟨runOn_ready h a, fun hr => ⟨fun hc => ?_, fun hs => ?_⟩, fun hr hc => ?_⟩
  · exact not_skipped_of_canRun (fun e he => (hr e he).2) hc
  · exact canRun_of_not_skipped hr hk hs
  · exact not_skipped_of_canRun hr hc

/-- A command whose start is refused, or makes a file, before a workflow that opens another one. -/
theorem canRun_iff_run_of_two_rules :
    let a : Action := .workflow [.shell "make b", .workflow [.launch "a", .noop]]
    let tree : Tree := { entries := [(["a"], .file ByteArray.empty)] }
    let refusing : Host := { tree := tree, rules := [(0, { fail := some "busy" })] }
    let making : Host := { tree := tree, rules := [(0, { create := some "b" })] }
    (∀ typeName, .foreign typeName ∉ a.leaves) ∧ canRun tree a = true
      ∧ (∀ e ∈ refusing.rules, e.2.create = none ∧ e.2.remove = none)
      ∧ (∀ o ∈ (run (Interpreter.default .posix) refusing a).2, o.status.verdict ≠ .skipped)
      ∧ (∀ e ∈ making.rules, e.2.remove = none)
      ∧ ∀ o ∈ (run (Interpreter.default .posix) making a).2, o.status.verdict ≠ .skipped := by
  intro a tree refusing making
  have hk : ∀ typeName, .foreign typeName ∉ a.leaves := by
    simp [a, Action.leaves, Action.leavesAll]
  have hc : canRun tree a = true := by decide
  have hrefusing : ∀ e ∈ refusing.rules, e.2.create = none ∧ e.2.remove = none := by decide
  have hmaking : ∀ e ∈ making.rules, e.2.remove = none := by decide
  obtain ⟨-, hexact, -⟩ := canRun_iff_run (Interpreter.default .posix) refusing a hk
  obtain ⟨-, -, hkept⟩ := canRun_iff_run (Interpreter.default .posix) making a hk
  exact ⟨hk, hc, hrefusing, (hexact hrefusing).mp hc, hmaking, hkept hmaking hc⟩

end Runner

end QuickLaunch
