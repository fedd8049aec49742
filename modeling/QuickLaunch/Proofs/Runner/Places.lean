import Mathlib.Data.List.Pairwise
import QuickLaunch.Proofs.Runner.Attempts

/-!
# The places of outcomes

An action is a tree of workflows, and a place in it is the list of the positions of steps that lead
there. Outcomes name actions, which may stand at several places; `Accounts` gives each outcome of a
run a place of its own, so that nothing to be done is lost or done twice.

* `Before`: a place lies to the left of another one, and neither lies below the other;
* `enters_run`: every run has such places;
* `places_run`: each leaf that is not nothing to do is accounted for once, by its own outcome or by
  that of a workflow above it that was skipped as a whole, and the log is told of each outcome.
-/

namespace QuickLaunch

/-- The positions of the steps that lead to a place in an action, the outermost first. -/
abbrev Place := List Nat

namespace Action

/-- What stands at a place of an action. -/
def at? : Action → Place → Option Action
  | a, [] => some a
  | .workflow steps, k :: p => steps[k]?.bind fun s => s.at? p
  | _, _ :: _ => none

@[simp] theorem at?_nil (a : Action) : a.at? [] = some a := by
  cases a <;> rfl

theorem at?_workflow (steps : List Action) (k : Nat) (p : Place) :
    (workflow steps).at? (k :: p) = steps[k]?.bind fun s => s.at? p := by
  rw [at?]

theorem at?_cons_of_isLeaf {a : Action} (hl : a.IsLeaf) (k : Nat) (p : Place) :
    a.at? (k :: p) = none := by
  cases a with
  | workflow steps => exact hl.elim
  | noop => rfl
  | launch path => rfl
  | shell command => rfl
  | foreign typeName => rfl

theorem at?_append (a : Action) (p q : Place) :
    a.at? (p ++ q) = (a.at? p).bind fun s => s.at? q := by
  induction p generalizing a with
  | nil => simp
  | cons k p ih =>
    by_cases hl : a.IsLeaf
    · rw [List.cons_append, at?_cons_of_isLeaf hl, at?_cons_of_isLeaf hl]
      rfl
    · cases a with
      | workflow steps =>
        rw [List.cons_append, at?_workflow, at?_workflow, Option.bind_assoc]
        simp only [ih]
      | noop => exact absurd trivial hl
      | launch path => exact absurd trivial hl
      | shell command => exact absurd trivial hl
      | foreign typeName => exact absurd trivial hl

theorem exists_workflow_of_not_isLeaf {a : Action} (hl : ¬ a.IsLeaf) :
    ∃ steps, a = .workflow steps := by
  cases a with
  | workflow steps => exact ⟨steps, rfl⟩
  | noop => exact absurd trivial hl
  | launch path => exact absurd trivial hl
  | shell command => exact absurd trivial hl
  | foreign typeName => exact absurd trivial hl

end Action

namespace Place

/-- The place in a workflow with one more step in front. -/
def later : Place → Place
  | [] => []
  | k :: p => (k + 1) :: p

theorem at?_zero (a : Action) (rest : List Action) (p : Place) :
    (Action.workflow (a :: rest)).at? (0 :: p) = a.at? p := by
  rw [Action.at?_workflow]
  rfl

theorem at?_succ (a : Action) (rest : List Action) (k : Nat) (p : Place) :
    (Action.workflow (a :: rest)).at? ((k + 1) :: p) = (Action.workflow rest).at? (k :: p) := by
  rw [Action.at?_workflow, Action.at?_workflow, List.getElem?_cons_succ]

/-- The first place lies to the left of the second one. -/
inductive Before : Place → Place → Prop where
  | here {j k : Nat} (p q : Place) : j < k → Before (j :: p) (k :: q)
  | within (k : Nat) {p q : Place} : Before p q → Before (k :: p) (k :: q)

/-- Of two places side by side neither lies above the other. -/
theorem Before.not_prefix {p q : Place} (hb : Before p q) : ¬ p <+: q ∧ ¬ q <+: p := by
  induction hb with
  | here p q hjk =>
    simp only [List.cons_prefix_cons, not_and]
    exact ⟨fun he => by omega, fun he => by omega⟩
  | within k _ ih =>
    simp only [List.cons_prefix_cons, true_and]
    exact ih

theorem Before.later {p q : Place} (hb : Before p q) : Before p.later q.later := by
  cases hb with
  | here p q hjk => exact .here p q (by omega)
  | within k hb => exact .within (k + 1) hb

end Place

namespace Runner

open Place (Before)

/-- Outcomes with their places account for an action. -/
structure Accounts (a : Action) (placed : List (Place × Outcome)) : Prop where
  /-- An outcome is that of the action at its place. -/
  place : ∀ e ∈ placed, a.at? e.1 = some e.2.action
  ordered : placed.Pairwise fun d e => Before d.1 e.1
  /-- Above each leaf, or at its place, there is an outcome. -/
  covered : ∀ p s, a.at? p = some s → s.IsLeaf → s ≠ .noop → ∃ e ∈ placed, e.1 <+: p
  ne_noop : ∀ e ∈ placed, e.2.action ≠ .noop
  /-- A workflow has an outcome only when it is skipped. -/
  notReady : ∀ e ∈ placed, ¬ e.2.action.IsLeaf → e.2.status = .notReady

/-- Outcomes account for an action that is entered: a workflow is not skipped as a whole. -/
structure Enters (a : Action) (placed : List (Place × Outcome)) : Prop
    extends Accounts a placed where
  ne_root : ∀ e ∈ placed, ¬ e.2.action.IsLeaf → e.1 ≠ []

/-- The outcomes of a first step and of the steps behind it, with their places in the workflow. -/
def join (head others : List (Place × Outcome)) : List (Place × Outcome) :=
  head.map (fun e => (0 :: e.1, e.2)) ++ others.map fun e => (e.1.later, e.2)

theorem map_snd_join (head others : List (Place × Outcome)) :
    (join head others).map Prod.snd = head.map Prod.snd ++ others.map Prod.snd := by
  simp [join, Function.comp_def]

theorem enters_noop : Enters .noop [] where
  place := by simp
  ordered := .nil
  covered := by
    intro p s hp _ hn
    cases p with
    | nil => exact absurd (Option.some.inj hp).symm hn
    | cons k p => cases hp
  ne_noop := by simp
  notReady := by simp
  ne_root := by simp

theorem enters_done : Enters (.workflow []) [] where
  place := by simp
  ordered := .nil
  covered := by
    intro p s hp hl _
    cases p with
    | nil => cases hp; exact hl.elim
    | cons k p => simp [Action.at?_workflow] at hp
  ne_noop := by simp
  notReady := by simp
  ne_root := by simp

/-- An outcome of its own accounts for an action that is a leaf or skipped as a whole. -/
theorem accounts_single {a : Action} {o : Outcome} (ho : o.action = a) (hn : a ≠ .noop)
    (hs : ¬ a.IsLeaf → o.status = .notReady) : Accounts a [([], o)] where
  place := by simp [ho]
  ordered := List.pairwise_singleton _ _
  covered := fun p _ _ _ _ => ⟨([], o), List.mem_singleton_self _, List.nil_prefix⟩
  ne_noop := by simpa [ho] using hn
  notReady := by simpa [ho] using hs

theorem enters_attempt {a : Action} {o : Outcome} (ho : o.action = a) (hl : a.IsLeaf)
    (hn : a ≠ .noop) : Enters a [([], o)] where
  toAccounts := accounts_single ho hn fun h => absurd hl h
  ne_root := by simpa [ho] using hl

/-- The outcomes that account for the steps of a workflow have places below it. -/
theorem Enters.exists_cons {steps : List Action} {placed : List (Place × Outcome)}
    (ha : Enters (.workflow steps) placed) {e : Place × Outcome} (he : e ∈ placed) :
    ∃ k p, e.1 = k :: p := by
  cases hp : e.1 with
  | cons k p => exact ⟨k, p, rfl⟩
  | nil =>
    have hat := ha.place e he
    rw [hp, Action.at?_nil] at hat
    have hl : ¬ e.2.action.IsLeaf := by
      rw [← Option.some.inj hat]
      exact fun h => h
    exact absurd hp (ha.ne_root e he hl)

variable {a : Action} {rest : List Action} {head others : List (Place × Outcome)}

/-- An outcome of a workflow is one of its first step or one of the others. -/
theorem forall_mem_join (ho : Enters (.workflow rest) others) {C : Place × Outcome → Prop}
    (hfirst : ∀ e ∈ head, C (0 :: e.1, e.2))
    (hlater : ∀ e ∈ others, ∀ k p, e.1 = k :: p → C ((k + 1) :: p, e.2)) :
    ∀ e ∈ join head others, C e := by
  intro e he
  rcases List.mem_append.mp he with he | he
  · obtain ⟨d, hd, rfl⟩ := List.mem_map.mp he
    exact hfirst d hd
  · obtain ⟨d, hd, rfl⟩ := List.mem_map.mp he
    obtain ⟨k, p, hp⟩ := ho.exists_cons hd
    simp only [hp, Place.later]
    exact hlater d hd k p hp

theorem ordered_join (hh : head.Pairwise fun d e => Before d.1 e.1)
    (ho : Enters (.workflow rest) others) :
    (join head others).Pairwise fun d e => Before d.1 e.1 := by
  refine List.pairwise_append.mpr ⟨?_, ?_, ?_⟩
  · exact List.pairwise_map.mpr (hh.imp fun hb => .within 0 hb)
  · exact List.pairwise_map.mpr (ho.ordered.imp fun hb => hb.later)
  · intro d hd e he
    obtain ⟨d, -, rfl⟩ := List.mem_map.mp hd
    obtain ⟨e', he', rfl⟩ := List.mem_map.mp he
    obtain ⟨k, p, hp⟩ := ho.exists_cons he'
    simp only [hp, Place.later]
    exact .here _ _ (Nat.succ_pos k)

theorem covered_join (hh : Accounts a head) (ho : Enters (.workflow rest) others) :
    ∀ p s, (Action.workflow (a :: rest)).at? p = some s → s.IsLeaf → s ≠ .noop →
      ∃ e ∈ join head others, e.1 <+: p := by
  intro p s hp hl hn
  match p, hp with
  | [], hp => cases hp; exact hl.elim
  | 0 :: p, hp =>
    rw [Place.at?_zero] at hp
    obtain ⟨e, he, hpre⟩ := hh.covered p s hp hl hn
    exact ⟨_, List.mem_append_left _ (List.mem_map_of_mem he),
      List.cons_prefix_cons.mpr ⟨rfl, hpre⟩⟩
  | (k + 1) :: p, hp =>
    rw [Place.at?_succ] at hp
    obtain ⟨e, he, hpre⟩ := ho.covered (k :: p) s hp hl hn
    obtain ⟨j, q, hq⟩ := ho.exists_cons he
    refine ⟨_, List.mem_append_right _ (List.mem_map_of_mem he), ?_⟩
    rw [hq, List.cons_prefix_cons] at hpre
    simp only [hq, Place.later]
    exact List.cons_prefix_cons.mpr ⟨congrArg (· + 1) hpre.1, hpre.2⟩

/-- What accounts for the first step and for the others accounts for the workflow. -/
theorem enters_cons (hh : Accounts a head) (ho : Enters (.workflow rest) others) :
    Enters (.workflow (a :: rest)) (join head others) where
  place := forall_mem_join ho
    (fun e he => (Place.at?_zero a rest e.1).trans (hh.place e he))
    (fun e he k p hp => (Place.at?_succ a rest k p).trans (hp ▸ ho.place e he))
  ordered := ordered_join hh.ordered ho
  covered := covered_join hh ho
  ne_noop := forall_mem_join ho hh.ne_noop fun e he _ _ _ => ho.ne_noop e he
  notReady := forall_mem_join ho hh.notReady fun e he _ _ _ => ho.notReady e he
  ne_root := forall_mem_join ho (fun _ _ _ => List.cons_ne_nil _ _)
    fun _ _ _ _ _ _ => List.cons_ne_nil _ _

/-- The outcomes of a run have places with which they account for the action. -/
theorem enters_run (i : Interpreter) (h : Host) (a : Action) :
    ∃ placed, placed.map Prod.snd = (run i h a).2 ∧ Enters a placed := by
  refine run_induction (i := i)
    (P := fun _ a _ os => ∃ placed, placed.map Prod.snd = os ∧ Enters a placed)
    ?noop ?attempt ?done ?ready ?skipped h a
  case noop => exact fun _ => ⟨[], rfl, enters_noop⟩
  case done => exact fun _ => ⟨[], rfl, enters_done⟩
  case attempt =>
    intro h a o h' ha
    exact ⟨[([], o)], rfl, enters_attempt ha.action_eq ha.isLeaf ha.ne_noop⟩
  case ready =>
    rintro h a rest h₁ h₂ _ _ - ⟨head, rfl, hh⟩ ⟨others, rfl, ho⟩
    exact ⟨join head others, map_snd_join head others, enters_cons hh.toAccounts ho⟩
  case skipped =>
    rintro h a rest h' _ hc ⟨others, rfl, ho⟩
    have hn : a ≠ .noop := by
      rintro rfl
      simp [canRun] at hc
    exact ⟨join [([], ⟨a, .notReady⟩)] others, map_snd_join _ others,
      enters_cons (accounts_single rfl hn fun _ => rfl) ho⟩

/-! ## Each leaf is accounted for once -/

/-- Two outcomes above one place, or at it, are the same. -/
theorem Accounts.unique {placed : List (Place × Outcome)} (ha : Accounts a placed) {p : Place}
    {d e : Place × Outcome} (hd : d ∈ placed) (he : e ∈ placed) (hdp : d.1 <+: p)
    (hep : e.1 <+: p) : d = e := by
  by_contra hne
  have apart : placed.Pairwise fun d e => ¬ d.1 <+: e.1 ∧ ¬ e.1 <+: d.1 :=
    ha.ordered.imp fun hb => hb.not_prefix
  have : Std.Symm fun d e : Place × Outcome => ¬ d.1 <+: e.1 ∧ ¬ e.1 <+: d.1 :=
    ⟨fun _ _ h => h.symm⟩
  have hde := apart.forall hd he hne
  rcases List.prefix_or_prefix_of_prefix hdp hep with h | h
  · exact hde.1 h
  · exact hde.2 h

/-- What stands above another place is a workflow. -/
theorem exists_workflow_above {s t : Action} {p q : Place} (hp : a.at? p = some s)
    (hq : a.at? q = some t) (hpre : q <+: p) (hne : q ≠ p) : ∃ steps, t = .workflow steps := by
  obtain ⟨r, rfl⟩ := hpre
  rw [Action.at?_append, hq] at hp
  refine Action.exists_workflow_of_not_isLeaf fun hl => ?_
  cases r with
  | nil => exact hne (List.append_nil q).symm
  | cons k r => simp [Action.at?_cons_of_isLeaf hl] at hp

theorem level_event (o : Outcome) :
    o.event.level = match o.status with
      | .done => .debug
      | .notReady | .fileMissing _ => .warning
      | .failed _ => .error := by
  cases o with
  | mk a status => cases status <;> rfl

/-- The outcomes of a run have places in the action, from left to right. Each leaf that is not
nothing to do has exactly one of them at its place or above it, and one above it is that of a
workflow, not the whole action, that was skipped. Nothing to do has no outcome, and a workflow none
but being skipped. Performing the action tells the log of each outcome, in this order. -/
theorem places_run (i : Interpreter) (h : Host) (a : Action) :
    ∃ placed : List (Place × Outcome),
      placed.map Prod.snd = (run i h a).2
        ∧ (∀ e ∈ placed, a.at? e.1 = some e.2.action)
        ∧ (placed.Pairwise fun d e => Before d.1 e.1)
        ∧ (∀ p s, a.at? p = some s → s.IsLeaf → s ≠ .noop →
            ∃ e ∈ placed, e.1 <+: p
              ∧ (e.1 = p ∨ e.1 ≠ [] ∧ (∃ steps, e.2 = ⟨.workflow steps, .notReady⟩))
              ∧ ∀ d ∈ placed, d.1 <+: p → d = e)
        ∧ (∀ o ∈ (run i h a).2, o.action ≠ .noop ∧ (¬ o.action.IsLeaf → o.status = .notReady))
        ∧ (perform i a).runOn h = (.ok (), (run i h a).1.note ((run i h a).2.map Outcome.event))
        ∧ (run i h a).1.journal = h.journal
        ∧ (∀ o ∈ (run i h a).2, o.event.level = match o.status with
            | .done => .debug
            | .notReady | .fileMissing _ => .warning
            | .failed _ => .error) := by
  obtain ⟨placed, hos, ha⟩ := enters_run i h a
  refine ⟨placed, hos, ha.place, ha.ordered, ?_, ?_, runOn_perform i h a, (frame_run i h a).journal,
    fun o _ => level_event o⟩
  · intro p s hp hl hn
    obtain ⟨e, he, hpre⟩ := ha.covered p s hp hl hn
    refine ⟨e, he, hpre, ?_, fun d hd hdp => ha.unique hd he hdp hpre⟩
    by_cases hep : e.1 = p
    · exact .inl hep
    · obtain ⟨steps, hsteps⟩ := exists_workflow_above hp (ha.place e he) hpre hep
      have hnl : ¬ e.2.action.IsLeaf := by
        rw [hsteps]
        exact fun h => h
      exact .inr ⟨ha.ne_root e he hnl, steps, by rw [← hsteps, ← ha.notReady e he hnl]⟩
  · rw [← hos]
    intro o ho
    obtain ⟨e, he, rfl⟩ := List.mem_map.mp ho
    exact ⟨ha.ne_noop e he, ha.notReady e he⟩

end Runner

end QuickLaunch
