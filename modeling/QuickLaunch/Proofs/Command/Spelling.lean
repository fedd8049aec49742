import QuickLaunch.Proofs.Command.Workflows

/-!
# Actions that commands name

Not every action is that of a command: the steps of a workflow are paths and shell commands, and
neither may look like something else to the reader of commands. `Action.IsStep` and
`Action.IsNamed` say which actions are left, and each of these has a spelling.

* `isNamed_resolve`: a command resolves to such an action;
* `resolve_spelling`: the spelling of such an action resolves to it;
* `exists_resolve_iff`: so these are the actions of commands, and resolving the spelling of what a
  command resolves to changes nothing.
-/

namespace QuickLaunch

open Command (IsSegment shellWord workflowWord stepMark)
open Text (Trimmed trimChars beginsWith isBlankChars)

namespace Action

/-- The action can be a step of a workflow that a command names. -/
def IsStep : Action → Prop
  | .launch path => IsSegment path.toList ∧ beginsWith shellWord path.toList = false
  | .shell command => Trimmed command.toList ∧ ¬ stepMark <:+: command.toList
  | .noop | .workflow _ | .foreign _ => False

/-- A command names the action. -/
def IsNamed : Action → Prop
  | .noop => True
  | .launch path =>
    isBlankChars path.toList = false ∧ beginsWith shellWord path.toList = false
      ∧ beginsWith workflowWord path.toList = false
  | .shell command => Trimmed command.toList
  | .workflow steps => steps ≠ [] ∧ ∀ s ∈ steps, s.IsStep
  | .foreign _ => False

instance : DecidablePred IsStep
  | .launch _ | .shell _ => inferInstanceAs (Decidable (_ ∧ _))
  | .noop | .workflow _ | .foreign _ => inferInstanceAs (Decidable False)

instance : DecidablePred IsNamed
  | .noop => inferInstanceAs (Decidable True)
  | .launch _ => inferInstanceAs (Decidable (_ ∧ _ ∧ _))
  | .shell _ => inferInstanceAs (Decidable (Trimmed _))
  | .workflow _ => inferInstanceAs (Decidable (_ ∧ ∀ s ∈ _, _))
  | .foreign _ => inferInstanceAs (Decidable False)

/-- A step of a workflow is neither nothing to do nor a workflow. -/
theorem IsStep.ne {a : Action} (ha : a.IsStep) : a ≠ .noop ∧ ∀ steps, a ≠ .workflow steps := by
  cases a with
  | launch path => simp
  | shell command => simp
  | noop => exact ha.elim
  | workflow steps => exact ha.elim
  | foreign typeName => exact ha.elim

end Action

namespace Command

/-! ## What commands resolve to -/

theorem isStep_resolveStep {s : List Char} (hs : IsSegment s) : (resolveStep s).IsStep := by
  cases h : beginsWith shellWord s with
  | true =>
    rw [resolveStep_shell hs.not_isBlankChars h, Action.IsStep, String.toList_ofList]
    refine ⟨Text.trimmed_trimChars _, fun hi => hs.unmarked ?_⟩
    exact (hi.trans (Text.trimChars_infix _)).trans (List.drop_suffix _ s).isInfix
  | false =>
    rw [resolveStep_launch hs.not_isBlankChars h, Action.IsStep, String.toList_ofList]
    exact ⟨hs, h⟩

theorem isNamed_workflowOf {ps : List (List Char)} (hps : ∀ p ∈ ps, IsSegment p) :
    (workflowOf ps).IsNamed := by
  cases ps with
  | nil => trivial
  | cons p rest =>
    refine ⟨List.cons_ne_nil _ _, fun s hs => ?_⟩
    obtain ⟨q, hq, rfl⟩ := List.mem_map.mp hs
    exact isStep_resolveStep (hps q hq)

theorem isNamed_resolveChars (raw : List Char) : (resolveChars raw).IsNamed := by
  cases hb : isBlankChars raw with
  | true =>
    rw [resolveChars, if_pos hb]
    trivial
  | false =>
    cases hw : beginsWith workflowWord raw with
    | true =>
      rw [resolveChars_of_beginsWith hb hw]
      exact isNamed_workflowOf fun _ => isSegment_of_mem
    | false =>
      rw [resolveChars_eq_resolveStep hw]
      cases hs : beginsWith shellWord raw with
      | true =>
        rw [resolveStep_shell hb hs, Action.IsNamed, String.toList_ofList]
        exact Text.trimmed_trimChars _
      | false =>
        rw [resolveStep_launch hb hs, Action.IsNamed, String.toList_ofList]
        exact ⟨hb, hs, hw⟩

theorem isNamed_resolve (raw : Option String) : (resolve raw).IsNamed := by
  cases raw with
  | none => trivial
  | some raw => exact isNamed_resolveChars raw.toList

/-! ## Spellings -/

theorem resolveStep_shellWord {command : String} (hc : Trimmed command.toList) :
    resolveStep (shellWord ++ command.toList) = .shell command := by
  rw [resolveStep_shell (isBlankChars_shellWord _) (beginsWith_shellWord _), List.drop_left, hc,
    String.ofList_toList]

theorem resolveStep_stepSpelling {a : Action} (ha : a.IsStep) :
    resolveStep (stepSpelling a) = a := by
  cases a with
  | launch path =>
    rw [stepSpelling, resolveStep_launch ha.1.not_isBlankChars ha.2, String.ofList_toList]
  | shell command => exact resolveStep_shellWord ha.1
  | noop => exact ha.elim
  | workflow steps => exact ha.elim
  | foreign typeName => exact ha.elim

/-- The word in front of a shell command ends in no blank and has no part of a step mark. -/
theorem isSegment_shellWord {command : List Char} (hc : Trimmed command)
    (hm : ¬ stepMark <:+: command) : IsSegment (shellWord ++ command) where
  ne_nil := List.cons_ne_nil _ _
  trimmed := by
    refine Text.trimmed_iff.mpr ⟨fun c hh => ?_, fun c hl => ?_⟩
    · obtain rfl : 's' = c := Option.some.inj hh
      decide
    · rw [List.getLast?_append] at hl
      cases he : command.getLast? with
      | some d =>
        rw [he] at hl
        exact (Text.trimmed_iff.mp hc).2 c (he.trans hl)
      | none =>
        rw [he] at hl
        obtain rfl : ':' = c := Option.some.inj hl
        decide
  unmarked := fun h => hm (Text.infix_of_infix_append (by decide) h)

theorem isSegment_stepSpelling {a : Action} (ha : a.IsStep) : IsSegment (stepSpelling a) := by
  cases a with
  | launch path => exact ha.1
  | shell command => exact isSegment_shellWord ha.1 ha.2
  | noop => exact ha.elim
  | workflow steps => exact ha.elim
  | foreign typeName => exact ha.elim

theorem segments_spellings {steps : List Action} (hs : ∀ s ∈ steps, s.IsStep) :
    segments (Text.joinWith " && ".toList (steps.map stepSpelling)) = steps.map stepSpelling := by
  refine segments_joinWith fun p hp => ?_
  obtain ⟨s, hm, rfl⟩ := List.mem_map.mp hp
  exact isSegment_stepSpelling (hs s hm)

theorem workflowOf_spellings {steps : List Action} (hne : steps ≠ [])
    (hs : ∀ s ∈ steps, s.IsStep) : workflowOf (steps.map stepSpelling) = .workflow steps := by
  rw [workflowOf, if_neg (by simpa using hne), List.map_map]
  congr 1
  calc steps.map (resolveStep ∘ stepSpelling)
      = steps.map id := List.map_congr_left fun s hm => resolveStep_stepSpelling (hs s hm)
    _ = steps := List.map_id steps

/-- The spelling of an action that a command names is such a command. -/
theorem resolve_spelling {a : Action} (ha : a.IsNamed) :
    resolve (some (String.ofList (spelling a))) = a := by
  rw [resolve, String.toList_ofList]
  cases a with
  | noop => rfl
  | launch path =>
    rw [spelling, resolveChars_eq_resolveStep ha.2.2, resolveStep_launch ha.1 ha.2.1,
      String.ofList_toList]
  | shell command =>
    have hw : beginsWith workflowWord (shellWord ++ command.toList) = false :=
      Text.not_beginsWith_of_beginsWith (by decide) (beginsWith_shellWord command.toList)
    rw [spelling, resolveChars_eq_resolveStep hw, resolveStep_shellWord ha]
  | workflow steps =>
    rw [spelling, resolveChars_workflow, segments_spellings ha.2, workflowOf_spellings ha.1 ha.2]
  | foreign typeName => exact ha.elim

/-- Commands name exactly the actions that `Action.IsNamed` describes, and the spelling of each of
them names it. So resolving the spelling of what a command resolves to gives the same action. No
workflow of a command is empty, and none of its steps is a workflow or nothing to do. -/
theorem exists_resolve_iff :
    (∀ a, (∃ raw, resolve (some raw) = a) ↔ a.IsNamed)
      ∧ (∀ a : Action, a.IsNamed → resolve (some (String.ofList (spelling a))) = a)
      ∧ (∀ raw, resolve (some (String.ofList (spelling (resolve raw)))) = resolve raw)
      ∧ ∀ raw steps, resolve raw = .workflow steps →
          steps ≠ [] ∧ ∀ s ∈ steps, s ≠ .noop ∧ ∀ more, s ≠ .workflow more := by
  refine ⟨fun a => ⟨?_, fun ha => ⟨_, resolve_spelling ha⟩⟩, fun a => resolve_spelling,
    fun raw => resolve_spelling (isNamed_resolve raw), fun raw steps h => ?_⟩
  · rintro ⟨raw, rfl⟩
    exact isNamed_resolve (some raw)
  · have hn := isNamed_resolve raw
    rw [h] at hn
    exact ⟨hn.1, fun s hs => (hn.2 s hs).ne⟩

/-- Steps that begin or end with half a step mark, an empty shell command, and a path that asks for
a workflow: the spelling of the workflow names it. -/
theorem exists_resolve_iff_ampersands :
    (Action.workflow [.launch "&a", .shell "", .shell "b &", .launch "workflow:&"]).IsNamed
      ∧ resolve (some "workflow:&a && shell: && shell:b & && workflow:&")
        = .workflow [.launch "&a", .shell "", .shell "b &", .launch "workflow:&"] := by
  have hn : (Action.workflow
      [.launch "&a", .shell "", .shell "b &", .launch "workflow:&"]).IsNamed := by decide
  have hs : spelling (.workflow [.launch "&a", .shell "", .shell "b &", .launch "workflow:&"])
      = "workflow:&a && shell: && shell:b & && workflow:&".toList := by decide
  have h := exists_resolve_iff.2.1 _ hn
  rw [hs, String.ofList_toList] at h
  exact ⟨hn, h⟩

end Command

end QuickLaunch
