import QuickLaunch.Command
import QuickLaunch.Proofs.Text.Pieces

/-!
# Workflows

The text behind `workflow:` lists segments: trimmed texts, not empty, without a step mark in them. A
step mark between blanks joins any two texts without a change to the segments of either, so the
steps of a joined workflow are those of its parts.

* `segments_append`, `segments_joinWith`: the segments of joined texts;
* `isSegment_of_mem`: what segments are;
* `steps_joined`: the steps of joined workflows, and of a workflow of one segment.
-/

namespace QuickLaunch

/-- The steps of a workflow. Nothing to do has none. -/
def Action.steps : Action → List Action
  | .workflow steps => steps
  | .noop | .launch _ | .shell _ | .foreign _ => []

namespace Command

open Text (Trimmed trimChars splitOn beginsWith isBlankChars joinWith)

/-- The text can be a segment: it is trimmed, not empty and has no step mark in it. -/
structure IsSegment (s : List Char) : Prop where
  ne_nil : s ≠ []
  trimmed : Trimmed s
  unmarked : ¬ stepMark <:+: s

instance (s : List Char) : Decidable (IsSegment s) :=
  decidable_of_iff (s ≠ [] ∧ Trimmed s ∧ ¬ stepMark <:+: s)
    ⟨fun h => ⟨h.1, h.2.1, h.2.2⟩, fun h => ⟨h.ne_nil, h.trimmed, h.unmarked⟩⟩

/-! ## Segments -/

theorem stepMark_ne_nil : stepMark ≠ [] :=
  List.cons_ne_nil _ _

theorem not_mem_stepMark {c : Char} (hc : Text.isBlankChar c = true) : c ∉ stepMark := by
  intro hm
  have : c = '&' := by simpa [stepMark] using hm
  subst this
  exact absurd hc (by decide)

/-- Blanks around the text make no difference to its segments. -/
theorem segments_eq (body : List Char) :
    segments body = ((splitOn stepMark body).map trimChars).filter (· ≠ []) := by
  rw [segments, Text.map_trimChars_splitOn_trimChars stepMark_ne_nil fun _ => not_mem_stepMark]

/-- A step mark between blanks cuts between the texts on both sides of it, whatever they are. -/
theorem segments_append (a b : List Char) :
    segments (a ++ " && ".toList ++ b) = segments a ++ segments b := by
  have hb : Text.isBlankChar ' ' = true := by decide
  have hm : ' ' ∉ stepMark := not_mem_stepMark hb
  have joint : a ++ " && ".toList ++ b = a ++ ' ' :: (stepMark ++ ' ' :: b) := by
    rw [List.append_assoc]
    rfl
  rw [joint, segments_eq, Text.splitOn_append stepMark_ne_nil hm, List.map_append,
    Text.map_trimChars_splitOn_concat stepMark_ne_nil hm hb,
    Text.map_trimChars_splitOn_cons stepMark_ne_nil hm hb, List.filter_append, ← segments_eq,
    ← segments_eq]

theorem isSegment_of_mem {body s : List Char} (hs : s ∈ segments body) : IsSegment s := by
  rw [segments_eq, List.mem_filter, List.mem_map] at hs
  obtain ⟨⟨piece, hp, rfl⟩, hne⟩ := hs
  exact {
    ne_nil := of_decide_eq_true hne
    trimmed := Text.trimmed_trimChars piece
    unmarked := fun h =>
      Text.not_infix_of_mem_splitOn stepMark_ne_nil hp (h.trans (Text.trimChars_infix piece)) }

theorem segments_nil : segments [] = [] := rfl

theorem IsSegment.segments_eq {s : List Char} (hs : IsSegment s) : segments s = [s] := by
  rw [Command.segments_eq, Text.splitOn_of_not_infix stepMark_ne_nil hs.unmarked,
    List.map_singleton, hs.trimmed]
  simp [hs.ne_nil]

/-- Segments that are joined are read again. -/
theorem segments_joinWith {ps : List (List Char)} (hps : ∀ p ∈ ps, IsSegment p) :
    segments (joinWith " && ".toList ps) = ps := by
  induction ps with
  | nil => exact segments_nil
  | cons p rest ih =>
    have hp := (hps p List.mem_cons_self).segments_eq
    have hrest := ih fun q hq => hps q (List.mem_cons_of_mem p hq)
    cases rest with
    | nil => exact hp
    | cons q rest => rw [joinWith, segments_append, hp, hrest, List.singleton_append]

theorem segments_intercalate {ps : List String} (hps : ∀ p ∈ ps, IsSegment p.toList) :
    segments (" && ".intercalate ps).toList = ps.map String.toList := by
  rw [String.toList_intercalate, ← Text.joinWith_eq_intercalate]
  refine segments_joinWith fun p hp => ?_
  obtain ⟨q, hq, rfl⟩ := List.mem_map.mp hp
  exact hps q hq

/-! ## Words at the start -/

theorem beginsWith_shellWord (rest : List Char) : beginsWith shellWord (shellWord ++ rest) = true :=
  Text.beginsWith_append (by decide) rest

theorem beginsWith_workflowWord (rest : List Char) :
    beginsWith workflowWord (workflowWord ++ rest) = true :=
  Text.beginsWith_append (by decide) rest

/-- No text begins with both words. -/
theorem not_beginsWith_shellWord {s : List Char} (h : beginsWith workflowWord s = true) :
    beginsWith shellWord s = false :=
  Text.not_beginsWith_of_beginsWith (by decide) h

theorem isBlankChars_shellWord (rest : List Char) : isBlankChars (shellWord ++ rest) = false := rfl

theorem isBlankChars_workflowWord (rest : List Char) :
    isBlankChars (workflowWord ++ rest) = false := rfl

/-! ## What commands resolve to -/

theorem IsSegment.not_isBlankChars {s : List Char} (hs : IsSegment s) : isBlankChars s = false :=
  Bool.eq_false_iff.mpr fun h => hs.ne_nil (hs.trimmed.isBlankChars_iff.mp h)

theorem resolveStep_shell {s : List Char} (hb : isBlankChars s = false)
    (h : beginsWith shellWord s = true) :
    resolveStep s = .shell (String.ofList (trimChars (s.drop shellWord.length))) := by
  simp [resolveStep, hb, h]

theorem resolveStep_launch {s : List Char} (hb : isBlankChars s = false)
    (h : beginsWith shellWord s = false) : resolveStep s = .launch (String.ofList s) := by
  simp [resolveStep, hb, h]

/-- A command is read like a step unless it asks for a workflow. -/
theorem resolveChars_eq_resolveStep {s : List Char} (h : beginsWith workflowWord s = false) :
    resolveChars s = resolveStep s := by
  rw [resolveChars, h]
  split
  · next hb => simp [resolveStep, hb]
  · simp

theorem resolveChars_of_beginsWith {s : List Char} (hb : isBlankChars s = false)
    (h : beginsWith workflowWord s = true) :
    resolveChars s = workflowOf (segments (s.drop workflowWord.length)) := by
  simp [resolveChars, hb, h, not_beginsWith_shellWord h]

theorem resolveChars_workflow (body : List Char) :
    resolveChars (workflowWord ++ body) = workflowOf (segments body) := by
  rw [resolveChars_of_beginsWith (isBlankChars_workflowWord body) (beginsWith_workflowWord body),
    List.drop_left]

/-- The action of a command string that asks for a workflow. -/
theorem resolve_workflow (body : String) :
    resolve (some ("workflow:" ++ body)) = workflowOf (segments body.toList) := by
  rw [resolve, String.toList_append]
  exact resolveChars_workflow body.toList

theorem steps_workflowOf (ps : List (List Char)) : (workflowOf ps).steps = ps.map resolveStep := by
  cases ps <;> rfl

theorem workflowOf_eq (ps : List (List Char)) :
    workflowOf ps = .noop ∨ workflowOf ps = .workflow (workflowOf ps).steps := by
  cases ps with
  | nil => exact .inl rfl
  | cons p rest => exact .inr rfl

/-- The step of a workflow that has one segment. -/
theorem resolveStep_of_isSegment {s : String} (hs : IsSegment s.toList) :
    resolveStep s.toList =
      if beginsWith workflowWord s.toList then .launch s else resolve (some s) := by
  split
  · next h =>
    rw [resolveStep_launch hs.not_isBlankChars (not_beginsWith_shellWord h), String.ofList_toList]
  · next h => rw [resolve, resolveChars_eq_resolveStep (Bool.eq_false_iff.mpr h)]

/-- Joining two workflows joins their steps, whatever stands at the joint. A workflow of one segment
has one step, which is the action of the segment as a command, but a path if the segment asks for a
workflow again. A command that asks for a workflow never names anything else. -/
theorem steps_joined :
    (∀ a b : String, (resolve (some ("workflow:" ++ a ++ " && " ++ b))).steps =
        (resolve (some ("workflow:" ++ a))).steps ++ (resolve (some ("workflow:" ++ b))).steps)
      ∧ (∀ s : String, IsSegment s.toList → (resolve (some ("workflow:" ++ s))).steps =
          [if beginsWith workflowWord s.toList then .launch s else resolve (some s)])
      ∧ ∀ a : String, resolve (some ("workflow:" ++ a)) = .noop
          ∨ resolve (some ("workflow:" ++ a)) =
            .workflow (resolve (some ("workflow:" ++ a))).steps := by
  refine ⟨fun a b => ?_, fun s hs => ?_, fun a => ?_⟩
  · rw [String.append_assoc, String.append_assoc, resolve_workflow, resolve_workflow,
      resolve_workflow, steps_workflowOf, steps_workflowOf, steps_workflowOf, String.toList_append,
      String.toList_append, ← List.append_assoc, segments_append, List.map_append]
  · rw [resolve_workflow, steps_workflowOf, hs.segments_eq, List.map_singleton,
      resolveStep_of_isSegment hs]
  · rw [resolve_workflow]
    exact workflowOf_eq _

/-- A step that asks for a workflow in capital letters is a path. -/
theorem steps_joined_nested :
    IsSegment "WORKFLOW:a & b".toList
      ∧ (resolve (some ("workflow:" ++ "WORKFLOW:a & b"))).steps = [.launch "WORKFLOW:a & b"] := by
  have hs : IsSegment "WORKFLOW:a & b".toList := by decide
  exact ⟨hs, (steps_joined.2.1 _ hs).trans (by decide)⟩

end Command

end QuickLaunch
