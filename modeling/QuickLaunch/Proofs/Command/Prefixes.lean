import Mathlib.Data.Bool.AllAny
import QuickLaunch.Proofs.Command.Workflows
import QuickLaunch.Proofs.Text.Lowered

/-!
# The words in front of commands

Which texts begin with `shell:` or `workflow:` is decided by their lower case, and lower case is a
matter of all of Unicode: some characters become several, several become the same one, and a sigma
depends on what is around it. None of this shows in the two words but for the Kelvin sign, whose
lower case is the k of `workflow:`. What follows the word is handed on from the first character
after it.

* `Text.beginsWith_iff_spelled`: a text that begins with an ASCII word begins with a spelling of it;
* `beginsWith_shellWord_iff`, `beginsWith_workflowWord_iff`: the spellings of the two words;
* `resolve_of_shellWord`, `resolve_of_workflowWord`: the action that a text behind a word names;
* `beginsWith_word_iff`: which texts begin with a word, and what of them is handed on.
-/

namespace QuickLaunch

/-! ## Texts that begin with a word -/

namespace Text

variable {word s : List Char}

/-- As many characters as the word has are a spelling of it. -/
theorem beginsWith_iff_spelled (hw : ∀ w ∈ word, w.toNat < 0x80 ∧ w.toLower = w) :
    beginsWith word s = true ↔ Spelled word (s.take word.length) := by
  rw [beginsWith, beq_iff_eq, lowerChars_eq_iff_spelled hw]

/-- What begins with a word that is not blank is not blank. -/
theorem not_isBlankChars_of_beginsWith (hb : isBlankChars word = false)
    (h : beginsWith word s = true) : isBlankChars s = false := by
  rw [beginsWith, beq_iff_eq] at h
  have htake : isBlankChars (s.take word.length) = false := by
    rw [← isBlankChars_lowerChars, h, hb]
  have hall : isBlankChars s =
      (isBlankChars (s.take word.length) && isBlankChars (s.drop word.length)) := by
    rw [isBlankChars, isBlankChars, isBlankChars, ← List.all_append, List.take_append_drop]
  rw [hall, htake, Bool.false_and]

end Text

namespace Command

open Text (Capitalized Spelled beginsWith isBlankChars trimChars)

variable {s : List Char} {raw : String}

/-! ## The two words -/

theorem ascii_shellWord : ∀ w ∈ shellWord, w.toNat < 0x80 ∧ w.toLower = w :=
  List.all_iff_forall_prop.mp rfl

theorem ascii_workflowWord : ∀ w ∈ workflowWord, w.toNat < 0x80 ∧ w.toLower = w :=
  List.all_iff_forall_prop.mp rfl

/-- The first six characters are those of the word, each letter of which may be a capital. -/
theorem beginsWith_shellWord_iff :
    beginsWith shellWord s = true ↔ Capitalized "shell:".toList (s.take 6) := by
  rw [Text.beginsWith_iff_spelled ascii_shellWord]
  exact Text.spelled_iff_capitalized (by decide)

/-- The long s becomes an s in upper case only. -/
example : beginsWith shellWord "\u017fhell:".toList = false := by
  decide +kernel

/-- The first nine characters are those of the word, each letter of which may be a capital, and the
Kelvin sign is a capital k. -/
theorem beginsWith_workflowWord_iff :
    beginsWith workflowWord s = true ↔ Spelled "workflow:".toList (s.take 9) :=
  Text.beginsWith_iff_spelled ascii_workflowWord

theorem ascii_of_shellWord (h : beginsWith shellWord s = true) :
    ∀ c ∈ s.take 6, c.toNat < 0x80 := by
  have hk : 'k' ∉ "shell:".toList := by decide
  have hspelled := (Text.spelled_iff_capitalized hk).mpr (beginsWith_shellWord_iff.mp h)
  intro c hc
  refine (hspelled.ascii (fun w hw => (ascii_shellWord w hw).1) c hc).resolve_right ?_
  exact fun hkelvin => hk hkelvin.1

theorem ascii_or_kelvin_of_workflowWord (h : beginsWith workflowWord s = true) :
    ∀ c ∈ s.take 9, c.toNat < 0x80 ∨ c = '\u212a' := by
  have hspelled := beginsWith_workflowWord_iff.mp h
  intro c hc
  exact (hspelled.ascii (fun w hw => (ascii_workflowWord w hw).1) c hc).imp_right And.right

/-! ## What is behind them -/

/-- What is behind the word is the shell command, in a workflow too. -/
theorem resolve_of_shellWord (h : beginsWith shellWord raw.toList = true) :
    resolve (some raw) = .shell (String.ofList (trimChars (raw.toList.drop 6)))
      ∧ resolveStep raw.toList = .shell (String.ofList (trimChars (raw.toList.drop 6))) := by
  have hb : isBlankChars raw.toList = false := Text.not_isBlankChars_of_beginsWith rfl h
  have hstep := resolveStep_shell hb h
  refine ⟨?_, hstep⟩
  have hw : beginsWith workflowWord raw.toList = false :=
    Text.not_beginsWith_of_beginsWith (by decide) h
  rw [resolve, resolveChars_eq_resolveStep hw]
  exact hstep

/-- What is behind the word lists the steps, those among them that ask for a workflow again too. -/
theorem resolve_of_workflowWord (h : beginsWith workflowWord raw.toList = true) :
    resolve (some raw) = workflowOf (segments (raw.toList.drop 9))
      ∧ nestedWorkflows (some raw) =
        ((segments (raw.toList.drop 9)).filter (beginsWith workflowWord)).map String.ofList := by
  have hb : isBlankChars raw.toList = false := Text.not_isBlankChars_of_beginsWith rfl h
  refine ⟨resolveChars_of_beginsWith hb h, ?_⟩
  rw [nestedWorkflows, if_neg (by simp [hb, not_beginsWith_shellWord h]), if_pos h]
  rfl

/-- A text begins with `shell:` when its first six characters are these, each letter small or
capital, and with `workflow:` when its first nine are, where the Kelvin sign is a capital k too. So
no character beyond ASCII but this one stands in such a word. Behind the word the text is handed on
as it is: as a shell command, of a command or of a step, and as the text whose segments are the
steps, of which those that ask for a workflow again are told. -/
theorem beginsWith_word_iff :
    (∀ s : String, beginsWith shellWord s.toList = true ↔
        Capitalized "shell:".toList (s.toList.take 6))
      ∧ (∀ s : String, beginsWith workflowWord s.toList = true ↔
        Spelled "workflow:".toList (s.toList.take 9))
      ∧ (∀ s : String, beginsWith shellWord s.toList = true →
        (∀ c ∈ s.toList.take 6, c.toNat < 0x80)
          ∧ resolve (some s) = .shell (String.ofList (trimChars (s.toList.drop 6)))
          ∧ resolveStep s.toList = .shell (String.ofList (trimChars (s.toList.drop 6))))
      ∧ ∀ s : String, beginsWith workflowWord s.toList = true →
        (∀ c ∈ s.toList.take 9, c.toNat < 0x80 ∨ c = '\u212a')
          ∧ resolve (some s) = workflowOf (segments (s.toList.drop 9))
          ∧ nestedWorkflows (some s) =
            ((segments (s.toList.drop 9)).filter (beginsWith workflowWord)).map String.ofList :=
  ⟨fun _ => beginsWith_shellWord_iff, fun _ => beginsWith_workflowWord_iff,
    fun _ h => ⟨ascii_of_shellWord h, resolve_of_shellWord h⟩,
    fun _ h => ⟨ascii_or_kelvin_of_workflowWord h, resolve_of_workflowWord h⟩⟩

/-- A workflow with the Kelvin sign in its word, whose last step asks for a workflow, and a shell
command in mixed case, whose program has the sign. -/
theorem beginsWith_word_iff_of_kelvin :
    beginsWith workflowWord "wOR\u212aflow:a&&SHELL: b&&Workflow:c".toList = true
      ∧ resolve (some "wOR\u212aflow:a&&SHELL: b&&Workflow:c") =
        .workflow [.launch "a", .shell "b", .launch "Workflow:c"]
      ∧ nestedWorkflows (some "wOR\u212aflow:a&&SHELL: b&&Workflow:c") = ["Workflow:c"]
      ∧ beginsWith shellWord "sHeLL: \u212aill ".toList = true
      ∧ resolve (some "sHeLL: \u212aill ") = .shell "\u212aill" := by
  have hw := (beginsWith_word_iff.2.1 "wOR\u212aflow:a&&SHELL: b&&Workflow:c").mpr
    (by simp [Spelled, Text.Variant])
  have hs := (beginsWith_word_iff.1 "sHeLL: \u212aill ").mpr (by simp [Capitalized])
  obtain ⟨-, hworkflow, hnested⟩ := beginsWith_word_iff.2.2.2 _ hw
  obtain ⟨-, hshell, -⟩ := beginsWith_word_iff.2.2.1 _ hs
  exact ⟨hw, hworkflow.trans rfl, hnested.trans (by decide), hs, hshell.trans rfl⟩

end Command

end QuickLaunch
