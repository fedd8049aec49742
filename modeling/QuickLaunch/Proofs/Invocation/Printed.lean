import QuickLaunch.Proofs.Action.Printed
import QuickLaunch.Proofs.Invocation.Resolves

/-!
# What is printed tells what a command string stands for

The reply to a command line that resolves is one line, the printed form of the action. Two command
strings are told apart by what is printed exactly if they stand for different actions.

* `Reply.Prints`, `Reply.Prints.reply_eq`: the reply to a command line that resolves;
* `Reply.text_eq_iff`: what replies tell.
-/

namespace QuickLaunch

namespace Command

theorem known_resolve (raw : Option String) : (resolve raw).Known :=
  (isNamed_resolve raw).known

end Command

namespace Reply

open Session

variable {words : List String} {h h₁ : Host} {command command₁ command₂ : String} {reply : Reply}

/-- The reply to a command line that resolves a command string. -/
structure Prints (words : List String) (h : Host) (command : String) (reply : Reply) : Prop where
  accepted : ∃ inv, Invocation.ofWords words = .accepted inv ∧ inv.command = .resolve command
  runOn_eq : ((ofWords words).runOn h).1 = .ok reply

/-- The reply with the printed form of the action that a command string stands for. -/
def resolved (command : String) : Reply :=
  { status := 0, lines := [(Command.resolve (some command)).text] }

theorem text_resolved (command : String) :
    (resolved command).text = (Command.resolve (some command)).text ++ "\n" := by
  simp [resolved, text, String.join]

/-- Whatever the settings are, the reply is the same if there is one. -/
theorem Prints.reply_eq (ha : Prints words h command reply) : reply = resolved command := by
  obtain ⟨⟨inv, hw, hc⟩, hr⟩ := ha
  rcases hload : (Settings.load inv.settings).runOn h with ⟨fault | settings, h₁⟩
  · rw [ofWords, hw] at hr
    change ((ofInvocation inv).runOn h).1 = _ at hr
    rw [ofInvocation, runOn_bind, hload] at hr
    cases hr
  · cases hl : Settings.threshold inv.logLevel settings with
    | error fault =>
      rw [runOn_ofWords_of_fault hw hload hl] at hr
      cases hr
    | ok level =>
      obtain ⟨h', hreply⟩ := runOn_resolve command { h₁ with threshold := level }
      rw [runOn_ofWords_resolve hw hc hload hl, hreply] at hr
      exact (Except.ok.inj hr).symm

theorem text_resolved_eq_iff : (resolved command₁).text = (resolved command₂).text ↔
    Command.resolve (some command₁) = Command.resolve (some command₂) := by
  rw [text_resolved, text_resolved, String.append_left_inj]
  exact Action.text_inj (Command.known_resolve _) (Command.known_resolve _)

/-- The printed form of an action tells which action it is, whatever its texts imitate and however
deep workflows stand in workflows, and is on one line. What is printed for command strings, by the
command itself and by any command lines that come to it, is therefore the same exactly if they
resolve to the same action. -/
theorem text_eq_iff :
    (∀ a b : Action, a.Known → b.Known → (a.text = b.text ↔ a = b))
      ∧ (∀ a : Action, a.Known → ∀ c ∈ Text.lineEnds, c ∉ a.text.toList)
      ∧ (∀ raw, (Command.resolve raw).Known)
      ∧ (∀ command₁ command₂ h₁ h₂, ∃ reply₁ reply₂,
          ((resolve command₁).runOn h₁).1 = .ok reply₁
            ∧ ((resolve command₂).runOn h₂).1 = .ok reply₂
            ∧ (reply₁.text = reply₂.text ↔
              Command.resolve (some command₁) = Command.resolve (some command₂)))
      ∧ ∀ words₁ words₂ h₁ h₂ command₁ command₂ reply₁ reply₂,
          Prints words₁ h₁ command₁ reply₁ → Prints words₂ h₂ command₂ reply₂ →
            (reply₁.text = reply₂.text ↔
              Command.resolve (some command₁) = Command.resolve (some command₂)) := by
  refine ⟨fun a b => Action.text_inj, fun a ha c hc => ?_, Command.known_resolve, ?_, ?_⟩
  · rw [Action.toList_text]
    exact ha.printable_chars.not_mem_of_mem_lineEnds hc
  · intro command₁ command₂ h₁ h₂
    exact ⟨resolved command₁, resolved command₂, rfl, rfl, text_resolved_eq_iff⟩
  · intro words₁ words₂ h₁ h₂ command₁ command₂ reply₁ reply₂ ha₁ ha₂
    rw [ha₁.reply_eq, ha₂.reply_eq]
    exact text_resolved_eq_iff

/-- Without a settings file there is a reply. -/
theorem exists_prints_of_missing_file
    (hw : Invocation.ofWords words = .accepted { command := .resolve command }) :
    ∃ reply, Prints words { environment := { home := some "home" } } command reply := by
  let h : Host := { environment := { home := some "home" } }
  let file : Path := { names := ["home", ".config", "palette", "settings.toml"] }
  have hfits : Tree.Fits file.text := ⟨by decide, by decide⟩
  have hmissing : Settings.ofFile {} file = .error .noSuchFile := by unfold file; rfl
  obtain ⟨events, hload⟩ := @Settings.runOn_load_of_fits _ h none file rfl rfl hfits
  rw [Settings.overlayFile, hmissing] at hload
  obtain ⟨h', hreply⟩ := runOn_resolve command { h.note events with threshold := .info }
  refine ⟨resolved command, ⟨_, hw, rfl⟩, ?_⟩
  rw [runOn_ofWords_resolve hw rfl hload rfl, hreply]
  rfl

/-- A path that imitates two steps is not printed as two steps are, a step that stands alone not as
a workflow of it, and blanks around a shell command are not seen. -/
theorem text_eq_iff_of_imitation :
    (Action.workflow [.launch "a'), Launch(path='b"]).text ≠
        (Action.workflow [.launch "a", .launch "b"]).text
      ∧ (Action.workflow [.workflow [.shell "ls"]]).text ≠ (Action.workflow [.shell "ls"]).text
      ∧ ∃ h reply₁ reply₂, Prints ["resolve", "shell: ls "] h "shell: ls " reply₁
        ∧ Prints ["resolve", "--", "shell:ls"] h "shell:ls" reply₂
        ∧ reply₁.text = reply₂.text := by
  have htwo : ∀ step ∈ [Action.launch "a", .launch "b"], step.Known := by
    simp [Action.Known.launch]
  have hone : ∀ step ∈ [Action.launch "a'), Launch(path='b"], step.Known := by
    simp [Action.Known.launch]
  have hshell : ∀ step ∈ [Action.shell "ls"], step.Known := by
    simp [Action.Known.shell]
  have hnested : ∀ step ∈ [Action.workflow [.shell "ls"]], step.Known := by
    simp [Action.Known.workflow hshell]
  obtain ⟨reply₁, ha₁⟩ := exists_prints_of_missing_file
    (rfl : Invocation.ofWords ["resolve", "shell: ls "] = .accepted { command := _ })
  obtain ⟨reply₂, ha₂⟩ := exists_prints_of_missing_file
    (rfl : Invocation.ofWords ["resolve", "--", "shell:ls"] = .accepted { command := _ })
  obtain ⟨hdetermined, -, -, -, hreplies⟩ := text_eq_iff
  refine ⟨fun heq => ?_, fun heq => ?_, _, reply₁, reply₂, ha₁, ha₂, ?_⟩
  · exact absurd ((hdetermined _ _ (.workflow hone) (.workflow htwo)).mp heq) (by decide)
  · exact absurd ((hdetermined _ _ (.workflow hnested) (.workflow hshell)).mp heq) (by decide)
  · exact (hreplies _ _ _ _ _ _ _ _ ha₁ ha₂).mpr (by decide)

end Reply

end QuickLaunch
