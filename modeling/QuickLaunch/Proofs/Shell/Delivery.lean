import QuickLaunch.Proofs.Command.Spelling
import QuickLaunch.Proofs.Shell.Quotations
import QuickLaunch.Runner

/-!
# Delivering a text

Every text can be handed to the interpreter as one word: with a backslash before each backslash and
each double quote it is a command that is read as the text. Such a command can also be written in a
configuration, where blanks around it are dropped, if there are none around the text.

* `Shell.trimmed_escape`: the command has no blanks around it if the text has none;
* `Runner.starts_run_shell`: the start of a command that can be handed over;
* `Runner.starts_run_escape`: the start of such a command, run as an action and out of a
  configuration.
-/

namespace QuickLaunch

namespace Shell

open Text (Trimmed isBlankChar)

variable {t : List Char}

/-! ## The ends of an escaped text -/

theorem escape_cons (c : Char) (t : List Char) :
    escape (c :: t) = (if c = '\\' ∨ c = '"' then ['\\', c] else [c]) ++ escape t :=
  List.flatMap_cons

theorem getLast?_escape (t : List Char) : (escape t).getLast? = t.getLast? := by
  induction t with
  | nil => rfl
  | cons c rest ih =>
    rw [escape_cons, List.getLast?_append, ih, List.getLast?_cons]
    cases rest.getLast? with
    | none => split_ifs <;> rfl
    | some d => rfl

/-- The first character is that of the text, or a backslash. -/
theorem mem_head?_escape {d : Char} (hd : d ∈ (escape t).head?) : d ∈ t.head? ∨ d = '\\' := by
  cases t with
  | nil => cases hd
  | cons c rest =>
    rw [escape_cons] at hd
    split_ifs at hd
    · exact .inr (Option.some.inj hd).symm
    · exact .inl hd

/-- An escaped text has blanks at its ends only if the text has. -/
theorem trimmed_escape (ht : Trimmed t) : Trimmed (escape t) := by
  obtain ⟨hhead, hlast⟩ := Text.trimmed_iff.mp ht
  refine Text.trimmed_iff.mpr ⟨fun d hd => ?_, fun d hd => ?_⟩
  · rcases mem_head?_escape hd with hd | rfl
    · exact hhead d hd
    · decide
  · rw [getLast?_escape] at hd
    exact hlast d hd

end Shell

namespace Interpreter

theorem request_escape (i : Interpreter) (t : String) :
    i.request .posix (String.ofList (Shell.escape t.toList)) =
      .ok (.words (i.program :: i.args ++ [.text t])) := by
  rw [request_eq_singleton_iff, String.toList_ofList]
  exact (Shell.means_escape t.toList).words

end Interpreter

namespace Command

/-- A trimmed command, written with the word for shell commands in front, is that command. -/
theorem resolve_shell {command : String} (hc : Text.Trimmed command.toList) :
    resolve (some ("shell:" ++ command)) = .shell command := by
  have hs : spelling (.shell command) = ("shell:" ++ command).toList := by
    rw [String.toList_append]
    rfl
  have hr := resolve_spelling (a := .shell command) hc
  rwa [hs, String.ofList_toList] at hr

end Command

namespace Runner

/-- A command that can be handed over is started once, and the start fails if its rule says so. -/
theorem starts_run_shell {i : Interpreter} {h : Host} {command : String} {request : Request}
    (hr : i.request h.environment.family command = .ok request) :
    (run i h (.shell command)).1.starts =
      h.starts ++ [⟨request, some commandTies, h.nextRule.fail.isSome⟩] := by
  rw [run_shell, runOn_runCommand, hr]
  exact Host.starts_start ..

/-- Every text is delivered as one word: where programs are handed words, the command that escapes
the text starts the interpreter once, with its arguments and the text behind them. If the text has
no blanks around it the command can be written in a configuration. -/
theorem starts_run_escape (i : Interpreter) (h : Host) (hf : h.environment.family = .posix)
    (t : String) :
    let command := String.ofList (Shell.escape t.toList)
    let delivered := h.starts ++
      [⟨.words (i.program :: i.args ++ [.text t]), some commandTies, h.nextRule.fail.isSome⟩]
    (run i h (.shell command)).1.starts = delivered
      ∧ (Text.Trimmed t.toList →
        (run i h (Command.resolve (some ("shell:" ++ command)))).1.starts = delivered) := by
  intro command delivered
  have hr : i.request h.environment.family command =
      .ok (.words (i.program :: i.args ++ [.text t])) := by
    rw [hf]
    exact i.request_escape t
  refine ⟨starts_run_shell hr, fun ht => ?_⟩
  have hc : Text.Trimmed command.toList := by
    rw [String.toList_ofList]
    exact Shell.trimmed_escape ht
  rw [Command.resolve_shell hc]
  exact starts_run_shell hr

/-- A text with both quotes, a line break and a backslash at its end. -/
theorem starts_run_escape_of_quotes :
    let t := "say \"it's\"\n\\"
    Text.Trimmed t.toList
      ∧ (run (Interpreter.default .posix) {}
          (Command.resolve (some ("shell:" ++ "say \\\"it's\\\"\n\\\\")))).1.starts =
        [⟨.words [.text "sh", .text "-c", .text t], some commandTies, false⟩] := by
  intro t
  have ht : Text.Trimmed t.toList := by decide
  have hc : String.ofList (Shell.escape t.toList) = "say \\\"it's\\\"\n\\\\" := by decide
  have h := (starts_run_escape (Interpreter.default .posix) {} rfl t).2 ht
  rw [hc] at h
  exact ⟨ht, h⟩

end Runner

end QuickLaunch
