import QuickLaunch.Action
import QuickLaunch.Text.Blank
import QuickLaunch.Text.Search

/-!
# Command strings

A command string of a configuration names an action:

* blank text names nothing to do;
* `shell:` and a command names a shell command, blanks around it dropped;
* `workflow:` and steps between double ampersands names a workflow of those steps;
* any other text is the path of a file or program, taken as it stands.

Prefixes are read without regard to case. A step of a workflow is read by the same rules, save that
`workflow:` has no meaning there and such a step is a path. Empty steps are dropped, and a workflow
without steps is nothing to do.

`Command.spelling` writes an action down as a command again.
-/

namespace QuickLaunch.Command

/-- What introduces a shell command. -/
def shellWord : List Char := "shell:".toList

/-- What introduces a workflow. -/
def workflowWord : List Char := "workflow:".toList

/-- What stands between two steps of a workflow. -/
def stepMark : List Char := ['&', '&']

/-- The action of a command that is no workflow. -/
def resolveStep (raw : List Char) : Action :=
  if Text.isBlankChars raw then .noop
  else if Text.beginsWith shellWord raw then
    .shell (String.ofList (Text.trimChars (raw.drop shellWord.length)))
  else .launch (String.ofList raw)

/-- The steps that the text after `workflow:` lists: pieces between step marks, trimmed, empty ones
dropped. -/
def segments (body : List Char) : List (List Char) :=
  ((Text.splitOn stepMark (Text.trimChars body)).map Text.trimChars).filter (· ≠ [])

/-- The action of a workflow with the given steps. -/
def workflowOf (steps : List (List Char)) : Action :=
  if steps = [] then .noop else .workflow (steps.map resolveStep)

/-- The action of a command. -/
def resolveChars (raw : List Char) : Action :=
  if Text.isBlankChars raw then .noop
  else if Text.beginsWith shellWord raw then resolveStep raw
  else if Text.beginsWith workflowWord raw then
    workflowOf (segments (raw.drop workflowWord.length))
  else resolveStep raw

/-- The action of a command string, which may be missing. -/
def resolve : Option String → Action
  | none => .noop
  | some raw => resolveChars raw.toList

/-- The steps of a command that ask for a workflow inside a workflow, and are paths instead. -/
def nestedWorkflows : Option String → List String
  | none => []
  | some raw =>
    if Text.isBlankChars raw.toList || Text.beginsWith shellWord raw.toList then []
    else if Text.beginsWith workflowWord raw.toList then
      ((segments (raw.toList.drop workflowWord.length)).filter (Text.beginsWith workflowWord)).map
        String.ofList
    else []

/-- A command that names the action of one step. -/
def stepSpelling : Action → List Char
  | .launch path => path.toList
  | .shell command => shellWord ++ command.toList
  | .noop | .workflow _ | .foreign _ => []

/-- A command that names the action. -/
def spelling : Action → List Char
  | .workflow steps => workflowWord ++ Text.joinWith (" && ".toList) (steps.map stepSpelling)
  | .noop => []
  | .launch path => path.toList
  | .shell command => shellWord ++ command.toList
  | .foreign _ => []

end QuickLaunch.Command
