import QuickLaunch.Invocation.Words

/-!
# Invocations

What a command line asks for: one of the commands, and options that stand before it. Everything from
the command on is read by the rules of the command. Two hyphens make all words behind them plain;
they may stand before or behind the word that a command takes, but not before the command.

* `Invocation.ofWords`: what the words of a command line ask for.
-/

namespace QuickLaunch

namespace Invocation

/-- The names of the commands. -/
inductive Topic where
  | resolve | run | search | filters
  deriving DecidableEq, Repr, Inhabited

/-- A command with what belongs to it. -/
inductive Command where
  /-- Print the action of a command string. -/
  | resolve (command : String)
  /-- Run the action of a command string. -/
  | run (command : String)
  /-- Search, with the name of a filter. -/
  | search (text : String) (filter : Option String)
  /-- List the filters. -/
  | filters
  deriving DecidableEq, Repr, Inhabited

end Invocation

/-- What a command line asks for. -/
structure Invocation where
  config : Option String := none
  settings : Option String := none
  logLevel : Option String := none
  command : Invocation.Command
  deriving DecidableEq, Repr, Inhabited

namespace Invocation

/-- What becomes of a command line. -/
inductive Verdict where
  | rejected
  /-- Help is asked for, about a command or in general. -/
  | help (topic : Option Topic)
  | accepted (invocation : Invocation)
  deriving DecidableEq, Repr, Inhabited

/-- The command of a name. -/
def Topic.ofName? (name : String) : Option Topic :=
  if name = "resolve" then some .resolve
  else if name = "run" then some .run
  else if name = "search" then some .search
  else if name = "filters" then some .filters
  else none

/-- The options that stand before a command. -/
def generalOptions : List (List Char) :=
  ["--config".toList, "--settings".toList, "--log-level".toList]

/-- The options of a command. -/
def Topic.options : Topic → List (List Char)
  | .search => ["--filter".toList]
  | .resolve | .run | .filters => []

/-- The command takes a word. -/
def Topic.takesWord : Topic → Bool
  | .resolve | .run | .search => true
  | .filters => false

/-- The words before two hyphens and the words behind them, if they are there. -/
def cutAtHyphens (words : List String) : List String × Option (List String) :=
  match words.dropWhile (· ≠ "--") with
  | [] => (words, none)
  | _ :: behind => (words.takeWhile (· ≠ "--"), some behind)

/-! ## The command's own words -/

/-- What is known of a command's words. -/
structure Gathered where
  word : Option String := none
  filter : Option String := none
  /-- There are words that nothing asks for. -/
  excess : Bool := false
  deriving DecidableEq, Repr, Inhabited

/-- What is known once the two hyphens and the words behind them are read, too. The hyphens belong
to the command's word when they stand right behind it, as `joined` says, or before it. -/
def Gathered.finish (topic : Topic) (joined : Bool) (g : Gathered) : Option (List String) → Gathered
  | none => g
  | some behind =>
    if joined then { g with excess := g.excess || !behind.isEmpty }
    else if topic.takesWord && g.word.isNone then
      { g with word := behind.head?, excess := g.excess || decide (behind.length ≠ 1) }
    else { g with excess := true }

/-- What the words of a command gather to, from those before two hyphens and those behind. The
result is missing when help is asked for, as a verdict. -/
def gather (topic : Topic) (g : Gathered) (behind : Option (List String)) :
    List Word → Except Verdict Gathered
  | [] => .ok (g.finish topic false behind)
  | .plain text :: rest =>
    if topic.takesWord && g.word.isNone then
      if rest.isEmpty then .ok ({ g with word := some text }.finish topic true behind)
      else gather topic { g with word := some text } behind rest
    else gather topic { g with excess := true } behind rest
  | .help true :: _ => .error (.help (some topic))
  | .help false :: _ => .error .rejected
  | .option _ (some value) :: rest => gather topic { g with filter := some value } behind rest
  | .option _ none :: .plain text :: rest => gather topic { g with filter := some text } behind rest
  | .option _ none :: _ => .error .rejected
  | .unknown :: rest => gather topic { g with excess := true } behind rest

/-- The command of what was gathered. -/
def Gathered.command? (topic : Topic) (g : Gathered) : Option Command :=
  match topic with
  | .resolve => g.word.map .resolve
  | .run => g.word.map .run
  | .search => g.word.map (.search · g.filter)
  | .filters => some .filters

/-- What the words behind the name of a command ask for. -/
def ofOwnWords (topic : Topic) (words : List String) : Except Verdict Gathered :=
  let (before, behind) := cutAtHyphens words
  match before.mapM (Word.ofText? topic.options) with
  | none => .error .rejected
  | some forms => gather topic {} behind forms

/-! ## The whole command line -/

/-- The options before the command. -/
structure General where
  config : Option String := none
  settings : Option String := none
  logLevel : Option String := none
  /-- There are options that are not known. -/
  excess : Bool := false
  deriving DecidableEq, Repr, Inhabited

/-- The options with one more; a later value replaces an earlier one. -/
def General.set (g : General) (name value : String) : General :=
  if name = "--config" then { g with config := some value }
  else if name = "--settings" then { g with settings := some value }
  else { g with logLevel := some value }

/-- The verdict on a command and the words behind it. -/
def ofCommand (g : General) (name : String) (words : List String) : Verdict :=
  match Topic.ofName? name with
  | none => .rejected
  | some topic =>
    match ofOwnWords topic words with
    | .error verdict => verdict
    | .ok own =>
      if g.excess || own.excess then .rejected
      else match own.command? topic with
        | none => .rejected
        | some command =>
          .accepted {
            config := g.config, settings := g.settings, logLevel := g.logLevel, command := command }

/-- The verdict on a command line: its words, with the forms of those that stand before two
hyphens. -/
def judge (g : General) : List Word → List String → Verdict
  | .plain name :: _, _ :: words => ofCommand g name words
  | .help true :: _, _ => .help none
  | .option name (some value) :: rest, _ :: words => judge (g.set name value) rest words
  | .option name none :: .plain value :: rest, _ :: _ :: words =>
    judge (g.set name value) rest words
  | .unknown :: rest, _ :: words => judge { g with excess := true } rest words
  | _, _ => .rejected

/-- What the words of a command line ask for. -/
def ofWords (words : List String) : Verdict :=
  match (cutAtHyphens words).1.mapM (Word.ofText? generalOptions) with
  | none => .rejected
  | some forms => judge {} forms words

end Invocation

end QuickLaunch
