import QuickLaunch.Text.Search

/-!
# Command lines

How words become one command line on systems that hand a program a single text: words stand one
space apart, a word with a space or a tab and an empty word stand between double quotes, and a quote
inside a word is escaped by a backslash. Backslashes are doubled where a quote follows them, and
nowhere else.

* `Shell.commandLine`: the command line of some words.
-/

namespace QuickLaunch.Shell

/-- A word has to stand between quotes. -/
def needsQuotes (word : List Char) : Bool :=
  word.isEmpty || word.any fun c => c == ' ' || c == '\t'

/-- The characters of a word behind a number of backslashes that are not written yet; `last` is the
number by which backslashes at the end are multiplied. -/
def escapeFrom (last backslashes : Nat) : List Char → List Char
  | [] => List.replicate (last * backslashes) '\\'
  | c :: rest =>
    if c = '\\' then escapeFrom last (backslashes + 1) rest
    else if c = '"' then
      List.replicate (2 * backslashes) '\\' ++ '\\' :: '"' :: escapeFrom last 0 rest
    else List.replicate backslashes '\\' ++ c :: escapeFrom last 0 rest

/-- A word as it stands in a command line. -/
def quoteWord (word : List Char) : List Char :=
  if needsQuotes word then '"' :: escapeFrom 2 0 word ++ ['"'] else escapeFrom 1 0 word

/-- The command line of some words. -/
def commandLine (words : List (List Char)) : List Char :=
  Text.joinWith [' '] (words.map quoteWord)

end QuickLaunch.Shell
