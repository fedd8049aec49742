import QuickLaunch.Fault

/-!
# Words of a command

How a command is cut into words: at spaces, tabs and line breaks that are not quoted. Between single
quotes every character stands for itself. Between double quotes a backslash makes the next character
stand for itself if that is a double quote or a backslash, and stands for itself if not. Outside of
quotes a backslash makes any character stand for itself. An empty quotation is a word, or a part of
the word around it.

* `Shell.words`: the words of a command.
-/

namespace QuickLaunch.Shell

/-- The characters between words. -/
def isSeparator (c : Char) : Bool :=
  c == ' ' || c == '\t' || c == '\r' || c == '\n'

/-- The characters that quote. -/
def isQuote (c : Char) : Bool :=
  c == '\'' || c == '"'

/-- What the next character belongs to. -/
inductive Mode where
  /-- No word has begun. -/
  | gap
  /-- A word. -/
  | word
  /-- A quotation of a word, to be closed by the quote. -/
  | quoted (quote : Char)
  /-- The character behind a backslash, in the quotation of the given quote or outside of one. -/
  | escaped (quote : Option Char)
  deriving DecidableEq, Repr

/-- The word so far with the character behind a backslash. -/
def addEscaped (quote : Option Char) (piece : List Char) (c : Char) : List Char :=
  match quote with
  | some q => if c = '\\' ∨ c = q then c :: piece else c :: '\\' :: piece
  | none => c :: piece

/-- The words of a text in a mode; `piece` is the word so far, last character first. -/
def wordsFrom (mode : Mode) (piece : List Char) : List Char → Except Fault (List (List Char))
  | [] =>
    match mode with
    | .gap => .ok []
    | .word => .ok [piece.reverse]
    | .quoted _ => .error .unclosedQuotation
    | .escaped _ => .error .nothingEscaped
  | c :: rest =>
    match mode with
    | .gap =>
      if isSeparator c then wordsFrom .gap [] rest
      else if c = '\\' then wordsFrom (.escaped none) [] rest
      else if isQuote c then wordsFrom (.quoted c) [] rest
      else wordsFrom .word [c] rest
    | .word =>
      if isSeparator c then (wordsFrom .gap [] rest).map (piece.reverse :: ·)
      else if c = '\\' then wordsFrom (.escaped none) piece rest
      else if isQuote c then wordsFrom (.quoted c) piece rest
      else wordsFrom .word (c :: piece) rest
    | .quoted q =>
      if c = q then wordsFrom .word piece rest
      else if c = '\\' ∧ q = '"' then wordsFrom (.escaped (some q)) piece rest
      else wordsFrom (.quoted q) (c :: piece) rest
    | .escaped (some q) => wordsFrom (.quoted q) (addEscaped (some q) piece c) rest
    | .escaped none => wordsFrom .word (addEscaped none piece c) rest

/-- The words of a command. -/
def words (s : List Char) : Except Fault (List (List Char)) :=
  wordsFrom .gap [] s

end QuickLaunch.Shell
