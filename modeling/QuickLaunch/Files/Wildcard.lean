import QuickLaunch.Text.Search

/-!
# Name patterns

A pattern for one name: a star stands for any text, a question mark for any one character, brackets
for one character of a set. A set begins with `!` when it holds the characters that are not listed;
a hyphen between two characters stands for the characters from one to the other, and a range that
would hold nothing is dropped together with its ends. A bracket that is not closed stands for
itself.

* `matchesName`: whether a name follows a pattern.
-/

namespace QuickLaunch.Wildcard

/-- A part of a pattern. -/
inductive Part where
  /-- Any text. -/
  | star
  /-- Any one character. -/
  | any
  /-- This character. -/
  | exactly (c : Char)
  /-- No character at all. -/
  | never
  /-- A character in one of the ranges, or in none of them when `negated`. -/
  | oneOf (negated : Bool) (ranges : List (Char × Char))
  deriving DecidableEq, Repr

/-- A part of what stands between brackets: a character, or a hyphen between the ends of a range. -/
inductive SetPart where
  | member (c : Char)
  | hyphen
  deriving DecidableEq, Repr

/-- The text in front of the closing bracket and behind it. An exclamation mark and then a bracket
may stand first without closing the set. -/
def cutSet (s : List Char) : Option (List Char × List Char) :=
  let (mark, rest) := match s with
    | '!' :: rest => (['!'], rest)
    | rest => ([], rest)
  let (bracket, rest) := match rest with
    | ']' :: rest => ([']'], rest)
    | rest => ([], rest)
  (Text.cutAt ']' rest).map fun (body, behind) => (mark ++ bracket ++ body, behind)

/-- The pieces of a set between the hyphens that stand for a range. A hyphen does so when a
character of the piece stands before it; directly behind a range none does. The current piece is
given last character first, with the number of characters that it still takes before a hyphen can
end it. -/
def rangePieces (piece : List Char) (wait : Nat) : List Char → List (List Char)
  | [] => [piece.reverse]
  | c :: rest =>
    match wait with
    | 0 =>
      if c = '-' then piece.reverse :: rangePieces [] 2 rest
      else rangePieces (c :: piece) 0 rest
    | k + 1 => rangePieces (c :: piece) k rest

/-- A hyphen at the very end belongs to the last piece. -/
def closePieces : List (List Char) → List (List Char)
  | [p, []] => [p ++ ['-']]
  | p :: q :: rest => p :: closePieces (q :: rest)
  | ps => ps

/-- Two pieces with a range between them, or one piece when the range would hold nothing. -/
def dropEmptyRange (p : List Char) (ps : List (List Char)) : List (List Char) :=
  match ps with
  | [] => [p]
  | q :: rest =>
    match p.getLast?, q.head? with
    | some low, some high => if high < low then (p.dropLast ++ q.drop 1) :: rest else p :: q :: rest
    | _, _ => p :: q :: rest

/-- The pieces without the ranges that would hold nothing, the last range first. -/
def dropEmptyRanges (ps : List (List Char)) : List (List Char) :=
  ps.foldr dropEmptyRange []

/-- The parts of a set whose pieces are known. -/
def setParts : List (List Char) → List SetPart
  | [] => []
  | [p] => p.map .member
  | p :: q :: rest => p.map .member ++ .hyphen :: setParts (q :: rest)

/-- The ranges of a set; a character that stands alone is a range of one. -/
def rangesOf : List SetPart → List (Char × Char)
  | .member a :: .hyphen :: .member b :: rest => (a, b) :: rangesOf rest
  | .member a :: rest => (a, a) :: rangesOf rest
  | .hyphen :: rest => ('-', '-') :: rangesOf rest
  | [] => []

/-- What the text between brackets stands for. -/
def setPart (body : List Char) : Part :=
  let first := if body.head? = some '!' then 2 else 1
  let pieces :=
    if '-' ∈ body then dropEmptyRanges (closePieces (rangePieces [] first body)) else [body]
  match setParts pieces with
  | [] => .never
  | [.member '!'] => .any
  | .member '!' :: rest => .oneOf true (rangesOf rest)
  | parts => .oneOf false (rangesOf parts)

/-- The parts of a pattern of at most `fuel` characters. -/
def partsFrom : Nat → List Char → List Part
  | 0, _ => []
  | _, [] => []
  | fuel + 1, '*' :: rest => .star :: partsFrom fuel rest
  | fuel + 1, '?' :: rest => .any :: partsFrom fuel rest
  | fuel + 1, '[' :: rest =>
    match cutSet rest with
    | some (body, behind) => setPart body :: partsFrom fuel behind
    | none => .exactly '[' :: partsFrom fuel rest
  | fuel + 1, c :: rest => .exactly c :: partsFrom fuel rest

/-- The parts of a pattern. -/
def parts (pattern : List Char) : List Part :=
  partsFrom pattern.length pattern

/-- A character follows a part. -/
def Part.accepts : Part → Char → Bool
  | .star, _ => true
  | .any, _ => true
  | .exactly d, c => c == d
  | .never, _ => false
  | .oneOf negated ranges, c =>
    (ranges.any fun r => decide (r.1 ≤ c) && decide (c ≤ r.2)) != negated

/-- What of a text is left behind each text that a star may stand for. -/
def tails : List Char → List (List Char)
  | [] => [[]]
  | c :: rest => (c :: rest) :: tails rest

/-- A text follows the parts. -/
def matchesParts : List Part → List Char → Bool
  | [], s => s.isEmpty
  | .star :: ps, s => (tails s).any (matchesParts ps)
  | p :: ps, s =>
    match s with
    | [] => false
    | c :: rest => p.accepts c && matchesParts ps rest

/-- The pattern has a character that stands for others. -/
def isPattern (s : List Char) : Bool :=
  s.any fun c => c == '*' || c == '?' || c == '['

/-- A name follows a pattern. -/
def matchesName (pattern name : String) : Bool :=
  matchesParts (parts pattern.toList) name.toList

end QuickLaunch.Wildcard
