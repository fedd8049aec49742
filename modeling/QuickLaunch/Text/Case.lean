import QuickLaunch.Text.CaseTable

/-!
# Lower and upper case

Both mappings work on whole texts, since one character may become several. Lower case looks at the
surroundings of a capital sigma: it is final when a letter stands before it and none after it, marks
and apostrophes skipped. Searching and comparing without regard to case is done on lower case texts.
-/

namespace QuickLaunch.Text

/-- Whether a character is skipped in the search for the neighbour of a sigma. -/
def isCaseIgnorable (c : Char) : Bool :=
  inRanges caseIgnorable c.toNat

/-- Whether a character is a letter with case. -/
def isCased (c : Char) : Bool :=
  inRanges cased c.toNat

/-- The first character that is not skipped is a letter with case. -/
def meetsLetter (s : List Char) : Bool :=
  match s.dropWhile isCaseIgnorable with
  | [] => false
  | c :: _ => isCased c

/-- What a table of runs makes of a character. -/
def mapByRuns (runs : List CaseRun) (c : Char) : Char :=
  match runs.find? (·.covers c.toNat) with
  | some r => Char.ofNat (r.image c.toNat)
  | none => c

/-- The lower case of a character, apart from its surroundings. -/
def lowerChar (c : Char) : List Char :=
  if c.toNat < 0x80 then [c.toLower]
  else if c.toNat = 0x130 then ['i', '\u0307']
  else [mapByRuns lowerRuns c]

/-- The upper case of a character. -/
def upperChar (c : Char) : List Char :=
  if c.toNat < 0x80 then [c.toUpper]
  else match upperExpansions.find? (·.1 == c.toNat) with
    | some (_, cs) => cs.map Char.ofNat
    | none => [mapByRuns upperRuns c]

/-- The lower case of a text that follows `before`, which is given last character first. -/
def lowerFrom (before : List Char) : List Char → List Char
  | [] => []
  | c :: rest =>
    (if c = 'Σ' then [if meetsLetter before && !meetsLetter rest then 'ς' else 'σ']
      else lowerChar c) ++ lowerFrom (c :: before) rest

/-- The lower case of a text. -/
def lowerChars (s : List Char) : List Char :=
  lowerFrom [] s

/-- The lower case of a text. -/
def lower (s : String) : String :=
  String.ofList (lowerChars s.toList)

/-- The upper case of a text. -/
def upper (s : String) : String :=
  String.ofList (s.toList.flatMap upperChar)

/-! ## Laws -/

@[simp] theorem toList_lower (s : String) : (lower s).toList = lowerChars s.toList := by
  simp [lower]

theorem lowerChar_ne_nil (c : Char) : lowerChar c ≠ [] := by
  rw [lowerChar]
  split
  · exact List.cons_ne_nil _ _
  · split <;> exact List.cons_ne_nil _ _

/-- How a lower case text begins depends on the first character alone: a sigma at the start is not
final, whatever follows. -/
theorem head?_lowerChars_cons (c : Char) (s t : List Char) :
    (lowerChars (c :: s)).head? = (lowerChars (c :: t)).head? := by
  rw [lowerChars, lowerChars, lowerFrom, lowerFrom, List.head?_append, List.head?_append]
  by_cases hc : c = 'Σ'
  · rw [if_pos hc, if_pos hc]
    rfl
  · rw [if_neg hc, if_neg hc]
    obtain ⟨d, ds, hd⟩ := List.exists_cons_of_ne_nil (lowerChar_ne_nil c)
    rw [hd]
    rfl

end QuickLaunch.Text
