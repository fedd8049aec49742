import QuickLaunch.Text.Case

/-!
# Finding and cutting

Occurrence of one text in another, with and without regard to case, and cutting a text at a
separator. Cutting is leftmost first, and pieces never overlap.

* `occursIn_iff`: occurrence is being an infix;
* `beginsWith_append`, `not_beginsWith_of_beginsWith`: what begins with a word, and that words with
  different first letters exclude each other;
* `cutAt_eq_some_iff`: a text is cut where the separator stands for the first time;
* `joinWith_eq_intercalate`: joining is the intercalation of lists;
* `splitOn_ne_nil`: cutting leaves at least one piece.
-/

namespace QuickLaunch.Text

/-- The text `part` stands somewhere in the text given last. -/
def occursIn (part : List Char) : List Char → Bool
  | [] => part.isEmpty
  | c :: rest => part.isPrefixOf (c :: rest) || occursIn part rest

/-- The text contains `part` when case is disregarded. -/
def containsIgnoringCase (text part : String) : Bool :=
  occursIn (lowerChars part.toList) (lowerChars text.toList)

/-- The texts are the same when case is disregarded. -/
def sameIgnoringCase (a b : String) : Bool :=
  lowerChars a.toList == lowerChars b.toList

/-- The text begins with `word` when the case of the text is disregarded: as many characters as
`word` has, in lower case, are `word`. -/
def beginsWith (word text : List Char) : Bool :=
  lowerChars (text.take word.length) == word

/-- The pieces between the separators, once `skip` more characters are passed over; `piece` is what
the current piece has so far, last character first. -/
def splitFrom (sep : List Char) (skip : Nat) (piece : List Char) : List Char → List (List Char)
  | [] => [piece.reverse]
  | c :: rest =>
    match skip with
    | k + 1 => splitFrom sep k piece rest
    | 0 =>
      if sep.isPrefixOf (c :: rest) then piece.reverse :: splitFrom sep (sep.length - 1) [] rest
      else splitFrom sep 0 (c :: piece) rest

/-- The pieces of a text between the occurrences of a separator. -/
def splitOn (sep text : List Char) : List (List Char) :=
  splitFrom sep 0 [] text

/-- The text before and after the first `sep`. -/
def cutAt (sep : Char) (text : List Char) : Option (List Char × List Char) :=
  if sep ∈ text then some (text.takeWhile (· != sep), (text.dropWhile (· != sep)).drop 1) else none

/-- The pieces with a separator between each two. -/
def joinWith (sep : List Char) : List (List Char) → List Char
  | [] => []
  | [p] => p
  | p :: q :: rest => p ++ sep ++ joinWith sep (q :: rest)

/-- The pieces between the first `count` separators; the last piece is the whole rest. -/
def splitAtMost (sep : List Char) (count : Nat) (text : List Char) : List (List Char) :=
  let pieces := splitOn sep text
  if pieces.length ≤ count + 1 then pieces
  else pieces.take count ++ [joinWith sep (pieces.drop count)]

/-- How often a separator occurs. -/
def countOf (sep text : List Char) : Nat :=
  (splitOn sep text).length - 1

/-! ## Laws -/

theorem occursIn_iff {part text : List Char} : occursIn part text = true ↔ part <:+: text := by
  induction text with
  | nil => simp [occursIn]
  | cons c rest ih =>
    rw [occursIn, Bool.or_eq_true, ih, List.isPrefixOf_iff_prefix, List.infix_cons_iff]

theorem sameIgnoringCase_iff {a b : String} : sameIgnoringCase a b = true ↔ lower a = lower b := by
  rw [sameIgnoringCase, beq_iff_eq, ← toList_lower, ← toList_lower, String.toList_inj]

theorem beginsWith_append {word : List Char} (hw : lowerChars word = word) (rest : List Char) :
    beginsWith word (word ++ rest) = true := by
  rw [beginsWith, List.take_left, hw, beq_self_eq_true]

/-- The first letter of a word that a text begins with is that of the text, in lower case. -/
theorem head?_lowerChars_of_beginsWith {c w : Char} {word rest : List Char}
    (h : beginsWith (w :: word) (c :: rest) = true) : (lowerChars [c]).head? = some w := by
  rw [beginsWith, beq_iff_eq, List.length_cons, List.take_succ_cons] at h
  rw [head?_lowerChars_cons c [] (rest.take word.length), h, List.head?_cons]

theorem not_beginsWith_of_beginsWith {v w : Char} {word other text : List Char} (hne : v ≠ w)
    (h : beginsWith (v :: word) text = true) : beginsWith (w :: other) text = false := by
  cases text with
  | nil => rfl
  | cons c rest =>
    refine Bool.eq_false_iff.mpr fun h' => hne ?_
    exact Option.some.inj
      ((head?_lowerChars_of_beginsWith h).symm.trans (head?_lowerChars_of_beginsWith h'))

theorem cutAt_append {sep : Char} {before : List Char} (hb : sep ∉ before) (behind : List Char) :
    cutAt sep (before ++ sep :: behind) = some (before, behind) := by
  have hne : ∀ c ∈ before, (c != sep) = true := fun c hc =>
    bne_iff_ne.mpr (ne_of_mem_of_not_mem hc hb)
  rw [cutAt, if_pos (by simp), List.takeWhile_append_of_pos hne, List.dropWhile_append_of_pos hne]
  simp

/-- A text is cut where the separator stands for the first time. -/
theorem cutAt_eq_some_iff {sep : Char} {text before behind : List Char} :
    cutAt sep text = some (before, behind) ↔ sep ∉ before ∧ text = before ++ sep :: behind := by
  constructor
  · intro h
    have hmem : sep ∈ text := (Option.ite_none_right_eq_some.mp h).1
    obtain ⟨l, r, rfl, hl⟩ := List.eq_append_cons_of_mem hmem
    rw [cutAt_append hl] at h
    obtain ⟨rfl, rfl⟩ := Prod.mk.inj (Option.some.inj h)
    exact ⟨hl, rfl⟩
  · rintro ⟨hb, rfl⟩
    exact cutAt_append hb behind

theorem cutAt_eq_none_iff {sep : Char} {text : List Char} :
    cutAt sep text = none ↔ sep ∉ text := by
  simp [cutAt]

theorem joinWith_eq_intercalate (sep : List Char) (pieces : List (List Char)) :
    joinWith sep pieces = sep.intercalate pieces := by
  induction pieces with
  | nil => rfl
  | cons p rest ih =>
    cases rest with
    | nil => simp [joinWith]
    | cons q rest => rw [joinWith, ih, List.intercalate_cons_cons, List.append_assoc]

theorem splitFrom_ne_nil (sep : List Char) (skip : Nat) (piece text : List Char) :
    splitFrom sep skip piece text ≠ [] := by
  induction text generalizing skip piece with
  | nil => simp [splitFrom]
  | cons c rest ih =>
    cases skip with
    | succ k => simpa [splitFrom] using ih k piece
    | zero =>
      rw [splitFrom]
      split
      · simp
      · exact ih 0 (c :: piece)

theorem splitOn_ne_nil (sep text : List Char) : splitOn sep text ≠ [] :=
  splitFrom_ne_nil sep 0 [] text

end QuickLaunch.Text
