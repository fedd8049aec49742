import QuickLaunch.Files.Tree

/-!
# Text files

A text file is UTF-8. Reading one makes every line break a line feed: a carriage return counts as
one, together with a line feed behind it. Writing changes nothing.

* `decodeText_toUTF8`: a text without carriage returns is read as it was written.
-/

namespace QuickLaunch

/-- The text with a line feed for each line break. -/
def unifyLineBreaks : List Char → List Char
  | [] => []
  | '\r' :: rest =>
    match rest with
    | '\n' :: rest => '\n' :: unifyLineBreaks rest
    | rest => '\n' :: unifyLineBreaks rest
  | c :: rest => c :: unifyLineBreaks rest

/-- The text of a file's bytes. -/
def decodeText (content : ByteArray) : Except Fault String :=
  match String.fromUTF8? content with
  | some s => .ok (String.ofList (unifyLineBreaks s.toList))
  | none => .error .notUtf8

/-! ## Laws -/

/-- A text without carriage returns has no line break to unify. -/
theorem unifyLineBreaks_of_not_mem {s : List Char} (h : '\r' ∉ s) : unifyLineBreaks s = s := by
  induction s with
  | nil => rfl
  | cons c rest ih =>
    rw [List.mem_cons, not_or] at h
    rw [unifyLineBreaks.eq_def]
    split
    · contradiction
    · rename_i heq
      exact absurd (List.cons.inj heq).1.symm h.1
    · rename_i heq
      obtain ⟨rfl, rfl⟩ := List.cons.inj heq
      rw [ih h.2]

theorem decodeText_toUTF8 {s : String} (h : '\r' ∉ s.toList) : decodeText s.toUTF8 = .ok s := by
  have hs : String.fromUTF8? s.toUTF8 = some s := by
    rw [String.fromUTF8?, String.toUTF8_eq_toByteArray, dif_pos s.isValidUTF8]
    rfl
  rw [decodeText, hs]
  simp only [unifyLineBreaks_of_not_mem h, String.ofList_toList]

namespace Tree

/-- The text of the file at a path. -/
def readText (t : Tree) (path : String) : Except Fault String :=
  (t.read path).bind decodeText

/-- The tree with a text file at a path. The directory must be there. -/
def writeText (t : Tree) (path text : String) : Except Fault Tree :=
  t.write path text.toUTF8

end Tree

end QuickLaunch
