import Mathlib.Data.List.Infix
import QuickLaunch.Proofs.Text.Trimmed
import QuickLaunch.Text.Search

/-!
# Pieces between separators

Cutting a text takes the leftmost separator each time. It either ends, passes over a separator or
passes over a character at which no separator begins: `scan_induction` is the induction over these
cases, and everything below follows from it.

* `splitOn_of_not_infix`, `not_infix_of_mem_splitOn`: what is cut has a separator, and no piece has;
* `splitOn_append`: the pieces on both sides of a separator behind a character that no separator
  has are those of the two texts;
* `map_trimChars_splitOn_trimChars`: once pieces are trimmed it does not matter whether
  the text was.
-/

namespace QuickLaunch.Text

variable {sep : List Char}

/-! ## The scan -/

theorem splitFrom_nil (sep : List Char) (skip : Nat) (piece : List Char) :
    splitFrom sep skip piece [] = [piece.reverse] := by
  rw [splitFrom]

theorem splitFrom_drop (sep : List Char) (skip : Nat) (piece text : List Char) :
    splitFrom sep skip piece text = splitFrom sep 0 piece (text.drop skip) := by
  induction text generalizing skip with
  | nil => rw [List.drop_nil, splitFrom_nil, splitFrom_nil]
  | cons c rest ih =>
    cases skip with
    | zero => rfl
    | succ k => rw [splitFrom, ih k, List.drop_succ_cons]

/-- A separator ends the piece, and the next one begins behind it. -/
theorem splitFrom_sep (hsep : sep ≠ []) (piece rest : List Char) :
    splitFrom sep 0 piece (sep ++ rest) = piece.reverse :: splitOn sep rest := by
  cases sep with
  | nil => exact absurd rfl hsep
  | cons c cs =>
    rw [List.cons_append, splitFrom, ← List.cons_append]
    simp only [List.isPrefixOf_iff_prefix, List.prefix_append, if_true]
    rw [splitFrom_drop, List.length_cons, Nat.add_sub_cancel, List.drop_left, splitOn]

/-- A character at which no separator begins belongs to the piece. -/
theorem splitFrom_pass {c : Char} {rest : List Char} (h : ¬ sep <+: c :: rest)
    (piece : List Char) :
    splitFrom sep 0 piece (c :: rest) = splitFrom sep 0 (c :: piece) rest := by
  rw [splitFrom, if_neg (by rwa [List.isPrefixOf_iff_prefix])]

/-- What holds of the end of a text, holds of a separator and what follows if it holds of what
follows with a new piece, and holds of a character at which no separator begins if it holds of the
rest with that character in the piece, holds of every text. -/
theorem scan_induction (hsep : sep ≠ []) {P : List Char → List Char → Prop}
    (done : ∀ piece, P piece [])
    (cut : ∀ piece rest, P [] rest → P piece (sep ++ rest))
    (pass : ∀ piece c rest, ¬ sep <+: c :: rest → P (c :: piece) rest → P piece (c :: rest))
    (piece text : List Char) : P piece text := by
  -- By the length of the text, since a cut passes over more than one character.
  induction hn : text.length using Nat.strong_induction_on generalizing piece text with
  | _ n ih =>
    by_cases hpre : sep <+: text
    · obtain ⟨rest, rfl⟩ := hpre
      have hpos := List.length_pos_iff.mpr hsep
      rw [List.length_append] at hn
      exact cut piece rest (ih rest.length (by omega) [] rest rfl)
    · cases text with
      | nil => exact done piece
      | cons c rest =>
        rw [List.length_cons] at hn
        exact pass piece c rest hpre (ih rest.length (by omega) (c :: piece) rest rfl)

/-! ## Pieces have no separator -/

theorem splitOn_of_not_infix (hsep : sep ≠ []) {text : List Char} (h : ¬ sep <:+: text) :
    splitOn sep text = [text] := by
  have scan : ∀ piece text, ¬ sep <:+: text →
      splitFrom sep 0 piece text = [piece.reverse ++ text] := by
    refine scan_induction hsep ?done ?cut ?pass
    case done => intro piece _; rw [splitFrom_nil, List.append_nil]
    case cut => exact fun piece rest _ h => absurd (List.prefix_append sep rest).isInfix h
    case pass =>
      intro piece c rest hpre ih h
      rw [splitFrom_pass hpre, ih fun hi => h (List.infix_cons hi), List.reverse_cons,
        List.append_assoc, List.singleton_append]
  exact scan [] text h

/-- The pieces around a separator of one character. -/
theorem splitOn_append_cons (d : Char) (a b : List Char) :
    splitOn [d] (a ++ d :: b) = splitOn [d] a ++ splitOn [d] b := by
  have hd : [d] ≠ [] := List.cons_ne_nil d []
  have scan : ∀ piece a, splitFrom [d] 0 piece (a ++ d :: b)
      = splitFrom [d] 0 piece a ++ splitOn [d] b := by
    refine scan_induction hd ?done ?cut ?pass
    case done =>
      intro piece
      rw [List.nil_append, splitFrom_nil, List.singleton_append]
      exact splitFrom_sep hd piece b
    case cut =>
      intro piece rest ih
      rw [List.append_assoc, splitFrom_sep hd, splitFrom_sep hd, List.cons_append]
      exact congrArg (piece.reverse :: ·) ih
    case pass =>
      intro piece c rest hpre ih
      have hpre' : ¬ [d] <+: c :: (rest ++ d :: b) := fun h =>
        hpre (List.cons_prefix_cons.mpr
          ⟨(List.cons_prefix_cons.mp h).1, List.nil_prefix⟩)
      rw [List.cons_append, splitFrom_pass hpre', splitFrom_pass hpre, ih]
  exact scan [] a

/-- No separator begins in the piece so far, not even one that ends in the text behind it. -/
def Unbegun (sep piece text : List Char) : Prop :=
  ∀ t, t <:+ piece.reverse → t ≠ [] → ¬ sep <+: t ++ text

theorem unbegun_nil (sep text : List Char) : Unbegun sep [] text :=
  fun _ ht hne => absurd (List.suffix_nil.mp ht) hne

theorem Unbegun.not_infix (hsep : sep ≠ []) {piece text : List Char} (hu : Unbegun sep piece text) :
    ¬ sep <:+: piece.reverse := by
  intro hi
  obtain ⟨t, hpre, hsuf⟩ := List.infix_iff_prefix_suffix.mp hi
  have ht : t ≠ [] := fun h => hsep (List.prefix_nil.mp (h ▸ hpre))
  exact hu t hsuf ht (hpre.trans (List.prefix_append t text))

theorem Unbegun.pass {piece rest : List Char} {c : Char} (hu : Unbegun sep piece (c :: rest))
    (hpre : ¬ sep <+: c :: rest) : Unbegun sep (c :: piece) rest := by
  intro t ht hne
  rw [List.reverse_cons, List.suffix_concat_iff] at ht
  rcases ht with rfl | ⟨u, rfl, hsuf⟩
  · exact absurd rfl hne
  · rw [List.append_assoc, List.singleton_append]
    cases u with
    | nil => exact hpre
    | cons d u => exact hu _ hsuf (List.cons_ne_nil d u)

theorem not_infix_of_mem_splitOn (hsep : sep ≠ []) {text p : List Char}
    (hp : p ∈ splitOn sep text) : ¬ sep <:+: p := by
  have scan : ∀ piece text, Unbegun sep piece text →
      ∀ p ∈ splitFrom sep 0 piece text, ¬ sep <:+: p := by
    refine scan_induction hsep ?done ?cut ?pass
    case done =>
      intro piece hu p hp
      rw [splitFrom_nil, List.mem_singleton] at hp
      exact hp ▸ hu.not_infix hsep
    case cut =>
      intro piece rest ih hu p hp
      rw [splitFrom_sep hsep, List.mem_cons] at hp
      rcases hp with rfl | hp
      · exact hu.not_infix hsep
      · exact ih (unbegun_nil sep rest) p hp
    case pass =>
      intro piece c rest hpre ih hu
      rw [splitFrom_pass hpre]
      exact ih (hu.pass hpre)
  exact scan [] text (unbegun_nil sep text) p hp

/-! ## Characters that no separator has -/

variable {d : Char}

theorem prefix_of_prefix_append_cons (hd : d ∉ sep) {a b : List Char} (h : sep <+: a ++ d :: b) :
    sep <+: a := by
  obtain ⟨t, ht⟩ := h
  rcases List.append_eq_append_iff.mp ht with ⟨r, rfl, -⟩ | ⟨r, rfl, hr⟩
  · exact List.prefix_append sep r
  · cases r with
    | nil => rw [List.append_nil]
    | cons e r =>
      rw [List.cons_append, List.cons.injEq] at hr
      exact absurd (List.mem_append_right a (hr.1 ▸ List.mem_cons_self)) hd

theorem not_prefix_cons (hsep : sep ≠ []) (hd : d ∉ sep) (b : List Char) : ¬ sep <+: d :: b :=
  fun h => hsep (List.prefix_nil.mp (prefix_of_prefix_append_cons (a := []) hd h))

/-- A separator that does not begin in the first part of a text is in the second. -/
theorem infix_of_infix_append {a b : List Char} (hd : d ∉ a) (h : d :: sep <:+: a ++ b) :
    d :: sep <:+: b := by
  induction a with
  | nil => exact h
  | cons c a ih =>
    rw [List.cons_append, List.infix_cons_iff] at h
    rcases h with h | h
    · exact absurd (List.cons_prefix_cons.mp h).1 (List.ne_of_not_mem_cons hd)
    · exact ih (List.not_mem_of_not_mem_cons hd) h

/-- The pieces around a separator behind a character that no separator has. -/
theorem splitOn_append (hsep : sep ≠ []) (hd : d ∉ sep) (a b : List Char) :
    splitOn sep (a ++ d :: (sep ++ b)) = splitOn sep (a ++ [d]) ++ splitOn sep b := by
  have scan : ∀ piece a, splitFrom sep 0 piece (a ++ d :: (sep ++ b))
      = splitFrom sep 0 piece (a ++ [d]) ++ splitOn sep b := by
    refine scan_induction hsep ?done ?cut ?pass
    case done =>
      intro piece
      rw [List.nil_append, List.nil_append, splitFrom_pass (not_prefix_cons hsep hd _),
        splitFrom_pass (not_prefix_cons hsep hd _), splitFrom_sep hsep, splitFrom_nil,
        List.singleton_append]
    case cut =>
      intro piece rest ih
      rw [List.append_assoc, List.append_assoc, splitFrom_sep hsep, splitFrom_sep hsep,
        List.cons_append]
      exact congrArg (piece.reverse :: ·) ih
    case pass =>
      intro piece c rest hpre ih
      have hpre' : ∀ t, ¬ sep <+: c :: (rest ++ d :: t) := fun t h =>
        hpre (prefix_of_prefix_append_cons hd h)
      rw [List.cons_append, List.cons_append, splitFrom_pass (hpre' _), splitFrom_pass (hpre' _),
        ih]
  exact scan [] a

/-! ## Blanks around a text -/

theorem map_trimChars_splitOn_concat (hsep : sep ≠ []) (hd : d ∉ sep) (hb : isBlankChar d = true)
    (a : List Char) :
    (splitOn sep (a ++ [d])).map trimChars = (splitOn sep a).map trimChars := by
  have scan : ∀ piece a, (splitFrom sep 0 piece (a ++ [d])).map trimChars
      = (splitFrom sep 0 piece a).map trimChars := by
    refine scan_induction hsep ?done ?cut ?pass
    case done =>
      intro piece
      rw [List.nil_append, splitFrom_pass (not_prefix_cons hsep hd _), splitFrom_nil, splitFrom_nil,
        List.map_singleton, List.map_singleton, List.reverse_cons, trimChars_concat hb]
    case cut =>
      intro piece rest ih
      rw [List.append_assoc, splitFrom_sep hsep, splitFrom_sep hsep, List.map_cons, List.map_cons]
      exact congrArg (trimChars piece.reverse :: ·) ih
    case pass =>
      intro piece c rest hpre ih
      have hpre' : ¬ sep <+: c :: (rest ++ [d]) := fun h => hpre (prefix_of_prefix_append_cons hd h)
      rw [List.cons_append, splitFrom_pass hpre', splitFrom_pass hpre, ih]
  exact scan [] a

theorem map_trimChars_splitOn_cons (hsep : sep ≠ []) (hd : d ∉ sep) (hb : isBlankChar d = true)
    (b : List Char) :
    (splitOn sep (d :: b)).map trimChars = (splitOn sep b).map trimChars := by
  have scan : ∀ piece b, (splitFrom sep 0 (piece ++ [d]) b).map trimChars
      = (splitFrom sep 0 piece b).map trimChars := by
    refine scan_induction hsep ?done ?cut ?pass
    case done =>
      intro piece
      rw [splitFrom_nil, splitFrom_nil, List.map_singleton, List.map_singleton,
        List.reverse_concat, trimChars_cons hb]
    case cut =>
      intro piece rest _
      rw [splitFrom_sep hsep, splitFrom_sep hsep, List.map_cons, List.map_cons,
        List.reverse_concat, trimChars_cons hb]
    case pass =>
      intro piece c rest hpre ih
      rw [splitFrom_pass hpre, splitFrom_pass hpre, ← List.cons_append, ih]
  rw [splitOn, splitFrom_pass (not_prefix_cons hsep hd b)]
  exact scan [] b

/-- Blanks around a text make no difference to its pieces once they are trimmed. -/
theorem map_trimChars_splitOn_trimChars (hsep : sep ≠ [])
    (hb : ∀ c, isBlankChar c = true → c ∉ sep) (text : List Char) :
    (splitOn sep (trimChars text)).map trimChars = (splitOn sep text).map trimChars := by
  let pieces (s : List Char) : List (List Char) := (splitOn sep s).map trimChars
  obtain ⟨l, r, hl, hr, htext⟩ := exists_blanks_around text
  have hsame : pieces (l ++ trimChars text ++ r) = pieces (trimChars text) :=
    eq_of_blanks_around (fun d s hd => map_trimChars_splitOn_cons hsep (hb d hd) hd s)
      (fun d s hd => map_trimChars_splitOn_concat hsep (hb d hd) hd s) hl hr _
  rw [htext] at hsame
  exact hsame.symm

end QuickLaunch.Text
