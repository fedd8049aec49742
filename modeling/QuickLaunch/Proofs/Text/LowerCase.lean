import Mathlib.Data.List.Infix
import QuickLaunch.Text.Case

/-!
# Lower case in the middle of a text

The lower case of a text that stands between two others differs from its own in the forms of capital
sigmas only. Of what stands around it a sigma sees the nearest character on each side that is not
skipped (`nearest`), so that a sigma may be settled by the text itself. A text all of whose sigmas
are settled keeps its lower case wherever it stands, and no other text does.

* `lowerChars_append`: the lower case of a text, part by part;
* `lowerBetween_of_settledFrom`: what surrounds a settled text does not matter;
* `settled_iff_forall_infix`: the settled texts are those that are found in lower case in all texts
  they are found in.
-/

namespace QuickLaunch.Text

variable {s t before behind : List Char} {c : Char}

/-! ## The neighbours of a sigma -/

/-- Whether the first character that is not skipped is a letter with case, if there is one. -/
def nearest (s : List Char) : Option Bool :=
  (s.dropWhile isCaseIgnorable).head?.map isCased

theorem meetsLetter_eq (s : List Char) : meetsLetter s = (nearest s == some true) := by
  rw [meetsLetter, nearest]
  cases s.dropWhile isCaseIgnorable with
  | nil => rfl
  | cons c rest => cases hc : isCased c <;> simp [hc]

/-- What stands farther away counts if nothing does before it. -/
theorem nearest_append (s t : List Char) : nearest (s ++ t) = (nearest s).or (nearest t) := by
  rw [nearest, List.dropWhile_append, nearest, nearest]
  cases s.dropWhile isCaseIgnorable with
  | nil => simp
  | cons c rest => simp

theorem nearest_sigma (s : List Char) : nearest ('Σ' :: s) = some true := by
  have hs : isCaseIgnorable 'Σ' = false := by decide +kernel
  have hc : isCased 'Σ' = true := by decide +kernel
  simp [nearest, hs, hc]

/-- A text of nothing but skipped characters has no sigma. -/
theorem not_mem_of_nearest (h : nearest s = none) : 'Σ' ∉ s := by
  intro hm
  obtain ⟨x, y, rfl⟩ := List.append_of_mem hm
  rw [nearest_append, nearest_sigma] at h
  cases hx : nearest x <;> simp [hx] at h

/-- The form of a sigma between two texts, the one before it given last character first. -/
def sigmaForm (before behind : List Char) : Char :=
  if meetsLetter before && !meetsLetter behind then 'ς' else 'σ'

theorem sigmaForm_congr {before' behind' : List Char} (hb : nearest before = nearest before')
    (he : nearest behind = nearest behind') :
    sigmaForm before behind = sigmaForm before' behind' := by
  simp only [sigmaForm, meetsLetter_eq, hb, he]

/-! ## Parts of a text -/

/-- The lower case of a text between two others, the one before it given last character first. -/
def lowerBetween (before behind : List Char) : List Char → List Char
  | [] => []
  | c :: rest =>
    (if c = 'Σ' then [sigmaForm before (rest ++ behind)] else lowerChar c)
      ++ lowerBetween (c :: before) behind rest

theorem lowerBetween_append (before behind s t : List Char) :
    lowerBetween before behind (s ++ t) =
      lowerBetween before (t ++ behind) s ++ lowerBetween (s.reverse ++ before) behind t := by
  induction s generalizing before with
  | nil => rfl
  | cons c rest ih => simp [lowerBetween, ih]

theorem lowerFrom_eq (before s : List Char) : lowerFrom before s = lowerBetween before [] s := by
  induction s generalizing before with
  | nil => rfl
  | cons c rest ih => rw [lowerFrom, lowerBetween, ih, List.append_nil, sigmaForm]

theorem lowerChars_append (s t : List Char) :
    lowerChars (s ++ t) = lowerBetween [] t s ++ lowerBetween s.reverse [] t := by
  rw [lowerChars, lowerFrom_eq, lowerBetween_append]
  simp

/-- A text shows only its nearest characters to the texts around it. -/
theorem lowerBetween_congr {before' behind' : List Char} (hb : nearest before = nearest before')
    (he : nearest behind = nearest behind') (s : List Char) :
    lowerBetween before behind s = lowerBetween before' behind' s := by
  induction s generalizing before before' with
  | nil => rfl
  | cons c rest ih =>
    have hb' : nearest (c :: before) = nearest (c :: before') := by
      rw [← List.singleton_append, nearest_append, hb, ← nearest_append, List.singleton_append]
    have he' : nearest (rest ++ behind) = nearest (rest ++ behind') := by
      rw [nearest_append, he, ← nearest_append]
    rw [lowerBetween, lowerBetween, sigmaForm_congr hb he', ih hb']

/-- Without a sigma the surroundings do not matter. -/
theorem lowerBetween_of_not_mem (h : 'Σ' ∉ s) (before behind : List Char) :
    lowerBetween before behind s = s.flatMap lowerChar := by
  induction s generalizing before with
  | nil => rfl
  | cons c rest ih =>
    rw [List.mem_cons, not_or] at h
    rw [lowerBetween, if_neg (Ne.symm h.1), ih h.2, List.flatMap_cons]

/-- What a text ends in its lower case ends in, if that has no sigma and is in lower case. -/
theorem suffix_lowerChars (hm : 'Σ' ∉ s) (hs : s.flatMap lowerChar = s) (h : s <:+ t) :
    s <:+ lowerChars t := by
  obtain ⟨front, rfl⟩ := h
  rw [lowerChars_append, lowerBetween_of_not_mem hm, hs]
  exact List.suffix_append _ s

/-! ## Settled texts -/

/-- The neighbours that a text itself has for a sigma tell its form, whatever stands around the
text. -/
def tellForm (before behind : Option Bool) : Bool :=
  before == some false || behind == some true || (before == some true && behind == some false)

/-- All sigmas of a text that follows `before` are settled by the two. -/
def settledFrom (before : List Char) : List Char → Bool
  | [] => true
  | c :: rest =>
    (c != 'Σ' || tellForm (nearest before) (nearest rest)) && settledFrom (c :: before) rest

/-- All sigmas of a text are settled by it. -/
def settled (s : List Char) : Bool :=
  settledFrom [] s

theorem settledFrom_iff :
    settledFrom before s = true ↔
      ∀ x y, s = x ++ 'Σ' :: y → tellForm (nearest (x.reverse ++ before)) (nearest y) = true := by
  induction s generalizing before with
  | nil => simp [settledFrom]
  | cons c rest ih =>
    rw [settledFrom, Bool.and_eq_true, ih]
    constructor
    · rintro ⟨hc, hrest⟩ x y hxy
      cases x with
      | nil =>
        obtain ⟨rfl, rfl⟩ := List.cons.inj hxy
        simpa using hc
      | cons d x =>
        obtain ⟨rfl, rfl⟩ := List.cons.inj hxy
        simpa using hrest x y rfl
    · intro h
      refine ⟨?_, fun x y hxy => ?_⟩
      · by_cases hc : c = 'Σ'
        · simpa [hc] using h [] rest (by rw [hc]; rfl)
        · simp [hc]
      · simpa using h (c :: x) y (by rw [hxy]; rfl)

/-- A text without capital sigmas is settled. -/
theorem settled_of_not_mem (h : 'Σ' ∉ s) : settled s = true :=
  settledFrom_iff.mpr fun x y hxy => absurd (by simp [hxy]) h

theorem sigmaForm_of_tellForm (h : tellForm (nearest before) (nearest behind) = true)
    (outer further : List Char) :
    sigmaForm (before ++ outer) (behind ++ further) = sigmaForm before behind := by
  simp only [sigmaForm, meetsLetter_eq, nearest_append]
  simp only [tellForm, Bool.or_eq_true, Bool.and_eq_true, beq_iff_eq] at h
  rcases h with (h | h) | ⟨h, h'⟩
  · simp [h]
  · simp [h]
  · simp [h, h']

/-- What surrounds a settled text does not matter to its lower case. -/
theorem lowerBetween_of_settledFrom (h : settledFrom before s = true) (outer behind : List Char) :
    lowerBetween (before ++ outer) behind s = lowerBetween before [] s := by
  induction s generalizing before with
  | nil => rfl
  | cons c rest ih =>
    rw [settledFrom, Bool.and_eq_true] at h
    have hrest := ih h.2
    rw [List.cons_append] at hrest
    rw [lowerBetween, lowerBetween, hrest, List.append_nil]
    by_cases hc : c = 'Σ'
    · have htell : tellForm (nearest before) (nearest rest) = true := by simpa [hc] using h.1
      rw [if_pos hc, if_pos hc, sigmaForm_of_tellForm htell]
    · rw [if_neg hc, if_neg hc]

theorem lowerChars_infix_of_settled (h : settled s = true) (hst : s <:+: t) :
    lowerChars s <:+: lowerChars t := by
  obtain ⟨x, y, rfl⟩ := hst
  have hs : lowerBetween x.reverse y s = lowerChars s := by
    rw [lowerChars, lowerFrom_eq]
    exact lowerBetween_of_settledFrom h x.reverse y
  have hx : lowerChars (x ++ s ++ y) =
      lowerBetween [] (s ++ y) x ++ lowerBetween x.reverse y s
        ++ lowerBetween (s.reverse ++ x.reverse) [] y := by
    rw [List.append_assoc, lowerChars_append, lowerBetween_append]
    simp
  rw [hx, hs]
  exact List.infix_append _ _ _

/-! ## Texts that are not settled -/

/-- The lower case of a text around one of its sigmas. -/
theorem lowerBetween_sigma (before behind x y : List Char) :
    lowerBetween before behind (x ++ 'Σ' :: y) =
      lowerBetween before ('Σ' :: (y ++ behind)) x
        ++ sigmaForm (x.reverse ++ before) (y ++ behind)
          :: lowerBetween ('Σ' :: (x.reverse ++ before)) behind y := by
  rw [lowerBetween_append, lowerBetween, if_pos rfl]
  rfl

/-- A character that is replaced by another one is missing, whatever else is added. -/
theorem not_infix_of_replaced {c d : Char} (hcd : c ≠ d) {x y : List Char} (hx : c ∉ x)
    (hy : c ∉ y) (u v : List Char) : ¬ u ++ c :: v <:+: x ++ (u ++ d :: v) ++ y := by
  intro h
  have hcount := h.sublist.count_le c
  have hd : (d == c) = false := by simpa using Ne.symm hcd
  simp only [List.count_append, List.count_cons, beq_self_eq_true, if_true, hd,
    List.count_eq_zero.mpr hx, List.count_eq_zero.mpr hy] at hcount
  simp only [Bool.false_eq_true, if_false] at hcount
  omega

theorem nearest_letter : nearest ['a'] = some true := by
  decide +kernel

/-- A sigma that is final at the end of a text, with a letter in front of it, is not when a letter
follows. -/
theorem not_infix_of_final {x y : List Char} (hx : nearest x.reverse = some true)
    (hy : nearest y = none) :
    ¬ lowerChars (x ++ 'Σ' :: y) <:+: lowerChars (x ++ 'Σ' :: y ++ ['a']) := by
  have hu : ∀ behind, lowerBetween [] ('Σ' :: behind) x = lowerBetween [] ['Σ'] x := fun behind =>
    lowerBetween_congr rfl (by rw [nearest_sigma, nearest_sigma]) x
  have hv : ∀ before behind, lowerBetween before behind y = y.flatMap lowerChar :=
    lowerBetween_of_not_mem (not_mem_of_nearest hy)
  have final : sigmaForm (x.reverse ++ []) (y ++ []) = 'ς' := by
    simp [sigmaForm, meetsLetter_eq, hx, hy]
  have medial : sigmaForm (x.reverse ++ []) (y ++ ['a']) = 'σ' := by
    simp [sigmaForm, meetsLetter_eq, nearest_append, hy, nearest_letter]
  have alone : lowerChars (x ++ 'Σ' :: y) =
      lowerBetween [] ['Σ'] x ++ 'ς' :: y.flatMap lowerChar := by
    rw [lowerChars, lowerFrom_eq, lowerBetween_sigma, hu, hv, final]
  have followed : lowerChars (x ++ 'Σ' :: y ++ ['a']) =
      [] ++ (lowerBetween [] ['Σ'] x ++ 'σ' :: y.flatMap lowerChar) ++ ['a'] := by
    rw [lowerChars_append, lowerBetween_sigma, hu, hv, medial]
    rfl
  rw [alone, followed]
  exact not_infix_of_replaced (by decide) (by simp) (by simp) _ _

/-- A sigma that nothing stands in front of is not final, and is when a letter does. -/
theorem not_infix_of_initial {x y : List Char} (hx : nearest x.reverse = none)
    (hy : nearest y ≠ some true) :
    ¬ lowerChars (x ++ 'Σ' :: y) <:+: lowerChars ('a' :: (x ++ 'Σ' :: y)) := by
  have hmem : 'Σ' ∉ x := fun hm => not_mem_of_nearest hx (List.mem_reverse.mpr hm)
  have hu : ∀ before behind, lowerBetween before behind x = x.flatMap lowerChar :=
    lowerBetween_of_not_mem hmem
  have hv : ∀ before, lowerBetween ('Σ' :: before) [] y = lowerBetween ['Σ'] [] y := fun before =>
    lowerBetween_congr (by rw [nearest_sigma, nearest_sigma]) rfl y
  have medial : sigmaForm (x.reverse ++ []) (y ++ []) = 'σ' := by
    simp [sigmaForm, meetsLetter_eq, hx]
  have final : sigmaForm (x.reverse ++ ['a']) (y ++ []) = 'ς' := by
    simp [sigmaForm, meetsLetter_eq, nearest_append, hx, hy, nearest_letter]
  have alone : lowerChars (x ++ 'Σ' :: y) =
      x.flatMap lowerChar ++ 'σ' :: lowerBetween ['Σ'] [] y := by
    rw [lowerChars, lowerFrom_eq, lowerBetween_sigma, hu, hv, medial]
  have preceded : lowerChars ('a' :: (x ++ 'Σ' :: y)) =
      ['a'] ++ (x.flatMap lowerChar ++ 'ς' :: lowerBetween ['Σ'] [] y) ++ [] := by
    rw [← List.singleton_append, lowerChars_append, List.reverse_singleton, lowerBetween_sigma, hu,
      hv, final, List.append_nil]
    rfl
  rw [alone, preceded]
  exact not_infix_of_replaced (by decide) (by simp) (by simp) _ _

/-- The settled texts are those that are found in lower case in all texts that they are found in. -/
theorem settled_iff_forall_infix :
    settled s = true ↔ ∀ t, s <:+: t → lowerChars s <:+: lowerChars t := by
  refine ⟨fun h t => lowerChars_infix_of_settled h, fun h => ?_⟩
  refine settledFrom_iff.mpr fun x y hxy => ?_
  subst hxy
  rw [List.append_nil]
  by_contra htell
  rcases hx : nearest x.reverse with _ | _ | _
  · have hy : nearest y ≠ some true := by
      rintro hy
      simp [tellForm, hx, hy] at htell
    exact not_infix_of_initial hx hy (h _ (List.suffix_cons _ _).isInfix)
  · simp [tellForm, hx] at htell
  · rcases hy : nearest y with _ | _ | _
    · exact not_infix_of_final hx hy (h _ (List.prefix_append _ _).isInfix)
    · simp [tellForm, hx, hy] at htell
    · simp [tellForm, hx, hy] at htell

end QuickLaunch.Text
