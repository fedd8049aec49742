import Mathlib.Data.List.DropRight
import Mathlib.Data.List.TakeWhile
import QuickLaunch.Text.Blank

/-!
# Trimmed texts

Trimming leaves a part of a text that has no blank at either end. What it takes away is blank, and
trimming once more takes nothing away.

* `trimmed_iff`: the texts that trimming leaves as they are;
* `trimmed_trimChars`: trimming leaves such a text;
* `exists_blanks_around`: a text is what trimming leaves of it, between blanks.
-/

namespace QuickLaunch.Text

/-- Trimming leaves the text as it is. -/
def Trimmed (s : List Char) : Prop :=
  trimChars s = s

instance (s : List Char) : Decidable (Trimmed s) :=
  inferInstanceAs (Decidable (_ = _))

variable {s : List Char} {d : Char}

/-! ## The ends -/

theorem not_blank_of_mem_head?_trimLeft (hd : d ∈ (trimLeft s).head?) : isBlankChar d = false := by
  have h := List.head?_dropWhile_not isBlankChar s
  rw [trimLeft] at hd
  rw [hd] at h
  exact h

theorem not_blank_of_mem_head?_trimChars (hd : d ∈ (trimChars s).head?) :
    isBlankChar d = false := by
  obtain ⟨t, ht⟩ : trimChars s <+: trimLeft s := List.rdropWhile_prefix isBlankChar (trimLeft s)
  refine not_blank_of_mem_head?_trimLeft (s := s) ?_
  rw [← ht, List.head?_append, Option.mem_def.mp hd]
  rfl

theorem not_blank_of_mem_getLast?_trimChars (hd : d ∈ (trimChars s).getLast?) :
    isBlankChar d = false := by
  rw [trimChars, trimRight, List.getLast?_reverse] at hd
  exact not_blank_of_mem_head?_trimLeft hd

theorem trimLeft_eq_self (h : ∀ c ∈ s.head?, isBlankChar c = false) : trimLeft s = s := by
  cases s with
  | nil => rfl
  | cons c rest => exact List.dropWhile_cons_of_neg (by simp [h c rfl])

theorem trimRight_eq_self (h : ∀ c ∈ s.getLast?, isBlankChar c = false) : trimRight s = s := by
  have hl : trimLeft s.reverse = s.reverse := trimLeft_eq_self (by simpa using h)
  rw [trimRight, ← trimLeft, hl, List.reverse_reverse]

/-- Trimming leaves a text as it is when it has no blank at either end. -/
theorem trimmed_iff : Trimmed s ↔
    (∀ c ∈ s.head?, isBlankChar c = false) ∧ (∀ c ∈ s.getLast?, isBlankChar c = false) := by
  constructor
  · intro h
    rw [Trimmed] at h
    constructor
    · intro c hc
      rw [← h] at hc
      exact not_blank_of_mem_head?_trimChars hc
    · intro c hc
      rw [← h] at hc
      exact not_blank_of_mem_getLast?_trimChars hc
  · rintro ⟨hh, hl⟩
    rw [Trimmed, trimChars, trimLeft_eq_self hh, trimRight_eq_self hl]

theorem trimmed_trimChars (s : List Char) : Trimmed (trimChars s) :=
  trimmed_iff.mpr
    ⟨fun _ => not_blank_of_mem_head?_trimChars, fun _ => not_blank_of_mem_getLast?_trimChars⟩

theorem trimmed_of_not_blank (h : ∀ c ∈ s, isBlankChar c = false) : Trimmed s :=
  trimmed_iff.mpr ⟨fun c hc => h c (List.mem_of_mem_head? hc),
    fun c hc => h c (List.mem_of_mem_getLast? hc)⟩

/-- A trimmed text is blank only when it is empty. -/
theorem Trimmed.isBlankChars_iff (hs : Trimmed s) : isBlankChars s = true ↔ s = [] := by
  rw [← trimChars_eq_nil_iff, hs]

/-! ## What is taken away -/

theorem trimChars_cons (hd : isBlankChar d = true) (s : List Char) :
    trimChars (d :: s) = trimChars s := by
  rw [trimChars, trimChars, trimLeft, List.dropWhile_cons_of_pos hd, ← trimLeft]

theorem trimChars_concat (hd : isBlankChar d = true) (s : List Char) :
    trimChars (s ++ [d]) = trimChars s := by
  rw [trimChars, trimChars, trimLeft, trimLeft, List.dropWhile_append]
  split
  · next he => rw [List.isEmpty_iff.mp he, List.dropWhile_cons_of_pos hd, List.dropWhile_nil]
  · exact List.rdropWhile_concat_pos isBlankChar _ d hd

/-- What does not change by a blank in front of a text or behind it does not change by any. -/
theorem eq_of_blanks_around {α : Type} {f : List Char → α}
    (hcons : ∀ d s, isBlankChar d = true → f (d :: s) = f s)
    (hconcat : ∀ d s, isBlankChar d = true → f (s ++ [d]) = f s) {l r : List Char}
    (hl : ∀ c ∈ l, isBlankChar c = true) (hr : ∀ c ∈ r, isBlankChar c = true) (s : List Char) :
    f (l ++ s ++ r) = f s := by
  have hright : f (s ++ r) = f s := by
    induction r using List.reverseRecOn with
    | nil => rw [List.append_nil]
    | append_singleton r d ih =>
      rw [← List.append_assoc, hconcat d _ (hr d (by simp)),
        ih fun c hc => hr c (List.mem_append_left _ hc)]
  rw [List.append_assoc, ← hright]
  induction l with
  | nil => rfl
  | cons d l ih =>
    rw [List.cons_append, hcons d _ (hl d List.mem_cons_self),
      ih fun c hc => hl c (List.mem_cons_of_mem d hc)]

theorem trimChars_between {l r : List Char} (hl : ∀ c ∈ l, isBlankChar c = true)
    (hr : ∀ c ∈ r, isBlankChar c = true) (s : List Char) :
    trimChars (l ++ s ++ r) = trimChars s :=
  eq_of_blanks_around (fun _ s hd => trimChars_cons hd s) (fun _ s hd => trimChars_concat hd s)
    hl hr s

/-- A text is what trimming leaves of it, between blanks. -/
theorem exists_blanks_around (s : List Char) :
    ∃ l r, (∀ c ∈ l, isBlankChar c = true) ∧ (∀ c ∈ r, isBlankChar c = true)
      ∧ l ++ trimChars s ++ r = s := by
  refine ⟨s.takeWhile isBlankChar, (trimLeft s).rtakeWhile isBlankChar,
    fun _ => List.mem_takeWhile_imp, fun _ => List.mem_rtakeWhile_imp, ?_⟩
  calc s.takeWhile isBlankChar ++ trimChars s ++ (trimLeft s).rtakeWhile isBlankChar
      = s.takeWhile isBlankChar ++ trimLeft s := by
        rw [List.append_assoc]
        exact congrArg _ List.rdropWhile_append_rtakeWhile
    _ = s := List.takeWhile_append_dropWhile

theorem trimChars_infix (s : List Char) : trimChars s <:+: s := by
  obtain ⟨l, r, -, -, h⟩ := exists_blanks_around s
  exact ⟨l, r, h⟩

end QuickLaunch.Text
