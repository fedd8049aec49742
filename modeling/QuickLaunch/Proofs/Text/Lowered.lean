import Mathlib.Data.List.Forall2
import QuickLaunch.Proofs.Text.LowerCase
import QuickLaunch.Proofs.Text.LowerLetters

/-!
# Texts in lower case

Lower case is reached at once: no sigma is left whose form depends on its place, and no other
character changes a second time. Blank texts stay blank, and no others become so.

* `lowerChars_lowerChars`: the lower case of a text in lower case is itself;
* `isBlankChars_lowerChars`: a text is blank when its lower case is;
* `lowerChars_eq_iff_spelled`: the texts whose lower case is an ASCII word;
* `spelled_iff_capitalized`, `Spelled.ascii`: what these consist of.
-/

namespace QuickLaunch.Text

variable {before behind s word : List Char} {c d : Char}

/-- What a character becomes between two texts, the one before it given last character first. -/
def lowerAt (before behind : List Char) (c : Char) : List Char :=
  if c = 'Σ' then [sigmaForm before behind] else lowerChar c

theorem lowerBetween_cons (before behind : List Char) (c : Char) (rest : List Char) :
    lowerBetween before behind (c :: rest) =
      lowerAt before (rest ++ behind) c ++ lowerBetween (c :: before) behind rest := rfl

theorem lowerAt_ne_nil (before behind : List Char) (c : Char) : lowerAt before behind c ≠ [] := by
  rw [lowerAt]
  split
  · exact List.cons_ne_nil _ _
  · exact lowerChar_ne_nil c

theorem sigmaForm_cases (before behind : List Char) :
    sigmaForm before behind = 'ς' ∨ sigmaForm before behind = 'σ' := by
  rw [sigmaForm]
  split
  · exact .inl rfl
  · exact .inr rfl

/-! ## Lower case twice -/

theorem lowerChar_of_mem_lowerAt (hd : d ∈ lowerAt before behind c) : lowerChar d = [d] := by
  rw [lowerAt] at hd
  split at hd
  · obtain rfl : d = sigmaForm before behind := by simpa using hd
    rcases sigmaForm_cases before behind with h | h
    · rw [h]
      exact lowerChar_final
    · rw [h]
      exact lowerChar_of_mem (c := 'Σ') (by simp [lowerChar_sigma])
  · exact lowerChar_of_mem hd

theorem lowerChar_of_mem_lowerBetween (hd : d ∈ lowerBetween before behind s) :
    lowerChar d = [d] := by
  induction s generalizing before with
  | nil => cases hd
  | cons c rest ih =>
    rw [lowerBetween_cons, List.mem_append] at hd
    exact hd.elim lowerChar_of_mem_lowerAt ih

theorem lowerChars_lowerChars (s : List Char) : lowerChars (lowerChars s) = lowerChars s := by
  have hlow : ∀ d ∈ lowerChars s, lowerChar d = [d] := by
    intro d hd
    rw [lowerChars, lowerFrom_eq] at hd
    exact lowerChar_of_mem_lowerBetween hd
  have hsigma : 'Σ' ∉ lowerChars s := fun hm => by
    have hsame := hlow 'Σ' hm
    rw [lowerChar_sigma] at hsame
    cases hsame
  rw [lowerChars.eq_1 (lowerChars s), lowerFrom_eq, lowerBetween_of_not_mem hsigma]
  exact (List.flatMap_congr hlow).trans (List.flatMap_singleton' _)

theorem lower_lower (s : String) : lower (lower s) = lower s := by
  rw [← String.toList_inj, toList_lower, toList_lower, lowerChars_lowerChars]

/-! ## Blanks -/

theorem all_isBlankChar_lowerAt (before behind : List Char) (c : Char) :
    (lowerAt before behind c).all isBlankChar = isBlankChar c := by
  rw [lowerAt]
  split
  · next hc =>
    rw [hc]
    rcases sigmaForm_cases before behind with h | h <;> rw [h] <;> decide
  · exact all_isBlankChar_lowerChar c

theorem isBlankChars_lowerChars (s : List Char) :
    isBlankChars (lowerChars s) = isBlankChars s := by
  have hbetween : ∀ before, (lowerBetween before [] s).all isBlankChar = s.all isBlankChar := by
    induction s with
    | nil => exact fun _ => rfl
    | cons c rest ih =>
      intro before
      rw [lowerBetween_cons, List.all_append, all_isBlankChar_lowerAt, ih, List.all_cons]
  rw [lowerChars, lowerFrom_eq]
  exact hbetween []

/-! ## ASCII words -/

/-- The text is a spelling of a word in lower case: each of its characters is a letter of the word or
its capital. -/
def Spelled (word s : List Char) : Prop :=
  List.Forall₂ Variant word s

/-- The text is the word, each letter of which may be a capital. -/
def Capitalized (word s : List Char) : Prop :=
  List.Forall₂ (fun w c => c = w ∨ c = w.toUpper) word s

/-- Only an ASCII letter or its capital becomes the letter in front of ASCII characters: the dotted
capital I becomes two characters, of which the second is not ASCII. -/
theorem lowerAt_append_eq_cons_iff {w : Char} (hw : w.toNat < 0x80) (hlow : w.toLower = w)
    {t ws : List Char} (hws : ∀ v ∈ ws, v.toNat < 0x80) :
    lowerAt before behind c ++ t = w :: ws ↔ Variant w c ∧ t = ws := by
  rw [← lowerChar_eq_singleton_iff hw hlow, lowerAt]
  split
  · next hc =>
    have hform : sigmaForm before behind ≠ w := by
      rcases sigmaForm_cases before behind with h | h <;> rw [h] <;> rintro rfl <;>
        exact absurd hw (by decide)
    refine iff_of_false (fun h => hform (List.cons.inj h).1) fun h => ?_
    rw [hc, lowerChar_sigma] at h
    obtain rfl : 'σ' = w := (List.cons.inj h.1).1
    exact absurd hw (by decide)
  · rcases lowerChar_cases c with rfl | ⟨-, -, -, d, -, hc, -⟩ | ⟨-, hc⟩
    · rw [lowerChar_dotted]
      refine iff_of_false (fun h => ?_) fun h => absurd h.1 (by simp)
      have hdot : '\u0307' ∈ ws := by
        rw [← (List.cons.inj h).2]
        exact List.mem_cons_self
      exact absurd (hws _ hdot) (by decide)
    · simp [hc]
    · simp [hc]

/-- The texts whose lower case is an ASCII word are its spellings. -/
theorem lowerChars_eq_iff_spelled (hw : ∀ w ∈ word, w.toNat < 0x80 ∧ w.toLower = w) :
    lowerChars s = word ↔ Spelled word s := by
  have hbetween : ∀ before, lowerBetween before [] s = word ↔ Spelled word s := by
    induction s generalizing word with
    | nil =>
      intro before
      rw [lowerBetween, Spelled, List.forall₂_nil_right_iff, eq_comm]
    | cons c rest ih =>
      intro before
      rw [lowerBetween_cons]
      cases word with
      | nil =>
        refine iff_of_false (fun h => ?_) (by simp [Spelled])
        exact lowerAt_ne_nil _ _ c (List.append_eq_nil_iff.mp h).1
      | cons w ws =>
        obtain ⟨hhead, hlow⟩ := hw w List.mem_cons_self
        have htail : ∀ v ∈ ws, v.toNat < 0x80 ∧ v.toLower = v := fun v hv =>
          hw v (List.mem_cons_of_mem w hv)
        rw [lowerAt_append_eq_cons_iff hhead hlow fun v hv => (htail v hv).1, ih htail, Spelled,
          Spelled, List.forall₂_cons]
  rw [lowerChars, lowerFrom_eq]
  exact hbetween []

/-- Without a k the Kelvin sign is no capital. -/
theorem spelled_iff_capitalized (hk : 'k' ∉ word) : Spelled word s ↔ Capitalized word s := by
  rw [Spelled, Capitalized]
  induction word generalizing s with
  | nil => rw [List.forall₂_nil_left_iff, List.forall₂_nil_left_iff]
  | cons w ws ih =>
    rw [List.mem_cons, not_or] at hk
    cases s with
    | nil => simp
    | cons c rest =>
      have hc : Variant w c ↔ c = w ∨ c = w.toUpper := by simp [Variant, Ne.symm hk.1]
      rw [List.forall₂_cons, List.forall₂_cons, ih hk.2, hc]

/-- Each character of a spelling is one of a letter of the word. -/
theorem Spelled.exists_variant (h : Spelled word s) : ∀ c ∈ s, ∃ w ∈ word, Variant w c := by
  rw [Spelled] at h
  induction h with
  | nil => simp
  | @cons w c ws rest hwc _ ih =>
    refine List.forall_mem_cons.mpr ⟨⟨w, List.mem_cons_self, hwc⟩, fun d hd => ?_⟩
    obtain ⟨v, hv, hvd⟩ := ih d hd
    exact ⟨v, List.mem_cons_of_mem w hv, hvd⟩

/-- The spellings of a word without blanks have none. -/
theorem Spelled.not_blank (h : Spelled word s) (hw : ∀ w ∈ word, w.toNat < 0x80 ∧ w.toLower = w)
    (hb : ∀ w ∈ word, isBlankChar w = false) : ∀ c ∈ s, isBlankChar c = false := by
  intro c hc
  obtain ⟨w, hmem, hwc⟩ := h.exists_variant c hc
  obtain ⟨hascii, hlow⟩ := hw w hmem
  have hlower : lowerChar c = [w] := (lowerChar_eq_singleton_iff hascii hlow).mpr hwc
  calc isBlankChar c
      = (lowerChar c).all isBlankChar := (all_isBlankChar_lowerChar c).symm
    _ = isBlankChar w := by simp [hlower]
    _ = false := hb w hmem

/-- The spellings of an ASCII word are ASCII, but for the Kelvin sign in the place of a k. -/
theorem Spelled.ascii (h : Spelled word s) (hw : ∀ w ∈ word, w.toNat < 0x80) :
    ∀ c ∈ s, c.toNat < 0x80 ∨ 'k' ∈ word ∧ c = '\u212a' := by
  intro c hc
  obtain ⟨w, hmem, rfl | rfl | ⟨rfl, rfl⟩⟩ := h.exists_variant c hc
  · exact .inl (hw c hmem)
  · exact .inl (ascii_capital w (hw w hmem)).2.1
  · exact .inr ⟨hmem, rfl⟩

end QuickLaunch.Text
