import Mathlib.Data.List.Basic
import QuickLaunch.Text.Blank
import QuickLaunch.Text.Case

/-!
# The lower case of letters

The table of lower case letters maps runs of letters. What it says of all characters follows from
what it says of its runs, since the images of a run lie between the images of its ends: they are
covered by no run, are not blank, and lie beyond ASCII when the letters do, but for the Kelvin sign.

* `lowerChar_of_mem`: what the lower case of a character consists of is in lower case;
* `all_isBlankChar_lowerChar`: blanks stay blank, and nothing else becomes blank;
* `lowerChar_eq_singleton_iff`: the characters whose lower case is an ASCII letter.
-/

namespace QuickLaunch.Text

variable {c d w : Char} {r q : CaseRun} {n : Nat}

/-! ## Runs of letters -/

namespace CaseRun

theorem covers_iff :
    r.covers n = true ↔ (r.first ≤ n ∧ n ≤ r.last) ∧ (n - r.first) % r.step = 0 := by
  simp [covers]

theorem image_first_le (h : r.covers n = true) : r.image r.first ≤ r.image n := by
  obtain ⟨⟨hfirst, -⟩, -⟩ := covers_iff.mp h
  simp only [image]
  omega

theorem image_le_image_last (h : r.covers n = true) : r.image n ≤ r.image r.last := by
  obtain ⟨⟨-, hlast⟩, -⟩ := covers_iff.mp h
  simp only [image]
  omega

/-- No image of the first run is covered by the second: they lie on one side of it, or it has every
other character and they lie between these. -/
def apart (r q : CaseRun) : Bool :=
  Nat.blt (r.image r.last) q.first || Nat.blt q.last (r.image r.first)
    || q.step == 2 && (r.step == 2 || r.first == r.last) && r.image r.first % 2 != q.first % 2

theorem not_covers_of_apart (ha : r.apart q = true) (hr : 0 ≤ (r.first : Int) + r.shift)
    (h : r.covers n = true) : q.covers (r.image n) = false := by
  rw [← Bool.not_eq_true]
  intro hq
  simp only [apart, Bool.or_eq_true, Bool.and_eq_true, Nat.blt_eq, beq_iff_eq, bne_iff_ne] at ha
  have hfirst := image_first_le h
  have hlast := image_le_image_last h
  obtain ⟨⟨hle, hle'⟩, hmod⟩ := covers_iff.mp h
  obtain ⟨⟨hqle, hqle'⟩, hqmod⟩ := covers_iff.mp hq
  rcases ha with (ha | ha) | ⟨⟨hstep, hone⟩, hparity⟩
  · omega
  · omega
  · rw [hstep] at hqmod
    have hn : (n - r.first) % 2 = 0 := by
      rcases hone with hone | hone
      · rwa [hone] at hmod
      · omega
    simp only [image] at hparity hqmod hqle
    omega

end CaseRun

theorem mapByRuns_cases (runs : List CaseRun) (c : Char) :
    (∃ r ∈ runs, r.covers c.toNat = true ∧ mapByRuns runs c = Char.ofNat (r.image c.toNat))
      ∨ (∀ r ∈ runs, r.covers c.toNat = false) ∧ mapByRuns runs c = c := by
  rw [mapByRuns]
  cases h : runs.find? (·.covers c.toNat) with
  | none => exact .inr ⟨by simpa using h, rfl⟩
  | some r =>
    have hcov := List.find?_some h
    exact .inl ⟨r, List.mem_of_find?_eq_some h, hcov, rfl⟩

/-! ## The table -/

/-- The images are characters, and none is the dotted capital I, whose lower case has two. -/
theorem lowerRuns_sound : ∀ r ∈ lowerRuns,
    0 ≤ (r.first : Int) + r.shift
      ∧ (r.image r.last < 0xd800 ∨ 0xdfff < r.image r.first ∧ r.image r.last < 0x110000)
      ∧ (r.image r.last < 0x130 ∨ 0x130 < r.image r.first) := by
  decide +kernel

theorem lowerRuns_blank : ∀ r ∈ lowerRuns, ∀ b ∈ blankRanges,
    (r.last < b.1 ∨ b.2 < r.first) ∧ (r.image r.last < b.1 ∨ b.2 < r.image r.first) := by
  decide +kernel

/-- Of the letters beyond ASCII only the Kelvin sign has an image in it. -/
theorem lowerRuns_ascii : ∀ r ∈ lowerRuns,
    r.last < 0x80 ∨ 0x80 ≤ r.image r.first ∨ r.first = 0x212a ∧ r.last = 0x212a := by
  decide +kernel

/-- Four characters beyond ASCII, looked up at once. -/
theorem lowerChar_samples :
    lowerChar '\u0307' = ['\u0307'] ∧ lowerChar 'ς' = ['ς'] ∧ lowerChar 'Σ' = ['σ']
      ∧ lowerChar '\u212a' = ['k'] := by
  decide +kernel

theorem lowerChar_dot : lowerChar '\u0307' = ['\u0307'] := lowerChar_samples.1

theorem lowerChar_final : lowerChar 'ς' = ['ς'] := lowerChar_samples.2.1

theorem lowerChar_sigma : lowerChar 'Σ' = ['σ'] := lowerChar_samples.2.2.1

theorem lowerChar_kelvin : lowerChar '\u212a' = ['k'] := lowerChar_samples.2.2.2

theorem lowerChar_dotted : lowerChar 'İ' = ['i', '\u0307'] := rfl

/-- What holds of the first 128 characters holds of every ASCII character. -/
theorem forall_ascii {P : Char → Prop} (h : ∀ n < 0x80, P (Char.ofNat n)) (c : Char)
    (hc : c.toNat < 0x80) : P c := by
  have hP := h c.toNat hc
  rwa [Char.ofNat_toNat] at hP

/-- A letter is its lower case or the capital of that, and is the lower case of its capital when it
is in lower case. -/
theorem ascii_capital : ∀ c : Char, c.toNat < 0x80 →
    (c = c.toLower ∨ c = c.toLower.toUpper)
      ∧ c.toUpper.toNat < 0x80 ∧ (c.toLower = c → c.toUpper.toLower = c) :=
  forall_ascii (by decide +kernel)

/-- The first run is that of the ASCII letters. -/
theorem toLower_eq_mapByRuns (hc : c.toNat < 0x80) : c.toLower = mapByRuns lowerRuns c := by
  let ascii : CaseRun := ⟨0x41, 0x5a, 1, 32⟩
  have hlower : ∀ c : Char, c.toNat < 0x80 → c.toLower = mapByRuns [ascii] c :=
    forall_ascii (by decide +kernel)
  have hbeyond : lowerRuns.tail.find? (·.covers c.toNat) = none := by
    have hfirst : ∀ r ∈ lowerRuns.tail, 0x80 ≤ r.first := by decide +kernel
    refine List.find?_eq_none.mpr fun r hr hcov => ?_
    have := hfirst r hr
    have := (CaseRun.covers_iff.mp hcov).1.1
    omega
  rw [hlower c hc, mapByRuns, mapByRuns, show lowerRuns = ascii :: lowerRuns.tail from rfl,
    List.find?_cons, List.find?_cons, hbeyond, List.find?_nil]

/-- ASCII letters are in the table too. -/
theorem lowerChar_eq (c : Char) :
    lowerChar c = if c.toNat = 0x130 then ['i', '\u0307'] else [mapByRuns lowerRuns c] := by
  rw [lowerChar]
  by_cases hc : c.toNat < 0x80
  · rw [if_pos hc, if_neg (by omega), toLower_eq_mapByRuns hc]
  · rw [if_neg hc]

theorem lowerRuns_apart : (lowerRuns.all fun r => lowerRuns.all r.apart) = true := by
  decide +kernel

theorem apart_of_mem (hr : r ∈ lowerRuns) (hq : q ∈ lowerRuns) : r.apart q = true :=
  List.all_eq_true.mp (List.all_eq_true.mp lowerRuns_apart r hr) q hq

theorem toNat_image (hr : r ∈ lowerRuns) (h : r.covers n = true) :
    (Char.ofNat (r.image n)).toNat = r.image n := by
  have hfirst := CaseRun.image_first_le h
  have hlast := CaseRun.image_le_image_last h
  have hvalid : (r.image n).isValidChar := by
    rcases (lowerRuns_sound r hr).2.1 with hs | hs
    · exact .inl (by omega)
    · exact .inr ⟨by omega, by omega⟩
  rw [Char.ofNat, dif_pos hvalid]
  rfl

/-- A letter has a lower case in the table, which is covered by no run, or is its own. -/
theorem lowerChar_cases (c : Char) :
    c = 'İ'
      ∨ (∃ r ∈ lowerRuns, r.covers c.toNat = true ∧ ∃ d, d.toNat = r.image c.toNat
          ∧ lowerChar c = [d] ∧ lowerChar d = [d])
      ∨ (∀ r ∈ lowerRuns, r.covers c.toNat = false) ∧ lowerChar c = [c] := by
  by_cases hi : c.toNat = 0x130
  · exact .inl (Char.toNat_inj.mp hi)
  have hc : lowerChar c = [mapByRuns lowerRuns c] := by rw [lowerChar_eq, if_neg hi]
  refine .inr ?_
  rcases mapByRuns_cases lowerRuns c with ⟨r, hr, hcov, hmap⟩ | ⟨hcov, hmap⟩
  · refine .inl ⟨r, hr, hcov, _, toNat_image hr hcov, by rw [hc, hmap], ?_⟩
    have hfirst := CaseRun.image_first_le hcov
    have hlast := CaseRun.image_le_image_last hcov
    have hi' : (Char.ofNat (r.image c.toNat)).toNat ≠ 0x130 := by
      rw [toNat_image hr hcov]
      rcases (lowerRuns_sound r hr).2.2 with h | h <;> omega
    rw [lowerChar_eq, if_neg hi']
    rcases mapByRuns_cases lowerRuns (Char.ofNat (r.image c.toNat)) with
      ⟨q, hq, hcov', -⟩ | ⟨-, hsame⟩
    · rw [toNat_image hr hcov,
        CaseRun.not_covers_of_apart (apart_of_mem hr hq) (lowerRuns_sound r hr).1 hcov] at hcov'
      cases hcov'
    · rw [hsame]
  · exact .inr ⟨hcov, by rw [hc, hmap]⟩

/-! ## Characters -/

/-- The lower case of a character is in lower case. -/
theorem lowerChar_of_mem (hd : d ∈ lowerChar c) : lowerChar d = [d] := by
  rcases lowerChar_cases c with rfl | ⟨r, -, -, e, -, hc, he⟩ | ⟨-, hc⟩
  · rw [lowerChar_dotted, List.mem_cons, List.mem_singleton] at hd
    rcases hd with rfl | rfl
    · rfl
    · exact lowerChar_dot
  · obtain rfl : d = e := by simpa [hc] using hd
    exact he
  · obtain rfl : d = c := by simpa [hc] using hd
    exact hc

theorem isBlankChar_eq_false (h : ∀ b ∈ blankRanges, c.toNat < b.1 ∨ b.2 < c.toNat) :
    isBlankChar c = false := by
  rw [← Bool.not_eq_true, isBlankChar, inRanges_iff]
  rintro ⟨b, hb, hle, hle'⟩
  rcases h b hb with h | h <;> omega

/-- The lower case of a character is blank when the character is. -/
theorem all_isBlankChar_lowerChar (c : Char) :
    (lowerChar c).all isBlankChar = isBlankChar c := by
  rcases lowerChar_cases c with rfl | ⟨r, hr, hcov, d, hd, hc, -⟩ | ⟨-, hc⟩
  · rw [lowerChar_dotted]
    decide
  · have hfirst := CaseRun.image_first_le hcov
    have hlast := CaseRun.image_le_image_last hcov
    obtain ⟨⟨hle, hle'⟩, -⟩ := CaseRun.covers_iff.mp hcov
    have hcblank : isBlankChar c = false := isBlankChar_eq_false fun b hb => by
      have := (lowerRuns_blank r hr b hb).1
      omega
    have hdblank : isBlankChar d = false := isBlankChar_eq_false fun b hb => by
      have := (lowerRuns_blank r hr b hb).2
      omega
    rw [hc, hcblank]
    simpa using hdblank
  · rw [hc]
    simp

/-- The characters beyond ASCII that have an ASCII character in their lower case. -/
theorem eq_of_mem_lowerChar (hc : 0x80 ≤ c.toNat) (hd : d ∈ lowerChar c) (h : d.toNat < 0x80) :
    c = 'İ' ∨ c = '\u212a' ∧ d = 'k' := by
  rcases lowerChar_cases c with hi | ⟨r, hr, hcov, e, he, hlower, -⟩ | ⟨-, hlower⟩
  · exact .inl hi
  · obtain rfl : d = e := by simpa [hlower] using hd
    have hfirst := CaseRun.image_first_le hcov
    obtain ⟨⟨hle, hle'⟩, -⟩ := CaseRun.covers_iff.mp hcov
    obtain rfl : c = '\u212a' := Char.toNat_inj.mp (by
      show c.toNat = 0x212a
      rcases lowerRuns_ascii r hr with h' | h' | h' <;> omega)
    rw [lowerChar_kelvin, List.mem_singleton] at hd
    exact .inr ⟨rfl, hd⟩
  · obtain rfl : d = c := by simpa [hlower] using hd
    omega

/-- The character is the letter or its capital. The Kelvin sign is a capital k. -/
def Variant (w c : Char) : Prop :=
  c = w ∨ c = w.toUpper ∨ w = 'k' ∧ c = '\u212a'

/-- The characters whose lower case is an ASCII character. -/
theorem lowerChar_eq_singleton_iff (hw : w.toNat < 0x80) (hlow : w.toLower = w) :
    lowerChar c = [w] ↔ Variant w c := by
  constructor
  · intro h
    by_cases hc : c.toNat < 0x80
    · rw [lowerChar, if_pos hc] at h
      obtain rfl : c.toLower = w := by simpa using h
      exact (ascii_capital c hc).1.imp_right .inl
    · rcases eq_of_mem_lowerChar (Nat.not_lt.mp hc) (h ▸ List.mem_singleton_self w) hw with rfl | hk
      · rw [lowerChar_dotted] at h
        cases h
      · exact .inr (.inr hk.symm)
  · rintro (rfl | rfl | ⟨rfl, rfl⟩)
    · rw [lowerChar, if_pos hw, hlow]
    · obtain ⟨-, hascii, hsame⟩ := ascii_capital w hw
      rw [lowerChar, if_pos hascii, hsame hlow]
    · exact lowerChar_kelvin

end QuickLaunch.Text
