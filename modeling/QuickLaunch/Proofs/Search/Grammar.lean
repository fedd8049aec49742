import QuickLaunch.Proofs.Text.Lowered
import QuickLaunch.Proofs.Text.Trimmed
import QuickLaunch.Search.Filter

/-!
# The grammar of filter expressions

An expression that is not blank is a property and a value with a colon between them, or a text
without a colon. The first colon counts. A property is written in any case and between any blanks;
no letters but those of ASCII are read as its letters.

* `Text.written_iff`: what a property is written as;
* `Predicate.parse?_eq_some_iff`: what is read of an expression;
* `Predicate.exists_parse_source_iff`, `Predicate.exists_parse_title_iff`: the tests that are read
  of some expression;
* `Predicate.parse_iff_reads`: whether there is a test, and which.
-/

namespace QuickLaunch

/-! ## Properties -/

namespace Text

variable {word s : List Char}

/-- The text is the word with any capitals, between blanks. -/
def Written (word s : List Char) : Prop :=
  ∃ l t r, (∀ c ∈ l, isBlankChar c = true) ∧ (∀ c ∈ r, isBlankChar c = true)
    ∧ Capitalized word t ∧ s = l ++ t ++ r

/-- What stands between the blanks of a written word is the word in lower case. -/
theorem written_iff (hw : ∀ w ∈ word, w.toNat < 0x80 ∧ w.toLower = w) (hk : 'k' ∉ word)
    (hb : word.any isBlankChar = false) :
    lowerChars (trimChars s) = word ↔ Written word s := by
  rw [Written]
  constructor
  · intro h
    obtain ⟨l, r, hl, hr, hs⟩ := exists_blanks_around s
    exact ⟨l, trimChars s, r, hl, hr,
      (spelled_iff_capitalized hk).mp ((lowerChars_eq_iff_spelled hw).mp h), hs.symm⟩
  · rintro ⟨l, t, r, hl, hr, ht, rfl⟩
    have hspelled : Spelled word t := (spelled_iff_capitalized hk).mpr ht
    have hnone : ∀ w ∈ word, isBlankChar w = false := by simpa using hb
    have htrim : trimChars t = t := trimmed_of_not_blank (hspelled.not_blank hw hnone)
    rw [trimChars_between hl hr, htrim]
    exact (lowerChars_eq_iff_spelled hw).mpr hspelled

theorem written_self (word : List Char) : Written word word :=
  ⟨[], word, [], List.forall_mem_nil _, List.forall_mem_nil _,
    List.forall₂_same.mpr fun _ _ => .inl rfl, by simp⟩

theorem not_written_nil (hw : word ≠ []) : ¬ Written word [] := by
  rintro ⟨l, t, r, -, -, ht, hs⟩
  obtain ⟨hl, rfl⟩ := List.append_eq_nil_iff.mp hs.symm
  obtain ⟨rfl, rfl⟩ := List.append_eq_nil_iff.mp hl
  exact hw (List.forall₂_nil_right_iff.mp ht)

theorem written_source_iff :
    lowerChars (trimChars s) = "source".toList ↔ Written "source".toList s :=
  written_iff (by simp) (by simp) rfl

theorem written_category_iff :
    lowerChars (trimChars s) = "category".toList ↔ Written "category".toList s :=
  written_iff (by simp) (by simp) rfl

end Text

/-! ## Expressions -/

namespace Predicate

/-- What is read of an expression that is not blank. -/
inductive Reads : String → Predicate → Prop where
  | source {property value : List Char} : ':' ∉ property →
      Text.Written "source".toList property →
      Reads (String.ofList (property ++ ':' :: value))
        (.source (String.ofList (Text.trimChars value)))
  | category {property value : List Char} : ':' ∉ property →
      Text.Written "category".toList property →
      Reads (String.ofList (property ++ ':' :: value))
        (.category (String.ofList (Text.trimChars value)))
  | other {property value : List Char} : ':' ∉ property →
      ¬ Text.Written "source".toList property → ¬ Text.Written "category".toList property →
      Reads (String.ofList (property ++ ':' :: value))
        (.title (String.ofList (Text.trimChars value)))
  | text {expression : String} : ':' ∉ expression.toList → Reads expression (.title expression)

variable {expression : String} {p : Predicate} {property value : List Char}

theorem reads_ofProperty (hp : ':' ∉ property) :
    Reads (String.ofList (property ++ ':' :: value)) (ofProperty property value) := by
  simp only [ofProperty]
  split_ifs with hs hc
  · exact .source hp (Text.written_source_iff.mp hs)
  · exact .category hp (Text.written_category_iff.mp hc)
  · exact .other hp (mt Text.written_source_iff.mpr hs) (mt Text.written_category_iff.mpr hc)

theorem parse?_eq_of_reads (h : Reads expression p)
    (hb : Text.isBlank (some expression) = false) : parse? (some expression) = some p := by
  rw [Text.isBlank] at hb
  rw [parse?, if_neg (Bool.eq_false_iff.mp hb)]
  cases h with
  | source hp hw =>
    rw [String.toList_ofList, Text.cutAt_append hp]
    simp only [ofProperty, if_pos (Text.written_source_iff.mpr hw)]
  | @category property _ hp hw =>
    have hs : Text.lowerChars (Text.trimChars property) ≠ "source".toList := by
      rw [Text.written_category_iff.mpr hw]
      decide
    rw [String.toList_ofList, Text.cutAt_append hp]
    simp only [ofProperty, if_neg hs, if_pos (Text.written_category_iff.mpr hw)]
  | other hp hs hc =>
    rw [String.toList_ofList, Text.cutAt_append hp]
    simp only [ofProperty, if_neg (mt Text.written_source_iff.mp hs),
      if_neg (mt Text.written_category_iff.mp hc)]
  | text hcolon => rw [Text.cutAt_eq_none_iff.mpr hcolon]

/-- An expression names a test when it is not blank, and it names the test that is read of it. -/
theorem parse?_eq_some_iff :
    parse? (some expression) = some p ↔
      Text.isBlank (some expression) = false ∧ Reads expression p := by
  refine ⟨fun h => ?_, fun h => parse?_eq_of_reads h.2 h.1⟩
  rw [parse?, Option.ite_none_left_eq_some, Bool.not_eq_true] at h
  refine ⟨h.1, ?_⟩
  obtain ⟨-, h⟩ := h
  split at h
  · next property value hcut =>
    obtain ⟨hp, he⟩ := Text.cutAt_eq_some_iff.mp hcut
    obtain rfl : expression = String.ofList (property ++ ':' :: value) := by
      rw [← he, String.ofList_toList]
    obtain rfl := Option.some.inj h
    exact reads_ofProperty hp
  · next hcut =>
    obtain rfl := Option.some.inj h
    exact .text (Text.cutAt_eq_none_iff.mp hcut)

theorem parse_eq_false_iff {expression : Option String} :
    parse expression = (false, p) ↔ Text.isBlank expression = true ∧ p = .always := by
  rw [← parse?_eq_none_iff, parse]
  cases parse? expression <;> simp [eq_comm]

theorem parse_eq_true_iff :
    parse (some expression) = (true, p) ↔
      Text.isBlank (some expression) = false ∧ Reads expression p := by
  rw [← parse?_eq_some_iff, parse]
  cases parse? (some expression) <;> simp

/-! ## Tests that are read -/

variable {v : String}

/-- Behind a property every trimmed value is read as it is, and so is the empty one. -/
theorem parse_trimmed {test : String → Predicate}
    (hr : ∀ value, Reads (String.ofList (property ++ ':' :: value))
      (test (String.ofList (Text.trimChars value))))
    (hv : Text.Trimmed v.toList) :
    parse (some (String.ofList (property ++ ':' :: v.toList))) = (true, test v) := by
  have hcolon : Text.isBlankChar ':' = false := by decide
  have hread := hr v.toList
  rw [show Text.trimChars v.toList = v.toList from hv, String.ofList_toList] at hread
  refine parse_eq_true_iff.mpr ⟨?_, hread⟩
  simp [Text.isBlank, Text.isBlankChars, hcolon]

theorem parse_source (hv : Text.Trimmed v.toList) :
    parse (some ("source:" ++ v)) = (true, .source v) := by
  have he : "source:" ++ v = String.ofList ("source".toList ++ ':' :: v.toList) :=
    String.toList_inj.mp (by simp)
  rw [he]
  exact parse_trimmed (fun _ => .source (by decide) (Text.written_self _)) hv

theorem parse_category (hv : Text.Trimmed v.toList) :
    parse (some ("category:" ++ v)) = (true, .category v) := by
  have he : "category:" ++ v = String.ofList ("category".toList ++ ':' :: v.toList) :=
    String.toList_inj.mp (by simp)
  rw [he]
  exact parse_trimmed (fun _ => .category (by decide) (Text.written_self _)) hv

theorem exists_parse_source_iff :
    (∃ e, parse (some e) = (true, .source v)) ↔ Text.Trimmed v.toList := by
  refine ⟨fun ⟨e, he⟩ => ?_, fun hv => ⟨_, parse_source hv⟩⟩
  obtain ⟨-, hr⟩ := parse_eq_true_iff.mp he
  cases hr with
  | source => exact String.toList_ofList ▸ Text.trimmed_trimChars _

theorem exists_parse_category_iff :
    (∃ e, parse (some e) = (true, .category v)) ↔ Text.Trimmed v.toList := by
  refine ⟨fun ⟨e, he⟩ => ?_, fun hv => ⟨_, parse_category hv⟩⟩
  obtain ⟨-, hr⟩ := parse_eq_true_iff.mp he
  cases hr with
  | category => exact String.toList_ofList ▸ Text.trimmed_trimChars _

/-- A text with blanks at its ends is sought in titles only as a whole expression. -/
theorem exists_parse_title_iff :
    (∃ e, parse (some e) = (true, .title v)) ↔
      Text.Trimmed v.toList ∨ Text.isBlank (some v) = false ∧ ':' ∉ v.toList := by
  constructor
  · rintro ⟨e, he⟩
    obtain ⟨hb, hr⟩ := parse_eq_true_iff.mp he
    cases hr with
    | other => exact .inl (String.toList_ofList ▸ Text.trimmed_trimChars _)
    | text hcolon => exact .inr ⟨hb, hcolon⟩
  · rintro (hv | ⟨hb, hcolon⟩)
    · have hr : ∀ value, Reads (String.ofList ([] ++ ':' :: value)) _ := fun _ =>
        .other List.not_mem_nil (Text.not_written_nil (by decide))
          (Text.not_written_nil (by decide))
      exact ⟨_, parse_trimmed hr hv⟩
    · exact ⟨v, parse_eq_true_iff.mpr ⟨hb, .text hcolon⟩⟩

/-- Of a blank expression, or none, no test is read and every application passes; of any other one
the test is read that the grammar gives it. A source or a category that is compared is trimmed, and
all trimmed ones are, behind their property. What is sought in titles is trimmed or is the whole
expression, which then is not blank and has no colon. -/
theorem parse_iff_reads :
    (∀ expression p, parse expression = (false, p) ↔ Text.isBlank expression = true ∧ p = .always)
      ∧ (∀ expression p, parse (some expression) = (true, p) ↔
        Text.isBlank (some expression) = false ∧ Reads expression p)
      ∧ (∀ v, (∃ e, parse (some e) = (true, .source v)) ↔ Text.Trimmed v.toList)
      ∧ (∀ v, (∃ e, parse (some e) = (true, .category v)) ↔ Text.Trimmed v.toList)
      ∧ (∀ v, (∃ e, parse (some e) = (true, .title v)) ↔
        Text.Trimmed v.toList ∨ Text.isBlank (some v) = false ∧ ':' ∉ v.toList)
      ∧ ∀ v, Text.Trimmed v.toList →
        parse (some ("source:" ++ v)) = (true, .source v)
          ∧ parse (some ("category:" ++ v)) = (true, .category v) :=
  ⟨fun _ _ => parse_eq_false_iff, fun _ _ => parse_eq_true_iff, fun _ => exists_parse_source_iff,
    fun _ => exists_parse_category_iff, fun _ => exists_parse_title_iff,
    fun _ hv => ⟨parse_source hv, parse_category hv⟩⟩

/-- The first colon is the one behind the property, which has capitals and a wide blank. -/
theorem parse_iff_reads_of_two_colons :
    Text.isBlank (some "\u3000SouRCE : C:\\Tools ") = false
      ∧ Reads "\u3000SouRCE : C:\\Tools " (.source "C:\\Tools")
      ∧ parse (some "\u3000SouRCE : C:\\Tools ") = (true, .source "C:\\Tools")
      ∧ Text.Trimmed "C:\\Tools".toList
      ∧ parse (some "category:C:\\Tools") = (true, .category "C:\\Tools") := by
  have hw : Text.Written "source".toList "\u3000SouRCE ".toList :=
    ⟨['\u3000'], "SouRCE".toList, [' '], List.all_eq_true.mp rfl, List.all_eq_true.mp rfl,
      by simp [Text.Capitalized], rfl⟩
  have hr : Reads "\u3000SouRCE : C:\\Tools " (.source "C:\\Tools") :=
    @Reads.source _ " C:\\Tools ".toList (by decide) hw
  have hb : Text.isBlank (some "\u3000SouRCE : C:\\Tools ") = false := by decide
  have hv : Text.Trimmed "C:\\Tools".toList := by decide
  exact ⟨hb, hr, (parse_iff_reads.2.1 _ _).mpr ⟨hb, hr⟩, hv, (parse_iff_reads.2.2.2.2.2 _ hv).2⟩

end Predicate

end QuickLaunch
