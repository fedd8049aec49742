import QuickLaunch.Proofs.Search.Parts
import QuickLaunch.Proofs.Text.Trimmed

/-!
# Filter expressions that seek a title

A filter expression that compares neither the source nor the category seeks a text in titles: the
whole expression, or what stands behind its first colon, without the blanks around it. To filter by
the expression is to search for that text. The two treat an empty text differently and come to the
same: the filter finds it in every title, and the search does not look.

* `Predicate.parse?_eq_title_iff`: the expressions that seek a title, and what they seek;
* `Finder.search_eq_filter`: filtering by them is searching for what they seek.
-/

namespace QuickLaunch

/-! ## What an expression seeks -/

namespace Predicate

/-- The expression seeks a text in titles: itself if it has no colon, else the text behind its first
colon, unless a source or a category stands before it. -/
inductive Seeks : String → String → Prop where
  | whole {expression : String} : ':' ∉ expression.toList → Seeks expression expression
  | behind {property value : List Char} : ':' ∉ property →
      Text.lowerChars (Text.trimChars property) ≠ "source".toList →
      Text.lowerChars (Text.trimChars property) ≠ "category".toList →
      Seeks (String.ofList (property ++ ':' :: value)) (String.ofList (Text.trimChars value))

theorem ofProperty_eq_title_iff {property value : List Char} {text : String} :
    ofProperty property value = .title text ↔
      Text.lowerChars (Text.trimChars property) ≠ "source".toList
        ∧ Text.lowerChars (Text.trimChars property) ≠ "category".toList
        ∧ String.ofList (Text.trimChars value) = text := by
  simp only [ofProperty]
  split_ifs with hs hc
  · exact iff_of_false id fun h => h.1 hs
  · exact iff_of_false id fun h => h.2.1 hc
  · rw [and_iff_right hs, and_iff_right hc, Predicate.title.injEq]

/-- The expressions that name a test of titles are those that are not blank and seek its text. -/
theorem parse?_eq_title_iff {expression text : String} :
    parse? (some expression) = some (.title text) ↔
      Text.isBlank (some expression) = false ∧ Seeks expression text := by
  rw [parse?, Text.isBlank, Option.ite_none_left_eq_some, Bool.not_eq_true]
  refine and_congr_right fun _ => ?_
  constructor
  · intro h
    split at h
    · next property value hcut =>
      obtain ⟨hp, he⟩ := Text.cutAt_eq_some_iff.mp hcut
      obtain ⟨hs, hc, rfl⟩ := ofProperty_eq_title_iff.mp (Option.some.inj h)
      obtain rfl : expression = String.ofList (property ++ ':' :: value) := by
        rw [← he, String.ofList_toList]
      exact .behind hp hs hc
    · next hcut =>
      obtain rfl : expression = text := by simpa using h
      exact .whole (Text.cutAt_eq_none_iff.mp hcut)
  · intro h
    cases h with
    | whole hcolon => rw [Text.cutAt_eq_none_iff.mpr hcolon]
    | behind hp hs hc =>
      rw [String.toList_ofList, Text.cutAt_append hp]
      exact congrArg some (ofProperty_eq_title_iff.mpr ⟨hs, hc, rfl⟩)

/-- Blanks alone are never sought. -/
theorem Seeks.eq_empty {expression text : String} (h : Seeks expression text)
    (he : Text.isBlank (some expression) = false) (ht : Text.isBlank (some text) = true) :
    text = "" := by
  cases h with
  | whole => rw [ht] at he; cases he
  | @behind property value =>
    rw [Text.isBlank, String.toList_ofList, (Text.trimmed_trimChars value).isBlankChars_iff] at ht
    rw [ht]

end Predicate

/-! ## Filtering and searching -/

/-- Every title has the empty text. -/
theorem titleMatches_empty (title : Option String) : titleMatches title "" = true :=
  Text.occursIn_iff.mpr (List.nil_infix)

theorem filterApplications_title (apps : List Application) (name text : String) :
    filterApplications apps (some "") (some { name := name, predicate := some (.title text) }) =
      apps.filter (titleMatches ·.title text) := rfl

/-- A search for a text that is not blanks alone keeps the titles that have it, also for the empty
text, for which no title is looked at. -/
theorem filterApplications_text (apps : List Application) {text : String}
    (ht : Text.isBlank (some text) = true → text = "") :
    filterApplications apps (some text) none = apps.filter (titleMatches ·.title text) := by
  refine List.filter_congr fun app _ => ?_
  rw [Bool.and_true, Option.getD_some]
  cases hb : Text.isBlank (some text) with
  | false => exact Bool.false_or _
  | true => rw [ht hb, titleMatches_empty, Bool.or_true]

namespace Finder

theorem results_eq_append {f : Finder} {text : String} (hf : f.Follows text)
    (ht : Text.isBlank (some text) = false) :
    (f.setSearchText (some text)).results =
      applicationResults f.applications text ++ pinnedResults f.pinned text := by
  have hh := holds_setSearchText f text
  rw [(current_setSearchText hf).2, resultsNow, hh.searchText, Router.route, router_handlers,
    hh.applications, hh.pinned]
  simp [given, ht]

/-- Filtering by an expression that seeks a text, with nothing to search for, keeps the applications
that searching for the text without a filter keeps. Unless the text is blank, the applications that
the router is told are these, in the same order, and so are those that stand in front of the pinned
actions among the results of every finder that is given the text. -/
theorem search_eq_filter {expression text : String}
    (he : Text.isBlank (some expression) = false) (hs : Predicate.Seeks expression text) :
    ∃ p, Predicate.parse? (some expression) = some p ∧
      ∀ (name : String) (apps : List Application),
        let kept := filterApplications apps (some "") (some { name := name, predicate := some p })
        kept = filterApplications apps (some text) none
          ∧ (Text.isBlank (some text) = false →
            applicationResults apps text = kept.map Application.result
              ∧ ∀ f : Finder, f.applications = apps → f.Follows text →
                (f.setSearchText (some text)).results =
                  kept.map Application.result ++ pinnedResults f.pinned text) := by
  refine ⟨.title text, Predicate.parse?_eq_title_iff.mpr ⟨he, hs⟩, fun name apps => ?_⟩
  intro kept
  have hkept : kept = apps.filter (titleMatches ·.title text) :=
    filterApplications_title apps name text
  have hresults : applicationResults apps text = kept.map Application.result := by
    rw [hkept, applicationResults]
  refine ⟨?_, fun ht => ⟨hresults, fun f ha hf => ?_⟩⟩
  · rw [hkept, filterApplications_text apps (hs.eq_empty he)]
  · rw [results_eq_append hf ht, ha, hresults]

/-- The text behind the first colon of "Title: fire:fox " has a colon and no blanks at its ends. An
application without a title is neither kept nor found. -/
theorem search_eq_filter_of_other_property :
    let app : Application :=
      { title := some "Fire:Fox", category := none, source := none, action := .noop }
    let untitled : Application :=
      { title := none, category := none, source := none, action := .noop }
    let f := updateApplications {} [untitled, app]
    Text.isBlank (some "Title: fire:fox ") = false
      ∧ Predicate.Seeks "Title: fire:fox " "fire:fox"
      ∧ Text.isBlank (some "fire:fox") = false ∧ f.Follows "fire:fox"
      ∧ filterApplications [untitled, app] (some "fire:fox") none = [app]
      ∧ (f.setSearchText (some "fire:fox")).results = [app.result] := by
  intro app untitled f
  have he : Text.isBlank (some "Title: fire:fox ") = false := by decide
  have ht : Text.isBlank (some "fire:fox") = false := by decide
  have hs : Predicate.Seeks "Title: fire:fox " "fire:fox" :=
    @Predicate.Seeks.behind "Title".toList " fire:fox ".toList (by decide) (by decide +kernel)
      (by decide +kernel)
  have hf : f.Follows "fire:fox" := .inl (current_refresh _)
  obtain ⟨p, hp, h⟩ := search_eq_filter he hs
  obtain rfl : Predicate.title "fire:fox" = p :=
    Option.some.inj ((Predicate.parse?_eq_title_iff.mpr ⟨he, hs⟩).symm.trans hp)
  obtain ⟨hkept, hfound⟩ := h "Foxes" [untitled, app]
  have happ : filterApplications [untitled, app] (some "")
      (some { name := "Foxes", predicate := some (.title "fire:fox") }) = [app] := by
    decide +kernel
  refine ⟨he, hs, ht, hf, hkept.symm.trans happ, ?_⟩
  rw [(hfound ht).2 f rfl hf, happ]
  rfl

end Finder

end QuickLaunch
