import Mathlib.Data.List.Basic
import QuickLaunch.Search.Finder

/-!
# The two tests of an application

An application is kept when it is named by the search text and chosen by the filter. Whether it is
depends on no other application and on no more of the text and the filter than each test reads, so
that a list can be kept part by part, and the tests one after the other in either order.

* `Predicate.accepts_iff_fits`: what each test of a filter asks;
* `filterApplications_eq`: what is kept of a list;
* `filterApplications_laws`: the laws of keeping.
-/

namespace QuickLaunch

/-! ## The tests -/

/-- What a test asks of an application. What is unknown about it counts as empty. -/
def Predicate.Fits : Predicate → Application → Prop
  | .source value, app => Text.lower (app.source.getD "") = Text.lower value
  | .category value, app => Text.lower (app.category.getD "") = Text.lower value
  | .title value, app =>
    Text.lowerChars value.toList <:+: Text.lowerChars (app.title.getD "").toList
  | .always, _ => True

theorem Predicate.accepts_iff_fits (p : Predicate) (app : Application) :
    p.accepts app = true ↔ p.Fits app := by
  cases p with
  | source value => exact Text.sameIgnoringCase_iff
  | category value => exact Text.sameIgnoringCase_iff
  | title value => exact Text.occursIn_iff
  | always => exact iff_of_true rfl trivial

namespace Application

/-- The application is named by the text: there is none, it is blank, or the title has it when case
is disregarded. -/
def Named (app : Application) (text : Option String) : Prop :=
  ∀ q ∈ text, (∀ c ∈ q.toList, Text.isBlankChar c = true)
    ∨ Text.lowerChars q.toList <:+: Text.lowerChars (app.title.getD "").toList

/-- The application is chosen by the filter: there is none, it has no test, or the application fits
its test. -/
def Chosen (app : Application) (filter : Option Filter) : Prop :=
  ∀ f ∈ filter, ∀ p ∈ f.predicate, p.Fits app

variable {app : Application}

theorem named_iff {text : Option String} :
    app.Named text ↔ (Text.isBlank text || titleMatches app.title (text.getD "")) = true := by
  cases text with
  | none => simp [Named, Text.isBlank]
  | some q =>
    rw [Bool.or_eq_true, Option.getD_some, titleMatches, Text.containsIgnoringCase,
      Text.occursIn_iff]
    simp [Named, Text.isBlank, Text.isBlankChars]

theorem named_empty : app.Named (some "") := by
  simp [Named]

theorem chosen_iff {filter : Option Filter} :
    app.Chosen filter ↔ (match filter with
      | none => true
      | some f => f.accepts app) = true := by
  cases filter with
  | none => simp [Chosen]
  | some f =>
    cases hp : f.predicate with
    | none => simp [Chosen, Filter.accepts, hp]
    | some p => simp [Chosen, Filter.accepts, hp, p.accepts_iff_fits]

theorem chosen_none : app.Chosen none := by
  simp [Chosen]

instance (app : Application) (text : Option String) : Decidable (app.Named text) :=
  decidable_of_iff _ named_iff.symm

instance (app : Application) (filter : Option Filter) : Decidable (app.Chosen filter) :=
  decidable_of_iff _ chosen_iff.symm

end Application

/-! ## What is kept -/

/-- The applications that are named and chosen are kept, and no others. -/
theorem filterApplications_eq (apps : List Application) (text : Option String)
    (filter : Option Filter) :
    filterApplications apps text filter =
      apps.filter fun app => decide (app.Named text ∧ app.Chosen filter) := by
  refine List.filter_congr fun app _ => ?_
  rw [Bool.eq_iff_iff, Bool.and_eq_true, decide_eq_true_iff]
  exact and_congr Application.named_iff.symm Application.chosen_iff.symm

/-- The kept applications stand in their order among all, each as often as there. Lists are kept
part by part. The tests can be made one after the other, in either order, and keeping once more
takes nothing away. All are kept exactly when each of them passes both tests. -/
theorem filterApplications_laws (apps more : List Application) (text : Option String)
    (filter : Option Filter) :
    let kept := filterApplications apps text filter
    kept.Sublist apps
      ∧ (∀ app, kept.count app = if app.Named text ∧ app.Chosen filter then apps.count app else 0)
      ∧ filterApplications (apps ++ more) text filter =
        kept ++ filterApplications more text filter
      ∧ filterApplications (filterApplications apps text none) (some "") filter = kept
      ∧ filterApplications (filterApplications apps (some "") filter) text none = kept
      ∧ filterApplications kept text filter = kept
      ∧ (kept = apps ↔ ∀ app ∈ apps, app.Named text ∧ app.Chosen filter) := by
  simp only [filterApplications_eq, List.filter_append, List.filter_filter]
  refine ⟨List.filter_sublist, fun app => ?_, trivial, ?_, ?_, ?_, ?_⟩
  · split_ifs with h
    · exact List.count_filter (decide_eq_true h)
    · exact List.count_eq_zero.mpr fun hm => h (of_decide_eq_true (List.mem_filter.mp hm).2)
  · refine List.filter_congr fun app _ => ?_
    simp [Application.named_empty, Application.chosen_none, and_comm]
  · refine List.filter_congr fun app _ => ?_
    simp [Application.named_empty, Application.chosen_none]
  · simp
  · rw [List.filter_eq_self]
    simp

end QuickLaunch
