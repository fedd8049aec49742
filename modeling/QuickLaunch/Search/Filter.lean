import QuickLaunch.Catalog
import QuickLaunch.Text.Blank

/-!
# Filters

A filter keeps some of the applications. Its predicate compares the source or the category of an
application with a value, or looks for the value in the title, always without regard to case; what
is unknown about an application counts as empty.

A filter expression is `source:` or `category:` and a value, or text to look for in titles. Another
word before the first colon is disregarded.
-/

namespace QuickLaunch

/-- A test of applications. -/
inductive Predicate where
  | source (value : String)
  | category (value : String)
  | title (value : String)
  | always
  deriving DecidableEq, Repr, Inhabited

namespace Predicate

/-- The application passes the test. -/
def accepts : Predicate → Application → Bool
  | .source value, app => Text.sameIgnoringCase (app.source.getD "") value
  | .category value, app => Text.sameIgnoringCase (app.category.getD "") value
  | .title value, app => Text.containsIgnoringCase (app.title.getD "") value
  | .always, _ => true

/-- The test that a property and a value name; a property that is neither a source nor a category is
disregarded. -/
def ofProperty (property value : List Char) : Predicate :=
  let name := Text.lowerChars (Text.trimChars property)
  let value := String.ofList (Text.trimChars value)
  if name = "source".toList then .source value
  else if name = "category".toList then .category value
  else .title value

/-- The test that an expression names, if it names one. -/
def parse? : Option String → Option Predicate
  | none => none
  | some expression =>
    if Text.isBlankChars expression.toList then none
    else match Text.cutAt ':' expression.toList with
      | some (property, value) => some (ofProperty property value)
      | none => some (.title expression)

/-- An expression names no test when it is blank. -/
theorem parse?_eq_none_iff {expression : Option String} :
    parse? expression = none ↔ Text.isBlank expression = true := by
  cases expression with
  | none => exact iff_of_true rfl rfl
  | some e =>
    rw [parse?, Text.isBlank]
    split
    · next hb => exact iff_of_true rfl hb
    · next hb => exact iff_of_false (by split <;> simp) hb

/-- Whether an expression names a test, and the test; every application passes that of an expression
that names none. -/
def parse (expression : Option String) : Bool × Predicate :=
  match parse? expression with
  | some p => (true, p)
  | none => (false, .always)

/-- The printed form of a test. -/
def text : Predicate → String
  | .source value => s!"MatchesSource(value={Text.quoted value})"
  | .category value => s!"MatchesCategory(value={Text.quoted value})"
  | .title value => s!"MatchesTitleSubstring(value={Text.quoted value})"
  | .always => "Always()"

end Predicate

/-- A named filter. Without a predicate it keeps every application. -/
structure Filter where
  name : String
  predicate : Option Predicate := none
  deriving DecidableEq, Repr, Inhabited

namespace Filter

/-- The filter that keeps everything. -/
def all : Filter :=
  { name := "All" }

/-- The filter keeps the application. -/
def accepts (f : Filter) (app : Application) : Bool :=
  match f.predicate with
  | none => true
  | some p => p.accepts app

end Filter

end QuickLaunch
