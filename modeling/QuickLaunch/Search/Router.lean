import QuickLaunch.Search.Result
import QuickLaunch.Text.Blank

/-!
# Routing a query

A router asks handlers in order of priority, the least number first; handlers of one priority are
asked in the order of their registration. A blank query finds nothing.

* `register_perm`: registering adds the handler and nothing else.
-/

namespace QuickLaunch

/-- A source of search results. -/
structure Handler where
  priority : Int
  answer : String → List Result

/-- The handlers in the order in which they are asked. -/
structure Router where
  handlers : List Handler := []

namespace Router

/-- The handlers with one more, behind all that are asked before it. -/
def insert (h : Handler) : List Handler → List Handler
  | [] => [h]
  | g :: rest => if g.priority ≤ h.priority then g :: insert h rest else h :: g :: rest

/-- The router that asks one more handler. -/
def register (r : Router) (h : Handler) : Router :=
  ⟨insert h r.handlers⟩

/-- The results of all handlers for a query. -/
def route (r : Router) (query : Option String) : List Result :=
  match query with
  | none => []
  | some q => if Text.isBlank query then [] else r.handlers.flatMap (·.answer q)

/-! ## Laws -/

theorem insert_perm (h : Handler) (hs : List Handler) : (insert h hs).Perm (h :: hs) := by
  induction hs with
  | nil => exact List.Perm.refl _
  | cons g rest ih =>
    rw [insert]
    split
    · exact (ih.cons g).trans (List.Perm.swap h g rest)
    · exact List.Perm.refl _

/-- Registering adds the handler and nothing else. -/
theorem register_perm (r : Router) (h : Handler) :
    (r.register h).handlers.Perm (h :: r.handlers) :=
  insert_perm h r.handlers

end Router

end QuickLaunch
