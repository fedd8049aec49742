import Mathlib.Data.List.Forall2
import QuickLaunch.Fault

/-!
# Results of many

Computations that may fail, one after another or one for each member of a list: they come to a
result together if each of them does.

* `bind_eq_ok_iff`, `exists_bind_iff`: one after another;
* `forall₂_of_mapM`, `exists_mapM_iff`, `mem_flatten_of_mapM`: one for each member.
-/

namespace QuickLaunch

variable {α β : Type}

theorem bind_eq_ok_iff {x : Except Fault α} {f : α → Except Fault β} {b : β} :
    (x >>= f) = .ok b ↔ ∃ a, x = .ok a ∧ f a = .ok b := by
  cases x with
  | error fault => simp [bind, Except.bind]
  | ok a => simp [bind, Except.bind]

theorem pure_eq_ok_iff {a b : α} : (pure a : Except Fault α) = .ok b ↔ b = a := by
  simp [pure, Except.pure, eq_comm]

theorem exists_bind_iff {x : Except Fault α} {f : α → Except Fault β} :
    (∃ b, (x >>= f) = .ok b) ↔ ∃ a, x = .ok a ∧ ∃ b, f a = .ok b := by
  simp only [bind_eq_ok_iff]
  rw [exists_comm]
  simp only [exists_and_left]

variable {f : α → Except Fault β} {l : List α} {r : List β}

theorem mapM_cons_eq_ok_iff {a : α} :
    (a :: l).mapM f = .ok r ↔ ∃ b, f a = .ok b ∧ ∃ rest, l.mapM f = .ok rest ∧ r = b :: rest := by
  simp only [List.mapM_cons, bind_eq_ok_iff, pure_eq_ok_iff]

/-- There are results for a list if there is one for each of its members. -/
theorem exists_mapM_iff : (∃ r, l.mapM f = .ok r) ↔ ∀ a ∈ l, ∃ b, f a = .ok b := by
  induction l with
  | nil => simp [pure_eq_ok_iff]
  | cons a l ih =>
    rw [List.forall_mem_cons, ← ih, List.mapM_cons]
    simp only [exists_bind_iff, pure_eq_ok_iff, exists_eq, and_true, exists_and_right]

theorem forall₂_of_mapM (h : l.mapM f = .ok r) : List.Forall₂ (fun a b => f a = .ok b) l r := by
  induction l generalizing r with
  | nil =>
    cases h
    exact .nil
  | cons a l ih =>
    obtain ⟨b, hb, rest, hrest, rfl⟩ := mapM_cons_eq_ok_iff.mp h
    exact .cons hb (ih hrest)

/-- Each of the results is the result for a member. -/
theorem mem_of_mapM (h : l.mapM f = .ok r) {b : β} (hb : b ∈ r) : ∃ a ∈ l, f a = .ok b := by
  induction l generalizing r with
  | nil =>
    cases h
    cases hb
  | cons a l ih =>
    obtain ⟨b', hb', rest, hrest, rfl⟩ := mapM_cons_eq_ok_iff.mp h
    rcases List.mem_cons.mp hb with rfl | hb
    · exact ⟨a, List.mem_cons_self, hb'⟩
    · obtain ⟨a', ha', hfa'⟩ := ih hrest hb
      exact ⟨a', List.mem_cons_of_mem a ha', hfa'⟩

/-- What is in the results for a list is in the result for one of its members. -/
theorem mem_flatten_of_mapM {f : α → Except Fault (List β)} {r : List (List β)}
    (h : l.mapM f = .ok r) {b : β} :
    b ∈ r.flatten ↔ ∃ a ∈ l, ∃ found, f a = .ok found ∧ b ∈ found := by
  induction l generalizing r with
  | nil =>
    cases h
    simp
  | cons a l ih =>
    obtain ⟨found, hfound, rest, hrest, rfl⟩ := mapM_cons_eq_ok_iff.mp h
    simp [ih hrest, hfound]

end QuickLaunch
