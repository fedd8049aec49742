import Mathlib.Data.List.Sort
import Mathlib.Data.String.Basic
import QuickLaunch.Files.Pattern

/-!
# The order of paths

Paths are compared part by part, so that what lies below a directory stands before what has more
characters in the place of the slash: `a/b` before `a-b`, although a hyphen comes before a slash.

* `Path.Before`: the order;
* `Path.pairwise_before_mergeSort`: sorted paths that differ increase strictly;
* `Path.eq_of_mem_iff`: paths that increase strictly are known by what they are.
-/

namespace QuickLaunch.Path

variable {p q : Path}

/-- The parts of one path come before those of another: the first part that differs decides. -/
def Before (p q : Path) : Prop :=
  p.parts < q.parts

instance : Std.Irrefl Before where
  irrefl p := lt_irrefl p.parts

instance : Std.Antisymm Before where
  antisymm _ _ h h' := absurd h' (lt_asymm h)

theorem namesLe_iff {as bs : List String} : namesLe as bs = true ↔ as ≤ bs := by
  rw [le_iff_eq_or_lt]
  induction as generalizing bs with
  | nil => cases bs <;> simp [namesLe]
  | cons a as ih =>
    cases bs with
    | nil => simp [namesLe]
    | cons b bs =>
      rw [namesLe, List.cons.injEq, List.cons_lt_cons_iff]
      by_cases h : a = b
      · rw [if_pos h, ih]
        simp only [h, true_and, lt_irrefl, false_or]
      · rw [if_neg h, decide_eq_true_eq]
        simp only [h, false_and, false_or, or_false]

-- Names are compared, and not texts: `a/b` stands before `a-b`, a slash behind a hyphen.
example :
    le { names := ["a", "b"] } { names := ["a-b"] } = true ∧ "a-b" < "a/b" := by
  decide

/-- The parts tell paths of one root apart. -/
theorem eq_of_parts_eq (hr : p.root = q.root) (h : p.parts = q.parts) : p = q := by
  obtain ⟨root, names⟩ := p
  obtain ⟨root', names'⟩ := q
  obtain rfl : root = root' := hr
  unfold parts at h
  split_ifs at h
  · exact congrArg (Path.mk root) h
  · exact congrArg (Path.mk root) (List.cons.inj h).2

/-- Sorted paths that differ increase strictly. -/
theorem pairwise_before_mergeSort {l : List Path} (hn : l.Nodup)
    (hr : ∀ p ∈ l, ∀ q ∈ l, p.root = q.root) : (l.mergeSort le).Pairwise Before := by
  have hsorted : (l.mergeSort le).Pairwise fun p q => p.le q = true := by
    refine List.pairwise_mergeSort (fun p q r hpq hqr => ?_) (fun p q => ?_) l
    · exact namesLe_iff.mpr ((namesLe_iff.mp hpq).trans (namesLe_iff.mp hqr))
    · rw [Bool.or_eq_true, le, le, namesLe_iff, namesLe_iff]
      exact le_total p.parts q.parts
  have hnodup : (l.mergeSort le).Nodup := (List.mergeSort_perm l le).nodup_iff.mpr hn
  refine (hsorted.and hnodup).imp_of_mem fun {p q} hp hq h => ?_
  have hroot := hr p (List.mem_mergeSort.mp hp) q (List.mem_mergeSort.mp hq)
  exact lt_of_le_of_ne (namesLe_iff.mp h.1) fun heq => h.2 (eq_of_parts_eq hroot heq)

/-- Paths that increase strictly are known by what they are. -/
theorem eq_of_mem_iff {l l' : List Path} (h : l.Pairwise Before) (h' : l'.Pairwise Before)
    (hmem : ∀ p, p ∈ l ↔ p ∈ l') : l = l' :=
  h.eq_of_mem_iff h' hmem

end QuickLaunch.Path
