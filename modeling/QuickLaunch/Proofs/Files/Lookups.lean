import Mathlib.Data.String.Basic
import Mathlib.Tactic.SplitIfs
import QuickLaunch.Files.Tree

/-!
# Looking something up

Whether something stands at a path can be answered in every tree, unless the path or a name in it is
longer than a file system takes. All other faults on the way mean that nothing is there.

* `exists_exists?_of_fits`, `exists_isDirectory?_of_fits`, `exists_isFile?_of_fits`: paths that fit
  can always be looked up.
-/

namespace QuickLaunch

/-- A text has at least as many bytes as characters. -/
theorem length_le_utf8ByteSize (s : List Char) : s.length ≤ (String.ofList s).utf8ByteSize := by
  rw [String.utf8ByteSize_ofList]
  induction s with
  | nil => exact Nat.le_refl 0
  | cons c rest ih =>
    have hpos := c.utf8Size_pos
    rw [List.length_cons, String.utf8Len_cons]
    omega

namespace Tree

variable {t : Tree} {p : Place} {path name : String} {names : List String}

theorem isFile_iff : t.isFile path = true ↔ ∃ content, t.status path = .ok (.file content) := by
  rw [isFile]
  cases t.status path with
  | error fault => simp
  | ok e => cases e <;> simp

/-- Neither the path nor a name in it is longer than a file system takes. -/
structure Fits (path : String) : Prop where
  total : path.utf8ByteSize < maxPathBytes
  names : ∀ name ∈ way path, name.utf8ByteSize ≤ maxNameBytes

/-- One letter, written often enough, is a longer name than a file system takes. -/
theorem maxNameBytes_lt_replicate {n : Nat} (hn : maxNameBytes < n) (c : Char) :
    maxNameBytes < (String.ofList (List.replicate n c)).utf8ByteSize := by
  have hle := length_le_utf8ByteSize (List.replicate n c)
  rw [List.length_replicate] at hle
  exact Nat.lt_of_lt_of_le hn hle

theorem not_mem_replicate {n : Nat} {c d : Char} (hd : d ≠ c) :
    d ∉ (String.ofList (List.replicate n c)).toList := by
  rw [String.toList_ofList]
  exact fun hm => hd (List.eq_of_mem_replicate hm)

theorem step_ne_nameTooLong (hn : name.utf8ByteSize ≤ maxNameBytes) :
    t.step p name ≠ .error .nameTooLong := by
  have hlong : ¬ maxNameBytes < name.utf8ByteSize := Nat.not_lt_of_le hn
  unfold step
  split
  · nofun
  · nofun
  · simp only [hlong, if_false]
    split_ifs <;> nofun

theorem walk_ne_nameTooLong (hn : ∀ name ∈ names, name.utf8ByteSize ≤ maxNameBytes) :
    t.walk p names ≠ .error .nameTooLong := by
  induction names generalizing p with
  | nil => simp [walk]
  | cons name rest ih =>
    have hstep : t.step p name ≠ .error .nameTooLong :=
      step_ne_nameTooLong (hn name List.mem_cons_self)
    rw [walk]
    cases hs : t.step p name with
    | error fault => simpa [Except.bind, hs] using hstep
    | ok q => exact ih fun other ho => hn other (List.mem_cons_of_mem name ho)

theorem status_ne_nameTooLong (h : Fits path) : t.status path ≠ .error .nameTooLong := by
  have hpath : ¬ maxPathBytes ≤ path.utf8ByteSize := Nat.not_le_of_lt h.total
  have hwalk : t.walk (t.start path) (way path) ≠ .error .nameTooLong :=
    walk_ne_nameTooLong h.names
  unfold status find refuse?
  simp only [hpath, if_false]
  split_ifs
  · nofun
  · nofun
  · cases hw : t.walk (t.start path) (way path) with
    | error fault => simpa [hw] using hwalk
    | ok q => cases hq : t.at? q <;> simp [hq]

/-- A fault that is not about length says that nothing is there. -/
theorem absent_of_ne {fault : Fault} (h : fault ≠ .nameTooLong) : absent fault = true := by
  cases fault <;> first | rfl | exact absurd rfl h

theorem status_cases_of_fits (t : Tree) (h : Fits path) :
    (∃ e, t.status path = .ok e) ∨ ∃ fault, t.status path = .error fault ∧ absent fault = true := by
  cases hs : t.status path with
  | ok e => exact .inl ⟨e, rfl⟩
  | error fault =>
    have hne : fault ≠ .nameTooLong := fun he => status_ne_nameTooLong h (he ▸ hs)
    exact .inr ⟨fault, rfl, absent_of_ne hne⟩

theorem exists_exists?_of_fits (t : Tree) (h : Fits path) : ∃ there, t.exists? path = .ok there := by
  rw [exists?]
  rcases status_cases_of_fits t h with ⟨e, hs⟩ | ⟨fault, hs, ha⟩
  · exact ⟨true, by rw [hs]⟩
  · exact ⟨false, by simp [hs, ha]⟩

theorem exists_isDirectory?_of_fits (t : Tree) (h : Fits path) :
    ∃ there, t.isDirectory? path = .ok there := by
  rw [isDirectory?]
  rcases status_cases_of_fits t h with ⟨e, hs⟩ | ⟨fault, hs, ha⟩
  · cases e <;> exact ⟨_, by rw [hs]⟩
  · exact ⟨false, by simp [hs, ha]⟩

theorem exists_isFile?_of_fits (t : Tree) (h : Fits path) :
    ∃ there, t.isFile? path = .ok there := by
  rw [isFile?]
  rcases status_cases_of_fits t h with ⟨e, hs⟩ | ⟨fault, hs, ha⟩
  · cases e <;> exact ⟨_, by rw [hs]⟩
  · exact ⟨false, by simp [hs, ha]⟩

end Tree

end QuickLaunch
