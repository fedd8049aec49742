import Mathlib.Data.List.Basic
import Mathlib.Tactic.SplitIfs
import QuickLaunch.Files.Text

/-!
# What is read after a write

Where a path leads when a file has been written. Following one name is described once (`Leads`),
and so is where a path would put a file (`Aims`). A file that takes no directory's place leaves
every way as it was, so that the path of the file leads to it.

* `step_eq_ok_iff`, `write_eq_ok_iff`, `makeDirectory_eq_ok_iff`, `remove_eq_ok_iff`: all that a
  step and the changes of a tree can do;
* `walk_put`: no way is lost when a file is put into the tree;
* `read_write`: what was written at a path is read there;
* `exists_write_of_file`: where a file is, one can be written.
-/

namespace QuickLaunch.Tree

variable {t t' : Tree} {p q key : Place} {path name last : String} {names : List String} {e : Entry}

/-! ## Entries -/

theorem lookup_cons_eq (ns : List String) (f : Entry) (rest : List (List String × Entry))
    (names : List String) :
    ((ns, f) :: rest).lookup names = if names = ns then some f else rest.lookup names := by
  rw [List.lookup_cons]
  split_ifs with hn
  · rw [beq_iff_eq.mpr hn]
  · rw [beq_eq_false_iff_ne.mpr hn]

theorem lookup_putEntry (key names : List String) (e : Entry)
    (entries : List (List String × Entry)) :
    (putEntry key e entries).lookup names =
      if names = key then some e else entries.lookup names := by
  induction entries with
  | nil => rw [putEntry, lookup_cons_eq]
  | cons d rest ih =>
    obtain ⟨ns, f⟩ := d
    rw [putEntry, lookup_cons_eq]
    by_cases hk : ns = key
    · subst hk
      rw [if_pos rfl, lookup_cons_eq]
      split_ifs <;> rfl
    · rw [if_neg hk, lookup_cons_eq, ih]
      split_ifs with hns hkey
      · exact absurd (hns.symm.trans hkey) hk
      · rfl
      · rfl
      · rfl

/-- The working directory stands, and all that is on the way to it. -/
theorem at?_of_leading (h : p <+: t.workingDirectory) : t.at? p = some .directory :=
  if_pos h

/-- Where no directory stands an entry can be put. -/
theorem at?_put_self (hk : t.at? key ≠ some .directory) (e : Entry) :
    (t.put key e).at? key = some e := by
  have hp : ¬ key <+: (t.put key e).workingDirectory := fun h => hk (at?_of_leading h)
  rw [at?, if_neg hp, put, lookup_putEntry, if_pos rfl]

theorem at?_put_ne (t : Tree) (hp : p ≠ key) (e : Entry) : (t.put key e).at? p = t.at? p := by
  rw [at?, at?, put, lookup_putEntry, if_neg hp]

/-- Nothing disappears when an entry is put into a tree that is no directory's place. -/
theorem isSome_at?_put (hk : t.at? key ≠ some .directory) (e : Entry) (h : (t.at? p).isSome) :
    ((t.put key e).at? p).isSome := by
  by_cases hp : p = key
  · rw [hp, at?_put_self hk]
    rfl
  · rwa [at?_put_ne t hp]

/-- A directory stays one when no entry takes its place. -/
theorem at?_put_of_directory (hk : t.at? key ≠ some .directory) (e : Entry)
    (h : t.at? p = some .directory) : (t.put key e).at? p = some .directory := by
  have hp : p ≠ key := by
    rintro rfl
    exact hk h
  rwa [at?_put_ne t hp]

/-! ## Ways -/

/-- A name that is neither empty nor dots. -/
def Ordinary (name : String) : Prop :=
  name ≠ "" ∧ name ≠ "." ∧ name ≠ ".."

instance (name : String) : Decidable (Ordinary name) :=
  inferInstanceAs (Decidable (_ ∧ _ ∧ _))

/-- Where a name leads from a directory. -/
inductive Leads (t : Tree) (p : Place) : String → Place → Prop where
  | stay (name : String) : name = "" ∨ name = "." → Leads t p name p
  | up : Leads t p ".." p.dropLast
  | down (name : String) : Ordinary name → name.utf8ByteSize ≤ maxNameBytes →
      (t.at? (p ++ [name])).isSome → Leads t p name (p ++ [name])

/-- A step leads from a directory along a name. -/
theorem step_eq_ok_iff :
    t.step p name = .ok q ↔ t.at? p = some .directory ∧ t.Leads p name q := by
  constructor
  · intro h
    unfold step at h
    split at h
    · cases h
    · cases h
    · rename_i hd
      refine ⟨hd, ?_⟩
      split_ifs at h with hstay hup hlong hs
      · cases h
        exact .stay name hstay
      · subst hup
        cases h
        exact .up
      · cases h
        exact .down name ⟨fun h => hstay (.inl h), fun h => hstay (.inr h), hup⟩
          (Nat.le_of_not_lt hlong) hs
  · rintro ⟨hd, hl⟩
    unfold step
    rw [hd]
    cases hl with
    | stay _ hstay => simp [hstay]
    | up => rfl
    | down _ ho hs hi => simp [ho.1, ho.2.1, ho.2.2, Nat.not_lt_of_le hs, hi]

/-- No way is lost when an entry is put into a tree that is no directory's place. -/
theorem step_put (hk : t.at? key ≠ some .directory) (e : Entry) (h : t.step p name = .ok q) :
    (t.put key e).step p name = .ok q := by
  obtain ⟨hd, hl⟩ := step_eq_ok_iff.mp h
  refine step_eq_ok_iff.mpr ⟨at?_put_of_directory hk e hd, ?_⟩
  cases hl with
  | stay name hstay => exact .stay name hstay
  | up => exact .up
  | down name ho hs hi => exact .down name ho hs (isSome_at?_put hk e hi)

theorem walk_cons_eq_ok_iff {rest : List String} :
    t.walk p (name :: rest) = .ok q ↔ ∃ r, t.step p name = .ok r ∧ t.walk r rest = .ok q := by
  rw [walk]
  cases t.step p name <;> simp [Except.bind]

theorem walk_put (hk : t.at? key ≠ some .directory) (e : Entry) (h : t.walk p names = .ok q) :
    (t.put key e).walk p names = .ok q := by
  induction names generalizing p with
  | nil => exact h
  | cons name rest ih =>
    obtain ⟨r, hs, hw⟩ := walk_cons_eq_ok_iff.mp h
    exact walk_cons_eq_ok_iff.mpr ⟨r, step_put hk e hs, ih hw⟩

theorem walk_append (t : Tree) (p : Place) (names others : List String) :
    t.walk p (names ++ others) = (t.walk p names).bind fun q => t.walk q others := by
  induction names generalizing p with
  | nil => rfl
  | cons name rest ih =>
    rw [List.cons_append, walk, walk]
    cases t.step p name with
    | error fault => rfl
    | ok r => exact ih r

/-- A path leads along its names to what stands there. -/
theorem status_eq_ok_iff :
    t.status path = .ok e ↔ refuse? path = none
      ∧ ∃ q, t.walk (t.start path) (way path) = .ok q ∧ t.at? q = some e := by
  rw [status, find]
  cases refuse? path with
  | some fault => simp
  | none =>
    cases t.walk (t.start path) (way path) with
    | error fault => simp
    | ok q => cases h : t.at? q <;> simp [h]

/-! ## Where a path puts a file -/

/-- The path would put a file of the given last name into the directory at a place. -/
structure Aims (t : Tree) (path : String) (p : Place) (last : String) : Prop where
  allowed : refuse? path = none
  last_eq : (way path).getLast? = some last
  walk : t.walk (t.start path) (way path).dropLast = .ok p
  directory : t.at? p = some .directory
  ordinary : Ordinary last
  short : last.utf8ByteSize ≤ maxNameBytes

theorem target_eq_ok_iff : t.target path = .ok (p, some last) ↔ Aims t path p last := by
  constructor
  · intro h
    unfold target at h
    split at h
    · cases h
    rename_i hr
    cases hw : t.walk (t.start path) (way path).dropLast with
    | error fault => simp [hw, Except.bind] at h
    | ok r =>
      simp only [hw, Except.bind] at h
      split at h
      · rename_i hd
        split at h
        · cases h
        rename_i name hl
        split_ifs at h with ho hs
        · cases h
        · cases h
          exact ⟨hr, hl, hw, hd, not_or.mp ho |>.imp_right not_or.mp, Nat.le_of_not_lt hs⟩
      · cases h
      · cases h
  · rintro ⟨hr, hl, hw, hd, ho, hs⟩
    unfold target
    simp [hr, hw, hl, hd, ho.1, ho.2.1, ho.2.2, Nat.not_lt_of_le hs, Except.bind]

/-- A path leads to what stands where it would put a file. -/
theorem Aims.find (h : Aims t path p last) (hi : (t.at? (p ++ [last])).isSome) :
    t.find path = .ok (p ++ [last]) := by
  have hway : way path = (way path).dropLast ++ [last] :=
    (List.dropLast_append_getLast? last h.last_eq).symm
  have hstep : t.step p last = .ok (p ++ [last]) :=
    step_eq_ok_iff.mpr ⟨h.directory, .down last h.ordinary h.short hi⟩
  rw [Tree.find, h.allowed]
  simp only
  rw [hway, walk_append, h.walk]
  exact walk_cons_eq_ok_iff.mpr ⟨_, hstep, rfl⟩

theorem Aims.put (hk : t.at? key ≠ some .directory) (e : Entry) (h : Aims t path p last) :
    Aims (t.put key e) path p last :=
  { h with
    walk := walk_put hk e h.walk
    directory := at?_put_of_directory hk e h.directory }

/-- A write puts a file where the path aims, unless a directory stands there. -/
theorem write_eq_ok_iff {content : ByteArray} :
    t.write path content = .ok t' ↔
      ∃ p last, Aims t path p last ∧ t.at? (p ++ [last]) ≠ some .directory
        ∧ t' = t.put (p ++ [last]) (.file content) := by
  constructor
  · intro h
    rw [write] at h
    split at h
    · cases h
    · rename_i p last htarget
      split at h
      · cases h
      · rename_i hd
        cases h
        exact ⟨p, last, target_eq_ok_iff.mp htarget, hd, rfl⟩
    · cases h
  · rintro ⟨p, last, ha, hd, rfl⟩
    rw [write, target_eq_ok_iff.mpr ha]
    simp only

/-- A new directory stands where the path aims and nothing stood. -/
theorem makeDirectory_eq_ok_iff :
    t.makeDirectory path = .ok t' ↔
      ∃ p last, Aims t path p last ∧ t.at? (p ++ [last]) = none
        ∧ t' = t.put (p ++ [last]) .directory := by
  constructor
  · intro h
    rw [makeDirectory] at h
    split at h
    · cases h
    · rename_i p last htarget
      split at h
      · cases h
      · rename_i hnone
        cases h
        exact ⟨p, last, target_eq_ok_iff.mp htarget, hnone, rfl⟩
    · cases h
  · rintro ⟨p, last, ha, hnone, rfl⟩
    rw [makeDirectory, target_eq_ok_iff.mpr ha]
    simp only [hnone]

/-- A file that a path leads to is removed. -/
theorem remove_eq_ok_iff :
    t.remove path = .ok t' ↔
      ∃ p content, t.find path = .ok p ∧ t.at? p = some (.file content) ∧ t' = t.drop p := by
  rw [remove]
  cases t.find path with
  | error fault => simp
  | ok p =>
    cases he : t.at? p with
    | none => simp [he]
    | some e => cases e <;> simp [he, eq_comm]

/-- What was put where a path aims is found there. -/
theorem Aims.status_put (h : Aims t path p last) (hd : t.at? (p ++ [last]) ≠ some .directory)
    (e : Entry) : (t.put (p ++ [last]) e).status path = .ok e := by
  have hat := at?_put_self hd e
  rw [status, (h.put hd e).find (by rw [hat]; rfl)]
  simp only [hat]

theorem status_write {content : ByteArray} (h : t.write path content = .ok t') :
    t'.status path = .ok (.file content) := by
  obtain ⟨p, last, ha, hd, rfl⟩ := write_eq_ok_iff.mp h
  exact ha.status_put hd (.file content)

/-- A write puts a file where its path then leads, and led before if there was anything. -/
theorem exists_key_of_write {content : ByteArray} (h : t.write path content = .ok t') :
    ∃ key, t' = t.put key (.file content) ∧ t.at? key ≠ some .directory
      ∧ t'.find path = .ok key ∧ ((t.at? key).isSome → t.find path = .ok key) := by
  obtain ⟨p, last, ha, hd, rfl⟩ := write_eq_ok_iff.mp h
  refine ⟨_, rfl, hd, (ha.put hd _).find ?_, ha.find⟩
  rw [at?_put_self hd]
  rfl

/-- What was written at a path is read there. -/
theorem read_write {content : ByteArray} (h : t.write path content = .ok t') :
    t'.read path = .ok content := by
  rw [read, status_write h]

/-! ## Where a file can be written -/

/-- A place below directories only. -/
def Grounded (t : Tree) (p : Place) : Prop :=
  ∀ above, above <+: p → above ≠ p → t.at? above = some .directory

theorem Grounded.of_prefix (hg : Grounded t p) (h : q <+: p) : Grounded t q := by
  intro above hq hne
  refine hg above (hq.trans h) ?_
  rintro rfl
  exact hne (hq.eq_of_length_le h.length_le)

/-- What lies above a place below directories is a directory, and the root is. -/
theorem Grounded.dropLast (hg : Grounded t p) : t.at? p.dropLast = some .directory := by
  rcases List.eq_nil_or_concat p with rfl | ⟨init, last, rfl⟩
  · exact at?_of_leading List.nil_prefix
  · rw [List.concat_eq_append, List.dropLast_concat]
    rw [List.concat_eq_append] at hg
    exact hg init (List.prefix_append init [last]) (by simp)

theorem Leads.grounded (h : t.Leads p name q) (hd : t.at? p = some .directory)
    (hg : Grounded t p) : Grounded t q := by
  cases h with
  | stay name _ => exact hg
  | up => exact hg.of_prefix (List.dropLast_prefix p)
  | down name _ _ _ =>
    intro above hp hne
    rcases List.prefix_concat_iff.mp hp with h | h
    · exact absurd h hne
    · by_cases heq : above = p
      · rw [heq]
        exact hd
      · exact hg above h heq

theorem grounded_walk (hg : Grounded t p) (h : t.walk p names = .ok q) : Grounded t q := by
  induction names generalizing p with
  | nil => cases h; exact hg
  | cons name rest ih =>
    obtain ⟨r, hs, hw⟩ := walk_cons_eq_ok_iff.mp h
    obtain ⟨hd, hl⟩ := step_eq_ok_iff.mp hs
    exact ih (hl.grounded hd hg) hw

/-- A step to a file goes down. -/
theorem Leads.down_of_file {content : ByteArray} (h : t.Leads p name q)
    (hd : t.at? p = some .directory) (hg : Grounded t p) (hf : t.at? q = some (.file content)) :
    q = p ++ [name] ∧ Ordinary name ∧ name.utf8ByteSize ≤ maxNameBytes := by
  cases h with
  | stay name _ => rw [hd] at hf; cases hf
  | up => rw [hg.dropLast] at hf; cases hf
  | down name ho hs _ => exact ⟨rfl, ho, hs⟩

/-- A path starts at the root or in the working directory. -/
theorem start_leading (t : Tree) (path : String) : t.start path <+: t.workingDirectory := by
  unfold start
  split
  · exact List.nil_prefix
  · exact List.prefix_rfl

theorem at?_start (t : Tree) (path : String) : t.at? (t.start path) = some .directory :=
  at?_of_leading (start_leading t path)

theorem grounded_start (t : Tree) (path : String) : Grounded t (t.start path) :=
  fun _ hp _ => at?_of_leading (hp.trans (start_leading t path))

theorem way_ne_nil (path : String) : way path ≠ [] := fun h =>
  Text.splitOn_ne_nil _ _ (List.map_eq_nil_iff.mp h)

/-- The path of a file aims at the file. -/
theorem exists_aims_of_file {content : ByteArray} (h : t.status path = .ok (.file content)) :
    ∃ p last, Aims t path p last ∧ t.at? (p ++ [last]) = some (.file content) := by
  obtain ⟨hr, q, hw, hq⟩ := status_eq_ok_iff.mp h
  obtain ⟨init, last, hway⟩ := (List.eq_nil_or_concat (way path)).resolve_left (way_ne_nil path)
  rw [List.concat_eq_append] at hway
  rw [hway, walk_append] at hw
  cases hp : t.walk (t.start path) init with
  | error fault => simp [hp, Except.bind] at hw
  | ok p =>
    rw [hp] at hw
    obtain ⟨r, hs, hrq⟩ := walk_cons_eq_ok_iff.mp hw
    cases hrq
    obtain ⟨hd, hl⟩ := step_eq_ok_iff.mp hs
    have hg := grounded_walk (grounded_start t path) hp
    obtain ⟨rfl, ho, hsize⟩ := hl.down_of_file hd hg hq
    refine ⟨p, last, ⟨hr, ?_, ?_, hd, ho, hsize⟩, hq⟩
    · rw [hway, List.getLast?_append]
      rfl
    · rw [hway, List.dropLast_concat]
      exact hp

/-- Where a file is, another can be written in its place. -/
theorem exists_write_of_file {content : ByteArray} (h : t.status path = .ok (.file content))
    (other : ByteArray) : ∃ t', t.write path other = .ok t' := by
  obtain ⟨p, last, ha, hf⟩ := exists_aims_of_file h
  refine ⟨_, write_eq_ok_iff.mpr ⟨p, last, ha, ?_, rfl⟩⟩
  rw [hf]
  exact nofun

end QuickLaunch.Tree
