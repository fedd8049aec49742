import QuickLaunch.Proofs.Files.Listings
import QuickLaunch.Proofs.Files.Lookups

/-!
# Directories that are made

Making the directories on the way to a path adds directories and changes nothing else (`Grown`).
Where a path leads somewhere already none are made. Directories never disappear, so that a path that
once could hold a file can hold it for good.

* `grown_makeDirectories`: what making directories does to a tree;
* `makeDirectories_parent`: the way to what is there needs no directory;
* `Aims.keep`: where a path puts a file, as long as the directories stay;
* `KeepsFiles.isFile`: a file is found as long as the files stay;
* `exists_added_of_write`: a file that was missing is the only one that is new;
* `aims_child`: where a file can be put that is missing.
-/

namespace QuickLaunch

namespace Path

variable {p q : Path}

/-- The path is as reading a text leaves it: of one of the roots, with names that are not empty, no
dot and have no slash. -/
structure Parsed (p : Path) : Prop where
  rooted : p.Rooted
  names : ∀ name ∈ p.names, name ≠ "" ∧ name ≠ "." ∧ '/' ∉ name.toList

theorem parsed_parse (s : String) : (parse s).Parsed where
  rooted := rooted_parse s
  names := by
    intro name hname
    obtain ⟨piece, hpiece, rfl⟩ := List.mem_map.mp hname
    obtain ⟨hmem, hkept⟩ := List.mem_filter.mp hpiece
    obtain ⟨hempty, hdot⟩ : piece ≠ [] ∧ piece ≠ ['.'] := of_decide_eq_true hkept
    refine ⟨fun h => hempty ?_, fun h => hdot ?_, fun h => ?_⟩
    · simpa using congrArg String.toList h
    · simpa using congrArg String.toList h
    · obtain ⟨before, behind, hsplit⟩ := List.append_of_mem (String.toList_ofList ▸ h)
      refine Text.not_infix_of_mem_splitOn (List.cons_ne_nil _ _) hmem ⟨before, behind, ?_⟩
      rw [hsplit, List.append_assoc, List.singleton_append]

theorem parse_of_ordinary {name : String} (ho : Tree.Ordinary name) (hs : '/' ∉ name.toList) :
    parse name = { names := [name] } := by
  have hslashes : name.toList.takeWhile (· == '/') = [] := by
    refine List.takeWhile_eq_nil_iff.mpr fun hlen hfirst => hs ?_
    exact eq_of_beq hfirst ▸ List.getElem_mem hlen
  have hkept : name.toList.dropWhile (· == '/') = name.toList := by
    have h := List.takeWhile_append_dropWhile (p := (· == '/')) (l := name.toList)
    rwa [hslashes, List.nil_append] at h
  have hpieces : Text.splitOn ['/'] name.toList = [name.toList] :=
    Text.splitOn_of_not_infix (List.cons_ne_nil _ _) fun h => hs (h.subset List.mem_cons_self)
  have hempty : name.toList ≠ [] := fun h => ho.1 (String.toList_inj.mp h)
  have hdot : name.toList ≠ ['.'] := fun h => ho.2.1 (String.toList_inj.mp h)
  have hnames : namesOf name.toList = [name] := by
    simp [namesOf, hpieces, hempty, hdot]
  rw [parse, hslashes, hkept, hnames]
  rfl

theorem Parsed.parent (hp : p.Parsed) : p.parent.Parsed where
  rooted := hp.rooted.of_root_eq rfl
  names name hname := hp.names name (List.mem_of_mem_dropLast hname)

theorem parsed_expandHome {home : Option String} (hp : p.Parsed)
    (h : p.expandHome home = .ok q) : q.Parsed where
  rooted := rooted_expandHome hp.rooted h
  names := by
    rw [expandHome] at h
    split_ifs at h with hr
    · cases h
      exact hp.names
    rcases hn : p.names with _ | ⟨first, rest⟩
    · simp only [hn] at h
      cases h
      exact hp.names
    simp only [hn] at h
    split_ifs at h
    · cases h
      exact hp.names
    cases home with
    | none => cases h
    | some home =>
      simp only at h
      split_ifs at h
      rw [← Except.ok.inj h]
      intro name hname
      rcases List.mem_append.mp hname with hname | hname
      · exact (parsed_parse _).names name hname
      · exact hp.names name (hn ▸ List.mem_cons_of_mem first hname)

theorem Parsed.text_ne_empty (hp : p.Parsed) : p.text ≠ "" := by
  intro h
  rw [text] at h
  split_ifs at h with hdot
  · exact absurd h (by decide)
  obtain ⟨hroot, hjoined⟩ : p.root = "" ∧ String.intercalate "/" p.names = "" := by
    simpa using h
  cases hn : p.names with
  | nil => exact hdot ⟨hroot, hn⟩
  | cons name rest =>
    have hname : name ≠ "" := (hp.names name (hn ▸ List.mem_cons_self)).1
    rw [hn] at hjoined
    cases rest with
    | nil => simp [hname] at hjoined
    | cons next rest => simp [hname] at hjoined

/-- A path with names is the child of its parent. -/
theorem exists_eq_child (hn : p.names ≠ []) : ∃ last ∈ p.names, p = p.parent.child last := by
  rcases List.eq_nil_or_concat p.names with hnil | ⟨init, last, hnames⟩
  · exact absurd hnil hn
  · rw [List.concat_eq_append] at hnames
    refine ⟨last, by simp [hnames], ?_⟩
    cases p
    simp only at hnames
    simp [parent, child, hnames]

end Path

namespace Tree

variable {t t' : Tree} {p q key : Place} {path name last : String} {names : List String} {e : Entry}

/-! ## What is added -/

/-- The second tree has all that the first one has, and directories besides. -/
structure Grown (t t' : Tree) : Prop where
  workingDirectory : t'.workingDirectory = t.workingDirectory
  at?_eq : ∀ {p e}, t.at? p = some e → t'.at? p = some e
  file : ∀ {p content}, t'.at? p = some (.file content) → t.at? p = some (.file content)

theorem Grown.refl (t : Tree) : Grown t t := ⟨rfl, id, id⟩

theorem Grown.trans {t₁ t₂ t₃ : Tree} (h : Grown t₁ t₂) (h' : Grown t₂ t₃) : Grown t₁ t₃ where
  workingDirectory := h'.workingDirectory.trans h.workingDirectory
  at?_eq hp := h'.at?_eq (h.at?_eq hp)
  file hf := h.file (h'.file hf)

/-- What is missing is no directory. -/
theorem ne_directory_of_none (hnone : t.at? p = none) : t.at? p ≠ some .directory := by
  rw [hnone]
  exact nofun

theorem grown_put (hnone : t.at? key = none) : Grown t (t.put key .directory) where
  workingDirectory := rfl
  at?_eq {p e} he := by
    have hp : p ≠ key := by
      rintro rfl
      rw [hnone] at he
      cases he
    rwa [at?_put_ne t hp]
  file {p content} hf := by
    have hp : p ≠ key := by
      rintro rfl
      rw [at?_put_self (ne_directory_of_none hnone)] at hf
      cases hf
    rwa [at?_put_ne t hp] at hf

theorem grown_makeDirectory (h : t.makeDirectory path = .ok t') : Grown t t' := by
  obtain ⟨p, last, -, hnone, rfl⟩ := makeDirectory_eq_ok_iff.mp h
  exact grown_put hnone

/-- What making a directory preserves is preserved when directories are made, whether all of them
could be made or not. -/
theorem makeDirectories_induction {P : Tree → Prop}
    (hstep : ∀ {t t' : Tree} {path : String}, P t → t.makeDirectory path = .ok t' → P t')
    (ht : P t) (p : Path) : P (t.makeDirectories p).1 := by
  suffices ∀ depth p, P (t.makeDirectoriesTo p depth).1 from this _ p
  intro depth
  induction depth with
  | zero => exact fun _ => ht
  | succ depth ih =>
    intro p
    rw [makeDirectoriesTo]
    split
    · next hmade => exact hstep ht hmade
    · split
      · exact ht
      · have hparent := ih p.parent
        split
        · next hrest => rwa [hrest] at hparent
        · next made hrest =>
          rw [hrest] at hparent
          split
          · next hmade => exact hstep hparent hmade
          · exact hparent
          · exact hparent
    · exact ht

theorem grown_makeDirectories (t : Tree) (p : Path) : Grown t (t.makeDirectories p).1 :=
  makeDirectories_induction (fun hg hmade => hg.trans (grown_makeDirectory hmade)) (.refl t) p

theorem proper_makeDirectories (ht : t.Proper) (p : Path) : (t.makeDirectories p).1.Proper :=
  makeDirectories_induction proper_makeDirectory ht p

/-- Writing a file and the directories on the way to it is writing the file in a tree that has
more directories. -/
theorem exists_grown_of_writeDeep {content : ByteArray}
    (hw : t.writeDeep path content = .ok t') :
    ∃ t₁, Grown t t₁ ∧ t₁.write path content = .ok t' := by
  unfold writeDeep at hw
  generalize hr : t.makeDirectories (Path.parse path).parent = r at hw
  obtain ⟨t₁, _ | fault⟩ := r
  · have hg := grown_makeDirectories t (Path.parse path).parent
    rw [hr] at hg
    exact ⟨t₁, hg, hw⟩
  · cases hw

/-! ## What was made -/

theorem status_eq_ok_iff_of_find (hfind : t.find path = .ok p) :
    t.status path = .ok e ↔ t.at? p = some e := by
  rw [status, hfind]
  simp only
  cases t.at? p <;> simp

/-- Something stands where a path leads. -/
theorem exists_find_of_status (h : t.status path = .ok e) :
    ∃ p, t.find path = .ok p ∧ t.at? p = some e := by
  obtain ⟨hr, p, hw, hp⟩ := status_eq_ok_iff.mp h
  exact ⟨p, find_eq_ok_iff.mpr ⟨hr, hw⟩, hp⟩

theorem isDirectory?_eq_ok_true_iff :
    t.isDirectory? path = .ok true ↔ t.status path = .ok .directory := by
  rw [isDirectory?]
  cases t.status path with
  | error fault => cases ha : absent fault <;> simp [ha]
  | ok e => cases e <;> simp

theorem status_makeDirectory (h : t.makeDirectory path = .ok t') :
    t'.status path = .ok .directory := by
  obtain ⟨p, last, ha, hnone, rfl⟩ := makeDirectory_eq_ok_iff.mp h
  exact ha.status_put (ne_directory_of_none hnone) .directory

theorem status_of_faultUnlessDirectory {fault : Fault}
    (h : t.faultUnlessDirectory path fault = none) : t.status path = .ok .directory := by
  rw [faultUnlessDirectory] at h
  split_ifs at h
  rw [← isDirectory?_eq_ok_true_iff]
  split at h
  · assumption
  · cases h
  · cases h

/-- Where directories could be made a directory stands. -/
theorem status_makeDirectoriesTo {p : Path} {depth : Nat}
    (h : t.makeDirectoriesTo p depth = (t', none)) : t'.status p.text = .ok .directory := by
  cases depth with
  | zero => cases h
  | succ depth =>
    rw [makeDirectoriesTo] at h
    split at h
    · next hmade =>
      cases h
      exact status_makeDirectory hmade
    · split at h
      · cases h
      · split at h
        · cases h
        · split at h
          · next hmade =>
            cases h
            exact status_makeDirectory hmade
          · cases h
          · obtain ⟨rfl, hnone⟩ := Prod.mk.inj h
            exact status_of_faultUnlessDirectory hnone
    · obtain ⟨rfl, hnone⟩ := Prod.mk.inj h
      exact status_of_faultUnlessDirectory hnone

theorem status_makeDirectories {p : Path} (h : t.makeDirectories p = (t', none)) :
    t'.status p.text = .ok .directory :=
  status_makeDirectoriesTo h

/-! ## What is there already -/

/-- The path of something is no place for anything new. -/
theorem makeDirectory_of_status (h : t.status path = .ok e) :
    t.makeDirectory path = .error .alreadyExists := by
  obtain ⟨hr, q, hw, hq⟩ := status_eq_ok_iff.mp h
  obtain ⟨init, last, hway⟩ := (List.eq_nil_or_concat (way path)).resolve_left (way_ne_nil path)
  rw [List.concat_eq_append] at hway
  rw [hway, walk_append] at hw
  cases hp : t.walk (t.start path) init with
  | error fault => simp [hp, Except.bind] at hw
  | ok p =>
    rw [hp] at hw
    obtain ⟨r, hs, hrq⟩ := walk_cons_eq_ok_iff.mp hw
    cases hrq
    obtain ⟨hd, hl⟩ := step_eq_ok_iff.mp hs
    have htarget : t.target path =
        if last = "" ∨ last = "." ∨ last = ".." then .ok (p, none)
        else if maxNameBytes < last.utf8ByteSize then .error .nameTooLong
        else .ok (p, some last) := by
      simp [target, hr, hway, hp, Except.bind, hd]
    rw [makeDirectory, htarget]
    cases hl with
    | stay _ hstay => rw [if_pos (hstay.imp_right .inl)]
    | up => rw [if_pos (.inr (.inr rfl))]
    | down _ ho hshort hi =>
      obtain ⟨f, hf⟩ := Option.isSome_iff_exists.mp hi
      rw [if_neg (not_or.mpr ⟨ho.1, not_or.mpr ho.2⟩), if_neg (Nat.not_lt_of_le hshort)]
      simp only [hf]

theorem makeDirectories_of_status {p : Path} (h : t.status p.text = .ok .directory) :
    t.makeDirectories p = (t, none) := by
  rw [makeDirectories, makeDirectoriesTo, makeDirectory_of_status h]
  simp [faultUnlessDirectory, isDirectory?_eq_ok_true_iff.mpr h]

theorem refuse?_eq_none_iff :
    refuse? path = none ↔
      '\x00' ∉ path.toList ∧ path ≠ "" ∧ path.utf8ByteSize < maxPathBytes := by
  rw [refuse?]
  split_ifs with hnull hempty hlong
  · simp [hnull]
  · simp [hempty]
  · simp [hlong]
  · simp [hnull, hempty, Nat.lt_of_not_le hlong]

/-- A path that goes on leads to a directory. -/
theorem status_of_slash {a b : String} (ha : a ≠ "") (h : t.status (a ++ "/" ++ b) = .ok e) :
    t.status a = .ok .directory := by
  obtain ⟨hr, q, hw, -⟩ := status_eq_ok_iff.mp h
  obtain ⟨hnull, -, hsize⟩ := refuse?_eq_none_iff.mp hr
  have hra : refuse? a = none := by
    refine refuse?_eq_none_iff.mpr ⟨fun hm => hnull ?_, ha, ?_⟩
    · simp [hm]
    · refine Nat.lt_of_le_of_lt ?_ hsize
      simp only [String.utf8ByteSize_append]
      omega
  rw [way_slash, walk_append, String.append_assoc, start_append t ha] at hw
  cases hp : t.walk (t.start a) (way a) with
  | error fault => simp [hp, Except.bind] at hw
  | ok p =>
    obtain ⟨name, rest, hway⟩ := List.exists_cons_of_ne_nil (way_ne_nil b)
    rw [hp, hway] at hw
    obtain ⟨r, hs, -⟩ := walk_cons_eq_ok_iff.mp hw
    exact status_eq_ok_iff.mpr ⟨hra, p, hp, (step_eq_ok_iff.mp hs).1⟩

/-- The path without names is a directory, with a root or without. -/
theorem status_of_names_nil (t : Tree) {p : Path} (hp : p.Rooted) (hn : p.names = []) :
    t.status p.text = .ok .directory :=
  (status_eq_ok_iff_of_find (find_of_names_nil t hp hn)).mpr (at?_start t p.text)

/-- What leads somewhere leads through a directory. -/
theorem status_parent {p : Path} (hp : p.Parsed) (h : t.status p.text = .ok e) :
    t.status p.parent.text = .ok .directory := by
  by_cases hn : p.parent.names = []
  · exact status_of_names_nil t hp.parent.rooted hn
  obtain ⟨last, -, hchild⟩ : ∃ last ∈ p.names, p = p.parent.child last := by
    refine Path.exists_eq_child fun hnil => hn ?_
    rw [Path.parent, hnil]
    rfl
  rw [hchild, Path.text_child hn] at h
  exact status_of_slash hp.parent.text_ne_empty h

/-- Nothing has to be made for what is there. -/
theorem makeDirectories_parent {p : Path} (hp : p.Parsed) (h : t.status p.text = .ok e) :
    t.makeDirectories p.parent = (t, none) :=
  makeDirectories_of_status (status_parent hp h)

/-! ## Directories stay -/

/-- Every directory of the first tree is one of the second, and both have the same working
directory. -/
structure KeepsDirectories (t t' : Tree) : Prop where
  workingDirectory : t'.workingDirectory = t.workingDirectory
  directory : ∀ {p}, t.at? p = some .directory → t'.at? p = some .directory

theorem KeepsDirectories.refl (t : Tree) : KeepsDirectories t t := ⟨rfl, id⟩

theorem KeepsDirectories.trans {t₁ t₂ t₃ : Tree} (h : KeepsDirectories t₁ t₂)
    (h' : KeepsDirectories t₂ t₃) : KeepsDirectories t₁ t₃ where
  workingDirectory := h'.workingDirectory.trans h.workingDirectory
  directory hd := h'.directory (h.directory hd)

theorem Grown.keepsDirectories (h : Grown t t') : KeepsDirectories t t' :=
  ⟨h.workingDirectory, h.at?_eq⟩

theorem keepsDirectories_write {content : ByteArray} (h : t.write path content = .ok t') :
    KeepsDirectories t t' := by
  obtain ⟨p, last, -, hd, rfl⟩ := write_eq_ok_iff.mp h
  exact ⟨rfl, at?_put_of_directory hd _⟩

theorem lookup_filter_ne (hp : p ≠ key) (entries : List (Place × Entry)) :
    (entries.filter (·.1 ≠ key)).lookup p = entries.lookup p := by
  induction entries with
  | nil => rfl
  | cons d rest ih =>
    obtain ⟨q, f⟩ := d
    rw [List.filter_cons, lookup_cons_eq]
    split_ifs with hkeep heq heq
    · rw [lookup_cons_eq, if_pos heq]
    · rw [lookup_cons_eq, if_neg heq, ih]
    · rw [heq] at hp
      exact absurd (by simpa using hkeep) hp
    · exact ih

theorem at?_drop_ne (t : Tree) (hp : p ≠ key) : (t.drop key).at? p = t.at? p := by
  rw [at?, at?, drop, lookup_filter_ne hp]

theorem keepsDirectories_remove (h : t.remove path = .ok t') : KeepsDirectories t t' := by
  obtain ⟨key, content, -, hf, rfl⟩ := remove_eq_ok_iff.mp h
  refine ⟨rfl, fun {p} hd => ?_⟩
  have hp : p ≠ key := by
    rintro rfl
    rw [hf] at hd
    cases hd
  rwa [at?_drop_ne t hp]

/-- A path starts at the same place in both trees. -/
theorem KeepsDirectories.start (hk : KeepsDirectories t t') (path : String) :
    t'.start path = t.start path := by
  rw [Tree.start, Tree.start, hk.workingDirectory]

/-- The way to a directory stays open as long as the directories on it stay. -/
theorem walk_of_keepsDirectories (hk : KeepsDirectories t t') (h : t.walk p names = .ok q)
    (hq : t.at? q = some .directory) : t'.walk p names = .ok q := by
  induction names generalizing p with
  | nil => exact h
  | cons name rest ih =>
    obtain ⟨r, hs, hw⟩ := walk_cons_eq_ok_iff.mp h
    obtain ⟨hd, hl⟩ := step_eq_ok_iff.mp hs
    -- The way goes on from where the step leads, unless it ends there.
    have hr : t.at? r = some .directory := by
      cases rest with
      | nil => cases hw; exact hq
      | cons next rest =>
        obtain ⟨r', hnext, -⟩ := walk_cons_eq_ok_iff.mp hw
        exact (step_eq_ok_iff.mp hnext).1
    refine walk_cons_eq_ok_iff.mpr ⟨r, step_eq_ok_iff.mpr ⟨hk.directory hd, ?_⟩, ih hw⟩
    cases hl with
    | stay name hstay => exact .stay name hstay
    | up => exact .up
    | down name ho hshort _ => exact .down name ho hshort (by rw [hk.directory hr]; rfl)

theorem Aims.keep (hk : KeepsDirectories t t') (h : Aims t path p last) : Aims t' path p last :=
  { h with
    walk := by
      rw [hk.start]
      exact walk_of_keepsDirectories hk h.walk h.directory
    directory := hk.directory h.directory }

/-- The path of a file leads to what stands in its place, as long as the directories stay. -/
theorem find_of_keepsDirectories {content : ByteArray} (hk : KeepsDirectories t t')
    (h : t.find path = .ok key) (hf : t.at? key = some (.file content))
    (hf' : (t'.at? key).isSome) : t'.find path = .ok key := by
  have hstatus : t.status path = .ok (.file content) := (status_eq_ok_iff_of_find h).mpr hf
  obtain ⟨p, last, ha, hat⟩ := exists_aims_of_file hstatus
  obtain rfl : key = p ++ [last] := Except.ok.inj (h.symm.trans (ha.find (by rw [hat]; rfl)))
  exact (ha.keep hk).find hf'

/-! ## Files stay -/

/-- Every directory of the first tree is one of the second, and every file is a file, maybe with
another content. -/
structure KeepsFiles (t t' : Tree) : Prop where
  directories : KeepsDirectories t t'
  file : ∀ {p content}, t.at? p = some (.file content) → ∃ other, t'.at? p = some (.file other)

theorem KeepsFiles.refl (t : Tree) : KeepsFiles t t := ⟨.refl t, fun h => ⟨_, h⟩⟩

theorem KeepsFiles.trans {t₁ t₂ t₃ : Tree} (h : KeepsFiles t₁ t₂) (h' : KeepsFiles t₂ t₃) :
    KeepsFiles t₁ t₃ where
  directories := h.directories.trans h'.directories
  file hf := by
    obtain ⟨other, ho⟩ := h.file hf
    exact h'.file ho

theorem Grown.keepsFiles (h : Grown t t') : KeepsFiles t t' :=
  ⟨h.keepsDirectories, fun hf => ⟨_, h.at?_eq hf⟩⟩

theorem keepsFiles_write {content : ByteArray} (h : t.write path content = .ok t') :
    KeepsFiles t t' where
  directories := keepsDirectories_write h
  file {p other} hf := by
    obtain ⟨key, rfl, hd, -, -⟩ := exists_key_of_write h
    by_cases hp : p = key
    · subst hp
      exact ⟨content, at?_put_self hd _⟩
    · exact ⟨other, (at?_put_ne t hp _).trans hf⟩

theorem keepsFiles_writeDeep {content : ByteArray} (h : t.writeDeep path content = .ok t') :
    KeepsFiles t t' := by
  obtain ⟨t₁, hg, hw⟩ := exists_grown_of_writeDeep h
  exact hg.keepsFiles.trans (keepsFiles_write hw)

/-- A path that leads to a file leads to one as long as the files stay. -/
theorem KeepsFiles.isFile (h : KeepsFiles t t') (hf : t.isFile path = true) :
    t'.isFile path = true := by
  obtain ⟨content, hstatus⟩ := isFile_iff.mp hf
  obtain ⟨p, last, ha, hat⟩ := exists_aims_of_file hstatus
  obtain ⟨other, ho⟩ := h.file hat
  have hfind : t'.find path = .ok (p ++ [last]) :=
    (ha.keep h.directories).find (by rw [ho]; rfl)
  exact isFile_iff.mpr ⟨other, (status_eq_ok_iff_of_find hfind).mpr ho⟩

/-! ## Where a file is missing -/

theorem exists?_eq_ok_false_iff :
    t.exists? path = .ok false ↔ ∃ fault, t.status path = .error fault ∧ absent fault = true := by
  rw [exists?]
  cases t.status path with
  | error fault => cases ha : absent fault <;> simp [ha]
  | ok e => simp

theorem exists?_eq_ok_true_iff : t.exists? path = .ok true ↔ ∃ e, t.status path = .ok e := by
  rw [exists?]
  cases t.status path with
  | error fault => cases ha : absent fault <;> simp [ha]
  | ok e => simp

theorem not_status_of_exists? (h : t.exists? path = .ok false) : t.status path ≠ .ok e := by
  obtain ⟨fault, hs, -⟩ := exists?_eq_ok_false_iff.mp h
  rw [hs]
  exact nofun

/-- The second tree has the files of the first one and one more, to which a path leads. -/
structure Added (t t' : Tree) (path : String) (key : Place) (content : ByteArray) : Prop where
  none : t.at? key = none
  find : t'.find path = .ok key
  at?_eq : t'.at? key = some (.file content)
  others : ∀ p other, p ≠ key →
    (t'.at? p = some (.file other) ↔ t.at? p = some (.file other))
  directories : KeepsDirectories t t'

theorem Added.file {content other : ByteArray} (h : Added t t' path key content)
    (hf : t.at? p = some (.file other)) : t'.at? p = some (.file other) := by
  refine (h.others p other ?_).mpr hf
  rintro rfl
  rw [h.none] at hf
  cases hf

/-- A file that is written where nothing was found is added to the tree. -/
theorem exists_added_of_write {t₁ : Tree} {content : ByteArray} (hg : Grown t t₁)
    (hmiss : t₁.exists? path = .ok false) (hw : t₁.write path content = .ok t') :
    ∃ key, Added t t' path key content := by
  obtain ⟨key, rfl, hd, hfind, hthere⟩ := exists_key_of_write hw
  have hnone : t₁.at? key = none := by
    cases he : t₁.at? key with
    | none => rfl
    | some e =>
      have hfound := hthere (by rw [he]; rfl)
      exact absurd ((status_eq_ok_iff_of_find hfound).mpr he) (not_status_of_exists? hmiss)
  refine ⟨key, ?_, hfind, at?_put_self hd _, fun p other hp => ?_,
    hg.keepsDirectories.trans (keepsDirectories_write hw)⟩
  · cases he : t.at? key with
    | none => rfl
    | some e =>
      rw [hg.at?_eq he] at hnone
      cases hnone
  · rw [at?_put_ne t₁ hp]
    exact ⟨hg.file, hg.at?_eq⟩

/-- A file can be put where nothing is found in a directory, if the path is one that can be used at
all. -/
theorem aims_child {d : Path} (hdir : d.Rooted)
    (hlast : last ≠ "" ∧ last ≠ "." ∧ '/' ∉ last.toList)
    (hnull : '\x00' ∉ (d.child last).text.toList) (hne : (d.child last).text ≠ "")
    (hfind : t.find d.text = .ok p) (hd : t.at? p = some .directory)
    (hmiss : t.exists? (d.child last).text = .ok false) :
    Aims t (d.child last).text p last ∧ t.at? (p ++ [last]) = none := by
  obtain ⟨fault, hstatus, habsent⟩ := exists?_eq_ok_false_iff.mp hmiss
  obtain ⟨names, hway, hwalk⟩ := exists_way_child hdir hlast.2.2 hfind
  have hr : refuse? (d.child last).text = none := by
    refine refuse?_eq_none_iff.mpr ⟨hnull, hne, Nat.lt_of_not_le fun hlong => ?_⟩
    have hfault : fault = .nameTooLong := by
      simpa [status, find, refuse?, hnull, hne, hlong, eq_comm] using hstatus
    rw [hfault] at habsent
    cases habsent
  have hstep : t.find (d.child last).text = t.step p last := by
    rw [find, hr]
    simp only [hway, walk_append, hwalk, Except.bind, walk]
    cases t.step p last <;> rfl
  -- The step from the directory finds nothing, and not because of the length of the name.
  have hnothing : ∀ q e, t.step p last = .ok q → t.at? q ≠ some e := by
    intro q e hq he
    rw [status, hstep, hq] at hstatus
    simp [he] at hstatus
  have hlength : t.step p last ≠ .error .nameTooLong := by
    intro hlong
    rw [status, hstep, hlong] at hstatus
    cases hstatus
    cases habsent
  have hgrounded : Grounded t p :=
    grounded_walk (grounded_start t d.text) (find_eq_ok_iff.mp hfind).2
  have hup : last ≠ ".." := by
    rintro rfl
    exact hnothing _ .directory (step_eq_ok_iff.mpr ⟨hd, .up⟩) hgrounded.dropLast
  have ho : Ordinary last := ⟨hlast.1, hlast.2.1, hup⟩
  have hshort : last.utf8ByteSize ≤ maxNameBytes := by
    refine Nat.le_of_not_lt fun hlong => hlength ?_
    simp [step, hd, ho.1, ho.2.1, ho.2.2, hlong]
  refine ⟨⟨hr, ?_, ?_, hd, ho, hshort⟩, ?_⟩
  · rw [hway, List.getLast?_append]
    rfl
  · rw [hway, List.dropLast_concat]
    exact hwalk
  · cases he : t.at? (p ++ [last]) with
    | none => rfl
    | some e =>
      have hsome : (t.at? (p ++ [last])).isSome := by rw [he]; rfl
      exact absurd he (hnothing _ e (step_eq_ok_iff.mpr ⟨hd, .down last ho hshort hsome⟩))

end Tree

end QuickLaunch
