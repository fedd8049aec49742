import QuickLaunch.Catalog.Kept
import QuickLaunch.Proofs.Files.Order
import QuickLaunch.Proofs.Files.Patterns

/-!
# What an index holds

An index that can be built holds, for each of its directories in turn, the files that one of its
patterns names there, each once and in the order of paths. It can be built unless something has to
be looked up on the way and cannot be.

* `Index.Lists`: the shortcuts below a directory;
* `Index.exists_build_iff`: when an index can be built;
* `Index.build_eq`: what it then holds;
* `Index.fst_runOn_build_congr`: neither the order nor repetitions of its patterns matter.
-/

namespace QuickLaunch

namespace Index

variable {t : Tree} {patterns : List Value} {d p : Path} {v : Value} {paths : List Path}

/-! ## The shortcuts below a directory -/

/-- A pattern, as settings give it, names a path below a directory. -/
def Names (t : Tree) (directory : Path) (pattern : Value) (path : Path) : Prop :=
  ∃ text, patternText pattern = .ok text ∧ Pattern.Names t text directory path

/-- The shortcuts below a directory: the files that one of the patterns names, in order. -/
structure Lists (t : Tree) (patterns : List Value) (directory : Path) (paths : List Path) :
    Prop where
  mem_iff : ∀ path, path ∈ paths ↔
    t.isFile path.text = true ∧ ∃ v ∈ patterns, Names t directory v path
  nodup : paths.Nodup
  increasing : paths.Pairwise Path.Before

/-- Only which patterns there are matters, and not how often or in which order. -/
theorem Lists.congr {patterns' : List Value} (hv : ∀ v, v ∈ patterns' ↔ v ∈ patterns)
    (h : Lists t patterns' d paths) : Lists t patterns d paths where
  mem_iff path := by simpa only [hv] using h.mem_iff path
  nodup := h.nodup
  increasing := h.increasing

theorem Lists.unique {paths' : List Path} (h : Lists t patterns d paths)
    (h' : Lists t patterns d paths') : paths = paths' :=
  Path.eq_of_mem_iff h.increasing h'.increasing fun path => by rw [h.mem_iff, h'.mem_iff]

/-- The pattern can be followed below the directory, and what it names can be looked up. -/
def Followed (t : Tree) (directory : Path) (pattern : Value) : Prop :=
  ∃ paths, selected t directory pattern = .ok paths
    ∧ ∀ p ∈ paths, ∃ isFile, t.isFile? p.text = .ok isFile

theorem exists_selectedFiles_iff : (∃ files, selectedFiles t d v = .ok files) ↔ Followed t d v := by
  rw [Followed]
  simp only [← Pattern.exists_filesAmong_iff]
  exact exists_bind_iff

/-- What is selected is a file that the pattern names. -/
theorem names_of_mem_selectedFiles (h : selectedFiles t d v = .ok paths) (hp : p ∈ paths) :
    t.isFile p.text = true ∧ Names t d v p := by
  obtain ⟨found, hfound, hfiles⟩ := bind_eq_ok_iff.mp h
  obtain ⟨text, htext, hselect⟩ := bind_eq_ok_iff.mp hfound
  obtain ⟨hmem, hfile⟩ := (Pattern.mem_filesAmong_iff hfiles).mp hp
  exact ⟨hfile, text, htext, Pattern.names_of_mem_select hselect hmem⟩

theorem mem_selectedFiles_iff (ht : t.Proper) (hd : d.Rooted)
    (h : selectedFiles t d v = .ok paths) :
    p ∈ paths ↔ t.isFile p.text = true ∧ Names t d v p := by
  obtain ⟨found, hfound, hfiles⟩ := bind_eq_ok_iff.mp h
  obtain ⟨text, htext, hselect⟩ := bind_eq_ok_iff.mp hfound
  rw [Pattern.mem_filesAmong_iff hfiles, Pattern.mem_select_iff ht hd hselect, and_comm]
  simp [Names, htext]

theorem Names.root_eq (h : Names t d v p) : p.root = d.root := by
  obtain ⟨text, -, names, -, hselects⟩ := h
  exact hselects.root_eq

theorem exists_shortcuts_iff :
    (∃ paths, shortcuts t patterns d = .ok paths) ↔ ∀ v ∈ patterns, Followed t d v := by
  simp only [← exists_selectedFiles_iff, ← exists_mapM_iff]
  simp only [shortcuts, exists_bind_iff, pure_eq_ok_iff, exists_eq, and_true]

/-- The shortcuts below a directory are what its patterns select. -/
theorem mem_shortcuts_iff (h : shortcuts t patterns d = .ok paths) :
    p ∈ paths ↔ ∃ v ∈ patterns, ∃ files, selectedFiles t d v = .ok files ∧ p ∈ files := by
  simp only [shortcuts, bind_eq_ok_iff, pure_eq_ok_iff] at h
  obtain ⟨found, hfound, rfl⟩ := h
  rw [List.mem_mergeSort, Pattern.mem_distinct, mem_flatten_of_mapM hfound]

theorem lists_shortcuts (ht : t.Proper) (hd : d.Rooted) (h : shortcuts t patterns d = .ok paths) :
    Lists t patterns d paths := by
  have hmem : ∀ path, path ∈ paths ↔
      t.isFile path.text = true ∧ ∃ v ∈ patterns, Names t d v path := by
    intro path
    rw [mem_shortcuts_iff h]
    constructor
    · rintro ⟨v, hv, files, hfiles, hpath⟩
      obtain ⟨hfile, hnames⟩ := names_of_mem_selectedFiles hfiles hpath
      exact ⟨hfile, v, hv, hnames⟩
    · rintro ⟨hfile, v, hv, hnames⟩
      obtain ⟨files, hfiles⟩ := exists_selectedFiles_iff.mpr (exists_shortcuts_iff.mp ⟨_, h⟩ v hv)
      exact ⟨v, hv, files, hfiles, (mem_selectedFiles_iff ht hd hfiles).mpr ⟨hfile, hnames⟩⟩
  have hroot : ∀ path ∈ paths, path.root = d.root := by
    intro path hpath
    obtain ⟨-, v, -, hnames⟩ := (hmem path).mp hpath
    exact hnames.root_eq
  simp only [shortcuts, bind_eq_ok_iff, pure_eq_ok_iff] at h
  obtain ⟨found, -, rfl⟩ := h
  have hnodup := Pattern.nodup_distinct found.flatten
  exact {
    mem_iff := hmem
    nodup := (List.mergeSort_perm _ _).nodup_iff.mpr hnodup
    increasing := Path.pairwise_before_mergeSort hnodup fun p hp q hq =>
      (hroot p (List.mem_mergeSort.mpr hp)).trans (hroot q (List.mem_mergeSort.mpr hq)).symm }

/-! ## Directory by directory -/

/-- What a directory contributes: nothing unless it is there. -/
def listing (t : Tree) (patterns : List Value) (directory : Path) : Except Fault (List Path) := do
  let isDirectory ← t.isDirectory? directory.text
  if isDirectory then shortcuts t patterns directory else return []

theorem snd_enumerate (t : Tree) (patterns : List Value) (directories : List Path) :
    (enumerate t patterns directories).2 =
      (directories.mapM (listing t patterns)).map fun found => found.flatten.map application := by
  induction directories with
  | nil => rfl
  | cons d rest ih =>
    rw [enumerate, List.mapM_cons, listing]
    cases t.isDirectory? d.text with
    | error fault => rfl
    | ok isDirectory =>
      cases isDirectory with
      | false =>
        simp only [ih, bind, Except.bind, pure, Except.pure, Bool.false_eq_true, if_false]
        cases rest.mapM (listing t patterns) <;> rfl
      | true =>
        simp only [ih, bind, Except.bind, pure, Except.pure, if_true]
        cases shortcuts t patterns d with
        | error fault => rfl
        | ok paths =>
          cases rest.mapM (listing t patterns) with
          | error fault => rfl
          | ok found => simp [Except.map]

theorem fst_runOn_build (x : Index) (h : Host) :
    (x.build.runOn h).1 =
      (x.directories.mapM (listing h.tree x.patterns)).map fun found =>
        found.flatten.map application := by
  rw [← snd_enumerate]
  simp only [build, Session.runOn_bind, Session.runOn_tree, Session.runOn_note]
  cases (enumerate h.tree x.patterns x.directories).2 <;> simp

/-- Every application of an index opens a file that a pattern names below a directory. -/
theorem exists_of_mem_build {x : Index} {h : Host} {apps : List Application}
    (hb : (x.build.runOn h).1 = .ok apps) {a : Application} (ha : a ∈ apps) :
    ∃ p, a = application p ∧ h.tree.isFile p.text = true
      ∧ ∃ d ∈ x.directories, ∃ v ∈ x.patterns, Names h.tree d v p := by
  rw [fst_runOn_build] at hb
  cases hfound : x.directories.mapM (listing h.tree x.patterns) with
  | error fault => simp [hfound, Except.map] at hb
  | ok found =>
    rw [hfound] at hb
    cases hb
    obtain ⟨p, hp, rfl⟩ := List.mem_map.mp ha
    obtain ⟨d, hd, paths, hlisting, hp⟩ := (mem_flatten_of_mapM hfound).mp hp
    obtain ⟨isDirectory, -, hlisting⟩ := bind_eq_ok_iff.mp hlisting
    cases isDirectory with
    | false =>
      cases hlisting
      cases hp
    | true =>
      obtain ⟨v, hv, files, hfiles, hp⟩ := (mem_shortcuts_iff hlisting).mp hp
      obtain ⟨hfile, hnames⟩ := names_of_mem_selectedFiles hfiles hp
      exact ⟨p, rfl, hfile, d, hd, v, hv, hnames⟩

/-- All that has to be looked up to build an index can be: the directories, and below those that are
there what each pattern names. -/
structure Readable (x : Index) (t : Tree) : Prop where
  directories : ∀ d ∈ x.directories, ∃ isDirectory, t.isDirectory? d.text = .ok isDirectory
  patterns : ∀ d ∈ x.directories, t.isDirectory? d.text = .ok true →
    ∀ v ∈ x.patterns, Followed t d v

theorem exists_listing_iff :
    (∃ paths, listing t patterns d = .ok paths) ↔
      (∃ isDirectory, t.isDirectory? d.text = .ok isDirectory)
        ∧ (t.isDirectory? d.text = .ok true → ∀ v ∈ patterns, Followed t d v) := by
  rw [← exists_shortcuts_iff, listing, exists_bind_iff]
  cases t.isDirectory? d.text with
  | error fault => simp
  | ok isDirectory => cases isDirectory <;> simp [pure_eq_ok_iff]

theorem exists_build_iff {x : Index} {h : Host} :
    (∃ apps, (x.build.runOn h).1 = .ok apps) ↔ x.Readable h.tree := by
  have hmapM : (∃ found, x.directories.mapM (listing h.tree x.patterns) = .ok found) ↔
      x.Readable h.tree := by
    rw [exists_mapM_iff]
    simp only [exists_listing_iff]
    exact ⟨fun h => ⟨fun d hd => (h d hd).1, fun d hd => (h d hd).2⟩,
      fun h d hd => ⟨h.directories d hd, h.patterns d hd⟩⟩
  rw [← hmapM, fst_runOn_build]
  cases x.directories.mapM (listing h.tree x.patterns) <;> simp [Except.map]

/-- An index with a directory that no file system would look up can be built in no tree. -/
theorem not_readable_of_long {x : Index} {t : Tree} {name : String}
    (hd : { names := [name] } ∈ x.directories) (hs : '/' ∉ name.toList)
    (hnull : '\x00' ∉ name.toList) (hlong : Tree.maxNameBytes < name.utf8ByteSize) :
    ¬ x.Readable t := by
  intro hr
  obtain ⟨isDirectory, hdir⟩ := hr.directories _ hd
  have htext : ({ names := [name] } : Path).text = name := by simp [Path.text]
  rw [htext, Tree.isDirectory?_of_long t hs hnull hlong] at hdir
  cases hdir

/-- What a directory contributes to an index: its shortcuts when it is there, and nothing when it is
missing or a file. -/
def Contributes (t : Tree) (patterns : List Value) (directory : Path) (paths : List Path) : Prop :=
  (t.isDirectory? directory.text = .ok true → Lists t patterns directory paths)
    ∧ (t.isDirectory? directory.text = .ok false → paths = [])

theorem contributes_listing (ht : t.Proper) (hd : d.Rooted)
    (h : listing t patterns d = .ok paths) : Contributes t patterns d paths := by
  obtain ⟨isDirectory, hdir, h⟩ := bind_eq_ok_iff.mp h
  cases isDirectory with
  | true => exact ⟨fun _ => lists_shortcuts ht hd h, by simp [hdir]⟩
  | false =>
    cases h
    exact ⟨by simp [hdir], fun _ => rfl⟩

/-- Directories of an index come from texts. -/
theorem rooted_of_ofValues {home : Option String} {directories patterns : Value} {x : Index}
    (h : ofValues home directories patterns = .ok x) : ∀ d ∈ x.directories, d.Rooted := by
  simp only [ofValues, bind_eq_ok_iff, pure_eq_ok_iff] at h
  obtain ⟨values, -, paths, hpaths, -, -, rfl⟩ := h
  intro d hd
  obtain ⟨v, -, hv⟩ := mem_of_mapM hpaths hd
  cases v with
  | text s => exact Path.rooted_expandHome (Path.rooted_parse s) hv
  | _ => cases hv

theorem rooted_of_ofSettings {home : Option String} {settings : Value} {x : Index}
    (hx : ofSettings home settings = .ok x) : ∀ d ∈ x.directories, d.Rooted := by
  obtain ⟨part, -, hx⟩ := bind_eq_ok_iff.mp hx
  obtain ⟨directories, -, hx⟩ := bind_eq_ok_iff.mp hx
  obtain ⟨patterns, -, hx⟩ := bind_eq_ok_iff.mp hx
  exact rooted_of_ofValues hx

/-- An index holds what its directories contribute, one after another. -/
theorem build_eq {x : Index} {h : Host} (ht : h.tree.Proper)
    (hd : ∀ d ∈ x.directories, d.Rooted) (hr : x.Readable h.tree) :
    ∃ listings, List.Forall₂ (Contributes h.tree x.patterns) x.directories listings
      ∧ (x.build.runOn h).1 = .ok (listings.flatten.map application) := by
  obtain ⟨apps, happs⟩ := exists_build_iff.mpr hr
  rw [fst_runOn_build] at happs ⊢
  cases hfound : x.directories.mapM (listing h.tree x.patterns) with
  | error fault => simp [hfound, Except.map] at happs
  | ok found =>
    refine ⟨found, ?_, rfl⟩
    have hall := (List.forall₂_and_left _ _).mpr ⟨hd, forall₂_of_mapM hfound⟩
    exact hall.imp fun d paths h => contributes_listing ht h.1 h.2

theorem Contributes.congr {patterns' : List Value} (hv : ∀ v, v ∈ patterns' ↔ v ∈ patterns)
    (h : Contributes t patterns' d paths) : Contributes t patterns d paths :=
  ⟨fun hdir => (h.1 hdir).congr hv, h.2⟩

/-- What a directory contributes is settled when it can be looked up. -/
theorem rightUnique_contributes (t : Tree) (patterns : List Value) :
    Relator.RightUnique fun d paths =>
      (∃ isDirectory, t.isDirectory? d.text = .ok isDirectory)
        ∧ Contributes t patterns d paths := by
  rintro d paths paths' ⟨⟨isDirectory, hdir⟩, h⟩ ⟨-, h'⟩
  cases isDirectory with
  | true => exact (h.1 hdir).unique (h'.1 hdir)
  | false => rw [h.2 hdir, h'.2 hdir]

/-- Only which patterns there are matters to what an index holds. -/
theorem fst_runOn_build_congr {x y : Index} {h : Host} (ht : h.tree.Proper)
    (hd : ∀ d ∈ x.directories, d.Rooted) (hr : x.Readable h.tree)
    (hdirs : y.directories = x.directories) (hv : ∀ v, v ∈ y.patterns ↔ v ∈ x.patterns) :
    (y.build.runOn h).1 = (x.build.runOn h).1 := by
  have hr' : y.Readable h.tree :=
    { directories := fun d hdir => hr.directories d (hdirs ▸ hdir)
      patterns := fun d hdir there v hmem =>
        hr.patterns d (hdirs ▸ hdir) there v ((hv v).mp hmem) }
  obtain ⟨found, hfound, hx⟩ := build_eq ht hd hr
  obtain ⟨found', hfound', hy⟩ := build_eq ht (hdirs ▸ hd) hr'
  have heq : found' = found := by
    rw [hdirs] at hfound'
    exact List.right_unique_forall₂' (rightUnique_contributes h.tree x.patterns)
      ((List.forall₂_and_left _ _).mpr ⟨hr.directories, hfound'.imp fun _ _ => .congr hv⟩)
      ((List.forall₂_and_left _ _).mpr ⟨hr.directories, hfound⟩)
  rw [hx, hy, heq]

end Index

end QuickLaunch
