import Mathlib.Data.List.Nodup
import Mathlib.Data.List.Perm.Subperm
import QuickLaunch.Files.Pattern
import QuickLaunch.Proofs.Files.Writes
import QuickLaunch.Proofs.Results
import QuickLaunch.Proofs.Text.Pieces

/-!
# The directories below a directory

What is listed in a directory lies one name below it, so that a path which goes on from listing to
listing gets longer at each step. A tree is no deeper than the number of things that stand in it:
the directories below a directory, which are searched for to that depth, are all found.

* `find_child`: where the path of something listed leads;
* `proper_write`, `proper_makeDirectory`, `proper_remove`: all trees that come of an empty one have
  proper names;
* `length_le_of_find`: no directory lies deeper than the number of things that stand;
* `Pattern.mem_directoriesBelow_iff`: the directories that listing after listing leads to.
-/

namespace QuickLaunch

/-! ## Children -/

namespace Path

/-- The path has one of the roots that paths are read with. -/
def Rooted (p : Path) : Prop :=
  ∃ slashes, p.root = rootOf slashes

theorem rooted_parse (s : String) : (parse s).Rooted :=
  ⟨_, rfl⟩

theorem Rooted.of_root_eq {p q : Path} (hp : p.Rooted) (h : q.root = p.root) : q.Rooted := by
  rw [Rooted, h]
  exact hp

theorem Rooted.append {p : Path} (hp : p.Rooted) (names : List String) : (p.append names).Rooted :=
  hp

theorem Rooted.child {p : Path} (hp : p.Rooted) (name : String) : (p.child name).Rooted :=
  hp

theorem rooted_expandHome {home : Option String} {p q : Path} (hp : p.Rooted)
    (h : p.expandHome home = .ok q) : q.Rooted := by
  rw [expandHome] at h
  by_cases hr : p.root ≠ ""
  · rw [if_pos hr] at h
    cases h
    exact hp
  rw [if_neg hr] at h
  rcases hn : p.names with _ | ⟨first, rest⟩
  · simp only [hn] at h
    cases h
    exact hp
  simp only [hn] at h
  split at h
  · cases h
    exact hp
  split at h
  · cases h
  split at h
  · cases h
  split at h
  · cases h
  · rw [← Except.ok.inj h]
    exact (rooted_parse _).append rest

theorem Rooted.cases {p : Path} (hp : p.Rooted) : p.root = "" ∨ p.root = "/" ∨ p.root = "//" := by
  obtain ⟨slashes, h⟩ := hp
  rw [h, rootOf]
  split_ifs
  · exact .inl rfl
  · exact .inr (.inr rfl)
  · exact .inr (.inl rfl)

theorem text_of_names_nil {p : Path} (hn : p.names = []) :
    p.text = if p.root = "" then "." else p.root := by
  rw [text, hn]
  simp

theorem text_child_of_nil {p : Path} (hn : p.names = []) (name : String) :
    (p.child name).text = p.root ++ name := by
  simp [text, child, hn]

theorem text_child {p : Path} (hn : p.names ≠ []) (name : String) :
    (p.child name).text = p.text ++ "/" ++ name := by
  have hchild : (p.child name).names ≠ [] := List.concat_ne_nil name p.names
  rw [text, text, if_neg fun h => hchild h.2, if_neg fun h => hn h.2]
  simp only [child]
  rw [String.intercalate_append_of_ne_nil hn (List.cons_ne_nil name []),
    String.intercalate_singleton, String.append_assoc, String.append_assoc, String.append_assoc]

/-- The text of a path ends in its last name. -/
theorem suffix_text_child (p : Path) (name : String) :
    name.toList <:+ (p.child name).text.toList := by
  by_cases hn : p.names = []
  · rw [text_child_of_nil hn, String.toList_append]
    exact List.suffix_append _ _
  · rw [text_child hn, String.toList_append]
    exact List.suffix_append _ _

end Path

namespace Tree

variable {t : Tree} {p q : Place} {path name : String} {names : List String} {e : Entry}

/-- All names that something stands at are names that a path can have between its slashes. -/
def Proper (t : Tree) : Prop :=
  ∀ e ∈ t.standing, ∀ name ∈ e.1, Ordinary name ∧ '/' ∉ name.toList

instance (t : Tree) : Decidable t.Proper :=
  inferInstanceAs (Decidable (∀ e ∈ t.standing, ∀ name ∈ e.1, Ordinary name ∧ '/' ∉ name.toList))

theorem find_eq_ok_iff :
    t.find path = .ok q ↔ refuse? path = none ∧ t.walk (t.start path) (way path) = .ok q := by
  rw [find]
  cases refuse? path <;> simp

theorem start_of_slash (t : Tree) (h : path.toList.head? = some '/') : t.start path = [] := by
  obtain ⟨rest, hrest⟩ := List.head?_eq_some_iff.mp h
  simp only [start, hrest]

theorem start_of_head? (t : Tree) (h : path.toList.head? ≠ some '/') :
    t.start path = t.workingDirectory := by
  unfold start
  split
  · next rest hrest => exact absurd (by rw [hrest]; rfl) h
  · rfl

/-- A path starts where another one does that begins with it. -/
theorem start_append (t : Tree) {a : String} (ha : a ≠ "") (b : String) :
    t.start (a ++ b) = t.start a := by
  have hne : a.toList ≠ [] := fun h => ha (String.toList_inj.mp h)
  have hhead : (a ++ b).toList.head? = a.toList.head? := by
    rw [String.toList_append, List.head?_append_of_ne_nil _ hne]
  by_cases hslash : a.toList.head? = some '/'
  · rw [start_of_slash t (hhead.trans hslash), start_of_slash t hslash]
  · rw [start_of_head? t (hhead ▸ hslash), start_of_head? t hslash]

/-- The way along a path with a slash in it is that before the slash and then that behind it. -/
theorem way_slash (a b : String) : way (a ++ "/" ++ b) = way a ++ way b := by
  have hlist : (a ++ "/" ++ b).toList = a.toList ++ '/' :: b.toList := by
    rw [String.toList_append, String.toList_append, List.append_assoc]
    rfl
  rw [way, hlist, Text.splitOn_append_cons, List.map_append, way, way]

theorem way_of_ordinary (hs : '/' ∉ name.toList) : way name = [name] := by
  have hi : ¬ ['/'] <:+: name.toList := fun h => hs (h.subset List.mem_cons_self)
  rw [way, Text.splitOn_of_not_infix (List.cons_ne_nil _ _) hi, List.map_singleton,
    String.ofList_toList]

/-- A name that is longer than a file system takes is an ordinary one. -/
theorem ordinary_of_long (hlong : maxNameBytes < name.utf8ByteSize) : Ordinary name := by
  refine ⟨?_, ?_, ?_⟩ <;> exact fun h => absurd (h ▸ hlong) (by decide)

theorem status_of_long (t : Tree) (hs : '/' ∉ name.toList) (hnull : '\x00' ∉ name.toList)
    (hlong : maxNameBytes < name.utf8ByteSize) : t.status name = .error .nameTooLong := by
  have ho : Ordinary name := ordinary_of_long hlong
  have hstep : t.step (t.start name) name = .error .nameTooLong := by
    simp [step, at?_start, ho.1, ho.2.1, ho.2.2, hlong]
  have hfind : t.find name = .error .nameTooLong := by
    by_cases hsize : maxPathBytes ≤ name.utf8ByteSize
    · simp [find, refuse?, hnull, ho.1, hsize]
    · rw [find, way_of_ordinary hs]
      simp [refuse?, hnull, ho.1, hsize, walk, hstep, Except.bind]
  rw [status, hfind]

/-- A name that no file system would look up is not just missing. -/
theorem exists?_of_long (t : Tree) (hs : '/' ∉ name.toList) (hnull : '\x00' ∉ name.toList)
    (hlong : maxNameBytes < name.utf8ByteSize) : t.exists? name = .error .nameTooLong := by
  simp [exists?, status_of_long t hs hnull hlong, absent]

theorem isDirectory?_of_long (t : Tree) (hs : '/' ∉ name.toList) (hnull : '\x00' ∉ name.toList)
    (hlong : maxNameBytes < name.utf8ByteSize) : t.isDirectory? name = .error .nameTooLong := by
  simp [isDirectory?, status_of_long t hs hnull hlong, absent]

/-- An ordinary name leads one level down. -/
theorem Leads.eq_of_ordinary (ho : Ordinary name) (h : t.Leads p name q) : q = p ++ [name] := by
  cases h with
  | stay _ hstay => exact hstay.elim (absurd · ho.1) (absurd · ho.2.1)
  | up => exact absurd rfl ho.2.2
  | down => rfl

/-- Empty names and dots lead nowhere else. -/
theorem walk_of_stay (hp : t.at? p = some .directory)
    (hn : ∀ name ∈ names, name = "" ∨ name = ".") : t.walk p names = .ok p := by
  induction names with
  | nil => rfl
  | cons name rest ih =>
    have hstep : t.step p name = .ok p :=
      step_eq_ok_iff.mpr ⟨hp, .stay name (hn name List.mem_cons_self)⟩
    exact walk_cons_eq_ok_iff.mpr
      ⟨p, hstep, ih fun other ho => hn other (List.mem_cons_of_mem name ho)⟩

/-- A path without names leads to where it starts. -/
theorem find_of_names_nil (t : Tree) {d : Path} (hd : d.Rooted) (hn : d.names = []) :
    t.find d.text = .ok (t.start d.text) := by
  have htext : d.text = "." ∨ d.text = "/" ∨ d.text = "//" := by
    rw [Path.text_of_names_nil hn]
    rcases hd.cases with hr | hr | hr <;> simp [hr]
  have hallowed : refuse? d.text = none := by
    rcases htext with h | h | h <;> rw [h] <;> rfl
  have hstay : ∀ name ∈ way d.text, name = "" ∨ name = "." := by
    rcases htext with h | h | h <;> rw [h] <;> decide
  exact find_eq_ok_iff.mpr ⟨hallowed, walk_of_stay (at?_start t d.text) hstay⟩

/-- The way along the path of a child goes on from the directory by one name. A relative path
without names is a dot, which the path of its child does not begin with. -/
theorem exists_way_child {d : Path} (hd : d.Rooted) (hs : '/' ∉ name.toList)
    (h : t.find d.text = .ok p) :
    ∃ names, way (d.child name).text = names ++ [name]
      ∧ t.walk (t.start (d.child name).text) names = .ok p := by
  have hname := way_of_ordinary hs
  by_cases hn : d.names = []
  · obtain rfl : t.start d.text = p := Except.ok.inj ((find_of_names_nil t hd hn).symm.trans h)
    have hstart : t.start (d.root ++ name) = t.start d.text := by
      rw [Path.text_of_names_nil hn]
      split_ifs with hr
      · have hhead : name.toList.head? ≠ some '/' := fun hh => hs (List.mem_of_head? hh)
        rw [hr, String.empty_append, start_of_head? t hhead]
        rfl
      · exact start_append t hr name
    obtain ⟨names, hway, hempty⟩ :
        ∃ names, way (d.root ++ name) = names ++ [name] ∧ ∀ other ∈ names, other = "" := by
      rcases hd.cases with hr | hr | hr
      · exact ⟨[], by rw [hr, String.empty_append, hname, List.nil_append], nofun⟩
      · have hslash : "/" ++ name = "" ++ "/" ++ name := by rw [String.empty_append]
        exact ⟨way "", by rw [hr, hslash, way_slash, hname], by decide⟩
      · have hslash : "//" ++ name = "/" ++ "/" ++ name := rfl
        exact ⟨way "/", by rw [hr, hslash, way_slash, hname], by decide⟩
    rw [Path.text_child_of_nil hn, hstart]
    exact ⟨names, hway, walk_of_stay (at?_start t d.text) fun other ho => .inl (hempty other ho)⟩
  · obtain ⟨hallowed, hwalk⟩ := find_eq_ok_iff.mp h
    have hne : d.text ≠ "" := by
      intro he
      rw [he] at hallowed
      cases hallowed
    refine ⟨way d.text, ?_, ?_⟩
    · rw [Path.text_child hn, way_slash, hname]
    · rwa [Path.text_child hn, String.append_assoc, start_append t hne]

/-- The path of a child leads to the child, if it leads anywhere. -/
theorem find_child {d : Path} (hd : d.Rooted) (ho : Ordinary name) (hs : '/' ∉ name.toList)
    (h : t.find d.text = .ok p) (hc : t.find (d.child name).text = .ok q) : q = p ++ [name] := by
  obtain ⟨names, hway, hwalk⟩ := exists_way_child hd hs h
  have hw := (find_eq_ok_iff.mp hc).2
  rw [hway, walk_append, hwalk] at hw
  obtain ⟨r, hstep, hrq⟩ := walk_cons_eq_ok_iff.mp hw
  rw [← Except.ok.inj hrq]
  exact (step_eq_ok_iff.mp hstep).2.eq_of_ordinary ho

/-! ## Depth -/

/-- Whatever stands somewhere below the root is one of the things that stand. -/
theorem mem_standing_of_at? (hp : p ≠ []) (h : t.at? p = some e) : (p, e) ∈ t.standing := by
  rw [at?] at h
  split_ifs at h with hprefix
  · obtain rfl := Option.some.inj h
    refine List.mem_append_left _ (List.mem_map.mpr ⟨p.length - 1, ?_, ?_⟩)
    · have hpos := List.length_pos_iff.mpr hp
      have hle := hprefix.length_le
      rw [List.mem_range]
      omega
    · have hpos := List.length_pos_iff.mpr hp
      rw [Nat.sub_add_cancel hpos, ← List.prefix_iff_eq_take.mp hprefix]
  · obtain ⟨before, behind, heq, -⟩ := List.lookup_eq_some_iff.mp h
    refine List.mem_append_right _ ?_
    rw [heq]
    exact List.mem_append_right before List.mem_cons_self

/-- No directory lies deeper than there are things that stand: each directory on the way is one. -/
theorem length_le_of_find (h : t.find path = .ok p) (hd : t.at? p = some .directory) :
    p.length ≤ t.standing.length := by
  have hg : Grounded t p := grounded_walk (grounded_start t path) (find_eq_ok_iff.mp h).2
  let above : List Place := (List.range p.length).map fun k => p.take (k + 1)
  have hnodup : above.Nodup := by
    refine List.Nodup.map_on ?_ List.nodup_range
    intro j hj k hk hjk
    have hlen := congrArg List.length hjk
    rw [List.mem_range] at hj hk
    rw [List.length_take, List.length_take] at hlen
    omega
  have hsub : above ⊆ t.standing.map Prod.fst := by
    intro key hkey
    obtain ⟨k, hk, rfl⟩ := List.mem_map.mp hkey
    rw [List.mem_range] at hk
    have hdir : t.at? (p.take (k + 1)) = some .directory := by
      by_cases heq : p.take (k + 1) = p
      · rw [heq]
        exact hd
      · exact hg _ (List.take_prefix _ _) heq
    have hne : p.take (k + 1) ≠ [] := by
      rw [← List.length_pos_iff, List.length_take]
      omega
    exact List.mem_map_of_mem (f := Prod.fst) (mem_standing_of_at? hne hdir)
  have hle := (List.subperm_of_subset hnodup hsub).length_le
  simpa [above] using hle

/-! ## Listings -/

theorem list_eq_ok_iff {children : List (String × Entry)} :
    t.list path = .ok children ↔
      ∃ p, t.find path = .ok p ∧ t.at? p = some .directory ∧ children = t.children p := by
  rw [list]
  cases t.find path with
  | error fault => simp
  | ok p =>
    cases hp : t.at? p with
    | none => simp [hp]
    | some e => cases e <;> simp [hp, eq_comm]

theorem mem_children_iff : (name, e) ∈ t.children p ↔ (p ++ [name], e) ∈ t.standing := by
  simp only [children, List.mem_filterMap]
  constructor
  · rintro ⟨⟨names, f⟩, hmem, h⟩
    simp only at h
    cases hl : names.getLast? with
    | none => simp [hl] at h
    | some last =>
      simp only [hl] at h
      split_ifs at h with hdrop
      obtain ⟨rfl, rfl⟩ := Prod.mk.inj (Option.some.inj h)
      rw [← hdrop, List.dropLast_append_getLast? _ hl]
      exact hmem
  · intro hmem
    exact ⟨_, hmem, by simp⟩

/-- What is listed has an ordinary name. -/
theorem Proper.of_mem_children (ht : t.Proper) (h : (name, e) ∈ t.children p) :
    Ordinary name ∧ '/' ∉ name.toList :=
  ht _ (mem_children_iff.mp h) name (by simp)

/-! ## Proper trees stay proper -/

theorem not_mem_of_mem_way (h : name ∈ way path) : '/' ∉ name.toList := by
  obtain ⟨piece, hpiece, rfl⟩ := List.mem_map.mp h
  intro hm
  rw [String.toList_ofList] at hm
  obtain ⟨before, behind, rfl⟩ := List.append_of_mem hm
  refine Text.not_infix_of_mem_splitOn (List.cons_ne_nil _ _) hpiece ⟨before, behind, ?_⟩
  rw [List.append_assoc, List.singleton_append]

theorem mem_of_mem_putEntry {key : List String} {d : List String × Entry}
    {entries : List (List String × Entry)} (h : d ∈ putEntry key e entries) :
    d = (key, e) ∨ d ∈ entries := by
  induction entries with
  | nil => exact .inl (List.mem_singleton.mp h)
  | cons first rest ih =>
    rw [putEntry] at h
    split_ifs at h
    · exact (List.mem_cons.mp h).imp_right (List.mem_cons_of_mem first)
    · rcases List.mem_cons.mp h with rfl | h
      · exact .inr List.mem_cons_self
      · exact (ih h).imp_right (List.mem_cons_of_mem first)

/-- With other entries there stands what stood before, or one of them. -/
theorem mem_standing_of_entries {entries : List (Place × Entry)} {d : Place × Entry}
    (hd : d ∈ ({ t with entries := entries } : Tree).standing) : d ∈ t.standing ∨ d ∈ entries :=
  (List.mem_append.mp hd).imp_left (List.mem_append_left _)

/-- What is put where a path aims has a proper name. -/
theorem Proper.put (ht : t.Proper) {last : String} (ha : Aims t path p last) (e : Entry) :
    (t.put (p ++ [last]) e).Proper := by
  intro d hd name hname
  rcases mem_standing_of_entries hd with hd | hd
  · exact ht d hd name hname
  rcases mem_of_mem_putEntry hd with rfl | hd
  · rcases List.mem_append.mp hname with hname | hname
    · exact ht _ (mem_standing_of_at? (List.ne_nil_of_mem hname) ha.directory) name hname
    · rw [List.mem_singleton.mp hname]
      exact ⟨ha.ordinary, not_mem_of_mem_way (List.mem_of_getLast? ha.last_eq)⟩
  · exact ht d (List.mem_append_right _ hd) name hname

theorem proper_write {t' : Tree} {content : ByteArray} (ht : t.Proper)
    (h : t.write path content = .ok t') : t'.Proper := by
  obtain ⟨p, last, ha, -, rfl⟩ := write_eq_ok_iff.mp h
  exact ht.put ha _

theorem proper_makeDirectory {t' : Tree} (ht : t.Proper) (h : t.makeDirectory path = .ok t') :
    t'.Proper := by
  obtain ⟨p, last, ha, -, rfl⟩ := makeDirectory_eq_ok_iff.mp h
  exact ht.put ha _

theorem proper_remove {t' : Tree} (ht : t.Proper) (h : t.remove path = .ok t') : t'.Proper := by
  obtain ⟨p, content, -, -, rfl⟩ := remove_eq_ok_iff.mp h
  intro d hd
  rcases mem_standing_of_entries hd with hd | hd
  · exact ht d hd
  · exact ht d (List.mem_append_right _ (List.mem_of_mem_filter hd))

end Tree

/-! ## Directories below a directory -/

namespace Pattern

open QuickLaunch.Tree

variable {t : Tree} {p q : Path}

/-- Listing after listing leads from a directory to another one. -/
inductive Below (t : Tree) : Path → Path → Prop where
  | self (p : Path) : Below t p p
  | child {p q : Path} {name : String} {children : List (String × Entry)} :
      t.list p.text = .ok children → (name, .directory) ∈ children → Below t (p.child name) q →
      Below t p q

theorem Below.root_eq (h : Below t p q) : q.root = p.root := by
  induction h with
  | self p => rfl
  | child _ _ _ ih => exact ih

theorem directoriesBelow_succ_eq_ok_iff {depth : Nat} {found : List Path} :
    directoriesBelow t (depth + 1) p = .ok found ↔
      ∃ children, t.list p.text = .ok children
        ∧ ∃ below, (children.filter (·.2.isDirectory)).mapM
            (fun c => directoriesBelow t depth (p.child c.1)) = .ok below
          ∧ found = p :: below.flatten := by
  simp only [directoriesBelow, bind_eq_ok_iff, pure_eq_ok_iff]

theorem below_of_mem_directoriesBelow {depth : Nat} {found : List Path}
    (h : directoriesBelow t depth p = .ok found) (hq : q ∈ found) : Below t p q := by
  induction depth generalizing p found with
  | zero =>
    cases h
    rw [List.mem_singleton.mp hq]
    exact .self p
  | succ depth ih =>
    obtain ⟨children, hlist, below, hbelow, rfl⟩ := directoriesBelow_succ_eq_ok_iff.mp h
    rcases List.mem_cons.mp hq with rfl | hq
    · exact .self q
    · obtain ⟨⟨name, e⟩, hc, found, hfound, hq⟩ := (mem_flatten_of_mapM hbelow).mp hq
      obtain ⟨hmem, he⟩ := List.mem_filter.mp hc
      cases e with
      | file content => cases he
      | directory => exact .child hlist hmem (ih hfound hq)

/-- A search that goes deeper than the tree misses nothing. Each step goes one name down, so that
what is left of the depth and the names so far stay more than the things that stand. -/
theorem mem_directoriesBelow_of_below (ht : t.Proper) (hb : Below t p q) (hp : p.Rooted)
    {depth : Nat} (hdepth : ∀ place, t.find p.text = .ok place →
      t.standing.length < depth + place.length)
    {found : List Path} (h : directoriesBelow t depth p = .ok found) : q ∈ found := by
  induction hb generalizing depth found with
  | self p =>
    cases depth with
    | zero =>
      cases h
      exact List.mem_singleton_self p
    | succ depth =>
      obtain ⟨_, -, _, -, rfl⟩ := directoriesBelow_succ_eq_ok_iff.mp h
      exact List.mem_cons_self
  | @child p q name children hlist hmem hb ih =>
    obtain ⟨place, hfind, hdir, rfl⟩ := list_eq_ok_iff.mp hlist
    obtain ⟨ho, hs⟩ := ht.of_mem_children hmem
    have hbound := hdepth place hfind
    cases depth with
    | zero =>
      have hle := length_le_of_find hfind hdir
      omega
    | succ depth =>
      obtain ⟨children, hlist', below, hbelow, rfl⟩ := directoriesBelow_succ_eq_ok_iff.mp h
      obtain rfl := Except.ok.inj (hlist.symm.trans hlist')
      have hc : (name, Entry.directory) ∈ (t.children place).filter (·.2.isDirectory) :=
        List.mem_filter.mpr ⟨hmem, rfl⟩
      obtain ⟨found, hfound⟩ := exists_mapM_iff.mp ⟨below, hbelow⟩ _ hc
      refine List.mem_cons_of_mem _ ((mem_flatten_of_mapM hbelow).mpr ⟨_, hc, found, hfound, ?_⟩)
      refine ih (hp.child name) (fun place' hfind' => ?_) hfound
      cases find_child hp ho hs hfind hfind'
      rw [List.length_append, List.length_singleton]
      omega

theorem mem_directoriesBelow_iff (ht : t.Proper) (hp : p.Rooted) {found : List Path}
    (h : directoriesBelow t (depthBound t) p = .ok found) : q ∈ found ↔ Below t p q :=
  ⟨below_of_mem_directoriesBelow h, fun hb =>
    mem_directoriesBelow_of_below ht hb hp (fun _ _ => by rw [depthBound]; omega) h⟩

end Pattern

end QuickLaunch
