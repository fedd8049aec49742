import QuickLaunch.Config.Store
import QuickLaunch.Proofs.Files.Writes
import QuickLaunch.Proofs.Json.RoundTrip

/-!
# A saved configuration is loaded as it was

The document of a configuration has texts, lists and tables only, so that its JSON text is read back
(`Json.read_write`). Reading a configuration from a document undoes making the document, and finds
nothing to tell the log: this is one statement about each kind of entry (`Faithful`), carried over
lists of entries and then over the five sections.

* `faithful_macroGroups`, `faithful_tileGroups`: what holds of the entries holds of groups of them;
* `ofValue_toValue`, `events_toValue`: reading the document of a configuration;
* `load_save`: what a store holds after a configuration was put into it;
* `opening`: all that opening a store can come to;
* `load_after_save`: saving and loading in a session.
-/

namespace QuickLaunch

open Json (Textual)

variable {α : Type} {toValue : α → Value} {ofTable : Table → α} {t : Table} {key : String}

/-! ## Kinds of entries -/

/-- Each entry is written as a textual table, from which it is read again. -/
structure Faithful (toValue : α → Value) (ofTable : Table → α) : Prop where
  textual : ∀ x, Textual (toValue x)
  exists_table : ∀ x, ∃ t, toValue x = .table t ∧ ofTable t = x

theorem textual_of_texts (hk : t.keys.Nodup) (ht : ∀ e ∈ t, ∃ s, e.2 = .text s) :
    Textual (.table t) := by
  refine .table t hk fun e he => ?_
  obtain ⟨s, hs⟩ := ht e he
  rw [hs]
  exact .text s

theorem faithful_pinned : Faithful PinnedConfig.toValue PinnedConfig.ofTable where
  textual p := textual_of_texts (by simp [Table.keys]) (by simp)
  exists_table p := ⟨_, rfl, by simp [PinnedConfig.ofTable, Table.textOf, Table.get?_cons]⟩

theorem faithful_macros : Faithful MacroConfig.toValue MacroConfig.ofTable where
  textual m := textual_of_texts (by simp [Table.keys]) (by simp)
  exists_table m := ⟨_, rfl, by simp [MacroConfig.ofTable, Table.textOf, Table.get?_cons]⟩

theorem faithful_recent : Faithful RecentConfig.toValue RecentConfig.ofTable where
  textual r := textual_of_texts (by simp [Table.keys]) (by simp)
  exists_table r := ⟨_, rfl, by simp [RecentConfig.ofTable, Table.textOf, Table.get?_cons]⟩

theorem faithful_filters : Faithful FilterConfig.toValue FilterConfig.ofTable where
  textual f := textual_of_texts (by simp [Table.keys]) (by simp)
  exists_table f := ⟨_, rfl, by simp [FilterConfig.ofTable, Table.textOf, Table.get?_cons]⟩

theorem faithful_tiles : Faithful TileConfig.toValue TileConfig.ofTable where
  textual u := textual_of_texts (by simp [Table.keys]) (by simp)
  exists_table u := ⟨_, rfl, by simp [TileConfig.ofTable, Table.textOf, Table.get?_cons]⟩

/-! ## Lists of entries -/

theorem Faithful.textual_list (hf : Faithful toValue ofTable) (xs : List α) :
    Textual (.list (xs.map toValue)) := by
  refine .list _ fun v hv => ?_
  obtain ⟨x, -, rfl⟩ := List.mem_map.mp hv
  exact hf.textual x

/-- The tables of a section are those of its entries. -/
theorem Faithful.tablesOf (hf : Faithful toValue ofTable) (xs : List α)
    (h : t.get? key = some (.list (xs.map toValue))) :
    (t.tablesOf key).map ofTable = xs ∧ (t.tablesOf key).map .table = xs.map toValue := by
  rw [Table.tablesOf, Table.itemsOf, h]
  clear h
  induction xs with
  | nil => exact ⟨rfl, rfl⟩
  | cons x xs ih =>
    obtain ⟨u, hu, hx⟩ := hf.exists_table x
    simp only [List.map_cons, hu, List.filterMap_cons, hx]
    exact ⟨congrArg (x :: ·) ih.1, congrArg (Value.table u :: ·) ih.2⟩

/-- A section of entries is not worth a line of the log. -/
theorem Faithful.sectionEvents (hf : Faithful toValue ofTable) (xs : List α)
    (h : t.get? key = some (.list (xs.map toValue))) : t.sectionEvents key = [] := by
  rw [Table.sectionEvents, h]
  simp only [List.filterMap_eq_nil_iff]
  intro v hv
  obtain ⟨x, -, rfl⟩ := List.mem_map.mp hv
  obtain ⟨u, hu, -⟩ := hf.exists_table x
  rw [hu]

/-- A section of groups is not either, when the sections inside are not. -/
theorem Faithful.groupEvents (hf : Faithful toValue ofTable) (xs : List α) {inner : String}
    (h : t.get? key = some (.list (xs.map toValue)))
    (hi : ∀ x u, toValue x = .table u → Table.sectionEvents u inner = []) :
    Config.groupEvents t key inner = [] := by
  rw [Config.groupEvents, hf.sectionEvents xs h, List.nil_append, List.flatMap_eq_nil_iff]
  intro u hu
  have hmem : Value.table u ∈ xs.map toValue := (hf.tablesOf xs h).2 ▸ List.mem_map_of_mem hu
  obtain ⟨x, -, hx⟩ := List.mem_map.mp hmem
  exact hi x u hx

/-! ## Groups -/

theorem textual_group {name field : String} (hfield : "name" ≠ field)
    (hf : Faithful toValue ofTable) (xs : List α) :
    Textual (.table [("name", .text name), (field, .list (xs.map toValue))]) := by
  refine .table _ (by simpa [Table.keys] using hfield) fun e he => ?_
  simp only [List.mem_cons, List.not_mem_nil, or_false] at he
  rcases he with rfl | rfl
  · exact .text name
  · exact hf.textual_list xs

theorem faithful_macroGroups : Faithful MacroGroupConfig.toValue MacroGroupConfig.ofTable where
  textual g := textual_group (by decide) faithful_macros g.actions
  exists_table g := by
    refine ⟨_, rfl, ?_⟩
    rw [MacroGroupConfig.ofTable, (faithful_macros.tablesOf g.actions rfl).1]
    simp [Table.textOf, Table.get?_cons]

theorem faithful_tileGroups : Faithful TileGroupConfig.toValue TileGroupConfig.ofTable where
  textual g := textual_group (by decide) faithful_tiles g.tiles
  exists_table g := by
    refine ⟨_, rfl, ?_⟩
    rw [TileGroupConfig.ofTable, (faithful_tiles.tablesOf g.tiles rfl).1]
    simp [Table.textOf, Table.get?_cons]

/-! ## Configurations -/

namespace Config

theorem textual_toValue (c : Config) : Textual c.toValue := by
  refine .table _ (by simp [Table.keys]) fun e he => ?_
  simp only [List.mem_cons, List.not_mem_nil, or_false] at he
  rcases he with rfl | rfl | rfl | rfl | rfl
  · exact faithful_pinned.textual_list c.pinned
  · exact faithful_macroGroups.textual_list c.macroGroups
  · exact faithful_recent.textual_list c.recent
  · exact faithful_filters.textual_list c.filters
  · exact faithful_tileGroups.textual_list c.tileGroups

/-- A configuration is read from its document. -/
theorem ofValue_toValue (c : Config) : ofValue c.toValue = c := by
  rw [toValue, ofValue, ofTable,
    (faithful_pinned.tablesOf c.pinned rfl).1,
    (faithful_macroGroups.tablesOf c.macroGroups rfl).1,
    (faithful_recent.tablesOf c.recent rfl).1,
    (faithful_filters.tablesOf c.filters rfl).1,
    (faithful_tileGroups.tablesOf c.tileGroups rfl).1]

/-- The log is told nothing of the document of a configuration. -/
theorem events_toValue (c : Config) : events c.toValue = [] := by
  rw [toValue, events,
    faithful_pinned.sectionEvents c.pinned rfl,
    faithful_macroGroups.groupEvents c.macroGroups rfl fun g u hu => by
      cases hu
      exact faithful_macros.sectionEvents g.actions rfl,
    faithful_recent.sectionEvents c.recent rfl,
    faithful_filters.sectionEvents c.filters rfl,
    faithful_tileGroups.groupEvents c.tileGroups rfl fun g u hu => by
      cases hu
      exact faithful_tiles.sectionEvents g.tiles rfl]
  rfl

theorem read_document (c : Config) : Json.read c.document = .ok c.toValue :=
  Json.read_write c.textual_toValue (.indented 2)

/-- The text that keeps a configuration is ASCII, without control characters but line feeds. -/
theorem inDocument_document (c : Config) : ∀ d ∈ c.document.toList, Json.InDocument d :=
  Json.inDocument_write c.textual_toValue (.indented 2)

end Config

namespace Store

variable {s : Store} {c : Config} {tree tree' : Tree} {h h₁ : Host} {p : Path}

/-- What is loaded from a file that keeps a configuration. -/
theorem load_of_status (hf : tree.status s.path.text = .ok (.file c.document.toUTF8)) :
    s.load tree = (c, []) := by
  have hr : '\r' ∉ c.document.toList := fun hmem => by
    rcases c.inDocument_document _ hmem with h | h
    · cases h
    · exact absurd h (by decide)
  have hdoc : s.document tree = .ok c.toValue := by
    rw [document, Tree.readText, Tree.read, hf]
    simp only [Except.bind, decodeText_toUTF8 hr, c.read_document]
  rw [load, hdoc]
  simp only [c.ofValue_toValue, c.events_toValue]

/-- What is loaded from a store into which a configuration was put. -/
theorem load_save (hs : s.save tree c = .ok tree') : s.load tree' = (c, []) :=
  load_of_status (Tree.status_write hs)

/-! ## Sessions -/

theorem runOn_saveConfig (s : Store) (c : Config) (h : Host) :
    (s.saveConfig c).runOn h =
      match s.save h.tree c with
      | .ok t => (.ok (), { h with tree := t })
      | .error fault => (.error fault, h) := by
  simp only [saveConfig, Session.runOn_bind, Session.runOn_tree, Session.runOn_ofExcept]
  cases s.save h.tree c <;> rfl

theorem runOn_loadConfig (s : Store) (h : Host) :
    s.loadConfig.runOn h = (.ok (s.load h.tree).1, h.note (s.load h.tree).2) := by
  simp only [loadConfig, Session.runOn_bind, Session.runOn_tree, Session.runOn_note,
    Session.runOn_pure]

/-- All that opening a store can come to, with the host that it leaves. -/
inductive Opening (p : Path) (h : Host) : Except Fault Store → Host → Prop where
  /-- No home directory is known for the path. -/
  | homeless (fault : Fault) : p.expandHome h.environment.home = .error fault →
      Opening p h (.error fault) h
  /-- The directories on the way cannot all be made. -/
  | blocked (path : Path) (t : Tree) (fault : Fault) :
      p.expandHome h.environment.home = .ok path →
      h.tree.makeDirectories path.parent = (t, some fault) →
      Opening p h (.error fault) { h with tree := t }
  /-- Whether the file is there cannot be told. -/
  | unknown (path : Path) (t : Tree) (fault : Fault) :
      p.expandHome h.environment.home = .ok path →
      h.tree.makeDirectories path.parent = (t, none) → t.exists? path.text = .error fault →
      Opening p h (.error fault) { h with tree := t }
  /-- Something is there. -/
  | found (path : Path) (t : Tree) :
      p.expandHome h.environment.home = .ok path →
      h.tree.makeDirectories path.parent = (t, none) → t.exists? path.text = .ok true →
      Opening p h (.ok { path := path }) { h with tree := t }
  /-- The file is missing and cannot be written. -/
  | unwritten (path : Path) (t : Tree) (fault : Fault) :
      p.expandHome h.environment.home = .ok path →
      h.tree.makeDirectories path.parent = (t, none) → t.exists? path.text = .ok false →
      save { path := path } t {} = .error fault →
      Opening p h (.error fault) { h with tree := t }
  /-- The file was missing and has been written. -/
  | created (path : Path) (t t' : Tree) :
      p.expandHome h.environment.home = .ok path →
      h.tree.makeDirectories path.parent = (t, none) → t.exists? path.text = .ok false →
      save { path := path } t {} = .ok t' →
      Opening p h (.ok { path := path })
        (Host.note { h with tree := t' } [.configurationCreated path.text])

theorem opening {r : Except Fault Store} (ho : (openAt p).runOn h = (r, h₁)) :
    Opening p h r h₁ := by
  suffices Opening p h ((openAt p).runOn h).1 ((openAt p).runOn h).2 by rwa [ho] at this
  clear ho
  simp only [openAt, Session.runOn_bind, Session.runOn_environment, Session.runOn_ofExcept,
    Session.runOn_tree, Session.runOn_setTree]
  cases hp : p.expandHome h.environment.home with
  | error fault => exact .homeless fault hp
  | ok path =>
    simp only
    rcases hm : h.tree.makeDirectories path.parent with ⟨t, _ | fault⟩
    · simp only [Session.runOn_bind, Session.runOn_ofExcept]
      cases he : t.exists? path.text with
      | error fault => exact .unknown path t fault hp hm he
      | ok found =>
        cases found with
        | true => exact .found path t hp hm he
        | false =>
          cases hs : save { path := path } t {} with
          | error fault => exact .unwritten path t fault hp hm he hs
          | ok t' => exact .created path t t' hp hm he hs
    · exact .blocked path t fault hp hm

/-- Something stands at the path of a store that was opened. -/
theorem exists_status_of_openAt (hopen : (openAt p).runOn h = (.ok s, h₁)) :
    ∃ e, h₁.tree.status s.path.text = .ok e := by
  cases opening hopen with
  | found path t _ _ he =>
    cases hst : t.status path.text with
    | ok e => exact ⟨e, rfl⟩
    | error fault =>
      simp only [Tree.exists?, hst] at he
      split at he <;> cases he
  | created path t t' _ _ _ hs => exact ⟨_, Tree.status_write hs⟩

/-- A configuration that could be saved is loaded, without a word to the log. -/
theorem runOn_loadConfig_of_saveConfig (hsave : (s.saveConfig c).runOn h = (.ok (), h₁)) :
    s.loadConfig.runOn h₁ = (.ok c, h₁) := by
  rw [runOn_saveConfig] at hsave
  cases hs : s.save h.tree c with
  | error fault => simp [hs] at hsave
  | ok tree =>
    simp only [hs] at hsave
    cases hsave
    rw [runOn_loadConfig, load_save hs]
    simp [Host.note]

/-- A configuration can be saved where a file is. -/
theorem exists_runOn_saveConfig {content : ByteArray}
    (hf : h.tree.status s.path.text = .ok (.file content)) (c : Config) :
    ∃ tree, (s.saveConfig c).runOn h = (.ok (), { h with tree := tree }) := by
  obtain ⟨tree, hs⟩ := Tree.exists_write_of_file hf c.document.toUTF8
  refine ⟨tree, ?_⟩
  rw [runOn_saveConfig, show s.save h.tree c = .ok tree from hs]

/-- The JSON text of a configuration is ASCII, and decoding it undoes the encoding without a word to
the log. Whenever a configuration could be saved, loading gives the same one, tells the log nothing
and leaves all as it is; and it can be saved in a store that was opened, unless a directory stands
in the place of the file. -/
theorem load_after_save (c : Config) :
    (∀ d ∈ c.document.toList, d = '\n' ∨ 0x20 ≤ d.toNat ∧ d.toNat < 0x7f)
      ∧ Json.read c.document = .ok c.toValue
      ∧ Config.ofValue c.toValue = c
      ∧ Config.events c.toValue = []
      ∧ (∀ (s : Store) (h h' : Host), (s.saveConfig c).runOn h = (.ok (), h') →
          s.loadConfig.runOn h' = (.ok c, h'))
      ∧ (∀ (p : Path) (h h' : Host) (s : Store), (openAt p).runOn h = (.ok s, h') →
          h'.tree.status s.path.text ≠ .ok .directory →
          ∃ h'', (s.saveConfig c).runOn h' = (.ok (), h'')
            ∧ s.loadConfig.runOn h'' = (.ok c, h'') ∧ h''.journal = h'.journal) := by
  refine ⟨c.inDocument_document, c.read_document, c.ofValue_toValue, c.events_toValue,
    fun _ _ _ => runOn_loadConfig_of_saveConfig, ?_⟩
  intro p h h' s hopen hdir
  obtain ⟨e, he⟩ := exists_status_of_openAt hopen
  cases e with
  | directory => exact absurd he hdir
  | file content =>
    obtain ⟨tree, hsave⟩ := exists_runOn_saveConfig he c
    exact ⟨_, hsave, runOn_loadConfig_of_saveConfig hsave, rfl⟩

/-- A title with a quote, a line feed and a character beyond the first plane is kept in a store that
was opened where nothing was. -/
theorem load_after_save_of_fresh :
    ∃ h' h'' : Host, (openAt { names := ["launcher.json"] }).runOn {} =
        (.ok { path := { names := ["launcher.json"] } }, h')
      ∧ (saveConfig { path := { names := ["launcher.json"] } }
          { pinned := [{ title := "\"\n😀" }] }).runOn h' = (.ok (), h'')
      ∧ (loadConfig { path := { names := ["launcher.json"] } }).runOn h'' =
          (.ok { pinned := [{ title := "\"\n😀" }] }, h'') := by
  obtain ⟨h'', hsave, hload, -⟩ := (load_after_save { pinned := [{ title := "\"\n😀" }] }).2.2.2.2.2
    { names := ["launcher.json"] } {} _ _ rfl nofun
  exact ⟨_, h'', rfl, hsave, hload⟩

end Store

end QuickLaunch
