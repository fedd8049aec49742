import QuickLaunch.Proofs.Config.Opened

/-!
# A configuration file is a register

Stores are opened, loaded and saved, some of them at one file, while files are written and removed
by others. A file that keeps a configuration keeps it until a save, a write or a removal reaches
that very file, and until then every store whose path leads to the file loads that configuration.
What is wrong with a file stays with loading it: the configuration is empty then, and one line of
the log says why.

* `at?_run`, `find_run`: a file that is not touched stays, and its path leads to it;
* `damaged_iff`: the files that hold no document;
* `register_run`: what opening, loading and saving do, and what is loaded after a run;
* `openAt_makes_no_file`: missing paths that a store makes no file at.
-/

namespace QuickLaunch.Store

open QuickLaunch.Tree

variable {h h' : Host} {s : Store} {c : Config} {t t' : Tree} {path : String}
  {place key : Place} {content : ByteArray}

/-! ## Runs -/

/-- What happens to the files: a store is opened at a path, loaded or saved, or others write or
remove a file. -/
inductive Happening where
  | openAt (name : String)
  | load (s : Store)
  | save (s : Store) (c : Config)
  | write (path : String) (content : ByteArray)
  | remove (path : String)

/-- The host after something has happened. What others cannot do leaves the files as they are. -/
def step (h : Host) : Happening → Host
  | .openAt name => ((openAt (Path.parse name)).runOn h).2
  | .load s => (s.loadConfig.runOn h).2
  | .save s c => ((s.saveConfig c).runOn h).2
  | .write path content =>
    { h with tree := (h.tree.writeDeep path content).toOption.getD h.tree }
  | .remove path => { h with tree := (h.tree.remove path).toOption.getD h.tree }

/-- The host after some happenings, one after another. -/
def run (h : Host) (happenings : List Happening) : Host :=
  happenings.foldl step h

/-- The happening saves, writes or removes the file at a place. -/
def Touches (key : Place) (h : Host) : Happening → Prop
  | .openAt _ => False
  | .load _ => False
  | .save s c => (step h (.save s c)).tree.find s.path.text = .ok key
  | .write path content => (step h (.write path content)).tree.find path = .ok key
  | .remove path => h.tree.find path = .ok key

/-- None of the happenings touches the file at a place. -/
def Spares (key : Place) (h : Host) : List Happening → Prop
  | [] => True
  | happening :: rest => ¬ Touches key h happening ∧ Spares key (step h happening) rest

/-! ## Steps -/

/-- A file stays that a write does not lead to. -/
theorem at?_write (hw : t.write path content = .ok t')
    (hne : t'.find path ≠ .ok place) : t'.at? place = t.at? place := by
  obtain ⟨key, rfl, -, hfind, -⟩ := exists_key_of_write hw
  refine at?_put_ne t ?_ _
  rintro rfl
  exact hne hfind

theorem tree_loadConfig (s : Store) (h : Host) : (s.loadConfig.runOn h).2.tree = h.tree := by
  rw [runOn_loadConfig]
  rfl

/-- A save leaves all but the files as it is, and leaves these, too, when it fails. -/
theorem snd_saveConfig (s : Store) (c : Config) (h : Host) :
    ((s.saveConfig c).runOn h).2 =
      { h with tree := (s.save h.tree c).toOption.getD h.tree } := by
  rw [runOn_saveConfig]
  cases s.save h.tree c <;> rfl

/-- Whatever a save changes, the path of the store leads to it. -/
theorem find_of_save_ne (hne : ((s.save t c).toOption.getD t).at? place ≠ t.at? place) :
    ((s.save t c).toOption.getD t).find s.path.text = .ok place := by
  cases hs : s.save t c with
  | error fault =>
    rw [hs] at hne
    exact absurd rfl hne
  | ok t' =>
    rw [hs] at hne
    by_contra hfind
    exact hne (at?_write hs hfind)

/-- A file stays when nothing touches it. -/
theorem at?_step (hf : h.tree.at? key = some (.file content)) {x : Happening}
    (hx : ¬ Touches key h x) : (step h x).tree.at? key = some (.file content) := by
  cases x with
  | openAt name => exact file_openAt (Path.parsed_parse name) (Prod.eta _).symm hf
  | load s => rwa [step, tree_loadConfig]
  | save s c =>
    simp only [Touches, step, snd_saveConfig] at hx ⊢
    rw [← hf]
    exact not_imp_comm.mp find_of_save_ne hx
  | write path other =>
    simp only [Touches, step] at hx ⊢
    cases hw : h.tree.writeDeep path other with
    | error fault => exact hf
    | ok t' =>
      rw [hw] at hx
      obtain ⟨t₁, hg, hw₁⟩ := exists_grown_of_writeDeep hw
      exact (at?_write hw₁ hx).trans (hg.at?_eq hf)
  | remove path =>
    simp only [Touches, step] at hx ⊢
    cases hr : h.tree.remove path with
    | error fault => exact hf
    | ok t' =>
      obtain ⟨place, other, hfind, -, rfl⟩ := remove_eq_ok_iff.mp hr
      have hne : key ≠ place := by
        rintro rfl
        exact hx hfind
      exact (at?_drop_ne h.tree hne).trans hf

/-- No directory is ever lost. -/
theorem keepsDirectories_step (h : Host) (x : Happening) :
    KeepsDirectories h.tree (step h x).tree := by
  cases x with
  | openAt name =>
    rcases openAt_changes (h := h) (Path.parsed_parse name) (Prod.eta _).symm with
      hg | ⟨_, _, -, -, -, ha⟩
    · exact hg.keepsDirectories
    · exact ha.directories
  | load s =>
    rw [step, tree_loadConfig]
    exact .refl _
  | save s c =>
    simp only [step, snd_saveConfig]
    cases hs : s.save h.tree c with
    | error fault => exact .refl _
    | ok t' => exact keepsDirectories_write hs
  | write path other =>
    rw [step]
    cases hw : h.tree.writeDeep path other with
    | error fault => exact .refl _
    | ok t' =>
      obtain ⟨t₁, hg, hw₁⟩ := exists_grown_of_writeDeep hw
      exact hg.keepsDirectories.trans (keepsDirectories_write hw₁)
  | remove path =>
    rw [step]
    cases hr : h.tree.remove path with
    | error fault => exact .refl _
    | ok t' => exact keepsDirectories_remove hr

/-! ## Files that nothing touches -/

theorem at?_run (hf : h.tree.at? key = some (.file content)) {happenings : List Happening}
    (hs : Spares key h happenings) : (run h happenings).tree.at? key = some (.file content) := by
  induction happenings generalizing h with
  | nil => exact hf
  | cons x rest ih => exact ih (at?_step hf hs.1) hs.2

theorem keepsDirectories_run (h : Host) (happenings : List Happening) :
    KeepsDirectories h.tree (run h happenings).tree := by
  induction happenings generalizing h with
  | nil => exact .refl _
  | cons x rest ih => exact (keepsDirectories_step h x).trans (ih (step h x))

/-- The path of a file leads to it for as long as nothing touches the file. -/
theorem find_run (hfind : h.tree.find path = .ok key)
    (hf : h.tree.at? key = some (.file content)) {happenings : List Happening}
    (hs : Spares key h happenings) : (run h happenings).tree.find path = .ok key := by
  have hthere := at?_run hf hs
  exact find_of_keepsDirectories (keepsDirectories_run h happenings) hfind hf (by rw [hthere]; rfl)

/-- The configuration that a file keeps is loaded by every store whose path leads to the file. -/
theorem runOn_loadConfig_of_find (hf : h.tree.at? key = some (.file c.document.toUTF8))
    (hfind : h.tree.find s.path.text = .ok key) :
    s.loadConfig.runOn h = (.ok c, h) := by
  rw [runOn_loadConfig, load_of_status ((status_eq_ok_iff_of_find hfind).mpr hf)]
  simp [Host.note]

/-- What a store saved is in the file that its path leads to. -/
theorem exists_key_of_saveConfig (hsave : (s.saveConfig c).runOn h = (.ok (), h')) :
    ∃ key, h'.tree.find s.path.text = .ok key
      ∧ h'.tree.at? key = some (.file c.document.toUTF8) := by
  rw [runOn_saveConfig] at hsave
  cases hs : s.save h.tree c with
  | error fault => simp [hs] at hsave
  | ok t =>
    simp only [hs] at hsave
    cases hsave
    obtain ⟨key, rfl, hd, hfind, -⟩ := exists_key_of_write hs
    exact ⟨key, hfind, at?_put_self hd _⟩

/-! ## Files that hold no document -/

/-- No document is read at a path: nothing is there, or no file that can be read, or its bytes are
no UTF-8, or its text is no JSON. -/
inductive Damaged (t : Tree) (path : String) : Prop where
  | missing : t.exists? path = .ok false → Damaged t path
  | unreadable (fault : Fault) : t.read path = .error fault → Damaged t path
  | notUtf8 (content : ByteArray) : t.read path = .ok content →
      String.fromUTF8? content = none → Damaged t path
  | notJson (content : ByteArray) (text : String) (fault : Fault) : t.read path = .ok content →
      decodeText content = .ok text → Json.read text = .error fault → Damaged t path

theorem damaged_iff : Damaged t s.path.text ↔ ∃ fault, s.document t = .error fault := by
  rw [document, readText]
  constructor
  · rintro (hmiss | ⟨fault, hr⟩ | ⟨content, hr, hu⟩ | ⟨content, text, fault, hr, hd, hj⟩)
    · obtain ⟨fault, hs, -⟩ := exists?_eq_ok_false_iff.mp hmiss
      exact ⟨fault, by simp [Tree.read, hs, Except.bind]⟩
    · exact ⟨fault, by simp [hr, Except.bind]⟩
    · exact ⟨.notUtf8, by simp [hr, decodeText, hu, Except.bind]⟩
    · exact ⟨fault, by simp [hr, hd, hj, Except.bind]⟩
  · rintro ⟨fault, hdoc⟩
    cases hr : t.read s.path.text with
    | error other => exact .unreadable other hr
    | ok content =>
      cases hd : decodeText content with
      | error other =>
        refine .notUtf8 content hr ?_
        rw [decodeText] at hd
        split at hd
        · cases hd
        · assumption
      | ok text =>
        have hj : Json.read text = .error fault := by simpa [hr, hd, Except.bind] using hdoc
        exact .notJson content text fault hr hd hj

/-- What is wrong with a file is told to the log in one line, an error, and counts as the empty
configuration. -/
theorem runOn_loadConfig_of_damaged (hd : Damaged h.tree s.path.text) :
    ∃ event, event.level = .error ∧ s.loadConfig.runOn h = (.ok {}, h.note [event]) := by
  obtain ⟨fault, hdoc⟩ := damaged_iff.mp hd
  refine ⟨.configurationUnreadable s.path.text fault, rfl, ?_⟩
  rw [runOn_loadConfig, load, hdoc]

/-! ## The register -/

/-- From every host: loading always gives a configuration. Opening a store changes no file, nothing
at all where its file is there, and makes exactly that file where it is missing even when the
directories on the way are made; the empty configuration is loaded from it. A save changes at most
the file that the path of the store leads to. What was saved is loaded after every run that spares
the file, by every store whose path leads to it. A file that holds no document counts as the empty
configuration, with one error for the log. -/
theorem register_run (h : Host) :
    (∀ s : Store, ∃ c events, s.loadConfig.runOn h = (.ok c, h.note events))
      ∧ (∀ name place content, h.tree.at? place = some (.file content) →
          ((openAt (Path.parse name)).runOn h).2.tree.at? place = some (.file content))
      ∧ (∀ name path e, (Path.parse name).expandHome h.environment.home = .ok path →
          h.tree.status path.text = .ok e →
          (openAt (Path.parse name)).runOn h = (.ok { path := path }, h))
      ∧ (∀ name path t, (Path.parse name).expandHome h.environment.home = .ok path →
          h.tree.makeDirectories path.parent = (t, none) → '\x00' ∉ path.text.toList →
          t.exists? path.text = .ok false →
          ∃ h' key, (openAt (Path.parse name)).runOn h = (.ok { path := path }, h')
            ∧ Added h.tree h'.tree path.text key ({} : Config).document.toUTF8
            ∧ (loadConfig { path := path }).runOn h' = (.ok {}, h'))
      ∧ (∀ (s : Store) c, ∃ r t, (s.saveConfig c).runOn h = (r, { h with tree := t })
          ∧ ∀ place, t.at? place ≠ h.tree.at? place → t.find s.path.text = .ok place)
      ∧ (∀ (s : Store) c h', (s.saveConfig c).runOn h = (.ok (), h') →
          ∃ key, ∀ happenings, Spares key h' happenings →
            (run h' happenings).tree.find s.path.text = .ok key
              ∧ ∀ s' : Store, (run h' happenings).tree.find s'.path.text = .ok key →
                s'.loadConfig.runOn (run h' happenings) = (.ok c, run h' happenings))
      ∧ ∀ s : Store, Damaged h.tree s.path.text →
          ∃ event, event.level = .error ∧ s.loadConfig.runOn h = (.ok {}, h.note [event]) := by
  refine ⟨fun s => ⟨_, _, runOn_loadConfig s h⟩,
    fun name place content hf => file_openAt (Path.parsed_parse name) (Prod.eta _).symm hf,
    fun name path e => openAt_of_status (Path.parsed_parse name), ?created, ?changed, ?kept,
    fun s => runOn_loadConfig_of_damaged⟩
  case created =>
    intro name path t hpath hm hnull hmiss
    obtain ⟨h', key, ho, ha⟩ :=
      exists_openAt_of_missing (Path.parsed_parse name) hpath hm hnull hmiss
    exact ⟨h', key, ho, ha, runOn_loadConfig_of_find ha.at?_eq ha.find⟩
  case changed =>
    intro s c
    exact ⟨_, _, Prod.ext rfl (snd_saveConfig s c h), fun place => find_of_save_ne⟩
  case kept =>
    intro s c h' hsave
    obtain ⟨key, hfind, hf⟩ := exists_key_of_saveConfig hsave
    exact ⟨key, fun happenings hs =>
      ⟨find_run hfind hf hs, fun s' => runOn_loadConfig_of_find (at?_run hf hs)⟩⟩

/-- A configuration that was saved in a new file, at its path from the root, is loaded when the
store was opened once more from the working directory and another file was written. -/
theorem register_run_reopened :
    ∃ h₁ h₂ : Host, ∃ s : Store,
      (openAt (Path.parse "/home/launcher.json")).runOn
          { tree := { workingDirectory := ["home"] } } = (.ok s, h₁)
        ∧ (s.saveConfig { pinned := [{ title := "kept" }] }).runOn h₁ = (.ok (), h₂)
        ∧ (loadConfig { path := { names := ["launcher.json"] } }).runOn
            (run h₂ [.openAt "./launcher.json", .write "notes.txt" ByteArray.empty]) =
          (.ok { pinned := [{ title := "kept" }] },
            run h₂ [.openAt "./launcher.json", .write "notes.txt" ByteArray.empty]) := by
  let t : Tree := { workingDirectory := ["home"] }
  let c : Config := { pinned := [{ title := "kept" }] }
  let holding (c : Config) : Host := Host.note
    { tree := t.put ["home", "launcher.json"] (.file c.document.toUTF8) }
    [.configurationCreated "/home/launcher.json"]
  obtain ⟨-, -, -, hcreated, -⟩ := register_run { tree := t }
  obtain ⟨h₁, -, ho, -⟩ := hcreated "/home/launcher.json"
    { root := "/", names := ["home", "launcher.json"] } t rfl rfl (by decide) rfl
  obtain rfl : h₁ = holding {} := (congrArg Prod.snd ho).symm
  obtain ⟨-, -, -, -, -, hkept, -⟩ := register_run (holding {})
  have hsave : (saveConfig { path := { root := "/", names := ["home", "launcher.json"] } } c).runOn
      (holding {}) = (.ok (), holding c) := rfl
  obtain ⟨key, hrun⟩ := hkept _ c (holding c) hsave
  have hkey : key = ["home", "launcher.json"] := by
    have hfind := (hrun [] trivial).1
    cases hfind
    rfl
  obtain ⟨-, -, hsame, -⟩ := register_run (holding c)
  have hreopened : step (holding c) (.openAt "./launcher.json") = holding c :=
    congrArg Prod.snd (hsame "./launcher.json" { names := ["launcher.json"] } _ rfl rfl)
  have hwritten : step (holding c) (.write "notes.txt" ByteArray.empty) =
      { holding c with
        tree := (holding c).tree.put ["home", "notes.txt"] (.file ByteArray.empty) } :=
    rfl
  have hother : (step (holding c) (.write "notes.txt" ByteArray.empty)).tree.find "notes.txt" ≠
      .ok key := by
    have hfind : ((holding c).tree.put ["home", "notes.txt"] (.file ByteArray.empty)).find
      "notes.txt" = .ok ["home", "notes.txt"] := rfl
    rw [hwritten, hkey, hfind]
    exact nofun
  have hspared : Spares key (holding c)
      [.openAt "./launcher.json", .write "notes.txt" ByteArray.empty] := by
    refine ⟨id, ?_, trivial⟩
    rw [hreopened]
    exact hother
  obtain ⟨-, hload⟩ := hrun _ hspared
  refine ⟨_, holding c, _, ho, hsave, hload { path := { names := ["launcher.json"] } } ?_⟩
  rw [run, List.foldl_cons, hreopened, List.foldl_cons, List.foldl_nil, hwritten, hkey]
  rfl

/-- Three missing paths, with directories on the way that can be made, at which no file is made. The
first one leads to a file that is there as soon as the directories are, and it is not the empty
configuration that is loaded; the name of the second one has 300 letters; the third one has a null
character. -/
theorem openAt_makes_no_file :
    (∃ h h' : Host, ∃ path : Path,
      (Path.parse "a/../b.json").expandHome h.environment.home = .ok path
        ∧ (∀ e, h.tree.status path.text ≠ .ok e)
        ∧ (h.tree.makeDirectories path.parent).2 = none
        ∧ (openAt (Path.parse "a/../b.json")).runOn h = (.ok { path := path }, h')
        ∧ (∀ place content, h'.tree.at? place = some (.file content) →
            h.tree.at? place = some (.file content))
        ∧ (loadConfig { path := path }).runOn h' ≠ (.ok {}, h'))
      ∧ (let name := String.ofList (List.replicate 300 'a')
        ∃ path : Path, (Path.parse name).expandHome none = .ok path
          ∧ (∀ e, ({} : Tree).status path.text ≠ .ok e)
          ∧ ({} : Tree).makeDirectories path.parent = ({}, none)
          ∧ (openAt (Path.parse name)).runOn {} = (.error .nameTooLong, {}))
      ∧ ∃ path : Path, (Path.parse "a\x00").expandHome none = .ok path
        ∧ (∀ e, ({} : Tree).status path.text ≠ .ok e)
        ∧ ({} : Tree).makeDirectories path.parent = ({}, none)
        ∧ (openAt (Path.parse "a\x00")).runOn {} = (.error .nullCharacter, {}) := by
  refine ⟨?_, ?_, ?_⟩
  · let c : Config := { pinned := [{ title := "kept" }] }
    let h : Host := { tree := { entries := [(["b.json"], .file c.document.toUTF8)] } }
    let h' : Host := { h with tree := h.tree.put ["a"] .directory }
    refine ⟨h, h', { names := ["a", "..", "b.json"] }, rfl, nofun, rfl, rfl,
      fun place content hf => (grown_put rfl).file hf, ?_⟩
    have hfile : h'.tree.at? ["b.json"] = some (.file c.document.toUTF8) := rfl
    have hload : (loadConfig { path := { names := ["a", "..", "b.json"] } }).runOn h' =
        (.ok c, h') := runOn_loadConfig_of_find hfile rfl
    intro hempty
    rw [hload] at hempty
    have hc : c = {} := Except.ok.inj (Prod.mk.inj hempty).1
    exact List.cons_ne_nil _ _ (congrArg Config.pinned hc)
  · exact openAt_of_long {} (not_mem_replicate (by decide)) (not_mem_replicate (by decide))
      (not_mem_replicate (by decide)) (maxNameBytes_lt_replicate (by decide) 'a')
  · exact openAt_of_null {} (by decide) (by decide) (by decide) (by decide)

end QuickLaunch.Store
