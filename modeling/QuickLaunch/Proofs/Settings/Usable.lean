import QuickLaunch.Proofs.Files.Lookups
import QuickLaunch.Settings.Resident

/-!
# Settings that can be used

A settings file that is missing or cannot be read leaves the default settings, and those name the
interpreter of the system. A file that can be read may still put any value in the place of the
`shell` section or of the arguments in it, and then no interpreter can be made of the settings.

* `runOn_load_of_fits`: what loading the settings of a file comes to;
* `runOn_load`: loading ends with the settings in force, whatever is in the file;
* `ofSettings_cases`: the settings that an interpreter can be made of;
* `Resident.answers_iff`: the resident interpreter answers when it has been made or can be made.
-/

namespace QuickLaunch

namespace Settings

/-- The settings of a system with those of the default file laid over them, as far as the file can
be read. -/
def inForce (e : Environment) (t : Tree) : Except Fault Table := do
  let defaults ← defaults e
  let file ← defaultFile e
  match ofFile t file with
  | .ok own => return Table.overlay defaults own
  | .error _ => return defaults

/-- The place of the settings file in a home directory. -/
def fileIn (home : Path) : Path :=
  home.append [".config", "palette", "settings.toml"]

variable {e : Environment} {t : Tree} {home : Path} {defaults : Table}

theorem defaultFile_of_home (hh : Path.home e.home = .ok home) :
    defaultFile e = .ok (fileIn home) := by
  rw [defaultFile, ownFile, hh]
  rfl

/-- Where the home directory is known, there are default settings, and they name the interpreter of
the system. -/
theorem exists_defaults (hh : Path.home e.home = .ok home) :
    ∃ d, Settings.defaults e = .ok d
      ∧ Table.getD d "shell" (.table []) =
        .table [("program", (Interpreter.default e.family).program),
          ("args", .list (Interpreter.default e.family).args)] := by
  obtain ⟨locations, hl⟩ : ∃ locations, Locations.ofEnvironment e = .ok locations := by
    unfold Locations.ofEnvironment Locations.posix Locations.dataHome Locations.dataHome.ownDataHome
    rw [hh]
    cases e.family with
    | windows => exact ⟨_, rfl⟩
    | posix =>
      cases e.dataHome with
      | none => exact ⟨_, rfl⟩
      | some dir => by_cases hd : dir = "" <;> simp [hd, Except.map]
  rw [Settings.defaults, hl, ownFile, hh]
  exact ⟨_, rfl, rfl⟩

theorem inForce_of_read {own : Table} (hh : Path.home e.home = .ok home)
    (hd : Settings.defaults e = .ok defaults) (ho : ofFile t (fileIn home) = .ok own) :
    inForce e t = .ok (Table.overlay defaults own) := by
  simp [inForce, hd, defaultFile_of_home hh, ho, bind, Except.bind, pure, Except.pure]

theorem inForce_of_unreadable {fault : Fault} (hh : Path.home e.home = .ok home)
    (hd : Settings.defaults e = .ok defaults) (hu : ofFile t (fileIn home) = .error fault) :
    inForce e t = .ok defaults := by
  simp [inForce, hd, defaultFile_of_home hh, hu, bind, Except.bind, pure, Except.pure]

/-- A file that is not there gives no settings. -/
theorem exists_ofFile_of_absent {p : Path} (ht : t.exists? p.text = .ok false) :
    ∃ fault, ofFile t p = .error fault := by
  rw [Tree.exists?] at ht
  rw [ofFile, Tree.readText, Tree.read]
  cases hs : t.status p.text with
  | ok entry => simp [hs] at ht
  | error fault => exact ⟨fault, rfl⟩

/-- The file that is read when a name is given, or none or an empty one. -/
def fileNamed (e : Environment) (name : Option String) : Except Fault Path :=
  match name with
  | some name => if name = "" then defaultFile e else .ok (Path.parse name)
  | none => defaultFile e

theorem load_eq (name : Option String) :
    load name = do
      let e ← Session.environment
      let defaults ← Session.ofExcept (Settings.defaults e)
      let path ← Session.ofExcept (fileNamed e name)
      let t ← Session.tree
      if ← Session.ofExcept (t.exists? path.text) then
        Session.note (overlayFile t path defaults).2
        return (overlayFile t path defaults).1
      else
        Session.note [.settingsMissing path.text]
        return defaults := by
  unfold load fileNamed
  cases name with
  | none => rfl
  | some name =>
    by_cases hn : name = ""
    · simp only [hn, if_true]
    · have hpath : Session.ofExcept (.ok (Path.parse name)) = pure (Path.parse name) := rfl
      simp only [hn, if_false, pure_bind, hpath]

/-- Loading lays the file over the default settings when its path fits, and only the log learns of
it. -/
theorem runOn_load_of_fits {h : Host} {name : Option String} {file : Path}
    (hd : Settings.defaults h.environment = .ok defaults)
    (hfile : fileNamed h.environment name = .ok file) (hf : Tree.Fits file.text) :
    ∃ events, (load name).runOn h = (.ok (overlayFile h.tree file defaults).1, h.note events) := by
  obtain ⟨there, ht⟩ := Tree.exists_exists?_of_fits h.tree hf
  have hload : (load name).runOn h =
      if there then
        (.ok (overlayFile h.tree file defaults).1, h.note (overlayFile h.tree file defaults).2)
      else (.ok defaults, h.note [.settingsMissing file.text]) := by
    simp only [load_eq, Session.runOn_bind, Session.runOn_environment, Session.runOn_ofExcept, hd,
      hfile, Session.runOn_tree, ht]
    cases there <;> rfl
  rw [hload]
  cases there with
  | true => exact ⟨_, rfl⟩
  | false =>
    obtain ⟨fault, hu⟩ := exists_ofFile_of_absent ht
    have hoverlay : (overlayFile h.tree file defaults).1 = defaults := by rw [overlayFile, hu]
    rw [hoverlay]
    exact ⟨_, rfl⟩

/-- Loading ends with the settings in force, and only the log learns of it. -/
theorem runOn_load {h : Host} (hh : Path.home h.environment.home = .ok home)
    (hf : Tree.Fits (fileIn home).text) :
    ∃ settings events, inForce h.environment h.tree = .ok settings
      ∧ (load none).runOn h = (.ok settings, h.note events) := by
  obtain ⟨d, hd, -⟩ := exists_defaults hh
  have hfile : fileNamed h.environment none = .ok (fileIn home) := defaultFile_of_home hh
  obtain ⟨events, hload⟩ := runOn_load_of_fits hd hfile hf
  refine ⟨_, events, ?_, hload⟩
  rw [overlayFile]
  cases ho : ofFile h.tree (fileIn home) with
  | ok own => exact inForce_of_read hh hd ho
  | error fault => exact inForce_of_unreadable hh hd ho

/-! ## The interpreter of settings -/

/-- Arguments can be read off the value: it is missing, or it has members. -/
def listsArgs : Value → Bool
  | .null | .list _ | .text _ | .table _ => true
  | .bool _ | .int _ | .float _ | .moment _ => false

/-- The settings name an interpreter: their `shell` section is a table, and what it says of the
arguments lists some. -/
def namesShell (settings : Table) : Bool :=
  match Table.getD settings "shell" (.table []) with
  | .table shell => listsArgs (Table.getD shell "args" .null)
  | _ => false

theorem exists_ofValues (family : Family) (program : Value) {args : Value}
    (ha : listsArgs args = true) : ∃ i, Interpreter.ofValues family program args = .ok i := by
  cases args with
  | null => exact ⟨_, rfl⟩
  | list items => exact ⟨_, rfl⟩
  | text s => exact ⟨_, rfl⟩
  | table entries => exact ⟨_, rfl⟩
  | _ => cases ha

theorem ofValues_of_not_listsArgs (family : Family) (program : Value) {args : Value}
    (ha : listsArgs args = false) : Interpreter.ofValues family program args = .error .wrongKind := by
  cases args with
  | bool b => rfl
  | int n => rfl
  | float x => rfl
  | moment m => rfl
  | _ => cases ha

/-- An interpreter can be made of settings that name one. Otherwise the section or its arguments
are of a wrong kind. -/
theorem ofSettings_cases (family : Family) (settings : Table) :
    (namesShell settings = true ∧ ∃ i, Interpreter.ofSettings family (.table settings) = .ok i)
      ∨ namesShell settings = false
        ∧ ∃ fault, Interpreter.ofSettings family (.table settings) = .error fault
          ∧ (fault = .noSuchPart ∨ fault = .wrongKind) := by
  have hpart : Interpreter.ofSettings family (.table settings) =
      (Table.getD settings "shell" (.table []) |>.part "program" .null).bind fun program =>
        (Table.getD settings "shell" (.table []) |>.part "args" .null).bind fun args =>
          Interpreter.ofValues family program args := rfl
  rw [hpart, namesShell]
  cases Table.getD settings "shell" (.table []) with
  | table shell =>
    cases ha : listsArgs (Table.getD shell "args" .null) with
    | true => exact .inl ⟨ha, exists_ofValues family _ ha⟩
    | false => exact .inr ⟨ha, _, ofValues_of_not_listsArgs family _ ha, .inr rfl⟩
  | _ => exact .inr ⟨rfl, _, rfl, .inl rfl⟩

/-- A file that cannot be read leaves the interpreter of the system. -/
theorem ofSettings_of_unreadable {settings : Table} {fault : Fault}
    (hh : Path.home e.home = .ok home) (hs : inForce e t = .ok settings)
    (hu : ofFile t (fileIn home) = .error fault) :
    Interpreter.ofSettings e.family (.table settings) = .ok (Interpreter.default e.family) := by
  obtain ⟨d, hd, hshell⟩ := exists_defaults hh
  have hsd : settings = d := by
    rw [inForce_of_unreadable hh hd hu] at hs
    exact (Except.ok.inj hs).symm
  have hpart : (Value.table settings).part "shell" (.table []) =
      .ok (.table [("program", (Interpreter.default e.family).program),
        ("args", .list (Interpreter.default e.family).args)]) := by
    rw [hsd, Value.part, hshell]
  rw [Interpreter.ofSettings, hpart]
  cases e.family <;> rfl

end Settings

namespace Resident

variable {r r' : Resident} {home : Path} {i : Interpreter} {fault : Fault}

/-- Where no interpreter was made before, one is made of the settings in force, and is kept. Making
it tells the log something and changes nothing else. -/
theorem use_of_none (hn : r.interpreter = none)
    (hh : Path.home r.host.environment.home = .ok home)
    (hf : Tree.Fits (Settings.fileIn home).text) :
    ∃ settings events, Settings.inForce r.host.environment r.host.tree = .ok settings
      ∧ r.use =
        match Interpreter.ofSettings r.host.environment.family (.table settings) with
        | .ok i => ({ host := r.host.note events, interpreter := some i }, .ok i)
        | .error fault => ({ host := r.host.note events }, .error fault) := by
  obtain ⟨settings, events, hs, hload⟩ := Settings.runOn_load hh hf
  have hmade : fromSettings.run.run r.host =
      (Interpreter.ofSettings r.host.environment.family (.table settings), r.host.note events) := by
    change fromSettings.runOn r.host = _
    simp only [fromSettings, Session.runOn_bind, hload, Session.runOn_environment,
      Session.runOn_ofExcept]
    rfl
  refine ⟨settings, events, hs, ?_⟩
  rw [use, hn]
  simp only [hmade]
  cases Interpreter.ofSettings r.host.environment.family (.table settings) <;> rfl

theorem answers_of_use (hu : r.use = (r', .ok i)) (a : Action) :
    (r.canRun a).2 = .ok (Runner.canRun r'.host.tree a) ∧ (r.execute a).2 = .ok () := by
  constructor
  · rw [canRun, hu]
    rfl
  · rw [execute, hu]
    simp only [Runner.runOn_perform]

theorem faults_of_use (hu : r.use = (r', .error fault)) (a : Action) :
    r.canRun a = (r', .error fault) ∧ r.execute a = (r', .error fault) := by
  constructor
  · rw [canRun, hu]
    rfl
  · rw [execute, hu]

/-- What the resident interpreter answers, whatever the settings file holds, the tree is like and
the action asks for, where the home directory is known and the path of the settings file fits. It
answers without a fault when an interpreter was made before or the settings in force name one; else
the fault says that the `shell` section or its arguments are of a wrong kind, and nothing changes
but the log. A settings file that is missing or cannot be read leaves the interpreter of the
system. -/
theorem answers_iff (r : Resident) (a : Action)
    (hh : Path.home r.host.environment.home = .ok home)
    (hf : Tree.Fits (Settings.fileIn home).text) :
    ∃ settings events, Settings.inForce r.host.environment r.host.tree = .ok settings
      ∧ (r.interpreter.isSome ∨ Settings.namesShell settings = true →
          (r.canRun a).2 = .ok (Runner.canRun r.host.tree a) ∧ (r.execute a).2 = .ok ())
      ∧ (r.interpreter = none → Settings.namesShell settings = false →
          ∃ fault, (fault = .noSuchPart ∨ fault = .wrongKind)
            ∧ r.canRun a = ({ host := r.host.note events }, .error fault)
            ∧ r.execute a = ({ host := r.host.note events }, .error fault))
      ∧ (r.interpreter = none →
          ∀ fault, Settings.ofFile r.host.tree (Settings.fileIn home) = .error fault →
          Settings.namesShell settings = true
            ∧ r.use.2 = .ok (Interpreter.default r.host.environment.family)) := by
  cases hi : r.interpreter with
  | some i =>
    obtain ⟨settings, events, hs, -⟩ := Settings.runOn_load hh hf
    have hu : r.use = (r, .ok i) := by rw [use, hi]
    exact ⟨settings, events, hs, fun _ => answers_of_use hu a, nofun, nofun⟩
  | none =>
    obtain ⟨settings, events, hs, hu⟩ := use_of_none hi hh hf
    have hcases := Settings.ofSettings_cases r.host.environment.family settings
    refine ⟨settings, events, hs, fun hn => ?_, fun _ hn => ?_, fun _ fault hfile => ?_⟩
    · obtain ⟨-, i, ho⟩ | ⟨hn', -⟩ := hcases
      · rw [ho] at hu
        exact answers_of_use hu a
      · simp [hn'] at hn
    · obtain ⟨hn', -⟩ | ⟨-, fault, ho, hk⟩ := hcases
      · simp [hn'] at hn
      · rw [ho] at hu
        exact ⟨fault, hk, faults_of_use hu a⟩
    · have ho := Settings.ofSettings_of_unreadable hh hs hfile
      obtain ⟨hn, -⟩ | ⟨-, fault', ho', -⟩ := hcases
      · rw [ho] at hu
        exact ⟨hn, by rw [hu]⟩
      · cases ho.symm.trans ho'

/-- A directory stands where the settings file should be: the interpreter of the system answers. -/
theorem answers_iff_of_directory :
    let home : Path := { names := ["home"] }
    let t : Tree := { entries := [(["home"], .directory), (["home", ".config"], .directory),
      (["home", ".config", "palette"], .directory),
      (["home", ".config", "palette", "settings.toml"], .directory)] }
    let r : Resident := { host := { environment := { home := some "home" }, tree := t } }
    Path.home r.host.environment.home = .ok home ∧ Tree.Fits (Settings.fileIn home).text
      ∧ r.use.2 = .ok (Interpreter.default .posix) ∧ (r.execute (.shell "ls")).2 = .ok () := by
  intro home t r
  have hh : Path.home r.host.environment.home = .ok home := rfl
  have hf : Tree.Fits (Settings.fileIn home).text := ⟨by decide, by decide⟩
  have hu : Settings.ofFile t (Settings.fileIn home) = .error .isDirectory := by unfold t home; rfl
  obtain ⟨settings, events, -, hanswers, -, hunreadable⟩ := answers_iff r (.shell "ls") hh hf
  obtain ⟨hn, huse⟩ := hunreadable rfl .isDirectory hu
  exact ⟨hh, hf, huse, (hanswers (.inr hn)).2⟩

/-- A settings file that holds a text in the place of the `shell` section can be read, and no use
answers: neither looking whether nothing can be done nor doing it. -/
theorem execute_of_text_section :
    let t : Tree := { entries := [(["home"], .directory), (["home", ".config"], .directory),
      (["home", ".config", "palette"], .directory),
      (["home", ".config", "palette", "settings.toml"], .file "shell = \"bash\"\n".toUTF8)] }
    let r : Resident := { host := { environment := { home := some "home" }, tree := t } }
    (r.canRun .noop).2 = .error .noSuchPart ∧ (r.execute .noop).2 = .error .noSuchPart := by
  intro t r
  let home : Path := { names := ["home"] }
  have hh : Path.home r.host.environment.home = .ok home := rfl
  have hf : Tree.Fits (Settings.fileIn home).text := ⟨by decide, by decide⟩
  have hread : Settings.ofFile t (Settings.fileIn home) = .ok [("shell", .text "bash")] := by
    have hbytes : t.read (Settings.fileIn home).text = .ok "shell = \"bash\"\n".toUTF8 := by unfold t home; rfl
    have htable : Toml.table? "shell = \"bash\"\n".toList = some [("shell", .text "bash")] := by
      rfl
    rw [Settings.ofFile, Tree.readText, hbytes, Except.bind, decodeText_toUTF8 (by decide)]
    simp only [Except.bind, Toml.read, htable]
  obtain ⟨settings, events, hs, hu⟩ := use_of_none rfl hh hf
  obtain ⟨d, hd, -⟩ := Settings.exists_defaults hh
  have hsettings : settings = Table.overlay d [("shell", .text "bash")] :=
    Except.ok.inj (hs.symm.trans (Settings.inForce_of_read hh hd hread))
  have hsection : Table.getD settings "shell" (.table []) = .text "bash" := by
    rw [hsettings, Table.overlay, Table.overlay_nil, Table.getD, Table.get?_set_self]
    cases Table.get? d "shell" <;> rfl
  have ho : Interpreter.ofSettings r.host.environment.family (.table settings) =
      .error .noSuchPart := by
    rw [Interpreter.ofSettings, Value.part, hsection]
    rfl
  rw [ho] at hu
  have hfaults := faults_of_use hu .noop
  exact ⟨by rw [hfaults.1], by rw [hfaults.2]⟩

end Resident

end QuickLaunch
