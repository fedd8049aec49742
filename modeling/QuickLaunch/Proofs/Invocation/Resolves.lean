import QuickLaunch.Proofs.Invocation.ReadOnly
import QuickLaunch.Proofs.Settings.Overlaid

/-!
# What a resolved command prints

Nothing is needed for the text of an action but the command string itself. Still the settings are
loaded before it is printed, and the level of the log is set to the one that they name. A settings
file that is missing or cannot be read leaves the default level. One that can be read may put any
value in the place of the `logging` section or of the level in it, and then nothing is printed.

* `Settings.NamesLevel`, `Settings.Levelless`: settings that name a level, and why others do not;
* `Settings.threshold_cases`: the level that is set, or the fault;
* `Reply.ofWords_resolve`: the reply to a command line that resolves;
* `Reply.ofWords_resolve_of_unknown_level`: a settings file with which there is none.
-/

namespace QuickLaunch

/-! ## Names of levels -/

namespace Level

variable {s : String} {level : Level}

theorem ofName?_eq_some_iff : ofName? s = some level ↔ level.name = s := by
  constructor
  · intro h
    simpa using List.find?_some h
  · rintro rfl
    cases level <;> rfl

theorem ofName?_eq_none_iff : ofName? s = none ↔ ∀ level : Level, level.name ≠ s := by
  constructor
  · intro h level hname
    rw [ofName?_eq_some_iff.mpr hname] at h
    cases h
  · intro h
    cases hs : ofName? s with
    | none => rfl
    | some level => exact absurd (ofName?_eq_some_iff.mp hs) (h level)

end Level

/-! ## The level that settings name -/

namespace Settings

variable {settings defaults own : Table} {v : Value} {e : Environment} {t : Tree} {file : Path}

/-- The settings have the value as level of the log. -/
def GivesLevel (settings : Table) (v : Value) : Prop :=
  ∃ logging, Table.get? settings "logging" = some (.table logging)
    ∧ Table.get? logging "level" = some v

/-- The value is the name of a level, in letters of either case. -/
def IsLevel (v : Value) : Prop :=
  ∃ s, ∃ level : Level, v = .text s ∧ level.name = Text.upper s

/-- The settings name a level of the log. -/
def NamesLevel (settings : Table) : Prop :=
  ∃ v, GivesLevel settings v ∧ IsLevel v

/-- Why settings do not name a level: there is no table that has one, what it has is no text, or the
text is not the name of a level. -/
inductive Levelless (settings : Table) : Fault → Prop where
  | notGiven : (∀ v, ¬ GivesLevel settings v) → Levelless settings .wrongKind
  | notText {v : Value} : GivesLevel settings v → (∀ s, v ≠ .text s) →
      Levelless settings .noSuchPart
  | notName {s : String} : GivesLevel settings (.text s) →
      (∀ level : Level, level.name ≠ Text.upper s) →
      Levelless settings (.unknownLevel (Text.upper s))

theorem GivesLevel.unique {w : Value} (hv : GivesLevel settings v) (hw : GivesLevel settings w) :
    v = w := by
  obtain ⟨logging, hl, hv⟩ := hv
  obtain ⟨logging', hl', hw⟩ := hw
  cases hl.symm.trans hl'
  exact Option.some.inj (hv.symm.trans hw)

theorem required_eq_ok_iff {outer : Value} {key : String} :
    required outer key = .ok v ↔ ∃ t, outer = .table t ∧ Table.get? t key = some v := by
  cases outer with
  | table t =>
    rw [required]
    cases hv : Table.get? t key <;> simp [hv]
  | _ => simp [required]

theorem required_eq_error {outer : Value} {key : String} {fault : Fault}
    (h : required outer key = .error fault) : fault = .wrongKind := by
  cases outer with
  | table t =>
    rw [required] at h
    cases hv : Table.get? t key with
    | none =>
      rw [hv] at h
      cases h
      rfl
    | some v =>
      rw [hv] at h
      cases h
  | _ =>
    cases h
    rfl

/-- The value from which the level is told. -/
def givenLevel (settings : Table) : Except Fault Value :=
  (required (.table settings) "logging").bind (required · "level")

theorem threshold_none (settings : Table) :
    threshold none settings = (givenLevel settings).bind levelOf := by
  rw [threshold, threshold.ofSettings, givenLevel]
  cases required (.table settings) "logging" <;> rfl

theorem givenLevel_eq_ok_iff : givenLevel settings = .ok v ↔ GivesLevel settings v := by
  have hbind : givenLevel settings = .ok v ↔
      ∃ logging, required (.table settings) "logging" = .ok logging
        ∧ required logging "level" = .ok v := bind_eq_ok_iff
  rw [hbind, GivesLevel]
  simp only [required_eq_ok_iff, Value.table.injEq, exists_eq_left']
  constructor
  · rintro ⟨_, hl, logging, rfl, hv⟩
    exact ⟨logging, hl, hv⟩
  · rintro ⟨logging, hl, hv⟩
    exact ⟨_, hl, logging, rfl, hv⟩

theorem givenLevel_eq_error {fault : Fault} (h : givenLevel settings = .error fault) :
    fault = .wrongKind := by
  rw [givenLevel] at h
  cases hl : required (.table settings) "logging" with
  | error fault' =>
    rw [hl] at h
    cases h
    exact required_eq_error hl
  | ok logging =>
    rw [hl] at h
    exact required_eq_error h

/-- Settings that name a level give that level; of others the fault says why they do not. -/
theorem threshold_cases (settings : Table) :
    (NamesLevel settings ∧ ∃ level, threshold none settings = .ok level)
      ∨ (¬ NamesLevel settings
        ∧ ∃ fault, threshold none settings = .error fault ∧ Levelless settings fault) := by
  rw [threshold_none]
  cases hv : givenLevel settings with
  | error fault =>
    have hnone : ∀ v, ¬ GivesLevel settings v := by
      intro v hgives
      rw [givenLevel_eq_ok_iff.mpr hgives] at hv
      cases hv
    rw [givenLevel_eq_error hv]
    exact .inr ⟨fun ⟨v, hgives, _⟩ => hnone v hgives, _, rfl, .notGiven hnone⟩
  | ok v =>
    have hgives := givenLevel_eq_ok_iff.mp hv
    -- The settings name a level if this value does, as they give no other one.
    have hnames : NamesLevel settings → IsLevel v := by
      rintro ⟨w, hw, hlevel⟩
      rwa [hgives.unique hw]
    cases v with
    | text s =>
      cases hs : Level.ofName? (Text.upper s) with
      | some level =>
        have hlevel : levelOf (.text s) = .ok level := by simp only [levelOf, hs]
        exact .inl ⟨⟨_, hgives, s, level, rfl, Level.ofName?_eq_some_iff.mp hs⟩, level, hlevel⟩
      | none =>
        have hunknown := Level.ofName?_eq_none_iff.mp hs
        have hfault : levelOf (.text s) = .error (.unknownLevel (Text.upper s)) := by
          simp only [levelOf, hs]
        refine .inr ⟨fun h => ?_, _, hfault, .notName hgives hunknown⟩
        obtain ⟨_, level, ⟨⟩, hname⟩ := hnames h
        exact hunknown level hname
    | _ =>
      refine .inr ⟨fun h => ?_, _, rfl, .notText hgives nofun⟩
      obtain ⟨_, _, hv', -⟩ := hnames h
      cases hv'

/-! ## The level of a file over the defaults -/

/-- The file says nothing of the level, or names one. -/
def KeepsLevel (own : Table) : Prop :=
  ∀ v, ("logging", v) ∈ own → ∃ t, v = .table t ∧ ∀ w, ("level", w) ∈ t → IsLevel w

theorem namesLevel_defaults (hd : Settings.defaults e = .ok defaults) : NamesLevel defaults := by
  obtain ⟨locations, -, hd⟩ := bind_eq_ok_iff.mp hd
  obtain ⟨config, -, hd⟩ := bind_eq_ok_iff.mp hd
  cases hd
  exact ⟨.text "INFO", ⟨_, rfl, rfl⟩, "INFO", .info, rfl, by decide⟩

theorem NamesLevel.overlay (hn : NamesLevel defaults) (hk : KeepsLevel own) :
    NamesLevel (Table.overlay defaults own) := by
  obtain ⟨v, ⟨logging, hl, hv⟩, hlevel⟩ := hn
  have hover : ∀ w below, IsLevel w → IsLevel (Value.overlay below w) := by
    rintro _ below ⟨s, level, rfl, hname⟩
    exact ⟨s, level, Value.overlay_text below s, hname⟩
  obtain ⟨logging', hl', w, hw, hlevel'⟩ :=
    Table.exists_section_overlay ⟨logging, hl, v, hv, hlevel⟩ fun v hv => by
      obtain ⟨u, rfl, hu⟩ := hk v hv
      exact ⟨u, rfl, fun w hw below => hover w below (hu w hw)⟩
  exact ⟨w, ⟨logging', hl', hw⟩, hlevel'⟩

/-- The settings in force name a level when the file, if it can be read, keeps it. -/
theorem namesLevel_overlayFile (hd : Settings.defaults e = .ok defaults)
    (hk : ∀ own, ofFile t file = .ok own → KeepsLevel own) :
    NamesLevel (overlayFile t file defaults).1 := by
  rw [overlayFile]
  cases ho : ofFile t file with
  | error fault => exact namesLevel_defaults hd
  | ok own => exact (namesLevel_defaults hd).overlay (hk own ho)

end Settings

/-! ## The reply -/

namespace Reply

open Session

variable {h : Host} {words : List String} {inv : Invocation} {command : String}
  {defaults settings : Table} {file : Path}

/-- The text of the action of a command string is printed. -/
theorem runOn_resolve (command : String) (h : Host) :
    ∃ h', (resolve command).runOn h =
      (.ok { status := 0, lines := [(Command.resolve (some command)).text] }, h') :=
  ⟨_, rfl⟩

theorem runOn_ofWords_resolve {level : Level} {h₁ : Host}
    (hw : Invocation.ofWords words = .accepted inv) (hc : inv.command = .resolve command)
    (hload : (Settings.load inv.settings).runOn h = (.ok settings, h₁))
    (hl : Settings.threshold inv.logLevel settings = .ok level) :
    (ofWords words).runOn h = (resolve command).runOn { h₁ with threshold := level } := by
  rw [ofWords, hw]
  exact runOn_ofInvocation (by rw [ofInvocation, hc]) hload hl

/-- Where the settings name no level, that is the end of it, whatever the command. -/
theorem runOn_ofWords_of_fault {fault : Fault} {h₁ : Host}
    (hw : Invocation.ofWords words = .accepted inv)
    (hload : (Settings.load inv.settings).runOn h = (.ok settings, h₁))
    (hl : Settings.threshold inv.logLevel settings = .error fault) :
    (ofWords words).runOn h = (.error fault, h₁) := by
  rw [ofWords, hw]
  change (ofInvocation inv).runOn h = _
  rw [ofInvocation, runOn_bind, hload]
  simp only [runOn_bind, runOn_ofExcept, hl]

/-- A command line that resolves and does not name a level itself. It has the text of the action as
its reply if the settings in force name a level, and only then; else the fault says why they do
not. Nothing changes but the log. A settings file that is missing, that cannot be read or that says
nothing of the level leaves settings that name one. -/
theorem ofWords_resolve (hw : Invocation.ofWords words = .accepted inv)
    (hc : inv.command = .resolve command) (hl : inv.logLevel = none)
    (hd : Settings.defaults h.environment = .ok defaults)
    (hfile : Settings.fileNamed h.environment inv.settings = .ok file)
    (hfits : Tree.Fits file.text) :
    ∃ settings reply h', settings = (Settings.overlayFile h.tree file defaults).1
      ∧ (ofWords words).runOn h = (reply, h') ∧ Unmoved h h'
      ∧ (Settings.NamesLevel settings →
          reply = .ok { status := 0, lines := [(Command.resolve (some command)).text] })
      ∧ (¬ Settings.NamesLevel settings →
          ∃ fault, reply = .error fault ∧ Settings.Levelless settings fault)
      ∧ ((∀ own, Settings.ofFile h.tree file = .ok own → Settings.KeepsLevel own) →
          Settings.NamesLevel settings) := by
  obtain ⟨events, hload⟩ := Settings.runOn_load_of_fits hd hfile hfits
  have hkept := @Settings.namesLevel_overlayFile _ _ h.tree file hd
  have hloaded : Unmoved h (h.note events) := quiet_note events h
  rcases Settings.threshold_cases (Settings.overlayFile h.tree file defaults).1 with
    ⟨hnames, level, hlevel⟩ | ⟨hnames, fault, hlevel, hwhy⟩
  · rw [← hl] at hlevel
    obtain ⟨h', hreply⟩ := runOn_resolve command { h.note events with threshold := level }
    have hprinted := quiet_resolve command { h.note events with threshold := level }
    rw [hreply] at hprinted
    have hunmoved := hloaded.trans ((quiet_setThreshold level _).trans hprinted)
    exact ⟨_, _, h', rfl, (runOn_ofWords_resolve hw hc hload hlevel).trans hreply, hunmoved,
      fun _ => rfl, fun h => absurd hnames h, hkept⟩
  · rw [← hl] at hlevel
    exact ⟨_, _, h.note events, rfl, runOn_ofWords_of_fault hw hload hlevel, hloaded,
      fun h => absurd h hnames, fun _ => ⟨fault, rfl, hwhy⟩, hkept⟩

/-- Without a settings file the action is printed. -/
theorem ofWords_resolve_of_missing_file :
    ∃ h', (ofWords ["resolve", "notes.txt"]).runOn { environment := { home := some "home" } } =
        (.ok { status := 0, lines := ["Launch(path='notes.txt')"] }, h')
      ∧ h'.tree = {} := by
  let h : Host := { environment := { home := some "home" } }
  let file : Path := { names := ["home", ".config", "palette", "settings.toml"] }
  have hfits : Tree.Fits file.text := ⟨by decide, by decide⟩
  have hmissing : Settings.ofFile {} file = .error .noSuchFile := by unfold file; rfl
  obtain ⟨settings, reply, h', -, hrun, hunmoved, hreply, -, hkept⟩ :=
    @ofWords_resolve h ["resolve", "notes.txt"] { command := .resolve "notes.txt" } "notes.txt" _
      file rfl rfl rfl rfl rfl hfits
  have hnames : Settings.NamesLevel settings := by
    refine hkept fun own hown => ?_
    cases hmissing.symm.trans hown
  rw [hreply hnames] at hrun
  exact ⟨h', hrun, hunmoved.tree⟩

/-- A settings file that gives the level a name which no level has can be read, and the action is
not printed. -/
theorem ofWords_resolve_of_unknown_level :
    let t : Tree := { entries := [(["home"], .directory), (["home", ".config"], .directory),
      (["home", ".config", "palette"], .directory),
      (["home", ".config", "palette", "settings.toml"],
        .file "[logging]\nlevel = \"WARN\"\n".toUTF8)] }
    ((ofWords ["resolve", "notes.txt"]).runOn
      { environment := { home := some "home" }, tree := t }).1 =
        .error (.unknownLevel "WARN") := by
  intro t
  let h : Host := { environment := { home := some "home" }, tree := t }
  let file : Path := { names := ["home", ".config", "palette", "settings.toml"] }
  let own : Table := [("logging", .table [("level", .text "WARN")])]
  have hread : Settings.ofFile t file = .ok own := by
    have hbytes : t.read file.text = .ok "[logging]\nlevel = \"WARN\"\n".toUTF8 := by unfold t file; rfl
    have htable : Toml.table? "[logging]\nlevel = \"WARN\"\n".toList = some own := by
      set_option maxRecDepth 2000 in rfl
    rw [Settings.ofFile, Tree.readText, hbytes, Except.bind, decodeText_toUTF8 (by decide)]
    simp only [Except.bind, Toml.read, htable]
  have hw : Invocation.ofWords ["resolve", "notes.txt"] =
      .accepted { command := .resolve "notes.txt" } := rfl
  have hfits : Tree.Fits file.text := ⟨by decide, by decide⟩
  obtain ⟨events, hload⟩ := @Settings.runOn_load_of_fits _ h none file rfl rfl hfits
  rw [Settings.overlayFile, hread] at hload
  have hupper : Text.upper "WARN" = "WARN" := by decide
  have hrun := runOn_ofWords_of_fault hw hload rfl
  rw [hupper] at hrun
  change ((ofWords ["resolve", "notes.txt"]).runOn h).1 = _
  rw [hrun]

end Reply

end QuickLaunch
