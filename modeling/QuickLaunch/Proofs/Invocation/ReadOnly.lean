import QuickLaunch.Invocation.Reply
import QuickLaunch.Proofs.Config.Opened
import QuickLaunch.Proofs.Settings.Usable

/-!
# Command lines that only ask

All that a command line does which runs no action is telling the log, but for opening the store of
the configuration. So no process is started, no file changes, and there is at most one new file: the
empty configuration, where searching or listing filters did not find the one that it was to read.

* `Quiet`: computations that leave the files and the starts alone, and how they follow each other;
* `Reply.launcher_changes`: making a launcher leaves what opening its store leaves;
* `Reply.ofWords_changes`: what a command line leaves that runs no action.
-/

namespace QuickLaunch

namespace Session

variable {α β : Type} {x : Session α} {f : α → Session β} {h h₁ h₂ h₃ : Host}

/-! ## Quiet computations -/

/-- The hosts differ in the log at most. -/
structure Unmoved (h h' : Host) : Prop where
  environment : h'.environment = h.environment
  tree : h'.tree = h.tree
  starts : h'.starts = h.starts

theorem Unmoved.refl (h : Host) : Unmoved h h := ⟨rfl, rfl, rfl⟩

theorem Unmoved.trans (m : Unmoved h₁ h₂) (m' : Unmoved h₂ h₃) : Unmoved h₁ h₃ :=
  ⟨m'.environment.trans m.environment, m'.tree.trans m.tree, m'.starts.trans m.starts⟩

/-- The computation does nothing to a host but tell its log, whatever it comes to. -/
def Quiet (x : Session α) : Prop :=
  ∀ h, Unmoved h (x.runOn h).2

theorem quiet_pure (a : α) : Quiet (pure a) := Unmoved.refl

theorem quiet_ofExcept (r : Except Fault α) : Quiet (ofExcept r) := Unmoved.refl

theorem quiet_environment : Quiet environment := Unmoved.refl

theorem quiet_tree : Quiet tree := Unmoved.refl

theorem quiet_note (events : List Event) : Quiet (note events) := fun _ => ⟨rfl, rfl, rfl⟩

theorem quiet_setThreshold (level : Level) : Quiet (setThreshold level) := fun _ => ⟨rfl, rfl, rfl⟩

/-- A quiet computation leaves the host to what came before it. -/
theorem Quiet.unmoved_bind (hf : ∀ a, Quiet (f a)) (x : Session α) (h : Host) :
    Unmoved (x.runOn h).2 ((x >>= f).runOn h).2 := by
  rw [runOn_bind]
  rcases x.runOn h with ⟨fault | a, h'⟩
  · exact .refl h'
  · exact hf a h'

theorem Quiet.bind (hx : Quiet x) (hf : ∀ a, Quiet (f a)) : Quiet (x >>= f) := fun h =>
  (hx h).trans (Quiet.unmoved_bind hf x h)

end Session

open Session

/-! ## What is quiet -/

theorem Settings.quiet_load (name : Option String) : Quiet (Settings.load name) := by
  rw [load_eq]
  refine quiet_environment.bind fun _ => (quiet_ofExcept _).bind fun _ =>
    (quiet_ofExcept _).bind fun _ => quiet_tree.bind fun _ => (quiet_ofExcept _).bind fun _ => ?_
  split_ifs
  · exact (quiet_note _).bind fun _ => quiet_pure _
  · exact (quiet_note _).bind fun _ => quiet_pure _

theorem Index.quiet_build (x : Index) : Quiet x.build :=
  quiet_tree.bind fun _ => (quiet_note _).bind fun _ => (quiet_ofExcept _).bind fun _ =>
    (quiet_note _).bind fun _ => quiet_pure _

theorem Store.quiet_loadConfig (s : Store) : Quiet s.loadConfig :=
  quiet_tree.bind fun _ => (quiet_note _).bind fun _ => quiet_pure _

namespace Reply

theorem quiet_interpreter (settings : Table) : Quiet (interpreter settings) :=
  quiet_environment.bind fun _ => quiet_ofExcept _

theorem quiet_resolve (command : String) : Quiet (resolve command) :=
  ((quiet_note _).bind fun _ => quiet_pure _).bind fun _ => quiet_pure _

/-- Making a launcher opens the store of the configuration, where its path is known, and is quiet
but for that. -/
theorem launcher_changes (config : Option String) (settings : Table) (h : Host) :
    Unmoved h ((launcher config settings).runOn h).2
      ∨ ∃ p, configPath config settings = .ok p
        ∧ Unmoved ((Store.openAt p).runOn h).2 ((launcher config settings).runOn h).2 := by
  rw [launcher, runOn_bind, runOn_ofExcept]
  cases hp : configPath config settings with
  | error fault => exact .inl (.refl h)
  | ok p =>
    refine .inr ⟨p, rfl, Quiet.unmoved_bind (fun store => ?_) _ h⟩
    exact (Store.quiet_loadConfig store).bind fun _ => (quiet_interpreter settings).bind fun _ =>
      (quiet_note _).bind fun _ => quiet_environment.bind fun _ => (quiet_ofExcept _).bind fun _ =>
        (Index.quiet_build _).bind fun _ => (quiet_note _).bind fun _ => quiet_pure _

theorem unmoved_search (config : Option String) (settings : Table) (text : String)
    (filter : Option String) (h : Host) :
    Unmoved ((launcher config settings).runOn h).2
      ((search config settings text filter).runOn h).2 := by
  refine Quiet.unmoved_bind (fun l => ?_) _ h
  simp only
  split_ifs
  · exact quiet_pure _
  · split
    · exact quiet_pure _
    · exact (quiet_note _).bind fun _ => quiet_pure _

theorem unmoved_filters (config : Option String) (settings : Table) (h : Host) :
    Unmoved ((launcher config settings).runOn h).2 ((filters config settings).runOn h).2 :=
  Quiet.unmoved_bind (fun _ => quiet_pure _) _ h

/-! ## Command lines -/

/-- The command needs a launcher. -/
inductive Searches : Invocation.Command → Prop where
  | search (text : String) (filter : Option String) : Searches (.search text filter)
  | filters : Searches .filters

/-- The command is none that runs an action. -/
def Asks (inv : Invocation) : Prop :=
  ∀ command, inv.command ≠ .run command

/-- What is done for an invocation once its settings are loaded. -/
theorem runOn_ofInvocation {inv : Invocation} {body : Table → Session Reply} {settings : Table}
    {level : Level} {h h₁ : Host}
    (hinv : ofInvocation inv = do
      let settings ← Settings.load inv.settings
      setThreshold (← Session.ofExcept (Settings.threshold inv.logLevel settings))
      body settings)
    (hload : (Settings.load inv.settings).runOn h = (.ok settings, h₁))
    (hlevel : Settings.threshold inv.logLevel settings = .ok level) :
    (ofInvocation inv).runOn h = (body settings).runOn { h₁ with threshold := level } := by
  rw [hinv, runOn_bind, hload]
  simp only [runOn_bind, runOn_ofExcept, hlevel]
  rfl

/-- Of all that is done for a command that runs no action, only opening the store of the
configuration is more than telling the log. -/
theorem ofInvocation_changes {inv : Invocation} (ha : Asks inv) (h : Host) :
    Unmoved h ((ofInvocation inv).runOn h).2
      ∨ ∃ settings h₁ h₂ p, Searches inv.command
        ∧ (Settings.load inv.settings).runOn h = (.ok settings, h₁)
        ∧ configPath inv.config settings = .ok p ∧ Unmoved h h₂
        ∧ Unmoved ((Store.openAt p).runOn h₂).2 ((ofInvocation inv).runOn h).2 := by
  have hquiet := Settings.quiet_load inv.settings h
  rcases hload : (Settings.load inv.settings).runOn h with ⟨fault | settings, h₁⟩
  · rw [hload] at hquiet
    rw [ofInvocation, runOn_bind, hload]
    exact .inl hquiet
  rw [hload] at hquiet
  cases hlevel : Settings.threshold inv.logLevel settings with
  | error fault =>
    rw [ofInvocation, runOn_bind, hload]
    simp only [runOn_bind, runOn_ofExcept, hlevel]
    exact .inl hquiet
  | ok level =>
    let h₂ : Host := { h₁ with threshold := level }
    have hbegun : Unmoved h h₂ := hquiet.trans (quiet_setThreshold level h₁)
    have hlauncher := launcher_changes inv.config settings h₂
    cases hc : inv.command with
    | resolve command =>
      rw [runOn_ofInvocation (by rw [ofInvocation, hc]) hload hlevel]
      exact .inl (hbegun.trans (quiet_resolve command h₂))
    | run command => exact absurd hc (ha command)
    | search text filter =>
      have hrest := unmoved_search inv.config settings text filter h₂
      rw [runOn_ofInvocation (by rw [ofInvocation, hc]) hload hlevel]
      rcases hlauncher with hsame | ⟨p, hp, hopened⟩
      · exact .inl ((hbegun.trans hsame).trans hrest)
      · exact .inr ⟨settings, h₁, h₂, p, .search text filter, rfl, hp, hbegun, hopened.trans hrest⟩
    | filters =>
      have hrest := unmoved_filters inv.config settings h₂
      rw [runOn_ofInvocation (by rw [ofInvocation, hc]) hload hlevel]
      rcases hlauncher with hsame | ⟨p, hp, hopened⟩
      · exact .inl ((hbegun.trans hsame).trans hrest)
      · exact .inr ⟨settings, h₁, h₂, p, .filters, rfl, hp, hbegun, hopened.trans hrest⟩

/-- The same of a whole command line: for one that is rejected or asks for help nothing is done. -/
theorem ofWords_opens {words : List String} {h h' : Host} {r : Except Fault Reply}
    (ha : ∀ inv, Invocation.ofWords words = .accepted inv → Asks inv)
    (hr : (ofWords words).runOn h = (r, h')) :
    Unmoved h h'
      ∨ ∃ inv settings h₁ h₂ p, Invocation.ofWords words = .accepted inv ∧ Searches inv.command
        ∧ (Settings.load inv.settings).runOn h = (.ok settings, h₁)
        ∧ configPath inv.config settings = .ok p ∧ Unmoved h h₂
        ∧ Unmoved ((Store.openAt p).runOn h₂).2 h' := by
  rw [ofWords] at hr
  cases hw : Invocation.ofWords words with
  | rejected =>
    rw [hw] at hr
    cases hr
    exact .inl (.refl h)
  | help topic =>
    rw [hw] at hr
    cases hr
    exact .inl (.refl h)
  | accepted inv =>
    rw [hw] at hr
    have hchanges := ofInvocation_changes (ha inv hw) h
    rw [show (ofInvocation inv).runOn h = (r, h') from hr] at hchanges
    obtain hu | ⟨settings, h₁, h₂, p, hrest⟩ := hchanges
    · exact .inl hu
    · exact .inr ⟨inv, settings, h₁, h₂, p, rfl, hrest⟩

theorem starts_ofWords {words : List String} {h h' : Host} {r : Except Fault Reply}
    (ha : ∀ inv, Invocation.ofWords words = .accepted inv → Asks inv)
    (hr : (ofWords words).runOn h = (r, h')) : h'.starts = h.starts := by
  obtain hu | ⟨-, -, -, h₂, p, -, -, -, -, hu, hu'⟩ := ofWords_opens ha hr
  · exact hu.starts
  · exact (hu'.starts.trans (Store.starts_openAt (Prod.eta _).symm)).trans hu.starts

theorem parsed_configPath {asked : Option String} {settings : Table} {p : Path}
    (hp : configPath asked settings = .ok p) : p.Parsed := by
  have hsettings : configPath.ofSettings settings = .ok p → p.Parsed := by
    intro h
    obtain ⟨launcher, -, h⟩ := bind_eq_ok_iff.mp h
    obtain ⟨v, -, h⟩ := bind_eq_ok_iff.mp h
    cases v with
    | text name =>
      cases h
      exact Path.parsed_parse name
    | _ => cases h
  unfold configPath at hp
  split at hp
  · split_ifs at hp
    · exact hsettings hp
    · cases hp
      exact Path.parsed_parse _
  · exact hsettings hp

/-- A command line that is rejected, asks for help or for a command that runs no action, whatever
comes of it: no process is started, every file is kept, and at most one is new. That one is the
document of the configuration that the loaded settings or the command line name, with five empty
sections, for a command that needs it and when it was missing. -/
theorem ofWords_changes {words : List String} {h h' : Host} {r : Except Fault Reply}
    (ha : ∀ inv, Invocation.ofWords words = .accepted inv → Asks inv)
    (hr : (ofWords words).runOn h = (r, h')) :
    h'.starts = h.starts
      ∧ (∀ names content, h.tree.at? names = some (.file content) →
          h'.tree.at? names = some (.file content))
      ∧ ((∀ names content, h'.tree.at? names = some (.file content) →
            h.tree.at? names = some (.file content))
        ∨ ∃ inv settings h₁ p path key text, Invocation.ofWords words = .accepted inv
          ∧ Searches inv.command
          ∧ (Settings.load inv.settings).runOn h = (.ok settings, h₁)
          ∧ configPath inv.config settings = .ok p
          ∧ p.expandHome h.environment.home = .ok path
          ∧ (∀ e, h.tree.status path.text ≠ .ok e)
          ∧ Tree.Added h.tree h'.tree path.text key text.toUTF8
          ∧ Json.read text = .ok (.table [("pinned", .list []), ("macroGroups", .list []),
            ("recent", .list []), ("appFilters", .list []), ("tileGroups", .list [])])) := by
  refine ⟨starts_ofWords ha hr, ?_⟩
  obtain hu | ⟨inv, settings, h₁, h₂, p, hw, hs, hload, hp, hu, hu'⟩ := ofWords_opens ha hr
  · rw [hu.tree]
    exact ⟨fun _ _ => id, .inl fun _ _ => id⟩
  rcases ho : (Store.openAt p).runOn h₂ with ⟨opened, h₃⟩
  rw [ho] at hu'
  have hparsed := parsed_configPath hp
  have hchanges := Store.openAt_changes hparsed ho
  rw [hu.tree, hu.environment, ← hu'.tree] at hchanges
  constructor
  · rcases hchanges with hg | ⟨path, key, -, -, -, hadd⟩
    · exact fun _ _ => hg.at?_eq
    · exact fun _ _ => hadd.file
  · rcases hchanges with hg | ⟨path, key, hpath, -, hmiss, hadd⟩
    · exact .inl fun _ _ => hg.file
    · exact .inr ⟨inv, settings, h₁, p, path, key, _, hw, hs, hload, hp, hpath, hmiss, hadd,
        Config.read_document {}⟩

/-- Listing the filters keeps a file of notes and starts nothing. -/
theorem ofWords_changes_of_filters :
    ∃ r h', (ofWords ["--config", "launcher.json", "filters"]).runOn
        { environment := { home := some "home" }
          tree := { entries := [(["notes.txt"], .file ByteArray.empty)] } } = (r, h')
      ∧ h'.starts = [] ∧ h'.tree.at? ["notes.txt"] = some (.file ByteArray.empty) := by
  have hw : Invocation.ofWords ["--config", "launcher.json", "filters"] =
      .accepted { config := some "launcher.json", command := .filters } := rfl
  have ha : ∀ inv, Invocation.ofWords ["--config", "launcher.json", "filters"] = .accepted inv →
      Asks inv := by
    rintro inv hinv command hrun
    rw [hw] at hinv
    cases hinv
    cases hrun
  rcases hr : (ofWords ["--config", "launcher.json", "filters"]).runOn
    { environment := { home := some "home" }
      tree := { entries := [(["notes.txt"], .file ByteArray.empty)] } } with ⟨r, h'⟩
  obtain ⟨hstarts, hkept, -⟩ := ofWords_changes ha hr
  exact ⟨r, h', rfl, hstarts, hkept _ _ rfl⟩

end Reply

end QuickLaunch
