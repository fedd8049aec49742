import QuickLaunch.Proofs.Catalog.Exact
import QuickLaunch.Proofs.Invocation.ReadOnly
import QuickLaunch.Proofs.Launcher.Applied
import QuickLaunch.Proofs.Settings.Overlaid

/-!
# What a search prints

A search loads the settings, opens the configuration, builds the index and hands both to a new
launcher, with a filter and the text. The lines that it prints are said here of the shortcuts of the
index and the entries of the configuration, without a launcher.

* `searchLines_eq`: the lines for a launcher are those for what it was given;
* `exists_runOn_launcher`: the launcher that a search is made with;
* `ofWords_search`: the reply to the command line of a search;
* `ofWords_search_of_unusable_name`: a search that has no reply.
-/

namespace QuickLaunch

namespace Reply

open Session

variable {l : Launcher} {g : Launcher.Given} {f : Filter} {text : String} {shortcuts : List Path}

/-! ## Lines -/

/-- Nothing but blanks is searched for. -/
def Blank (text : String) : Prop :=
  ∀ c ∈ text.toList, Text.isBlankChar c = true

/-- A title has the text in it, without regard to case. -/
def Shows (text title : String) : Prop :=
  Text.lowerChars text.toList <:+: Text.lowerChars title.toList

instance (text : String) : Decidable (Blank text) :=
  List.decidableBAll (fun c => Text.isBlankChar c = true) text.toList

instance (text title : String) : Decidable (Shows text title) :=
  inferInstanceAs (Decidable (_ <:+: _))

/-- The lines of the results: none for a blank text, else the shortcuts and then the pinned actions
that show the text. -/
def resultLines (text : String) (shortcuts : List Path) (pinned : List PinnedConfig) :
    List String :=
  if Blank text then []
  else
    (shortcuts.filter fun p => decide (Shows text p.stem)).map
        (fun p => "  [Shortcut] " ++ p.stem ++ " - Start Menu")
      ++ (pinned.filter fun p => decide (Shows text p.title)).map
        (fun p => "  [Pinned] " ++ p.title ++ " - " ++ p.description)

/-- The lines of the applications: the shortcuts that show the text, unless it is blank, and that
the filter accepts. -/
def applicationLines (text : String) (f : Filter) (shortcuts : List Path) : List String :=
  (shortcuts.filter fun p =>
      decide ((Blank text ∨ Shows text p.stem) ∧ f.accepts (Index.application p) = true)).map
    fun p => "  " ++ p.stem

/-- All lines of a search, with their headings. -/
def printed (text : String) (f : Filter) (shortcuts : List Path) (pinned : List PinnedConfig) :
    List String :=
  (if Blank text then "Recent:" else "Search Results:") :: resultLines text shortcuts pinned
    ++ ("Applications (" ++ f.name ++ "):") :: applicationLines text f shortcuts

theorem resultLine_application (p : Path) :
    resultLine (Index.application p).result = "  [Shortcut] " ++ p.stem ++ " - Start Menu" := by
  refine String.toList_inj.mp ?_
  simp [resultLine, shown, Application.result, Index.application, toString]

theorem resultLine_pinned (p : PinnedConfig) :
    resultLine p.bind.result = "  [Pinned] " ++ p.title ++ " - " ++ p.description := by
  refine String.toList_inj.mp ?_
  simp [resultLine, shown, Pinned.result, PinnedConfig.bind, toString]

theorem lines_found (hg : g.applications = shortcuts.map Index.application) :
    (g.sought (some f)).found.map resultLine = resultLines g.text shortcuts g.config.pinned := by
  have hblank : (g.sought (some f)).Blank ↔ Blank g.text := Iff.rfl
  rw [Finder.Given.found, resultLines]
  simp only [hblank]
  split_ifs with hb
  · rfl
  simp only [Launcher.Given.sought, hg, Config.pinnedEntries, List.filter_map, List.map_append,
    List.map_map]
  exact congrArg₂ (· ++ ·) (List.map_congr_left fun p _ => resultLine_application p)
    (List.map_congr_left fun p _ => resultLine_pinned p)

theorem lines_shown (hg : g.applications = shortcuts.map Index.application) :
    ((g.sought (some f)).shown.map fun app => "  " ++ shown app.title) =
      applicationLines g.text f shortcuts := by
  have htitle : ∀ p, shown (Index.application p).title = p.stem := fun _ => rfl
  have hnames : ∀ p, (g.sought (some f)).Names (Index.application p).title ↔ Shows g.text p.stem :=
    fun _ => Iff.rfl
  have hblank : (g.sought (some f)).Blank ↔ Blank g.text := Iff.rfl
  have hfilter : (g.sought (some f)).filter = some f := rfl
  have happs : (g.sought (some f)).applications = shortcuts.map Index.application := hg
  rw [Finder.Given.shown, applicationLines, happs, List.filter_map, List.map_map]
  simp only [Function.comp_def, htitle, hnames, hblank, hfilter, Option.mem_def, Option.some.injEq,
    forall_eq']

/-- The lines for a launcher that holds the shortcuts, a configuration and a text. -/
theorem searchLines_eq (hl : l.Holds g) (hc : l.finder.Current)
    (hf : l.finder.selected = some f) (hg : g.applications = shortcuts.map Index.application) :
    searchLines l = printed g.text f shortcuts g.config.pinned := by
  have hfinder := hl.finder
  rw [hf] at hfinder
  have hheader : l.finder.header ++ ":" =
      if Blank g.text then "Recent:" else "Search Results:" := by
    have hblank : l.finder.hasSearchText = !decide (Blank g.text) := by
      rw [Finder.hasSearchText, hfinder.searchText, Finder.Given.isBlank_eq]
      exact congrArg _ (decide_eq_decide.mpr Iff.rfl)
    rw [Finder.header, hblank]
    by_cases hb : Blank g.text
    · rw [if_pos hb, decide_eq_true hb]
      decide
    · rw [if_neg hb, decide_eq_false hb]
      decide
  have hname : "Applications (" ++ ((some f).getD Filter.all).name ++ "):" =
      "Applications (" ++ f.name ++ "):" := rfl
  rw [searchLines, hc.1, hc.2, hfinder.filteredNow, hfinder.resultsNow, lines_found hg,
    lines_shown hg, hf, printed, ← hheader]
  rfl

/-! ## Filters -/

theorem blank_iff {text : String} : Text.isBlankChars text.toList = true ↔ Blank text := by
  rw [Text.isBlankChars, List.all_eq_true, Blank]

/-- A filter of a configuration is one of the launcher unless its expression is blank. -/
theorem bind?_eq_none_iff {f : FilterConfig} : f.bind? = none ↔ Blank f.predicate := by
  rw [f.bind?_eq, ← blank_iff]
  split_ifs with hb <;> simp [hb]

theorem name_of_bind? {c : FilterConfig} (hf : c.bind? = some f) : f.name = c.name := by
  obtain ⟨p, -, rfl⟩ := Option.map_eq_some_iff.mp hf
  rfl

/-- A filter is wanted, and neither the one that keeps everything nor one of the configuration whose
expression is not blank has the name, without regard to case. -/
def Unnamed (c : Config) (name : String) : Prop :=
  name ≠ "" ∧ Text.lower name ≠ "all"
    ∧ ∀ f ∈ c.filters, Text.lower f.name = Text.lower name → Blank f.predicate

/-- The filter that a search is made with: the one that keeps everything when none is wanted, else
the first of the name. -/
def Selects (c : Config) (name : String) (f : Filter) : Prop :=
  name = "" ∧ f = Filter.all
    ∨ name ≠ "" ∧ ∃ before behind, Filter.all :: c.filterEntries = before ++ f :: behind
      ∧ (∀ other ∈ before, Text.lower other.name ≠ Text.lower name)
      ∧ Text.lower f.name = Text.lower name

theorem unnamed_iff {c : Config} {name : String} (hn : name ≠ "") :
    Unnamed c name ↔ ∀ f ∈ Filter.all :: c.filterEntries, Text.lower f.name ≠ Text.lower name := by
  have hall : Text.lower Filter.all.name = "all" := by decide
  have hentries : (∀ f ∈ c.filterEntries, Text.lower f.name ≠ Text.lower name) ↔
      ∀ f ∈ c.filters, Text.lower f.name = Text.lower name → Blank f.predicate := by
    constructor
    · intro h f hf hname
      rw [← bind?_eq_none_iff]
      cases hb : f.bind? with
      | none => rfl
      | some bound =>
        refine absurd ?_ (h bound (List.mem_filterMap.mpr ⟨f, hf, hb⟩))
        rw [name_of_bind? hb, hname]
    · intro h bound hbound hname
      obtain ⟨f, hf, hb⟩ := List.mem_filterMap.mp hbound
      rw [name_of_bind? hb] at hname
      rw [bind?_eq_none_iff.mpr (h f hf hname)] at hb
      cases hb
  rw [List.forall_mem_cons, hall, hentries, Unnamed, ne_comm (a := "all")]
  exact ⟨fun h => h.2, fun h => ⟨hn, h⟩⟩

/-! ## The launcher of a search -/

variable {config filter : Option String} {settings : Table} {p path : Path} {x : Index}
  {i : Interpreter} {c : Config} {h h₁ : Host}

/-- The launcher with a configuration and the shortcuts of an index. -/
def made (i : Interpreter) (c : Config) (shortcuts : List Path) : Launcher :=
  ((Launcher.ofInterpreter i).apply c).setApplications (shortcuts.map Index.application)

/-- When the store can be opened and interpreter and index can be made of the settings, there is a
launcher if the index can be built. -/
theorem exists_runOn_launcher (hp : configPath config settings = .ok p)
    (ho : (Store.openAt p).runOn h = (.ok { path := path }, h₁))
    (hi : Interpreter.ofSettings h.environment.family (.table settings) = .ok i)
    (hx : Index.ofSettings h.environment.home (.table settings) = .ok x)
    (hb : (x.build.runOn h₁).1 = .ok (shortcuts.map Index.application)) :
    ∃ h', (launcher config settings).runOn h =
      (.ok (made i (Store.load { path := path } h₁.tree).1 shortcuts), h') := by
  rw [← Store.environment_openAt ho] at hi hx
  -- The log has grown until the index is built, but building reads the tree alone.
  have hbuild : ∀ h₂ : Host, h₂.tree = h₁.tree →
      ∃ h', x.build.runOn h₂ = (.ok (shortcuts.map Index.application), h') := by
    intro h₂ ht
    have hfst : (x.build.runOn h₂).1 = .ok (shortcuts.map Index.application) := by
      rw [← hb, Index.fst_runOn_build, Index.fst_runOn_build, ht]
    exact ⟨_, Prod.ext hfst rfl⟩
  obtain ⟨h₂, hbuilt⟩ := hbuild ((h₁.note (Store.load { path := path } h₁.tree).2).note
    (Store.load { path := path } h₁.tree).1.entryEvents) rfl
  have henv : ∀ (h : Host) events, (h.note events).environment = h.environment := fun _ _ => rfl
  simp only [launcher, interpreter, runOn_bind, runOn_ofExcept, hp, ho, Store.runOn_loadConfig,
    runOn_environment, henv, hi, runOn_note, hx, hbuilt, runOn_pure, made]
  exact ⟨_, rfl⟩

/-- There is no reply to a search when the store cannot be opened. -/
theorem runOn_search_of_fault {fault : Fault} (hp : configPath config settings = .ok p)
    (ho : (Store.openAt p).runOn h = (.error fault, h₁)) :
    (search config settings text filter).runOn h = (.error fault, h₁) := by
  simp only [search, launcher, runOn_bind, runOn_ofExcept, hp, ho]

theorem selected_made (i : Interpreter) (c : Config) (shortcuts : List Path) :
    (made i c shortcuts).finder.selected = some Filter.all :=
  Launcher.selected_selectFilter _ _

/-- The lines of a search with the filter that keeps everything, and with another one. -/
theorem searchLines_made (i : Interpreter) (c : Config) (shortcuts : List Path) (text : String) :
    searchLines ((made i c shortcuts).search (some text)) =
        printed text Filter.all shortcuts c.pinned
      ∧ ∀ f, searchLines (((made i c shortcuts).select (some f)).search (some text)) =
        printed text f shortcuts c.pinned := by
  let g : Launcher.Given :=
    { applications := shortcuts.map Index.application, config := c, text := text }
  have happs : g.applications = shortcuts.map Index.application := rfl
  -- What is searched is a new launcher after some operations, and holds what they gave it last.
  have hlines : ∀ (ops : List Launcher.Operation) (f : Filter),
      ((Launcher.ofInterpreter i).run {} ops).1.finder.selected = some f →
      ops.foldl Launcher.Given.after {} = g →
      searchLines ((Launcher.ofInterpreter i).run {} ops).1 =
        printed text f shortcuts c.pinned := by
    intro ops f hf hg
    have hl := (Launcher.holds_new i).run {} ops
    rw [hg] at hl
    have hc := Launcher.current_run (Launcher.current_new i) {} ops
    have hprinted := searchLines_eq hl hc hf happs
    exact hprinted
  constructor
  · have hrun : ((Launcher.ofInterpreter i).run {} [.apply c,
        .setApplications (shortcuts.map Index.application), .search (some text)]).1 =
        (made i c shortcuts).search (some text) := rfl
    rw [← hrun]
    refine hlines _ Filter.all ?_ rfl
    rw [hrun, Launcher.search, Launcher.selected_setSearchText, selected_made]
  · intro f
    have hrun : ((Launcher.ofInterpreter i).run {} [.apply c,
        .setApplications (shortcuts.map Index.application), .select (some f),
        .search (some text)]).1 =
        ((made i c shortcuts).select (some f)).search (some text) := rfl
    rw [← hrun]
    refine hlines _ f ?_ rfl
    rw [hrun, Launcher.search, Launcher.selected_setSearchText, Launcher.select,
      Launcher.selected_selectFilter]

theorem filters_made (i : Interpreter) (c : Config) (shortcuts : List Path) :
    (made i c shortcuts).filters = Filter.all :: c.filterEntries := rfl

/-! ## The reply to a search -/

/-- A reply with the status 1 and no lines, if and only if there is no filter of the name; else one
with the status 0 and the lines for the filter that is selected. -/
structure Answers (c : Config) (shortcuts : List Path) (text name : String) (reply : Reply) :
    Prop where
  unnamed : reply = { status := 1, lines := [] } ↔ Unnamed c name
  named : ¬ Unnamed c name → ∃ f, Selects c name f
    ∧ reply = { status := 0, lines := printed text f shortcuts c.pinned }

theorem answers_of_selects {name : String} (hs : Selects c name f) (hu : ¬ Unnamed c name) :
    Answers c shortcuts text name
      { status := 0, lines := printed text f shortcuts c.pinned } where
  unnamed := ⟨nofun, fun h => absurd h hu⟩
  named _ := ⟨f, hs, rfl⟩

theorem answers_of_unnamed {name : String} (hu : Unnamed c name) :
    Answers c shortcuts text name { status := 1 } where
  unnamed := ⟨fun _ => hu, fun _ => rfl⟩
  named h := absurd hu h

theorem exists_runOn_search (text : String) (filter : Option String)
    (hl : (launcher config settings).runOn h = (.ok (made i c shortcuts), h₁)) :
    ∃ reply h', (search config settings text filter).runOn h = (.ok reply, h')
      ∧ Answers c shortcuts text (filter.getD "") reply := by
  obtain ⟨hall, hselected⟩ := searchLines_made i c shortcuts text
  rw [search, runOn_bind, hl]
  simp only
  split_ifs with hn
  · rw [hall]
    exact ⟨_, _, rfl, answers_of_selects (.inl ⟨hn, rfl⟩) fun hu => hu.1 hn⟩
  · cases hf : (made i c shortcuts).filterNamed? (filter.getD "") with
    | none =>
      have hu : Unnamed c (filter.getD "") :=
        (unnamed_iff hn).mpr (Launcher.filterNamed?_eq_none_iff.mp hf)
      exact ⟨_, _, rfl, answers_of_unnamed hu⟩
    | some f =>
      have hfirst := Launcher.filterNamed?_eq_some_iff.mp hf
      have hu : ¬ Unnamed c (filter.getD "") := by
        rw [unnamed_iff hn, ← filters_made i c shortcuts, ← Launcher.filterNamed?_eq_none_iff, hf]
        exact nofun
      simp only [hselected]
      exact ⟨_, _, rfl, answers_of_selects (.inr ⟨hn, hfirst⟩) hu⟩

/-- In a settings file eight hexadecimal digits name half of a surrogate pair: they stand behind a
backslash and a letter once the numbers of four digits have been read. -/
def NamesHalf (s : List Char) : Prop :=
  ∃ piece t, piece <:+: s ∧ Toml.replaceScalars? 'u' 4 piece = some t
    ∧ ∃ ds ∈ (Text.splitOn ['\\', 'U'] t).drop 1,
      (Numeral.digits? 16 false 0 (ds.take 8)).any Json.isHalf = true

/-- What the options of a command line name is there or can be made: the settings in force, the path
of the configuration, the index that is built once the configuration is open, and the tree then.
Half of a surrogate pair alone is no character: the settings have none, and what is searched for and
printed of the configuration has none. -/
structure Provided (h : Host) (inv : Invocation) (settings : Table) (path : Path) (x : Index)
    (t : Tree) : Prop where
  proper : h.tree.Proper
  /-- The settings are those of a well-typed file over the default ones, or the default ones when
  the file cannot be read. -/
  loaded : ∃ defaults file, Settings.defaults h.environment = .ok defaults
    ∧ Settings.fileNamed h.environment inv.settings = .ok file ∧ Tree.Fits file.text
    ∧ (∀ s, h.tree.readText file.text = .ok s → ¬ NamesHalf s.toList)
    ∧ (∀ own, Settings.ofFile h.tree file = .ok own → Settings.WellTyped own)
    ∧ (Settings.overlayFile h.tree file defaults).1 = settings
  level : ∃ level, Settings.threshold inv.logLevel settings = .ok level
  /-- The directories on the way to the configuration can be made, and where it is missing then its
  path has no null character. -/
  placed : ∃ p made, configPath inv.config settings = .ok p
    ∧ p.expandHome h.environment.home = .ok path
    ∧ h.tree.makeDirectories path.parent = (made, none) ∧ Tree.Fits path.text
    ∧ (made.exists? path.text = .ok false → '\x00' ∉ path.text.toList)
    ∧ ((Store.openAt p).runOn h).2.tree = t
  /-- Where half of a surrogate pair stands alone in the document, the null character stands for it.
  That one is then neither looked for nor printed. -/
  whole : ∀ s, t.readText path.text = .ok s → Json.leavesHalf s.toList = true →
    ∀ text filter, inv.command = .search text filter →
      '\x00' ∉ text.toList ∧ '\x00' ∉ (filter.getD "").toList
        ∧ ∀ line ∈ resultLines text [] (Store.load { path := path } t).1.pinned,
          '\x00' ∉ line.toList
  indexed : Index.ofSettings h.environment.home (.table settings) = .ok x
  readable : x.Readable t

/-- What an accepted command does once its settings are loaded. -/
theorem runOn_ofWords_search {words : List String} {inv : Invocation} {level : Level}
    {events : List Event} (hw : Invocation.ofWords words = .accepted inv)
    (hc : inv.command = .search text filter)
    (hload : (Settings.load inv.settings).runOn h = (.ok settings, h.note events))
    (hl : Settings.threshold inv.logLevel settings = .ok level) :
    (ofWords words).runOn h =
      (search inv.config settings text filter).runOn { h.note events with threshold := level } := by
  rw [ofWords, hw]
  exact runOn_ofInvocation (by rw [ofInvocation, hc]) hload hl

/-- A search with settings, a configuration and an index that are provided has a reply and starts no
process. The reply is that to the configuration and the shortcuts of the directories in turn. -/
theorem ofWords_search {words : List String} {inv : Invocation} {t : Tree}
    (hw : Invocation.ofWords words = .accepted inv) (hc : inv.command = .search text filter)
    (hprovided : Provided h inv settings path x t) :
    ∃ reply h' listings, (ofWords words).runOn h = (.ok reply, h') ∧ h'.starts = h.starts
      ∧ List.Forall₂ (Index.Contributes t x.patterns) x.directories listings
      ∧ Answers (Store.load { path := path } t).1 listings.flatten text (filter.getD "") reply := by
  obtain ⟨defaults, file, hd, hfile, hfits, -, htyped, rfl⟩ := hprovided.loaded
  obtain ⟨level, hlevel⟩ := hprovided.level
  obtain ⟨p, made, hp, hpath, hm, hpathfits, hnull, rfl⟩ := hprovided.placed
  obtain ⟨events, hload⟩ := Settings.runOn_load_of_fits hd hfile hfits
  have hcomplete := Settings.complete_overlayFile hd htyped
  obtain ⟨i, hi⟩ := hcomplete.exists_interpreter h.environment.family
  have hparsed := parsed_configPath hp
  obtain ⟨h₁, ho⟩ := Store.exists_openAt hparsed hpath hm hpathfits hnull
  rw [ho] at hprovided ⊢
  -- The log and its threshold play no part in opening the store.
  let begun : Host := { h.note events with threshold := level }
  have henvironment : begun.environment = h.environment := rfl
  obtain ⟨h₂, ho₂, ht₂⟩ := Store.exists_openAt_congr henvironment rfl ho
  obtain ⟨listings, hlistings, hbuild⟩ := Index.build_eq (h := h₂)
    (ht₂ ▸ Store.proper_openAt hprovided.proper ho)
    (Index.rooted_of_ofSettings hprovided.indexed) (ht₂ ▸ hprovided.readable)
  obtain ⟨h₃, hlauncher⟩ := exists_runOn_launcher hp ho₂ hi hprovided.indexed hbuild
  obtain ⟨reply, h', hsearch, hanswers⟩ := exists_runOn_search text filter hlauncher
  have hrun : (ofWords words).runOn h = (.ok reply, h') :=
    (runOn_ofWords_search hw hc hload hlevel).trans hsearch
  have hasks : ∀ other, Invocation.ofWords words = .accepted other → Asks other := by
    rintro other hother command hcommand
    rw [hw] at hother
    cases hother
    rw [hc] at hcommand
    cases hcommand
  rw [ht₂] at hlistings hanswers
  exact ⟨reply, h', listings, hrun, starts_ofWords hasks hrun, hlistings, hanswers⟩

/-! ## With a home directory and no settings file -/

/-- An environment with a home directory and nothing else. -/
def atHome : Environment :=
  { home := some "home" }

/-- The default settings there. -/
def homeSettings : Table := [
  ("launcher", .table [("config_path", .text "home/.config/palette/launcher.json")]),
  ("shell", .table [("program", .text "sh"), ("args", .list [.text "-c"])]),
  ("index", .table [
    ("directories",
      .list [.text "home/.local/share/applications", .text "/usr/share/applications"]),
    ("patterns", .list [.text "*.desktop"])]),
  ("logging", .table [("level", .text "INFO")])]

/-- The index that is made of them. -/
def homeIndex : Index where
  directories := [{ names := ["home", ".local", "share", "applications"] },
    { root := "/", names := ["usr", "share", "applications"] }]
  patterns := [.text "*.desktop"]

theorem indexed_homeSettings :
    Index.ofSettings atHome.home (.table homeSettings) = .ok homeIndex :=
  rfl

theorem readable_homeIndex {t : Tree}
    (hmissing : ∀ d ∈ homeIndex.directories, t.isDirectory? d.text = .ok false) :
    homeIndex.Readable t where
  directories d hd := ⟨false, hmissing d hd⟩
  patterns := by
    intro d hd hthere
    rw [hmissing d hd] at hthere
    cases hthere

/-- A document with two pinned actions and a text in the place of one, and with two filters whose
names differ in case, the first of which has a blank expression. -/
def homeDocument : Value := .table [
  ("pinned", .list [
    .table [("title", .text "Find"), ("description", .text "Look it up")],
    .text "Notes", .table [("title", .text "Mail")]]),
  ("appFilters", .list [
    .table [("name", .text "web"), ("predicate", .text " ")],
    .table [("name", .text "Web"), ("predicate", .text "fire")]])]

/-- A tree with that document, and with shortcuts of the user and of the system. -/
def homeTree : Tree where
  workingDirectory := ["work"]
  entries := [
    (["work", "launcher.json"], .file (Json.write .compact homeDocument).toUTF8),
    (["work", "home"], .directory),
    (["work", "home", ".local"], .directory),
    (["work", "home", ".local", "share"], .directory),
    (["work", "home", ".local", "share", "applications"], .directory),
    (["work", "home", ".local", "share", "applications", "Firefox.desktop"],
      .file ByteArray.empty),
    (["usr"], .directory),
    (["usr", "share"], .directory),
    (["usr", "share", "applications"], .directory),
    (["usr", "share", "applications", "readme.txt"], .file ByteArray.empty),
    (["usr", "share", "applications", "Files.desktop"], .file ByteArray.empty)]

theorem proper_homeTree : homeTree.Proper := by
  decide

/-- What the first directory of the index holds. -/
theorem shortcuts_own :
    Index.shortcuts homeTree homeIndex.patterns
        { names := ["home", ".local", "share", "applications"] } =
      .ok [{ names := ["home", ".local", "share", "applications", "Firefox.desktop"] }] := by
  with_unfolding_all rfl

/-- What the second directory of the index holds. -/
theorem shortcuts_shared :
    Index.shortcuts homeTree homeIndex.patterns
        { root := "/", names := ["usr", "share", "applications"] } =
      .ok [{ root := "/", names := ["usr", "share", "applications", "Files.desktop"] }] := by
  with_unfolding_all rfl

theorem isDirectory?_homeTree :
    ∀ d ∈ homeIndex.directories, homeTree.isDirectory? d.text = .ok true := by
  intro d hd
  rcases List.mem_pair.mp hd with rfl | rfl <;> rfl

theorem readable_homeTree : homeIndex.Readable homeTree where
  directories d hd := ⟨true, isDirectory?_homeTree d hd⟩
  patterns d hd _ := by
    rw [← Index.exists_shortcuts_iff]
    rcases List.mem_pair.mp hd with rfl | rfl
    · exact ⟨_, shortcuts_own⟩
    · exact ⟨_, shortcuts_shared⟩

theorem textual_homeDocument : Json.Textual homeDocument := by
  refine .table _ (by decide) (List.forall_mem_cons.mpr ⟨.list _ ?_, List.forall_mem_singleton.mpr
    (.list _ ?_)⟩)
  · refine List.forall_mem_cons.mpr ⟨textual_of_texts (by decide) ?_, List.forall_mem_cons.mpr
      ⟨.text _, List.forall_mem_singleton.mpr (textual_of_texts (by decide) ?_)⟩⟩ <;> simp
  · refine List.forall_mem_cons.mpr ⟨textual_of_texts (by decide) ?_,
      List.forall_mem_singleton.mpr (textual_of_texts (by decide) ?_)⟩ <;> simp

theorem readText_homeTree :
    homeTree.readText "launcher.json" = .ok (Json.write .compact homeDocument) := by
  have hread : homeTree.read "launcher.json" =
      .ok (Json.write .compact homeDocument).toUTF8 := rfl
  have hreturn : '\r' ∉ (Json.write .compact homeDocument).toList := by
    intro hr
    rcases Json.inDocument_write textual_homeDocument .compact _ hr with h | h
    · cases h
    · exact absurd h (by decide)
  rw [Tree.readText, hread, Except.bind, decodeText_toUTF8 hreturn]

theorem document_homeTree :
    Store.document { path := { names := ["launcher.json"] } } homeTree = .ok homeDocument := by
  have htext : ({ names := ["launcher.json"] } : Path).text = "launcher.json" := rfl
  rw [Store.document, htext, readText_homeTree, Except.bind]
  exact Json.read_write textual_homeDocument .compact

theorem whole_homeDocument :
    Json.leavesHalf (Json.write .compact homeDocument).toList = false := by
  rw [Json.write, String.toList_ofList]
  decide +kernel

/-- The search of a filter and of a text with the document of that tree. -/
theorem provided_homeTree :
    Provided { environment := atHome, tree := homeTree }
      { config := some "launcher.json", command := .search "Fi" (some "wEB") } homeSettings
      { names := ["launcher.json"] } homeIndex homeTree where
  proper := proper_homeTree
  loaded := by
    have hread : homeTree.readText "home/.config/palette/settings.toml" =
        .error .noSuchFile := rfl
    have hfile : Settings.ofFile homeTree
        { names := ["home", ".config", "palette", "settings.toml"] } = .error .noSuchFile := rfl
    refine ⟨homeSettings, { names := ["home", ".config", "palette", "settings.toml"] }, rfl, rfl,
      ⟨by decide, by decide⟩, fun s hs => ?_, fun own hown => ?_, rfl⟩
    · cases hread.symm.trans hs
    · cases hfile.symm.trans hown
  level := ⟨.info, rfl⟩
  placed := by
    have hstatus : homeTree.status ({ names := ["launcher.json"] } : Path).text =
        .ok (.file (Json.write .compact homeDocument).toUTF8) := rfl
    have hthere := Tree.exists?_eq_ok_true_iff.mpr ⟨_, hstatus⟩
    have hopen := Store.openAt_of_status (h := { environment := atHome, tree := homeTree })
      (Path.parsed_parse "launcher.json") rfl hstatus
    refine ⟨_, homeTree, rfl, rfl, rfl, ⟨by decide, by decide⟩, fun hmiss => ?_, by rw [hopen]⟩
    cases hthere.symm.trans hmiss
  indexed := indexed_homeSettings
  readable := readable_homeTree
  whole := by
    intro s hs hhalf
    obtain rfl := Except.ok.inj (readText_homeTree.symm.trans hs)
    cases whole_homeDocument.symm.trans hhalf

/-- The shortcuts of that tree. -/
def homeShortcuts : List Path := [
  { names := ["home", ".local", "share", "applications", "Firefox.desktop"] },
  { root := "/", names := ["usr", "share", "applications", "Files.desktop"] }]

/-- The filter of that document. -/
def homeFilter : Filter where
  name := "Web"
  predicate := some (.title "fire")

theorem flatten_homeTree {listings : List (List Path)}
    (h : List.Forall₂ (Index.Contributes homeTree homeIndex.patterns) homeIndex.directories
      listings) : listings.flatten = homeShortcuts := by
  obtain ⟨⟩ | ⟨hown, ⟨⟩ | ⟨hshared, ⟨⟩⟩⟩ := h
  have hrooted := Index.rooted_of_ofSettings indexed_homeSettings
  have hlists : ∀ d ∈ homeIndex.directories, ∀ paths found,
      Index.Contributes homeTree homeIndex.patterns d paths →
      Index.shortcuts homeTree homeIndex.patterns d = .ok found → paths = found :=
    fun d hd paths found hc hs => (hc.1 (isDirectory?_homeTree d hd)).unique
      (Index.lists_shortcuts proper_homeTree (hrooted d hd) hs)
  rw [hlists _ List.mem_cons_self _ _ hown shortcuts_own,
    hlists _ (List.mem_cons_of_mem _ List.mem_cons_self) _ _ hshared shortcuts_shared]
  rfl

theorem not_unnamed_homeDocument : ¬ Unnamed (Config.ofValue homeDocument) "wEB" := by
  rintro ⟨-, -, hblank⟩
  exact absurd (hblank { name := "Web", predicate := "fire" } (by decide) (by decide)) (by decide)

theorem eq_homeFilter_of_selects (h : Selects (Config.ofValue homeDocument) "wEB" f) :
    f = homeFilter := by
  have hentries : Filter.all :: (Config.ofValue homeDocument).filterEntries =
      [Filter.all, homeFilter] := rfl
  obtain ⟨hn, -⟩ | ⟨-, before, behind, hsplit, -, hname⟩ := h
  · exact absurd hn (by decide)
  · rw [hentries] at hsplit
    rcases before with _ | ⟨first, _ | ⟨second, before⟩⟩
    · obtain ⟨rfl, -⟩ := List.cons.inj hsplit
      exact absurd hname (by decide)
    · obtain ⟨-, hrest⟩ := List.cons.inj hsplit
      exact (List.cons.inj hrest).1.symm
    · simp at hsplit

/-- Of the filters of almost one name the one counts whose expression is not blank. -/
theorem ofWords_search_of_filter :
    ∃ h', (ofWords ["--config", "launcher.json", "search", "--filter", "wEB", "Fi"]).runOn
        { environment := atHome, tree := homeTree } =
        (.ok { status := 0, lines := [
          "Search Results:", "  [Shortcut] Firefox - Start Menu", "  [Shortcut] Files - Start Menu",
          "  [Pinned] Find - Look it up", "Applications (Web):", "  Firefox"] }, h')
      ∧ h'.starts = [] := by
  have hw : Invocation.ofWords ["--config", "launcher.json", "search", "--filter", "wEB", "Fi"] =
      .accepted { config := some "launcher.json", command := .search "Fi" (some "wEB") } := rfl
  obtain ⟨reply, h', listings, hrun, hstarts, hlistings, hanswers⟩ :=
    ofWords_search hw rfl provided_homeTree
  have hload : (Store.load { path := { names := ["launcher.json"] } } homeTree).1 =
      Config.ofValue homeDocument := by
    rw [Store.load, document_homeTree]
  rw [hload, flatten_homeTree hlistings] at hanswers
  obtain ⟨f, hs, rfl⟩ := hanswers.named not_unnamed_homeDocument
  obtain rfl := eq_homeFilter_of_selects hs
  have hpinned : (Config.ofValue homeDocument).pinned =
      [{ title := "Find", description := "Look it up" }, { title := "Mail" }] := rfl
  have hlines : printed "Fi" homeFilter homeShortcuts
      [{ title := "Find", description := "Look it up" }, { title := "Mail" }] =
      ["Search Results:", "  [Shortcut] Firefox - Start Menu", "  [Shortcut] Files - Start Menu",
        "  [Pinned] Find - Look it up", "Applications (Web):", "  Firefox"] := by
    decide +kernel
  rw [hpinned, hlines] at hrun
  exact ⟨h', hrun, hstarts⟩

theorem ofWords_of_config {name : String} (hn : name.toList.head? ≠ some '-') :
    Invocation.ofWords ["--config", name, "search", "x"] =
      .accepted { config := some name, command := .search "x" none } := by
  have hword : Invocation.Word.ofText? Invocation.generalOptions name = some (.plain name) := by
    simp [Invocation.Word.ofText?, hn]
  have hhyphens : name ≠ "--" := by
    rintro rfl
    exact hn rfl
  have hforms : ["--config", name, "search", "x"].mapM
      (Invocation.Word.ofText? Invocation.generalOptions) =
        some [.option "--config" none, .plain name, .plain "search", .plain "x"] := by
    have hconfig : Invocation.Word.ofText? Invocation.generalOptions "--config" =
      some (.option "--config" none) := rfl
    have hsearch : Invocation.Word.ofText? Invocation.generalOptions "search" =
      some (.plain "search") := rfl
    have hx : Invocation.Word.ofText? Invocation.generalOptions "x" = some (.plain "x") := rfl
    simp [List.mapM_cons, hconfig, hsearch, hx, hword]
  simp [Invocation.ofWords, Invocation.cutAtHyphens, hhyphens, hforms]
  rfl

theorem configPath_some {name : String} (hn : name ≠ "") (settings : Table) :
    configPath (some name) settings = .ok (Path.parse name) :=
  if_neg hn

theorem exists_runOn_load_atHome :
    ∃ events, (Settings.load none).runOn { environment := atHome } =
      (.ok homeSettings, Host.note { environment := atHome } events) :=
  ⟨[.settingsMissing "home/.config/palette/settings.toml"], rfl⟩

/-- There is no reply to a search when the store of the configuration that is named cannot be
opened, although its path is known and no directory has to be made for it. -/
theorem ofWords_of_unopened {name : String} {fault : Fault} (hempty : name ≠ "")
    (hname : name.toList.head? ≠ some '-')
    (hopen : ∀ h : Host, ∃ path, (Path.parse name).expandHome h.environment.home = .ok path
      ∧ (∀ e, h.tree.status path.text ≠ .ok e)
      ∧ h.tree.makeDirectories path.parent = (h.tree, none)
      ∧ (Store.openAt (Path.parse name)).runOn h = (.error fault, h)) :
    let h : Host := { environment := atHome }
    Invocation.ofWords ["--config", name, "search", "x"] =
        .accepted { config := some name, command := .search "x" none }
      ∧ (∃ p path, configPath (some name) homeSettings = .ok p
        ∧ p.expandHome h.environment.home = .ok path
        ∧ h.tree.makeDirectories path.parent = (h.tree, none))
      ∧ ((ofWords ["--config", name, "search", "x"]).runOn h).1 = .error fault := by
  intro h
  have hw := ofWords_of_config hname
  have hp := configPath_some hempty homeSettings
  obtain ⟨events, hload⟩ := exists_runOn_load_atHome
  have hlevel : Settings.threshold none homeSettings = .ok .info := rfl
  obtain ⟨path, hpath, -, hm, -⟩ := hopen h
  obtain ⟨-, -, -, -, ho⟩ := hopen { h.note events with threshold := .info }
  refine ⟨hw, ⟨_, path, hp, hpath, hm⟩, ?_⟩
  rw [runOn_ofWords_search hw rfl hload hlevel, runOn_search_of_fault hp ho]

/-- With a configuration whose name has 300 letters or a null character there is no reply to a
search, although no directory has to be made for it, and settings and index are the default ones. -/
theorem ofWords_search_of_unusable_name :
    let long := String.ofList (List.replicate 300 'a')
    let h : Host := { environment := atHome }
    ((Settings.load none).runOn h).1 = .ok homeSettings
      ∧ Settings.threshold none homeSettings = .ok .info
      ∧ Index.ofSettings h.environment.home (.table homeSettings) = .ok homeIndex
      ∧ homeIndex.Readable h.tree
      ∧ ∀ name fault, name = long ∧ fault = .nameTooLong ∨ name = "a\x00" ∧ fault = .nullCharacter →
        Invocation.ofWords ["--config", name, "search", "x"] =
            .accepted { config := some name, command := .search "x" none }
          ∧ (∃ p path, configPath (some name) homeSettings = .ok p
            ∧ p.expandHome h.environment.home = .ok path
            ∧ h.tree.makeDirectories path.parent = (h.tree, none))
          ∧ ((ofWords ["--config", name, "search", "x"]).runOn h).1 = .error fault := by
  intro long h
  obtain ⟨events, hload⟩ := exists_runOn_load_atHome
  have hmissing : ∀ d ∈ homeIndex.directories, h.tree.isDirectory? d.text = .ok false := by
    intro d hd
    rcases List.mem_pair.mp hd with rfl | rfl <;> rfl
  refine ⟨by rw [hload], rfl, indexed_homeSettings, readable_homeIndex hmissing, ?_⟩
  rintro name fault (⟨rfl, rfl⟩ | ⟨rfl, rfl⟩)
  · have hother : ∀ {c : Char}, c ≠ 'a' → c ∉ long.toList := Tree.not_mem_replicate
    have hlong : Tree.maxNameBytes < long.utf8ByteSize :=
      Tree.maxNameBytes_lt_replicate (by decide) 'a'
    exact ofWords_of_unopened (Tree.ordinary_of_long hlong).1
      (fun hh => hother (by decide) (List.mem_of_head? hh))
      fun h => Store.openAt_of_long h (hother (by decide)) (hother (by decide))
        (hother (by decide)) hlong
  · exact ofWords_of_unopened (by decide) (by decide)
      fun h => Store.openAt_of_null h (by decide) (by decide) (by decide) (by decide)

end Reply

end QuickLaunch
