import QuickLaunch.Proofs.Catalog.Exact
import QuickLaunch.Proofs.Files.Lookups
import QuickLaunch.Proofs.Text.LowerCase
import QuickLaunch.Runner

/-!
# Opening what an index holds

An application of an index is the path of a file and stays one: it is not read as a command again,
so that its names may look like commands. While the files are as they were when the index was built
it can be opened, and opening it starts the opener of the desktop and nothing else.

* `Runner.run_launch_of_unrefused`: opening a file that is there;
* `Index.gio_of_names`: what a pattern of desktop entries names is handed to the launcher;
* `Index.run_of_mem_build`: what becomes of running an application of an index.
-/

namespace QuickLaunch

/-! ## The words of the opener -/

theorem getLast?_openWords (desktop : Desktop) (path : String) :
    (openWords desktop path).getLast? = some path := by
  cases desktop with
  | mac => rfl
  | freedesktop =>
    rw [openWords]
    split_ifs <;> rfl
  | windows =>
    rw [openWords]
    split_ifs <;> rfl

theorem openWords_of_suffix {path : String} (h : entrySuffix <:+ path.toList) :
    openWords .freedesktop path = ["gio", "launch", path] := by
  have hlower : entrySuffix <:+ Text.lowerChars path.toList :=
    Text.suffix_lowerChars (by decide) (by decide) h
  rw [openWords, if_pos (List.isSuffixOf_iff_suffix.mpr hlower)]

/-- All desktops but one open files by a process of the launcher's own. -/
theorem openRequest_of_ne {desktop : Desktop} (hd : desktop ≠ .windows) (path : String) :
    openRequest desktop path = .words ((openWords desktop path).map .text)
      ∧ openTies desktop = some Ties.cut := by
  cases desktop with
  | windows => exact absurd rfl hd
  | mac => exact ⟨rfl, rfl⟩
  | freedesktop => exact ⟨rfl, rfl⟩

/-! ## Opening a file -/

namespace Runner

variable {h : Host} {path : String}

theorem canRun_launch (t : Tree) (path : String) : canRun t (.launch path) = t.isFile path := by
  rw [canRun]

/-- A file that is there is opened unless the start is refused, whatever the interpreter is. -/
theorem run_launch_of_unrefused (i : Interpreter) (hf : h.tree.isFile path = true)
    (hr : h.nextRule.fail = none) :
    run i h (.launch path) =
      ((h.start (openRequest h.environment.desktop path) (openTies h.environment.desktop)).2,
        [⟨.launch path, .done⟩]) := by
  rw [run_launch_of_isFile i h hf, runOn_openFile, Host.start, hr]
  rfl

end Runner

/-! ## Applications of an index -/

namespace Index

/-- What the pattern of desktop entries names is handed to the launcher of the desktop. -/
theorem gio_of_names {t : Tree} {d p : Path} (h : Names t d (.text "*.desktop") p) :
    openWords .freedesktop p.text = ["gio", "launch", p.text] := by
  obtain ⟨text, htext, names, hparse, hselects⟩ := h
  obtain rfl : "*.desktop" = text := Except.ok.inj htext
  have hnames : Pattern.parse "*.desktop" = .ok [.wildcard "*.desktop"] := rfl
  obtain rfl := Except.ok.inj (hnames.symm.trans hparse)
  obtain ⟨below, -, children, name, e, -, -, -, hfollows, rfl⟩ := hselects
  have hparts : Wildcard.parts "*.desktop".toList = .star :: entrySuffix.map .exactly := by decide
  exact openWords_of_suffix ((hfollows.suffix hparts).trans (Path.suffix_text_child below name))

/-- Of an index that could be built, every application is the path of a file. On a host with the
same files it can be run, and running it succeeds: it starts one process, the opener of the desktop
with the path as its last word, unless the start is refused. A desktop entry is handed to the
launcher of the desktop. The interpreter plays no part in it, whatever the names in the path are. -/
theorem run_of_mem_build {x : Index} {h : Host} {apps : List Application}
    (hb : (x.build.runOn h).1 = .ok apps) {a : Application} (ha : a ∈ apps) (i : Interpreter)
    {h' : Host} (ht : h'.tree = h.tree) (hd : h'.environment.desktop ≠ .windows)
    (hr : h'.nextRule.fail = none) :
    ∃ (p : Path) (content : ByteArray),
      a.action = .launch p.text ∧ h.tree.status p.text = .ok (.file content)
        ∧ Runner.canRun h'.tree a.action = true
        ∧ (Runner.run i h' a.action).2 = [⟨a.action, .done⟩]
        ∧ (Runner.run i h' a.action).1.starts = h'.starts ++
            [⟨.words ((openWords h'.environment.desktop p.text).map .text), some Ties.cut, false⟩]
        ∧ (openWords h'.environment.desktop p.text).getLast? = some p.text
        ∧ (h'.environment.desktop = .freedesktop → ∀ d, Names h.tree d (.text "*.desktop") p →
            openWords h'.environment.desktop p.text = ["gio", "launch", p.text])
        ∧ ∀ j, Runner.run j h' a.action = Runner.run i h' a.action := by
  obtain ⟨p, rfl, hfile, -⟩ := exists_of_mem_build hb ha
  obtain ⟨content, hcontent⟩ := Tree.isFile_iff.mp hfile
  rw [← ht] at hfile
  have hrun := fun j => Runner.run_launch_of_unrefused j hfile hr
  obtain ⟨hrequest, hties⟩ := openRequest_of_ne hd p.text
  refine ⟨p, content, rfl, hcontent, (Runner.canRun_launch _ _).trans hfile,
    congrArg Prod.snd (hrun i), ?_, getLast?_openWords _ _, fun hdesk d hn => ?_,
    fun j => (hrun j).trans (hrun i).symm⟩
  · rw [application, hrun i, Host.starts_start, hr, hrequest, hties]
    rfl
  · rw [hdesk]
    exact gio_of_names hn

/-- A directory and a file whose names look like a workflow and a shell command. -/
theorem run_of_mem_build_of_commands :
    let tree : Tree :=
      { entries := [(["workflow:a && b"], .directory),
          (["workflow:a && b", "shell:c && d.desktop"], .file ByteArray.empty)] }
    let h : Host := { tree := tree }
    let x : Index :=
      { directories := [{ names := ["workflow:a && b"] }], patterns := [.text "*.desktop"] }
    let a := application { names := ["workflow:a && b", "shell:c && d.desktop"] }
    (x.build.runOn h).1 = .ok [a] ∧ h.environment.desktop ≠ .windows ∧ h.nextRule.fail = none
      ∧ (Runner.run (Interpreter.default .posix) h a.action).1.starts =
        [⟨.words [.text "gio", .text "launch", .text "workflow:a && b/shell:c && d.desktop"],
          some Ties.cut, false⟩] := by
  intro tree h x a
  have hb : (x.build.runOn h).1 = .ok [a] := by with_unfolding_all rfl
  have hd : h.environment.desktop ≠ .windows := by decide
  obtain ⟨p, content, haction, -, -, -, hstarts, -⟩ :=
    run_of_mem_build hb List.mem_cons_self (Interpreter.default .posix) rfl hd rfl
  have hp : "workflow:a && b/shell:c && d.desktop" = p.text := Action.launch.inj haction
  rw [← hp] at hstarts
  exact ⟨hb, hd, rfl, hstarts⟩

end Index

end QuickLaunch
