import QuickLaunch.Proofs.Config.Stored
import QuickLaunch.Proofs.Files.Directories
import QuickLaunch.Proofs.Files.Lookups

/-!
# Stores that are opened

Opening a store makes the directories on the way to its file. Where the file is missing even then,
the empty configuration is put there. No file that was there becomes another one, whatever opening
the store comes to.

* `openAt_changes`: the tree that is left;
* `openAt_of_status`: opening a store whose file is there does nothing;
* `exists_openAt_of_missing`: a missing file is made, and no other one;
* `exists_openAt`, `openAt_of_long`, `openAt_of_null`: when a store can be opened, and when it
  cannot.
-/

namespace QuickLaunch.Store

open QuickLaunch.Tree

variable {p path : Path} {h h' : Host} {r : Except Fault Store} {t : Tree} {e : Entry}
  {place : Place} {content : ByteArray}

/-! ## What it leaves -/

theorem grown_of_makeDirectories {fault : Option Fault}
    (hm : h.tree.makeDirectories path = (t, fault)) : Grown h.tree t := by
  have hg := grown_makeDirectories h.tree path
  rwa [hm] at hg

/-- There are more directories, or the file of an empty configuration, too, where it was missing. -/
theorem openAt_changes (hp : p.Parsed) (ho : (openAt p).runOn h = (r, h')) :
    Grown h.tree h'.tree ∨ ∃ path key,
      p.expandHome h.environment.home = .ok path ∧ r = .ok { path := path }
        ∧ (∀ e, h.tree.status path.text ≠ .ok e)
        ∧ Added h.tree h'.tree path.text key ({} : Config).document.toUTF8 := by
  cases opening ho with
  | homeless fault _ => exact .inl (Grown.refl _)
  | blocked path t fault _ hm => exact .inl (grown_of_makeDirectories hm)
  | unknown path t fault _ hm _ => exact .inl (grown_of_makeDirectories hm)
  | found path t _ hm _ => exact .inl (grown_of_makeDirectories hm)
  | unwritten path t fault _ hm _ _ => exact .inl (grown_of_makeDirectories hm)
  | created path t t' hpath hm he hs =>
    obtain ⟨key, ha⟩ := exists_added_of_write (grown_of_makeDirectories hm) he hs
    refine .inr ⟨path, key, hpath, rfl, fun e hstatus => ?_, ha⟩
    -- Nothing would have been made on the way to a file that was there.
    have hthere := makeDirectories_parent (Path.parsed_expandHome hp hpath) hstatus
    rw [hm] at hthere
    obtain rfl : t = h.tree := (Prod.mk.inj hthere).1
    exact not_status_of_exists? he hstatus

/-- No file that was there becomes another one. -/
theorem file_openAt (hp : p.Parsed) (ho : (openAt p).runOn h = (r, h'))
    (hf : h.tree.at? place = some (.file content)) :
    h'.tree.at? place = some (.file content) := by
  rcases openAt_changes hp ho with hg | ⟨path, key, -, -, -, ha⟩
  · exact hg.at?_eq hf
  · exact ha.file hf

/-- No process is started. -/
theorem starts_openAt (ho : (openAt p).runOn h = (r, h')) : h'.starts = h.starts := by
  cases opening ho <;> rfl

theorem environment_openAt (ho : (openAt p).runOn h = (r, h')) :
    h'.environment = h.environment := by
  cases opening ho <;> rfl

/-- What opening a store comes to and the tree that it leaves depend on the environment and the tree
alone. -/
theorem exists_openAt_congr {h₁ : Host} (he : h₁.environment = h.environment)
    (ht : h₁.tree = h.tree) (ho : (openAt p).runOn h = (r, h')) :
    ∃ h₂, (openAt p).runOn h₁ = (r, h₂) ∧ h₂.tree = h'.tree := by
  cases opening ho with
  | homeless fault hp => exact ⟨h₁, by simp [openAt, Session.runOn_bind, he, hp], ht⟩
  | blocked path t fault hp hm =>
    exact ⟨{ h₁ with tree := t }, by simp [openAt, Session.runOn_bind, he, ht, hp, hm], rfl⟩
  | unknown path t fault hp hm hf =>
    exact ⟨{ h₁ with tree := t }, by simp [openAt, Session.runOn_bind, he, ht, hp, hm, hf], rfl⟩
  | found path t hp hm hf =>
    exact ⟨{ h₁ with tree := t }, by simp [openAt, Session.runOn_bind, he, ht, hp, hm, hf], rfl⟩
  | unwritten path t fault hp hm hf hs =>
    exact ⟨{ h₁ with tree := t }, by simp [openAt, Session.runOn_bind, he, ht, hp, hm, hf, hs], rfl⟩
  | created path t t' hp hm hf hs =>
    refine ⟨Host.note { h₁ with tree := t' } [.configurationCreated path.text], ?_, rfl⟩
    simp [openAt, Session.runOn_bind, he, ht, hp, hm, hf, hs]

/-- A proper tree stays proper. -/
theorem proper_openAt (ht : h.tree.Proper) (ho : (openAt p).runOn h = (r, h')) :
    h'.tree.Proper := by
  have hmade : ∀ {path : Path} {t : Tree} {fault : Option Fault},
      h.tree.makeDirectories path = (t, fault) → t.Proper := by
    intro path t fault hm
    have hproper := proper_makeDirectories ht path
    rwa [hm] at hproper
  cases opening ho with
  | homeless fault _ => exact ht
  | blocked path t fault _ hm => exact hmade hm
  | unknown path t fault _ hm _ => exact hmade hm
  | found path t _ hm _ => exact hmade hm
  | unwritten path t fault _ hm _ _ => exact hmade hm
  | created path t t' _ hm _ hs => exact proper_write (hmade hm) hs

/-! ## When it succeeds -/

/-- Nothing happens when something is there. -/
theorem openAt_of_status (hp : p.Parsed) (hpath : p.expandHome h.environment.home = .ok path)
    (hstatus : h.tree.status path.text = .ok e) :
    (openAt p).runOn h = (.ok { path := path }, h) := by
  have hm := makeDirectories_parent (Path.parsed_expandHome hp hpath) hstatus
  have hthere : h.tree.exists? path.text = .ok true := exists?_eq_ok_true_iff.mpr ⟨e, hstatus⟩
  simp [openAt, Session.runOn_bind, hpath, hm, hthere]

/-- A file can be put where it is missing in a directory. -/
theorem exists_save_of_missing (hp : path.Parsed) (hnull : '\x00' ∉ path.text.toList)
    (hdir : t.status path.parent.text = .ok .directory)
    (hmiss : t.exists? path.text = .ok false) (c : Config) :
    ∃ t', save { path := path } t c = .ok t' := by
  have hn : path.names ≠ [] := fun hnil =>
    not_status_of_exists? hmiss (status_of_names_nil t hp.rooted hnil)
  obtain ⟨last, hlast, hchild⟩ := Path.exists_eq_child hn
  obtain ⟨place, hfind, hd⟩ := exists_find_of_status hdir
  have hne := hp.text_ne_empty
  rw [hchild] at hnull hmiss hne
  obtain ⟨haims, hnone⟩ :=
    aims_child hp.parent.rooted (hp.names last hlast) hnull hne hfind hd hmiss
  rw [← hchild] at haims
  exact ⟨_, write_eq_ok_iff.mpr ⟨place, last, haims, ne_directory_of_none hnone, rfl⟩⟩

/-- The file that is missing is made once the directories on the way to it are, and no other one. -/
theorem exists_openAt_of_missing (hp : p.Parsed)
    (hpath : p.expandHome h.environment.home = .ok path)
    (hm : h.tree.makeDirectories path.parent = (t, none)) (hnull : '\x00' ∉ path.text.toList)
    (hmiss : t.exists? path.text = .ok false) :
    ∃ h' key, (openAt p).runOn h = (.ok { path := path }, h')
      ∧ Added h.tree h'.tree path.text key ({} : Config).document.toUTF8 := by
  obtain ⟨t', hs⟩ := exists_save_of_missing (Path.parsed_expandHome hp hpath) hnull
    (status_makeDirectories hm) hmiss {}
  obtain ⟨key, ha⟩ := exists_added_of_write (grown_of_makeDirectories hm) hmiss hs
  refine ⟨Host.note { h with tree := t' } [.configurationCreated path.text], key, ?_, ha⟩
  simp [openAt, Session.runOn_bind, hpath, hm, hmiss, hs]

/-- A store can be opened when the directories on the way to its file can be made, its path fits,
and has no null character if the file is missing. -/
theorem exists_openAt (hp : p.Parsed) (hpath : p.expandHome h.environment.home = .ok path)
    (hm : h.tree.makeDirectories path.parent = (t, none)) (hfits : Fits path.text)
    (hnull : t.exists? path.text = .ok false → '\x00' ∉ path.text.toList) :
    ∃ h', (openAt p).runOn h = (.ok { path := path }, h') := by
  obtain ⟨there, hthere⟩ := exists_exists?_of_fits t hfits
  cases there with
  | true => exact ⟨{ h with tree := t }, by simp [openAt, Session.runOn_bind, hpath, hm, hthere]⟩
  | false =>
    obtain ⟨h', key, ho, -⟩ := exists_openAt_of_missing hp hpath hm (hnull hthere) hthere
    exact ⟨h', ho⟩

/-- The path of a file in the working directory, for which no directory has to be made. -/
theorem expandHome_of_ordinary {name : String} (h : Host) (ho : Ordinary name)
    (hs : '/' ∉ name.toList) (htilde : '~' ∉ name.toList) :
    (Path.parse name).expandHome h.environment.home = .ok { names := [name] }
      ∧ h.tree.makeDirectories ({ names := [name] } : Path).parent = (h.tree, none)
      ∧ ({ names := [name] } : Path).text = name := by
  have hhead : name.toList.head? ≠ some '~' := fun hh => htilde (List.mem_of_head? hh)
  have hrooted : (({ names := [name] } : Path).parent).Rooted := ⟨0, rfl⟩
  refine ⟨?_, makeDirectories_of_status (status_of_names_nil h.tree hrooted rfl), ?_⟩
  · simp [Path.parse_of_ordinary ho hs, Path.expandHome, hhead]
  · simp [Path.text]

/-- A store cannot be opened when the name of its file is longer than a file system takes, although
there is no directory to be made for it. -/
theorem openAt_of_long {name : String} (h : Host) (hs : '/' ∉ name.toList)
    (hnull : '\x00' ∉ name.toList) (htilde : '~' ∉ name.toList)
    (hlong : maxNameBytes < name.utf8ByteSize) :
    ∃ path, (Path.parse name).expandHome h.environment.home = .ok path
      ∧ (∀ e, h.tree.status path.text ≠ .ok e)
      ∧ h.tree.makeDirectories path.parent = (h.tree, none)
      ∧ (openAt (Path.parse name)).runOn h = (.error .nameTooLong, h) := by
  obtain ⟨hpath, hm, htext⟩ := expandHome_of_ordinary h (ordinary_of_long hlong) hs htilde
  have hstatus := status_of_long h.tree hs hnull hlong
  refine ⟨_, hpath, fun e he => ?_, hm, ?_⟩
  · cases hstatus.symm.trans (htext ▸ he)
  · simp [openAt, Session.runOn_bind, hpath, hm, htext, exists?_of_long h.tree hs hnull hlong]

/-- Neither can it when the name of its file has a null character. -/
theorem openAt_of_null {name : String} (h : Host) (ho : Ordinary name) (hs : '/' ∉ name.toList)
    (hnull : '\x00' ∈ name.toList) (htilde : '~' ∉ name.toList) :
    ∃ path, (Path.parse name).expandHome h.environment.home = .ok path
      ∧ (∀ e, h.tree.status path.text ≠ .ok e)
      ∧ h.tree.makeDirectories path.parent = (h.tree, none)
      ∧ (openAt (Path.parse name)).runOn h = (.error .nullCharacter, h) := by
  obtain ⟨hpath, hm, htext⟩ := expandHome_of_ordinary h ho hs htilde
  have hstatus : h.tree.status name = .error .nullCharacter := by
    simp [status, find, refuse?, hnull]
  have hmiss : h.tree.exists? name = .ok false := by
    simp [exists?, hstatus, absent]
  have hsave : save { path := { names := [name] } } h.tree {} = .error .nullCharacter := by
    simp [save, writeText, write, target, refuse?, htext, hnull]
  refine ⟨_, hpath, fun e he => ?_, hm, ?_⟩
  · cases hstatus.symm.trans (htext ▸ he)
  · simp [openAt, Session.runOn_bind, hpath, hm, htext, hmiss, hsave]

end QuickLaunch.Store
