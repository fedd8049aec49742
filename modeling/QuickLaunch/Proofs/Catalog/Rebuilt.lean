import QuickLaunch.Proofs.Catalog.Exact
import QuickLaunch.Proofs.Files.Lookups

/-!
# What is kept of an index

An index is built again and again while the host changes. What is kept are the applications of the
last time that it could be built, whatever has happened since then.

* `Kept.applications_run`: what is kept after a run of builds and changes;
* `Kept.exact_run`: what the next build holds;
* `Kept.long_name_not_skipped`: a missing directory that cannot be passed over.
-/

namespace QuickLaunch

namespace Kept

/-! ## Runs -/

/-- What happens to an index that is kept: it is built again, or the host becomes another one. -/
inductive Happening where
  | rebuild
  | change (h : Host)

/-- What is kept after something has happened. -/
def step (k : Kept) : Happening → Kept
  | .rebuild => k.rebuild.1
  | .change h => { k with host := h }

/-- What is kept after some happenings, one after another. -/
def run (k : Kept) (happenings : List Happening) : Kept :=
  happenings.foldl step k

/-- What the builds of a run came to, in order. -/
def builds (k : Kept) : List Happening → List (Except Fault (List Application))
  | [] => []
  | .rebuild :: rest => k.rebuild.2 :: (k.step .rebuild).builds rest
  | .change h :: rest => (k.step (.change h)).builds rest

theorem rebuild_eq (k : Kept) :
    k.rebuild =
      ({ host := (k.index.build.runOn k.host).2, index := k.index
         applications := (k.index.build.runOn k.host).1.toOption.getD k.applications },
        (k.index.build.runOn k.host).1) := by
  rw [rebuild]
  rcases k.index.build.runOn k.host with ⟨fault | apps, h⟩ <;> rfl

theorem snd_rebuild (k : Kept) : k.rebuild.2 = (k.index.build.runOn k.host).1 := by
  rw [rebuild_eq]

theorem applications_rebuild (k : Kept) :
    k.rebuild.1.applications = k.rebuild.2.toOption.getD k.applications := by
  rw [rebuild_eq]

theorem index_step (k : Kept) (happening : Happening) : (k.step happening).index = k.index := by
  cases happening with
  | rebuild => rw [step, rebuild_eq]
  | change h => rfl

theorem index_run (k : Kept) (happenings : List Happening) :
    (k.run happenings).index = k.index := by
  induction happenings generalizing k with
  | nil => rfl
  | cons happening rest ih => exact (ih (k.step happening)).trans (index_step k happening)

/-- After a run the applications of the last build are kept that came to an end, and those of before
if none did. -/
theorem applications_run (k : Kept) (happenings : List Happening) :
    (k.run happenings).applications =
      ((k.builds happenings).filterMap Except.toOption).getLast?.getD k.applications := by
  induction happenings generalizing k with
  | nil => rfl
  | cons happening rest ih =>
    have hrest := ih (k.step happening)
    cases happening with
    | change h => exact hrest
    | rebuild =>
      rw [step, applications_rebuild] at hrest
      refine hrest.trans ?_
      rw [builds, List.filterMap_cons, step]
      cases k.rebuild.2 with
      | error fault => rfl
      | ok apps =>
        simp only [Except.toOption, Option.getD_some]
        rw [List.getLast?_cons]
        rfl

/-- In every run of builds and changes of the host, of an index that settings describe: the
applications of the last build are kept that came to an end, none if there was no such build, and a
build that fails leaves them as they are. A build comes to an end if all that it has to look up can
be looked up. It then holds, for each directory in turn, the files that a pattern names there, each
once and in order, and nothing for a directory that is missing or a file; and it would hold the same
with the patterns in another order or repeated. -/
theorem exact_run {home : Option String} {directories patterns : Value} {x : Index}
    (hx : Index.ofValues home directories patterns = .ok x) (h : Host)
    (happenings : List Happening) :
    let new : Kept := { host := h, index := x }
    let k := new.run happenings
    (k.applications = ((new.builds happenings).filterMap Except.toOption).getLast?.getD []
        ∧ ∀ fault, k.rebuild.2 = .error fault → k.rebuild.1.applications = k.applications)
      ∧ ((∃ apps, k.rebuild.2 = .ok apps) ↔ x.Readable k.host.tree)
      ∧ (k.host.tree.Proper → x.Readable k.host.tree →
        (∃ listings,
            List.Forall₂ (Index.Contributes k.host.tree x.patterns) x.directories listings
              ∧ k.rebuild.2 = .ok (listings.flatten.map Index.application))
          ∧ ∀ y : Index, y.directories = x.directories →
            (∀ v, v ∈ y.patterns ↔ v ∈ x.patterns) →
              ({ k with index := y } : Kept).rebuild.2 = k.rebuild.2) := by
  intro new k
  have hindex : k.index = x := index_run new happenings
  have hd : ∀ d ∈ x.directories, d.Rooted := Index.rooted_of_ofValues hx
  have hbuild : k.rebuild.2 = (x.build.runOn k.host).1 := by rw [snd_rebuild, hindex]
  refine ⟨⟨applications_run new happenings, fun fault hf => ?_⟩, ?_, fun ht hr => ⟨?_, ?_⟩⟩
  · rw [applications_rebuild, hf]
    rfl
  · rw [hbuild]
    exact Index.exists_build_iff
  · rw [hbuild]
    exact Index.build_eq ht hd hr
  · intro y hdirs hv
    rw [hbuild, snd_rebuild]
    exact Index.fst_runOn_build_congr ht hd hr hdirs hv

/-- The files appear after the first build. -/
theorem exact_run_of_change :
    let tree : Tree :=
      { entries := [(["apps"], .directory), (["apps", "a-b.desktop"], .file ByteArray.empty),
          (["apps", "a"], .directory), (["apps", "a", "b.desktop"], .file ByteArray.empty)] }
    let x : Index := { directories := [{ names := ["apps"] }], patterns := [.text "*.desktop"] }
    let k := run { host := {}, index := x } [.rebuild, .change { tree := tree }]
    Index.ofValues none (.list [.text "apps"]) (.list [.text "*.desktop"]) = .ok x
      ∧ tree.Proper ∧ x.Readable tree
      ∧ ∃ listings, List.Forall₂ (Index.Contributes tree x.patterns) x.directories listings
        ∧ k.rebuild.2 = .ok (listings.flatten.map Index.application) := by
  intro tree x k
  have hx : Index.ofValues none (.list [.text "apps"]) (.list [.text "*.desktop"]) = .ok x := rfl
  have ht : tree.Proper := by decide
  have hfound : Index.selected tree { names := ["apps"] } (.text "*.desktop") =
      .ok [{ names := ["apps", "a-b.desktop"] }, { names := ["apps", "a", "b.desktop"] }] := rfl
  have hr : x.Readable tree :=
    { directories := by
        intro d hd
        rw [List.mem_singleton.mp hd]
        exact Tree.exists_isDirectory?_of_fits tree ⟨by decide +kernel, by decide +kernel⟩
      patterns := by
        intro d hd _ v hv
        rw [List.mem_singleton.mp hd, List.mem_singleton.mp hv]
        refine ⟨_, hfound, fun p hp => Tree.exists_isFile?_of_fits tree ?_⟩
        rcases List.mem_pair.mp hp with rfl | rfl <;> exact ⟨by decide +kernel, by decide +kernel⟩ }
  obtain ⟨-, -, hexact⟩ := exact_run hx {} [.rebuild, .change { tree := tree }]
  exact ⟨hx, ht, hr, (hexact ht hr).1⟩

/-- A directory with a name of 300 letters is in no tree, but it is not passed over like others that
are missing: the index cannot be built, although it has no pattern to follow. -/
theorem long_name_not_skipped :
    let name := String.ofList (List.replicate 300 'a')
    let x : Index := { directories := [{ names := [name] }], patterns := [] }
    (∀ d ∈ x.directories, ∀ v ∈ x.patterns, Index.Followed {} d v)
      ∧ ¬ ∃ apps, ({ host := {}, index := x } : Kept).rebuild.2 = .ok apps := by
  intro name x
  refine ⟨fun d _ v hv => absurd hv List.not_mem_nil, ?_⟩
  rw [snd_rebuild, Index.exists_build_iff]
  exact Index.not_readable_of_long List.mem_cons_self (Tree.not_mem_replicate (by decide))
    (Tree.not_mem_replicate (by decide)) (Tree.maxNameBytes_lt_replicate (by decide) 'a')

end Kept

end QuickLaunch
