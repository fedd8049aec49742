import QuickLaunch.Proofs.Results
import QuickLaunch.Proofs.Settings.Usable

/-!
# The first use that makes the resident interpreter

The resident interpreter is made by the first use that can make one, out of the settings that are in
force at that moment. Whatever is written or removed later, it stays as it was made. A use that
cannot make one leaves things as they were, apart from the log, so that the next use looks at the
settings again.

* `Resident.Happening`, `Resident.run`: uses of the resident interpreter, while files change;
* `Resident.made`: the interpreter that can be made at a moment;
* `Interpreter.run`: what the same happenings come to with an interpreter that is given;
* `Resident.fixed_run`: a run of the first kind is one of the second kind from the first use on that
  makes the interpreter.
-/

namespace QuickLaunch

open Session

namespace Resident

/-! ## Uses while files change -/

/-- What happens around the resident interpreter: others write or remove a file, or it is asked
whether an action can be run, to run one, or which program and arguments it has. -/
inductive Happening where
  | write (path : String) (content : ByteArray)
  | remove (path : String)
  | canRun (a : Action)
  | execute (a : Action)
  | tell

/-- The resident interpreter is used. -/
def Happening.IsUse : Happening → Prop
  | .write .. | .remove _ => False
  | .canRun _ | .execute _ | .tell => True

/-- What comes of a happening. -/
inductive Answer where
  | changed (result : Except Fault Unit)
  | ready (result : Except Fault Bool)
  | ran (result : Except Fault Unit)
  | told (result : Except Fault Interpreter)

/-- What comes of a happening that fails. -/
def Happening.failed (fault : Fault) : Happening → Answer
  | .write .. | .remove _ => .changed (.error fault)
  | .canRun _ => .ready (.error fault)
  | .execute _ => .ran (.error fault)
  | .tell => .told (.error fault)

/-- The host with the files that a change comes to. One that fails changes nothing. -/
def changed (h : Host) : Except Fault Tree → Host × Answer
  | .ok t => ({ h with tree := t }, .changed (.ok ()))
  | .error fault => (h, .changed (.error fault))

/-- What comes of a happening, and what is left. -/
def step (r : Resident) : Happening → Resident × Answer
  | .write path content =>
    ({ r with host := (changed r.host (r.host.tree.writeDeep path content)).1 },
      (changed r.host (r.host.tree.writeDeep path content)).2)
  | .remove path =>
    ({ r with host := (changed r.host (r.host.tree.remove path)).1 },
      (changed r.host (r.host.tree.remove path)).2)
  | .canRun a => ((r.canRun a).1, .ready (r.canRun a).2)
  | .execute a => ((r.execute a).1, .ran (r.execute a).2)
  | .tell => (r.use.1, .told r.use.2)

/-- What comes of some happenings, one after another, and what is left. -/
def run (r : Resident) : List Happening → Resident × List Answer
  | [] => (r, [])
  | x :: rest => (((r.step x).1.run rest).1, (r.step x).2 :: ((r.step x).1.run rest).2)

end Resident

namespace Interpreter

open Resident (Happening Answer)

/-- What comes of a happening with an interpreter that is given: no settings are read. -/
def step (i : Interpreter) (h : Host) : Happening → Host × Answer
  | .write path content => Resident.changed h (h.tree.writeDeep path content)
  | .remove path => Resident.changed h (h.tree.remove path)
  | .canRun a => (h, .ready (.ok (Runner.canRun h.tree a)))
  | .execute a => (Runner.execute i h a, .ran (.ok ()))
  | .tell => (h, .told (.ok i))

/-- What comes of some happenings with an interpreter that is given. -/
def run (i : Interpreter) (h : Host) : List Happening → Host × List Answer
  | [] => (h, [])
  | x :: rest => ((i.run (i.step h x).1 rest).1, (i.step h x).2 :: (i.run (i.step h x).1 rest).2)

end Interpreter

/-! ## The interpreter that can be made -/

/-- The settings in force, if the settings file can be looked up. -/
def Settings.loaded (e : Environment) (t : Tree) : Except Fault Table := do
  let settings ← Settings.inForce e t
  let file ← Settings.defaultFile e
  let _ ← t.exists? file.text
  return settings

theorem Settings.inForce_eq {e : Environment} {t : Tree} {file : Path} {defaults : Table}
    (hd : Settings.defaults e = .ok defaults) (hf : defaultFile e = .ok file) :
    inForce e t = .ok (overlayFile t file defaults).1 := by
  cases ho : ofFile t file <;>
    simp [inForce, hd, hf, overlayFile, ho, bind, Except.bind, pure, Except.pure]

/-- Loading the settings gives those in force and tells the log something. -/
theorem Settings.exists_runOn_load (h : Host) :
    ∃ events, (load none).runOn h = (loaded h.environment h.tree, h.note events) := by
  have hnothing : h.note [] = h := by simp [Host.note]
  have hfile : fileNamed h.environment none = defaultFile h.environment := rfl
  simp only [load_eq, runOn_bind, runOn_environment, runOn_ofExcept, runOn_tree, hfile]
  cases hd : Settings.defaults h.environment with
  | error fault => exact ⟨[], by rw [hnothing, loaded, inForce, hd]; rfl⟩
  | ok defaults =>
    cases hf : defaultFile h.environment with
    | error fault => exact ⟨[], by rw [hnothing, loaded, inForce, hd, hf]; rfl⟩
    | ok file =>
      have hloaded : loaded h.environment h.tree =
          (h.tree.exists? file.text).map fun _ => (overlayFile h.tree file defaults).1 := by
        rw [loaded, inForce_eq hd hf, hf]
        rfl
      rw [hloaded]
      cases ht : h.tree.exists? file.text with
      | error fault =>
        simp only [ht]
        exact ⟨[], by rw [hnothing]; rfl⟩
      | ok there =>
        simp only [ht]
        cases there with
        | true => exact ⟨_, rfl⟩
        | false =>
          obtain ⟨fault, hu⟩ := exists_ofFile_of_absent ht
          have hdefaults : (overlayFile h.tree file defaults).1 = defaults := by
            rw [overlayFile, hu]
          rw [hdefaults]
          exact ⟨_, rfl⟩

theorem Settings.inForce_of_loaded {e : Environment} {t : Tree} {settings : Table}
    (h : loaded e t = .ok settings) : inForce e t = .ok settings := by
  obtain ⟨settings', hs, h⟩ := bind_eq_ok_iff.mp h
  obtain ⟨file, -, h⟩ := bind_eq_ok_iff.mp h
  obtain ⟨there, -, h⟩ := bind_eq_ok_iff.mp h
  rw [pure_eq_ok_iff.mp h, hs]

namespace Resident

/-- The interpreter that the settings in force name at a moment, if they can be loaded and name
one. -/
def made (h : Host) : Except Fault Interpreter :=
  (Settings.loaded h.environment h.tree).bind fun settings =>
    Interpreter.ofSettings h.environment.family (.table settings)

theorem exists_runOn_fromSettings (h : Host) :
    ∃ events, fromSettings.runOn h = (made h, h.note events) := by
  obtain ⟨events, hload⟩ := Settings.exists_runOn_load h
  refine ⟨events, ?_⟩
  rw [fromSettings, runOn_bind, hload, made]
  cases Settings.loaded h.environment h.tree <;> rfl

variable {r r' : Resident} {i : Interpreter} {fault : Fault} {x : Happening}

theorem use_of_made (hn : r.interpreter = none) (hm : made r.host = .ok i) :
    ∃ events, r.use = ({ host := r.host.note events, interpreter := some i }, .ok i) := by
  obtain ⟨events, hmade⟩ := exists_runOn_fromSettings r.host
  rw [hm] at hmade
  change fromSettings.run.run r.host = _ at hmade
  exact ⟨events, by rw [use, hn]; simp only [hmade]⟩

theorem use_of_not_made (hn : r.interpreter = none) (hm : made r.host = .error fault) :
    ∃ events, r.use = ({ host := r.host.note events }, .error fault) := by
  obtain ⟨events, hmade⟩ := exists_runOn_fromSettings r.host
  rw [hm] at hmade
  change fromSettings.run.run r.host = _ at hmade
  refine ⟨events, ?_⟩
  rw [use, hn]
  simp only [hmade]

/-! ## Steps -/

/-- A use does what it would do with the interpreter made before. -/
theorem step_of_use (hx : x.IsUse) (hu : r.use = (r', .ok i)) (hu' : r'.use = (r', .ok i)) :
    r.step x = r'.step x := by
  cases x with
  | write path content => exact hx.elim
  | remove path => exact hx.elim
  | canRun a => simp only [step, canRun, hu, hu']
  | execute a => simp only [step, execute, hu, hu']
  | tell => simp only [step, hu, hu']

theorem step_of_fault (hx : x.IsUse) (hu : r.use = (r', .error fault)) :
    r.step x = (r', x.failed fault) := by
  cases x with
  | write path content => exact hx.elim
  | remove path => exact hx.elim
  | canRun a => simp only [step, canRun, hu]; rfl
  | execute a => simp only [step, execute, hu]; rfl
  | tell => simp only [step, hu]; rfl

theorem use_some (h : Host) (i : Interpreter) :
    use { host := h, interpreter := some i } = ({ host := h, interpreter := some i }, .ok i) := rfl

/-- An interpreter that was made before is the one that is used. -/
theorem step_some (h : Host) (i : Interpreter) (x : Happening) :
    step { host := h, interpreter := some i } x =
      ({ host := (i.step h x).1, interpreter := some i }, (i.step h x).2) := by
  cases x with
  | write path content => rfl
  | remove path => rfl
  | canRun a => rfl
  | execute a =>
    simp only [step, execute, use_some, Interpreter.step, Runner.runOn_perform, Runner.execute_eq]
  | tell => rfl

theorem run_some (h : Host) (i : Interpreter) (xs : List Happening) :
    run { host := h, interpreter := some i } xs =
      ({ host := (i.run h xs).1, interpreter := some i }, (i.run h xs).2) := by
  induction xs generalizing h with
  | nil => rfl
  | cons x rest ih => rw [run, step_some, ih, Interpreter.run]

theorem environment_changed (h : Host) (t : Except Fault Tree) :
    (changed h t).1.environment = h.environment := by
  cases t <;> rfl

/-- A happening is no use, or one for which no interpreter can be made. It answers with the fault
then, and leaves no interpreter, and the host as it was apart from the log. -/
def Passes (r : Resident) (x : Happening) : Prop :=
  x.IsUse → ∃ fault events, made r.host = .error fault
    ∧ r.step x = ({ host := r.host.note events }, x.failed fault)

/-- Where no interpreter was made before, a use makes one if one can be made, and does what it would
do if it had been made before. Other happenings make none. -/
theorem step_cases (hn : r.interpreter = none) (x : Happening) :
    (x.IsUse ∧ ∃ i events, made r.host = .ok i
        ∧ r.step x = step { host := r.host.note events, interpreter := some i } x)
      ∨ Passes r x ∧ (r.step x).1.interpreter = none
        ∧ (r.step x).1.host.environment = r.host.environment := by
  by_cases hx : x.IsUse
  · cases hm : made r.host with
    | ok i =>
      obtain ⟨events, hu⟩ := use_of_made hn hm
      exact .inl ⟨hx, i, events, rfl, step_of_use hx hu rfl⟩
    | error fault =>
      obtain ⟨events, hu⟩ := use_of_not_made hn hm
      have hstep := step_of_fault hx hu
      exact .inr ⟨fun _ => ⟨fault, events, hm, hstep⟩, by rw [hstep], by rw [hstep]; rfl⟩
  · refine .inr ⟨fun h => absurd h hx, ?_⟩
    cases x with
    | write path content =>
      simp only [step, environment_changed]
      exact ⟨hn, trivial⟩
    | remove path =>
      simp only [step, environment_changed]
      exact ⟨hn, trivial⟩
    | canRun a => exact absurd trivial hx
    | execute a => exact absurd trivial hx
    | tell => exact absurd trivial hx

/-! ## Runs -/

/-- No use in the run finds an interpreter that can be made. -/
def Raising (r : Resident) : List Happening → Prop
  | [] => True
  | x :: rest => Passes r x ∧ Raising (r.step x).1 rest

/-- The use `x` is the first one in a run that makes the interpreter. From it on the run is one with
that interpreter. -/
structure MadeAt (r : Resident) (before : List Happening) (x : Happening) (after : List Happening)
    (i : Interpreter) (events : List Event) : Prop where
  raising : Raising r before
  isUse : x.IsUse
  environment : (r.run before).1.host.environment = r.host.environment
  made_eq : made (r.run before).1.host = .ok i
  run_eq : r.run (before ++ x :: after) =
    ({ host := (i.run ((r.run before).1.host.note events) (x :: after)).1, interpreter := some i },
      (r.run before).2 ++ (i.run ((r.run before).1.host.note events) (x :: after)).2)

/-- A happening that makes no interpreter leaves it to the rest of the run. -/
theorem MadeAt.cons {before after : List Happening} {y : Happening} {events : List Event}
    (h : MadeAt (r.step x).1 before y after i events) (hp : Passes r x)
    (he : (r.step x).1.host.environment = r.host.environment) :
    MadeAt r (x :: before) y after i events where
  raising := ⟨hp, h.raising⟩
  isUse := h.isUse
  environment := h.environment.trans he
  made_eq := h.made_eq
  run_eq := by
    rw [List.cons_append, run, h.run_eq]
    rfl

/-- No use in a run can make an interpreter, or there is a first one that makes it. -/
theorem raising_or_madeAt (r : Resident) (hn : r.interpreter = none) (xs : List Happening) :
    (Raising r xs ∧ (r.run xs).1.interpreter = none)
      ∨ ∃ before x after i events, xs = before ++ x :: after
        ∧ MadeAt r before x after i events := by
  induction xs generalizing r with
  | nil => exact .inl ⟨trivial, hn⟩
  | cons x rest ih =>
    obtain ⟨hx, i, events, hm, hstep⟩ | ⟨hp, hnone, he⟩ := step_cases hn x
    · have hrun : r.run (x :: rest) =
          run { host := r.host.note events, interpreter := some i } (x :: rest) := by
        simp only [run, hstep]
      exact .inr ⟨[], x, rest, i, events, rfl, trivial, hx, rfl, hm, hrun.trans (run_some _ i _)⟩
    · obtain ⟨hrest, hend⟩ | ⟨before, y, after, i, events, rfl, hmade⟩ := ih (r.step x).1 hnone
      · exact .inl ⟨⟨hp, hrest⟩, hend⟩
      · exact .inr ⟨x :: before, y, after, i, events, rfl, hmade.cons hp he⟩

/-- Files are written and removed, the settings file too, while the resident interpreter is used, in
any order. As long as no use finds an interpreter that can be made out of the settings in force at
its own moment, each answers with the fault, starts nothing and leaves no interpreter. The first use
that finds one makes it out of the settings in force at that moment, which are the default settings
with the settings file laid over them. From that use on, everything comes out as with that
interpreter and without settings, whatever is written or removed. -/
theorem fixed_run (h : Host) (xs : List Happening) :
    (Raising { host := h } xs ∧ (run { host := h } xs).1.interpreter = none)
      ∨ ∃ before x after i events settings, xs = before ++ x :: after
        ∧ Raising { host := h } before ∧ x.IsUse
        ∧ Settings.inForce h.environment (run { host := h } before).1.host.tree = .ok settings
        ∧ Interpreter.ofSettings h.environment.family (.table settings) = .ok i
        ∧ run { host := h } xs =
          ({ host := (i.run ((run { host := h } before).1.host.note events) (x :: after)).1
             interpreter := some i },
            (run { host := h } before).2
              ++ (i.run ((run { host := h } before).1.host.note events) (x :: after)).2) := by
  obtain hraising | ⟨before, x, after, i, events, rfl, hmade⟩ :=
    raising_or_madeAt { host := h } rfl xs
  · exact .inl hraising
  · obtain ⟨settings, hs, hi⟩ := bind_eq_ok_iff.mp hmade.made_eq
    rw [hmade.environment] at hs hi
    exact .inr ⟨before, x, after, i, events, settings, rfl, hmade.raising, hmade.isUse,
      Settings.inForce_of_loaded hs, hi, hmade.run_eq⟩

end Resident

end QuickLaunch
