import QuickLaunch.Proofs.Command.Spelling
import QuickLaunch.Proofs.Text.Escaped
import QuickLaunch.Invocation.Reply

/-!
# Actions can be read off their printed forms

The printed form of an action begins with a word for its kind and tells where it ends, so that two
printed forms with something behind them are equal only if the actions are and what is behind them
is. Whatever the texts in an action imitate stands between quotes. All characters of a printed form
are printable, so that it is one line.

* `Known.told`: printed forms with something behind them;
* `text_inj`: printed forms are equal only if the actions are;
* `Known.printable_chars`: the characters of printed forms.
-/

namespace QuickLaunch.Action

open Text (quotedChars Printable printable_cons printable_append printable_joinWith
  printable_quotedChars)

variable {a b : Action} {steps : List Action} {c : Char} {s t : List Char}

/-- The action is of a kind that can be run, and so are all its steps. -/
inductive Known : Action → Prop where
  | noop : Known .noop
  | launch (path : String) : Known (.launch path)
  | shell (command : String) : Known (.shell command)
  | workflow {steps : List Action} : (∀ step ∈ steps, Known step) → Known (.workflow steps)

theorem IsStep.known (h : a.IsStep) : a.Known := by
  cases a with
  | launch path => exact .launch path
  | shell command => exact .shell command
  | noop => exact h.elim
  | workflow steps => exact h.elim
  | foreign typeName => exact h.elim

theorem IsNamed.known (h : a.IsNamed) : a.Known := by
  cases a with
  | noop => exact .noop
  | launch path => exact .launch path
  | shell command => exact .shell command
  | workflow steps => exact .workflow fun step hs => (h.2 step hs).known
  | foreign typeName => exact h.elim

/-! ## Printed steps -/

/-- What is printed of steps that follow another one. -/
def listed (steps : List Action) : List Char :=
  steps.flatMap fun a => ',' :: ' ' :: a.chars

/-- What is printed behind the first step of a workflow. -/
def behindFirst : List Action → List Char
  | [] => [',', ')']
  | a :: rest => listed (a :: rest) ++ [')']

theorem partChars_eq_map (steps : List Action) : partChars steps = steps.map chars := by
  induction steps with
  | nil => rfl
  | cons a rest ih => rw [partChars, ih, List.map_cons]

theorem joinWith_chars (a : Action) (rest : List Action) :
    Text.joinWith [',', ' '] ((a :: rest).map chars) = a.chars ++ listed rest := by
  induction rest generalizing a with
  | nil => simp [Text.joinWith, listed]
  | cons b rest ih =>
    rw [List.map_cons, List.map_cons, Text.joinWith, ← List.map_cons, ih, List.append_assoc]
    rfl

theorem sequenceChars_cons (a : Action) (rest : List Action) :
    sequenceChars (partChars (a :: rest)) = '(' :: (a.chars ++ behindFirst rest) := by
  rw [partChars_eq_map]
  cases rest with
  | nil => rfl
  | cons b rest =>
    have hjoin := joinWith_chars a (b :: rest)
    rw [List.map_cons, List.map_cons] at hjoin ⊢
    rw [sequenceChars, hjoin, behindFirst, List.cons_append, List.append_assoc]
    -- There is more than one step.
    intro part h
    cases h

/-! ## Reading off -/

/-- The letter that the printed form begins with, for actions of the kinds that can be run. -/
def initial : Action → Option Char
  | .noop => some 'N'
  | .launch _ => some 'L'
  | .shell _ => some 'S'
  | .workflow _ => some 'C'
  | .foreign _ => none

theorem chars_noop : chars .noop = 'N' :: "oOp()".toList := rfl

theorem chars_launch (path : String) :
    (launch path).chars = 'L' :: ("aunch(path=".toList ++ (quotedChars path.toList ++ [')'])) := rfl

theorem chars_shell (command : String) :
    (shell command).chars =
      'S' :: ("hell(command=".toList ++ (quotedChars command.toList ++ [')'])) := rfl

theorem chars_workflow (steps : List Action) :
    (workflow steps).chars =
      'C' :: ("omposite(steps=".toList ++ (sequenceChars (partChars steps) ++ [')'])) := rfl

theorem Known.exists_chars_eq (h : a.Known) :
    ∃ letter rest, a.initial = some letter ∧ a.chars = letter :: rest := by
  cases h with
  | noop => exact ⟨_, _, rfl, chars_noop⟩
  | launch path => exact ⟨_, _, rfl, chars_launch path⟩
  | shell command => exact ⟨_, _, rfl, chars_shell command⟩
  | workflow _ => exact ⟨_, _, rfl, chars_workflow _⟩

/-- Printed forms that are the same so far are of actions of one kind. -/
theorem Known.initial_eq (ha : a.Known) (hb : b.Known) (h : a.chars ++ s = b.chars ++ t) :
    a.initial = b.initial := by
  obtain ⟨lettera, resta, hlettera, hcharsa⟩ := ha.exists_chars_eq
  obtain ⟨letterb, restb, hletterb, hcharsb⟩ := hb.exists_chars_eq
  rw [hcharsa, hcharsb] at h
  rw [hlettera, hletterb, (List.cons.inj h).1]

/-- The printed form of the action is told from every other one, with anything behind them. -/
def Told (a : Action) : Prop :=
  ∀ b : Action, b.Known → ∀ s t, a.chars ++ s = b.chars ++ t → a = b ∧ s = t

theorem listed_cons (a : Action) (rest : List Action) :
    listed (a :: rest) = ',' :: ' ' :: (a.chars ++ listed rest) := rfl

theorem listed_append_inj {as bs : List Action} (ha : ∀ a ∈ as, a.Told) (hb : ∀ b ∈ bs, b.Known)
    (h : listed as ++ ')' :: s = listed bs ++ ')' :: t) : as = bs ∧ s = t := by
  induction as generalizing bs with
  | nil =>
    cases bs with
    | nil => exact ⟨rfl, (List.cons.inj h).2⟩
    | cons b bs => exact absurd (List.cons.inj h).1 (by decide)
  | cons a as ih =>
    cases bs with
    | nil => exact absurd (List.cons.inj h).1 (by decide)
    | cons b bs =>
      obtain ⟨hfirst, hrest⟩ := List.forall_mem_cons.mp ha
      obtain ⟨hb, hbs⟩ := List.forall_mem_cons.mp hb
      rw [listed_cons, listed_cons] at h
      simp only [List.cons_append, List.append_assoc, List.cons.injEq, true_and] at h
      obtain ⟨hab, hbehind⟩ := hfirst b hb _ _ h
      obtain ⟨hlist, hst⟩ := ih hrest hbs hbehind
      exact ⟨by rw [hab, hlist], hst⟩

theorem behindFirst_append_inj {as bs : List Action} (ha : ∀ a ∈ as, a.Told)
    (hb : ∀ b ∈ bs, b.Known) (h : behindFirst as ++ s = behindFirst bs ++ t) :
    as = bs ∧ s = t := by
  cases as with
  | nil =>
    cases bs with
    | nil => exact ⟨rfl, by simpa [behindFirst] using h⟩
    | cons b bs =>
      simp only [behindFirst, listed_cons, List.cons_append, List.cons.injEq, true_and] at h
      exact absurd h.1 (by decide)
  | cons a as =>
    cases bs with
    | nil =>
      simp only [behindFirst, listed_cons, List.cons_append, List.cons.injEq, true_and] at h
      exact absurd h.1 (by decide)
    | cons b bs =>
      simp only [behindFirst, List.append_assoc] at h
      exact listed_append_inj ha hb h

/-- A sequence without steps is closed where a first step would begin with the letter of its
kind. -/
theorem Known.sequenceChars_nil_ne (h : a.Known) (rest : List Action) :
    sequenceChars (partChars []) ++ s ≠ sequenceChars (partChars (a :: rest)) ++ t := by
  obtain ⟨letter, more, hletter, hchars⟩ := h.exists_chars_eq
  rw [sequenceChars_cons, hchars]
  intro heq
  obtain rfl : ')' = letter := (List.cons.inj (List.cons.inj heq).2).1
  cases a <;> simp [initial] at hletter

theorem sequenceChars_append_inj {as bs : List Action} (ha : ∀ a ∈ as, a.Known ∧ a.Told)
    (hb : ∀ b ∈ bs, b.Known)
    (h : sequenceChars (partChars as) ++ s = sequenceChars (partChars bs) ++ t) :
    as = bs ∧ s = t := by
  cases as with
  | nil =>
    cases bs with
    | nil => exact ⟨rfl, List.append_cancel_left h⟩
    | cons b bs => exact absurd h ((hb b List.mem_cons_self).sequenceChars_nil_ne bs)
  | cons a as =>
    obtain ⟨⟨hknown, hfirst⟩, hrest⟩ := List.forall_mem_cons.mp ha
    cases bs with
    | nil => exact absurd h.symm (hknown.sequenceChars_nil_ne as)
    | cons b bs =>
      obtain ⟨hb, hbs⟩ := List.forall_mem_cons.mp hb
      rw [sequenceChars_cons, sequenceChars_cons] at h
      simp only [List.cons_append, List.append_assoc, List.cons.injEq, true_and] at h
      obtain ⟨hab, hbehind⟩ := hfirst b hb _ _ h
      obtain ⟨hlist, hst⟩ := behindFirst_append_inj (fun a ha => (hrest a ha).2) hbs hbehind
      exact ⟨by rw [hab, hlist], hst⟩

/-! ## Printed actions -/

/-- A quoted text between a word and a parenthesis. -/
theorem quoted_append_inj {word : List Char} {p q : String}
    (h : word ++ (quotedChars p.toList ++ [')']) ++ s =
      word ++ (quotedChars q.toList ++ [')']) ++ t) : p = q ∧ s = t := by
  simp only [List.append_assoc] at h
  obtain ⟨hpq, hrest⟩ := Text.quotedChars_append_inj (List.append_cancel_left h)
  exact ⟨String.toList_inj.mp hpq, List.append_cancel_left hrest⟩

/-- The word for the kind tells actions of different kinds; what is behind it, those of one kind. -/
theorem Known.told (ha : a.Known) : a.Told := by
  induction ha with
  | noop =>
    intro b hb s t h
    have hi := Known.noop.initial_eq hb h
    cases hb with
    | noop => exact ⟨rfl, List.append_cancel_left h⟩
    | _ => simp [initial] at hi
  | launch path =>
    intro b hb s t h
    have hi := (Known.launch path).initial_eq hb h
    cases hb with
    | launch path' =>
      rw [chars_launch, chars_launch, List.cons_append, List.cons_append] at h
      obtain ⟨rfl, hst⟩ := quoted_append_inj (List.cons.inj h).2
      exact ⟨rfl, hst⟩
    | _ => simp [initial] at hi
  | shell command =>
    intro b hb s t h
    have hi := (Known.shell command).initial_eq hb h
    cases hb with
    | shell command' =>
      rw [chars_shell, chars_shell, List.cons_append, List.cons_append] at h
      obtain ⟨rfl, hst⟩ := quoted_append_inj (List.cons.inj h).2
      exact ⟨rfl, hst⟩
    | _ => simp [initial] at hi
  | @workflow steps hsteps ih =>
    intro b hb s t h
    have hi := (Known.workflow hsteps).initial_eq hb h
    cases hb with
    | @workflow steps' hsteps' =>
      rw [chars_workflow, chars_workflow, List.cons_append, List.cons_append] at h
      have hsequences := (List.cons.inj h).2
      simp only [List.append_assoc] at hsequences
      obtain ⟨rfl, hrest⟩ := sequenceChars_append_inj (fun a ha => ⟨hsteps a ha, ih a ha⟩)
        hsteps' (List.append_cancel_left hsequences)
      exact ⟨rfl, List.append_cancel_left hrest⟩
    | _ => simp [initial] at hi

theorem toList_text (a : Action) : a.text.toList = a.chars :=
  String.toList_ofList

theorem text_inj (ha : a.Known) (hb : b.Known) : a.text = b.text ↔ a = b := by
  refine ⟨fun h => ?_, congrArg text⟩
  have hchars : a.chars = b.chars := by rw [← toList_text, h, toList_text]
  exact (ha.told b hb [] [] (congrArg (· ++ []) hchars)).1

/-! ## Printable characters -/

theorem printable_sequenceChars {parts : List (List Char)} (h : ∀ part ∈ parts, Printable part) :
    Printable (sequenceChars parts) := by
  unfold sequenceChars
  split
  · exact printable_append.mpr ⟨printable_cons.mpr ⟨rfl, h _ List.mem_cons_self⟩, by decide⟩
  · have hjoin : Printable (Text.joinWith [',', ' '] _) := printable_joinWith (by decide) h
    exact printable_append.mpr ⟨printable_cons.mpr ⟨rfl, hjoin⟩, by decide⟩

/-- What stands between a word and a parenthesis is what matters. -/
theorem printable_chars_of {word middle : List Char} (hw : Printable word) (hm : Printable middle) :
    Printable (word ++ (middle ++ [')'])) :=
  printable_append.mpr ⟨hw, printable_append.mpr ⟨hm, by decide⟩⟩

theorem Known.printable_chars (ha : a.Known) : Printable a.chars := by
  induction ha with
  | noop => exact (by decide : Printable "NoOp()".toList)
  | launch path =>
    rw [chars_launch, printable_cons]
    exact ⟨rfl, printable_chars_of (by decide) (printable_quotedChars _)⟩
  | shell command =>
    rw [chars_shell, printable_cons]
    exact ⟨rfl, printable_chars_of (by decide) (printable_quotedChars _)⟩
  | @workflow steps _ ih =>
    rw [chars_workflow, printable_cons, partChars_eq_map]
    refine ⟨rfl, printable_chars_of (by decide) (printable_sequenceChars fun part hpart => ?_)⟩
    obtain ⟨step, hstep, rfl⟩ := List.mem_map.mp hpart
    exact ih step hstep

end QuickLaunch.Action
