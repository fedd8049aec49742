import Mathlib.Algebra.Ring.Parity
import QuickLaunch.Shell.Interpreter

/-!
# How cutting a command ends

Whether a text can be cut into words is settled by the mode that its last character leaves, and not
by the words that were found. A command for the interpreter ends in a double quote, behind which no
character is escaped: all that can be wrong with it is a quotation that is not closed.

* `wordsFrom_of_ends`, `wordsFrom_of_not_ends`: the two kinds of steps of the scan;
* `wordsFrom_eq_error_iff`: the faults of a text, by the mode that it ends in;
* `wordsFrom_ne_nil`: once a word has begun there is a word;
* `isSome_fault?_after`: without backslashes and apostrophes double quotes open and close in turn;
* `Interpreter.request_cases`: what handing a command to the interpreter comes to.
-/

namespace QuickLaunch

namespace Shell

variable {mode : Mode} {piece s : List Char} {c : Char} {fault : Fault}

/-! ## Modes -/

namespace Mode

/-- The mode behind a character. -/
def next : Mode → Char → Mode
  | .gap, c | .word, c =>
    if isSeparator c then .gap else if c = '\\' then .escaped none
    else if isQuote c then .quoted c else .word
  | .quoted q, c =>
    if c = q then .word else if c = '\\' ∧ q = '"' then .escaped (some q) else .quoted q
  | .escaped (some q), _ => .quoted q
  | .escaped none, _ => .word

/-- The word so far behind a character that does not end it, last character first. -/
def extend (piece : List Char) : Mode → Char → List Char
  | .gap, c => if isSeparator c ∨ c = '\\' ∨ isQuote c then [] else [c]
  | .word, c => if c = '\\' ∨ isQuote c then piece else c :: piece
  | .quoted q, c => if c = q ∨ (c = '\\' ∧ q = '"') then piece else c :: piece
  | .escaped quote, c => addEscaped quote piece c

/-- The character ends a word. -/
def Ends (mode : Mode) (c : Char) : Prop :=
  mode = .word ∧ isSeparator c = true

/-- The mode behind a text. -/
def after (mode : Mode) (s : List Char) : Mode :=
  s.foldl next mode

/-- What is wrong with a text that ends in the mode. -/
def fault? : Mode → Option Fault
  | .gap | .word => none
  | .quoted _ => some .unclosedQuotation
  | .escaped _ => some .nothingEscaped

theorem after_cons (mode : Mode) (c : Char) (s : List Char) :
    mode.after (c :: s) = (mode.next c).after s := rfl

theorem after_concat (mode : Mode) (s : List Char) (c : Char) :
    mode.after (s ++ [c]) = (mode.after s).next c := by
  rw [after, List.foldl_append]
  rfl

theorem Ends.next_eq (h : mode.Ends c) : mode.next c = .gap := by
  obtain ⟨rfl, hc⟩ := h
  rw [next, if_pos hc]

/-- A word goes on until a character ends it. -/
theorem next_ne_gap (hm : mode ≠ .gap) (h : ¬ mode.Ends c) : mode.next c ≠ .gap := by
  cases mode with
  | gap => exact absurd rfl hm
  | word =>
    rw [next, if_neg fun hc => h ⟨rfl, hc⟩]
    split_ifs <;> nofun
  | quoted q =>
    rw [next]
    split_ifs <;> nofun
  | escaped quote => cases quote <;> nofun

end Mode

/-! ## Steps of the scan -/

/-- A character that ends a word begins a gap. -/
theorem wordsFrom_of_ends (h : mode.Ends c) (piece s : List Char) :
    wordsFrom mode piece (c :: s) = (wordsFrom .gap [] s).map (piece.reverse :: ·) := by
  obtain ⟨rfl, hc⟩ := h
  rw [wordsFrom, if_pos hc]

/-- Any other character leads to the next mode, and belongs to the word so far or to none. -/
theorem wordsFrom_of_not_ends (h : ¬ mode.Ends c) (piece s : List Char) :
    wordsFrom mode piece (c :: s) = wordsFrom (mode.next c) (mode.extend piece c) s := by
  cases mode with
  | gap =>
    rw [wordsFrom, Mode.next, Mode.extend]
    split_ifs <;> simp_all
  | word =>
    have hc : ¬ isSeparator c = true := fun hc => h ⟨rfl, hc⟩
    rw [wordsFrom, Mode.next, Mode.extend, if_neg hc, if_neg hc]
    split_ifs <;> simp_all
  | quoted q =>
    rw [wordsFrom, Mode.next, Mode.extend]
    split_ifs <;> simp_all
  | escaped quote => cases quote <;> rfl

/-- A text is at fault when the mode that it ends in is. -/
theorem wordsFrom_eq_error_iff (mode : Mode) (piece s : List Char) :
    wordsFrom mode piece s = .error fault ↔ (mode.after s).fault? = some fault := by
  induction s generalizing mode piece with
  | nil => cases mode <;> simp [wordsFrom, Mode.after, Mode.fault?]
  | cons c rest ih =>
    rw [Mode.after_cons]
    by_cases h : mode.Ends c
    · rw [wordsFrom_of_ends h, h.next_eq, ← ih .gap []]
      cases wordsFrom .gap [] rest <;> simp [Except.map]
    · rw [wordsFrom_of_not_ends h]
      exact ih _ _

/-- Once a word has begun there is a word. -/
theorem wordsFrom_ne_nil (hm : mode ≠ .gap) : wordsFrom mode piece s ≠ .ok [] := by
  induction s generalizing mode piece with
  | nil => cases mode <;> simp_all [wordsFrom]
  | cons c rest ih =>
    by_cases h : mode.Ends c
    · rw [wordsFrom_of_ends h]
      cases wordsFrom .gap [] rest <;> simp [Except.map]
    · rw [wordsFrom_of_not_ends h]
      exact ih (Mode.next_ne_gap hm h)

/-! ## Behind a double quote -/

/-- Behind a double quote no character is escaped. -/
theorem fault?_next_quote (mode : Mode) :
    (mode.next '"').fault? = none ∨ (mode.next '"').fault? = some .unclosedQuotation := by
  cases mode with
  | gap => exact .inr rfl
  | word => exact .inr rfl
  | quoted q =>
    rw [Mode.next]
    split_ifs with hq hb
    · exact .inl rfl
    · exact absurd hb.1 (by decide)
    · exact .inr rfl
  | escaped quote =>
    cases quote with
    | none => exact .inl rfl
    | some q => exact .inr rfl

/-! ## Double quotes alone -/

/-- The mode is one of those of a text whose only quotations are those between double quotes. -/
def Mode.Simple : Mode → Prop
  | .gap | .word => True
  | .quoted q => q = '"'
  | .escaped _ => False

/-- A double quote opens a quotation or closes it, and no other character does. -/
theorem Mode.Simple.next (hm : mode.Simple) (hb : c ≠ '\\') (ha : c ≠ '\'') :
    (mode.next c).Simple
      ∧ (mode.next c).fault?.isSome = (mode.fault?.isSome ^^ decide (c = '"')) := by
  have outside : ∀ m : Mode, m = .gap ∨ m = .word →
      (m.next c).Simple ∧ (m.next c).fault?.isSome = (m.fault?.isSome ^^ decide (c = '"')) := by
    intro m hm
    have hnext : m.next c =
        if isSeparator c then .gap else if c = '"' then .quoted c else .word := by
      rcases hm with rfl | rfl <;> simp [Mode.next, isQuote, hb, ha]
    have hfault : m.fault? = none := by rcases hm with rfl | rfl <;> rfl
    rw [hnext, hfault]
    by_cases hq : c = '"'
    · subst hq
      exact ⟨rfl, rfl⟩
    · split_ifs <;> exact ⟨trivial, by simp [Mode.fault?, hq]⟩
  cases mode with
  | gap => exact outside .gap (.inl rfl)
  | word => exact outside .word (.inr rfl)
  | quoted q =>
    obtain rfl : q = '"' := hm
    rw [Mode.next]
    by_cases hq : c = '"'
    · subst hq
      exact ⟨trivial, rfl⟩
    · rw [if_neg hq, if_neg fun h => hb h.1]
      exact ⟨rfl, by simp [Mode.fault?, hq]⟩
  | escaped quote => exact hm.elim

/-- Without backslashes and apostrophes double quotes open and close quotations in turn. -/
theorem isSome_fault?_after (hm : mode.Simple) (hb : '\\' ∉ s) (ha : '\'' ∉ s) :
    (mode.after s).fault?.isSome = (mode.fault?.isSome ^^ decide (Odd (s.count '"'))) := by
  induction s generalizing mode with
  | nil => simp [Mode.after]
  | cons c rest ih =>
    rw [List.mem_cons, not_or] at hb ha
    obtain ⟨hsimple, hfault⟩ := hm.next (Ne.symm hb.1) (Ne.symm ha.1)
    rw [Mode.after_cons, ih hsimple hb.2 ha.2, hfault, List.count_cons, Bool.xor_assoc]
    congr 1
    by_cases hq : c = '"'
    · simp [hq, Nat.odd_add_one, ← Nat.not_even_iff_odd]
    · simp [hq]

end Shell

namespace Interpreter

open Shell (wordsFrom Mode)

variable {i : Interpreter} {command : String}

/-- A command is handed over as the words that are read from it behind a double quote. -/
theorem request_posix (i : Interpreter) (command : String) :
    i.request .posix command =
      (wordsFrom (.quoted '"') [] (command.toList ++ ['"'])).map fun ws =>
        .words (i.program :: i.args ++ ws.map fun w => .text (String.ofList w)) := by
  have hwords : Shell.words ('"' :: command.toList ++ ['"']) =
      wordsFrom (.quoted '"') [] (command.toList ++ ['"']) := rfl
  rw [request, hwords]
  cases wordsFrom (.quoted '"') [] (command.toList ++ ['"']) <;> rfl

theorem request_eq_error_iff {fault : Fault} :
    i.request .posix command = .error fault ↔
      ((Mode.quoted '"').after (command.toList ++ ['"'])).fault? = some fault := by
  rw [request_posix, ← Shell.wordsFrom_eq_error_iff _ []]
  cases wordsFrom (.quoted '"') [] (command.toList ++ ['"']) <;> simp [Except.map]

theorem eq_of_request_eq_error {fault : Fault} (h : i.request .posix command = .error fault) :
    fault = .unclosedQuotation := by
  rw [request_eq_error_iff, Mode.after_concat] at h
  rcases Shell.fault?_next_quote ((Mode.quoted '"').after command.toList) with hn | hn
  · rw [hn] at h
    cases h
  · exact (Option.some.inj (hn.symm.trans h)).symm

/-- An interpreter is started with its arguments as they are and one word or more behind them. -/
theorem exists_of_request_eq_ok {r : Request} (h : i.request .posix command = .ok r) :
    ∃ (w : String) (ws : List String),
      r = .words (i.program :: i.args ++ .text w :: ws.map .text) := by
  rw [request_posix] at h
  cases hw : wordsFrom (.quoted '"') [] (command.toList ++ ['"']) with
  | error fault =>
    rw [hw] at h
    cases h
  | ok ws =>
    rw [hw] at h
    cases ws with
    | nil => exact absurd hw (Shell.wordsFrom_ne_nil nofun)
    | cons w ws =>
      refine ⟨String.ofList w, ws.map String.ofList, ?_⟩
      rw [← Except.ok.inj h, List.map_map]
      rfl

/-- Where programs are handed words, handing a command to the interpreter fails since a quotation is
not closed, or the interpreter is started with its arguments as they are and one word or more behind
them. A command without backslashes and apostrophes fails when the number of its double quotes is
odd. -/
theorem request_cases (i : Interpreter) (command : String) :
    (i.request .posix command = .error .unclosedQuotation
        ∨ ∃ (w : String) (ws : List String), i.request .posix command =
            .ok (.words (i.program :: i.args ++ .text w :: ws.map .text)))
      ∧ Fault.message .unclosedQuotation = "No closing quotation"
      ∧ ('\\' ∉ command.toList → '\'' ∉ command.toList →
        ((∃ fault, i.request .posix command = .error fault) ↔
          Odd (command.toList.count '"'))) := by
  refine ⟨?_, rfl, fun hb ha => ?_⟩
  · cases hr : i.request .posix command with
    | error fault => exact .inl (congrArg Except.error (eq_of_request_eq_error hr))
    | ok r =>
      obtain ⟨w, ws, rfl⟩ := exists_of_request_eq_ok hr
      exact .inr ⟨w, ws, rfl⟩
  · have hsimple : (Mode.quoted '"').Simple := rfl
    have hfault : (∃ fault, i.request .posix command = .error fault) ↔
        ((Mode.quoted '"').after (command.toList ++ ['"'])).fault?.isSome = true := by
      simp only [request_eq_error_iff, Option.isSome_iff_exists]
    rw [hfault, Shell.isSome_fault?_after hsimple (by simpa using hb) (by simpa using ha)]
    simp [Mode.fault?, Nat.even_add_one]

/-- A command with one double quote cannot be handed over. -/
theorem request_cases_of_open_quote :
    '\\' ∉ "say \"hi".toList ∧ '\'' ∉ "say \"hi".toList
      ∧ ∃ fault, (default .posix).request .posix "say \"hi" = .error fault := by
  have hb : '\\' ∉ "say \"hi".toList := by decide
  have ha : '\'' ∉ "say \"hi".toList := by decide
  exact ⟨hb, ha, ((request_cases (default .posix) "say \"hi").2.2 hb ha).mpr (by decide)⟩

end Interpreter

end QuickLaunch
