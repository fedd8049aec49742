import Mathlib.Data.List.Infix
import QuickLaunch.Proofs.Shell.Endings

/-!
# What a quotation means

A command is put between double quotes as it is, and what arrives is what the quotation means
(`Means`). Most texts mean themselves there. A text that does not arrives shorter: reading never
adds a character, and each double quote and each backslash that is read as more than itself is lost
beside the two quotes around the command.

* `Means.words`: a quotation is one word, the text that it means;
* `means_escape`: with a backslash before each backslash and double quote it means any text;
* `length_flatten_add_due_le`: what reading loses at least;
* `Interpreter.request_eq_verbatim_iff`: the commands that arrive as they are.
-/

namespace QuickLaunch

namespace Shell

variable {mode : Mode} {piece s t : List Char} {c : Char} {ws : List (List Char)}

/-! ## Quotations -/

/-- Between double quotes the first text means the second. A backslash makes a double quote or a
backslash stand for itself; before any other character it stands for itself. -/
inductive Means : List Char → List Char → Prop where
  | nil : Means [] []
  | plain {c : Char} {s t : List Char} : c ≠ '"' → c ≠ '\\' → Means s t → Means (c :: s) (c :: t)
  | escaped {c : Char} {s t : List Char} : c = '"' ∨ c = '\\' → Means s t →
      Means ('\\' :: c :: s) (c :: t)
  | backslash {c : Char} {s t : List Char} : c ≠ '"' → c ≠ '\\' → Means s t →
      Means ('\\' :: c :: s) ('\\' :: c :: t)

/-- A text between double quotes is empty or begins in one of five ways. -/
theorem quoted_induction {P : List Char → Prop} (nil : P [])
    (plain : ∀ c s, c ≠ '"' → c ≠ '\\' → P s → P (c :: s))
    (quote : ∀ s, P ('"' :: s))
    (alone : P ['\\'])
    (escaped : ∀ c s, c = '"' ∨ c = '\\' → P ('\\' :: c :: s))
    (backslash : ∀ c s, c ≠ '"' → c ≠ '\\' → P s → P ('\\' :: c :: s)) :
    ∀ s, P s
  | [] => nil
  | [c] => by
    by_cases hq : c = '"'
    · exact hq ▸ quote []
    · by_cases hb : c = '\\'
      · exact hb ▸ alone
      · exact plain c [] hq hb nil
  | c :: d :: s => by
    by_cases hq : c = '"'
    · exact hq ▸ quote (d :: s)
    · by_cases hb : c = '\\'
      · subst hb
        by_cases hd : d = '"' ∨ d = '\\'
        · exact escaped d s hd
        · rw [not_or] at hd
          exact backslash d s hd.1 hd.2 (quoted_induction nil plain quote alone escaped backslash s)
      · exact plain c (d :: s) hq hb
          (quoted_induction nil plain quote alone escaped backslash (d :: s))

theorem wordsFrom_plain (hq : c ≠ '"') (hb : c ≠ '\\') :
    wordsFrom (.quoted '"') piece (c :: s) = wordsFrom (.quoted '"') (c :: piece) s := by
  simp [wordsFrom, hq, hb]

theorem wordsFrom_quote :
    wordsFrom (.quoted '"') piece ('"' :: s) = wordsFrom .word piece s := by
  simp [wordsFrom]

theorem wordsFrom_escaped (hc : c = '"' ∨ c = '\\') :
    wordsFrom (.quoted '"') piece ('\\' :: c :: s) = wordsFrom (.quoted '"') (c :: piece) s := by
  simp [wordsFrom, addEscaped, hc.symm]

theorem wordsFrom_backslash (hq : c ≠ '"') (hb : c ≠ '\\') :
    wordsFrom (.quoted '"') piece ('\\' :: c :: s) =
      wordsFrom (.quoted '"') (c :: '\\' :: piece) s := by
  simp [wordsFrom, addEscaped, hq, hb]

/-- A quotation adds what it means to its word. -/
theorem Means.wordsFrom_append (h : Means s t) (piece behind : List Char) :
    wordsFrom (.quoted '"') piece (s ++ '"' :: behind) =
      wordsFrom .word (t.reverse ++ piece) behind := by
  induction h generalizing piece with
  | nil => exact wordsFrom_quote
  | plain hq hb _ ih => simpa [wordsFrom_plain hq hb] using ih _
  | escaped hc _ ih => simpa [wordsFrom_escaped hc] using ih _
  | backslash hq hb _ ih => simpa [wordsFrom_backslash hq hb] using ih _

/-- A quotation is one word. -/
theorem Means.words (h : Means s t) : wordsFrom (.quoted '"') [] (s ++ ['"']) = .ok [t] := by
  rw [h.wordsFrom_append, wordsFrom, List.append_nil, List.reverse_reverse]

/-- The text with a backslash before each backslash and each double quote. -/
def escape (t : List Char) : List Char :=
  t.flatMap fun c => if c = '\\' ∨ c = '"' then ['\\', c] else [c]

theorem means_escape (t : List Char) : Means (escape t) t := by
  induction t with
  | nil => exact .nil
  | cons c rest ih =>
    rw [escape, List.flatMap_cons]
    by_cases hc : c = '\\' ∨ c = '"'
    · rw [if_pos hc]
      exact .escaped hc.symm ih
    · rw [if_neg hc]
      rw [not_or] at hc
      exact .plain hc.2 hc.1 ih

/-! ## What is lost -/

/-- How many of the characters of the word and of the text behind it are lost at least: the quote
that closes a quotation, and outside of quotations a double quote that is still to come. A backslash
may yet stand for itself, and then makes up for the quote. -/
def Mode.due : Mode → List Char → Nat
  | .gap, s | .word, s => if '"' ∈ s then 1 else 0
  | .quoted _, _ => 1
  | .escaped _, _ => 0

theorem Mode.due_le_one (mode : Mode) (s : List Char) : mode.due s ≤ 1 := by
  unfold due
  split
  · split_ifs <;> decide
  · split_ifs <;> decide
  · decide
  · decide

/-- Outside of quotations only a double quote is due. -/
theorem Mode.due_cons (hq : isQuote c = false) (s : List Char) :
    Mode.word.due (c :: s) = Mode.word.due s := by
  have hne : '"' ≠ c := by
    rintro rfl
    cases hq
  simp [due, hne]

theorem length_addEscaped_le (quote : Option Char) (piece : List Char) (c : Char) :
    (addEscaped quote piece c).length ≤ piece.length + if quote.isSome then 2 else 1 := by
  cases quote with
  | none => simp [addEscaped]
  | some q =>
    rw [addEscaped, Option.isSome_some, if_pos rfl]
    split_ifs <;> simp

/-- A character that is added to the word so far settles nothing of what is due. -/
theorem Mode.length_extend_add_due_le (h : ¬ mode.Ends c) (piece s : List Char) :
    (mode.extend piece c).length + mode.due (c :: s) ≤
      piece.length + 1 + (mode.next c).due s := by
  have hdue := mode.due_le_one (c :: s)
  cases mode with
  | gap =>
    rw [extend]
    split_ifs with hc
    · rw [List.length_nil]
      omega
    · rw [not_or, not_or] at hc
      have hnext : Mode.gap.next c = .word := by simp [next, hc]
      have hkeep : Mode.gap.due (c :: s) = Mode.word.due s := due_cons (by simpa using hc.2.2) s
      rw [hnext, hkeep, List.length_singleton]
      omega
  | word =>
    rw [extend]
    split_ifs with hc
    · omega
    · rw [not_or] at hc
      have hs : ¬ isSeparator c = true := fun hs => h ⟨rfl, hs⟩
      have hnext : Mode.word.next c = .word := by simp [next, hc, hs]
      rw [hnext, due_cons (by simpa using hc.2), List.length_cons]
  | quoted q =>
    rw [extend]
    split_ifs with hc
    · omega
    · rw [not_or] at hc
      have hnext : (Mode.quoted q).next c = .quoted q := by
        rw [next, if_neg hc.1, if_neg hc.2]
      rw [hnext, List.length_cons]
      exact Nat.le_refl _
  | escaped quote =>
    have hlen := length_addEscaped_le quote piece c
    cases quote with
    | none =>
      simp only [extend, due, Option.isSome_none, Bool.false_eq_true, if_false] at hlen ⊢
      omega
    | some q =>
      simp only [extend, next, due, Option.isSome_some, if_true] at hlen ⊢
      omega

/-- Words have no more characters than the text, and fewer if one is due to be lost. -/
theorem length_flatten_add_due_le (h : wordsFrom mode piece s = .ok ws) :
    ws.flatten.length + mode.due s ≤ piece.length + s.length := by
  induction s generalizing mode piece ws with
  | nil =>
    cases mode with
    | gap => cases h; simp [Mode.due]
    | word => cases h; simp [Mode.due]
    | quoted q => cases h
    | escaped quote => cases h
  | cons c rest ih =>
    rw [List.length_cons]
    by_cases hends : mode.Ends c
    · rw [wordsFrom_of_ends hends] at h
      have hdue := mode.due_le_one (c :: rest)
      cases hg : wordsFrom .gap [] rest with
      | error fault => simp [hg, Except.map] at h
      | ok others =>
        rw [hg] at h
        cases h
        have hle := ih hg
        rw [List.length_nil] at hle
        rw [List.flatten_cons, List.length_append, List.length_reverse]
        omega
    · rw [wordsFrom_of_not_ends hends] at h
      have hle := ih h
      have hstep := Mode.length_extend_add_due_le hends piece rest
      omega

/-! ## Texts that mean themselves -/

/-- Between double quotes the text is read as it is. -/
structure Verbatim (s : List Char) : Prop where
  unquoted : '"' ∉ s
  unpaired : ¬ ['\\', '\\'] <:+: s
  unended : s.getLast? ≠ some '\\'

theorem verbatim_nil : Verbatim [] :=
  ⟨List.not_mem_nil, by simp, by simp⟩

theorem Verbatim.tail (h : Verbatim (c :: s)) : Verbatim s where
  unquoted := fun hm => h.unquoted (List.mem_cons_of_mem c hm)
  unpaired := fun hi => h.unpaired (hi.trans (List.suffix_cons c s).isInfix)
  unended := fun hl => h.unended (by rw [List.getLast?_cons, hl, Option.getD_some])

theorem Verbatim.cons (hq : c ≠ '"') (hb : c ≠ '\\') (h : Verbatim s) : Verbatim (c :: s) where
  unquoted := by simp [Ne.symm hq, h.unquoted]
  unpaired := by simp [List.infix_cons_iff, Ne.symm hb, h.unpaired]
  unended := by
    have hl := h.unended
    rw [List.getLast?_cons]
    cases hs : s.getLast? with
    | none => simpa using hb
    | some d => simpa [hs] using hl

/-- A backslash stands for itself before any character but a double quote and a backslash. -/
theorem Verbatim.backslash (hq : c ≠ '"') (hb : c ≠ '\\') (h : Verbatim s) :
    Verbatim ('\\' :: c :: s) where
  unquoted := by simp [Ne.symm hq, h.unquoted]
  unpaired := by
    have hrest := (h.cons hq hb).unpaired
    rw [List.infix_cons_iff, not_or]
    exact ⟨by simp [Ne.symm hb], hrest⟩
  unended := by
    rw [List.getLast?_cons_cons]
    exact (h.cons hq hb).unended

theorem Verbatim.means (h : Verbatim s) : Means s s := by
  induction s using quoted_induction with
  | nil => exact .nil
  | plain c s hq hb ih => exact .plain hq hb (ih h.tail)
  | quote s => exact absurd List.mem_cons_self h.unquoted
  | alone => exact absurd rfl h.unended
  | escaped c s hc =>
    rcases hc with rfl | rfl
    · exact absurd (by simp) h.unquoted
    · exact absurd ⟨[], s, rfl⟩ h.unpaired
  | backslash c s hq hb ih => exact .backslash hq hb (ih h.tail.tail)

/-- A text that is read without a loss, but for that of the quote behind it, is read as it is. -/
theorem verbatim_of_wordsFrom (h : wordsFrom (.quoted '"') piece (s ++ ['"']) = .ok ws)
    (hlen : piece.length + s.length ≤ ws.flatten.length) : Verbatim s := by
  induction s using quoted_induction generalizing piece with
  | nil => exact verbatim_nil
  | plain c s hq hb ih =>
    rw [List.cons_append, wordsFrom_plain hq hb] at h
    refine (ih h ?_).cons hq hb
    simp only [List.length_cons] at hlen ⊢
    omega
  | quote s =>
    -- The word goes on behind the quotation, and the last quote is lost with those of this one.
    rw [List.cons_append, wordsFrom_quote] at h
    have hle := length_flatten_add_due_le h
    have hdue : Mode.word.due (s ++ ['"']) = 1 := by simp [Mode.due]
    simp only [List.length_cons, List.length_append, List.length_nil] at hlen hle
    omega
  | alone =>
    rw [List.singleton_append, wordsFrom_escaped (.inl rfl)] at h
    cases h
  | escaped c s hc =>
    rw [List.cons_append, List.cons_append, wordsFrom_escaped hc] at h
    have hle := length_flatten_add_due_le h
    simp only [Mode.due, List.length_cons, List.length_append, List.length_nil] at hlen hle
    omega
  | backslash c s hq hb ih =>
    rw [List.cons_append, List.cons_append, wordsFrom_backslash hq hb] at h
    refine (ih h ?_).backslash hq hb
    simp only [List.length_cons] at hlen ⊢
    omega

end Shell

namespace Interpreter

open Shell (wordsFrom Verbatim)

variable {i : Interpreter} {command : String}

theorem injective_textOfWord : Function.Injective fun w => Value.text (String.ofList w) :=
  fun _ _ h => String.ofList_injective (Value.text.inj h)

/-- The interpreter is started with one word more if the command is read as that word. -/
theorem request_eq_singleton_iff {w : String} :
    i.request .posix command = .ok (.words (i.program :: i.args ++ [.text w])) ↔
      wordsFrom (.quoted '"') [] (command.toList ++ ['"']) = .ok [w.toList] := by
  have hw : [Value.text w] = [w.toList].map fun w => Value.text (String.ofList w) := by simp
  rw [request_posix, hw]
  cases wordsFrom (.quoted '"') [] (command.toList ++ ['"']) with
  | error fault => simp [Except.map]
  | ok ws =>
    rw [Except.map, Except.ok.injEq, Except.ok.injEq, Request.words.injEq,
      List.append_cancel_left_eq, (List.map_injective_iff.mpr injective_textOfWord).eq_iff]

/-- A command arrives as it is if it has no double quote and no two backslashes in a row, and does
not end in a backslash, and only then: the interpreter is started with its arguments as they are and
the command behind them. -/
theorem request_eq_verbatim_iff (i : Interpreter) (command : String) :
    i.request .posix command = .ok (.words (i.program :: i.args ++ [.text command])) ↔
      '"' ∉ command.toList ∧ ¬ ['\\', '\\'] <:+: command.toList
        ∧ command.toList.getLast? ≠ some '\\' := by
  rw [request_eq_singleton_iff]
  constructor
  · intro h
    have hv : Verbatim command.toList := Shell.verbatim_of_wordsFrom h (by simp)
    exact ⟨hv.unquoted, hv.unpaired, hv.unended⟩
  · rintro ⟨hq, hp, hl⟩
    exact (Verbatim.means ⟨hq, hp, hl⟩).words

end Interpreter

end QuickLaunch
