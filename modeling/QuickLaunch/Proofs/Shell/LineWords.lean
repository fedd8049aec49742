import Mathlib.Data.List.Infix
import Mathlib.Tactic.SplitIfs
import QuickLaunch.Proofs.Results
import QuickLaunch.Shell.Interpreter

/-!
# The words of a command line

A program that is handed a command line cuts it into words itself: at spaces and tabs outside of
quotations, with backslashes that mean themselves unless a double quote follows them. Reading is
described here on its own (`lineWords`), and a command line is read as the words that it was made
of. The command behind them is put between double quotes as it is, and arrives unless there is a
double quote in it or a backslash at its end.

* `lineWordsFrom_commandLine`: the words of a command line are read back;
* `length_flatten_add_count_le`: each double quote costs a character;
* `lineWordsFrom_quotation_iff`: the texts that are read back from between double quotes;
* `Interpreter.lineWords_request`: the line of a command is read as the program, its arguments and,
  for exactly these texts, the command.
-/

namespace QuickLaunch

namespace Shell

/-- The characters between the words of a command line. -/
def isGap (c : Char) : Bool :=
  c == ' ' || c == '\t'

/-- The words of a command line from a place on. `quoted` says whether a quotation is open there and
`backslashes` counts those right before it; `piece` is what the word has before them, if one has
begun. Of backslashes before a double quote half remain, and an odd one makes the quote stand for
itself; other backslashes all remain. -/
def lineWordsFrom (quoted : Bool) (backslashes : Nat) (piece : Option (List Char)) :
    List Char → List (List Char)
  | [] => (piece.map (· ++ List.replicate backslashes '\\')).toList
  | c :: rest =>
    if c = '\\' then lineWordsFrom quoted (backslashes + 1) (some (piece.getD [])) rest
    else if c = '"' then
      if backslashes % 2 = 0 then
        lineWordsFrom (!quoted) 0
          (some (piece.getD [] ++ List.replicate (backslashes / 2) '\\')) rest
      else
        lineWordsFrom quoted 0
          (some (piece.getD [] ++ List.replicate (backslashes / 2) '\\' ++ ['"'])) rest
    else if isGap c ∧ quoted = false then
      (piece.map (· ++ List.replicate backslashes '\\')).toList ++ lineWordsFrom false 0 none rest
    else
      lineWordsFrom quoted 0 (some (piece.getD [] ++ List.replicate backslashes '\\' ++ [c])) rest

/-- The words of a command line. -/
def lineWords (line : String) : List String :=
  (lineWordsFrom false 0 none line.toList).map String.ofList

variable {quoted : Bool} {backslashes k last : Nat} {piece w s behind : List Char} {c : Char}

/-! ## One character -/

theorem lineWordsFrom_plain (hb : c ≠ '\\') (hq : c ≠ '"') (hp : isGap c = false ∨ quoted = true) :
    lineWordsFrom quoted k (some piece) (c :: s) =
      lineWordsFrom quoted 0 (some (piece ++ List.replicate k '\\' ++ [c])) s := by
  have hgap : ¬ (isGap c = true ∧ quoted = false) := by
    rcases hp with hp | hp <;> simp [hp]
  rw [lineWordsFrom, if_neg hb, if_neg hq, if_neg hgap, Option.getD_some]

theorem lineWordsFrom_replicate (n : Nat) :
    lineWordsFrom quoted k (some piece) (List.replicate n '\\' ++ s) =
      lineWordsFrom quoted (k + n) (some piece) s := by
  induction n generalizing k with
  | zero => rfl
  | succ n ih =>
    rw [List.replicate_succ, List.cons_append, lineWordsFrom, if_pos rfl, Option.getD_some, ih]
    congr 1
    omega

/-- An even number of backslashes is halved, and the quote behind them opens or closes a
quotation. -/
theorem lineWordsFrom_quote_even (k : Nat) :
    lineWordsFrom quoted (2 * k) (some piece) ('"' :: s) =
      lineWordsFrom (!quoted) 0 (some (piece ++ List.replicate k '\\')) s := by
  have hhalf : 2 * k / 2 = k := by omega
  have heven : 2 * k % 2 = 0 := by omega
  rw [lineWordsFrom, if_neg (by decide), if_pos rfl]
  simp only [hhalf, heven, if_true, Option.getD_some]

/-- The backslash that is left over makes the quote stand for itself. -/
theorem lineWordsFrom_quote_odd (k : Nat) :
    lineWordsFrom quoted (2 * k + 1) (some piece) ('"' :: s) =
      lineWordsFrom quoted 0 (some (piece ++ List.replicate k '\\' ++ ['"'])) s := by
  have hhalf : (2 * k + 1) / 2 = k := by omega
  have hodd : ¬ (2 * k + 1) % 2 = 0 := by omega
  rw [lineWordsFrom, if_neg (by decide), if_pos rfl]
  simp only [hhalf, hodd, if_false, Option.getD_some]

/-- A space ends a word. -/
theorem lineWordsFrom_space :
    lineWordsFrom false 0 (some piece) (' ' :: s) = piece :: lineWordsFrom false 0 none s := by
  simp [lineWordsFrom, isGap]

/-- A word begins with any character that does not stand between words. -/
theorem lineWordsFrom_begin (hp : isGap c = false) :
    lineWordsFrom false 0 none (c :: s) = lineWordsFrom false 0 (some []) (c :: s) := by
  simp [lineWordsFrom, hp]

/-! ## Words -/

/-- An escaped word is read as the word. Backslashes at its end are still to be read, as many times
as they were written. -/
theorem exists_lineWordsFrom_escapeFrom (quoted : Bool) (last k : Nat) (piece w behind : List Char)
    (hw : quoted = true ∨ ∀ c ∈ w, isGap c = false) :
    ∃ j read, read ++ List.replicate j '\\' = piece ++ List.replicate k '\\' ++ w
      ∧ lineWordsFrom quoted 0 (some piece) (escapeFrom last k w ++ behind) =
        lineWordsFrom quoted (last * j) (some read) behind := by
  induction w generalizing k piece with
  | nil =>
    refine ⟨k, piece, by rw [List.append_nil], ?_⟩
    rw [escapeFrom, lineWordsFrom_replicate, Nat.zero_add]
  | cons c rest ih =>
    have hrest : quoted = true ∨ ∀ c ∈ rest, isGap c = false :=
      hw.imp_right fun h d hd => h d (List.mem_cons_of_mem c hd)
    rw [escapeFrom]
    split_ifs with hb hq
    · subst hb
      obtain ⟨j, read, hread, hrun⟩ := ih (k + 1) piece hrest
      refine ⟨j, read, ?_, hrun⟩
      rw [hread, List.replicate_succ']
      simp
    · subst hq
      obtain ⟨j, read, hread, hrun⟩ :=
        ih 0 (piece ++ List.replicate k '\\' ++ ['"']) hrest
      refine ⟨j, read, by simpa using hread, ?_⟩
      rw [List.append_assoc, lineWordsFrom_replicate, Nat.zero_add, List.cons_append,
        List.cons_append, lineWordsFrom, if_pos rfl, Option.getD_some, lineWordsFrom_quote_odd,
        hrun]
    · obtain ⟨j, read, hread, hrun⟩ :=
        ih 0 (piece ++ List.replicate k '\\' ++ [c]) hrest
      refine ⟨j, read, by simpa using hread, ?_⟩
      have hp : isGap c = false ∨ quoted = true := hw.symm.imp_left fun h => h c List.mem_cons_self
      rw [List.append_assoc, lineWordsFrom_replicate, Nat.zero_add, List.cons_append,
        lineWordsFrom_plain hb hq hp, hrun]

theorem exists_replicate_append_eq_cons (hk : 0 < k) (s : List Char) :
    ∃ rest, List.replicate k '\\' ++ s = '\\' :: rest := by
  obtain ⟨m, rfl⟩ : ∃ m, k = m + 1 := ⟨k - 1, by omega⟩
  exact ⟨_, rfl⟩

/-- An escaped word that is not empty begins with a backslash or with a character of the word. -/
theorem exists_escapeFrom_eq_cons (last k : Nat) (w : List Char) (hw : w ≠ [] ∨ 0 < k) :
    ∃ d rest, escapeFrom (last + 1) k w = d :: rest ∧ (d = '\\' ∨ d ∈ w) := by
  induction w generalizing k with
  | nil =>
    have hk : 0 < (last + 1) * k := Nat.mul_pos (Nat.succ_pos last) (hw.resolve_left fun h => h rfl)
    obtain ⟨rest, hrest⟩ := exists_replicate_append_eq_cons hk []
    rw [List.append_nil] at hrest
    exact ⟨'\\', rest, hrest, .inl rfl⟩
  | cons c w ih =>
    rw [escapeFrom]
    split_ifs with hb hq
    · obtain ⟨d, rest, heq, hd⟩ := ih (k + 1) (.inr (Nat.succ_pos k))
      exact ⟨d, rest, heq, hd.imp_right fun h => List.mem_cons_of_mem c h⟩
    · cases k with
      | zero => exact ⟨'\\', _, rfl, .inl rfl⟩
      | succ k =>
        obtain ⟨rest, hrest⟩ := exists_replicate_append_eq_cons (k := 2 * (k + 1)) (by omega) _
        exact ⟨'\\', rest, hrest, .inl rfl⟩
    · cases k with
      | zero => exact ⟨c, _, rfl, .inr List.mem_cons_self⟩
      | succ k =>
        obtain ⟨rest, hrest⟩ := exists_replicate_append_eq_cons (Nat.succ_pos k) _
        exact ⟨'\\', rest, hrest, .inl rfl⟩

theorem needsQuotes_eq_false_iff : needsQuotes w = false ↔ w ≠ [] ∧ ∀ c ∈ w, isGap c = false := by
  rw [needsQuotes, Bool.or_eq_false_iff, List.any_eq_false]
  simp [isGap]

/-- A word of a command line is read back. -/
theorem lineWordsFrom_quoteWord (w s : List Char) :
    lineWordsFrom false 0 none (quoteWord w ++ ' ' :: s) = w :: lineWordsFrom false 0 none s := by
  rw [quoteWord]
  split_ifs with hn
  · obtain ⟨j, read, hread, hrun⟩ :=
      exists_lineWordsFrom_escapeFrom true 2 0 [] w ('"' :: ' ' :: s) (.inl rfl)
    have hopen : lineWordsFrom false 0 none ('"' :: escapeFrom 2 0 w ++ ['"'] ++ ' ' :: s) =
        lineWordsFrom true 0 (some []) (escapeFrom 2 0 w ++ '"' :: ' ' :: s) := by
      simp [lineWordsFrom]
    rw [hopen, hrun, lineWordsFrom_quote_even, hread]
    exact lineWordsFrom_space
  · obtain ⟨hne, hp⟩ := needsQuotes_eq_false_iff.mp (Bool.eq_false_iff.mpr hn)
    obtain ⟨j, read, hread, hrun⟩ :=
      exists_lineWordsFrom_escapeFrom false 1 0 [] w (' ' :: s) (.inr hp)
    obtain ⟨d, rest, heq, hd⟩ := exists_escapeFrom_eq_cons 0 0 w (.inl hne)
    have hbegin : isGap d = false := by
      rcases hd with rfl | hd
      · rfl
      · exact hp d hd
    have hspace : lineWordsFrom false (1 * j) (some read) (' ' :: s) =
        (read ++ List.replicate j '\\') :: lineWordsFrom false 0 none s := by
      simp [lineWordsFrom, isGap]
    have hword : read ++ List.replicate j '\\' = w := hread
    rw [heq, List.cons_append] at hrun ⊢
    rw [lineWordsFrom_begin hbegin, hrun, hspace, hword]

/-- The words of a command line are read back, with whatever stands behind it. -/
theorem lineWordsFrom_commandLine {words : List (List Char)} (hne : words ≠ []) (s : List Char) :
    lineWordsFrom false 0 none (commandLine words ++ ' ' :: s) =
      words ++ lineWordsFrom false 0 none s := by
  induction words with
  | nil => exact absurd rfl hne
  | cons w rest ih =>
    cases rest with
    | nil => exact lineWordsFrom_quoteWord w s
    | cons v rest =>
      have hline : commandLine (w :: v :: rest) ++ ' ' :: s =
          quoteWord w ++ ' ' :: (commandLine (v :: rest) ++ ' ' :: s) := by
        simp [commandLine, Text.joinWith]
      rw [hline, lineWordsFrom_quoteWord, ih (List.cons_ne_nil v rest), List.cons_append (a := w)]

/-! ## Quotations -/

theorem length_flatten_toList_le (piece : Option (List Char)) (k : Nat) :
    ((piece.map (· ++ List.replicate k '\\')).toList.flatten).length ≤
      (piece.getD []).length + k := by
  cases piece <;> simp

/-- Each double quote costs a character: it opens or closes a quotation, or a backslash is lost
before it. -/
theorem length_flatten_add_count_le (quoted : Bool) (k : Nat) (piece : Option (List Char))
    (s : List Char) :
    (lineWordsFrom quoted k piece s).flatten.length + s.count '"' ≤
      (piece.getD []).length + k + s.length := by
  induction s generalizing quoted k piece with
  | nil => exact length_flatten_toList_le piece k
  | cons c rest ih =>
    rw [lineWordsFrom, List.length_cons]
    split_ifs with hb hq heven hgap
    · have hrest := ih quoted (k + 1) (some (piece.getD []))
      rw [List.count_cons_of_ne (by simp [hb])]
      rw [Option.getD_some] at hrest
      omega
    · have hrest := ih (!quoted) 0 (some (piece.getD [] ++ List.replicate (k / 2) '\\'))
      rw [hq, List.count_cons_self]
      rw [Option.getD_some, List.length_append, List.length_replicate] at hrest
      omega
    · have hrest := ih quoted 0 (some (piece.getD [] ++ List.replicate (k / 2) '\\' ++ ['"']))
      rw [hq, List.count_cons_self]
      rw [Option.getD_some, List.length_append, List.length_append, List.length_replicate,
        List.length_singleton] at hrest
      omega
    · have hrest := ih false 0 none
      have hword := length_flatten_toList_le piece k
      rw [List.flatten_append, List.length_append, List.count_cons_of_ne hq]
      rw [Option.getD_none, List.length_nil] at hrest
      omega
    · have hrest := ih quoted 0 (some (piece.getD [] ++ List.replicate k '\\' ++ [c]))
      rw [List.count_cons_of_ne hq]
      rw [Option.getD_some, List.length_append, List.length_append, List.length_replicate,
        List.length_singleton] at hrest
      omega

theorem escapeFrom_of_not_mem (hq : '"' ∉ s) : escapeFrom 1 k s = List.replicate k '\\' ++ s := by
  induction s generalizing k with
  | nil => simp [escapeFrom]
  | cons c rest ih =>
    rw [List.mem_cons, not_or] at hq
    rw [escapeFrom]
    split_ifs with hb
    · rw [ih hq.2, hb, List.replicate_succ', List.append_assoc]
      rfl
    · exact absurd (Eq.symm ‹c = '"'›) hq.1
    · rw [ih hq.2]
      rfl

/-- In a quotation a text without double quotes is read as itself, but for the backslashes at its
end, which are still to be read. -/
theorem exists_lineWordsFrom_of_not_mem (hq : '"' ∉ s) (behind : List Char) :
    ∃ j read, read ++ List.replicate j '\\' = s
      ∧ lineWordsFrom true 0 (some []) (s ++ behind) = lineWordsFrom true j (some read) behind := by
  obtain ⟨j, read, hread, hrun⟩ :=
    exists_lineWordsFrom_escapeFrom true 1 0 [] s behind (.inl rfl)
  rw [escapeFrom_of_not_mem hq, Nat.one_mul] at hrun
  exact ⟨j, read, hread, hrun⟩

/-- Backslashes before the quote that closes a quotation are not read as themselves. -/
theorem lineWordsFrom_quote_ne {n : Nat} (hn : 0 < n) (hq : '"' ∉ piece) :
    lineWordsFrom true n (some piece) ['"'] ≠ [piece ++ List.replicate n '\\'] := by
  obtain ⟨m, rfl | rfl⟩ : ∃ m, n = 2 * m ∨ n = 2 * m + 1 := ⟨n / 2, by omega⟩
  · rw [lineWordsFrom_quote_even]
    intro h
    have hlength := congrArg List.length (List.singleton_inj.mp h)
    simp at hlength
    omega
  · rw [lineWordsFrom_quote_odd]
    intro h
    have hmem : '"' ∈ piece ++ List.replicate (2 * m + 1) '\\' := by
      rw [← List.singleton_inj.mp h]
      simp
    simp [hq] at hmem

/-- A text is read back from between double quotes if there is no double quote in it and no
backslash at its end. -/
theorem lineWordsFrom_quotation_iff (s : List Char) :
    lineWordsFrom false 0 none ('"' :: s ++ ['"']) = [s] ↔ '"' ∉ s ∧ s.getLast? ≠ some '\\' := by
  have hopen : lineWordsFrom false 0 none ('"' :: s ++ ['"']) =
      lineWordsFrom true 0 (some []) (s ++ ['"']) := by
    simp [lineWordsFrom]
  constructor
  · intro h
    have hq : '"' ∉ s := by
      have hle := length_flatten_add_count_le false 0 none ('"' :: s ++ ['"'])
      rw [h] at hle
      simp at hle
      exact List.count_eq_zero.mp (by omega)
    refine ⟨hq, fun hlast => ?_⟩
    obtain ⟨init, rfl⟩ := List.getLast?_eq_some_iff.mp hlast
    have hinit : '"' ∉ init := fun hm => hq (List.mem_append_left _ hm)
    obtain ⟨j, read, hread, hrun⟩ := exists_lineWordsFrom_of_not_mem hinit ['\\', '"']
    subst hread
    have hlong : lineWordsFrom true j (some read) ['\\', '"'] =
        lineWordsFrom true (j + 1) (some read) ['"'] :=
      lineWordsFrom_replicate 1
    rw [hopen, List.append_assoc, List.singleton_append, hrun, hlong, List.append_assoc,
      ← List.replicate_succ'] at h
    exact lineWordsFrom_quote_ne (Nat.succ_pos j) (fun hm => hinit (List.mem_append_left _ hm)) h
  · rintro ⟨hq, hlast⟩
    obtain ⟨j, read, hread, hrun⟩ := exists_lineWordsFrom_of_not_mem hq ['"']
    have hj : j = 0 := by
      cases j with
      | zero => rfl
      | succ j =>
        rw [← hread, List.replicate_succ', ← List.append_assoc] at hlast
        simp at hlast
    subst hj
    rw [hopen, hrun, ← hread]
    simp [lineWordsFrom]

end Shell

namespace Interpreter

/-- An interpreter is made of a program and arguments that are texts as they are given. -/
theorem ofValues_text {program : String} (hp : program ≠ "") (family : Family)
    (args : List String) :
    ofValues family (.text program) (.list (args.map .text)) =
      .ok { program := .text program, args := args.map .text } := by
  simp [ofValues, Value.members, Value.isGiven, hp]

theorem mapM_wordChars (texts : List String) :
    (texts.map Value.text).mapM wordChars = .ok (texts.map String.toList) := by
  induction texts with
  | nil => rfl
  | cons s rest ih =>
    exact mapM_cons_eq_ok_iff.mpr ⟨_, rfl, _, ih, rfl⟩

theorem request_windows (program : String) (args : List String) (command : String) :
    request { program := .text program, args := args.map .text } .windows command =
      .ok (.line (String.ofList
        (Shell.commandLine ((program :: args).map String.toList)
          ++ ' ' :: ('"' :: command.toList ++ ['"'])))) := by
  have hwords : (Value.text program :: args.map .text).mapM wordChars =
      .ok ((program :: args).map String.toList) := mapM_wordChars (program :: args)
  simp only [request, hwords]
  rfl

theorem map_ofList_eq_singleton_iff {words : List (List Char)} {text : String} :
    words.map String.ofList = [text] ↔ words = [text.toList] := by
  constructor
  · intro h
    obtain ⟨w, rfl, rfl⟩ := List.map_eq_singleton_iff.mp h
    rw [String.toList_ofList]
  · rintro rfl
    rw [List.map_singleton, String.ofList_toList]

/-- Where programs are handed a command line, an interpreter is found in the line of every command
with exactly its arguments behind it. The command is the one word behind them if there is no double
quote in it and no backslash at its end, and only then. -/
theorem lineWords_request {program : String} (hp : program ≠ "") (args : List String)
    (command : String) :
    ∃ i line, ofValues .windows (.text program) (.list (args.map .text)) = .ok i
      ∧ i.request .windows command = .ok (.line line)
      ∧ program :: args <+: Shell.lineWords line
      ∧ (Shell.lineWords line = program :: args ++ [command] ↔
          '"' ∉ command.toList ∧ command.toList.getLast? ≠ some '\\') := by
  refine ⟨_, _, ofValues_text hp .windows args, request_windows program args command, ?_⟩
  have hread : ((program :: args).map String.toList).map String.ofList = program :: args := by
    simp
  rw [Shell.lineWords, String.toList_ofList, Shell.lineWordsFrom_commandLine (by simp),
    List.map_append, hread]
  refine ⟨List.prefix_append _ _, ?_⟩
  rw [List.append_cancel_left_eq, map_ofList_eq_singleton_iff, Shell.lineWordsFrom_quotation_iff]

/-- A program with a space and a backslash at its end, and arguments with quotes, without
characters and with a backslash at the end. -/
theorem lineWords_request_of_backslashes :
    let program := "C:\\My Tools\\"
    let args := ["say \"hi\"", "", "a\\"]
    let command := "dir C:\\x"
    let line := "\"C:\\My Tools\\\\\" \"say \\\"hi\\\"\" \"\" a\\ \"dir C:\\x\""
    program ≠ "" ∧ '"' ∉ command.toList ∧ command.toList.getLast? ≠ some '\\'
      ∧ ∃ i, ofValues .windows (.text program) (.list (args.map .text)) = .ok i
        ∧ i.request .windows command = .ok (.line line)
        ∧ Shell.lineWords line = program :: args ++ [command] := by
  intro program args command line
  have hp : program ≠ "" := by decide
  have hq : '"' ∉ command.toList := by decide
  have hlast : command.toList.getLast? ≠ some '\\' := by decide
  obtain ⟨i, line', hi, hrequest, -, hwords⟩ := lineWords_request hp args command
  obtain rfl : line' = line := by
    rw [ofValues_text hp] at hi
    cases hi
    rw [request_windows] at hrequest
    have hline : String.ofList (Shell.commandLine ((program :: args).map String.toList)
        ++ ' ' :: ('"' :: command.toList ++ ['"'])) = line := by decide
    rw [hline] at hrequest
    exact (Request.line.inj (Except.ok.inj hrequest)).symm
  exact ⟨hp, hq, hlast, i, hi, hrequest, hwords.mpr ⟨hq, hlast⟩⟩

end Interpreter

end QuickLaunch
