import Mathlib.Algebra.Group.Nat.Defs
import Mathlib.Tactic.SplitIfs
import QuickLaunch.Proofs.Json.Escapes
import QuickLaunch.Text.Quoted

/-!
# Quoted texts can be read off

A quoted text begins with the quote that it ends in. In between, every character is written in a
form that tells where it ends: as it is, or as a backslash with a letter that says how many
hexadecimal digits follow. So a quoted text is known from what it begins with, whatever follows
it.

* `readNext_quotedChar`: a written character is read as it was, with anything behind it;
* `quotedChars_append_inj`: quoted texts with something behind them are equal only if the texts are;
* `printable_quotedChars`: all characters of a quoted text are printable.
-/

namespace QuickLaunch.Text

variable {quote c : Char} {p q s t : List Char}

/-! ## Hexadecimal digits -/

/-- The number that hexadecimal digits name. -/
def numberOf (digits : List Char) : Nat :=
  digits.foldl (fun n d => 16 * n + (Json.hexValue? d).getD 0) 0

theorem numberOf_concat (digits : List Char) (d : Char) :
    numberOf (digits ++ [d]) = 16 * numberOf digits + (Json.hexValue? d).getD 0 := by
  rw [numberOf, List.foldl_append]
  rfl

theorem numberOf_hexDigits (width n : Nat) : numberOf (hexDigits width n) = n % 16 ^ width := by
  induction width generalizing n with
  | zero => rw [Nat.pow_zero, Nat.mod_one]; rfl
  | succ width ih =>
    have hd : Json.hexValue? (hexDigit (n % 16)) = some (n % 16) :=
      Json.hexValue?_hexDigit (Nat.mod_lt n (by decide))
    rw [hexDigits, numberOf_concat, ih, hd, Option.getD_some, Nat.pow_succ,
      Nat.mul_comm (16 ^ width), Nat.mod_mul, Nat.add_comm]

theorem length_hexDigits (width n : Nat) : (hexDigits width n).length = width := by
  induction width generalizing n with
  | zero => rfl
  | succ width ih => rw [hexDigits, List.length_append, ih]; rfl

/-! ## One character after the other -/

/-- The character that so many hexadecimal digits name, and what follows them. -/
def readNumber (width : Nat) (s : List Char) : Option Char × List Char :=
  (some (Char.ofNat (numberOf (s.take width))), s.drop width)

/-- The character that stands behind a backslash, and what follows it. -/
def readEscape : List Char → Option (Option Char × List Char)
  | [] => none
  | 't' :: rest => some (some '\t', rest)
  | 'n' :: rest => some (some '\n', rest)
  | 'r' :: rest => some (some '\r', rest)
  | 'x' :: rest => some (readNumber 2 rest)
  | 'u' :: rest => some (readNumber 4 rest)
  | 'U' :: rest => some (readNumber 8 rest)
  | c :: rest => some (some c, rest)

/-- The next character of a text between quotes, none at the closing quote; and what follows. -/
def readNext (quote : Char) : List Char → Option (Option Char × List Char)
  | [] => none
  | c :: rest =>
    if c = quote then some (none, rest)
    else if c = '\\' then readEscape rest
    else some (some c, rest)

theorem readNext_quote (quote : Char) (rest : List Char) :
    readNext quote (quote :: rest) = some (none, rest) :=
  if_pos rfl

theorem readNumber_hexDigits {width : Nat} (hc : c.toNat < 16 ^ width) (rest : List Char) :
    readNumber width (hexDigits width c.toNat ++ rest) = (some c, rest) := by
  have hl := length_hexDigits width c.toNat
  rw [readNumber, List.take_left' hl, List.drop_left' hl, numberOf_hexDigits,
    Nat.mod_eq_of_lt hc, Char.ofNat_toNat]

/-- Either of the two characters that may stand around a text. -/
def IsQuote (quote : Char) : Prop :=
  quote = '\'' ∨ quote = '"'

theorem isQuote_quoteFor (s : List Char) : IsQuote (quoteFor s) := by
  unfold quoteFor
  split
  · exact .inr rfl
  · exact .inl rfl

theorem readNext_backslash (hq : IsQuote quote) (rest : List Char) :
    readNext quote ('\\' :: rest) = readEscape rest := by
  obtain rfl | rfl := hq <;> rfl

/-- A written character is read as it was, whatever follows. -/
theorem readNext_quotedChar (hq : IsQuote quote) (c : Char) (rest : List Char) :
    readNext quote (quotedChar quote c ++ rest) = some (some c, rest) := by
  unfold quotedChar
  split_ifs with hc htab hfeed hreturn hprint hx hu
  · rw [List.cons_append, readNext_backslash hq]
    obtain rfl | rfl := hc
    · obtain rfl | rfl := hq <;> rfl
    · rfl
  · rw [List.cons_append, readNext_backslash hq, htab]
    rfl
  · rw [List.cons_append, readNext_backslash hq, hfeed]
    rfl
  · rw [List.cons_append, readNext_backslash hq, hreturn]
    rfl
  · rw [not_or] at hc
    rw [List.singleton_append, readNext, if_neg hc.1, if_neg hc.2]
  · rw [List.cons_append, readNext_backslash hq]
    exact congrArg some (readNumber_hexDigits hx rest)
  · rw [List.cons_append, readNext_backslash hq]
    exact congrArg some (readNumber_hexDigits hu rest)
  · rw [List.cons_append, readNext_backslash hq]
    exact congrArg some (readNumber_hexDigits (Nat.lt_trans (Json.toNat_lt c) (by decide)) rest)

/-! ## Whole texts -/

theorem readNext_flatMap_cons (hq : IsQuote quote) (c : Char) (p rest : List Char) :
    readNext quote ((c :: p).flatMap (quotedChar quote) ++ rest) =
      some (some c, p.flatMap (quotedChar quote) ++ rest) := by
  rw [List.flatMap_cons, List.append_assoc, readNext_quotedChar hq]

/-- Texts are the same if they are written in the same way up to a closing quote, and what follows
it is the same then. -/
theorem flatMap_quotedChar_append_inj (hq : IsQuote quote)
    (h : p.flatMap (quotedChar quote) ++ quote :: s = q.flatMap (quotedChar quote) ++ quote :: t) :
    p = q ∧ s = t := by
  induction p generalizing q with
  | nil =>
    have hread := congrArg (readNext quote) h
    rw [List.flatMap_nil, List.nil_append, readNext_quote] at hread
    cases q with
    | nil => exact ⟨rfl, (List.cons.inj h).2⟩
    | cons d q =>
      rw [readNext_flatMap_cons hq] at hread
      cases hread
  | cons c p ih =>
    have hread := congrArg (readNext quote) h
    rw [readNext_flatMap_cons hq] at hread
    cases q with
    | nil =>
      rw [List.flatMap_nil, List.nil_append, readNext_quote] at hread
      cases hread
    | cons d q =>
      rw [readNext_flatMap_cons hq] at hread
      obtain ⟨hc, hrest⟩ := Prod.mk.inj (Option.some.inj hread)
      obtain ⟨rfl, rfl⟩ := ih hrest
      exact ⟨by rw [Option.some.inj hc], rfl⟩

/-- A quoted text tells which text it is and where it ends. -/
theorem quotedChars_append_inj (h : quotedChars p ++ s = quotedChars q ++ t) : p = q ∧ s = t := by
  simp only [quotedChars, List.cons_append, List.append_assoc, List.nil_append] at h
  obtain ⟨hquote, hbody⟩ := List.cons.inj h
  rw [← hquote] at hbody
  exact flatMap_quotedChar_append_inj (isQuote_quoteFor p) hbody

/-! ## Printable characters -/

/-- All of the characters are printable. -/
def Printable (s : List Char) : Prop :=
  ∀ c ∈ s, isPrintable c = true

instance : DecidablePred Printable := fun _ =>
  decidable_of_iff _ List.all_eq_true

theorem printable_nil : Printable [] := List.forall_mem_nil _

theorem printable_cons : Printable (c :: s) ↔ isPrintable c = true ∧ Printable s :=
  List.forall_mem_cons

theorem printable_append : Printable (s ++ t) ↔ Printable s ∧ Printable t :=
  List.forall_mem_append

theorem isPrintable_hexDigit {n : Nat} (hn : n < 16) : isPrintable (hexDigit n) = true := by
  have all : ∀ n < 16, isPrintable (hexDigit n) = true := by decide
  exact all n hn

theorem printable_hexDigits (width n : Nat) : Printable (hexDigits width n) := by
  induction width generalizing n with
  | zero => exact printable_nil
  | succ width ih =>
    rw [hexDigits, printable_append, printable_cons]
    exact ⟨ih _, isPrintable_hexDigit (Nat.mod_lt n (by decide)), printable_nil⟩

theorem isPrintable_of_isQuote (hq : IsQuote quote) : isPrintable quote = true := by
  obtain rfl | rfl := hq <;> rfl

theorem printable_escape {letter : Char} (hl : isPrintable letter = true) (hs : Printable s) :
    Printable ('\\' :: letter :: s) :=
  printable_cons.mpr ⟨rfl, printable_cons.mpr ⟨hl, hs⟩⟩

theorem printable_quotedChar (hq : IsQuote quote) (c : Char) : Printable (quotedChar quote c) := by
  unfold quotedChar
  split_ifs with hc _ _ _ hprint
  · have hprint : isPrintable c = true := by
      obtain rfl | rfl := hc
      · exact isPrintable_of_isQuote hq
      · rfl
    exact printable_escape hprint printable_nil
  · exact printable_escape rfl printable_nil
  · exact printable_escape rfl printable_nil
  · exact printable_escape rfl printable_nil
  · exact printable_cons.mpr ⟨hprint, printable_nil⟩
  · exact printable_escape rfl (printable_hexDigits 2 _)
  · exact printable_escape rfl (printable_hexDigits 4 _)
  · exact printable_escape rfl (printable_hexDigits 8 _)

theorem printable_flatMap_quotedChar (hq : IsQuote quote) (s : List Char) :
    Printable (s.flatMap (quotedChar quote)) := by
  intro d hd
  obtain ⟨c, -, hd⟩ := List.mem_flatMap.mp hd
  exact printable_quotedChar hq c d hd

theorem printable_quotedChars (s : List Char) : Printable (quotedChars s) := by
  have hq := isQuote_quoteFor s
  have hquote := isPrintable_of_isQuote hq
  rw [quotedChars, printable_append, printable_cons, printable_cons]
  exact ⟨⟨hquote, printable_flatMap_quotedChar hq s⟩, hquote, printable_nil⟩

theorem printable_joinWith {sep : List Char} {parts : List (List Char)} (hsep : Printable sep)
    (h : ∀ part ∈ parts, Printable part) : Printable (joinWith sep parts) := by
  induction parts with
  | nil => exact printable_nil
  | cons part rest ih =>
    obtain ⟨hpart, hrest⟩ := List.forall_mem_cons.mp h
    cases rest with
    | nil => exact hpart
    | cons next rest =>
      rw [joinWith, printable_append, printable_append]
      exact ⟨⟨hpart, hsep⟩, ih hrest⟩

/-! ## Ends of lines -/

/-- The characters that end a line. -/
def lineEnds : List Char :=
  ['\n', '\r', '\x0b', '\x0c', '\x1c', '\x1d', '\x1e', '\u0085', '\u2028', '\u2029']

theorem not_isPrintable_of_mem_lineEnds (h : c ∈ lineEnds) : isPrintable c = false := by
  have all : lineEnds.all (!isPrintable ·) = true := by decide +kernel
  simpa using List.all_eq_true.mp all c h

/-- Printable characters are on one line. -/
theorem Printable.not_mem_of_mem_lineEnds (h : Printable s) (hc : c ∈ lineEnds) : c ∉ s := by
  intro hs
  cases (h c hs).symm.trans (not_isPrintable_of_mem_lineEnds hc)

end QuickLaunch.Text
