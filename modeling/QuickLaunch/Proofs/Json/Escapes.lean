import Mathlib.Tactic.SplitIfs
import QuickLaunch.Document.Json.Reader
import QuickLaunch.Document.Json.Writer

/-!
# Escapes are undone

Reading a text between quotes gives the text that was written. A character is written as one number
or as the two halves of a pair (`unitsOf`); the reader collects the numbers and joins the halves.

* `unit?_hexDigits`: four hexadecimal digits name the number that they were made of;
* `readUnits_escapeChar`: the numbers of a written character;
* `ofUnits_unitsOf`: the numbers of a character stand for it, whatever follows;
* `readText_flatMap`: a written text is read as it was;
* `toNat_ofUnits`: a text has the code points that its numbers name, unless half of a pair stands
  alone;
* `isPlain_textChars`: a text is written in plain characters of ASCII.
-/

namespace QuickLaunch.Json

/-! ## Hexadecimal digits -/

theorem hexValue?_hexDigit {n : Nat} (hn : n < 16) : hexValue? (Text.hexDigit n) = some n := by
  have all : ∀ n < 16, hexValue? (Text.hexDigit n) = some n := by decide
  exact all n hn

theorem hexDigits_four (n : Nat) :
    Text.hexDigits 4 n = [Text.hexDigit (n / 0x1000 % 16), Text.hexDigit (n / 0x100 % 16),
      Text.hexDigit (n / 0x10 % 16), Text.hexDigit (n % 16)] := by
  simp only [Text.hexDigits, Nat.div_div_eq_div_mul, List.nil_append, List.cons_append]

/-- The number of four hexadecimal digits is the one that they were made of. -/
theorem unit?_hexDigits {n : Nat} (hn : n < 0x10000) :
    unit? (Text.hexDigit (n / 0x1000 % 16)) (Text.hexDigit (n / 0x100 % 16))
      (Text.hexDigit (n / 0x10 % 16)) (Text.hexDigit (n % 16)) = some n := by
  have below : ∀ m, m % 16 < 16 := fun m => Nat.mod_lt m (by decide)
  simp only [unit?, hexValue?_hexDigit (below _), Option.bind_eq_bind, Option.bind_some,
    Option.pure_def]
  congr 1
  omega

theorem readUnits_unitEscape {n : Nat} (hn : n < 0x10000) (done : List Nat) (rest : List Char) :
    readUnits done (unitEscape n ++ rest) = readUnits (n :: done) rest := by
  simp only [unitEscape, hexDigits_four, List.cons_append, List.nil_append]
  rw [readUnits, unit?_hexDigits hn]

/-! ## Characters -/

/-- The numbers of a character: its own, or those of the two halves of a pair. -/
def unitsOf (c : Char) : List Nat :=
  if c.toNat < 0x10000 then [c.toNat]
  else [0xd800 + (c.toNat - 0x10000) / 0x400, 0xdc00 + (c.toNat - 0x10000) % 0x400]

theorem toNat_lt (c : Char) : c.toNat < 0x110000 := by
  have h := c.valid
  simp only [UInt32.isValidChar, Nat.isValidChar] at h
  simp only [Char.toNat]
  omega

/-- No character is half of a pair. -/
theorem not_half (c : Char) : ¬ (0xd800 ≤ c.toNat ∧ c.toNat < 0xe000) := by
  have h := c.valid
  simp only [UInt32.isValidChar, Nat.isValidChar] at h
  simp only [Char.toNat]
  omega

/-- A printable character of ASCII that is neither a quote nor a backslash is read as it is. -/
theorem readUnits_plain {c : Char} (hq : c ≠ '"') (hb : c ≠ '\\') (hc : 0x20 ≤ c.toNat)
    (done : List Nat) (rest : List Char) :
    readUnits done (c :: rest) = readUnits (c.toNat :: done) rest := by
  rw [readUnits.eq_def]
  split
  · contradiction
  · simp_all
  · simp_all
  · simp_all
  · rename_i c' rest' _ _ _ heq
    obtain ⟨rfl, rfl⟩ := List.cons.inj heq
    rw [if_neg (by simp only [not_or]; exact ⟨hb, by omega⟩)]

/-- A written character is read as its numbers. -/
theorem readUnits_escapeChar (c : Char) (done : List Nat) (rest : List Char) :
    readUnits done (escapeChar c ++ rest) = readUnits ((unitsOf c).reverse ++ done) rest := by
  unfold escapeChar
  split_ifs with hq hb hn hr ht hf hs hplain hfirst
  iterate 7
    subst c
    rfl
  · rw [unitsOf, if_pos (by omega)]
    exact readUnits_plain hq hb hplain.1 done rest
  · rw [unitsOf, if_pos hfirst]
    exact readUnits_unitEscape hfirst done rest
  · have := toNat_lt c
    rw [unitsOf, if_neg hfirst, List.append_assoc, readUnits_unitEscape (by omega),
      readUnits_unitEscape (by omega)]
    rfl

/-- The numbers of a character stand for it, whatever numbers follow. -/
theorem ofUnits_unitsOf (c : Char) (units : List Nat) :
    ofUnits (unitsOf c ++ units) = c :: ofUnits units := by
  have hl := toNat_lt c
  unfold unitsOf
  split
  · have hh : isHighHalf c.toNat = false := by
      have := not_half c
      simp only [isHighHalf, Bool.and_eq_false_iff, decide_eq_false_iff_not]
      omega
    have hu : unitChar c.toNat = c := by
      have := not_half c
      have hw : isLowHalf c.toNat = false := by
        simp only [isLowHalf, Bool.and_eq_false_iff, decide_eq_false_iff_not]
        omega
      simp [unitChar, hh, hw, Char.ofNat_toNat]
    cases units with
    | nil => simp [ofUnits, hu]
    | cons m rest => simp [ofUnits, hh, hu]
  · have hj : joinHalves (0xd800 + (c.toNat - 0x10000) / 0x400)
        (0xdc00 + (c.toNat - 0x10000) % 0x400) = c := by
      rw [joinHalves, show 0x10000 + 0x400 * (0xd800 + (c.toNat - 0x10000) / 0x400 - 0xd800)
        + (0xdc00 + (c.toNat - 0x10000) % 0x400 - 0xdc00) = c.toNat by omega]
      exact Char.ofNat_toNat c
    have high : isHighHalf (0xd800 + (c.toNat - 0x10000) / 0x400) = true := by
      simp only [isHighHalf, Bool.and_eq_true, decide_eq_true_eq]
      omega
    have low : isLowHalf (0xdc00 + (c.toNat - 0x10000) % 0x400) = true := by
      simp only [isLowHalf, Bool.and_eq_true, decide_eq_true_eq]
      omega
    simp [ofUnits, high, low, hj]

/-! ## Texts -/

theorem ofUnits_flatMap (s : List Char) : ofUnits (s.flatMap unitsOf) = s := by
  induction s with
  | nil => rfl
  | cons c rest ih => rw [List.flatMap_cons, ofUnits_unitsOf, ih]

theorem readUnits_flatMap (s : List Char) (done : List Nat) (rest : List Char) :
    readUnits done (s.flatMap escapeChar ++ '"' :: rest) =
      .ok (done.reverse ++ s.flatMap unitsOf, rest) := by
  induction s generalizing done with
  | nil => simp [readUnits]
  | cons c s ih =>
    rw [List.flatMap_cons, List.append_assoc, readUnits_escapeChar, ih]
    simp

/-- What is written of a text behind its opening quote is read as the text. -/
theorem readText_flatMap (s : List Char) (rest : List Char) :
    readText (s.flatMap escapeChar ++ '"' :: rest) = .ok (String.ofList s, rest) := by
  rw [readText, readUnits_flatMap]
  simp only [List.reverse_nil, List.nil_append, bind, Except.bind, pure, Except.pure,
    ofUnits_flatMap]

/-! ## Halves that stand alone -/

/-- The code points of a sequence of numbers: two halves of a pair that follow each other are one,
and any other number is its own. -/
def codePoints : List Nat → List Nat
  | [] => []
  | [n] => [n]
  | n :: m :: rest =>
    if isHighHalf n && isLowHalf m then
      (0x10000 + 0x400 * (n - 0xd800) + (m - 0xdc00)) :: codePoints rest
    else n :: codePoints (m :: rest)

/-- The number is half of a surrogate pair. -/
def isHalf (n : Nat) : Bool :=
  isHighHalf n || isLowHalf n

/-- Half of a surrogate pair stands alone among the numbers. -/
def hasLoneHalf (units : List Nat) : Bool :=
  (codePoints units).any isHalf

/-- Half of a surrogate pair stands alone in some text of a document. A text begins behind a
quote. -/
def leavesHalf : List Char → Bool
  | [] => false
  | c :: rest =>
    (c == '"' && (readUnits [] rest).toOption.any fun found => hasLoneHalf found.1)
      || leavesHalf rest

theorem toNat_ofNat {n : Nat} (hn : n < 0xd800 ∨ 0xdfff < n ∧ n < 0x110000) :
    (Char.ofNat n).toNat = n := by
  rw [Char.ofNat, dif_pos hn]
  rfl

theorem toNat_unitChar {n : Nat} (hn : n < 0x110000) (h : isHalf n = false) :
    (unitChar n).toNat = n := by
  have hchar : unitChar n = Char.ofNat n := by
    rw [unitChar, ← isHalf, h]
    rfl
  simp only [isHalf, isHighHalf, isLowHalf, Bool.or_eq_false_iff, Bool.and_eq_false_iff,
    decide_eq_false_iff_not] at h
  rw [hchar, toNat_ofNat (by omega)]

theorem toNat_joinHalves {n m : Nat} (hn : isHighHalf n = true) (hm : isLowHalf m = true) :
    (joinHalves n m).toNat = 0x10000 + 0x400 * (n - 0xd800) + (m - 0xdc00) := by
  simp only [isHighHalf, isLowHalf, Bool.and_eq_true, decide_eq_true_eq] at hn hm
  rw [joinHalves, toNat_ofNat (by omega)]

/-- A text in which no half stands alone has the code points that its numbers name. -/
theorem toNat_ofUnits {units : List Nat} (hv : ∀ n ∈ units, n < 0x110000)
    (h : hasLoneHalf units = false) : (ofUnits units).map Char.toNat = codePoints units := by
  induction units using ofUnits.induct with
  | case1 => rfl
  | case2 n =>
    have hn : isHalf n = false := by simpa [hasLoneHalf, codePoints] using h
    simp [ofUnits, codePoints, toNat_unitChar (hv n List.mem_cons_self) hn]
  | case3 n m rest hpair ih =>
    obtain ⟨hn, hm⟩ := Bool.and_eq_true_iff.mp hpair
    have hrest : hasLoneHalf rest = false := by
      rw [hasLoneHalf, codePoints, if_pos hpair, List.any_cons, Bool.or_eq_false_iff] at h
      exact h.2
    have htail : ∀ k ∈ rest, k < 0x110000 := fun k hk =>
      hv k (List.mem_cons_of_mem n (List.mem_cons_of_mem m hk))
    rw [ofUnits, codePoints, if_pos hpair, if_pos hpair, List.map_cons, toNat_joinHalves hn hm,
      ih htail hrest]
  | case4 n m rest hpair ih =>
    rw [hasLoneHalf, codePoints, if_neg hpair, List.any_cons, Bool.or_eq_false_iff] at h
    have hn := toNat_unitChar (hv n List.mem_cons_self) h.1
    rw [ofUnits, codePoints, if_neg hpair, if_neg hpair, List.map_cons, hn,
      ih (fun k hk => hv k (List.mem_cons_of_mem n hk)) h.2]

/-! ## What is written -/

/-- A character of ASCII that stands for itself on a line. -/
def IsPlain (c : Char) : Prop :=
  0x20 ≤ c.toNat ∧ c.toNat < 0x7f

instance (c : Char) : Decidable (IsPlain c) :=
  inferInstanceAs (Decidable (_ ∧ _))

theorem isPlain_hexDigit {n : Nat} (hn : n < 16) : IsPlain (Text.hexDigit n) := by
  have all : ∀ n < 16, IsPlain (Text.hexDigit n) := by decide
  exact all n hn

theorem isPlain_pair {a b : Char} (ha : IsPlain a) (hb : IsPlain b) : ∀ d ∈ [a, b], IsPlain d :=
  List.forall_mem_cons.mpr ⟨ha, List.forall_mem_singleton.mpr hb⟩

theorem isPlain_unitEscape (n : Nat) : ∀ d ∈ unitEscape n, IsPlain d := by
  have below : ∀ m, m % 16 < 16 := fun m => Nat.mod_lt m (by decide)
  have backslash : IsPlain '\\' := by decide
  have letter : IsPlain 'u' := by decide
  rw [unitEscape, hexDigits_four]
  simp [backslash, letter, isPlain_hexDigit (below _)]

theorem isPlain_escapeChar (c : Char) : ∀ d ∈ escapeChar c, IsPlain d := by
  unfold escapeChar
  split_ifs with hq hb hn hr ht hf hs hplain hfirst
  iterate 7 exact isPlain_pair (by decide) (by decide)
  · exact List.forall_mem_singleton.mpr hplain
  · exact isPlain_unitEscape _
  · exact List.forall_mem_append.mpr ⟨isPlain_unitEscape _, isPlain_unitEscape _⟩

/-- A text is written in plain characters, whatever its own are. -/
theorem isPlain_textChars (s : List Char) : ∀ d ∈ textChars s, IsPlain d := by
  have quote : IsPlain '"' := by decide
  rw [textChars, List.cons_append, List.forall_mem_cons, List.forall_mem_append,
    List.forall_mem_flatMap, List.forall_mem_singleton]
  exact ⟨quote, fun c _ => isPlain_escapeChar c, quote⟩

end QuickLaunch.Json
