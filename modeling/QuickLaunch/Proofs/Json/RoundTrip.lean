import QuickLaunch.Proofs.Json.Escapes

/-!
# Documents of texts are read as they were written

Reading undoes writing on values made of texts, lists and tables (`Textual`), in every layout. The
reader spends one unit of fuel on each value and on each part, so as many units as the text has
characters are enough.

* `readsBack_list`, `readsBack_table`: a list and a table are read back when their parts are;
* `read_write`: a textual value is read as it was written;
* `inDocument_write`: its text has nothing but plain characters and line feeds.
-/

namespace QuickLaunch.Json

/-- Texts, and lists and tables of textual values, where no key of a table comes twice. -/
inductive Textual : Value → Prop where
  | text (s : String) : Textual (.text s)
  | list (items : List Value) : (∀ v ∈ items, Textual v) → Textual (.list items)
  | table (entries : Table) : (Table.keys entries).Nodup → (∀ e ∈ entries, Textual e.2) →
      Textual (.table entries)

variable {layout : Layout} {depth outer fuel : Nat} {v : Value} {s rest : List Char}

/-! ## Blanks between the parts -/

theorem skipBlanks_lead (layout : Layout) (depth : Nat) (s : List Char) :
    skipBlanks (layout.lead depth ++ s) = skipBlanks s := by
  cases layout with
  | compact => rfl
  | indented width =>
    have spaces : ∀ n, skipBlanks (List.replicate n ' ' ++ s) = skipBlanks s := by
      intro n
      induction n with
      | zero => rfl
      | succ n ih =>
        rw [List.replicate_succ]
        exact ih
    exact spaces (width * depth)

/-- A separator is a comma and blanks. -/
theorem exists_separator (layout : Layout) (depth : Nat) :
    ∃ blanks, layout.separator depth = ',' :: blanks
      ∧ ∀ s, skipBlanks (blanks ++ s) = skipBlanks s := by
  cases layout with
  | compact => exact ⟨[' '], rfl, fun _ => rfl⟩
  | indented width => exact ⟨_, rfl, skipBlanks_lead (.indented width) depth⟩

theorem skipBlanks_comma (s : List Char) : skipBlanks (',' :: s) = ',' :: s := rfl

/-- The text begins with what opens a text, a list or a table. -/
def Opens (s : List Char) : Prop :=
  ∃ c rest, s = c :: rest ∧ (c = '"' ∨ c = '[' ∨ c = '{')

theorem Opens.append (h : Opens s) (t : List Char) : Opens (s ++ t) := by
  obtain ⟨c, rest, rfl, hc⟩ := h
  exact ⟨c, rest ++ t, rfl, hc⟩

theorem Opens.skipBlanks (h : Opens s) : skipBlanks s = s := by
  obtain ⟨c, rest, rfl, rfl | rfl | rfl⟩ := h <;> rfl

theorem bracketed_cons (layout : Layout) (depth : Nat) (opening closing : Char) (p : List Char)
    (parts : List (List Char)) :
    layout.bracketed depth opening closing (p :: parts) =
      opening :: (layout.lead (depth + 1)
        ++ (Text.joinWith (layout.separator (depth + 1)) (p :: parts)
          ++ (layout.lead depth ++ [closing]))) := by
  simp [Layout.bracketed]

theorem opens_bracketed {opening closing : Char} (h : opening = '[' ∨ opening = '{')
    (parts : List (List Char)) : Opens (layout.bracketed depth opening closing parts) := by
  cases parts with
  | nil => exact ⟨opening, [closing], rfl, .inr h⟩
  | cons p parts =>
    rw [bracketed_cons]
    exact ⟨opening, _, rfl, .inr h⟩

theorem readValue_bracket {t : List Char} (h : Opens t) (hs : skipBlanks s = t) :
    readValue (fuel + 1) ('[' :: s) = readItems fuel [] t := by
  rw [readValue, hs]
  obtain ⟨c, rest, rfl, rfl | rfl | rfl⟩ := h <;> rfl

theorem readValue_brace {t : List Char} (h : Opens t) (hs : skipBlanks s = t) :
    readValue (fuel + 1) ('{' :: s) = readEntries fuel [] t := by
  rw [readValue, hs]
  obtain ⟨c, rest, rfl, rfl | rfl | rfl⟩ := h <;> rfl

/-! ## Lists -/

/-- The value is read as it was written, at any depth and whatever follows. -/
structure ReadsBack (layout : Layout) (v : Value) : Prop where
  opens : ∀ depth, Opens (valueChars layout depth v)
  read : ∀ depth fuel rest, (valueChars layout depth v).length ≤ fuel →
    readValue fuel (valueChars layout depth v ++ rest) = .ok (v, rest)

/-- The texts of items with separators between them. -/
abbrev itemsChars (layout : Layout) (depth : Nat) (items : List Value) : List Char :=
  Text.joinWith (layout.separator depth) (itemTexts layout depth items)

theorem itemsChars_cons_cons (v w : Value) (items : List Value) :
    itemsChars layout depth (v :: w :: items) =
      valueChars layout depth v ++ layout.separator depth ++ itemsChars layout depth (w :: items) :=
  rfl

theorem opens_itemsChars (hv : ReadsBack layout v) (depth : Nat) (items : List Value) :
    Opens (itemsChars layout depth (v :: items)) := by
  cases items with
  | nil => exact hv.opens depth
  | cons w items =>
    rw [itemsChars_cons_cons, List.append_assoc]
    exact (hv.opens depth).append _

/-- The items of a list are read one after the other. -/
theorem readItems_itemsChars {items : List Value} (h : ∀ w ∈ v :: items, ReadsBack layout w)
    {done : List Value} (hf : (itemsChars layout depth (v :: items)).length < fuel) :
    readItems fuel done
        (itemsChars layout depth (v :: items) ++ (layout.lead outer ++ ']' :: rest)) =
      .ok (.list (done.reverse ++ v :: items), rest) := by
  induction items generalizing v done fuel with
  | nil =>
    obtain ⟨fuel, rfl⟩ := Nat.exists_eq_succ_of_ne_zero (Nat.ne_zero_of_lt hf)
    have hv := (h v List.mem_cons_self).read depth fuel (layout.lead outer ++ ']' :: rest)
      (Nat.le_of_lt_succ hf)
    rw [readItems, show itemsChars layout depth [v] = valueChars layout depth v from rfl, hv]
    simp only [bind, Except.bind, skipBlanks_lead]
    simp [skipBlanks, isBlank]
  | cons w items ih =>
    obtain ⟨fuel, rfl⟩ := Nat.exists_eq_succ_of_ne_zero (Nat.ne_zero_of_lt hf)
    -- A comma stands for the unit of fuel that one more item takes.
    obtain ⟨blanks, hsep, hblanks⟩ := exists_separator layout depth
    rw [itemsChars_cons_cons, hsep] at hf ⊢
    simp only [List.length_append, List.length_cons] at hf
    simp only [List.append_assoc, List.cons_append]
    rw [readItems, (h v List.mem_cons_self).read depth fuel _ (by omega)]
    simp only [bind, Except.bind]
    have hw := (opens_itemsChars (h w (by simp)) depth items).append
      (layout.lead outer ++ ']' :: rest)
    rw [skipBlanks_comma]
    simp only [hblanks, hw.skipBlanks]
    rw [ih (fun x hx => h x (List.mem_cons_of_mem v hx)) (by omega)]
    simp

theorem valueChars_list_cons (v : Value) (items : List Value) :
    valueChars layout depth (.list (v :: items)) =
      '[' :: (layout.lead (depth + 1)
        ++ (itemsChars layout (depth + 1) (v :: items) ++ (layout.lead depth ++ [']']))) := by
  rw [valueChars, itemTexts, bracketed_cons]
  rfl

/-- A list is read back when its items are. -/
theorem readsBack_list {items : List Value} (h : ∀ v ∈ items, ReadsBack layout v) :
    ReadsBack layout (.list items) where
  opens depth := by
    rw [valueChars]
    exact opens_bracketed (.inl rfl) _
  read depth fuel rest hf := by
    cases items with
    | nil =>
      obtain ⟨fuel, rfl⟩ := Nat.exists_eq_succ_of_ne_zero (Nat.ne_zero_of_lt hf)
      rfl
    | cons v items =>
      rw [valueChars_list_cons] at hf ⊢
      simp only [List.length_append, List.length_cons, List.length_nil] at hf
      obtain ⟨fuel, rfl⟩ := Nat.exists_eq_succ_of_ne_zero (Nat.ne_zero_of_lt hf)
      simp only [List.append_assoc, List.cons_append, List.nil_append]
      -- The first item opens something, so that the list is not taken for an empty one.
      have hv := (opens_itemsChars (h v List.mem_cons_self) (depth + 1) items).append
        (layout.lead depth ++ ']' :: rest)
      rw [readValue_bracket hv ((skipBlanks_lead _ _ _).trans hv.skipBlanks),
        readItems_itemsChars h (by omega)]
      rfl

/-! ## Tables -/

/-- The texts of entries with separators between them. -/
abbrev entriesChars (layout : Layout) (depth : Nat) (entries : Table) : List Char :=
  Text.joinWith (layout.separator depth) (entryTexts layout depth entries)

/-- The text of an entry. -/
abbrev entryChars (layout : Layout) (depth : Nat) (key : String) (v : Value) : List Char :=
  textChars key.toList ++ ':' :: ' ' :: valueChars layout depth v

theorem entriesChars_cons_cons (key : String) (v : Value) (e : String × Value) (entries : Table) :
    entriesChars layout depth ((key, v) :: e :: entries) =
      entryChars layout depth key v ++ layout.separator depth
        ++ entriesChars layout depth (e :: entries) :=
  rfl

theorem opens_entriesChars (layout : Layout) (depth : Nat) (e : String × Value) (entries : Table) :
    Opens (entriesChars layout depth (e :: entries)) := by
  cases entries with
  | nil => exact ⟨'"', _, rfl, .inl rfl⟩
  | cons f entries => exact ⟨'"', _, rfl, .inl rfl⟩

/-- Behind an entry the table ends at a brace, and the next entry is read behind a comma. -/
theorem readEntries_entryChars {key : String} (hv : ReadsBack layout v)
    (hf : (entryChars layout depth key v).length ≤ fuel) (done : Table) {rest after : List Char} :
    (skipBlanks rest = '}' :: after →
        readEntries (fuel + 1) done (entryChars layout depth key v ++ rest) =
          .ok (.table (Table.set done key v), after))
      ∧ (skipBlanks rest = ',' :: after →
        readEntries (fuel + 1) done (entryChars layout depth key v ++ rest) =
          readEntries fuel (Table.set done key v) (skipBlanks after)) := by
  simp only [List.length_append, List.length_cons] at hf
  have hskip := ((hv.opens depth).append rest).skipBlanks
  have hcolon : ∀ s, skipBlanks (':' :: s) = ':' :: s := fun _ => rfl
  have hspace : ∀ s, skipBlanks (' ' :: s) = skipBlanks s := fun _ => rfl
  rw [entryChars, textChars]
  simp only [List.append_assoc, List.cons_append, List.nil_append]
  rw [readEntries, readText_flatMap]
  simp only [bind, Except.bind, String.ofList_toList, hcolon, hspace, hskip,
    hv.read depth fuel rest (by omega)]
  exact ⟨fun h => by simp only [h], fun h => by simp only [h]⟩

/-- A key that is not yet there comes last. -/
theorem set_of_nodup {done entries : Table} {key : String}
    (hk : (Table.keys (done ++ (key, v) :: entries)).Nodup) :
    Table.set done key v = done ++ [(key, v)] := by
  rw [Table.keys, List.map_append, List.nodup_append] at hk
  exact Table.set_of_not_mem (fun hd => hk.2.2 key hd key List.mem_cons_self rfl) v

/-- The entries of a table are read one after the other, each into a place of its own. -/
theorem readEntries_entriesChars {entries : Table} {key : String}
    (h : ∀ d ∈ (key, v) :: entries, ReadsBack layout d.2) {done : Table}
    (hk : (Table.keys (done ++ (key, v) :: entries)).Nodup)
    (hf : (entriesChars layout depth ((key, v) :: entries)).length < fuel) :
    readEntries fuel done
        (entriesChars layout depth ((key, v) :: entries) ++ (layout.lead outer ++ '}' :: rest)) =
      .ok (.table (done ++ (key, v) :: entries), rest) := by
  induction entries generalizing key v done fuel with
  | nil =>
    obtain ⟨fuel, rfl⟩ := Nat.exists_eq_succ_of_ne_zero (Nat.ne_zero_of_lt hf)
    rw [← set_of_nodup hk]
    exact (readEntries_entryChars (h (key, v) List.mem_cons_self) (Nat.le_of_lt_succ hf) done).1
      (skipBlanks_lead layout outer ('}' :: rest))
  | cons e entries ih =>
    obtain ⟨next, w⟩ := e
    obtain ⟨fuel, rfl⟩ := Nat.exists_eq_succ_of_ne_zero (Nat.ne_zero_of_lt hf)
    obtain ⟨blanks, hsep, hblanks⟩ := exists_separator layout depth
    rw [entriesChars_cons_cons, hsep] at hf ⊢
    simp only [List.length_append, List.length_cons] at hf
    have hw := (opens_entriesChars layout depth (next, w) entries).append
      (layout.lead outer ++ '}' :: rest)
    have hsize : (entryChars layout depth key v).length ≤ fuel := by
      simp only [List.length_append, List.length_cons]
      omega
    have hnext := (readEntries_entryChars (h (key, v) List.mem_cons_self) hsize done).2
      (skipBlanks_comma (blanks ++ (entriesChars layout depth ((next, w) :: entries)
        ++ (layout.lead outer ++ '}' :: rest))))
    rw [List.append_assoc, List.append_assoc, List.cons_append, hnext, hblanks, hw.skipBlanks,
      set_of_nodup hk]
    have hk' : (Table.keys ((done ++ [(key, v)]) ++ (next, w) :: entries)).Nodup := by
      rwa [List.append_assoc]
    rw [ih (fun d hd => h d (List.mem_cons_of_mem _ hd)) hk' (by omega), List.append_assoc]
    rfl

theorem valueChars_table_cons (e : String × Value) (entries : Table) :
    valueChars layout depth (.table (e :: entries)) =
      '{' :: (layout.lead (depth + 1)
        ++ (entriesChars layout (depth + 1) (e :: entries) ++ (layout.lead depth ++ ['}']))) := by
  rw [valueChars, entryTexts, bracketed_cons]
  rfl

/-- A table is read back when its values are and no key comes twice. -/
theorem readsBack_table {entries : Table} (hk : (Table.keys entries).Nodup)
    (h : ∀ e ∈ entries, ReadsBack layout e.2) : ReadsBack layout (.table entries) where
  opens depth := by
    rw [valueChars]
    exact opens_bracketed (.inr rfl) _
  read depth fuel rest hf := by
    cases entries with
    | nil =>
      obtain ⟨fuel, rfl⟩ := Nat.exists_eq_succ_of_ne_zero (Nat.ne_zero_of_lt hf)
      rfl
    | cons e entries =>
      obtain ⟨key, v⟩ := e
      rw [valueChars_table_cons] at hf ⊢
      simp only [List.length_append, List.length_cons, List.length_nil] at hf
      obtain ⟨fuel, rfl⟩ := Nat.exists_eq_succ_of_ne_zero (Nat.ne_zero_of_lt hf)
      simp only [List.append_assoc, List.cons_append, List.nil_append]
      have he := (opens_entriesChars layout (depth + 1) (key, v) entries).append
        (layout.lead depth ++ '}' :: rest)
      rw [readValue_brace he ((skipBlanks_lead _ _ _).trans he.skipBlanks),
        readEntries_entriesChars h hk (by omega)]
      rfl

/-! ## Documents of texts -/

theorem readsBack_text (layout : Layout) (s : String) : ReadsBack layout (.text s) where
  opens depth := ⟨'"', _, rfl, .inl rfl⟩
  read depth fuel rest hf := by
    obtain ⟨fuel, rfl⟩ := Nat.exists_eq_succ_of_ne_zero (Nat.ne_zero_of_lt hf)
    rw [valueChars, textChars]
    simp only [List.append_assoc, List.cons_append, List.nil_append]
    rw [readValue, readText_flatMap]
    simp only [bind, Except.bind, pure, Except.pure, String.ofList_toList]

theorem Textual.readsBack (hv : Textual v) (layout : Layout) : ReadsBack layout v := by
  induction hv with
  | text s => exact readsBack_text layout s
  | list items _ ih => exact readsBack_list ih
  | table entries hk _ ih => exact readsBack_table hk ih

/-- A textual value is read as it was written. -/
theorem read_write (hv : Textual v) (layout : Layout) : read (write layout v) = .ok v := by
  have hr := hv.readsBack layout
  have ho := hr.opens 0
  have hread := hr.read 0 (2 * (valueChars layout 0 v).length + 2) [] (by omega)
  rw [List.append_nil] at hread
  have hmark : (valueChars layout 0 v).head? ≠ some '\ufeff' := by
    obtain ⟨c, rest, hc, rfl | rfl | rfl⟩ := ho <;> simp [hc]
  rw [read, write, String.toList_ofList, readChars, if_neg hmark, ho.skipBlanks, hread]
  rfl

/-! ## What is written -/

theorem forall_mem_joinWith {P : Char → Prop} {sep : List Char} (hsep : ∀ c ∈ sep, P c)
    {parts : List (List Char)} (h : ∀ p ∈ parts, ∀ c ∈ p, P c) :
    ∀ c ∈ Text.joinWith sep parts, P c := by
  induction parts with
  | nil => simp [Text.joinWith]
  | cons p parts ih =>
    obtain ⟨hp, hparts⟩ := List.forall_mem_cons.mp h
    cases parts with
    | nil => exact hp
    | cons q parts =>
      rw [Text.joinWith, List.forall_mem_append, List.forall_mem_append]
      exact ⟨⟨hp, hsep⟩, ih hparts⟩

/-- The characters of a document: plain ones, and line feeds between its parts. -/
abbrev InDocument (c : Char) : Prop :=
  c = '\n' ∨ IsPlain c

theorem inDocument_lead (layout : Layout) (depth : Nat) :
    ∀ c ∈ layout.lead depth, InDocument c := by
  cases layout with
  | compact => simp [Layout.lead]
  | indented width =>
    rw [Layout.lead, List.forall_mem_cons]
    refine ⟨.inl rfl, fun c hc => .inr ?_⟩
    rw [List.eq_of_mem_replicate hc]
    decide

theorem inDocument_separator (layout : Layout) (depth : Nat) :
    ∀ c ∈ layout.separator depth, InDocument c := by
  cases layout with
  | compact => exact fun c hc => .inr (isPlain_pair (by decide) (by decide) c hc)
  | indented width =>
    rw [Layout.separator, List.forall_mem_cons]
    exact ⟨by decide, inDocument_lead (.indented width) depth⟩

theorem inDocument_bracketed {opening closing : Char} (ho : InDocument opening)
    (hc : InDocument closing) {parts : List (List Char)}
    (h : ∀ p ∈ parts, ∀ c ∈ p, InDocument c) :
    ∀ c ∈ layout.bracketed depth opening closing parts, InDocument c := by
  cases parts with
  | nil => simpa [Layout.bracketed] using ⟨ho, hc⟩
  | cons p parts =>
    rw [bracketed_cons, List.forall_mem_cons, List.forall_mem_append, List.forall_mem_append,
      List.forall_mem_append, List.forall_mem_singleton]
    exact ⟨ho, inDocument_lead _ _, forall_mem_joinWith (inDocument_separator _ _) h,
      inDocument_lead _ _, hc⟩

theorem itemTexts_eq_map (layout : Layout) (depth : Nat) (items : List Value) :
    itemTexts layout depth items = items.map (valueChars layout depth) := by
  induction items with
  | nil => rfl
  | cons v items ih => rw [itemTexts, ih, List.map_cons]

theorem entryTexts_eq_map (layout : Layout) (depth : Nat) (entries : Table) :
    entryTexts layout depth entries = entries.map fun e => entryChars layout depth e.1 e.2 := by
  induction entries with
  | nil => rfl
  | cons e entries ih => rw [entryTexts, ih, List.map_cons]

/-- The text of a textual value is ASCII, without control characters other than line feeds. -/
theorem inDocument_valueChars (hv : Textual v) (layout : Layout) (depth : Nat) :
    ∀ c ∈ valueChars layout depth v, InDocument c := by
  induction hv generalizing depth with
  | text s => exact fun c hc => .inr (isPlain_textChars s.toList c hc)
  | list items _ ih =>
    rw [valueChars, itemTexts_eq_map]
    refine inDocument_bracketed (by decide) (by decide) fun p hp => ?_
    obtain ⟨v, hv, rfl⟩ := List.mem_map.mp hp
    exact ih v hv (depth + 1)
  | table entries _ _ ih =>
    rw [valueChars, entryTexts_eq_map]
    refine inDocument_bracketed (by decide) (by decide) fun p hp => ?_
    obtain ⟨e, he, rfl⟩ := List.mem_map.mp hp
    rw [entryChars, List.forall_mem_append, List.forall_mem_cons, List.forall_mem_cons]
    exact ⟨fun c hc => .inr (isPlain_textChars _ c hc), by decide, by decide,
      ih e he (depth + 1)⟩

theorem inDocument_write (hv : Textual v) (layout : Layout) :
    ∀ c ∈ (write layout v).toList, InDocument c := by
  rw [write, String.toList_ofList]
  exact inDocument_valueChars hv layout 0

end QuickLaunch.Json
