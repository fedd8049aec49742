import QuickLaunch.Proofs.Files.Listings

/-!
# What a pattern names

The names of a pattern lead from a directory to paths one name at a time (`Selects`): by that name,
by a child whose name follows a wildcard, or to any directory below. A selection that comes to an
end holds the paths that they lead to, each once.

* `Wildcard.matchesName_iff`: a name follows a wildcard if each part stands for a piece of it;
* `Pattern.mem_select_iff`: the paths of a selection;
* `Pattern.mem_filesAmong_iff`, `Pattern.exists_filesAmong_iff`: the files among some paths.
-/

namespace QuickLaunch

/-! ## Wildcards -/

namespace Wildcard

/-- A part of a pattern stands for a piece of a name: a star for any piece, all other parts for one
character that they accept. -/
def Part.StandsFor : Part → List Char → Prop
  | .star, _ => True
  | part, piece => ∃ c, piece = [c] ∧ part.accepts c = true

/-- A name follows a pattern: it can be cut into pieces that the parts stand for, one by one. -/
def Follows (pattern name : String) : Prop :=
  ∃ pieces, List.Forall₂ Part.StandsFor (parts pattern.toList) pieces
    ∧ pieces.flatten = name.toList

theorem mem_tails_iff {s t : List Char} : t ∈ tails s ↔ t <:+ s := by
  induction s with
  | nil => simp [tails]
  | cons c rest ih => rw [tails, List.mem_cons, ih, List.suffix_cons_iff]

theorem matchesParts_star_iff {ps : List Part} {s : List Char} :
    matchesParts (.star :: ps) s = true ↔ ∃ a b, a ++ b = s ∧ matchesParts ps b = true := by
  rw [matchesParts, List.any_eq_true]
  constructor
  · rintro ⟨b, hb, hm⟩
    obtain ⟨a, rfl⟩ := mem_tails_iff.mp hb
    exact ⟨a, b, rfl, hm⟩
  · rintro ⟨a, b, rfl, hm⟩
    exact ⟨b, mem_tails_iff.mpr (List.suffix_append a b), hm⟩

theorem matchesParts_cons_iff {p : Part} (hp : p ≠ .star) {ps : List Part} {s : List Char} :
    matchesParts (p :: ps) s = true ↔
      ∃ c b, c :: b = s ∧ p.accepts c = true ∧ matchesParts ps b = true := by
  cases s with
  | nil => cases p <;> simp_all [matchesParts]
  | cons c b => cases p <;> simp_all [matchesParts]

theorem matchesParts_iff {ps : List Part} {s : List Char} :
    matchesParts ps s = true ↔ ∃ pieces, List.Forall₂ Part.StandsFor ps pieces
      ∧ pieces.flatten = s := by
  induction ps generalizing s with
  | nil =>
    rw [matchesParts, List.isEmpty_iff]
    constructor
    · rintro rfl
      exact ⟨[], .nil, rfl⟩
    · rintro ⟨_, ⟨⟩, rfl⟩
      rfl
  | cons p ps ih =>
    by_cases hp : p = .star
    · subst hp
      rw [matchesParts_star_iff]
      constructor
      · rintro ⟨a, b, rfl, hm⟩
        obtain ⟨pieces, hf, rfl⟩ := ih.mp hm
        exact ⟨a :: pieces, .cons trivial hf, rfl⟩
      · rintro ⟨_, @⟨⟩ | @⟨_, a, _, pieces, -, hf⟩, rfl⟩
        exact ⟨a, pieces.flatten, rfl, ih.mpr ⟨pieces, hf, rfl⟩⟩
    · rw [matchesParts_cons_iff hp]
      have hstands : ∀ piece, p.StandsFor piece ↔ ∃ c, piece = [c] ∧ p.accepts c = true := by
        intro piece
        cases p <;> first | exact absurd rfl hp | rfl
      constructor
      · rintro ⟨c, b, rfl, hc, hm⟩
        obtain ⟨pieces, hf, rfl⟩ := ih.mp hm
        exact ⟨[c] :: pieces, .cons ((hstands _).mpr ⟨c, rfl, hc⟩) hf, rfl⟩
      · rintro ⟨_, @⟨⟩ | @⟨_, a, _, pieces, ha, hf⟩, rfl⟩
        obtain ⟨c, rfl, hc⟩ := (hstands a).mp ha
        exact ⟨c, pieces.flatten, rfl, hc, ih.mpr ⟨pieces, hf, rfl⟩⟩

theorem matchesName_iff {pattern name : String} :
    matchesName pattern name = true ↔ Follows pattern name :=
  matchesParts_iff

/-- Plain characters stand for themselves alone. -/
theorem flatten_eq_of_exactly {s : List Char} {pieces : List (List Char)}
    (h : List.Forall₂ Part.StandsFor (s.map .exactly) pieces) : pieces.flatten = s := by
  induction s generalizing pieces with
  | nil =>
    cases h
    rfl
  | cons c rest ih =>
    obtain ⟨piece, pieces, ⟨d, rfl, hd⟩, hrest, rfl⟩ := List.forall₂_cons_left_iff.mp h
    obtain rfl : d = c := beq_iff_eq.mp hd
    rw [List.flatten_cons, ih hrest, List.singleton_append]

/-- A name that follows a star and plain characters ends in those. -/
theorem Follows.suffix {pattern name : String} {s : List Char}
    (hp : parts pattern.toList = .star :: s.map .exactly) (h : Follows pattern name) :
    s <:+ name.toList := by
  obtain ⟨pieces, hpieces, hname⟩ := h
  rw [hp] at hpieces
  obtain ⟨piece, pieces, -, hrest, rfl⟩ := List.forall₂_cons_left_iff.mp hpieces
  rw [← hname, List.flatten_cons, flatten_eq_of_exactly hrest]
  exact List.suffix_append piece s

end Wildcard

namespace Pattern

open QuickLaunch.Tree

variable {t : Tree} {p q : Path} {found : List Path}

/-! ## Selections -/

/-- The names of a pattern lead from a directory to a path. All names but the last lead through
directories. -/
def Selects (t : Tree) : List PatternName → Path → Path → Prop
  | [], p, q => q = p
  | .here :: _, p, q => q = p
  | .anyDepth :: rest, p, q => ∃ d, Below t p d ∧ Selects t rest d q
  | .named name :: rest, p, q =>
    stands t rest.isEmpty (p.child name).text = .ok true ∧ Selects t rest (p.child name) q
  | .wildcard pattern :: rest, p, q =>
    ∃ children name e, t.list p.text = .ok children ∧ (name, e) ∈ children
      ∧ (rest = [] ∨ e.isDirectory = true) ∧ Wildcard.Follows pattern name
      ∧ Selects t rest (p.child name) q

theorem Selects.root_eq {names : List PatternName} (h : Selects t names p q) : q.root = p.root := by
  induction names generalizing p with
  | nil => rw [show q = p from h]
  | cons name rest ih =>
    cases name with
    | here => rw [show q = p from h]
    | anyDepth =>
      obtain ⟨d, hd, h⟩ := h
      rw [ih h, hd.root_eq]
    | named name => exact ih (p := p.child name) h.2
    | wildcard pattern =>
      obtain ⟨_, name, _, -, -, -, -, h⟩ := h
      exact ih (p := p.child name) h

theorem mem_distinct {l : List Path} : p ∈ distinct l ↔ p ∈ l := by
  induction l with
  | nil => rfl
  | cons d rest ih =>
    by_cases h : p = d
    · simp [distinct, h]
    · simp [distinct, ih, h]

theorem nodup_distinct (l : List Path) : (distinct l).Nodup := by
  induction l with
  | nil => exact List.nodup_nil
  | cons d rest ih => exact List.nodup_cons.mpr ⟨by simp, ih.filter _⟩

/-- What a selection holds is what the names lead to. -/
theorem selects_of_mem_selectFrom {names : List PatternName}
    (h : selectFrom t names p = .ok found) (hq : q ∈ found) : Selects t names p q := by
  induction names generalizing p found with
  | nil =>
    cases h
    exact List.mem_singleton.mp hq
  | cons name rest ih =>
    cases name with
    | here =>
      cases h
      exact List.mem_singleton.mp hq
    | anyDepth =>
      simp only [selectFrom, bind_eq_ok_iff, pure_eq_ok_iff] at h
      obtain ⟨directories, hdirs, found, hfound, rfl⟩ := h
      rw [mem_distinct, mem_flatten_of_mapM hfound] at hq
      obtain ⟨d, hd, paths, hpaths, hq⟩ := hq
      exact ⟨d, below_of_mem_directoriesBelow hdirs hd, ih hpaths hq⟩
    | named name =>
      simp only [selectFrom, bind_eq_ok_iff] at h
      obtain ⟨there, hthere, h⟩ := h
      cases there with
      | false =>
        cases h
        cases hq
      | true => exact ⟨hthere, ih h hq⟩
    | wildcard pattern =>
      simp only [selectFrom, bind_eq_ok_iff, pure_eq_ok_iff] at h
      obtain ⟨children, hlist, found, hfound, rfl⟩ := h
      obtain ⟨⟨name, e⟩, hc, paths, hpaths, hq⟩ := (mem_flatten_of_mapM hfound).mp hq
      obtain ⟨hmem, hcond⟩ := List.mem_filter.mp hc
      simp only [Bool.and_eq_true, Bool.or_eq_true, List.isEmpty_iff] at hcond
      exact ⟨children, name, e, hlist, hmem, hcond.1, Wildcard.matchesName_iff.mp hcond.2,
        ih hpaths hq⟩

/-- A selection that comes to an end misses nothing that the names lead to. -/
theorem mem_selectFrom_of_selects (ht : t.Proper) {names : List PatternName} (hp : p.Rooted)
    (h : selectFrom t names p = .ok found) (hq : Selects t names p q) : q ∈ found := by
  induction names generalizing p found with
  | nil =>
    cases h
    exact List.mem_singleton.mpr hq
  | cons name rest ih =>
    cases name with
    | here =>
      cases h
      exact List.mem_singleton.mpr hq
    | anyDepth =>
      simp only [selectFrom, bind_eq_ok_iff, pure_eq_ok_iff] at h
      obtain ⟨directories, hdirs, found, hfound, rfl⟩ := h
      obtain ⟨d, hd, hq⟩ := hq
      have hmem := (mem_directoriesBelow_iff ht hp hdirs).mpr hd
      obtain ⟨paths, hpaths⟩ := exists_mapM_iff.mp ⟨found, hfound⟩ d hmem
      rw [mem_distinct, mem_flatten_of_mapM hfound]
      exact ⟨d, hmem, paths, hpaths, ih (hp.of_root_eq hd.root_eq) hpaths hq⟩
    | named name =>
      simp only [selectFrom, bind_eq_ok_iff] at h
      obtain ⟨there, hthere, h⟩ := h
      obtain ⟨hstands, hq⟩ := hq
      obtain rfl : there = true := Except.ok.inj (hthere.symm.trans hstands)
      exact ih (hp.child name) h hq
    | wildcard pattern =>
      simp only [selectFrom, bind_eq_ok_iff, pure_eq_ok_iff] at h
      obtain ⟨children, hlist, found, hfound, rfl⟩ := h
      obtain ⟨children', name, e, hlist', hmem, hkind, hname, hq⟩ := hq
      obtain rfl := Except.ok.inj (hlist.symm.trans hlist')
      have hc : (name, e) ∈ children.filter fun c =>
          (rest.isEmpty || c.2.isDirectory) && Wildcard.matchesName pattern c.1 :=
        List.mem_filter.mpr ⟨hmem, by simpa [Wildcard.matchesName_iff.mpr hname] using hkind⟩
      obtain ⟨paths, hpaths⟩ := exists_mapM_iff.mp ⟨found, hfound⟩ _ hc
      rw [mem_flatten_of_mapM hfound]
      exact ⟨_, hc, paths, hpaths, ih (hp.child name) hpaths hq⟩

/-- The paths that a pattern names below a directory, at any depth. -/
def Names (t : Tree) (pattern : String) (directory path : Path) : Prop :=
  ∃ names, parse pattern = .ok names ∧ Selects t (.anyDepth :: names) directory path

theorem names_of_mem_select {pattern : String} (h : select t pattern p = .ok found)
    (hq : q ∈ found) : Names t pattern p q := by
  obtain ⟨names, hparse, hselect⟩ := bind_eq_ok_iff.mp h
  exact ⟨names, hparse, selects_of_mem_selectFrom hselect hq⟩

theorem mem_select_iff (ht : t.Proper) (hp : p.Rooted) {pattern : String}
    (h : select t pattern p = .ok found) : q ∈ found ↔ Names t pattern p q := by
  refine ⟨names_of_mem_select h, fun ⟨names, hparse, hq⟩ => ?_⟩
  obtain ⟨names', hparse', hselect⟩ := bind_eq_ok_iff.mp h
  obtain rfl := Except.ok.inj (hparse.symm.trans hparse')
  exact mem_selectFrom_of_selects ht hp hselect hq

/-! ## Files -/

theorem isFile?_eq_ok_true_iff {path : String} :
    t.isFile? path = .ok true ↔ t.isFile path = true := by
  rw [isFile?, isFile]
  cases t.status path with
  | ok e => cases e <;> simp
  | error fault => cases h : absent fault <;> simp [h]

theorem filesAmong_cons_eq_ok_iff {rest : List Path} :
    filesAmong t (p :: rest) = .ok found ↔
      ∃ isFile, t.isFile? p.text = .ok isFile ∧ ∃ files, filesAmong t rest = .ok files
        ∧ found = if isFile then p :: files else files := by
  simp only [filesAmong, bind_eq_ok_iff, pure_eq_ok_iff]

theorem mem_filesAmong_iff {paths : List Path} (h : filesAmong t paths = .ok found) :
    q ∈ found ↔ q ∈ paths ∧ t.isFile q.text = true := by
  induction paths generalizing found with
  | nil =>
    cases h
    simp
  | cons p rest ih =>
    obtain ⟨isFile, hp, files, hrest, rfl⟩ := filesAmong_cons_eq_ok_iff.mp h
    have hfile : isFile = true ↔ t.isFile p.text = true := by
      rw [← isFile?_eq_ok_true_iff, hp, Except.ok.injEq]
    by_cases hq : q = p
    · subst hq
      cases isFile <;> simp_all
    · cases isFile <;> simp [hq, ih hrest]

theorem exists_filesAmong_iff {paths : List Path} :
    (∃ found, filesAmong t paths = .ok found) ↔
      ∀ p ∈ paths, ∃ isFile, t.isFile? p.text = .ok isFile := by
  induction paths with
  | nil => simp [filesAmong]
  | cons p rest ih =>
    rw [List.forall_mem_cons, ← ih, filesAmong]
    simp only [exists_bind_iff, pure_eq_ok_iff, exists_eq, and_true, exists_and_right]

end Pattern

end QuickLaunch
