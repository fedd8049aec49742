import Mathlib.Data.List.Basic
import Mathlib.Data.List.Nodup
import Mathlib.Data.List.Sigma
import QuickLaunch.Proofs.Config.Cleaned

/-!
# What reading tells of a malformed document

Reading a document tells the log of each of its flaws: of a root that is no table, of a list of
entries that is something else, unless that counts as not given, and of each entry that is no table.
A flaw has a place, and no place has two of them, so that nothing is told twice.

* `Flaw`: the flaws of a document, each with its place and what the log is to be told;
* `map_snd_flaws`, `mem_flaws_iff`, `pairwise_flaws`: the log is told of each flaw once, and of nothing
  else;
* `MadeOf`: the sections made of the parts of a document;
* `malformed_parts`: what reading makes of any document, well-formed or not.
-/

namespace QuickLaunch

/-- A step into a document. -/
inductive Value.Step where
  | key (name : String)
  | item (index : Nat)
  deriving DecidableEq, Repr

namespace Config

open Value (Step)

/-! ## Flaws -/

/-- The sections of a document, each with the list that its groups have, if it has groups. -/
def sections : List (String × Option String) :=
  [("pinned", none), ("macroGroups", some "actions"), ("recent", none), ("appFilters", none),
    ("tileGroups", some "tiles")]

/-- A flaw of the list of entries that a table has at a key: what is given there is no list, or an
entry is no table. -/
inductive ListFlaw (t : Table) (key : String) : List Step → Event → Prop where
  | list {v : Value} : t.get? key = some v → (∀ items, v ≠ .list items) → v.isGiven = true →
      ListFlaw t key [.key key] (.sectionMalformed key)
  | entry {items : List Value} {n : Nat} {v : Value} : t.get? key = some (.list items) →
      items[n]? = some v → (∀ u, v ≠ .table u) →
      ListFlaw t key [.key key, .item n] (.entryMalformed key v)

/-- A flaw of a document: its root is no table, or a section or a list in a group has a flaw. -/
inductive Flaw : Value → List Step → Event → Prop where
  | root {d : Value} : (∀ t, d ≠ .table t) → Flaw d [] (.rootMalformed d.kindName)
  | inSection {t : Table} {key : String} {inner : Option String} {place : List Step}
      {event : Event} : (key, inner) ∈ sections → ListFlaw t key place event →
      Flaw (.table t) place event
  | inGroup {t u : Table} {key inner : String} {items : List Value} {n : Nat} {place : List Step}
      {event : Event} : (key, some inner) ∈ sections → t.get? key = some (.list items) →
      items[n]? = some (.table u) → ListFlaw u inner place event →
      Flaw (.table t) (.key key :: .item n :: place) event

/-! ## Finding the flaws -/

/-- The flaw of an entry with its index, if the entry has one. -/
def entryFlaw? (key : String) : Value × Nat → Option (List Step × Event)
  | (.table _, _) => none
  | (v, n) => some ([.key key, .item n], .entryMalformed key v)

/-- The flaws of the list at a key. -/
def listFlaws (t : Table) (key : String) : List (List Step × Event) :=
  match t.get? key with
  | none => []
  | some (.list items) => items.zipIdx.filterMap (entryFlaw? key)
  | some v => if v.isGiven then [([.key key], .sectionMalformed key)] else []

/-- The flaws of the list in a group with its index. -/
def innerFlaws (key inner : String) : Value × Nat → List (List Step × Event)
  | (.table u, n) => (listFlaws u inner).map fun f => (.key key :: .item n :: f.1, f.2)
  | _ => []

/-- The flaws of a section, those of its own list first. -/
def sectionFlaws (t : Table) : String × Option String → List (List Step × Event)
  | (key, none) => listFlaws t key
  | (key, some inner) => listFlaws t key ++ (t.itemsOf key).zipIdx.flatMap (innerFlaws key inner)

/-- The flaws of a document, in the order in which the log is told. -/
def flaws : Value → List (List Step × Event)
  | .table t => sections.flatMap (sectionFlaws t)
  | d => [([], .rootMalformed d.kindName)]

variable {t u : Table} {key inner : String} {place : List Step} {event : Event} {d : Value}

/-! ## The log is told of them -/

theorem map_snd_listFlaws (t : Table) (key : String) :
    (listFlaws t key).map Prod.snd = t.sectionEvents key := by
  rw [listFlaws, Table.sectionEvents]
  cases t.get? key with
  | none => rfl
  | some v =>
    cases v with
    | list items =>
      simp only [List.map_filterMap]
      conv_rhs => rw [← List.zipIdx_map_fst 0 items, List.filterMap_map]
      refine List.filterMap_congr fun e _ => ?_
      obtain ⟨v, n⟩ := e
      cases v <;> rfl
    | _ =>
      simp only
      split <;> rfl

theorem map_snd_groupFlaws (t : Table) (key inner : String) :
    (sectionFlaws t (key, some inner)).map Prod.snd = groupEvents t key inner := by
  have hinner : ∀ (items : List Value) (n : Nat),
      (items.zipIdx n).flatMap (fun e => (innerFlaws key inner e).map Prod.snd) =
        (items.filterMap fun
          | .table entries => some entries
          | _ => none).flatMap (Table.sectionEvents · inner) := by
    intro items
    induction items with
    | nil => exact fun _ => rfl
    | cons v rest ih =>
      intro n
      rw [List.zipIdx_cons, List.flatMap_cons, ih]
      cases v with
      | table u =>
        have hgroup : (innerFlaws key inner (.table u, n)).map Prod.snd =
            Table.sectionEvents u inner := by
          rw [innerFlaws, List.map_map, ← map_snd_listFlaws]
          rfl
        rw [hgroup]
        rfl
      | _ => rfl
  rw [sectionFlaws, groupEvents, List.map_append, map_snd_listFlaws, List.map_flatMap, hinner]
  rfl

/-- The log is told of the flaws, in order. -/
theorem map_snd_flaws (d : Value) : (flaws d).map Prod.snd = events d := by
  cases d with
  | table t =>
    simp only [flaws, sections, List.flatMap_cons, List.flatMap_nil, List.append_nil,
      List.map_append, map_snd_groupFlaws, events, List.append_assoc]
    simp only [sectionFlaws, map_snd_listFlaws]
  | _ => rfl

/-! ## They are the flaws -/

theorem entryFlaw?_eq_some_iff {v : Value} {n : Nat} :
    entryFlaw? key (v, n) = some (place, event) ↔
      (∀ u, v ≠ .table u) ∧ place = [.key key, .item n] ∧ event = .entryMalformed key v := by
  cases v <;> simp [entryFlaw?, eq_comm]

theorem mem_listFlaws_iff : (place, event) ∈ listFlaws t key ↔ ListFlaw t key place event := by
  constructor
  · intro h
    rw [listFlaws] at h
    cases hv : t.get? key with
    | none => simp [hv] at h
    | some v =>
      rw [hv] at h
      cases v with
      | list items =>
        obtain ⟨⟨v, n⟩, hmem, hflaw⟩ := List.mem_filterMap.mp h
        obtain ⟨hentry, rfl, rfl⟩ := entryFlaw?_eq_some_iff.mp hflaw
        exact .entry hv (List.mk_mem_zipIdx_iff_getElem?.mp hmem) hentry
      | _ =>
        simp only at h
        split at h
        · next hg =>
          cases List.mem_singleton.mp h
          exact .list hv nofun hg
        · cases h
  · intro h
    cases h with
    | @list v hv hl hg =>
      rw [listFlaws, hv]
      cases v with
      | list items => exact absurd rfl (hl items)
      | _ => simp [hg]
    | entry hv hn hu =>
      rw [listFlaws, hv]
      exact List.mem_filterMap.mpr ⟨_, List.mk_mem_zipIdx_iff_getElem?.mpr hn,
        entryFlaw?_eq_some_iff.mpr ⟨hu, rfl, rfl⟩⟩

theorem mem_innerFlaws_iff {v : Value} {n : Nat} :
    (place, event) ∈ innerFlaws key inner (v, n) ↔
      ∃ u rest, v = .table u ∧ ListFlaw u inner rest event
        ∧ place = .key key :: .item n :: rest := by
  cases v with
  | table u =>
    simp only [innerFlaws, List.mem_map, Prod.mk.injEq, Value.table.injEq]
    constructor
    · rintro ⟨⟨rest, e⟩, hmem, rfl, rfl⟩
      exact ⟨u, rest, rfl, mem_listFlaws_iff.mp hmem, rfl⟩
    · rintro ⟨u', rest, rfl, hflaw, rfl⟩
      exact ⟨(rest, event), mem_listFlaws_iff.mpr hflaw, rfl, rfl⟩
  | _ => simp [innerFlaws]

theorem mem_zipIdx_itemsOf_iff {v : Value} {n : Nat} :
    (v, n) ∈ (t.itemsOf key).zipIdx ↔
      ∃ items, t.get? key = some (.list items) ∧ items[n]? = some v := by
  rw [List.mk_mem_zipIdx_iff_getElem?, Table.itemsOf]
  cases t.get? key with
  | none => simp
  | some w => cases w <;> simp

theorem mem_groupFlaws_iff :
    (place, event) ∈ (t.itemsOf key).zipIdx.flatMap (innerFlaws key inner) ↔
      ∃ items n u rest, t.get? key = some (.list items) ∧ items[n]? = some (.table u)
        ∧ ListFlaw u inner rest event ∧ place = .key key :: .item n :: rest := by
  rw [List.mem_flatMap]
  constructor
  · rintro ⟨⟨v, n⟩, hmem, hflaw⟩
    obtain ⟨items, hitems, hn⟩ := mem_zipIdx_itemsOf_iff.mp hmem
    obtain ⟨u, rest, rfl, hrest, hplace⟩ := mem_innerFlaws_iff.mp hflaw
    exact ⟨items, n, u, rest, hitems, hn, hrest, hplace⟩
  · rintro ⟨items, n, u, rest, hitems, hn, hrest, hplace⟩
    exact ⟨(.table u, n), mem_zipIdx_itemsOf_iff.mpr ⟨items, hitems, hn⟩,
      mem_innerFlaws_iff.mpr ⟨u, rest, rfl, hrest, hplace⟩⟩

theorem mem_flaws_iff : (place, event) ∈ flaws d ↔ Flaw d place event := by
  constructor
  · intro h
    cases d with
    | table t =>
      obtain ⟨⟨key, inner⟩, hkey, hflaw⟩ := List.mem_flatMap.mp h
      cases inner with
      | none => exact .inSection hkey (mem_listFlaws_iff.mp hflaw)
      | some inner =>
        rcases List.mem_append.mp hflaw with hflaw | hflaw
        · exact .inSection hkey (mem_listFlaws_iff.mp hflaw)
        · obtain ⟨items, n, u, rest, hitems, hn, hrest, rfl⟩ := mem_groupFlaws_iff.mp hflaw
          exact .inGroup hkey hitems hn hrest
    | _ =>
      cases List.mem_singleton.mp h
      exact .root nofun
  · intro h
    cases h with
    | root hroot =>
      cases d with
      | table t => exact absurd rfl (hroot t)
      | _ => exact List.mem_singleton.mpr rfl
    | @inSection t key inner _ _ hkey hflaw =>
      refine List.mem_flatMap.mpr ⟨_, hkey, ?_⟩
      cases inner with
      | none => exact mem_listFlaws_iff.mpr hflaw
      | some inner => exact List.mem_append_left _ (mem_listFlaws_iff.mpr hflaw)
    | inGroup hkey hitems hn hrest =>
      refine List.mem_flatMap.mpr ⟨_, hkey, List.mem_append_right _ ?_⟩
      exact mem_groupFlaws_iff.mpr ⟨_, _, _, _, hitems, hn, hrest, rfl⟩

/-! ## No place has two -/

/-- The entries of a list stand at different indices. -/
theorem pairwise_zipIdx (items : List Value) : items.zipIdx.Pairwise (·.2 ≠ ·.2) :=
  List.pairwise_map.mp (List.nodup_zipIdx_map_snd items)

theorem pairwise_listFlaws (t : Table) (key : String) :
    (listFlaws t key).Pairwise (·.1 ≠ ·.1) := by
  rw [listFlaws]
  cases t.get? key with
  | none => exact .nil
  | some v =>
    cases v with
    | list items =>
      refine List.pairwise_filterMap.mpr ((pairwise_zipIdx items).imp ?_)
      intro e e' hne f hf f' hf' hplace
      obtain ⟨-, hp, -⟩ := entryFlaw?_eq_some_iff.mp hf
      obtain ⟨-, hp', -⟩ := entryFlaw?_eq_some_iff.mp hf'
      rw [hp, hp'] at hplace
      simp only [List.cons.injEq, Step.item.injEq, true_and, and_true] at hplace
      exact hne hplace
    | _ =>
      simp only
      split <;> simp

theorem pairwise_innerFlaws (key inner : String) (e : Value × Nat) :
    (innerFlaws key inner e).Pairwise (·.1 ≠ ·.1) := by
  obtain ⟨v, n⟩ := e
  cases v with
  | table u =>
    refine List.pairwise_map.mpr ((pairwise_listFlaws u inner).imp fun hne hplace => hne ?_)
    simpa using hplace
  | _ => exact .nil

theorem ListFlaw.length_le (h : ListFlaw t key place event) :
    0 < place.length ∧ place.length ≤ 2 := by
  cases h <;> simp

theorem pairwise_sectionFlaws (t : Table) (s : String × Option String) :
    (sectionFlaws t s).Pairwise (·.1 ≠ ·.1) := by
  obtain ⟨key, inner⟩ := s
  cases inner with
  | none => exact pairwise_listFlaws t key
  | some inner =>
    rw [sectionFlaws, List.pairwise_append, List.pairwise_flatMap]
    refine ⟨pairwise_listFlaws t key, ⟨fun e _ => pairwise_innerFlaws key inner e, ?_⟩, ?_⟩
    · refine (pairwise_zipIdx _).imp ?_
      rintro e e' hne ⟨place, event⟩ hf ⟨place', event'⟩ hf' hsame
      obtain ⟨_, _, _, _, rfl⟩ := mem_innerFlaws_iff.mp hf
      obtain ⟨_, _, _, _, rfl⟩ := mem_innerFlaws_iff.mp hf'
      simp only [List.cons.injEq, Step.item.injEq, true_and] at hsame
      exact hne hsame.1
    -- The places in groups are longer than those in the list of groups.
    · rintro ⟨place, event⟩ hf ⟨place', event'⟩ hf' hsame
      obtain ⟨_, _, _, _, _, _, hrest, rfl⟩ := mem_groupFlaws_iff.mp hf'
      have hshort := (mem_listFlaws_iff.mp hf).length_le.2
      have hlong := hrest.length_le.1
      rw [show place = _ from hsame, List.length_cons, List.length_cons] at hshort
      omega

/-- The places in a section start at its key. -/
theorem exists_place_of_mem_sectionFlaws {s : String × Option String}
    (h : (place, event) ∈ sectionFlaws t s) : ∃ rest, place = .key s.1 :: rest := by
  have hlist : ∀ key, (place, event) ∈ listFlaws t key → ∃ rest, place = .key key :: rest := by
    intro key h
    cases mem_listFlaws_iff.mp h with
    | list => exact ⟨_, rfl⟩
    | entry => exact ⟨_, rfl⟩
  obtain ⟨key, inner⟩ := s
  cases inner with
  | none => exact hlist key h
  | some inner =>
    rcases List.mem_append.mp h with h | h
    · exact hlist key h
    · obtain ⟨_, _, _, _, _, _, _, hplace⟩ := mem_groupFlaws_iff.mp h
      exact ⟨_, hplace⟩

theorem pairwise_flaws (d : Value) : (flaws d).Pairwise (·.1 ≠ ·.1) := by
  cases d with
  | table t =>
    have hkeys : sections.Pairwise (·.1 ≠ ·.1) := by decide
    rw [flaws, List.pairwise_flatMap]
    refine ⟨fun s _ => pairwise_sectionFlaws t s, hkeys.imp ?_⟩
    rintro s s' hne ⟨place, event⟩ hf ⟨place', event'⟩ hf' hsame
    obtain ⟨rest, rfl⟩ := exists_place_of_mem_sectionFlaws hf
    obtain ⟨rest', rfl⟩ := exists_place_of_mem_sectionFlaws hf'
    simp only [List.cons.injEq, Step.key.injEq] at hsame
    exact hne hsame.1
  | _ => exact List.pairwise_singleton _ _

/-! ## What is made of a document -/

/-- What a document has at a key; one that is no table has nothing. -/
def partAt? : Value → String → Option Value
  | .table t, key => Table.get? t key
  | _, _ => none

/-- The tables in what should be a list, in order. -/
def tablesIn : Option Value → List Table
  | some (.list items) => items.filterMap fun
    | .table u => some u
    | _ => none
  | _ => []

/-- Each section of a configuration is made of the part of a document at its key, and of nothing
else: the entries are the tables in that part, in order. -/
structure MadeOf (d : Value) (c : Config) : Prop where
  pinned : c.pinned = (tablesIn (partAt? d "pinned")).map PinnedConfig.ofTable
  macroGroups : c.macroGroups = (tablesIn (partAt? d "macroGroups")).map MacroGroupConfig.ofTable
  recent : c.recent = (tablesIn (partAt? d "recent")).map RecentConfig.ofTable
  filters : c.filters = (tablesIn (partAt? d "appFilters")).map FilterConfig.ofTable
  tileGroups : c.tileGroups = (tablesIn (partAt? d "tileGroups")).map TileGroupConfig.ofTable

theorem tablesOf_eq (t : Table) (key : String) : t.tablesOf key = tablesIn (t.get? key) := by
  rw [Table.tablesOf, Table.itemsOf]
  cases t.get? key with
  | none => rfl
  | some v => cases v <;> rfl

theorem madeOf_ofValue (d : Value) : MadeOf d (ofValue d) := by
  cases d with
  | table t => constructor <;> simp only [ofValue, ofTable, tablesOf_eq, partAt?]
  | _ => constructor <;> rfl

/-- The log is told of each flaw by a warning. -/
theorem Flaw.level_eq (h : Flaw d place event) : event.level = .warning := by
  have hlist : ∀ {t key place event}, ListFlaw t key place event → event.level = .warning := by
    rintro t key place event (_ | _) <;> rfl
  cases h with
  | root => rfl
  | inSection _ hflaw => exact hlist hflaw
  | inGroup _ _ _ hflaw => exact hlist hflaw

/-- The malformed parts of a document are dropped and nothing else. The document without them
describes the same configuration, and of it the log is told nothing. Of the document itself the log
is told each flaw by one warning, no place in it having two. Each section is made of the tables in
the same part of the document. -/
theorem malformed_parts (d : Value) :
    ofValue (clean d) = ofValue d ∧ events (clean d) = []
      ∧ (∃ found : List (List Step × Event), found.map Prod.snd = events d
        ∧ (found.map Prod.fst).Nodup
        ∧ ∀ place event, (place, event) ∈ found ↔ Flaw d place event)
      ∧ (∀ event ∈ events d, event.level = .warning)
      ∧ MadeOf d (ofValue d) := by
  have hfound : ∀ place event, (place, event) ∈ flaws d ↔ Flaw d place event :=
    fun _ _ => mem_flaws_iff
  have hplaces : ((flaws d).map Prod.fst).Nodup := List.pairwise_map.mpr (pairwise_flaws d)
  refine ⟨ofValue_clean d, events_clean d, ⟨flaws d, map_snd_flaws d, hplaces, hfound⟩, ?_,
    madeOf_ofValue d⟩
  intro event hevent
  rw [← map_snd_flaws] at hevent
  obtain ⟨⟨place, event⟩, hmem, rfl⟩ := List.mem_map.mp hevent
  exact ((hfound place event).mp hmem).level_eq

/-- A number among the pinned actions and a text in the place of a group's list are told, a truth
value in the place of an icon is not. -/
example : events (.table [
      ("pinned", .list [.int 5, .table [("title", .text "Mail"), ("icon", .bool true)]]),
      ("macroGroups", .list [.table [("name", .text "Work"), ("actions", .text "none")]])]) =
    [.entryMalformed "pinned" (.int 5), .sectionMalformed "actions"] := by
  rfl

end Config

end QuickLaunch
