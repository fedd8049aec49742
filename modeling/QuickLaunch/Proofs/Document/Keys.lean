import QuickLaunch.Document.Overlay

/-!
# Keys of tables

A table in which no key comes twice is known by its keys, in order, and by what each of them leads
to. Documents hold such tables only, at every depth (`Value.Keyed`), and laying one over another
gives one again.

* `Table.eq_of_get?_eq`: two tables with the same keys that lead to the same values are equal;
* `Table.get?_overlay`: what a key leads to in a table that is laid over another one;
* `Table.keys_overlay`: the keys, those of the lower table first;
* `Value.Keyed.overlay`: no key comes twice in what is laid over each other.
-/

namespace QuickLaunch

namespace Table

variable {t u lower upper : Table} {key : String} {v : Value}

theorem get?_eq_none_iff : get? t key = none ↔ key ∉ keys t := by
  rw [get?, List.lookup_eq_none_iff, keys, List.mem_map, not_exists]
  constructor
  · rintro h e ⟨he, rfl⟩
    simpa using h e he
  · intro h e he
    simpa using fun hk : key = e.1 => h e ⟨he, hk.symm⟩

theorem mem_of_get? (h : get? t key = some v) : (key, v) ∈ t := by
  induction t with
  | nil => cases h
  | cons e rest ih =>
    obtain ⟨k, w⟩ := e
    rw [get?_cons] at h
    by_cases hk : k = key
    · rw [if_pos hk] at h
      cases h
      rw [hk]
      exact List.mem_cons_self
    · rw [if_neg hk] at h
      exact List.mem_cons_of_mem _ (ih h)

/-- Where no key comes twice, an entry is what its key leads to. -/
theorem get?_of_mem (hn : (keys t).Nodup) (h : (key, v) ∈ t) : get? t key = some v := by
  induction t with
  | nil => cases h
  | cons e rest ih =>
    obtain ⟨k, w⟩ := e
    obtain ⟨hk, hrest⟩ := List.nodup_cons.mp hn
    rw [get?_cons]
    rcases List.mem_cons.mp h with heq | hmem
    · cases heq
      exact if_pos rfl
    · have hne : k ≠ key := by
        rintro rfl
        exact hk (List.mem_map.mpr ⟨_, hmem, rfl⟩)
      rw [if_neg hne, ih hrest hmem]

/-- Two tables with the same keys, none of them twice, that lead to the same values are equal. -/
theorem eq_of_get?_eq (hk : keys t = keys u) (hn : (keys t).Nodup)
    (h : ∀ key ∈ keys t, get? t key = get? u key) : t = u := by
  induction t generalizing u with
  | nil =>
    cases u with
    | nil => rfl
    | cons e rest => cases hk
  | cons e t ih =>
    cases u with
    | nil => cases hk
    | cons e' u =>
      obtain ⟨k, v⟩ := e
      obtain ⟨k', w⟩ := e'
      obtain ⟨rfl, hrest⟩ : k = k' ∧ keys t = keys u := List.cons.inj hk
      obtain ⟨hkt, hnt⟩ := List.nodup_cons.mp hn
      have hv : v = w := by
        have hhead := h k List.mem_cons_self
        rw [get?_cons, get?_cons, if_pos rfl, if_pos rfl] at hhead
        exact Option.some.inj hhead
      have hentries : t = u := by
        refine ih hrest hnt fun key hkey => ?_
        have hne : k ≠ key := by
          rintro rfl
          exact hkt hkey
        have htail := h key (List.mem_cons_of_mem _ hkey)
        rwa [get?_cons, get?_cons, if_neg hne, if_neg hne] at htail
      rw [hv, hentries]

end Table

/-! ## One table over another -/

/-- What a key leads to when one table is laid over another: the value above over the one below,
where both have one, and else the one that is there. -/
def Value.over? : Option Value → Option Value → Option Value
  | below, none => below
  | none, some v => some v
  | some w, some v => some (Value.overlay w v)

namespace Table

variable {t u lower upper : Table} {key : String}

theorem get?_overlay (hn : (keys upper).Nodup) :
    get? (overlay lower upper) key = Value.over? (get? lower key) (get? upper key) := by
  induction upper generalizing lower with
  | nil =>
    rw [overlay_nil]
    rfl
  | cons e rest ih =>
    obtain ⟨k, v⟩ := e
    obtain ⟨hk, hrest⟩ := List.nodup_cons.mp hn
    rw [overlay, ih hrest, get?_cons]
    by_cases h : k = key
    · subst h
      rw [if_pos rfl, get?_set_self, get?_eq_none_iff.mpr hk]
      cases get? lower k <;> rfl
    · rw [if_neg h, get?_set_ne _ _ (Ne.symm h)]

/-- The keys of the lower table come first, in their order, then those that only the upper one has,
in theirs. -/
theorem keys_overlay (hn : (keys upper).Nodup) :
    keys (overlay lower upper) = keys lower ++ (keys upper).filter (· ∉ keys lower) := by
  induction upper generalizing lower with
  | nil => simp [overlay_nil, keys]
  | cons e rest ih =>
    obtain ⟨k, v⟩ := e
    obtain ⟨hk, hrest⟩ := List.nodup_cons.mp hn
    rw [overlay, ih hrest, keys_set]
    change _ = keys lower ++ (k :: keys rest).filter (· ∉ keys lower)
    by_cases hmem : k ∈ keys lower
    · rw [if_pos hmem, List.filter_cons_of_neg (by simpa using hmem)]
    · -- The key that has just become one of the lower table is none of those that follow.
      have hnew : (keys rest).filter (· ∉ keys lower ++ [k])
          = (keys rest).filter (· ∉ keys lower) := by
        refine List.filter_congr fun key hkey => ?_
        have hne : key ≠ k := by
          rintro rfl
          exact hk hkey
        simp [hne]
      rw [if_neg hmem, hnew, List.filter_cons_of_pos (by simpa using hmem), List.append_assoc]
      rfl

theorem nodup_keys_overlay (hl : (keys lower).Nodup) (hu : (keys upper).Nodup) :
    (keys (overlay lower upper)).Nodup := by
  rw [keys_overlay hu, List.nodup_append]
  refine ⟨hl, hu.filter _, ?_⟩
  rintro key hkey _ hnew rfl
  have hnot := (List.mem_filter.mp hnew).2
  simp [hkey] at hnot

end Table

/-! ## Values in whose tables no key comes twice -/

namespace Value

/-- The value is a table. -/
def isTable : Value → Bool
  | .table _ => true
  | _ => false

theorem isTable_iff {v : Value} : v.isTable = true ↔ ∃ t, v = .table t := by
  cases v with
  | table t => exact ⟨fun _ => ⟨t, rfl⟩, fun _ => rfl⟩
  | _ => exact ⟨nofun, nofun⟩

/-- No key comes twice in the value, if it is a table, nor in the tables that its keys lead to. -/
inductive Keyed : Value → Prop where
  | table {entries : Table} : (Table.keys entries).Nodup → (∀ e ∈ entries, Keyed e.2) →
      Keyed (.table entries)
  | plain {v : Value} : v.isTable = false → Keyed v

variable {v w : Value} {t lower upper : Table} {key : String}

theorem Keyed.nodup (h : (Value.table t).Keyed) : (Table.keys t).Nodup := by
  cases h with
  | table hn _ => exact hn
  | plain ht => cases ht

theorem Keyed.of_mem {e : String × Value} (h : (Value.table t).Keyed) (he : e ∈ t) :
    e.2.Keyed := by
  cases h with
  | table _ hk => exact hk e he
  | plain ht => cases ht

theorem Keyed.get? (h : (Value.table t).Keyed) (hv : Table.get? t key = some v) : v.Keyed :=
  h.of_mem (Table.mem_of_get? hv)

mutual

/-- Whether no key comes twice in a value. -/
def decKeyed : (v : Value) → Decidable v.Keyed
  | .table t =>
    match decKeyedAll t with
    | isTrue h => decidable_of_iff (Table.keys t).Nodup ⟨fun hn => .table hn h, Keyed.nodup⟩
    | isFalse h => isFalse fun hk => h fun _ he => hk.of_mem he
  | .null | .bool _ | .int _ | .float _ | .text _ | .moment _ | .list _ => isTrue (.plain rfl)

/-- Whether no key comes twice in the value of an entry. -/
def decKeyedAll : (t : List (String × Value)) → Decidable (∀ e ∈ t, e.2.Keyed)
  | [] => isTrue nofun
  | (_, v) :: rest =>
    match decKeyed v, decKeyedAll rest with
    | isTrue h, isTrue hr => isTrue (List.forall_mem_cons.mpr ⟨h, hr⟩)
    | isFalse h, _ => isFalse fun hall => h (List.forall_mem_cons.mp hall).1
    | _, isFalse h => isFalse fun hall => h (List.forall_mem_cons.mp hall).2

end

instance : DecidablePred Keyed := decKeyed

theorem keyed_of_get? (hn : (Table.keys t).Nodup)
    (h : ∀ key v, Table.get? t key = some v → v.Keyed) : (Value.table t).Keyed :=
  .table hn fun e he => h e.1 e.2 (Table.get?_of_mem hn he)

/-- A value counts alone unless it is a table and lies over a table. -/
theorem overlay_of_isTable_and (h : (w.isTable && v.isTable) = false) : overlay w v = v := by
  cases v with
  | table upper =>
    cases w with
    | table lower => cases h
    | _ => rfl
  | _ => rfl

theorem overlay_table (lower upper : Table) :
    overlay (.table lower) (.table upper) = .table (Table.overlay lower upper) := by
  rw [overlay]

theorem Keyed.overlay (hw : w.Keyed) (hv : v.Keyed) : (Value.overlay w v).Keyed := by
  induction hv generalizing w with
  | plain ht =>
    rw [overlay_of_isTable_and (by rw [ht, Bool.and_false])]
    exact .plain ht
  | @table upper hn hmem ih =>
    have hupper : (Value.table upper).Keyed := .table hn hmem
    cases w with
    | table lower =>
      rw [overlay_table]
      refine keyed_of_get? (Table.nodup_keys_overlay hw.nodup hn) fun key x hx => ?_
      rw [Table.get?_overlay hn] at hx
      cases hu : Table.get? upper key with
      | none =>
        rw [hu] at hx
        exact hw.get? hx
      | some v =>
        cases hl : Table.get? lower key with
        | none =>
          rw [hu, hl] at hx
          cases hx
          exact hupper.get? hu
        | some w =>
          rw [hu, hl] at hx
          cases hx
          exact ih _ (Table.mem_of_get? hu) (hw.get? hl)
    | _ => exact hupper

end Value

end QuickLaunch
