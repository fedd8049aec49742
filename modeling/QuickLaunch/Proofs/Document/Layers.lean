import QuickLaunch.Proofs.Document.Places

/-!
# Layers of tables

Tables in which no key comes twice can be laid over each other in layers. A layer that lies over
itself changes nothing, and layers can be laid over each other from above or from below, unless a
value that is no table lies between two tables: from below it takes away the lower one, from above
it is gone before it meets it.

* `Value.overlay_self`: a value over itself;
* `Value.overlay_overlay`: three values over each other, in either grouping;
* `Table.layers_regroup`: the laws of layers.
-/

namespace QuickLaunch

namespace Table

theorem nil_overlay {t : Table} (hn : (keys t).Nodup) : overlay [] t = t := by
  have hkeys : keys (overlay [] t) = keys t := by
    rw [keys_overlay hn]
    simp [keys]
  refine eq_of_get?_eq hkeys (hkeys ▸ hn) fun key _ => ?_
  rw [get?_overlay hn]
  exact Value.over?_none _

/-- The keys of three layers are those of the lowest, the new ones of the next and those that only
the highest has, in either grouping. -/
theorem keys_overlay_overlay {s t u : Table} (ht : (keys t).Nodup) (hu : (keys u).Nodup) :
    keys (overlay (overlay s t) u) = keys (overlay s (overlay t u)) := by
  have htu := nodup_keys_overlay ht hu
  rw [keys_overlay hu, keys_overlay ht, keys_overlay htu, keys_overlay hu,
    List.filter_append, List.filter_filter, List.append_assoc]
  congr 2
  refine List.filter_congr fun key _ => ?_
  by_cases hs : key ∈ keys s <;> by_cases ht : key ∈ keys t <;> simp [hs, ht]

end Table

namespace Value

variable {a b c v : Value}

/-! ## The same layer twice -/

theorem over?_self {v : Option Value} (h : ∀ x, v = some x → Value.overlay x x = x) :
    over? v v = v := by
  cases v with
  | none => rfl
  | some x => exact congrArg some (h x rfl)

theorem overlay_self (hv : v.Keyed) : Value.overlay v v = v := by
  induction hv with
  | plain ht => exact overlay_of_isTable_and (by rw [ht, Bool.false_and])
  | @table t hn _ ih =>
    have hkeys : Table.keys (Table.overlay t t) = Table.keys t := by
      rw [Table.keys_overlay hn, List.filter_eq_nil_iff.mpr, List.append_nil]
      intro key hkey
      simpa using hkey
    rw [overlay_table]
    congr 1
    refine Table.eq_of_get?_eq hkeys (Table.nodup_keys_overlay hn hn) fun key _ => ?_
    rw [Table.get?_overlay hn]
    exact over?_self fun x hx => ih _ (Table.mem_of_get? hx)

/-! ## Three layers -/

/-- No path leads to a value that is no table in the middle, and to tables below and above it. -/
def Regroups (a b c : Value) : Prop :=
  ¬ ∃ path s t x, a.at? path = some (.table s) ∧ c.at? path = some (.table t)
    ∧ b.at? path = some x ∧ x.isTable = false

theorem Regroups.get? {s t u : Table} (h : Regroups (.table s) (.table t) (.table u)) {key : String}
    (ha : Table.get? s key = some a) (hb : Table.get? t key = some b)
    (hc : Table.get? u key = some c) : Regroups a b c := by
  rintro ⟨path, below, above, x, hbelow, habove, hx, hplain⟩
  refine h ⟨key :: path, below, above, x, ?_, ?_, ?_, hplain⟩
  · rwa [at?_cons, ha]
  · rwa [at?_cons, hc]
  · rwa [at?_cons, hb]

theorem over?_over? {a b c : Option Value}
    (h : ∀ x y z, a = some x → b = some y → c = some z →
      Value.overlay (Value.overlay x y) z = Value.overlay x (Value.overlay y z)) :
    over? (over? a b) c = over? a (over? b c) := by
  cases c with
  | none => rfl
  | some z =>
    cases b with
    | none => cases a <;> rfl
    | some y =>
      cases a with
      | none => rfl
      | some x => exact congrArg some (h x y z rfl rfl rfl)

theorem overlay_overlay (ha : a.Keyed) (hb : b.Keyed) (hc : c.Keyed) (h : Regroups a b c) :
    Value.overlay (Value.overlay a b) c = Value.overlay a (Value.overlay b c) := by
  induction hc generalizing a b with
  | @plain c hplain =>
    have hc : ∀ w, Value.overlay w c = c := fun w =>
      overlay_of_isTable_and (by rw [hplain, Bool.and_false])
    rw [hc, hc, hc]
  | @table u hu hmem ih =>
    have hc : (Value.table u).Keyed := .table hu hmem
    cases hb' : b.isTable with
    | false =>
      have ha' : a.isTable = false := by
        refine Bool.eq_false_iff.mpr fun htable => h ?_
        obtain ⟨s, rfl⟩ := isTable_iff.mp htable
        exact ⟨[], s, u, b, at?_nil _, at?_nil _, at?_nil _, hb'⟩
      rw [overlay_of_isTable_and (w := a) (by rw [hb', Bool.and_false]),
        overlay_of_isTable_and (w := b) (by rw [hb', Bool.false_and]),
        overlay_of_isTable_and (w := a) (by rw [ha', Bool.false_and])]
    | true =>
      cases ha' : a.isTable with
      | false =>
        rw [overlay_of_isTable_and (w := a) (by rw [ha', Bool.false_and]),
          overlay_of_isTable_and (w := a) (by rw [ha', Bool.false_and])]
      | true =>
        obtain ⟨s, rfl⟩ := isTable_iff.mp ha'
        obtain ⟨t, rfl⟩ := isTable_iff.mp hb'
        have hst := Table.nodup_keys_overlay ha.nodup hb.nodup
        have htu := Table.nodup_keys_overlay hb.nodup hu
        rw [overlay_table, overlay_table, overlay_table, overlay_table]
        congr 1
        refine Table.eq_of_get?_eq (Table.keys_overlay_overlay hb.nodup hu)
          (Table.nodup_keys_overlay hst hu) fun key _ => ?_
        rw [Table.get?_overlay hu, Table.get?_overlay hb.nodup, Table.get?_overlay htu,
          Table.get?_overlay hu]
        exact over?_over? fun x y z hx hy hz =>
          ih _ (Table.mem_of_get? hz) (ha.get? hx) (hb.get? hy) (h.get? hx hy hz)

end Value

namespace Table

/-- A table with nothing over it or under it stays as it is, and so does one that is laid over
itself. A layer that is there twice counts once. Three layers can be laid over each other in either
grouping, unless a path leads to tables in the lowest and the highest and to a value that is no
table in the one between them. -/
theorem layers_regroup {a b c : Table} (ha : (Value.table a).Keyed) (hb : (Value.table b).Keyed)
    (hc : (Value.table c).Keyed) :
    overlay a [] = a ∧ overlay [] a = a ∧ overlay a a = a
      ∧ overlay (overlay a b) b = overlay a b
      ∧ ((¬ ∃ path s t x, at? a path = some (.table s) ∧ at? c path = some (.table t)
            ∧ at? b path = some x ∧ x.isTable = false) →
          overlay (overlay a b) c = overlay a (overlay b c)) := by
  have hself : ∀ {t : Table}, (Value.table t).Keyed → overlay t t = t := by
    intro t ht
    have h := Value.overlay_self ht
    rw [Value.overlay_table] at h
    exact Value.table.inj h
  have hgroup : ∀ {t : Table}, (Value.table t).Keyed →
      Value.Regroups (.table a) (.table b) (.table t) →
      overlay (overlay a b) t = overlay a (overlay b t) := by
    intro t ht h
    have h := Value.overlay_overlay ha hb ht h
    simp only [Value.overlay_table] at h
    exact Value.table.inj h
  refine ⟨overlay_nil a, nil_overlay ha.nodup, hself ha, ?_, hgroup hc⟩
  -- The layer over itself is grouped first; no path leads to two values in it.
  have hsame : Value.Regroups (.table a) (.table b) (.table b) := by
    rintro ⟨path, s, t, x, -, ht, hx, hplain⟩
    cases ht.symm.trans hx
    cases hplain
  rw [hgroup hb hsame, hself hb]

/-- Three layers of settings with a section of each in common, one of which turns a text into a
section. -/
theorem layers_regroup_of_sections :
    let a : Table := [("shell", .table [("program", .text "sh")]), ("logging", .text "INFO")]
    let b : Table := [("logging", .text "DEBUG"), ("shell", .table [("args", .null)])]
    let c : Table := [("shell", .table [("cwd", .text "/"), ("program", .text "bash")]),
      ("logging", .table [("level", .text "DEBUG")])]
    (Value.table a).Keyed ∧ (Value.table b).Keyed ∧ (Value.table c).Keyed
      ∧ overlay (overlay a b) c = overlay a (overlay b c)
      ∧ overlay (overlay a b) b = overlay a b := by
  intro a b c
  have ha : (Value.table a).Keyed := by decide
  have hb : (Value.table b).Keyed := by decide
  have hc : (Value.table c).Keyed := by decide
  obtain ⟨-, -, -, htwice, hgroup⟩ := layers_regroup ha hb hc
  refine ⟨ha, hb, hc, hgroup ?_, htwice⟩
  rintro ⟨path, s, t, x, hs, -, hx, hplain⟩
  -- Only these two paths lead to tables in the lowest layer.
  have hpath : path = [] ∨ path = ["shell"] := by
    match path with
    | [] => exact .inl rfl
    | key :: path =>
      obtain ⟨v, hv, hs⟩ := Option.bind_eq_some_iff.mp hs
      have hmem := mem_of_get? hv
      simp only [a, List.mem_cons, Prod.mk.injEq, List.not_mem_nil, or_false] at hmem
      obtain ⟨rfl, rfl⟩ | ⟨-, rfl⟩ := hmem
      · cases path with
        | nil => exact .inr rfl
        | cons next path =>
          obtain ⟨v, hv, hs⟩ := Option.bind_eq_some_iff.mp hs
          obtain ⟨-, rfl⟩ : next = "program" ∧ v = .text "sh" := by simpa using mem_of_get? hv
          cases path <;> cases hs
      · cases path <;> cases hs
  obtain rfl | rfl := hpath
  · cases hx
    cases hplain
  · cases hx
    cases hplain

/-- A text between two sections keeps the lower one away from the higher one only if it is laid over
the lower one first. -/
example :
    let a : Table := [("shell", .table [("program", .text "sh")])]
    let b : Table := [("shell", .text "bash")]
    let c : Table := [("shell", .table [("cwd", .null)])]
    overlay (overlay a b) c = c
      ∧ overlay a (overlay b c) = [("shell", .table [("program", .text "sh"), ("cwd", .null)])] :=
  ⟨rfl, rfl⟩

end Table

end QuickLaunch
