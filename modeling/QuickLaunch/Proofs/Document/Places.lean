import QuickLaunch.Proofs.Document.Keys

/-!
# What paths lead to in a table laid over another one

A path of keys leads from a table to a value in it, through tables only. In a table that is laid
over another one, a path leads to what it leads to above, as far as there is anything above; and a
value above that is no table cuts off what lies below it (`Value.cuts`).

* `Value.at?_overlay`: what a path leads to, in terms of what it leads to above and below;
* `Table.places_overlay`: which values that are no tables, which tables and which keys there are.
-/

namespace QuickLaunch

namespace Value

/-- What a path of keys leads to. -/
def at? : Value → List String → Option Value
  | v, [] => some v
  | .table t, key :: path => (Table.get? t key).bind fun v => at? v path
  | _, _ :: _ => none

/-- The path goes on behind a value that is no table. -/
def cuts : Value → List String → Bool
  | _, [] => false
  | .table t, key :: path => (Table.get? t key).any fun v => cuts v path
  | _, _ :: _ => true

variable {v w x : Value} {t lower upper : Table} {key : String} {path : List String}

/-! ## Paths -/

theorem at?_nil (v : Value) : v.at? [] = some v := by
  rw [at?]

theorem at?_cons (t : Table) (key : String) (path : List String) :
    (Value.table t).at? (key :: path) = (Table.get? t key).bind (·.at? path) := by
  rw [at?]

theorem at?_cons_of_plain (h : v.isTable = false) : v.at? (key :: path) = none := by
  cases v with
  | table t => cases h
  | _ => rfl

theorem cuts_cons (t : Table) (key : String) (path : List String) :
    (Value.table t).cuts (key :: path) = (Table.get? t key).any (·.cuts path) := by
  rw [cuts]

theorem cuts_cons_of_plain (h : v.isTable = false) : v.cuts (key :: path) = true := by
  cases v with
  | table t => cases h
  | _ => rfl

theorem at?_of_cuts (h : v.cuts path = true) : v.at? path = none := by
  induction path generalizing v with
  | nil => cases h
  | cons key path ih =>
    cases v with
    | table t =>
      obtain ⟨u, hu, hcuts⟩ := (Option.any_eq_true _ _).mp ((cuts_cons t key path).symm.trans h)
      rw [at?_cons, hu]
      exact ih hcuts
    | _ => rfl

/-- What cuts a path are the values that are no tables to which proper parts of it lead. -/
theorem cuts_eq_false_iff : v.cuts path = false ↔
    ∀ q, q <+: path → q ≠ path → ∀ u, v.at? q = some u → u.isTable = true := by
  induction path generalizing v with
  | nil =>
    refine ⟨fun _ q hq hne => ?_, fun _ => by rw [cuts]⟩
    exact absurd (List.prefix_nil.mp hq) hne
  | cons key path ih =>
    cases v with
    | table t =>
      rw [cuts_cons]
      constructor
      · intro h q hq hne u hu
        rcases List.prefix_cons_iff.mp hq with rfl | ⟨q, rfl, hq'⟩
        · rw [at?_nil] at hu
          cases hu
          rfl
        · rw [at?_cons] at hu
          obtain ⟨child, hchild, hu⟩ := Option.bind_eq_some_iff.mp hu
          rw [hchild] at h
          exact ih.mp h q hq' (fun he => hne (congrArg _ he)) u hu
      · intro h
        cases hchild : Table.get? t key with
        | none => rfl
        | some child =>
          refine ih.mpr fun q hq hne u hu => h (key :: q) ?_ (by simpa using hne) u ?_
          · exact List.cons_prefix_cons.mpr ⟨rfl, hq⟩
          · rw [at?_cons, hchild]
            exact hu
    | _ =>
      refine ⟨fun h => ?_, fun h => ?_⟩
      · rw [cuts_cons_of_plain rfl] at h
        cases h
      · exact absurd (h [] List.nil_prefix nofun _ (at?_nil _)) nofun

/-! ## Paths in values laid over each other -/

theorem isTable_overlay (w v : Value) : (Value.overlay w v).isTable = v.isTable := by
  cases h : w.isTable && v.isTable with
  | false => rw [overlay_of_isTable_and h]
  | true =>
    obtain ⟨hw, hv⟩ := Bool.and_eq_true_iff.mp h
    obtain ⟨lower, rfl⟩ := isTable_iff.mp hw
    obtain ⟨upper, rfl⟩ := isTable_iff.mp hv
    rw [overlay_table]
    rfl

theorem over?_none (v : Option Value) : over? none v = v := by
  cases v <;> rfl

/-- What is no table is left of a value above alone. -/
theorem over?_eq_some_iff {below : Option Value} (hx : x.isTable = false) :
    over? below (some v) = some x ↔ v = x := by
  cases below with
  | none => exact Option.some_inj
  | some w =>
    rw [over?, Option.some_inj]
    cases hv : v.isTable with
    | false => rw [overlay_of_isTable_and (by rw [hv, Bool.and_false])]
    | true =>
      constructor
      · rintro rfl
        rw [isTable_overlay, hv] at hx
        cases hx
      · rintro rfl
        rw [hv] at hx
        cases hx

theorem ite_cuts_at? (v : Value) (path : List String) :
    (if v.cuts path then none else v.at? path) = v.at? path := by
  cases h : v.cuts path with
  | true => exact (at?_of_cuts h).symm
  | false => rfl

/-- What a path leads to in a value that is laid over another one: nothing if the value above cuts
it off, and else what it leads to above over what it leads to below. -/
theorem at?_overlay (hv : v.Keyed) :
    (Value.overlay w v).at? path =
      if v.cuts path then none else over? (w.at? path) (v.at? path) := by
  induction path generalizing w v with
  | nil => rw [cuts, at?_nil, at?_nil, at?_nil]; rfl
  | cons key path ih =>
    cases hb : w.isTable && v.isTable with
    | false =>
      rw [overlay_of_isTable_and hb]
      cases hw : w.isTable with
      | false => rw [at?_cons_of_plain hw, over?_none, ite_cuts_at?]
      | true =>
        have hplain : v.isTable = false := by rwa [hw] at hb
        rw [cuts_cons_of_plain hplain, at?_cons_of_plain hplain]
        rfl
    | true =>
      obtain ⟨hw, hv'⟩ := Bool.and_eq_true_iff.mp hb
      obtain ⟨lower, rfl⟩ := isTable_iff.mp hw
      obtain ⟨upper, rfl⟩ := isTable_iff.mp hv'
      rw [overlay_table, at?_cons, at?_cons, at?_cons, cuts_cons, Table.get?_overlay hv.nodup]
      cases hu : Table.get? upper key with
      | none => rfl
      | some v =>
        cases hl : Table.get? lower key with
        | some w => exact ih (hv.get? hu)
        | none =>
          change v.at? path = if v.cuts path then none else over? none (v.at? path)
          rw [over?_none, ite_cuts_at?]

theorem Keyed.at? (hv : v.Keyed) (h : v.at? path = some x) : x.Keyed := by
  induction path generalizing v with
  | nil =>
    cases h
    exact hv
  | cons key path ih =>
    cases v with
    | table t =>
      rw [at?_cons] at h
      obtain ⟨child, hchild, hx⟩ := Option.bind_eq_some_iff.mp h
      exact ih (hv.get? hchild) hx
    | _ => cases h

/-- Where the value above has a value, it counts over the one below. -/
theorem at?_overlay_of_some (hv : v.Keyed) (h : v.at? path = some x) :
    (Value.overlay w v).at? path = over? (w.at? path) (some x) := by
  rw [at?_overlay hv, h, if_neg]
  intro hcuts
  rw [at?_of_cuts hcuts] at h
  cases h

/-- Where it has none, the value below counts, unless the one above cuts it off. -/
theorem at?_overlay_of_none (hv : v.Keyed) (h : v.at? path = none) :
    (Value.overlay w v).at? path = if v.cuts path then none else w.at? path := by
  rw [at?_overlay hv, h]
  rfl

end Value

namespace Table

/-- What a path of keys leads to. -/
def at? (t : Table) (path : List String) : Option Value :=
  (Value.table t).at? path

/-- What is where in a table that is laid over another one, at any depth. A path leads to a value
that is no table if it does so above, or if it does so below while nothing is there above and no
value above that is no table stands on the way. A table above that has no table below it is kept as
it is. Where a path leads to a table in both, the keys are those of the one below in their order,
and then the new ones of the one above in theirs. -/
theorem places_overlay (lower upper : Table) (hu : (Value.table upper).Keyed) :
    (∀ path x, x.isTable = false →
      (at? (overlay lower upper) path = some x ↔
        at? upper path = some x
          ∨ at? lower path = some x ∧ at? upper path = none
            ∧ ∀ q, q <+: path → q ≠ path → ∀ u, at? upper q = some u → u.isTable = true))
      ∧ (∀ path above, at? upper path = some (.table above) →
          (∀ below, at? lower path ≠ some (.table below)) →
          at? (overlay lower upper) path = some (.table above))
      ∧ ∀ path below above, at? lower path = some (.table below) →
          at? upper path = some (.table above) →
          ∃ merged, at? (overlay lower upper) path = some (.table merged)
            ∧ keys merged = keys below ++ (keys above).filter (· ∉ keys below) := by
  have hsome : ∀ path x, at? upper path = some x →
      at? (overlay lower upper) path = Value.over? (at? lower path) (some x) := by
    intro path x hx
    rw [at?, ← Value.overlay_table]
    exact Value.at?_overlay_of_some hu hx
  have hnone : ∀ path, at? upper path = none → at? (overlay lower upper) path =
      if (Value.table upper).cuts path then none else at? lower path := by
    intro path hx
    rw [at?, ← Value.overlay_table]
    exact Value.at?_overlay_of_none hu hx
  refine ⟨?plain, ?kept, ?merged⟩
  case plain =>
    intro path x hx
    cases ha : at? upper path with
    | some y =>
      rw [hsome path y ha, Value.over?_eq_some_iff hx]
      simp
    | none =>
      rw [hnone path ha, Option.ite_none_left_eq_some, Bool.not_eq_true, Value.cuts_eq_false_iff,
        and_comm]
      simp [at?]
  case kept =>
    intro path above ha hb
    rw [hsome path _ ha]
    cases hl : at? lower path with
    | none => rfl
    | some w =>
      have hw : w.isTable = false := by
        refine Bool.eq_false_iff.mpr fun htable => ?_
        obtain ⟨below, rfl⟩ := Value.isTable_iff.mp htable
        exact hb below hl
      rw [Value.over?, Value.overlay_of_isTable_and (by rw [hw, Bool.false_and])]
  case merged =>
    intro path below above hb ha
    refine ⟨overlay below above, ?_, keys_overlay (hu.at? ha).nodup⟩
    rw [hsome path _ ha, hb, Value.over?, Value.overlay_table]

/-- A number takes the place of a table and all that was in it, a table that of a text, a list that
of a list; what nothing lies over stays, and new keys come last. -/
theorem places_overlay_of_conflicts :
    let lower : Table := [("shell", .table [("program", .text "sh"), ("args", .list [.text "-c"])]),
      ("index", .table [("directories", .table [("own", .text "apps")])]),
      ("logging", .text "INFO")]
    let upper : Table := [("note", .null), ("logging", .table [("level", .text "DEBUG")]),
      ("shell", .table [("args", .list []), ("cwd", .text "/")]), ("index", .int 5)]
    (Value.table upper).Keyed
      ∧ at? (overlay lower upper) ["shell", "program"] = some (.text "sh")
      ∧ at? (overlay lower upper) ["shell", "args"] = some (.list [])
      ∧ at? (overlay lower upper) ["index", "directories", "own"] ≠ some (.text "apps")
      ∧ at? (overlay lower upper) ["logging"] = some (.table [("level", .text "DEBUG")])
      ∧ ∃ merged, at? (overlay lower upper) ["shell"] = some (.table merged)
        ∧ keys merged = ["program", "args", "cwd"] := by
  intro lower upper
  have hu : (Value.table upper).Keyed := by decide
  obtain ⟨hplain, hkept, hmerged⟩ := places_overlay lower upper hu
  refine ⟨hu, (hplain _ _ rfl).mpr (.inr ⟨rfl, rfl, ?_⟩), (hplain _ _ rfl).mpr (.inl rfl),
    fun h => ?_, hkept _ _ rfl nofun, hmerged ["shell"] _ _ rfl rfl⟩
  · -- Tables stand on the way to the program.
    exact Value.cuts_eq_false_iff.mp rfl
  · obtain hu | ⟨-, -, hway⟩ := (hplain _ _ rfl).mp h
    · cases hu
    · exact absurd (hway ["index"] ⟨_, rfl⟩ nofun _ rfl) nofun

end Table

end QuickLaunch
