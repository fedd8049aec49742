import QuickLaunch.Document.Value

/-!
# Laying one document over another

What a key leads to in the upper table counts; where both tables have a table, the two are laid over
each other in the same way. Keys of the lower table keep their places, new ones come behind them.

* `Table.get?_overlay_of_not_mem`: a key that the upper table does not have keeps its value;
* `Table.overlay_nil`: an empty upper table changes nothing.
-/

namespace QuickLaunch

mutual

/-- A value laid over another one. -/
def Value.overlay (lower : Value) : Value → Value
  | .table upper =>
    match lower with
    | .table entries => .table (Table.overlay entries upper)
    | _ => .table upper
  | v => v

/-- A table laid over another one. -/
def Table.overlay (lower : Table) : List (String × Value) → Table
  | [] => lower
  | (key, v) :: rest =>
    Table.overlay
      (Table.set lower key (match Table.get? lower key with
        | some w => Value.overlay w v
        | none => v))
      rest

end

namespace Table

/-! ## Laws -/

theorem overlay_nil (lower : Table) : overlay lower [] = lower := by
  rw [overlay]

/-- A key that the upper table does not have keeps its value. -/
theorem get?_overlay_of_not_mem (lower upper : Table) {key : String} (h : key ∉ keys upper) :
    get? (overlay lower upper) key = get? lower key := by
  induction upper generalizing lower with
  | nil => rw [overlay_nil]
  | cons e rest ih =>
    obtain ⟨k, v⟩ := e
    simp only [keys, List.map_cons, List.mem_cons, not_or] at h
    rw [overlay, ih _ h.2, get?_set_ne _ _ h.1]

end Table

end QuickLaunch
