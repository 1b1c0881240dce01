import MusicPlayer.Relational.Table

/-!
# Tables as partial maps

A table with a UNIQUE key holds at most one value under each key. An INSERT under a free key is
an update of that map, and a DELETE that selects by the key restricts it.
-/
namespace Relational.Table

variable {ρ κ ν : Type} {key : ρ → κ} {value : ρ → ν} {table : Table ρ}

theorem Unique.delete (unique : table.Unique key) (selects : ρ → Bool) :
    (table.delete selects).Unique key :=
  List.Nodup.sublist (List.filter_sublist.map key) unique

variable [DecidableEq κ]

/-- What the table holds under a key. -/
def view (key : ρ → κ) (value : ρ → ν) (table : Table ρ) (k : κ) : Option ν :=
  (table.rows.find? fun row => key row = k).map value

theorem view_eq_none {k : κ} :
    table.view key value k = none ↔ ∀ row ∈ table.rows, key row ≠ k := by
  simp only [view, Option.map_eq_none_iff, List.find?_eq_none, decide_eq_true_eq, ne_eq]

theorem view_isSome {k : κ} :
    (table.view key value k).isSome ↔ ∃ row ∈ table.rows, key row = k := by
  simp only [view, Option.isSome_map, List.find?_isSome, decide_eq_true_eq]

/-- Under a UNIQUE key there is no other value than that of the row. -/
theorem view_of_mem (unique : table.Unique key) {row : ρ} (member : row ∈ table.rows) :
    table.view key value (key row) = some (value row) := by
  unfold view
  cases found : table.rows.find? fun other => key other = key row with
  | none =>
    have other := List.find?_eq_none.mp found row member
    simp at other
  | some other =>
    have present := List.mem_of_find?_eq_some found
    have same : key other = key row := by simpa using List.find?_some found
    rw [unique.eq_of_key present member same, Option.map_some]

theorem view_of_rows_nil (empty : table.rows = []) (k : κ) : table.view key value k = none :=
  view_eq_none.mpr (by simp [empty])

/-- A row under a free key. -/
theorem view_insert {build : Int32 → ρ} {id : Int32} {after : Table ρ}
    (inserted : table.insert build = some (id, after))
    (free : ∀ row ∈ table.rows, key row ≠ key (build id)) :
    after.view key value =
      Function.update (table.view key value) (key (build id)) (some (value (build id))) := by
  obtain ⟨-, rows, -⟩ := insert_eq_some inserted
  funext k
  unfold view
  rw [rows, List.find?_append]
  by_cases new : k = key (build id)
  · subst new
    have absent : table.rows.find? (fun row => key row = key (build id)) = none :=
      List.find?_eq_none.mpr fun row member => by simpa using free row member
    simp [absent]
  · rw [Function.update_of_ne new]
    have other : ¬key (build id) = k := fun same => new same.symm
    simp [other]

/-- The rows of some keys are deleted, and no others. -/
theorem view_delete {selects : ρ → Bool} (gone : κ → Prop) [DecidablePred gone]
    (selected : ∀ row ∈ table.rows, selects row = true ↔ gone (key row)) (k : κ) :
    (table.delete selects).view key value k = if gone k then none else table.view key value k := by
  split
  next dropped =>
    refine view_eq_none.mpr fun row left same => ?_
    simp only [delete, List.mem_filter, Bool.not_eq_true'] at left
    have removed : selects row = true := (selected row left.1).mpr (same ▸ dropped)
    rw [left.2] at removed
    cases removed
  next kept =>
    simp only [view, delete, ← List.head?_filter, List.filter_filter]
    congr 2
    refine List.filter_congr fun row member => ?_
    -- Rows under the key are not among the deleted.
    by_cases same : key row = k
    · have unselected : ¬selects row = true := fun removed =>
        kept (same ▸ (selected row member).mp removed)
      simp [same, unselected]
    · simp [same]

end Relational.Table
