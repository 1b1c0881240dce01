import Mathlib.Algebra.GroupWithZero.Nat
import Mathlib.Data.List.Nodup
import Mathlib.Data.List.Sort

/-!
# Tables with an auto-increment key

A table is its list of rows and the counter of an `INT AUTO_INCREMENT PRIMARY KEY`. The
row type is arbitrary; `key` reads the primary key of a row.
-/
namespace Relational

structure Table (ρ : Type) where
  rows : List ρ := []
  autoInc : Nat := 1

namespace Table

variable {ρ : Type}

/-- Append a row under the next key. A counter past the range of `INT` is refused. -/
def insert (table : Table ρ) (build : Int32 → ρ) : Option (Int32 × Table ρ) :=
  if table.autoInc < 2 ^ 31 then
    let id := Int32.ofNat table.autoInc
    some (id, { rows := table.rows ++ [build id], autoInc := table.autoInc + 1 })
  else none

def update (table : Table ρ) (selects : ρ → Bool) (assign : ρ → ρ) : Table ρ :=
  { table with rows := table.rows.map fun row => if selects row then assign row else row }

/-- The rows an update really changes, which is what `executeUpdate` reports. -/
def changedRows [DecidableEq ρ] (table : Table ρ) (selects : ρ → Bool) (assign : ρ → ρ) : Nat :=
  table.rows.countP fun row => selects row && decide (assign row ≠ row)

def delete (table : Table ρ) (selects : ρ → Bool) : Table ρ :=
  { table with rows := table.rows.filter fun row => !selects row }

/-- The same table with fewer columns. -/
def map {τ : Type} (f : ρ → τ) (table : Table ρ) : Table τ := ⟨table.rows.map f, table.autoInc⟩

/-- A UNIQUE key: no two rows share it. -/
def Unique {κ : Type} (key : ρ → κ) (table : Table ρ) : Prop := (table.rows.map key).Nodup

/-- Primary keys are unique and below the counter, so that the next one is fresh. -/
structure WellFormed (key : ρ → Int32) (table : Table ρ) : Prop where
  unique : table.Unique key
  below : ∀ row ∈ table.rows, (key row).toInt < table.autoInc

theorem insert_eq_some {table : Table ρ} {build : Int32 → ρ} {id : Int32} {after : Table ρ}
    (inserted : table.insert build = some (id, after)) :
    id.toInt = table.autoInc ∧ after.rows = table.rows ++ [build id] ∧
      after.autoInc = table.autoInc + 1 := by
  unfold insert at inserted
  split at inserted
  next fits =>
    simp only [Option.some.injEq, Prod.mk.injEq] at inserted
    obtain ⟨rfl, rfl⟩ := inserted
    exact ⟨Int32.toInt_ofNat_of_lt fits, rfl, rfl⟩
  · cases inserted

theorem insert_map {τ : Type} (f : ρ → τ) {table : Table ρ} {build : Int32 → ρ} {id : Int32}
    {after : Table ρ} (inserted : table.insert build = some (id, after)) :
    (table.map f).insert (fun id => f (build id)) = some (id, after.map f) := by
  unfold insert at inserted
  split at inserted
  next fits =>
    simp only [Option.some.injEq, Prod.mk.injEq] at inserted
    obtain ⟨rfl, rfl⟩ := inserted
    have room : (table.map f).autoInc < 2 ^ 31 := fits
    rw [insert, if_pos room]
    simp [map]
  · cases inserted

/-- Columns that an update does not touch. -/
theorem map_update_of_keeps {τ : Type} (f : ρ → τ) (table : Table ρ) {selects : ρ → Bool}
    {assign : ρ → ρ} (keeps : ∀ row, f (assign row) = f row) :
    (table.update selects assign).map f = table.map f := by
  simp only [map, update, List.map_map, Table.mk.injEq, and_true]
  refine List.map_congr_left fun row _ => ?_
  simp only [Function.comp_apply]
  split
  · exact keeps row
  · rfl

theorem map_update {τ : Type} (f : ρ → τ) (table : Table ρ) {selects : ρ → Bool}
    {assign : ρ → ρ} {selects' : τ → Bool} {assign' : τ → τ}
    (selected : ∀ row, selects' (f row) = selects row)
    (assigned : ∀ row, f (assign row) = assign' (f row)) :
    (table.update selects assign).map f = (table.map f).update selects' assign' := by
  simp only [map, update, List.map_map, Table.mk.injEq, and_true]
  refine List.map_congr_left fun row _ => ?_
  simp only [Function.comp_apply, selected]
  split
  · exact assigned row
  · rfl

namespace Unique

variable {κ : Type} {key : ρ → κ} {table : Table ρ}

theorem insert (unique : table.Unique key) {build : Int32 → ρ} {id : Int32} {after : Table ρ}
    (inserted : table.insert build = some (id, after))
    (free : ∀ row ∈ table.rows, key row ≠ key (build id)) : after.Unique key := by
  obtain ⟨-, rows, -⟩ := insert_eq_some inserted
  rw [Unique, rows, List.map_append, List.nodup_append]
  refine ⟨unique, by simp, ?_⟩
  intro a old b new
  obtain ⟨row, member, rfl⟩ := List.mem_map.mp old
  simp only [List.map_cons, List.map_nil, List.mem_singleton] at new
  rw [new]
  exact free row member

theorem update (unique : table.Unique key) {selects : ρ → Bool} {assign : ρ → ρ}
    (keeps : ∀ row, key (assign row) = key row) : (table.update selects assign).Unique key := by
  have same : (table.update selects assign).rows.map key = table.rows.map key :=
    congrArg Table.rows (map_update_of_keeps key table keeps)
  rw [Unique, same]
  exact unique

/-- A key names at most one row. -/
theorem eq_of_key (unique : table.Unique key) {a b : ρ} (ha : a ∈ table.rows)
    (hb : b ∈ table.rows) (same : key a = key b) : a = b :=
  List.inj_on_of_nodup_map unique ha hb same

end Unique

namespace WellFormed

variable {key : ρ → Int32} {table : Table ρ}

theorem empty : WellFormed key ({} : Table ρ) := ⟨List.nodup_nil, by simp⟩

/-- The key of a fresh row is not the key of any row before it. -/
theorem fresh (wf : WellFormed key table) {id : Int32} (next : id.toInt = table.autoInc) :
    ∀ row ∈ table.rows, key row ≠ id := by
  intro row member equal
  have small := wf.below row member
  rw [equal, next] at small
  exact absurd small (lt_irrefl _)

theorem insert (wf : WellFormed key table) {build : Int32 → ρ} {id : Int32} {after : Table ρ}
    (keyed : key (build id) = id) (inserted : table.insert build = some (id, after)) :
    WellFormed key after := by
  obtain ⟨next, rows, counter⟩ := insert_eq_some inserted
  refine ⟨wf.unique.insert inserted ?_, ?_⟩
  · rw [keyed]
    exact wf.fresh next
  · intro row member
    rw [rows, List.mem_append, List.mem_singleton] at member
    rw [counter]
    rcases member with old | rfl
    · have small := wf.below row old
      omega
    · rw [keyed, next]
      omega

theorem update (wf : WellFormed key table) {selects : ρ → Bool} {assign : ρ → ρ}
    (keeps : ∀ row, key (assign row) = key row) :
    WellFormed key (table.update selects assign) := by
  refine ⟨wf.unique.update keeps, ?_⟩
  intro row member
  simp only [Table.update, List.mem_map] at member
  obtain ⟨old, present, rfl⟩ := member
  split
  · rw [keeps]
    exact wf.below old present
  · exact wf.below old present

end WellFormed

end Table

section Rows

variable {ρ τ : Type} {R : ρ → τ → Prop} {before : List ρ} {after : List τ}

/-- Row by row, every row has become another one. -/
theorem exists_after (rows : List.Forall₂ R before after) {old : ρ} (member : old ∈ before) :
    ∃ new ∈ after, R old new := by
  induction rows with
  | nil => cases member
  | cons first rest ih =>
    rcases List.mem_cons.mp member with rfl | later
    · exact ⟨_, List.mem_cons_self, first⟩
    · obtain ⟨new, present, related⟩ := ih later
      exact ⟨new, List.mem_cons_of_mem _ present, related⟩

theorem exists_before (rows : List.Forall₂ R before after) {new : τ} (member : new ∈ after) :
    ∃ old ∈ before, R old new := exists_after rows.flip member

theorem eq_of_rows {R : ρ → ρ → Prop} {before after : List ρ} (rows : List.Forall₂ R before after)
    (same : ∀ old ∈ before, ∀ new, R old new → new = old) : after = before := by
  induction rows with
  | nil => rfl
  | cons first rest ih =>
    rw [same _ List.mem_cons_self _ first]
    rw [ih fun old member => same old (List.mem_cons_of_mem _ member)]

end Rows

section Filter

variable {ρ : Type} {le : ρ → ρ → Prop} [DecidableRel le] [IsTrans ρ le]

theorem filter_orderedInsert (p : ρ → Bool) (row : ρ) {rows : List ρ}
    (sorted : rows.Pairwise le) : (rows.orderedInsert le row).filter p =
      if p row = true then (rows.filter p).orderedInsert le row else rows.filter p := by
  -- Where the row goes is the same before and after the selection.
  induction rows with
  | nil => by_cases selected : p row = true <;> simp [selected]
  | cons first rest ih =>
    obtain ⟨least, sorted⟩ := List.pairwise_cons.mp sorted
    by_cases here : le row first
    · rw [List.orderedInsert_cons_of_le le rest here, List.filter_cons]
      split
      · -- The row is before all others, so before those that are left.
        have before : ∀ other ∈ (first :: rest).filter p, le row other := by
          intro other member
          rcases List.mem_cons.mp (List.mem_filter.mp member).1 with rfl | later
          · exact here
          · exact IsTrans.trans _ _ _ here (least other later)
        cases left : (first :: rest).filter p with
        | nil => rfl
        | cons head tail =>
          have first : le row head := before head (by rw [left]; exact List.mem_cons_self)
          rw [List.orderedInsert_cons_of_le le tail first]
      · rfl
    · rw [List.orderedInsert_of_not_le le rest here, List.filter_cons, ih sorted]
      by_cases selected : p first = true
      · simp only [selected, if_true, List.filter_cons]
        split
        · rw [List.orderedInsert_of_not_le le _ here]
        · rfl
      · simp only [selected, Bool.false_eq_true, if_false, List.filter_cons]

/-- Sorting and selecting commute. -/
theorem filter_insertionSort [Std.Total le] (p : ρ → Bool) (rows : List ρ) :
    (rows.insertionSort le).filter p = (rows.filter p).insertionSort le := by
  induction rows with
  | nil => rfl
  | cons row rest ih =>
    rw [List.insertionSort_cons, filter_orderedInsert p row (List.pairwise_insertionSort le rest),
      List.filter_cons, ih]
    split
    · rw [List.insertionSort_cons]
    · rfl

end Filter

/-- The order in which an unordered query meets the rows: any order, given by ranks. -/
def scan {ρ : Type} (rank : ρ → Nat) (rows : List ρ) : List ρ :=
  rows.insertionSort fun a b => rank a ≤ rank b

/-- `ORDER BY measure DESC`: rows with equal keys keep the order they were met in. -/
def orderByDesc {ρ : Type} (measure : ρ → Int) (rows : List ρ) : List ρ :=
  rows.insertionSort fun a b => measure b ≤ measure a

theorem scan_perm {ρ : Type} (rank : ρ → Nat) (rows : List ρ) : (scan rank rows).Perm rows :=
  List.perm_insertionSort _ rows

@[simp] theorem mem_scan {ρ : Type} {rank : ρ → Nat} {rows : List ρ} {row : ρ} :
    row ∈ scan rank rows ↔ row ∈ rows :=
  (scan_perm rank rows).mem_iff

/-- The rows left out of a selection do not matter for the order of the others. -/
theorem filter_scan {ρ : Type} (rank : ρ → Nat) (p : ρ → Bool) (rows : List ρ) :
    (scan rank rows).filter p = scan rank (rows.filter p) :=
  have : IsTrans ρ fun a b => rank a ≤ rank b := ⟨fun _ _ _ => le_trans⟩
  have : Std.Total fun a b : ρ => rank a ≤ rank b := ⟨fun a b => le_total (rank a) (rank b)⟩
  filter_insertionSort p rows

theorem orderByDesc_perm {ρ : Type} (measure : ρ → Int) (rows : List ρ) :
    (orderByDesc measure rows).Perm rows :=
  List.perm_insertionSort _ rows

end Relational
