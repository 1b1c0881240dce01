import MusicPlayer.Relational.View

/-!
# Foreign keys

Every row of a table names a row of another one. An INSERT into the referencing table checks this,
an INSERT into the other one and an UPDATE that keeps the keys do not touch it, and a DELETE is
passed on to the rows that would be left without their owner.
-/
namespace Relational

variable {ρ τ κ : Type} {child : Table ρ} {fk : ρ → κ} {parent : Table τ} {key : τ → κ}

namespace Table

/-- A DELETE that selects no row. -/
theorem delete_of_unselected {selects : ρ → Bool} (none : ∀ row ∈ child.rows, selects row = false) :
    child.delete selects = child := by
  have all : child.rows.filter (fun row => !selects row) = child.rows :=
    List.filter_eq_self.mpr fun row member => by simp [none row member]
  simp [delete, all]

/-- A key selects one row. -/
theorem Unique.filter_key [DecidableEq κ] {key : ρ → κ} (unique : child.Unique key) {row : ρ}
    (member : row ∈ child.rows) : child.rows.filter (key · == key row) = [row] := by
  obtain ⟨before, later, split⟩ := List.append_of_mem member
  rw [Table.Unique, split, List.map_append, List.map_cons, List.nodup_append] at unique
  obtain ⟨-, after, apart⟩ := unique
  have none : ∀ other ∈ before, ¬(key other == key row) = true := by
    intro other there same
    exact apart _ (List.mem_map_of_mem there) _ List.mem_cons_self (by simpa using same)
  have nothing : ∀ other ∈ later, ¬(key other == key row) = true := by
    intro other there same
    have again : key row ∈ later.map key := by
      rw [← beq_iff_eq.mp same]
      exact List.mem_map_of_mem there
    exact (List.nodup_cons.mp after).1 again
  rw [split, List.filter_append, List.filter_cons_of_pos (by simp),
    List.filter_eq_nil_iff.mpr none, List.filter_eq_nil_iff.mpr nothing, List.nil_append]

theorem WellFormed.delete {key : ρ → Int32} (wf : WellFormed key child) (selects : ρ → Bool) :
    WellFormed key (child.delete selects) :=
  ⟨wf.unique.delete selects, fun row member => wf.below row (List.mem_of_mem_filter member)⟩

end Table

/-- `FOREIGN KEY (fk) REFERENCES parent(key)`. -/
def References (child : Table ρ) (fk : ρ → κ) (parent : Table τ) (key : τ → κ) : Prop :=
  ∀ row ∈ child.rows, ∃ owner ∈ parent.rows, key owner = fk row

namespace References

theorem of_empty (empty : child.rows = []) : References child fk parent key := by
  simp [References, empty]

/-- What is done to the owners, if none of them goes and none gets another key. -/
theorem parent_grows (references : References child fk parent key) {after : Table τ}
    (keeps : ∀ owner ∈ parent.rows, ∃ later ∈ after.rows, key later = key owner) :
    References child fk after key := by
  intro row member
  obtain ⟨owner, present, owns⟩ := references row member
  obtain ⟨later, there, same⟩ := keeps owner present
  exact ⟨later, there, same.trans owns⟩

theorem insert_parent (references : References child fk parent key) {build : Int32 → τ}
    {id : Int32} {after : Table τ} (inserted : parent.insert build = some (id, after)) :
    References child fk after key := by
  refine references.parent_grows fun owner present => ⟨owner, ?_, rfl⟩
  rw [(Table.insert_eq_some inserted).2.1]
  exact List.mem_append_left _ present

theorem update_parent (references : References child fk parent key) {selects : τ → Bool}
    {assign : τ → τ} (keeps : ∀ owner, key (assign owner) = key owner) :
    References child fk (parent.update selects assign) key := by
  refine references.parent_grows fun owner present => ?_
  refine ⟨if selects owner then assign owner else owner, List.mem_map_of_mem present, ?_⟩
  split
  · exact keeps owner
  · rfl

/-- The new row names an owner that is there. -/
theorem insert_child (references : References child fk parent key) {build : Int32 → ρ}
    {id : Int32} {after : Table ρ} (inserted : child.insert build = some (id, after))
    (owned : ∃ owner ∈ parent.rows, key owner = fk (build id)) :
    References after fk parent key := by
  intro row member
  rw [(Table.insert_eq_some inserted).2.1, List.mem_append, List.mem_singleton] at member
  rcases member with old | rfl
  · exact references row old
  · exact owned

theorem update_child (references : References child fk parent key) {selects : ρ → Bool}
    {assign : ρ → ρ} (keeps : ∀ row, fk (assign row) = fk row) :
    References (child.update selects assign) fk parent key := by
  intro row member
  obtain ⟨old, present, rfl⟩ := List.mem_map.mp member
  have owned := references old present
  split
  · rwa [keeps]
  · exact owned

theorem delete_child (references : References child fk parent key) (selects : ρ → Bool) :
    References (child.delete selects) fk parent key :=
  fun row member => references row (List.mem_of_mem_filter member)

/-- `ON DELETE CASCADE`: the rows go whose owner goes. -/
theorem cascade (references : References child fk parent key) {selects : τ → Bool}
    {orphans : ρ → Bool}
    (passed : ∀ row ∈ child.rows, ∀ owner ∈ parent.rows, key owner = fk row → selects owner →
      orphans row) : References (child.delete orphans) fk (parent.delete selects) key := by
  intro row left
  obtain ⟨member, kept⟩ := List.mem_filter.mp left
  obtain ⟨owner, present, owns⟩ := references row member
  refine ⟨owner, List.mem_filter.mpr ⟨present, ?_⟩, owns⟩
  by_contra selected
  have orphan := passed row member owner present owns (by simpa using selected)
  simp [orphan] at kept

/-- A key without an owner has no rows. -/
theorem unowned [BEq κ] [LawfulBEq κ] (references : References child fk parent key) {k : κ}
    (nobody : ∀ owner ∈ parent.rows, key owner ≠ k) :
    ∀ row ∈ child.rows, (fk row == k) = false := by
  intro row member
  obtain ⟨owner, present, owns⟩ := references row member
  rw [← owns]
  exact beq_false_of_ne (nobody owner present)

end References

end Relational
