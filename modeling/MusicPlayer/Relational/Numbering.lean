import MusicPlayer.Relational.View
import Mathlib.Data.Int.Interval

/-!
# Numbered tables

The values of an `INT AUTO_INCREMENT PRIMARY KEY` are unique and start at 1, so that there are
fewer rows than a signed 32-bit count can hold.
-/
namespace Relational.Table

variable {ρ : Type}

structure Numbered (key : ρ → Int32) (table : Table ρ) : Prop where
  unique : table.Unique key
  positive : ∀ row ∈ table.rows, 0 < (key row).toInt

theorem Numbered.length_lt {key : ρ → Int32} {table : Table ρ} (numbered : Numbered key table) :
    table.rows.length < 2 ^ 31 := by
  have distinct : (table.rows.map fun row => (key row).toInt).Nodup := by
    have injective := numbered.unique.map fun a b : Int32 => Int32.toInt_inj.mp
    rwa [List.map_map] at injective
  have within : (table.rows.map fun row => (key row).toInt).toFinset ⊆
      Finset.Icc 1 (2 ^ 31 - 1) := by
    intro n member
    obtain ⟨row, present, rfl⟩ := List.mem_map.mp (List.mem_toFinset.mp member)
    have positive := numbered.positive row present
    have bounded := Int32.toInt_lt (key row)
    rw [Finset.mem_Icc]
    omega
  have few := Finset.card_le_card within
  rw [List.toFinset_card_of_nodup distinct, List.length_map, Int.card_Icc] at few
  omega

/-- A count of rows survives the conversion to `int`. -/
theorem Numbered.toInt_countP {key : ρ → Int32} {table : Table ρ} (numbered : Numbered key table)
    (selects : ρ → Bool) :
    (Int32.ofNat (table.rows.countP selects)).toInt = table.rows.countP selects :=
  Int32.toInt_ofNat_of_lt (lt_of_le_of_lt List.countP_le_length numbered.length_lt)

theorem Numbered.delete {key : ρ → Int32} {table : Table ρ} (numbered : Numbered key table)
    (selects : ρ → Bool) : Numbered key (table.delete selects) :=
  ⟨numbered.unique.delete selects, fun row left =>
    numbered.positive row (List.mem_filter.mp left).1⟩

/-- A row that is counted is one of the rows that are. -/
theorem Unique.countP_delete {κ : Type} [DecidableEq κ] {key : ρ → κ} {table : Table ρ}
    (unique : table.Unique key) {row : ρ} (member : row ∈ table.rows) {p : ρ → Bool}
    (holds : p row = true) :
    table.rows.countP p = (table.delete (key · == key row)).rows.countP p + 1 := by
  have alone : table.rows.filter (key · == key row) = [row] := by
    refine List.perm_singleton.mp ((List.perm_ext_iff_of_nodup
      (List.Nodup.filter _ (List.Nodup.of_map _ unique)) (List.nodup_singleton row)).mpr ?_)
    intro other
    rw [List.mem_filter, beq_iff_eq, List.mem_singleton]
    constructor
    · rintro ⟨present, same⟩
      exact unique.eq_of_key present member same
    · rintro rfl
      exact ⟨member, rfl⟩
  rw [List.countP_eq_countP_filter_add table.rows p (key · == key row), alone,
    List.countP_singleton, if_pos holds, Nat.add_comm]
  rfl

/-- A table whose keys have all been given out by its counter. -/
structure Serial (key : ρ → Int32) (table : Table ρ) : Prop extends WellFormed key table where
  positive : ∀ row ∈ table.rows, 0 < (key row).toInt
  started : 0 < table.autoInc

namespace Serial

variable {key : ρ → Int32} {table : Table ρ}

theorem numbered (serial : Serial key table) : Numbered key table :=
  ⟨serial.unique, serial.positive⟩

theorem of_rows_nil (empty : table.rows = []) (started : 0 < table.autoInc) : Serial key table := by
  refine ⟨⟨?_, ?_⟩, ?_, started⟩
  · simp [Unique, empty]
  · simp [empty]
  · simp [empty]

theorem insert (serial : Serial key table) {build : Int32 → ρ} {id : Int32} {after : Table ρ}
    (keyed : key (build id) = id) (inserted : table.insert build = some (id, after)) :
    Serial key after := by
  obtain ⟨next, rows, counter⟩ := insert_eq_some inserted
  refine ⟨serial.toWellFormed.insert keyed inserted, ?_, ?_⟩
  · intro row member
    rw [rows, List.mem_append, List.mem_singleton] at member
    rcases member with old | rfl
    · exact serial.positive row old
    · have started := serial.started
      rw [keyed, next]
      omega
  · rw [counter]
    exact Nat.succ_pos _

theorem delete (serial : Serial key table) (selects : ρ → Bool) :
    Serial key (table.delete selects) := by
  have member {row : ρ} (left : row ∈ (table.delete selects).rows) : row ∈ table.rows :=
    List.mem_of_mem_filter left
  constructor
  · exact ⟨serial.unique.delete selects, fun row left => serial.below row (member left)⟩
  · exact fun row left => serial.positive row (member left)
  · exact serial.started

end Serial

end Relational.Table
