import MusicPlayer.Properties.HistoryPages
import MusicPlayer.Properties.LostPlay

/-!
# Replays and recency

What the reports by time should say of a song that is played again, and what they do say. The
UPDATE of a replay sets `song_count` and nothing else, and `played_at` has no `ON UPDATE` clause.
So a record keeps the time of its first play.
-/
namespace MusicPlayer

open Resumption Program Relational

/-- The record of a play at the time `t`, to all methods that go by time. -/
structure RecentAt (sys : System) (w : World) (t : Timestamp) (record : PlayHistoryRow) : Prop where
  stamped : record.playedAt = t
  /-- Without memory for `limit` rows, `getUserPlayHistory` throws. -/
  newest : ∀ env : Env, env.Faultless → ∀ limit offset : Int32, 0 ≤ limit.toInt →
    0 ≤ offset.toInt → env.hasMemory limit.toInt.toNat = true → ∃ rows : List PlayHistoryRow,
      runProg sys env (PlayHistoryDAO.getUserPlayHistory sys record.userId limit offset) w =
        (.ok (rows.map (·.toPlayHistory sys)), w) ∧
      (∀ row ∈ rows, row.playedAt ≤ record.playedAt) ∧
        (offset = 0 → (w.db.playHistory.rows.length : Int) ≤ limit.toInt → record ∈ rows)
  /-- The count would be one less without the record. -/
  counted : ∀ env : Env, env.Faultless → ∀ days : Int32, 1 ≤ days.toInt → t ≤ env.dbNow →
    env.dbNow ≤ t + days.toInt * 86400 → ∃ count without : Int32,
      (runProg sys env (PlayHistoryDAO.getUserRecentPlayCount record.userId days) w).1 =
        .ok count ∧
      (runProg sys env (PlayHistoryDAO.getUserRecentPlayCount record.userId days)
        { w with db := { w.db with
          playHistory := w.db.playHistory.delete (·.id == record.id) } }).1 = .ok without ∧
      count.toInt = without.toInt + 1

/-- The user has the song in the history, and every record of it makes it recent. -/
def MadeRecent (sys : System) (w : World) (t : Timestamp) (history : PlayHistory) : Prop :=
  w.db.recordsOf sys history.userId history.songId history.songWhere ≠ [] ∧
    ∀ record ∈ w.db.recordsOf sys history.userId history.songId history.songWhere,
      RecentAt sys w t record

/-- The song is in the history with the time `t`. -/
def StampedAt (sys : System) (w : World) (t : Timestamp) (history : PlayHistory) : Prop :=
  w.db.recordsOf sys history.userId history.songId history.songWhere ≠ [] ∧
    ∀ record ∈ w.db.recordsOf sys history.userId history.songId history.songWhere,
      record.playedAt = t

/-! ### What a play keeps -/

/-- A record without its count. -/
def PlayHistoryRow.uncounted (row : PlayHistoryRow) : PlayHistoryRow := { row with songCount := 0 }

section Replay

variable {sys : System} {env : Env} {w : World} {history : PlayHistory} {t : Timestamp}

/-- A play changes nothing but counts, whatever happens to its calls. -/
theorem addPlayHistory_keeps (sys : System) (env : Env) (w : World) (history : PlayHistory) :
    (runProg sys env (PlayHistoryDAO.addPlayHistory history) w).2.db.playHistory.map
      (·.uncounted) = w.db.playHistory.map (·.uncounted) := by
  refine (PlayHistoryDAO.addPlayHistory_isMethod history).keeps sys env
    (fun db => db.playHistory.map (·.uncounted) = w.db.playHistory.map (·.uncounted)) ?_ rfl
  rintro s conn rank before reply after (rfl | ⟨songCount, id, rfl⟩ | ⟨songPic, rfl⟩) same executed
  · cases executed
    exact same
  · cases executed
    refine Eq.trans ?_ same
    exact Table.map_update_of_keeps _ before.playHistory fun row => rfl
  -- The INSERT is always refused.
  · rw [insertPlayHistory_refused] at executed
    cases executed

theorem map_recordsOf (db : Db) (userId : Int32) (songId songWhere : String) :
    (db.recordsOf sys userId songId songWhere).map (·.uncounted) =
      (db.playHistory.map (·.uncounted)).rows.filter fun row => row.userId == userId &&
        decide (SameSong sys row.songId row.songWhere.text songId songWhere) := by
  rw [Table.map, List.filter_map]
  rfl

/-- The times of the records are those before the play. -/
theorem stampedAt_after :
    StampedAt sys (runProg sys env (PlayHistoryDAO.addPlayHistory history) w).2 t history ↔
      StampedAt sys w t history := by
  have times (w : World) : StampedAt sys w t history ↔
      (w.db.recordsOf sys history.userId history.songId history.songWhere).map (·.uncounted) ≠ [] ∧
        ∀ record ∈ (w.db.recordsOf sys history.userId history.songId history.songWhere).map
          (·.uncounted), record.playedAt = t := by
    rw [List.forall_mem_map, ne_eq, List.map_eq_nil_iff]
    rfl
  rw [times, times, map_recordsOf, map_recordsOf, addPlayHistory_keeps]

/-- A record with the latest time of all makes the song recent. -/
theorem recentAt_of_stamped (numbered : w.db.playHistory.Numbered (·.id))
    (latest : ∀ row ∈ w.db.playHistory.rows, row.playedAt ≤ t) {record : PlayHistoryRow}
    (member : record ∈ w.db.playHistory.rows) (stamped : record.playedAt = t) :
    RecentAt sys w t record := by
  refine ⟨stamped, ?_, ?_⟩
  · -- The pages: no record is newer, and one page that holds all has this one.
    intro env faultless limit offset counts starts room
    refine ⟨_, (run_historyPage faultless counts starts).trans (by rw [if_pos room]), ?_, ?_⟩
    · intro row present
      have ordered := List.mem_of_mem_drop (List.mem_of_mem_take present)
      have stored := historyOrder_orderedBy.perm.mem_iff.mp ordered
      rw [stamped]
      exact latest row (List.mem_filter.mp stored).1
    · rintro rfl all
      have few : (w.db.recordsOfUser record.userId).length ≤ w.db.playHistory.rows.length :=
        List.length_filter_le ..
      have whole : (historyOrder env w record.userId).length ≤ limit.toInt.toNat := by
        rw [historyOrder_orderedBy.perm.length_eq]
        omega
      rw [show (0 : Int32).toInt.toNat = 0 from rfl, List.drop_zero, List.take_of_length_le whole]
      refine historyOrder_orderedBy.perm.mem_iff.mpr (List.mem_filter.mpr ⟨member, ?_⟩)
      exact beq_self_eq_true _
  · -- The count: without this record it is one less.
    intro env faultless days _ after before
    obtain ⟨k, connected⟩ := faultless.acquired 0
    refine ⟨_, _, congrArg Prod.fst (PlayHistoryDAO.run_getUserRecentPlayCount connected _ _),
      congrArg Prod.fst (PlayHistoryDAO.run_getUserRecentPlayCount connected _ _), ?_⟩
    rw [if_pos (faultless.quietFrom _ _), if_pos (faultless.quietFrom _ _),
      numbered.toInt_countP, (numbered.delete _).toInt_countP]
    have within : (record.userId == record.userId &&
        decide (env.dbNow - days.toInt * 86400 ≤ record.playedAt)) = true := by
      rw [beq_self_eq_true, Bool.true_and, decide_eq_true_eq, stamped]
      exact Int.sub_right_le_of_le_add before
    exact_mod_cast numbered.unique.countP_delete member within

/-- After a play every record is one of before, but for its count. -/
theorem exists_uncounted {row : PlayHistoryRow} (member : row ∈ (runProg sys env
    (PlayHistoryDAO.addPlayHistory history) w).2.db.playHistory.rows) :
    ∃ old ∈ w.db.playHistory.rows, old.uncounted = row.uncounted := by
  have present : row.uncounted ∈ ((runProg sys env (PlayHistoryDAO.addPlayHistory history)
      w).2.db.playHistory.map (·.uncounted)).rows := List.mem_map.mpr ⟨row, member, rfl⟩
  rw [addPlayHistory_keeps] at present
  exact List.mem_map.mp present

/-- A play keeps the ids. -/
theorem numbered_after (numbered : w.db.playHistory.Numbered (·.id)) :
    (runProg sys env (PlayHistoryDAO.addPlayHistory history) w).2.db.playHistory.Numbered
      (·.id) := by
  have ids (table : Table PlayHistoryRow) :
      table.rows.map (·.id) = (table.map (·.uncounted)).rows.map (·.id) := by
    rw [Table.map, List.map_map]
    rfl
  constructor
  · rw [Table.Unique, ids, addPlayHistory_keeps, ← ids]
    exact numbered.unique
  · intro row member
    obtain ⟨old, before, same⟩ := exists_uncounted member
    rw [← show old.id = row.id from congrArg (·.id) same]
    exact numbered.positive old before

end Replay

/-! ### A replay on the second day -/

section Replays

open Reference

/-- Two days after the record of the song was made. -/
def secondDay : Env := { env 0 with dbNow := 2 * 86400 }

theorem replayer_numbered : replayer.db.playHistory.Numbered (·.id) :=
  ⟨by unfold Table.Unique; decide, by decide⟩

theorem replayer_stamped : StampedAt system replayer 0 replay := by
  have only : replayer.db.recordsOf system replay.userId replay.songId replay.songWhere =
    [playedRecord] := replayer_oneRecord.only
  rw [StampedAt, only]
  exact ⟨nofun, by decide⟩

theorem secondDay_returned :
    (runProg system secondDay (PlayHistoryDAO.addPlayHistory replay) replayer).1 = .ok true := by
  decide +kernel

end Replays

end MusicPlayer
