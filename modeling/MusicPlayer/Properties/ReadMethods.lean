import MusicPlayer.Properties.MethodRuns
import MusicPlayer.Properties.DataAccess

/-!
# What the reading methods read

For each reading method the number of connector calls it makes and the value it returns when
none of them throws. Both follow the rows that its statement selects.
-/
namespace MusicPlayer

open Resumption Program Relational

/-- Without failures a method gets a connection. -/
theorem Env.Faultless.acquired {env : Env} (faultless : env.Faultless) (n : Nat) :
    ∃ k, (env.acquired n).1 = some k := by
  unfold Env.acquired
  cases first : env.connection n with
  | some k => exact ⟨k, rfl⟩
  | none => exact absurd first (faultless.connected n)

theorem Env.Faultless.quietFrom {env : Env} (faultless : env.Faultless) (n calls : Nat) :
    env.QuietFrom n calls := fun j _ => faultless.quiet (n + j)

/-- The calls of `buildFromResultSet` for a row. -/
def UserRow.cost (row : UserRow) : Nat := 8 + columnCost row.qqId + columnCost row.neteaseId

def PlaylistRow.cost (row : PlaylistRow) : Nat := 6 + columnCost row.cover

def PlaylistSongRow.cost (row : PlaylistSongRow) : Nat := 7 + columnCost row.songPic

def PlayHistoryRow.cost (row : PlayHistoryRow) : Nat := 9 + columnCost row.songPic

def PlayHistoryRow.songCost (row : PlayHistoryRow) : Nat := 5 + columnCost row.songPic

/-- The calls after a statement whose first row is taken. -/
def firstRowCalls {ρ : Type} (cost : ρ → Nat) (rows : List ρ) : Nat :=
  rows.head?.elim 0 cost + 1

/-- The calls after a statement whose rows are all fetched. -/
def allRowsCalls {ρ : Type} (cost : ρ → Nat) (rows : List ρ) : Nat :=
  (rows.map fun row => cost row + 1).sum + 1

/-! ### One row -/

/-- What the `build…FromResultSet` functions make of a row. -/
def PlaylistRow.toPlaylist (sys : System) (row : PlaylistRow) : Playlist where
  id := row.id
  userId := row.userId
  name := row.name
  cover := row.cover.getD ""
  createAt := sys.formatTimestamp row.createAt
  updateAt := sys.formatTimestamp row.updateAt

def PlaylistSongRow.toSong (sys : System) (row : PlaylistSongRow) : Song where
  id := row.id
  songId := row.songId
  name := row.songName
  singer := row.songSinger
  pic := row.songPic.getD ""
  songWhere := row.songWhere.text
  addedAt := sys.formatTimestamp row.addedAt

def PlayHistoryRow.toPlayHistory (sys : System) (row : PlayHistoryRow) : PlayHistory where
  id := row.id
  userId := row.userId
  songId := row.songId
  songName := row.songName
  songSinger := row.songSinger
  songPic := row.songPic.getD ""
  songWhere := row.songWhere.text
  songCount := row.songCount
  playedAt := sys.formatTimestamp row.playedAt

def PlayHistoryRow.toSong (row : PlayHistoryRow) : Song where
  songId := row.songId
  name := row.songName
  singer := row.songSinger
  pic := row.songPic.getD ""
  songWhere := row.songWhere.text

section Rows

variable {sys : System} {env : Env} {k : Conn} {w : World}

theorem UserDAO.buildFromResultSet_reads (row : UserRow) (n : Nat) :
    Reads sys env (UserDAO.buildFromResultSet sys ⟨some k⟩ row) n w row.cost (row.toUser sys) := by
  have calls : row.cost = columnCost row.qqId + (columnCost row.neteaseId + 1) + 7 := by
    unfold UserRow.cost
    omega
  rw [calls]
  iterate 7 refine Reads.call rfl (fun _ => rfl) ?_
  refine Reads.optional fun m => ?_
  refine Reads.call rfl (fun _ => rfl) ?_
  exact Reads.of_calls (Reads.optional fun m => Reads.ret _) (Nat.add_zero _)

theorem PlaylistDAO.buildPlaylistFromResultSet_reads (row : PlaylistRow) (n : Nat) :
    Reads sys env (PlaylistDAO.buildPlaylistFromResultSet sys ⟨some k⟩ row) n w row.cost
      (row.toPlaylist sys) := by
  have calls : row.cost = columnCost row.cover + 2 + 4 := by
    unfold PlaylistRow.cost
    omega
  rw [calls]
  iterate 4 refine Reads.call rfl (fun _ => rfl) ?_
  refine Reads.optional fun m => ?_
  iterate 2 refine Reads.call rfl (fun _ => rfl) ?_
  exact Reads.ret _

theorem PlaylistDAO.buildSongFromResultSet_reads (row : PlaylistSongRow) (n : Nat) :
    Reads sys env (PlaylistDAO.buildSongFromResultSet sys ⟨some k⟩ row) n w row.cost
      (row.toSong sys) := by
  have calls : row.cost = columnCost row.songPic + 1 + 6 := by
    unfold PlaylistSongRow.cost
    omega
  rw [calls]
  iterate 6 refine Reads.call rfl (fun _ => rfl) ?_
  refine Reads.optional fun m => ?_
  exact Reads.call rfl (fun _ => rfl) (Reads.ret _)

theorem PlayHistoryDAO.buildFromResultSet_reads (row : PlayHistoryRow) (n : Nat) :
    Reads sys env (PlayHistoryDAO.buildFromResultSet sys ⟨some k⟩ row) n w row.cost
      (row.toPlayHistory sys) := by
  have calls : row.cost = columnCost row.songPic + 3 + 6 := by
    unfold PlayHistoryRow.cost
    omega
  rw [calls]
  iterate 6 refine Reads.call rfl (fun _ => rfl) ?_
  refine Reads.optional fun m => ?_
  iterate 3 refine Reads.call rfl (fun _ => rfl) ?_
  exact Reads.ret _

theorem PlayHistoryDAO.buildSongFromResultSet_reads (row : PlayHistoryRow) (n : Nat) :
    Reads sys env (PlayHistoryDAO.buildSongFromResultSet ⟨some k⟩ row) n w row.songCost
      row.toSong := by
  have calls : row.songCost = columnCost row.songPic + 1 + 4 := by
    unfold PlayHistoryRow.songCost
    omega
  rw [calls]
  iterate 4 refine Reads.call rfl (fun _ => rfl) ?_
  refine Reads.optional fun m => ?_
  exact Reads.call rfl (fun _ => rfl) (Reads.ret _)

/-- A row that is built and returned. -/
theorem Reads.found {ρ β : Type} {build : ρ → Prog β} {cost : ρ → Nat} {item : ρ → β}
    (builds : ∀ row m, Reads sys env (build row) m w (cost row) (item row)) (row : ρ) (n : Nat) :
    Reads sys env ((build row).bind fun value => .ret (some value)) n w (cost row)
      (some (item row)) :=
  Reads.of_calls ((builds row n).bind (Reads.ret _)) (Nat.add_zero _)

end Rows

/-! ### The methods -/

section Methods

variable {sys : System} {env : Env} {k : Conn} {n : Nat} {w : World}

namespace UserDAO

theorem run_getUserById (connected : (env.acquired n).1 = some k) (id : Int32) :
    let rows := w.db.users.rows.filter (·.id == id)
    (getUserById sys id).run (exec sys env) n w =
      (.ok (if env.QuietFrom (env.acquired n).2 (firstRowCalls UserRow.cost rows + 3) then
        rows.head?.map (·.toUser sys) else none), w) := by
  intro rows
  apply Reads.method connected
  iterate 2 refine Reads.call rfl (fun _ => rfl) ?_
  refine Reads.select (show _ = some (rows, w.db) from rfl) ?_
  clear_value rows
  refine Reads.call rfl (fun _ => rfl) ?_
  cases rows with
  | nil => exact Reads.ret none
  | cons row rest => exact Reads.found buildFromResultSet_reads row _

theorem run_getUserByUsername (connected : (env.acquired n).1 = some k) (username : String) :
    let rows := (scan (fun row => env.rank ((env.acquired n).2 + 2) row.id) w.db.users.rows).filter
      fun row => sys.collate row.username == sys.collate username
    (getUserByUsername sys username).run (exec sys env) n w =
      (.ok (if env.QuietFrom (env.acquired n).2 (firstRowCalls UserRow.cost rows + 3) then
        rows.head?.map (·.toUser sys) else none), w) := by
  intro rows
  apply Reads.method connected
  iterate 2 refine Reads.call rfl (fun _ => rfl) ?_
  refine Reads.select (show _ = some (rows, w.db) from rfl) ?_
  clear_value rows
  refine Reads.call rfl (fun _ => rfl) ?_
  cases rows with
  | nil => exact Reads.ret none
  | cons row rest => exact Reads.found buildFromResultSet_reads row _

end UserDAO

namespace PlaylistDAO

theorem run_getPlaylistById (connected : (env.acquired n).1 = some k) (playlistId : Int32) :
    let rows := w.db.playlists.rows.filter (·.id == playlistId)
    (getPlaylistById sys playlistId).run (exec sys env) n w =
      (.ok (if env.QuietFrom (env.acquired n).2 (firstRowCalls PlaylistRow.cost rows + 3) then
        rows.head?.map (·.toPlaylist sys) else none), w) := by
  intro rows
  apply Reads.method connected
  iterate 2 refine Reads.call rfl (fun _ => rfl) ?_
  refine Reads.select (show _ = some (rows, w.db) from rfl) ?_
  clear_value rows
  refine Reads.call rfl (fun _ => rfl) ?_
  cases rows with
  | nil => exact Reads.ret none
  | cons row rest => exact Reads.found buildPlaylistFromResultSet_reads row _

theorem run_getPlaylistsByUserId (connected : (env.acquired n).1 = some k) (userId : Int32) :
    let rows := (scan (fun row => env.rank ((env.acquired n).2 + 2) row.id)
      w.db.playlists.rows).filter (·.userId == userId)
    (getPlaylistsByUserId sys userId).run (exec sys env) n w =
      (.ok (if env.QuietFrom (env.acquired n).2 (allRowsCalls PlaylistRow.cost rows + 4) then
        rows.map (·.toPlaylist sys) else []), w) := by
  apply Reads.method connected
  iterate 2 refine Reads.call rfl (fun _ => rfl) ?_
  apply Reads.select rfl
  refine Reads.call rfl (fun _ => rfl) ?_
  exact Reads.fetch buildPlaylistFromResultSet_reads _

theorem run_getSongsInPlaylist (connected : (env.acquired n).1 = some k) (playlistId : Int32) :
    let rows := (scan (fun row => env.rank ((env.acquired n).2 + 2) row.id)
      w.db.playlistSongs.rows).filter (·.playlistId == playlistId)
    (getSongsInPlaylist sys playlistId).run (exec sys env) n w =
      (.ok (if env.QuietFrom (env.acquired n).2 (allRowsCalls PlaylistSongRow.cost rows + 4) then
        rows.map (·.toSong sys) else []), w) := by
  apply Reads.method connected
  iterate 2 refine Reads.call rfl (fun _ => rfl) ?_
  apply Reads.select rfl
  refine Reads.call rfl (fun _ => rfl) ?_
  exact Reads.fetch buildSongFromResultSet_reads _

theorem run_countSongsInPlaylist (connected : (env.acquired n).1 = some k) (playlistId : Int32) :
    (countSongsInPlaylist playlistId).run (exec sys env) n w =
      (.ok (if env.QuietFrom (env.acquired n).2 5 then
        Int32.ofNat (w.db.playlistSongs.rows.countP (·.playlistId == playlistId)) else 0), w) := by
  apply Reads.method connected
  iterate 2 refine Reads.call rfl (fun _ => rfl) ?_
  apply Reads.select rfl
  exact Reads.readCount _

end PlaylistDAO

namespace PlayHistoryDAO

theorem run_getUserPlayHistory (connected : (env.acquired n).1 = some k)
    (userId limit offset : Int32) {rows : List PlayHistoryRow}
    (selected : w.db.selectPlayHistory (env.context sys k ((env.acquired n).2 + 4)) userId limit
      offset = some rows) :
    (getUserPlayHistory sys userId limit offset).run (exec sys env) n w =
      (if env.QuietFrom (env.acquired n).2 5 then
        if env.hasMemory (sizeOfInt limit) then
          .ok (if env.QuietFrom ((env.acquired n).2 + 6) (allRowsCalls PlayHistoryRow.cost rows)
            then rows.map (·.toPlayHistory sys) else [])
        else .error .stdException
      else .ok [], w) := by
  apply Proceeds.selected connected
  case proceeds =>
    iterate 4 apply Proceeds.call rfl fun _ => rfl
    exact Proceeds.execute
  case reads => exact congrArg (Option.map _) selected
  case rest =>
    have fetched : Reads sys env
        (SqlConnGuard.fetch ⟨some k⟩ (buildFromResultSet sys ⟨some k⟩) rows)
        ((env.acquired n).2 + 6) w (allRowsCalls PlayHistoryRow.cost rows)
        (rows.map (·.toPlayHistory sys)) := Reads.fetch buildFromResultSet_reads rows
    split
    · -- The query has come through, so the vector is next.
      refine (congrArg (catchSql []) (run_reserve ..)).trans ?_
      split
      · refine (congrArg (catchSql []) fetched.run).trans ?_
        split <;> rfl
      · rfl
    · rfl

theorem run_getUserTotalPlayCount (connected : (env.acquired n).1 = some k) (userId : Int32) :
    (getUserTotalPlayCount userId).run (exec sys env) n w =
      (.ok (if env.QuietFrom (env.acquired n).2 5 then
        Int32.ofNat (w.db.playHistory.rows.countP (·.userId == userId)) else 0), w) := by
  apply Reads.method connected
  iterate 2 refine Reads.call rfl (fun _ => rfl) ?_
  apply Reads.select rfl
  exact Reads.readCount _

theorem run_getUserRecentPlayCount (connected : (env.acquired n).1 = some k)
    (userId days : Int32) :
    (getUserRecentPlayCount userId days).run (exec sys env) n w =
      (.ok (if env.QuietFrom (env.acquired n).2 6 then
        Int32.ofNat (w.db.playHistory.rows.countP fun row =>
          row.userId == userId && env.dbNow - days.toInt * 86400 ≤ row.playedAt) else 0), w) := by
  apply Reads.method connected
  iterate 3 refine Reads.call rfl (fun _ => rfl) ?_
  apply Reads.select rfl
  exact Reads.readCount _

theorem run_getUserTopArtists (connected : (env.acquired n).1 = some k) (userId limit : Int32)
    {rows : List (String × Int)}
    (selected : Db.limitRows limit (orderByDesc (·.2) (Db.groupBySinger sys.collate
      (w.db.historyOf (env.context sys k ((env.acquired n).2 + 3)) userId))) = some rows) :
    (getUserTopArtists userId limit).run (exec sys env) n w =
      (.ok (if env.QuietFrom (env.acquired n).2 (allRowsCalls (fun _ => 2) rows + 4) then
        rows.map fun row => (row.1, Int32.ofInt row.2) else []), w) := by
  apply Reads.method connected
  iterate 3 refine Reads.call rfl (fun _ => rfl) ?_
  refine Reads.select (congrArg (Option.map _) selected) ?_
  refine Reads.fetch (fun row m => ?_) _
  exact Reads.call rfl (fun _ => rfl) (Reads.call rfl (fun _ => rfl) (Reads.ret _))

theorem run_getUserTopSongs (connected : (env.acquired n).1 = some k) (userId limit : Int32)
    {rows : List PlayHistoryRow}
    (selected : Db.limitRows limit (orderByDesc (fun row => row.songCount.toInt)
      (w.db.historyOf (env.context sys k ((env.acquired n).2 + 3)) userId)) = some rows) :
    (getUserTopSongs userId limit).run (exec sys env) n w =
      (.ok (if env.QuietFrom (env.acquired n).2 (allRowsCalls PlayHistoryRow.songCost rows + 4) then
        rows.map (·.toSong) else []), w) := by
  apply Reads.method connected
  iterate 3 refine Reads.call rfl (fun _ => rfl) ?_
  refine Reads.select (congrArg (Option.map _) selected) ?_
  exact Reads.fetch buildSongFromResultSet_reads _

theorem run_getMostPlayedSongs (connected : (env.acquired n).1 = some k) (userId limit : Int32)
    {rows : List PlayHistoryRow}
    (selected : Db.limitRows limit (orderByDesc (fun row => row.songCount.toInt)
      (w.db.historyOf (env.context sys k ((env.acquired n).2 + 3)) userId)) = some rows) :
    (getMostPlayedSongs sys userId limit).run (exec sys env) n w =
      (.ok (if env.QuietFrom (env.acquired n).2
          (allRowsCalls (fun row => PlayHistoryRow.cost row + 1) rows + 4) then
        rows.map fun row => (row.toPlayHistory sys, row.songCount) else []), w) := by
  apply Reads.method connected
  iterate 3 refine Reads.call rfl (fun _ => rfl) ?_
  refine Reads.select (congrArg (Option.map _) selected) ?_
  refine Reads.fetch (fun row m => ?_) _
  exact (buildFromResultSet_reads row m).bind (Reads.call rfl (fun _ => rfl) (Reads.ret _))

end PlayHistoryDAO

end Methods

end MusicPlayer
