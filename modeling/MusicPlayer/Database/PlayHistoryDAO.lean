import MusicPlayer.Database.DBManager
import MusicPlayer.Models

/-! `src/database/PlayHistoryDAO.cpp`. -/
namespace MusicPlayer.PlayHistoryDAO

open Resumption Program

def buildFromResultSet (sys : System) (guard : SqlConnGuard) (row : PlayHistoryRow) :
    Prog PlayHistory := do
  guard.call (.getInt "id")
  guard.call (.getInt "user_id")
  guard.call (.getString "song_id")
  guard.call (.getString "song_name")
  guard.call (.getString "song_singer")
  guard.call (.isNull "song_pic")
  if row.songPic.isSome then guard.call (.getString "song_pic")
  guard.call (.getString "song_where")
  guard.call (.getInt "song_count")
  guard.call (.getString "played_at")
  return {
    id := row.id
    userId := row.userId
    songId := row.songId
    songName := row.songName
    songSinger := row.songSinger
    songPic := row.songPic.getD ""
    songWhere := row.songWhere.text
    songCount := row.songCount
    playedAt := sys.formatTimestamp row.playedAt }

def buildSongFromResultSet (guard : SqlConnGuard) (row : PlayHistoryRow) : Prog Song := do
  guard.call (.getString "song_id")
  guard.call (.getString "song_name")
  guard.call (.getString "song_singer")
  guard.call (.isNull "song_pic")
  if row.songPic.isSome then guard.call (.getString "song_pic")
  guard.call (.getString "song_where")
  return {
    songId := row.songId
    name := row.songName
    singer := row.songSinger
    pic := row.songPic.getD ""
    songWhere := row.songWhere.text }

/-- The column list of the INSERT: seven names. -/
def insertColumns : List HistoryColumn :=
  [.userId, .songId, .songName, .songSinger, .songPic, .songWhere, .playedAt]

/-- The values bound to its six placeholders. -/
def insertValues (history : PlayHistory) (songPic : Option String) : List SqlValue :=
  [.int history.userId, .text history.songId, .text history.songName, .text history.songSinger,
    match songPic with
    | some pic => .text pic
    | none => .null,
    .text history.songWhere]

def addPlayHistory (history : PlayHistory) : Prog Bool :=
  daoMethod false fun guard => do
    guard.call (.prepareStatement
      "SELECT id, song_count FROM play_history WHERE user_id = ? AND song_id = ?")
    guard.call (.setInt 1 history.userId)
    guard.call (.setString 2 history.songId)
    let checkResult ← guard.execute (.selectSongCount history.userId history.songId)
    guard.call .next
    -- The search is by user and song id; `song_where` is no part of it.
    match checkResult with
    | (id, songCount) :: _ =>
      guard.call (.getInt "song_count")
      guard.call (.getInt "id")
      guard.call (.prepareStatement "UPDATE play_history SET song_count = ? WHERE id = ?")
      -- The count is that of the SELECT; a play in between is overwritten.
      guard.call (.setInt 1 (songCount + 1))
      guard.call (.setInt 2 id)
      let affectedRows ← guard.execute (.updateSongCount (songCount + 1) id)
      return 0 < affectedRows
    | [] =>
      guard.call (.prepareStatement
        "INSERT INTO play_history (user_id, song_id, song_name, song_singer, song_pic, song_where, played_at) VALUES (?, ?, ?, ?, ?, ?)")
      guard.call (.setInt 1 history.userId)
      guard.call (.setString 2 history.songId)
      guard.call (.setString 3 history.songName)
      guard.call (.setString 4 history.songSinger)
      let songPic ← guard.bindNullable 5 history.songPic
      guard.call (.setString 6 history.songWhere)
      let affectedRows ← guard.execute
        (.insertPlayHistory insertColumns (insertValues history songPic))
      return 0 < affectedRows

/-- An `int` as a `size_t`. -/
def sizeOfInt (n : Int32) : Nat := (n.toInt % 2 ^ 64).toNat

theorem sizeOfInt_of_nonneg {n : Int32} (nonneg : 0 ≤ n.toInt) : sizeOfInt n = n.toInt.toNat := by
  have small := n.toInt_lt
  rw [sizeOfInt, Int.emod_eq_of_lt nonneg (by omega)]

def getUserPlayHistory (sys : System) (userId limit offset : Int32) : Prog (List PlayHistory) :=
  daoMethod [] fun guard => do
    guard.call (.prepareStatement
      "SELECT * FROM play_history WHERE user_id = ? ORDER BY played_at DESC LIMIT ? OFFSET ?")
    guard.call (.setInt 1 userId)
    guard.call (.setInt 2 limit)
    guard.call (.setInt 3 offset)
    let result ← guard.execute (.selectPlayHistory userId limit offset)
    -- `history_list.reserve(limit)`; the `catch` of `SQLException` lets `std::bad_alloc` through.
    ofExcept (← trigger (.reserve (sizeOfInt limit)))
    guard.fetch (buildFromResultSet sys guard) result

def clearUserPlayHistory (userId : Int32) : Prog Bool :=
  daoMethod false fun guard => do
    guard.call (.prepareStatement "DELETE FROM play_history WHERE user_id = ?")
    guard.call (.setInt 1 userId)
    let affectedRows ← guard.execute (.clearPlayHistory userId)
    return 0 < affectedRows

def deletePlayHistory (historyId userId : Int32) : Prog Bool :=
  daoMethod false fun guard => do
    guard.call (.prepareStatement "DELETE FROM play_history WHERE id = ? AND user_id = ?")
    guard.call (.setInt 1 historyId)
    guard.call (.setInt 2 userId)
    let affectedRows ← guard.execute (.deletePlayHistory historyId userId)
    return 0 < affectedRows

def getUserTotalPlayCount (userId : Int32) : Prog Int32 :=
  daoMethod 0 fun guard => do
    guard.call (.prepareStatement "SELECT COUNT(*) AS count FROM play_history WHERE user_id = ?")
    guard.call (.setInt 1 userId)
    let result ← guard.execute (.countPlayHistory userId)
    guard.readCount result

def getUserRecentPlayCount (userId days : Int32) : Prog Int32 :=
  daoMethod 0 fun guard => do
    guard.call (.prepareStatement
      "SELECT COUNT(*) AS count FROM play_history WHERE user_id = ? AND played_at >= NOW() - INTERVAL ? DAY")
    guard.call (.setInt 1 userId)
    guard.call (.setInt 2 days)
    let result ← guard.execute (.countRecentPlayHistory userId days)
    guard.readCount result

def getUserTopArtists (userId limit : Int32) : Prog (List (String × Int32)) :=
  daoMethod [] fun guard => do
    guard.call (.prepareStatement
      "SELECT song_singer, SUM(song_count) AS total_plays FROM play_history WHERE user_id = ? GROUP BY song_singer ORDER BY total_plays DESC LIMIT ?")
    guard.call (.setInt 1 userId)
    guard.call (.setInt 2 limit)
    let result ← guard.execute (.selectTopArtists userId limit)
    guard.fetch (fun (artist, totalPlays) => do
      guard.call (.getString "song_singer")
      guard.call (.getInt "total_plays")
      return (artist, Int32.ofInt totalPlays)) result

def getUserTopSongs (userId limit : Int32) : Prog (List Song) :=
  daoMethod [] fun guard => do
    guard.call (.prepareStatement
      "SELECT * FROM play_history WHERE user_id = ? ORDER BY song_count DESC LIMIT ?")
    guard.call (.setInt 1 userId)
    guard.call (.setInt 2 limit)
    let result ← guard.execute (.selectTopSongs userId limit)
    guard.fetch (buildSongFromResultSet guard) result

def getMostPlayedSongs (sys : System) (userId limit : Int32) : Prog (List (PlayHistory × Int32)) :=
  daoMethod [] fun guard => do
    guard.call (.prepareStatement
      "SELECT * FROM play_history WHERE user_id = ? ORDER BY song_count DESC LIMIT ?")
    guard.call (.setInt 1 userId)
    guard.call (.setInt 2 limit)
    let result ← guard.execute (.selectTopSongs userId limit)
    guard.fetch (fun row => do
      let history ← buildFromResultSet sys guard row
      guard.call (.getInt "song_count")
      return (history, row.songCount)) result

end MusicPlayer.PlayHistoryDAO
