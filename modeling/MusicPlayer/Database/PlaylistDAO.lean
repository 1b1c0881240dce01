import MusicPlayer.Database.DBManager
import MusicPlayer.Models

/-! `src/database/PlaylistDAO.cpp`. -/
namespace MusicPlayer.PlaylistDAO

open Resumption Program

def buildPlaylistFromResultSet (sys : System) (guard : SqlConnGuard) (row : PlaylistRow) :
    Prog Playlist := do
  guard.call (.getInt "id")
  guard.call (.getString "name")
  guard.call (.getInt "user_id")
  guard.call (.isNull "cover")
  if row.cover.isSome then guard.call (.getString "cover")
  guard.call (.getString "create_at")
  guard.call (.getString "update_at")
  return {
    id := row.id
    userId := row.userId
    name := row.name
    cover := row.cover.getD ""
    createAt := sys.formatTimestamp row.createAt
    updateAt := sys.formatTimestamp row.updateAt }

def buildSongFromResultSet (sys : System) (guard : SqlConnGuard) (row : PlaylistSongRow) :
    Prog Song := do
  guard.call (.getInt "id")
  guard.call (.getString "song_id")
  guard.call (.getString "song_name")
  guard.call (.getString "song_singer")
  guard.call (.getString "song_where")
  guard.call (.isNull "song_pic")
  if row.songPic.isSome then guard.call (.getString "song_pic")
  guard.call (.getString "added_at")
  return {
    id := row.id
    songId := row.songId
    name := row.songName
    singer := row.songSinger
    pic := row.songPic.getD ""
    songWhere := row.songWhere.text
    addedAt := sys.formatTimestamp row.addedAt }

/-- The id is read by an `executeQuery` with text on the prepared statement of the INSERT. -/
def createPlaylist (playlist : Playlist) : Prog (Bool × Playlist) :=
  daoMethod (false, playlist) fun guard => do
    guard.call (.prepareStatement "INSERT INTO playlists (name, user_id, cover) VALUES (?, ?, ?)")
    guard.call (.setString 1 playlist.name)
    guard.call (.setInt 2 playlist.userId)
    let cover ← guard.bindNullable 3 playlist.cover
    let _ ← guard.execute (.insertPlaylist playlist.name playlist.userId cover)
    let result ← guard.execute .selectLastInsertId
    guard.call .next
    match result with
    | id :: _ =>
      guard.call (.getInt "id")
      return (true, { playlist with id })
    | [] => return (false, playlist)

def getPlaylistById (sys : System) (playlistId : Int32) : Prog (Option Playlist) :=
  daoMethod none fun guard => do
    guard.call (.prepareStatement "SELECT * FROM playlists WHERE id = ?")
    guard.call (.setInt 1 playlistId)
    let result ← guard.execute (.selectPlaylistById playlistId)
    guard.call .next
    match result with
    | row :: _ => return some (← buildPlaylistFromResultSet sys guard row)
    | [] => return none

def getPlaylistsByUserId (sys : System) (userId : Int32) : Prog (List Playlist) :=
  daoMethod [] fun guard => do
    guard.call (.prepareStatement "SELECT * FROM playlists WHERE user_id = ?")
    guard.call (.setInt 1 userId)
    let result ← guard.execute (.selectPlaylistsByUserId userId)
    guard.call .rowsCount
    guard.fetch (buildPlaylistFromResultSet sys guard) result

def updatePlaylist (playlist : Playlist) : Prog Bool :=
  daoMethod false fun guard => do
    guard.call (.prepareStatement "UPDATE playlists SET name = ?, cover = ? WHERE id = ?")
    guard.call (.setString 1 playlist.name)
    let cover ← guard.bindNullable 2 playlist.cover
    guard.call (.setInt 3 playlist.id)
    let affectedRow ← guard.execute (.updatePlaylist playlist.name cover playlist.id)
    return 0 < affectedRow

def deletePlaylist (id : Int32) : Prog Bool :=
  daoMethod false fun guard => do
    guard.call (.prepareStatement "DELETE FROM playlists WHERE id = ?")
    guard.call (.setInt 1 id)
    let affectedRow ← guard.execute (.deletePlaylist id)
    return 0 < affectedRow

def addSongToPlaylist (playlistId : Int32) (song : Song) : Prog Bool :=
  daoMethod false fun guard => do
    guard.call (.prepareStatement
      "SELECT COUNT(*) as count FROM playlist_songs WHERE playlist_id = ? AND song_id = ? AND song_where = ?")
    guard.call (.setInt 1 playlistId)
    guard.call (.setString 2 song.songId)
    guard.call (.setString 3 song.songWhere)
    let result ← guard.execute (.countPlaylistSong playlistId song.songId song.songWhere)
    let count ← guard.readCount result
    -- A song that is there already counts as added.
    if 0 < count.toInt then
      return true
    guard.call (.prepareStatement
      "INSERT INTO playlist_songs (playlist_id, song_id, song_name, song_singer, song_pic, song_where) VALUES (?, ?, ?, ?, ?, ?)")
    guard.call (.setInt 1 playlistId)
    guard.call (.setString 2 song.songId)
    guard.call (.setString 3 song.name)
    guard.call (.setString 4 song.singer)
    let songPic ← guard.bindNullable 5 song.pic
    guard.call (.setString 6 song.songWhere)
    let affectedRow ← guard.execute
      (.insertPlaylistSong playlistId song.songId song.name song.singer songPic song.songWhere)
    return 0 < affectedRow

def removeSongFromPlaylist (playlistId : Int32) (songId songSource : String) : Prog Bool :=
  daoMethod false fun guard => do
    guard.call (.prepareStatement
      "DELETE FROM playlist_songs WHERE playlist_id = ? AND song_id = ? && song_where = ?")
    guard.call (.setInt 1 playlistId)
    guard.call (.setString 2 songId)
    guard.call (.setString 3 songSource)
    let affectedRow ← guard.execute (.deletePlaylistSong playlistId songId songSource)
    return 0 < affectedRow

def getSongsInPlaylist (sys : System) (playlistId : Int32) : Prog (List Song) :=
  daoMethod [] fun guard => do
    guard.call (.prepareStatement "SELECT * FROM playlist_songs WHERE playlist_id = ?")
    guard.call (.setInt 1 playlistId)
    let result ← guard.execute (.selectPlaylistSongs playlistId)
    guard.call .rowsCount
    guard.fetch (buildSongFromResultSet sys guard) result

def countSongsInPlaylist (playlistId : Int32) : Prog Int32 :=
  daoMethod 0 fun guard => do
    guard.call (.prepareStatement
      "SELECT COUNT(*) as count FROM playlist_songs WHERE playlist_id = ?")
    guard.call (.setInt 1 playlistId)
    let result ← guard.execute (.countPlaylistSongs playlistId)
    guard.readCount result

end MusicPlayer.PlaylistDAO
