import MusicPlayer.Database.Schema

/-!
# The SQL statements of the data access objects

One constructor for each statement text of `src/database`, with the values bound to its
parameters. `Statement.exec` is what the database does with it: a statement that breaks a
constraint is refused and changes nothing. Each statement commits on its own.
-/
namespace MusicPlayer

open Relational

/-- Columns named by the INSERT into `play_history`. -/
inductive HistoryColumn where
  | userId
  | songId
  | songName
  | songSinger
  | songPic
  | songWhere
  | playedAt
  deriving DecidableEq, Repr

inductive SqlValue where
  | int (n : Int32)
  | text (s : String)
  | timestamp (t : Timestamp)
  | null
  deriving DecidableEq, Repr

inductive Statement where
  | insertUser (username passwdHash email : String)
  | selectLastInsertId
  | selectUserById (id : Int32)
  | selectUserByUsername (username : String)
  | updateUser (username email : String) (qqId neteaseId : Option String) (id : Int32)
  | deleteUser (id : Int32)
  | updatePassword (passwdHash : String) (id : Int32)
  | updateQQId (qqId : String) (id : Int32)
  | updateNetEaseId (neteaseId : String) (id : Int32)
  | insertPlaylist (name : String) (userId : Int32) (cover : Option String)
  | selectPlaylistById (id : Int32)
  | selectPlaylistsByUserId (userId : Int32)
  | updatePlaylist (name : String) (cover : Option String) (id : Int32)
  | deletePlaylist (id : Int32)
  | countPlaylistSong (playlistId : Int32) (songId songWhere : String)
  | insertPlaylistSong (playlistId : Int32) (songId songName songSinger : String)
      (songPic : Option String) (songWhere : String)
  | deletePlaylistSong (playlistId : Int32) (songId songWhere : String)
  | selectPlaylistSongs (playlistId : Int32)
  | countPlaylistSongs (playlistId : Int32)
  | selectSongCount (userId : Int32) (songId : String)
  | updateSongCount (songCount : Int32) (id : Int32)
  | insertPlayHistory (columns : List HistoryColumn) (values : List SqlValue)
  | selectPlayHistory (userId limit offset : Int32)
  | clearPlayHistory (userId : Int32)
  | deletePlayHistory (id userId : Int32)
  | countPlayHistory (userId : Int32)
  | countRecentPlayHistory (userId days : Int32)
  | selectTopArtists (userId limit : Int32)
  | selectTopSongs (userId limit : Int32)

/-- An update answers with the number of changed rows, a query with its result rows. -/
@[reducible] def Statement.Reply : Statement → Type
  | .selectLastInsertId => List Int32
  | .selectUserById _ | .selectUserByUsername _ => List UserRow
  | .selectPlaylistById _ | .selectPlaylistsByUserId _ => List PlaylistRow
  | .selectPlaylistSongs _ => List PlaylistSongRow
  | .countPlaylistSong .. | .countPlaylistSongs _ => List Nat
  | .countPlayHistory _ | .countRecentPlayHistory .. => List Nat
  | .selectSongCount .. => List (Int32 × Int32)
  | .selectPlayHistory .. | .selectTopSongs .. => List PlayHistoryRow
  | .selectTopArtists .. => List (String × Int)
  | _ => Nat

/-- What the outcome of a statement depends on besides the tables. -/
structure SqlContext where
  collate : String → String
  conn : Conn
  now : Timestamp
  /-- The order in which a query meets the rows, by row id. -/
  rank : Int32 → Nat

namespace Db

def insertUser (ctx : SqlContext) (db : Db) (username passwdHash email : String) :
    Option (Nat × Db) :=
  if fitsVarchar 50 username && fitsVarchar 255 passwdHash && fitsVarchar 50 email &&
      !db.users.rows.any (·.clashes ctx.collate username email) then
    (db.users.insert fun id =>
      ⟨id, username, passwdHash, email, none, none, ctx.now, ctx.now⟩).map fun (id, users) =>
        (1, { db with users, lastInsertId := Function.update db.lastInsertId ctx.conn id })
  else none

/-- `UPDATE users SET … WHERE id = ?`; the values are checked only against a row to update. -/
def updateUserRow (ctx : SqlContext) (db : Db) (id : Int32) (fits : Bool)
    (assign : UserRow → UserRow) : Option (Nat × Db) :=
  if db.users.rows.any (·.id == id) && !fits then none
  else some (db.users.changedRows (·.id == id) assign,
    { db with users := db.users.update (·.id == id) (UserRow.stamp ctx.now assign) })

def updateUser (ctx : SqlContext) (db : Db) (username email : String)
    (qqId neteaseId : Option String) (id : Int32) : Option (Nat × Db) :=
  db.updateUserRow ctx id
    (fitsVarchar 50 username && fitsVarchar 50 email && fitsNullable 50 qqId &&
      fitsNullable 50 neteaseId &&
      !db.users.rows.any fun row => row.id != id && row.clashes ctx.collate username email)
    fun row => { row with username, email, qqId, neteaseId }

/-- `ON DELETE CASCADE` from a playlist to its songs. -/
def deletePlaylistRows (db : Db) (selects : PlaylistRow → Bool) : Db :=
  let gone := db.playlists.rows.filter selects
  { db with
    playlists := db.playlists.delete selects
    playlistSongs := db.playlistSongs.delete fun song => gone.any (·.id == song.playlistId) }

/-- `ON DELETE CASCADE` from a user to the playlists and the history. -/
def deleteUser (db : Db) (id : Int32) : Nat × Db :=
  let cascaded := db.deletePlaylistRows (·.userId == id)
  (db.users.rows.countP (·.id == id),
    { cascaded with
      users := db.users.delete (·.id == id)
      playHistory := db.playHistory.delete (·.userId == id) })

def insertPlaylist (ctx : SqlContext) (db : Db) (name : String) (userId : Int32)
    (cover : Option String) : Option (Nat × Db) :=
  if fitsVarchar 50 name && fitsNullable 255 cover && db.users.rows.any (·.id == userId) then
    (db.playlists.insert fun id => ⟨id, userId, name, cover, ctx.now, ctx.now⟩).map
      fun (id, playlists) =>
        (1, { db with playlists, lastInsertId := Function.update db.lastInsertId ctx.conn id })
  else none

def updatePlaylist (ctx : SqlContext) (db : Db) (name : String) (cover : Option String)
    (id : Int32) : Option (Nat × Db) :=
  if db.playlists.rows.any (·.id == id) && !(fitsVarchar 50 name && fitsNullable 255 cover) then
    none
  else
    let assign : PlaylistRow → PlaylistRow := fun row => { row with name, cover }
    some (db.playlists.changedRows (·.id == id) assign,
      { db with playlists := db.playlists.update (·.id == id) (PlaylistRow.stamp ctx.now assign) })

/-- The composite key of `playlist_songs`, as the WHERE clauses spell it. -/
def isPlaylistSong (collate : String → String) (playlistId : Int32) (songId songWhere : String)
    (row : PlaylistSongRow) : Bool :=
  row.playlistId == playlistId && collate row.songId == collate songId &&
    row.songWhere.matchesText collate songWhere

def insertPlaylistSong (ctx : SqlContext) (db : Db) (playlistId : Int32)
    (songId songName songSinger : String) (songPic : Option String) (songWhere : String) :
    Option (Nat × Db) := do
  let source ← SongWhere.ofText ctx.collate songWhere
  if fitsVarchar 50 songId && fitsVarchar 255 songName && fitsVarchar 255 songSinger &&
      fitsNullable 255 songPic && db.playlists.rows.any (·.id == playlistId) &&
      !db.playlistSongs.rows.any (isPlaylistSong ctx.collate playlistId songId source.text) then
    let (id, playlistSongs) ← db.playlistSongs.insert fun id =>
      ⟨id, playlistId, songId, songName, songSinger, songPic, source, ctx.now⟩
    some (1, { db with
      playlistSongs, lastInsertId := Function.update db.lastInsertId ctx.conn id })
  else none

/-- The value an INSERT gives to a column it names. -/
def assigned (columns : List HistoryColumn) (values : List SqlValue) (column : HistoryColumn) :
    Option SqlValue :=
  (columns.zip values).lookup column

def textValue (n : Nat) : Option SqlValue → Option String
  | some (.text s) => if fitsVarchar n s then some s else none
  | _ => none

def nullableText (n : Nat) : Option SqlValue → Option (Option String)
  | none | some .null => some none
  | some (.text s) => if fitsVarchar n s then some (some s) else none
  | _ => none

/-- `song_count` is not among the columns, so it takes its default 0; `played_at` defaults
to the current time. A list of values that does not match the list of columns is refused
(error 1136), whatever the tables hold. -/
def insertPlayHistory (ctx : SqlContext) (db : Db) (columns : List HistoryColumn)
    (values : List SqlValue) : Option (Nat × Db) := do
  let value := assigned columns values
  guard (columns.length = values.length)
  let .int userId ← value .userId | none
  guard (db.users.rows.any (·.id == userId))
  let songId ← textValue 50 (value .songId)
  let songName ← textValue 255 (value .songName)
  let songSinger ← textValue 255 (value .songSinger)
  let songPic ← nullableText 255 (value .songPic)
  let .text source ← value .songWhere | none
  let songWhere ← SongWhere.ofText ctx.collate source
  let playedAt ← match value .playedAt with
    | none => some ctx.now
    | some (.timestamp t) => some t
    | _ => none
  let (id, playHistory) ← db.playHistory.insert fun id =>
    ⟨id, userId, songId, songName, songSinger, songPic, songWhere, 0, playedAt⟩
  some (1, { db with playHistory, lastInsertId := Function.update db.lastInsertId ctx.conn id })

def historyOf (ctx : SqlContext) (db : Db) (userId : Int32) : List PlayHistoryRow :=
  (scan (fun row => ctx.rank row.id) db.playHistory.rows).filter (·.userId == userId)

/-- `GROUP BY song_singer` with `SUM(song_count)`: a row joins the group of its singer. -/
def addToGroups (collate : String → String) (row : PlayHistoryRow) :
    List (String × Int) → List (String × Int)
  | [] => [(row.songSinger, row.songCount.toInt)]
  | (singer, total) :: rest =>
    if collate singer = collate row.songSinger then (singer, total + row.songCount.toInt) :: rest
    else (singer, total) :: addToGroups collate row rest

def groupBySinger (collate : String → String) (rows : List PlayHistoryRow) :
    List (String × Int) :=
  rows.foldl (fun groups row => addToGroups collate row groups) []

/-- `LIMIT ?`: a negative count is refused. -/
def limitRows {ρ : Type} (limit : Int32) (rows : List ρ) : Option (List ρ) :=
  if limit.toInt < 0 then none else some (rows.take limit.toInt.toNat)

def selectPlayHistory (ctx : SqlContext) (db : Db) (userId limit offset : Int32) :
    Option (List PlayHistoryRow) :=
  if offset.toInt < 0 then none
  else limitRows limit
    ((orderByDesc (·.playedAt) (db.historyOf ctx userId)).drop offset.toInt.toNat)

end Db

/-- `none`: the database refuses the statement and the connector throws. -/
def Statement.exec (ctx : SqlContext) (db : Db) : (s : Statement) → Option (s.Reply × Db)
  | .insertUser username passwdHash email => db.insertUser ctx username passwdHash email
  | .selectLastInsertId => some ([db.lastInsertId ctx.conn], db)
  | .selectUserById id => some (db.users.rows.filter (·.id == id), db)
  | .selectUserByUsername username =>
    some ((scan (fun row => ctx.rank row.id) db.users.rows).filter fun row =>
      ctx.collate row.username == ctx.collate username, db)
  | .updateUser username email qqId neteaseId id =>
    db.updateUser ctx username email qqId neteaseId id
  | .deleteUser id => some (db.deleteUser id)
  | .updatePassword passwdHash id =>
    db.updateUserRow ctx id (fitsVarchar 255 passwdHash) fun row => { row with passwdHash }
  | .updateQQId qqId id =>
    db.updateUserRow ctx id (fitsVarchar 50 qqId) fun row => { row with qqId := some qqId }
  | .updateNetEaseId neteaseId id =>
    db.updateUserRow ctx id (fitsVarchar 50 neteaseId) fun row =>
      { row with neteaseId := some neteaseId }
  | .insertPlaylist name userId cover => db.insertPlaylist ctx name userId cover
  | .selectPlaylistById id => some (db.playlists.rows.filter (·.id == id), db)
  | .selectPlaylistsByUserId userId =>
    some ((scan (fun row => ctx.rank row.id) db.playlists.rows).filter (·.userId == userId), db)
  | .updatePlaylist name cover id => db.updatePlaylist ctx name cover id
  | .deletePlaylist id =>
    some (db.playlists.rows.countP (·.id == id), db.deletePlaylistRows (·.id == id))
  | .countPlaylistSong playlistId songId songWhere =>
    some ([db.playlistSongs.rows.countP
      (Db.isPlaylistSong ctx.collate playlistId songId songWhere)], db)
  | .insertPlaylistSong playlistId songId songName songSinger songPic songWhere =>
    db.insertPlaylistSong ctx playlistId songId songName songSinger songPic songWhere
  | .deletePlaylistSong playlistId songId songWhere =>
    let selects := Db.isPlaylistSong ctx.collate playlistId songId songWhere
    some (db.playlistSongs.rows.countP selects,
      { db with playlistSongs := db.playlistSongs.delete selects })
  | .selectPlaylistSongs playlistId =>
    some ((scan (fun row => ctx.rank row.id) db.playlistSongs.rows).filter
      (·.playlistId == playlistId), db)
  | .countPlaylistSongs playlistId =>
    some ([db.playlistSongs.rows.countP (·.playlistId == playlistId)], db)
  | .selectSongCount userId songId =>
    some (((db.historyOf ctx userId).filter fun row =>
      ctx.collate row.songId == ctx.collate songId).map fun row => (row.id, row.songCount), db)
  | .updateSongCount songCount id =>
    let assign : PlayHistoryRow → PlayHistoryRow := fun row => { row with songCount }
    some (db.playHistory.changedRows (·.id == id) assign,
      { db with playHistory := db.playHistory.update (·.id == id) assign })
  | .insertPlayHistory columns values => db.insertPlayHistory ctx columns values
  | .selectPlayHistory userId limit offset =>
    (db.selectPlayHistory ctx userId limit offset).map fun rows => (rows, db)
  | .clearPlayHistory userId =>
    some (db.playHistory.rows.countP (·.userId == userId),
      { db with playHistory := db.playHistory.delete (·.userId == userId) })
  | .deletePlayHistory id userId =>
    let selects : PlayHistoryRow → Bool := fun row => row.id == id && row.userId == userId
    some (db.playHistory.rows.countP selects,
      { db with playHistory := db.playHistory.delete selects })
  | .countPlayHistory userId =>
    some ([db.playHistory.rows.countP (·.userId == userId)], db)
  | .countRecentPlayHistory userId days =>
    some ([db.playHistory.rows.countP fun row =>
      row.userId == userId && ctx.now - days.toInt * 86400 ≤ row.playedAt], db)
  | .selectTopArtists userId limit =>
    (Db.limitRows limit (orderByDesc (·.2)
      (Db.groupBySinger ctx.collate (db.historyOf ctx userId)))).map fun rows => (rows, db)
  | .selectTopSongs userId limit =>
    (Db.limitRows limit (orderByDesc (fun row => row.songCount.toInt)
      (db.historyOf ctx userId))).map fun rows => (rows, db)

/-! ### Session values -/

/-- A statement sets `LAST_INSERT_ID()` of no other connection. -/
theorem Statement.exec_lastInsertId {ctx : SqlContext} {db after : Db} {s : Statement}
    {reply : s.Reply} (executed : s.exec ctx db = some (reply, after)) {conn : Conn}
    (other : conn ≠ ctx.conn) : after.lastInsertId conn = db.lastInsertId conn := by
  -- An UPDATE keeps all session values, an INSERT sets the one of its own connection.
  have keeps {change : Option (Nat × Db)} {n : Nat} (equal : change = some (n, after))
      (same : ∀ n db', change = some (n, db') → db'.lastInsertId = db.lastInsertId) :
      after.lastInsertId conn = db.lastInsertId conn :=
    congrFun (same n after equal) conn
  have row {id : Int32} {fits : Bool} {assign : UserRow → UserRow} {n : Nat}
      (equal : db.updateUserRow ctx id fits assign = some (n, after)) :
      after.lastInsertId conn = db.lastInsertId conn := by
    refine keeps equal fun n db' changed => ?_
    unfold Db.updateUserRow at changed
    split at changed <;> cases changed
    rfl
  cases s with
  | insertUser username passwdHash email =>
    simp only [exec, Db.insertUser] at executed
    split at executed
    · obtain ⟨⟨id, rows⟩, -, built⟩ := Option.map_eq_some_iff.mp executed
      cases built
      exact Function.update_of_ne other ..
    · cases executed
  | insertPlaylist name userId cover =>
    simp only [exec, Db.insertPlaylist] at executed
    split at executed
    · obtain ⟨⟨id, rows⟩, -, built⟩ := Option.map_eq_some_iff.mp executed
      cases built
      exact Function.update_of_ne other ..
    · cases executed
  | insertPlaylistSong playlistId songId songName songSinger songPic songWhere =>
    simp only [exec, Db.insertPlaylistSong, Option.bind_eq_bind,
      Option.bind_eq_some_iff] at executed
    obtain ⟨source, -, executed⟩ := executed
    split at executed
    · obtain ⟨⟨id, rows⟩, -, built⟩ := Option.bind_eq_some_iff.mp executed
      cases built
      exact Function.update_of_ne other ..
    · cases executed
  | insertPlayHistory columns values =>
    simp only [exec, Db.insertPlayHistory, Option.bind_eq_bind, Option.bind_eq_some_iff] at executed
    obtain ⟨-, -, user, -, executed⟩ := executed
    split at executed
    · simp only [Option.bind_eq_some_iff] at executed
      obtain ⟨-, -, songId, -, songName, -, songSinger, -, songPic, -, source, -, executed⟩ :=
        executed
      split at executed
      · obtain ⟨songWhere, -, executed⟩ := Option.bind_eq_some_iff.mp executed
        split at executed
        all_goals
          simp only [Option.bind_eq_some_iff] at executed
          obtain ⟨playedAt, -, ⟨id, rows⟩, -, built⟩ := executed
          cases built
          exact Function.update_of_ne other ..
      · cases executed
    · cases executed
  | updateUser => exact row executed
  | updatePassword => exact row executed
  | updateQQId => exact row executed
  | updateNetEaseId => exact row executed
  | updatePlaylist name cover id =>
    refine keeps executed fun n db' changed => ?_
    simp only [exec, Db.updatePlaylist] at changed
    split at changed <;> cases changed
    rfl
  | selectPlayHistory userId limit offset =>
    obtain ⟨rows, -, equal⟩ := Option.map_eq_some_iff.mp executed
    cases equal
    rfl
  | selectTopArtists userId limit =>
    obtain ⟨rows, -, equal⟩ := Option.map_eq_some_iff.mp executed
    cases equal
    rfl
  | selectTopSongs userId limit =>
    obtain ⟨rows, -, equal⟩ := Option.map_eq_some_iff.mp executed
    cases equal
    rfl
  | _ =>
    cases executed
    rfl

end MusicPlayer
