import MusicPlayer.Relational.Table

/-!
# The schema of `sql/MusicPlayer.sql`

Rows as the database stores them, and the checks its column types make. Strings compare
through the collation of the server, given by a key function: two strings are equal to
the database when their keys are.
-/
namespace MusicPlayer

open Relational

/-- A connection to the database; each has its own session values. -/
abbrev Conn := Nat

/-- Whole seconds, the resolution of `TIMESTAMP`. -/
abbrev Timestamp := Int

structure UserRow where
  id : Int32
  username : String
  passwdHash : String
  email : String
  qqId : Option String
  neteaseId : Option String
  createAt : Timestamp
  updateAt : Timestamp
  deriving DecidableEq

structure PlaylistRow where
  id : Int32
  userId : Int32
  name : String
  cover : Option String
  createAt : Timestamp
  updateAt : Timestamp
  deriving DecidableEq

/-- `ENUM('QQ','NetEase')`. -/
inductive SongWhere where
  | qq
  | netEase
  deriving DecidableEq, Repr

def SongWhere.text : SongWhere → String
  | .qq => "QQ"
  | .netEase => "NetEase"

structure PlaylistSongRow where
  id : Int32
  playlistId : Int32
  songId : String
  songName : String
  songSinger : String
  songPic : Option String
  songWhere : SongWhere
  addedAt : Timestamp
  deriving DecidableEq

structure PlayHistoryRow where
  id : Int32
  userId : Int32
  songId : String
  songName : String
  songSinger : String
  songPic : Option String
  songWhere : SongWhere
  songCount : Int32
  playedAt : Timestamp
  deriving DecidableEq

structure Db where
  users : Table UserRow := {}
  playlists : Table PlaylistRow := {}
  playlistSongs : Table PlaylistSongRow := {}
  playHistory : Table PlayHistoryRow := {}
  /-- `LAST_INSERT_ID()` of every session. -/
  lastInsertId : Conn → Int32 := fun _ => 0

section Checks

variable (collate : String → String)

/-- `VARCHAR(n)`: in strict mode a longer value is refused. -/
def fitsVarchar (n : Nat) (s : String) : Bool := s.length ≤ n

def fitsNullable (n : Nat) (s : Option String) : Bool := s.all (fitsVarchar n)

/-- Assignment of a string to the enumeration; another string is refused. -/
def SongWhere.ofText (s : String) : Option SongWhere :=
  if collate s = collate "QQ" then some .qq
  else if collate s = collate "NetEase" then some .netEase
  else none

/-- `song_where = ?`. -/
def SongWhere.matchesText (w : SongWhere) (s : String) : Bool := collate w.text == collate s

/-- The UNIQUE keys of `users` that a row and the values of another row share. -/
def UserRow.clashes (row : UserRow) (username email : String) : Bool :=
  collate row.username == collate username || collate row.email == collate email

/-- `ON UPDATE CURRENT_TIMESTAMP` stamps a row whose other columns changed. -/
def UserRow.stamp (now : Timestamp) (assign : UserRow → UserRow) (row : UserRow) : UserRow :=
  if assign row = row then row else { assign row with updateAt := now }

def PlaylistRow.stamp (now : Timestamp) (assign : PlaylistRow → PlaylistRow) (row : PlaylistRow) :
    PlaylistRow :=
  if assign row = row then row else { assign row with updateAt := now }

end Checks

@[simp] theorem UserRow.stamp_id (now : Timestamp) (assign : UserRow → UserRow) (row : UserRow) :
    (row.stamp now assign).id = (assign row).id := by
  unfold UserRow.stamp
  split
  next same => rw [same]
  · rfl

@[simp] theorem UserRow.stamp_username (now : Timestamp) (assign : UserRow → UserRow)
    (row : UserRow) : (row.stamp now assign).username = (assign row).username := by
  unfold UserRow.stamp
  split
  next same => rw [same]
  · rfl

@[simp] theorem UserRow.stamp_passwdHash (now : Timestamp) (assign : UserRow → UserRow)
    (row : UserRow) : (row.stamp now assign).passwdHash = (assign row).passwdHash := by
  unfold UserRow.stamp
  split
  next same => rw [same]
  · rfl

@[simp] theorem UserRow.stamp_email (now : Timestamp) (assign : UserRow → UserRow)
    (row : UserRow) : (row.stamp now assign).email = (assign row).email := by
  unfold UserRow.stamp
  split
  next same => rw [same]
  · rfl

end MusicPlayer
