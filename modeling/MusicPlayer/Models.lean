/-!
# Data model

The structures of `src/models`. An `int` member is an `Int32`; text columns that may be
NULL arrive here as empty strings.
-/
namespace MusicPlayer

structure User where
  id : Int32 := 0
  username : String := ""
  passwdHash : String := ""
  email : String := ""
  qqId : String := ""
  neteaseId : String := ""
  createAt : String := ""
  updateAt : String := ""
  deriving DecidableEq, Repr

structure Playlist where
  id : Int32 := 0
  userId : Int32 := 0
  name : String := ""
  cover : String := ""
  createAt : String := ""
  updateAt : String := ""
  deriving DecidableEq, Repr

/-- `id` and `addedAt` stay unset where `buildSongFromResultSet` does not read them. -/
structure Song where
  id : Int32 := 0
  songId : String := ""
  name : String := ""
  singer : String := ""
  pic : String := ""
  songWhere : String := ""
  addedAt : String := ""
  deriving DecidableEq, Repr

structure PlayHistory where
  id : Int32 := 0
  userId : Int32 := 0
  songId : String := ""
  songName : String := ""
  songSinger : String := ""
  songPic : String := ""
  songWhere : String := ""
  playedAt : String := ""
  songCount : Int32 := 0
  deriving DecidableEq, Repr

end MusicPlayer
