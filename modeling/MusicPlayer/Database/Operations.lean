import MusicPlayer.Resumption.Safety
import MusicPlayer.Database.UserDAO
import MusicPlayer.Database.PlaylistDAO
import MusicPlayer.Database.PlayHistoryDAO

/-!
# The operations of the data access layer

All methods of the three data access objects as one type, with what they share: each runs a
body inside one guard, and the body does nothing but call the connector through it and reserve
memory.
-/
namespace MusicPlayer

open Resumption Program

/-- A connector call through one connection pointer, with a restriction on its statements, or
memory for what is read. -/
def Through (conn : Option Conn) (statements : Statement → Prop) : Effect → Prop
  | .connector other c => other = conn ∧ ∀ s, c = .execute s → statements s
  | .reserve _ => True
  | _ => False

/-- A method of the data access objects: its body calls the connector through the guard, may
reserve memory, and does nothing else. -/
def IsMethod {α : Type} (statements : Statement → Prop) (failure : α) (prog : Prog α) : Prop :=
  ∃ body, prog = daoMethod failure body ∧
    ∀ guard, (body guard).Performs (Through guard.conn statements)

theorem IsMethod.mk {α : Type} {statements : Statement → Prop} {failure : α}
    {body : SqlConnGuard → Prog α}
    (through : ∀ guard, (body guard).Performs (Through guard.conn statements)) :
    IsMethod statements failure (daoMethod failure body) := ⟨body, rfl, through⟩

theorem IsMethod.weaken {α : Type} {statements more : Statement → Prop} {failure : α}
    {prog : Prog α} (method : IsMethod statements failure prog)
    (implies : ∀ s, statements s → more s) : IsMethod more failure prog := by
  obtain ⟨body, equal, through⟩ := method
  refine ⟨body, equal, fun guard => (through guard).weaken fun effect allowed => ?_⟩
  cases effect with
  | connector other c => exact ⟨allowed.1, fun s executes => implies s (allowed.2 s executes)⟩
  | _ => exact allowed

/-! ### Bodies -/

section Bodies

variable {guard : SqlConnGuard} {statements : Statement → Prop} {α β ρ : Type}

theorem plain_then {c : ConnectorCall} {next : c.Reply → Prog α} (plain : c.isPlain = true)
    (continues : ∀ reply, (next reply).Performs (Through guard.conn statements)) :
    ((guard.call c).bind next).Performs (Through guard.conn statements) := by
  have allowed : Through guard.conn statements (.connector guard.conn c) :=
    ⟨rfl, fun s executes => by rw [executes] at plain; cases plain⟩
  refine Performs.bind (Performs.bind (Performs.act allowed fun _ => Performs.ret _) ?_) continues
  exact Performs.ofExcept

theorem execute_then {s : Statement} {next : s.Reply → Prog α} (allowed : statements s)
    (continues : ∀ reply, (next reply).Performs (Through guard.conn statements)) :
    ((guard.execute s).bind next).Performs (Through guard.conn statements) := by
  have permitted : Through guard.conn statements (.connector guard.conn (.execute s)) :=
    ⟨rfl, fun other executes => by cases executes; exact allowed⟩
  refine Performs.bind (Performs.bind (Performs.act permitted fun _ => Performs.ret _) ?_) continues
  exact Performs.ofExcept

theorem reserve_then {count : Nat} {next : Prog α}
    (continues : next.Performs (Through guard.conn statements)) :
    ((trigger (.reserve count)).bind fun room => (ofExcept room).bind fun _ => next).Performs
      (Through guard.conn statements) := by
  refine Performs.bind (Performs.act trivial fun _ => Performs.ret _) fun room => ?_
  exact Performs.bind (Performs.ofExcept room) fun _ => continues

/-- Reading a column only where it is not NULL. -/
theorem optional_then {column : String} {next : Unit → Prog α} {p : Prop} [Decidable p]
    (continues : (next ()).Performs (Through guard.conn statements)) :
    (if p then (guard.call (.getString column)).bind next else next ()).Performs
      (Through guard.conn statements) := by
  split
  · exact plain_then rfl fun _ => continues
  · exact continues

theorem fetch_through {build : ρ → Prog β}
    (builds : ∀ row, (build row).Performs (Through guard.conn statements)) (rows : List ρ) :
    (guard.fetch build rows).Performs (Through guard.conn statements) := by
  induction rows with
  | nil => exact plain_then rfl fun _ => Performs.ret _
  | cons row rest ih =>
    refine plain_then rfl fun _ => ?_
    refine Performs.bind (builds row) fun item => ?_
    exact Performs.bind ih fun items => Performs.ret _

theorem bindNullable_through (index : Nat) (s : String) :
    (guard.bindNullable index s).Performs (Through guard.conn statements) := by
  unfold SqlConnGuard.bindNullable
  split
  · exact plain_then rfl fun _ => Performs.ret _
  · exact plain_then rfl fun _ => Performs.ret _

theorem readCount_through (result : List Nat) :
    (guard.readCount result).Performs (Through guard.conn statements) := by
  refine plain_then rfl fun _ => ?_
  cases result with
  | nil => exact Performs.ret _
  | cons count rest => exact plain_then rfl fun _ => Performs.ret _

end Bodies

/-! ### The methods, with the statements each can issue -/

namespace UserDAO

variable {sys : System}

theorem buildFromResultSet_through {guard : SqlConnGuard} {statements : Statement → Prop}
    (row : UserRow) :
    (buildFromResultSet sys guard row).Performs (Through guard.conn statements) := by
  iterate 7 refine plain_then rfl fun _ => ?_
  apply optional_then
  refine plain_then rfl fun _ => ?_
  exact optional_then (Performs.ret _)

theorem createUser_isMethod (user : User) :
    IsMethod (fun s => s = .insertUser user.username
        (PasswordUtil.hashPassword sys.sha256 user.passwdHash) user.email ∨
        s = .selectLastInsertId) (false, user) (createUser sys user) := by
  refine IsMethod.mk fun guard => ?_
  iterate 4 refine plain_then rfl fun _ => ?_
  refine execute_then (.inl rfl) fun _ => ?_
  refine plain_then rfl fun _ => ?_
  refine execute_then (.inr rfl) fun ids => ?_
  refine plain_then rfl fun _ => ?_
  cases ids with
  | nil => exact Performs.ret _
  | cons id rest => exact plain_then rfl fun _ => Performs.ret _

theorem getUserById_isMethod (id : Int32) :
    IsMethod (· = .selectUserById id) none (getUserById sys id) := by
  refine IsMethod.mk fun guard => ?_
  iterate 2 refine plain_then rfl fun _ => ?_
  refine execute_then rfl fun rows => ?_
  refine plain_then rfl fun _ => ?_
  cases rows with
  | nil => exact Performs.ret _
  | cons row rest => exact Performs.bind (buildFromResultSet_through row) fun _ => Performs.ret _

theorem getUserByUsername_isMethod (username : String) :
    IsMethod (· = .selectUserByUsername username) none (getUserByUsername sys username) := by
  refine IsMethod.mk fun guard => ?_
  iterate 2 refine plain_then rfl fun _ => ?_
  refine execute_then rfl fun rows => ?_
  refine plain_then rfl fun _ => ?_
  cases rows with
  | nil => exact Performs.ret _
  | cons row rest => exact Performs.bind (buildFromResultSet_through row) fun _ => Performs.ret _

theorem updateUser_isMethod (user : User) :
    IsMethod (fun s => ∃ qqId neteaseId, s = .updateUser user.username user.email qqId neteaseId
      user.id) false (updateUser user) := by
  refine IsMethod.mk fun guard => ?_
  iterate 3 refine plain_then rfl fun _ => ?_
  refine Performs.bind (bindNullable_through 3 user.qqId) fun qqId => ?_
  refine Performs.bind (bindNullable_through 4 user.neteaseId) fun neteaseId => ?_
  refine plain_then rfl fun _ => ?_
  exact execute_then ⟨qqId, neteaseId, rfl⟩ fun _ => Performs.ret _

theorem deleteUser_isMethod (id : Int32) :
    IsMethod (· = .deleteUser id) false (deleteUser id) := by
  refine IsMethod.mk fun guard => ?_
  iterate 2 refine plain_then rfl fun _ => ?_
  exact execute_then rfl fun _ => Performs.ret _

theorem updateColumn_isMethod (sql value : String) (userId : Int32) (s : Statement) :
    IsMethod (· = s) false (updateColumn sql value userId s) := by
  refine IsMethod.mk fun guard => ?_
  iterate 3 refine plain_then rfl fun _ => ?_
  exact execute_then rfl fun _ => Performs.ret _

end UserDAO

namespace PlaylistDAO

variable {sys : System}

theorem buildPlaylistFromResultSet_through {guard : SqlConnGuard} {statements : Statement → Prop}
    (row : PlaylistRow) :
    (buildPlaylistFromResultSet sys guard row).Performs (Through guard.conn statements) := by
  iterate 4 refine plain_then rfl fun _ => ?_
  apply optional_then
  iterate 2 refine plain_then rfl fun _ => ?_
  exact Performs.ret _

theorem buildSongFromResultSet_through {guard : SqlConnGuard} {statements : Statement → Prop}
    (row : PlaylistSongRow) :
    (buildSongFromResultSet sys guard row).Performs (Through guard.conn statements) := by
  iterate 6 refine plain_then rfl fun _ => ?_
  apply optional_then
  exact plain_then rfl fun _ => Performs.ret _

theorem createPlaylist_isMethod (playlist : Playlist) :
    IsMethod (fun s => (∃ cover, s = .insertPlaylist playlist.name playlist.userId cover) ∨
      s = .selectLastInsertId) (false, playlist) (createPlaylist playlist) := by
  refine IsMethod.mk fun guard => ?_
  iterate 3 refine plain_then rfl fun _ => ?_
  refine Performs.bind (bindNullable_through 3 playlist.cover) fun cover => ?_
  refine execute_then (.inl ⟨cover, rfl⟩) fun _ => ?_
  refine execute_then (.inr rfl) fun ids => ?_
  refine plain_then rfl fun _ => ?_
  cases ids with
  | nil => exact Performs.ret _
  | cons id rest => exact plain_then rfl fun _ => Performs.ret _

theorem getPlaylistById_isMethod (playlistId : Int32) :
    IsMethod (· = .selectPlaylistById playlistId) none (getPlaylistById sys playlistId) := by
  refine IsMethod.mk fun guard => ?_
  iterate 2 refine plain_then rfl fun _ => ?_
  refine execute_then rfl fun rows => ?_
  refine plain_then rfl fun _ => ?_
  cases rows with
  | nil => exact Performs.ret _
  | cons row rest =>
    exact Performs.bind (buildPlaylistFromResultSet_through row) fun _ => Performs.ret _

theorem getPlaylistsByUserId_isMethod (userId : Int32) :
    IsMethod (· = .selectPlaylistsByUserId userId) [] (getPlaylistsByUserId sys userId) := by
  refine IsMethod.mk fun guard => ?_
  iterate 2 refine plain_then rfl fun _ => ?_
  refine execute_then rfl fun rows => ?_
  exact plain_then rfl fun _ => fetch_through buildPlaylistFromResultSet_through rows

theorem updatePlaylist_isMethod (playlist : Playlist) :
    IsMethod (fun s => ∃ cover, s = .updatePlaylist playlist.name cover playlist.id) false
      (updatePlaylist playlist) := by
  refine IsMethod.mk fun guard => ?_
  iterate 2 refine plain_then rfl fun _ => ?_
  refine Performs.bind (bindNullable_through 2 playlist.cover) fun cover => ?_
  refine plain_then rfl fun _ => ?_
  exact execute_then ⟨cover, rfl⟩ fun _ => Performs.ret _

theorem deletePlaylist_isMethod (id : Int32) :
    IsMethod (· = .deletePlaylist id) false (deletePlaylist id) := by
  refine IsMethod.mk fun guard => ?_
  iterate 2 refine plain_then rfl fun _ => ?_
  exact execute_then rfl fun _ => Performs.ret _

theorem addSongToPlaylist_isMethod (playlistId : Int32) (song : Song) :
    IsMethod (fun s => s = .countPlaylistSong playlistId song.songId song.songWhere ∨
      ∃ songPic, s = .insertPlaylistSong playlistId song.songId song.name song.singer songPic
        song.songWhere) false (addSongToPlaylist playlistId song) := by
  refine IsMethod.mk fun guard => ?_
  iterate 4 refine plain_then rfl fun _ => ?_
  refine execute_then (.inl rfl) fun result => ?_
  refine Performs.bind (readCount_through result) fun count => ?_
  split
  · exact Performs.ret _
  · iterate 5 refine plain_then rfl fun _ => ?_
    refine Performs.bind (bindNullable_through 5 song.pic) fun songPic => ?_
    refine plain_then rfl fun _ => ?_
    exact execute_then (.inr ⟨songPic, rfl⟩) fun _ => Performs.ret _

theorem removeSongFromPlaylist_isMethod (playlistId : Int32) (songId songSource : String) :
    IsMethod (· = .deletePlaylistSong playlistId songId songSource) false
      (removeSongFromPlaylist playlistId songId songSource) := by
  refine IsMethod.mk fun guard => ?_
  iterate 4 refine plain_then rfl fun _ => ?_
  exact execute_then rfl fun _ => Performs.ret _

theorem getSongsInPlaylist_isMethod (playlistId : Int32) :
    IsMethod (· = .selectPlaylistSongs playlistId) [] (getSongsInPlaylist sys playlistId) := by
  refine IsMethod.mk fun guard => ?_
  iterate 2 refine plain_then rfl fun _ => ?_
  refine execute_then rfl fun rows => ?_
  exact plain_then rfl fun _ => fetch_through buildSongFromResultSet_through rows

theorem countSongsInPlaylist_isMethod (playlistId : Int32) :
    IsMethod (· = .countPlaylistSongs playlistId) 0 (countSongsInPlaylist playlistId) := by
  refine IsMethod.mk fun guard => ?_
  iterate 2 refine plain_then rfl fun _ => ?_
  exact execute_then rfl readCount_through

end PlaylistDAO

namespace PlayHistoryDAO

variable {sys : System}

theorem buildFromResultSet_through {guard : SqlConnGuard} {statements : Statement → Prop}
    (row : PlayHistoryRow) :
    (buildFromResultSet sys guard row).Performs (Through guard.conn statements) := by
  iterate 6 refine plain_then rfl fun _ => ?_
  apply optional_then
  iterate 3 refine plain_then rfl fun _ => ?_
  exact Performs.ret _

theorem buildSongFromResultSet_through {guard : SqlConnGuard} {statements : Statement → Prop}
    (row : PlayHistoryRow) :
    (buildSongFromResultSet guard row).Performs (Through guard.conn statements) := by
  iterate 4 refine plain_then rfl fun _ => ?_
  apply optional_then
  exact plain_then rfl fun _ => Performs.ret _

theorem addPlayHistory_isMethod (history : PlayHistory) :
    IsMethod (fun s => s = .selectSongCount history.userId history.songId ∨
      (∃ songCount id, s = .updateSongCount songCount id) ∨
      ∃ songPic, s = .insertPlayHistory insertColumns (insertValues history songPic)) false
      (addPlayHistory history) := by
  refine IsMethod.mk fun guard => ?_
  iterate 3 refine plain_then rfl fun _ => ?_
  refine execute_then (.inl rfl) fun rows => ?_
  refine plain_then rfl fun _ => ?_
  cases rows with
  | nil =>
    iterate 5 refine plain_then rfl fun _ => ?_
    refine Performs.bind (bindNullable_through 5 history.songPic) fun songPic => ?_
    refine plain_then rfl fun _ => ?_
    exact execute_then (.inr (.inr ⟨songPic, rfl⟩)) fun _ => Performs.ret _
  | cons row rest =>
    iterate 5 refine plain_then rfl fun _ => ?_
    exact execute_then (.inr (.inl ⟨_, _, rfl⟩)) fun _ => Performs.ret _

theorem getUserPlayHistory_isMethod (userId limit offset : Int32) :
    IsMethod (· = .selectPlayHistory userId limit offset) []
      (getUserPlayHistory sys userId limit offset) := by
  refine IsMethod.mk fun guard => ?_
  iterate 4 refine plain_then rfl fun _ => ?_
  refine execute_then rfl fun rows => ?_
  exact reserve_then (fetch_through buildFromResultSet_through rows)

theorem clearUserPlayHistory_isMethod (userId : Int32) :
    IsMethod (· = .clearPlayHistory userId) false (clearUserPlayHistory userId) := by
  refine IsMethod.mk fun guard => ?_
  iterate 2 refine plain_then rfl fun _ => ?_
  exact execute_then rfl fun _ => Performs.ret _

theorem deletePlayHistory_isMethod (historyId userId : Int32) :
    IsMethod (· = .deletePlayHistory historyId userId) false
      (deletePlayHistory historyId userId) := by
  refine IsMethod.mk fun guard => ?_
  iterate 3 refine plain_then rfl fun _ => ?_
  exact execute_then rfl fun _ => Performs.ret _

theorem getUserTotalPlayCount_isMethod (userId : Int32) :
    IsMethod (· = .countPlayHistory userId) 0 (getUserTotalPlayCount userId) := by
  refine IsMethod.mk fun guard => ?_
  iterate 2 refine plain_then rfl fun _ => ?_
  exact execute_then rfl readCount_through

theorem getUserRecentPlayCount_isMethod (userId days : Int32) :
    IsMethod (· = .countRecentPlayHistory userId days) 0 (getUserRecentPlayCount userId days) := by
  refine IsMethod.mk fun guard => ?_
  iterate 3 refine plain_then rfl fun _ => ?_
  exact execute_then rfl readCount_through

theorem getUserTopArtists_isMethod (userId limit : Int32) :
    IsMethod (· = .selectTopArtists userId limit) [] (getUserTopArtists userId limit) := by
  refine IsMethod.mk fun guard => ?_
  iterate 3 refine plain_then rfl fun _ => ?_
  refine execute_then rfl fun rows => fetch_through (fun row => ?_) rows
  iterate 2 refine plain_then rfl fun _ => ?_
  exact Performs.ret _

theorem getUserTopSongs_isMethod (userId limit : Int32) :
    IsMethod (· = .selectTopSongs userId limit) [] (getUserTopSongs userId limit) := by
  refine IsMethod.mk fun guard => ?_
  iterate 3 refine plain_then rfl fun _ => ?_
  exact execute_then rfl fun rows => fetch_through buildSongFromResultSet_through rows

theorem getMostPlayedSongs_isMethod (userId limit : Int32) :
    IsMethod (· = .selectTopSongs userId limit) [] (getMostPlayedSongs sys userId limit) := by
  refine IsMethod.mk fun guard => ?_
  iterate 3 refine plain_then rfl fun _ => ?_
  refine execute_then rfl fun rows => fetch_through (fun row => ?_) rows
  refine Performs.bind (buildFromResultSet_through row) fun _ => ?_
  exact plain_then rfl fun _ => Performs.ret _

end PlayHistoryDAO

/-! ### All methods as one type -/

/-- A method of the data access objects, with its arguments. -/
inductive DaoOp where
  | createUser (user : User)
  | getUserById (id : Int32)
  | getUserByUsername (username : String)
  | updateUser (user : User)
  | deleteUser (id : Int32)
  | updatePassword (userId : Int32) (newPassword : String)
  | updateQQId (userId : Int32) (qqId : String)
  | updateNetEaseId (userId : Int32) (neteaseId : String)
  | createPlaylist (playlist : Playlist)
  | getPlaylistById (playlistId : Int32)
  | getPlaylistsByUserId (userId : Int32)
  | updatePlaylist (playlist : Playlist)
  | deletePlaylist (id : Int32)
  | addSongToPlaylist (playlistId : Int32) (song : Song)
  | removeSongFromPlaylist (playlistId : Int32) (songId songSource : String)
  | getSongsInPlaylist (playlistId : Int32)
  | countSongsInPlaylist (playlistId : Int32)
  | addPlayHistory (history : PlayHistory)
  | getUserPlayHistory (userId limit offset : Int32)
  | clearUserPlayHistory (userId : Int32)
  | deletePlayHistory (historyId userId : Int32)
  | getUserTotalPlayCount (userId : Int32)
  | getUserRecentPlayCount (userId days : Int32)
  | getUserTopArtists (userId limit : Int32)
  | getUserTopSongs (userId limit : Int32)
  | getMostPlayedSongs (userId limit : Int32)
  deriving DecidableEq

namespace DaoOp

@[reducible] def Result : DaoOp → Type
  | createUser _ => Bool × User
  | createPlaylist _ => Bool × Playlist
  | getUserById _ | getUserByUsername _ => Option User
  | getPlaylistById _ => Option Playlist
  | getPlaylistsByUserId _ => List Playlist
  | getSongsInPlaylist _ | getUserTopSongs .. => List Song
  | getUserPlayHistory .. => List PlayHistory
  | getUserTopArtists .. => List (String × Int32)
  | getMostPlayedSongs .. => List (PlayHistory × Int32)
  | countSongsInPlaylist _ | getUserTotalPlayCount _ | getUserRecentPlayCount .. => Int32
  | _ => Bool

def program (sys : System) : (op : DaoOp) → Prog op.Result
  | createUser user => UserDAO.createUser sys user
  | getUserById id => UserDAO.getUserById sys id
  | getUserByUsername username => UserDAO.getUserByUsername sys username
  | updateUser user => UserDAO.updateUser user
  | deleteUser id => UserDAO.deleteUser id
  | updatePassword userId newPassword => UserDAO.updatePassword sys userId newPassword
  | updateQQId userId qqId => UserDAO.updateQQId userId qqId
  | updateNetEaseId userId neteaseId => UserDAO.updateNetEaseId userId neteaseId
  | createPlaylist playlist => PlaylistDAO.createPlaylist playlist
  | getPlaylistById playlistId => PlaylistDAO.getPlaylistById sys playlistId
  | getPlaylistsByUserId userId => PlaylistDAO.getPlaylistsByUserId sys userId
  | updatePlaylist playlist => PlaylistDAO.updatePlaylist playlist
  | deletePlaylist id => PlaylistDAO.deletePlaylist id
  | addSongToPlaylist playlistId song => PlaylistDAO.addSongToPlaylist playlistId song
  | removeSongFromPlaylist playlistId songId songSource =>
    PlaylistDAO.removeSongFromPlaylist playlistId songId songSource
  | getSongsInPlaylist playlistId => PlaylistDAO.getSongsInPlaylist sys playlistId
  | countSongsInPlaylist playlistId => PlaylistDAO.countSongsInPlaylist playlistId
  | addPlayHistory history => PlayHistoryDAO.addPlayHistory history
  | getUserPlayHistory userId limit offset =>
    PlayHistoryDAO.getUserPlayHistory sys userId limit offset
  | clearUserPlayHistory userId => PlayHistoryDAO.clearUserPlayHistory userId
  | deletePlayHistory historyId userId => PlayHistoryDAO.deletePlayHistory historyId userId
  | getUserTotalPlayCount userId => PlayHistoryDAO.getUserTotalPlayCount userId
  | getUserRecentPlayCount userId days => PlayHistoryDAO.getUserRecentPlayCount userId days
  | getUserTopArtists userId limit => PlayHistoryDAO.getUserTopArtists userId limit
  | getUserTopSongs userId limit => PlayHistoryDAO.getUserTopSongs userId limit
  | getMostPlayedSongs userId limit => PlayHistoryDAO.getMostPlayedSongs sys userId limit

/-- What the `catch` clause of the method returns: `false`, `std::nullopt`, an empty list or
0. The object passed by reference is left as it was. -/
def failure : (op : DaoOp) → op.Result
  | createUser user => (false, user)
  | createPlaylist playlist => (false, playlist)
  | getUserById _ | getUserByUsername _ | getPlaylistById _ => none
  | getPlaylistsByUserId _ | getSongsInPlaylist _ | getUserTopSongs .. | getUserPlayHistory ..
  | getUserTopArtists .. | getMostPlayedSongs .. => []
  | countSongsInPlaylist _ | getUserTotalPlayCount _ | getUserRecentPlayCount .. => 0
  | updateUser _ | deleteUser _ | updatePassword .. | updateQQId .. | updateNetEaseId ..
  | updatePlaylist _ | deletePlaylist _ | addSongToPlaylist .. | removeSongFromPlaylist ..
  | addPlayHistory _ | clearUserPlayHistory _ | deletePlayHistory .. => false

theorem isMethod (sys : System) (op : DaoOp) :
    IsMethod (fun _ => True) op.failure (op.program sys) := by
  -- Which statements a method issues does not matter here.
  have any {α : Type} {statements : Statement → Prop} {failure : α} {prog : Prog α}
      (method : IsMethod statements failure prog) : IsMethod (fun _ => True) failure prog :=
    method.weaken fun _ _ => trivial
  cases op with
  | createUser user => exact any (UserDAO.createUser_isMethod user)
  | getUserById id => exact any (UserDAO.getUserById_isMethod id)
  | getUserByUsername username => exact any (UserDAO.getUserByUsername_isMethod username)
  | updateUser user => exact any (UserDAO.updateUser_isMethod user)
  | deleteUser id => exact any (UserDAO.deleteUser_isMethod id)
  | updatePassword userId newPassword => exact any (UserDAO.updateColumn_isMethod ..)
  | updateQQId userId qqId => exact any (UserDAO.updateColumn_isMethod ..)
  | updateNetEaseId userId neteaseId => exact any (UserDAO.updateColumn_isMethod ..)
  | createPlaylist playlist => exact any (PlaylistDAO.createPlaylist_isMethod playlist)
  | getPlaylistById playlistId => exact any (PlaylistDAO.getPlaylistById_isMethod playlistId)
  | getPlaylistsByUserId userId => exact any (PlaylistDAO.getPlaylistsByUserId_isMethod userId)
  | updatePlaylist playlist => exact any (PlaylistDAO.updatePlaylist_isMethod playlist)
  | deletePlaylist id => exact any (PlaylistDAO.deletePlaylist_isMethod id)
  | addSongToPlaylist playlistId song =>
    exact any (PlaylistDAO.addSongToPlaylist_isMethod playlistId song)
  | removeSongFromPlaylist playlistId songId songSource =>
    exact any (PlaylistDAO.removeSongFromPlaylist_isMethod playlistId songId songSource)
  | getSongsInPlaylist playlistId =>
    exact any (PlaylistDAO.getSongsInPlaylist_isMethod playlistId)
  | countSongsInPlaylist playlistId =>
    exact any (PlaylistDAO.countSongsInPlaylist_isMethod playlistId)
  | addPlayHistory history => exact any (PlayHistoryDAO.addPlayHistory_isMethod history)
  | getUserPlayHistory userId limit offset =>
    exact any (PlayHistoryDAO.getUserPlayHistory_isMethod userId limit offset)
  | clearUserPlayHistory userId =>
    exact any (PlayHistoryDAO.clearUserPlayHistory_isMethod userId)
  | deletePlayHistory historyId userId =>
    exact any (PlayHistoryDAO.deletePlayHistory_isMethod historyId userId)
  | getUserTotalPlayCount userId =>
    exact any (PlayHistoryDAO.getUserTotalPlayCount_isMethod userId)
  | getUserRecentPlayCount userId days =>
    exact any (PlayHistoryDAO.getUserRecentPlayCount_isMethod userId days)
  | getUserTopArtists userId limit =>
    exact any (PlayHistoryDAO.getUserTopArtists_isMethod userId limit)
  | getUserTopSongs userId limit =>
    exact any (PlayHistoryDAO.getUserTopSongs_isMethod userId limit)
  | getMostPlayedSongs userId limit =>
    exact any (PlayHistoryDAO.getMostPlayedSongs_isMethod userId limit)

end DaoOp

end MusicPlayer
