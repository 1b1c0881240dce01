import MusicPlayer.Relational.ForeignKey
import MusicPlayer.Properties.Creation
import MusicPlayer.Properties.PlaylistEdits

/-!
# Owners and what they own

Playlists and play records belong to users, and songs to playlists. No statement breaks this, and
so the cascades of a deletion take exactly what belonged to the deleted row.
-/
namespace MusicPlayer

open Resumption Program Relational

/-- The primary keys that foreign keys name, and the foreign keys of the schema. -/
structure Db.Owned (db : Db) : Prop where
  userKeys : db.users.WellFormed (·.id)
  playlistKeys : db.playlists.WellFormed (·.id)
  playlists : References db.playlists (·.userId) db.users (·.id)
  history : References db.playHistory (·.userId) db.users (·.id)
  songs : References db.playlistSongs (·.playlistId) db.playlists (·.id)

/-- No rows in any table. -/
structure Db.Empty (db : Db) : Prop where
  users : db.users.rows = []
  playlists : db.playlists.rows = []
  playlistSongs : db.playlistSongs.rows = []
  playHistory : db.playHistory.rows = []

namespace Db.Owned

variable {db after : Db} {ctx : SqlContext}

theorem of_empty (empty : db.Empty) : db.Owned where
  userKeys := ⟨by simp [Table.Unique, empty.users], by simp [empty.users]⟩
  playlistKeys := ⟨by simp [Table.Unique, empty.playlists], by simp [empty.playlists]⟩
  playlists := .of_empty empty.playlists
  history := .of_empty empty.playHistory
  songs := .of_empty empty.playlistSongs

/-! ### Statements -/

theorem updateUserRow (owned : db.Owned) {id : Int32} {fits : Bool} {assign : UserRow → UserRow}
    {count : Nat} (executed : db.updateUserRow ctx id fits assign = some (count, after))
    (keeps : ∀ row, (assign row).id = row.id) : after.Owned := by
  have stamped (row : UserRow) : (row.stamp ctx.now assign).id = row.id := by
    rw [UserRow.stamp_id, keeps]
  rw [updateUserRow_eq executed]
  exact { owned with
    userKeys := owned.userKeys.update stamped
    playlists := owned.playlists.update_parent stamped
    history := owned.history.update_parent stamped }

theorem updatePlaylist (owned : db.Owned) {name : String} {cover : Option String} {id : Int32}
    {count : Nat} (executed : db.updatePlaylist ctx name cover id = some (count, after)) :
    after.Owned := by
  have stamped (row : PlaylistRow) :
      (row.stamp ctx.now fun row => { row with name, cover }).id = row.id ∧
        (row.stamp ctx.now fun row => { row with name, cover }).userId = row.userId := by
    unfold PlaylistRow.stamp
    split <;> exact ⟨rfl, rfl⟩
  unfold Db.updatePlaylist at executed
  split at executed
  · cases executed
  · simp only [Option.some.injEq, Prod.mk.injEq] at executed
    obtain ⟨-, rfl⟩ := executed
    exact { owned with
      playlistKeys := owned.playlistKeys.update fun row => (stamped row).1
      playlists := owned.playlists.update_child fun row => (stamped row).2
      songs := owned.songs.update_parent fun row => (stamped row).1 }

theorem insertUser (owned : db.Owned) {username passwdHash email : String} {count : Nat}
    (executed : db.insertUser ctx username passwdHash email = some (count, after)) :
    after.Owned := by
  obtain ⟨id, inserted, -, equal⟩ := insertUser_eq_some executed
  rw [equal]
  exact { owned with
    userKeys := owned.userKeys.insert rfl inserted
    playlists := owned.playlists.insert_parent inserted
    history := owned.history.insert_parent inserted }

theorem insertPlaylist (owned : db.Owned) {name : String} {userId : Int32} {cover : Option String}
    {count : Nat} (executed : db.insertPlaylist ctx name userId cover = some (count, after)) :
    after.Owned := by
  have user : ∃ owner ∈ db.users.rows, owner.id = userId := by
    unfold Db.insertPlaylist at executed
    split at executed
    next fits =>
      simp only [Bool.and_eq_true, List.any_eq_true, beq_iff_eq] at fits
      exact fits.2
    · cases executed
  obtain ⟨id, inserted, equal⟩ := insertPlaylist_eq_some executed
  rw [equal]
  exact { owned with
    playlistKeys := owned.playlistKeys.insert rfl inserted
    playlists := owned.playlists.insert_child inserted user
    songs := owned.songs.insert_parent inserted }

theorem insertPlaylistSong (owned : db.Owned) {playlistId : Int32}
    {songId songName songSinger songWhere : String} {songPic : Option String} {count : Nat}
    (executed : db.insertPlaylistSong ctx playlistId songId songName songSinger songPic
      songWhere = some (count, after)) : after.Owned := by
  obtain ⟨-, id, source, -, playlist, inserted, equal⟩ := Db.insertPlaylistSong_eq_some executed
  rw [equal]
  exact { owned with songs := owned.songs.insert_child inserted playlist }

theorem insertPlayHistory (owned : db.Owned) {columns : List HistoryColumn}
    {values : List SqlValue} {count : Nat}
    (executed : db.insertPlayHistory ctx columns values = some (count, after)) :
    after.Owned := by
  simp only [Db.insertPlayHistory, Option.bind_eq_bind, Option.bind_eq_some_iff] at executed
  obtain ⟨-, -, user, -, executed⟩ := executed
  split at executed
  next userId =>
    simp only [Option.bind_eq_some_iff] at executed
    obtain ⟨_, checked, songId, -, songName, -, songSinger, -, songPic, -, source, -, executed⟩ :=
      executed
    -- The foreign key was checked, so the user is there.
    have present : ∃ owner ∈ db.users.rows, owner.id = userId := by
      unfold guard at checked
      split at checked
      next holds => simpa [List.any_eq_true] using holds
      · cases checked
    split at executed
    · obtain ⟨songWhere, -, executed⟩ := Option.bind_eq_some_iff.mp executed
      split at executed
      all_goals
        simp only [Option.bind_eq_some_iff] at executed
        obtain ⟨playedAt, -, ⟨id, rows⟩, inserted, built⟩ := executed
        cases built
        exact { owned with history := owned.history.insert_child inserted present }
    · cases executed
  · cases executed

theorem deletePlaylistRows (owned : db.Owned) (selects : PlaylistRow → Bool) :
    (db.deletePlaylistRows selects).Owned := by
  have passed : ∀ song ∈ db.playlistSongs.rows, ∀ playlist ∈ db.playlists.rows,
      playlist.id = song.playlistId → selects playlist = true →
        (db.playlists.rows.filter selects).any (·.id == song.playlistId) = true := by
    intro song _ playlist present owns selected
    simp only [List.any_eq_true, List.mem_filter, beq_iff_eq]
    exact ⟨playlist, ⟨present, selected⟩, owns⟩
  exact { owned with
    playlistKeys := owned.playlistKeys.delete selects
    playlists := owned.playlists.delete_child selects
    songs := owned.songs.cascade passed }

theorem deleteUser (owned : db.Owned) (id : Int32) : (db.deleteUser id).2.Owned := by
  have cascaded := owned.deletePlaylistRows (·.userId == id)
  exact { cascaded with
    userKeys := owned.userKeys.delete _
    playlists := owned.playlists.cascade fun row _ owner _ owns selected => by rwa [← owns]
    history := owned.history.cascade fun row _ owner _ owns selected => by rwa [← owns] }

/-- No statement leaves a row without its owner. -/
theorem statement (owned : db.Owned) {s : Statement} {reply : s.Reply}
    (executed : s.exec ctx db = some (reply, after)) : after.Owned := by
  cases s with
  | insertUser => exact owned.insertUser executed
  | updateUser => exact owned.updateUserRow executed fun _ => rfl
  | updatePassword => exact owned.updateUserRow executed fun _ => rfl
  | updateQQId => exact owned.updateUserRow executed fun _ => rfl
  | updateNetEaseId => exact owned.updateUserRow executed fun _ => rfl
  -- Deletions take the rows below with them.
  | deleteUser id =>
    cases executed
    exact owned.deleteUser id
  | insertPlaylist => exact owned.insertPlaylist executed
  | updatePlaylist => exact owned.updatePlaylist executed
  | deletePlaylist id =>
    cases executed
    exact owned.deletePlaylistRows (·.id == id)
  | insertPlaylistSong => exact owned.insertPlaylistSong executed
  | deletePlaylistSong playlistId songId songWhere =>
    cases executed
    exact { owned with songs := owned.songs.delete_child _ }
  | updateSongCount songCount id =>
    cases executed
    exact { owned with history := owned.history.update_child fun _ => rfl }
  | insertPlayHistory => exact owned.insertPlayHistory executed
  | clearPlayHistory userId =>
    cases executed
    exact { owned with history := owned.history.delete_child _ }
  | deletePlayHistory id userId =>
    cases executed
    exact { owned with history := owned.history.delete_child _ }
  -- A negative limit or offset refuses these three; no query changes a table.
  | selectPlayHistory userId limit offset =>
    obtain ⟨rows, -, equal⟩ := Option.map_eq_some_iff.mp executed
    cases equal
    exact owned
  | selectTopArtists userId limit =>
    obtain ⟨rows, -, equal⟩ := Option.map_eq_some_iff.mp executed
    cases equal
    exact owned
  | selectTopSongs userId limit =>
    obtain ⟨rows, -, equal⟩ := Option.map_eq_some_iff.mp executed
    cases equal
    exact owned
  | _ =>
    cases executed
    exact owned

end Db.Owned

/-! ### Deletions -/

/-- The user is gone, with the playlists, their songs and the history that were the user's. Every
other row is as it was. -/
structure RemovesUser (id : Int32) (before after : Db) : Prop where
  there : ∃ user, before.users.rows.filter (·.id == id) = [user]
  users : after.users.rows = before.users.rows.filter (·.id != id)
  playlists : after.playlists.rows = before.playlists.rows.filter (·.userId != id)
  songs : after.playlistSongs.rows = before.playlistSongs.rows.filter fun song =>
    !before.playlists.rows.any fun playlist =>
      playlist.userId == id && playlist.id == song.playlistId
  history : after.playHistory.rows = before.playHistory.rows.filter (·.userId != id)

/-- The playlist is gone with its songs. Every other row is as it was. -/
structure RemovesPlaylist (id : Int32) (before after : Db) : Prop where
  there : ∃ playlist, before.playlists.rows.filter (·.id == id) = [playlist]
  users : after.users.rows = before.users.rows
  playlists : after.playlists.rows = before.playlists.rows.filter (·.id != id)
  songs : after.playlistSongs.rows = before.playlistSongs.rows.filter (·.playlistId != id)
  history : after.playHistory.rows = before.playHistory.rows

/-- Songs are gone from playlists, and there was one of them. Every other row is as it was. -/
structure RemovesSongs (selects : PlaylistSongRow → Bool) (before after : Db) : Prop where
  there : ∃ song ∈ before.playlistSongs.rows, selects song = true
  users : after.users.rows = before.users.rows
  playlists : after.playlists.rows = before.playlists.rows
  songs : after.playlistSongs.rows = before.playlistSongs.rows.filter fun song => !selects song
  history : after.playHistory.rows = before.playHistory.rows

/-- Play records are gone, and there was one of them. Every other row is as it was. -/
structure RemovesHistory (selects : PlayHistoryRow → Bool) (before after : Db) : Prop where
  there : ∃ row ∈ before.playHistory.rows, selects row = true
  users : after.users.rows = before.users.rows
  playlists : after.playlists.rows = before.playlists.rows
  songs : after.playlistSongs.rows = before.playlistSongs.rows
  history : after.playHistory.rows = before.playHistory.rows.filter fun row => !selects row

/-- What a call that deletes has done to the tables: exactly what it is for if it has returned
true, and nothing otherwise. -/
def DeletionDone (sys : System) : (op : DaoOp) → Except Exn op.Result → Db → Db → Prop
  | .deleteUser id, result, before, after =>
    (result = .ok true → RemovesUser id before after) ∧ (result ≠ .ok true → after = before)
  | .deletePlaylist id, result, before, after =>
    (result = .ok true → RemovesPlaylist id before after) ∧ (result ≠ .ok true → after = before)
  | .removeSongFromPlaylist playlistId songId songSource, result, before, after =>
    (result = .ok true → RemovesSongs
      (Db.isPlaylistSong sys.collate playlistId songId songSource) before after) ∧
    (result ≠ .ok true → after = before)
  | .clearUserPlayHistory userId, result, before, after =>
    (result = .ok true → RemovesHistory (·.userId == userId) before after) ∧
    (result ≠ .ok true → after = before)
  | .deletePlayHistory historyId userId, result, before, after =>
    (result = .ok true →
      RemovesHistory (fun row => row.id == historyId && row.userId == userId) before after) ∧
    (result ≠ .ok true → after = before)
  | _, _, _, _ => True

section Deletions

variable {sys : System} {db : Db} {id : Int32}

theorem removesUser (owned : db.Owned) {user : UserRow} (present : user ∈ db.users.rows) :
    RemovesUser user.id db (db.deleteUser user.id).2 where
  there := ⟨user, owned.userKeys.unique.filter_key present⟩
  users := rfl
  playlists := rfl
  songs := by
    simp only [Db.deleteUser, Db.deletePlaylistRows, Table.delete, List.any_filter]
  history := rfl

theorem deleteUser_absent (owned : db.Owned) (absent : ∀ user ∈ db.users.rows, user.id ≠ id) :
    (db.deleteUser id).2 = db := by
  have users : db.users.delete (·.id == id) = db.users :=
    Table.delete_of_unselected fun user member => beq_false_of_ne (absent user member)
  have playlists : db.playlists.delete (·.userId == id) = db.playlists :=
    Table.delete_of_unselected (owned.playlists.unowned absent)
  have history : db.playHistory.delete (·.userId == id) = db.playHistory :=
    Table.delete_of_unselected (owned.history.unowned absent)
  have none : db.playlists.rows.filter (·.userId == id) = [] :=
    List.filter_eq_nil_iff.mpr fun row member => by simp [owned.playlists.unowned absent row member]
  have songs : db.playlistSongs.delete (fun _ => false) = db.playlistSongs :=
    Table.delete_of_unselected fun _ _ => rfl
  simp [Db.deleteUser, Db.deletePlaylistRows, users, playlists, history, none, songs]

theorem removesPlaylist (owned : db.Owned) {playlist : PlaylistRow}
    (present : playlist ∈ db.playlists.rows) :
    RemovesPlaylist playlist.id db (db.deletePlaylistRows (·.id == playlist.id)) where
  there := ⟨playlist, owned.playlistKeys.unique.filter_key present⟩
  users := rfl
  playlists := rfl
  songs := by
    have only := owned.playlistKeys.unique.filter_key present
    simp only [Db.deletePlaylistRows, Table.delete, only, List.any_cons, List.any_nil,
      Bool.or_false]
    refine List.filter_congr fun song _ => ?_
    rw [Bool.beq_comm]
    rfl
  history := rfl

theorem deletePlaylist_absent (absent : ∀ playlist ∈ db.playlists.rows, playlist.id ≠ id) :
    db.deletePlaylistRows (·.id == id) = db := by
  have unselected : ∀ playlist ∈ db.playlists.rows, (playlist.id == id) = false :=
    fun playlist member => beq_false_of_ne (absent playlist member)
  have playlists := Table.delete_of_unselected unselected
  have none : db.playlists.rows.filter (·.id == id) = [] :=
    List.filter_eq_nil_iff.mpr fun row member => by simp [unselected row member]
  have songs : db.playlistSongs.delete (fun _ => false) = db.playlistSongs :=
    Table.delete_of_unselected fun _ _ => rfl
  simp [Db.deletePlaylistRows, playlists, none, songs]

/-- A method that deletes returns true if there was a row to delete. -/
theorem affectsRows_iff {ρ : Type} {rows : List ρ} {selects : ρ → Bool} :
    affectsRows (rows.countP selects) = true ↔ ∃ row ∈ rows, selects row = true := by
  rw [affectsRows_countP, List.any_eq_true]

/-- A DELETE that does not make the method return true changes no table. -/
theorem delete_of_ne_true {ρ : Type} {table : Table ρ} {selects : ρ → Bool}
    (other : (.ok (affectsRows (table.rows.countP selects)) : Except Exn Bool) ≠ .ok true) :
    table.delete selects = table := by
  refine Table.delete_of_unselected fun row member => ?_
  by_contra selected
  have affects := affectsRows_iff.mpr ⟨row, member, Bool.eq_true_of_not_eq_false selected⟩
  exact other (congrArg Except.ok affects)

theorem Db.Owned.deletionDone_user (owned : db.Owned) (id : Int32) :
    DeletionDone sys (.deleteUser id) (.ok (affectsRows (db.deleteUser id).1)) db
      (db.deleteUser id).2 := by
  have affects : affectsRows (db.deleteUser id).1 = true ↔
      ∃ user ∈ db.users.rows, user.id = id := by
    rw [Db.deleteUser, affectsRows_iff]
    simp
  constructor
  · intro returned
    obtain ⟨user, present, rfl⟩ := affects.mp (Except.ok.inj returned)
    exact removesUser owned present
  · intro other
    refine deleteUser_absent owned fun user present same => other ?_
    rw [affects.mpr ⟨user, present, same⟩]

theorem Db.Owned.deletionDone_playlist (owned : db.Owned) (id : Int32) :
    DeletionDone sys (.deletePlaylist id)
      (.ok (affectsRows (db.playlists.rows.countP (·.id == id)))) db
      (db.deletePlaylistRows (·.id == id)) := by
  have affects : affectsRows (db.playlists.rows.countP (·.id == id)) = true ↔
      ∃ playlist ∈ db.playlists.rows, playlist.id = id := by
    rw [affectsRows_iff]
    simp
  constructor
  · intro returned
    obtain ⟨playlist, present, rfl⟩ := affects.mp (Except.ok.inj returned)
    exact removesPlaylist owned present
  · intro other
    refine deletePlaylist_absent fun playlist present same => other ?_
    rw [affects.mpr ⟨playlist, present, same⟩]

/-- The other three delete from one table, and no second table refers to its rows. -/
theorem deletionDone_songs (selects : PlaylistSongRow → Bool) :
    let result : Except Exn Bool := .ok (affectsRows (db.playlistSongs.rows.countP selects))
    let after : Db := { db with playlistSongs := db.playlistSongs.delete selects }
    (result = .ok true → RemovesSongs selects db after) ∧ (result ≠ .ok true → after = db) := by
  refine ⟨fun returned => ?_, fun other => ?_⟩
  · have affects := Except.ok.inj returned
    exact ⟨affectsRows_iff.mp affects, rfl, rfl, rfl, rfl⟩
  · rw [delete_of_ne_true other]

theorem deletionDone_history (selects : PlayHistoryRow → Bool) :
    let result : Except Exn Bool := .ok (affectsRows (db.playHistory.rows.countP selects))
    let after : Db := { db with playHistory := db.playHistory.delete selects }
    (result = .ok true → RemovesHistory selects db after) ∧ (result ≠ .ok true → after = db) := by
  refine ⟨fun returned => ?_, fun other => ?_⟩
  · have affects := Except.ok.inj returned
    exact ⟨affectsRows_iff.mp affects, rfl, rfl, rfl, rfl⟩
  · rw [delete_of_ne_true other]

/-- A call that ends in an exception, without having done anything. -/
theorem deletionDone_error (op : DaoOp) (exn : Exn) (db : Db) :
    DeletionDone sys op (.error exn) db db := by
  cases op <;> simp [DeletionDone]

/-- A call that returns what its `catch` clause returns, without having done anything. -/
theorem deletionDone_failure (op : DaoOp) (db : Db) :
    DeletionDone sys op (.ok op.failure) db db := by
  cases op <;> simp [DeletionDone, DaoOp.failure]

end Deletions

/-! ### Calls made alone -/

section Alone

variable {sys : System} {env : Env} {w : World} {k : Conn} {n : Nat}

/-- What the statement of a call has done, the call has done. -/
theorem deletionDone_issued {op : DaoOp} {s : Statement} {finish : s.Reply → op.Result}
    {quiet : Prop} [Decidable quiet] {outcome : Option (s.Reply × Db)}
    (done : ∀ reply db, outcome = some (reply, db) →
      DeletionDone sys op (.ok (finish reply)) w.db db) :
    DeletionDone sys op (issued op.failure finish quiet outcome w).1 w.db
      (issued op.failure finish quiet outcome w).2.db := by
  unfold issued
  split
  · split
    next reply db => exact done reply db rfl
    · exact deletionDone_failure op w.db
  · exact deletionDone_failure op w.db

/-- A deletion that has no other call beside it. -/
theorem deletion_alone (owned : w.db.Owned) (op : DaoOp) (env : Env) (n : Nat) :
    DeletionDone sys op ((op.program sys).run (exec sys env) n w).1 w.db
      ((op.program sys).run (exec sys env) n w).2.db := by
  cases connected : (env.acquired n).1 with
  | none =>
    -- The first call through a null pointer is the end of the call.
    cases op with
    | deleteUser id =>
      simp only [DaoOp.program, UserDAO.deleteUser]
      rw [run_daoMethod_null connected rfl]
      exact deletionDone_error ..
    | deletePlaylist | removeSongFromPlaylist =>
      simp only [DaoOp.program, PlaylistDAO.deletePlaylist, PlaylistDAO.removeSongFromPlaylist]
      rw [run_daoMethod_null connected rfl]
      exact deletionDone_error ..
    | clearUserPlayHistory | deletePlayHistory =>
      simp only [DaoOp.program, PlayHistoryDAO.clearUserPlayHistory,
        PlayHistoryDAO.deletePlayHistory]
      rw [run_daoMethod_null connected rfl]
      exact deletionDone_error ..
    | _ => trivial
  | some k =>
    cases op with
    | deleteUser id =>
      simp only [DaoOp.program, UserDAO.run_deleteUser connected]
      refine deletionDone_issued fun reply db executed => ?_
      cases executed
      exact owned.deletionDone_user id
    | deletePlaylist id =>
      simp only [DaoOp.program, PlaylistDAO.run_deletePlaylist connected]
      refine deletionDone_issued fun reply db executed => ?_
      cases executed
      exact owned.deletionDone_playlist id
    -- The other three name no row that a second table refers to.
    | removeSongFromPlaylist =>
      simp only [DaoOp.program, PlaylistDAO.run_removeSongFromPlaylist connected]
      refine deletionDone_issued fun reply db executed => ?_
      cases executed
      exact deletionDone_songs _
    | clearUserPlayHistory =>
      simp only [DaoOp.program, PlayHistoryDAO.run_clearUserPlayHistory connected]
      refine deletionDone_issued fun reply db executed => ?_
      cases executed
      exact deletionDone_history _
    | deletePlayHistory =>
      simp only [DaoOp.program, PlayHistoryDAO.run_deletePlayHistory connected]
      refine deletionDone_issued fun reply db executed => ?_
      cases executed
      exact deletionDone_history _
    | _ => trivial

end Alone

end MusicPlayer
