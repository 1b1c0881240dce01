import MusicPlayer.Resumption.Linearization
import MusicPlayer.Properties.Discipline

/-!
# Methods with one statement

All methods but `addSongToPlaylist` and `addPlayHistory` act on the tables by a single statement.
The two that create something read the id afterwards, which is a value of their own connection.
-/
namespace MusicPlayer

open Resumption Program

/-- Where an effect of a method may stand. The connection is taken before the statement. -/
def Effect.mover : Effect → Mover
  | .lockPool | .waitFor | .constructGuard _ => .early
  | .connector _ (.execute .selectLastInsertId) => .own
  | .connector _ (.execute _) => .commits
  | .now _ | .releaseConnection _ | .connector _ _ | .reserve _ => .free
  | _ => .commits

/-- The methods of which a call has one statement on the tables. -/
def DaoOp.single : DaoOp → Bool
  | addSongToPlaylist .. | addPlayHistory _ => false
  | _ => true

section Rules

variable {α β : Type} {committed : Bool} {guard : SqlConnGuard}

/-- Calls that execute no statement may stand anywhere. -/
theorem single_of_through (guard : SqlConnGuard) {prog : Prog α}
    (performs : prog.Performs (Through guard.conn fun _ => False)) :
    prog.Single Effect.mover committed := by
  refine Single.of_performs performs fun effect allowed => ?_
  cases effect with
  | connector other c =>
    cases c with
    | execute s => exact (allowed.2 s rfl).elim
    | _ => exact ⟨trivial, rfl⟩
  | reserve count => exact ⟨trivial, rfl⟩
  | _ => exact allowed.elim

theorem single_plain {c : ConnectorCall} {next : c.Reply → Prog α} (plain : c.isPlain = true)
    (continues : ∀ reply, (next reply).Single Effect.mover committed) :
    ((guard.call c).bind next).Single Effect.mover committed := by
  have free : Effect.mover (.connector guard.conn c) = .free := by
    cases c with
    | execute s => cases plain
    | _ => rfl
  refine Single.act_iff.mpr ⟨by rw [free]; trivial, fun reply => ?_⟩
  rw [free]
  cases reply with
  | ok value => exact continues value
  | error exn => trivial

theorem single_bindNullable {index : Nat} {text : String} {next : Option String → Prog α}
    (continues : ∀ value, (next value).Single Effect.mover committed) :
    ((guard.bindNullable index text).bind next).Single Effect.mover committed := by
  unfold SqlConnGuard.bindNullable
  split
  · rw [bind_eq, bind_assoc]
    exact single_plain rfl fun _ => continues none
  · rw [bind_eq, bind_assoc]
    exact single_plain rfl fun _ => continues (some text)

/-- The statement on the tables. -/
theorem single_execute {s : Statement} {next : s.Reply → Prog α}
    (commits : Effect.mover (.connector guard.conn (.execute s)) = .commits)
    (continues : ∀ reply, (next reply).Single Effect.mover true) :
    ((guard.execute s).bind next).Single Effect.mover false := by
  refine Single.act_iff.mpr ⟨by rw [commits]; rfl, fun reply => ?_⟩
  rw [commits]
  cases reply with
  | ok value => exact continues value
  | error exn => trivial

/-- `SELECT LAST_INSERT_ID()` -/
theorem single_lastInsertId {next : List Int32 → Prog α}
    (continues : ∀ reply, (next reply).Single Effect.mover true) :
    ((guard.execute .selectLastInsertId).bind next).Single Effect.mover true := by
  refine Single.act_iff.mpr ⟨rfl, fun reply => ?_⟩
  cases reply with
  | ok value => exact continues value
  | error exn => trivial

theorem single_trigger_bind {effect : Effect} {next : effect.Reply → Prog α}
    (allowed : effect.mover.allowed committed)
    (continues : ∀ reply, (next reply).Single Effect.mover (effect.mover.after committed)) :
    ((trigger effect).bind next).Single Effect.mover committed :=
  Single.act_iff.mpr ⟨allowed, continues⟩

theorem early_grants :
    Grants (fun effect => effect.mover = .early ∨ effect.mover = .free) fun _ => False where
  clock _ := .inr rfl
  lockPool := .inl rfl
  waitFor := .inl rfl
  constructGuard _ := .inl rfl
  releaseConnection _ := .inr rfl
  connector conn c none := by
    cases c with
    | execute s => exact (none s rfl).elim
    | _ => exact .inr rfl
  reserve _ := .inr rfl

/-- The method around a body with one statement. -/
theorem single_daoMethod {failure : α} {body : SqlConnGuard → Prog α}
    (works : ∀ guard, (body guard).Single Effect.mover false) :
    (daoMethod failure body).Single Effect.mover false := by
  refine Single.tryCatch (Single.bind_of_performs (performs_getConnection early_grants) ?_
    fun conn => ?_) fun exn after => by cases exn <;> trivial
  · rintro effect (early | free)
    · rw [early]
      exact ⟨rfl, rfl⟩
    · rw [free]
      exact ⟨trivial, rfl⟩
  · refine single_trigger_bind rfl fun _ => Single.bind (Single.attempt (works ⟨conn⟩)) ?_
    -- The connection is given back however the body has ended.
    intro result after
    have ends (after : Bool) : (Program.ofExcept result : Prog α).Single Effect.mover after := by
      cases result with
      | ok value => trivial
      | error exn => trivial
    cases conn with
    | none => exact ends after
    | some k => exact single_trigger_bind trivial fun _ => ends after

end Rules

/-! ### The methods -/

namespace DaoOp

theorem single_updateColumn {sql value : String} {userId : Int32} {s : Statement}
    (commits : ∀ conn, Effect.mover (.connector conn (.execute s)) = .commits) :
    (UserDAO.updateColumn sql value userId s).Single Effect.mover false := by
  refine single_daoMethod fun guard => ?_
  iterate 3 refine single_plain rfl fun _ => ?_
  exact single_execute (commits guard.conn) fun _ => trivial

theorem single_program (sys : System) {op : DaoOp} (single : op.single = true) :
    (op.program sys).Single Effect.mover false := by
  cases op with
  | createUser user =>
    dsimp only [program]
    refine single_daoMethod fun guard => ?_
    iterate 4 refine single_plain rfl fun _ => ?_
    refine single_execute rfl fun _ => single_plain rfl fun _ => single_lastInsertId fun ids => ?_
    refine single_plain rfl fun _ => ?_
    cases ids with
    | nil => trivial
    | cons id rest => exact single_plain rfl fun _ => trivial
  | getUserById id =>
    dsimp only [program]
    refine single_daoMethod fun guard => ?_
    iterate 2 refine single_plain rfl fun _ => ?_
    refine single_execute rfl fun rows => single_plain rfl fun _ => ?_
    cases rows with
    | nil => trivial
    | cons row rest =>
      refine Single.bind (single_of_through guard (UserDAO.buildFromResultSet_through row)) ?_
      exact fun _ _ => trivial
  | getUserByUsername username =>
    dsimp only [program]
    refine single_daoMethod fun guard => ?_
    iterate 2 refine single_plain rfl fun _ => ?_
    refine single_execute rfl fun rows => single_plain rfl fun _ => ?_
    cases rows with
    | nil => trivial
    | cons row rest =>
      refine Single.bind (single_of_through guard (UserDAO.buildFromResultSet_through row)) ?_
      exact fun _ _ => trivial
  | updateUser user =>
    dsimp only [program]
    refine single_daoMethod fun guard => ?_
    iterate 3 refine single_plain rfl fun _ => ?_
    iterate 2 refine single_bindNullable fun _ => ?_
    exact single_plain rfl fun _ => single_execute rfl fun _ => trivial
  | deleteUser id | deletePlaylist id | clearUserPlayHistory id =>
    dsimp only [program]
    refine single_daoMethod fun guard => ?_
    iterate 2 refine single_plain rfl fun _ => ?_
    exact single_execute rfl fun _ => trivial
  | updatePassword userId newPassword => exact single_updateColumn fun _ => rfl
  | updateQQId userId qqId => exact single_updateColumn fun _ => rfl
  | updateNetEaseId userId neteaseId => exact single_updateColumn fun _ => rfl
  | createPlaylist playlist =>
    dsimp only [program]
    refine single_daoMethod fun guard => ?_
    iterate 3 refine single_plain rfl fun _ => ?_
    refine single_bindNullable fun _ => single_execute rfl fun _ => ?_
    refine single_lastInsertId fun ids => ?_
    refine single_plain rfl fun _ => ?_
    cases ids with
    | nil => trivial
    | cons id rest => exact single_plain rfl fun _ => trivial
  | getPlaylistById playlistId =>
    dsimp only [program]
    refine single_daoMethod fun guard => ?_
    iterate 2 refine single_plain rfl fun _ => ?_
    refine single_execute rfl fun rows => single_plain rfl fun _ => ?_
    cases rows with
    | nil => trivial
    | cons row rest =>
      refine Single.bind (single_of_through guard ?_) fun _ _ => trivial
      exact PlaylistDAO.buildPlaylistFromResultSet_through row
  | getPlaylistsByUserId userId =>
    dsimp only [program]
    refine single_daoMethod fun guard => ?_
    iterate 2 refine single_plain rfl fun _ => ?_
    refine single_execute rfl fun rows => single_plain rfl fun _ => single_of_through guard ?_
    exact fetch_through PlaylistDAO.buildPlaylistFromResultSet_through rows
  | updatePlaylist playlist =>
    dsimp only [program]
    refine single_daoMethod fun guard => ?_
    iterate 2 refine single_plain rfl fun _ => ?_
    refine single_bindNullable fun _ => single_plain rfl fun _ => ?_
    exact single_execute rfl fun _ => trivial
  | removeSongFromPlaylist playlistId songId songSource =>
    dsimp only [program]
    refine single_daoMethod fun guard => ?_
    iterate 4 refine single_plain rfl fun _ => ?_
    exact single_execute rfl fun _ => trivial
  | getSongsInPlaylist playlistId =>
    dsimp only [program]
    refine single_daoMethod fun guard => ?_
    iterate 2 refine single_plain rfl fun _ => ?_
    refine single_execute rfl fun rows => single_plain rfl fun _ => single_of_through guard ?_
    exact fetch_through PlaylistDAO.buildSongFromResultSet_through rows
  | countSongsInPlaylist id | getUserTotalPlayCount id =>
    dsimp only [program]
    refine single_daoMethod fun guard => ?_
    iterate 2 refine single_plain rfl fun _ => ?_
    exact single_execute rfl fun result => single_of_through guard (readCount_through result)
  | getUserPlayHistory userId limit offset =>
    dsimp only [program]
    refine single_daoMethod fun guard => ?_
    iterate 4 refine single_plain rfl fun _ => ?_
    refine single_execute rfl fun rows => single_of_through guard ?_
    exact reserve_then (fetch_through PlayHistoryDAO.buildFromResultSet_through rows)
  | deletePlayHistory historyId userId =>
    dsimp only [program]
    refine single_daoMethod fun guard => ?_
    iterate 3 refine single_plain rfl fun _ => ?_
    exact single_execute rfl fun _ => trivial
  | getUserRecentPlayCount userId days =>
    dsimp only [program]
    refine single_daoMethod fun guard => ?_
    iterate 3 refine single_plain rfl fun _ => ?_
    exact single_execute rfl fun result => single_of_through guard (readCount_through result)
  | getUserTopArtists userId limit =>
    dsimp only [program]
    refine single_daoMethod fun guard => ?_
    iterate 3 refine single_plain rfl fun _ => ?_
    refine single_execute rfl fun rows => single_of_through guard ?_
    refine fetch_through (fun row => ?_) rows
    iterate 2 refine plain_then rfl fun _ => ?_
    exact Performs.ret _
  | getUserTopSongs userId limit =>
    dsimp only [program]
    refine single_daoMethod fun guard => ?_
    iterate 3 refine single_plain rfl fun _ => ?_
    refine single_execute rfl fun rows => single_of_through guard ?_
    exact fetch_through PlayHistoryDAO.buildSongFromResultSet_through rows
  | getMostPlayedSongs userId limit =>
    dsimp only [program]
    refine single_daoMethod fun guard => ?_
    iterate 3 refine single_plain rfl fun _ => ?_
    refine single_execute rfl fun rows => single_of_through guard ?_
    refine fetch_through (fun row => ?_) rows
    refine Performs.bind (PlayHistoryDAO.buildFromResultSet_through row) fun _ => ?_
    exact plain_then rfl fun _ => Performs.ret _
  | addSongToPlaylist playlistId song => cases single
  | addPlayHistory history => cases single

end DaoOp

end MusicPlayer
