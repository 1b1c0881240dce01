import MusicPlayer.Properties.Creation
import MusicPlayer.Properties.ReadMethods
import MusicPlayer.Relational.Numbering

/-!
# Editing playlists

The methods that write to `playlists` and `playlist_songs`, called one after the other without
connector failures. `EditStep` says once what a call can do; the properties of runs go through it.
-/
namespace MusicPlayer

open Resumption Program Relational

inductive PlaylistOp where
  | create (playlist : Playlist)
  | add (playlistId : Int32) (song : Song)
  | remove (playlistId : Int32) (songId songSource : String)
  | delete (playlistId : Int32)

namespace PlaylistOp

def program : PlaylistOp → Prog Bool
  | create playlist => (PlaylistDAO.createPlaylist playlist).bind fun outcome => .ret outcome.1
  | add playlistId song => PlaylistDAO.addSongToPlaylist playlistId song
  | remove playlistId songId songSource =>
    PlaylistDAO.removeSongFromPlaylist playlistId songId songSource
  | delete playlistId => PlaylistDAO.deletePlaylist playlistId

/-- The playlist that a call is about. A playlist to be created has no id yet. -/
def playlist? : PlaylistOp → Option Int32
  | create _ => none
  | add playlistId _ | remove playlistId _ _ | delete playlistId => some playlistId

end PlaylistOp

/-- A call of a run, with the world before and after it. -/
structure Edited where
  op : PlaylistOp
  before : World
  result : Except Exn Bool
  after : World

def edited (sys : System) (env : Env) (w : World) (op : PlaylistOp) : Edited where
  op := op
  before := w
  result := (runProg sys env op.program w).1
  after := (runProg sys env op.program w).2

/-- Calls one after the other. The journal has the newest first. -/
inductive EditRun (sys : System) (start : World) : List Edited → World → Prop where
  | start : EditRun sys start [] start
  | call {journal : List Edited} {w : World} (run : EditRun sys start journal w) (env : Env)
      (op : PlaylistOp) (faultless : env.Faultless) :
      EditRun sys start (edited sys env w op :: journal) (edited sys env w op).after

/-! ### What a call can do -/

/-- Some row of `playlist_songs` has the key. -/
def Db.hasSong (collate : String → String) (db : Db) (playlistId : Int32)
    (songId songWhere : String) : Prop :=
  db.playlistSongs.rows.any (Db.isPlaylistSong collate playlistId songId songWhere) = true

/-- What a call can do to a world, with its result. -/
inductive EditStep (sys : System) (w : World) : PlaylistOp → Bool → World → Prop where
  | create {playlist : Playlist} {created : Bool} {w' : World}
      (songs : w'.db.playlistSongs = w.db.playlistSongs)
      (playlists : ∀ row ∈ w.db.playlists.rows, row ∈ w'.db.playlists.rows) :
      EditStep sys w (.create playlist) created w'
  | present {playlistId : Int32} {song : Song}
      (has : w.db.hasSong sys.collate playlistId song.songId song.songWhere) :
      EditStep sys w (.add playlistId song) true w
  | added {playlistId : Int32} {song : Song} {ctx : SqlContext} {count : Nat} {db : Db}
      (collation : ctx.collate = sys.collate)
      (hasNot : ¬w.db.hasSong sys.collate playlistId song.songId song.songWhere)
      (executed : w.db.insertPlaylistSong ctx playlistId song.songId song.name song.singer
        (nullable song.pic) song.songWhere = some (count, db)) :
      EditStep sys w (.add playlistId song) true { w with db }
  | refused {playlistId : Int32} {song : Song}
      (hasNot : ¬w.db.hasSong sys.collate playlistId song.songId song.songWhere) :
      EditStep sys w (.add playlistId song) false w
  | remove {playlistId : Int32} {songId songSource : String} {removed : Bool} {db : Db}
      (removed_iff : removed = true ↔ w.db.hasSong sys.collate playlistId songId songSource)
      (deleted : db = { w.db with
        playlistSongs := w.db.playlistSongs.delete
          (Db.isPlaylistSong sys.collate playlistId songId songSource) }) :
      EditStep sys w (.remove playlistId songId songSource) removed { w with db }
  | delete {playlistId : Int32} {deleted : Bool} :
      EditStep sys w (.delete playlistId) deleted
        { w with db := w.db.deletePlaylistRows (·.id == playlistId) }

/-- An accepted INSERT appends the row of a song to the songs of an existing playlist. -/
theorem Db.insertPlaylistSong_eq_some {ctx : SqlContext} {before after : Db} {count : Nat}
    {playlistId : Int32} {songId songName songSinger songWhere : String} {songPic : Option String}
    (executed : before.insertPlaylistSong ctx playlistId songId songName songSinger songPic
      songWhere = some (count, after)) :
    count = 1 ∧ ∃ id source, SongWhere.ofText ctx.collate songWhere = some source ∧
      (∃ row ∈ before.playlists.rows, row.id = playlistId) ∧
      before.playlistSongs.insert (fun id => ⟨id, playlistId, songId, songName, songSinger, songPic,
        source, ctx.now⟩) = some (id, after.playlistSongs) ∧
      after = { before with
        playlistSongs := after.playlistSongs
        lastInsertId := Function.update before.lastInsertId ctx.conn id } := by
  simp only [insertPlaylistSong, Option.bind_eq_bind, Option.bind_eq_some_iff] at executed
  obtain ⟨source, assigned, executed⟩ := executed
  split at executed
  next fits =>
    obtain ⟨⟨id, rows⟩, inserted, built⟩ := Option.bind_eq_some_iff.mp executed
    simp only [Option.some.injEq, Prod.mk.injEq] at built
    obtain ⟨rfl, rfl⟩ := built
    simp only [Bool.and_eq_true, List.any_eq_true, beq_iff_eq] at fits
    exact ⟨rfl, id, source, assigned, fits.1.2, inserted, rfl⟩
  · cases executed

section Methods

variable {sys : System} {env : Env} {k : Conn} {n : Nat} {w : World}

theorem affectsRows_countP {ρ : Type} (selects : ρ → Bool) (rows : List ρ) :
    affectsRows (rows.countP selects) = rows.any selects := by
  rw [Bool.eq_iff_iff, List.any_eq_true]
  simp only [affectsRows, decide_eq_true_eq, List.countP_pos_iff]

/-- The song is counted, and inserted if there is none. -/
theorem PlaylistDAO.run_addSongToPlaylist (connected : (env.acquired n).1 = some k)
    (numbered : w.db.playlistSongs.Numbered (·.id)) (playlistId : Int32) (song : Song) :
    (addSongToPlaylist playlistId song).run (exec sys env) n w =
      if env.QuietFrom (env.acquired n).2 7 then
        if w.db.playlistSongs.rows.any
            (Db.isPlaylistSong sys.collate playlistId song.songId song.songWhere) then (.ok true, w)
        else issued false affectsRows (env.QuietFrom ((env.acquired n).2 + 7) 8)
          (Statement.exec (env.context sys k ((env.acquired n).2 + 7 + 7)) w.db
            (.insertPlaylistSong playlistId song.songId song.name song.singer (nullable song.pic)
              song.songWhere)) w
      else (.ok false, w) := by
  have counted : (0 < (Int32.ofNat (w.db.playlistSongs.rows.countP (Db.isPlaylistSong sys.collate
      playlistId song.songId song.songWhere))).toInt) ↔ w.db.playlistSongs.rows.any
        (Db.isPlaylistSong sys.collate playlistId song.songId song.songWhere) = true := by
    rw [numbered.toInt_countP, Int.natCast_pos, List.countP_pos_iff, List.any_eq_true]
  have both : env.QuietFrom (env.acquired n).2 (5 + 2) ↔
      env.QuietFrom (env.acquired n).2 5 ∧ env.QuietFrom ((env.acquired n).2 + 5) 2 :=
    Env.quietFrom_add
  apply Proceeds.selected connected
  case proceeds =>
    iterate 4 apply Proceeds.call rfl fun _ => rfl
    exact Proceeds.execute
  case reads => exact rfl
  case rest =>
    refine (congrArg (fun outcome => catchSql false
      (if env.QuietFrom (env.acquired n).2 5 then outcome else (.error .sqlException, w)))
      (Reads.readCount _ _ _)).trans ?_
    -- The SELECT with its calls, then the reading of the count, then the INSERT.
    by_cases first : env.QuietFrom (env.acquired n).2 5
    · by_cases second : env.QuietFrom ((env.acquired n).2 + 5) 2
      · rw [if_pos first, if_pos (both.mpr ⟨first, second⟩)]
        apply (congrArg (catchSql false) (if_pos second)).trans
        by_cases has : w.db.playlistSongs.rows.any (Db.isPlaylistSong sys.collate playlistId
            song.songId song.songWhere) = true
        · rw [if_pos has]
          refine congrArg (fun prog : Prog Bool => catchSql false
            (prog.run (exec sys env) ((env.acquired n).2 + 7) w)) (if_pos (counted.mpr has))
        · rw [if_neg has]
          refine (congrArg (fun prog : Prog Bool => catchSql false
            (prog.run (exec sys env) ((env.acquired n).2 + 7) w))
              (if_neg fun positive => has (counted.mp positive))).trans ?_
          apply Executes.caught
          iterate 5 apply Executes.call rfl fun _ => rfl
          apply Executes.bindNullable
          apply Executes.call rfl fun _ => rfl
          exact Executes.execute
      · rw [if_pos first, if_neg fun quiet => second (both.mp quiet).2]
        exact congrArg (catchSql false) (if_neg second)
    · rw [if_neg first, if_neg fun quiet => first (both.mp quiet).1]
      rfl

theorem step_of_run {op : PlaylistOp} {result : Bool} {w' : World}
    (ran : runProg sys env op.program w = (.ok result, w')) (step : EditStep sys w op result w') :
    ∃ result, (edited sys env w op).result = .ok result ∧
      EditStep sys w op result (edited sys env w op).after := by
  refine ⟨result, congrArg Prod.fst ran, ?_⟩
  rw [edited, ran]
  exact step

/-- Without failures every call has a result, and does what `EditStep` says. -/
theorem edited_step (faultless : env.Faultless)
    (numbered : w.db.playlistSongs.Numbered (·.id)) (op : PlaylistOp) :
    ∃ result, (edited sys env w op).result = .ok result ∧
      EditStep sys w op result (edited sys env w op).after := by
  obtain ⟨k, connected⟩ := faultless.acquired 0
  have quiet (n calls : Nat) : env.QuietFrom n calls := faultless.quietFrom n calls
  cases op with
  | create playlist =>
    obtain ⟨later, ran⟩ := run_bind (exec sys env) (PlaylistDAO.createPlaylist playlist) 0 w
    have outcome : runProg sys env (PlaylistOp.create playlist).program w = _ :=
      ran fun outcome => .ret outcome.1
    rw [PlaylistDAO.run_createPlaylist connected playlist] at outcome
    simp only [issuedThen, quiet, if_true, Statement.exec] at outcome
    cases executed : w.db.insertPlaylist (env.context sys k ((env.acquired 0).2 + 4)) playlist.name
        playlist.userId (nullable playlist.cover) with
    | some inserted =>
      obtain ⟨count, db⟩ := inserted
      rw [executed] at outcome
      obtain ⟨id, inserted, equal⟩ := insertPlaylist_eq_some executed
      have ran : runProg sys env (PlaylistOp.create playlist).program w =
        (.ok true, { w with db }) := outcome
      have songs : db.playlistSongs = w.db.playlistSongs := by rw [equal]
      refine step_of_run ran (.create songs fun row member => ?_)
      rw [(Table.insert_eq_some inserted).2.1]
      exact List.mem_append_left _ member
    | none =>
      rw [executed] at outcome
      exact step_of_run outcome (.create rfl fun row member => member)
  | add playlistId song =>
    have outcome : runProg sys env (PlaylistOp.add playlistId song).program w = _ :=
      PlaylistDAO.run_addSongToPlaylist connected numbered playlistId song
    rw [if_pos (quiet _ _)] at outcome
    split at outcome
    next has =>
      exact step_of_run outcome (.present has)
    next hasNot =>
      simp only [issued, quiet, if_true] at outcome
      split at outcome
      next count db executed =>
        -- An INSERT that is not refused affects one row.
        obtain ⟨rfl, -⟩ := Db.insertPlaylistSong_eq_some executed
        exact step_of_run outcome (.added rfl hasNot executed)
      · exact step_of_run outcome (.refused hasNot)
  | remove playlistId songId songSource =>
    have outcome : runProg sys env (PlaylistOp.remove playlistId songId songSource).program w = _ :=
      PlaylistDAO.run_removeSongFromPlaylist connected playlistId songId songSource
    simp only [issuedAt, issued, quiet, if_true, Statement.exec] at outcome
    refine step_of_run outcome (.remove ?_ rfl)
    rw [affectsRows_countP]
    rfl
  | delete playlistId =>
    have outcome : runProg sys env (PlaylistOp.delete playlistId).program w = _ :=
      PlaylistDAO.run_deletePlaylist connected playlistId
    simp only [issuedAt, issued, quiet, if_true, Statement.exec] at outcome
    exact step_of_run outcome .delete

end Methods

end MusicPlayer
