import MusicPlayer.Properties.MethodRuns

/-!
# What the writing methods write

The methods that issue one statement: which statement, after how many calls, and what they
return of the number of rows it has affected.
-/
namespace MusicPlayer

open Resumption Program

variable {sys : System} {env : Env} {k : Conn} {n : Nat} {w : World}

/-- The column of a text that the code may map to NULL. -/
def nullable (text : String) : Option String := if text.isEmpty then none else some text

/-- `affected_row > 0`. -/
def affectsRows (affected : Nat) : Bool := 0 < affected

/-- The outcome of a method whose statement is its call number `calls`. -/
def issuedAt {α : Type} (sys : System) (env : Env) (k : Conn) (n : Nat) (w : World) (failure : α)
    (calls : Nat) (s : Statement) (finish : s.Reply → α) : Except Exn α × World :=
  issued failure finish (env.QuietFrom (env.acquired n).2 (calls + 1))
    (s.exec (env.context sys k ((env.acquired n).2 + calls)) w.db) w

namespace UserDAO

theorem run_updateUser (connected : (env.acquired n).1 = some k) (user : User) :
    (updateUser user).run (exec sys env) n w = issuedAt sys env k n w false 6
      (.updateUser user.username user.email (nullable user.qqId) (nullable user.neteaseId) user.id)
      affectsRows := by
  apply Executes.method connected
  iterate 3 refine Executes.call rfl (fun _ => rfl) ?_
  iterate 2 refine Executes.bindNullable ?_
  refine Executes.call rfl (fun _ => rfl) ?_
  exact Executes.execute

theorem run_deleteUser (connected : (env.acquired n).1 = some k) (id : Int32) :
    (deleteUser id).run (exec sys env) n w =
      issuedAt sys env k n w false 2 (.deleteUser id) affectsRows := by
  apply Executes.method connected
  iterate 2 refine Executes.call rfl (fun _ => rfl) ?_
  exact Executes.execute

/-- The single-column updates return true of any number of rows. -/
theorem run_updateColumn (connected : (env.acquired n).1 = some k) (sql value : String)
    (userId : Int32) (s : Statement) :
    (updateColumn sql value userId s).run (exec sys env) n w =
      issuedAt sys env k n w false 3 s fun _ => true := by
  apply Executes.method connected
  iterate 3 refine Executes.call rfl (fun _ => rfl) ?_
  exact Executes.execute

end UserDAO

namespace PlaylistDAO

theorem run_updatePlaylist (connected : (env.acquired n).1 = some k) (playlist : Playlist) :
    (updatePlaylist playlist).run (exec sys env) n w = issuedAt sys env k n w false 4
      (.updatePlaylist playlist.name (nullable playlist.cover) playlist.id) affectsRows := by
  apply Executes.method connected
  iterate 2 refine Executes.call rfl (fun _ => rfl) ?_
  apply Executes.bindNullable
  refine Executes.call rfl (fun _ => rfl) ?_
  exact Executes.execute

theorem run_deletePlaylist (connected : (env.acquired n).1 = some k) (id : Int32) :
    (deletePlaylist id).run (exec sys env) n w =
      issuedAt sys env k n w false 2 (.deletePlaylist id) affectsRows := by
  apply Executes.method connected
  iterate 2 refine Executes.call rfl (fun _ => rfl) ?_
  exact Executes.execute

theorem run_removeSongFromPlaylist (connected : (env.acquired n).1 = some k) (playlistId : Int32)
    (songId songSource : String) :
    (removeSongFromPlaylist playlistId songId songSource).run (exec sys env) n w =
      issuedAt sys env k n w false 4 (.deletePlaylistSong playlistId songId songSource)
        affectsRows := by
  apply Executes.method connected
  iterate 4 refine Executes.call rfl (fun _ => rfl) ?_
  exact Executes.execute

end PlaylistDAO

namespace PlayHistoryDAO

theorem run_clearUserPlayHistory (connected : (env.acquired n).1 = some k) (userId : Int32) :
    (clearUserPlayHistory userId).run (exec sys env) n w =
      issuedAt sys env k n w false 2 (.clearPlayHistory userId) affectsRows := by
  apply Executes.method connected
  iterate 2 refine Executes.call rfl (fun _ => rfl) ?_
  exact Executes.execute

theorem run_deletePlayHistory (connected : (env.acquired n).1 = some k)
    (historyId userId : Int32) :
    (deletePlayHistory historyId userId).run (exec sys env) n w =
      issuedAt sys env k n w false 3 (.deletePlayHistory historyId userId) affectsRows := by
  apply Executes.method connected
  iterate 3 refine Executes.call rfl (fun _ => rfl) ?_
  exact Executes.execute

end PlayHistoryDAO

end MusicPlayer
