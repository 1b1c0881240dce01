import MusicPlayer.Properties.ReadMethods
import MusicPlayer.Properties.WriteMethods
import MusicPlayer.Reference
import Mathlib.Algebra.Ring.Int.Defs

/-!
# Counting plays

What the reports of `PlayHistoryDAO` should say after any sequence of plays, deletions and
clearings, and what they do say. The INSERT of a first play names seven columns and has six
values. The database refuses it, so the history never gets its first record.
-/
namespace MusicPlayer

open Resumption Program Relational

/-! ### Runs over the history -/

/-- The calls that write to the history. -/
inductive PlayOp where
  | add (history : PlayHistory)
  | delete (historyId userId : Int32)
  | clear (userId : Int32)

def PlayOp.program : PlayOp → Prog Bool
  | add history => PlayHistoryDAO.addPlayHistory history
  | delete historyId userId => PlayHistoryDAO.deletePlayHistory historyId userId
  | clear userId => PlayHistoryDAO.clearUserPlayHistory userId

/-- The user of a play exists, and its values fit the columns. -/
def PlayOp.Fits (sys : System) (db : Db) : PlayOp → Prop
  | add history => db.users.rows.any (·.id == history.userId) = true ∧
      fitsVarchar 50 history.songId = true ∧ fitsVarchar 255 history.songName = true ∧
      fitsVarchar 255 history.songSinger = true ∧ fitsVarchar 255 history.songPic = true ∧
      (SongWhere.ofText sys.collate history.songWhere).isSome = true
  | _ => True

/-- A call of a run, with the world before and after it. -/
structure Played where
  op : PlayOp
  before : World
  result : Except Exn Bool
  after : World

def played (sys : System) (env : Env) (w : World) (op : PlayOp) : Played where
  op := op
  before := w
  result := (runProg sys env op.program w).1
  after := (runProg sys env op.program w).2

/-- Calls one after the other, without connector failures. The journal has the newest first. -/
inductive PlayRun (sys : System) (start : World) : List Played → World → Prop where
  | start : PlayRun sys start [] start
  | call {journal : List Played} {w : World} (run : PlayRun sys start journal w) (env : Env)
      (op : PlayOp) (faultless : env.Faultless) (fits : op.Fits sys w.db) :
      PlayRun sys start (played sys env w op :: journal) (played sys env w op).after

/-- A song is its id together with its source. -/
def SameSong (sys : System) (songId songWhere otherId otherWhere : String) : Prop :=
  sys.collate songId = sys.collate otherId ∧ sys.collate songWhere = sys.collate otherWhere

instance (sys : System) (songId songWhere otherId otherWhere : String) :
    Decidable (SameSong sys songId songWhere otherId otherWhere) :=
  inferInstanceAs (Decidable (_ ∧ _))

/-- How often a user has played a song since the record of it was last deleted or cleared. -/
def plays (sys : System) (userId : Int32) (songId songWhere : String) : List Played → Nat
  | [] => 0
  | call :: earlier =>
    match call.op with
    | .add history =>
      plays sys userId songId songWhere earlier +
        if history.userId = userId ∧
          SameSong sys history.songId history.songWhere songId songWhere then 1 else 0
    | .delete historyId caller =>
      if caller = userId ∧ call.before.db.playHistory.rows.any fun row =>
          row.id == historyId && row.userId == userId &&
            decide (SameSong sys row.songId row.songWhere.text songId songWhere) then 0
      else plays sys userId songId songWhere earlier
    | .clear caller => if caller = userId then 0 else plays sys userId songId songWhere earlier

/-- The counts that a report gives for the entries of a kind. -/
def countOf (report : List (PlayHistory × Int32)) (kind : PlayHistory → Bool) : Int :=
  ((report.filter fun entry => kind entry.1).map (·.2.toInt)).sum

/-- Every play is recorded, and the reports count the plays. -/
structure Counted (sys : System) (journal : List Played) (w : World) : Prop where
  added : ∀ call ∈ journal, ∀ history, call.op = .add history → call.result = .ok true
  /-- For any user and limits that are large enough. -/
  reports : ∀ env : Env, env.Faultless → ∀ userId limit : Int32,
    (w.db.playHistory.rows.length : Int) ≤ limit.toInt → ∃ most total artists,
      (runProg sys env (PlayHistoryDAO.getMostPlayedSongs sys userId limit) w).1 = .ok most ∧
      (runProg sys env (PlayHistoryDAO.getUserTotalPlayCount userId) w).1 = .ok total ∧
      (runProg sys env (PlayHistoryDAO.getUserTopArtists userId limit) w).1 = .ok artists ∧
      (∀ songId songWhere, countOf most (fun history =>
          decide (SameSong sys history.songId history.songWhere songId songWhere)) =
        plays sys userId songId songWhere journal) ∧
      total.toInt = countOf most (fun _ => true) ∧
      ∀ singer, ((artists.filter fun entry => sys.collate entry.1 == sys.collate singer).map
          (·.2.toInt)).sum =
        countOf most fun history => sys.collate history.songSinger == sys.collate singer

/-! ### The refused INSERT -/

/-- Seven columns and six values. -/
theorem insertPlayHistory_refused (ctx : SqlContext) (db : Db) (history : PlayHistory)
    (songPic : Option String) :
    Statement.exec ctx db (.insertPlayHistory PlayHistoryDAO.insertColumns
      (PlayHistoryDAO.insertValues history songPic)) = none := rfl

section Empty

variable {sys : System} {env : Env} {w : World} {k : Conn} {n : Nat}

/-- Without a record of the song a play fails, whatever the connector does. -/
theorem addPlayHistory_unrecorded (history : PlayHistory) (connected : (env.acquired n).1 = some k)
    (unrecorded : ∀ row ∈ w.db.playHistory.rows, row.userId = history.userId →
      sys.collate row.songId ≠ sys.collate history.songId) :
    (PlayHistoryDAO.addPlayHistory history).run (exec sys env) n w = (.ok false, w) := by
  have nothing (ctx : SqlContext) (collate : ctx.collate = sys.collate) :
      Statement.exec ctx w.db (.selectSongCount history.userId history.songId) =
        some ([], w.db) := by
    simp only [Statement.exec, Db.historyOf, collate, Option.some.injEq, Prod.mk.injEq, and_true,
      List.map_eq_nil_iff, List.filter_eq_nil_iff, List.mem_filter, mem_scan, beq_iff_eq, and_imp]
    exact unrecorded
  apply Throws.method connected
  iterate 3 refine Throws.call rfl (fun _ => rfl) ?_
  apply Throws.select nothing
  iterate 6 refine Throws.call rfl (fun _ => rfl) ?_
  refine Throws.bindNullable fun songPic => ?_
  refine Throws.call rfl (fun _ => rfl) ?_
  exact Throws.refused fun ctx => insertPlayHistory_refused ctx w.db history songPic

/-- A history without records stays without. -/
theorem played_empty (faultless : env.Faultless) (op : PlayOp)
    (empty : w.db.playHistory.rows = []) :
    (played sys env w op).after.db.playHistory.rows = [] ∧
      ∀ history, op = .add history → (played sys env w op).result = .ok false := by
  obtain ⟨k, connected⟩ := faultless.acquired 0
  have quiet (calls : Nat) : env.QuietFrom (env.acquired 0).2 calls := faultless.quietFrom _ calls
  cases op with
  | add history =>
    have outcome : runProg sys env (PlayOp.add history).program w = (.ok false, w) :=
      addPlayHistory_unrecorded history connected (by simp [empty])
    simp only [played, outcome, empty, implies_true, and_self]
  | delete historyId userId =>
    have outcome : runProg sys env (PlayOp.delete historyId userId).program w = _ :=
      PlayHistoryDAO.run_deletePlayHistory connected historyId userId
    refine ⟨?_, by simp⟩
    simp only [played, outcome, issuedAt, issued, quiet, if_true, Statement.exec, Table.delete,
      empty, List.filter_nil]
  | clear userId =>
    have outcome : runProg sys env (PlayOp.clear userId).program w = _ :=
      PlayHistoryDAO.run_clearUserPlayHistory connected userId
    refine ⟨?_, by simp⟩
    simp only [played, outcome, issuedAt, issued, quiet, if_true, Statement.exec, Table.delete,
      empty, List.filter_nil]

/-- The reports on a history without records. -/
theorem reports_empty (faultless : env.Faultless) (empty : w.db.playHistory.rows = [])
    (userId limit : Int32) (bounded : 0 ≤ limit.toInt) :
    (runProg sys env (PlayHistoryDAO.getMostPlayedSongs sys userId limit) w).1 = .ok [] ∧
      (runProg sys env (PlayHistoryDAO.getUserTotalPlayCount userId) w).1 = .ok 0 ∧
      (runProg sys env (PlayHistoryDAO.getUserTopArtists userId limit) w).1 = .ok [] := by
  obtain ⟨k, connected⟩ := faultless.acquired 0
  have limited {ρ : Type} : Db.limitRows limit ([] : List ρ) = some [] := by
    simp [Db.limitRows, not_lt.mpr bounded]
  have none (ctx : SqlContext) : w.db.historyOf ctx userId = [] := by
    simp [Db.historyOf, empty, scan]
  have sorted (ctx : SqlContext) : Db.limitRows limit (orderByDesc (fun row : PlayHistoryRow =>
      row.songCount.toInt) (w.db.historyOf ctx userId)) = some [] := by
    rw [none]
    exact limited
  have grouped (ctx : SqlContext) : Db.limitRows limit (orderByDesc (·.2)
      (Db.groupBySinger sys.collate (w.db.historyOf ctx userId))) = some [] := by
    rw [none]
    exact limited
  refine ⟨?_, ?_, ?_⟩
  · rw [runProg, PlayHistoryDAO.run_getMostPlayedSongs connected userId limit (sorted _)]
    simp
  · rw [runProg, PlayHistoryDAO.run_getUserTotalPlayCount connected userId]
    simp [empty]
  · rw [runProg, PlayHistoryDAO.run_getUserTopArtists connected userId limit (grouped _)]
    simp

end Empty

section Run

variable {sys : System} {start w : World} {journal : List Played}

theorem PlayRun.empty (run : PlayRun sys start journal w)
    (empty : start.db.playHistory.rows = []) : w.db.playHistory.rows = [] := by
  induction run with
  | start => exact empty
  | call run env op faultless fits ih => exact (played_empty faultless op ih).1

/-- Each play of a run fails. -/
theorem PlayRun.fails (run : PlayRun sys start journal w)
    (empty : start.db.playHistory.rows = []) :
    ∀ call ∈ journal, ∀ history, call.op = .add history → call.result = .ok false := by
  induction run with
  | start => simp
  | call run env op faultless fits ih =>
    intro call member history add
    rcases List.mem_cons.mp member with rfl | earlier
    · exact (played_empty faultless op (run.empty empty)).2 history add
    · exact ih call earlier history add

theorem plays_of_none {userId : Int32} {songId songWhere : String}
    (none : ∀ call ∈ journal, ∀ history, call.op ≠ .add history) :
    plays sys userId songId songWhere journal = 0 := by
  induction journal with
  | nil => rfl
  | cons call earlier ih =>
    have before := ih fun other member => none other (List.mem_cons_of_mem _ member)
    unfold plays
    split
    next history add => exact absurd add (none call List.mem_cons_self history)
    · split
      · rfl
      · exact before
    · split
      · rfl
      · exact before

end Run

/-- From an empty history the plays are counted in the runs without plays, and in no other. -/
theorem counted_iff {sys : System} {start w : World} {journal : List Played}
    (empty : start.db.playHistory.rows = []) (run : PlayRun sys start journal w) :
    Counted sys journal w ↔ ∀ call ∈ journal, ∀ history, call.op ≠ .add history := by
  constructor
  · intro counted call member history add
    have failed := run.fails empty call member history add
    rw [counted.added call member history add] at failed
    cases failed
  · intro none
    refine ⟨fun call member history add => absurd add (none call member history), ?_⟩
    intro env faultless userId limit enough
    have bounded : 0 ≤ limit.toInt := le_trans (Int.natCast_nonneg _) enough
    obtain ⟨most, total, artists⟩ := reports_empty faultless (run.empty empty) userId limit bounded
    refine ⟨[], 0, [], most, total, artists, fun songId songWhere => ?_, rfl, fun singer => rfl⟩
    rw [plays_of_none none]
    rfl

/-! ### A first play -/

section FirstPlay

open Reference

/-- A server with one user and no history. -/
def listener : World where
  db := { users := { rows := [⟨1, "bob", "x", "a@b.c", none, none, 0, 0⟩], autoInc := 2 } }

def firstPlay : PlayOp :=
  .add { userId := 1, songId := "1", songName := "Song", songSinger := "Singer", songWhere := "QQ" }

theorem firstPlay_run : PlayRun system listener [played system (env 0) listener firstPlay]
    (played system (env 0) listener firstPlay).after := by
  have faultless : (env 0).Faultless := ⟨by simp [env], fun _ => rfl⟩
  have fits : firstPlay.Fits system listener.db := by
    refine ⟨?_, ?_, ?_, ?_, ?_, ?_⟩ <;> decide
  exact PlayRun.start.call (env 0) firstPlay faultless fits

theorem counted_iff_firstPlay :
    Counted system [played system (env 0) listener firstPlay]
        (played system (env 0) listener firstPlay).after ↔
      ∀ call ∈ [played system (env 0) listener firstPlay], ∀ history, call.op ≠ .add history :=
  counted_iff rfl firstPlay_run

/-- The first play of a song is lost. -/
theorem firstPlay_uncounted :
    ¬∀ (sys : System) (start w : World) (journal : List Played),
      start.db.playHistory.rows = [] → PlayRun sys start journal w → Counted sys journal w := by
  intro counted
  have faithful := counted system listener _ _ rfl firstPlay_run
  have added := faithful.added _ List.mem_cons_self _ rfl
  rw [firstPlay_run.fails rfl _ List.mem_cons_self _ rfl] at added
  cases added

end FirstPlay

end MusicPlayer
