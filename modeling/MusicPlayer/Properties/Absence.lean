import MusicPlayer.Properties.ReadMethods
import MusicPlayer.Properties.Requests
import MusicPlayer.Relational.Numbering

/-!
# Absence and failure

The reading methods return `std::nullopt`, an empty list or 0 both when their query selects
nothing and when one of their connector calls throws. For each of them this module says exactly
when they do, and then what a 404 of the two handlers means that look a user up. A failure of
another kind is no absence: where `getUserPlayHistory` has no memory for the rows it reserves, its
exception goes to the caller.
-/
namespace MusicPlayer

open Resumption Program Relational

namespace DaoOp

def isRead : DaoOp → Bool
  | getUserById _ | getUserByUsername _ | getPlaylistById _ | getPlaylistsByUserId _ => true
  | getSongsInPlaylist _ | countSongsInPlaylist _ | getUserPlayHistory .. => true
  | getUserTotalPlayCount _ | getUserRecentPlayCount .. | getUserTopArtists .. => true
  | getUserTopSongs .. | getMostPlayedSongs .. => true
  | _ => false

/-- The query of a reading method selects a row: one that matches its WHERE clause and, where it
has LIMIT and OFFSET, is among those. -/
def Selects (sys : System) (env : Env) (db : Db) : DaoOp → Prop
  | getUserById id => ∃ row ∈ db.users.rows, row.id = id
  | getUserByUsername username =>
    ∃ row ∈ db.users.rows, sys.collate row.username = sys.collate username
  | getPlaylistById playlistId => ∃ row ∈ db.playlists.rows, row.id = playlistId
  | getPlaylistsByUserId userId => ∃ row ∈ db.playlists.rows, row.userId = userId
  | getSongsInPlaylist playlistId | countSongsInPlaylist playlistId =>
    ∃ row ∈ db.playlistSongs.rows, row.playlistId = playlistId
  | getUserPlayHistory userId limit offset => 0 < limit.toInt ∧ 0 ≤ offset.toInt ∧
    offset.toInt < db.playHistory.rows.countP (·.userId == userId)
  | getUserTotalPlayCount userId => ∃ row ∈ db.playHistory.rows, row.userId = userId
  | getUserRecentPlayCount userId days => ∃ row ∈ db.playHistory.rows,
    row.userId = userId ∧ env.dbNow - days.toInt * 86400 ≤ row.playedAt
  | getUserTopArtists userId limit | getUserTopSongs userId limit
  | getMostPlayedSongs userId limit =>
    0 < limit.toInt ∧ ∃ row ∈ db.playHistory.rows, row.userId = userId
  | _ => False

/-- The connector calls of a reading method that begins as the `n`-th effect, from the end of
`getConnection` on, if nothing comes between them. -/
def calls (sys : System) (env : Env) (k : Conn) (n : Nat) (w : World) : DaoOp → Nat
  | getUserById id =>
    firstRowCalls UserRow.cost (w.db.users.rows.filter (·.id == id)) + 3
  | getUserByUsername username =>
    firstRowCalls UserRow.cost ((scan (fun row => env.rank ((env.acquired n).2 + 2) row.id)
      w.db.users.rows).filter fun row => sys.collate row.username == sys.collate username) + 3
  | getPlaylistById playlistId =>
    firstRowCalls PlaylistRow.cost (w.db.playlists.rows.filter (·.id == playlistId)) + 3
  | getPlaylistsByUserId userId =>
    allRowsCalls PlaylistRow.cost ((scan (fun row => env.rank ((env.acquired n).2 + 2) row.id)
      w.db.playlists.rows).filter (·.userId == userId)) + 4
  | getSongsInPlaylist playlistId =>
    allRowsCalls PlaylistSongRow.cost ((scan (fun row => env.rank ((env.acquired n).2 + 2) row.id)
      w.db.playlistSongs.rows).filter (·.playlistId == playlistId)) + 4
  | countSongsInPlaylist _ | getUserTotalPlayCount _ => 5
  | getUserRecentPlayCount .. => 6
  | getUserTopArtists userId limit =>
    allRowsCalls (fun _ => 2) ((Db.limitRows limit (orderByDesc (·.2) (Db.groupBySinger sys.collate
      (w.db.historyOf (env.context sys k ((env.acquired n).2 + 3)) userId)))).getD []) + 4
  | getUserTopSongs userId limit =>
    allRowsCalls PlayHistoryRow.songCost ((Db.limitRows limit
      (orderByDesc (fun row => row.songCount.toInt)
        (w.db.historyOf (env.context sys k ((env.acquired n).2 + 3)) userId))).getD []) + 4
  | getMostPlayedSongs userId limit =>
    allRowsCalls (fun row => PlayHistoryRow.cost row + 1) ((Db.limitRows limit
      (orderByDesc (fun row => row.songCount.toInt)
        (w.db.historyOf (env.context sys k ((env.acquired n).2 + 3)) userId))).getD []) + 4
  | _ => 0

/-- A connector call of the method throws. Those of `getUserPlayHistory` come before and after its
`reserve`. -/
def CallThrows (sys : System) (env : Env) (k : Conn) (n : Nat) (w : World) : DaoOp → Prop
  | getUserPlayHistory userId limit offset => ¬(env.QuietFrom (env.acquired n).2 5 ∧
    env.QuietFrom ((env.acquired n).2 + 6) (allRowsCalls PlayHistoryRow.cost
      ((w.db.selectPlayHistory (env.context sys k ((env.acquired n).2 + 4)) userId limit
        offset).getD [])))
  | op => ¬env.QuietFrom (env.acquired n).2 (op.calls sys env k n w)

/-- `getUserPlayHistory` has executed its query, and there is no memory for its vector. -/
def OutOfMemory (env : Env) (n : Nat) : DaoOp → Prop
  | getUserPlayHistory _ limit offset => 0 ≤ limit.toInt ∧ 0 ≤ offset.toInt ∧
    env.QuietFrom (env.acquired n).2 5 ∧ env.hasMemory limit.toInt.toNat = false
  | _ => False

/-- A method returns its failure value. -/
def Absent (sys : System) (env : Env) (n : Nat) (w : World) (op : DaoOp) : Prop :=
  ((op.program sys).run (exec sys env) n w).1 = .ok op.failure

end DaoOp

/-! ### What a query selects -/

section Queries

variable {ρ β : Type} {rows : List ρ} {p : ρ → Bool}

theorem head?_map_eq_none {item : ρ → β} : (rows.filter p).head?.map item = none ↔
    ¬∃ row ∈ rows, p row = true := by
  rw [Option.map_eq_none_iff, List.head?_eq_none_iff, List.filter_eq_nil_iff]
  simp

theorem filter_map_eq_nil {item : ρ → β} : (rows.filter p).map item = [] ↔
    ¬∃ row ∈ rows, p row = true := by
  rw [List.map_eq_nil_iff, List.filter_eq_nil_iff]
  simp

theorem Db.limitRows_of_neg {limit : Int32} (negative : limit.toInt < 0) (rows : List ρ) :
    Db.limitRows limit rows = none := if_pos negative

theorem Db.limitRows_of_nonneg {limit : Int32} (nonneg : ¬limit.toInt < 0) (rows : List ρ) :
    Db.limitRows limit rows = some (rows.take limit.toInt.toNat) := if_neg nonneg

theorem take_eq_nil {limit : Int32} : rows.take limit.toInt.toNat = [] ↔
    ¬(0 < limit.toInt ∧ rows ≠ []) := by
  rw [List.take_eq_nil_iff]
  by_cases empty : rows = []
  · simp [empty]
  · simp only [empty, or_false, ne_eq, not_false_iff, and_true]
    omega

theorem orderByDesc_eq_nil {measure : ρ → Int} : orderByDesc measure rows = [] ↔ rows = [] :=
  ⟨fun empty => List.nil_perm.mp (empty ▸ orderByDesc_perm measure rows), fun empty => by
    rw [empty]
    rfl⟩

theorem addToGroups_ne_nil (collate : String → String) (row : PlayHistoryRow)
    (groups : List (String × Int)) : Db.addToGroups collate row groups ≠ [] := by
  cases groups with
  | nil => simp [Db.addToGroups]
  | cons group rest =>
    rw [Db.addToGroups]
    split <;> simp

/-- Every row is in a group. -/
theorem groupBySinger_eq_nil {collate : String → String} {rows : List PlayHistoryRow} :
    Db.groupBySinger collate rows = [] ↔ rows = [] := by
  have grows (rows : List PlayHistoryRow) : ∀ groups : List (String × Int), groups ≠ [] →
      rows.foldl (fun groups row => Db.addToGroups collate row groups) groups ≠ [] := by
    induction rows with
    | nil => exact fun groups some => some
    | cons row rest ih => exact fun groups _ => ih _ (addToGroups_ne_nil collate row groups)
  cases rows with
  | nil => simp [Db.groupBySinger]
  | cons row rest =>
    simp only [reduceCtorEq, iff_false]
    exact grows rest _ (addToGroups_ne_nil collate row [])

theorem historyOf_eq_nil {ctx : SqlContext} {db : Db} {userId : Int32} :
    db.historyOf ctx userId = [] ↔ ¬∃ row ∈ db.playHistory.rows, row.userId = userId := by
  rw [Db.historyOf, List.filter_eq_nil_iff]
  simp

theorem length_historyOf {ctx : SqlContext} {db : Db} {userId : Int32} :
    (db.historyOf ctx userId).length = db.playHistory.rows.countP (·.userId == userId) := by
  rw [Db.historyOf, ← List.countP_eq_length_filter]
  exact (scan_perm _ _).countP_eq _

end Queries

/-! ### The reading methods -/

section Methods

variable {sys : System} {env : Env} {k : Conn} {n : Nat} {w : World}

theorem absent_iff_of_run {α : Type} {outcome : Except Exn α × World} {value failure : α}
    {quiet selects exhausted : Prop} [Decidable quiet] (enough : ¬exhausted)
    (ran : outcome = (.ok (if quiet then value else failure), w))
    (empty : value = failure ↔ ¬selects) :
    outcome.1 = .ok failure ↔ (¬selects ∨ ¬quiet) ∧ ¬exhausted := by
  rw [ran, ← empty, Except.ok.injEq, and_iff_left enough]
  split
  next quietly => simp [quietly]
  next loud => simp [loud]

theorem count_eq_zero_iff {ρ : Type} {key : ρ → Int32} {table : Table ρ}
    (numbered : table.Numbered key) (selects : ρ → Bool) :
    Int32.ofNat (table.rows.countP selects) = 0 ↔ ¬∃ row ∈ table.rows, selects row = true := by
  have zero : Int32.ofNat (table.rows.countP selects) = 0 ↔ table.rows.countP selects = 0 := by
    rw [← Int32.toInt_inj, numbered.toInt_countP]
    exact Int.natCast_eq_zero
  rw [zero, List.countP_eq_zero]
  simp

/-- A method whose query is refused returns its failure value. -/
theorem absent_of_refused {α : Type} {outcome : Except Exn α × World} {failure : α}
    {throws selects exhausted : Prop} (enough : ¬exhausted) (refused : outcome = (.ok failure, w))
    (nothing : ¬selects) : outcome.1 = .ok failure ↔ (¬selects ∨ throws) ∧ ¬exhausted := by
  rw [refused]
  exact iff_of_true rfl ⟨.inl nothing, enough⟩

theorem getUserPlayHistory_absent_iff (connected : (env.acquired n).1 = some k)
    (userId limit offset : Int32) :
    (DaoOp.getUserPlayHistory userId limit offset).Absent sys env n w ↔
      (¬(DaoOp.getUserPlayHistory userId limit offset).Selects sys env w.db ∨
        (DaoOp.getUserPlayHistory userId limit offset).CallThrows sys env k n w) ∧
      ¬(DaoOp.getUserPlayHistory userId limit offset).OutOfMemory env n := by
  simp only [DaoOp.Absent, DaoOp.program, DaoOp.failure, DaoOp.Selects, DaoOp.CallThrows,
    DaoOp.OutOfMemory]
  cases selected : w.db.selectPlayHistory (env.context sys k ((env.acquired n).2 + 4)) userId limit
    offset with
  | none =>
    -- The database refuses a negative limit or offset, and nothing else.
    have negative : offset.toInt < 0 ∨ limit.toInt < 0 := by
      unfold Db.selectPlayHistory Db.limitRows at selected
      split at selected
      next negative => exact .inl negative
      · split at selected
        next negative => exact .inr negative
        · cases selected
    apply absent_of_refused
    case enough => omega
    case refused =>
      apply Throws.method connected
      iterate 4 refine Throws.call rfl (fun _ => rfl) ?_
      refine Throws.refused fun ctx => ?_
      rcases negative with negative | negative
      · simp [Statement.exec, Db.selectPlayHistory, negative]
      · simp [Statement.exec, Db.selectPlayHistory, Db.limitRows, negative]
    case nothing => omega
  | some rows =>
    have chosen : ¬offset.toInt < 0 ∧ ¬limit.toInt < 0 ∧
        rows = (((orderByDesc (·.playedAt) (w.db.historyOf (env.context sys k
          ((env.acquired n).2 + 4)) userId)).drop offset.toInt.toNat).take limit.toInt.toNat) := by
      unfold Db.selectPlayHistory Db.limitRows at selected
      split at selected
      · cases selected
      next positive =>
        split at selected
        · cases selected
        next limited => exact ⟨positive, limited, (Option.some.inj selected).symm⟩
    obtain ⟨positive, limited, rows_eq⟩ := chosen
    -- The page is empty when the offset is past the records or the limit is 0.
    have length : (orderByDesc (·.playedAt)
        (w.db.historyOf (env.context sys k ((env.acquired n).2 + 4)) userId)).length =
          w.db.playHistory.rows.countP (·.userId == userId) :=
      (orderByDesc_perm _ _).length_eq.trans length_historyOf
    have empty : rows.map (·.toPlayHistory sys) = [] ↔ ¬(0 < limit.toInt ∧ 0 ≤ offset.toInt ∧
        offset.toInt < w.db.playHistory.rows.countP (·.userId == userId)) := by
      rw [List.map_eq_nil_iff, rows_eq, take_eq_nil, ne_eq, List.drop_eq_nil_iff, length]
      omega
    have ran := PlayHistoryDAO.run_getUserPlayHistory connected userId limit offset selected
    rw [PlayHistoryDAO.sizeOfInt_of_nonneg (not_lt.mp limited)] at ran
    rw [Option.getD_some]
    by_cases queried : env.QuietFrom (env.acquired n).2 5
    · rw [if_pos queried] at ran
      cases room : env.hasMemory limit.toInt.toNat with
      | true =>
        rw [room, if_pos rfl] at ran
        refine (absent_iff_of_run not_false ran empty).trans ?_
        simp [queried]
      | false =>
        -- The exception is no `SQLException`, so nothing is returned.
        rw [room] at ran
        rw [ran]
        simp [queried, not_lt.mp positive, not_lt.mp limited]
    · rw [if_neg queried] at ran
      rw [ran]
      simp [queried]

/-- The reports on a number of entries, which differ in what they select. -/
theorem limited_absent_iff {α ρ : Type} {outcome : Except Exn (List α) × World} {limit : Int32}
    {rows : List ρ} {selects exhausted : Prop} {item : ρ → α} (calls : List ρ → Nat)
    (enough : ¬exhausted) (nonempty : rows ≠ [] ↔ selects)
    (ran : ∀ chosen, Db.limitRows limit rows = some chosen → outcome =
      (.ok (if env.QuietFrom n (calls chosen) then chosen.map item else []), w))
    (refused : limit.toInt < 0 → outcome = (.ok [], w)) :
    outcome.1 = .ok [] ↔ (¬(0 < limit.toInt ∧ selects) ∨
      ¬env.QuietFrom n (calls ((Db.limitRows limit rows).getD []))) ∧ ¬exhausted := by
  by_cases negative : limit.toInt < 0
  · exact absent_of_refused enough (refused negative) (by omega)
  · rw [Db.limitRows_of_nonneg negative, Option.getD_some]
    apply absent_iff_of_run enough (ran _ (Db.limitRows_of_nonneg negative rows))
    rw [List.map_eq_nil_iff, take_eq_nil, nonempty]

/-! The reports with a negative limit. -/

theorem getUserTopArtists_refused (connected : (env.acquired n).1 = some k) (userId : Int32)
    {limit : Int32} (negative : limit.toInt < 0) :
    (PlayHistoryDAO.getUserTopArtists userId limit).run (exec sys env) n w = (.ok [], w) := by
  apply Throws.method connected
  iterate 3 refine Throws.call rfl (fun _ => rfl) ?_
  exact Throws.refused fun ctx => by simp [Statement.exec, Db.limitRows_of_neg negative]

theorem getUserTopSongs_refused (connected : (env.acquired n).1 = some k) (userId : Int32)
    {limit : Int32} (negative : limit.toInt < 0) :
    (PlayHistoryDAO.getUserTopSongs userId limit).run (exec sys env) n w = (.ok [], w) := by
  apply Throws.method connected
  iterate 3 refine Throws.call rfl (fun _ => rfl) ?_
  exact Throws.refused fun ctx => by simp [Statement.exec, Db.limitRows_of_neg negative]

theorem getMostPlayedSongs_refused (connected : (env.acquired n).1 = some k) (userId : Int32)
    {limit : Int32} (negative : limit.toInt < 0) :
    (PlayHistoryDAO.getMostPlayedSongs sys userId limit).run (exec sys env) n w = (.ok [], w) := by
  apply Throws.method connected
  iterate 3 refine Throws.call rfl (fun _ => rfl) ?_
  exact Throws.refused fun ctx => by simp [Statement.exec, Db.limitRows_of_neg negative]

/-- A reading method returns its failure value exactly when its query selects no row or one of
its connector calls throws, unless it runs out of memory. -/
theorem absent_iff {op : DaoOp} (reads : op.isRead = true) (connected : (env.acquired n).1 = some k)
    (songs : w.db.playlistSongs.Numbered (·.id)) (history : w.db.playHistory.Numbered (·.id)) :
    op.Absent sys env n w ↔
      (¬op.Selects sys env w.db ∨ op.CallThrows sys env k n w) ∧ ¬op.OutOfMemory env n := by
  cases op with
  -- Of the lookups the first row counts, of the lists all of them.
  | getUserById id =>
    apply absent_iff_of_run not_false (UserDAO.run_getUserById connected id)
    rw [head?_map_eq_none]
    simp [DaoOp.Selects]
  | getUserByUsername username =>
    apply absent_iff_of_run not_false (UserDAO.run_getUserByUsername connected username)
    rw [head?_map_eq_none]
    simp [DaoOp.Selects]
  | getPlaylistById playlistId =>
    apply absent_iff_of_run not_false (PlaylistDAO.run_getPlaylistById connected playlistId)
    rw [head?_map_eq_none]
    simp [DaoOp.Selects]
  | getPlaylistsByUserId userId =>
    apply absent_iff_of_run not_false (PlaylistDAO.run_getPlaylistsByUserId connected userId)
    rw [filter_map_eq_nil]
    simp [DaoOp.Selects]
  | getSongsInPlaylist playlistId =>
    apply absent_iff_of_run not_false (PlaylistDAO.run_getSongsInPlaylist connected playlistId)
    rw [filter_map_eq_nil]
    simp [DaoOp.Selects]
  -- A count is 0 or positive as an `int` too, since the keys are numbered.
  | countSongsInPlaylist playlistId =>
    apply absent_iff_of_run not_false (PlaylistDAO.run_countSongsInPlaylist connected playlistId)
    rw [count_eq_zero_iff songs]
    simp [DaoOp.Selects]
  | getUserPlayHistory userId limit offset =>
    exact getUserPlayHistory_absent_iff connected userId limit offset
  | getUserTotalPlayCount userId =>
    apply absent_iff_of_run not_false (PlayHistoryDAO.run_getUserTotalPlayCount connected userId)
    rw [count_eq_zero_iff history]
    simp [DaoOp.Selects]
  | getUserRecentPlayCount userId days =>
    apply absent_iff_of_run not_false
      (PlayHistoryDAO.run_getUserRecentPlayCount connected userId days)
    rw [count_eq_zero_iff history]
    simp [DaoOp.Selects]
  -- A report is also empty when its limit is 0 or refused.
  | getUserTopArtists userId limit =>
    apply limited_absent_iff fun rows => allRowsCalls (fun _ => 2) rows + 4
    case ran =>
      exact fun chosen selected =>
        PlayHistoryDAO.run_getUserTopArtists connected userId limit selected
    case enough => exact not_false
    case nonempty =>
      rw [ne_eq, orderByDesc_eq_nil, groupBySinger_eq_nil, historyOf_eq_nil, not_not]
    case refused => exact getUserTopArtists_refused connected userId
  | getUserTopSongs userId limit =>
    apply limited_absent_iff fun rows => allRowsCalls PlayHistoryRow.songCost rows + 4
    case ran =>
      exact fun chosen selected =>
        PlayHistoryDAO.run_getUserTopSongs connected userId limit selected
    case enough => exact not_false
    case nonempty => rw [ne_eq, orderByDesc_eq_nil, historyOf_eq_nil, not_not]
    case refused => exact getUserTopSongs_refused connected userId
  | getMostPlayedSongs userId limit =>
    apply limited_absent_iff fun rows =>
      allRowsCalls (fun row => PlayHistoryRow.cost row + 1) rows + 4
    case ran =>
      exact fun chosen selected =>
        PlayHistoryDAO.run_getMostPlayedSongs connected userId limit selected
    case enough => exact not_false
    case nonempty => rw [ne_eq, orderByDesc_eq_nil, historyOf_eq_nil, not_not]
    case refused => exact getMostPlayedSongs_refused connected userId
  | _ => cases reads

/-- Without a connection a reading method returns nothing at all. -/
theorem absent_connected {op : DaoOp} (reads : op.isRead = true) (absent : op.Absent sys env n w) :
    ∃ k, (env.acquired n).1 = some k := by
  cases connected : (env.acquired n).1 with
  | some k => exact ⟨k, rfl⟩
  | none =>
    -- A null connection is dereferenced, which is no answer.
    have ended : (op.program sys).run (exec sys env) n w = (.error .nullDeref, w) := by
      cases op with
      | getUserById | getUserByUsername =>
        simp only [DaoOp.program, UserDAO.getUserById, UserDAO.getUserByUsername]
        exact run_daoMethod_null connected rfl
      | getPlaylistById | getPlaylistsByUserId | getSongsInPlaylist | countSongsInPlaylist =>
        simp only [DaoOp.program, PlaylistDAO.getPlaylistById, PlaylistDAO.getPlaylistsByUserId,
          PlaylistDAO.getSongsInPlaylist, PlaylistDAO.countSongsInPlaylist]
        exact run_daoMethod_null connected rfl
      | getUserPlayHistory | getUserTotalPlayCount | getUserRecentPlayCount | getUserTopArtists
      | getUserTopSongs | getMostPlayedSongs =>
        simp only [DaoOp.program, PlayHistoryDAO.getUserPlayHistory,
          PlayHistoryDAO.getUserTotalPlayCount, PlayHistoryDAO.getUserRecentPlayCount,
          PlayHistoryDAO.getUserTopArtists, PlayHistoryDAO.getUserTopSongs,
          PlayHistoryDAO.getMostPlayedSongs]
        exact run_daoMethod_null connected rfl
      | _ => cases reads
    unfold DaoOp.Absent at absent
    rw [ended] at absent
    cases absent

end Methods

/-! ### The handlers that look a user up -/

section Handlers

variable {sys : System} {env : Env} {n : Nat} {w : World} {req : HttpRequest} {res : HttpResponse}

/-- The `catch` clauses of a handler answer 400 or 500. -/
theorem body_of_catching {version : Nat} {body : Prog HttpResponse}
    (answered : ((UserHandler.catching version body).run (exec sys env) n w).1 = .ok res)
    (missing : res.status = .notFound) : (body.run (exec sys env) n w).1 = .ok res := by
  obtain ⟨later, ran⟩ := run_tryCatch (exec sys env) body n w
  rw [UserHandler.catching, ran] at answered
  revert answered
  generalize body.run (exec sys env) n w = outcome
  obtain ⟨result, after⟩ := outcome
  intro answered
  cases result with
  | ok value => exact answered
  | error exn =>
    cases exn <;> cases answered
    all_goals cases missing

/-- A string field is read, or the request is answered 400. -/
theorem run_stringField {j : Json} {key : String} {next : String → Prog HttpResponse}
    (answered : (((UserHandler.stringField j key).bind next).run (exec sys env) n w).1 = .ok res) :
    ∃ s, j.string? key = some s ∧ ((next s).run (exec sys env) n w).1 = .ok res := by
  cases read : j.string? key with
  | none =>
    rw [UserHandler.stringField, read] at answered
    cases answered
  | some s =>
    rw [UserHandler.stringField, read] at answered
    exact ⟨s, rfl, answered⟩

/-- A lookup that returns something does not end in a 404. -/
theorem run_lookup {op : Prog (Option User)} {next : Option User → Prog HttpResponse}
    (answered : ((op.bind next).run (exec sys env) n w).1 = .ok res)
    (found : ∀ user later after, ((next (some user)).run (exec sys env) later after).1 ≠ .ok res) :
    (op.run (exec sys env) n w).1 = .ok none := by
  obtain ⟨later, ran⟩ := run_bind (exec sys env) op n w
  rw [ran] at answered
  revert answered
  generalize op.run (exec sys env) n w = outcome
  obtain ⟨result, after⟩ := outcome
  intro answered
  cases result with
  | error exn => cases answered
  | ok user =>
    cases user with
    | none => rfl
    | some user => exact absurd answered (found user later after)

/-- `handleLogin` answers 404 only where its lookup returns nothing. -/
theorem login_notFound
    (answered : (runProg sys env (UserHandler.handleLogin sys req) w).1 = .ok res)
    (missing : res.status = .notFound) : ∃ form, loginForm sys req = some form ∧
      (DaoOp.getUserByUsername form.username).Absent sys env 0 w := by
  have body := body_of_catching answered missing
  clear answered
  cases parsed : sys.parse req.body with
  | none =>
    simp only [UserHandler.parseBody, parsed, bind_eq, raise_bind] at body
    cases body
  | some j =>
    simp only [UserHandler.parseBody, parsed, bind_eq, ret_bind] at body
    split at body
    · cases body
      cases missing
    · -- Both members are read, so the one answer left comes from the lookup.
      obtain ⟨username, readUsername, body⟩ := run_stringField body
      obtain ⟨password, readPassword, body⟩ := run_stringField body
      refine ⟨⟨username, password⟩, by simp [loginForm, parsed, readUsername, readPassword], ?_⟩
      refine run_lookup body fun user later after ended => ?_
      dsimp only at ended
      split at ended
      · cases ended
        cases missing
      · cases ended
        cases missing

/-- An accepted token has cost two clock readings. -/
theorem run_verifyToken_bind {token : String} {next : String → Prog HttpResponse} :
    ∃ later, ((JWTUtil.verifyToken sys token).bind next).run (exec sys env) n w =
      if JWTUtil.accepts sys env token then (next token).run (exec sys env) (n + 2) w
      else (next "").run (exec sys env) later w := by
  simp only [JWTUtil.verifyToken, JWTUtil.isTokenExpired, bind_eq]
  cases found : sys.jwt.decode token with
  | none =>
    refine ⟨n, ?_⟩
    simp [JWTUtil.decode_of_none found, JWTUtil.accepts, found, Program.tryCatch]
  | some decoded =>
    -- The first reading is compared by `verify`, the second by `isTokenExpired`.
    have read (m : Nat) (site : ClockRead) :
        exec sys env m (.now site) w = (env.clock site, w) := rfl
    simp only [JWTUtil.decode_of_some found, ret_bind, trigger, act_bind, Program.tryCatch, run,
      read, JWTUtil.accepts, found, Option.any_some]
    cases verified : JWTUtil.verify sys (env.clock .verifyToken) token decoded with
    | false => exact ⟨n + 1, by simp [Program.tryCatch]⟩
    | true =>
      cases exp : decoded.payload.lookup "exp" with
      -- A token without an expiry passes `verify`, but `isTokenExpired` throws.
      | none => exact ⟨n + 1, by simp [Program.tryCatch]⟩
      | some claim =>
        cases claim with
        | date time =>
          refine ⟨n + 2, ?_⟩
          by_cases gone : seconds time < env.clock .isTokenExpired
          · simp [Program.tryCatch, run, read, gone]
          · simp [Program.tryCatch, run, read, gone]
        | _ => exact ⟨n + 1, by simp [Program.tryCatch]⟩

theorem run_tokenUserId_bind {token : String} {next : Int32 → Prog HttpResponse}
    (answered : (((UserHandler.tokenUserId sys token).bind next).run (exec sys env) n w).1 =
      .ok res) :
    ∃ userId, JWTUtil.tokenId? sys token = some userId ∧
      ((next userId).run (exec sys env) n w).1 = .ok res := by
  simp only [UserHandler.tokenUserId, JWTUtil.getClaim, bind_eq] at answered
  cases found : sys.jwt.decode token with
  | none =>
    rw [JWTUtil.decode_of_none found] at answered
    cases answered
  | some decoded =>
    simp only [JWTUtil.decode_of_some found, ret_bind] at answered
    cases id : decoded.payload.lookup "id" with
    | none =>
      simp only [id] at answered
      cases answered
    | some claim =>
      cases claim with
      | string s =>
        simp only [id] at answered
        exact ⟨_, by simp [JWTUtil.tokenId?, found, id], answered⟩
      | _ =>
        simp only [id] at answered
        cases answered

/-- `handleGetProfile` answers 404 only where its lookup, which comes after two clock readings,
returns nothing. -/
theorem profile_notFound
    (answered : (runProg sys env (UserHandler.handleGetProfile sys req) w).1 = .ok res)
    (missing : res.status = .notFound) :
    ∃ userId, JWTUtil.tokenId? sys (req.field "Authorization") = some userId ∧
      (DaoOp.getUserById userId).Absent sys env 2 w := by
  have body := body_of_catching answered missing
  clear answered
  simp only [bind_eq] at body
  obtain ⟨later, ran⟩ := run_verifyToken_bind
  rw [ran] at body
  split at body
  · split at body
    · cases body
      cases missing
    · obtain ⟨userId, named, body⟩ := run_tokenUserId_bind body
      refine ⟨userId, named, ?_⟩
      refine run_lookup body fun user later after ended => ?_
      cases ended
      cases missing
  · cases body
    cases missing

end Handlers

/-- Nothing is selected, or one of the calls of the method throws, and the method does not run out
of memory. -/
def DaoOp.NothingOrThrows (sys : System) (env : Env) (n : Nat) (w : World) (op : DaoOp) : Prop :=
  ∃ k, (env.acquired n).1 = some k ∧
    (¬op.Selects sys env w.db ∨ op.CallThrows sys env k n w) ∧ ¬op.OutOfMemory env n

theorem absent_iff_nothingOrThrows {sys : System} {env : Env} {n : Nat} {w : World} {op : DaoOp}
    (reads : op.isRead = true) (songs : w.db.playlistSongs.Numbered (·.id))
    (history : w.db.playHistory.Numbered (·.id)) :
    op.Absent sys env n w ↔ op.NothingOrThrows sys env n w := by
  constructor
  · intro absent
    obtain ⟨k, connected⟩ := absent_connected reads absent
    exact ⟨k, connected, (absent_iff reads connected songs history).mp absent⟩
  · rintro ⟨k, connected, reason⟩
    exact (absent_iff reads connected songs history).mpr reason

/-- The reading methods cannot tell absence from failure. They report nothing else as absence. -/
theorem absence_or_failure (sys : System) (env : Env) (w : World)
    (songs : w.db.playlistSongs.Numbered (·.id)) (history : w.db.playHistory.Numbered (·.id)) :
    (∀ op : DaoOp, op.isRead = true →
      (op.Absent sys env 0 w ↔ op.NothingOrThrows sys env 0 w)) ∧
    (∀ req res, (runProg sys env (UserHandler.handleLogin sys req) w).1 = .ok res →
      res.status = .notFound → ∃ form, loginForm sys req = some form ∧
        (DaoOp.getUserByUsername form.username).NothingOrThrows sys env 0 w) ∧
    ∀ req res, (runProg sys env (UserHandler.handleGetProfile sys req) w).1 = .ok res →
      res.status = .notFound → ∃ userId,
        JWTUtil.tokenId? sys (req.field "Authorization") = some userId ∧
        (DaoOp.getUserById userId).NothingOrThrows sys env 2 w := by
  refine ⟨fun op reads => absent_iff_nothingOrThrows reads songs history, ?_, ?_⟩
  · intro req res answered missing
    obtain ⟨form, read, absent⟩ := login_notFound answered missing
    exact ⟨form, read, (absent_iff_nothingOrThrows rfl songs history).mp absent⟩
  · intro req res answered missing
    obtain ⟨userId, named, absent⟩ := profile_notFound answered missing
    exact ⟨userId, named, (absent_iff_nothingOrThrows rfl songs history).mp absent⟩

section Lookup

open Reference

/-- Every connector call throws. -/
def connectorDown : Env where
  clock _ := 0
  throws _ := true

theorem oneUser_songs : oneUser.db.playlistSongs.Numbered (·.id) :=
  ⟨List.nodup_nil, by simp [oneUser]⟩

theorem oneUser_history : oneUser.db.playHistory.Numbered (·.id) :=
  ⟨List.nodup_nil, by simp [oneUser]⟩

theorem absence_or_failure_down :
    (DaoOp.getUserById 1).Absent system connectorDown 0 oneUser ↔
      (DaoOp.getUserById 1).NothingOrThrows system connectorDown 0 oneUser :=
  (absence_or_failure system connectorDown oneUser oneUser_songs oneUser_history).1
    (.getUserById 1) rfl

/-- The row is there, and the lookup returns `std::nullopt`. -/
theorem failure_reportedAbsent :
    ¬∀ (sys : System) (env : Env) (w : World), w.db.playlistSongs.Numbered (·.id) →
      w.db.playHistory.Numbered (·.id) → ∀ op : DaoOp, op.isRead = true →
        op.Absent sys env 0 w → ¬op.Selects sys env w.db := by
  intro honest
  have nothing := honest system connectorDown oneUser oneUser_songs oneUser_history
    (.getUserById 1) rfl rfl
  exact nothing ⟨_, List.mem_cons_self, rfl⟩

end Lookup

end MusicPlayer
