import MusicPlayer.Properties.Creation

/-!
# What the update methods tell

Five methods update one row. Two of them return whether a row was affected, three whether no
exception was thrown. Both differ from whether the row now holds the requested values: the
database does not count a row that held them before, and it accepts an UPDATE of no row.
-/
namespace MusicPlayer

open Resumption Program Relational

/-- What an update method is asked for: the row, the values and the columns it does not name. -/
structure RowUpdate (ρ κ : Type) where
  table : Db → Table ρ
  replace : Db → Table ρ → Db
  id : ρ → Int32
  updateAt : ρ → Timestamp
  target : Int32
  Holds : ρ → Prop
  unnamed : ρ → κ

namespace RowUpdate

variable {ρ κ : Type} (u : RowUpdate ρ κ)

/-- The row is in the table. -/
def Present (db : Db) : Prop := ∃ row ∈ (u.table db).rows, u.id row = u.target

/-- The row is in the table and holds the requested values. -/
def Held (db : Db) : Prop := ∃ row ∈ (u.table db).rows, u.id row = u.target ∧ u.Holds row

/-- A row before and after: other rows stay, and so do the columns that are not named. The
schema stamps a row that changes with the current time. -/
structure Keeps (now : Timestamp) (old new : ρ) : Prop where
  id : u.id new = u.id old
  other : u.id old ≠ u.target → new = old
  unnamed : u.unnamed new = u.unnamed old
  stamped : new = old ∨ u.updateAt new = now

/-- The result of an update tells whether the row holds the requested values, and nothing else
has changed. -/
structure TellsTruth (now : Timestamp) (before : World) (outcome : Except Exn Bool × World) :
    Prop where
  true_iff : ∀ updated, outcome.1 = .ok updated → (updated = true ↔ u.Held outcome.2.db)
  unchanged : outcome.1 = .ok false → (u.table outcome.2.db).rows = (u.table before.db).rows
  keeps : List.Forall₂ (u.Keeps now) (u.table before.db).rows (u.table outcome.2.db).rows
  others : ∀ table, u.replace outcome.2.db table = u.replace before.db table

end RowUpdate

/-! ### The five methods -/

def userUpdate {κ : Type} (target : Int32) (Holds : UserRow → Prop) (unnamed : UserRow → κ) :
    RowUpdate UserRow κ where
  table db := db.users
  replace db users := { db with users }
  id row := row.id
  updateAt row := row.updateAt
  target
  Holds
  unnamed

namespace UserDAO

def updateUserRequest (user : User) : RowUpdate UserRow (String × Timestamp) :=
  userUpdate user.id
    (fun row => row.username = user.username ∧ row.email = user.email ∧
      row.qqId = nullable user.qqId ∧ row.neteaseId = nullable user.neteaseId)
    fun row => (row.passwdHash, row.createAt)

def updatePasswordRequest (sys : System) (userId : Int32) (newPassword : String) :
    RowUpdate UserRow (String × String × Option String × Option String × Timestamp) :=
  userUpdate userId (fun row => row.passwdHash = PasswordUtil.hashPassword sys.sha256 newPassword)
    fun row => (row.username, row.email, row.qqId, row.neteaseId, row.createAt)

def updateQQIdRequest (userId : Int32) (qqId : String) :
    RowUpdate UserRow (String × String × String × Option String × Timestamp) :=
  userUpdate userId (fun row => row.qqId = some qqId)
    fun row => (row.username, row.passwdHash, row.email, row.neteaseId, row.createAt)

def updateNetEaseIdRequest (userId : Int32) (neteaseId : String) :
    RowUpdate UserRow (String × String × String × Option String × Timestamp) :=
  userUpdate userId (fun row => row.neteaseId = some neteaseId)
    fun row => (row.username, row.passwdHash, row.email, row.qqId, row.createAt)

end UserDAO

def PlaylistDAO.updatePlaylistRequest (playlist : Playlist) :
    RowUpdate PlaylistRow (Int32 × Timestamp) where
  table db := db.playlists
  replace db playlists := { db with playlists }
  id row := row.id
  updateAt row := row.updateAt
  target := playlist.id
  Holds row := row.name = playlist.name ∧ row.cover = nullable playlist.cover
  unnamed row := (row.userId, row.createAt)

/-! ### What an accepted UPDATE does -/

namespace RowUpdate

variable {ρ κ : Type} (u : RowUpdate ρ κ)

/-- What becomes of a row when the UPDATE is executed. -/
structure Changes (now : Timestamp) (old new : ρ) : Prop extends u.Keeps now old new where
  holds : u.id old = u.target → u.Holds new
  settled : u.Holds old → new = old

structure Performed (now : Timestamp) (before : Db) (affected : Nat) (after : Db) : Prop where
  rows : List.Forall₂ (u.Changes now) (u.table before).rows (u.table after).rows
  affected_pos : 0 < affected ↔
    ∃ row ∈ (u.table before).rows, u.id row = u.target ∧ ¬u.Holds row
  others : ∀ table, u.replace after table = u.replace before table

variable {u}

/-- An UPDATE assigns values to the row, and the schema stamps the row if that changes it. -/
theorem performed_of_step [DecidableEq ρ] {now : Timestamp} {before after : Db} {affected : Nat}
    {assign step : ρ → ρ} (stamp : ρ → ρ)
    (steps : ∀ row, assign row = row ∧ step row = row ∨
      assign row ≠ row ∧ step row = stamp (assign row))
    (settled : ∀ row, u.Holds row → assign row = row) (assigned : ∀ row, u.Holds (assign row))
    (holds : ∀ row, u.Holds (stamp (assign row)))
    (keepsId : ∀ row, u.id (stamp (assign row)) = u.id row)
    (keeps : ∀ row, u.unnamed (stamp (assign row)) = u.unnamed row)
    (stamps : ∀ row, u.updateAt (stamp row) = now)
    (affected_eq : affected = (u.table before).changedRows (fun row => u.id row == u.target) assign)
    (updated : u.table after = (u.table before).update (fun row => u.id row == u.target) step)
    (others : ∀ table, u.replace after table = u.replace before table) :
    u.Performed now before affected after := by
  -- A row that has the values already stays, and its stamp with it.
  have same {row : ρ} (holds : u.Holds row) : u.Changes now row row :=
    { id := rfl, other := fun _ => rfl, unnamed := rfl, stamped := .inl rfl,
      holds := fun _ => holds, settled := fun _ => rfl }
  have holds_iff (row : ρ) : assign row = row ↔ u.Holds row :=
    ⟨fun equal => equal ▸ assigned row, settled row⟩
  constructor
  case rows =>
    rw [updated, Table.update, List.forall₂_map_right_iff, List.forall₂_same]
    intro row member
    split
    next selected =>
      rcases steps row with ⟨equal, step⟩ | ⟨differs, step⟩
      · rw [step]
        exact same ((holds_iff row).mp equal)
      · have here : u.id row = u.target := beq_iff_eq.mp selected
        rw [step]
        exact { id := keepsId row, other := fun elsewhere => absurd here elsewhere,
                unnamed := keeps row, stamped := .inr (stamps _), holds := fun _ => holds row,
                settled := fun already => absurd (settled row already) differs }
    -- Rows that the WHERE clause does not select.
    next other =>
      have elsewhere : u.id row ≠ u.target := fun here => other (beq_iff_eq.mpr here)
      exact { id := rfl, other := fun _ => rfl, unnamed := rfl, stamped := .inl rfl,
              holds := fun here => absurd here elsewhere, settled := fun _ => rfl }
  case affected_pos =>
    rw [affected_eq, Table.changedRows, List.countP_pos_iff]
    simp only [Bool.and_eq_true, beq_iff_eq, decide_eq_true_eq, ne_eq, holds_iff]
  case others => exact others

end RowUpdate

section Statements

variable {ctx : SqlContext} {before after : Db} {affected : Nat}

theorem UserRow.stamp_cases (now : Timestamp) (assign : UserRow → UserRow) (row : UserRow) :
    assign row = row ∧ row.stamp now assign = row ∨
      assign row ≠ row ∧ row.stamp now assign = { assign row with updateAt := now } := by
  unfold UserRow.stamp
  split
  next same => exact .inl ⟨same, rfl⟩
  next differs => exact .inr ⟨differs, rfl⟩

theorem PlaylistRow.stamp_cases (now : Timestamp) (assign : PlaylistRow → PlaylistRow)
    (row : PlaylistRow) : assign row = row ∧ row.stamp now assign = row ∨
      assign row ≠ row ∧ row.stamp now assign = { assign row with updateAt := now } := by
  unfold PlaylistRow.stamp
  split
  next same => exact .inl ⟨same, rfl⟩
  next differs => exact .inr ⟨differs, rfl⟩

/-- The updates of `users`, by the values that they assign. -/
theorem performed_updateUserRow {κ : Type} {target : Int32} {Holds : UserRow → Prop}
    {unnamed : UserRow → κ} {fits : Bool} {assign : UserRow → UserRow}
    (executed : before.updateUserRow ctx target fits assign = some (affected, after))
    (settled : ∀ row, Holds row → assign row = row) (assigned : ∀ row, Holds (assign row))
    (holds : ∀ row updateAt, Holds { assign row with updateAt })
    (keepsId : ∀ row, (assign row).id = row.id)
    (keeps : ∀ row updateAt, unnamed { assign row with updateAt } = unnamed row) :
    (userUpdate target Holds unnamed).Performed ctx.now before affected after := by
  have shape := Db.updateUserRow_eq executed
  apply RowUpdate.performed_of_step (fun row => { row with updateAt := ctx.now })
    fun row => row.stamp_cases ctx.now assign
  case settled => exact settled
  case assigned => exact assigned
  case holds => exact fun row => holds row ctx.now
  case keepsId => exact keepsId
  case keeps => exact fun row => keeps row ctx.now
  case stamps => exact fun _ => rfl
  case affected_eq =>
    unfold Db.updateUserRow at executed
    split at executed
    · cases executed
    · cases executed
      rfl
  case updated => exact congrArg Db.users shape
  case others =>
    intro table
    rw [shape]
    rfl

theorem performed_updateUser (user : User)
    (executed : before.updateUser ctx user.username user.email (nullable user.qqId)
      (nullable user.neteaseId) user.id = some (affected, after)) :
    (UserDAO.updateUserRequest user).Performed ctx.now before affected after := by
  refine performed_updateUserRow executed ?_ (fun _ => ⟨rfl, rfl, rfl, rfl⟩)
    (fun _ _ => ⟨rfl, rfl, rfl, rfl⟩) (fun _ => rfl) fun _ _ => rfl
  rintro row ⟨username, email, qqId, neteaseId⟩
  rw [← username, ← email, ← qqId, ← neteaseId]

theorem performed_updatePassword (sys : System) (userId : Int32) (newPassword : String)
    {fits : Bool} (executed : before.updateUserRow ctx userId fits (fun row =>
      { row with passwdHash := PasswordUtil.hashPassword sys.sha256 newPassword }) =
        some (affected, after)) :
    (UserDAO.updatePasswordRequest sys userId newPassword).Performed ctx.now before affected
      after := by
  refine performed_updateUserRow executed ?_ (fun _ => rfl) (fun _ _ => rfl) (fun _ => rfl)
    fun _ _ => rfl
  intro row passwdHash
  rw [← passwdHash]

theorem performed_updateQQId (userId : Int32) (qqId : String) {fits : Bool}
    (executed : before.updateUserRow ctx userId fits (fun row => { row with qqId := some qqId }) =
      some (affected, after)) :
    (UserDAO.updateQQIdRequest userId qqId).Performed ctx.now before affected after := by
  refine performed_updateUserRow executed ?_ (fun _ => rfl) (fun _ _ => rfl) (fun _ => rfl)
    fun _ _ => rfl
  intro row qqId
  rw [← qqId]

theorem performed_updateNetEaseId (userId : Int32) (neteaseId : String) {fits : Bool}
    (executed : before.updateUserRow ctx userId fits (fun row =>
      { row with neteaseId := some neteaseId }) = some (affected, after)) :
    (UserDAO.updateNetEaseIdRequest userId neteaseId).Performed ctx.now before affected after := by
  refine performed_updateUserRow executed ?_ (fun _ => rfl) (fun _ _ => rfl) (fun _ => rfl)
    fun _ _ => rfl
  intro row neteaseId
  rw [← neteaseId]

theorem performed_updatePlaylist (playlist : Playlist)
    (executed : before.updatePlaylist ctx playlist.name (nullable playlist.cover) playlist.id =
      some (affected, after)) :
    (PlaylistDAO.updatePlaylistRequest playlist).Performed ctx.now before affected after := by
  unfold Db.updatePlaylist at executed
  split at executed
  · cases executed
  · cases executed
    refine RowUpdate.performed_of_step (fun row => { row with updateAt := ctx.now })
      (fun row => row.stamp_cases ctx.now _) ?_ (fun _ => ⟨rfl, rfl⟩) (fun _ => ⟨rfl, rfl⟩)
      (fun _ => rfl) (fun _ => rfl) (fun _ => rfl) rfl rfl fun _ => rfl
    rintro row ⟨name, cover⟩
    rw [← name, ← cover]

end Statements

/-! ### The result and the row -/

namespace RowUpdate

variable {ρ κ : Type} {u : RowUpdate ρ κ} {now : Timestamp} {w : World}

theorem keeps_rfl (rows : List ρ) : List.Forall₂ (u.Keeps now) rows rows :=
  List.forall₂_same.mpr fun _ _ =>
    { id := rfl, other := fun _ => rfl, unnamed := rfl, stamped := .inl rfl }

/-- Undefined behaviour is no result. -/
theorem tellsTruth_error (exn : Exn) : u.TellsTruth now w (.error exn, w) where
  true_iff := by
    rintro updated ⟨⟩
  unchanged := by
    rintro ⟨⟩
  keeps := keeps_rfl _
  others _ := rfl

/-- An update that fails tells the truth unless there was nothing to do. -/
theorem tellsTruth_failed : u.TellsTruth now w (.ok false, w) ↔ ¬u.Held w.db := by
  constructor
  · intro truth held
    exact absurd ((truth.true_iff false rfl).mpr held) (by decide)
  · intro absent
    constructor
    case true_iff =>
      rintro updated ⟨⟩
      exact iff_of_false (by decide) absent
    case unchanged => exact fun _ => rfl
    case keeps => exact keeps_rfl _
    case others => exact fun _ => rfl

namespace Performed

variable {after : Db} {affected : Nat}

/-- After the UPDATE the row holds the values, if it is there. -/
theorem held_iff (performed : u.Performed now w.db affected after) :
    u.Held after ↔ u.Present w.db := by
  constructor
  · rintro ⟨new, member, target, -⟩
    obtain ⟨old, present, changes⟩ := exists_before performed.rows member
    exact ⟨old, present, changes.id ▸ target⟩
  · rintro ⟨old, member, target⟩
    obtain ⟨new, present, changes⟩ := exists_after performed.rows member
    exact ⟨new, present, changes.id.trans target, changes.holds target⟩

theorem rows_of_unaffected (performed : u.Performed now w.db 0 after) :
    (u.table after).rows = (u.table w.db).rows := by
  refine eq_of_rows performed.rows fun old member new changes => ?_
  by_cases here : u.id old = u.target
  · apply changes.settled
    by_contra differs
    exact absurd (performed.affected_pos.mpr ⟨old, member, here, differs⟩) (lt_irrefl 0)
  · exact changes.other here

theorem tellsTruth_iff (performed : u.Performed now w.db affected after) {updated : Bool}
    (counted : updated = false → affected = 0) :
    u.TellsTruth now w (.ok updated, { w with db := after }) ↔
      (updated = true ↔ u.Present w.db) := by
  constructor
  · intro truth
    rw [truth.true_iff updated rfl]
    exact performed.held_iff
  · intro told
    constructor
    case true_iff =>
      rintro result ⟨⟩
      rw [told]
      exact performed.held_iff.symm
    -- A call that returns false has affected no row.
    case unchanged =>
      intro failed
      have unaffected := counted (Except.ok.inj failed)
      subst unaffected
      exact performed.rows_of_unaffected
    case keeps => exact performed.rows.imp fun _ _ changes => changes.toKeeps
    case others => exact performed.others

/-- The number of affected rows tells the truth unless the row held the values before. -/
theorem affected_tellsTruth_iff (performed : u.Performed now w.db affected after)
    (unique : (u.table w.db).Unique u.id) :
    u.TellsTruth now w (.ok (affectsRows affected), { w with db := after }) ↔ ¬u.Held w.db := by
  have counted : affectsRows affected = false → affected = 0 := by
    simp [affectsRows]
  have positive : affectsRows affected = true ↔ 0 < affected := by
    simp [affectsRows]
  rw [performed.tellsTruth_iff counted, positive, performed.affected_pos]
  constructor
  · rintro told ⟨row, member, target, holds⟩
    obtain ⟨other, present, also, differs⟩ := told.mpr ⟨row, member, target⟩
    rw [unique.eq_of_key present member (also.trans target.symm)] at differs
    exact differs holds
  · intro fresh
    constructor
    · rintro ⟨row, member, target, -⟩
      exact ⟨row, member, target⟩
    · rintro ⟨row, member, target⟩
      exact ⟨row, member, target, fun holds => fresh ⟨row, member, target, holds⟩⟩

end Performed

/-- When the affected rows tell the truth. -/
def NotYetHeld (u : RowUpdate ρ κ) (env : Env) (w : World) : Prop :=
  (env.acquired 0).1.isSome → ¬u.Held w.db

/-- When the absence of an exception tells the truth: an UPDATE, which is call number 3, that is
executed finds the row, and one that is not executed was needed. -/
def RightlyExecuted (u : RowUpdate ρ κ) (sys : System) (env : Env) (w : World) (s : Statement) :
    Prop :=
  ∀ k, (env.acquired 0).1 = some k →
    if env.QuietFrom (env.acquired 0).2 4 ∧
        (s.exec (env.context sys k ((env.acquired 0).2 + 3)) w.db).isSome then
      u.Present w.db
    else ¬u.Held w.db

end RowUpdate

section Methods

variable {sys : System} {env : Env} {w : World} {k : Conn}

theorem updateUser_tellsTruth_iff (user : User) (ids : w.db.users.Unique (·.id)) :
    (UserDAO.updateUserRequest user).TellsTruth env.dbNow w
        (runProg sys env (UserDAO.updateUser user) w) ↔
      (UserDAO.updateUserRequest user).NotYetHeld env w := by
  unfold RowUpdate.NotYetHeld
  cases connected : (env.acquired 0).1 with
  | none =>
    rw [UserDAO.updateUser, runProg, run_daoMethod_null connected rfl]
    exact iff_of_true (RowUpdate.tellsTruth_error _) (by simp)
  | some k =>
    rw [runProg, UserDAO.run_updateUser connected, issuedAt]
    unfold issued
    simp only [Option.isSome_some, forall_true_left]
    split
    · split
      next affected after executed =>
        exact (performed_updateUser user executed).affected_tellsTruth_iff ids
      · exact RowUpdate.tellsTruth_failed
    · exact RowUpdate.tellsTruth_failed

theorem updatePlaylist_tellsTruth_iff (playlist : Playlist)
    (ids : w.db.playlists.Unique (·.id)) :
    (PlaylistDAO.updatePlaylistRequest playlist).TellsTruth env.dbNow w
        (runProg sys env (PlaylistDAO.updatePlaylist playlist) w) ↔
      (PlaylistDAO.updatePlaylistRequest playlist).NotYetHeld env w := by
  unfold RowUpdate.NotYetHeld
  cases connected : (env.acquired 0).1 with
  | none =>
    rw [PlaylistDAO.updatePlaylist, runProg, run_daoMethod_null connected rfl]
    exact iff_of_true (RowUpdate.tellsTruth_error _) (by simp)
  | some k =>
    rw [runProg, PlaylistDAO.run_updatePlaylist connected, issuedAt]
    unfold issued
    simp only [Option.isSome_some, forall_true_left]
    split
    · split
      next affected after executed =>
        exact (performed_updatePlaylist playlist executed).affected_tellsTruth_iff ids
      · exact RowUpdate.tellsTruth_failed
    · exact RowUpdate.tellsTruth_failed

/-- The three single-column updates. -/
theorem updateColumn_tellsTruth_iff {ρ κ : Type} {u : RowUpdate ρ κ} {s : Statement}
    (sql value : String) (userId : Int32)
    (performed : ∀ ctx reply after, ctx.now = env.dbNow → s.exec ctx w.db = some (reply, after) →
      ∃ affected, u.Performed env.dbNow w.db affected after) :
    u.TellsTruth env.dbNow w (runProg sys env (UserDAO.updateColumn sql value userId s) w) ↔
      u.RightlyExecuted sys env w s := by
  unfold RowUpdate.RightlyExecuted
  cases connected : (env.acquired 0).1 with
  -- Without a connection the call ends in an error, which tells no lie.
  | none =>
    rw [UserDAO.updateColumn, runProg, run_daoMethod_null connected rfl]
    exact iff_of_true (RowUpdate.tellsTruth_error _) (by simp)
  | some k =>
    rw [runProg, UserDAO.run_updateColumn connected, issuedAt]
    unfold issued
    simp only [Option.some.injEq, forall_eq']
    split
    -- The answer is true only if the statement was executed.
    next quiet =>
      split
      next reply after executed =>
        obtain ⟨affected, done⟩ := performed _ reply after rfl executed
        rw [done.tellsTruth_iff (by simp), if_pos ⟨quiet, by simp [executed]⟩]
        simp
      next refused =>
        rw [if_neg (by simp [refused])]
        exact RowUpdate.tellsTruth_failed
    next loud =>
      rw [if_neg fun both => loud both.1]
      exact RowUpdate.tellsTruth_failed

end Methods

/-- The calls of the five methods. -/
inductive UpdateCall where
  | updateUser (user : User)
  | updatePassword (userId : Int32) (newPassword : String)
  | updateQQId (userId : Int32) (qqId : String)
  | updateNetEaseId (userId : Int32) (neteaseId : String)
  | updatePlaylist (playlist : Playlist)

namespace UpdateCall

def TellsTruth (sys : System) (env : Env) (w : World) : UpdateCall → Prop
  | updateUser user => (UserDAO.updateUserRequest user).TellsTruth env.dbNow w
    (runProg sys env (UserDAO.updateUser user) w)
  | updatePassword userId newPassword =>
    (UserDAO.updatePasswordRequest sys userId newPassword).TellsTruth env.dbNow w
      (runProg sys env (UserDAO.updatePassword sys userId newPassword) w)
  | updateQQId userId qqId => (UserDAO.updateQQIdRequest userId qqId).TellsTruth env.dbNow w
    (runProg sys env (UserDAO.updateQQId userId qqId) w)
  | updateNetEaseId userId neteaseId =>
    (UserDAO.updateNetEaseIdRequest userId neteaseId).TellsTruth env.dbNow w
      (runProg sys env (UserDAO.updateNetEaseId userId neteaseId) w)
  | updatePlaylist playlist => (PlaylistDAO.updatePlaylistRequest playlist).TellsTruth env.dbNow w
    (runProg sys env (PlaylistDAO.updatePlaylist playlist) w)

/-- What a method goes by agrees with what the row holds. -/
def GoesByRow (sys : System) (env : Env) (w : World) : UpdateCall → Prop
  | updateUser user => (UserDAO.updateUserRequest user).NotYetHeld env w
  | updatePassword userId newPassword =>
    (UserDAO.updatePasswordRequest sys userId newPassword).RightlyExecuted sys env w
      (.updatePassword (PasswordUtil.hashPassword sys.sha256 newPassword) userId)
  | updateQQId userId qqId => (UserDAO.updateQQIdRequest userId qqId).RightlyExecuted sys env w
    (.updateQQId qqId userId)
  | updateNetEaseId userId neteaseId =>
    (UserDAO.updateNetEaseIdRequest userId neteaseId).RightlyExecuted sys env w
      (.updateNetEaseId neteaseId userId)
  | updatePlaylist playlist => (PlaylistDAO.updatePlaylistRequest playlist).NotYetHeld env w

end UpdateCall

section MissingRow

open Reference

theorem oneUser_users : oneUser.db.users.Unique (·.id) := by
  simp [oneUser, Table.Unique]

theorem oneUser_playlists : oneUser.db.playlists.Unique (·.id) := by
  simp [oneUser, Table.Unique]

end MissingRow

end MusicPlayer
