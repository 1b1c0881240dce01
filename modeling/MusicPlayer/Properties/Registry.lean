import MusicPlayer.Database.Statement

/-!
# The registry of accounts

What the `users` table says about who can log in: ids, usernames, password hashes and
addresses. The statements that the routes reach either leave the registry alone, open an
account in it, or give one account another password.
-/
namespace MusicPlayer

open Relational

/-- The columns of a user that identify and authenticate it. -/
structure Account where
  id : Int32
  username : String
  passwdHash : String
  email : String
  deriving DecidableEq

def UserRow.account (row : UserRow) : Account :=
  ⟨row.id, row.username, row.passwdHash, row.email⟩

abbrev Registry := Table Account

def Db.registry (db : Db) : Registry := db.users.map UserRow.account

namespace Registry

/-- Another password for the account with an id, if there is one. -/
def setPassword (registry : Registry) (id : Int32) (passwdHash : String) : Registry :=
  registry.update (·.id == id) fun account => { account with passwdHash }

/-- The keys of `users`: the primary key and the two UNIQUE columns. -/
structure Keyed (collate : String → String) (registry : Registry) : Prop where
  ids : registry.WellFormed Account.id
  usernames : registry.Unique fun account => collate account.username
  emails : registry.Unique fun account => collate account.email

/-- `after` has one account more, under the next id, whose unique columns were free. -/
structure Opens (collate : String → String) (before : Registry) (account : Account)
    (after : Registry) : Prop where
  inserted : before.insert (fun id => { account with id }) = some (account.id, after)
  free : ∀ other ∈ before.rows, collate other.username ≠ collate account.username ∧
    collate other.email ≠ collate account.email

namespace Opens

variable {collate : String → String} {before after : Registry} {account : Account}

theorem rows (opens : Opens collate before account after) :
    after.rows = before.rows ++ [account] :=
  (Table.insert_eq_some opens.inserted).2.1

theorem mem (opens : Opens collate before account after) : account ∈ after.rows := by
  rw [opens.rows]
  exact List.mem_append_right _ (List.mem_singleton_self account)

theorem fresh (opens : Opens collate before account after) (keyed : before.Keyed collate) :
    ∀ other ∈ before.rows, other.id ≠ account.id :=
  keyed.ids.fresh (Table.insert_eq_some opens.inserted).1

end Opens

namespace Keyed

variable {collate : String → String} {registry after : Registry}

theorem empty : Keyed collate {} := ⟨Table.WellFormed.empty, List.nodup_nil, List.nodup_nil⟩

theorem opens (keyed : registry.Keyed collate) {account : Account}
    (opened : Opens collate registry account after) : after.Keyed collate where
  ids := keyed.ids.insert rfl opened.inserted
  usernames := keyed.usernames.insert opened.inserted fun other member =>
    (opened.free other member).1
  emails := keyed.emails.insert opened.inserted fun other member => (opened.free other member).2

theorem setPassword (keyed : registry.Keyed collate) (id : Int32) (passwdHash : String) :
    (registry.setPassword id passwdHash).Keyed collate where
  ids := keyed.ids.update fun _ => rfl
  usernames := keyed.usernames.update fun _ => rfl
  emails := keyed.emails.update fun _ => rfl

end Keyed

theorem mem_setPassword {registry : Registry} {id : Int32} {passwdHash : String}
    {account : Account} : account ∈ (registry.setPassword id passwdHash).rows ↔
      ∃ old ∈ registry.rows,
        account = if old.id = id then { old with passwdHash } else old := by
  simp only [setPassword, Table.update, List.mem_map, beq_iff_eq]
  constructor
  · rintro ⟨old, member, equal⟩
    exact ⟨old, member, equal.symm⟩
  · rintro ⟨old, member, equal⟩
    exact ⟨old, member, equal.symm⟩

end Registry

theorem keyed_of_empty {collate : String → String} {db : Db} (users : db.users.rows = []) :
    db.registry.Keyed collate := by
  have rows : db.registry.rows = [] := by
    rw [Db.registry, Table.map, users]
    rfl
  refine ⟨⟨?_, ?_⟩, ?_, ?_⟩
  · simp [Table.Unique, rows]
  · simp [rows]
  · simp [Table.Unique, rows]
  · simp [Table.Unique, rows]

/-! ### The statements on `users` -/

namespace Db

variable {ctx : SqlContext} {db after : Db} {count : Nat}

theorem insertUser_eq_some {username passwdHash email : String}
    (executed : db.insertUser ctx username passwdHash email = some (count, after)) :
    ∃ id, db.users.insert (fun id => ⟨id, username, passwdHash, email, none, none, ctx.now,
        ctx.now⟩) = some (id, after.users) ∧
      (∀ row ∈ db.users.rows, ¬row.clashes ctx.collate username email) ∧
      after = { db with
        users := after.users
        lastInsertId := Function.update db.lastInsertId ctx.conn id } := by
  unfold insertUser at executed
  split at executed
  next fits =>
    obtain ⟨⟨id, users⟩, inserted, equal⟩ := Option.map_eq_some_iff.mp executed
    simp only [Prod.mk.injEq] at equal
    obtain ⟨-, rfl⟩ := equal
    simp only [Bool.and_eq_true, Bool.not_eq_true', List.any_eq_false] at fits
    exact ⟨id, inserted, fits.2, rfl⟩
  · cases executed

/-- An accepted INSERT opens the account whose id is then `LAST_INSERT_ID()` of the connection. -/
theorem insertUser_opens {username passwdHash email : String}
    (executed : db.insertUser ctx username passwdHash email = some (count, after)) :
    Registry.Opens ctx.collate db.registry
      ⟨after.lastInsertId ctx.conn, username, passwdHash, email⟩ after.registry := by
  obtain ⟨id, inserted, free, equal⟩ := insertUser_eq_some executed
  have last : after.lastInsertId ctx.conn = id := by
    rw [equal]
    exact Function.update_self ..
  rw [last]
  refine ⟨Table.insert_map UserRow.account inserted, ?_⟩
  rintro other member
  obtain ⟨row, present, rfl⟩ := List.mem_map.mp member
  simpa [UserRow.clashes, UserRow.account] using free row present

/-- The other tables and the session values. -/
theorem updateUserRow_eq {id : Int32} {fits : Bool} {assign : UserRow → UserRow}
    (executed : db.updateUserRow ctx id fits assign = some (count, after)) :
    after = { db with users := db.users.update (·.id == id) (UserRow.stamp ctx.now assign) } := by
  unfold updateUserRow at executed
  split at executed
  · cases executed
  · simp only [Option.some.injEq, Prod.mk.injEq] at executed
    exact executed.2.symm

theorem updateUserRow_registry {id : Int32} {fits : Bool} {assign : UserRow → UserRow}
    (keeps : ∀ row, (assign row).account = row.account)
    (executed : db.updateUserRow ctx id fits assign = some (count, after)) :
    after.registry = db.registry := by
  rw [updateUserRow_eq executed]
  refine Table.map_update_of_keeps UserRow.account db.users fun row => ?_
  simpa [UserRow.account] using keeps row

theorem updatePassword_registry {id : Int32} {passwdHash : String} {fits : Bool}
    (executed : db.updateUserRow ctx id fits (fun row => { row with passwdHash }) =
      some (count, after)) :
    after.registry = db.registry.setPassword id passwdHash := by
  rw [updateUserRow_eq executed]
  refine Table.map_update UserRow.account db.users (fun row => rfl) fun row => ?_
  simp [UserRow.account]

end Db

end MusicPlayer
