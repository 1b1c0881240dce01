import MusicPlayer.Database.DBManager
import MusicPlayer.Models

/-! `src/database/UserDAO.cpp`. -/
namespace MusicPlayer.UserDAO

open Resumption Program

def buildFromResultSet (sys : System) (guard : SqlConnGuard) (row : UserRow) : Prog User := do
  guard.call (.getInt "id")
  guard.call (.getString "username")
  guard.call (.getString "passwd_hash")
  guard.call (.getString "email")
  guard.call (.getString "create_at")
  guard.call (.getString "update_at")
  guard.call (.isNull "qq_id")
  if row.qqId.isSome then guard.call (.getString "qq_id")
  guard.call (.isNull "netease_id")
  if row.neteaseId.isSome then guard.call (.getString "netease_id")
  return {
    id := row.id
    username := row.username
    passwdHash := row.passwdHash
    email := row.email
    qqId := row.qqId.getD ""
    neteaseId := row.neteaseId.getD ""
    createAt := sys.formatTimestamp row.createAt
    updateAt := sys.formatTimestamp row.updateAt }

/-- `createUser(User& user)`: the user that comes back carries the id that was read. -/
def createUser (sys : System) (user : User) : Prog (Bool × User) :=
  daoMethod (false, user) fun guard => do
    let hashedPasswd := PasswordUtil.hashPassword sys.sha256 user.passwdHash
    guard.call (.prepareStatement
      "INSERT INTO users (username, passwd_hash, email) VALUES (?, ?, ?)")
    guard.call (.setString 1 user.username)
    guard.call (.setString 2 hashedPasswd)
    guard.call (.setString 3 user.email)
    -- The row is committed here; what throws below does not take it back.
    let _ ← guard.execute (.insertUser user.username hashedPasswd user.email)
    guard.call .createStatement
    let result ← guard.execute .selectLastInsertId
    guard.call .next
    match result with
    | id :: _ =>
      guard.call (.getInt "id")
      return (true, { user with id })
    | [] => return (false, user)

def getUserById (sys : System) (id : Int32) : Prog (Option User) :=
  daoMethod none fun guard => do
    guard.call (.prepareStatement "SELECT * FROM users WHERE id = ?")
    guard.call (.setInt 1 id)
    let result ← guard.execute (.selectUserById id)
    guard.call .next
    match result with
    | row :: _ => return some (← buildFromResultSet sys guard row)
    | [] => return none

def getUserByUsername (sys : System) (username : String) : Prog (Option User) :=
  daoMethod none fun guard => do
    guard.call (.prepareStatement "SELECT * FROM users WHERE username = ?")
    guard.call (.setString 1 username)
    let result ← guard.execute (.selectUserByUsername username)
    guard.call .next
    match result with
    | row :: _ => return some (← buildFromResultSet sys guard row)
    | [] => return none

def updateUser (user : User) : Prog Bool :=
  daoMethod false fun guard => do
    guard.call (.prepareStatement
      "UPDATE users SET username = ?, email = ?, qq_id = ?, netease_id = ? WHERE id = ?")
    guard.call (.setString 1 user.username)
    guard.call (.setString 2 user.email)
    let qqId ← guard.bindNullable 3 user.qqId
    let neteaseId ← guard.bindNullable 4 user.neteaseId
    guard.call (.setInt 5 user.id)
    let affectedRow ← guard.execute (.updateUser user.username user.email qqId neteaseId user.id)
    return 0 < affectedRow

def deleteUser (id : Int32) : Prog Bool :=
  daoMethod false fun guard => do
    guard.call (.prepareStatement "DELETE FROM users WHERE id = ?")
    guard.call (.setInt 1 id)
    let affectedRow ← guard.execute (.deleteUser id)
    return 0 < affectedRow

/-- The three single-column updates: success is the absence of an exception. -/
def updateColumn (sql : String) (value : String) (userId : Int32) (s : Statement) : Prog Bool :=
  daoMethod false fun guard => do
    guard.call (.prepareStatement sql)
    guard.call (.setString 1 value)
    guard.call (.setInt 2 userId)
    -- The number of affected rows is dropped.
    let _ ← guard.execute s
    return true

def updatePassword (sys : System) (userId : Int32) (newPassword : String) : Prog Bool :=
  let hashed := PasswordUtil.hashPassword sys.sha256 newPassword
  updateColumn "UPDATE users SET passwd_hash = ? WHERE id = ?" hashed userId
    (.updatePassword hashed userId)

def updateQQId (userId : Int32) (qqId : String) : Prog Bool :=
  updateColumn "UPDATE users SET qq_id = ? WHERE id = ?" qqId userId (.updateQQId qqId userId)

def updateNetEaseId (userId : Int32) (neteaseId : String) : Prog Bool :=
  updateColumn "UPDATE users SET netease_id = ? WHERE id = ?" neteaseId userId
    (.updateNetEaseId neteaseId userId)

end MusicPlayer.UserDAO
