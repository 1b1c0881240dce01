import MusicPlayer.Effects

/-!
# Connection pool and connection guard

`DBManager::getConnection` and the scope of an `SqlConnGuard`, over which every method of
the data access objects is written.
-/
namespace MusicPlayer

open Resumption Program

/-- Calls that neither reply nor change anything. -/
def ConnectorCall.isPlain : ConnectorCall → Bool
  | .isValid | .execute _ => false
  | _ => true

namespace DBManager

/-- What one iteration of the constructor's loop meets. -/
inductive ConnectOutcome where
  | connected
  | connectThrows
  | setSchemaThrows
  deriving DecidableEq, Repr

/-- The loop of the constructor from iteration `i` on, with the iterations left. The first
exception ends it; a connection whose `setSchema` threw was not pushed. -/
def createConnections (outcome : Nat → ConnectOutcome) (i : Nat) : Nat → List Conn
  | 0 => []
  | left + 1 =>
    match outcome i with
    | .connected => i :: createConnections outcome (i + 1) left
    | .connectThrows | .setSchemaThrows => []

/-- `m_connections` after the constructor, which catches its exceptions. -/
def construct (outcome : Nat → ConnectOutcome) (poolSize : Nat) : List Conn :=
  createConnections outcome 0 poolSize

/-- A call through a connection pointer. -/
def call (conn : Option Conn) (c : ConnectorCall) : Prog c.Reply := do
  ofExcept (← trigger (.connector conn c))

/-- The reconnect of an invalid connection; its failure is logged and ignored. -/
def revalidate (conn : Option Conn) : Prog Unit :=
  tryCatch (do
    let valid ← call conn .isValid
    if !valid then
      call conn .reconnect
      call conn .setSchema) fun
  | .sqlException => .ret ()
  | exn => .raise exn

def popConnection : Prog (Option Conn) := do
  match ← trigger .lockPool with
  | some conn => return some conn
  -- `wait_for` ends with a connection or, after the timeout, with a null pointer.
  | none => trigger .waitFor

def getConnection : Prog (Option Conn) := do
  let conn ← popConnection
  match conn with
  -- The callers put the null pointer into a guard and use it.
  | none => return none
  | some _ =>
    revalidate conn
    return conn

end DBManager

structure SqlConnGuard where
  conn : Option Conn

namespace SqlConnGuard

/-- `guard->…`, and calls on the statements and result sets that came from it. -/
def call (guard : SqlConnGuard) (c : ConnectorCall) : Prog c.Reply := DBManager.call guard.conn c

def execute (guard : SqlConnGuard) (s : Statement) : Prog s.Reply := guard.call (.execute s)

/-- `~SqlConnGuard`. -/
def destroy (guard : SqlConnGuard) : Prog Unit :=
  match guard.conn with
  | some conn => trigger (.releaseConnection conn)
  | none => return ()

/-- The scope of a guard: the destructor runs however the body ends. -/
def scope {α : Type} (body : SqlConnGuard → Prog α) : Prog α := do
  let conn ← DBManager.getConnection
  trigger (.constructGuard conn)
  let result ← (body ⟨conn⟩).attempt
  destroy ⟨conn⟩
  ofExcept result

/-- `while (result->next()) list.emplace_back(build(result));` -/
def fetch {ρ β : Type} (guard : SqlConnGuard) (build : ρ → Prog β) : List ρ → Prog (List β)
  | [] => do
    -- The call that finds no further row.
    guard.call .next
    return []
  | row :: rest => do
    guard.call .next
    let item ← build row
    let items ← fetch guard build rest
    return item :: items

/-- `pstmt->setString`, or `setNull` for an empty string. -/
def bindNullable (guard : SqlConnGuard) (index : Nat) (s : String) : Prog (Option String) := do
  if s.isEmpty then
    guard.call (.setNull index)
    return none
  else
    guard.call (.setString index s)
    return some s

/-- `getInt("count")` of the only row of a `SELECT COUNT(*) AS count`, 0 without one. -/
def readCount (guard : SqlConnGuard) (result : List Nat) : Prog Int32 := do
  guard.call .next
  match result with
  | count :: _ =>
    guard.call (.getInt "count")
    return Int32.ofNat count
  | [] => return 0

end SqlConnGuard

/-- The shape of every method of the data access objects: a guard in a `try`, and a
declared failure value in the only `catch`, of `SQLException`. -/
def daoMethod {α : Type} (failure : α) (body : SqlConnGuard → Prog α) : Prog α :=
  tryCatch (SqlConnGuard.scope body) fun
  | .sqlException => .ret failure
  | exn => .raise exn

end MusicPlayer
