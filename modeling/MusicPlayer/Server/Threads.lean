import MusicPlayer.Resumption.Schedule
import MusicPlayer.Database.Operations

/-!
# Threads over the connection pool

Any number of threads, interleaved at single effects. Here the pool is the queue
`m_connections` of `DBManager`, shared by the threads, and no longer a choice of the
environment. The rest of the world answers as it does for a single request.

Besides the queue the state records who has which connection, who waited in vain, and who
inserted which user. Nothing the threads do depends on these records.
-/
namespace MusicPlayer

open Resumption Program

structure PoolState (ι : Type) where
  world : World
  /-- `m_connections`. -/
  pool : List Conn
  /-- Popped by a `getConnection` that is still running. -/
  popped : ι → Option Conn := fun _ => none
  /-- Held by a guard. -/
  guarded : ι → Option Conn := fun _ => none
  /-- The `wait_for` of the running operation ended on an empty pool. -/
  timedOut : ι → Bool := fun _ => false
  inserted : List (ι × UserRow) := []

namespace PoolState

variable {ι : Type} [DecidableEq ι]

/-- A new operation of a thread. -/
def begin (s : PoolState ι) (i : ι) : PoolState ι :=
  { s with timedOut := Function.update s.timedOut i false }

/-- `conn = m_connections.front(); m_connections.pop_front();`, or nothing to pop. -/
def take (s : PoolState ι) (i : ι) : Option Conn × PoolState ι :=
  match s.pool with
  | [] => (none, s)
  | conn :: rest =>
    (some conn, { s with pool := rest, popped := Function.update s.popped i (some conn) })

/-- The end of `wait_for`: the pool is not empty, or the time is over. -/
def afterWait (s : PoolState ι) (i : ι) : Option Conn × PoolState ι :=
  match s.pool with
  | [] => (none, { s with timedOut := Function.update s.timedOut i true })
  | _ :: _ => s.take i

def construct (s : PoolState ι) (i : ι) (conn : Option Conn) : PoolState ι :=
  { s with
    popped := Function.update s.popped i none
    guarded := Function.update s.guarded i conn }

/-- `m_connections.push_back(conn)`. -/
def release (s : PoolState ι) (i : ι) (conn : Conn) : PoolState ι :=
  { s with
    pool := s.pool ++ [conn]
    guarded := Function.update s.guarded i none }

/-- The world moves; users that it has got are recorded under the thread. -/
def advance (s : PoolState ι) (i : ι) (w : World) : PoolState ι :=
  { s with
    world := w
    inserted := s.inserted ++
      (w.db.users.rows.drop s.world.db.users.rows.length).map fun row => (i, row) }

/-- The users that a thread has inserted. -/
def rowsBy (s : PoolState ι) (i : ι) : List UserRow :=
  s.inserted.filterMap fun entry => if entry.1 = i then some entry.2 else none

end PoolState

section Step

variable {ι : Type} [DecidableEq ι]

/-- One effect of a thread. What does not concern the pool is answered by some environment
of those considered. -/
def poolStep (sys : System) (envs : Env → Prop) (i : ι) (effect : Effect) (a : PoolState ι)
    (reply : effect.Reply) (b : PoolState ι) : Prop :=
  match effect, reply with
  | .lockPool, reply => (reply, b) = a.take i
  | .waitFor, reply => (reply, b) = a.afterWait i
  | .constructGuard conn, _ => b = a.construct i conn
  | .releaseConnection conn, _ => b = a.release i conn
  | effect, reply => ∃ env count w, envs env ∧ exec sys env count effect a.world = (reply, w) ∧
      b = a.advance i w

/-- One effect of a thread in a given environment, as the `n`-th effect for it. -/
def poolExec (sys : System) (i : ι) (choice : Env × Nat) (effect : Effect) (a : PoolState ι) :
    effect.Reply × PoolState ι :=
  match effect with
  | .lockPool => a.take i
  | .waitFor => a.afterWait i
  | .constructGuard conn => ((), a.construct i conn)
  | .releaseConnection conn => ((), a.release i conn)
  | effect =>
    let (reply, w) := exec sys choice.1 choice.2 effect a.world
    (reply, a.advance i w)

theorem poolStep_poolExec {sys : System} {envs : Env → Prop} {i : ι} {choice : Env × Nat}
    (considered : envs choice.1) (effect : Effect) (a : PoolState ι) :
    poolStep sys envs i effect a (poolExec sys i choice effect a).1
      (poolExec sys i choice effect a).2 := by
  cases effect with
  | lockPool | waitFor | constructGuard | releaseConnection => rfl
  | _ => exact ⟨choice.1, choice.2, _, considered, rfl, rfl⟩

/-- Threads that run operations of the data access objects, one after the other. -/
def daoThreads (ι : Type) [DecidableEq ι] (sys : System) :
    Concurrent ι Effect Effect.Reply Exn DaoOp DaoOp.Result (PoolState ι) where
  program := DaoOp.program sys
  starts i _ a b := b = a.begin i
  step := poolStep sys fun _ => True

/-- All threads before their first operation, over the pool that the constructor made. -/
def daoInit (ι : Type) (outcome : Nat → DBManager.ConnectOutcome) (poolSize : Nat) (w : World) :
    Config ι Effect Effect.Reply Exn DaoOp.Result (PoolState ι) where
  shared := { world := w, pool := DBManager.construct outcome poolSize }
  threads _ := none

/-- For a single thread the pool is one more thing that its environment decides. -/
theorem step_of_poolStep {sys : System} {envs : Env → Prop} {i : ι} {effect : Effect}
    {a b : PoolState ι} {reply : effect.Reply} (step : poolStep sys envs i effect a reply b) :
    ∃ env, Step sys env effect a.world reply b.world := by
  -- The effects on the pool leave the world as it is.
  have same {s : PoolState ι} {conn : Option Conn} (taken : (conn, b) = s.take i) :
      b.world = s.world := by
    unfold PoolState.take at taken
    split at taken <;> (cases taken; rfl)
  cases effect with
  | lockPool =>
    refine ⟨{ clock := fun _ => 0, connection := fun _ => reply }, 0, ?_⟩
    rw [same step]
    rfl
  | waitFor =>
    refine ⟨{ clock := fun _ => 0, connection := fun _ => reply }, 0, ?_⟩
    have world : b.world = a.world := by
      change (reply, b) = a.afterWait i at step
      unfold PoolState.afterWait at step
      split at step
      · cases step
        rfl
      · exact same step
    rw [world]
    rfl
  | constructGuard conn =>
    cases step
    exact ⟨{ clock := fun _ => 0 }, 0, rfl⟩
  | releaseConnection conn =>
    cases step
    exact ⟨{ clock := fun _ => 0 }, 0, rfl⟩
  | _ =>
    obtain ⟨env, count, w, -, answered, rfl⟩ := step
    exact ⟨env, count, answered⟩

end Step

end MusicPlayer
