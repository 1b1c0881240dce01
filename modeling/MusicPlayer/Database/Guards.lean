import MusicPlayer.Machines.Runs
import MusicPlayer.Database.DBManager
import Mathlib.Logic.Function.Basic

/-!
# Guards as values

Any number of guards over one pool, and all that the public interface of `SqlConnGuard` lets a
caller do with them. The constructors from another guard are deleted and the assignments are
defaulted: an assignment copies or moves `m_conn` and does nothing else.
-/
namespace MusicPlayer

open Machines

namespace SqlConnGuard

/-- `operator=(const SqlConnGuard&)`: the two share what the other one had. -/
def copyAssign (_guard other : SqlConnGuard) : SqlConnGuard := ⟨other.conn⟩

/-- `operator=(SqlConnGuard&&)`: the guard and the other one afterwards. -/
def moveAssign (_guard other : SqlConnGuard) : SqlConnGuard × SqlConnGuard := (⟨other.conn⟩, ⟨none⟩)

end SqlConnGuard

inductive GuardOp (ι : Type) where
  /-- `SqlConnGuard guard(db_manager->getConnection());` -/
  | construct (guard : ι)
  | copyAssign (guard other : ι)
  | moveAssign (guard other : ι)
  | destroy (guard : ι)
  deriving DecidableEq

/-- The pool and the guards that live, with a record of what was taken from the pool and what was
pushed back. Nothing depends on the record. -/
structure GuardState (ι : Type) where
  /-- `m_connections`. -/
  connections : List Conn
  guards : ι → Option SqlConnGuard := fun _ => none
  acquired : List Conn := []
  released : List Conn := []

namespace GuardState

variable {ι : Type}

/-- What the constructor of the pool leaves, before any guard. -/
def start (ι : Type) (outcome : Nat → DBManager.ConnectOutcome) (poolSize : Nat) :
    GuardState ι where
  connections := DBManager.construct outcome poolSize

/-- `m_conn` of a guard that lives. -/
def held (s : GuardState ι) (i : ι) : Option Conn := (s.guards i).bind (·.conn)

variable [DecidableEq ι]

/-- An operation, if the guards that it names live, or do not live yet. -/
def step (s : GuardState ι) : GuardOp ι → Option (GuardState ι)
  | .construct i => do
    guard (s.guards i).isNone
    match s.connections with
    -- After the timeout `getConnection` returns a null pointer.
    | [] => return { s with guards := Function.update s.guards i (some ⟨none⟩) }
    | conn :: rest =>
      return { s with
        connections := rest
        guards := Function.update s.guards i (some ⟨some conn⟩)
        acquired := s.acquired ++ [conn] }
  | .copyAssign i j => do
    let guard ← s.guards i
    let other ← s.guards j
    return { s with guards := Function.update s.guards i (some (guard.copyAssign other)) }
  | .moveAssign i j => do
    let guard ← s.guards i
    let other ← s.guards j
    let (moved, emptied) := guard.moveAssign other
    -- The other one is emptied first, so that a move of a guard to itself changes nothing.
    return { s with
      guards := Function.update (Function.update s.guards j (some emptied)) i (some moved) }
  | .destroy i => do
    let guard ← s.guards i
    let after := { s with guards := Function.update s.guards i none }
    match guard.conn with
    | none => return after
    | some conn =>
      return { after with
        connections := s.connections ++ [conn]
        released := s.released ++ [conn] }

def run (s : GuardState ι) (ops : List (GuardOp ι)) : Option (GuardState ι) :=
  Machines.run step s ops

end GuardState

end MusicPlayer
