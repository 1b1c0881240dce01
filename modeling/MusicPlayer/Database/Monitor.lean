import MusicPlayer.Server.Threads

/-!
# The mutex and the condition variable of the pool

`getConnection` and `releaseConnection` with `m_mtx` and `m_cv`. `Threads` has each critical
section as one step. Here a thread takes the mutex first, gives it up while it is in the wait set
of `m_cv`, and has to get it back before it looks at the pool again. It may wake without a reason.

`wait_for(lock, timeout, pred)` is `while (!pred()) if (wait_until(lock, end) == timeout) return
pred();`.
-/
namespace MusicPlayer

open Resumption Program

/-- Where a thread is in the critical sections of the pool. -/
inductive Waiting where
  /-- In none of them. -/
  | outside
  /-- With the mutex, before it has looked at the queue. -/
  | entered
  /-- With the mutex, in `wait_for` and before its predicate. The time may be over. -/
  | checking (expired : Bool)
  /-- In the wait set. -/
  | blocked
  /-- Out of the wait set, without the mutex. -/
  | woken (expired : Bool)
  deriving DecidableEq

/-- It has the mutex. -/
def Waiting.holds : Waiting → Bool
  | .entered | .checking _ => true
  | .outside | .blocked | .woken _ => false

/-- It is in `wait_for`. -/
def Waiting.waits : Waiting → Bool
  | .checking _ | .blocked | .woken _ => true
  | .outside | .entered => false

/-- It is in `wait_for`, and will look at the queue by itself. -/
def Waiting.awake : Waiting → Bool
  | .checking _ | .woken _ => true
  | .outside | .entered | .blocked => false

/-- The effects that begin with the constructor of a lock on `m_mtx`. -/
def Effect.locks : Effect → Bool
  | .lockPool | .releaseConnection _ => true
  | _ => false

structure Monitor (ι : Type) where
  config : Config ι Effect Effect.Reply Exn DaoOp.Result (PoolState ι)
  waiting : ι → Waiting := fun _ => .outside
  /-- Who has `m_mtx`. -/
  owner : Option ι := none

namespace Monitor

variable {ι : Type} [DecidableEq ι]

/-- All threads before their first operation. -/
def init (ι : Type) (outcome : Nat → DBManager.ConnectOutcome) (poolSize : Nat) (w : World) :
    Monitor ι where
  config := daoInit ι outcome poolSize w

/-- The program of a thread has gone on. -/
def advance (m : Monitor ι) (i : ι) {job : DaoOp} (rest : Prog job.Result)
    (after : PoolState ι) : Monitor ι :=
  { m with config := ⟨after, Function.update m.config.threads i (some ⟨job, rest⟩)⟩ }

def moveTo (m : Monitor ι) (i : ι) (place : Waiting) : Monitor ι :=
  { m with waiting := Function.update m.waiting i place }

/-- A thread takes the mutex. -/
def lock (m : Monitor ι) (i : ι) (place : Waiting) : Monitor ι :=
  { m.moveTo i place with owner := some i }

def unlock (m : Monitor ι) (i : ι) (place : Waiting) : Monitor ι :=
  { m.moveTo i place with owner := none }

/-- What a thread does by itself. -/
inductive Proceeds (sys : System) (i : ι) : Monitor ι → Monitor ι → Prop where
  /-- An effect that has nothing to do with the mutex. -/
  | other {m : Monitor ι} {job : DaoOp} {effect : Effect} {rest : effect.Reply → Prog job.Result}
      {reply : effect.Reply} {after : PoolState ι}
      (runs : m.config.threads i = some ⟨job, .act effect rest⟩)
      (outside : m.waiting i = .outside) (apart : effect.locks = false ∧ effect ≠ .waitFor)
      (step : (daoThreads ι sys).step i effect m.config.shared reply after) :
      Proceeds sys i m (m.advance i (rest reply) after)
  | lock {m : Monitor ι} {job : DaoOp} {effect : Effect} {rest : effect.Reply → Prog job.Result}
      (runs : m.config.threads i = some ⟨job, .act effect rest⟩) (locks : effect.locks)
      (outside : m.waiting i = .outside) (free : m.owner = none) :
      Proceeds sys i m (m.lock i .entered)
  /-- `getConnection` finds a connection and pops it. -/
  | pop {m : Monitor ι} {job : DaoOp} {rest : Option Conn → Prog job.Result} {conn : Conn}
      {after : PoolState ι} (runs : m.config.threads i = some ⟨job, .act .lockPool rest⟩)
      (entered : m.waiting i = .entered) (taken : m.config.shared.take i = (some conn, after)) :
      Proceeds sys i m ((m.advance i (rest (some conn)) after).unlock i .outside)
  /-- It finds none and calls `wait_for`. -/
  | wait {m : Monitor ι} {job : DaoOp} {rest : Option Conn → Prog job.Result}
      (runs : m.config.threads i = some ⟨job, .act .lockPool rest⟩)
      (entered : m.waiting i = .entered) (empty : m.config.shared.pool = []) :
      Proceeds sys i m ((m.advance i (rest none) m.config.shared).moveTo i (.checking false))
  /-- The predicate holds, and the connection is popped under the same lock. -/
  | satisfied {m : Monitor ι} {job : DaoOp} {rest : Option Conn → Prog job.Result} {conn : Conn}
      {after : PoolState ι} {expired : Bool}
      (runs : m.config.threads i = some ⟨job, .act .waitFor rest⟩)
      (checking : m.waiting i = .checking expired)
      (taken : m.config.shared.take i = (some conn, after)) :
      Proceeds sys i m ((m.advance i (rest (some conn)) after).unlock i .outside)
  | block {m : Monitor ι} {job : DaoOp} {rest : Option Conn → Prog job.Result}
      (runs : m.config.threads i = some ⟨job, .act .waitFor rest⟩)
      (checking : m.waiting i = .checking false) (empty : m.config.shared.pool = []) :
      Proceeds sys i m (m.unlock i .blocked)
  /-- The predicate does not hold at the end of the time. -/
  | giveUp {m : Monitor ι} {job : DaoOp} {rest : Option Conn → Prog job.Result}
      (runs : m.config.threads i = some ⟨job, .act .waitFor rest⟩)
      (checking : m.waiting i = .checking true) (empty : m.config.shared.pool = []) :
      Proceeds sys i m
        ((m.advance i (rest none) (m.config.shared.afterWait i).2).unlock i .outside)
  | relock {m : Monitor ι} {expired : Bool} (woken : m.waiting i = .woken expired)
      (free : m.owner = none) : Proceeds sys i m (m.lock i (.checking expired))
  /-- `push_back` and a `notify_one` that nobody waits for. -/
  | push {m : Monitor ι} {job : DaoOp} {rest : Unit → Prog job.Result} {conn : Conn}
      (runs : m.config.threads i = some ⟨job, .act (.releaseConnection conn) rest⟩)
      (entered : m.waiting i = .entered) (nobody : ∀ j, m.waiting j ≠ .blocked) :
      Proceeds sys i m
        ((m.advance i (rest ()) (m.config.shared.release i conn)).unlock i .outside)
  /-- `push_back` and a `notify_one` that wakes one of those in the wait set. -/
  | notify {m : Monitor ι} {job : DaoOp} {rest : Unit → Prog job.Result} {conn : Conn} {j : ι}
      (runs : m.config.threads i = some ⟨job, .act (.releaseConnection conn) rest⟩)
      (entered : m.waiting i = .entered) (blocked : m.waiting j = .blocked) :
      Proceeds sys i m (((m.advance i (rest ()) (m.config.shared.release i conn)).moveTo j
        (.woken false)).unlock i .outside)

/-- What happens to the threads, besides. -/
inductive Move (sys : System) : Monitor ι → Monitor ι → Prop where
  | proceeds {m next : Monitor ι} {i : ι} (proceeds : Proceeds sys i m next) : Move sys m next
  | start {m : Monitor ι} {i : ι} {op : DaoOp} (idle : (m.config.threads i).Idle) :
      Move sys m (m.advance i (op.program sys) (m.config.shared.begin i))
  | spurious {m : Monitor ι} {i : ι} (blocked : m.waiting i = .blocked) :
      Move sys m (m.moveTo i (.woken false))
  /-- The time is over, for a thread in the wait set or one that has just left it. -/
  | expire {m : Monitor ι} {i : ι}
      (asleep : m.waiting i = .blocked ∨ m.waiting i = .woken false) :
      Move sys m (m.moveTo i (.woken true))

inductive Reachable (sys : System) (first : Monitor ι) : Monitor ι → Prop where
  | init : Reachable sys first first
  | move {m next : Monitor ι} (reach : Reachable sys first m) (move : Move sys m next) :
      Reachable sys first next

theorem Reachable.proceeds {sys : System} {first m next : Monitor ι} {i : ι}
    (reach : Reachable sys first m) (proceeds : Proceeds sys i m next) :
    Reachable sys first next :=
  reach.move (.proceeds proceeds)

section Fields

variable (m : Monitor ι) (i : ι) {job : DaoOp} (rest : Prog job.Result) (after : PoolState ι)
  (place : Waiting)

@[simp] theorem advance_threads : (m.advance i rest after).config.threads =
    Function.update m.config.threads i (some ⟨job, rest⟩) := rfl

@[simp] theorem advance_shared : (m.advance i rest after).config.shared = after := rfl

@[simp] theorem advance_waiting : (m.advance i rest after).waiting = m.waiting := rfl

@[simp] theorem advance_owner : (m.advance i rest after).owner = m.owner := rfl

@[simp] theorem moveTo_config : (m.moveTo i place).config = m.config := rfl

@[simp] theorem moveTo_waiting :
    (m.moveTo i place).waiting = Function.update m.waiting i place := rfl

@[simp] theorem moveTo_owner : (m.moveTo i place).owner = m.owner := rfl

@[simp] theorem lock_config : (m.lock i place).config = m.config := rfl

@[simp] theorem lock_waiting :
    (m.lock i place).waiting = Function.update m.waiting i place := rfl

@[simp] theorem lock_owner : (m.lock i place).owner = some i := rfl

@[simp] theorem unlock_config : (m.unlock i place).config = m.config := rfl

@[simp] theorem unlock_waiting :
    (m.unlock i place).waiting = Function.update m.waiting i place := rfl

@[simp] theorem unlock_owner : (m.unlock i place).owner = none := rfl

end Fields

end Monitor

end MusicPlayer
