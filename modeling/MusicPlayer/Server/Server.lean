import MusicPlayer.Machines.Runs

/-!
# The server and its shutdown

`src/server/Server.cpp` and `main` of `src/server/main.cpp`, from `g_server = &server` on. The
threads are the main thread and the workers that `run` creates. `SIGINT` interrupts any one of
them between two statements, and `signalHandler` then calls `stop` on that thread; while it does,
no further signal interrupts the same thread.

Of the requests the model has only that workers serve them. `crashed` stands for
`std::terminate` and for undefined behaviour.
-/
namespace MusicPlayer

/-- How far a call of `stop` has come. -/
inductive StopPc where
  /-- `if (!m_running) return;` -/
  | check
  /-- `m_acceptor.close();` -/
  | close
  /-- `m_ioc.stop();` -/
  | stopContext
  /-- `m_work_guards->reset();` -/
  | reset
  /-- The loop, before the element `k` of `m_threads`. -/
  | join (k : Nat)
  /-- `m_threads.clear();` -/
  | clear
  /-- `m_running = false;` -/
  | unset
  deriving DecidableEq

/-- How far the main thread has come. -/
inductive MainPc where
  /-- `setupRoutes`, up to `m_running = true` in `run`. -/
  | routes
  /-- `doAccept();` -/
  | accept
  /-- `m_threads.reserve(m_num_threads);` -/
  | reserve
  /-- The loop that creates the threads. -/
  | create (i : Nat)
  /-- `while (m_running)` -/
  | poll
  /-- `sleep_for` and `cleanupExpiredCodes`. -/
  | sleep
  /-- `run` has returned or thrown: `~Server` calls `stop`. -/
  | destroy (pc : StopPc)
  /-- The members of the server are destroyed. -/
  | members
  /-- `main` has no server any more, and `g_server` still points to it. -/
  | gone
  | exited
  deriving DecidableEq

/-- What a worker does. The handler of `async_accept` gets a connection or an error. -/
inductive Work where
  /-- In `m_ioc.run()`, in no handler. -/
  | waiting
  /-- In the handler of `async_accept`, before the session is made. -/
  | accepted (connection : Option Nat)
  /-- In the handler of `async_accept`, before `doAccept()`. -/
  | again
  /-- In a handler of a session. -/
  | serving
  /-- `m_ioc.run()` has returned. -/
  | ended
  deriving DecidableEq

structure Worker where
  work : Work := .waiting
  /-- The call of `stop` by a signal that interrupts the worker. -/
  signal : Option StopPc := none
  deriving DecidableEq

structure Server where
  main : MainPc := .routes
  /-- The call of `stop` by a signal that interrupts the main thread. -/
  signal : Option StopPc := none
  /-- Every worker that was ever created. -/
  workers : List Worker := []
  /-- `m_threads`: the worker, as long as the `std::thread` is joinable. -/
  threads : List (Option Nat) := []
  /-- `m_running` -/
  running : Bool := false
  /-- `m_ioc.stopped()` -/
  stopped : Bool := false
  /-- `m_work_guards` keeps `m_ioc.run()` from returning. -/
  guarded : Bool := true
  /-- `m_acceptor.is_open()` -/
  listening : Bool := true
  /-- The calls of `async_accept` that have not completed. -/
  accepting : Nat := 0
  /-- Completed accepts whose handlers have not been called. -/
  ready : List (Option Nat) := []
  /-- How many connections were accepted; they are numbered in that order. -/
  accepted : Nat := 0
  /-- The connections that got a session. -/
  sessions : List Nat := []
  crashed : Bool := false
  deriving DecidableEq

/-- Who has called `stop`. -/
inductive Caller where
  /-- `signalHandler` on the main thread. -/
  | handler
  | destructor
  /-- `signalHandler` on a worker. -/
  | worker (w : Nat)
  deriving DecidableEq

namespace Server

/-- `doAccept`: on a closed acceptor the accept completes at once, with an error. -/
def doAccept (s : Server) : Server :=
  if s.running then
    if s.listening then { s with accepting := s.accepting + 1 }
    else { s with ready := s.ready ++ [none] }
  else s

/-- What is still waited for completes with `operation_aborted`. -/
def closeAcceptor (s : Server) : Server :=
  { s with
    listening := false
    accepting := 0
    ready := s.ready ++ List.replicate s.accepting none }

def crash (s : Server) : Server := { s with crashed := true }

/-- A worker runs `work` from now on. -/
def setWork (s : Server) (w : Nat) (work : Work) : Server :=
  { s with workers := s.workers.modify w ({ · with work }) }

/-- A call of `stop` goes on, or has returned. -/
def put (s : Server) (pc : Option StopPc) : Caller → Server
  | .handler => { s with signal := pc }
  | .destructor => { s with main := pc.elim .members .destroy }
  | .worker w => { s with workers := s.workers.modify w ({ · with signal := pc }) }

section Put

variable {s : Server} (pc : Option StopPc) (caller : Caller)

@[simp] theorem put_threads : (s.put pc caller).threads = s.threads := by cases caller <;> rfl

@[simp] theorem put_running : (s.put pc caller).running = s.running := by cases caller <;> rfl

@[simp] theorem put_stopped : (s.put pc caller).stopped = s.stopped := by cases caller <;> rfl

@[simp] theorem put_accepted : (s.put pc caller).accepted = s.accepted := by cases caller <;> rfl

@[simp] theorem put_crashed : (s.put pc caller).crashed = s.crashed := by cases caller <;> rfl

end Put

/-- A loop of `stop` in the destructor has not seen all of `m_threads`. -/
def looping (s : Server) : Bool :=
  match s.main with
  | .destroy (.join k) => k < s.threads.length
  | _ => false

/-- The next statement of `stop`. There is none while `join` blocks. A thread that joins itself
gets an exception that nothing catches, and `clear` destroys what a loop may still go through. -/
def stop (s : Server) (caller : Caller) : StopPc → Option Server
  | .check => some (s.put (if s.running then some .close else none) caller)
  | .close => some (s.closeAcceptor.put (some .stopContext) caller)
  | .stopContext => some ({ s with stopped := true }.put (some .reset) caller)
  | .reset => some ({ s with guarded := false }.put (some (.join 0)) caller)
  | .join k =>
    match s.threads[k]? with
    | none => some (s.put (some .clear) caller)
    | some none => some (s.put (some (.join (k + 1))) caller)
    | some (some w) =>
      if caller = .worker w then some s.crash
      else if s.workers[w]?.map (·.work) = some .ended then
        some ({ s with threads := s.threads.set k none }.put (some (.join (k + 1))) caller)
      else none
  | .clear =>
    if s.looping || s.threads.any Option.isSome then some s.crash
    else some ({ s with threads := [] }.put (some .unset) caller)
  | .unset => some ({ s with running := false }.put none caller)

/-- The next statement of the main thread. The destructor of a joinable `std::thread`
terminates. -/
def mainStep (numThreads : Int) (s : Server) : Option Server :=
  match s.signal with
  | some pc => s.stop .handler pc
  | none =>
    match s.main with
    | .routes => some { s with running := true, main := .accept }
    | .accept => some { s.doAccept with main := .reserve }
    -- A negative number is no size: `reserve` throws `length_error`.
    | .reserve => some { s with main := if numThreads < 0 then .destroy .check else .create 0 }
    | .create i =>
      if i < numThreads then
        some { s with
          workers := s.workers ++ [{}]
          threads := s.threads ++ [some s.workers.length]
          main := .create (i + 1) }
      else some { s with main := .poll }
    | .poll => some { s with main := if s.running then .sleep else .destroy .check }
    | .sleep => some { s with main := .poll }
    | .destroy pc => s.stop .destructor pc
    | .members =>
      if s.threads.any Option.isSome then some s.crash else some { s with main := .gone }
    | .gone => some { s with main := .exited }
    | .exited => none

/-- The next statement of a worker in a handler. -/
def workStep (s : Server) (w : Nat) : Option Server :=
  match s.workers[w]? with
  | none => none
  | some worker =>
    match worker.signal with
    | some pc => s.stop (.worker w) pc
    | none =>
      match worker.work with
      | .accepted connection =>
        some ({ s with sessions := s.sessions ++ connection.toList }.setWork w .again)
      | .again => some (s.doAccept.setWork w .waiting)
      | .serving => some (s.setWork w .waiting)
      | .waiting | .ended => none

/-- In `m_ioc.run()`, and not interrupted. -/
def waits (s : Server) (w : Nat) : Bool := s.workers[w]? = some ⟨.waiting, none⟩

end Server

inductive ServerAction where
  /-- The main thread goes on. -/
  | main
  /-- Creating a thread or making room for it throws. -/
  | createFails
  /-- A worker goes on with the handler that it is in. -/
  | work (w : Nat)
  /-- `m_ioc.run()` calls the handler of a completed accept. -/
  | take (w k : Nat)
  /-- `m_ioc.run()` calls a handler of a session. -/
  | serve (w : Nat)
  /-- `m_ioc.run()` returns. -/
  | leave (w : Nat)
  /-- An accept completes, with a connection or with an error. -/
  | connect
  | refuse
  /-- `SIGINT` on the main thread (`none`) or on a worker. -/
  | signal (target : Option Nat)
  deriving DecidableEq

def ServerAction.isSignal : ServerAction → Bool
  | .signal _ => true
  | _ => false

namespace Server

/-- `run` throws before it has created all threads. -/
def createFails (numThreads : Int) (s : Server) : Option Server :=
  match s.signal, s.main with
  | none, .reserve => some { s with main := .destroy .check }
  | none, .create i => if i < numThreads then some { s with main := .destroy .check } else none
  | _, _ => none

/-- What `m_ioc.run()` does with a worker that waits in it. -/
def take (s : Server) (w k : Nat) : Option Server :=
  match s.ready[k]? with
  | some connection =>
    if s.waits w ∧ ¬s.stopped then
      some ({ s with ready := s.ready.eraseIdx k }.setWork w (.accepted connection))
    else none
  | none => none

def serve (s : Server) (w : Nat) : Option Server :=
  if s.waits w ∧ ¬s.stopped ∧ s.sessions ≠ [] then some (s.setWork w .serving) else none

def leave (s : Server) (w : Nat) : Option Server :=
  if s.waits w ∧ (s.stopped ∨ ¬s.guarded) then some (s.setWork w .ended) else none

def connect (s : Server) : Option Server :=
  if 0 < s.accepting then
    some { s with
      accepting := s.accepting - 1
      ready := s.ready ++ [some s.accepted]
      accepted := s.accepted + 1 }
  else none

def refuse (s : Server) : Option Server :=
  if 0 < s.accepting then
    some { s with accepting := s.accepting - 1, ready := s.ready ++ [none] }
  else none

/-- `signalHandler`: after the server is gone, it uses an object that does not exist. -/
def interrupt (s : Server) : (target : Option Nat) → Option Server
  | none =>
    if s.main = .exited ∨ s.signal.isSome then none
    else if s.main = .gone then some s.crash
    else some (s.put (some .check) .handler)
  | some w =>
    match s.workers[w]? with
    | some ⟨work, none⟩ =>
      if work = .ended then none
      else if s.main = .gone ∨ s.main = .exited then some s.crash
      else some (s.put (some .check) (.worker w))
    | _ => none

def step (numThreads : Int) (s : Server) (action : ServerAction) : Option Server :=
  if s.crashed then none else
  match action with
  | .main => s.mainStep numThreads
  | .createFails => s.createFails numThreads
  | .work w => s.workStep w
  | .take w k => s.take w k
  | .serve w => s.serve w
  | .leave w => s.leave w
  | .connect => s.connect
  | .refuse => s.refuse
  | .signal target => s.interrupt target

end Server

end MusicPlayer
