import MusicPlayer.Properties.Shutdown
import MusicPlayer.Machines.Totals

/-!
# The end of a shutdown

Once a call of `stop` has stopped the context, every step of any thread brings the end nearer, and
the server cannot get stuck before the main thread has left `main`. So no schedule and no handler
that is still running can keep the process alive, and by then no worker is left.
-/
namespace MusicPlayer

open Machines

/-- A bound on what a call of `stop` has still to do. -/
def StopPc.left (threads : Nat) : StopPc → Nat
  | .check => threads + 7
  | .close => threads + 6
  | .stopContext => threads + 5
  | .reset => threads + 4
  | .join k => (threads - k) + 3
  | .clear => 2
  | .unset => 1

def MainPc.left (threads : Nat) : MainPc → Nat
  | .routes => threads + 14
  | .accept => threads + 13
  | .reserve => threads + 12
  | .create _ | .sleep => threads + 11
  | .poll => threads + 10
  | .destroy pc => pc.left threads + 2
  | .members => 2
  | .gone => 1
  | .exited => 0

def Work.left : Work → Nat
  | .accepted _ => 3
  | .again | .serving => 2
  | .waiting => 1
  | .ended => 0

def Worker.left (worker : Worker) : Nat := worker.work.left + if worker.signal.isSome then 1 else 0

/-- The context is stopped by a statement before this one. -/
def StopPc.Inside : StopPc → Prop
  | .check | .close | .stopContext => False
  | _ => True

namespace Server

/-- A bound on the statements that are left once the context is stopped. -/
def left (s : Server) : Nat :=
  s.main.left s.threads.length + (s.signal.elim 0 (·.left s.threads.length)) +
    total Worker.left s.workers

/-- Some call of `stop` is behind the statement that stopped the context, or has returned. -/
structure Stopping (s : Server) : Prop where
  silent : s.listening = false → s.accepting = 0
  closed : s.stopped = true → s.listening = false
  called : s.stopped = true → s.running = true →
    (∃ pc, s.signal = some pc ∧ pc.Inside) ∨ ∃ pc, s.main = .destroy pc ∧ pc.Inside

variable {n : Int} {s t : Server}

theorem Stopping.init : Stopping {} := by
  constructor <;> simp

theorem Stopping.congr (stopping : Stopping s) (main : t.main = s.main)
    (signal : t.signal = s.signal) (listening : t.listening = s.listening)
    (accepting : t.accepting = s.accepting) (running : t.running = s.running)
    (stopped : t.stopped = s.stopped) : Stopping t := by
  cases stopping
  constructor <;> grind

/-- Only the main thread calls `stop` in earnest. -/
def OnMain (s : Server) (caller : Caller) (pc : StopPc) : Prop :=
  caller = .handler ∧ s.signal = some pc ∨
    caller = .destructor ∧ s.signal = none ∧ s.main = .destroy pc

theorem Stopping.stop {caller : Caller} {pc : StopPc} (stopping : Stopping s)
    (calls : s.OnMain caller pc) (done : pc.Done s.listening s.stopped s.threads)
    (safe : t.crashed = false) (next : s.stop caller pc = some t) : Stopping t := by
  cases stopping
  cases pc with
  | check =>
    cases next
    rcases calls with ⟨rfl, calls⟩ | ⟨rfl, idle, calls⟩
    all_goals constructor <;> grind -linarith [put, StopPc.Inside]
  | close =>
    cases next
    rcases calls with ⟨rfl, calls⟩ | ⟨rfl, idle, calls⟩
    all_goals constructor <;> grind -linarith [put, StopPc.Inside, closeAcceptor]
  | stopContext =>
    cases next
    rcases calls with ⟨rfl, calls⟩ | ⟨rfl, idle, calls⟩
    all_goals constructor <;> grind -linarith [put, StopPc.Inside, StopPc.Done]
  | reset =>
    cases next
    rcases calls with ⟨rfl, calls⟩ | ⟨rfl, idle, calls⟩
    all_goals constructor <;> grind -linarith [put, StopPc.Inside]
  | join k =>
    simp only [Server.stop] at next
    rcases calls with ⟨rfl, calls⟩ | ⟨rfl, idle, calls⟩
    all_goals
      split at next
      · cases next
        constructor <;> grind -linarith [put, StopPc.Inside]
      · cases next
        constructor <;> grind -linarith [put, StopPc.Inside]
      · split at next
        next own => cases own
        · split at next
          · cases next
            constructor <;> grind -linarith [put, StopPc.Inside]
          · cases next
  | clear =>
    simp only [Server.stop] at next
    split at next
    · cases next
      cases safe
    · cases next
      rcases calls with ⟨rfl, calls⟩ | ⟨rfl, idle, calls⟩
      all_goals constructor <;> grind -linarith [put, StopPc.Inside]
  | unset =>
    cases next
    rcases calls with ⟨rfl, calls⟩ | ⟨rfl, idle, calls⟩
    all_goals constructor <;> grind -linarith [put, StopPc.Inside]

theorem Stopping.doAccept (stopping : Stopping s) : Stopping s.doAccept := by
  unfold Server.doAccept
  cases stopping
  split
  · split
    all_goals constructor <;> grind
  · constructor <;> assumption

theorem Stopping.main_step (stopping : Stopping s) (o : Orderly n s) (safe : t.crashed = false)
    (next : s.mainStep n = some t) : Stopping t := by
  have fresh := o.fresh
  simp only [mainStep] at next
  split at next
  next pc calls =>
    refine stopping.stop (.inl ⟨rfl, calls⟩) ?_ safe next
    have here := o.handler pc calls
    grind -linarith [StopPc.Done]
  next idle =>
    split at next
    next pc calls =>
      cases next
      cases stopping
      constructor <;> grind
    next pc calls =>
      cases next
      cases stopping.doAccept
      constructor <;> grind -linarith [Server.doAccept]
    next pc calls =>
      cases next
      cases stopping
      constructor <;> grind
    next k calls =>
      cases stopping
      split at next
      all_goals
        cases next
        constructor <;> grind
    next calls =>
      cases next
      cases stopping
      constructor <;> grind
    next calls =>
      cases next
      cases stopping
      constructor <;> grind
    next pc calls =>
      exact stopping.stop (.inr ⟨rfl, idle, calls⟩) (o.destructor pc calls) safe next
    next calls =>
      cases stopping
      split at next
      all_goals
        cases next
        constructor <;> grind -linarith [crash]
    next calls =>
      cases next
      cases stopping
      constructor <;> grind
    next calls => cases next

theorem Stopping.step {action : ServerAction} (stopping : Stopping s) (o : Orderly n s)
    (safe : t.crashed = false) (next : s.step n action = some t) : Stopping t := by
  simp only [Server.step, o.intact, Bool.false_eq_true, if_false] at next
  cases action with
  | main => exact stopping.main_step o safe next
  | work w =>
    simp only [workStep] at next
    split at next
    · cases next
    next worker found =>
      split at next
      next pc calls =>
        obtain ⟨rfl, off⟩ := o.undisturbed w worker pc found calls
        cases next
        exact stopping.congr rfl rfl rfl rfl rfl rfl
      next idle =>
        split at next
        · cases next
          exact stopping.congr rfl rfl rfl rfl rfl rfl
        · cases next
          exact stopping.doAccept.congr rfl rfl rfl rfl rfl rfl
        · cases next
          exact stopping.congr rfl rfl rfl rfl rfl rfl
        · cases next
        · cases next
  | signal target =>
    cases stopping
    cases target with
    | none =>
      simp only [Server.interrupt] at next
      split at next
      · cases next
      · split at next
        all_goals
          cases next
          constructor <;> grind -linarith [crash, put]
    | some w =>
      simp only [Server.interrupt] at next
      split at next
      · split at next
        · cases next
        · split at next
          all_goals
            cases next
            constructor <;> grind -linarith [crash, put]
      · cases next
  | createFails =>
    simp only [Server.createFails] at next
    cases stopping
    split at next
    · cases next
      constructor <;> grind
    · split at next
      · cases next
        constructor <;> grind
      · cases next
    · cases next
  | take w k =>
    simp only [Server.take] at next
    split at next
    · split at next
      · cases next
        exact stopping.congr rfl rfl rfl rfl rfl rfl
      · cases next
    · cases next
  | serve w =>
    simp only [Server.serve] at next
    split at next
    · cases next
      exact stopping.congr rfl rfl rfl rfl rfl rfl
    · cases next
  | leave w =>
    simp only [Server.leave] at next
    split at next
    · cases next
      exact stopping.congr rfl rfl rfl rfl rfl rfl
    · cases next
  | connect =>
    simp only [Server.connect] at next
    cases stopping
    split at next
    · cases next
      constructor <;> grind
    · cases next
  | refuse =>
    simp only [Server.refuse] at next
    cases stopping
    split at next
    · cases next
      constructor <;> grind
    · cases next

/-! ### Every step brings the end nearer -/

theorem stop_shrinks {caller : Caller} {pc : StopPc} (elsewhere : ∀ w, caller ≠ .worker w)
    (safe : t.crashed = false) (next : s.stop caller pc = some t) :
    ∃ (u : Server) (rest : Option StopPc), t = u.put rest caller ∧
      u.threads.length ≤ s.threads.length ∧
      rest.elim 0 (·.left u.threads.length) < pc.left s.threads.length ∧
      u.main = s.main ∧ u.signal = s.signal ∧ u.workers = s.workers := by
  cases pc with
  | check =>
    cases next
    exact ⟨s, _, rfl, by grind -linarith [StopPc.left]⟩
  | close =>
    cases next
    exact ⟨s.closeAcceptor, _, rfl, by simp [closeAcceptor, StopPc.left]⟩
  | stopContext =>
    cases next
    exact ⟨{ s with stopped := true }, _, rfl, by simp [StopPc.left]⟩
  | reset =>
    cases next
    exact ⟨{ s with guarded := false }, _, rfl, by simp [StopPc.left]⟩
  | join k =>
    simp only [Server.stop] at next
    split at next
    next beyond =>
      cases next
      exact ⟨s, _, rfl, by simp [StopPc.left]⟩
    next joined =>
      cases next
      exact ⟨s, _, rfl, by grind -linarith [StopPc.left]⟩
    next w handle =>
      rw [if_neg (elsewhere w)] at next
      split at next
      · cases next
        exact ⟨{ s with threads := s.threads.set k none }, _, rfl, by grind -linarith [StopPc.left]⟩
      · cases next
  | clear =>
    simp only [Server.stop] at next
    split at next
    · cases next
      cases safe
    · cases next
      exact ⟨{ s with threads := [] }, _, rfl, by simp [StopPc.left]⟩
  | unset =>
    cases next
    exact ⟨{ s with running := false }, _, rfl, by simp [StopPc.left]⟩

theorem left_mono {a b : Nat} (le : a ≤ b) :
    (∀ pc : StopPc, pc.left a ≤ pc.left b) ∧ ∀ pc : MainPc, pc.left a ≤ pc.left b := by
  have stop : ∀ pc : StopPc, pc.left a ≤ pc.left b := by
    intro pc
    cases pc
    all_goals
      simp only [StopPc.left]
      omega
  refine ⟨stop, fun pc => ?_⟩
  cases pc with
  | destroy pc => exact Nat.add_le_add_right (stop pc) 2
  | _ =>
    simp only [MainPc.left]
    omega

theorem main_left (o : Orderly n s) (stopping : Stopping s) (stopped : s.stopped = true)
    (safe : t.crashed = false) (next : s.mainStep n = some t) : t.left < s.left := by
  have fresh := o.fresh
  have off := o.off
  have called := stopping.called stopped
  simp only [mainStep] at next
  split at next
  next pc calls =>
    obtain ⟨u, rest, rfl, fewer, less, main, signal, workers⟩ := stop_shrinks (by simp) safe next
    have mono := (left_mono fewer).2 s.main
    simp only [left, put, main, workers, calls, Option.elim_some]
    omega
  next idle =>
    split at next
    next calls => grind
    next calls =>
      cases next
      grind -linarith [left, Server.doAccept, MainPc.left, StopPc.Inside]
    next calls =>
      cases next
      grind -linarith [left, MainPc.left, StopPc.left]
    next k calls =>
      split at next
      next more => grind -linarith [MainPc.Creating, StopPc.Inside]
      · cases next
        grind -linarith [left, MainPc.left, StopPc.left]
    next calls =>
      cases next
      grind -linarith [left, MainPc.left, StopPc.left, StopPc.Inside]
    next calls =>
      cases next
      grind -linarith [left, MainPc.left, StopPc.left]
    next pc calls =>
      obtain ⟨u, rest, rfl, fewer, less, main, signal, workers⟩ := stop_shrinks (by simp) safe next
      cases rest with
      | none => grind -linarith [left, put, MainPc.left]
      | some pc => grind -linarith [left, put, MainPc.left]
    next calls =>
      split at next
      · cases next
        cases safe
      · cases next
        grind -linarith [left, MainPc.left]
    next calls =>
      cases next
      grind -linarith [left, MainPc.left]
    next calls => cases next

theorem setWork_left {w : Nat} {worker : Worker} {work : Work} (found : s.workers[w]? = some worker)
    (less : work.left < worker.work.left) : (s.setWork w work).left < s.left := by
  have sum := total_modify Worker.left ({ · with work }) found
  simp only [Worker.left] at sum
  simp only [left, setWork]
  omega

theorem step_left {action : ServerAction} (o : Orderly n s) (stopping : Stopping s)
    (stopped : s.stopped = true) (quiet : action.isSignal = false) (safe : t.crashed = false)
    (next : s.step n action = some t) : t.left < s.left := by
  simp only [Server.step, o.intact, Bool.false_eq_true, if_false] at next
  cases action with
  | main => exact main_left o stopping stopped safe next
  | work w =>
    simp only [workStep] at next
    split at next
    · cases next
    next worker found =>
      split at next
      next pc calls =>
        obtain ⟨rfl, off⟩ := o.undisturbed w worker pc found calls
        cases next
        have sum := total_modify Worker.left ({ · with signal := none }) found
        simp only [Worker.left, calls] at sum
        simp only [Option.isSome_some, if_true, Option.isSome_none, Bool.false_eq_true,
          if_false] at sum
        simp only [left, put, off, Bool.false_eq_true, if_false]
        omega
      next idle =>
        split at next
        next work =>
          cases next
          exact setWork_left (s := { s with sessions := _ }) found (by simp [work, Work.left])
        next work =>
          cases next
          have there : s.doAccept.workers[w]? = some worker := by grind -linarith [Server.doAccept]
          have less := setWork_left there (show Work.waiting.left < _ by simp [work, Work.left])
          grind -linarith [Server.doAccept, left]
        next work =>
          cases next
          exact setWork_left found (by simp [work, Work.left])
        · cases next
        · cases next
  | signal target => cases quiet
  | createFails =>
    simp only [Server.createFails] at next
    split at next
    · cases next
      grind -linarith [left, MainPc.left, StopPc.left]
    · split at next
      · cases next
        grind -linarith [left, MainPc.left, StopPc.left]
      · cases next
    · cases next
  | take w k =>
    simp only [Server.take] at next
    split at next
    · split at next
      next enabled => exact absurd stopped enabled.2
      · cases next
    · cases next
  | serve w =>
    simp only [Server.serve] at next
    split at next
    next enabled => exact absurd stopped enabled.2.1
    · cases next
  | leave w =>
    simp only [Server.leave] at next
    split at next
    next enabled =>
      cases next
      have idle : s.workers[w]? = some ⟨.waiting, none⟩ := by simpa [waits] using enabled.1
      exact setWork_left idle (Nat.lt_succ_self 0)
    · cases next
  | connect =>
    have none := stopping.silent (stopping.closed stopped)
    simp [Server.connect, none] at next
  | refuse =>
    have none := stopping.silent (stopping.closed stopped)
    simp [Server.refuse, none] at next

/-! ### No step is missing -/

/-- A worker that has not ended has something to do in a stopped context. -/
theorem worker_enabled (o : Orderly n s) (stopped : s.stopped = true) {w : Nat} {worker : Worker}
    (found : s.workers[w]? = some worker) (alive : worker.work ≠ .ended) :
    ∃ action, action.isSignal = false ∧ (s.step n action).isSome := by
  obtain ⟨work, signal⟩ := worker
  cases signal with
  | some pc =>
    obtain ⟨rfl, off⟩ := o.undisturbed w _ pc found rfl
    refine ⟨.work w, rfl, ?_⟩
    simp [Server.step, o.intact, workStep, found, Server.stop]
  | none =>
    cases work with
    | ended => exact absurd rfl alive
    | waiting =>
      refine ⟨.leave w, rfl, ?_⟩
      simp [Server.step, o.intact, Server.leave, waits, found, stopped]
    | _ =>
      refine ⟨.work w, rfl, ?_⟩
      simp [Server.step, o.intact, workStep, found]

/-- A call of `stop` waits for nothing but a worker. -/
theorem stop_enabled (o : Orderly n s) {caller : Caller} (elsewhere : ∀ w, caller ≠ .worker w)
    (pc : StopPc) : (s.stop caller pc).isSome ∨
      ∃ (w : Nat) (worker : Worker), s.workers[w]? = some worker ∧ worker.work ≠ .ended := by
  cases pc with
  | join k =>
    simp only [Server.stop]
    split
    · exact .inl rfl
    · exact .inl rfl
    next w handle =>
      obtain ⟨rfl, within⟩ := o.own k w handle
      rw [if_neg (elsewhere w)]
      split
      · exact .inl rfl
      next running =>
        refine .inr ⟨w, s.workers[w], List.getElem?_eq_getElem within, fun ended => running ?_⟩
        rw [List.getElem?_eq_getElem within, Option.map_some, ended]
  | clear =>
    simp only [Server.stop]
    split
    · exact .inl rfl
    · exact .inl rfl
  | _ => exact .inl rfl

theorem enabled (o : Orderly n s) (stopped : s.stopped = true) (main : s.main ≠ .exited) :
    ∃ action, action.isSignal = false ∧ (s.step n action).isSome := by
  have goes : (s.mainStep n).isSome ∨
      ∃ (w : Nat) (worker : Worker), s.workers[w]? = some worker ∧ worker.work ≠ .ended := by
    simp only [mainStep]
    split
    next pc calls => exact stop_enabled o (by simp) pc
    next idle =>
      split
      next pc calls => exact .inl rfl
      next pc calls => exact .inl rfl
      next pc calls => exact .inl rfl
      next k calls => split <;> exact .inl rfl
      next pc calls => exact .inl rfl
      next pc calls => exact .inl rfl
      next pc calls => exact stop_enabled o (by simp) pc
      next calls => split <;> exact .inl rfl
      next calls => exact .inl rfl
      next calls => exact absurd calls main
  rcases goes with goes | ⟨w, worker, found, alive⟩
  · refine ⟨.main, rfl, ?_⟩
    simpa [Server.step, o.intact] using goes
  · exact worker_enabled o stopped found alive

/-- What is left when `main` has returned. -/
structure Ended (s : Server) : Prop where
  returned : s.main = .exited
  workers : ∀ worker ∈ s.workers, worker.work = .ended
  threads : s.threads = []
  closed : s.listening = false ∧ s.stopped = true

theorem Orderly.ended (o : Orderly n s) (main : s.main = .exited) : Ended s := by
  have off := o.off (o.past (.inr (.inr main))) (by simp [main])
  refine ⟨main, ?_, off.1, off.2.2⟩
  intro worker member
  obtain ⟨w, found⟩ := List.mem_iff_getElem?.mp member
  by_contra alive
  have handle := o.joinable w worker found alive
  rw [off.1] at handle
  simp at handle

theorem stop_stopped {caller : Caller} {pc : StopPc} (next : s.stop caller pc = some t)
    (stopped : s.stopped = true) : t.stopped = true := by
  cases pc <;> grind -linarith [Server.stop, put_stopped, crash, closeAcceptor]

theorem step_stopped {action : ServerAction} (next : s.step n action = some t)
    (stopped : s.stopped = true) : t.stopped = true := by
  simp only [Server.step] at next
  split at next
  · cases next
  · cases action with
    | main =>
      have stops : ∀ caller pc, s.stop caller pc = some t → t.stopped = true :=
        fun _ _ next => stop_stopped next stopped
      grind -linarith [mainStep, Server.doAccept, crash]
    | work w =>
      have stops : ∀ caller pc, s.stop caller pc = some t → t.stopped = true :=
        fun _ _ next => stop_stopped next stopped
      grind -linarith [workStep, Server.doAccept, setWork]
    | signal target => cases target <;> grind -linarith [Server.interrupt, put_stopped, crash]
    | createFails => grind -linarith [Server.createFails]
    | take w k => grind -linarith [Server.take, setWork]
    | serve w => grind -linarith [Server.serve, setWork]
    | leave w => grind -linarith [Server.leave, setWork]
    | connect => grind -linarith [Server.connect]
    | refuse => grind -linarith [Server.refuse]

theorem Orderly.rest (o : Orderly n s) (stopping : Stopping s) (stopped : s.stopped = true)
    {more : List ServerAction} (quiet : ∀ action ∈ more, action.isSignal = false)
    (ran : run (Server.step n) s more = some t) :
    Orderly n t ∧ t.stopped = true ∧ more.length + t.left ≤ s.left := by
  induction more generalizing s with
  | nil =>
    cases ran
    exact ⟨o, stopped, by simp⟩
  | cons action more ih =>
    obtain ⟨u, next, later⟩ := run_cons.mp ran
    have silent := quiet action List.mem_cons_self
    have harmless : Harmless n s action := by
      cases action with
      | signal target => cases silent
      | _ => trivial
    have o' := o.step harmless next
    have less := step_left o stopping stopped silent o'.intact next
    have stays := step_stopped next stopped
    obtain ⟨o'', stopped'', bound⟩ := ih o' (stopping.step o o'.intact next) stays
      (fun action member => quiet action (List.mem_cons_of_mem _ member)) later
    refine ⟨o'', stopped'', ?_⟩
    simp only [List.length_cons]
    omega

end Server

open Server

/-- One thread, and a signal while the main thread sleeps. -/
def interruptedSleep : List ServerAction :=
  List.replicate 6 .main ++ [.signal none] ++ List.replicate 3 .main

def stoppedServer : Server := (run (Server.step 1) {} interruptedSleep).getD {}

def afterStopping : List ServerAction := [.main, .leave 0] ++ List.replicate 9 .main

end MusicPlayer
