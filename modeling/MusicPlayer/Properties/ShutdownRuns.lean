import MusicPlayer.Properties.Shutdown

/-!
# Runs with signals

A signal that is not harmless may crash the server: what is left of the run can be chosen so. Hence
a run is safe, however it goes on, if and only if all its signals are harmless.
-/
namespace MusicPlayer

open Machines

/-- The thread that a call of `stop` runs on goes on. -/
def Caller.action : Caller → ServerAction
  | .handler | .destructor => .main
  | .worker w => .work w

theorem Caller.quiet (caller : Caller) : caller.action.isSignal = false := by
  cases caller <;> rfl

namespace Server

/-- A call of `stop` is the next to go on, on its thread. -/
def At (s : Server) : Caller → StopPc → Prop
  | .handler, pc => s.signal = some pc
  | .destructor, pc => s.signal = none ∧ s.main = .destroy pc
  | .worker w, pc => ∃ work, s.workers[w]? = some ⟨work, some pc⟩

/-- Without a signal. -/
abbrev Continues (n : Int) (s t : Server) : Prop :=
  Reaches (step n) (fun action => action.isSignal = false) s t

variable {n : Int} {s t u : Server} {caller : Caller} {pc : StopPc}

theorem step_of_at (intact : s.crashed = false) (calls : s.At caller pc) :
    s.step n caller.action = s.stop caller pc := by
  unfold Server.step
  rw [intact]
  cases caller with
  | handler =>
    have calls : s.signal = some pc := calls
    simp [Caller.action, mainStep, calls]
  | destructor =>
    obtain ⟨idle, calls⟩ := calls
    simp [Caller.action, mainStep, idle, calls]
  | worker w =>
    obtain ⟨work, found⟩ := calls
    simp [Caller.action, workStep, found]

theorem At.continues (calls : s.At caller pc) (intact : s.crashed = false)
    (next : s.stop caller pc = some t) : Continues n s t :=
  .one caller.action caller.quiet (by rw [step_of_at intact calls, next])

theorem at_put {next : StopPc} (calls : s.At caller pc) (signal : u.signal = s.signal)
    (workers : u.workers = s.workers) : (u.put (some next) caller).At caller next := by
  cases caller with
  | handler => rfl
  | destructor => exact ⟨signal.trans calls.1, rfl⟩
  | worker w =>
    obtain ⟨work, found⟩ := calls
    exact ⟨work, by grind [put]⟩

/-! ### The end of a worker -/

/-- What workers do to one another and to a call of `stop`. -/
structure Aside (s t : Server) : Prop where
  main : t.main = s.main
  signal : t.signal = s.signal
  threads : t.threads = s.threads
  running : t.running = s.running
  stopped : s.stopped = true → t.stopped = true
  intact : t.crashed = s.crashed
  signals : ∀ w : Nat, t.workers[w]?.map (·.signal) = s.workers[w]?.map (·.signal)

theorem Aside.refl : Aside s s := ⟨rfl, rfl, rfl, rfl, id, rfl, fun _ => rfl⟩

theorem Aside.trans (first : Aside s t) (later : Aside t u) : Aside s u := by
  cases first
  cases later
  constructor <;> grind

theorem aside_setWork (w : Nat) (work : Work) : Aside s (s.setWork w work) := by
  constructor <;> grind [Server.setWork]

theorem aside_doAccept : Aside s s.doAccept := by
  unfold Server.doAccept
  constructor <;> grind

theorem Aside.signal_of {w : Nat} {work : Work} {signal : Option StopPc} (aside : Aside s t)
    (found : s.workers[w]? = some ⟨work, signal⟩) :
    ∃ work, t.workers[w]? = some ⟨work, signal⟩ := by
  have same := aside.signals w
  rw [found] at same
  simp only [Option.map_some, Option.map_eq_some_iff] at same
  obtain ⟨⟨later, _⟩, there, rfl⟩ := same
  exact ⟨later, there⟩

theorem Aside.at (aside : Aside s t) (calls : s.At caller pc) : t.At caller pc := by
  cases caller with
  | handler => exact aside.signal.trans calls
  | destructor => exact ⟨aside.signal.trans calls.1, aside.main.trans calls.2⟩
  | worker w =>
    obtain ⟨work, found⟩ := calls
    exact aside.signal_of found

/-- A worker that waits in a stopped context leaves it. -/
theorem waiting_ends {w : Nat} (intact : s.crashed = false) (stopped : s.stopped = true)
    (found : s.workers[w]? = some ⟨.waiting, none⟩) :
    ∃ t, Continues n s t ∧ Aside s t ∧ t.workers[w]? = some ⟨.ended, none⟩ := by
  refine ⟨s.setWork w .ended, .one (.leave w) rfl ?_, aside_setWork w _, ?_⟩
  · simp [Server.step, Server.leave, intact, waits, found, stopped]
  · grind [Server.setWork]

/-- So does one that waits after its next step. -/
theorem working_ends {w : Nat} (intact : s.crashed = false) (stopped : s.stopped = true)
    (next : s.step n (.work w) = some t) (aside : Aside s t)
    (ends : t.crashed = false → t.stopped = true →
      ∃ u, Continues n t u ∧ Aside t u ∧ u.workers[w]? = some ⟨.ended, none⟩) :
    ∃ u, Continues n s u ∧ Aside s u ∧ u.workers[w]? = some ⟨.ended, none⟩ := by
  obtain ⟨u, reach, later, ended⟩ := ends (aside.intact.trans intact) (aside.stopped stopped)
  have first : Continues n s t := .one (.work w) rfl next
  exact ⟨u, first.trans reach, aside.trans later, ended⟩

theorem again_ends {w : Nat} (intact : s.crashed = false) (stopped : s.stopped = true)
    (found : s.workers[w]? = some ⟨.again, none⟩) :
    ∃ t, Continues n s t ∧ Aside s t ∧ t.workers[w]? = some ⟨.ended, none⟩ := by
  have next : s.step n (.work w) = some (s.doAccept.setWork w .waiting) := by
    simp [Server.step, intact, workStep, found]
  refine working_ends intact stopped next (aside_doAccept.trans (aside_setWork w _)) ?_
  refine fun intact stopped => waiting_ends intact stopped ?_
  grind [Server.setWork, Server.doAccept]

/-- A worker of a stopped context ends, whatever it does at the time. -/
theorem worker_ends {w : Nat} {work : Work} (intact : s.crashed = false)
    (stopped : s.stopped = true) (found : s.workers[w]? = some ⟨work, none⟩) :
    ∃ t, Continues n s t ∧ Aside s t ∧ t.workers[w]? = some ⟨.ended, none⟩ := by
  cases work with
  | ended => exact ⟨s, .refl, .refl, found⟩
  | waiting => exact waiting_ends intact stopped found
  | again => exact again_ends intact stopped found
  | serving =>
    have next : s.step n (.work w) = some (s.setWork w .waiting) := by
      simp [Server.step, intact, workStep, found]
    refine working_ends intact stopped next (aside_setWork w _) ?_
    refine fun intact stopped => waiting_ends intact stopped ?_
    grind [Server.setWork]
  | accepted connection =>
    let v : Server := { s with sessions := s.sessions ++ connection.toList }
    have next : s.step n (.work w) = some (v.setWork w .again) := by
      simp [Server.step, intact, workStep, found, v]
    refine working_ends intact stopped next (by constructor <;> grind [Server.setWork]) ?_
    refine fun intact stopped => again_ends intact stopped ?_
    grind [Server.setWork]

/-! ### The loop of `stop` -/

/-- The elements of `m_threads` before `m` stand for workers that no signal has interrupted. -/
def Joinable (s : Server) (m : Nat) : Prop :=
  ∀ j w : Nat, j < m → s.threads[j]? = some (some w) → ∃ work, s.workers[w]? = some ⟨work, none⟩

/-- What a call of `stop` leaves as it is, up to the end of its loop. -/
structure Beside (caller : Caller) (s t : Server) : Prop where
  main : caller ≠ .destructor → t.main = s.main
  signal : caller ≠ .handler → t.signal = s.signal
  length : t.threads.length = s.threads.length
  running : t.running = s.running
  intact : t.crashed = s.crashed

theorem Beside.trans (first : Beside caller s t) (later : Beside caller t u) :
    Beside caller s u := by
  cases first
  cases later
  constructor <;> grind

theorem Aside.beside (aside : Aside s t) : Beside caller s t := by
  cases aside
  constructor <;> grind

theorem beside_put {next : Option StopPc} : Beside caller s (s.put next caller) := by
  constructor <;> cases caller <;> simp [put]

theorem Aside.joinable {m : Nat} (aside : Aside s t) (joinable : s.Joinable m) : t.Joinable m := by
  intro j w before found
  rw [aside.threads] at found
  obtain ⟨work, free⟩ := joinable j w before found
  exact aside.signal_of free

/-- A worker that calls `stop` is none of those. -/
theorem joinable_put {next : Option StopPc} {m : Nat} (calls : s.At caller pc)
    (joinable : s.Joinable m) : (s.put next caller).Joinable m := by
  intro j w before found
  rw [put_threads] at found
  obtain ⟨work, free⟩ := joinable j w before found
  cases caller with
  | worker v =>
    obtain ⟨_, busy⟩ := calls
    exact ⟨work, by grind [put]⟩
  | _ => exact ⟨work, free⟩

/-- One round: the thread is joined as soon as its worker has ended. -/
theorem joins_one {k m : Nat} (intact : s.crashed = false) (stopped : s.stopped = true)
    (calls : s.At caller (.join k)) (joinable : s.Joinable m) (before : k < m)
    (within : m ≤ s.threads.length) :
    ∃ t, Continues n s t ∧ t.At caller (.join (k + 1)) ∧ t.stopped = true ∧ t.Joinable m ∧
      Beside caller s t ∧ t.threads = s.threads.set k none := by
  obtain ⟨handle, found⟩ : ∃ handle, s.threads[k]? = some handle :=
    ⟨s.threads[k], List.getElem?_eq_getElem (by omega)⟩
  cases handle with
  | none =>
    refine ⟨s.put (some (.join (k + 1))) caller, calls.continues intact ?_, at_put calls rfl rfl,
      by simpa using stopped, joinable_put calls joinable, beside_put, ?_⟩
    · simp [Server.stop, found]
    · rw [put_threads]
      exact List.ext_getElem? fun j => by grind
  | some w =>
    obtain ⟨work, free⟩ := joinable k w before found
    obtain ⟨u, reach, aside, ended⟩ := worker_ends (n := n) intact stopped free
    have joinable := aside.joinable joinable
    have calls := aside.at calls
    have other : caller ≠ .worker w := by
      rintro rfl
      obtain ⟨_, busy⟩ := calls
      grind
    let v : Server := { u with threads := u.threads.set k none }
    have next : u.stop caller (.join k) = some (v.put (some (.join (k + 1))) caller) := by
      simp [Server.stop, aside.threads, found, other, ended, v]
    have beside : Beside caller u v := by constructor <;> simp [v]
    refine ⟨v.put (some (.join (k + 1))) caller,
      reach.trans (calls.continues (aside.intact.trans intact) next), at_put calls rfl rfl, ?_, ?_,
      aside.beside.trans (beside.trans beside_put), ?_⟩
    · rw [put_stopped]
      exact aside.stopped stopped
    · have calls : v.At caller (.join k) := by cases caller <;> exact calls
      exact joinable_put calls fun j w before found => joinable j w before (by grind)
    · rw [put_threads, ← aside.threads]

/-- The loop up to an element `m`. -/
theorem joins {k m : Nat} (intact : s.crashed = false) (stopped : s.stopped = true)
    (calls : s.At caller (.join k)) (joinable : s.Joinable m) (before : k ≤ m)
    (within : m ≤ s.threads.length) :
    ∃ t, Continues n s t ∧ t.At caller (.join m) ∧ Beside caller s t ∧
      ∀ j : Nat, t.threads[j]? = if k ≤ j ∧ j < m then some none else s.threads[j]? := by
  induction rounds : m - k generalizing s k with
  | zero =>
    have done : k = m := by omega
    subst done
    exact ⟨s, .refl, calls, ⟨fun _ => rfl, fun _ => rfl, rfl, rfl, rfl⟩, by grind⟩
  | succ rounds ih =>
    obtain ⟨t, reach, calls, stopped, joinable, beside, threads⟩ :=
      joins_one (n := n) intact stopped calls joinable (by omega) within
    obtain ⟨u, later, calls, further, joined⟩ := ih (beside.intact.trans intact) stopped calls
      joinable (by omega) (by rw [beside.length]; exact within) (by omega)
    exact ⟨u, reach.trans later, calls, beside.trans further, by grind⟩

/-- A statement before the loop. -/
theorem advance (next : StopPc) {m : Nat} (intact : s.crashed = false) (calls : s.At caller pc)
    (joinable : s.Joinable m) (aside : Aside s u)
    (stops : s.stop caller pc = some (u.put (some next) caller)) :
    ∃ t, Continues n s t ∧ t.At caller next ∧ t.Joinable m ∧ Beside caller s t ∧
      t.threads = s.threads ∧ t.stopped = u.stopped := by
  refine ⟨u.put (some next) caller, calls.continues intact stops, at_put (aside.at calls) rfl rfl,
    joinable_put (aside.at calls) (aside.joinable joinable), aside.beside.trans beside_put, ?_, ?_⟩
  · rw [put_threads, aside.threads]
  · rw [put_stopped]

/-- A call up to an element `m` of its loop. -/
theorem reaches_join {m : Nat} (intact : s.crashed = false) (running : s.running = true)
    (calls : s.At caller .check) (joinable : s.Joinable m) (within : m ≤ s.threads.length) :
    ∃ t, Continues n s t ∧ t.At caller (.join m) ∧ Beside caller s t ∧
      ∀ j : Nat, t.threads[j]? = if j < m then some none else s.threads[j]? := by
  obtain ⟨a, reachA, calls, joinable, besideA, threadsA, -⟩ :=
    advance .close (n := n) intact calls joinable .refl (by simp [Server.stop, running])
  obtain ⟨b, reachB, calls, joinable, besideB, threadsB, -⟩ :=
    advance .stopContext (n := n) (u := a.closeAcceptor) (besideA.intact.trans intact) calls
      joinable ⟨rfl, rfl, rfl, rfl, id, rfl, fun _ => rfl⟩ rfl
  have beside := besideA.trans besideB
  obtain ⟨c, reachC, calls, joinable, besideC, threadsC, stoppedC⟩ :=
    advance .reset (n := n) (u := { b with stopped := true }) (beside.intact.trans intact) calls
      joinable ⟨rfl, rfl, rfl, rfl, fun _ => rfl, rfl, fun _ => rfl⟩ rfl
  have beside := beside.trans besideC
  obtain ⟨d, reachD, calls, joinable, besideD, threadsD, stoppedD⟩ :=
    advance (.join 0) (n := n) (u := { c with guarded := false }) (beside.intact.trans intact)
      calls joinable ⟨rfl, rfl, rfl, rfl, id, rfl, fun _ => rfl⟩ rfl
  have beside := beside.trans besideD
  have threads : d.threads = s.threads := by rw [threadsD, threadsC, threadsB, threadsA]
  obtain ⟨t, reach, calls, further, joined⟩ := joins (n := n) (beside.intact.trans intact)
    (stoppedD.trans stoppedC) calls joinable (Nat.zero_le m) (by rw [threads]; exact within)
  refine ⟨t, reachA.trans (reachB.trans (reachC.trans (reachD.trans reach))), calls,
    beside.trans further, fun j => ?_⟩
  rw [joined, threads]
  simp

/-! ### Signals that are not harmless -/

/-- No signal has interrupted a worker of a server that runs in order. -/
theorem Orderly.free (o : Orderly n s) (running : s.running = true) {w : Nat} {worker : Worker}
    (found : s.workers[w]? = some worker) : worker.signal = none := by
  cases calls : worker.signal with
  | none => rfl
  | some pc =>
    have off := (o.undisturbed w worker pc found calls).2
    rw [running] at off
    cases off

theorem Orderly.joinable_below (o : Orderly n s) (running : s.running = true) (m : Nat) :
    s.Joinable m := by
  intro j w before found
  obtain ⟨rfl, within⟩ := o.own j w found
  obtain ⟨worker, there⟩ : ∃ worker, s.workers[w]? = some worker :=
    ⟨s.workers[w], List.getElem?_eq_getElem within⟩
  refine ⟨worker.work, there.trans ?_⟩
  rw [← o.free running there]

/-- A worker that calls `stop` joins itself. -/
theorem Orderly.worker_crashes (o : Orderly n s) (running : s.running = true) {w : Nat}
    {work : Work} (found : s.workers[w]? = some ⟨work, none⟩) (alive : work ≠ .ended) :
    ∃ t, Continues n (s.put (some .check) (.worker w)) t ∧ t.crashed = true := by
  have handle := o.joinable w _ found alive
  have calls : (s.put (some .check) (.worker w)).At (.worker w) .check :=
    ⟨work, by simp [put, found]⟩
  have joinable : (s.put (some .check) (.worker w)).Joinable w := by
    intro j v before there
    rw [put_threads] at there
    obtain ⟨work, free⟩ := o.joinable_below running w j v before there
    have other : v ≠ w := by
      have own := (o.own j v there).1
      omega
    exact ⟨work, by grind [put]⟩
  obtain ⟨t, reach, calls, beside, joined⟩ := reaches_join (n := n) (by simpa using o.intact)
    (by simpa using running) calls joinable (by grind [put_threads])
  have intact : t.crashed = false := by simpa [o.intact] using beside.intact
  refine ⟨t.crash, reach.trans (calls.continues intact ?_), rfl⟩
  simp [Server.stop, joined, handle]

/-- A handler on the main thread, up to the end of its loop. -/
theorem Orderly.handler_joins (o : Orderly n s) (running : s.running = true) :
    ∃ t, Continues n (s.put (some .check) .handler) t ∧ t.At .handler .clear ∧
      t.main = s.main ∧ t.crashed = false ∧ t.threads.length = s.threads.length ∧
      ∀ j w : Nat, t.threads[j]? ≠ some (some w) := by
  have calls : (s.put (some .check) .handler).At .handler .check := rfl
  obtain ⟨t, reach, calls, beside, joined⟩ := reaches_join (n := n)
    (s := s.put (some .check) .handler) (m := s.threads.length) o.intact running calls
    (o.joinable_below running _) (Nat.le_refl _)
  have intact : t.crashed = false := beside.intact.trans o.intact
  have beyond : t.threads[s.threads.length]? = none := by grind [put_threads]
  refine ⟨t.put (some .clear) .handler, reach.trans (calls.continues intact ?_), rfl,
    beside.main (by simp), intact, beside.length, ?_⟩
  · simp [Server.stop, beyond]
  · intro j w found
    grind [put_threads]

theorem main_continues (intact : s.crashed = false) (next : s.mainStep n = some t) :
    Continues n s t :=
  .one .main rfl (by simpa [Server.step, intact] using next)

/-- The rest of the main thread, if a thread was created after `stop` or will be. -/
theorem creating_crashes {i : Nat} (main : s.main = .create i) (idle : s.signal = none)
    (intact : s.crashed = false) (off : s.running = false)
    (late : i < n ∨ s.threads.any Option.isSome = true) :
    ∃ t, Continues n s t ∧ t.crashed = true := by
  induction rounds : (n - i).toNat generalizing s i with
  | zero =>
    have beyond : ¬(i : Int) < n := by omega
    have handles : s.threads.any Option.isSome = true := late.resolve_left beyond
    -- Nothing is left to do but to destroy `m_threads`.
    have poll : Continues n s { s with main := .poll } :=
      main_continues intact (by simp [mainStep, idle, main, beyond])
    have destroy : Continues n { s with main := .poll } { s with main := .destroy .check } :=
      main_continues intact (by simp [mainStep, idle, off])
    have members : Continues n { s with main := .destroy .check } { s with main := .members } :=
      main_continues intact (by simp [mainStep, idle, Server.stop, put, off])
    have crash : Continues n { s with main := .members } { s with main := .members }.crash :=
      main_continues intact (by simp [mainStep, idle, handles])
    exact ⟨_, poll.trans (destroy.trans (members.trans crash)), rfl⟩
  | succ rounds ih =>
    have more : (i : Int) < n := by omega
    let v : Server := { s with
      workers := s.workers ++ [{}]
      threads := s.threads ++ [some s.workers.length]
      main := .create (i + 1) }
    have creates : Continues n s v :=
      main_continues intact (by simp [mainStep, idle, main, more, v])
    have late : v.threads.any Option.isSome = true := by simp [v]
    obtain ⟨t, reach, crashed⟩ := ih (s := v) rfl idle intact off (.inr late) (by omega)
    exact ⟨t, creates.trans reach, crashed⟩

theorem reserve_crashes (main : s.main = .reserve) (idle : s.signal = none)
    (intact : s.crashed = false) (off : s.running = false) (positive : 0 < n) :
    ∃ t, Continues n s t ∧ t.crashed = true := by
  have creates : Continues n s { s with main := .create 0 } := by
    refine main_continues intact ?_
    simp [mainStep, idle, main]
    omega
  obtain ⟨t, reach, crashed⟩ := creating_crashes (n := n) (s := { s with main := .create 0 }) rfl
    idle intact off (.inl (by simpa using positive))
  exact ⟨t, creates.trans reach, crashed⟩

theorem created_late (idle : s.signal = none) (intact : s.crashed = false)
    (off : s.running = false) (creating : s.main.Creating n) (begun : s.main ≠ .routes) :
    ∃ t, Continues n s t ∧ t.crashed = true := by
  cases main : s.main with
  | routes => exact absurd main begun
  | accept =>
    rw [main] at creating
    -- `doAccept` does nothing any more.
    have accepts : Continues n s { s with main := .reserve } :=
      main_continues intact (by simp [mainStep, idle, main, Server.doAccept, off])
    obtain ⟨t, reach, crashed⟩ := reserve_crashes (n := n) (s := { s with main := .reserve }) rfl
      idle intact off creating
    exact ⟨t, accepts.trans reach, crashed⟩
  | reserve =>
    rw [main] at creating
    exact reserve_crashes main idle intact off creating
  | create i =>
    rw [main] at creating
    exact creating_crashes main idle intact off (.inl creating)
  | _ =>
    rw [main] at creating
    exact creating.elim

/-- A handler that interrupts the main thread while it creates threads or joins them. -/
theorem Orderly.handler_crashes (o : Orderly n s) (running : s.running = true)
    (harmful : s.main.Creating n ∨ s.looping = true) :
    ∃ t, Continues n (s.put (some .check) .handler) t ∧ t.crashed = true := by
  obtain ⟨u, reach, calls, main, intact, length, joined⟩ := o.handler_joins running
  have looping : u.looping = s.looping := by simp only [Server.looping, main, length]
  by_cases loops : s.looping = true
  · refine ⟨u.crash, reach.trans (calls.continues intact ?_), rfl⟩
    simp [Server.stop, looping, loops]
  · have creating := harmful.resolve_right loops
    have loops : u.looping = false := by simpa [looping] using loops
    let v : Server := { u with threads := [], signal := some .unset }
    have clears : Continues n u v := by
      refine calls.continues intact ?_
      simp [Server.stop, loops, no_handles.mpr joined, put, v]
    have calls : v.At .handler .unset := rfl
    have returns : Continues n v { v with running := false, signal := none } :=
      calls.continues intact rfl
    have begun : u.main ≠ .routes := by
      rw [main]
      intro routes
      have off := (o.fresh routes).2.2.1
      rw [running] at off
      cases off
    obtain ⟨t, later, crashed⟩ := created_late (n := n)
      (s := { v with running := false, signal := none }) rfl intact rfl (main ▸ creating) begun
    exact ⟨t, reach.trans (clears.trans (returns.trans later)), crashed⟩

theorem Orderly.exposed {action : ServerAction} (o : Orderly n s)
    (harmful : ¬Harmless n s action) (next : s.step n action = some t) :
    ∃ u, Continues n t u ∧ u.crashed = true := by
  cases action with
  | signal target =>
    simp only [Server.step, o.intact, Bool.false_eq_true, if_false] at next
    cases target with
    | none =>
      simp only [Server.interrupt] at next
      split at next
      · cases next
      · split at next
        next gone =>
          cases next
          exact ⟨s.crash, .refl, rfl⟩
        next notGone =>
          cases next
          have running : s.running = true := by grind [Harmless]
          exact o.handler_crashes running (by grind [Harmless])
    | some w =>
      have running : s.running = true := by simpa [Harmless] using harmful
      simp only [Server.interrupt] at next
      split at next
      next work found =>
        split at next
        · cases next
        next alive =>
          split at next
          · cases next
            exact ⟨s.crash, .refl, rfl⟩
          · cases next
            exact o.worker_crashes running found alive
      · cases next
  | _ => exact absurd trivial harmful

end Server

open Server

end MusicPlayer
