import MusicPlayer.Server.Server

/-!
# Signals that do no harm

`stop` is written to be called once and from outside: by a worker it joins itself, and while `run`
creates threads it misses those that are still to come. A signal is harmless if the server is not
running, or if it interrupts the main thread while that is not creating any threads and no other
call of `stop` goes through them. The invariant of a run in which all signals are harmless says
what each thread may rely on, and that nothing crashes.
-/
namespace MusicPlayer

open Machines

/-- Threads are still to be created. -/
def MainPc.Creating (numThreads : Int) : MainPc → Prop
  | .routes | .accept | .reserve => 0 < numThreads
  | .create i => i < numThreads
  | _ => False

instance (numThreads : Int) : DecidablePred (MainPc.Creating numThreads)
  | .routes | .accept | .reserve => inferInstanceAs (Decidable (0 < numThreads))
  | .create i => inferInstanceAs (Decidable (i < numThreads))
  | .poll | .sleep | .destroy _ | .members | .gone | .exited => inferInstanceAs (Decidable False)

/-- What a call of `stop` has got behind it: the acceptor does not listen, the context is stopped,
and elements of `m_threads` are joined. -/
def StopPc.Done (listening stopped : Bool) (threads : List (Option Nat)) : StopPc → Prop
  | .check | .close => True
  | .stopContext => listening = false
  | .reset => listening = false ∧ stopped = true
  | .join k => listening = false ∧ stopped = true ∧
      ∀ j w : Nat, threads[j]? = some (some w) → k ≤ j
  | .clear => listening = false ∧ stopped = true ∧ ∀ j w : Nat, threads[j]? ≠ some (some w)
  | .unset => listening = false ∧ stopped = true ∧ threads = []

namespace Server

def Harmless (numThreads : Int) (s : Server) : ServerAction → Prop
  | .signal none => s.main ≠ .gone ∧
      (s.running = true → ¬s.main.Creating numThreads ∧ s.looping = false)
  | .signal (some _) => s.running = false
  | _ => True

instance (numThreads : Int) (s : Server) : DecidablePred (Harmless numThreads s)
  | .signal none => inferInstanceAs (Decidable (_ ∧ (_ → _ ∧ _)))
  | .signal (some _) => inferInstanceAs (Decidable (_ = _))
  | .main | .createFails | .work _ | .take _ _ | .serve _ | .leave _ | .connect | .refuse =>
    inferInstanceAs (Decidable True)

/-- Holds along a run in which all signals are harmless. -/
structure Orderly (numThreads : Int) (s : Server) : Prop where
  intact : s.crashed = false
  own : ∀ k w : Nat, s.threads[k]? = some (some w) → w = k ∧ k < s.workers.length
  joinable : ∀ (w : Nat) (worker : Worker), s.workers[w]? = some worker → worker.work ≠ .ended →
    s.threads[w]? = some (some w)
  aligned : s.main.Creating numThreads → s.threads.length = s.workers.length
  undisturbed : ∀ (w : Nat) (worker : Worker) pc, s.workers[w]? = some worker →
    worker.signal = some pc → pc = .check ∧ s.running = false
  handler : ∀ pc, s.signal = some pc → (pc = .check ∧ s.running = false) ∨
    s.main ≠ .routes ∧ ¬s.main.Creating numThreads ∧ s.looping = false ∧
      pc.Done s.listening s.stopped s.threads
  destructor : ∀ pc, s.main = .destroy pc → pc.Done s.listening s.stopped s.threads
  fresh : s.main = .routes →
    s.workers = [] ∧ s.threads = [] ∧ s.running = false ∧ s.stopped = false
  off : s.running = false → s.main ≠ .routes →
    s.threads = [] ∧ ¬s.main.Creating numThreads ∧ s.listening = false ∧ s.stopped = true
  past : s.main = .members ∨ s.main = .gone ∨ s.main = .exited → s.running = false

variable {n : Int} {s t u : Server}

theorem Orderly.init : Orderly n {} := by
  constructor <;> simp

theorem no_handles :
    s.threads.any Option.isSome = false ↔ ∀ j w : Nat, s.threads[j]? ≠ some (some w) := by
  simp only [List.any_eq_false, List.mem_iff_getElem?]
  constructor
  · intro none j w found
    exact none _ ⟨j, found⟩ rfl
  · rintro none handle ⟨j, found⟩ some
    obtain ⟨w, rfl⟩ := Option.isSome_iff_exists.mp some
    exact none j w found

/-! ### The statements of `stop` -/

/-- What a statement of `stop` does to the rest of the server; `rest` is what is left of the
call. -/
structure StopStep (s u : Server) (pc : StopPc) (rest : Option StopPc) : Prop where
  main : u.main = s.main
  signal : u.signal = s.signal
  workers : u.workers = s.workers
  intact : u.crashed = s.crashed
  fewer : ∀ j w : Nat, u.threads[j]? = some (some w) → s.threads[j]? = some (some w)
  kept : ∀ (w : Nat) (worker : Worker), s.workers[w]? = some worker → worker.work ≠ .ended →
    s.threads[w]? = some (some w) → u.threads[w]? = some (some w)
  length : u.threads.length = s.threads.length ∨ u.threads = []
  running : u.running = s.running ∨ u.running = false ∧ u.threads = [] ∧
    u.listening = false ∧ u.stopped = true
  closing : s.listening = false → u.listening = false
  stopping : s.stopped = true → u.stopped = true
  calm : u.stopped = s.stopped ∨ pc = .stopContext
  goesOn : ∀ next, rest = some next → next ≠ .check ∧
    next.Done u.listening u.stopped u.threads ∧ (pc = .check → s.running = true)
  returns : rest = none → u.running = false

/-- A call on the main thread does not crash, unless it clears what another one goes through. -/
theorem stop_cases {caller : Caller} {pc : StopPc} (elsewhere : ∀ w, caller ≠ .worker w)
    (done : pc.Done s.listening s.stopped s.threads) (calm : pc = .clear → s.looping = false)
    (next : s.stop caller pc = some t) :
    ∃ u rest, t = u.put rest caller ∧ StopStep s u pc rest := by
  cases pc with
  | check =>
    cases next
    refine ⟨s, _, rfl, ?_⟩
    constructor <;> grind -linarith [StopPc.Done]
  | close =>
    cases next
    refine ⟨s.closeAcceptor, _, rfl, ?_⟩
    constructor <;> grind -linarith [closeAcceptor, StopPc.Done]
  | stopContext =>
    cases next
    refine ⟨{ s with stopped := true }, _, rfl, ?_⟩
    constructor <;> grind -linarith [StopPc.Done]
  | reset =>
    cases next
    refine ⟨{ s with guarded := false }, _, rfl, ?_⟩
    constructor <;> grind -linarith [StopPc.Done]
  | join k =>
    simp only [Server.stop] at next
    split at next
    next beyond =>
      cases next
      refine ⟨s, _, rfl, ?_⟩
      constructor <;> grind -linarith [StopPc.Done]
    next joined =>
      cases next
      refine ⟨s, _, rfl, ?_⟩
      constructor <;> grind -linarith [StopPc.Done]
    next w handle =>
      rw [if_neg (elsewhere w)] at next
      split at next
      · cases next
        refine ⟨{ s with threads := s.threads.set k none }, _, rfl, ?_⟩
        constructor <;> grind -linarith [StopPc.Done]
      · cases next
  | clear =>
    simp only [Server.stop] at next
    rw [calm rfl, no_handles.mpr done.2.2] at next
    cases next
    refine ⟨{ s with threads := [] }, _, rfl, ?_⟩
    constructor <;> grind -linarith [StopPc.Done]
  | unset =>
    cases next
    refine ⟨{ s with running := false }, _, rfl, ?_⟩
    constructor <;> grind -linarith [StopPc.Done]

/-- What one call has got behind it stays so, whatever the other one does. -/
theorem StopStep.keeps {pc : StopPc} {rest : Option StopPc} (effect : StopStep s u pc rest)
    {other : StopPc} (done : other.Done s.listening s.stopped s.threads) :
    other.Done u.listening u.stopped u.threads := by
  obtain ⟨_, _, _, _, fewer, _, length, _, closing, stopping, _, _, _⟩ := effect
  cases other <;> grind -linarith [StopPc.Done, List.eq_nil_of_length_eq_zero]

theorem Orderly.handler_step {pc : StopPc} (o : Orderly n s) (calls : s.signal = some pc)
    (next : s.stop .handler pc = some t) : Orderly n t := by
  have here := o.handler pc calls
  obtain ⟨u, rest, rfl, effect⟩ := stop_cases (by simp) (by grind [StopPc.Done]) (by grind) next
  have keeps : ∀ other : StopPc, other.Done s.listening s.stopped s.threads →
      other.Done u.listening u.stopped u.threads := fun other => effect.keeps
  cases o
  cases effect
  constructor <;> grind -linarith [put, looping]

theorem Orderly.destructor_step {pc : StopPc} (o : Orderly n s) (idle : s.signal = none)
    (calls : s.main = .destroy pc) (next : s.stop .destructor pc = some t) : Orderly n t := by
  obtain ⟨u, rest, rfl, effect⟩ := stop_cases (by simp) (o.destructor pc calls)
    (by grind -linarith [looping]) next
  have keeps : ∀ other : StopPc, other.Done s.listening s.stopped s.threads →
      other.Done u.listening u.stopped u.threads := fun other => effect.keeps
  cases o
  cases effect
  cases rest with
  | none => constructor <;> simp only [put, Option.elim] <;> grind -linarith [MainPc.Creating]
  | some pc => constructor <;> simp only [put, Option.elim] <;> grind -linarith [MainPc.Creating]

/-! ### The other statements -/

@[simp] theorem looping_setWork (w : Nat) (work : Work) :
    (s.setWork w work).looping = s.looping := rfl

theorem Orderly.setWork (o : Orderly n s) (w : Nat) (work : Work)
    (alive : ∀ worker, s.workers[w]? = some worker → worker.work ≠ .ended) :
    Orderly n (s.setWork w work) := by
  cases o
  constructor <;> grind -linarith [Server.setWork, looping]

theorem Orderly.doAccept (o : Orderly n s) : Orderly n s.doAccept := by
  unfold Server.doAccept
  split
  · cases o
    split
    all_goals constructor <;> grind -linarith [looping]
  · exact o

theorem Orderly.main_step (o : Orderly n s) (next : s.mainStep n = some t) : Orderly n t := by
  unfold mainStep at next
  split at next
  next pc calls => exact o.handler_step calls next
  next idle =>
    split at next
    next calls =>
      cases next
      cases o
      constructor <;> grind -linarith [MainPc.Creating]
    next calls =>
      cases next
      cases o.doAccept
      constructor <;> grind -linarith [MainPc.Creating, Server.doAccept]
    next calls =>
      cases next
      cases o
      constructor <;> grind -linarith [MainPc.Creating, StopPc.Done]
    next k calls =>
      cases o
      split at next
      next more =>
        cases next
        constructor <;> grind -linarith [MainPc.Creating]
      · cases next
        constructor <;> grind -linarith [MainPc.Creating]
    next calls =>
      cases next
      cases o
      constructor <;> grind -linarith [MainPc.Creating, StopPc.Done]
    next calls =>
      cases next
      cases o
      constructor <;> grind -linarith [MainPc.Creating]
    next pc calls => exact o.destructor_step idle calls next
    next calls =>
      cases o
      split at next
      · grind
      · cases next
        constructor <;> grind -linarith [MainPc.Creating]
    next calls =>
      cases next
      cases o
      constructor <;> grind -linarith [MainPc.Creating]
    next calls => cases next

theorem Orderly.work_step {w : Nat} (o : Orderly n s) (next : s.workStep w = some t) :
    Orderly n t := by
  unfold workStep at next
  split at next
  · cases next
  next worker found =>
    split at next
    next pc calls =>
      obtain ⟨rfl, off⟩ := o.undisturbed w worker pc found calls
      simp only [Server.stop, off] at next
      cases next
      cases o
      constructor <;> grind -linarith [put, looping]
    next idle =>
      split at next
      next connection calls =>
        cases next
        refine Orderly.setWork ?_ w _ (by grind)
        cases o
        constructor <;> grind -linarith [looping]
      next calls =>
        cases next
        exact o.doAccept.setWork w _ (by grind -linarith [Server.doAccept])
      next calls =>
        cases next
        exact o.setWork w _ (by grind)
      · cases next
      · cases next

theorem Orderly.interrupt {target : Option Nat} (o : Orderly n s)
    (harmless : Harmless n s (.signal target)) (next : s.interrupt target = some t) :
    Orderly n t := by
  cases target with
  | none =>
    obtain ⟨notGone, calm⟩ := harmless
    cases o
    simp only [Server.interrupt, notGone] at next
    split at next
    · cases next
    · cases next
      constructor <;> grind -linarith [put, looping, StopPc.Done]
  | some w =>
    have off : s.running = false := harmless
    cases o
    simp only [Server.interrupt] at next
    split at next
    · split at next
      · cases next
      -- A worker that has not ended is one that the server has not joined.
      · split at next
        · grind
        · cases next
          constructor <;> grind -linarith [looping, put]
    · cases next

theorem Orderly.step {action : ServerAction} (o : Orderly n s) (harmless : Harmless n s action)
    (next : s.step n action = some t) : Orderly n t := by
  simp only [Server.step, o.intact, Bool.false_eq_true, if_false] at next
  cases action with
  | main => exact o.main_step next
  | work w => exact o.work_step next
  | signal target => exact o.interrupt harmless next
  | createFails =>
    simp only [Server.createFails] at next
    cases o
    split at next
    · cases next
      constructor <;> grind -linarith [MainPc.Creating, StopPc.Done]
    · split at next
      · cases next
        constructor <;> grind -linarith [MainPc.Creating, StopPc.Done]
      · cases next
    · cases next
  | take w k =>
    simp only [Server.take] at next
    split at next
    · split at next
      next enabled =>
        cases next
        refine Orderly.setWork ?_ w _ (by grind -linarith [waits])
        cases o
        constructor <;> grind -linarith [looping]
      · cases next
    · cases next
  | serve w =>
    simp only [Server.serve] at next
    split at next
    · cases next
      exact o.setWork w _ (by grind -linarith [waits])
    · cases next
  | leave w =>
    simp only [Server.leave] at next
    split at next
    · cases next
      exact o.setWork w _ (by grind -linarith [waits])
    · cases next
  | connect =>
    simp only [Server.connect] at next
    cases o
    split at next
    · cases next
      constructor <;> grind -linarith [looping]
    · cases next
  | refuse =>
    simp only [Server.refuse] at next
    cases o
    split at next
    · cases next
      constructor <;> grind -linarith [looping]
    · cases next

end Server

end MusicPlayer
