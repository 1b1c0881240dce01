import MusicPlayer.Server.Server
import MusicPlayer.Machines.Totals
import Mathlib.Data.List.Permutation

/-!
# The accept loop

`doAccept` calls `async_accept`, and the handler calls `doAccept` again. At most one accept is on
its way at any moment, and as long as the server is running there is one. So every connection that
was accepted is in one place: it has a session, or its handler has not got so far.
-/
namespace MusicPlayer

open Machines

/-- The worker has an accept in its hands that is to be followed by another one. -/
def Worker.accepts (worker : Worker) : Nat :=
  match worker.work with
  | .accepted _ | .again => 1
  | _ => 0

/-- The worker has a connection in its hands that has no session yet. -/
def Worker.holds (connection : Nat) (worker : Worker) : Nat :=
  if worker.work = .accepted (some connection) then 1 else 0

namespace Server

/-- How many accepts are on their way, from `async_accept` to the next `doAccept`. -/
def accepts (s : Server) : Nat :=
  s.accepting + s.ready.length + total Worker.accepts s.workers

/-- In how many places a connection is. -/
def places (s : Server) (connection : Nat) : Nat :=
  s.sessions.count connection + s.ready.count (some connection) +
    total (Worker.holds connection) s.workers

structure Accepting (s : Server) : Prop where
  before : s.main = .routes ∨ s.main = .accept → s.accepts = 0
  atMost : s.accepts ≤ 1
  running : s.running = true → s.main ≠ .routes → s.main ≠ .accept → s.accepts = 1
  placed : ∀ connection, s.places connection = if connection < s.accepted then 1 else 0

variable {n : Int} {s t : Server}

theorem Accepting.init : Accepting {} := by
  constructor <;> simp [accepts, places]

theorem Accepting.congr (accepting : Accepting s) (main : t.main = s.main)
    (running : t.running = true → s.running = true) (accepts : t.accepts = s.accepts)
    (accepted : t.accepted = s.accepted)
    (places : ∀ connection, t.places connection = s.places connection) : Accepting t := by
  cases accepting
  constructor <;> grind

section Frame

variable (pc : Option StopPc) (caller : Caller)

@[simp] theorem put_accepts : (s.put pc caller).accepts = s.accepts := by
  cases caller with
  | worker w =>
    have same := total_modify_same Worker.accepts (f := ({ · with signal := pc })) (fun _ => rfl)
      s.workers w
    simp only [put, accepts, same]
  | _ => rfl

@[simp] theorem put_places (connection : Nat) :
    (s.put pc caller).places connection = s.places connection := by
  cases caller with
  | worker w =>
    have same := total_modify_same (Worker.holds connection) (f := ({ · with signal := pc }))
      (fun _ => rfl) s.workers w
    simp only [put, places, same]
  | _ => rfl

end Frame

theorem closeAcceptor_accepts : s.closeAcceptor.accepts = s.accepts := by
  simp only [closeAcceptor, accepts, List.length_append, List.length_replicate]
  omega

theorem closeAcceptor_places (connection : Nat) :
    s.closeAcceptor.places connection = s.places connection := by
  simp [closeAcceptor, places, List.count_replicate]

/-- What `doAccept` adds, if the server is running: one accept and no connection. -/
theorem doAccept_accepts :
    s.doAccept.accepts = s.accepts + if s.running then 1 else 0 := by
  simp only [Server.doAccept, accepts]
  split
  · split
    · simp only
      omega
    · simp only [List.length_append, List.length_singleton]
      omega
  · rfl

theorem doAccept_places (connection : Nat) :
    s.doAccept.places connection = s.places connection := by
  simp only [Server.doAccept, places]
  split
  · split <;> simp
  · rfl

theorem doAccept_running : s.doAccept.running = s.running := by
  grind [Server.doAccept]

theorem doAccept_accepted : s.doAccept.accepted = s.accepted := by
  grind [Server.doAccept]

theorem doAccept_main : s.doAccept.main = s.main := by
  grind [Server.doAccept]

theorem doAccept_workers : s.doAccept.workers = s.workers := by
  grind [Server.doAccept]

/-- What a statement leaves as it is when it neither makes nor drops an accept. -/
structure Neutral (s t : Server) : Prop where
  running : t.running = true → s.running = true
  accepts : t.accepts = s.accepts
  accepted : t.accepted = s.accepted
  places : ∀ connection, t.places connection = s.places connection

theorem neutral_put (neutral : Neutral s t) (pc : Option StopPc) (caller : Caller) :
    Neutral s (t.put pc caller) := by
  cases neutral
  constructor <;> simpa

theorem stop_neutral {caller : Caller} {pc : StopPc} (next : s.stop caller pc = some t) :
    Neutral s t := by
  have refl : Neutral s s := ⟨id, rfl, rfl, fun _ => rfl⟩
  cases pc with
  | check =>
    cases next
    refine neutral_put ?_ _ _
    exact refl
  | close =>
    cases next
    refine neutral_put ?_ _ _
    exact ⟨id, closeAcceptor_accepts, rfl, closeAcceptor_places⟩
  | stopContext =>
    cases next
    refine neutral_put ?_ _ _
    exact ⟨id, rfl, rfl, fun _ => rfl⟩
  | reset =>
    cases next
    refine neutral_put ?_ _ _
    exact ⟨id, rfl, rfl, fun _ => rfl⟩
  | join k =>
    simp only [Server.stop] at next
    split at next
    · cases next
      refine neutral_put ?_ _ _
      exact refl
    · cases next
      refine neutral_put ?_ _ _
      exact refl
    · split at next
      · cases next
        exact ⟨id, rfl, rfl, fun _ => rfl⟩
      · split at next
        · cases next
          refine neutral_put ?_ _ _
          exact ⟨id, rfl, rfl, fun _ => rfl⟩
        · cases next
  | clear =>
    simp only [Server.stop] at next
    split at next
    · cases next
      exact ⟨id, rfl, rfl, fun _ => rfl⟩
    · cases next
      refine neutral_put ?_ _ _
      exact ⟨id, rfl, rfl, fun _ => rfl⟩
  | unset =>
    cases next
    refine neutral_put ?_ _ _
    exact ⟨nofun, rfl, rfl, fun _ => rfl⟩

theorem stop_main {caller : Caller} {pc : StopPc} (next : s.stop caller pc = some t) :
    t.main = s.main ∨ caller = .destructor ∧ t.main ≠ .routes ∧ t.main ≠ .accept := by
  have destroyed : ∀ rest : Option StopPc, rest.elim .members .destroy ≠ MainPc.routes ∧
      rest.elim .members .destroy ≠ MainPc.accept := by
    rintro (none | pc) <;> simp
  cases caller with
  | destructor =>
    cases pc <;> grind [Server.stop, put, closeAcceptor, crash]
  | _ => cases pc <;> grind [Server.stop, put, closeAcceptor, crash]

theorem Accepting.neutral (accepting : Accepting s) (neutral : Neutral s t)
    (main : t.main = s.main ∨ s.main ≠ .routes ∧ s.main ≠ .accept ∧ t.main ≠ .routes ∧
      t.main ≠ .accept) : Accepting t := by
  cases accepting
  cases neutral
  constructor <;> grind

theorem Accepting.main_step (accepting : Accepting s) (next : s.mainStep n = some t) :
    Accepting t := by
  simp only [mainStep] at next
  split at next
  next pc calls =>
    exact accepting.neutral (stop_neutral next) (by have := stop_main next; grind)
  next idle =>
    split at next
    next main =>
      cases next
      cases accepting
      constructor <;> grind [accepts, places]
    next main =>
      cases next
      have none : s.accepts = 0 := accepting.before (.inr main)
      have made : ({ s.doAccept with main := .reserve } : Server).accepts = _ := doAccept_accepts
      have running := doAccept_running (s := s)
      refine ⟨by simp, ?_, ?_, ?_⟩
      · rw [made, none]
        split <;> omega
      · intro runs _ _
        rw [made, none, if_pos (running ▸ runs)]
      · intro connection
        exact (doAccept_places connection).trans
          ((accepting.placed connection).trans (by rw [doAccept_accepted]))
    next main =>
      cases next
      exact accepting.neutral ⟨id, rfl, rfl, fun _ => rfl⟩ (by grind)
    next k main =>
      split at next
      · cases next
        refine accepting.neutral ⟨id, ?_, rfl, fun connection => ?_⟩ (by grind)
        · simp [accepts, Worker.accepts]
        · simp [places, Worker.holds]
      · cases next
        exact accepting.neutral ⟨id, rfl, rfl, fun _ => rfl⟩ (by grind)
    next main =>
      cases next
      exact accepting.neutral ⟨id, rfl, rfl, fun _ => rfl⟩ (by grind)
    next main =>
      cases next
      exact accepting.neutral ⟨id, rfl, rfl, fun _ => rfl⟩ (by grind)
    next pc main =>
      exact accepting.neutral (stop_neutral next) (by have := stop_main next; grind)
    next main =>
      split at next
      · cases next
        exact accepting.neutral ⟨id, rfl, rfl, fun _ => rfl⟩ (.inl rfl)
      · cases next
        exact accepting.neutral ⟨id, rfl, rfl, fun _ => rfl⟩ (by grind)
    next main =>
      cases next
      exact accepting.neutral ⟨id, rfl, rfl, fun _ => rfl⟩ (by grind)
    next main => cases next

theorem setWork_accepts {w : Nat} {worker : Worker} (work : Work)
    (found : s.workers[w]? = some worker) : (s.setWork w work).accepts + worker.accepts =
      s.accepts + Worker.accepts { worker with work } := by
  have sum := total_modify Worker.accepts ({ · with work }) found
  simp only [accepts, setWork]
  omega

theorem setWork_places {w : Nat} {worker : Worker} (work : Work)
    (found : s.workers[w]? = some worker) (connection : Nat) :
    (s.setWork w work).places connection + worker.holds connection =
      s.places connection + Worker.holds connection { worker with work } := by
  have sum := total_modify (Worker.holds connection) ({ · with work }) found
  simp only [places, setWork]
  omega

/-- A worker goes on with something that has nothing to do with accepts. -/
theorem neutral_setWork {w : Nat} {worker : Worker} {work : Work}
    (found : s.workers[w]? = some worker) (idle : worker.accepts = 0)
    (stays : Worker.accepts { worker with work } = 0) : Neutral s (s.setWork w work) := by
  have holds : ∀ connection worker, Worker.accepts worker = 0 → worker.holds connection = 0 := by
    intro connection worker none
    grind [Worker.accepts, Worker.holds]
  refine ⟨id, ?_, rfl, fun connection => ?_⟩
  · have sum := setWork_accepts work found
    omega
  · have sum := setWork_places work found connection
    rw [holds connection _ idle, holds connection _ stays] at sum
    exact sum

/-- A completed accept goes from the queue into the hands of a worker. -/
theorem neutral_take {w k : Nat} {connection : Option Nat}
    (idle : s.workers[w]? = some ⟨.waiting, none⟩) (found : s.ready[k]? = some connection) :
    Neutral s ({ s with ready := s.ready.eraseIdx k }.setWork w (.accepted connection)) := by
  let v : Server := { s with ready := s.ready.eraseIdx k }
  obtain ⟨within, rfl⟩ := List.getElem?_eq_some_iff.mp found
  have perm := List.getElem_cons_eraseIdx_perm within
  have length := perm.length_eq
  have sum : (v.setWork w (.accepted s.ready[k])).accepts + 0 = v.accepts + 1 :=
    setWork_accepts (s := v) (.accepted s.ready[k]) idle
  have fewer : v.accepts + 1 = s.accepts := by
    simp only [List.length_cons] at length
    simp only [accepts, v]
    omega
  refine ⟨id, ?_, rfl, fun other => ?_⟩
  · change (v.setWork w (.accepted s.ready[k])).accepts = s.accepts
    omega
  · have placed := setWork_places (s := v) (.accepted s.ready[k]) idle other
    have counts := perm.count_eq (some other)
    have less : v.places other + (if s.ready[k] = some other then 1 else 0) = s.places other := by
      simp only [places, v]
      grind
    grind [Worker.holds]

theorem Accepting.work_step {w : Nat} (accepting : Accepting s) (next : s.workStep w = some t) :
    Accepting t := by
  simp only [workStep] at next
  split at next
  · cases next
  next worker found =>
    split at next
    next pc calls =>
      exact accepting.neutral (stop_neutral next) (by have := stop_main next; grind)
    next idle =>
      split at next
      next connection work =>
        cases next
        -- The connection gets its session.
        let v : Server := { s with sessions := s.sessions ++ connection.toList }
        have sum := setWork_accepts (s := v) .again found
        have placed := setWork_places (s := v) .again found
        have same : v.accepts = s.accepts := rfl
        have more : ∀ other, v.places other = s.places other + connection.toList.count other := by
          intro other
          simp only [places, v, List.count_append]
          omega
        refine accepting.neutral (t := v.setWork w .again) ⟨id, ?_, rfl, fun other => ?_⟩
          (.inl rfl)
        · simp only [Worker.accepts, work] at sum
          omega
        · have here := placed other
          rw [more] at here
          cases connection <;> grind [Worker.holds]
      next work =>
        cases next
        -- The accept is followed by the next one, or by none.
        have sum := setWork_accepts (s := s.doAccept) (w := w) .waiting (doAccept_workers ▸ found)
        have placed := setWork_places (s := s.doAccept) (w := w) .waiting (doAccept_workers ▸ found)
        have none : ∀ other, worker.holds other = 0 := by simp [Worker.holds, work]
        simp only [Worker.accepts, work, doAccept_accepts] at sum
        have main : (s.doAccept.setWork w .waiting).main = s.main := doAccept_main
        have running : (s.doAccept.setWork w .waiting).running = s.running := doAccept_running
        have accepted : (s.doAccept.setWork w .waiting).accepted = s.accepted := doAccept_accepted
        have placedS := doAccept_places (s := s)
        cases accepting
        constructor <;> grind [Worker.holds]
      next work =>
        cases next
        have idle : worker.accepts = 0 := by simp [Worker.accepts, work]
        exact accepting.neutral (neutral_setWork found idle rfl) (.inl rfl)
      · cases next
      · cases next

theorem Accepting.step {action : ServerAction} (accepting : Accepting s)
    (next : s.step n action = some t) : Accepting t := by
  simp only [Server.step] at next
  split at next
  · cases next
  · cases action with
    | main => exact accepting.main_step next
    | work w => exact accepting.work_step next
    | createFails =>
      simp only [Server.createFails] at next
      split at next
      next idle main =>
        cases next
        exact accepting.neutral ⟨id, rfl, rfl, fun _ => rfl⟩ (by grind)
      next idle main =>
        split at next
        · cases next
          exact accepting.neutral ⟨id, rfl, rfl, fun _ => rfl⟩ (by grind)
        · cases next
      · cases next
    | take w k =>
      simp only [Server.take] at next
      split at next
      next connection found =>
        split at next
        next enabled =>
          cases next
          have idle : s.workers[w]? = some ⟨.waiting, none⟩ := by simpa [waits] using enabled.1
          exact accepting.neutral (neutral_take idle found) (.inl rfl)
        · cases next
      · cases next
    | serve w =>
      simp only [Server.serve] at next
      split at next
      next enabled =>
        cases next
        have found : s.workers[w]? = some ⟨.waiting, none⟩ := by simpa [waits] using enabled.1
        exact accepting.neutral (neutral_setWork found rfl rfl) (.inl rfl)
      · cases next
    | leave w =>
      simp only [Server.leave] at next
      split at next
      next enabled =>
        cases next
        have found : s.workers[w]? = some ⟨.waiting, none⟩ := by simpa [waits] using enabled.1
        exact accepting.neutral (neutral_setWork found rfl rfl) (.inl rfl)
      · cases next
    | connect =>
      simp only [Server.connect] at next
      split at next
      next waits =>
        cases next
        have accepts : (s.accepting - 1) + (s.ready ++ [some s.accepted]).length =
            s.accepting + s.ready.length := by
          rw [List.length_append, List.length_singleton]
          omega
        have counts : ∀ connection, (s.ready ++ [some s.accepted]).count (some connection) =
            s.ready.count (some connection) + if connection = s.accepted then 1 else 0 := by
          intro connection
          by_cases new : connection = s.accepted
          · simp [new]
          · simp [new, Ne.symm new]
        obtain ⟨before, atMost, running, placed⟩ := accepting
        refine ⟨?_, ?_, ?_, fun connection => ?_⟩
        · grind [Server.accepts]
        · grind [Server.accepts]
        · grind [Server.accepts]
        · have here := placed connection
          simp only [places, counts] at here ⊢
          grind
      · cases next
    | refuse =>
      simp only [Server.refuse] at next
      split at next
      next waits =>
        cases next
        refine accepting.neutral ⟨id, ?_, rfl, fun connection => ?_⟩ (.inl rfl)
        · simp only [accepts, List.length_append, List.length_singleton]
          omega
        · simp [places]
      · cases next
    | signal target =>
      have refl : Neutral s s := ⟨id, rfl, rfl, fun _ => rfl⟩
      cases target with
      | none =>
        simp only [Server.interrupt] at next
        split at next
        · cases next
        · split at next
          · cases next
            exact accepting.neutral ⟨id, rfl, rfl, fun _ => rfl⟩ (.inl rfl)
          · cases next
            exact accepting.neutral (neutral_put refl _ _) (.inl rfl)
      | some w =>
        simp only [Server.interrupt] at next
        split at next
        · split at next
          · cases next
          · split at next
            · cases next
              exact accepting.neutral ⟨id, rfl, rfl, fun _ => rfl⟩ (.inl rfl)
            · cases next
              exact accepting.neutral (neutral_put refl _ _) (.inl rfl)
        · cases next

theorem Accepting.along (accepting : Accepting s) {actions : List ServerAction}
    (ran : run (Server.step n) s actions = some t) : Accepting t := by
  induction actions generalizing s with
  | nil =>
    cases ran
    exact accepting
  | cons action actions ih =>
    obtain ⟨u, next, rest⟩ := run_cons.mp ran
    exact ih (accepting.step next) rest

end Server

open Server

/-- In every run there is at most one accept on its way, and one while the server is running; and
every accepted connection is in one place, as a session or on its way to become one. -/
theorem accepts_conserved (numThreads : Int) (actions : List ServerAction) (s : Server)
    (ran : run (Server.step numThreads) {} actions = some s) :
    s.accepts ≤ 1 ∧
      (s.running = true → s.main ≠ .routes → s.main ≠ .accept → s.accepts = 1) ∧
      ∀ connection, s.places connection = if connection < s.accepted then 1 else 0 := by
  have accepting := Accepting.init.along ran
  exact ⟨accepting.atMost, accepting.running, accepting.placed⟩

/-- Two workers, and a connection that one of them has taken. -/
def acceptedOne : List ServerAction :=
  List.replicate 5 .main ++ [.connect, .take 1 0, .work 1, .work 1, .connect]

theorem accepts_conserved_two :
    ((run (Server.step 2) {} acceptedOne).getD {}).accepts ≤ 1 ∧
      (((run (Server.step 2) {} acceptedOne).getD {}).running = true →
        ((run (Server.step 2) {} acceptedOne).getD {}).main ≠ .routes →
        ((run (Server.step 2) {} acceptedOne).getD {}).main ≠ .accept →
        ((run (Server.step 2) {} acceptedOne).getD {}).accepts = 1) ∧
      ∀ connection, ((run (Server.step 2) {} acceptedOne).getD {}).places connection =
        if connection < ((run (Server.step 2) {} acceptedOne).getD {}).accepted then 1 else 0 :=
  accepts_conserved 2 acceptedOne _ rfl

end MusicPlayer
