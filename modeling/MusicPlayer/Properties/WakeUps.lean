import MusicPlayer.Properties.MonitorRefinement
import MusicPlayer.Properties.GuardDiscipline

/-!
# No lost wake-up

`releaseConnection` wakes one thread and not all of them. That is enough: as long as there is a
connection at all, the pool never brings its threads to a halt, even if no wait ends by its timeout
and no thread wakes without a reason.
-/
namespace MusicPlayer.Monitor

open Resumption Program

variable {ι : Type} [DecidableEq ι] {sys : System} {m : Monitor ι} {i : ι}

/-- No thread goes on by itself. -/
def Stuck (sys : System) (m : Monitor ι) : Prop :=
  ∀ i next, ¬Proceeds sys i m next

/-- Every effect has some outcome. -/
theorem exists_step (sys : System) (i : ι) (effect : Effect) (a : PoolState ι) :
    ∃ reply b, (daoThreads ι sys).step i effect a reply b := by
  have env : Env := { clock := fun _ => 0 }
  exact ⟨_, _, @poolStep_poolExec ι _ sys (fun _ => True) i (env, 0) trivial effect a⟩

/-- The thread that has the mutex goes on. -/
theorem Stuck.free (stuck : m.Stuck sys) (coherent : m.Coherent) : m.owner = none := by
  cases owner : m.owner with
  | none => rfl
  | some i =>
    obtain ⟨paired, holder, entered⟩ := coherent.fits i
    have holds := holder.mpr owner
    cases place : m.waiting i with
    | outside | blocked | woken expired => simp [place, Waiting.holds] at holds
    | entered =>
      obtain ⟨job, effect, rest, runs, locks⟩ := entered place
      cases effect with
      | lockPool =>
        cases taken : m.config.shared.take i with
        | mk reply after =>
          cases reply with
          | none => exact absurd (.wait runs place (empty_of_take taken)) (stuck i _)
          | some conn => exact absurd (.pop runs place taken) (stuck i _)
      | releaseConnection conn =>
        by_cases nobody : ∀ j, m.waiting j ≠ .blocked
        · exact absurd (.push runs place nobody) (stuck i _)
        · push Not at nobody
          obtain ⟨j, blocked⟩ := nobody
          exact absurd (.notify runs place blocked) (stuck i _)
      | _ => cases locks
    | checking expired =>
      rw [place] at paired
      obtain ⟨job, rest, runs⟩ := paired.waiting
      cases taken : m.config.shared.afterWait i with
      | mk reply after =>
        cases reply with
        | none =>
          have empty := empty_of_afterWait taken
          cases expired with
          | false => exact absurd (.block runs place empty) (stuck i _)
          | true => exact absurd (.giveUp runs place empty) (stuck i _)
        | some conn =>
          exact absurd (.satisfied runs place (take_of_afterWait taken)) (stuck i _)

/-- A thread that does not go on has nothing to do, or is in the wait set. -/
theorem Stuck.blocked (stuck : m.Stuck sys) (coherent : m.Coherent)
    (busy : ¬(m.config.threads i).Idle) : m.waiting i = .blocked := by
  have free := stuck.free coherent
  have holds := coherent.free free i
  cases place : m.waiting i with
  | blocked => rfl
  | entered | checking expired => simp [place, Waiting.holds] at holds
  | woken expired => exact absurd (.relock place free) (stuck i _)
  | outside =>
    cases thread : m.config.threads i with
    | none =>
      rw [thread] at busy
      exact absurd trivial busy
    | some running =>
      obtain ⟨job, program⟩ := running
      cases program with
      | ret value | raise exn =>
        rw [thread] at busy
        exact absurd trivial busy
      | act effect rest =>
        have notWait : effect ≠ .waitFor := by
          intro waits
          have inside := (coherent.act thread).1.mpr waits
          rw [place] at inside
          cases inside
        by_cases locks : effect.locks = true
        · exact absurd (.lock thread locks place free) (stuck i _)
        · obtain ⟨reply, after, step⟩ := exists_step sys i effect m.config.shared
          exact absurd (.other thread place ⟨by simpa using locks, notWait⟩ step) (stuck i _)

/-- One thread at a time has the mutex; while a thread is in the wait set, every connection in the
pool has a waiter that is awake; and if there is a connection, threads that are not done always go
on, with no timeout to help them. -/
theorem wake_ups_suffice {outcome : Nat → DBManager.ConnectOutcome} {poolSize : Nat} {w : World}
    (reach : Reachable sys (Monitor.init ι outcome poolSize w) m) :
    (∀ i j, (m.waiting i).holds = true → (m.waiting j).holds = true → i = j) ∧
      Covered m.waiting m.config.shared.pool.length ∧
      (DBManager.construct outcome poolSize ≠ [] → m.Stuck sys →
        ∀ i, (m.config.threads i).Idle) := by
  have coherent := reach.coherent (coherent_init outcome poolSize w)
  refine ⟨fun i j first second => ?_, coherent.covered, fun created stuck i => ?_⟩
  · have owner := (coherent.fits i).holder.mp first
    rw [(coherent.fits j).holder.mp second] at owner
    exact (Option.some.inj owner).symm
  by_contra busy
  have sound : (poolProtocol ι _).Sound (daoThreads ι sys) :=
    poolProtocol_sound (DBManager.construct outcome poolSize) sys
  have holds := (daoInit_holds sys outcome poolSize w).reachable sound reach.config
  -- Nobody is awake, so the pool is empty.
  have asleep := stuck.blocked coherent busy
  obtain ⟨awake, -, all, enough⟩ := coherent.covered ⟨i, asleep⟩
  have nobody : awake = [] := by
    refine List.eq_nil_iff_forall_not_mem.mpr fun j member => ?_
    have woken := all j member
    by_cases idle : (m.config.threads j).Idle
    · have waits := (coherent.fits j).paired.of_idle idle
      cases place : m.waiting j <;> simp_all [Waiting.waits, Waiting.awake]
    · rw [stuck.blocked coherent idle] at woken
      cases woken
  have empty : m.config.shared.pool = [] := by
    rw [nobody] at enough
    exact List.eq_nil_of_length_eq_zero (Nat.le_zero.mp enough)
  -- Nobody has a connection either: who waits has none, and who is done has none.
  have without (j : ι) : m.config.shared.popped j = none ∧ m.config.shared.guarded j = none := by
    by_cases idle : (m.config.threads j).Idle
    · exact (holds.threads j).idle sound idle
    · have paired := (coherent.fits j).paired
      rw [stuck.blocked coherent idle] at paired
      obtain ⟨job, rest, runs⟩ := paired.waiting
      exact holds.pre runs
  have all := holds.inv.pool_perm (construct_nodup outcome poolSize) without
  rw [empty] at all
  exact created all.nil_eq.symm

/-- A thread between two methods can start one and take the mutex. -/
theorem Reachable.enters {first : Monitor ι} (reach : Reachable sys first m)
    (idle : (m.config.threads i).Idle) (outside : m.waiting i = .outside) (free : m.owner = none)
    {locked : Option Conn → Prog (DaoOp.getUserById 0).Result}
    (shape : UserDAO.getUserById sys 0 = .act .lockPool locked) :
    ∃ t, Reachable sys first t ∧ t = (m.advance i (.act .lockPool locked)
      (m.config.shared.begin i)).lock i .entered := by
  have started : Reachable sys first
      (m.advance i ((DaoOp.getUserById 0).program sys) (m.config.shared.begin i)) :=
    reach.move (.start idle)
  rw [show (DaoOp.getUserById 0).program sys = .act .lockPool locked from shape] at started
  exact ⟨_, started.proceeds (.lock (Function.update_self ..) rfl outside free), rfl⟩

/-- One thread has the only connection and the other one waits for it. -/
theorem wake_ups_suffice_blocked : ∃ m : Monitor (Fin 2), m.config.shared.popped 0 = some 0 ∧
    m.waiting 1 = .blocked ∧ Covered m.waiting m.config.shared.pool.length := by
  obtain ⟨locked, waited, -, -, shape, waits, -, -⟩ := getUserById_shape Reference.system
  have initially : Reachable Reference.system _
      (Monitor.init (Fin 2) (fun _ => .connected) 1 {}) := .init
  obtain ⟨a, entered, rfl⟩ := initially.enters (i := 0) trivial rfl rfl shape
  have popped := entered.proceeds (i := 0) (.pop rfl rfl rfl)
  obtain ⟨b, entered, rfl⟩ := popped.enters (i := 1) trivial rfl rfl shape
  have waiting := entered.proceeds (i := 1) (.wait rfl rfl rfl)
  rw [waits] at waiting
  have blocked := waiting.proceeds (i := 1) (.block rfl rfl rfl)
  exact ⟨_, rfl, rfl, (wake_ups_suffice blocked).2.1⟩

end MusicPlayer.Monitor
