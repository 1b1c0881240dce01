import MusicPlayer.Properties.MonitorInvariant

/-!
# Critical sections are single steps

The threads over the mutex and the condition variable go through the same configurations as the
threads of which every critical section is one step: neither the order in which they get the mutex
nor the wake-ups can be told from what they do to the pool.
-/
namespace MusicPlayer.Monitor

open Resumption Program

variable {ι : Type} {sys : System} {first m next : Monitor ι} {i : ι}

/-- While the mutex is free, a thread is outside or waits without it. -/
theorem Coherent.free (coherent : m.Coherent) (free : m.owner = none) (i : ι) :
    (m.waiting i).holds = false := by
  have holder := (coherent.fits i).holder
  rw [free] at holder
  simpa using holder

theorem Coherent.outside (coherent : m.Coherent) (free : m.owner = none) {job : DaoOp}
    {effect : Effect} {rest : effect.Reply → Prog job.Result}
    (runs : m.config.threads i = some ⟨job, .act effect rest⟩) (notWait : effect ≠ .waitFor) :
    m.waiting i = .outside := by
  have holds := coherent.free free i
  have waits := (coherent.act runs).1
  cases place : m.waiting i with
  | outside => rfl
  | entered | checking _ => simp [place, Waiting.holds] at holds
  | blocked | woken _ => simp [place, Waiting.waits, notWait] at waits

variable [DecidableEq ι]

/-! ### The end of a wait -/

section Wait

variable {a b : PoolState ι} {conn : Conn}

theorem afterWait_of_take (taken : a.take i = (some conn, b)) : a.afterWait i = (some conn, b) := by
  rw [PoolState.afterWait, pool_of_take taken]
  exact taken

theorem take_of_afterWait (taken : a.afterWait i = (some conn, b)) :
    a.take i = (some conn, b) := by
  unfold PoolState.afterWait at taken
  split at taken
  · cases taken
  · exact taken

theorem empty_of_take (taken : a.take i = (none, b)) : a.pool = [] := by
  unfold PoolState.take at taken
  split at taken
  · assumption
  · cases taken

theorem empty_of_afterWait (taken : a.afterWait i = (none, b)) : a.pool = [] := by
  unfold PoolState.afterWait at taken
  split at taken
  · assumption
  · exact empty_of_take taken

theorem take_of_empty (empty : a.pool = []) : a.take i = (none, a) := by
  rw [PoolState.take, empty]

theorem afterWait_of_empty (empty : a.pool = []) :
    a.afterWait i = (none, (a.afterWait i).2) := by
  rw [PoolState.afterWait, empty]

end Wait

/-! ### The statements -/

/-- The statements with the mutex are one step or none. -/
theorem Proceeds.config (proceeds : Proceeds sys i m next)
    (reach : (daoThreads ι sys).Reachable first.config m.config) :
    (daoThreads ι sys).Reachable first.config next.config := by
  cases proceeds with
  | other runs outside apart step => exact reach.act i runs step
  | lock | block | relock => exact reach
  | pop runs entered taken => exact reach.act i runs taken.symm
  | wait runs entered empty => exact reach.act i runs (take_of_empty empty).symm
  | satisfied runs checking taken => exact reach.act i runs (afterWait_of_take taken).symm
  | giveUp runs checking empty => exact reach.act i runs (afterWait_of_empty empty).symm
  | push runs entered nobody => exact reach.act i runs rfl
  | notify runs entered blocked => exact reach.act i runs rfl

theorem Reachable.config (reach : Reachable sys first m) :
    (daoThreads ι sys).Reachable first.config m.config := by
  induction reach with
  | init => exact .init
  | move reach move ih =>
    cases move with
    | proceeds proceeds => exact proceeds.config ih
    | start idle => exact ih.start _ _ idle rfl
    | spurious blocked => exact ih
    | expire asleep => exact ih

theorem Reachable.coherent (reach : Reachable sys first m) (initially : first.Coherent) :
    m.Coherent := by
  induction reach with
  | init => exact initially
  | move reach move ih => exact ih.move move

/-! ### Every interleaving of the steps -/

/-- A thread in `wait_for` can have the mutex back, and the end of its time before. -/
theorem Reachable.relocks (reach : Reachable sys first m) (free : m.owner = none)
    (waits : (m.waiting i).waits = true) (notHolds : (m.waiting i).holds = false)
    (late : Bool) : ∃ expired, (late = true → expired = true) ∧
      ∃ t, Reachable sys first t ∧ t.config = m.config ∧ t.waiting i = .checking expired := by
  -- It is out of the wait set, after its time if that is asked for.
  have out : ∃ expired, (late = true → expired = true) ∧
      ∃ t, Reachable sys first t ∧ t.config = m.config ∧ t.owner = none ∧
        t.waiting i = .woken expired := by
    have expires (asleep : m.waiting i = .blocked ∨ m.waiting i = .woken false) :
        ∃ expired, (late = true → expired = true) ∧
          ∃ t, Reachable sys first t ∧ t.config = m.config ∧ t.owner = none ∧
            t.waiting i = .woken expired :=
      ⟨true, fun _ => rfl, _, reach.move (.expire asleep), rfl, free, Function.update_self ..⟩
    cases place : m.waiting i with
    | outside | entered => simp [place, Waiting.waits] at waits
    | checking expired => simp [place, Waiting.holds] at notHolds
    | blocked => exact expires (.inl place)
    | woken expired =>
      cases expired with
      | false => exact expires (.inr place)
      | true => exact ⟨true, fun _ => rfl, m, reach, rfl, free, place⟩
  obtain ⟨expired, asked, t, reach, config, free, woken⟩ := out
  refine ⟨expired, asked, _, reach.proceeds (.relock woken free), ?_, ?_⟩
  · exact config
  · exact Function.update_self ..

/-- One step of the threads is some statements with the mutex. -/
theorem Reachable.step (reach : Reachable sys first m) (coherent : m.Coherent)
    (free : m.owner = none) {d : Config ι Effect Effect.Reply Exn DaoOp.Result (PoolState ι)}
    (move : (daoThreads ι sys).Move m.config d) :
    ∃ t, Reachable sys first t ∧ t.owner = none ∧ t.config = d := by
  cases move with
  | @start i job after idle starts =>
    cases starts
    exact ⟨_, reach.move (.start idle), free, rfl⟩
  | @act i job effect rest reply after runs step =>
    by_cases waits : effect = .waitFor
    · subst waits
      have inWait := (coherent.act runs).1.mpr rfl
      have taken : m.config.shared.afterWait i = (reply, after) := Eq.symm step
      cases reply with
      | none =>
        obtain ⟨expired, late, t, reach, config, checking⟩ :=
          reach.relocks free inWait (coherent.free free i) true
        cases late rfl
        rw [← config] at runs taken ⊢
        refine ⟨_, reach.proceeds (.giveUp runs checking (empty_of_afterWait taken)), rfl, ?_⟩
        rw [taken]
        rfl
      | some conn =>
        obtain ⟨expired, -, t, reach, config, checking⟩ :=
          reach.relocks free inWait (coherent.free free i) false
        rw [← config] at runs taken ⊢
        exact ⟨_, reach.proceeds (.satisfied runs checking (take_of_afterWait taken)), rfl, rfl⟩
    have outside := coherent.outside free runs waits
    by_cases locks : effect.locks = true
    · have locked := reach.proceeds (.lock runs locks outside free)
      have entered : (m.lock i .entered).waiting i = .entered := Function.update_self ..
      cases effect with
      | lockPool =>
        have taken : m.config.shared.take i = (reply, after) := Eq.symm step
        cases reply with
        | some conn => exact ⟨_, locked.proceeds (.pop runs entered taken), rfl, rfl⟩
        | none =>
          have empty := empty_of_take taken
          obtain rfl : m.config.shared = after := by
            rw [take_of_empty empty] at taken
            exact congrArg Prod.snd taken
          -- The mutex is free again when the thread is in the wait set.
          have waiting := locked.proceeds (.wait runs entered empty)
          obtain ⟨later, waits⟩ := ((coherent.act runs).2 none).waiting
          have inside : ((m.lock i .entered).advance i (rest none) m.config.shared).config.threads
              i = some ⟨job, .act .waitFor later⟩ := by
            rw [← waits]
            exact Function.update_self ..
          exact ⟨_, waiting.proceeds (.block inside (Function.update_self ..) empty), rfl, rfl⟩
      | releaseConnection conn =>
        cases step
        by_cases nobody : ∀ j, (m.lock i .entered).waiting j ≠ .blocked
        · exact ⟨_, locked.proceeds (.push runs entered nobody), rfl, rfl⟩
        · push Not at nobody
          obtain ⟨j, blocked⟩ := nobody
          exact ⟨_, locked.proceeds (.notify runs entered blocked), rfl, rfl⟩
      | _ => cases locks
    · exact ⟨_, reach.proceeds (.other runs outside ⟨by simpa using locks, waits⟩ step), free, rfl⟩

/-- Every interleaving of threads that have to take the mutex, wait for a notification and look
again is one of threads whose critical sections are single steps, and the other way round. -/
theorem monitor_configs_iff {outcome : Nat → DBManager.ConnectOutcome} {poolSize : Nat} {w : World}
    {c : Config ι Effect Effect.Reply Exn DaoOp.Result (PoolState ι)} :
    (∃ m, Reachable sys (Monitor.init ι outcome poolSize w) m ∧ m.config = c) ↔
      (daoThreads ι sys).Reachable (daoInit ι outcome poolSize w) c := by
  constructor
  · rintro ⟨m, reach, rfl⟩
    exact reach.config
  · intro reach
    suffices settled : ∃ m, Reachable sys (Monitor.init ι outcome poolSize w) m ∧
        m.owner = none ∧ m.config = c by
      obtain ⟨m, reach, -, config⟩ := settled
      exact ⟨m, reach, config⟩
    induction reach with
    | init => exact ⟨_, .init, rfl, rfl⟩
    | move reach move ih =>
      obtain ⟨m, reached, free, rfl⟩ := ih
      exact reached.step (reached.coherent (coherent_init outcome poolSize w)) free move

end MusicPlayer.Monitor
