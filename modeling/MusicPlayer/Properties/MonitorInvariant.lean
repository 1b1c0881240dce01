import MusicPlayer.Properties.WaitDiscipline

/-!
# The invariant of the monitor

Who has the mutex, where each thread is and what it does next go together. And while a thread is in
the wait set, every connection in the pool has a waiter of its own that is awake and about to look.
-/
namespace MusicPlayer

open Resumption Program

variable {ι : Type}

/-- While somebody is in the wait set, so many others are awake. -/
def Covered (waiting : ι → Waiting) (connections : Nat) : Prop :=
  (∃ i, waiting i = .blocked) → ∃ awake : List ι, awake.Nodup ∧
    (∀ i ∈ awake, (waiting i).awake = true) ∧ connections ≤ awake.length

namespace Covered

variable {waiting : ι → Waiting} {n : Nat}

theorem empty : Covered waiting 0 :=
  fun _ => ⟨[], List.nodup_nil, by simp, Nat.le_refl 0⟩

variable [DecidableEq ι]

/-- Nobody falls asleep, and nobody goes away. -/
theorem moved (covered : Covered waiting n) {i : ι} {place : Waiting}
    (asleep : place = .blocked → waiting i = .blocked)
    (awake : (waiting i).awake = true → place.awake = true) :
    Covered (Function.update waiting i place) n := by
  rintro ⟨j, sleeps⟩
  have before : waiting j = .blocked := by
    by_cases own : j = i
    · subst own
      rw [Function.update_self] at sleeps
      exact asleep sleeps
    · rwa [Function.update_of_ne own] at sleeps
  obtain ⟨others, distinct, all, enough⟩ := covered ⟨j, before⟩
  refine ⟨others, distinct, fun k member => ?_, enough⟩
  by_cases own : k = i
  · subst own
    rw [Function.update_self]
    exact awake (all k member)
  · rw [Function.update_of_ne own]
    exact all k member

/-- One of them goes away with a connection. -/
theorem leave (covered : Covered waiting (n + 1)) (i : ι) {place : Waiting}
    (place_ne : place ≠ .blocked) : Covered (Function.update waiting i place) n := by
  rintro ⟨j, sleeps⟩
  have other : j ≠ i := by
    rintro rfl
    rw [Function.update_self] at sleeps
    exact place_ne sleeps
  rw [Function.update_of_ne other] at sleeps
  obtain ⟨others, distinct, all, enough⟩ := covered ⟨j, sleeps⟩
  refine ⟨others.erase i, distinct.erase i, fun k member => ?_, ?_⟩
  · obtain ⟨different, member⟩ := (distinct.mem_erase_iff).mp member
    rw [Function.update_of_ne different]
    exact all k member
  · rw [List.length_erase]
    split <;> omega

/-- One of those in the wait set is woken for one more connection. -/
theorem wake (covered : Covered waiting n) {i : ι} (sleeps : waiting i = .blocked)
    (expired : Bool) :
    Covered (Function.update waiting i (.woken expired)) (n + 1) := by
  intro _
  obtain ⟨others, distinct, all, enough⟩ := covered ⟨i, sleeps⟩
  have new : i ∉ others := by
    intro member
    have awake := all i member
    rw [sleeps] at awake
    cases awake
  refine ⟨i :: others, List.nodup_cons.mpr ⟨new, distinct⟩, fun j member => ?_, ?_⟩
  · by_cases own : j = i
    · rw [own, Function.update_self]
      rfl
    · rw [Function.update_of_ne own]
      exact all j ((List.mem_cons.mp member).resolve_left own)
  · simpa using enough

end Covered

/-- What a thread does, where it is, and whether it has the mutex go together. -/
structure Fits (has : Prop) (place : Waiting)
    (thread : Thread Effect Effect.Reply Exn DaoOp.Result) : Prop where
  paired : ThreadPaired place.waits thread
  holder : place.holds = true ↔ has
  entered : place = .entered → ∃ job effect rest,
    thread = some ⟨job, .act effect rest⟩ ∧ effect.locks = true

theorem Fits.of_ne {has : Prop} {place : Waiting}
    {thread : Thread Effect Effect.Reply Exn DaoOp.Result}
    (paired : ThreadPaired place.waits thread) (holder : place.holds = true ↔ has)
    (place_ne : place ≠ .entered) : Fits has place thread :=
  ⟨paired, holder, fun entered => absurd entered place_ne⟩

/-- One thread is somewhere else now, or does something else. -/
theorem fits_update [DecidableEq ι] {before after : Option ι} {waiting : ι → Waiting}
    {threads : ι → Thread Effect Effect.Reply Exn DaoOp.Result}
    (fits : ∀ j, Fits (before = some j) (waiting j) (threads j)) {i : ι} {place : Waiting}
    {thread : Thread Effect Effect.Reply Exn DaoOp.Result}
    (own : Fits (after = some i) place thread)
    (others : ∀ j, j ≠ i → (before = some j ↔ after = some j)) (j : ι) :
    Fits (after = some j) (Function.update waiting i place j)
      (Function.update threads i thread j) := by
  by_cases same : j = i
  · subst same
    rw [Function.update_self, Function.update_self]
    exact own
  · rw [Function.update_of_ne same, Function.update_of_ne same, ← others j same]
    exact fits j

namespace Monitor

structure Coherent (m : Monitor ι) : Prop where
  fits : ∀ i, Fits (m.owner = some i) (m.waiting i) (m.config.threads i)
  covered : Covered m.waiting m.config.shared.pool.length

variable {sys : System} {m next : Monitor ι} {i : ι}

theorem coherent_init (outcome : Nat → DBManager.ConnectOutcome) (poolSize : Nat) (w : World) :
    (Monitor.init ι outcome poolSize w).Coherent where
  fits i := .of_ne rfl (by simp [Monitor.init, Waiting.holds]) (by simp [Monitor.init])
  covered := by
    rintro ⟨i, blocked⟩
    cases blocked

/-- What a thread at an effect knows of itself. -/
theorem Coherent.act (coherent : m.Coherent) {job : DaoOp} {effect : Effect}
    {rest : effect.Reply → Prog job.Result}
    (runs : m.config.threads i = some ⟨job, .act effect rest⟩) :
    ((m.waiting i).waits = true ↔ effect = .waitFor) ∧
      ∀ reply, Paired (effect.waitsAfter reply) (rest reply) := by
  have paired := (coherent.fits i).paired
  rw [runs] at paired
  exact Paired.act_iff.mp paired

/-- Nobody else has the mutex if it is free, or if the thread has it itself. -/
theorem others_of_free {owner : Option ι} (own : owner = none ∨ owner = some i)
    {after : Option ι} (next : after = none ∨ after = some i) (j : ι) (other : j ≠ i) :
    owner = some j ↔ after = some j := by
  rcases own with rfl | rfl <;> rcases next with rfl | rfl <;> simp [other.symm]

variable [DecidableEq ι]

/-- A thread that is somewhere else now and does what it did. -/
theorem Coherent.moved (coherent : m.Coherent) {place : Waiting} {after : Option ι}
    (own : Fits (after = some i) place (m.config.threads i))
    (others : ∀ j, j ≠ i → (m.owner = some j ↔ after = some j)) (j : ι) :
    Fits (after = some j) (Function.update m.waiting i place j) (m.config.threads j) := by
  have fits := fits_update coherent.fits own others j
  rwa [Function.update_eq_self] at fits

/-- The effects outside of the critical sections leave the queue as it is. -/
theorem pool_of_apart {effect : Effect} {a b : PoolState ι} {reply : effect.Reply}
    (apart : effect.locks = false ∧ effect ≠ .waitFor)
    (step : (daoThreads ι sys).step i effect a reply b) : b.pool = a.pool := by
  cases effect with
  | lockPool => cases apart.1
  | releaseConnection conn => cases apart.1
  | waitFor => exact absurd rfl apart.2
  | constructGuard conn =>
    cases step
    rfl
  | _ =>
    obtain ⟨env, count, w, -, -, rfl⟩ := step
    rfl

theorem pool_of_take {a b : PoolState ι} {conn : Conn} (taken : a.take i = (some conn, b)) :
    a.pool = conn :: b.pool := by
  unfold PoolState.take at taken
  split at taken
  · cases taken
  next pool =>
    cases taken
    exact pool

/-- What a thread does by itself. -/
theorem Coherent.proceeds (coherent : m.Coherent) (proceeds : Proceeds sys i m next) :
    next.Coherent := by
  cases proceeds with
  | @other job effect rest reply after runs outside apart step =>
    obtain ⟨-, continues⟩ := coherent.act runs
    have stays : effect.waitsAfter reply = false := by
      cases effect with
      | lockPool => cases apart.1
      | _ => rfl
    have own : Fits (m.owner = some i) (m.waiting i) (some ⟨job, rest reply⟩) := by
      refine .of_ne ?_ (coherent.fits i).holder (by simp [outside])
      have paired := continues reply
      rw [stays] at paired
      rw [outside]
      exact paired
    refine ⟨?_, ?_⟩
    · have fits := fits_update coherent.fits own fun _ _ => Iff.rfl
      rwa [Function.update_eq_self] at fits
    · rw [advance_shared, pool_of_apart apart step]
      exact coherent.covered
  | @lock job effect rest runs locks outside free =>
    have paired := (coherent.fits i).paired
    rw [outside] at paired
    refine ⟨?_, ?_⟩
    · refine coherent.moved ⟨paired, by simp [Waiting.holds], ?_⟩ ?_
      · exact fun _ => ⟨job, effect, rest, runs, locks⟩
      · exact others_of_free (.inl free) (.inr rfl)
    · exact coherent.covered.moved (by simp) (by simp [outside, Waiting.awake])
  | @pop job rest conn after runs entered taken =>
    obtain ⟨-, continues⟩ := coherent.act runs
    have owner := ((coherent.fits i).holder).mp (by rw [entered]; rfl)
    refine ⟨?_, ?_⟩
    · refine fits_update coherent.fits (.of_ne (continues (some conn)) ?_ (by simp)) ?_
      · simp [Waiting.holds]
      · exact others_of_free (.inr owner) (.inl rfl)
    · have pool := congrArg List.length (pool_of_take taken)
      refine Covered.leave ?_ i (by simp)
      simpa [pool] using coherent.covered
  | @wait job rest runs entered empty =>
    obtain ⟨-, continues⟩ := coherent.act runs
    have owner := ((coherent.fits i).holder).mp (by rw [entered]; rfl)
    refine ⟨?_, ?_⟩
    · refine fits_update coherent.fits (.of_ne (continues none) ?_ (by simp)) fun _ _ => Iff.rfl
      simp [Waiting.holds, owner]
    · simp only [moveTo_config, advance_shared, empty, List.length_nil]
      exact .empty
  | @satisfied job rest conn after expired runs checking taken =>
    obtain ⟨-, continues⟩ := coherent.act runs
    have owner := ((coherent.fits i).holder).mp (by rw [checking]; rfl)
    refine ⟨?_, ?_⟩
    · refine fits_update coherent.fits (.of_ne (continues (some conn)) ?_ (by simp)) ?_
      · simp [Waiting.holds]
      · exact others_of_free (.inr owner) (.inl rfl)
    · have pool := congrArg List.length (pool_of_take taken)
      refine Covered.leave ?_ i (by simp)
      simpa [pool] using coherent.covered
  | @block job rest runs checking empty =>
    have paired := (coherent.fits i).paired
    have owner := ((coherent.fits i).holder).mp (by rw [checking]; rfl)
    rw [checking] at paired
    refine ⟨?_, ?_⟩
    · refine coherent.moved (.of_ne paired (by simp [Waiting.holds]) (by simp)) ?_
      exact others_of_free (.inr owner) (.inl rfl)
    · simp only [unlock_config, empty, List.length_nil]
      exact .empty
  | @giveUp job rest runs checking empty =>
    obtain ⟨-, continues⟩ := coherent.act runs
    have owner := ((coherent.fits i).holder).mp (by rw [checking]; rfl)
    refine ⟨?_, ?_⟩
    · refine fits_update coherent.fits (.of_ne (continues none) ?_ (by simp)) ?_
      · simp [Waiting.holds]
      · exact others_of_free (.inr owner) (.inl rfl)
    · have same : (m.config.shared.afterWait i).2.pool = [] := by
        simp [PoolState.afterWait, empty]
      simp only [unlock_config, advance_shared, same, List.length_nil]
      exact .empty
  | @relock expired woken free =>
    have paired := (coherent.fits i).paired
    rw [woken] at paired
    refine ⟨?_, ?_⟩
    · refine coherent.moved (.of_ne paired (by simp [Waiting.holds]) (by simp)) ?_
      exact others_of_free (.inl free) (.inr rfl)
    · exact coherent.covered.moved (by simp) fun _ => rfl
  | @push job rest conn runs entered nobody =>
    obtain ⟨-, continues⟩ := coherent.act runs
    have owner := ((coherent.fits i).holder).mp (by rw [entered]; rfl)
    refine ⟨?_, ?_⟩
    · refine fits_update coherent.fits (.of_ne (continues ()) ?_ (by simp)) ?_
      · simp [Waiting.holds]
      · exact others_of_free (.inr owner) (.inl rfl)
    · rintro ⟨j, blocked⟩
      by_cases own : j = i <;> simp_all
  | @notify job rest conn j runs entered blocked =>
    obtain ⟨-, continues⟩ := coherent.act runs
    have owner := ((coherent.fits i).holder).mp (by rw [entered]; rfl)
    have paired := (coherent.fits j).paired
    rw [blocked] at paired
    -- The one that is woken is not the one that releases.
    have different : j ≠ i := by
      rintro rfl
      rw [entered] at blocked
      cases blocked
    have wakes : Fits (m.owner = some j) (.woken false) (m.config.threads j) :=
      .of_ne paired (by simp [Waiting.holds, owner, different.symm]) (by simp)
    have woken := coherent.moved wakes fun _ _ => Iff.rfl
    refine ⟨?_, ?_⟩
    · refine fits_update woken (.of_ne (continues ()) (by simp [Waiting.holds]) (by simp)) ?_
      exact others_of_free (.inr owner) (.inl rfl)
    · have covered := coherent.covered.wake blocked false
      have pool : (m.config.shared.release i conn).pool.length =
          m.config.shared.pool.length + 1 := by simp [PoolState.release]
      simp only [unlock_config, moveTo_config, advance_shared, pool]
      refine covered.moved (by simp) ?_
      rw [Function.update_of_ne different.symm, entered]
      exact id

theorem Coherent.move (coherent : m.Coherent) (move : Move sys m next) : next.Coherent := by
  cases move with
  | proceeds proceeds => exact coherent.proceeds proceeds
  | @start i op idle =>
    have still := (coherent.fits i).paired.of_idle idle
    have own : Fits (m.owner = some i) (m.waiting i) (some ⟨op, op.program sys⟩) := by
      refine ⟨?_, (coherent.fits i).holder, fun entered => ?_⟩
      · rw [still]
        exact op.paired sys
      · obtain ⟨job, effect, rest, runs, -⟩ := (coherent.fits i).entered entered
        rw [runs] at idle
        exact idle.elim
    refine ⟨?_, coherent.covered⟩
    have fits := fits_update coherent.fits own fun _ _ => Iff.rfl
    rwa [Function.update_eq_self] at fits
  | @spurious i blocked =>
    obtain ⟨paired, holder, -⟩ := coherent.fits i
    rw [blocked] at paired holder
    refine ⟨?_, ?_⟩
    · exact coherent.moved (.of_ne paired holder (by simp)) fun _ _ => Iff.rfl
    · exact coherent.covered.moved (by simp) fun _ => rfl
  | @expire i asleep =>
    obtain ⟨paired, holder, -⟩ := coherent.fits i
    refine ⟨?_, ?_⟩
    · refine coherent.moved (.of_ne ?_ ?_ (by simp)) fun _ _ => Iff.rfl
      · rcases asleep with asleep | asleep <;> (rw [asleep] at paired; exact paired)
      · rcases asleep with asleep | asleep <;> (rw [asleep] at holder; exact holder)
    · exact coherent.covered.moved (by simp) fun _ => rfl

end Monitor

end MusicPlayer
