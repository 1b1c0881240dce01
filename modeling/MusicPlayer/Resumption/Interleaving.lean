import MusicPlayer.Resumption.Safety
import Mathlib.Logic.Function.Basic

/-!
# Interleavings

Threads run programs on a shared state, one effect at a time and in any order. A thread that
has finished may start another job. Any number of threads is allowed: the threads are indexed
by an arbitrary type.

A `Protocol` says what every thread may rely on and what it must satisfy at its effects. If
every job is safe under the protocol, then in every reachable configuration the invariant
holds and every thread is where its job was proved safe.
-/
namespace Resumption

variable {ι E X J σ : Type} {R : E → Type} {Out : J → Type}

/-- Jobs, and what their effects do to the state when a thread performs them. -/
structure Concurrent (ι E : Type) (R : E → Type) (X J : Type) (Out : J → Type) (σ : Type) where
  program : (job : J) → Program E R X (Out job)
  starts : ι → J → σ → σ → Prop
  step : ι → (effect : E) → σ → R effect → σ → Prop

/-- A thread has not started yet, or is somewhere in a job. -/
abbrev Thread (E : Type) (R : E → Type) (X : Type) (Out : J → Type) : Type :=
  Option (Σ job : J, Program E R X (Out job))

/-- No effect is left to perform. -/
def Thread.Idle : Thread E R X Out → Prop
  | some ⟨_, .act _ _⟩ => False
  | _ => True

/-- The job of a thread and what it has returned. -/
def Thread.returned? : Thread E R X Out → Option (Σ job : J, Out job)
  | some ⟨job, .ret value⟩ => some ⟨job, value⟩
  | _ => none

theorem Thread.returned?_eq_some {thread : Thread E R X Out} {job : J} {value : Out job} :
    thread.returned? = some ⟨job, value⟩ ↔ thread = some ⟨job, .ret value⟩ := by
  constructor
  · intro returned
    unfold Thread.returned? at returned
    split at returned
    · cases returned
      rfl
    · cases returned
  · rintro rfl
    rfl

theorem Thread.idle_of_returned {thread : Thread E R X Out} (returned : thread.returned?.isSome) :
    thread.Idle := by
  obtain ⟨⟨job, value⟩, equal⟩ := Option.isSome_iff_exists.mp returned
  rw [Thread.returned?_eq_some.mp equal]
  trivial

structure Config (ι E : Type) (R : E → Type) (X : Type) (Out : J → Type) (σ : Type) where
  shared : σ
  threads : ι → Thread E R X Out

namespace Concurrent

variable [DecidableEq ι]

inductive Move (system : Concurrent ι E R X J Out σ) :
    Config ι E R X Out σ → Config ι E R X Out σ → Prop where
  | start {c : Config ι E R X Out σ} {i : ι} {job : J} {after : σ} (idle : (c.threads i).Idle)
      (starts : system.starts i job c.shared after) :
      Move system c ⟨after, Function.update c.threads i (some ⟨job, system.program job⟩)⟩
  | act {c : Config ι E R X Out σ} {i : ι} {job : J} {effect : E}
      {rest : R effect → Program E R X (Out job)} {reply : R effect} {after : σ}
      (runs : c.threads i = some ⟨job, .act effect rest⟩)
      (step : system.step i effect c.shared reply after) :
      Move system c ⟨after, Function.update c.threads i (some ⟨job, rest reply⟩)⟩

inductive Reachable (system : Concurrent ι E R X J Out σ) (init : Config ι E R X Out σ) :
    Config ι E R X Out σ → Prop where
  | init : Reachable system init init
  | move {c d : Config ι E R X Out σ} (reach : Reachable system init c)
      (move : Move system c d) : Reachable system init d

theorem Reachable.start {system : Concurrent ι E R X J Out σ} {init c : Config ι E R X Out σ}
    (reach : Reachable system init c) (i : ι) (job : J) {after : σ} (idle : (c.threads i).Idle)
    (starts : system.starts i job c.shared after) : Reachable system init
      ⟨after, Function.update c.threads i (some ⟨job, system.program job⟩)⟩ :=
  reach.move (.start idle starts)

theorem Reachable.act {system : Concurrent ι E R X J Out σ} {init c : Config ι E R X Out σ}
    (reach : Reachable system init c) (i : ι) {job : J} {effect : E}
    {rest : R effect → Program E R X (Out job)} {reply : R effect} {after : σ}
    (runs : c.threads i = some ⟨job, .act effect rest⟩)
    (step : system.step i effect c.shared reply after) : Reachable system init
      ⟨after, Function.update c.threads i (some ⟨job, rest reply⟩)⟩ :=
  reach.move (.act runs step)

/-- A thread that has a job keeps one. -/
theorem Reachable.started {system : Concurrent ι E R X J Out σ} {init c : Config ι E R X Out σ}
    (reach : system.Reachable init c) {i : ι} (begun : (init.threads i).isSome) :
    (c.threads i).isSome := by
  -- A move is one of the thread, which leaves it started, or of another one.
  induction reach with
  | init => exact begun
  | move reach move ih =>
    cases move with
    | @start j job after idle starts =>
      dsimp only
      by_cases own : i = j
      · subst own
        rw [Function.update_self]
        rfl
      · rw [Function.update_of_ne own]
        exact ih
    | @act j job effect rest reply after runs step =>
      dsimp only
      by_cases own : i = j
      · subst own
        rw [Function.update_self]
        rfl
      · rw [Function.update_of_ne own]
        exact ih

/-- What holds of every job, and of what is left of a program after an effect, holds of what is left
of every job of a thread. -/
theorem Reachable.residual {system : Concurrent ι E R X J Out σ} {init c : Config ι E R X Out σ}
    {holds : (job : J) → Program E R X (Out job) → Prop}
    (jobs : ∀ job, holds job (system.program job))
    (rests : ∀ job effect (rest : R effect → Program E R X (Out job)) reply,
      holds job (.act effect rest) → holds job (rest reply))
    (fresh : ∀ i, init.threads i = none) (reach : system.Reachable init c) {i : ι} {job : J}
    {program : Program E R X (Out job)} (runs : c.threads i = some ⟨job, program⟩) :
    holds job program := by
  induction reach generalizing i job with
  | init => simp [fresh] at runs
  | move reach move ih =>
    cases move with
    | @start j new after idle starts =>
      dsimp only at runs
      by_cases own : i = j
      · subst own
        rw [Function.update_self] at runs
        cases runs
        exact jobs _
      · rw [Function.update_of_ne own] at runs
        exact ih runs
    | @act j moved effect rest reply after acts step =>
      dsimp only at runs
      by_cases own : i = j
      · subst own
        rw [Function.update_self] at runs
        cases runs
        exact rests _ effect rest reply (ih acts)
      · rw [Function.update_of_ne own] at runs
        exact ih runs

/-- A thread performs nothing but what its job can perform. -/
theorem Reachable.performs {system : Concurrent ι E R X J Out σ} {init c : Config ι E R X Out σ}
    {allowed : J → E → Prop} (performs : ∀ job, (system.program job).Performs (allowed job))
    (fresh : ∀ i, init.threads i = none) (reach : system.Reachable init c) {i : ι} {job : J}
    {program : Program E R X (Out job)} (runs : c.threads i = some ⟨job, program⟩) :
    program.Performs (allowed job) :=
  reach.residual performs
    (fun _ _ _ reply performs => ((Program.uses_act ..).mp performs).2 reply) fresh runs

end Concurrent

/-- What the threads promise one another. -/
structure Protocol (ι E X J : Type) (Out : J → Type) (σ : Type) where
  inv : σ → Prop
  /-- What the other threads may do between two effects of a thread. -/
  rely : ι → σ → σ → Prop
  /-- What a thread must satisfy at an effect. -/
  pre : ι → E → σ → Prop
  post : ι → (job : J) → Except X (Out job) → σ → Prop
  /-- What holds of a thread between two jobs. -/
  idle : ι → σ → Prop

namespace Protocol

variable (protocol : Protocol ι E X J Out σ) (system : Concurrent ι E R X J Out σ)

/-- A program is safe for a thread from a state, if the invariant holds all along. -/
def SafeAt (i : ι) (job : J) (program : Program E R X (Out job)) (state : σ) : Prop :=
  program.Safe (fun effect a reply b => protocol.inv a ∧ system.step i effect a reply b)
    (protocol.rely i) (fun effect a => protocol.inv a → protocol.pre i effect a)
    (protocol.post i job) state

/-- The state may have moved since the last effect of the thread. -/
def ThreadSafe (i : ι) (thread : Thread E R X Out) (shared : σ) : Prop :=
  match thread with
  | none => protocol.idle i shared
  | some ⟨job, program⟩ =>
    ∃ seen, protocol.rely i seen shared ∧ protocol.SafeAt system i job program seen

/-- What is to be proved of a protocol, once for each job and once for each effect. -/
structure Sound : Prop where
  refl : ∀ i a, protocol.rely i a a
  trans : ∀ i a b c, protocol.rely i a b → protocol.rely i b c → protocol.rely i a c
  starts : ∀ i job a b, protocol.inv a → protocol.idle i a → system.starts i job a b →
    protocol.inv b ∧ protocol.SafeAt system i job (system.program job) b ∧
      ∀ j, j ≠ i → protocol.rely j a b
  acts : ∀ i effect a reply b, protocol.inv a → protocol.pre i effect a →
    system.step i effect a reply b → protocol.inv b ∧ ∀ j, j ≠ i → protocol.rely j a b
  post_stable : ∀ i job result a b, protocol.post i job result a → protocol.rely i a b →
    protocol.post i job result b
  idle_stable : ∀ i a b, protocol.idle i a → protocol.rely i a b → protocol.idle i b
  finishes : ∀ i job result a, protocol.post i job result a → protocol.idle i a

/-- The invariant holds, and every thread is safe. -/
structure Holds (c : Config ι E R X Out σ) : Prop where
  inv : protocol.inv c.shared
  threads : ∀ i, protocol.ThreadSafe system i (c.threads i) c.shared

variable {protocol system}

theorem ThreadSafe.later {i : ι} {thread : Thread E R X Out} {a b : σ}
    (sound : protocol.Sound system) (safe : protocol.ThreadSafe system i thread a)
    (interfered : protocol.rely i a b) : protocol.ThreadSafe system i thread b := by
  cases thread with
  | none => exact sound.idle_stable i a b safe interfered
  | some running =>
    obtain ⟨seen, before, rest⟩ := safe
    exact ⟨seen, sound.trans i seen a b before interfered, rest⟩

theorem ThreadSafe.idle {i : ι} {thread : Thread E R X Out} {shared : σ}
    (sound : protocol.Sound system) (safe : protocol.ThreadSafe system i thread shared)
    (idle : thread.Idle) : protocol.idle i shared := by
  cases thread with
  | none => exact safe
  | some running =>
    obtain ⟨job, program⟩ := running
    obtain ⟨seen, interfered, rest⟩ := safe
    cases program with
    | ret value => exact sound.finishes i job _ _ (sound.post_stable i job _ _ _ rest interfered)
    | raise exn => exact sound.finishes i job _ _ (sound.post_stable i job _ _ _ rest interfered)
    | act effect rest => exact idle.elim

/-- What a thread owes at its next effect, and that it stays safe behind it. -/
theorem ThreadSafe.act {i : ι} {job : J} {effect : E} {rest : R effect → Program E R X (Out job)}
    {shared : σ} (holds : protocol.inv shared)
    (safe : protocol.ThreadSafe system i (some ⟨job, .act effect rest⟩) shared) :
    protocol.pre i effect shared ∧ ∀ reply after, system.step i effect shared reply after →
      protocol.SafeAt system i job (rest reply) after := by
  obtain ⟨seen, interfered, program⟩ := safe
  obtain ⟨allowed, continues⟩ := program shared interfered
  exact ⟨allowed holds, fun reply after step => continues reply after ⟨holds, step⟩⟩

section Moves

variable [DecidableEq ι]

/-- One move of any thread. -/
theorem Holds.move {c d : Config ι E R X Out σ} (sound : protocol.Sound system)
    (holds : protocol.Holds system c) (move : system.Move c d) : protocol.Holds system d := by
  cases move with
  | @start i job after idle starts =>
    obtain ⟨inv, safe, others⟩ := sound.starts i job _ _ holds.inv
      ((holds.threads i).idle sound idle) starts
    refine ⟨inv, fun j => ?_⟩
    dsimp only
    by_cases own : j = i
    · subst own
      rw [Function.update_self]
      exact ⟨after, sound.refl j after, safe⟩
    -- The others are interfered with, and stable under it.
    · rw [Function.update_of_ne own]
      exact (holds.threads j).later sound (others j own)
  | @act i job effect rest reply after runs step =>
    have own := holds.threads i
    rw [runs] at own
    obtain ⟨allowed, continues⟩ := own.act holds.inv
    obtain ⟨inv, others⟩ := sound.acts i effect _ reply after holds.inv allowed step
    refine ⟨inv, fun j => ?_⟩
    dsimp only
    by_cases own : j = i
    · subst own
      rw [Function.update_self]
      exact ⟨after, sound.refl j after, continues reply after step⟩
    · rw [Function.update_of_ne own]
      exact (holds.threads j).later sound (others j own)

/-- Every interleaving. -/
theorem Holds.reachable {init c : Config ι E R X Out σ} (sound : protocol.Sound system)
    (holds : protocol.Holds system init) (reach : system.Reachable init c) :
    protocol.Holds system c := by
  induction reach with
  | init => exact holds
  | move reach move ih => exact ih.move sound move

end Moves

/-- What a thread owes at the effect it is about to perform. -/
theorem Holds.pre {c : Config ι E R X Out σ} (holds : protocol.Holds system c) {i : ι} {job : J}
    {effect : E} {rest : R effect → Program E R X (Out job)}
    (runs : c.threads i = some ⟨job, .act effect rest⟩) : protocol.pre i effect c.shared := by
  have own := holds.threads i
  rw [runs] at own
  exact (own.act holds.inv).1

/-- What holds when a job has returned. -/
theorem Holds.post {c : Config ι E R X Out σ} (sound : protocol.Sound system)
    (holds : protocol.Holds system c) {i : ι} {job : J} {value : Out job}
    (returned : c.threads i = some ⟨job, .ret value⟩) :
    protocol.post i job (.ok value) c.shared := by
  have own := holds.threads i
  rw [returned] at own
  obtain ⟨seen, interfered, rest⟩ := own
  exact sound.post_stable i job _ _ _ rest interfered

/-- What holds when a job has ended in an exception. -/
theorem Holds.post_raise {c : Config ι E R X Out σ} (sound : protocol.Sound system)
    (holds : protocol.Holds system c) {i : ι} {job : J} {exn : X}
    (raised : c.threads i = some ⟨job, .raise exn⟩) :
    protocol.post i job (.error exn) c.shared := by
  have own := holds.threads i
  rw [raised] at own
  obtain ⟨seen, interfered, rest⟩ := own
  exact sound.post_stable i job _ _ _ rest interfered

/-- A thread that has a job and no effect left has ended in some result. -/
theorem Holds.ended {c : Config ι E R X Out σ} (sound : protocol.Sound system)
    (holds : protocol.Holds system c) {i : ι} (begun : (c.threads i).isSome)
    (idle : (c.threads i).Idle) : ∃ job result,
      c.threads i = some ⟨job, Program.ofExcept result⟩ ∧
        protocol.post i job result c.shared := by
  cases thread : c.threads i with
  | none =>
    rw [thread] at begun
    cases begun
  | some running =>
    obtain ⟨job, program⟩ := running
    cases program with
    | ret value => exact ⟨job, .ok value, rfl, holds.post sound thread⟩
    | raise exn => exact ⟨job, .error exn, rfl, holds.post_raise sound thread⟩
    | act effect rest =>
      rw [thread] at idle
      exact idle.elim

end Protocol

end Resumption
