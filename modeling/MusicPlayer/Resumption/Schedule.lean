import MusicPlayer.Resumption.Interleaving

/-!
# Schedules

Where every effect is answered by a function of a choice, an interleaving is determined by its
schedule: who moves, and with which choice. `runSchedule` executes a schedule. It reaches
exactly the configurations that are `Reachable`, so a schedule is a witness of one, and two
runs can be compared by comparing their schedules.
-/
namespace Resumption

variable {ι E X J σ C α : Type} {R : E → Type} {Out : J → Type}

namespace Config

variable [DecidableEq ι] (exec : ι → C → (effect : E) → σ → R effect × σ)

/-- The next effect of a thread; a thread that has none stays as it is. -/
def perform (c : Config ι E R X Out σ) (i : ι) (choice : C) : Config ι E R X Out σ :=
  match c.threads i with
  | some ⟨job, .act effect rest⟩ =>
    let (reply, after) := exec i choice effect c.shared
    ⟨after, Function.update c.threads i (some ⟨job, rest reply⟩)⟩
  | _ => c

def runSchedule : List (ι × C) → Config ι E R X Out σ → Config ι E R X Out σ
  | [], c => c
  | (i, choice) :: later, c => runSchedule later (c.perform exec i choice)

/-- Every effect of a schedule is allowed where it is performed, with its reply. -/
def runsWithin (allowed : ι → (effect : E) → σ → R effect → Bool) :
    List (ι × C) → Config ι E R X Out σ → Bool
  | [], _ => true
  | (i, choice) :: later, c =>
    (match c.threads i with
      | some ⟨_, .act effect _⟩ => allowed i effect c.shared (exec i choice effect c.shared).1
      | _ => true) && runsWithin allowed later (c.perform exec i choice)

variable {exec}

theorem runSchedule_append (first later : List (ι × C)) (c : Config ι E R X Out σ) :
    c.runSchedule exec (first ++ later) = (c.runSchedule exec first).runSchedule exec later := by
  induction first generalizing c with
  | nil => rfl
  | cons move rest ih => exact ih _

theorem perform_of_act {c : Config ι E R X Out σ} {i : ι} {job : J} {effect : E}
    {rest : R effect → Program E R X (Out job)} (choice : C)
    (runs : c.threads i = some ⟨job, .act effect rest⟩) :
    c.perform exec i choice = ⟨(exec i choice effect c.shared).2,
      Function.update c.threads i (some ⟨job, rest (exec i choice effect c.shared).1⟩)⟩ := by
  simp only [perform, runs]

theorem perform_of_idle {c : Config ι E R X Out σ} {i : ι} (choice : C)
    (idle : (c.threads i).Idle) : c.perform exec i choice = c := by
  unfold perform
  split
  next job effect rest runs =>
    rw [runs] at idle
    exact idle.elim
  · rfl

end Config

namespace Concurrent

variable [DecidableEq ι] {system : Concurrent ι E R X J Out σ}
  {exec : ι → C → (effect : E) → σ → R effect × σ} {init c : Config ι E R X Out σ}

theorem Reachable.runSchedule (reach : system.Reachable init c) (schedule : List (ι × C))
    (answers : ∀ i choice, (i, choice) ∈ schedule → ∀ effect a,
      system.step i effect a (exec i choice effect a).1 (exec i choice effect a).2) :
    system.Reachable init (c.runSchedule exec schedule) := by
  induction schedule generalizing c with
  | nil => exact reach
  | cons move later ih =>
    obtain ⟨i, choice⟩ := move
    refine ih ?_ fun j other member => answers j other (List.mem_cons_of_mem _ member)
    unfold Config.perform
    split
    next job effect rest runs =>
      exact reach.act i runs (answers i choice List.mem_cons_self effect c.shared)
    · exact reach

/-- A schedule whose effects are answered only where they are allowed. -/
theorem Reachable.runsWithin (reach : system.Reachable init c)
    (allowed : ι → (effect : E) → σ → R effect → Bool) (schedule : List (ι × C))
    (within : c.runsWithin exec allowed schedule = true)
    (answers : ∀ i choice, (i, choice) ∈ schedule → ∀ effect a,
      allowed i effect a (exec i choice effect a).1 = true →
      system.step i effect a (exec i choice effect a).1 (exec i choice effect a).2) :
    system.Reachable init (c.runSchedule exec schedule) := by
  induction schedule generalizing c with
  | nil => exact reach
  | cons move later ih =>
    obtain ⟨i, choice⟩ := move
    obtain ⟨here, next⟩ := Bool.and_eq_true_iff.mp within
    refine ih ?_ next fun j other member => answers j other (List.mem_cons_of_mem _ member)
    unfold Config.perform
    split
    next job effect rest runs =>
      rw [runs] at here
      exact reach.act i runs (answers i choice List.mem_cons_self effect c.shared here)
    · exact reach

/-- A system that starts no jobs and whose steps are all answered by a choice: every
interleaving is that of a schedule. -/
theorem Reachable.exists_schedule (choices : ∀ i effect a reply b,
      system.step i effect a reply b → ∃ choice, exec i choice effect a = (reply, b))
    (begun : ∀ i job a b, ¬system.starts i job a b) (reach : system.Reachable init c) :
    ∃ schedule, c = init.runSchedule exec schedule := by
  induction reach with
  | init => exact ⟨[], rfl⟩
  | move reach move ih =>
    obtain ⟨schedule, rfl⟩ := ih
    cases move with
    | @start i job after idle starts => exact absurd starts (begun i job _ _)
    | @act i job effect rest reply after runs step =>
      obtain ⟨choice, answered⟩ := choices i effect _ reply after step
      refine ⟨schedule ++ [(i, choice)], ?_⟩
      rw [Config.runSchedule_append, Config.runSchedule, Config.runSchedule,
        Config.perform_of_act choice runs, answered]

end Concurrent

/-- The next effect of a thread, whoever it is. -/
theorem Protocol.Holds.perform [DecidableEq ι] {protocol : Protocol ι E X J Out σ}
    {system : Concurrent ι E R X J Out σ} {exec : ι → C → (effect : E) → σ → R effect × σ}
    {c : Config ι E R X Out σ} (sound : protocol.Sound system) (holds : protocol.Holds system c)
    (answers : ∀ i choice effect a,
      system.step i effect a (exec i choice effect a).1 (exec i choice effect a).2)
    (i : ι) (choice : C) : protocol.Holds system (c.perform exec i choice) := by
  unfold Config.perform
  split
  next job effect rest runs =>
    exact holds.move sound (.act runs (answers i choice effect c.shared))
  · exact holds

end Resumption
