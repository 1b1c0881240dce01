import MusicPlayer.Properties.SingleStatement
import MusicPlayer.Properties.Interference
import MusicPlayer.Properties.GuardDiscipline

/-!
# Calls in some order

Any number of threads call methods with one statement, over a pool of any size. Nobody can tell
this from calls that were made one after the other.
-/
namespace MusicPlayer

open Resumption Program

/-- An effect of a call that runs alone, in some environment. -/
def Alone (sys : System) (effect : Effect) (before : World) (reply : effect.Reply)
    (after : World) : Prop :=
  ∃ env, Step sys env effect before reply after

/-- A bare effect has the same answer in every world. -/
theorem Alone.bare {sys : System} {effect : Effect} {w w' : World} {reply : effect.Reply}
    (alone : Alone sys effect w reply w') (bare : effect.Bare) :
    w' = w ∧ ∀ t, Alone sys effect t reply t := by
  obtain ⟨env, count, performed⟩ := alone
  obtain ⟨same, -⟩ := exec_bare sys env count bare w w
  rw [performed] at same
  refine ⟨same, fun t => ⟨env, count, ?_⟩⟩
  obtain ⟨-, answered⟩ := exec_bare sys env count bare w t
  rw [performed] at answered
  exact Prod.ext answered.symm (exec_bare sys env count bare t t).1

section Threads

variable {ι : Type} [DecidableEq ι] {sys : System} {i : ι} {effect : Effect} {a b : PoolState ι}
  {reply : effect.Reply}

/-- What a thread may still read: the last id that its connection has inserted. -/
def SessionSeen (i : ι) (a : PoolState ι) (w : World) : Prop :=
  ∀ conn, a.guarded i = some conn → w.db.lastInsertId conn = a.world.db.lastInsertId conn

theorem bare_of_early (early : effect.mover = .early) : effect.Bare := by
  cases effect with
  | lockPool | waitFor | constructGuard => trivial
  | connector conn c =>
    cases c with
    | execute s => cases s <;> cases early
    | _ => cases early
  | _ => cases early

theorem bare_of_free (free : effect.mover = .free) : effect.Bare := by
  cases effect with
  | now | releaseConnection | reserve => trivial
  | connector conn c =>
    cases c with
    | execute s => cases s <;> cases free
    | _ => trivial
  | _ => cases free

/-- The connection is given back, or stays where it is. -/
theorem guarded_of_free (free : effect.mover = .free)
    (step : (daoThreads ι sys).step i effect a reply b) :
    b.guarded i = none ∨ b.guarded i = a.guarded i := by
  cases effect with
  | releaseConnection conn =>
    cases step
    exact .inl (Function.update_self ..)
  | now | connector | reserve =>
    obtain ⟨env, count, w, -, -, rfl⟩ := step
    exact .inr rfl
  | _ => cases free

/-- `SELECT LAST_INSERT_ID()` on the thread's own connection. -/
theorem alone_of_own (own : effect.mover = .own) (owed : PoolPre (fun _ => True) i effect a)
    (step : (daoThreads ι sys).step i effect a reply b) :
    b.world = a.world ∧ b.guarded i = a.guarded i ∧
      ∀ t, SessionSeen i a t → Alone sys effect t reply t := by
  cases effect with
  | connector conn c =>
    cases c with
    | execute s =>
      obtain ⟨-, -, holds⟩ := owed
      have guarded := (holds s rfl).1
      obtain ⟨env, count, w, -, performed, rfl⟩ := step
      cases s with
      | selectLastInsertId =>
        cases conn with
        | none =>
          cases performed
          exact ⟨rfl, rfl, fun t _ => ⟨env, count, rfl⟩⟩
        | some k =>
          simp only [exec] at performed
          split at performed
          next throws =>
            cases performed
            exact ⟨rfl, rfl, fun t _ => ⟨env, count, by simp only [exec, throws, if_true]⟩⟩
          next quiet =>
            cases performed
            refine ⟨rfl, rfl, fun t seen => ⟨env, count, ?_⟩⟩
            simp only [exec, quiet, execCall, Statement.exec, seen k guarded]
            rfl
      | _ => cases own
    | _ => cases own
  | _ => cases own

/-- The statement of a call is all that others see of it. -/
theorem dao_reduction (created : List Conn) : Reduction (daoThreads ι sys) PoolState.world
    (Alone sys) Effect.mover SessionSeen
    (fun i effect a => Conserved created a ∧ PoolPre (fun _ => True) i effect a) where
  refl i a conn held := rfl
  starts i job a b starts := by
    cases starts
    exact ⟨rfl, fun j t seen => seen⟩
  others i effect a reply b owes step j other t seen conn held := by
    obtain ⟨-, kept⟩ := poolStep_guarantee owes.1 owes.2 step
    have relied := kept j other
    rw [relied.guarded] at held
    rw [seen conn held, relied.session conn held]
  early i effect a reply b early owes step := by
    have alone : Alone sys effect a.world reply b.world := step_of_poolStep step
    exact alone.bare (bare_of_early early)
  free i effect a reply b free owes step := by
    have alone : Alone sys effect a.world reply b.world := step_of_poolStep step
    obtain ⟨same, answered⟩ := alone.bare (bare_of_free free)
    refine ⟨same, fun t => ⟨answered t, fun seen conn held => ?_⟩⟩
    rcases guarded_of_free free step with none | kept
    · rw [none] at held
      cases held
    · rw [kept] at held
      rw [same]
      exact seen conn held
  commits i effect a reply b commits owes step := step_of_poolStep step
  own i effect a reply b own owes step := by
    obtain ⟨same, kept, answered⟩ := alone_of_own own owes.2 step
    refine ⟨same, fun t seen => ⟨answered t seen, fun conn held => ?_⟩⟩
    rw [kept] at held
    rw [same]
    exact seen conn held

/-- Every interleaving of methods with one statement is an order of the calls in which each runs
alone, with the result that it has and to the tables that there are, and in which no call comes
before one that had ended when it was made. -/
theorem calls_linearized {outcome : Nat → DBManager.ConnectOutcome} {poolSize : Nat} {w : World}
    {calls : List (Call ι Effect Effect.Reply Exn DaoOp DaoOp.Result)} {last : ι → Option Nat}
    {c : Config ι Effect Effect.Reply Exn DaoOp.Result (PoolState ι)}
    (recorded : (daoThreads ι sys).Recorded (daoInit ι outcome poolSize w) calls last c)
    (single : ∀ call ∈ calls, call.left.1.single = true) :
    ∃ order, Linearized (DaoOp.program sys) (Alone sys) calls w c.shared.world order := by
  have sound : (poolProtocol ι _).Sound (daoThreads ι sys) :=
    poolProtocol_sound (DBManager.construct outcome poolSize) sys
  refine recorded.linearized (dao_reduction (DBManager.construct outcome poolSize)) ?_
    fun call member => DaoOp.single_program sys (single call member)
  intro c reach i job effect rest runs
  have holds := (daoInit_holds sys outcome poolSize w).reachable sound reach
  exact ⟨holds.inv, holds.pre runs⟩

end Threads

/-- A deletion and a look-up that have both begun. -/
theorem calls_linearized_two : ∃ (calls : List (Call (Fin 2) Effect Effect.Reply Exn DaoOp
      DaoOp.Result)) (w : World), calls.length = 2 ∧
    ∃ order, Linearized (DaoOp.program Reference.system) (Alone Reference.system) calls {} w
      order := by
  have deletes : (daoThreads (Fin 2) Reference.system).Recorded
      (daoInit (Fin 2) (fun _ => .connected) 1 {})
      [⟨0, ⟨.deleteUser 1, (DaoOp.deleteUser 1).program Reference.system⟩, []⟩] _ _ :=
    Concurrent.Recorded.start (i := 0) .init trivial rfl
  have recorded : (daoThreads (Fin 2) Reference.system).Recorded
      (daoInit (Fin 2) (fun _ => .connected) 1 {})
      [⟨0, ⟨.deleteUser 1, (DaoOp.deleteUser 1).program Reference.system⟩, []⟩,
        ⟨1, ⟨.getUserById 1, (DaoOp.getUserById 1).program Reference.system⟩, []⟩] _ _ :=
    Concurrent.Recorded.start (i := 1) deletes trivial rfl
  exact ⟨_, _, rfl, calls_linearized recorded (by simp [DaoOp.single])⟩

end MusicPlayer
