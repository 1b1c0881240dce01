import MusicPlayer.Properties.GuardDiscipline
import Mathlib.Data.Fintype.Card

/-!
# Exhaustion of the pool

A method that waits in vain goes on with a null connection, which nothing checks. That never
happens exactly when the threads are no more than the connections that were created.
-/
namespace MusicPlayer

open Resumption Program

/-- The thread is about to call through a null connection. -/
def UsesNull : Thread Effect Effect.Reply Exn DaoOp.Result → Prop
  | some ⟨_, .act (.connector none _) _⟩ => True
  | _ => False

/-- No thread uses a null connection. A method whose wait ended on an empty pool changes
neither the world nor the pool, and ends in its declared failure value. -/
structure NullSafe {ι : Type} [DecidableEq ι] (sys : System)
    (c : Config ι Effect Effect.Reply Exn DaoOp.Result (PoolState ι)) : Prop where
  noNull : ∀ i, ¬UsesNull (c.threads i)
  inert : ∀ i op effect rest reply after, c.threads i = some ⟨op, .act effect rest⟩ →
    c.shared.timedOut i = true → (daoThreads ι sys).step i effect c.shared reply after →
      after.world = c.shared.world ∧ after.pool = c.shared.pool
  fails : ∀ i op, c.shared.timedOut i = true →
    (∀ value, c.threads i = some ⟨op, .ret value⟩ → value = op.failure) ∧
      ∀ exn, c.threads i ≠ some ⟨op, .raise exn⟩

section Enough

variable {n : Nat} {created : List Conn}

/-- A thread without a connection finds one, if the others are fewer than the connections. -/
theorem Conserved.pool_ne_nil {s : PoolState (Fin n)} (conserved : Conserved created s)
    (distinct : created.Nodup) (fits : n ≤ created.length) {i : Fin n}
    (free : s.popped i = none ∧ s.guarded i = none) : s.pool ≠ [] := by
  intro empty
  -- Every connection is with some other thread, and no thread has two.
  have holder : ∀ conn ∈ created, ∃ j, j ≠ i ∧
      (s.popped j = some conn ∨ s.guarded j = some conn) := by
    intro conn member
    obtain ⟨place, there⟩ := (conserved.somewhere conn).mp member
    cases place with
    | pool => rw [PoolState.At, empty] at there; cases there
    | popped j =>
      refine ⟨j, ?_, .inl there⟩
      rintro rfl
      rw [PoolState.At, free.1] at there
      cases there
    | guarded j =>
      refine ⟨j, ?_, .inr there⟩
      rintro rfl
      rw [PoolState.At, free.2] at there
      cases there
  have inhabited : Nonempty (Fin n) := ⟨i⟩
  choose! owner differs holds using holder
  have injective : Set.InjOn owner (created.toFinset : Set Conn) := by
    intro a memberA b memberB same
    have holdsA := holds a (by simpa using memberA)
    have holdsB := holds b (by simpa using memberB)
    rw [← same] at holdsB
    rcases conserved.single (owner a) with none | none
    · rw [none] at holdsA holdsB
      simp only [reduceCtorEq, false_or] at holdsA holdsB
      exact Option.some.inj (holdsA.symm.trans holdsB)
    · rw [none] at holdsA holdsB
      simp only [reduceCtorEq, or_false] at holdsA holdsB
      exact Option.some.inj (holdsA.symm.trans holdsB)
  have fewer : created.toFinset.card ≤ (Finset.univ.erase i).card := by
    refine Finset.card_le_card_of_injOn owner ?_ injective
    intro conn member
    simpa using differs conn (by simpa using member)
  rw [List.toFinset_card_of_nodup distinct, Finset.card_erase_of_mem (Finset.mem_univ i),
    Finset.card_univ, Fintype.card_fin] at fewer
  have positive : 0 < n := i.pos
  omega

/-- The mark of a wait in vain is set by `wait_for` on an empty pool alone. -/
theorem poolStep_timedOut {ι : Type} [DecidableEq ι] {sys : System} {envs : Env → Prop} {i : ι}
    {effect : Effect} {a b : PoolState ι} {reply : effect.Reply}
    (step : poolStep sys envs i effect a reply b) :
    b.timedOut = a.timedOut ∨ effect = .waitFor ∧ a.pool = [] := by
  have taken {conn : Option Conn} (takes : (conn, b) = a.take i) : b.timedOut = a.timedOut := by
    unfold PoolState.take at takes
    split at takes <;> (cases takes; rfl)
  cases effect with
  | lockPool => exact .inl (taken step)
  | waitFor =>
    have waited : (reply, b) = a.afterWait i := step
    unfold PoolState.afterWait at waited
    split at waited
    next empty => exact .inr ⟨rfl, empty⟩
    · exact .inl (taken waited)
  | constructGuard conn =>
    cases step
    exact .inl rfl
  | releaseConnection conn =>
    cases step
    exact .inl rfl
  | _ =>
    obtain ⟨env, count, w, -, -, rfl⟩ := step
    exact .inl rfl

/-- With enough connections nobody waits in vain. -/
theorem timedOut_of_fits {sys : System} {outcome : Nat → DBManager.ConnectOutcome} {poolSize : Nat}
    {w : World} {c : Config (Fin n) Effect Effect.Reply Exn DaoOp.Result (PoolState (Fin n))}
    (fits : n ≤ (DBManager.construct outcome poolSize).length)
    (reach : (daoThreads (Fin n) sys).Reachable (daoInit (Fin n) outcome poolSize w) c) :
    ∀ i, c.shared.timedOut i = false := by
  induction reach with
  | init => exact fun _ => rfl
  | move reach move ih =>
    have sound : (poolProtocol (Fin n) _).Sound (daoThreads (Fin n) sys) :=
      poolProtocol_sound (DBManager.construct outcome poolSize) sys
    have holds := (daoInit_holds sys outcome poolSize w).reachable sound reach
    intro i
    cases move with
    | @start j op after idle starts =>
      cases starts
      by_cases own : i = j
      · subst own
        exact Function.update_self ..
      · exact (Function.update_of_ne own ..).trans (ih i)
    | @act j op effect rest reply after runs step =>
      -- A wait ends in vain on an empty pool only, which n threads cannot make.
      rcases poolStep_timedOut step with same | ⟨rfl, empty⟩
      · dsimp only
        rw [same]
        exact ih i
      · have owes := holds.pre runs
        exact absurd empty (holds.inv.pool_ne_nil (construct_nodup outcome poolSize) fits owes)

end Enough

section TooFew

variable {n : Nat} {outcome : Nat → DBManager.ConnectOutcome} {poolSize : Nat}

/-- The first threads can take the connections one after the other. -/
theorem reach_drained (sys : System) (w : World) (count : Nat)
    (threads : count ≤ n) (connections : count ≤ (DBManager.construct outcome poolSize).length) :
    ∃ c, (daoThreads (Fin n) sys).Reachable (daoInit (Fin n) outcome poolSize w) c ∧
      c.shared.pool = (DBManager.construct outcome poolSize).drop count ∧
      ∀ i : Fin n, count ≤ i → c.threads i = none := by
  obtain ⟨locked, -, -, -, shape, -⟩ := getUserById_shape sys
  -- One thread after the other starts and pops a connection.
  induction count with
  | zero => exact ⟨_, .init, rfl, fun _ _ => rfl⟩
  | succ count ih =>
    obtain ⟨c, reach, pool, untouched⟩ := ih (by omega) (by omega)
    have idle := untouched ⟨count, by omega⟩ (le_refl _)
    refine ⟨_, reach_locked reach (i := ⟨count, by omega⟩) (by rw [idle]; trivial) shape, ?_, ?_⟩
    · have first := List.drop_eq_getElem_cons (i := count)
        (l := DBManager.construct outcome poolSize) (by omega)
      simp only [PoolState.take, PoolState.begin, pool, first]
    · intro i later
      have other : i ≠ ⟨count, by omega⟩ := by
        intro equal
        have position := congrArg Fin.val equal
        dsimp only at position
        omega
      dsimp only
      rw [Function.update_of_ne other]
      exact untouched i (by omega)

/-- The next thread finds the pool empty, waits in vain and uses a null connection. -/
theorem reach_usesNull (sys : System) (w : World)
    (more : (DBManager.construct outcome poolSize).length < n) :
    ∃ c, (daoThreads (Fin n) sys).Reachable (daoInit (Fin n) outcome poolSize w) c ∧
      ∃ i, UsesNull (c.threads i) := by
  obtain ⟨locked, waited, guarded, called, shape, waits, guards, calls⟩ := getUserById_shape sys
  obtain ⟨c, reach, pool, untouched⟩ := reach_drained sys w _ more.le (le_refl _)
  rw [List.drop_length] at pool
  have idle := untouched ⟨_, more⟩ (le_refl _)
  have locks := reach_locked reach (i := ⟨_, more⟩) (by rw [idle]; trivial) shape
  generalize (⟨_, more⟩ : Fin n) = i at locks
  have empty : (c.shared.begin i).pool = [] := pool
  -- The four effects up to the null pointer: lock, wait, guard, call.
  have takes : (c.shared.begin i).take i = (none, c.shared.begin i) := by
    simp only [PoolState.take, empty]
  rw [takes, waits] at locks
  have times : (daoThreads (Fin n) sys).step i .waitFor (c.shared.begin i) none
      { c.shared.begin i with
        timedOut := Function.update (c.shared.begin i).timedOut i true } := by
    change _ = (c.shared.begin i).afterWait i
    simp only [PoolState.afterWait, empty]
  have waiting := locks.act i (Function.update_self ..) times
  rw [guards] at waiting
  have constructs (a : PoolState (Fin n)) :
      (daoThreads (Fin n) sys).step i (.constructGuard none) a () (a.construct i none) := rfl
  have guarding := waiting.act i (Function.update_self ..) (constructs _)
  rw [calls] at guarding
  refine ⟨_, guarding, i, ?_⟩
  dsimp only
  rw [Function.update_self]
  trivial

end TooFew

/-- No interleaving of methods uses a null connection exactly when the threads are no more than
the connections that the constructor created. -/
theorem nullSafe_iff (sys : System) (outcome : Nat → DBManager.ConnectOutcome) (poolSize : Nat)
    (w : World) (n : Nat) :
    (∀ c, (daoThreads (Fin n) sys).Reachable (daoInit (Fin n) outcome poolSize w) c →
      NullSafe sys c) ↔ n ≤ (DBManager.construct outcome poolSize).length := by
  constructor
  · intro safe
    by_contra few
    obtain ⟨c, reach, i, null⟩ := reach_usesNull sys w (not_le.mp few)
    exact (safe c reach).noNull i null
  · intro fits c reach
    have calm := timedOut_of_fits fits reach
    have holds := (daoInit_holds sys outcome poolSize w).reachable (poolProtocol_sound _ sys) reach
    refine ⟨fun i null => ?_, fun i _ _ _ _ _ _ vain _ => ?_, fun i _ vain => ?_⟩
    · unfold UsesNull at null
      split at null
      next op call rest runs =>
        -- A null connection is used only after a wait in vain.
        have vain := (holds.pre runs).2.1 rfl
        rw [calm i] at vain
        cases vain
      · exact null
    · rw [calm i] at vain
      cases vain
    · rw [calm i] at vain
      cases vain

/-- A pool of size 0, and a single thread. -/
theorem nullSafe_empty_pool :
    ¬∀ (sys : System) (outcome : Nat → DBManager.ConnectOutcome) (poolSize : Nat) (w : World)
      (n : Nat) (c : Config (Fin n) Effect Effect.Reply Exn DaoOp.Result (PoolState (Fin n))),
      (daoThreads (Fin n) sys).Reachable (daoInit (Fin n) outcome poolSize w) c →
        NullSafe sys c := by
  intro safe
  have more : (DBManager.construct (fun _ => .connected) 0).length < 1 := by decide
  obtain ⟨c, reach, i, null⟩ := reach_usesNull Reference.system {} more
  exact (safe _ _ _ _ _ c reach).noNull i null

end MusicPlayer
