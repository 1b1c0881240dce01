import MusicPlayer.Resumption.Schedule

/-!
# Bounds on the length of programs

`Within n` says that a program performs at most `n` effects, whatever the replies. A thread whose
program is within `n` effects has come to its end once it has had `n` turns, no matter how its
turns are mixed with those of the others.
-/
namespace Resumption

variable {E X : Type} {R : E → Type} {α β : Type}

namespace Program

def Within : Nat → Program E R X α → Prop
  | _, .ret _ => True
  | _, .raise _ => True
  | 0, .act _ _ => False
  | n + 1, .act _ rest => ∀ reply, (rest reply).Within n

namespace Within

@[simp] theorem ret (n : Nat) (value : α) : (Program.ret value : Program E R X α).Within n := by
  cases n <;> trivial

@[simp] theorem raise (n : Nat) (exn : X) : (Program.raise exn : Program E R X α).Within n := by
  cases n <;> trivial

@[simp] theorem ofExcept (n : Nat) (result : Except X α) :
    (Program.ofExcept result : Program E R X α).Within n := by
  cases result <;> simp

theorem act {n : Nat} {effect : E} {rest : R effect → Program E R X α}
    (continues : ∀ reply, (rest reply).Within n) : (Program.act effect rest).Within (n + 1) :=
  continues

theorem mono {program : Program E R X α} {m n : Nat} (within : program.Within m) (le : m ≤ n) :
    program.Within n := by
  induction program generalizing m n with
  | ret value => exact ret n value
  | raise exn => exact raise n exn
  | act effect rest ih =>
    cases m with
    | zero => exact within.elim
    | succ m =>
      cases n with
      | zero => omega
      | succ n => exact fun reply => ih reply (within reply) (by omega)

/-- What is left after an effect. -/
theorem rest {n : Nat} {effect : E} {rest : R effect → Program E R X α}
    (within : (Program.act effect rest).Within n) (reply : R effect) : (rest reply).Within n := by
  cases n with
  | zero => exact within.elim
  | succ n => exact (within reply).mono (Nat.le_succ n)

theorem bind {program : Program E R X α} {next : α → Program E R X β} {m n : Nat}
    (first : program.Within m) (continues : ∀ value, (next value).Within n) :
    (program.bind next).Within (m + n) := by
  induction program generalizing m with
  | ret value => exact (continues value).mono (Nat.le_add_left n m)
  | raise exn => exact raise _ exn
  | act effect rest ih =>
    cases m with
    | zero => exact first.elim
    | succ m =>
      rw [Nat.succ_add]
      exact fun reply => ih reply (first reply)

theorem attempt {program : Program E R X α} {n : Nat} (within : program.Within n) :
    program.attempt.Within n := by
  induction program generalizing n with
  | ret value => exact ret n _
  | raise exn => exact ret n _
  | act effect rest ih =>
    cases n with
    | zero => exact within.elim
    | succ n => exact fun reply => ih reply (within reply)

theorem tryCatch {program : Program E R X α} {handler : X → Program E R X α} {m n : Nat}
    (within : program.Within m) (handles : ∀ exn, (handler exn).Within n) :
    (program.tryCatch handler).Within (m + n) := by
  induction program generalizing m with
  | ret value => exact ret _ value
  | raise exn => exact (handles exn).mono (Nat.le_add_left n m)
  | act effect rest ih =>
    cases m with
    | zero => exact within.elim
    | succ m =>
      rw [Nat.succ_add]
      exact fun reply => ih reply (within reply)

end Within

end Program

open Program

variable {ι J σ C : Type} {Out : J → Type} [DecidableEq ι]

/-- After as many turns as it has effects, a thread is at the end of its job. -/
theorem Config.ends_of_within {exec : ι → C → (effect : E) → σ → R effect × σ}
    {c : Config ι E R X Out σ} {i : ι} {job : J} {program : Program E R X (Out job)} {n : Nat}
    (runs : c.threads i = some ⟨job, program⟩) (within : program.Within n)
    (schedule : List (ι × C)) (turns : n ≤ schedule.countP fun move => move.1 = i) :
    ∃ result, (c.runSchedule exec schedule).threads i = some ⟨job, Program.ofExcept result⟩ := by
  induction schedule generalizing c n program with
  | nil =>
    obtain rfl : n = 0 := by simpa using turns
    cases program with
    | ret value => exact ⟨.ok value, runs⟩
    | raise exn => exact ⟨.error exn, runs⟩
    | act effect rest => exact within.elim
  | cons move later ih =>
    obtain ⟨j, choice⟩ := move
    rw [Config.runSchedule]
    by_cases own : j = i
    · subst own
      rw [List.countP_cons_of_pos (by simp)] at turns
      cases program with
      -- A thread at its end stays there.
      | ret value =>
        refine ih ?_ (Within.ret 0 value) (Nat.zero_le _)
        rw [Config.perform_of_idle choice (by rw [runs]; trivial)]
        exact runs
      | raise exn =>
        refine ih ?_ (Within.raise 0 exn) (Nat.zero_le _)
        rw [Config.perform_of_idle choice (by rw [runs]; trivial)]
        exact runs
      | act effect rest =>
        cases n with
        | zero => exact within.elim
        | succ n =>
          rw [Config.perform_of_act choice runs]
          exact ih (Function.update_self ..) (within _) (by omega)
    · rw [List.countP_cons_of_neg (by simpa using own)] at turns
      refine ih ?_ within turns
      -- The turn of another thread.
      unfold Config.perform
      split
      · exact (Function.update_of_ne (Ne.symm own) ..).trans runs
      · exact runs

end Resumption
