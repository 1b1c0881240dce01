/-!
# Programs over an effect signature

A `Program` is a finite tree of effects. Each effect of the signature `E` names the
type of its reply, and the rest of the program is a function of that reply. Programs
return a value or raise an exception. The same tree is run to completion by `run`,
reasoned about by `Safe`, and interleaved with others by `Interleaving`.
-/
namespace Resumption

inductive Program (E : Type) (R : E → Type) (X : Type) (α : Type) where
  | ret (value : α)
  | raise (exn : X)
  | act (effect : E) (rest : R effect → Program E R X α)

variable {E : Type} {R : E → Type} {X α β : Type}

namespace Program

def bind (program : Program E R X α) (next : α → Program E R X β) : Program E R X β :=
  match program with
  | .ret value => next value
  | .raise exn => .raise exn
  | .act effect rest => .act effect fun reply => (rest reply).bind next

instance : Monad (Program E R X) where
  pure := .ret
  bind := .bind

/-- Turn the exceptions of a program into values, so that nothing is raised. -/
def attempt : Program E R X α → Program E R X (Except X α)
  | .ret value => .ret (.ok value)
  | .raise exn => .ret (.error exn)
  | .act effect rest => .act effect fun reply => (rest reply).attempt

def ofExcept : Except X α → Program E R X α
  | .ok value => .ret value
  | .error exn => .raise exn

/-- `try program catch handler`: the handler may raise what it does not handle. -/
def tryCatch : Program E R X α → (X → Program E R X α) → Program E R X α
  | .ret value, _ => .ret value
  | .raise exn, handler => handler exn
  | .act effect rest, handler => .act effect fun reply => (rest reply).tryCatch handler

/-- Run to completion. `exec` answers the effects; it also sees how many effects were
performed before, so that an environment can answer equal effects differently. -/
def run {σ : Type} (exec : Nat → (effect : E) → σ → R effect × σ) :
    Nat → Program E R X α → σ → Except X α × σ
  | _, .ret value, state => (.ok value, state)
  | _, .raise exn, state => (.error exn, state)
  | count, .act effect rest, state =>
    let (reply, after) := exec count effect state
    (rest reply).run exec (count + 1) after

/-- The effects of a run, in their order. -/
def effects {σ : Type} (exec : Nat → (effect : E) → σ → R effect × σ) :
    Nat → Program E R X α → σ → List E
  | _, .ret _, _ => []
  | _, .raise _, _ => []
  | count, .act effect rest, state =>
    let (reply, after) := exec count effect state
    effect :: (rest reply).effects exec (count + 1) after

@[simp] theorem ofExcept_ok (value : α) :
    (ofExcept (.ok value) : Program E R X α) = .ret value := rfl

@[simp] theorem ofExcept_error (exn : X) :
    (ofExcept (.error exn) : Program E R X α) = .raise exn := rfl

@[simp] theorem pure_eq (value : α) : (pure value : Program E R X α) = .ret value := rfl

@[simp] theorem bind_eq (program : Program E R X α) (next : α → Program E R X β) :
    program >>= next = program.bind next := rfl

@[simp] theorem ret_bind (value : α) (next : α → Program E R X β) :
    (Program.ret value : Program E R X α).bind next = next value := rfl

@[simp] theorem raise_bind (exn : X) (next : α → Program E R X β) :
    (Program.raise exn : Program E R X α).bind next = .raise exn := rfl

@[simp] theorem act_bind (effect : E) (rest : R effect → Program E R X α)
    (next : α → Program E R X β) :
    (Program.act effect rest).bind next = .act effect fun reply => (rest reply).bind next := rfl

theorem bind_assoc {γ : Type} (program : Program E R X α) (next : α → Program E R X β)
    (last : β → Program E R X γ) :
    (program.bind next).bind last = program.bind fun value => (next value).bind last := by
  induction program with
  | ret value => rfl
  | raise exn => rfl
  | act effect rest ih => simp only [act_bind, ih]

theorem bind_ret (program : Program E R X α) : program.bind .ret = program := by
  induction program with
  | ret value => rfl
  | raise exn => rfl
  | act effect rest ih => simp only [act_bind, ih]

/-! ### Runs of composed programs -/

section Run

variable {σ : Type} (exec : Nat → (effect : E) → σ → R effect × σ)

/-- A program runs on from where its first part has ended. -/
theorem run_bind (program : Program E R X α) (count : Nat) (state : σ) :
    ∃ later, ∀ {β : Type} (next : α → Program E R X β),
      (program.bind next).run exec count state =
        match program.run exec count state with
        | (.ok value, after) => (next value).run exec later after
        | (.error exn, after) => (.error exn, after) := by
  induction program generalizing count state with
  | ret value => exact ⟨count, fun next => rfl⟩
  | raise exn => exact ⟨count, fun next => rfl⟩
  | act effect rest ih => exact ih _ (count + 1) _

theorem run_attempt (program : Program E R X α) (count : Nat) (state : σ) :
    program.attempt.run exec count state =
      (.ok (program.run exec count state).1, (program.run exec count state).2) := by
  induction program generalizing count state with
  | ret value => rfl
  | raise exn => rfl
  | act effect rest ih => exact ih _ (count + 1) _

theorem run_tryCatch (program : Program E R X α) (count : Nat) (state : σ) :
    ∃ later, ∀ handler : X → Program E R X α,
      (program.tryCatch handler).run exec count state =
        match program.run exec count state with
        | (.ok value, after) => (.ok value, after)
        | (.error exn, after) => (handler exn).run exec later after := by
  induction program generalizing count state with
  | ret value => exact ⟨count, fun handler => rfl⟩
  | raise exn => exact ⟨count, fun handler => rfl⟩
  | act effect rest ih => exact ih _ (count + 1) _

end Run

end Program

end Resumption
