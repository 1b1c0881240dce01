import MusicPlayer.Resumption.Safety

/-!
# Programs over a finer signature

`refine` replaces every effect of a program by a program over another signature, whose effects
are smaller steps. What an effect comes to is then said by a relation, and not by a step: a
program that is safe with these relations as its steps stays safe when it is refined, if each
implementation comes to what its relation says, under any interference between its steps.
-/
namespace Resumption

variable {E F X Y α β σ : Type} {R : E → Type} {S : F → Type}

namespace Program

/-- The program with its effects implemented. Exceptions are embedded in a type that may have
more of them; what an implementation raises is not caught by the program. -/
def refine (impl : (effect : E) → Program F S Y (R effect)) (embed : X → Y) :
    Program E R X α → Program F S Y α
  | .ret value => .ret value
  | .raise exn => .raise (embed exn)
  | .act effect rest => (impl effect).bind fun reply => (rest reply).refine impl embed

section Safe

variable {impl : (effect : E) → Program F S Y (R effect)} {embed : X → Y}
  {step : (effect : F) → σ → S effect → σ → Prop} {rely : σ → σ → Prop} {pre : F → σ → Prop}
  {comes : (effect : E) → σ → R effect → σ → Prop} {owes : E → σ → Prop}

/-- What must hold of the result of an implementation: what the effect comes to, or whatever
may hold of a program that raises. -/
def implemented (comes : (effect : E) → σ → R effect → σ → Prop) (raised : Y → σ → Prop)
    (effect : E) (before : σ) : Except Y (R effect) → σ → Prop
  | .ok reply, after => comes effect before reply after
  | .error exn, after => raised exn after

/-- The results of a refined program. -/
def embedded (embed : X → Y) (post : Except X α → σ → Prop) (raised : Y → σ → Prop) :
    Except Y α → σ → Prop
  | .ok value, after => post (.ok value) after
  | .error exn, after => (∃ raisedBy, exn = embed raisedBy ∧ post (.error raisedBy) after) ∨
      raised exn after

theorem Safe.refine {raised : Y → σ → Prop}
    (implements : ∀ effect before, owes effect before →
      (impl effect).Safe step rely pre (implemented comes raised effect before) before)
    {program : Program E R X α} {post : Except X α → σ → Prop} {state : σ}
    (safe : program.Safe comes (· = ·) owes post state) :
    (program.refine impl embed).Safe step rely pre (embedded embed post raised) state := by
  induction program generalizing state with
  | ret value => exact safe
  | raise exn => exact .inl ⟨exn, rfl, safe⟩
  | act effect rest ih =>
    obtain ⟨owed, continues⟩ := safe state rfl
    refine (Safe.bind_iff ..).mpr ((implements effect state owed).mono ?_)
    intro result after outcome
    cases result with
    | ok reply => exact ih reply (continues reply after outcome)
    | error exn => exact .inr outcome

end Safe

end Program

end Resumption
