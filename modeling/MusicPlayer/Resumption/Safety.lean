import MusicPlayer.Resumption.Program

/-!
# Safety of a program under interference

`Safe` is the one judgment about programs. Before each effect of the program the
environment may move the state along `rely`; then the effect must satisfy `pre`, and
every outcome that `step` allows must keep the rest of the program safe. `post` is what
holds of the result.

Two instances need no interference: `Wp`, where the program owns the state, and `Uses`,
which forgets the state and says which effects a program can perform at all.
-/
namespace Resumption

variable {E : Type} {R : E → Type} {X α β σ : Type}

namespace Program

section Safe

variable (step : (effect : E) → σ → R effect → σ → Prop) (rely : σ → σ → Prop)
  (pre : E → σ → Prop)

def Safe : Program E R X α → (Except X α → σ → Prop) → σ → Prop
  | .ret value, post, state => post (.ok value) state
  | .raise exn, post, state => post (.error exn) state
  | .act effect rest, post, state => ∀ before, rely state before →
      pre effect before ∧ ∀ reply after, step effect before reply after →
        (rest reply).Safe post after

/-- What must hold of the result of `program` for `program.bind next` to end in `post`. -/
def thenSafe (next : α → Program E R X β) (post : Except X β → σ → Prop) :
    Except X α → σ → Prop
  | .ok value, state => (next value).Safe step rely pre post state
  | .error exn, state => post (.error exn) state

variable {step rely pre}

theorem Safe.bind_iff (program : Program E R X α) (next : α → Program E R X β)
    (post : Except X β → σ → Prop) (state : σ) :
    (program.bind next).Safe step rely pre post state ↔
      program.Safe step rely pre (thenSafe step rely pre next post) state := by
  induction program generalizing state with
  | ret value => rfl
  | raise exn => rfl
  | act effect rest ih => simp only [act_bind, Safe, ih]

theorem Safe.attempt_iff (program : Program E R X α) (post : Except X (Except X α) → σ → Prop)
    (state : σ) :
    program.attempt.Safe step rely pre post state ↔
      program.Safe step rely pre (fun result => post (.ok result)) state := by
  induction program generalizing state with
  | ret value => rfl
  | raise exn => rfl
  | act effect rest ih => simp only [attempt, Safe, ih]

/-- What must hold of the result of the body of a `tryCatch` that ends in `post`. -/
def catchSafe (step : (effect : E) → σ → R effect → σ → Prop) (rely : σ → σ → Prop)
    (pre : E → σ → Prop) (handler : X → Program E R X α) (post : Except X α → σ → Prop) :
    Except X α → σ → Prop
  | .ok value, state => post (.ok value) state
  | .error exn, state => (handler exn).Safe step rely pre post state

theorem Safe.tryCatch_iff (program : Program E R X α) (handler : X → Program E R X α)
    (post : Except X α → σ → Prop) (state : σ) :
    (program.tryCatch handler).Safe step rely pre post state ↔
      program.Safe step rely pre (catchSafe step rely pre handler post) state := by
  induction program generalizing state with
  | ret value => rfl
  | raise exn => rfl
  | act effect rest ih => simp only [tryCatch, Safe, ih]

theorem Safe.mono {program : Program E R X α} {post weaker : Except X α → σ → Prop} {state : σ}
    (safe : program.Safe step rely pre post state)
    (implies : ∀ result after, post result after → weaker result after) :
    program.Safe step rely pre weaker state := by
  induction program generalizing state with
  | ret value => exact implies _ _ safe
  | raise exn => exact implies _ _ safe
  | act effect rest ih =>
    intro before interfered
    obtain ⟨allowed, continues⟩ := safe before interfered
    exact ⟨allowed, fun reply after stepped => ih reply (continues reply after stepped)⟩

/-- Safety of what is seen of the state through `view`. -/
theorem Safe.of_view {τ : Type} (view : σ → τ)
    {seenStep : (effect : E) → τ → R effect → τ → Prop} {seenRely : τ → τ → Prop}
    {seenPre : E → τ → Prop} {program : Program E R X α} {post : Except X α → τ → Prop} {state : σ}
    (steps : ∀ effect a reply b, step effect a reply b → seenStep effect (view a) reply (view b))
    (relies : ∀ a b, rely a b → seenRely (view a) (view b))
    (owes : ∀ effect a, seenPre effect (view a) → pre effect a)
    (safe : program.Safe seenStep seenRely seenPre post (view state)) :
    program.Safe step rely pre (fun result after => post result (view after)) state := by
  induction program generalizing state with
  | ret value => exact safe
  | raise exn => exact safe
  | act effect rest ih =>
    intro before interfered
    obtain ⟨allowed, continues⟩ := safe (view before) (relies _ _ interfered)
    exact ⟨owes effect before allowed, fun reply after stepped =>
      ih reply (continues reply (view after) (steps effect before reply after stepped))⟩

/-- A program that owes nothing and is asked for nothing. -/
theorem Safe.unconstrained {program : Program E R X α} {post : Except X α → σ → Prop}
    (owes : ∀ effect before, pre effect before) (ends : ∀ result after, post result after)
    (state : σ) : program.Safe step rely pre post state := by
  induction program generalizing state with
  | ret value => exact ends _ _
  | raise exn => exact ends _ _
  | act effect rest ih =>
    exact fun before _ => ⟨owes effect before, fun reply after _ => ih reply after⟩

/-- An effect without interference. -/
theorem Safe.alone {effect : E} {rest : R effect → Program E R X α}
    {post : Except X α → σ → Prop} {state : σ} (owes : pre effect state)
    (continues : ∀ reply after, step effect state reply after →
      (rest reply).Safe step (· = ·) pre post after) :
    (Program.act effect rest).Safe step (· = ·) pre post state := by
  rintro before rfl
  exact ⟨owes, continues⟩

/-- What a program owes at each of its effects holds of the effects of a run. -/
theorem Safe.effects {owed : E → Prop} {exec : Nat → (effect : E) → σ → R effect × σ}
    {program : Program E R X α} {post : Except X α → σ → Prop} {state : σ}
    (answers : ∀ count effect before, step effect before (exec count effect before).1
      (exec count effect before).2)
    (safe : program.Safe step (· = ·) (fun effect _ => owed effect) post state) (count : Nat) :
    ∀ effect ∈ program.effects exec count state, owed effect := by
  induction program generalizing state count with
  | ret value => simp [Program.effects]
  | raise exn => simp [Program.effects]
  | act effect rest ih =>
    obtain ⟨owes, continues⟩ := safe state rfl
    have later := ih _ (continues _ _ (answers count effect state)) (count + 1)
    simpa [Program.effects, owes] using later

end Safe

section Uses

/-- Every effect the program can perform is `allowed`, whatever the replies, and every
result it can have satisfies `post`. -/
def Uses (allowed : E → Prop) (program : Program E R X α) (post : Except X α → Prop) : Prop :=
  program.Safe (fun _ _ _ _ => True) (· = ·) (fun effect (_ : Unit) => allowed effect)
    (fun result _ => post result) ()

variable {allowed : E → Prop}

@[simp] theorem uses_ret (value : α) (post : Except X α → Prop) :
    (Program.ret value : Program E R X α).Uses allowed post ↔ post (.ok value) := Iff.rfl

@[simp] theorem uses_raise (exn : X) (post : Except X α → Prop) :
    (Program.raise exn : Program E R X α).Uses allowed post ↔ post (.error exn) := Iff.rfl

@[simp] theorem uses_act (effect : E) (rest : R effect → Program E R X α)
    (post : Except X α → Prop) :
    (Program.act effect rest).Uses allowed post ↔
      allowed effect ∧ ∀ reply, (rest reply).Uses allowed post := by
  constructor
  · intro uses
    obtain ⟨permitted, continues⟩ := uses () rfl
    exact ⟨permitted, fun reply => continues reply () trivial⟩
  · rintro ⟨permitted, continues⟩ _ _
    exact ⟨permitted, fun reply _ _ => continues reply⟩

theorem uses_bind (program : Program E R X α) (next : α → Program E R X β)
    (post : Except X β → Prop) :
    (program.bind next).Uses allowed post ↔ program.Uses allowed fun
      | .ok value => (next value).Uses allowed post
      | .error exn => post (.error exn) := by
  induction program with
  | ret value => rfl
  | raise exn => rfl
  | act effect rest ih => simp only [act_bind, uses_act, ih]

theorem uses_attempt (program : Program E R X α) (post : Except X (Except X α) → Prop) :
    program.attempt.Uses allowed post ↔ program.Uses allowed fun result => post (.ok result) :=
  Safe.attempt_iff program _ ()

theorem uses_tryCatch (program : Program E R X α) (handler : X → Program E R X α)
    (post : Except X α → Prop) :
    (program.tryCatch handler).Uses allowed post ↔ program.Uses allowed fun
      | .ok value => post (.ok value)
      | .error exn => (handler exn).Uses allowed post := by
  induction program with
  | ret value => rfl
  | raise exn => rfl
  | act effect rest ih => simp only [tryCatch, uses_act, ih]

theorem Uses.mono {program : Program E R X α} {post weaker : Except X α → Prop}
    (uses : program.Uses allowed post) (implies : ∀ result, post result → weaker result) :
    program.Uses allowed weaker :=
  Safe.mono uses fun result _ => implies result

/-- Every effect the program can perform is `allowed`; nothing is said of its result. -/
def Performs (allowed : E → Prop) (program : Program E R X α) : Prop :=
  program.Uses allowed fun _ => True

namespace Performs

@[simp] theorem ret (value : α) : (Program.ret value : Program E R X α).Performs allowed := trivial

@[simp] theorem raise (exn : X) : (Program.raise exn : Program E R X α).Performs allowed := trivial

@[simp] theorem ofExcept (result : Except X α) :
    (Program.ofExcept result : Program E R X α).Performs allowed := by
  cases result <;> trivial

theorem act {effect : E} {rest : R effect → Program E R X α} (permitted : allowed effect)
    (continues : ∀ reply, (rest reply).Performs allowed) :
    (Program.act effect rest).Performs allowed :=
  (uses_act ..).mpr ⟨permitted, continues⟩

theorem bind {program : Program E R X α} {next : α → Program E R X β}
    (first : program.Performs allowed) (continues : ∀ value, (next value).Performs allowed) :
    (program.bind next).Performs allowed :=
  (uses_bind ..).mpr <| first.mono fun result _ => by
    cases result with
    | ok value => exact continues value
    | error exn => trivial

theorem attempt {program : Program E R X α} (performs : program.Performs allowed) :
    program.attempt.Performs allowed :=
  (uses_attempt ..).mpr performs

theorem tryCatch {program : Program E R X α} {handler : X → Program E R X α}
    (performs : program.Performs allowed) (handles : ∀ exn, (handler exn).Performs allowed) :
    (program.tryCatch handler).Performs allowed :=
  (uses_tryCatch ..).mpr <| performs.mono fun result _ => by
    cases result with
    | ok value => trivial
    | error exn => exact handles exn

theorem weaken {program : Program E R X α} {more : E → Prop}
    (performs : program.Performs allowed) (implies : ∀ effect, allowed effect → more effect) :
    program.Performs more := by
  induction program with
  | ret value => trivial
  | raise exn => trivial
  | act effect rest ih =>
    obtain ⟨permitted, continues⟩ := (uses_act ..).mp performs
    exact act (implies _ permitted) fun reply => ih reply (continues reply)

end Performs

/-- A program whose effects all keep `inv` and satisfy `pre` under it is safe from any
state with `inv`, whatever else `inv` says, as long as interference keeps it too. -/
theorem Uses.safe (inv : σ → Prop) {step : (effect : E) → σ → R effect → σ → Prop}
    {rely : σ → σ → Prop} {pre : E → σ → Prop} {program : Program E R X α}
    {post : Except X α → Prop} (uses : program.Uses allowed post)
    (stable : ∀ a b, inv a → rely a b → inv b)
    (guarded : ∀ effect state, allowed effect → inv state → pre effect state)
    (kept : ∀ effect state reply after, allowed effect → inv state →
      step effect state reply after → inv after)
    {state : σ} (holds : inv state) :
    program.Safe step rely pre (fun result after => post result ∧ inv after) state := by
  induction program generalizing state with
  | ret value => exact ⟨uses, holds⟩
  | raise exn => exact ⟨uses, holds⟩
  | act effect rest ih =>
    obtain ⟨permitted, continues⟩ := (uses_act effect rest post).mp uses
    intro before interfered
    -- The invariant holds when the effect is performed, whatever came between.
    have there := stable _ _ holds interfered
    exact ⟨guarded _ _ permitted there, fun reply after stepped =>
      ih reply (continues reply) (kept _ _ _ _ permitted there stepped)⟩

/-- Runs from related states have one result, when the effects are answered alike in related
states and lead from them to related states. -/
theorem Performs.run_related {related : σ → σ → Prop}
    {exec : Nat → (effect : E) → σ → R effect × σ} {program : Program E R X α}
    (performs : program.Performs allowed)
    (alike : ∀ count effect a b, allowed effect → related a b →
      (exec count effect a).1 = (exec count effect b).1 ∧
        related (exec count effect a).2 (exec count effect b).2)
    (count : Nat) {a b : σ} (start : related a b) :
    (program.run exec count a).1 = (program.run exec count b).1 ∧
      related (program.run exec count a).2 (program.run exec count b).2 := by
  induction program generalizing count a b with
  | ret value => exact ⟨rfl, start⟩
  | raise exn => exact ⟨rfl, start⟩
  | act effect rest ih =>
    obtain ⟨permitted, continues⟩ := (uses_act ..).mp performs
    obtain ⟨reply, next⟩ := alike count effect a b permitted start
    simp only [run, reply]
    exact ih _ (continues _) (count + 1) next

end Uses

section Wp

variable (step : (effect : E) → σ → R effect → σ → Prop)

/-- The program owns the state: no interference and nothing asserted at its effects. -/
def Wp (program : Program E R X α) (post : Except X α → σ → Prop) (state : σ) : Prop :=
  program.Safe step (· = ·) (fun _ _ => True) post state

variable {step}

@[simp] theorem wp_ret (value : α) (post : Except X α → σ → Prop) (state : σ) :
    (Program.ret value : Program E R X α).Wp step post state ↔ post (.ok value) state := Iff.rfl

@[simp] theorem wp_raise (exn : X) (post : Except X α → σ → Prop) (state : σ) :
    (Program.raise exn : Program E R X α).Wp step post state ↔ post (.error exn) state := Iff.rfl

theorem wp_act (effect : E) (rest : R effect → Program E R X α)
    (post : Except X α → σ → Prop) (state : σ) :
    (Program.act effect rest).Wp step post state ↔
      ∀ reply after, step effect state reply after → (rest reply).Wp step post after := by
  simp [Wp, Safe]

theorem wp_bind (program : Program E R X α) (next : α → Program E R X β)
    (post : Except X β → σ → Prop) (state : σ) :
    (program.bind next).Wp step post state ↔ program.Wp step (fun
      | .ok value => (next value).Wp step post
      | .error exn => post (.error exn)) state := by
  induction program generalizing state with
  | ret value => rfl
  | raise exn => rfl
  | act effect rest ih => simp only [act_bind, wp_act, ih]

theorem wp_attempt (program : Program E R X α) (post : Except X (Except X α) → σ → Prop)
    (state : σ) :
    program.attempt.Wp step post state ↔ program.Wp step (fun result => post (.ok result)) state :=
  Safe.attempt_iff program post state

theorem wp_tryCatch (program : Program E R X α) (handler : X → Program E R X α)
    (post : Except X α → σ → Prop) (state : σ) :
    (program.tryCatch handler).Wp step post state ↔ program.Wp step (fun
      | .ok value => post (.ok value)
      | .error exn => (handler exn).Wp step post) state := by
  induction program generalizing state with
  | ret value => rfl
  | raise exn => rfl
  | act effect rest ih => simp only [tryCatch, wp_act, ih]

theorem Wp.mono {program : Program E R X α} {post weaker : Except X α → σ → Prop} {state : σ}
    (wp : program.Wp step post state)
    (implies : ∀ result after, post result after → weaker result after) :
    program.Wp step weaker state :=
  Safe.mono wp implies

/-- What holds of every outcome the steps allow holds of the run. -/
theorem Wp.run {exec : Nat → (effect : E) → σ → R effect × σ} {program : Program E R X α}
    {post : Except X α → σ → Prop} {state : σ}
    (answers : ∀ count effect before, step effect before (exec count effect before).1
      (exec count effect before).2)
    (wp : program.Wp step post state) (count : Nat) :
    post (program.run exec count state).1 (program.run exec count state).2 := by
  induction program generalizing state count with
  | ret value => exact wp
  | raise exn => exact wp
  | act effect rest ih =>
    exact ih _ ((wp_act effect rest post state).mp wp _ _ (answers count effect state)) _

end Wp

end Program

end Resumption
