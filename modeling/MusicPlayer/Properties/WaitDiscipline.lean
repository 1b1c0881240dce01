import MusicPlayer.Database.Monitor

/-!
# Who calls `wait_for`

A method of the data access objects calls `wait_for` where it has found the pool empty, and
nowhere else. So the place of a thread in the critical sections tells what it does next.
-/
namespace MusicPlayer

open Resumption Program

/-- After this reply the thread is in `wait_for`. -/
def Effect.waitsAfter : (effect : Effect) → effect.Reply → Bool
  | .lockPool, reply => reply.isNone
  | _, _ => false

/-- A program of a thread that is in `wait_for`, or is not. -/
def Paired {α : Type} (waits : Bool) (prog : Prog α) : Prop :=
  prog.Safe (fun effect _ reply after => after = effect.waitsAfter reply) (· = ·)
    (fun effect before => before = true ↔ effect = .waitFor) (fun _ after => after = false) waits

namespace Paired

variable {α β : Type} {waits : Bool}

theorem ret (value : α) : Paired false (.ret value : Prog α) := rfl

theorem raise (exn : Exn) : Paired false (.raise exn : Prog α) := rfl

theorem act_iff {effect : Effect} {rest : effect.Reply → Prog α} :
    Paired waits (.act effect rest) ↔
      (waits = true ↔ effect = .waitFor) ∧
        ∀ reply, Paired (effect.waitsAfter reply) (rest reply) := by
  constructor
  · intro paired
    obtain ⟨here, continues⟩ := paired waits rfl
    exact ⟨here, fun reply => continues reply _ rfl⟩
  · rintro ⟨here, continues⟩ before rfl
    refine ⟨here, ?_⟩
    rintro reply after rfl
    exact continues reply

/-- A thread that is in `wait_for` will return from it. -/
theorem waiting {prog : Prog α} (paired : Paired true prog) :
    ∃ rest, prog = .act .waitFor rest := by
  cases prog with
  | ret value => cases paired
  | raise exn => cases paired
  | act effect rest =>
    obtain rfl := (act_iff.mp paired).1.mp rfl
    exact ⟨rest, rfl⟩

theorem bind {prog : Prog α} {next : α → Prog β} (first : Paired waits prog)
    (continues : ∀ value, Paired false (next value)) : Paired waits (prog.bind next) := by
  refine (Safe.bind_iff ..).mpr (first.mono ?_)
  rintro result after rfl
  cases result with
  | ok value => exact continues value
  | error exn => rfl

theorem attempt {prog : Prog α} (paired : Paired waits prog) : Paired waits prog.attempt :=
  (Safe.attempt_iff ..).mpr (paired.mono fun _ _ done => done)

theorem tryCatch {prog : Prog α} {handler : Exn → Prog α} (paired : Paired waits prog)
    (handles : ∀ exn, Paired false (handler exn)) : Paired waits (prog.tryCatch handler) := by
  refine (Safe.tryCatch_iff ..).mpr (paired.mono ?_)
  rintro result after rfl
  cases result with
  | ok value => rfl
  | error exn => exact handles exn

theorem ofExcept (result : Except Exn α) : Paired false (Program.ofExcept result : Prog α) := by
  cases result with
  | ok value => exact ret value
  | error exn => exact raise exn

/-- Effects that have nothing to do with the queue. -/
theorem of_performs {allowed : Effect → Prop} {prog : Prog α} (performs : prog.Performs allowed)
    (apart : ∀ effect, allowed effect → effect ≠ .lockPool ∧ effect ≠ .waitFor) :
    Paired false prog := by
  induction prog with
  | ret value => exact ret value
  | raise exn => exact raise exn
  | act effect rest ih =>
    obtain ⟨permitted, continues⟩ := (uses_act ..).mp performs
    obtain ⟨notLock, notWait⟩ := apart effect permitted
    refine act_iff.mpr ⟨by simpa using notWait, fun reply => ?_⟩
    have after : effect.waitsAfter reply = false := by
      cases effect with
      | lockPool => exact absurd rfl notLock
      | _ => rfl
    rw [after]
    exact ih reply (continues reply)

end Paired

/-- An effect on which no wait follows. -/
theorem Paired.trigger_bind {α : Type} {effect : Effect} {next : effect.Reply → Prog α}
    (apart : effect ≠ .lockPool ∧ effect ≠ .waitFor)
    (continues : ∀ reply, Paired false (next reply)) :
    Paired false ((trigger effect).bind next) := by
  have only : (trigger effect).Performs (· = effect) :=
    Performs.act rfl fun _ => Performs.ret _
  refine Paired.bind (.of_performs only ?_) continues
  rintro other rfl
  exact apart

theorem paired_call (conn : Option Conn) (c : ConnectorCall) :
    Paired false (DBManager.call conn c) :=
  Paired.trigger_bind (by simp) Paired.ofExcept

/-- `getConnection` waits where it has found nothing. -/
theorem paired_getConnection : Paired false DBManager.getConnection := by
  refine Paired.bind (Paired.act_iff.mpr ⟨by simp, fun popped => ?_⟩) fun conn => ?_
  · cases popped with
    | some k => exact .ret (some k)
    | none => exact Paired.act_iff.mpr ⟨by simp [Effect.waitsAfter], fun conn => .ret conn⟩
  · cases conn with
    | none => exact .ret none
    | some k =>
      refine Paired.bind (Paired.tryCatch ?_ fun exn => ?_) fun _ => .ret (some k)
      · refine Paired.bind (paired_call (some k) .isValid) fun valid => ?_
        cases valid with
        | true => exact .ret ()
        | false => exact Paired.bind (paired_call _ _) fun _ => paired_call _ _
      · cases exn with
        | sqlException => exact .ret ()
        | _ => exact .raise _

theorem IsMethod.paired {α : Type} {issued : Statement → Prop} {failure : α} {prog : Prog α}
    (method : IsMethod issued failure prog) : Paired false prog := by
  obtain ⟨body, rfl, through⟩ := method
  refine Paired.tryCatch (Paired.bind paired_getConnection fun conn => ?_) fun exn => ?_
  · refine Paired.trigger_bind (by simp) fun _ => Paired.bind ?_ fun result => ?_
    · refine Paired.attempt (.of_performs (through ⟨conn⟩) fun effect allowed => ?_)
      cases effect with
      | connector | reserve => simp
      | _ => exact allowed.elim
    · refine Paired.bind ?_ fun _ => Paired.ofExcept result
      cases conn with
      | none => exact .ret ()
      | some k => exact Paired.act_iff.mpr ⟨by simp, fun _ => .ret ()⟩
  · cases exn with
    | sqlException => exact .ret failure
    | _ => exact .raise _

theorem DaoOp.paired (op : DaoOp) (sys : System) : Paired false (op.program sys) :=
  (op.isMethod sys).paired

/-- The job of a thread, if it is in `wait_for` or is not. -/
def ThreadPaired (waits : Bool) :
    Thread Effect Effect.Reply Exn DaoOp.Result → Prop
  | none => waits = false
  | some ⟨_, prog⟩ => Paired waits prog

theorem ThreadPaired.waiting {thread : Thread Effect Effect.Reply Exn DaoOp.Result}
    (paired : ThreadPaired true thread) : ∃ job rest, thread = some ⟨job, .act .waitFor rest⟩ := by
  cases thread with
  | none => cases paired
  | some running =>
    obtain ⟨job, prog⟩ := running
    obtain ⟨rest, rfl⟩ := Paired.waiting paired
    exact ⟨job, rest, rfl⟩

theorem ThreadPaired.of_idle {waits : Bool} {thread : Thread Effect Effect.Reply Exn DaoOp.Result}
    (paired : ThreadPaired waits thread) (idle : thread.Idle) : waits = false := by
  cases thread with
  | none => exact paired
  | some running =>
    obtain ⟨job, prog⟩ := running
    cases prog with
    | ret value => exact paired
    | raise exn => exact paired
    | act effect rest => exact idle.elim

end MusicPlayer
