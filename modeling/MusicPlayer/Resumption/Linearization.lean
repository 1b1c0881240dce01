import MusicPlayer.Resumption.Interleaving
import Mathlib.Data.List.Basic

/-!
# Linearization

Threads call jobs of which each acts on the shared state once. Whatever else a job does is either
answered alike in every state, or depends on a part of the state that no other thread changes from
that one effect on. Then every interleaving is an order of the calls in which each runs alone, with
the replies that it had and to the state that was reached, and no call comes before one that had
returned when it was made.
-/
namespace Resumption

variable {ι E X J σ τ κ α : Type} {R : E → Type} {Out : J → Type}

/-- A program that runs alone gets from one point and state to another. -/
inductive Program.Leads (serial : (effect : E) → τ → R effect → τ → Prop)
    (program : Program E R X α) (state : τ) : Program E R X α → τ → Prop where
  | here : Leads serial program state program state
  | act {effect : E} {rest : R effect → Program E R X α} {before after : τ} {reply : R effect}
      (leads : Leads serial program state (.act effect rest) before)
      (step : serial effect before reply after) : Leads serial program state (rest reply) after

/-- One piece after the other. -/
def Serially (piece : κ → τ → τ → Prop) : List κ → τ → τ → Prop
  | [], first, last => first = last
  | k :: later, first, last => ∃ middle, piece k first middle ∧ Serially piece later middle last

namespace Serially

variable {piece other : κ → τ → τ → Prop} {order : List κ} {first middle last : τ}

theorem mono (serially : Serially piece order first last)
    (implies : ∀ k ∈ order, ∀ u v, piece k u v → other k u v) :
    Serially other order first last := by
  induction order generalizing first with
  | nil => exact serially
  | cons k later ih =>
    obtain ⟨middle, here, rest⟩ := serially
    refine ⟨middle, implies k List.mem_cons_self _ _ here, ih rest fun j member => ?_⟩
    exact implies j (List.mem_cons_of_mem _ member)

theorem append (serially : Serially piece order first middle) {k : κ}
    (next : piece k middle last) : Serially piece (order ++ [k]) first last := by
  induction order generalizing first with
  | nil =>
    cases serially
    exact ⟨last, next, rfl⟩
  | cons j later ih =>
    obtain ⟨there, here, rest⟩ := serially
    exact ⟨there, here, ih rest⟩

end Serially

/-! ### Calls -/

/-- A call of a thread, with the job and what is left of it. -/
structure Call (ι E : Type) (R : E → Type) (X J : Type) (Out : J → Type) where
  thread : ι
  left : Σ job : J, Program E R X (Out job)
  /-- The calls that had ended when this one was made. -/
  behind : List Nat

def Call.ended (call : Call ι E R X J Out) : Bool :=
  match call.left with
  | ⟨_, .act _ _⟩ => false
  | _ => true

/-- The calls that have ended. -/
def endedCalls (calls : List (Call ι E R X J Out)) : List Nat :=
  (List.range calls.length).filter fun k => calls[k]?.any Call.ended

theorem mem_endedCalls {calls : List (Call ι E R X J Out)} {k : Nat}
    (member : k ∈ endedCalls calls) : ∃ call, calls[k]? = some call ∧ call.ended = true := by
  obtain ⟨-, ended⟩ := List.mem_filter.mp member
  cases found : calls[k]? with
  | none => simp [found] at ended
  | some call => exact ⟨call, rfl, by simpa [found] using ended⟩

/-- An interleaving with its calls, in the order in which they were made, and the last call of
each thread. -/
inductive Concurrent.Recorded [DecidableEq ι] (system : Concurrent ι E R X J Out σ)
    (init : Config ι E R X Out σ) :
    List (Call ι E R X J Out) → (ι → Option Nat) → Config ι E R X Out σ → Prop where
  | init : Recorded system init [] (fun _ => none) init
  | start {calls : List (Call ι E R X J Out)} {last : ι → Option Nat} {c : Config ι E R X Out σ}
      {i : ι} {job : J} {after : σ} (recorded : Recorded system init calls last c)
      (idle : (c.threads i).Idle) (starts : system.starts i job c.shared after) :
      Recorded system init (calls ++ [⟨i, ⟨job, system.program job⟩, endedCalls calls⟩])
        (Function.update last i (some calls.length))
        ⟨after, Function.update c.threads i (some ⟨job, system.program job⟩)⟩
  | act {calls : List (Call ι E R X J Out)} {last : ι → Option Nat} {c : Config ι E R X Out σ}
      {i : ι} {job : J} {effect : E} {rest : R effect → Program E R X (Out job)}
      {reply : R effect} {after : σ} {k : Nat} {behind : List Nat}
      (recorded : Recorded system init calls last c) (own : last i = some k)
      (found : calls[k]? = some ⟨i, ⟨job, .act effect rest⟩, behind⟩)
      (runs : c.threads i = some ⟨job, .act effect rest⟩)
      (step : system.step i effect c.shared reply after) :
      Recorded system init (calls.set k ⟨i, ⟨job, rest reply⟩, behind⟩) last
        ⟨after, Function.update c.threads i (some ⟨job, rest reply⟩)⟩

/-- An order in which calls have run one after the other: all that have ended, each alone and with
the result that it has, and none before one that had ended when it was made. -/
structure Linearized (program : (job : J) → Program E R X (Out job))
    (serial : (effect : E) → τ → R effect → τ → Prop) (calls : List (Call ι E R X J Out))
    (first last : τ) (order : List Nat) : Prop where
  nodup : order.Nodup
  ended : ∀ (k : Nat) call, calls[k]? = some call → call.ended = true → k ∈ order
  respects : order.Pairwise fun j k => ∀ call, calls[j]? = some call → k ∉ call.behind
  chain : Serially (fun k first last => ∃ call, calls[k]? = some call ∧
    (program call.left.1).Leads serial first call.left.2 last) order first last

/-! ### Effects before, at and after the one on the shared state -/

inductive Mover where
  /-- It changes nothing that is shared, and comes before the effect that does. -/
  | early
  /-- It changes nothing that is shared. -/
  | free
  /-- The effect on the shared state. -/
  | commits
  /-- It reads what the effect on the shared state has left to the thread. -/
  | own
  deriving DecidableEq

namespace Mover

/-- The effect on the shared state has been performed. -/
def after : Mover → Bool → Bool
  | commits, _ => true
  | early, committed | free, committed | own, committed => committed

def allowed : Mover → Bool → Prop
  | early, committed | commits, committed => committed = false
  | own, committed => committed = true
  | free, _ => True

end Mover

/-- A program that acts on the shared state once, or has done so. -/
def Program.Single (mover : E → Mover) (committed : Bool) (program : Program E R X α) : Prop :=
  program.Safe (fun effect a _ b => b = (mover effect).after a) (· = ·)
    (fun effect a => (mover effect).allowed a) (fun _ _ => True) committed

namespace Program.Single

variable {β : Type} {mover : E → Mover} {committed : Bool}

theorem act_iff {effect : E} {rest : R effect → Program E R X α} :
    (Program.act effect rest).Single mover committed ↔
      (mover effect).allowed committed ∧
        ∀ reply, (rest reply).Single mover ((mover effect).after committed) := by
  constructor
  · intro single
    obtain ⟨allowed, continues⟩ := single committed rfl
    exact ⟨allowed, fun reply => continues reply _ rfl⟩
  · rintro ⟨allowed, continues⟩ before rfl
    refine ⟨allowed, ?_⟩
    rintro reply after rfl
    exact continues reply

/-- What comes next has to be right before and behind the effect on the shared state. -/
theorem bind {program : Program E R X α} {next : α → Program E R X β}
    (first : program.Single mover committed)
    (continues : ∀ value after, (next value).Single mover after) :
    (program.bind next).Single mover committed := by
  refine (Safe.bind_iff ..).mpr (first.mono fun result after _ => ?_)
  cases result with
  | ok value => exact continues value after
  | error exn => trivial

theorem attempt {program : Program E R X α} (single : program.Single mover committed) :
    program.attempt.Single mover committed :=
  (Safe.attempt_iff ..).mpr single

theorem tryCatch {program : Program E R X α} {handler : X → Program E R X α}
    (single : program.Single mover committed)
    (handles : ∀ exn after, (handler exn).Single mover after) :
    (program.tryCatch handler).Single mover committed := by
  refine (Safe.tryCatch_iff ..).mpr (single.mono fun result after _ => ?_)
  cases result with
  | ok value => trivial
  | error exn => exact handles exn after

/-- Effects that may stand here, and after which the same may stand here. -/
theorem bind_of_performs {allowed : E → Prop} {program : Program E R X α}
    {next : α → Program E R X β} (performs : program.Performs allowed)
    (stays : ∀ effect, allowed effect →
      (mover effect).allowed committed ∧ (mover effect).after committed = committed)
    (continues : ∀ value, (next value).Single mover committed) :
    (program.bind next).Single mover committed := by
  induction program with
  | ret value => exact continues value
  | raise exn => trivial
  | act effect rest ih =>
    obtain ⟨permitted, later⟩ := (uses_act ..).mp performs
    obtain ⟨here, same⟩ := stays effect permitted
    refine act_iff.mpr ⟨here, fun reply => ?_⟩
    rw [same]
    exact ih reply (later reply)

theorem of_performs {allowed : E → Prop} {program : Program E R X α}
    (performs : program.Performs allowed)
    (stays : ∀ effect, allowed effect →
      (mover effect).allowed committed ∧ (mover effect).after committed = committed) :
    program.Single mover committed := by
  rw [← bind_ret program]
  exact bind_of_performs performs stays fun _ => trivial

end Program.Single

/-- What the effects do, if a thread owes what it owes: `view` is the shared state, and a thread
`sees` in a state all that it may still read of its own. -/
structure Reduction (system : Concurrent ι E R X J Out σ) (view : σ → τ)
    (serial : (effect : E) → τ → R effect → τ → Prop) (mover : E → Mover)
    (sees : ι → σ → τ → Prop) (owes : ι → E → σ → Prop) : Prop where
  refl : ∀ i a, sees i a (view a)
  starts : ∀ i job a b, system.starts i job a b →
    view b = view a ∧ ∀ j t, sees j a t → sees j b t
  others : ∀ i effect a reply b, owes i effect a → system.step i effect a reply b →
    ∀ j, j ≠ i → ∀ t, sees j a t → sees j b t
  early : ∀ i effect a reply b, mover effect = .early → owes i effect a →
    system.step i effect a reply b → view b = view a ∧ ∀ t, serial effect t reply t
  free : ∀ i effect a reply b, mover effect = .free → owes i effect a →
    system.step i effect a reply b → view b = view a ∧
      ∀ t, serial effect t reply t ∧ (sees i a t → sees i b t)
  commits : ∀ i effect a reply b, mover effect = .commits → owes i effect a →
    system.step i effect a reply b → serial effect (view a) reply (view b)
  own : ∀ i effect a reply b, mover effect = .own → owes i effect a →
    system.step i effect a reply b → view b = view a ∧
      ∀ t, sees i a t → serial effect t reply t ∧ sees i b t

section Invariant

variable (system : Concurrent ι E R X J Out σ) (view : σ → τ)
  (serial : (effect : E) → τ → R effect → τ → Prop) (mover : E → Mover) (sees : ι → σ → τ → Prop)

/-- A call in the order, and what its thread may still read behind it. -/
def Piece (calls : List (Call ι E R X J Out)) (shared : σ) (k : Nat) (first last : τ) : Prop :=
  ∃ call, calls[k]? = some call ∧
    (system.program call.left.1).Leads serial first call.left.2 last ∧
      (call.ended = false → sees call.thread shared last)

/-- Holds along a recorded run. `late` is a call that may have ended and not be in the order. -/
structure Linearizing (first : τ) (late : Option Nat) (calls : List (Call ι E R X J Out))
    (last : ι → Option Nat) (c : Config ι E R X Out σ) (order : List Nat) : Prop where
  nodup : order.Nodup
  made : ∀ k ∈ order, k < calls.length
  ended : ∀ (k : Nat) call, calls[k]? = some call → call.ended = true →
    k ∈ order ∨ late = some k
  behind : ∀ (k : Nat) call, calls[k]? = some call → ∀ j ∈ call.behind, j ∈ order
  respects : order.Pairwise fun j k => ∀ call, calls[j]? = some call → k ∉ call.behind
  chain : Serially (Piece system serial sees calls c.shared) order first (view c.shared)
  before : ∀ (k : Nat) call, calls[k]? = some call → k ∉ order →
    call.left.2.Single mover false ∧ ∀ t, (system.program call.left.1).Leads serial t call.left.2 t
  after : ∀ (k : Nat) call, calls[k]? = some call → k ∈ order → call.left.2.Single mover true
  current : ∀ i k, last i = some k → ∃ call, calls[k]? = some call ∧ call.thread = i ∧
    c.threads i = some call.left
  active : ∀ (k : Nat) call, calls[k]? = some call → call.ended = false →
    last call.thread = some k

end Invariant

section Steps

variable {system : Concurrent ι E R X J Out σ} {view : σ → τ}
  {serial : (effect : E) → τ → R effect → τ → Prop} {mover : E → Mover}
  {sees : ι → σ → τ → Prop} {first : τ} {calls : List (Call ι E R X J Out)}
  {last : ι → Option Nat} {c : Config ι E R X Out σ} {order : List Nat}

/-- What has ended needs nothing more. -/
theorem single_of_ended {call : Call ι E R X J Out} (ended : call.ended = true)
    (committed : Bool) : call.left.2.Single mover committed := by
  obtain ⟨thread, ⟨job, program⟩, behind⟩ := call
  cases program with
  | ret value => trivial
  | raise exn => trivial
  | act effect rest => cases ended

/-- A call that is placed last was not behind any other one. -/
theorem respects_append {k : Nat}
    (behind : ∀ (j : Nat) call, calls[j]? = some call → ∀ k ∈ call.behind, k ∈ order)
    (respects : order.Pairwise fun j k => ∀ call, calls[j]? = some call → k ∉ call.behind)
    (new : k ∉ order) :
    (order ++ [k]).Pairwise fun j k => ∀ call, calls[j]? = some call → k ∉ call.behind := by
  refine List.pairwise_append.mpr ⟨respects, List.pairwise_singleton .., ?_⟩
  intro j inside k' same call found ahead
  rw [List.mem_singleton.mp same] at ahead
  exact new (behind j call found k ahead)

theorem nodup_append {k : Nat} (nodup : order.Nodup) (new : k ∉ order) :
    (order ++ [k]).Nodup := by
  refine List.nodup_append.mpr ⟨nodup, by simp, fun j inside k' same equal => ?_⟩
  rw [equal, List.mem_singleton.mp same] at inside
  exact new inside

/-- A call that has ended takes its place in the order. -/
theorem Linearizing.settle {k : Nat}
    (now : Linearizing system view serial mover sees first (some k) calls last c order) :
    ∃ order, Linearizing system view serial mover sees first none calls last c order := by
  by_cases due : k ∉ order ∧ ∃ call, calls[k]? = some call ∧ call.ended = true
  · obtain ⟨new, call, found, ended⟩ := due
    -- It has not acted on the shared state, so it runs in the state that there is.
    have runs := (now.before k call found new).2 (view c.shared)
    refine ⟨order ++ [k], {
      nodup := nodup_append now.nodup new
      made := fun j inside => ?_
      ended := fun j other there done => ?_
      behind := fun j other there b ahead =>
        List.mem_append_left _ (now.behind j other there b ahead)
      respects := respects_append now.behind now.respects new
      chain := now.chain.append ⟨call, found, runs, by simp [ended]⟩
      before := fun j other there outside =>
        now.before j other there fun inside => outside (List.mem_append_left _ inside)
      after := fun j other there inside => ?_
      current := now.current
      active := now.active }⟩
    · rcases List.mem_append.mp inside with inside | same
      · exact now.made j inside
      · rw [List.mem_singleton.mp same]
        exact (List.getElem?_eq_some_iff.mp found).1
    · rcases now.ended j other there done with inside | late
      · exact .inl (List.mem_append_left _ inside)
      · cases late
        exact .inl (by simp)
    · rcases List.mem_append.mp inside with inside | same
      · exact now.after j other there inside
      · obtain rfl := List.mem_singleton.mp same
        rw [found] at there
        cases there
        exact single_of_ended ended true
  · refine ⟨order, { now with ended := fun j call found ended => ?_ }⟩
    rcases now.ended j call found ended with inside | late
    · exact .inl inside
    · cases late
      by_contra outside
      exact due ⟨fun inside => outside (.inl inside), call, found, ended⟩

section Moves

variable [DecidableEq ι] {owes : ι → E → σ → Prop}

theorem getElem?_set_eq_some {l : List α} {k j : Nat} {a b : α} (found : (l.set k a)[j]? = some b) :
    j = k ∧ b = a ∨ j ≠ k ∧ l[j]? = some b := by
  rw [List.getElem?_set] at found
  split at found
  next same =>
    split at found
    · cases found
      exact .inl ⟨same.symm, rfl⟩
    · cases found
  next other => exact .inr ⟨fun same => other same.symm, found⟩

/-- The effect of a call, in whatever order this leaves the calls. -/
theorem Linearizing.update {k : Nat} {i : ι} {job : J} {effect : E}
    {rest : R effect → Program E R X (Out job)} {reply : R effect} {after : σ} {behind : List Nat}
    {later : List Nat} {late : Option Nat}
    (now : Linearizing system view serial mover sees first none calls last c order)
    (own : last i = some k) (found : calls[k]? = some ⟨i, ⟨job, .act effect rest⟩, behind⟩)
    (keeps : ∀ j ∈ order, j ∈ later) (only : ∀ j ∈ later, j ∈ order ∨ j = k)
    (nodup : later.Nodup)
    (respects : later.Pairwise fun j k => ∀ call, calls[j]? = some call → k ∉ call.behind)
    (chain : Serially (Piece system serial sees (calls.set k ⟨i, ⟨job, rest reply⟩, behind⟩) after)
      later first (view after))
    (before : k ∉ later → (rest reply).Single mover false ∧
      ∀ t, (system.program job).Leads serial t (rest reply) t)
    (single : k ∈ later → (rest reply).Single mover true) (placed : k ∈ later ∨ late = some k) :
    Linearizing system view serial mover sees first late
      (calls.set k ⟨i, ⟨job, rest reply⟩, behind⟩) last
      ⟨after, Function.update c.threads i (some ⟨job, rest reply⟩)⟩ later where
  nodup := nodup
  made j inside := by
    rw [List.length_set]
    rcases only j inside with inside | rfl
    · exact now.made j inside
    · exact (List.getElem?_eq_some_iff.mp found).1
  ended j call there ended := by
    rcases getElem?_set_eq_some there with ⟨rfl, -⟩ | ⟨-, there⟩
    · exact placed
    · rcases now.ended j call there ended with inside | impossible
      · exact .inl (keeps j inside)
      · cases impossible
  behind j call there b ahead := by
    rcases getElem?_set_eq_some there with ⟨rfl, rfl⟩ | ⟨-, there⟩
    · exact keeps b (now.behind j _ found b ahead)
    · exact keeps b (now.behind j call there b ahead)
  respects := by
    refine respects.imp fun {j b} apart call there => ?_
    rcases getElem?_set_eq_some there with ⟨rfl, rfl⟩ | ⟨-, there⟩
    · exact apart ⟨i, ⟨job, .act effect rest⟩, behind⟩ found
    · exact apart call there
  chain := chain
  before j call there outside := by
    rcases getElem?_set_eq_some there with ⟨rfl, rfl⟩ | ⟨-, there⟩
    · exact before outside
    · exact now.before j call there fun inside => outside (keeps j inside)
  after j call there inside := by
    rcases getElem?_set_eq_some there with ⟨rfl, rfl⟩ | ⟨other, there⟩
    · exact single inside
    · exact now.after j call there ((only j inside).resolve_right other)
  current j m made := by
    obtain ⟨call, there, thread, runs⟩ := now.current j m made
    by_cases same : m = k
    · subst same
      rw [found] at there
      cases there
      subst thread
      refine ⟨_, List.getElem?_set_self (List.getElem?_eq_some_iff.mp found).1, rfl, ?_⟩
      exact Function.update_self ..
    · have other : j ≠ i := by
        rintro rfl
        rw [own] at made
        cases made
        exact same rfl
      refine ⟨call, ?_, thread, ?_⟩
      · rw [List.getElem?_set_ne (fun equal => same equal.symm)]
        exact there
      · exact (Function.update_of_ne other ..).trans runs
  active j call there running := by
    rcases getElem?_set_eq_some there with ⟨rfl, rfl⟩ | ⟨-, there⟩
    · exact own
    · exact now.active j call there running

/-- An effect of a call. -/
theorem Linearizing.act (reduction : Reduction system view serial mover sees owes)
    {k : Nat} {i : ι} {job : J} {effect : E} {rest : R effect → Program E R X (Out job)}
    {reply : R effect} {after : σ} {behind : List Nat}
    (now : Linearizing system view serial mover sees first none calls last c order)
    (own : last i = some k) (found : calls[k]? = some ⟨i, ⟨job, .act effect rest⟩, behind⟩)
    (owed : owes i effect c.shared) (step : system.step i effect c.shared reply after) :
    ∃ order, Linearizing system view serial mover sees first none
      (calls.set k ⟨i, ⟨job, rest reply⟩, behind⟩) last
      ⟨after, Function.update c.threads i (some ⟨job, rest reply⟩)⟩ order := by
  -- The other calls and what their threads may read stay as they are.
  have pieces (j : Nat) (other : j ≠ k) (u v : τ)
      (piece : Piece system serial sees calls c.shared j u v) :
      Piece system serial sees (calls.set k ⟨i, ⟨job, rest reply⟩, behind⟩) after j u v := by
    obtain ⟨call, there, leads, reads⟩ := piece
    refine ⟨call, ?_, leads, fun running => ?_⟩
    · rw [List.getElem?_set_ne (fun equal => other equal.symm)]
      exact there
    · have different : call.thread ≠ i := by
        intro equal
        have last := now.active j call there running
        rw [equal, own] at last
        cases last
        exact other rfl
      exact reduction.others _ effect _ reply after owed step _ different v (reads running)
  have placed : (calls.set k ⟨i, ⟨job, rest reply⟩, behind⟩)[k]? =
      some ⟨i, ⟨job, rest reply⟩, behind⟩ :=
    List.getElem?_set_self (List.getElem?_eq_some_iff.mp found).1
  by_cases member : k ∈ order
  · -- It has acted on the shared state, and goes on from where its piece ends.
    obtain ⟨allowed, continues⟩ := Program.Single.act_iff.mp (now.after k _ found member)
    have moves : view after = view c.shared ∧ ∀ t, sees i c.shared t →
        serial effect t reply t ∧ sees i after t := by
      cases kind : mover effect with
      | early | commits =>
        rw [kind] at allowed
        cases allowed
      | free =>
        obtain ⟨same, answered⟩ := reduction.free _ effect _ reply after kind owed step
        exact ⟨same, fun t reads => ⟨(answered t).1, (answered t).2 reads⟩⟩
      | own => exact reduction.own _ effect _ reply after kind owed step
    have still : (mover effect).after true = true := by cases mover effect <;> rfl
    refine ⟨order, now.update own found (fun _ inside => inside) (fun _ inside => .inl inside)
      now.nodup now.respects ?_ (absurd member) (fun _ => ?_) (.inl member)⟩
    · rw [moves.1]
      refine now.chain.mono fun j inside u v piece => ?_
      by_cases same : j = k
      · subst same
        obtain ⟨call, there, leads, reads⟩ := piece
        rw [found] at there
        cases there
        obtain ⟨answered, later⟩ := moves.2 v (reads rfl)
        exact ⟨_, placed, leads.act answered, fun _ => later⟩
      · exact pieces j same u v piece
    · have single := continues reply
      rwa [still] at single
  · obtain ⟨single, leads⟩ := now.before k _ found member
    obtain ⟨allowed, continues⟩ := Program.Single.act_iff.mp single
    have others : ∀ j ∈ order, ∀ u v, Piece system serial sees calls c.shared j u v →
        Piece system serial sees (calls.set k ⟨i, ⟨job, rest reply⟩, behind⟩) after j u v := by
      intro j inside
      refine pieces j ?_
      rintro rfl
      exact member inside
    -- It has not acted on the shared state before, and does so now or does not.
    have waits (kind : (mover effect).after false = false) (same : view after = view c.shared)
        (answered : ∀ t, serial effect t reply t) :
        ∃ order, Linearizing system view serial mover sees first none
          (calls.set k ⟨i, ⟨job, rest reply⟩, behind⟩) last
          ⟨after, Function.update c.threads i (some ⟨job, rest reply⟩)⟩ order := by
      refine Linearizing.settle (now.update own found (fun _ inside => inside)
        (fun _ inside => .inl inside) now.nodup now.respects ?_ (fun _ => ⟨?_, fun t => ?_⟩)
        (fun inside => absurd inside member) (.inr rfl))
      · rw [same]
        exact now.chain.mono others
      · have single := continues reply
        rwa [kind] at single
      · exact (leads t).act (answered t)
    cases kind : mover effect with
    | own =>
      rw [kind] at allowed
      cases allowed
    | early =>
      obtain ⟨same, answered⟩ := reduction.early _ effect _ reply after kind owed step
      exact waits (by rw [kind]; rfl) same answered
    | free =>
      obtain ⟨same, answered⟩ := reduction.free _ effect _ reply after kind owed step
      exact waits (by rw [kind]; rfl) same fun t => (answered t).1
    | commits =>
      have acted := reduction.commits _ effect _ reply after kind owed step
      refine ⟨order ++ [k], now.update own found (fun _ inside => List.mem_append_left _ inside)
        (fun _ inside => by simpa using inside) (nodup_append now.nodup member)
        (respects_append now.behind now.respects member) ?_ (fun outside => ?_) (fun _ => ?_)
        (.inl (by simp))⟩
      · exact (now.chain.mono others).append
          ⟨_, placed, (leads _).act acted, fun _ => reduction.refl _ _⟩
      · exact absurd (by simp) outside
      · have single := continues reply
        rwa [kind] at single

theorem getElem?_append_eq_some {l : List α} {k : Nat} {a b : α}
    (found : (l ++ [a])[k]? = some b) : l[k]? = some b ∨ k = l.length ∧ b = a := by
  rcases Nat.lt_trichotomy k l.length with below | rfl | above
  · rw [List.getElem?_append_left below] at found
    exact .inl found
  · rw [List.getElem?_concat_length] at found
    cases found
    exact .inr ⟨rfl, rfl⟩
  · rw [List.getElem?_eq_none (by simp; omega)] at found
    cases found

/-- A new call. -/
theorem Linearizing.start (reduction : Reduction system view serial mover sees owes)
    {i : ι} {job : J} {after : σ}
    (now : Linearizing system view serial mover sees first none calls last c order)
    (idle : (c.threads i).Idle) (starts : system.starts i job c.shared after)
    (single : (system.program job).Single mover false) :
    ∃ order, Linearizing system view serial mover sees first none
      (calls ++ [⟨i, ⟨job, system.program job⟩, endedCalls calls⟩])
      (Function.update last i (some calls.length))
      ⟨after, Function.update c.threads i (some ⟨job, system.program job⟩)⟩ order := by
  obtain ⟨same, kept⟩ := reduction.starts i job _ after starts
  have there {k : Nat} {call new : Call ι E R X J Out} (found : calls[k]? = some call) :
      (calls ++ [new])[k]? = some call := by
    rw [List.getElem?_append_left (List.getElem?_eq_some_iff.mp found).1]
    exact found
  have new_not_mem : calls.length ∉ order := fun inside => Nat.lt_irrefl _ (now.made _ inside)
  have all (k : Nat) (member : k ∈ endedCalls calls) : k ∈ order := by
    obtain ⟨call, found, ended⟩ := mem_endedCalls member
    exact (now.ended k call found ended).resolve_right (by simp)
  suffices late : Linearizing system view serial mover sees first (some calls.length)
      (calls ++ [⟨i, ⟨job, system.program job⟩, endedCalls calls⟩])
      (Function.update last i (some calls.length))
      ⟨after, Function.update c.threads i (some ⟨job, system.program job⟩)⟩ order from late.settle
  refine {
    nodup := now.nodup
    made := fun k inside => ?_
    ended := fun k call found ended => ?_
    behind := fun k call found j ahead => ?_
    respects := now.respects.imp_of_mem fun {j k} inside _ apart call found => ?_
    chain := ?_
    before := fun k call found outside => ?_
    after := fun k call found inside => ?_
    current := fun j k made => ?_
    active := fun k call found running => ?_ }
  · have bound := now.made k inside
    rw [List.length_append]
    exact Nat.lt_of_lt_of_le bound (Nat.le_add_right ..)
  · rcases getElem?_append_eq_some found with found | ⟨rfl, -⟩
    · exact .inl ((now.ended k call found ended).resolve_right (by simp))
    · exact .inr rfl
  · rcases getElem?_append_eq_some found with found | ⟨rfl, rfl⟩
    · exact now.behind k call found j ahead
    · exact all j ahead
  · rcases getElem?_append_eq_some found with found | ⟨rfl, -⟩
    · exact apart call found
    · exact absurd inside new_not_mem
  · rw [same]
    refine now.chain.mono fun k _ u v piece => ?_
    obtain ⟨call, found, leads, reads⟩ := piece
    exact ⟨call, there found, leads, fun running => kept _ v (reads running)⟩
  · rcases getElem?_append_eq_some found with found | ⟨rfl, rfl⟩
    · exact now.before k call found outside
    · exact ⟨single, fun t => .here⟩
  · rcases getElem?_append_eq_some found with found | ⟨rfl, -⟩
    · exact now.after k call found inside
    · exact absurd inside new_not_mem
  · by_cases own : j = i
    · subst own
      rw [Function.update_self] at made
      cases made
      exact ⟨_, List.getElem?_concat_length, rfl, Function.update_self ..⟩
    · rw [Function.update_of_ne own] at made
      obtain ⟨call, found, thread, runs⟩ := now.current j k made
      exact ⟨call, there found, thread, (Function.update_of_ne own ..).trans runs⟩
  · rcases getElem?_append_eq_some found with found | ⟨rfl, rfl⟩
    · have last := now.active k call found running
      have other : call.thread ≠ i := by
        -- The last call of the thread has ended.
        intro own
        rw [own] at last
        obtain ⟨again, found', -, runs⟩ := now.current i k last
        rw [found] at found'
        cases found'
        rw [runs] at idle
        obtain ⟨thread, ⟨job, program⟩, behind⟩ := call
        cases program with
        | ret value | raise exn => cases running
        | act effect rest => exact idle.elim
      exact (Function.update_of_ne other ..).trans last
    · exact Function.update_self ..

variable {init : Config ι E R X Out σ}

theorem Concurrent.Recorded.reachable (recorded : system.Recorded init calls last c) :
    system.Reachable init c := by
  induction recorded with
  | init => exact .init
  | start recorded idle starts ih => exact ih.start _ _ idle starts
  | act recorded own found runs step ih => exact ih.act _ runs step

/-- Every interleaving of jobs that act on the shared state once is linearized. -/
theorem Concurrent.Recorded.linearized (reduction : Reduction system view serial mover sees owes)
    (owed : ∀ c, system.Reachable init c → ∀ i job effect rest,
      c.threads i = some ⟨job, .act effect rest⟩ → owes i effect c.shared)
    (recorded : system.Recorded init calls last c)
    (single : ∀ call ∈ calls, (system.program call.left.1).Single mover false) :
    ∃ order, Linearized system.program serial calls (view init.shared) (view c.shared) order := by
  suffices now : ∃ order,
      Linearizing system view serial mover sees (view init.shared) none calls last c order by
    obtain ⟨order, now⟩ := now
    refine ⟨order, now.nodup, fun k call found ended => ?_, now.respects, ?_⟩
    · exact (now.ended k call found ended).resolve_right (by simp)
    · refine now.chain.mono fun k _ u v piece => ?_
      obtain ⟨call, found, leads, -⟩ := piece
      exact ⟨call, found, leads⟩
  induction recorded with
  | init => exact ⟨[], by constructor <;> simp [Serially]⟩
  | start recorded idle starts ih =>
    obtain ⟨order, now⟩ := ih fun call member => single call (List.mem_append_left _ member)
    exact now.start reduction idle starts (single _ (List.mem_append_right _ List.mem_cons_self))
  | @act calls last c i job effect rest reply after k behind recorded own found runs step ih =>
    obtain ⟨order, now⟩ := ih fun call member => by
      obtain ⟨j, there⟩ := List.mem_iff_getElem?.mp member
      by_cases same : j = k
      · subst same
        rw [found] at there
        cases there
        exact single ⟨i, ⟨job, rest reply⟩, behind⟩
          (List.mem_set (List.getElem?_eq_some_iff.mp found).1 _)
      · refine single call (List.mem_iff_getElem?.mpr ⟨j, ?_⟩)
        rw [List.getElem?_set_ne (fun equal => same equal.symm)]
        exact there
    exact now.act reduction own found (owed c recorded.reachable i job effect rest runs) step

/-- Every interleaving has such a record. -/
theorem Concurrent.Reachable.recorded (fresh : ∀ i, init.threads i = none)
    (reach : system.Reachable init c) : ∃ calls last, system.Recorded init calls last c := by
  suffices known : ∃ calls last, system.Recorded init calls last c ∧
      ∀ i left, c.threads i = some left → ∃ k behind, last i = some k ∧
        calls[k]? = some ⟨i, left, behind⟩ by
    obtain ⟨calls, last, recorded, -⟩ := known
    exact ⟨calls, last, recorded⟩
  induction reach with
  | init => exact ⟨[], _, .init, fun i left there => by simp [fresh] at there⟩
  | move reach move ih =>
    obtain ⟨calls, last, recorded, known⟩ := ih
    cases move with
    | @start i job after idle starts =>
      refine ⟨_, _, recorded.start idle starts, fun j left there => ?_⟩
      dsimp only at there
      by_cases own : j = i
      · subst own
        rw [Function.update_self] at there
        cases there
        exact ⟨calls.length, _, Function.update_self .., List.getElem?_concat_length⟩
      · rw [Function.update_of_ne own] at there
        obtain ⟨k, behind, made, found⟩ := known j left there
        refine ⟨k, behind, (Function.update_of_ne own ..).trans made, ?_⟩
        rw [List.getElem?_append_left (List.getElem?_eq_some_iff.mp found).1]
        exact found
    | @act i job effect rest reply after runs step =>
      obtain ⟨k, behind, made, found⟩ := known i _ runs
      refine ⟨_, _, recorded.act made found runs step, fun j left there => ?_⟩
      dsimp only at there
      by_cases own : j = i
      · subst own
        rw [Function.update_self] at there
        cases there
        exact ⟨k, behind, made, List.getElem?_set_self (List.getElem?_eq_some_iff.mp found).1⟩
      · rw [Function.update_of_ne own] at there
        obtain ⟨m, ahead, other, at_⟩ := known j left there
        refine ⟨m, ahead, other, ?_⟩
        rw [List.getElem?_set_ne]
        · exact at_
        -- A call belongs to one thread.
        · rintro rfl
          rw [found] at at_
          cases at_
          exact own rfl

end Moves

end Steps

end Resumption
