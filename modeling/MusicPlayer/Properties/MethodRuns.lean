import MusicPlayer.Database.Operations

/-!
# Methods in a given environment, call by call

Where `DataAccess` says what can come of a method, this module says what does come of it. The
environment decides the connection that the pool hands out and which connector calls throw, so
the result of a method is a function of both. The calls of a body are numbered from the end of
`getConnection` on; a call that throws ends the body.
-/
namespace MusicPlayer

open Resumption Program

namespace Env

/-- Where `revalidate` ends that starts as the `n`-th effect. -/
def revalidated (env : Env) (n : Nat) : Nat :=
  if env.throws n || env.valid n then n + 1
  else if env.throws (n + 1) then n + 2
  else n + 3

/-- What `getConnection` returns that starts as the `n`-th effect, and the number of the first
call under the guard. -/
def acquired (env : Env) (n : Nat) : Option Conn × Nat :=
  match env.connection n with
  | some k => (some k, env.revalidated (n + 1) + 1)
  | none =>
    match env.connection (n + 1) with
    | some k => (some k, env.revalidated (n + 2) + 1)
    | none => (none, n + 3)

/-- A number of calls in a row do not throw. -/
def QuietFrom (env : Env) (n calls : Nat) : Prop := ∀ j < calls, env.throws (n + j) = false

instance (env : Env) (n calls : Nat) : Decidable (env.QuietFrom n calls) :=
  inferInstanceAs (Decidable (∀ j < calls, env.throws (n + j) = false))

theorem quietFrom_zero (env : Env) (n : Nat) : env.QuietFrom n 0 := by
  intro j few
  cases few

theorem quietFrom_succ {env : Env} {n calls : Nat} :
    env.QuietFrom n (calls + 1) ↔ env.throws n = false ∧ env.QuietFrom (n + 1) calls := by
  constructor
  · intro quiet
    refine ⟨quiet 0 (Nat.succ_pos calls), fun j few => ?_⟩
    have next := quiet (j + 1) (Nat.succ_lt_succ few)
    rw [← next]
    congr 1
    omega
  · rintro ⟨first, rest⟩ j few
    cases j with
    | zero => exact first
    | succ j =>
      have next := rest j (Nat.lt_of_succ_lt_succ few)
      rw [← next]
      congr 1
      omega

theorem quietFrom_add {env : Env} {n first later : Nat} :
    env.QuietFrom n (first + later) ↔ env.QuietFrom n first ∧ env.QuietFrom (n + first) later := by
  induction first generalizing n with
  | zero =>
    rw [Nat.zero_add, Nat.add_zero]
    exact ⟨fun quiet => ⟨env.quietFrom_zero n, quiet⟩, fun both => both.2⟩
  | succ first ih =>
    have count : first + 1 + later = first + later + 1 := by omega
    have start : n + 1 + first = n + (first + 1) := by omega
    rw [count, quietFrom_succ, ih, quietFrom_succ, start, and_assoc]

/-- The context of a statement that is the `n`-th effect. -/
def context (env : Env) (sys : System) (k : Conn) (n : Nat) : SqlContext :=
  ⟨sys.collate, k, env.dbNow, env.rank n⟩

end Env

/-- A run as it leaves the `catch` clause of a method. -/
def catchSql {α : Type} (failure : α) : Except Exn α × World → Except Exn α × World
  | (.error .sqlException, w) => (.ok failure, w)
  | outcome => outcome

section Runs

variable {sys : System} {env : Env} {w : World} {α β : Type} {k : Conn} {n : Nat}

theorem run_revalidate (after : Unit → Prog α) :
    ((DBManager.revalidate (some k)).bind after).run (exec sys env) n w =
      (after ()).run (exec sys env) (env.revalidated n) w := by
  have throwing (m : Nat) : exec sys env m (.connector (some k) .isValid) w =
      if env.throws m then (.error .sqlException, w) else (.ok (env.valid m), w) := rfl
  have reconnecting (m : Nat) : exec sys env m (.connector (some k) .reconnect) w =
      if env.throws m then (.error .sqlException, w) else (.ok (), w) := rfl
  have choosing (m : Nat) : exec sys env m (.connector (some k) .setSchema) w =
      if env.throws m then (.error .sqlException, w) else (.ok (), w) := rfl
  simp only [DBManager.revalidate, DBManager.call, trigger, bind_eq, act_bind, ret_bind,
    Program.tryCatch, run, Env.revalidated, throwing]
  -- Whatever throws is caught, and the connection is handed out all the same.
  cases first : env.throws n with
  | true => simp [Program.ofExcept, Program.tryCatch]
  | false =>
    cases valid : env.valid n with
    | true => simp [Program.ofExcept, Program.tryCatch]
    | false =>
      cases second : env.throws (n + 1) with
      | true => simp [Program.ofExcept, Program.tryCatch, run, reconnecting, second]
      | false =>
        cases third : env.throws (n + 2) <;>
          simp [Program.ofExcept, Program.tryCatch, run, reconnecting, choosing, second, third]

/-- `getConnection` changes nothing. -/
theorem run_getConnection (next : Option Conn → Prog α) :
    (DBManager.getConnection.bind fun conn =>
      (trigger (.constructGuard conn)).bind fun _ => next conn).run (exec sys env) n w =
      (next (env.acquired n).1).run (exec sys env) (env.acquired n).2 w := by
  have locking : exec sys env n .lockPool w = (env.connection n, w) := rfl
  have waiting : exec sys env (n + 1) .waitFor w = (env.connection (n + 1), w) := rfl
  simp only [DBManager.getConnection, DBManager.popConnection, trigger, bind_eq, act_bind,
    ret_bind, run, locking, Env.acquired]
  -- A connection at once, one after the wait, or a null pointer.
  cases first : env.connection n with
  | some k =>
    simp only [pure_eq, ret_bind, bind_assoc, run_revalidate]
    rfl
  | none =>
    simp only [act_bind, ret_bind, run, waiting]
    cases second : env.connection (n + 1) with
    | some k =>
      simp only [pure_eq, ret_bind, bind_assoc, run_revalidate]
      rfl
    | none => rfl

/-- A method does what its body does with the connection that it gets, up to the `catch`. -/
theorem run_daoMethod (failure : α) (body : SqlConnGuard → Prog α) (n : Nat) (w : World) :
    (daoMethod failure body).run (exec sys env) n w =
      catchSql failure
        ((body ⟨(env.acquired n).1⟩).run (exec sys env) (env.acquired n).2 w) := by
  -- The scope runs the body, and giving the connection back changes nothing.
  have scope : (SqlConnGuard.scope body).run (exec sys env) n w =
      (body ⟨(env.acquired n).1⟩).run (exec sys env) (env.acquired n).2 w := by
    unfold SqlConnGuard.scope
    refine (run_getConnection fun conn => (body ⟨conn⟩).attempt.bind fun result =>
      (SqlConnGuard.destroy ⟨conn⟩).bind fun _ => .ofExcept result).trans ?_
    obtain ⟨later, attempted⟩ := run_bind (exec sys env) (body ⟨(env.acquired n).1⟩).attempt
      (env.acquired n).2 w
    rw [attempted, run_attempt]
    dsimp only
    generalize (body ⟨(env.acquired n).1⟩).run (exec sys env) (env.acquired n).2 w = outcome
    obtain ⟨result, after⟩ := outcome
    cases (env.acquired n).1 with
    | none => cases result <;> rfl
    | some k => cases result <;> rfl
  obtain ⟨later, handled⟩ := run_tryCatch (exec sys env) (SqlConnGuard.scope body) n w
  rw [daoMethod, handled, scope]
  generalize (body ⟨(env.acquired n).1⟩).run (exec sys env) (env.acquired n).2 w = outcome
  obtain ⟨result, after⟩ := outcome
  cases result with
  | ok value => rfl
  | error exn => cases exn <;> rfl

/-- The first call through a null connection is undefined behaviour. -/
theorem run_call_null (c : ConnectorCall) (next : c.Reply → Prog α) (n : Nat) (w : World) :
    (((⟨none⟩ : SqlConnGuard).call c).bind next).run (exec sys env) n w =
      (.error .nullDeref, w) := rfl

/-- A method without a connection ends at its first call. -/
theorem run_daoMethod_null {failure : α} {body : SqlConnGuard → Prog α} {c : ConnectorCall}
    {next : c.Reply → Prog α} (unconnected : (env.acquired n).1 = none)
    (first : body ⟨none⟩ = ((⟨none⟩ : SqlConnGuard).call c).bind next) :
    (daoMethod failure body).run (exec sys env) n w = (.error .nullDeref, w) := by
  rw [run_daoMethod, unconnected, first, run_call_null]
  rfl

/-- A call that executes no statement. -/
theorem run_call {c : ConnectorCall} (plain : c.isPlain = true) {next : c.Reply → Prog α}
    {rest : Prog α} (same : ∀ reply, next reply = rest) :
    (((⟨some k⟩ : SqlConnGuard).call c).bind next).run (exec sys env) n w =
      if env.throws n then (.error .sqlException, w) else rest.run (exec sys env) (n + 1) w := by
  have ran : (((⟨some k⟩ : SqlConnGuard).call c).bind next).run (exec sys env) n w =
      ((Program.ofExcept (exec sys env n (.connector (some k) c) w).1).bind next).run (exec sys env)
        (n + 1) (exec sys env n (.connector (some k) c) w).2 := rfl
  rw [ran]
  simp only [exec]
  split
  · rfl
  · obtain ⟨reply, performed⟩ : ∃ reply, execCall sys env n k c w = (.ok reply, w) := by
      cases c with
      | isValid | execute => cases plain
      | _ => exact ⟨(), rfl⟩
    rw [performed, ← same reply]
    rfl

theorem run_execute (s : Statement) (next : s.Reply → Prog α) :
    (((⟨some k⟩ : SqlConnGuard).execute s).bind next).run (exec sys env) n w =
      if env.throws n then (.error .sqlException, w)
      else match s.exec (env.context sys k n) w.db with
        | some (reply, db) => (next reply).run (exec sys env) (n + 1) { w with db }
        | none => (.error .sqlException, w) := by
  have ran : (((⟨some k⟩ : SqlConnGuard).execute s).bind next).run (exec sys env) n w =
      ((Program.ofExcept (exec sys env n (.connector (some k) (.execute s)) w).1).bind next).run
        (exec sys env) (n + 1) (exec sys env n (.connector (some k) (.execute s)) w).2 := rfl
  rw [ran]
  simp only [exec]
  split
  · rfl
  · simp only [execCall, Env.context]
    cases s.exec ⟨sys.collate, k, env.dbNow, env.rank n⟩ w.db with
    | none => rfl
    | some outcome => rfl

end Runs

/-! ### Refused statements -/

/-- However a connection is used from here on, the program ends in an `SQLException` and
changes nothing. -/
def Throws {α : Type} (sys : System) (env : Env) (prog : Prog α) (w : World) : Prop :=
  ∀ n, prog.run (exec sys env) n w = (.error .sqlException, w)

section Throws

variable {sys : System} {env : Env} {k : Conn} {w : World} {α : Type}

theorem Throws.call {c : ConnectorCall} {next : c.Reply → Prog α} {rest : Prog α}
    (plain : c.isPlain = true) (same : ∀ reply, next reply = rest)
    (later : Throws sys env rest w) :
    Throws sys env (((⟨some k⟩ : SqlConnGuard).call c).bind next) w := by
  intro n
  rw [run_call plain same, later]
  split <;> rfl

theorem Throws.refused {s : Statement} {next : s.Reply → Prog α}
    (refused : ∀ ctx, s.exec ctx w.db = none) :
    Throws sys env (((⟨some k⟩ : SqlConnGuard).execute s).bind next) w := by
  intro n
  rw [run_execute, refused]
  split <;> rfl

theorem Throws.select {s : Statement} {reply : s.Reply} {next : s.Reply → Prog α}
    (reads : ∀ ctx, ctx.collate = sys.collate → s.exec ctx w.db = some (reply, w.db))
    (later : Throws sys env (next reply) w) :
    Throws sys env (((⟨some k⟩ : SqlConnGuard).execute s).bind next) w := by
  intro n
  rw [run_execute, reads (env.context sys k n) rfl]
  dsimp only
  rw [later]
  split <;> rfl

theorem Throws.bindNullable {index : Nat} {s : String} {next : Option String → Prog α}
    (later : ∀ bound, Throws sys env (next bound) w) :
    Throws sys env (((⟨some k⟩ : SqlConnGuard).bindNullable index s).bind next) w := by
  unfold SqlConnGuard.bindNullable
  split <;>
  · simp only [bind_eq, bind_assoc, pure_eq, ret_bind]
    exact Throws.call rfl (fun _ => rfl) (later _)

theorem Throws.method {failure : α} {body : SqlConnGuard → Prog α} {n : Nat}
    (connected : (env.acquired n).1 = some k) (throws : Throws sys env (body ⟨some k⟩) w) :
    (daoMethod failure body).run (exec sys env) n w = (.ok failure, w) := by
  rw [run_daoMethod, connected, throws]
  rfl

end Throws

/-! ### Reading methods -/

/-- One call for a column that is not NULL. -/
def columnCost {τ : Type} (column : Option τ) : Nat := if column.isSome then 1 else 0

/-- The program makes so many calls in a row, changes nothing and returns the value; a call that
throws is the end of it. -/
def Reads {α : Type} (sys : System) (env : Env) (prog : Prog α) (n : Nat) (w : World) (calls : Nat)
    (value : α) : Prop :=
  ∀ (β : Type) (next : α → Prog β), (prog.bind next).run (exec sys env) n w =
    if env.QuietFrom n calls then (next value).run (exec sys env) (n + calls) w
    else (.error .sqlException, w)

namespace Reads

variable {sys : System} {env : Env} {k : Conn} {α β ρ : Type} {n : Nat} {w : World} {calls : Nat}
  {value : α}

theorem of_calls {prog : Prog α} {more : Nat} (reads : Reads sys env prog n w calls value)
    (equal : calls = more) : Reads sys env prog n w more value :=
  equal ▸ reads

theorem ret (value : α) : Reads sys env (.ret value) n w 0 value := by
  intro β next
  rw [if_pos (env.quietFrom_zero n)]
  rfl

/-- The first call throws, or the rest decides. -/
theorem step {prog rest : Prog α}
    (first : ∀ (β : Type) (next : α → Prog β), (prog.bind next).run (exec sys env) n w =
      if env.throws n then (.error .sqlException, w)
      else (rest.bind next).run (exec sys env) (n + 1) w)
    (later : Reads sys env rest (n + 1) w calls value) :
    Reads sys env prog n w (calls + 1) value := by
  intro β next
  rw [first, later]
  cases thrown : env.throws n with
  | true => simp [Env.quietFrom_succ, thrown]
  | false => simp [Env.quietFrom_succ, thrown, Nat.add_assoc, Nat.add_comm 1 calls]

theorem call {c : ConnectorCall} {next : c.Reply → Prog α} {rest : Prog α}
    (plain : c.isPlain = true) (same : ∀ reply, next reply = rest)
    (later : Reads sys env rest (n + 1) w calls value) :
    Reads sys env (((⟨some k⟩ : SqlConnGuard).call c).bind next) n w (calls + 1) value := by
  refine step (fun β last => ?_) later
  rw [bind_assoc]
  exact run_call plain fun reply => by rw [same]

theorem select {s : Statement} {reply : s.Reply} {next : s.Reply → Prog α}
    (reads : s.exec (env.context sys k n) w.db = some (reply, w.db))
    (later : Reads sys env (next reply) (n + 1) w calls value) :
    Reads sys env (((⟨some k⟩ : SqlConnGuard).execute s).bind next) n w (calls + 1) value := by
  refine step (fun β last => ?_) later
  rw [bind_assoc, run_execute, reads]

theorem bind {prog : Prog β} {next : β → Prog α} {first : Nat} {middle : β}
    (before : Reads sys env prog n w first middle)
    (later : Reads sys env (next middle) (n + first) w calls value) :
    Reads sys env (prog.bind next) n w (first + calls) value := by
  intro γ last
  rw [bind_assoc, before, later, Nat.add_assoc]
  by_cases quiet : env.QuietFrom n first
  · simp [Env.quietFrom_add, quiet]
  · simp [Env.quietFrom_add, quiet]

/-- Reading a column only where it is not NULL. -/
theorem optional {τ : Type} {stored : Option τ} {column : String} {next : Unit → Prog α}
    (later : ∀ m, Reads sys env (next ()) m w calls value) :
    Reads sys env
      (if stored.isSome = true then
        ((⟨some k⟩ : SqlConnGuard).call (.getString column)).bind next else next ()) n w
      (columnCost stored + calls) value := by
  unfold columnCost
  split
  · rw [Nat.add_comm]
    exact call rfl (fun _ => rfl) (later _)
  · rw [Nat.zero_add]
    exact later n

/-- The loop over a result set: one call of `next` more than there are rows. -/
theorem fetch {build : ρ → Prog β} {cost : ρ → Nat} {item : ρ → β}
    (builds : ∀ row m, Reads sys env (build row) m w (cost row) (item row)) (rows : List ρ) :
    Reads sys env ((⟨some k⟩ : SqlConnGuard).fetch build rows) n w
      ((rows.map fun row => cost row + 1).sum + 1) (rows.map item) := by
  induction rows generalizing n with
  | nil => exact call rfl (fun _ => rfl) (ret _)
  | cons row rest ih =>
    have shape : ((row :: rest).map fun row => cost row + 1).sum + 1 =
        cost row + ((rest.map fun row => cost row + 1).sum + 1 + 0) + 1 := by
      simp only [List.map_cons, List.sum_cons]
      omega
    rw [shape]
    exact call rfl (fun _ => rfl) ((builds row _).bind (ih.bind (ret _)))

theorem readCount (count : Nat) :
    Reads sys env ((⟨some k⟩ : SqlConnGuard).readCount [count]) n w 2 (Int32.ofNat count) :=
  call rfl (fun _ => rfl) (call rfl (fun _ => rfl) (ret _))

/-- The program alone, without anything after it. -/
theorem run {prog : Prog α} (reads : Reads sys env prog n w calls value) :
    prog.run (exec sys env) n w =
      (if env.QuietFrom n calls then .ok value else .error .sqlException, w) := by
  have whole := reads α .ret
  rw [bind_ret] at whole
  rw [whole]
  split <;> rfl

/-- A reading method returns what it reads, or its failure value if a call throws. -/
theorem method {failure : α} {body : SqlConnGuard → Prog α}
    (connected : (env.acquired n).1 = some k)
    (reads : Reads sys env (body ⟨some k⟩) (env.acquired n).2 w calls value) :
    (daoMethod failure body).run (exec sys env) n w =
      (.ok (if env.QuietFrom (env.acquired n).2 calls then value else failure), w) := by
  rw [run_daoMethod, connected, reads.run]
  split <;> rfl

end Reads

/-! ### Methods with one statement that writes -/

/-- What the statement of a method comes to: its calls throw, the database refuses it, or it is
executed. -/
def issued {α : Type} {s : Statement} (failure : α) (finish : s.Reply → α) (quiet : Prop)
    [Decidable quiet] (outcome : Option (s.Reply × Db)) (w : World) : Except Exn α × World :=
  if quiet then
    match outcome with
    | some (reply, db) => (.ok (finish reply), { w with db })
    | none => (.ok failure, w)
  else (.ok failure, w)

/-- The program makes a number of calls, executes the statement and goes on with the reply. -/
def Proceeds {α : Type} (sys : System) (env : Env) (k : Conn) (prog : Prog α) (n : Nat) (w : World)
    (calls : Nat) (s : Statement) (next : s.Reply → Prog α) : Prop :=
  prog.run (exec sys env) n w =
    if env.QuietFrom n (calls + 1) then
      match s.exec (env.context sys k (n + calls)) w.db with
      | some (reply, db) => (next reply).run (exec sys env) (n + calls + 1) { w with db }
      | none => (.error .sqlException, w)
    else (.error .sqlException, w)

namespace Proceeds

variable {sys : System} {env : Env} {k : Conn} {α : Type} {n : Nat} {w : World} {calls : Nat}
  {s : Statement} {last : s.Reply → Prog α}

theorem execute :
    Proceeds sys env k (((⟨some k⟩ : SqlConnGuard).execute s).bind last) n w 0 s last := by
  unfold Proceeds
  rw [run_execute]
  cases thrown : env.throws n with
  | true => simp [Env.quietFrom_succ, thrown]
  | false =>
    simp only [Env.quietFrom_succ, thrown, Env.quietFrom_zero, and_self, if_true,
      Bool.false_eq_true, if_false, Nat.add_zero]

theorem call {c : ConnectorCall} {next : c.Reply → Prog α} {rest : Prog α}
    (plain : c.isPlain = true) (same : ∀ reply, next reply = rest)
    (later : Proceeds sys env k rest (n + 1) w calls s last) :
    Proceeds sys env k (((⟨some k⟩ : SqlConnGuard).call c).bind next) n w (calls + 1) s last := by
  unfold Proceeds at later ⊢
  rw [run_call plain same, later]
  have position : n + 1 + calls = n + (calls + 1) := by omega
  cases thrown : env.throws n with
  | true => simp [Env.quietFrom_succ, thrown]
  | false =>
    have quiet : env.QuietFrom n (calls + 1 + 1) ↔ env.QuietFrom (n + 1) (calls + 1) :=
      Env.quietFrom_succ.trans (by simp only [thrown, true_and])
    simp only [Bool.false_eq_true, if_false, quiet, position]

theorem bindNullable {index : Nat} {text : String} {next : Option String → Prog α}
    (later : Proceeds sys env k (next (if text.isEmpty then none else some text)) (n + 1) w calls s
      last) :
    Proceeds sys env k (((⟨some k⟩ : SqlConnGuard).bindNullable index text).bind next) n w
      (calls + 1) s last := by
  unfold SqlConnGuard.bindNullable
  cases empty : text.isEmpty with
  | true =>
    simp only [empty, if_true, bind_eq, bind_assoc, pure_eq, ret_bind] at later ⊢
    exact call rfl (fun _ => rfl) later
  | false =>
    simp only [empty, Bool.false_eq_true, if_false, bind_eq, bind_assoc, pure_eq, ret_bind]
      at later ⊢
    exact call rfl (fun _ => rfl) later

end Proceeds

/-- The program makes a number of calls, executes the statement and returns. -/
def Executes {α : Type} (sys : System) (env : Env) (k : Conn) (prog : Prog α) (n : Nat) (w : World)
    (calls : Nat) (s : Statement) (finish : s.Reply → α) : Prop :=
  prog.run (exec sys env) n w =
    if env.QuietFrom n (calls + 1) then
      match s.exec (env.context sys k (n + calls)) w.db with
      | some (reply, db) => (.ok (finish reply), { w with db })
      | none => (.error .sqlException, w)
    else (.error .sqlException, w)

namespace Executes

variable {sys : System} {env : Env} {k : Conn} {α : Type} {n : Nat} {w : World} {calls : Nat}
  {s : Statement} {finish : s.Reply → α}

theorem iff_proceeds {prog : Prog α} : Executes sys env k prog n w calls s finish ↔
    Proceeds sys env k prog n w calls s fun reply => .ret (finish reply) := Iff.rfl

theorem execute : Executes sys env k
    (((⟨some k⟩ : SqlConnGuard).execute s).bind fun reply => .ret (finish reply)) n w 0 s finish :=
  iff_proceeds.mpr Proceeds.execute

theorem call {c : ConnectorCall} {next : c.Reply → Prog α} {rest : Prog α}
    (plain : c.isPlain = true) (same : ∀ reply, next reply = rest)
    (later : Executes sys env k rest (n + 1) w calls s finish) :
    Executes sys env k (((⟨some k⟩ : SqlConnGuard).call c).bind next) n w (calls + 1) s finish :=
  iff_proceeds.mpr (Proceeds.call plain same (iff_proceeds.mp later))

theorem bindNullable {index : Nat} {text : String} {next : Option String → Prog α}
    (later : Executes sys env k (next (if text.isEmpty then none else some text)) (n + 1) w calls s
      finish) :
    Executes sys env k (((⟨some k⟩ : SqlConnGuard).bindNullable index text).bind next) n w
      (calls + 1) s finish :=
  iff_proceeds.mpr (Proceeds.bindNullable (iff_proceeds.mp later))

theorem caught {prog : Prog α} {failure : α}
    (executes : Executes sys env k prog n w calls s finish) :
    catchSql failure (prog.run (exec sys env) n w) =
      issued failure finish (env.QuietFrom n (calls + 1))
        (s.exec (env.context sys k (n + calls)) w.db) w := by
  unfold Executes at executes
  rw [executes]
  unfold issued
  split
  · split <;> rfl
  · rfl

/-- A method with one statement returns its failure value unless the statement is executed. -/
theorem method {failure : α} {body : SqlConnGuard → Prog α}
    (connected : (env.acquired n).1 = some k)
    (executes : Executes sys env k (body ⟨some k⟩) (env.acquired n).2 w calls s finish) :
    (daoMethod failure body).run (exec sys env) n w =
      issued failure finish (env.QuietFrom (env.acquired n).2 (calls + 1))
        (s.exec (env.context sys k ((env.acquired n).2 + calls)) w.db) w := by
  rw [run_daoMethod, connected, executes.caught]

end Executes

/-- A method that goes on with the rows that a query has selected. -/
theorem Proceeds.selected {sys : System} {env : Env} {k : Conn} {α : Type} {n : Nat} {w : World}
    {calls : Nat} {s : Statement} {reply : s.Reply} {next : s.Reply → Prog α} {failure : α}
    {body : SqlConnGuard → Prog α} {outcome : Except Exn α × World}
    (connected : (env.acquired n).1 = some k)
    (proceeds : Proceeds sys env k (body ⟨some k⟩) (env.acquired n).2 w calls s next)
    (reads : s.exec (env.context sys k ((env.acquired n).2 + calls)) w.db = some (reply, w.db))
    (rest : catchSql failure (if env.QuietFrom (env.acquired n).2 (calls + 1) then
        (next reply).run (exec sys env) ((env.acquired n).2 + calls + 1) w
      else (.error .sqlException, w)) = outcome) :
    (daoMethod failure body).run (exec sys env) n w = outcome := by
  unfold Proceeds at proceeds
  rw [run_daoMethod, connected, proceeds, reads]
  exact rest

/-- Without memory the program ends in an exception that is no `SQLException`. -/
theorem run_reserve {sys : System} {env : Env} {w : World} {α : Type} (count n : Nat)
    (next : Prog α) :
    ((trigger (.reserve count)).bind fun room => (ofExcept room).bind fun _ => next).run
        (exec sys env) n w =
      if env.hasMemory count then next.run (exec sys env) (n + 1) w
      else (.error .stdException, w) := by
  have ran : ((trigger (.reserve count)).bind fun room => (ofExcept room).bind fun _ => next).run
      (exec sys env) n w =
        ((ofExcept (env.reserved count)).bind fun _ => next).run (exec sys env) (n + 1) w := rfl
  rw [ran, Env.reserved]
  split <;> rfl

/-- What a method comes to that reads after its statement: once the statement is executed, a call
that throws can only lose the answer. -/
def issuedThen {α : Type} {s : Statement} (failure : α) (value : Db → α) (quiet later : Prop)
    [Decidable quiet] [Decidable later] (outcome : Option (s.Reply × Db)) (w : World) :
    Except Exn α × World :=
  if quiet then
    match outcome with
    | some (_, db) => (.ok (if later then value db else failure), { w with db })
    | none => (.ok failure, w)
  else (.ok failure, w)

theorem Proceeds.method {sys : System} {env : Env} {k : Conn} {α : Type} {n : Nat} {w : World}
    {calls later : Nat} {s : Statement} {next : s.Reply → Prog α} {failure : α} {value : Db → α}
    {body : SqlConnGuard → Prog α} (connected : (env.acquired n).1 = some k)
    (proceeds : Proceeds sys env k (body ⟨some k⟩) (env.acquired n).2 w calls s next)
    (reads : ∀ reply db, Reads sys env (next reply) ((env.acquired n).2 + calls + 1) { w with db }
      later (value db)) :
    (daoMethod failure body).run (exec sys env) n w =
      issuedThen failure value (env.QuietFrom (env.acquired n).2 (calls + 1))
        (env.QuietFrom ((env.acquired n).2 + calls + 1) later)
        (s.exec (env.context sys k ((env.acquired n).2 + calls)) w.db) w := by
  unfold Proceeds at proceeds
  rw [run_daoMethod, connected, proceeds]
  -- The calls before the statement are quiet, then it is executed, then its rows are read.
  unfold issuedThen
  split
  · split
    next reply db executed =>
      rw [(reads reply db).run]
      split <;> rfl
    · rfl
  · rfl

end MusicPlayer
