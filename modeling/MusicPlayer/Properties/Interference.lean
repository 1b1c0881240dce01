import MusicPlayer.Server.Threads
import MusicPlayer.Properties.Discipline

/-!
# Methods under interference

Rules for a method that runs among other threads, over any state and any protocol. What a
thread knows is `Undisturbed` if neither the other threads nor its own effects can end it,
executed statements excepted. So a method is judged at its statements alone: the connection
that it gets, the calls that bind and fetch and the guard take no part in the argument.
-/
namespace MusicPlayer

open Resumption Program

/-- What a method does besides the execution of statements. -/
def Effect.Bare : Effect → Prop
  | .now _ | .lockPool | .waitFor | .constructGuard _ | .releaseConnection _ => True
  | .connector _ (.execute _) => False
  | .connector _ _ | .reserve _ => True
  | _ => False

/-- A bare effect leaves the world as it is and is answered by the environment alone. -/
theorem exec_bare (sys : System) (env : Env) (count : Nat) {effect : Effect} (bare : effect.Bare)
    (w w' : World) : (exec sys env count effect w).2 = w ∧
      (exec sys env count effect w).1 = (exec sys env count effect w').1 := by
  cases effect with
  | connector conn c =>
    cases conn with
    | none => exact ⟨rfl, rfl⟩
    | some k =>
      simp only [exec]
      split
      · exact ⟨rfl, rfl⟩
      · cases c with
        | execute s => exact bare.elim
        | _ => exact ⟨rfl, rfl⟩
  | now | lockPool | waitFor | constructGuard | releaseConnection | reserve => exact ⟨rfl, rfl⟩
  | _ => exact bare.elim

/-- An executed statement throws and changes nothing, or the database answers it. -/
theorem step_statement {sys : System} {env : Env} {conn : Option Conn} {s : Statement}
    {before after : World} {reply : Except Exn s.Reply}
    (step : Step sys env (.connector conn (.execute s)) before reply after) :
    (∃ exn, reply = .error exn) ∧ after = before ∨
      ∃ ctx value db, ctx.collate = sys.collate ∧ reply = .ok value ∧
        s.exec ctx before.db = some (value, db) ∧ after = { before with db } := by
  obtain ⟨count, performed⟩ := step
  cases conn with
  | none =>
    cases performed
    exact .inl ⟨⟨_, rfl⟩, rfl⟩
  | some k =>
    simp only [exec] at performed
    split at performed
    · cases performed
      exact .inl ⟨⟨_, rfl⟩, rfl⟩
    simp only [execCall] at performed
    split at performed
    next value db executed =>
      cases performed
      exact .inr ⟨_, value, db, rfl, rfl, executed, rfl⟩
    · cases performed
      exact .inl ⟨⟨_, rfl⟩, rfl⟩

/-- A statement that does not throw of itself is refused and changes nothing, or answered. -/
theorem step_statement_of_quiet {sys : System} {env : Env} (quiet : ∀ n, env.throws n = false)
    {k : Conn} {s : Statement} {before after : World} {reply : Except Exn s.Reply}
    (step : Step sys env (.connector (some k) (.execute s)) before reply after) :
    ∃ ctx, ctx.collate = sys.collate ∧
      (s.exec ctx before.db = none ∧ reply = .error .sqlException ∧ after = before ∨
        ∃ value db, s.exec ctx before.db = some (value, db) ∧ reply = .ok value ∧
          after = { before with db }) := by
  obtain ⟨count, performed⟩ := step
  simp only [exec, quiet, Bool.false_eq_true, if_false, execCall] at performed
  refine ⟨⟨sys.collate, k, env.dbNow, env.rank count⟩, rfl, ?_⟩
  split at performed
  next value db executed =>
    cases performed
    exact .inr ⟨value, db, executed, rfl, rfl⟩
  next refused =>
    cases performed
    exact .inl ⟨refused, rfl, rfl⟩

section Rules

variable {σ : Type} {step : (effect : Effect) → σ → effect.Reply → σ → Prop}
  {rely : σ → σ → Prop} {pre : Effect → σ → Prop} {α β : Type}

/-- Knowledge that only an executed statement can end. -/
structure Undisturbed (step : (effect : Effect) → σ → effect.Reply → σ → Prop)
    (rely : σ → σ → Prop) (known : σ → Prop) : Prop where
  later : ∀ a b, known a → rely a b → known b
  bare : ∀ effect a reply b, effect.Bare → known a → step effect a reply b → known b

theorem bare_grants : Grants Effect.Bare fun _ => False where
  clock _ := trivial
  lockPool := trivial
  waitFor := trivial
  constructGuard _ := trivial
  releaseConnection _ := trivial
  connector conn c none := by
    cases c with
    | execute s => exact none s rfl
    | _ => trivial
  reserve _ := trivial

/-- A program that executes no statement. -/
theorem Undisturbed.safe {known : σ → Prop} (undisturbed : Undisturbed step rely known)
    (free : ∀ effect a, effect.Bare → pre effect a) {prog : Prog α}
    (performs : prog.Performs Effect.Bare) {s : σ} (now : known s) :
    prog.Safe step rely pre (fun _ b => known b) s := by
  refine Safe.mono (Uses.safe known performs undisturbed.later ?_ undisturbed.bare now)
    fun _ _ both => both.2
  exact fun effect a bare _ => free effect a bare

/-- A bare effect in sequence. -/
theorem safe_bare {known : σ → Prop} (undisturbed : Undisturbed step rely known)
    (free : ∀ effect a, effect.Bare → pre effect a) {effect : Effect} (bare : effect.Bare)
    {rest : effect.Reply → Prog α} {post : Except Exn α → σ → Prop} {s : σ} (now : known s)
    (continues : ∀ reply b, known b → (rest reply).Safe step rely pre post b) :
    (Program.act effect rest : Prog α).Safe step rely pre post s := by
  intro a interfered
  have still := undisturbed.later s a now interfered
  refine ⟨free effect a bare, fun reply b performed => ?_⟩
  exact continues reply b (undisturbed.bare effect a reply b bare still performed)

/-- A call of the connector that executes no statement returns or throws. -/
theorem safe_plain {known : σ → Prop} (undisturbed : Undisturbed step rely known)
    (free : ∀ effect a, effect.Bare → pre effect a) {guard : SqlConnGuard} {c : ConnectorCall}
    {next : c.Reply → Prog α} (plain : c.isPlain = true) {post : Except Exn α → σ → Prop} {s : σ}
    (now : known s) (throws : ∀ exn b, known b → post (.error exn) b)
    (continues : ∀ reply b, known b → (next reply).Safe step rely pre post b) :
    ((guard.call c).bind next).Safe step rely pre post s := by
  have bare : Effect.Bare (.connector guard.conn c) := by
    cases c with
    | execute s => cases plain
    | _ => trivial
  refine safe_bare undisturbed free bare now fun reply b now => ?_
  cases reply with
  | ok value => exact continues value b now
  | error exn => exact throws exn b now

theorem safe_bindNullable {known : σ → Prop} (undisturbed : Undisturbed step rely known)
    (free : ∀ effect a, effect.Bare → pre effect a) {guard : SqlConnGuard} {index : Nat}
    {text : String} {next : Option String → Prog α} {post : Except Exn α → σ → Prop} {s : σ}
    (now : known s) (throws : ∀ exn b, known b → post (.error exn) b)
    (continues : ∀ value b, known b → (next value).Safe step rely pre post b) :
    ((guard.bindNullable index text).bind next).Safe step rely pre post s := by
  unfold SqlConnGuard.bindNullable
  split
  · rw [bind_eq, bind_assoc]
    exact safe_plain undisturbed free rfl now throws fun _ b now => continues none b now
  · rw [bind_eq, bind_assoc]
    exact safe_plain undisturbed free rfl now throws fun _ b now => continues (some text) b now

/-- An executed statement: what holds before it, and what its step then brings about. -/
theorem safe_statement {known : σ → Prop} (undisturbed : Undisturbed step rely known)
    {guard : SqlConnGuard} {st : Statement} {next : st.Reply → Prog α}
    {post : Except Exn α → σ → Prop} {s : σ} (now : known s)
    (owes : ∀ a, known a → pre (.connector guard.conn (.execute st)) a)
    (throws : ∀ a exn b, known a →
      step (.connector guard.conn (.execute st)) a (.error exn) b → post (.error exn) b)
    (continues : ∀ a reply b, known a →
      step (.connector guard.conn (.execute st)) a (.ok reply) b →
        (next reply).Safe step rely pre post b) :
    ((guard.execute st).bind next).Safe step rely pre post s := by
  intro a interfered
  have still := undisturbed.later s a now interfered
  refine ⟨owes a still, fun reply b performed => ?_⟩
  cases reply with
  | ok value => exact continues a value b still performed
  | error exn => exact throws a exn b still performed

/-- The method around a body that is safe with every connection that it can get. -/
theorem safe_methodWith {known : σ → Prop} (gets : Except Exn (Option Conn) → Prop)
    (outcome : Except Exn α → σ → Prop) (undisturbed : Undisturbed step rely known)
    (free : ∀ effect a, effect.Bare → pre effect a) {failure : α} {body : SqlConnGuard → Prog α}
    (settled : ∀ result, Undisturbed step rely (outcome result)) {s : σ}
    (acquires : DBManager.getConnection.Safe step rely pre
      (fun result b => known b ∧ gets result) s)
    (broken : ∀ exn b, gets (.error exn) → known b → outcome (.error exn) b)
    (works : ∀ conn b, gets (.ok conn) → known b → (body ⟨conn⟩).Safe step rely pre outcome b) :
    (daoMethod failure body).Safe step rely pre
      (fun result b => result ≠ .error .sqlException ∧ outcome result b ∨
        result = .ok failure ∧ outcome (.error .sqlException) b) s := by
  -- Giving the connection back ends nothing that is settled.
  have returns (conn : Option Conn) (result : Except Exn α) (b : σ) (holds : outcome result b) :
      ((SqlConnGuard.destroy ⟨conn⟩).bind fun _ => .ofExcept result).Safe step rely pre
        outcome b := by
    have ends (b : σ) (holds : outcome result b) :
        (Program.ofExcept result : Prog α).Safe step rely pre outcome b := by
      cases result with
      | ok value => exact holds
      | error exn => exact holds
    cases conn with
    | none => exact ends b holds
    | some k =>
      have bare : Effect.Bare (.releaseConnection k) := trivial
      exact safe_bare (settled result) free bare holds fun _ b holds => ends b holds
  have scope : (SqlConnGuard.scope body).Safe step rely pre outcome s := by
    refine (Safe.bind_iff ..).mpr (acquires.mono ?_)
    rintro result b ⟨now, gotten⟩
    cases result with
    | error exn => exact broken exn b gotten now
    | ok conn =>
      have bare : Effect.Bare (.constructGuard conn) := trivial
      refine safe_bare undisturbed free bare now fun _ b now => ?_
      change ((body ⟨conn⟩).attempt.bind fun result =>
        (SqlConnGuard.destroy ⟨conn⟩).bind fun _ => .ofExcept result).Safe step rely pre outcome b
      refine (Safe.bind_iff ..).mpr ((Safe.attempt_iff ..).mpr ((works conn b gotten now).mono ?_))
      exact fun result b holds => returns conn result b holds
  refine (Safe.tryCatch_iff ..).mpr (scope.mono fun result b holds => ?_)
  cases result with
  | ok value => exact .inl ⟨nofun, holds⟩
  | error exn =>
    cases exn with
    | sqlException => exact .inr ⟨rfl, holds⟩
    | _ => exact .inl ⟨nofun, holds⟩

/-- The method around a body that is safe with every connection. -/
theorem safe_method {known : σ → Prop} (outcome : Except Exn α → σ → Prop)
    (undisturbed : Undisturbed step rely known) (free : ∀ effect a, effect.Bare → pre effect a)
    {failure : α} {body : SqlConnGuard → Prog α}
    (settled : ∀ result, Undisturbed step rely (outcome result)) {s : σ} (now : known s)
    (broken : ∀ exn b, known b → outcome (.error exn) b)
    (works : ∀ conn b, known b → (body ⟨conn⟩).Safe step rely pre outcome b) :
    (daoMethod failure body).Safe step rely pre (fun result b => outcome result b ∨
      result = .ok failure ∧ outcome (.error .sqlException) b) s := by
  have acquires : DBManager.getConnection.Safe step rely pre
      (fun result b => known b ∧ (fun _ => True) result) s :=
    (undisturbed.safe free (performs_getConnection bare_grants) now).mono
      fun _ _ now => ⟨now, trivial⟩
  refine (safe_methodWith (fun _ => True) outcome undisturbed free settled acquires
    (fun exn b _ now => broken exn b now) fun conn b _ now => works conn b now).mono ?_
  rintro result b (⟨-, holds⟩ | failed)
  · exact .inl holds
  · exact .inr failed

/-! ### Handlers -/

/-- A result in front of the `catch` clauses of a handler: an exception becomes some answer that
is not 200, or goes on. -/
def orRefused (post : Except Exn HttpResponse → σ → Prop) :
    Except Exn HttpResponse → σ → Prop
  | .ok res, s => post (.ok res) s
  | .error _, s => (∀ res : HttpResponse, res.status ≠ .ok → post (.ok res) s) ∧
      ∀ exn, post (.error exn) s

theorem safe_handler {version : Nat} {body : Prog HttpResponse}
    {post : Except Exn HttpResponse → σ → Prop} {s : σ}
    (safe : body.Safe step rely pre (orRefused post) s) :
    (UserHandler.catching version body).Safe step rely pre post s := by
  refine (Safe.tryCatch_iff ..).mpr (safe.mono fun result b outcome => ?_)
  cases result with
  | ok res => exact outcome
  | error exn =>
    cases exn with
    | nullDeref | danglingRead => exact outcome.2 _
    | _ => exact outcome.1 _ (by simp)

/-- The check of the token in front of a handler, by a thread whose knowledge the clock does not
end. -/
theorem safe_authenticate (known : σ → Prop) {sys : System} {token : String} {res : HttpResponse}
    {next : String → Prog HttpResponse} {post : Except Exn HttpResponse → σ → Prop} {s : σ}
    (later : ∀ a b, known a → rely a b → known b) (free : ∀ site a, known a → pre (.now site) a)
    (clock : ∀ site a reply b, known a → step (.now site) a reply b → known b)
    (refused : ∀ b, known b → post (.ok res) b) (raised : ∀ exn b, known b → post (.error exn) b)
    (accepted : ∀ b, known b → (next token).Safe step rely pre post b) (now : known s) :
    ((JWTUtil.verifyToken sys token).bind fun accepted =>
      if accepted.isEmpty = true then .ret res else next accepted).Safe step rely pre post s := by
  have uses : (JWTUtil.verifyToken sys token).Uses (fun effect => ∃ site, effect = .now site) _ :=
    uses_verifyToken (fun site => ⟨site, rfl⟩) token
  refine (Safe.bind_iff ..).mpr ((Uses.safe known uses later ?_ ?_ now).mono ?_)
  · rintro effect a ⟨site, rfl⟩ now
    exact free site a now
  · rintro effect a reply b ⟨site, rfl⟩ now performed
    exact clock site a reply b now performed
  · rintro result b ⟨returned, now⟩
    cases result with
    | error exn => exact raised exn b now
    | ok answer =>
      rcases returned with rfl | rfl
      · exact refused b now
      · simp only [thenSafe]
        split
        · exact refused b now
        · exact accepted b now

/-! ### Without failures -/

def ConnectorCall.executes : ConnectorCall → Bool
  | .execute _ => true
  | _ => false

/-- The pool has a connection in time, and no call but a statement is answered by an exception. -/
structure Quiet (step : (effect : Effect) → σ → effect.Reply → σ → Prop) : Prop where
  waits : ∀ a b, ¬step .waitFor a none b
  calls : ∀ k (c : ConnectorCall), c.executes = false → ∀ a exn b,
    ¬step (.connector (some k) c) a (.error exn) b

/-- A call of the connector that executes no statement, and what comes after it. -/
theorem Quiet.safe_call (quiet : Quiet step) {known : σ → Prop}
    (undisturbed : Undisturbed step rely known) (free : ∀ effect a, effect.Bare → pre effect a)
    {k : Conn} {c : ConnectorCall} (other : c.executes = false)
    {next : c.Reply → Prog α} {post : Except Exn α → σ → Prop} {s : σ} (now : known s)
    (continues : ∀ reply b, known b → (next reply).Safe step rely pre post b) :
    ((DBManager.call (some k) c).bind next).Safe step rely pre post s := by
  have bare : Effect.Bare (.connector (some k) c) := by
    cases c with
    | execute s => cases other
    | _ => trivial
  intro a interfered
  have still := undisturbed.later s a now interfered
  refine ⟨free _ a bare, fun reply b performed => ?_⟩
  cases reply with
  | ok value => exact continues value b (undisturbed.bare _ a _ b bare still performed)
  | error exn => exact absurd performed (quiet.calls k c other a exn b)

theorem Quiet.safe_bindNullable (quiet : Quiet step) {known : σ → Prop}
    (undisturbed : Undisturbed step rely known) (free : ∀ effect a, effect.Bare → pre effect a)
    {k : Conn} {index : Nat} {text : String} {next : Option String → Prog α}
    {post : Except Exn α → σ → Prop} {s : σ} (now : known s)
    (continues : ∀ b, known b →
      (next (if text.isEmpty then none else some text)).Safe step rely pre post b) :
    (((⟨some k⟩ : SqlConnGuard).bindNullable index text).bind next).Safe step rely pre post s := by
  unfold SqlConnGuard.bindNullable
  split
  next empty =>
    rw [if_pos empty] at continues
    rw [bind_eq, Program.bind_assoc]
    exact quiet.safe_call undisturbed free rfl now fun _ b now => continues b now
  next full =>
    rw [if_neg full] at continues
    rw [bind_eq, Program.bind_assoc]
    exact quiet.safe_call undisturbed free rfl now fun _ b now => continues b now

theorem Quiet.safe_readCount (quiet : Quiet step) {known : σ → Prop}
    (undisturbed : Undisturbed step rely known) (free : ∀ effect a, effect.Bare → pre effect a)
    {k : Conn} {count : Nat} {next : Int32 → Prog α} {post : Except Exn α → σ → Prop} {s : σ}
    (now : known s)
    (continues : ∀ b, known b → (next (Int32.ofNat count)).Safe step rely pre post b) :
    (((⟨some k⟩ : SqlConnGuard).readCount [count]).bind next).Safe step rely pre post s := by
  rw [SqlConnGuard.readCount, bind_eq, Program.bind_assoc]
  refine quiet.safe_call undisturbed free rfl now fun _ b now => ?_
  rw [bind_eq, Program.bind_assoc]
  exact quiet.safe_call undisturbed free rfl now fun _ b now => continues b now

/-- Every call of `getConnection` returns a connection. -/
theorem Quiet.safe_getConnection (quiet : Quiet step) {known : σ → Prop}
    (undisturbed : Undisturbed step rely known) (free : ∀ effect a, effect.Bare → pre effect a)
    {s : σ} (now : known s) :
    DBManager.getConnection.Safe step rely pre
      (fun result b => known b ∧ ∃ k, result = .ok (some k)) s := by
  -- Whatever `isValid` finds and the reconnect does, the connection is returned.
  have returns (k : Conn) (b : σ) (now : known b) :
      ((DBManager.revalidate (some k)).bind fun _ => (.ret (some k) : Prog (Option Conn))).Safe
        step rely pre (fun result b => known b ∧ ∃ k, result = .ok (some k)) b := by
    refine (Safe.bind_iff ..).mpr ((Safe.tryCatch_iff ..).mpr ?_)
    refine quiet.safe_call undisturbed free rfl now fun valid b now => ?_
    cases valid with
    | true => exact ⟨now, k, rfl⟩
    | false =>
      refine quiet.safe_call undisturbed free rfl now fun _ b now => ?_
      change (DBManager.call (some k) .setSchema).Safe step rely pre _ b
      rw [← bind_ret (DBManager.call (some k) .setSchema)]
      refine quiet.safe_call undisturbed free rfl now fun _ b now => ?_
      exact ⟨now, k, rfl⟩
  have locking : Effect.Bare .lockPool := trivial
  have waiting : Effect.Bare .waitFor := trivial
  intro a interfered
  have still := undisturbed.later s a now interfered
  refine ⟨free _ a locking, fun reply b performed => ?_⟩
  have now := undisturbed.bare _ a reply b locking still performed
  cases reply with
  | some k => exact returns k b now
  | none =>
    intro a interfered
    have still := undisturbed.later b a now interfered
    refine ⟨free _ a waiting, fun reply b performed => ?_⟩
    have now := undisturbed.bare _ a reply b waiting still performed
    cases reply with
    | some k => exact returns k b now
    | none => exact absurd performed (quiet.waits a b)

end Rules

/-! ### Methods one after the other -/

/-- What a method performs: its statements and bare effects. -/
def Effect.Issues (statements : Statement → Prop) (effect : Effect) : Prop :=
  effect.Bare ∨ ∃ conn s, effect = .connector conn (.execute s) ∧ statements s

theorem issues_grants (statements : Statement → Prop) :
    Grants (Effect.Issues statements) statements where
  clock _ := .inl trivial
  lockPool := .inl trivial
  waitFor := .inl trivial
  constructGuard _ := .inl trivial
  releaseConnection _ := .inl trivial
  connector conn c permitted := by
    cases c with
    | execute s => exact .inr ⟨conn, s, rfl, permitted s rfl⟩
    | _ => exact .inl trivial
  reserve _ := .inl trivial

/-- What the statements of a method keep, the method keeps. -/
theorem IsMethod.keeps {α : Type} {statements : Statement → Prop} {failure : α} {prog : Prog α}
    (method : IsMethod statements failure prog) (sys : System) (env : Env) (inv : Db → Prop)
    (kept : ∀ s conn rank before reply after, statements s → inv before →
      s.exec ⟨sys.collate, conn, env.dbNow, rank⟩ before = some (reply, after) → inv after)
    {w : World} (holds : inv w.db) : inv (runProg sys env prog w).2.db := by
  have wp : prog.Wp (Step sys env) (fun _ after => inv after.db) w := by
    refine wp_of_performs (fun w => inv w.db) (method.performs (issues_grants statements)) ?_ holds
    rintro effect count before (bare | ⟨conn, s, rfl, permitted⟩) holds
    · rw [(exec_bare sys env count bare before before).1]
      exact holds
    · cases conn with
      | none => exact holds
      | some k =>
        simp only [exec]
        split
        · exact holds
        · simp only [execCall]
          split
          next reply db executed =>
            exact kept s k (env.rank count) before.db reply db permitted holds executed
          · exact holds
  exact runProg_of_wp wp

end MusicPlayer
