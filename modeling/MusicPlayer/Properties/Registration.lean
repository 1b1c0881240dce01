import MusicPlayer.Properties.GuardDiscipline
import MusicPlayer.Properties.Requests

/-!
# Concurrent registrations

Registrations that run at the same time, one thread each. The check of the username, the
INSERT and the reading of the new id are separate statements, and anything may happen between
them. The UNIQUE keys decide who gets a name, and the guard keeps the connection, so the id
that is read is that of the own row.
-/
namespace MusicPlayer

open Resumption Program Relational

variable {ι : Type} [DecidableEq ι]

/-- No call of the connector fails by itself; statements may still be refused. -/
def Env.Calm (env : Env) : Prop := ∀ n, env.throws n = false

/-- Each thread handles one registration. -/
def registerThreads (ι : Type) [DecidableEq ι] (sys : System) :
    Concurrent ι Effect Effect.Reply Exn HttpRequest (fun _ => HttpResponse) (PoolState ι) where
  program := UserHandler.handleRegister sys
  starts _ _ _ _ := False
  step := poolStep sys Env.Calm

def registerInit (sys : System) (outcome : Nat → DBManager.ConnectOutcome) (poolSize : Nat)
    (w : World) (requests : ι → HttpRequest) :
    Config ι Effect Effect.Reply Exn (fun _ : HttpRequest => HttpResponse) (PoolState ι) where
  shared := { world := w, pool := DBManager.construct outcome poolSize }
  threads i := some ⟨requests i, UserHandler.handleRegister sys (requests i)⟩

/-- The statements of a registration. -/
def RegisterStatement : Statement → Prop
  | .selectUserByUsername _ | .insertUser .. | .selectLastInsertId => True
  | _ => False

/-- Answered 200 with the id of the one row that was inserted, or not answered 200 and nothing
inserted. -/
def Registered (sys : System) (req : HttpRequest) (result : Except Exn HttpResponse)
    (rows : List UserRow) : Prop :=
  (∃ form row, registerForm sys req = some form ∧ rows = [row] ∧ row.username = form.username ∧
    row.email = form.email ∧ result = .ok (UserHandler.registered req.version row.id)) ∨
  rows = [] ∧ ∀ res, result = .ok res → res.status ≠ .ok

/-! ### Calls under a guard -/

section Rules

variable {sys : System} {created : List Conn} {statements : Statement → Prop} {i : ι} {α : Type}
  {post : Except Exn α → PoolState ι → Prop} {s : PoolState ι} {k : Conn}

/-- What a thread knows while it holds a connection: it stays true whatever the others do, and
when the world stays as it is. -/
structure Holding (i : ι) (k : Conn) (known : PoolState ι → Prop) : Prop where
  popped : ∀ a, known a → a.popped i = none
  guarded : ∀ a, known a → a.guarded i = some k
  later : ∀ a b, known a → PoolRely i a b → known b
  same : ∀ a, known a → known (a.advance i a.world)

theorem Sees.holding (rows : List UserRow) :
    Holding i k (Sees i none (some k) false rows) where
  popped _ sees := sees.popped
  guarded _ sees := sees.guarded
  later _ _ sees interfered := sees.later interfered
  same _ sees := sees.advance_of_users rfl

/-- The row has been inserted through the connection, and its id is the session value. -/
structure HasInserted (i : ι) (k : Conn) (row : UserRow) (s : PoolState ι) : Prop where
  sees : Sees i none (some k) false [row] s
  session : s.world.db.lastInsertId k = row.id

theorem HasInserted.holding (row : UserRow) : Holding i k (HasInserted i k row) where
  popped _ inserted := inserted.sees.popped
  guarded _ inserted := inserted.sees.guarded
  later _ _ inserted interfered := ⟨inserted.sees.later interfered,
    (interfered.session k inserted.sees.guarded).trans inserted.session⟩
  same _ inserted := ⟨inserted.sees.advance_of_users rfl, inserted.session⟩

/-- A call that executes no statement returns. -/
theorem safe_call {known : PoolState ι → Prop} (holding : Holding i k known) {c : ConnectorCall}
    {next : c.Reply → Prog α} (plain : ∀ s, c ≠ .execute s) (now : known s)
    (continues : ∀ reply b, known b →
      PoolSafe sys Env.Calm created statements i (next reply) post b) :
    PoolSafe sys Env.Calm created statements i
      ((SqlConnGuard.call ⟨some k⟩ c).bind next) post s := by
  intro a interfered
  have still := holding.later s a now interfered
  constructor
  · intro _
    exact ⟨.inr ⟨holding.popped a still, holding.guarded a still⟩, by simp,
      fun s equal => absurd equal (plain s)⟩
  rintro reply b ⟨-, env, count, w, calm, performed, rfl⟩
  simp only [exec, calm count, Bool.false_eq_true, if_false] at performed
  have unmoved : w = a.world := by
    cases c with
    | execute s => exact absurd rfl (plain s)
    | _ => cases performed; rfl
  have returned : ∃ value, reply = .ok value := by
    cases c with
    | execute s => exact absurd rfl (plain s)
    | _ => cases performed; exact ⟨_, rfl⟩
  obtain ⟨value, rfl⟩ := returned
  rw [unmoved]
  exact continues value _ (holding.same a still)

/-- An executed statement is refused, or the database moves on. -/
theorem safe_execute {known : PoolState ι → Prop} (holding : Holding i k known) {st : Statement}
    {next : st.Reply → Prog α} (permitted : statements st) (now : known s)
    (refused : ∀ a ctx, known a → st.exec ctx a.world.db = none →
      post (.error .sqlException) (a.advance i a.world))
    (continues : ∀ a ctx reply db, known a → ctx.collate = sys.collate → ctx.conn = k →
      st.exec ctx a.world.db = some (reply, db) →
      PoolSafe sys Env.Calm created statements i (next reply) post
        (a.advance i { a.world with db })) :
    PoolSafe sys Env.Calm created statements i
      ((SqlConnGuard.execute ⟨some k⟩ st).bind next) post s := by
  intro a interfered
  have still := holding.later s a now interfered
  constructor
  -- With the connection of the guard and a permitted statement the promise is kept.
  · intro _
    refine ⟨.inr ⟨holding.popped a still, holding.guarded a still⟩, by simp, fun s equal => ?_⟩
    cases equal
    exact ⟨holding.guarded a still, permitted⟩
  rintro reply b ⟨-, env, count, w, calm, performed, rfl⟩
  simp only [exec, calm count, Bool.false_eq_true, if_false, execCall] at performed
  split at performed
  next value db executed =>
    cases performed
    exact continues a _ value db still rfl rfl executed
  next outcome =>
    cases performed
    exact refused a _ still outcome

/-- The first call through a null connection is undefined behaviour. -/
theorem safe_call_null {c : ConnectorCall} {next : c.Reply → Prog α} {rows : List UserRow}
    (plain : ∀ s, c ≠ .execute s) (sees : Sees i none none true rows s)
    (crashes : ∀ b, Sees i none none true rows b → post (.error .nullDeref) b) :
    PoolSafe sys Env.Calm created statements i
      ((SqlConnGuard.call ⟨none⟩ c).bind next) post s := by
  intro a interfered
  have sees := sees.later interfered
  constructor
  · intro _
    exact ⟨.inr ⟨sees.popped, sees.guarded⟩, fun _ => sees.timedOut rfl,
      fun s equal => absurd equal (plain s)⟩
  rintro reply b ⟨-, env, count, w, calm, performed, rfl⟩
  cases performed
  exact crashes _ (sees.advance_of_users rfl)

/-! ### The two methods of a registration -/

/-- What `createUser` returns, with the rows that its thread has inserted by then. -/
def Created (user : User) (result : Except Exn (Bool × User)) (rows : List UserRow) : Prop :=
  (∃ row, rows = [row] ∧ row.username = user.username ∧ row.email = user.email ∧
    result = .ok (true, { user with id := row.id })) ∨
  rows = [] ∧ ∀ value, result = .ok value → value.1 = false

/-- The row that an accepted INSERT has added, and the session value it has left. -/
theorem HasInserted.of_insertUser {a : PoolState ι} {ctx : SqlContext} {db : Db} {n : Nat}
    {username passwdHash email : String} (sees : Sees i none (some k) false [] a)
    (own : ctx.conn = k)
    (executed : a.world.db.insertUser ctx username passwdHash email = some (n, db)) :
    ∃ row, row.username = username ∧ row.email = email ∧
      HasInserted i k row (a.advance i { a.world with db }) := by
  obtain ⟨id, inserted, -, equal⟩ := Db.insertUser_eq_some executed
  have rows := (Table.insert_eq_some inserted).2.1
  refine ⟨⟨id, username, passwdHash, email, none, none, ctx.now, ctx.now⟩, rfl, rfl, ?_, ?_⟩
  · have next := sees.advance { a.world with db }
    rw [rows, List.drop_left, List.nil_append] at next
    exact next
  · change db.lastInsertId k = id
    rw [equal, ← own]
    exact Function.update_self ..

/-- The INSERT adds the row of the thread, or is refused. After it the session value is the id
of that row, and it stays so until it is read. -/
theorem safe_createUser {user : User} {waited : Bool}
    (inserts : ∀ username passwdHash email, statements (.insertUser username passwdHash email))
    (reads : statements .selectLastInsertId) (sees : Sees i none none waited [] s) :
    PoolSafe sys Env.Calm created statements i (UserDAO.createUser sys user) (fun result b =>
      ∃ more waited, Sees i none none waited more b ∧ Created user result more) s := by
  have failed (exn : Exn) : Created user (.error exn) [] := .inr ⟨rfl, by simp⟩
  refine Safe.mono (safe_daoMethod (Created user) sees fun conn b sees => ?_) ?_
  · cases conn with
    | none =>
      exact safe_call_null (by simp) sees fun b sees => ⟨[], sees, failed _⟩
    | some k =>
      have holding : Holding i k (Sees i none (some k) false []) := Sees.holding []
      refine safe_call holding (by simp) sees fun _ b sees => ?_
      refine safe_call holding (by simp) sees fun _ b sees => ?_
      refine safe_call holding (by simp) sees fun _ b sees => ?_
      refine safe_call holding (by simp) sees fun _ b sees => ?_
      refine safe_execute holding (inserts _ _ _) sees ?_ fun a ctx n db sees _ own executed => ?_
      · intro a ctx sees _
        exact ⟨[], holding.same a sees, failed _⟩
      obtain ⟨row, username, email, now⟩ := HasInserted.of_insertUser sees own executed
      have holding : Holding i k (HasInserted i k row) := HasInserted.holding row
      refine safe_call holding (by simp) now fun _ b now => ?_
      refine safe_execute holding reads now ?_ fun a ctx ids db now _ own executed => ?_
      · intro a ctx _ refused
        cases refused
      -- The guard still holds the connection of the INSERT, so the id is the one it has left.
      cases executed
      have session := now.session
      refine safe_call holding (by simp) (holding.same a now) fun _ b now => ?_
      refine safe_call holding (by simp) now fun _ b now => ?_
      refine ⟨[row], now.sees, .inl ⟨row, rfl, username, email, ?_⟩⟩
      rw [own, session]
  · rintro result b ⟨more, waited, sees, outcome | ⟨rfl, outcome⟩⟩
    · exact ⟨more, waited, sees, outcome⟩
    · rcases outcome with ⟨row, -, -, -, equal⟩ | ⟨none, -⟩
      · cases equal
      · refine ⟨more, waited, sees, .inr ⟨none, ?_⟩⟩
        intro value equal
        cases equal
        rfl

theorem reads_selectUserByUsername (username : String) :
    (Statement.selectUserByUsername username).Reads := by
  intro ctx db reply after executed
  cases executed
  rfl

/-- What a registration can do, as an effect of its thread, without touching the database. -/
def Apart : Effect → Prop
  | .findCode _ | .derefCode _ | .now _ => True
  | _ => False

/-- The verification of the code happens apart from the database. -/
theorem safe_verifyCode {email action code : String} {waited : Bool} {rows : List UserRow}
    (sees : Sees i none none waited rows s) :
    PoolSafe sys Env.Calm created statements i (VerifyService.verifyCode email action code)
      (fun _ b => Sees i none none waited rows b) s := by
  have performs : (VerifyService.verifyCode email action code).Performs Apart :=
    UserHandler.verifyCode_performs (fun _ => trivial) (fun _ => trivial) (fun _ => trivial)
      email action code
  refine Safe.mono (Uses.safe (Sees i none none waited rows) performs ?_ ?_ ?_ sees)
    fun _ _ both => both.2
  · exact fun a b sees interfered => sees.later interfered
  · intro effect a apart _ _
    cases effect with
    | findCode | derefCode | now => trivial
    | _ => exact apart.elim
  · rintro effect a reply b apart sees ⟨-, step⟩
    have quiet {env : Env} {count : Nat} {w : World}
        (performed : exec sys env count effect a.world = (reply, w)) : w = a.world := by
      cases effect with
      | findCode | derefCode | now => cases performed; rfl
      | _ => exact apart.elim
    cases effect with
    | findCode | derefCode | now =>
      obtain ⟨env, count, w, -, performed, rfl⟩ := step
      rw [quiet performed]
      exact sees.advance_of_users rfl
    | _ => exact apart.elim

/-- The catch clauses answer, but never with 200. -/
theorem safe_catching {req : HttpRequest} {version : Nat} {body : Prog HttpResponse}
    (safe : PoolSafe sys Env.Calm created RegisterStatement i body (fun result b =>
      ∃ more waited, Sees i none none waited more b ∧ Registered sys req result more) s) :
    PoolSafe sys Env.Calm created RegisterStatement i (UserHandler.catching version body)
      (fun result b => ∃ more waited, Sees i none none waited more b ∧
        Registered sys req result more) s := by
  refine (Safe.tryCatch_iff ..).mpr (Safe.mono safe ?_)
  rintro result b ⟨more, waited, sees, outcome⟩
  cases result with
  | ok res => exact ⟨more, waited, sees, outcome⟩
  | error exn =>
    rcases outcome with ⟨form, row, -, -, -, -, equal⟩ | ⟨rfl, -⟩
    · cases equal
    cases exn with
    | nullDeref => exact ⟨[], waited, sees, .inr ⟨rfl, by simp⟩⟩
    | danglingRead => exact ⟨[], waited, sees, .inr ⟨rfl, by simp⟩⟩
    | _ => exact ⟨[], waited, sees, .inr ⟨rfl, by rintro res equal; cases equal; simp⟩⟩

/-- The rows of a thread when its handler ends: the one it is answered 200 for, or none. -/
theorem safe_handleRegister {req : HttpRequest} {waited : Bool}
    (sees : Sees i none none waited [] s) :
    PoolSafe sys Env.Calm created RegisterStatement i (UserHandler.handleRegister sys req)
      (fun result b => ∃ more waited, Sees i none none waited more b ∧
        Registered sys req result more) s := by
  have refused {res : HttpResponse} (status : res.status ≠ .ok) :
      Registered sys req (.ok res) [] := by
    refine .inr ⟨rfl, fun other equal => ?_⟩
    cases equal
    exact status
  apply safe_catching
  -- What throws before the INSERT leaves the thread without rows.
  have failed {exn : Exn} {b : PoolState ι} {waited : Bool} (sees : Sees i none none waited [] b) :
      ∃ more waited, Sees i none none waited more b ∧ Registered sys req (.error exn) more :=
    ⟨[], waited, sees, .inr ⟨rfl, by simp⟩⟩
  simp only [bind_eq]
  unfold UserHandler.parseBody
  cases parsed : sys.parse req.body with
  | none => exact failed sees
  | some j =>
  simp only [ret_bind]
  split
  · exact ⟨[], waited, sees, refused (by simp)⟩
  unfold UserHandler.stringField
  cases readUsername : j.string? "username" with
  | none => exact failed sees
  | some username =>
  cases readPassword : j.string? "password" with
  | none => exact failed sees
  | some password =>
  cases readEmail : j.string? "email" with
  | none => exact failed sees
  | some email =>
  cases readCode : j.string? "verify_code" with
  | none => exact failed sees
  | some verifyCode =>
  have form : registerForm sys req = some ⟨username, password, email, verifyCode⟩ := by
    simp [registerForm, parsed, readUsername, readPassword, readEmail, readCode]
  simp only [ret_bind]
  -- The body is read; from here on other threads run between the effects.
  refine PoolSafe.bind (safe_verifyCode sees) (fun exn b sees => failed sees) fun valid b sees => ?_
  cases valid with
  | false => exact ⟨[], waited, sees, refused (by simp)⟩
  | true =>
  simp only [Bool.not_true, Bool.false_eq_true, if_false]
  have selects : ∀ st : Statement, st = .selectUserByUsername username → RegisterStatement st := by
    rintro st rfl
    trivial
  refine PoolSafe.bind ((UserDAO.getUserByUsername_isMethod username).safe selects sees) ?_ ?_
  · rintro exn b ⟨more, waited, sees, same⟩
    obtain rfl := same (by rintro st rfl; exact reads_selectUserByUsername username)
    exact failed sees
  rintro found b ⟨more, waited, sees, same⟩
  obtain rfl := same (by rintro st rfl; exact reads_selectUserByUsername username)
  split
  · exact ⟨[], waited, sees, refused (by simp)⟩
  -- The name was free at the SELECT. Whether it still is decides the INSERT.
  refine PoolSafe.bind (safe_createUser (fun _ _ _ => trivial) trivial sees) ?_ ?_
  · rintro exn b ⟨more, waited, sees, ⟨row, -, -, -, equal⟩ | ⟨rfl, -⟩⟩
    · cases equal
    · exact failed sees
  rintro ⟨done, user⟩ b ⟨more, waited, sees, ⟨row, rfl, name, mail, equal⟩ | ⟨rfl, undone⟩⟩
  · cases equal
    exact ⟨[row], waited, sees, .inl ⟨_, row, form, rfl, name, mail, rfl⟩⟩
  · cases undone _ rfl
    exact ⟨[], waited, sees, refused (by simp)⟩

end Rules

/-! ### Interleaved registrations -/

/-- The pool of the registrations, with the connections that were created. -/
def registerProtocol (ι : Type) [DecidableEq ι] (sys : System) (created : List Conn) :
    Protocol ι Effect Exn HttpRequest (fun _ => HttpResponse) (PoolState ι) where
  inv := Conserved created
  rely := PoolRely
  pre := PoolPre RegisterStatement
  post i req result s := s.popped i = none ∧ s.guarded i = none ∧
    Registered sys req result (s.rowsBy i)
  idle i s := s.popped i = none ∧ s.guarded i = none

theorem registerProtocol_sound (sys : System) (created : List Conn) :
    (registerProtocol ι sys created).Sound (registerThreads ι sys) where
  refl := PoolRely.refl
  trans i a b c := PoolRely.trans
  starts i job a b _ _ starts := starts.elim
  acts i effect a reply b conserved owes step := poolStep_guarantee conserved owes step
  post_stable i req result a b holds interfered := by
    obtain ⟨popped, guarded, outcome⟩ := holds
    refine ⟨interfered.popped.trans popped, interfered.guarded.trans guarded, ?_⟩
    rw [interfered.rows]
    exact outcome
  idle_stable i a b idle interfered :=
    ⟨interfered.popped.trans idle.1, interfered.guarded.trans idle.2⟩
  finishes i req result a holds := ⟨holds.1, holds.2.1⟩

/-- What a thread does to the users: nothing, or it adds one row of its own. -/
theorem registerStep_users {sys : System} {i : ι} {effect : Effect} {a b : PoolState ι}
    {reply : effect.Reply} (owes : PoolPre RegisterStatement i effect a)
    (step : poolStep sys Env.Calm i effect a reply b) :
    b.world.db.users = a.world.db.users ∧ b.inserted = a.inserted ∨
      ∃ row, b.world.db.users.rows = a.world.db.users.rows ++ [row] ∧
        b.inserted = a.inserted ++ [(i, row)] ∧
        (a.world.db.registry.Keyed sys.collate → b.world.db.registry.Keyed sys.collate) := by
  -- A world with the same users adds nothing to the record of insertions.
  have unmoved {w : World} (users : w.db.users = a.world.db.users) :
      (a.advance i w).world.db.users = a.world.db.users ∧
        (a.advance i w).inserted = a.inserted := by
    refine ⟨users, ?_⟩
    rw [PoolState.advance, users, List.drop_length, List.map_nil, List.append_nil]
  have taken {conn : Option Conn} (takes : a.take i = (conn, b)) :
      b.world.db.users = a.world.db.users ∧ b.inserted = a.inserted := by
    unfold PoolState.take at takes
    split at takes <;> (cases takes; exact ⟨rfl, rfl⟩)
  cases effect with
  | lockPool => exact .inl (taken step.symm)
  | waitFor =>
    have waited : a.afterWait i = (reply, b) := step.symm
    unfold PoolState.afterWait at waited
    split at waited
    · cases waited
      exact .inl ⟨rfl, rfl⟩
    · exact .inl (taken waited)
  | constructGuard conn =>
    obtain rfl : b = a.construct i conn := step
    exact .inl ⟨rfl, rfl⟩
  | releaseConnection conn =>
    obtain rfl : b = a.release i conn := step
    exact .inl ⟨rfl, rfl⟩
  | connector conn call =>
    obtain ⟨env, count, w, -, performed, rfl⟩ := step
    have reading (reads : ∀ s, call = .execute s → s.Reads) :
        w.db.users = a.world.db.users := by
      have same := exec_reads sys env count conn reads a.world
      rw [performed] at same
      exact congrArg Db.users same
    cases call with
    | execute s =>
      have permitted := (owes.2.2 s rfl).2
      cases s with
      | selectUserByUsername username =>
        refine .inl (unmoved (reading ?_))
        rintro s equal
        cases equal
        exact reads_selectUserByUsername username
      | selectLastInsertId =>
        refine .inl (unmoved (reading ?_))
        rintro s equal
        cases equal
        intro ctx db reply after executed
        cases executed
        rfl
      -- The one statement that adds a row; the UNIQUE keys hold after it as before.
      | insertUser username passwdHash email =>
        cases conn with
        | none =>
          cases performed
          exact .inl (unmoved rfl)
        | some k =>
          simp only [exec] at performed
          split at performed
          · cases performed
            exact .inl (unmoved rfl)
          simp only [execCall] at performed
          split at performed
          next value db executed =>
            cases performed
            obtain ⟨id, inserted, -, -⟩ := Db.insertUser_eq_some executed
            have rows := (Table.insert_eq_some inserted).2.1
            have opens := Db.insertUser_opens executed
            refine .inr ⟨_, rows, ?_, fun keyed => keyed.opens opens⟩
            rw [PoolState.advance, rows, List.drop_left]
            rfl
          · cases performed
            exact .inl (unmoved rfl)
      | _ => exact permitted.elim
    | _ =>
      refine .inl (unmoved (reading ?_))
      intro s equal
      cases equal
  | fileExists path =>
    obtain ⟨env, count, w, -, performed, rfl⟩ := step
    simp only [exec] at performed
    split at performed <;> (cases performed; exact .inl (unmoved rfl))
  | createDirectory path =>
    obtain ⟨env, count, w, -, performed, rfl⟩ := step
    simp only [exec] at performed
    split at performed <;> (cases performed; exact .inl (unmoved rfl))
  | openOut path =>
    obtain ⟨env, count, w, -, performed, rfl⟩ := step
    simp only [exec] at performed
    split at performed <;> (cases performed; exact .inl (unmoved rfl))
  | closeOut path =>
    obtain ⟨env, count, w, -, performed, rfl⟩ := step
    simp only [exec] at performed
    split at performed <;> (cases performed; exact .inl (unmoved rfl))
  | _ =>
    obtain ⟨env, count, w, -, performed, rfl⟩ := step
    cases performed
    exact .inl (unmoved rfl)

section Registrations

variable {sys : System} {outcome : Nat → DBManager.ConnectOutcome} {poolSize : Nat} {w : World}
  {requests : ι → HttpRequest}
  {c : Config ι Effect Effect.Reply Exn (fun _ : HttpRequest => HttpResponse) (PoolState ι)}

theorem registerInit_holds :
    (registerProtocol ι sys (DBManager.construct outcome poolSize)).Holds
      (registerThreads ι sys) (registerInit sys outcome poolSize w requests) := by
  refine ⟨(daoInit_holds sys outcome poolSize w).inv, fun i => ?_⟩
  refine ⟨_, PoolRely.refl i _, ?_⟩
  have sees : Sees i none none false [] (registerInit sys outcome poolSize w requests).shared :=
    ⟨rfl, rfl, by simp, rfl⟩
  apply Safe.mono (safe_handleRegister sees)
  rintro result b ⟨more, waited, sees, outcome⟩
  refine ⟨sees.popped, sees.guarded, ?_⟩
  rw [sees.rows]
  exact outcome

/-- The users of the start are still there, followed by the rows of the threads. -/
theorem registered_users (keyed : w.db.registry.Keyed sys.collate)
    (reach : (registerThreads ι sys).Reachable (registerInit sys outcome poolSize w requests) c) :
    c.shared.world.db.registry.Keyed sys.collate ∧
      c.shared.world.db.users.rows = w.db.users.rows ++ c.shared.inserted.map Prod.snd := by
  induction reach with
  | init => exact ⟨keyed, (List.append_nil _).symm⟩
  | move reach move ih =>
    obtain ⟨keyed, rows⟩ := ih
    have holds := registerInit_holds.reachable (registerProtocol_sound sys _) reach
    cases move with
    | start idle starts => exact starts.elim
    | @act i job effect rest reply after runs step =>
      -- A step that inserts a row notes it under the thread, and no other step does.
      rcases registerStep_users (holds.pre runs) step with ⟨users, same⟩ | ⟨row, more, own, keeps⟩
      · refine ⟨?_, ?_⟩
        · rw [Db.registry, users]
          exact keyed
        · rw [users, same]
          exact rows
      · refine ⟨keeps keyed, ?_⟩
        rw [more, own, rows, List.map_append, List.append_assoc]
        rfl

theorem mem_rowsBy {s : PoolState ι} {i : ι} {row : UserRow} :
    row ∈ s.rowsBy i ↔ (i, row) ∈ s.inserted := by
  simp only [PoolState.rowsBy, List.mem_filterMap, Option.ite_none_right_eq_some,
    Option.some.injEq]
  constructor
  · rintro ⟨⟨j, other⟩, member, rfl, rfl⟩
    exact member
  · intro member
    exact ⟨(i, row), member, rfl, rfl⟩

/-- A key of `users` tells the rows of different threads apart. -/
theorem inserted_ne {κ : Type} {key : Account → κ} {s : PoolState ι} {before : List UserRow}
    (unique : s.world.db.registry.Unique key)
    (users : s.world.db.users.rows = before ++ s.inserted.map Prod.snd) {i j : ι}
    (differs : i ≠ j) {row other : UserRow} (own : row ∈ s.rowsBy i)
    (foreign : other ∈ s.rowsBy j) :
    key row.account ≠ key other.account := by
  intro same
  have distinct : (s.inserted.map (key ∘ UserRow.account ∘ Prod.snd)).Nodup := by
    have keys : ((s.world.db.users.rows.map UserRow.account).map key).Nodup := unique
    simp only [users, List.map_append, List.map_map] at keys
    exact keys.of_append_right
  have entry := List.inj_on_of_nodup_map distinct (mem_rowsBy.mp own) (mem_rowsBy.mp foreign) same
  exact differs (congrArg Prod.fst entry)

/-- However the registrations are interleaved: a request answered 200 has added one row, with
the names it asked for, and is told the id of that row; any other request that has ended has
added none. Rows of different requests differ in their ids, usernames and emails, so no two
requests are answered 200 for one username or one email. The users of the start stay, followed
by the rows of the requests. -/
theorem registrations_serialized (keyed : w.db.registry.Keyed sys.collate)
    (reach : (registerThreads ι sys).Reachable (registerInit sys outcome poolSize w requests) c) :
    (∀ i req res, c.threads i = some ⟨req, .ret res⟩ → res.status = .ok →
      ∃ form row, registerForm sys req = some form ∧ c.shared.rowsBy i = [row] ∧
        row.username = form.username ∧ row.email = form.email ∧
        res = UserHandler.registered req.version row.id) ∧
    (∀ i req res, c.threads i = some ⟨req, .ret res⟩ → res.status ≠ .ok →
      c.shared.rowsBy i = []) ∧
    (∀ i req exn, c.threads i = some ⟨req, .raise exn⟩ → c.shared.rowsBy i = []) ∧
    (∀ i j row other, i ≠ j → row ∈ c.shared.rowsBy i → other ∈ c.shared.rowsBy j →
      row.id ≠ other.id ∧ sys.collate row.username ≠ sys.collate other.username ∧
        sys.collate row.email ≠ sys.collate other.email) ∧
    (∀ i j req again res res' form form', c.threads i = some ⟨req, .ret res⟩ →
      res.status = .ok → c.threads j = some ⟨again, .ret res'⟩ → res'.status = .ok →
      registerForm sys req = some form → registerForm sys again = some form' →
      sys.collate form.username = sys.collate form'.username ∨
        sys.collate form.email = sys.collate form'.email → i = j) ∧
    c.shared.world.db.users.rows = w.db.users.rows ++ c.shared.inserted.map Prod.snd := by
  obtain ⟨keyed, users⟩ := registered_users keyed reach
  have sound : (registerProtocol ι sys _).Sound (registerThreads ι sys) :=
    registerProtocol_sound sys (DBManager.construct outcome poolSize)
  have holds := registerInit_holds.reachable sound reach
  have answered (i : ι) (req : HttpRequest) (res : HttpResponse)
      (returned : c.threads i = some ⟨req, .ret res⟩) (status : res.status = .ok) :
      ∃ form row, registerForm sys req = some form ∧ c.shared.rowsBy i = [row] ∧
        row.username = form.username ∧ row.email = form.email ∧
        res = UserHandler.registered req.version row.id := by
    obtain ⟨-, -, ⟨form, row, read, rows, name, mail, equal⟩ | ⟨-, never⟩⟩ :=
      holds.post sound returned
    · cases equal
      exact ⟨form, row, read, rows, name, mail, rfl⟩
    · exact absurd status (never res rfl)
  have apart (i j : ι) (row other : UserRow) (differs : i ≠ j) (own : row ∈ c.shared.rowsBy i)
      (foreign : other ∈ c.shared.rowsBy j) : row.id ≠ other.id ∧
        sys.collate row.username ≠ sys.collate other.username ∧
          sys.collate row.email ≠ sys.collate other.email :=
    ⟨inserted_ne keyed.ids.unique users differs own foreign,
      inserted_ne keyed.usernames users differs own foreign,
      inserted_ne keyed.emails users differs own foreign⟩
  refine ⟨answered, ?_, ?_, apart, ?_, users⟩
  · intro i req res returned status
    obtain ⟨-, -, ⟨form, row, -, -, -, -, equal⟩ | ⟨none, -⟩⟩ := holds.post sound returned
    · cases equal
      exact absurd rfl status
    · exact none
  · intro i req exn raised
    obtain ⟨-, -, ⟨form, row, -, -, -, -, equal⟩ | ⟨none, -⟩⟩ := holds.post_raise sound raised
    · cases equal
    · exact none
  · intro i j req again res res' form form' returned status returned' status' read read' same
    -- Two rows under one name or email would break a UNIQUE key.
    by_contra differs
    obtain ⟨own, row, readOwn, rows, name, mail, -⟩ := answered i req res returned status
    obtain ⟨foreign, other, readForeign, rows', name', mail', -⟩ :=
      answered j again res' returned' status'
    cases readOwn.symm.trans read
    cases readForeign.symm.trans read'
    obtain ⟨-, names, mails⟩ := apart i j row other differs (by rw [rows]; simp)
      (by rw [rows']; simp)
    rw [name, name'] at names
    rw [mail, mail'] at mails
    exact same.elim names mails

end Registrations

/-! ### Two requests at the same time -/

section Race

open Reference

/-- A request for a username and an email; the code in the store fits it. -/
def raceRequest : HttpRequest :=
  request .post "/users/register" [("username", "bob"), ("password", "x"), ("email", "a@b.c"),
    ("verify_code", "000000")] ""

def raceWorld : World where
  codes := ({} : CodeStore).assign "a@b.c" ⟨"000000", 1000, "register"⟩

/-- Both threads check the username before one of them inserts. -/
def raceSchedule : List (Fin 2 × Env × Nat) :=
  List.replicate 11 (0, env 0, 0) ++ List.replicate 11 (1, env 0, 0) ++
    List.replicate 13 (0, env 0, 0) ++ List.replicate 13 (1, env 0, 0)

def raceEnd : Config (Fin 2) Effect Effect.Reply Exn (fun _ : HttpRequest => HttpResponse)
    (PoolState (Fin 2)) :=
  (registerInit system (fun _ => .connected) 2 raceWorld fun _ => raceRequest).runSchedule
    (poolExec system) raceSchedule

theorem raceEnd_answers :
    (raceEnd.threads 0).returned?.map (·.2.status) = some Status.ok ∧
      (raceEnd.threads 1).returned?.map (·.2.status) = some Status.internalServerError := by
  decide +kernel

theorem raceEnd_reachable : (registerThreads (Fin 2) system).Reachable
    (registerInit system (fun _ => .connected) 2 raceWorld fun _ => raceRequest) raceEnd := by
  refine Concurrent.Reachable.init.runSchedule raceSchedule fun i choice member effect a => ?_
  have reference : choice = (env 0, 0) := by
    simp only [raceSchedule, List.mem_append, List.mem_replicate, Prod.mk.injEq] at member
    tauto
  have calm : choice.1.Calm := by
    rw [reference]
    exact fun _ => rfl
  exact poolStep_poolExec calm effect a

/-- One of them is answered 200 and has its row. The other one has none. -/
theorem registrations_serialized_race :
    (∃ row, raceEnd.shared.rowsBy 0 = [row]) ∧ raceEnd.shared.rowsBy 1 = [] := by
  obtain ⟨answered, refused, -⟩ := registrations_serialized Registry.Keyed.empty raceEnd_reachable
  obtain ⟨first, second⟩ := raceEnd_answers
  obtain ⟨⟨req, res⟩, returned, status⟩ := Option.map_eq_some_iff.mp first
  obtain ⟨⟨req', res'⟩, returned', status'⟩ := Option.map_eq_some_iff.mp second
  constructor
  · obtain ⟨form, row, -, rows, -⟩ :=
      answered 0 req res (Thread.returned?_eq_some.mp returned) status
    exact ⟨row, rows⟩
  · refine refused 1 req' res' (Thread.returned?_eq_some.mp returned') ?_
    intro ok
    rw [ok] at status'
    cases status'

end Race

end MusicPlayer
