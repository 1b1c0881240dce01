import MusicPlayer.Properties.CodeStore
import MusicPlayer.Properties.DataAccess
import MusicPlayer.Properties.Registry
import MusicPlayer.Properties.Discipline
import MusicPlayer.Server.Run

/-!
# What a request can do

For each handler, what it answers and what it changes, in every environment. A request is
summed up by the form it presents and by the account its token names. `Change` puts the
handlers together: whatever a routed request does to the registry and to the codes is one of
its four cases.
-/
namespace MusicPlayer

open Resumption Program Relational JsonUtil

/-! ### Forms -/

structure SendForm where
  email : String
  action : String
  deriving DecidableEq

structure RegisterForm where
  username : String
  password : String
  email : String
  verifyCode : String
  deriving DecidableEq

structure LoginForm where
  username : String
  password : String
  deriving DecidableEq

structure ChangeForm where
  newPassword : String
  verifyCode : String
  email : String
  deriving DecidableEq

def sendForm (sys : System) (req : HttpRequest) : Option SendForm := do
  let j ← sys.parse req.body
  return ⟨← j.string? "email", ← j.string? "action"⟩

def registerForm (sys : System) (req : HttpRequest) : Option RegisterForm := do
  let j ← sys.parse req.body
  return ⟨← j.string? "username", ← j.string? "password", ← j.string? "email",
    ← j.string? "verify_code"⟩

def loginForm (sys : System) (req : HttpRequest) : Option LoginForm := do
  let j ← sys.parse req.body
  return ⟨← j.string? "username", ← j.string? "password"⟩

def changeForm (sys : System) (req : HttpRequest) : Option ChangeForm := do
  let j ← sys.parse req.body
  return ⟨← j.string? "new_password", ← j.string? "verify_code", ← j.string? "email"⟩

/-- The mail a request has delivered, if it is a request for a code. -/
def mailOf (sys : System) (env : Env) (req : HttpRequest) : Option Sent := do
  guard (routeOf req = .verifyCode)
  let form ← sendForm sys req
  guard (UserHandler.isValidEmail form.email &&
    (form.action == "register" || form.action == "reset_password"))
  mailed? env form.email form.action

theorem Json.contains_of_string? {j : Json} {key s : String} (read : j.string? key = some s) :
    j.contains key = true := by
  cases j with
  | object members =>
    simp only [Json.string?] at read
    cases found : members.lookup key with
    | none => simp [found] at read
    | some value =>
      rw [Json.contains, List.any_eq_true]
      obtain ⟨before, after, rfl, -⟩ := List.lookup_eq_some_iff.mp found
      exact ⟨(key, value), by simp, beq_self_eq_true key⟩
  | _ => cases read

namespace UserHandler

variable {sys : System} {env : Env} {w : World}

/-- A result as it leaves the `catch` clauses of a handler: an exception becomes some answer
that is not 200. -/
def answered (post : Except Exn HttpResponse → World → Prop) :
    Except Exn HttpResponse → World → Prop
  | .ok res, w => post (.ok res) w
  | .error .nullDeref, w => post (.error .nullDeref) w
  | .error .danglingRead, w => post (.error .danglingRead) w
  | .error _, w => ∀ res : HttpResponse, res.status ≠ .ok → post (.ok res) w

theorem wp_catching {version : Nat} {body : Prog HttpResponse}
    {post : Except Exn HttpResponse → World → Prop}
    (wp : body.Wp (Step sys env) (answered post) w) :
    (catching version body).Wp (Step sys env) post w := by
  rw [catching, wp_tryCatch]
  refine wp.mono fun result after outcome => ?_
  cases result with
  | ok res => exact outcome
  | error exn =>
    cases exn with
    | nullDeref => exact outcome
    | danglingRead => exact outcome
    | _ => exact outcome _ (by simp)

theorem wp_parseBody_bind {req : HttpRequest} {next : Json → Prog HttpResponse}
    {post : Except Exn HttpResponse → World → Prop}
    (rejected : sys.parse req.body = none → ∀ res : HttpResponse, res.status ≠ .ok →
      post (.ok res) w)
    (parsed : ∀ j, sys.parse req.body = some j → (next j).Wp (Step sys env) (answered post) w) :
    ((parseBody sys req).bind next).Wp (Step sys env) (answered post) w := by
  rw [parseBody]
  cases body : sys.parse req.body with
  | none => exact rejected body
  | some j => exact parsed j body

theorem wp_stringField_bind {j : Json} {key : String} {next : String → Prog HttpResponse}
    {post : Except Exn HttpResponse → World → Prop}
    (rejected : j.string? key = none → ∀ res : HttpResponse, res.status ≠ .ok → post (.ok res) w)
    (read : ∀ s, j.string? key = some s → (next s).Wp (Step sys env) (answered post) w) :
    ((stringField j key).bind next).Wp (Step sys env) (answered post) w := by
  rw [stringField]
  cases value : j.string? key with
  | none => exact rejected value
  | some s => exact read s value

/-- The check of the token in front of a handler. -/
theorem wp_authenticate {req : HttpRequest} {next : String → Prog HttpResponse}
    {post : Except Exn HttpResponse → World → Prop}
    (rejected : ∀ res : HttpResponse, res.status ≠ .ok → post (.ok res) w)
    (accepted : JWTUtil.accepts sys env (req.field "Authorization") = true →
      (req.field "Authorization").isEmpty = false →
      (next (req.field "Authorization")).Wp (Step sys env) (answered post) w) :
    ((JWTUtil.verifyToken sys (req.field "Authorization")).bind fun token =>
      if token.isEmpty = true then
        .ret (buildErrorResponse .unauthorized req.version "Invalid token")
      else next token).Wp (Step sys env) (answered post) w := by
  rw [wp_bind, JWTUtil.wp_verifyToken]
  cases valid : JWTUtil.accepts sys env (req.field "Authorization") with
  | false => exact rejected _ (by simp)
  | true =>
    simp only [if_true]
    split
    next => exact rejected _ (by simp)
    next nonempty => exact accepted valid (by simpa using nonempty)

/-- Reading the id of an accepted token. -/
theorem wp_tokenUserId_bind {req : HttpRequest} {next : Int32 → Prog HttpResponse}
    {post : Except Exn HttpResponse → World → Prop}
    (accepted : JWTUtil.accepts sys env (req.field "Authorization") = true)
    (nonempty : (req.field "Authorization").isEmpty = false)
    (rejected : ∀ res : HttpResponse, res.status ≠ .ok → post (.ok res) w)
    (named : ∀ userId, caller sys env req = some userId →
      (next userId).Wp (Step sys env) (answered post) w) :
    ((tokenUserId sys (req.field "Authorization")).bind next).Wp (Step sys env) (answered post)
      w := by
  rw [wp_bind, JWTUtil.wp_tokenUserId]
  cases id : JWTUtil.tokenId? sys (req.field "Authorization") with
  | none => exact rejected
  | some userId =>
    apply named userId
    simp only [caller, accepted, nonempty, id, Bool.not_false, Bool.and_self, if_true]

/-- A code is stored exactly when a mail was delivered. -/
theorem wp_handleGetVerifyCode {req : HttpRequest} {post : Except Exn HttpResponse → World → Prop}
    (route : routeOf req = .verifyCode)
    (done : ∀ res, post (.ok res) { w with codes := w.codes.record sys (mailOf sys env req) }) :
    (handleGetVerifyCode sys req).Wp (Step sys env) post w := by
  have unsent (nothing : mailOf sys env req = none) (res : HttpResponse) : post (.ok res) w := by
    have same := done res
    rw [nothing] at same
    exact same
  have unread (missing : sendForm sys req = none) (res : HttpResponse) : post (.ok res) w :=
    unsent (by simp [mailOf, missing]) res
  refine wp_catching (wp_parseBody_bind (fun failed res _ => ?_) fun j parsed => ?_)
  · exact unread (by simp [sendForm, failed]) res
  split
  -- `contains` says that a member is missing, so the form cannot be read either.
  next absent =>
    refine unread ?_ _
    cases readEmail : j.string? "email" with
    | none => simp [sendForm, parsed, readEmail]
    | some email =>
      cases readAction : j.string? "action" with
      | none => simp [sendForm, parsed, readEmail, readAction]
      | some action =>
        simp [Json.contains_of_string? readEmail, Json.contains_of_string? readAction] at absent
  refine wp_stringField_bind (fun failed res _ => unread (by simp [sendForm, parsed, failed]) res)
    fun email readEmail => ?_
  refine wp_stringField_bind
    (fun failed res _ => unread (by simp [sendForm, parsed, readEmail, failed]) res)
    fun action readAction => ?_
  have form : sendForm sys req = some ⟨email, action⟩ := by
    simp [sendForm, parsed, readEmail, readAction]
  split
  -- No mail goes to an address that is none, nor for an unknown action.
  next invalid => exact unsent (by simp_all [mailOf]) _
  next valid =>
  split
  next allowed =>
    have mail : mailOf sys env req = mailed? env email action := by
      simp_all [mailOf]
    rw [mail] at done
    simp only [bind_eq, wp_bind, wp_sendVerifyCode]
    split
    · exact done _
    · exact done _
  next unknown => exact unsent (by simp_all [mailOf]) _

/-- The answer of a registration, with the id of the new user. -/
def registered (version : Nat) (userId : Int32) : HttpResponse :=
  buildSuccessResponse version (.object [("code", .numberInteger 200),
    ("message", .string "User registered successfully"),
    ("user_id", .numberInteger userId.toInt)])

theorem wp_handleRegister {req : HttpRequest} {post : Except Exn HttpResponse → World → Prop}
    (crashes : ¬env.Faultless → post (.error .nullDeref) w)
    (rejected : ∀ res : HttpResponse, res.status ≠ .ok → post (.ok res) w)
    (inserted : ∀ form ctx count db, registerForm sys req = some form →
      judge (w.codes.info? form.email) (env.clock .verifyCode) "register" form.verifyCode = true →
      env.Context sys ctx →
      w.db.insertUser ctx form.username (PasswordUtil.hashPassword sys.sha256 form.password)
        form.email = some (count, db) →
      post (.ok (registered req.version (db.lastInsertId ctx.conn))) { w with db } ∧
      (¬env.Faultless → ∀ res : HttpResponse, res.status ≠ .ok → post (.ok res) { w with db })) :
    (handleRegister sys req).Wp (Step sys env) post w := by
  refine wp_catching (wp_parseBody_bind (fun _ => rejected) fun j parsed => ?_)
  split
  next => exact rejected _ (by simp)
  refine wp_stringField_bind (fun _ => rejected) fun username readUsername => ?_
  refine wp_stringField_bind (fun _ => rejected) fun password readPassword => ?_
  refine wp_stringField_bind (fun _ => rejected) fun email readEmail => ?_
  refine wp_stringField_bind (fun _ => rejected) fun verifyCode readCode => ?_
  have form : registerForm sys req = some ⟨username, password, email, verifyCode⟩ := by
    simp [registerForm, parsed, readUsername, readPassword, readEmail, readCode]
  simp only [bind_eq, wp_bind, wp_verifyCode]
  cases accepted : judge (w.codes.info? email) (env.clock .verifyCode) "register" verifyCode with
  | false => exact rejected _ (by simp)
  | true =>
    simp only [Bool.not_true, Bool.false_eq_true, if_false, wp_bind]
    -- A lookup that fails looks like a free name; the INSERT decides.
    refine UserDAO.wp_getUserByUsername username crashes (fun _ => ?_)
      fun row _ _ => rejected _ (by simp)
    simp only [Option.isSome_none, Bool.false_eq_true, if_false, wp_bind]
    refine UserDAO.wp_createUser _ crashes (rejected _ (by simp)) ?_
    intro ctx count db sees executed
    obtain ⟨answers, loses⟩ := inserted _ ctx count db form accepted sees executed
    exact ⟨answers, fun faulty => loses faulty _ (by simp)⟩

/-- The answer of a login. -/
def loggedIn (sys : System) (env : Env) (version : Nat) (user : User) : HttpResponse :=
  (buildSuccessResponse version (.object [("code", .numberInteger 200),
    ("message", .string "Login successful"), ("user", userJson user)])).set "Authorization"
    (sys.jwt.sign sys.jwtSecret (JWTUtil.buildToken (env.clock .generateToken) user.username
      (loginClaims user) loginLifetime))

theorem wp_handleLogin {req : HttpRequest} {post : Except Exn HttpResponse → World → Prop}
    (crashes : ¬env.Faultless → post (.error .nullDeref) w)
    (rejected : (env.Faultless → ∀ form, loginForm sys req = some form →
        (∀ row ∈ w.db.users.rows, sys.collate row.username ≠ sys.collate form.username) ∨
        ∃ row ∈ w.db.users.rows, sys.collate row.username = sys.collate form.username ∧
          PasswordUtil.verifyPassword sys.sha256 form.password row.passwdHash = false) →
      ∀ res : HttpResponse, res.status ≠ .ok → post (.ok res) w)
    (accepted : ∀ form, ∀ row ∈ w.db.users.rows, loginForm sys req = some form →
      sys.collate row.username = sys.collate form.username →
      PasswordUtil.verifyPassword sys.sha256 form.password row.passwdHash = true →
      post (.ok (loggedIn sys env req.version (row.toUser sys))) w) :
    (handleLogin sys req).Wp (Step sys env) post w := by
  have illFormed (missing : loginForm sys req = none) :
      ∀ res : HttpResponse, res.status ≠ .ok → post (.ok res) w := by
    refine rejected fun _ form equal => ?_
    rw [missing] at equal
    cases equal
  refine wp_catching (wp_parseBody_bind (fun failed => ?_) fun j parsed => ?_)
  · exact illFormed (by simp [loginForm, failed])
  split
  next absent =>
    refine illFormed ?_ _ (by simp)
    cases readUsername : j.string? "username" with
    | none => simp [loginForm, parsed, readUsername]
    | some username =>
      cases readPassword : j.string? "password" with
      | none => simp [loginForm, parsed, readUsername, readPassword]
      | some password =>
        simp [Json.contains_of_string? readUsername, Json.contains_of_string? readPassword]
          at absent
  refine wp_stringField_bind (fun failed => illFormed (by simp [loginForm, parsed, failed]))
    fun username readUsername => ?_
  refine wp_stringField_bind
    (fun failed => illFormed (by simp [loginForm, parsed, readUsername, failed]))
    fun password readPassword => ?_
  have form : loginForm sys req = some ⟨username, password⟩ := by
    simp [loginForm, parsed, readUsername, readPassword]
  have only {other : LoginForm} (equal : loginForm sys req = some other) :
      other = ⟨username, password⟩ := Option.some.inj (equal.symm.trans form)
  simp only [bind_eq, wp_bind]
  -- Without failures no row means that there is none of the name.
  refine UserDAO.wp_getUserByUsername username crashes (fun absent => ?_) fun row member same => ?_
  · refine rejected (fun faultless other equal => .inl ?_) _ (by simp)
    rw [only equal]
    exact absent faultless
  · cases verified : PasswordUtil.verifyPassword sys.sha256 password row.passwdHash with
    | false =>
      simp only [UserRow.toUser, verified]
      refine rejected (fun _ other equal => .inr ⟨row, member, ?_⟩) _ (by simp)
      rw [only equal]
      exact ⟨same, verified⟩
    | true =>
      simp only [UserRow.toUser, verified, JWTUtil.generateToken, trigger, bind_eq, act_bind,
        ret_bind, wp_bind, wp_now, Bool.not_true, Bool.false_eq_true, if_false]
      exact accepted _ row member form same verified

theorem wp_handleChangePassword {req : HttpRequest}
    {post : Except Exn HttpResponse → World → Prop}
    (crashes : ¬env.Faultless → post (.error .nullDeref) w)
    (rejected : ∀ res : HttpResponse, res.status ≠ .ok → post (.ok res) w)
    (changed : ∀ form userId ctx count db res, changeForm sys req = some form →
      caller sys env req = some userId →
      judge (w.codes.info? form.email) (env.clock .verifyCode) "reset_password" form.verifyCode =
        true →
      env.Context sys ctx →
      Statement.exec ctx w.db (.updatePassword
        (PasswordUtil.hashPassword sys.sha256 form.newPassword) userId) = some (count, db) →
      res.status = .ok → post (.ok res) { w with db }) :
    (handleChangePassword sys req).Wp (Step sys env) post w := by
  refine wp_catching (wp_parseBody_bind (fun _ => rejected) fun j parsed => ?_)
  split
  next => exact rejected _ (by simp)
  refine wp_authenticate rejected fun valid nonempty => ?_
  refine wp_tokenUserId_bind valid nonempty rejected fun userId named => ?_
  refine wp_stringField_bind (fun _ => rejected) fun newPassword readPassword => ?_
  refine wp_stringField_bind (fun _ => rejected) fun verifyCode readCode => ?_
  refine wp_stringField_bind (fun _ => rejected) fun email readEmail => ?_
  have form : changeForm sys req = some ⟨newPassword, verifyCode, email⟩ := by
    simp [changeForm, parsed, readPassword, readCode, readEmail]
  simp only [bind_eq, wp_bind, wp_verifyCode]
  -- The code is checked before the row is touched.
  cases accepted : judge (w.codes.info? email) (env.clock .verifyCode) "reset_password"
      verifyCode with
  | false => exact rejected _ (by simp)
  | true =>
    simp only [Bool.not_true, Bool.false_eq_true, if_false, wp_bind]
    refine UserDAO.wp_updateColumn _ _ _ _ crashes (rejected _ (by simp)) ?_
    intro ctx count db sees executed
    exact changed _ userId ctx count db _ form named accepted sees executed (by simp)

end UserHandler

/-! ### What a request does to the registry and to the codes -/

/-- An effect that touches neither the codes nor the registry. -/
def Effect.Quiet (effect : Effect) : Prop :=
  ∀ sys env count w, (exec sys env count effect w).2.codes = w.codes ∧
    (exec sys env count effect w).2.db.registry = w.db.registry

def Statement.Quiet (s : Statement) : Prop :=
  ∀ ctx db reply after, s.exec ctx db = some (reply, after) → after.registry = db.registry

theorem quiet_execute {conn : Option Conn} {s : Statement} (quiet : s.Quiet) :
    (Effect.connector conn (.execute s)).Quiet := by
  intro sys env count w
  cases conn with
  | none => exact ⟨rfl, rfl⟩
  | some k =>
    simp only [exec]
    split
    · exact ⟨rfl, rfl⟩
    simp only [execCall]
    split
    next reply db executed => exact ⟨rfl, quiet _ _ _ _ executed⟩
    · exact ⟨rfl, rfl⟩

theorem quiet_grants : Grants Effect.Quiet Statement.Quiet where
  clock _ _ _ _ _ := ⟨rfl, rfl⟩
  lockPool _ _ _ _ := ⟨rfl, rfl⟩
  waitFor _ _ _ _ := ⟨rfl, rfl⟩
  constructGuard _ _ _ _ _ := ⟨rfl, rfl⟩
  releaseConnection _ _ _ _ _ := ⟨rfl, rfl⟩
  connector conn c quiet := by
    cases c with
    | execute s => exact quiet_execute (quiet s rfl)
    | _ =>
      intro sys env count w
      cases conn with
      | none => exact ⟨rfl, rfl⟩
      | some k =>
        simp only [exec]
        split
        · exact ⟨rfl, rfl⟩
        · exact ⟨rfl, rfl⟩
  reserve _ _ _ _ _ := ⟨rfl, rfl⟩

theorem quiet_avatarEffect {userId : Int32} {effect : Effect}
    (avatar : AvatarEffect userId effect) :
    effect.Quiet := by
  intro sys env count w
  cases effect with
  | fileExists path => simp only [exec]; split <;> exact ⟨rfl, rfl⟩
  | createDirectory path => simp only [exec]; split <;> exact ⟨rfl, rfl⟩
  | openOut path => simp only [exec]; split <;> exact ⟨rfl, rfl⟩
  | writeFile path data => exact ⟨rfl, rfl⟩
  | closeOut path => simp only [exec]; split <;> exact ⟨rfl, rfl⟩
  | closeFile path => exact ⟨rfl, rfl⟩
  | openIn path => exact ⟨rfl, rfl⟩
  | readFile path => exact ⟨rfl, rfl⟩
  | _ => exact avatar.elim

/-- A program that performs quiet effects only. -/
theorem Performs.wp_quiet {α : Type} {sys : System} {env : Env} {prog : Prog α} {w : World}
    (performs : prog.Performs Effect.Quiet) : prog.Wp (Step sys env) (fun _ after =>
      after.codes = w.codes ∧ after.db.registry = w.db.registry) w := by
  refine wp_of_performs (fun after =>
    after.codes = w.codes ∧ after.db.registry = w.db.registry) performs ?_ ⟨rfl, rfl⟩
  rintro effect count before quiet ⟨codes, registry⟩
  obtain ⟨codes', registry'⟩ := quiet sys env count before
  exact ⟨codes'.trans codes, registry'.trans registry⟩

/-- What a routed request does to the registry and to the codes. -/
inductive Change (sys : System) (env : Env) (req : HttpRequest) (before : World) :
    Except Exn HttpResponse → World → Prop where
  /-- Login, profile, avatars and bindings. -/
  | quiet {result : Except Exn HttpResponse} {after : World}
      (route : routeOf req ≠ .register ∧ routeOf req ≠ .password ∧ routeOf req ≠ .verifyCode)
      (codes : after.codes = before.codes) (registry : after.db.registry = before.db.registry) :
      Change sys env req before result after
  /-- A request for a code, which is stored if it was mailed. -/
  | mailed (res : HttpResponse) (route : routeOf req = .verifyCode) :
      Change sys env req before (.ok res)
        { before with codes := before.codes.record sys (mailOf sys env req) }
  /-- A registration or password change that is not answered 200 and did nothing. -/
  | rejected {result : Except Exn HttpResponse}
      (route : routeOf req = .register ∨ routeOf req = .password)
      (failed : ∀ res, result = .ok res → res.status ≠ .ok) :
      Change sys env req before result before
  /-- A registration whose INSERT was accepted. It is answered 200 unless a later call to the
  database fails. -/
  | registered {form : RegisterForm} {ctx : SqlContext} {count : Nat} {db : Db}
      {result : Except Exn HttpResponse} (route : routeOf req = .register)
      (presents : registerForm sys req = some form)
      (accepted : judge (before.codes.info? form.email) (env.clock .verifyCode) "register"
        form.verifyCode = true)
      (sees : env.Context sys ctx)
      (executed : before.db.insertUser ctx form.username
        (PasswordUtil.hashPassword sys.sha256 form.password) form.email = some (count, db))
      (answer : result = .ok (UserHandler.registered req.version (db.lastInsertId ctx.conn)) ∨
        ¬env.Faultless ∧ ∃ res, result = .ok res ∧ res.status ≠ .ok) :
      Change sys env req before result { before with db }
  /-- A password change whose UPDATE was accepted. -/
  | changed {form : ChangeForm} {userId : Int32} {ctx : SqlContext} {count : Nat} {db : Db}
      {res : HttpResponse} (route : routeOf req = .password)
      (presents : changeForm sys req = some form) (named : caller sys env req = some userId)
      (accepted : judge (before.codes.info? form.email) (env.clock .verifyCode) "reset_password"
        form.verifyCode = true)
      (sees : env.Context sys ctx)
      (executed : Statement.exec ctx before.db (.updatePassword
        (PasswordUtil.hashPassword sys.sha256 form.newPassword) userId) = some (count, db))
      (answer : res.status = .ok) :
      Change sys env req before (.ok res) { before with db }

theorem quiet_updateQQId (qqId : String) (id : Int32) :
    (Statement.updateQQId qqId id).Quiet := by
  intro ctx db reply after executed
  have keeps : ∀ row : UserRow, UserRow.account { row with qqId := some qqId } = row.account :=
    fun _ => rfl
  exact Db.updateUserRow_registry keeps executed

theorem quiet_updateNetEaseId (neteaseId : String) (id : Int32) :
    (Statement.updateNetEaseId neteaseId id).Quiet := by
  intro ctx db reply after executed
  have keeps : ∀ row : UserRow,
      UserRow.account { row with neteaseId := some neteaseId } = row.account := fun _ => rfl
  exact Db.updateUserRow_registry keeps executed

/-- Whatever a routed request does, in whatever environment, is one of these changes. -/
theorem serve_change (sys : System) (env : Env) (w : World) (req : HttpRequest) :
    Change sys env req w (serve sys env w req).1 (serve sys env w req).2 := by
  have reads {s : Statement} (same : ∀ ctx db reply after, s.exec ctx db = some (reply, after) →
      after = db) : s.Quiet := fun ctx db reply after executed =>
    congrArg Db.registry (same ctx db reply after executed)
  have quietly {prog : Prog HttpResponse} (route : routeOf req ≠ .register ∧
      routeOf req ≠ .password ∧ routeOf req ≠ .verifyCode) (performs : prog.Performs Effect.Quiet) :
      prog.Wp (Step sys env) (Change sys env req w) w :=
    (Performs.wp_quiet performs).mono fun _ _ kept => .quiet route kept.1 kept.2
  suffices wp : ((setupRoutes sys).handleRouter req).Wp (Step sys env) (Change sys env req w) w from
    runProg_of_wp wp
  -- One goal for each route, in the order of `setupRoutes`, and one for everything else.
  refine handleRouter_cases sys req (P := fun prog => prog.Wp (Step sys env) _ w)
    ?_ ?_ ?_ ?_ ?_ ?_ ?_ ?_ ?_
  · intro route
    have rejected : ∀ res : HttpResponse, res.status ≠ .ok → Change sys env req w (.ok res) w :=
      fun res status => .rejected (.inl route) fun other equal => by cases equal; exact status
    refine UserHandler.wp_handleRegister (fun _ => .rejected (.inl route) (by simp)) rejected ?_
    intro form ctx count db presents accepted sees executed
    -- The row may be stored although reading its id back fails.
    refine ⟨.registered route presents accepted sees executed (.inl rfl),
      fun faulty res status => ?_⟩
    exact .registered route presents accepted sees executed (.inr ⟨faulty, res, rfl, status⟩)
  · intro route
    exact UserHandler.wp_handleGetVerifyCode route fun res => .mailed res route
  · intro route
    refine quietly (by simp [route]) (UserHandler.handleLogin_performs quiet_grants fun _ => ?_)
    exact reads fun _ _ _ _ executed => by cases executed; rfl
  · intro route
    refine quietly (by simp [route])
      (UserHandler.handleGetProfile_performs quiet_grants fun _ _ => ?_)
    exact reads fun _ _ _ _ executed => by cases executed; rfl
  · intro route
    exact quietly (by simp [route]) (UserHandler.handleUpdateAvatar_performs quiet_grants.clock
      fun _ _ _ => quiet_avatarEffect)
  · intro route
    exact quietly (by simp [route]) (UserHandler.handleGetAvatar_performs quiet_grants.clock
      fun _ _ _ => quiet_avatarEffect)
  · intro route
    have rejected : ∀ res : HttpResponse, res.status ≠ .ok → Change sys env req w (.ok res) w :=
      fun res status => .rejected (.inr route) fun other equal => by cases equal; exact status
    refine UserHandler.wp_handleChangePassword (fun _ => .rejected (.inr route) (by simp))
      rejected ?_
    intro form userId ctx count db res presents named accepted sees executed answer
    exact .changed route presents named accepted sees executed answer
  · intro route
    refine quietly (by simp [route]) (UserHandler.handleBindPlatform_performs quiet_grants ?_)
    exact fun userId _ value => ⟨quiet_updateQQId value userId, quiet_updateNetEaseId value userId⟩
  · intro route res
    exact .quiet (by simp [route]) rfl rfl

end MusicPlayer
