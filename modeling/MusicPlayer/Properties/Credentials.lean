import MusicPlayer.Properties.Accounts

/-!
# Which password logs in

The password of a user is the one that its registration or a later password change set last.
Along every run the stored hash of every account is the hash of that password, and a login
compares with nothing else.
-/
namespace MusicPlayer

open Resumption Program Relational

/-! ### The journal of passwords -/

/-- The exchange created the row with an id. -/
def Creates (x : Exchange) (id : Int32) : Prop :=
  (∀ row ∈ x.before.db.users.rows, row.id ≠ id) ∧ ∃ row ∈ x.after.db.users.rows, row.id = id

instance (x : Exchange) (id : Int32) : Decidable (Creates x id) :=
  inferInstanceAs (Decidable (_ ∧ _))

/-- The password an exchange sets for a user: a registration that creates the row, or a
password change that is answered 200 and whose token names the user. -/
def passwordSet (sys : System) (id : Int32) (x : Exchange) : Option String :=
  match routeOf x.request with
  | .register =>
    if Creates x id then (registerForm sys x.request).map (·.password) else none
  | .password =>
    if x.Answered200 ∧ caller sys x.env x.request = some id then
      (changeForm sys x.request).map (·.newPassword)
    else none
  | _ => none

/-- The password that was set last, in a journal with the newest exchange first. -/
def latestPassword (sys : System) (journal : List Exchange) (id : Int32) : Option String :=
  journal.findSome? (passwordSet sys id)

/-- The hash of every account is that of the password set last. -/
def PasswordsCurrent (sys : System) (journal : List Exchange) (registry : Registry) : Prop :=
  ∀ account ∈ registry.rows, ∃ password, latestPassword sys journal account.id = some password ∧
    account.passwdHash = PasswordUtil.hashPassword sys.sha256 password

theorem latestPassword_of_set {sys : System} {journal : List Exchange} {x : Exchange} {id : Int32}
    {password : String} (set : passwordSet sys id x = some password) :
    latestPassword sys (x :: journal) id = some password := by
  simp only [latestPassword, List.findSome?_cons, set]

theorem latestPassword_of_unset {sys : System} {journal : List Exchange} {x : Exchange}
    {id : Int32} (unset : passwordSet sys id x = none) :
    latestPassword sys (x :: journal) id = latestPassword sys journal id := by
  simp only [latestPassword, List.findSome?_cons, unset]

theorem creates_iff {x : Exchange} {id : Int32} : Creates x id ↔
    (∀ account ∈ x.before.db.registry.rows, account.id ≠ id) ∧
      ∃ account ∈ x.after.db.registry.rows, account.id = id := by
  simp [Creates, Db.registry, Table.map, UserRow.account]

theorem passwordSet_of_register {sys : System} {x : Exchange} {form : RegisterForm} (id : Int32)
    (route : routeOf x.request = .register) (presents : registerForm sys x.request = some form) :
    passwordSet sys id x = if Creates x id then some form.password else none := by
  simp only [passwordSet, route, presents, Option.map_some]

theorem passwordSet_of_password {sys : System} {x : Exchange} {form : ChangeForm} (id : Int32)
    (route : routeOf x.request = .password) (presents : changeForm sys x.request = some form) :
    passwordSet sys id x =
      if x.Answered200 ∧ caller sys x.env x.request = some id then some form.newPassword
      else none := by
  simp only [passwordSet, route, presents, Option.map_some]

/-- No password is set by a request that creates no row and is not answered 200. -/
theorem passwordSet_of_rejected {sys : System} {x : Exchange} {id : Int32}
    (unchanged : x.after = x.before) (failed : ¬x.Answered200) : passwordSet sys id x = none := by
  have creates : ¬Creates x id := by
    rintro ⟨fresh, row, member, equal⟩
    rw [unchanged] at member
    exact fresh row member equal
  unfold passwordSet
  split
  · rw [if_neg creates]
  · rw [if_neg fun both => failed both.1]
  · rfl

/-- One request keeps the hashes and the journal in step. -/
theorem PasswordsCurrent.request {sys : System} {journal : List Exchange} {x : Exchange}
    (current : PasswordsCurrent sys journal x.before.db.registry)
    (change : Change sys x.env x.request x.before x.result x.after)
    (keyed : x.before.db.registry.Keyed sys.collate) :
    PasswordsCurrent sys (x :: journal) x.after.db.registry := by
  -- An account that is as it was keeps its password if `x` sets none for it.
  have kept {account : Account} (old : account ∈ x.before.db.registry.rows)
      (unset : passwordSet sys account.id x = none) : ∃ password,
      latestPassword sys (x :: journal) account.id = some password ∧
        account.passwdHash = PasswordUtil.hashPassword sys.sha256 password := by
    rw [latestPassword_of_unset unset]
    exact current account old
  intro account member
  generalize reached : x.after = after at change member
  generalize answered : x.result = result at change
  cases change with
  | quiet route codes registry =>
    rw [registry] at member
    exact kept member (by simp only [passwordSet]; split <;> simp_all)
  | mailed res route => exact kept member (by simp only [passwordSet, route])
  | rejected route failed =>
    refine kept member (passwordSet_of_rejected reached ?_)
    rintro ⟨res, equal, status⟩
    exact failed res (answered.symm.trans equal) status
  | registered route presents accepted sees executed answer =>
    have opens := Db.insertUser_opens executed
    rw [sees.1] at opens
    have set := passwordSet_of_register account.id route presents
    have member' := member
    rw [opens.rows, List.mem_append, List.mem_singleton] at member'
    rcases member' with old | own
    · -- The row was there before, so this request did not create it.
      apply kept old
      rw [set, if_neg fun creates => (creates_iff.mp creates).1 account old rfl]
    · have creates : Creates x account.id := by
        refine creates_iff.mpr ⟨?_, account, ?_, rfl⟩
        · rw [own]
          exact opens.fresh keyed
        · rw [reached]
          exact member
      rw [if_pos creates] at set
      refine ⟨_, latestPassword_of_set set, ?_⟩
      rw [own]
  | changed route presents named accepted sees executed answer =>
    rw [Db.updatePassword_registry executed, Registry.mem_setPassword] at member
    obtain ⟨old, present, equal⟩ := member
    have set := passwordSet_of_password account.id route presents
    split at equal
    next own =>
      have both : x.Answered200 ∧ caller sys x.env x.request = some account.id := by
        refine ⟨⟨_, answered, answer⟩, ?_⟩
        rw [named, equal, own]
      rw [if_pos both] at set
      refine ⟨_, latestPassword_of_set set, ?_⟩
      rw [equal]
    next other =>
      rw [← equal] at present other
      apply kept present
      rw [set, if_neg]
      rintro ⟨-, names⟩
      rw [named] at names
      exact other (Option.some.inj names).symm

theorem Run.passwordsCurrent {sys : System} {start w : World} {journal : List Exchange}
    (users : start.db.users.rows = []) (run : Run sys start journal w) :
    PasswordsCurrent sys journal w.db.registry := by
  induction run with
  | start =>
    rw [Db.registry, Table.map, users]
    simp [PasswordsCurrent]
  | @request journal w run env req ih =>
    exact PasswordsCurrent.request ih (exchange_change sys env w req)
      (run.keyed (keyed_of_empty users))
  | cleanup run env ih =>
    rw [cleanup_eq]
    exact ih

/-! ### Logging in -/

/-- The user id of the token that an answer carries. -/
def issuedTo (sys : System) (res : HttpResponse) : Option Int32 :=
  res.authorization.bind (JWTUtil.tokenId? sys)

/-- The token of a login names the id of the row. -/
theorem issuedTo_loggedIn {sys : System} (lawful : sys.jwt.Lawful) (env : Env) (version : Nat)
    (user : User) : issuedTo sys (UserHandler.loggedIn sys env version user) = some user.id := by
  have carries : (UserHandler.loggedIn sys env version user).authorization =
      some (sys.jwt.sign sys.jwtSecret (JWTUtil.buildToken (env.clock .generateToken) user.username
        (UserHandler.loginClaims user) UserHandler.loginLifetime)) := rfl
  have named : (JWTUtil.buildToken (env.clock .generateToken) user.username
      (UserHandler.loginClaims user) UserHandler.loginLifetime).payload.lookup "id" =
        some (.string (stdToString user.id)) := by
    simp [JWTUtil.buildToken, UserHandler.loginClaims, JWTUtil.setClaim, List.lookup_cons]
  simp only [issuedTo, carries, Option.bind_some, JWTUtil.tokenId?, lawful.decode_sign, named,
    atoi_stdToString]

/-- A login either meets a row of its username with its password, and gets the token of that
row, or it meets none or another password, and is not answered 200. -/
theorem login_cases {sys : System} {env : Env} {w : World} {req : HttpRequest} {form : LoginForm}
    (works : env.Faultless) (route : routeOf req = .login)
    (presents : loginForm sys req = some form) :
    (∃ row ∈ w.db.users.rows, sys.collate row.username = sys.collate form.username ∧
      PasswordUtil.verifyPassword sys.sha256 form.password row.passwdHash = true ∧
      (exchange sys env w req).result =
        .ok (UserHandler.loggedIn sys env req.version (row.toUser sys))) ∨
    ¬(exchange sys env w req).Answered200 ∧
      ((∀ row ∈ w.db.users.rows, sys.collate row.username ≠ sys.collate form.username) ∨
        ∃ row ∈ w.db.users.rows, sys.collate row.username = sys.collate form.username ∧
          PasswordUtil.verifyPassword sys.sha256 form.password row.passwdHash = false) := by
  have wp : ((setupRoutes sys).handleRouter req).Wp (Step sys env) (fun result _ =>
      (∃ row ∈ w.db.users.rows, sys.collate row.username = sys.collate form.username ∧
        PasswordUtil.verifyPassword sys.sha256 form.password row.passwdHash = true ∧
        result = .ok (UserHandler.loggedIn sys env req.version (row.toUser sys))) ∨
      (¬∃ res, result = .ok res ∧ res.status = .ok) ∧
        ((∀ row ∈ w.db.users.rows, sys.collate row.username ≠ sys.collate form.username) ∨
          ∃ row ∈ w.db.users.rows, sys.collate row.username = sys.collate form.username ∧
            PasswordUtil.verifyPassword sys.sha256 form.password row.passwdHash = false)) w := by
    -- Without failures the lookup meets every row of the name, or there is none.
    rw [handleRouter_eq rfl route]
    refine UserHandler.wp_handleLogin (fun faulty => absurd works faulty) ?_ ?_
    · intro cause res status
      right
      constructor
      · rintro ⟨other, equal, ok⟩
        cases equal
        exact status ok
      · exact cause works form presents
    · intro other row member presents' same verified
      cases Option.some.inj (presents.symm.trans presents')
      exact .inl ⟨row, member, same, verified, rfl⟩
  exact runProg_of_wp wp

/-- Rows of one username are rows of one account. -/
theorem account_of_username {collate : String → String} {db : Db}
    (keyed : db.registry.Keyed collate) {row other : UserRow} {username : String}
    (member : row ∈ db.users.rows) (same : collate row.username = collate username)
    (member' : other ∈ db.users.rows) (same' : collate other.username = collate username) :
    row.account = other.account :=
  keyed.usernames.eq_of_key (List.mem_map_of_mem member) (List.mem_map_of_mem member')
    (same.trans same'.symm)

/-- Starting without users, a login is answered 200 exactly when it presents the password that
was set last for the user of its username, and the token it gets names that user. -/
theorem login_iff_latestPassword {sys : System} {start w : World} {journal : List Exchange}
    (lawful : sys.jwt.Lawful) (users : start.db.users.rows = []) (run : Run sys start journal w)
    {env : Env} (works : env.Faultless) {req : HttpRequest} {form : LoginForm}
    (route : routeOf req = .login) (presents : loginForm sys req = some form) :
    ((exchange sys env w req).Answered200 ↔
      ∃ row ∈ w.db.users.rows, sys.collate row.username = sys.collate form.username ∧
        ∃ password, latestPassword sys journal row.id = some password ∧
          sys.sha256 form.password = sys.sha256 password) ∧
    ∀ res, (exchange sys env w req).result = .ok res → res.status = .ok →
      ∀ row ∈ w.db.users.rows, sys.collate row.username = sys.collate form.username →
        issuedTo sys res = some row.id := by
  have keyed := run.keyed (keyed_of_empty users)
  -- What the row of an account stores is the digest of the password set last.
  have digest {row : UserRow} (member : row ∈ w.db.users.rows) : ∃ password,
      latestPassword sys journal row.id = some password ∧
        (PasswordUtil.verifyPassword sys.sha256 form.password row.passwdHash = true ↔
          sys.sha256 form.password = sys.sha256 password) := by
    obtain ⟨password, last, stored⟩ :=
      run.passwordsCurrent users row.account (List.mem_map_of_mem member)
    have stored : row.passwdHash = PasswordUtil.hashPassword sys.sha256 password := stored
    refine ⟨password, last, ?_⟩
    rw [stored]
    exact PasswordUtil.verifyPassword_iff sys.sha256 form.password password
  rcases login_cases works route presents with
    ⟨row, member, same, verified, answer⟩ | ⟨failed, cause⟩
  · constructor
    · refine iff_of_true ⟨_, answer, rfl⟩ ⟨row, member, same, ?_⟩
      obtain ⟨password, last, equal⟩ := digest member
      exact ⟨password, last, equal.mp verified⟩
    · intro res equal _ other member' same'
      rw [answer] at equal
      cases equal
      have ids := congrArg Account.id (account_of_username keyed member same member' same')
      have ids : row.id = other.id := ids
      rw [issuedTo_loggedIn lawful, ← ids]
      rfl
  · constructor
    · apply iff_of_false failed
      rintro ⟨row, member, same, password, last, equal⟩
      rcases cause with absent | ⟨other, member', same', refused⟩
      · exact absent row member same
      · have stored : row.passwdHash = other.passwdHash :=
          congrArg Account.passwdHash (account_of_username keyed member same member' same')
        obtain ⟨password', last', equal'⟩ := digest member
        cases Option.some.inj (last.symm.trans last')
        rw [stored, refused] at equal'
        exact absurd (equal'.mpr equal) (by decide)
    · intro res equal status
      exact absurd ⟨res, equal, status⟩ failed

section Sample

open Reference

def loginBob (password : String) : HttpRequest :=
  request .post "/users/login" [("username", "bob"), ("password", password)] ""

/-- The user registers with one password and changes it to another. -/
def changedOnce : List (Env × HttpRequest) :=
  [changePassword "y" "a@b.c", mailCode "a@b.c" "reset_password", registerBob,
    mailCode "a@b.c" "register"]

theorem env_faultless : (env 0).Faultless := ⟨fun _ => Option.some_ne_none _, fun _ => rfl⟩

theorem login_iff_latestPassword_changed :
    (exchange system (env 0) (runOf system {} changedOnce).2 (loginBob "y")).Answered200 := by
  have presents : loginForm system (loginBob "y") = some ⟨"bob", "y"⟩ := by decide +kernel
  have stored : ∃ row ∈ (runOf system {} changedOnce).2.db.users.rows, row.username = "bob" ∧
      latestPassword system (runOf system {} changedOnce).1 row.id = some "y" := by
    decide +kernel
  obtain ⟨row, member, username, last⟩ := stored
  have decides := login_iff_latestPassword jwt_lawful rfl (run_runOf system {} changedOnce)
    env_faultless rfl presents
  refine decides.1.mpr ⟨row, member, ?_, "y", last, rfl⟩
  rw [username]

end Sample

end MusicPlayer
