import MusicPlayer.Properties.Requests

/-!
# Accounts and verification codes over runs

Runs start with no codes and a `users` table that satisfies its keys. Along every run the
keys hold, and the codes reflect the mails that were delivered. From these two invariants
follows which password changes a mailed code authorises.
-/
namespace MusicPlayer

open Resumption Program Relational

/-- The delivered mails of a run, newest first. -/
def mails (sys : System) (journal : List Exchange) : List Sent :=
  journal.filterMap fun x => mailOf sys x.env x.request

@[simp] theorem mails_cons (sys : System) (x : Exchange) (journal : List Exchange) :
    mails sys (x :: journal) = (mailOf sys x.env x.request).toList ++ mails sys journal := by
  cases mail : mailOf sys x.env x.request <;> simp [mails, mail]

/-- The server has just started: it knows no codes, and the database satisfies its schema. -/
structure Started (sys : System) (start : World) : Prop where
  codes : start.codes = {}
  keyed : start.db.registry.Keyed sys.collate

/-! ### Invariants of runs -/

section Changes

variable {sys : System} {env : Env} {req : HttpRequest} {before after : World}
  {result : Except Exn HttpResponse}

theorem mailOf_eq_none (route : routeOf req ≠ .verifyCode) : mailOf sys env req = none := by
  simp [mailOf, route]

theorem Change.codes (change : Change sys env req before result after) :
    after.codes = before.codes.record sys (mailOf sys env req) := by
  cases change with
  | quiet route codes _ => rw [codes, mailOf_eq_none route.2.2]; rfl
  | mailed res route => rfl
  | rejected route failed =>
    rw [mailOf_eq_none (by rcases route with route | route <;> simp [route])]
    rfl
  | registered route => rw [mailOf_eq_none (by simp [route])]; rfl
  | changed route => rw [mailOf_eq_none (by simp [route])]; rfl

/-- The registry stays, or an account is opened in it, or an account gets a password. -/
theorem Change.registry (change : Change sys env req before result after) :
    after.db.registry = before.db.registry ∨
    (∃ account, Registry.Opens sys.collate before.db.registry account after.db.registry) ∨
    ∃ id passwdHash, after.db.registry = before.db.registry.setPassword id passwdHash := by
  cases change with
  | quiet route codes registry => exact .inl registry
  | mailed res route => exact .inl rfl
  | rejected route failed => exact .inl rfl
  | registered route presents accepted sees executed answer =>
    have opens := Db.insertUser_opens executed
    rw [sees.1] at opens
    exact .inr (.inl ⟨_, opens⟩)
  | changed route presents named accepted sees executed answer =>
    exact .inr (.inr ⟨_, _, Db.updatePassword_registry executed⟩)

theorem Change.keyed (change : Change sys env req before result after)
    (keyed : before.db.registry.Keyed sys.collate) : after.db.registry.Keyed sys.collate := by
  rcases change.registry with same | ⟨account, opens⟩ | ⟨id, passwdHash, same⟩
  · rw [same]
    exact keyed
  · exact keyed.opens opens
  · rw [same]
    exact keyed.setPassword id passwdHash

/-- Ids, usernames and addresses are never taken back or given to another account. -/
theorem Change.keeps (change : Change sys env req before result after) {account : Account}
    (member : account ∈ before.db.registry.rows) :
    ∃ later ∈ after.db.registry.rows, later.id = account.id ∧
      later.username = account.username ∧ later.email = account.email := by
  rcases change.registry with same | ⟨opened, opens⟩ | ⟨id, passwdHash, same⟩
  · rw [same]
    exact ⟨account, member, rfl, rfl, rfl⟩
  · rw [opens.rows]
    exact ⟨account, List.mem_append_left _ member, rfl, rfl, rfl⟩
  · rw [same]
    refine ⟨_, Registry.mem_setPassword.mpr ⟨account, member, rfl⟩, ?_⟩
    split <;> exact ⟨rfl, rfl, rfl⟩

end Changes

theorem exchange_change (sys : System) (env : Env) (w : World) (req : HttpRequest) :
    Change sys env req w (exchange sys env w req).result (exchange sys env w req).after :=
  serve_change sys env w req

theorem cleanup_eq (sys : System) (env : Env) (w : World) :
    (runProg sys env VerifyService.cleanupExpiredCodes w).2 =
      { w with codes := (w.codes.cleanup (env.clock .cleanupExpiredCodes)).2 } := by
  have wp : VerifyService.cleanupExpiredCodes.Wp (Step sys env) (fun _ after => after =
      { w with codes := (w.codes.cleanup (env.clock .cleanupExpiredCodes)).2 }) w :=
    (wp_cleanupExpiredCodes _).mpr rfl
  exact runProg_of_wp wp

namespace Run

variable {sys : System} {start w : World} {journal : List Exchange}

theorem keyed (initially : start.db.registry.Keyed sys.collate) (run : Run sys start journal w) :
    w.db.registry.Keyed sys.collate := by
  induction run with
  | start => exact initially
  | request run env req ih => exact (exchange_change sys env _ req).keyed ih
  | cleanup run env ih =>
    rw [cleanup_eq]
    exact ih

/-- Whatever the clock does, the codes are those of the latest mails. -/
theorem codesReflect (started : Started sys start) (run : Run sys start journal w) :
    CodesReflect sys (fun _ => True) w.codes (mails sys journal) := by
  induction run with
  | start =>
    rw [started.codes]
    exact CodesReflect.empty
  | request run env req ih =>
    rw [mails_cons, (exchange_change sys env _ req).codes]
    exact ih.record _
  | cleanup run env ih =>
    rw [cleanup_eq]
    exact ih.cleanup fun _ _ => trivial

/-- Every exchange of a run was the next one after a shorter run. -/
theorem split {later earlier : List Exchange} {x : Exchange}
    (run : Run sys start journal w) (position : journal = later ++ x :: earlier) :
    ∃ w' env req, Run sys start earlier w' ∧ x = exchange sys env w' req := by
  induction run generalizing later with
  | start => simp at position
  | request run env req ih =>
    cases later with
    | nil =>
      obtain ⟨rfl, rfl⟩ := List.cons.inj position
      exact ⟨_, env, req, run, rfl⟩
    | cons y later => exact ih (List.cons.inj position).2
  | cleanup run env ih => exact ih position

/-- An account that exists before a request of a run exists, under the same keys, after it
and ever after. -/
theorem keeps {later earlier : List Exchange} {x : Exchange} (run : Run sys start journal w)
    (position : journal = later ++ x :: earlier) {account : Account}
    (member : account ∈ x.after.db.registry.rows) :
    ∃ last ∈ w.db.registry.rows, last.id = account.id ∧ last.username = account.username ∧
      last.email = account.email := by
  induction run generalizing later with
  | start => simp at position
  | request run env req ih =>
    cases later with
    | nil =>
      obtain ⟨rfl, rfl⟩ := List.cons.inj position
      exact ⟨account, member, rfl, rfl, rfl⟩
    | cons y later =>
      obtain ⟨last, present, id, username, email⟩ := ih (List.cons.inj position).2
      obtain ⟨next, there, id', username', email'⟩ := (exchange_change sys env _ req).keeps present
      exact ⟨next, there, id'.trans id, username'.trans username, email'.trans email⟩
  | cleanup run env ih =>
    rw [cleanup_eq]
    exact ih position

end Run

/-! ### Password changes -/

/-- A request for a password change that changes the hash of an account. -/
def ChangesPassword (x : Exchange) (account : Account) : Prop :=
  routeOf x.request = .password ∧ account ∈ x.before.db.registry.rows ∧
    ∃ later ∈ x.after.db.registry.rows, later.id = account.id ∧
      later.passwdHash ≠ account.passwdHash

instance (x : Exchange) (account : Account) : Decidable (ChangesPassword x account) :=
  inferInstanceAs (Decidable (_ ∧ _ ∧ _))

/-- The request is authorised by the latest mail to the address of the account, and by no
mail to another address. -/
structure ChangeAuthorized (sys : System) (earlier : List Exchange) (x : Exchange)
    (account : Account) : Prop where
  mailed : ∃ form sent, changeForm sys x.request = some form ∧
    latestSent (mails sys earlier) account.email = some sent ∧ sent.action = "reset_password" ∧
    sent.code = form.verifyCode ∧
    x.env.clock .verifyCode ≤ sent.storedAt + seconds sys.codeExpiry.toInt
  noOther : ∀ form sent, changeForm sys x.request = some form →
    latestSent (mails sys earlier) form.email = some sent → sent.email = account.email

/-- The address a request for a password change presents. -/
def presentedEmail (sys : System) (req : HttpRequest) : Option String :=
  (changeForm sys req).map (·.email)

/-- A password change is rejected without effect, unless it presents the code of the latest
mail to the address in its body. That need not be the address of the account. -/
theorem Run.password_cases {sys : System} {start w : World} {journal : List Exchange}
    (started : Started sys start) (run : Run sys start journal w) {env : Env} {req : HttpRequest}
    (route : routeOf req = .password) :
    (¬(exchange sys env w req).Answered200 ∧ (exchange sys env w req).after = w) ∨
    ∃ form sent, changeForm sys req = some form ∧
      latestSent (mails sys journal) form.email = some sent ∧ sent.action = "reset_password" ∧
      sent.code = form.verifyCode ∧
      env.clock .verifyCode ≤ sent.storedAt + seconds sys.codeExpiry.toInt := by
  have change := exchange_change sys env w req
  unfold Exchange.Answered200
  generalize (exchange sys env w req).after = after at change ⊢
  generalize (exchange sys env w req).result = result at change ⊢
  cases change with
  | quiet other => exact absurd route other.2.1
  | mailed res other => rw [route] at other; cases other
  | rejected _ failed =>
    left
    refine ⟨?_, rfl⟩
    rintro ⟨res, equal, status⟩
    exact failed res equal status
  | registered other => rw [route] at other; cases other
  | changed _ presents named accepted sees executed answer =>
    right
    obtain ⟨sent, newest, action, code, alive⟩ := (run.codesReflect started).sent_of_judge accepted
    exact ⟨_, sent, presents, newest, action, code, alive⟩

theorem Run.sent_of_changesPassword {sys : System} {start w : World} {journal : List Exchange}
    (started : Started sys start) (run : Run sys start journal w) {env : Env} {req : HttpRequest}
    {account : Account} (changes : ChangesPassword (exchange sys env w req) account) :
    ∃ form sent, changeForm sys req = some form ∧
      latestSent (mails sys journal) form.email = some sent ∧ sent.action = "reset_password" ∧
      sent.code = form.verifyCode ∧
      env.clock .verifyCode ≤ sent.storedAt + seconds sys.codeExpiry.toInt := by
  obtain ⟨route, member, later, present, sameId, differs⟩ := changes
  have route : routeOf req = .password := route
  rcases run.password_cases started route with ⟨-, unchanged⟩ | authorized
  · rw [unchanged] at present
    have equal := (run.keyed started.keyed).ids.unique.eq_of_key present member sameId
    exact absurd (congrArg Account.passwdHash equal) differs
  · exact authorized

/-- A password change is authorised by the address of the account exactly when that is the
address the request presents. -/
theorem passwordChange_authorized_iff {sys : System} {start w : World} {journal : List Exchange}
    (started : Started sys start) (run : Run sys start journal w)
    {later earlier : List Exchange} {x : Exchange} (position : journal = later ++ x :: earlier)
    {account : Account} (changes : ChangesPassword x account) :
    ChangeAuthorized sys earlier x account ↔
      presentedEmail sys x.request = some account.email := by
  obtain ⟨before, env, req, shorter, rfl⟩ := run.split position
  obtain ⟨form, sent, presents, newest, action, code, alive⟩ :=
    shorter.sent_of_changesPassword started changes
  have address : sent.email = form.email := keyOf_of_latest newest
  have presented : presentedEmail sys req = some form.email := by
    rw [presentedEmail, presents]
    rfl
  constructor
  · intro authorized
    -- Authorized or not, the code is that of the latest mail to the address presented.
    have own := authorized.noOther form sent presents newest
    change presentedEmail sys req = some account.email
    rw [presented, ← own, address]
  · intro own
    have own : presentedEmail sys req = some account.email := own
    have same : form.email = account.email := Option.some.inj (presented.symm.trans own)
    refine ⟨⟨form, sent, presents, ?_, action, code, alive⟩, ?_⟩
    · rw [← same]
      exact newest
    · intro other mail presents' newest'
      cases Option.some.inj (presents.symm.trans presents')
      rw [keyOf_of_latest newest', same]

section Sample

open Reference

def mailCode (email action : String) : Env × HttpRequest :=
  (env 0, request .post "/users/verify_code" [("email", email), ("action", action)] "")

def registerBob : Env × HttpRequest :=
  (env 0, request .post "/users/register" [("username", "bob"), ("password", "x"),
    ("email", "a@b.c"), ("verify_code", "000000")] "")

/-- The token that a login of the user gets. -/
def tokenOfBob : String :=
  sign "secret" (JWTUtil.buildToken 0 "bob"
    (UserHandler.loginClaims { id := 1, username := "bob", email := "a@b.c" })
    UserHandler.loginLifetime)

def changePassword (newPassword email : String) : Env × HttpRequest :=
  (env 0, request .post "/users/password" [("new_password", newPassword),
    ("verify_code", "000000"), ("email", email)] tokenOfBob)

/-- A user registers. Then a code is sent to a stranger. -/
def foreignCode : List (Env × HttpRequest) :=
  [mailCode "m@b.c" "reset_password", registerBob, mailCode "a@b.c" "register"]

def accountOfBob : Account :=
  ⟨1, "bob", PasswordUtil.hashPassword digest "x", "a@b.c"⟩

/-- The code of the stranger changes the password of the user, whose own address was never
sent a code for that. -/
theorem foreignCode_accepted :
    ChangesPassword (exchange system (env 0) (runOf system {} foreignCode).2
      (changePassword "y" "m@b.c").2) accountOfBob ∧
    latestSent (mails system (runOf system {} foreignCode).1) "a@b.c" =
      some ⟨"a@b.c", "register", "000000", 0⟩ := by
  decide +kernel

theorem started_empty : Started system {} := ⟨rfl, Registry.Keyed.empty⟩

theorem passwordChange_authorized_iff_foreignCode :
    let x := exchange system (env 0) (runOf system {} foreignCode).2
      (changePassword "y" "m@b.c").2
    ChangeAuthorized system (runOf system {} foreignCode).1 x accountOfBob ↔
      presentedEmail system x.request = some accountOfBob.email := by
  intro x
  have run := (run_runOf system {} foreignCode).request (env 0) (changePassword "y" "m@b.c").2
  have position : x :: (runOf system {} foreignCode).1 =
      [] ++ x :: (runOf system {} foreignCode).1 := rfl
  exact passwordChange_authorized_iff started_empty run position foreignCode_accepted.1

/-- A mail to another address can authorise a password change. -/
theorem passwordChange_unauthorized :
    ¬∀ (sys : System) (start w : World) (journal later earlier : List Exchange) (x : Exchange)
      (account : Account), Started sys start → Run sys start journal w →
      journal = later ++ x :: earlier → ChangesPassword x account →
      ChangeAuthorized sys earlier x account := by
  intro authorizes
  have run := (run_runOf system {} foreignCode).request (env 0) (changePassword "y" "m@b.c").2
  have authorized := authorizes system {} _ _ [] _ _ accountOfBob started_empty run rfl
    foreignCode_accepted.1
  obtain ⟨form, sent, -, newest, action, -⟩ := authorized.mailed
  have registers := Option.some.inj (newest.symm.trans foreignCode_accepted.2)
  rw [registers] at action
  exact absurd action (by decide)

end Sample

end MusicPlayer
