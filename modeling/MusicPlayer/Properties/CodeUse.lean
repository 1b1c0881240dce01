import MusicPlayer.Properties.Accounts

/-!
# How often a code is used, and where accounts come from

The codes are never taken back on use. A code that was mailed for a registration is used up
all the same, since the account it opens holds the address; a code that was mailed for a
password change is not.
-/
namespace MusicPlayer

open Resumption Program Relational

/-! ### Registrations -/

/-- A registration is rejected without effect, unless it presents the code of the latest mail
to its address and the database accepts its row. -/
theorem Run.register_cases {sys : System} {start w : World} {journal : List Exchange}
    (started : Started sys start) (run : Run sys start journal w) {env : Env} {req : HttpRequest}
    (route : routeOf req = .register) :
    (¬(exchange sys env w req).Answered200 ∧ (exchange sys env w req).after = w) ∨
    ∃ form account sent, registerForm sys req = some form ∧ account.email = form.email ∧
      Registry.Opens sys.collate w.db.registry account
        (exchange sys env w req).after.db.registry ∧
      latestSent (mails sys journal) form.email = some sent ∧ sent.action = "register" ∧
      sent.code = form.verifyCode ∧
      env.clock .verifyCode ≤ sent.storedAt + seconds sys.codeExpiry.toInt := by
  have change := exchange_change sys env w req
  unfold Exchange.Answered200
  generalize (exchange sys env w req).after = after at change ⊢
  generalize (exchange sys env w req).result = result at change ⊢
  cases change with
  -- Only the two changes of a registration are left.
  | quiet other => exact absurd route other.1
  | mailed res other => rw [route] at other; cases other
  | rejected _ failed =>
    left
    refine ⟨?_, rfl⟩
    rintro ⟨res, equal, status⟩
    exact failed res equal status
  | registered _ presents accepted sees executed answer =>
    right
    have opens := Db.insertUser_opens executed
    rw [sees.1] at opens
    obtain ⟨sent, newest, action, code, alive⟩ := (run.codesReflect started).sent_of_judge accepted
    exact ⟨_, _, sent, presents, rfl, opens, newest, action, code, alive⟩
  | changed other => rw [route] at other; cases other

/-! ### Single use -/

/-- The address and the code that a registration or a password change presents. -/
def presented (sys : System) (req : HttpRequest) : Option (String × String) :=
  match routeOf req with
  | .register => (registerForm sys req).map fun form => (form.email, form.verifyCode)
  | .password => (changeForm sys req).map fun form => (form.email, form.verifyCode)
  | _ => none

theorem route_of_presented {sys : System} {req : HttpRequest} {pair : String × String}
    (presents : presented sys req = some pair) :
    routeOf req = .register ∨ routeOf req = .password := by
  unfold presented at presents
  split at presents
  next route => exact .inl route
  next route => exact .inr route
  · cases presents

/-- Answered 200 on the strength of a mail: it is the latest one to the address that the
request presents, and carried the code that the request presents. -/
def Spends (sys : System) (earlier : List Exchange) (x : Exchange) (sent : Sent) : Prop :=
  x.Answered200 ∧ latestSent (mails sys earlier) sent.email = some sent ∧
    presented sys x.request = some (sent.email, sent.code)

instance (sys : System) (earlier : List Exchange) (x : Exchange) (sent : Sent) :
    Decidable (Spends sys earlier x sent) :=
  inferInstanceAs (Decidable (_ ∧ _ ∧ _))

/-- The codes mailed for an action are used up by the first request that is answered 200 on
their strength: until a new one is sent to the address, whoever presents one again is
rejected without effect. -/
def SingleUse (sys : System) (start : World) (action : String) : Prop :=
  ∀ journal w later middle earlier x y sent, Run sys start journal w →
    journal = later ++ y :: (middle ++ x :: earlier) → sent.action = action →
    Spends sys earlier x sent → (∀ mail ∈ mails sys middle, mail.email ≠ sent.email) →
    presented sys y.request = some (sent.email, sent.code) →
    ¬y.Answered200 ∧ y.after = y.before

/-- Mails to other addresses leave the latest mail to an address the latest. -/
theorem latestSent_append {newer older : List Sent} {email : String}
    (others : ∀ mail ∈ newer, mail.email ≠ email) :
    latestSent (newer ++ older) email = latestSent older email := by
  induction newer with
  | nil => rfl
  | cons mail newer ih =>
    obtain ⟨other, others⟩ := List.forall_mem_cons.mp others
    rw [List.cons_append, latestSent, latest_cons, if_neg other]
    exact ih others

/-- Only a registration is answered 200 on the strength of a mail for a registration. -/
theorem Run.register_of_spends {sys : System} {start w : World} {earlier : List Exchange}
    (started : Started sys start) (run : Run sys start earlier w) {env : Env} {req : HttpRequest}
    {sent : Sent} (registers : sent.action = "register")
    (spends : Spends sys earlier (exchange sys env w req) sent) :
    routeOf req = .register := by
  obtain ⟨answered, newest, presents⟩ := spends
  have presents : presented sys req = some (sent.email, sent.code) := presents
  rcases route_of_presented presents with route | route
  · exact route
  · rcases run.password_cases started route with
      ⟨failed, -⟩ | ⟨form, mail, form_eq, newest', resets, -⟩
    · exact absurd answered failed
    · simp only [presented, route, form_eq, Option.map_some, Option.some.injEq,
        Prod.mk.injEq] at presents
      rw [presents.1, newest] at newest'
      rw [← Option.some.inj newest', registers] at resets
      exact absurd resets (by decide)

/-- A code that was mailed for a registration is used once. A password change leaves the codes
as they are, whatever it is answered. -/
theorem registerCode_singleUse {sys : System} {start : World} (started : Started sys start) :
    SingleUse sys start "register" ∧
    ∀ journal w, Run sys start journal w → ∀ x ∈ journal, routeOf x.request = .password →
      x.after.codes = x.before.codes := by
  constructor
  · intro journal w later middle earlier x y sent run position registers spends others again
    obtain ⟨before, env, req, upTo, rfl⟩ := run.split position
    obtain ⟨first, env', req', shorter, rfl⟩ := upTo.split rfl
    have route := shorter.register_of_spends started registers spends
    rcases shorter.register_cases started route with
      ⟨failed, -⟩ | ⟨form, account, mail, form_eq, email, opens, -⟩
    · exact absurd spends.1 failed
    have spent : presented sys req' = some (sent.email, sent.code) := spends.2.2
    simp only [presented, route, form_eq, Option.map_some, Option.some.injEq,
      Prod.mk.injEq] at spent
    -- The address has an account by now.
    obtain ⟨last, present, -, -, kept⟩ := upTo.keeps rfl opens.mem
    have again : presented sys req = some (sent.email, sent.code) := again
    rcases route_of_presented again with route' | route'
    · rcases upTo.register_cases started route' with
        rejected | ⟨form', account', mail', form_eq', email', opens', -⟩
      · exact rejected
      · simp only [presented, route', form_eq', Option.map_some, Option.some.injEq,
          Prod.mk.injEq] at again
        have free := (opens'.free last present).2
        rw [kept, email, spent.1, email', again.1] at free
        exact absurd rfl free
    · rcases upTo.password_cases started route' with
        rejected | ⟨form', mail', form_eq', newest', resets, -⟩
      · exact rejected
      · simp only [presented, route', form_eq', Option.map_some, Option.some.injEq,
          Prod.mk.injEq] at again
        have unsent : mailOf sys env' req' = none := mailOf_eq_none (by simp [route])
        have same : latestSent (mails sys (middle ++ exchange sys env' first req' :: earlier))
            sent.email = some sent := by
          rw [mails, List.filterMap_append, ← mails, ← mails, latestSent_append others, mails_cons]
          simpa [exchange, unsent] using spends.2.1
        rw [again.1, same] at newest'
        rw [← Option.some.inj newest', registers] at resets
        exact absurd resets (by decide)
  · intro journal w run x member route
    obtain ⟨later, earlier, position⟩ := List.append_of_mem member
    obtain ⟨before, env, req, -, rfl⟩ := run.split position
    have route : routeOf req = .password := route
    have codes := (exchange_change sys env before req).codes
    rw [mailOf_eq_none (by simp [route])] at codes
    exact codes

section Sample

open Reference

def registration : Sent := ⟨"a@b.c", "register", "000000", 0⟩

theorem registration_spent : Spends system (runOf system {} [mailCode "a@b.c" "register"]).1
    (exchange system (env 0) (runOf system {} [mailCode "a@b.c" "register"]).2 registerBob.2)
    registration := by
  decide +kernel

theorem registerCode_singleUse_again :
    let y := exchange system (env 0)
      (runOf system {} [registerBob, mailCode "a@b.c" "register"]).2 registerBob.2
    ¬y.Answered200 ∧ y.after = y.before := by
  intro y
  have run := (run_runOf system {} [registerBob, mailCode "a@b.c" "register"]).request (env 0)
    registerBob.2
  have again : presented system registerBob.2 = some ("a@b.c", "000000") := by decide +kernel
  exact (registerCode_singleUse started_empty).1 _ _ [] [] _ _ y registration run rfl rfl
    registration_spent (by simp [mails]) again

def reset : Sent := ⟨"a@b.c", "reset_password", "000000", 0⟩

/-- The user changes the password twice with one code. -/
def resetTwice : List (Env × HttpRequest) :=
  [changePassword "y" "a@b.c", mailCode "a@b.c" "reset_password", registerBob,
    mailCode "a@b.c" "register"]

theorem reset_spent_twice :
    Spends system (runOf system {} resetTwice.tail).1 (exchange system (env 0)
      (runOf system {} resetTwice.tail).2 (changePassword "y" "a@b.c").2) reset ∧
    Spends system (runOf system {} resetTwice).1 (exchange system (env 0)
      (runOf system {} resetTwice).2 (changePassword "z" "a@b.c").2) reset := by
  decide +kernel

/-- A code that was mailed for a password change is good for a second one. -/
theorem resetCode_reused : ¬∀ (sys : System) (start : World) (action : String),
    Started sys start → SingleUse sys start action := by
  intro single
  have run := (run_runOf system {} resetTwice).request (env 0) (changePassword "z" "a@b.c").2
  have rejected := single system {} "reset_password" started_empty _ _ [] [] _ _ _ reset run rfl
    rfl reset_spent_twice.1 (by simp [mails]) reset_spent_twice.2.2.2
  exact rejected.1 reset_spent_twice.2.1

end Sample

/-! ### Where accounts come from -/

theorem mailOf_eq_some {sys : System} {env : Env} {req : HttpRequest} {sent : Sent}
    (mail : mailOf sys env req = some sent) : routeOf req = .verifyCode ∧
      sendForm sys req = some ⟨sent.email, sent.action⟩ ∧
      UserHandler.isValidEmail sent.email = true ∧ env.mailed = true := by
  unfold mailOf at mail
  simp only [Option.bind_eq_bind, Option.bind_eq_some_iff, Option.guard_eq_some',
    exists_and_left, exists_const, Bool.and_eq_true] at mail
  obtain ⟨route, ⟨email, action⟩, form, ⟨valid, -⟩, delivered⟩ := mail
  unfold mailed? at delivered
  split at delivered
  next mailed =>
    cases delivered
    exact ⟨route, form, valid, mailed⟩
  · cases delivered

/-- The latest mail to an address was sent by some exchange, and no later one sent another. -/
theorem exchange_of_latestSent {sys : System} {journal : List Exchange} {email : String}
    {sent : Sent} (newest : latestSent (mails sys journal) email = some sent) :
    ∃ between z older, journal = between ++ z :: older ∧
      mailOf sys z.env z.request = some sent ∧ ∀ mail ∈ mails sys between, mail.email ≠ email := by
  induction journal with
  | nil => cases newest
  | cons x journal ih =>
    rw [mails_cons] at newest
    -- A mail of `x` to another address is one of those in between.
    have before (other : ∀ mail ∈ mailOf sys x.env x.request, mail.email ≠ email)
        (newest : latestSent (mails sys journal) email = some sent) :
        ∃ between z older, x :: journal = between ++ z :: older ∧
          mailOf sys z.env z.request = some sent ∧
          ∀ mail ∈ mails sys between, mail.email ≠ email := by
      obtain ⟨between, z, older, rfl, mail, others⟩ := ih newest
      refine ⟨x :: between, z, older, rfl, mail, ?_⟩
      intro mail member
      rw [mails_cons, List.mem_append, Option.mem_toList] at member
      rcases member with own | member
      · exact other mail own
      · exact others mail member
    cases mail : mailOf sys x.env x.request with
    | none =>
      rw [mail] at newest before
      exact before (by simp) newest
    | some own =>
      rw [mail] at newest before
      change latest Sent.email (own :: mails sys journal) email = some sent at newest
      rw [latest_cons] at newest
      split at newest
      next same =>
        cases newest
        exact ⟨[], x, journal, rfl, mail, by simp [mails]⟩
      next other => exact before (by simpa using other) newest

/-- The request of `x` inserted the row of an account, on presenting the code that the request
of `z` had mailed to its address. -/
structure VerifiedBy (sys : System) (x : Exchange) (between : List Exchange) (z : Exchange)
    (account : Account) : Prop where
  fresh : ∀ other ∈ x.before.db.registry.rows, other.id ≠ account.id
  inserted : ∃ own ∈ x.after.db.registry.rows, own.id = account.id ∧ own.email = account.email
  registers : routeOf x.request = .register
  asks : routeOf z.request = .verifyCode
  asked : sendForm sys z.request = some ⟨account.email, "register"⟩
  valid : UserHandler.isValidEmail account.email = true
  mailed : z.env.mailed = true
  presents : ∃ form sent, registerForm sys x.request = some form ∧ form.email = account.email ∧
    mailOf sys z.env z.request = some sent ∧ sent.code = form.verifyCode ∧
    x.env.clock .verifyCode ≤ sent.storedAt + seconds sys.codeExpiry.toInt
  latest : ∀ mail ∈ mails sys between, mail.email ≠ account.email

def VerifiedOrigin (sys : System) (journal : List Exchange) (account : Account) : Prop :=
  ∃ later x between z older, journal = later ++ x :: (between ++ z :: older) ∧
    VerifiedBy sys x between z account

theorem VerifiedOrigin.later {sys : System} {journal : List Exchange} {account other : Account}
    (origin : VerifiedOrigin sys journal account) (x : Exchange) (id : other.id = account.id)
    (email : other.email = account.email) : VerifiedOrigin sys (x :: journal) other := by
  obtain ⟨later, first, between, z, older, rfl, verified⟩ := origin
  cases account
  cases other
  cases id
  cases email
  obtain ⟨fresh, inserted, registers, asks, asked, valid, mailed, presents, latest⟩ := verified
  exact ⟨x :: later, first, between, z, older, rfl, fresh, inserted, registers, asks, asked, valid,
    mailed, presents, latest⟩

/-- The account that a request opens is verified. -/
theorem Run.origin_of_opens {sys : System} {start w : World} {journal : List Exchange}
    (started : Started sys start) (run : Run sys start journal w) {env : Env} {req : HttpRequest}
    {account : Account} (fresh : ∀ other ∈ w.db.registry.rows, other.id ≠ account.id)
    (member : account ∈ (exchange sys env w req).after.db.registry.rows)
    (route : routeOf req = .register) :
    VerifiedOrigin sys (exchange sys env w req :: journal) account := by
  rcases run.register_cases started route with ⟨-, unchanged⟩ | opened
  · rw [unchanged] at member
    exact absurd rfl (fresh account member)
  · obtain ⟨form, new, sent, presents, address, opens, newest, registers, code, alive⟩ := opened
    have own : account = new := by
      rw [opens.rows, List.mem_append, List.mem_singleton] at member
      rcases member with old | own
      · exact absurd rfl (fresh account old)
      · exact own
    -- The request that sent the code, and none between it and the registration.
    obtain ⟨between, z, older, rfl, mail, others⟩ := exchange_of_latestSent newest
    obtain ⟨asks, asked, valid, mailed⟩ := mailOf_eq_some mail
    have sentTo : sent.email = account.email := by
      rw [own, address]
      exact keyOf_of_latest newest
    rw [sentTo, registers] at asked
    rw [sentTo] at valid
    rw [← address, ← own] at others
    exact ⟨[], _, between, z, older, rfl, fresh, ⟨account, member, rfl, rfl⟩, route, asks, asked,
      valid, mailed, ⟨form, sent, presents, (own ▸ address).symm, mail, code, alive⟩, others⟩

/-- An account after a request was there before, or the request is the registration that
opened it. -/
theorem Change.old_or_opened {sys : System} {env : Env} {req : HttpRequest} {before after : World}
    {result : Except Exn HttpResponse} (change : Change sys env req before result after)
    (keyed : before.db.registry.Keyed sys.collate) {account : Account}
    (member : account ∈ after.db.registry.rows) :
    (∃ old ∈ before.db.registry.rows, account.id = old.id ∧ account.email = old.email) ∨
    routeOf req = .register ∧ ∀ other ∈ before.db.registry.rows, other.id ≠ account.id := by
  cases change with
  | quiet route codes registry =>
    rw [registry] at member
    exact .inl ⟨account, member, rfl, rfl⟩
  | mailed res route => exact .inl ⟨account, member, rfl, rfl⟩
  | rejected route failed => exact .inl ⟨account, member, rfl, rfl⟩
  -- The only change that adds an account; its id is fresh.
  | registered route presents accepted sees executed answer =>
    have opens := Db.insertUser_opens executed
    rw [sees.1] at opens
    rw [opens.rows, List.mem_append, List.mem_singleton] at member
    rcases member with old | own
    · exact .inl ⟨account, old, rfl, rfl⟩
    · right
      rw [own]
      exact ⟨route, opens.fresh keyed⟩
  | changed route presents named accepted sees executed answer =>
    rw [Db.updatePassword_registry executed, Registry.mem_setPassword] at member
    obtain ⟨old, present, rfl⟩ := member
    left
    refine ⟨old, present, ?_⟩
    split <;> exact ⟨rfl, rfl⟩

/-- Starting without users and codes, every row of `users` was inserted for an address that had
been verified. -/
theorem accounts_verified {sys : System} {start w : World} {journal : List Exchange}
    (users : start.db.users.rows = []) (codes : start.codes = {})
    (run : Run sys start journal w) :
    ∀ row ∈ w.db.users.rows, VerifiedOrigin sys journal row.account := by
  have started : Started sys start := ⟨codes, keyed_of_empty users⟩
  suffices verified : ∀ account ∈ w.db.registry.rows, VerifiedOrigin sys journal account from
    fun row member => verified row.account (List.mem_map_of_mem member)
  induction run with
  | start =>
    rw [Db.registry, Table.map, users]
    simp
  | @request journal w run env req ih =>
    intro account member
    have change := exchange_change sys env w req
    -- An old account keeps its origin, a new one has this request.
    rcases change.old_or_opened (run.keyed started.keyed) member with
      ⟨old, present, id, email⟩ | ⟨route, fresh⟩
    · exact (ih old present).later _ id email
    · exact run.origin_of_opens started fresh member route
  | cleanup run env ih =>
    rw [cleanup_eq]
    exact ih

theorem accounts_verified_bob :
    VerifiedOrigin Reference.system
      (runOf Reference.system {} [registerBob, mailCode "a@b.c" "register"]).1 accountOfBob := by
  have run := run_runOf Reference.system {} [registerBob, mailCode "a@b.c" "register"]
  have stored : ∃ row ∈ (runOf Reference.system {} [registerBob,
      mailCode "a@b.c" "register"]).2.db.users.rows, row.account = accountOfBob := by
    decide +kernel
  obtain ⟨row, member, same⟩ := stored
  rw [← same]
  exact accounts_verified rfl rfl run row member

end MusicPlayer
