import MusicPlayer.Properties.CodeRaces
import MusicPlayer.Properties.ConcurrentIsolation

/-!
# Verified addresses while requests are served at the same time

A registration looks up a code, reads it, and inserts the account, and between any two of these
other threads mail codes, replace them and clean up. Still the address of every new account was
sent a mail with a code that the registration presented, and no account ever disappears or gets
another name or address.
-/
namespace MusicPlayer

open Resumption Program Relational JsonUtil

/-! ### What the mails vouch for -/

/-- What no request can change of an account. -/
structure Identity where
  id : Int32
  username : String
  email : String
  createAt : Timestamp
  deriving DecidableEq

def UserRow.identity (row : UserRow) : Identity := ⟨row.id, row.username, row.email, row.createAt⟩

section Vouched

variable {ι : Type} (sys : System)

/-- A mail with the code has gone out to the address. -/
def Site.Mailed (site : Site ι) (email code : String) : Prop := codeMail sys email code ∈ site.mails

/-- Every stored code was mailed, and the accounts are those of the start, followed by accounts
whose address was sent a code. -/
structure Vouched (start : List Identity) (site : Site ι) : Prop where
  codes : ∀ email info, site.world.codes.info? email = some info → site.Mailed sys email info.code
  users : ∃ opened, site.world.db.users.rows.map UserRow.identity = start ++ opened ∧
    ∀ account ∈ opened, ∃ code, site.Mailed sys account.email code

/-- What is owed before an effect: a code is stored after its mail went out, an account is opened
for an address that was sent a code, and no other statement opens, renames or deletes one. -/
def Owed : Effect → Site ι → Prop
  | .storeCode email code _ _, site => site.Mailed sys email code
  | .connector _ (.execute (.insertUser _ _ email)), site => ∃ code, site.Mailed sys email code
  | .connector _ (.execute s), _ => ∃ owner, StatementFor owner False s
  | _, _ => True

/-- Nothing but mails goes out, and none is taken back. -/
def MailRely (a b : Site ι) : Prop := a.mails <+: b.mails

variable {sys} {start : List Identity} {a b : Site ι}

theorem Site.Mailed.later {email code : String} (mailed : a.Mailed sys email code)
    (more : MailRely a b) : b.Mailed sys email code :=
  more.subset mailed

theorem Vouched.codes_later (vouched : Vouched sys start a) (more : MailRely a b)
    (stored : ∀ email info, b.world.codes.info? email = some info →
      a.world.codes.info? email = some info) (email : String) (info : VerifyInfo)
    (found : b.world.codes.info? email = some info) : b.Mailed sys email info.code :=
  (vouched.codes email info (stored email info found)).later more

theorem Vouched.users_later (vouched : Vouched sys start a) (more : MailRely a b)
    (users : b.world.db.users = a.world.db.users) :
    ∃ opened, b.world.db.users.rows.map UserRow.identity = start ++ opened ∧
      ∀ account ∈ opened, ∃ code, b.Mailed sys account.email code := by
  obtain ⟨opened, rows, known⟩ := vouched.users
  refine ⟨opened, by rw [users, rows], fun account member => ?_⟩
  obtain ⟨code, mailed⟩ := known account member
  exact ⟨code, mailed.later more⟩

theorem Vouched.same (vouched : Vouched sys start a) (more : MailRely a b)
    (codes : b.world.codes = a.world.codes) (users : b.world.db.users = a.world.db.users) :
    Vouched sys start b :=
  ⟨vouched.codes_later more fun _ _ found => codes ▸ found, vouched.users_later more users⟩

theorem identity_stamp (now : Timestamp) {assign : UserRow → UserRow}
    (keeps : ∀ row, (assign row).identity = row.identity) (row : UserRow) :
    (row.stamp now assign).identity = row.identity := by
  unfold UserRow.stamp
  split
  · rfl
  · exact keeps row

theorem identities_update {db after : Db} {ctx : SqlContext} {id : Int32} {fits : Bool}
    {assign : UserRow → UserRow} {count : Nat}
    (executed : db.updateUserRow ctx id fits assign = some (count, after))
    (keeps : ∀ row, (assign row).identity = row.identity) :
    after.users.rows.map UserRow.identity = db.users.rows.map UserRow.identity := by
  rw [Db.updateUserRow_eq executed, Table.update, List.map_map]
  refine List.map_congr_left fun row _ => ?_
  dsimp only [Function.comp_apply]
  split
  · exact identity_stamp ctx.now keeps row
  · rfl

/-- The statements of the requests, as far as the accounts go. -/
theorem identities_of_owed {conn : Option Conn} {s : Statement} {ctx : SqlContext} {after : Db}
    {reply : s.Reply} (owed : Owed sys (.connector conn (.execute s)) a)
    (executed : s.exec ctx a.world.db = some (reply, after)) :
    ∃ opened, after.users.rows.map UserRow.identity =
        a.world.db.users.rows.map UserRow.identity ++ opened ∧
      ∀ account ∈ opened, ∃ code, a.Mailed sys account.email code := by
  have kept (same : after.users.rows.map UserRow.identity =
      a.world.db.users.rows.map UserRow.identity) :
      ∃ opened, after.users.rows.map UserRow.identity =
          a.world.db.users.rows.map UserRow.identity ++ opened ∧
        ∀ account ∈ opened, ∃ code, a.Mailed sys account.email code :=
    ⟨[], by rw [same, List.append_nil], by simp⟩
  cases s with
  | selectUserById | selectUserByUsername | selectLastInsertId =>
    cases executed
    exact kept rfl
  | insertUser username passwdHash email =>
    obtain ⟨id, inserted, -, -⟩ := Db.insertUser_eq_some executed
    refine ⟨[⟨id, username, email, ctx.now⟩], ?_, ?_⟩
    · rw [(Table.insert_eq_some inserted).2.1, List.map_append]
      rfl
    · intro account member
      rw [List.mem_singleton.mp member]
      exact owed
  | updatePassword | updateQQId | updateNetEaseId =>
    exact kept (identities_update executed fun _ => rfl)
  | _ =>
    obtain ⟨owner, none⟩ := owed
    exact none.elim

/-- One effect of any thread. -/
theorem Vouched.step [DecidableEq ι] {i : ι} {effect : Effect} {reply : effect.Reply}
    (vouched : Vouched sys start a) (owed : Owed sys effect a)
    (step : siteStep sys i effect a reply b) : Vouched sys start b := by
  have more : MailRely a b := by
    rw [MailRely, mails_of_siteStep step]
    exact List.prefix_append _ _
  obtain ⟨env, count, performed⟩ := step_of_siteStep step
  have after : b.world = (exec sys env count effect a.world).2 := by rw [performed]
  -- What touches neither the codes nor the users.
  have plain (codes : (exec sys env count effect a.world).2.codes = a.world.codes)
      (db : (exec sys env count effect a.world).2.db = a.world.db) : Vouched sys start b :=
    vouched.same more (by rw [after, codes]) (by rw [after, db])
  cases effect with
  | storeCode email code expiry action =>
    refine ⟨fun other info stored => ?_, vouched.users_later more (by rw [after]; rfl)⟩
    rw [after] at stored
    simp only [exec, CodeStore.info?_assign] at stored
    split at stored
    -- The new entry, which was mailed before.
    next same =>
      subst same
      cases stored
      exact Site.Mailed.later owed more
    · exact (vouched.codes other info stored).later more
  | cleanupCodes now =>
    refine ⟨vouched.codes_later more fun email info found => ?_, ?_⟩
    · rw [after] at found
      simp only [exec, CodeStore.info?_cleanup, Option.filter_eq_some_iff] at found
      exact found.1
    · exact vouched.users_later more (by rw [after]; rfl)
  | connector conn call =>
    cases call with
    | execute s =>
      cases conn with
      | none => exact plain rfl rfl
      | some k =>
        simp only [exec] at after plain
        split at after
        · exact vouched.same more (by rw [after]) (by rw [after])
        simp only [execCall] at after
        split at after
        next value db executed =>
          obtain ⟨opened, rows, known⟩ := identities_of_owed owed executed
          obtain ⟨earlier, before, vouches⟩ := vouched.users
          refine ⟨vouched.codes_later more fun email info found => ?_, earlier ++ opened, ?_, ?_⟩
          · rw [after] at found
            exact found
          · rw [after, rows, before, List.append_assoc]
          · intro account member
            rcases List.mem_append.mp member with old | new
            · obtain ⟨code, mailed⟩ := vouches account old
              exact ⟨code, mailed.later more⟩
            · obtain ⟨code, mailed⟩ := known account new
              exact ⟨code, mailed.later more⟩
        · exact vouched.same more (by rw [after]) (by rw [after])
    | _ =>
      cases conn with
      | none => exact plain rfl rfl
      | some k => refine plain ?_ ?_ <;> (simp only [exec]; split <;> rfl)
  | fileExists | createDirectory | openOut | closeOut =>
    refine plain ?_ ?_ <;> (simp only [exec]; split <;> rfl)
  | _ => exact plain rfl rfl

end Vouched

/-! ### The jobs -/

section Jobs

variable {ι : Type} [DecidableEq ι] {sys : System} {start : List Identity} {i : ι} {s : Site ι}
  {α : Type}

/-- What threads promise one another: no mail is taken back, and nothing happens that the mails do
not vouch for. -/
def mailProtocol (ι : Type) (sys : System) (start : List Identity) :
    Protocol ι Effect Exn ServerJob ServerJob.Out (Site ι) where
  inv := Vouched sys start
  rely _ := MailRely
  pre _ := Owed sys
  post _ _ _ _ := True
  idle _ _ := True

/-- A program that does nothing the mails do not vouch for. -/
abbrev MailSafe (sys : System) (start : List Identity) (i : ι) (prog : Prog α)
    (post : Except Exn α → Site ι → Prop) (s : Site ι) : Prop :=
  prog.Safe (fun effect a reply b => Vouched sys start a ∧ siteStep sys i effect a reply b)
    MailRely (fun effect a => Vouched sys start a → Owed sys effect a) post s

/-- What may be done once some mails have gone out. -/
def OwedAfter (ι : Type) (sys : System) (sent : List Mail) (effect : Effect) : Prop :=
  ∀ site : Site ι, (∀ mail ∈ sent, mail ∈ site.mails) → Owed sys effect site

theorem MailSafe.of_performs {sent : List Mail} {prog : Prog α}
    (performs : prog.Performs (OwedAfter ι sys sent)) (known : ∀ mail ∈ sent, mail ∈ s.mails) :
    MailSafe sys start i prog (fun _ _ => True) s := by
  refine Safe.mono (Uses.safe (fun site => ∀ mail ∈ sent, mail ∈ site.mails) performs ?_ ?_ ?_
    known) fun _ _ _ => trivial
  · exact fun a b known more mail member => more.subset (known mail member)
  · exact fun effect a owed known _ => owed a known
  · rintro effect a reply b - known ⟨-, step⟩ mail member
    rw [mails_of_siteStep step]
    exact List.mem_append_left _ (known mail member)

omit [DecidableEq ι] in
theorem owedAfter_grants {statements : Statement → Prop} {sent : List Mail}
    (vouched : ∀ conn s, statements s → OwedAfter ι sys sent (.connector conn (.execute s))) :
    Grants (OwedAfter ι sys sent) statements where
  clock _ _ _ := trivial
  lockPool _ _ := trivial
  waitFor _ _ := trivial
  constructGuard _ _ _ := trivial
  releaseConnection _ _ _ := trivial
  connector conn c permitted := by
    cases c with
    | execute s => exact vouched conn s (permitted s rfl)
    | _ => exact fun _ _ => trivial
  reserve _ _ _ := trivial

/-- Where the check of a code succeeds, the code was mailed to the address. -/
theorem safe_verifyCode_mailed (email action code : String) :
    MailSafe sys start i (VerifyService.verifyCode email action code)
      (fun result b => result = .ok true → b.Mailed sys email code) s := by
  simp only [VerifyService.verifyCode, trigger, bind_eq, act_bind, ret_bind]
  refine fun a _ => ⟨fun _ => trivial, ?_⟩
  rintro found b ⟨-, step⟩
  obtain ⟨env, count, performed⟩ := step_of_siteStep step
  cases found with
  | none =>
    intro answered
    cases answered
  | some ptr =>
    have address : ptr.email = email := by
      obtain ⟨entry, -, same⟩ := Option.map_eq_some_iff.mp (Prod.mk.inj performed).1
      rw [← same]
    refine fun a _ => ⟨fun _ => trivial, ?_⟩
    rintro now b -
    refine fun a _ => ⟨fun _ => trivial, ?_⟩
    rintro read b ⟨vouched, step⟩
    obtain ⟨env, count, performed⟩ := step_of_siteStep step
    cases read with
    | error exn =>
      intro answered
      cases answered
    | ok info =>
      intro answered
      have accepted : VerifyService.accepts info now action code = true := by
        simpa using answered
      -- Whatever the entry is by now, it is one of the address.
      have stored : a.world.codes.info? email = some info := by
        rw [← address]
        apply CodeStore.info?_of_deref
        cases held : a.world.codes.deref ptr with
        | none => simp [exec, held] at performed
        | some other => simpa [exec, held] using (Prod.mk.inj performed).1
      have mailed := vouched.codes email info stored
      rw [(accepts_iff.mp accepted).2.1] at mailed
      refine mailed.later ?_
      rw [MailRely, mails_of_siteStep step]
      exact List.prefix_append _ _

/-- A code is stored after its mail went out. -/
theorem safe_sendVerifyCode_mailed (email action : String) :
    MailSafe sys start i (VerifyService.sendVerifyCode sys email action) (fun _ _ => True) s := by
  have draws : (EmailUtil.generateVerificationCode 6).Performs (OwedAfter ι sys []) :=
    UserHandler.generateLoop_performs (fun _ _ _ => trivial) "" 0 6
  refine (Safe.bind_iff ..).mpr (Safe.mono (MailSafe.of_performs draws (by simp)) ?_)
  rintro drawn a -
  cases drawn with
  | error exn => trivial
  | ok code =>
    simp only [EmailUtil.sendTextEmail, trigger, bind_eq, act_bind, ret_bind]
    refine fun a _ => ⟨fun _ => trivial, ?_⟩
    rintro curl b -
    cases curl with
    | false => trivial
    | true =>
      refine fun a _ => ⟨fun _ => trivial, ?_⟩
      rintro delivered b ⟨-, step⟩
      cases delivered with
      | false => trivial
      | true =>
        have mailed : b.Mailed sys email code := by
          rw [Site.Mailed, mails_of_siteStep step]
          exact List.mem_append_right _ (List.mem_singleton_self _)
        exact fun a more => ⟨fun _ => mailed.later more, fun _ _ _ => trivial⟩

theorem MailSafe.catching {version : Nat} {body : Prog HttpResponse}
    (safe : MailSafe sys start i body (fun _ _ => True) s) :
    MailSafe sys start i (UserHandler.catching version body) (fun _ _ => True) s := by
  refine (Safe.tryCatch_iff ..).mpr (Safe.mono safe fun result b _ => ?_)
  cases result with
  | ok res => trivial
  | error exn => cases exn <;> trivial

theorem MailSafe.bind {β : Type} {prog : Prog α} {next : α → Prog β}
    {post : Except Exn α → Site ι → Prop} (first : MailSafe sys start i prog post s)
    (continues : ∀ value b, post (.ok value) b →
      MailSafe sys start i (next value) (fun _ _ => True) b) :
    MailSafe sys start i (prog.bind next) (fun _ _ => True) s := by
  refine (Safe.bind_iff ..).mpr (Safe.mono first fun result b holds => ?_)
  cases result with
  | ok value => exact continues value b holds
  | error exn => trivial

theorem MailSafe.plain {prog : Prog α} (performs : prog.Performs fun _ => False) :
    MailSafe sys start i prog (fun _ _ => True) s := by
  have nothing : prog.Performs (OwedAfter ι sys []) := performs.weaken fun _ none => none.elim
  exact MailSafe.of_performs nothing (by simp)

/-- The account is opened with a code that was mailed to its address. -/
theorem safe_handleRegister_mailed (req : HttpRequest) :
    MailSafe sys start i (UserHandler.handleRegister sys req) (fun _ _ => True) s := by
  apply MailSafe.catching
  refine MailSafe.bind (MailSafe.plain (performs_parseBody req)) fun j b _ => ?_
  split
  · trivial
  refine MailSafe.bind (MailSafe.plain (performs_stringField ..)) fun username b _ => ?_
  refine MailSafe.bind (MailSafe.plain (performs_stringField ..)) fun password b _ => ?_
  refine MailSafe.bind (MailSafe.plain (performs_stringField ..)) fun email b _ => ?_
  refine MailSafe.bind (MailSafe.plain (performs_stringField ..)) fun code b _ => ?_
  refine MailSafe.bind (safe_verifyCode_mailed email "register" code) fun valid b mailed => ?_
  cases valid with
  | false => trivial
  | true =>
    simp only [Bool.not_true, Bool.false_eq_true, if_false]
    -- What is left looks up the name and inserts the account with the address.
    have grants : Grants (OwedAfter ι sys [codeMail sys email code])
        (fun s => s = .selectUserByUsername username ∨ s = .selectLastInsertId ∨
          ∃ hash, s = .insertUser username hash email) := by
      refine owedAfter_grants fun conn s issued site known => ?_
      rcases issued with rfl | rfl | ⟨hash, rfl⟩
      · exact ⟨none, trivial⟩
      · exact ⟨none, trivial⟩
      · exact ⟨code, known _ (List.mem_singleton_self _)⟩
    have rest : ∀ mail ∈ [codeMail sys email code], mail ∈ b.mails := by
      intro mail member
      rw [List.mem_singleton.mp member]
      exact mailed rfl
    refine MailSafe.of_performs ?_ rest
    refine Performs.bind (UserDAO.getUserByUsername_isMethod username |>.weaken ?_
      |>.performs grants) fun found => ?_
    · rintro s rfl
      exact .inl rfl
    split
    · exact Performs.ret _
    refine Performs.bind (UserDAO.createUser_isMethod _ |>.weaken ?_ |>.performs grants)
      fun created => ?_
    · rintro s (rfl | rfl)
      · exact .inr (.inr ⟨_, rfl⟩)
      · exact .inr (.inl rfl)
    · split <;> exact Performs.ret _

theorem safe_handleGetVerifyCode_mailed (req : HttpRequest) :
    MailSafe sys start i (UserHandler.handleGetVerifyCode sys req) (fun _ _ => True) s := by
  apply MailSafe.catching
  refine MailSafe.bind (MailSafe.plain (performs_parseBody req)) fun j b _ => ?_
  split
  · trivial
  refine MailSafe.bind (MailSafe.plain (performs_stringField ..)) fun email b _ => ?_
  refine MailSafe.bind (MailSafe.plain (performs_stringField ..)) fun action b _ => ?_
  split
  · trivial
  split
  · refine MailSafe.bind (safe_sendVerifyCode_mailed email action) fun sent b _ => ?_
    split <;> trivial
  · trivial

/-- No other handler stores a code or opens an account. -/
theorem safe_job_mailed (job : ServerJob) :
    MailSafe sys start i (job.program sys) (fun _ _ => True) s := by
  have grants : Grants (OwedAfter ι sys []) fun s => ∃ owner, StatementFor owner False s := by
    refine owedAfter_grants fun conn s own site _ => ?_
    cases s with
    | insertUser =>
      obtain ⟨owner, opens⟩ := own
      exact opens.elim
    | _ => exact own
  have quiet {prog : Prog HttpResponse} (performs : prog.Performs (OwedAfter ι sys [])) :
      MailSafe sys start i prog (fun _ _ => True) s :=
    MailSafe.of_performs performs (by simp)
  have files (userId : Int32) (effect : Effect) (avatar : AvatarEffect userId effect) :
      OwedAfter ι sys [] effect := by
    intro site _
    cases effect with
    | storeCode | connector => exact avatar.elim
    | _ => trivial
  cases job with
  | cleanup =>
    exact fun a _ => ⟨fun _ => trivial, fun now b _ c _ => ⟨fun _ => trivial, fun _ _ _ => trivial⟩⟩
  | request req =>
    refine handleRouter_cases sys req (P := fun prog => MailSafe sys start i prog _ s)
      (fun _ => safe_handleRegister_mailed req) (fun _ => safe_handleGetVerifyCode_mailed req)
      ?_ ?_ ?_ ?_ ?_ ?_ ?_
    · exact fun _ => quiet (UserHandler.handleLogin_performs grants fun _ => ⟨none, trivial⟩)
    · exact fun _ => quiet (UserHandler.handleGetProfile_performs grants fun _ _ => ⟨none, trivial⟩)
    · exact fun _ => quiet (UserHandler.handleUpdateAvatar_performs grants.clock
        fun userId _ => files userId)
    · exact fun _ => quiet (UserHandler.handleGetAvatar_performs grants.clock
        fun userId _ => files userId)
    · exact fun _ => quiet (UserHandler.handleChangePassword_performs grants
        (fun _ _ _ => trivial) (fun _ _ _ => trivial) fun userId _ _ => ⟨some userId, rfl⟩)
    · exact fun _ => quiet (UserHandler.handleBindPlatform_performs grants
        fun userId _ _ => ⟨⟨some userId, rfl⟩, ⟨some userId, rfl⟩⟩)
    · exact fun _ res => trivial

theorem mailProtocol_sound : (mailProtocol ι sys start).Sound (workers ι sys) where
  refl _ a := List.prefix_refl _
  trans _ a b c := List.IsPrefix.trans
  starts i job a b vouched _ starts := by
    cases starts
    exact ⟨vouched.same (List.prefix_refl _) rfl rfl, safe_job_mailed job,
      fun _ _ => List.prefix_refl _⟩
  acts i effect a reply b vouched owed step := by
    refine ⟨vouched.step owed step, fun _ _ => ?_⟩
    change MailRely a b
    rw [MailRely, mails_of_siteStep step]
    exact List.prefix_append _ _
  post_stable _ _ _ _ _ _ _ := trivial
  idle_stable _ _ _ _ _ := trivial
  finishes _ _ _ _ _ := trivial

/-- In every interleaving of the server's threads, starting without codes: every code in the store
was mailed to its address, no account of the start has disappeared or has another name, address or
time of creation, and the address of every new account was sent a mail with a code. -/
theorem addresses_verified {outcome : Nat → DBManager.ConnectOutcome} {poolSize : Nat} {w : World}
    (codes : w.codes = {}) {c : Config ι Effect Effect.Reply Exn ServerJob.Out (Site ι)}
    (reach : (workers ι sys).Reachable (workersInit ι outcome poolSize w) c) :
    Vouched sys (w.db.users.rows.map UserRow.identity) c.shared := by
  have initially : Vouched sys (w.db.users.rows.map UserRow.identity)
      (workersInit ι outcome poolSize w).shared := by
    refine ⟨fun email info found => ?_, [], (List.append_nil _).symm, by simp⟩
    change w.codes.info? email = some info at found
    rw [codes, CodeStore.info?_empty] at found
    cases found
  have holds : (mailProtocol ι sys _).Holds (workers ι sys) (workersInit ι outcome poolSize w) :=
    ⟨initially, fun i => trivial⟩
  exact (holds.reachable mailProtocol_sound reach).inv

end Jobs

section Sample

open Reference

/-- One thread mails a code and another one registers with it, over one connection. -/
def registeredConfig :
    Config (Fin 2) Effect Effect.Reply Exn ServerJob.Out (Site (Fin 2)) :=
  (workersBegun (Fin 2) system (fun _ => .connected) 1 {}
      [(0, .request (mailCode "a@b.c" "register").2), (1, .request registerBob.2)]).runSchedule
    (siteExec system) (List.replicate 9 (0, env 0, 0) ++ List.replicate 24 (1, env 0, 0))

theorem addresses_verified_registered :
    registeredConfig.shared.world.db.users.rows.map (·.email) = ["a@b.c"] ∧
      Vouched system [] registeredConfig.shared := by
  have reach : (workers (Fin 2) system).Reachable
      (workersInit (Fin 2) (fun _ => .connected) 1 {}) registeredConfig := by
    refine (workersBegun_reachable (by decide)).runSchedule _ fun i choice _ effect a => ?_
    exact siteStep_siteExec system i choice effect a
  have vouched := addresses_verified rfl reach
  exact ⟨by decide +kernel, vouched⟩

end Sample

end MusicPlayer
