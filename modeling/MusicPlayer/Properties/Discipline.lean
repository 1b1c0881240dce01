import MusicPlayer.Database.Operations
import MusicPlayer.Server.Router

/-!
# What the handlers do with a token, and which effects they perform

The token of a request is either refused or names one user id, and from then on that id is
all a handler uses of it. What a handler can do at all is said by `Performs`, for any set of
effects that grants what the handler needs.
-/
namespace MusicPlayer

open Resumption Program JsonUtil

/-! ### Tokens -/

namespace JWTUtil

/-- `verifyToken` returns the token: it was signed here, is of this issuer and has not
expired. -/
def accepts (sys : System) (env : Env) (token : String) : Bool :=
  (sys.jwt.decode token).any fun decoded =>
    verify sys (env.clock .verifyToken) token decoded &&
      match decoded.payload.lookup "exp" with
      | some (.date exp) => !decide (seconds exp < env.clock .isTokenExpired)
      | _ => false

/-- The user id a token names: `atoi` of its claim. -/
def tokenId? (sys : System) (token : String) : Option Int32 :=
  (sys.jwt.decode token).bind fun decoded =>
    match decoded.payload.lookup "id" with
    | some (.string s) => some (atoi s)
    | _ => none

section Rules

variable {sys : System} {env : Env} {w : World}

theorem decode_of_none {token : String} (found : sys.jwt.decode token = none) :
    decode sys token = .raise .stdException := by
  rw [decode, found]

theorem decode_of_some {token : String} {decoded : Token}
    (found : sys.jwt.decode token = some decoded) : decode sys token = .ret decoded := by
  rw [decode, found]

theorem wp_verifyToken (token : String) (post : Except Exn String → World → Prop) :
    (verifyToken sys token).Wp (Step sys env) post w ↔
      post (.ok (if accepts sys env token then token else "")) w := by
  rw [verifyToken, wp_tryCatch]
  simp only [isTokenExpired, bind_eq]
  cases found : sys.jwt.decode token with
  | none => simp [decode_of_none found, accepts, found]
  | some decoded =>
    simp only [decode_of_some found, ret_bind, trigger, act_bind, wp_now]
    cases verified : verify sys (env.clock .verifyToken) token decoded with
    | false => simp [accepts, found, verified]
    | true =>
      cases exp : decoded.payload.lookup "exp" with
      | none => simp [accepts, found, exp]
      | some claim =>
        cases claim with
        | date time =>
          by_cases gone : seconds time < env.clock .isTokenExpired <;>
            simp [accepts, found, verified, exp, gone]
        | _ => simp [accepts, found, exp]

theorem wp_tokenUserId (token : String) (post : Except Exn Int32 → World → Prop) :
    (UserHandler.tokenUserId sys token).Wp (Step sys env) post w ↔
      post ((tokenId? sys token).elim (.error .stdException) .ok) w := by
  simp only [UserHandler.tokenUserId, getClaim, bind_eq]
  cases found : sys.jwt.decode token with
  | none => simp [decode_of_none found, tokenId?, found]
  | some decoded =>
    simp only [decode_of_some found, ret_bind]
    cases id : decoded.payload.lookup "id" with
    | none => simp [tokenId?, found, id]
    | some claim => cases claim <;> simp [tokenId?, found, id]

end Rules

end JWTUtil

/-- The user id of the token of a request, if the token is accepted. -/
def caller (sys : System) (env : Env) (req : HttpRequest) : Option Int32 :=
  let token := req.field "Authorization"
  if JWTUtil.accepts sys env token && !token.isEmpty then JWTUtil.tokenId? sys token else none

/-! ### Effects -/

/-- A set of effects that a handler without files and codes can do with: the clock, the
pool, memory, and the connector with a restriction on its statements. -/
structure Grants (allowed : Effect → Prop) (statements : Statement → Prop) : Prop where
  clock : ∀ site, allowed (.now site)
  lockPool : allowed .lockPool
  waitFor : allowed .waitFor
  constructGuard : ∀ conn, allowed (.constructGuard conn)
  releaseConnection : ∀ conn, allowed (.releaseConnection conn)
  connector : ∀ conn c, (∀ s, c = .execute s → statements s) → allowed (.connector conn c)
  reserve : ∀ count, allowed (.reserve count)

/-- What the avatar handlers do to the file system for a user. -/
def AvatarEffect (userId : Int32) : Effect → Prop
  | .fileExists path =>
    path = UserHandler.avatarDirectory ∨ path = UserHandler.avatarPath userId
  | .createDirectory path => path = UserHandler.avatarDirectory
  | .openOut path | .writeFile path _ | .closeOut path | .closeFile path | .openIn path
  | .readFile path =>
    path = UserHandler.avatarPath userId
  | _ => False

section Performs

variable {sys : System} {allowed : Effect → Prop} {statements : Statement → Prop} {α : Type}

theorem performs_trigger_bind {effect : Effect} {next : effect.Reply → Prog α}
    (permitted : allowed effect) (continues : ∀ reply, (next reply).Performs allowed) :
    ((trigger effect).bind next).Performs allowed :=
  Performs.act permitted continues

theorem performs_call (grants : Grants allowed statements) {conn : Option Conn}
    {c : ConnectorCall} (permitted : ∀ s, c = .execute s → statements s) :
    (DBManager.call conn c).Performs allowed :=
  performs_trigger_bind (grants.connector conn c permitted) fun _ => Performs.ofExcept _

theorem performs_getConnection (grants : Grants allowed statements) :
    DBManager.getConnection.Performs allowed := by
  refine Performs.bind ?_ fun conn => ?_
  · refine performs_trigger_bind grants.lockPool fun popped => ?_
    cases popped with
    | none => exact Performs.act grants.waitFor fun _ => Performs.ret _
    | some conn => exact Performs.ret _
  · cases conn with
    | none => exact Performs.ret _
    | some conn =>
      refine Performs.bind (Performs.tryCatch ?_ fun exn => ?_) fun _ => Performs.ret _
      · refine Performs.bind (performs_call grants (by simp)) fun valid => ?_
        cases valid with
        | true => exact Performs.ret _
        | false =>
          refine Performs.bind (performs_call grants (by simp)) fun _ => ?_
          exact performs_call grants (by simp)
      · cases exn <;> trivial

/-- A method performs what the pool needs and what its body asks of the connector. -/
theorem IsMethod.performs {failure : α} {prog : Prog α}
    (method : IsMethod statements failure prog) (grants : Grants allowed statements) :
    prog.Performs allowed := by
  obtain ⟨body, rfl, through⟩ := method
  refine Performs.tryCatch ?_ fun exn => by cases exn <;> trivial
  refine Performs.bind (performs_getConnection grants) fun conn => ?_
  refine performs_trigger_bind (grants.constructGuard conn) fun _ => ?_
  refine Performs.bind (Performs.attempt ((through ⟨conn⟩).weaken fun effect asked => ?_))
    fun result => ?_
  · cases effect with
    | connector other c => exact grants.connector other c asked.2
    | reserve count => exact grants.reserve count
    | _ => exact asked.elim
  · refine Performs.bind ?_ fun _ => Performs.ofExcept _
    cases conn with
    | none => exact Performs.ret _
    | some conn => exact Performs.act (grants.releaseConnection conn) fun _ => Performs.ret _

theorem performs_catching {version : Nat} {body : Prog HttpResponse}
    (performs : body.Performs allowed) : (UserHandler.catching version body).Performs allowed :=
  Performs.tryCatch performs fun exn => by cases exn <;> trivial

theorem performs_parseBody (req : HttpRequest) :
    (UserHandler.parseBody sys req).Performs allowed := by
  unfold UserHandler.parseBody
  split <;> trivial

theorem performs_stringField (j : Json) (key : String) :
    (UserHandler.stringField j key).Performs allowed := by
  unfold UserHandler.stringField
  split <;> trivial

/-- `verifyToken` reads the clock, and returns either nothing or the token it was given. -/
theorem uses_verifyToken (clock : ∀ site, allowed (.now site)) (token : String) :
    (JWTUtil.verifyToken sys token).Uses allowed fun
      | .ok accepted => accepted = "" ∨ accepted = token
      | .error _ => True := by
  rw [JWTUtil.verifyToken, uses_tryCatch]
  simp only [JWTUtil.isTokenExpired, bind_eq]
  cases found : sys.jwt.decode token with
  | none => simp [JWTUtil.decode_of_none found]
  | some decoded =>
    simp only [JWTUtil.decode_of_some found, ret_bind, trigger, act_bind, uses_act]
    refine ⟨clock _, fun now => ?_⟩
    split
    next => simp
    split
    next =>
      refine (uses_act ..).mpr ⟨clock _, fun later => ?_⟩
      simp only [pure_eq, ret_bind]
      split <;> simp
    next => simp

theorem performs_authenticate (clock : ∀ site, allowed (.now site)) {token : String}
    {res : HttpResponse} {next : String → Prog HttpResponse}
    (continues : (next token).Performs allowed) :
    ((JWTUtil.verifyToken sys token).bind fun accepted =>
      if accepted.isEmpty = true then .ret res else next accepted).Performs allowed := by
  refine (uses_bind ..).mpr ((uses_verifyToken clock token).mono fun result returned => ?_)
  cases result with
  | error exn => trivial
  | ok accepted =>
    rcases returned with rfl | rfl
    · exact Performs.ret _
    · dsimp only
      split
      · exact Performs.ret _
      · exact continues

theorem performs_tokenUserId {token : String} {next : Int32 → Prog HttpResponse}
    (continues : ∀ userId, JWTUtil.tokenId? sys token = some userId →
      (next userId).Performs allowed) :
    ((UserHandler.tokenUserId sys token).bind next).Performs allowed := by
  simp only [UserHandler.tokenUserId, JWTUtil.getClaim, bind_eq]
  cases found : sys.jwt.decode token with
  | none => simp [JWTUtil.decode_of_none found]
  | some decoded =>
    simp only [JWTUtil.decode_of_some found, ret_bind]
    cases id : decoded.payload.lookup "id" with
    | none => simp
    | some claim =>
      cases claim with
      | string s => exact continues _ (by simp [JWTUtil.tokenId?, found, id])
      | _ => simp

end Performs

namespace UserHandler

variable {sys : System} {allowed : Effect → Prop} {statements : Statement → Prop}
  {req : HttpRequest}

theorem handleGetProfile_performs (grants : Grants allowed statements)
    (selects : ∀ userId, JWTUtil.tokenId? sys (req.field "Authorization") = some userId →
      statements (.selectUserById userId)) :
    (handleGetProfile sys req).Performs allowed := by
  refine performs_catching (performs_authenticate grants.clock ?_)
  refine performs_tokenUserId fun userId named => ?_
  refine Performs.bind ((UserDAO.getUserById_isMethod userId).weaken ?_ |>.performs grants)
    fun user => ?_
  · rintro s rfl
    exact selects userId named
  · cases user <;> exact Performs.ret _

theorem handleUpdateAvatar_performs (clock : ∀ site, allowed (.now site))
    (files : ∀ userId, JWTUtil.tokenId? sys (req.field "Authorization") = some userId →
      ∀ effect, AvatarEffect userId effect → allowed effect) :
    (handleUpdateAvatar sys req).Performs allowed := by
  refine performs_catching (performs_authenticate clock ?_)
  refine Performs.bind (performs_parseBody req) fun j => ?_
  split
  next => exact Performs.ret _
  refine Performs.bind (performs_stringField ..) fun avatarData => ?_
  split
  next => exact Performs.ret _
  refine performs_tokenUserId fun userId named => ?_
  have may := files userId named
  have saves : ((trigger (.openOut (avatarPath userId))).bind fun opened =>
      if (!opened) = true then
        .ret (buildErrorResponse .internalServerError req.version "Failed to save avatar")
      else
        (trigger (.writeFile (avatarPath userId) avatarData.toUTF8)).bind fun _ =>
          (trigger (.closeOut (avatarPath userId))).bind fun _ =>
            .ret (buildSuccessResponse req.version (success "Avatar updated successfully")) :
      Prog HttpResponse).Performs allowed := by
    refine performs_trigger_bind (may _ rfl) fun opened => ?_
    split
    · exact Performs.ret _
    · refine performs_trigger_bind (may _ rfl) fun _ => ?_
      exact performs_trigger_bind (may _ rfl) fun _ => Performs.ret _
  refine performs_trigger_bind (may _ (.inl rfl)) fun found => ?_
  refine Performs.bind (Performs.ofExcept _) fun found => ?_
  split
  · refine performs_trigger_bind (may _ rfl) fun created => ?_
    exact Performs.bind (Performs.ofExcept _) fun _ => saves
  · exact saves

theorem handleGetAvatar_performs (clock : ∀ site, allowed (.now site))
    (files : ∀ userId, JWTUtil.tokenId? sys (req.field "Authorization") = some userId →
      ∀ effect, AvatarEffect userId effect → allowed effect) :
    (handleGetAvatar sys req).Performs allowed := by
  refine performs_catching (performs_authenticate clock ?_)
  refine performs_tokenUserId fun userId named => ?_
  have may := files userId named
  refine performs_trigger_bind (may _ (.inr rfl)) fun found => ?_
  refine Performs.bind (Performs.ofExcept _) fun found => ?_
  split
  next => exact Performs.ret _
  refine performs_trigger_bind (may _ rfl) fun opened => ?_
  split
  next => exact Performs.ret _
  refine performs_trigger_bind (may _ rfl) fun avatarData => ?_
  refine performs_trigger_bind (may _ rfl) fun _ => ?_
  split
  · exact Performs.raise _
  · exact Performs.ret _

theorem handleBindPlatform_performs (grants : Grants allowed statements)
    (updates : ∀ userId, JWTUtil.tokenId? sys (req.field "Authorization") = some userId →
      ∀ value, statements (.updateQQId value userId) ∧
        statements (.updateNetEaseId value userId)) :
    (handleBindPlatform sys req).Performs allowed := by
  refine performs_catching (performs_authenticate grants.clock ?_)
  refine performs_tokenUserId fun userId named => ?_
  refine Performs.bind (performs_parseBody req) fun j => ?_
  split
  next => exact Performs.ret _
  refine Performs.bind (performs_stringField ..) fun platform => ?_
  refine Performs.bind (performs_stringField ..) fun platformId => ?_
  split
  next =>
    refine Performs.bind (UserDAO.updateColumn_isMethod .. |>.weaken ?_ |>.performs grants)
      fun updated => ?_
    · rintro s rfl
      exact (updates userId named platformId).1
    · split <;> exact Performs.ret _
  split
  next =>
    refine Performs.bind (UserDAO.updateColumn_isMethod .. |>.weaken ?_ |>.performs grants)
      fun updated => ?_
    · rintro s rfl
      exact (updates userId named platformId).2
    · split <;> exact Performs.ret _
  next => exact Performs.ret _

theorem verifyCode_performs (finds : ∀ email, allowed (.findCode email))
    (derefs : ∀ ptr, allowed (.derefCode ptr)) (clock : ∀ site, allowed (.now site))
    (email action code : String) :
    (VerifyService.verifyCode email action code).Performs allowed := by
  refine performs_trigger_bind (finds email) fun found => ?_
  cases found with
  | none => exact Performs.ret _
  | some ptr =>
    refine performs_trigger_bind (clock _) fun now => ?_
    refine performs_trigger_bind (derefs ptr) fun read => ?_
    exact Performs.bind (Performs.ofExcept _) fun info => Performs.ret _

theorem handleChangePassword_performs (grants : Grants allowed statements)
    (finds : ∀ email, allowed (.findCode email)) (derefs : ∀ ptr, allowed (.derefCode ptr))
    (updates : ∀ userId, JWTUtil.tokenId? sys (req.field "Authorization") = some userId →
      ∀ passwdHash, statements (.updatePassword passwdHash userId)) :
    (handleChangePassword sys req).Performs allowed := by
  refine performs_catching (Performs.bind (performs_parseBody req) fun j => ?_)
  split
  next => exact Performs.ret _
  apply performs_authenticate grants.clock
  refine performs_tokenUserId fun userId named => ?_
  iterate 3 refine Performs.bind (performs_stringField ..) fun _ => ?_
  refine Performs.bind (verifyCode_performs finds derefs grants.clock _ _ _) fun accepted => ?_
  split
  next => exact Performs.ret _
  refine Performs.bind (UserDAO.updateColumn_isMethod .. |>.weaken ?_ |>.performs grants)
    fun updated => ?_
  · rintro s rfl
    exact updates userId named _
  · split <;> exact Performs.ret _

theorem handleLogin_performs (grants : Grants allowed statements)
    (selects : ∀ username, statements (.selectUserByUsername username)) :
    (handleLogin sys req).Performs allowed := by
  refine performs_catching (Performs.bind (performs_parseBody req) fun j => ?_)
  split
  next => exact Performs.ret _
  refine Performs.bind (performs_stringField ..) fun username => ?_
  refine Performs.bind (performs_stringField ..) fun password => ?_
  refine Performs.bind (UserDAO.getUserByUsername_isMethod username |>.weaken ?_ |>.performs grants)
    fun user => ?_
  · rintro s rfl
    exact selects username
  · cases user with
    | none => exact Performs.ret _
    | some user =>
      dsimp only
      split
      · exact Performs.ret _
      · refine Performs.bind ?_ fun token => Performs.ret _
        exact performs_trigger_bind (grants.clock _) fun now => Performs.ret _

theorem handleRegister_performs (grants : Grants allowed statements)
    (finds : ∀ email, allowed (.findCode email)) (derefs : ∀ ptr, allowed (.derefCode ptr))
    (selects : ∀ username, statements (.selectUserByUsername username))
    (inserts : ∀ username passwdHash email, statements (.insertUser username passwdHash email))
    (reads : statements .selectLastInsertId) : (handleRegister sys req).Performs allowed := by
  refine performs_catching (Performs.bind (performs_parseBody req) fun j => ?_)
  split
  next => exact Performs.ret _
  iterate 4 refine Performs.bind (performs_stringField ..) fun _ => ?_
  refine Performs.bind (verifyCode_performs finds derefs grants.clock _ _ _) fun accepted => ?_
  split
  next => exact Performs.ret _
  refine Performs.bind (UserDAO.getUserByUsername_isMethod _ |>.weaken ?_ |>.performs grants)
    fun found => ?_
  · rintro s rfl
    exact selects _
  split
  next => exact Performs.ret _
  refine Performs.bind (UserDAO.createUser_isMethod _ |>.weaken ?_ |>.performs grants)
    fun created => ?_
  · rintro s (rfl | rfl)
    · exact inserts _ _ _
    · exact reads
  · dsimp only
    split <;> exact Performs.ret _

theorem generateLoop_performs (digits : ∀ i, allowed (.uniformDigit i)) (code : String)
    (i left : Nat) : (EmailUtil.generateLoop code i left).Performs allowed := by
  induction left generalizing code i with
  | zero => exact Performs.ret _
  | succ left ih => exact performs_trigger_bind (digits i) fun digit => ih _ _

theorem sendVerifyCode_performs (digits : ∀ i, allowed (.uniformDigit i))
    (curl : allowed .curlInit) (mails : ∀ mail, allowed (.curlPerform mail))
    (stores : ∀ email code expiry action, allowed (.storeCode email code expiry action))
    (email action : String) : (VerifyService.sendVerifyCode sys email action).Performs allowed := by
  refine Performs.bind (generateLoop_performs digits "" 0 6) fun code => ?_
  refine Performs.bind (performs_trigger_bind curl fun curl => ?_) fun success => ?_
  · split
    · exact Performs.ret _
    · exact Performs.act (mails _) fun _ => Performs.ret _
  · split
    · exact Performs.ret _
    · exact performs_trigger_bind (stores ..) fun _ => Performs.ret _

theorem handleGetVerifyCode_performs (digits : ∀ i, allowed (.uniformDigit i))
    (curl : allowed .curlInit) (mails : ∀ mail, allowed (.curlPerform mail))
    (stores : ∀ email code expiry action, allowed (.storeCode email code expiry action)) :
    (handleGetVerifyCode sys req).Performs allowed := by
  refine performs_catching (Performs.bind (performs_parseBody req) fun j => ?_)
  split
  next => exact Performs.ret _
  iterate 2 refine Performs.bind (performs_stringField ..) fun _ => ?_
  split
  next => exact Performs.ret _
  split
  next =>
    refine Performs.bind (sendVerifyCode_performs digits curl mails stores _ _) fun sent => ?_
    split <;> exact Performs.ret _
  next => exact Performs.ret _

end UserHandler

end MusicPlayer
