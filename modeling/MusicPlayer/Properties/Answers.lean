import MusicPlayer.Properties.Isolation

/-!
# What answers reveal

The answer of a request is the same in all worlds that differ only in the avatar files of
other users. A profile is that of the caller's row, an avatar is the caller's file.
-/
namespace MusicPlayer

open Resumption Program Relational JsonUtil

/-! ### Worlds that the owner cannot tell apart -/

/-- The same world, up to the avatar files of users who are not the owner. -/
structure Alike (owner : Option Int32) (a b : World) : Prop where
  db : a.db = b.db
  codes : a.codes = b.codes
  directories : a.directories = b.directories
  files : ∀ path, (∀ userId, some userId ≠ owner → path ≠ UserHandler.avatarPath userId) →
    a.files path = b.files path

theorem avatarPath_injective : Function.Injective UserHandler.avatarPath := by
  intro a b equal
  have suffix : stdToString a = stdToString b := by
    simpa [UserHandler.avatarPath] using equal
  exact stdToString_injective suffix

theorem avatarDirectory_ne (userId : Int32) :
    UserHandler.avatarDirectory ≠ UserHandler.avatarPath userId := by
  intro equal
  have lengths := congrArg String.length equal
  simp only [UserHandler.avatarPath, UserHandler.avatarDirectory, String.length_append] at lengths
  have slash : "/".length = 1 := rfl
  omega

namespace Alike

variable {owner : Option Int32} {a b : World}

/-- The directory and the owner's own file. -/
theorem files_eq (alike : Alike owner a b) {userId : Int32} (own : owner = some userId)
    {path : String}
    (readable : path = UserHandler.avatarDirectory ∨ path = UserHandler.avatarPath userId) :
    a.files path = b.files path := by
  refine alike.files path fun other foreign => ?_
  rcases readable with rfl | rfl
  · exact avatarDirectory_ne other
  · intro equal
    rw [← avatarPath_injective equal, own] at foreign
    exact foreign rfl

/-- A write of equal data to one path. -/
theorem update (alike : Alike owner a b) (path : String) {data data' : Option ByteArray}
    (equal : data = data') : Alike owner { a with files := Function.update a.files path data }
      { b with files := Function.update b.files path data' } := by
  refine ⟨alike.db, alike.codes, alike.directories, fun other readable => ?_⟩
  dsimp only
  by_cases same : other = path
  · rw [same, Function.update_self, Function.update_self, equal]
  · rw [Function.update_of_ne same, Function.update_of_ne same]
    exact alike.files other readable

end Alike

/-- What is not done to files does not depend on them. -/
theorem exec_alike {owner : Option Int32} {effect : Effect} (off : effect.onFiles = false)
    (sys : System) (env : Env) (count : Nat) {a b : World} (alike : Alike owner a b) :
    (exec sys env count effect a).1 = (exec sys env count effect b).1 ∧
      Alike owner (exec sys env count effect a).2 (exec sys env count effect b).2 := by
  obtain ⟨db, codes, directories, files⟩ := a
  obtain ⟨db', codes', directories', files'⟩ := b
  obtain ⟨sameDb, sameCodes, sameDirectories, readable⟩ := alike
  -- Two worlds that are alike differ in their files only, which the effect does not see.
  cases sameDb
  cases sameCodes
  cases sameDirectories
  cases effect with
  | connector conn c =>
    cases conn with
    | none => exact ⟨rfl, rfl, rfl, rfl, readable⟩
    | some k =>
      simp only [exec]
      split
      · exact ⟨rfl, rfl, rfl, rfl, readable⟩
      cases c with
      | execute s =>
        simp only [execCall]
        split <;> exact ⟨rfl, rfl, rfl, rfl, readable⟩
      | _ => exact ⟨rfl, rfl, rfl, rfl, readable⟩
  | fileExists | createDirectory | openOut | writeFile | closeOut | closeFile | openIn | readFile =>
    cases off
  | _ => exact ⟨rfl, rfl, rfl, rfl, readable⟩

/-- An effect for the owner is answered alike. -/
theorem ActsFor.alike {owner : Option Int32} {opens : Prop} {effect : Effect}
    (acts : ActsFor owner opens effect) (sys : System) (env : Env) (count : Nat) {a b : World}
    (alike : Alike owner a b) :
    (exec sys env count effect a).1 = (exec sys env count effect b).1 ∧
      Alike owner (exec sys env count effect a).2 (exec sys env count effect b).2 := by
  cases effect with
  -- Opening truncates the file, so it does not matter what it held.
  | openOut path =>
    simp only [exec]
    split
    · exact ⟨rfl, alike.update path rfl⟩
    · exact ⟨rfl, alike⟩
  | writeFile path data =>
    obtain ⟨userId, own, named⟩ := acts.file rfl
    have same := alike.files_eq own (.inr named)
    refine ⟨rfl, alike.update path ?_⟩
    rw [same]
  | fileExists path =>
    -- A file that is looked at is the avatar of the owner, or its directory.
    obtain ⟨userId, own, named⟩ := acts.file rfl
    have same := alike.files_eq own named
    simp only [exec]
    split
    · exact ⟨rfl, alike⟩
    · exact ⟨by simp only [same, alike.directories], alike⟩
  | openIn path =>
    obtain ⟨userId, own, named⟩ := acts.file rfl
    have same := alike.files_eq own (.inr named)
    exact ⟨by simp only [exec, same], alike⟩
  | readFile path =>
    obtain ⟨userId, own, named⟩ := acts.file rfl
    have same := alike.files_eq own (.inr named)
    exact ⟨by simp only [exec, same], alike⟩
  | createDirectory path =>
    simp only [exec]
    split
    · exact ⟨rfl, alike⟩
    · refine ⟨rfl, alike.db, alike.codes, ?_, alike.files⟩
      rw [alike.directories]
  | closeOut path =>
    obtain ⟨userId, own, named⟩ := acts.file rfl
    have same := alike.files_eq own (.inr named)
    simp only [exec]
    split
    · exact ⟨trivial, alike.update path (by rw [same])⟩
    · exact ⟨trivial, alike⟩
  | closeFile path => exact ⟨rfl, alike⟩
  | _ => exact exec_alike rfl sys env count alike

/-- No answer depends on the avatar file of a user whom the token does not name. -/
theorem answer_of_alike {sys : System} {env : Env} {req : HttpRequest} {a b : World}
    (alike : Alike (named sys req) a b) :
    (exchange sys env a req).result = (exchange sys env b req).result :=
  ((handleRouter_actsFor sys req _ fun _ => rfl).run_related
    (fun count _ _ _ acts alike => acts.alike sys env count alike) 0 alike).1

/-! ### Profiles and avatars -/

namespace UserHandler

variable {sys : System} {env : Env} {w : World}

/-- The answer with the profile of a user. -/
def profileAnswer (version : Nat) (user : User) : HttpResponse :=
  buildSuccessResponse version (.object [("code", .numberInteger 200),
    ("message", .string "User profile retrieved successfully"), ("user", userJson user)])

/-- The answer with the text of an avatar. -/
def avatarAnswer (version : Nat) (text : String) : HttpResponse :=
  buildSuccessResponse version (.object [("code", .numberInteger 200),
    ("message", .string "Avatar retrieved successfully"), ("avatar_data", .string text)])

theorem wp_handleGetProfile {req : HttpRequest} {post : Except Exn HttpResponse → World → Prop}
    (crashes : ¬env.Faultless → post (.error .nullDeref) w)
    (rejected : ∀ res : HttpResponse, res.status ≠ .ok → post (.ok res) w)
    (found : ∀ userId, ∀ row ∈ w.db.users.rows, caller sys env req = some userId →
      row.id = userId → post (.ok (profileAnswer req.version (row.toUser sys))) w) :
    (handleGetProfile sys req).Wp (Step sys env) post w := by
  refine wp_catching (wp_authenticate rejected fun valid nonempty => ?_)
  refine wp_tokenUserId_bind valid nonempty rejected fun userId names => ?_
  simp only [bind_eq, wp_bind]
  refine UserDAO.wp_getUserById userId crashes (rejected _ (by simp)) ?_
  intro row member id
  exact found userId row member names id

theorem wp_handleGetAvatar {req : HttpRequest} {post : Except Exn HttpResponse → World → Prop}
    (rejected : ∀ res : HttpResponse, res.status ≠ .ok → post (.ok res) w)
    (found : ∀ userId data text, caller sys env req = some userId →
      w.files (avatarPath userId) = some data → String.fromUTF8? data = some text →
      post (.ok (avatarAnswer req.version text)) w) :
    (handleGetAvatar sys req).Wp (Step sys env) post w := by
  refine wp_catching (wp_authenticate rejected fun valid nonempty => ?_)
  refine wp_tokenUserId_bind valid nonempty rejected fun userId names => ?_
  simp only [trigger, bind_eq, act_bind, ret_bind]
  -- `fileExists` first: without a file the answer is 404.
  rw [wp_act]
  rintro reply after ⟨count, performed⟩
  simp only [exec] at performed
  split at performed
  · cases performed
    exact rejected
  cases performed
  simp only [ofExcept_ok, ret_bind]
  split
  next => exact rejected _ (by simp)
  rw [wp_act]
  rintro opened after ⟨count', performed⟩
  cases performed
  split
  next => exact rejected _ (by simp)
  next opened =>
    rw [wp_act]
    rintro data after ⟨count'', performed⟩
    cases performed
    rw [wp_act]
    rintro ⟨⟩ after ⟨_, performed⟩
    cases performed
    split
    next => exact rejected
    next text utf8 =>
      -- The file was opened, so it is there.
      cases stored : w.files (avatarPath userId) with
      | none => simp [stored] at opened
      | some data =>
        rw [stored] at utf8
        exact found userId data text names stored utf8

end UserHandler

theorem profile_answer {sys : System} {env : Env} {w : World} {req : HttpRequest}
    {res : HttpResponse} (route : routeOf req = .profile)
    (answered : (exchange sys env w req).result = .ok res) (status : res.status = .ok) :
    ∃ userId, caller sys env req = some userId ∧ ∃ row ∈ w.db.users.rows, row.id = userId ∧
      res = UserHandler.profileAnswer req.version (row.toUser sys) := by
  have wp : ((setupRoutes sys).handleRouter req).Wp (Step sys env) (fun result _ => ∀ res,
      result = .ok res → res.status = .ok → ∃ userId, caller sys env req = some userId ∧
        ∃ row ∈ w.db.users.rows, row.id = userId ∧
          res = UserHandler.profileAnswer req.version (row.toUser sys)) w := by
    rw [handleRouter_eq rfl route]
    refine UserHandler.wp_handleGetProfile ?_ ?_ ?_
    · intro _ res equal
      cases equal
    · intro res failed other equal status
      cases equal
      exact absurd status failed
    · intro userId row member names id res equal _
      cases equal
      exact ⟨userId, names, row, member, id, rfl⟩
  exact runProg_of_wp wp res answered status

theorem avatar_answer {sys : System} {env : Env} {w : World} {req : HttpRequest}
    {res : HttpResponse} (route : routeOf req = .getAvatar)
    (answered : (exchange sys env w req).result = .ok res) (status : res.status = .ok) :
    ∃ userId data text, caller sys env req = some userId ∧
      w.files (UserHandler.avatarPath userId) = some data ∧
      String.fromUTF8? data = some text ∧ res = UserHandler.avatarAnswer req.version text := by
  have wp : ((setupRoutes sys).handleRouter req).Wp (Step sys env) (fun result _ => ∀ res,
      result = .ok res → res.status = .ok → ∃ userId data text,
        caller sys env req = some userId ∧ w.files (UserHandler.avatarPath userId) = some data ∧
          String.fromUTF8? data = some text ∧
          res = UserHandler.avatarAnswer req.version text) w := by
    rw [handleRouter_eq rfl route]
    refine UserHandler.wp_handleGetAvatar ?_ ?_
    · intro res failed other equal status
      cases equal
      exact absurd status failed
    · intro userId data text names stored utf8 res equal _
      cases equal
      exact ⟨userId, data, text, names, stored, utf8, rfl⟩
  exact runProg_of_wp wp res answered status

/-! ### Tokens of logins -/

/-- A login that is answered 200, with a token for the user of its username. -/
structure Issues (sys : System) (x : Exchange) (token : String) (userId : Int32) : Prop where
  route : routeOf x.request = .login
  answer : ∃ res, x.result = .ok res ∧ res.status = .ok ∧ res.authorization = some token
  user : ∃ form, loginForm sys x.request = some form ∧ ∃ row ∈ x.before.db.users.rows,
    sys.collate row.username = sys.collate form.username ∧ row.id = userId

theorem login_answer {sys : System} {env : Env} {w : World} {req : HttpRequest}
    {res : HttpResponse} (route : routeOf req = .login)
    (answered : (exchange sys env w req).result = .ok res) (status : res.status = .ok) :
    ∃ form, ∃ row ∈ w.db.users.rows, loginForm sys req = some form ∧
      sys.collate row.username = sys.collate form.username ∧
      res = UserHandler.loggedIn sys env req.version (row.toUser sys) := by
  have wp : ((setupRoutes sys).handleRouter req).Wp (Step sys env) (fun result _ => ∀ res,
      result = .ok res → res.status = .ok → ∃ form, ∃ row ∈ w.db.users.rows,
        loginForm sys req = some form ∧ sys.collate row.username = sys.collate form.username ∧
          res = UserHandler.loggedIn sys env req.version (row.toUser sys)) w := by
    rw [handleRouter_eq rfl route]
    refine UserHandler.wp_handleLogin ?_ ?_ ?_
    · intro _ res equal
      cases equal
    · intro _ res failed other equal status
      cases equal
      exact absurd status failed
    · intro form row member presents same _ res equal _
      cases equal
      exact ⟨form, row, member, presents, same, rfl⟩
  exact runProg_of_wp wp res answered status

/-- The token of a login names the user of the username. -/
theorem tokenId_of_issues {sys : System} (lawful : sys.jwt.Lawful) {env : Env} {w : World}
    {req : HttpRequest} {token : String} {userId : Int32}
    (keyed : w.db.registry.Keyed sys.collate)
    (issues : Issues sys (exchange sys env w req) token userId) :
    JWTUtil.tokenId? sys token = some userId := by
  obtain ⟨res, answered, status, carries⟩ := issues.answer
  obtain ⟨form, presents, row, member, same, id⟩ := issues.user
  obtain ⟨form', other, member', presents', same', rfl⟩ :=
    login_answer issues.route answered status
  cases Option.some.inj (presents.symm.trans presents')
  have ids : row.id = other.id :=
    congrArg Account.id (account_of_username keyed member same member' same')
  have names :=
    issuedTo_loggedIn lawful env (exchange sys env w req).request.version (other.toUser sys)
  rw [issuedTo, carries] at names
  rw [← id, ids]
  exact names

/-- Users are isolated. A request without an accepted token changes no row that exists and no
avatar. A request with the token of a login changes at most the row and the avatar file of the
user who logged in, and reveals no other avatar and no other profile. -/
theorem users_isolated {sys : System} {start w : World} {journal : List Exchange}
    (lawful : sys.jwt.Lawful) (initially : start.db.registry.Keyed sys.collate)
    (run : Run sys start journal w) (env : Env) (req : HttpRequest) :
    (caller sys env req = none →
      w.db.users.rows <+: (exchange sys env w req).after.db.users.rows ∧
        (exchange sys env w req).after.files = w.files) ∧
    ∀ x ∈ journal, ∀ userId, Issues sys x (req.field "Authorization") userId →
      Confined (some userId) (routeOf req = .register) w (exchange sys env w req).after ∧
      (∀ other, Alike (some userId) w other →
        (exchange sys env other req).result = (exchange sys env w req).result) ∧
      ∀ res, (exchange sys env w req).result = .ok res → res.status = .ok →
        (routeOf req = .getAvatar → ∃ data text,
          w.files (UserHandler.avatarPath userId) = some data ∧
          String.fromUTF8? data = some text ∧
          res = UserHandler.avatarAnswer req.version text) ∧
        (routeOf req = .profile → ∃ row ∈ w.db.users.rows, row.id = userId ∧
          res = UserHandler.profileAnswer req.version (row.toUser sys)) := by
  have confined := exchange_confined sys env w req
  constructor
  · intro nobody
    rw [nobody] at confined
    exact ⟨confined.rows_of_none, confined.files_of_none⟩
  · intro x member userId issues
    obtain ⟨later, earlier, position⟩ := List.append_of_mem member
    obtain ⟨before, env', req', shorter, rfl⟩ := run.split position
    have names : named sys req = some userId :=
      tokenId_of_issues lawful (shorter.keyed initially) issues
    -- An accepted token makes the user the caller.
    have own {id : Int32} (called : caller sys env req = some id) : id = userId := by
      simp only [caller] at called
      split at called
      · exact Option.some.inj (called.symm.trans names)
      · cases called
    refine ⟨?_, ?_, ?_⟩
    · cases called : caller sys env req with
      | none =>
        rw [called] at confined
        exact confined.of_none
      | some id =>
        rw [called, own called] at confined
        exact confined
    · intro other alike
      rw [← names] at alike
      exact (answer_of_alike alike).symm
    · intro res answered status
      constructor
      · intro route
        obtain ⟨id, data, text, called, stored, utf8, equal⟩ := avatar_answer route answered status
        rw [own called] at stored
        exact ⟨data, text, stored, utf8, equal⟩
      · intro route
        obtain ⟨id, called, row, member, same, equal⟩ := profile_answer route answered status
        rw [own called] at same
        exact ⟨row, member, same, equal⟩

section Sample

open Reference

/-- A login of the user who has just registered. -/
def loggedInBob : Exchange :=
  exchange system (env 0) (runOf system {} [registerBob, mailCode "a@b.c" "register"]).2
    (loginBob "x")

theorem loggedInBob_answer :
    loggedInBob.result.toOption.map (fun res => (res.status, res.authorization)) =
      some (.ok, some tokenOfBob) := by
  decide +kernel

theorem loggedInBob_issues : Issues system loggedInBob tokenOfBob 1 := by
  have presents : loginForm system (loginBob "x") = some ⟨"bob", "x"⟩ := by decide +kernel
  have stored : ∃ row ∈ loggedInBob.before.db.users.rows, row.username = "bob" ∧ row.id = 1 := by
    decide +kernel
  obtain ⟨row, member, username, id⟩ := stored
  refine ⟨rfl, ?_, _, presents, row, member, username, id⟩
  have signed := loggedInBob_answer
  cases answered : loggedInBob.result with
  | error exn =>
    rw [answered] at signed
    cases signed
  | ok res =>
    rw [answered] at signed
    obtain ⟨status, carries⟩ := Prod.mk.inj (Option.some.inj signed)
    exact ⟨res, rfl, status, carries⟩

theorem users_isolated_bob :
    foreignRows (some 1) (exchange system (env 0) loggedInBob.after
      (changePassword "y" "a@b.c").2).after.db = foreignRows (some 1) loggedInBob.after.db := by
  have run := (run_runOf system {} [registerBob, mailCode "a@b.c" "register"]).request (env 0)
    (loginBob "x")
  have isolated := users_isolated jwt_lawful Registry.Keyed.empty run (env 0)
    (changePassword "y" "a@b.c").2
  have bears : (changePassword "y" "a@b.c").2.field "Authorization" = tokenOfBob := by
    simp [changePassword, request, HttpRequest.field]
  have issues := loggedInBob_issues
  rw [← bears] at issues
  have confined := (isolated.2 loggedInBob List.mem_cons_self 1 issues).1
  exact confined.closed (by decide)

end Sample

end MusicPlayer
