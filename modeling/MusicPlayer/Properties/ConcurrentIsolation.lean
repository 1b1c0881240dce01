import MusicPlayer.Properties.Answers
import MusicPlayer.Server.Workers
import MusicPlayer.Reference

/-!
# Isolation of the users while others are served

Requests of many users are served at the same time. Whatever a thread does for a request that no
token of a user stands behind, it leaves the row and the avatar of that user alone, and would do
the same for any other avatar.
-/
namespace MusicPlayer

open Resumption Program Relational JsonUtil

/-! ### Tokens that are never accepted -/

namespace JWTUtil

/-- `verifyToken` returns the token only if there are times at which it is valid. -/
theorem uses_verifyToken_accepts {sys : System} {allowed : Effect → Prop}
    (clock : ∀ site, allowed (.now site)) (token : String) :
    (verifyToken sys token).Uses allowed fun
      | .ok accepted => accepted = "" ∨
          accepted = token ∧ ∃ env, JWTUtil.accepts sys env token = true
      | .error _ => True := by
  rw [verifyToken, uses_tryCatch]
  simp only [isTokenExpired, bind_eq]
  cases found : sys.jwt.decode token with
  | none => simp [decode_of_none found]
  | some decoded =>
    simp only [decode_of_some found, ret_bind, trigger, act_bind, uses_act]
    refine ⟨clock _, fun now => ?_⟩
    split
    next => simp
    next unverified =>
      have verified : verify sys now token decoded = true := by simpa using unverified
      split
      next exp expires =>
        refine (uses_act ..).mpr ⟨clock _, fun later => ?_⟩
        simp only [pure_eq, ret_bind]
        split
        · simp
        next unexpired =>
          -- An environment with the two times that the clock has shown.
          let clock (site : ClockRead) := if site = .verifyToken then now else later
          refine .inr ⟨rfl, { clock := clock }, ?_⟩
          simp [JWTUtil.accepts, clock, found, verified, expires, unexpired]
      next => simp

end JWTUtil

theorem performs_authenticate_of_accepts {sys : System} {allowed : Effect → Prop}
    (clock : ∀ site, allowed (.now site)) {token : String} {res : HttpResponse}
    {next : String → Prog HttpResponse}
    (continues : (∃ env, JWTUtil.accepts sys env token = true) → token.isEmpty = false →
      (next token).Performs allowed) :
    ((JWTUtil.verifyToken sys token).bind fun accepted =>
      if accepted.isEmpty = true then .ret res else next accepted).Performs allowed := by
  refine (uses_bind ..).mpr ((JWTUtil.uses_verifyToken_accepts clock token).mono ?_)
  intro result returned
  cases result with
  | error exn => trivial
  | ok accepted =>
    rcases returned with rfl | ⟨rfl, sometimes⟩
    · exact Performs.ret _
    · dsimp only
      split
      · exact Performs.ret _
      next nonempty => exact continues sometimes (by simpa using nonempty)

/-- A token that is valid at no time opens none of the handlers that check it. -/
theorem handleRouter_performs_of_rejected {sys : System} {req : HttpRequest}
    {allowed : Effect → Prop} (clock : ∀ site, allowed (.now site))
    (checked : (routeOf req).needsToken = true)
    (never : (∃ env, JWTUtil.accepts sys env (req.field "Authorization") = true) →
      (req.field "Authorization").isEmpty = false → False) :
    ((setupRoutes sys).handleRouter req).Performs allowed := by
  have unchecked (open_ : (routeOf req).needsToken = false) {P : Prop} : P := by
    rw [checked] at open_
    cases open_
  have authenticate {next : String → Prog HttpResponse} :
      ((JWTUtil.verifyToken sys (req.field "Authorization")).bind fun token =>
        if token.isEmpty = true then
          .ret (buildErrorResponse .unauthorized req.version "Invalid token")
        else next token).Performs allowed :=
    performs_authenticate_of_accepts clock fun sometimes nonempty =>
      (never sometimes nonempty).elim
  refine handleRouter_cases sys req (P := fun prog => prog.Performs allowed) ?_ ?_ ?_ ?_ ?_ ?_ ?_
    ?_ ?_
  · exact fun route => unchecked (by rw [route]; rfl)
  · exact fun route => unchecked (by rw [route]; rfl)
  · exact fun route => unchecked (by rw [route]; rfl)
  · exact fun route => performs_catching authenticate
  · exact fun route => performs_catching authenticate
  · exact fun route => performs_catching authenticate
  · intro route
    refine performs_catching (Performs.bind (performs_parseBody req) fun j => ?_)
    split
    · exact Performs.ret _
    · exact authenticate
  · exact fun route => performs_catching authenticate
  · exact fun route => unchecked (by rw [route]; rfl)

/-! ### For whom a job acts -/

/-- A request acts for a user if its handler checks a token that names the user and is valid at
some time. -/
def ServerJob.ActsFor (sys : System) (userId : Int32) : ServerJob → Prop
  | request req => (routeOf req).needsToken = true ∧ ∃ env, caller sys env req = some userId
  | cleanup => False

/-- An effect of a job belongs to nobody, or to a user for whom the job acts. -/
def ServerJob.Owned (sys : System) (job : ServerJob) (effect : Effect) : Prop :=
  ∃ owner opens, MusicPlayer.ActsFor owner opens effect ∧
    ∀ userId, owner = some userId → job.ActsFor sys userId

theorem ServerJob.program_performs (sys : System) (job : ServerJob) :
    (job.program sys).Performs (job.Owned sys) := by
  cases job with
  | cleanup =>
    have nobody {effect : Effect} (off : effect.onFiles = false)
        (no : ∀ conn s, effect ≠ .connector conn (.execute s)) :
        ServerJob.cleanup.Owned sys effect :=
      ⟨none, True, ⟨by simp [off], fun conn s equal => absurd equal (no conn s)⟩, by simp⟩
    refine performs_trigger_bind (nobody rfl (by simp)) fun now => ?_
    exact Performs.act (nobody rfl (by simp)) fun _ => Performs.ret _
  | request req =>
    cases checked : (routeOf req).needsToken with
    | false =>
      refine (handleRouter_actsFor sys req none (by simp [checked])).weaken fun effect acts => ?_
      exact ⟨none, _, acts, by simp⟩
    | true =>
      by_cases sometimes : (∃ env, JWTUtil.accepts sys env (req.field "Authorization") = true) ∧
          (req.field "Authorization").isEmpty = false
      · obtain ⟨⟨env, accepted⟩, nonempty⟩ := sometimes
        refine (handleRouter_actsFor sys req _ fun _ => rfl).weaken fun effect acts => ?_
        refine ⟨named sys req, _, acts, fun userId names => ⟨checked, env, ?_⟩⟩
        simpa [caller, accepted, nonempty, named] using names
      · refine handleRouter_performs_of_rejected (fun site => ?_) checked
          fun valid nonempty => sometimes ⟨valid, nonempty⟩
        exact ⟨none, True, (actsFor_grants none True).clock site, by simp⟩

/-! ### What is left alone -/

/-- The same world with another avatar of a user, or none. -/
def World.withAvatar (w : World) (userId : Int32) (data : Option ByteArray) : World :=
  { w with files := Function.update w.files (UserHandler.avatarPath userId) data }

section Pool

variable {ι : Type} [DecidableEq ι]

def PoolState.withAvatar (s : PoolState ι) (userId : Int32) (data : Option ByteArray) :
    PoolState ι :=
  { s with world := s.world.withAvatar userId data }

def Site.withAvatar (site : Site ι) (userId : Int32) (data : Option ByteArray) : Site ι :=
  { site with pool := site.pool.withAvatar userId data }

/-- The queue does not look at the files. -/
theorem PoolState.take_withAvatar (s : PoolState ι) (i : ι) (userId : Int32)
    (data : Option ByteArray) : (s.withAvatar userId data).take i =
      ((s.take i).1, (s.take i).2.withAvatar userId data) := by
  obtain ⟨world, pool, popped, guarded, timedOut, inserted⟩ := s
  cases pool with
  | nil => rfl
  | cons conn rest => rfl

theorem PoolState.afterWait_withAvatar (s : PoolState ι) (i : ι) (userId : Int32)
    (data : Option ByteArray) : (s.withAvatar userId data).afterWait i =
      ((s.afterWait i).1, (s.afterWait i).2.withAvatar userId data) := by
  obtain ⟨world, pool, popped, guarded, timedOut, inserted⟩ := s
  cases pool with
  | nil => rfl
  | cons conn rest => rfl

end Pool

/-- The row of a user stays, as far as there is one, and so does the avatar. -/
structure Untouched (userId : Int32) (a b : World) : Prop where
  rows : a.db.users.rows.filter (·.id = userId) <+: b.db.users.rows.filter (·.id = userId)
  avatar : b.files (UserHandler.avatarPath userId) = a.files (UserHandler.avatarPath userId)

section Foreign

variable {owner : Option Int32} {opens : Prop} {effect : Effect} {userId : Int32}

theorem foreignPath_avatarPath (foreign : owner ≠ some userId) :
    ForeignPath owner (UserHandler.avatarPath userId) := by
  rintro other rfl equal
  rw [avatarPath_injective equal] at foreign
  exact foreign rfl

theorem Confined.untouched {a b : World} (confined : Confined owner opens a b)
    (foreign : owner ≠ some userId) : Untouched userId a b where
  rows := by
    -- The rows of the user are among the foreign ones.
    have among (db : Db) : db.users.rows.filter (·.id = userId) =
        (foreignRows owner db).filter (·.id = userId) := by
      rw [foreignRows, List.filter_filter]
      refine List.filter_congr fun row _ => ?_
      by_cases own : row.id = userId
      · subst own
        simp [foreign.symm]
      · simp [own]
    rw [among, among]
    exact List.IsPrefix.filter _ confined.rows
  avatar := confined.files _ (foreignPath_avatarPath foreign)

theorem alike_withAvatar (foreign : owner ≠ some userId) (w : World) (data : Option ByteArray) :
    Alike owner w (w.withAvatar userId data) where
  db := rfl
  codes := rfl
  directories := rfl
  files _ readable :=
    (Function.update_of_ne (readable userId foreign.symm) ..).symm

/-- What is done for others is done in the same way whatever the avatar of a user is. -/
theorem exec_withAvatar (acts : ActsFor owner opens effect) (foreign : owner ≠ some userId)
    (sys : System) (env : Env) (count : Nat) (w : World) (data : Option ByteArray) :
    exec sys env count effect (w.withAvatar userId data) =
      ((exec sys env count effect w).1,
        (exec sys env count effect w).2.withAvatar userId data) := by
  obtain ⟨reply, alike⟩ := acts.alike sys env count (alike_withAvatar foreign w data)
  have here := acts.confined sys env count w
  have there := acts.confined sys env count (w.withAvatar userId data)
  refine Prod.ext reply.symm ?_
  -- Both sides agree on what the owner can see, and neither has changed a foreign file.
  have files : (exec sys env count effect (w.withAvatar userId data)).2.files =
      Function.update (exec sys env count effect w).2.files
        (UserHandler.avatarPath userId) data := by
    funext path
    by_cases avatar : path = UserHandler.avatarPath userId
    · subst avatar
      rw [there.files _ (foreignPath_avatarPath foreign), Function.update_self]
      exact Function.update_self ..
    rw [Function.update_of_ne avatar]
    by_cases own : ForeignPath owner path
    · rw [there.files path own, here.files path own]
      exact Function.update_of_ne avatar ..
    · refine (alike.files path fun other foreign => ?_).symm
      rintro rfl
      exact own (foreignPath_avatarPath foreign.symm)
  cases equal : (exec sys env count effect (w.withAvatar userId data)).2 with
  | mk db codes directories stored =>
    rw [equal] at alike files
    dsimp only at files
    subst files
    have same := alike.db
    have sameCodes := alike.codes
    have sameDirectories := alike.directories
    dsimp only at same sameCodes sameDirectories
    rw [← same, ← sameCodes, ← sameDirectories]
    rfl

end Foreign

section Workers

variable {ι : Type} [DecidableEq ι] {sys : System}

theorem siteStep_withAvatar {owner : Option Int32} {opens : Prop} {effect : Effect}
    {userId : Int32} (acts : ActsFor owner opens effect) (foreign : owner ≠ some userId) {i : ι}
    {a b : Site ι} {reply : effect.Reply} (step : siteStep sys i effect a reply b)
    (data : Option ByteArray) :
    siteStep sys i effect (a.withAvatar userId data) reply (b.withAvatar userId data) := by
  obtain ⟨pool, pooled, rfl⟩ := step
  refine ⟨pool.withAvatar userId data, ?_, rfl⟩
  change poolStep sys _ i effect (a.pool.withAvatar userId data) reply
    (pool.withAvatar userId data)
  cases effect with
  | lockPool =>
    have taken : (reply, pool) = a.pool.take i := pooled
    change (reply, pool.withAvatar userId data) = (a.pool.withAvatar userId data).take i
    rw [PoolState.take_withAvatar, ← taken]
  | waitFor =>
    have waited : (reply, pool) = a.pool.afterWait i := pooled
    change (reply, pool.withAvatar userId data) = (a.pool.withAvatar userId data).afterWait i
    rw [PoolState.afterWait_withAvatar, ← waited]
  | constructGuard conn =>
    have constructed : pool = a.pool.construct i conn := pooled
    change pool.withAvatar userId data = (a.pool.withAvatar userId data).construct i conn
    rw [constructed]
    rfl
  | releaseConnection conn =>
    have released : pool = a.pool.release i conn := pooled
    change pool.withAvatar userId data = (a.pool.withAvatar userId data).release i conn
    rw [released]
    rfl
  | _ =>
    obtain ⟨env, count, w, -, performed, moved⟩ := pooled
    refine ⟨env, count, w.withAvatar userId data, trivial, ?_, ?_⟩
    · have same := exec_withAvatar acts foreign sys env count a.pool.world data
      rw [performed] at same
      exact same
    · rw [moved]
      rfl

/-- At any moment of any run: what a thread does next for a request without a valid token of a
user leaves the row and the avatar of that user alone, and would be the same, with the same
answer, if the avatar were another one. -/
theorem workers_isolated {init c : Config ι Effect Effect.Reply Exn ServerJob.Out (Site ι)}
    (fresh : ∀ i, init.threads i = none) (reach : (workers ι sys).Reachable init c) {i : ι}
    {job : ServerJob} {effect : Effect} {rest : effect.Reply → Prog job.Out}
    (runs : c.threads i = some ⟨job, .act effect rest⟩) {userId : Int32}
    (foreign : ¬job.ActsFor sys userId) {reply : effect.Reply} {after : Site ι}
    (step : siteStep sys i effect c.shared reply after) :
    Untouched userId c.shared.world after.world ∧
      ∀ data, siteStep sys i effect (c.shared.withAvatar userId data) reply
        (after.withAvatar userId data) := by
  have performs := reach.performs (ServerJob.program_performs sys) fresh runs
  obtain ⟨owner, opens, acts, owned⟩ := ((uses_act ..).mp performs).1
  have other : owner ≠ some userId := fun own => foreign (owned userId own)
  refine ⟨?_, fun data => siteStep_withAvatar acts other step data⟩
  obtain ⟨env, count, performed⟩ := step_of_siteStep step
  have confined := acts.confined sys env count c.shared.world
  rw [performed] at confined
  exact confined.untouched other

end Workers

section Upload

open Reference UserHandler

/-- Bob and another user have avatars. -/
def twoAvatars : World where
  directories := [avatarDirectory]
  files path := if path = avatarPath 1 ∨ path = avatarPath 2 then some "old".toUTF8 else none

/-- A thread has a new avatar of bob, and has opened the file for it. -/
def uploading : Config (Fin 2) Effect Effect.Reply Exn ServerJob.Out (Site (Fin 2)) :=
  (workersBegun (Fin 2) system (fun _ => .connected) 1 twoAvatars
    [(0, .request (request .post "/users/avatar" [("avatar_data", "new")] tokenOfBob))]).runSchedule
    (siteExec system) (List.replicate 4 (0, env 0, 0))

/-- The token of a request that writes to a file next, with what it writes. -/
def nextWrite? : Thread Effect Effect.Reply Exn ServerJob.Out → Option (String × String × ByteArray)
  | some ⟨.request req, .act (.writeFile path data) _⟩ =>
    some (req.field "Authorization", path, data)
  | _ => none

theorem eq_of_nextWrite? {thread : Thread Effect Effect.Reply Exn ServerJob.Out}
    {token path : String} {data : ByteArray}
    (writes : nextWrite? thread = some (token, path, data)) :
    ∃ req rest, thread = some ⟨.request req, .act (.writeFile path data) rest⟩ ∧
      req.field "Authorization" = token := by
  unfold nextWrite? at writes
  split at writes
  next req path data rest =>
    cases writes
    exact ⟨req, rest, rfl, rfl⟩
  · cases writes

/-- The token of bob is none of the other user. -/
theorem not_actsFor_of_bob {req : HttpRequest} (bobs : req.field "Authorization" = tokenOfBob) :
    ¬ServerJob.ActsFor system 2 (.request req) := by
  rintro ⟨-, env, named⟩
  have id : JWTUtil.tokenId? system tokenOfBob = some 1 := by
    rw [JWTUtil.tokenId?, show system.jwt.decode tokenOfBob = some _ from decode_sign ..]
    decide
  simp only [caller, bobs] at named
  split at named
  · rw [id] at named
    cases named
  · cases named

theorem uploading_writes : nextWrite? (uploading.threads 0) =
      some (tokenOfBob, avatarPath 1, "new".toUTF8) ∧
    uploading.shared.world.files (avatarPath 1) = some ByteArray.empty := by
  decide +kernel

/-- The write to bob's file leaves the avatar of the other user alone. -/
theorem workers_isolated_upload : ∃ after : Site (Fin 2),
    siteStep system 0 (.writeFile (avatarPath 1) "new".toUTF8) uploading.shared () after ∧
      uploading.shared.world.files (avatarPath 1) ≠ after.world.files (avatarPath 1) ∧
      Untouched 2 uploading.shared.world after.world ∧
      ∀ data, siteStep system 0 (.writeFile (avatarPath 1) "new".toUTF8)
        (uploading.shared.withAvatar 2 data) () (after.withAvatar 2 data) := by
  have reach : (workers (Fin 2) system).Reachable
      (workersInit (Fin 2) (fun _ => .connected) 1 twoAvatars) uploading := by
    refine (workersBegun_reachable (by decide)).runSchedule _ fun i choice _ effect a => ?_
    exact siteStep_siteExec system i choice effect a
  obtain ⟨next, opened⟩ := uploading_writes
  obtain ⟨req, rest, runs, bobs⟩ := eq_of_nextWrite? next
  generalize uploading = c at *
  obtain ⟨after, step, written⟩ : ∃ after : Site (Fin 2),
      siteStep system 0 (.writeFile (avatarPath 1) "new".toUTF8) c.shared () after ∧
        after.world.files (avatarPath 1) = some "new".toUTF8 := by
    refine ⟨_, siteStep_siteExec system 0 (env 0, 0) _ c.shared, ?_⟩
    change Function.update c.shared.world.files (avatarPath 1) (some (overwrite
      ((c.shared.world.files (avatarPath 1)).getD ByteArray.empty) "new".toUTF8)) (avatarPath 1) = _
    rw [Function.update_self, opened]
    decide
  refine ⟨after, step, ?_, ?_⟩
  · rw [opened, written]
    decide
  · exact workers_isolated (fun _ => rfl) reach runs (not_actsFor_of_bob bobs) step

end Upload

end MusicPlayer
