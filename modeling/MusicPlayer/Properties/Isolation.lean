import MusicPlayer.Properties.Credentials

/-!
# Isolation of the users

A request acts for the user its token names, and for nobody without one. Whatever the
handlers perform, the rows and the avatar files of all other users stay as they are, and no
answer depends on an avatar file of another user.
-/
namespace MusicPlayer

open Resumption Program Relational JsonUtil

/-! ### What is not the caller's -/

/-- The rows of all users but the owner, if there is one. -/
def foreignRows (owner : Option Int32) (db : Db) : List UserRow :=
  db.users.rows.filter fun row => some row.id ≠ owner

/-- A path that is not the avatar file of the owner. -/
def ForeignPath (owner : Option Int32) (path : String) : Prop :=
  ∀ userId, owner = some userId → path ≠ UserHandler.avatarPath userId

/-- Nothing changes but what belongs to the owner. New rows appear only if the request may
open accounts. -/
structure Confined (owner : Option Int32) (opens : Prop) (before after : World) : Prop where
  rows : foreignRows owner before.db <+: foreignRows owner after.db
  closed : ¬opens → foreignRows owner after.db = foreignRows owner before.db
  files : ∀ path, ForeignPath owner path → after.files path = before.files path

namespace Confined

variable {owner : Option Int32} {opens : Prop} {a b c : World}

theorem refl (owner : Option Int32) (opens : Prop) (w : World) : Confined owner opens w w :=
  ⟨List.prefix_refl _, fun _ => rfl, fun _ _ => rfl⟩

theorem trans (first : Confined owner opens a b) (second : Confined owner opens b c) :
    Confined owner opens a c where
  rows := first.rows.trans second.rows
  closed none := (second.closed none).trans (first.closed none)
  files path foreign := (second.files path foreign).trans (first.files path foreign)

/-- The same users in the database, the same files. -/
theorem of_same (users : b.db.users = a.db.users) (files : b.files = a.files) :
    Confined owner opens a b := by
  have rows : foreignRows owner b.db = foreignRows owner a.db := by
    rw [foreignRows, users, foreignRows]
  refine ⟨?_, fun _ => rows, fun path _ => by rw [files]⟩
  rw [rows]

/-- Nobody's request changes no row that exists and no file. -/
theorem rows_of_none (confined : Confined none opens a b) :
    a.db.users.rows <+: b.db.users.rows := by
  have kept := confined.rows
  simpa [foreignRows] using kept

theorem files_of_none (confined : Confined none opens a b) : b.files = a.files := by
  funext path
  apply confined.files path
  intro userId equal
  cases equal

/-- What is nobody's is not the owner's either. -/
theorem of_none (confined : Confined none opens a b) : Confined owner opens a b where
  rows := (List.IsPrefix.filter _ confined.rows_of_none)
  closed none := by
    have same := confined.closed none
    simp only [foreignRows, ne_eq, reduceCtorEq, not_false_eq_true, decide_true,
      List.filter_true] at same
    rw [foreignRows, same, foreignRows]
  files path _ := by rw [confined.files_of_none]

end Confined

/-! ### Effects for an owner -/

/-- The statements of the routes, with the only user whose row they update. -/
def StatementFor (owner : Option Int32) (opens : Prop) : Statement → Prop
  | .selectUserById _ | .selectUserByUsername _ | .selectLastInsertId => True
  | .insertUser .. => opens
  | .updatePassword _ id | .updateQQId _ id | .updateNetEaseId _ id => owner = some id
  | _ => False

def Effect.onFiles : Effect → Bool
  | .fileExists _ | .createDirectory _ | .openOut _ | .writeFile .. | .closeOut _ | .closeFile _
  | .openIn _ | .readFile _ => true
  | _ => false

/-- The effects of a request that acts for an owner. -/
structure ActsFor (owner : Option Int32) (opens : Prop) (effect : Effect) : Prop where
  file : effect.onFiles = true → ∃ userId, owner = some userId ∧ AvatarEffect userId effect
  statement : ∀ conn s, effect = .connector conn (.execute s) → StatementFor owner opens s

theorem actsFor_grants (owner : Option Int32) (opens : Prop) :
    Grants (ActsFor owner opens) (StatementFor owner opens) where
  clock site := ⟨by simp [Effect.onFiles], by simp⟩
  lockPool := ⟨by simp [Effect.onFiles], by simp⟩
  waitFor := ⟨by simp [Effect.onFiles], by simp⟩
  constructGuard conn := ⟨by simp [Effect.onFiles], by simp⟩
  releaseConnection conn := ⟨by simp [Effect.onFiles], by simp⟩
  connector conn c permitted := by
    refine ⟨by simp [Effect.onFiles], ?_⟩
    rintro other s equal
    cases equal
    exact permitted s rfl
  reserve count := ⟨by simp [Effect.onFiles], by simp⟩

theorem actsFor_avatar {opens : Prop} {userId : Int32} {effect : Effect}
    (avatar : AvatarEffect userId effect) : ActsFor (some userId) opens effect := by
  refine ⟨fun _ => ⟨userId, rfl, avatar⟩, ?_⟩
  rintro conn s rfl
  exact avatar.elim

/-- The user whose id the token of a request names, accepted or not. -/
def named (sys : System) (req : HttpRequest) : Option Int32 :=
  JWTUtil.tokenId? sys (req.field "Authorization")

/-- The routes whose handlers check the token. -/
def Route.needsToken : Route → Bool
  | .profile | .updateAvatar | .getAvatar | .password | .bind => true
  | _ => false

/-- Every route acts for the user that the token names. A route without a token acts for
nobody, and so for any owner. -/
theorem handleRouter_actsFor (sys : System) (req : HttpRequest) (owner : Option Int32)
    (own : (routeOf req).needsToken = true → owner = named sys req) :
    ((setupRoutes sys).handleRouter req).Performs
      (ActsFor owner (routeOf req = .register)) := by
  have grants := actsFor_grants owner (routeOf req = .register)
  -- Behind a token the avatar is that of the user whom the token names.
  have files (checked : (routeOf req).needsToken = true) : ∀ userId,
      named sys req = some userId → ∀ effect, AvatarEffect userId effect →
        ActsFor owner (routeOf req = .register) effect := by
    intro userId names effect avatar
    rw [own checked, names]
    exact actsFor_avatar avatar
  -- What is neither a file nor a statement is for any owner.
  have plain {effect : Effect} (none : effect.onFiles = false)
      (no : ∀ conn s, effect ≠ .connector conn (.execute s)) :
      ActsFor owner (routeOf req = .register) effect :=
    ⟨by simp [none], fun conn s equal => absurd equal (no conn s)⟩
  refine handleRouter_cases sys req (P := fun prog => prog.Performs _) ?_ ?_ ?_ ?_ ?_ ?_ ?_ ?_ ?_
  · intro route
    refine UserHandler.handleRegister_performs grants ?_ ?_ (fun _ => trivial) (fun _ _ _ => route)
      trivial
    · exact fun email => plain rfl (by simp)
    · exact fun ptr => plain rfl (by simp)
  · intro route
    refine UserHandler.handleGetVerifyCode_performs ?_ (plain rfl (by simp)) ?_ ?_
    · exact fun i => plain rfl (by simp)
    · exact fun mail => plain rfl (by simp)
    · exact fun email code expiry action => plain rfl (by simp)
  · exact fun route => UserHandler.handleLogin_performs grants fun _ => trivial
  · exact fun route => UserHandler.handleGetProfile_performs grants fun _ _ => trivial
  · intro route
    exact UserHandler.handleUpdateAvatar_performs grants.clock (files (by rw [route]; rfl))
  · intro route
    exact UserHandler.handleGetAvatar_performs grants.clock (files (by rw [route]; rfl))
  · intro route
    have own := own (by rw [route]; rfl)
    refine UserHandler.handleChangePassword_performs grants ?_ ?_ fun userId names _ => ?_
    · exact fun email => plain rfl (by simp)
    · exact fun ptr => plain rfl (by simp)
    · exact own.trans names
  · intro route
    have own := own (by rw [route]; rfl)
    exact UserHandler.handleBindPlatform_performs grants
      fun userId names _ => ⟨own.trans names, own.trans names⟩
  · exact fun route res => Performs.ret res

/-! ### Confinement -/

theorem filter_update (id : Int32) {assign : UserRow → UserRow}
    (keeps : ∀ row, (assign row).id = row.id) (rows : List UserRow) :
    (rows.map fun row => if row.id == id then assign row else row).filter
        (fun row => some row.id ≠ some id) = rows.filter fun row => some row.id ≠ some id := by
  induction rows with
  | nil => rfl
  | cons row rows ih =>
    by_cases own : row.id = id
    · have skipped : (assign row).id = id := (keeps row).trans own
      simpa [own, skipped] using ih
    · simpa [own] using ih

theorem foreignRows_updateUserRow {ctx : SqlContext} {db after : Db} {count : Nat} {id : Int32}
    {fits : Bool} {assign : UserRow → UserRow}
    (executed : db.updateUserRow ctx id fits assign = some (count, after))
    (keeps : ∀ row, (assign row).id = row.id) :
    foreignRows (some id) after = foreignRows (some id) db := by
  rw [Db.updateUserRow_eq executed]
  exact filter_update id (fun row => (UserRow.stamp_id ..).trans (keeps row)) db.users.rows

theorem StatementFor.rows {owner : Option Int32} {opens : Prop} {s : Statement} {ctx : SqlContext}
    {db after : Db} {reply : s.Reply} (acts : StatementFor owner opens s)
    (executed : s.exec ctx db = some (reply, after)) :
    foreignRows owner db <+: foreignRows owner after ∧
      (¬opens → foreignRows owner after = foreignRows owner db) := by
  have of_eq (same : foreignRows owner after = foreignRows owner db) :
      foreignRows owner db <+: foreignRows owner after ∧
        (¬opens → foreignRows owner after = foreignRows owner db) := by
    refine ⟨?_, fun _ => same⟩
    rw [same]
  cases s with
  | selectUserById id => cases executed; exact of_eq rfl
  | selectUserByUsername username => cases executed; exact of_eq rfl
  | selectLastInsertId => cases executed; exact of_eq rfl
  -- A new row comes after the others, and only a registration may add one.
  | insertUser username passwdHash email =>
    obtain ⟨id, inserted, -, -⟩ := Db.insertUser_eq_some executed
    refine ⟨?_, fun closed => absurd acts closed⟩
    rw [foreignRows, foreignRows, (Table.insert_eq_some inserted).2.1, List.filter_append]
    exact List.prefix_append _ _
  | updatePassword passwdHash id =>
    rw [show owner = some id from acts] at of_eq ⊢
    exact of_eq (foreignRows_updateUserRow executed fun _ => rfl)
  | updateQQId qqId id =>
    rw [show owner = some id from acts] at of_eq ⊢
    exact of_eq (foreignRows_updateUserRow executed fun _ => rfl)
  | updateNetEaseId neteaseId id =>
    rw [show owner = some id from acts] at of_eq ⊢
    exact of_eq (foreignRows_updateUserRow executed fun _ => rfl)
  | _ => exact acts.elim

/-- One effect for an owner. -/
theorem ActsFor.confined {owner : Option Int32} {opens : Prop} {effect : Effect}
    (acts : ActsFor owner opens effect) (sys : System) (env : Env) (count : Nat) (w : World) :
    Confined owner opens w (exec sys env count effect w).2 := by
  cases effect with
  | connector conn c =>
    cases conn with
    | none => exact Confined.refl ..
    | some k =>
      simp only [exec]
      split
      · exact Confined.refl ..
      cases c with
      | execute s =>
        simp only [execCall]
        split
        next reply db executed =>
          obtain ⟨rows, closed⟩ := (acts.statement _ s rfl).rows executed
          exact ⟨rows, closed, fun _ _ => rfl⟩
        · exact Confined.refl ..
      | _ => exact Confined.refl ..
  | openOut path =>
    obtain ⟨userId, rfl, own⟩ := acts.file rfl
    simp only [exec]
    split
    -- The path is the avatar of the owner, so no foreign one.
    · refine ⟨List.prefix_refl _, fun _ => rfl, fun other foreign => ?_⟩
      rw [show path = _ from own]
      exact Function.update_of_ne (foreign userId rfl) ..
    · exact Confined.refl ..
  | writeFile path data =>
    obtain ⟨userId, rfl, own⟩ := acts.file rfl
    refine ⟨List.prefix_refl _, fun _ => rfl, fun other foreign => ?_⟩
    have other_ne : other ≠ path := by
      rw [show path = _ from own]
      exact foreign userId rfl
    exact Function.update_of_ne other_ne ..
  | closeOut path =>
    obtain ⟨userId, rfl, own⟩ := acts.file rfl
    simp only [exec]
    split
    · refine ⟨List.prefix_refl _, fun _ => rfl, fun other foreign => ?_⟩
      rw [show path = _ from own]
      exact Function.update_of_ne (foreign userId rfl) ..
    · exact Confined.refl ..
  | fileExists path =>
    simp only [exec]
    split <;> exact Confined.refl ..
  | createDirectory path =>
    simp only [exec]
    split <;> exact Confined.of_same rfl rfl
  | _ => exact Confined.of_same rfl rfl

theorem confined_of_actsFor {sys : System} {env : Env} {w : World} {prog : Prog HttpResponse}
    {owner : Option Int32} {opens : Prop} (performs : prog.Performs (ActsFor owner opens)) :
    prog.Wp (Step sys env) (fun _ after => Confined owner opens w after) w := by
  refine wp_of_performs (fun after => Confined owner opens w after) performs ?_ (Confined.refl ..)
  intro effect count before acts confined
  exact confined.trans (acts.confined sys env count before)

/-- Without an accepted token, a handler that checks it does nothing. -/
theorem wp_rejected {sys : System} {env : Env} {w : World} {req : HttpRequest}
    (checked : (routeOf req).needsToken = true)
    (refused : JWTUtil.accepts sys env (req.field "Authorization") = true →
      (req.field "Authorization").isEmpty = false → False) :
    ((setupRoutes sys).handleRouter req).Wp (Step sys env) (fun _ after => after = w) w := by
  have unchecked (open_ : (routeOf req).needsToken = false) {P : Prop} : P := by
    rw [checked] at open_
    cases open_
  have authenticate {next : String → Prog HttpResponse} :
      ((JWTUtil.verifyToken sys (req.field "Authorization")).bind fun token =>
        if token.isEmpty = true then
          .ret (buildErrorResponse .unauthorized req.version "Invalid token")
        else next token).Wp (Step sys env) (UserHandler.answered fun _ after => after = w) w :=
    UserHandler.wp_authenticate (fun _ _ => rfl) fun valid nonempty =>
      (refused valid nonempty).elim
  refine handleRouter_cases sys req (P := fun prog => prog.Wp (Step sys env) _ w) ?_ ?_ ?_ ?_ ?_ ?_
    ?_ ?_ ?_
  · exact fun route => unchecked (by rw [route]; rfl)
  · exact fun route => unchecked (by rw [route]; rfl)
  · exact fun route => unchecked (by rw [route]; rfl)
  · exact fun route => UserHandler.wp_catching authenticate
  · exact fun route => UserHandler.wp_catching authenticate
  · exact fun route => UserHandler.wp_catching authenticate
  · intro route
    refine UserHandler.wp_catching (UserHandler.wp_parseBody_bind (fun _ _ _ => rfl) fun j _ => ?_)
    -- `handleChangePassword` is the one handler that looks at the body first.
    split
    · rfl
    · exact authenticate
  · exact fun route => UserHandler.wp_catching authenticate
  · exact fun route => unchecked (by rw [route]; rfl)

/-- Whatever a request is answered, it changes nothing but what belongs to the user of its
accepted token. -/
theorem exchange_confined (sys : System) (env : Env) (w : World) (req : HttpRequest) :
    Confined (caller sys env req) (routeOf req = .register) w (exchange sys env w req).after := by
  cases checked : (routeOf req).needsToken with
  | false =>
    have performs := handleRouter_actsFor sys req (caller sys env req) (by simp [checked])
    exact runProg_of_wp (confined_of_actsFor performs)
  | true =>
    by_cases valid : JWTUtil.accepts sys env (req.field "Authorization") = true ∧
        (req.field "Authorization").isEmpty = false
    · have own : caller sys env req = named sys req := by
        simp [caller, named, valid.1, valid.2]
      rw [own]
      exact runProg_of_wp (confined_of_actsFor (handleRouter_actsFor sys req _ fun _ => rfl))
    · have same : (exchange sys env w req).after = w :=
        runProg_of_wp (wp_rejected checked fun accepted nonempty => valid ⟨accepted, nonempty⟩)
      rw [same]
      exact Confined.refl ..

end MusicPlayer
