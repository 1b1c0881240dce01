import MusicPlayer.Properties.Discipline
import MusicPlayer.Reference
import MusicPlayer.Resumption.Bounds
import MusicPlayer.Server.Workers

/-!
# How requests end

A handler has no loop that could run on: after a bounded number of its own effects it has come to
its end, however many others run between them. It ends with an answer, unless its wait for a
connection timed out or the entry it had found was erased before it was read, and then it does not.
The calls of libraries are taken to return, `std::regex_match` on an address of any length too.
-/
namespace MusicPlayer

open Resumption Program JsonUtil

/-! ### Fates -/

/-- The exceptions that the code can meet at an effect. A call through a null connection pointer
does not return. -/
def Effect.Honest : (effect : Effect) → effect.Reply → Prop
  | .connector none _, reply => reply = .error .nullDeref
  | .connector (some _) _, reply => ∀ exn, reply = .error exn → exn = .sqlException
  | .derefCode _, reply => ∀ exn, reply = .error exn → exn = .danglingRead
  | .reserve _, reply => ∀ exn, reply = .error exn → exn = .stdException
  | .fileExists _, reply => ∀ exn, reply = .error exn → exn = .stdException
  | .createDirectory _, reply => ∀ exn, reply = .error exn → exn = .stdException
  | _, _ => True

/-- The results that go with a fate, where the catch clauses are still to come. -/
def Fate.Fits {α : Type} : Fate → Except Exn α → Prop
  | .fine, result => ∀ exn, result = .error exn → exn ≠ .nullDeref ∧ exn ≠ .danglingRead
  | .timedOut, result => result = .error .nullDeref
  | .dangling, result => result = .error .danglingRead

/-- The results of whole jobs. -/
def Fate.Ended {α : Type} : Fate → Except Exn α → Prop
  | .fine, result => ∃ value, result = .ok value
  | .timedOut, result => result = .error .nullDeref
  | .dangling, result => result = .error .danglingRead

/-- One effect, as far as the fate of its job goes. -/
def fateStep (effect : Effect) (a : Fate) (reply : effect.Reply) (b : Fate) : Prop :=
  effect.Honest reply ∧ b = a.after effect reply

/-- A program whose result goes with its fate, as long as nothing has befallen it before. -/
def Fated {α : Type} (prog : Prog α) : Prop :=
  prog.Safe fateStep (· = ·) (fun _ _ => True) (fun result fate => fate.Fits result) .fine

/-- A program that is short, and whose result goes with its fate if it is `live`. -/
structure Settles {α : Type} (n : Nat) (live : Prop) (prog : Prog α) : Prop where
  within : prog.Within n
  fated : live → Fated prog

namespace Settles

variable {α β : Type} {m n : Nat} {live : Prop}

theorem ret (value : α) : Settles n live (.ret value : Prog α) :=
  ⟨Within.ret n value, fun _ exn equal => by cases equal⟩

theorem raise {exn : Exn} (caught : exn ≠ .nullDeref ∧ exn ≠ .danglingRead) :
    Settles n live (.raise exn : Prog α) :=
  ⟨Within.raise n exn, fun _ other equal => by cases equal; exact caught⟩

theorem mono {prog : Prog α} (settles : Settles m live prog) (le : m ≤ n) :
    Settles n live prog :=
  ⟨settles.within.mono le, settles.fated⟩

/-- An effect that nothing befalls the job at. -/
theorem act {effect : Effect} {rest : effect.Reply → Prog α}
    (calm : ∀ reply, effect.Honest reply → Fate.fine.after effect reply = .fine)
    (continues : ∀ reply, Settles n (live ∧ effect.Honest reply) (rest reply)) :
    Settles (n + 1) live (.act effect rest) where
  within reply := (continues reply).within
  fated alive := by
    refine Safe.alone trivial ?_
    rintro reply after ⟨honest, rfl⟩
    rw [calm reply honest]
    exact (continues reply).fated ⟨alive, honest⟩

theorem trigger_then {effect : Effect} {next : effect.Reply → Prog α}
    (calm : ∀ reply, effect.Honest reply → Fate.fine.after effect reply = .fine)
    (continues : ∀ reply, Settles n live (next reply)) :
    Settles (n + 1) live ((trigger effect).bind next) :=
  act calm fun reply =>
    ⟨(continues reply).within, fun alive => (continues reply).fated alive.1⟩

theorem bind {prog : Prog α} {next : α → Prog β} (first : Settles m live prog)
    (continues : ∀ value, Settles n live (next value)) :
    Settles (m + n) live (prog.bind next) where
  within := first.within.bind fun value => (continues value).within
  fated alive := by
    refine (Safe.bind_iff ..).mpr (Safe.mono (first.fated alive) fun result fate fits => ?_)
    cases result with
    | ok value =>
      -- A job that has met its fate does not get this far.
      cases fate with
      | fine => exact (continues value).fated alive
      | timedOut | dangling => cases fits
    | error exn =>
      cases fate with
      | fine =>
        intro other equal
        cases equal
        exact fits exn rfl
      | timedOut | dangling =>
        cases fits
        rfl

/-- What throws only what is caught. -/
theorem ofExcept {result : Except Exn α}
    (caught : live → ∀ exn, result = .error exn → exn ≠ .nullDeref ∧ exn ≠ .danglingRead) :
    Settles n live (Program.ofExcept result : Prog α) where
  within := Within.ofExcept n result
  fated alive := by
    cases result with
    | ok value =>
      intro exn equal
      cases equal
    | error exn =>
      intro other equal
      cases equal
      exact caught alive exn rfl

/-- A catch clause that lets through what befalls a job. -/
theorem tryCatch {prog : Prog α} {handler : Exn → Prog α} (body : Settles m live prog)
    (handles : ∀ exn, exn ≠ .nullDeref ∧ exn ≠ .danglingRead → Settles n live (handler exn))
    (passes : ∀ exn, exn = .nullDeref ∨ exn = .danglingRead → handler exn = .raise exn) :
    Settles (m + n) live (prog.tryCatch handler) where
  within := by
    refine body.within.tryCatch fun exn => ?_
    by_cases caught : exn ≠ .nullDeref ∧ exn ≠ .danglingRead
    · exact (handles exn caught).within
    · rw [passes exn (by tauto)]
      exact Within.raise n exn
  fated alive := by
    refine (Safe.tryCatch_iff ..).mpr (Safe.mono (body.fated alive) fun result fate fits => ?_)
    cases result with
    | ok value => exact fits
    | error exn =>
      cases fate with
      | fine => exact (handles exn (fits exn rfl)).fated alive
      | timedOut | dangling =>
        cases fits
        dsimp only [catchSafe]
        rw [passes _ (by simp)]
        rfl

/-- A call through the guard. It needs a connection to be harmless. -/
theorem call {guard : SqlConnGuard} (c : ConnectorCall) :
    Settles 1 (guard.conn.isSome) (guard.call c) := by
  refine Settles.act (fun _ _ => rfl) fun reply => Settles.ofExcept ?_
  rintro ⟨connected, honest⟩ exn equal
  obtain ⟨conn, found⟩ := Option.isSome_iff_exists.mp connected
  rw [found] at honest
  rw [honest exn equal]
  simp

theorem call_then {guard : SqlConnGuard} {c : ConnectorCall} {next : c.Reply → Prog α}
    (continues : ∀ reply, Settles n guard.conn.isSome (next reply)) :
    Settles (n + 1) guard.conn.isSome ((guard.call c).bind next) := by
  rw [Nat.add_comm]
  exact (call c).bind continues

/-- A column that is read only where it is not NULL. -/
theorem optional_then {guard : SqlConnGuard} {column : String} {next : Unit → Prog α} {p : Prop}
    [Decidable p] (continues : Settles n guard.conn.isSome (next ())) :
    Settles (n + 1) guard.conn.isSome
      (if p then (guard.call (.getString column)).bind next else next ()) := by
  split
  · exact call_then fun _ => continues
  · exact continues.mono (Nat.le_succ n)

theorem within_getConnection : DBManager.getConnection.Within 5 := by
  have pops : DBManager.popConnection.Within 2 := by
    refine Within.act fun popped => ?_
    cases popped with
    | none => exact Within.act fun _ => Within.ret ..
    | some conn => exact Within.ret ..
  refine pops.bind (n := 3) fun conn => ?_
  cases conn with
  | none => exact Within.ret ..
  | some conn =>
    have calls (c : ConnectorCall) : (DBManager.call (some conn) c).Within 1 :=
      Within.act fun _ => Within.ofExcept ..
    refine Within.bind (n := 0) (m := 3) ?_ fun _ => Within.ret ..
    refine Within.tryCatch (n := 0) (m := 3) ?_ fun exn => by cases exn <;> simp
    refine (calls .isValid).bind (n := 2) fun valid => ?_
    cases valid with
    | true => exact Within.ret ..
    | false => exact (calls .reconnect).bind fun _ => calls .setSchema

/-- What `getConnection` leaves of a job: a connection and nothing befallen, or neither. -/
theorem safe_getConnection : DBManager.getConnection.Safe fateStep (· = ·) (fun _ _ => True)
    (fun result fate => ∃ conn, result = .ok conn ∧
      fate = if conn.isSome then .fine else .timedOut) .fine := by
  have connected (conn : Conn) : (do DBManager.revalidate (some conn); return some conn :
      Prog (Option Conn)).Safe fateStep (· = ·) (fun _ _ => True) (fun result fate =>
        ∃ conn, result = .ok conn ∧ fate = if conn.isSome then .fine else .timedOut) .fine := by
    have calls (c : ConnectorCall) {post : Except Exn c.Reply → Fate → Prop}
        (returns : ∀ value, post (.ok value) .fine) (throws : post (.error .sqlException) .fine) :
        (DBManager.call (some conn) c).Safe fateStep (· = ·) (fun _ _ => True) post .fine := by
      refine Safe.alone trivial ?_
      rintro reply fate ⟨honest, rfl⟩
      cases reply with
      | ok value => exact returns value
      | error exn =>
        rw [honest exn rfl]
        exact throws
    refine (Safe.bind_iff ..).mpr ((Safe.tryCatch_iff ..).mpr ?_)
    refine (Safe.bind_iff ..).mpr (calls .isValid (fun valid => ?_) ⟨_, rfl, rfl⟩)
    cases valid with
    | true => exact ⟨_, rfl, rfl⟩
    | false =>
      refine (Safe.bind_iff ..).mpr (calls .reconnect (fun _ => ?_) ⟨_, rfl, rfl⟩)
      exact calls .setSchema (fun _ => ⟨_, rfl, rfl⟩) ⟨_, rfl, rfl⟩
  refine (Safe.bind_iff ..).mpr ((Safe.bind_iff ..).mpr ?_)
  refine Safe.alone trivial ?_
  rintro popped fate ⟨-, rfl⟩
  cases popped with
  | some conn => exact connected conn
  | none =>
    rintro before rfl
    refine ⟨trivial, ?_⟩
    rintro waited fate ⟨-, rfl⟩
    cases waited with
    | some conn => exact connected conn
    | none => exact ⟨none, rfl, rfl⟩

/-- A method whose body begins with a call: under a null connection it gets no further. -/
theorem method {failure : α} {body : SqlConnGuard → Prog α}
    (settles : ∀ guard : SqlConnGuard, Settles n guard.conn.isSome (body guard))
    (begins : ∃ c next, body ⟨none⟩ = (SqlConnGuard.call ⟨none⟩ c).bind next) :
    Settles (n + 7) live (daoMethod failure body) where
  within := by
    refine Within.tryCatch (n := 0) ?_ fun exn => by cases exn <;> simp
    have ends (conn : Option Conn) (result : Except Exn α) :
        ((SqlConnGuard.destroy ⟨conn⟩).bind fun _ => Program.ofExcept result).Within 1 := by
      cases conn with
      | none => exact Within.ofExcept ..
      | some conn => exact Within.act fun _ => Within.ofExcept ..
    have whole : (SqlConnGuard.scope body).Within (5 + (n + 1 + 1)) :=
      within_getConnection.bind fun conn => Within.act fun _ =>
        (settles ⟨conn⟩).within.attempt.bind (ends conn)
    exact whole.mono (by omega)
  fated _ := by
    refine (Safe.tryCatch_iff ..).mpr ((Safe.bind_iff ..).mpr ?_)
    refine Safe.mono safe_getConnection ?_
    rintro result fate ⟨conn, rfl, rfl⟩
    rintro before rfl
    refine ⟨trivial, ?_⟩
    rintro ⟨⟩ fate ⟨-, rfl⟩
    change Program.Safe _ _ _ ((body ⟨conn⟩).attempt.bind _) _ _
    refine (Safe.bind_iff ..).mpr ((Safe.attempt_iff ..).mpr ?_)
    cases conn with
    | none =>
      obtain ⟨c, next, equal⟩ := begins
      rw [equal]
      rintro before rfl
      refine ⟨trivial, ?_⟩
      rintro reply fate ⟨honest, rfl⟩
      rw [show reply = .error .nullDeref from honest]
      rfl
    | some conn =>
      refine Safe.mono ((settles ⟨some conn⟩).fated rfl) fun result fate fits => ?_
      rintro before rfl
      refine ⟨trivial, ?_⟩
      rintro ⟨⟩ fate ⟨-, rfl⟩
      cases result with
      | ok value => exact fits
      | error exn =>
        cases exn with
        -- The one exception that the method catches. It has met no fate then.
        | sqlException =>
          cases fate with
          | fine =>
            intro exn equal
            cases equal
          | timedOut | dangling => cases fits
        | _ => exact fits

/-! ### The methods that the handlers call -/

variable {sys : System}

theorem buildFromResultSet {guard : SqlConnGuard} (row : UserRow) :
    Settles 10 guard.conn.isSome (UserDAO.buildFromResultSet sys guard row) := by
  iterate 7 refine call_then fun _ => ?_
  apply optional_then
  refine call_then fun _ => ?_
  exact optional_then (ret _)

theorem getUserById (id : Int32) : Settles 21 live (UserDAO.getUserById sys id) := by
  refine method (n := 14) (fun guard => ?_) ⟨_, _, rfl⟩
  iterate 2 refine call_then fun _ => ?_
  refine call_then fun rows => ?_
  refine call_then fun _ => ?_
  cases rows with
  | nil => exact ret _
  | cons row rest => exact (buildFromResultSet row).bind (n := 0) fun _ => ret _

theorem getUserByUsername (username : String) :
    Settles 21 live (UserDAO.getUserByUsername sys username) := by
  refine method (n := 14) (fun guard => ?_) ⟨_, _, rfl⟩
  iterate 2 refine call_then fun _ => ?_
  refine call_then fun rows => ?_
  refine call_then fun _ => ?_
  cases rows with
  | nil => exact ret _
  | cons row rest => exact (buildFromResultSet row).bind (n := 0) fun _ => ret _

theorem createUser (user : User) : Settles 16 live (UserDAO.createUser sys user) := by
  refine method (n := 9) (fun guard => ?_) ⟨_, _, rfl⟩
  iterate 6 refine call_then fun _ => ?_
  refine call_then fun ids => ?_
  refine call_then fun _ => ?_
  cases ids with
  | nil => exact ret _
  | cons id rest => exact call_then fun _ => ret _

theorem updateColumn (sql value : String) (userId : Int32) (s : Statement) :
    Settles 11 live (UserDAO.updateColumn sql value userId s) := by
  refine method (n := 4) (fun guard => ?_) ⟨_, _, rfl⟩
  iterate 4 refine call_then fun _ => ?_
  exact ret _

/-! ### The handlers -/

theorem parseBody (req : HttpRequest) : Settles 0 live (UserHandler.parseBody sys req) := by
  unfold UserHandler.parseBody
  split
  · exact ret _
  · exact raise (by simp)

theorem stringField (j : Json) (key : String) : Settles 0 live (UserHandler.stringField j key) := by
  unfold UserHandler.stringField
  split
  · exact ret _
  · exact raise (by simp)

theorem tokenUserId (token : String) : Settles 0 live (UserHandler.tokenUserId sys token) := by
  simp only [UserHandler.tokenUserId, JWTUtil.getClaim, bind_eq]
  cases found : sys.jwt.decode token with
  | none =>
    rw [JWTUtil.decode_of_none found]
    exact raise (by simp)
  | some decoded =>
    rw [JWTUtil.decode_of_some found, ret_bind]
    cases decoded.payload.lookup "id" with
    | none => exact raise (by simp)
    | some claim =>
      cases claim with
      | string s => exact ret _
      | _ => exact raise (by simp)

theorem verifyToken (token : String) : Settles 2 live (JWTUtil.verifyToken sys token) := by
  refine tryCatch (n := 0) ?_ (fun exn caught => ?_) (fun exn passed => ?_)
  · simp only [JWTUtil.isTokenExpired, bind_eq]
    cases found : sys.jwt.decode token with
    | none =>
      rw [JWTUtil.decode_of_none found]
      exact raise (by simp)
    | some decoded =>
      simp only [JWTUtil.decode_of_some found, ret_bind]
      refine trigger_then (fun _ _ => rfl) fun time => ?_
      split
      · exact raise (by simp)
      · split
        · refine trigger_then (fun _ _ => rfl) fun later => ?_
          dsimp only [pure_eq, ret_bind]
          split <;> exact ret _
        · exact raise (by simp)
  · cases exn with
    | stdException => exact ret _
    | _ => exact raise caught
  · rcases passed with rfl | rfl <;> rfl

theorem verifyCode (email action code : String) :
    Settles 3 live (VerifyService.verifyCode email action code) := by
  refine act (fun _ _ => rfl) fun found => ?_
  cases found with
  | none => exact ret _
  | some ptr =>
    refine trigger_then (fun _ _ => rfl) fun now => ⟨fun reply => ?_, fun alive => ?_⟩
    · cases reply with
      | ok info => exact Within.ret ..
      | error exn => exact Within.raise ..
    · refine Safe.alone trivial ?_
      rintro reply fate ⟨honest, rfl⟩
      cases reply with
      | ok info =>
        intro exn equal
        cases equal
      -- The entry is gone, and the read of it is what befalls the job.
      | error exn =>
        rw [honest exn rfl]
        rfl

theorem ofExcept_then {result : Except Exn β} {next : β → Prog α}
    (caught : live → ∀ exn, result = .error exn → exn = .stdException)
    (continues : ∀ value, Settles n live (next value)) :
    Settles n live ((Program.ofExcept result).bind next) := by
  rw [← Nat.zero_add n]
  refine Settles.bind (ofExcept fun alive exn equal => ?_) continues
  rw [caught alive exn equal]
  simp

theorem authenticated {token : String} {res : HttpResponse} {next : String → Prog HttpResponse}
    (continues : ∀ accepted, Settles n live (next accepted)) :
    Settles (2 + n) live ((JWTUtil.verifyToken sys token).bind fun accepted =>
      if accepted.isEmpty = true then .ret res else next accepted) := by
  refine (verifyToken token).bind fun accepted => ?_
  split
  · exact ret _
  · exact continues accepted

end Settles

/-- A job that is short, and whose result goes with its fate. -/
structure Concludes {α : Type} (prog : Prog α) : Prop where
  within : prog.Within 40
  ended : prog.Safe fateStep (· = ·) (fun _ _ => True) (fun result fate => fate.Ended result) .fine

namespace Concludes

variable {sys : System} {req : HttpRequest}

theorem ret (res : HttpResponse) : Concludes (.ret res : Prog HttpResponse) :=
  ⟨Within.ret 40 res, res, rfl⟩

/-- The catch clauses around a handler answer everything else. -/
theorem catching {version n : Nat} {body : Prog HttpResponse} (settles : Settles n True body)
    (short : n ≤ 40) : Concludes (UserHandler.catching version body) where
  within := by
    refine Within.tryCatch (n := 0) (settles.within.mono short) fun exn => ?_
    cases exn <;> simp
  ended := by
    refine (Safe.tryCatch_iff ..).mpr (Safe.mono (settles.fated trivial) fun result fate fits => ?_)
    cases result with
    | ok res =>
      cases fate with
      | fine => exact ⟨res, rfl⟩
      | timedOut | dangling => cases fits
    | error exn =>
      cases fate with
      | fine =>
        obtain ⟨noNull, noDangling⟩ := fits exn rfl
        cases exn with
        | nullDeref => exact absurd rfl noNull
        | danglingRead => exact absurd rfl noDangling
        | _ => exact ⟨_, rfl⟩
      | timedOut | dangling =>
        cases fits
        rfl

open Settles

theorem handleGetProfile : Concludes (UserHandler.handleGetProfile sys req) := by
  refine catching (n := 2 + (0 + (21 + 0))) (authenticated fun token => ?_) (by decide)
  refine (tokenUserId _).bind fun userId => ?_
  refine (getUserById userId).bind fun user => ?_
  cases user <;> exact Settles.ret _

theorem handleLogin : Concludes (UserHandler.handleLogin sys req) := by
  refine catching (n := 0 + (0 + (0 + (21 + 1)))) ((parseBody req).bind fun j => ?_) (by decide)
  split
  · exact Settles.ret _
  refine (stringField ..).bind fun username => ?_
  refine (stringField ..).bind fun password => ?_
  refine (getUserByUsername username).bind fun user => ?_
  cases user with
  | none => exact Settles.ret _
  | some user =>
    dsimp only
    split
    · exact Settles.ret _
    · exact trigger_then (fun _ _ => rfl) fun now => Settles.ret _

theorem handleRegister : Concludes (UserHandler.handleRegister sys req) := by
  refine catching (n := 0 + (0 + (0 + (0 + (0 + (3 + (21 + (16 + 0)))))))) ?_ (by decide)
  refine (parseBody req).bind fun j => ?_
  split
  · exact Settles.ret _
  iterate 4 refine (stringField ..).bind fun _ => ?_
  refine (verifyCode ..).bind fun valid => ?_
  split
  · exact Settles.ret _
  refine (getUserByUsername _).bind fun found => ?_
  split
  · exact Settles.ret _
  refine (createUser _).bind fun created => ?_
  dsimp only
  split <;> exact Settles.ret _

theorem handleChangePassword : Concludes (UserHandler.handleChangePassword sys req) := by
  refine catching (n := 0 + (2 + (0 + (0 + (0 + (0 + (3 + (11 + 0)))))))) ?_ (by decide)
  refine (parseBody req).bind fun j => ?_
  split
  · exact Settles.ret _
  refine authenticated fun token => ?_
  refine (tokenUserId _).bind fun userId => ?_
  iterate 3 refine (stringField ..).bind fun _ => ?_
  refine (verifyCode ..).bind fun valid => ?_
  split
  · exact Settles.ret _
  refine (updateColumn ..).bind fun updated => ?_
  split <;> exact Settles.ret _

theorem handleBindPlatform : Concludes (UserHandler.handleBindPlatform sys req) := by
  refine catching (n := 2 + (0 + (0 + (0 + (0 + (11 + 0)))))) ?_ (by decide)
  refine authenticated fun token => ?_
  refine (tokenUserId _).bind fun userId => ?_
  refine (parseBody req).bind fun j => ?_
  split
  · exact Settles.ret _
  iterate 2 refine (stringField ..).bind fun _ => ?_
  split
  · refine (updateColumn ..).bind fun updated => ?_
    split <;> exact Settles.ret _
  split
  · refine (updateColumn ..).bind fun updated => ?_
    split <;> exact Settles.ret _
  · exact Settles.ret _

theorem handleUpdateAvatar : Concludes (UserHandler.handleUpdateAvatar sys req) := by
  refine catching (n := 2 + (0 + (0 + (0 + 5)))) ?_ (by decide)
  refine authenticated fun token => ?_
  refine (parseBody req).bind fun j => ?_
  split
  · exact Settles.ret _
  refine (stringField ..).bind fun avatarData => ?_
  split
  · exact Settles.ret _
  refine (tokenUserId _).bind fun userId => ?_
  have saves {live : Prop} : Settles 3 live
      ((trigger (.openOut (UserHandler.avatarPath userId))).bind fun opened =>
        if (!opened) = true then
          .ret (buildErrorResponse .internalServerError req.version "Failed to save avatar")
        else
          (trigger (.writeFile (UserHandler.avatarPath userId) avatarData.toUTF8)).bind fun _ =>
            (trigger (.closeOut (UserHandler.avatarPath userId))).bind fun _ =>
              .ret (buildSuccessResponse req.version (success "Avatar updated successfully")) :
        Prog HttpResponse) := by
    refine trigger_then (fun _ _ => rfl) fun opened => ?_
    split
    · exact Settles.ret _
    refine trigger_then (fun _ _ => rfl) fun _ => ?_
    exact trigger_then (fun _ _ => rfl) fun _ => Settles.ret _
  refine act (fun _ _ => rfl) fun found => ofExcept_then (fun alive => alive.2) fun there => ?_
  split
  · exact act (fun _ _ => rfl) fun made => ofExcept_then (fun alive => alive.2) fun _ => saves
  · exact saves.mono (by decide)

theorem handleGetAvatar : Concludes (UserHandler.handleGetAvatar sys req) := by
  refine catching (n := 2 + (0 + 4)) (authenticated fun token => ?_) (by decide)
  refine (tokenUserId _).bind fun userId => ?_
  refine act (fun _ _ => rfl) fun found => ofExcept_then (fun alive => alive.2) fun there => ?_
  split
  · exact Settles.ret _
  refine trigger_then (fun _ _ => rfl) fun opened => ?_
  split
  · exact Settles.ret _
  refine trigger_then (fun _ _ => rfl) fun data => ?_
  refine trigger_then (fun _ _ => rfl) fun _ => ?_
  split
  · exact Settles.raise (by simp)
  · exact Settles.ret _

theorem handleGetVerifyCode : Concludes (UserHandler.handleGetVerifyCode sys req) := by
  have draws {live : Prop} (code : String) (i left : Nat) :
      Settles left live (EmailUtil.generateLoop code i left) := by
    induction left generalizing code i with
    | zero => exact Settles.ret _
    | succ left ih => exact trigger_then (fun _ _ => rfl) fun digit => ih _ _
  refine catching (n := 0 + (0 + (0 + (6 + (2 + 1) + 0)))) ?_ (by decide)
  refine (parseBody req).bind fun j => ?_
  split
  · exact Settles.ret _
  iterate 2 refine (stringField ..).bind fun _ => ?_
  split
  · exact Settles.ret _
  split
  · refine Settles.bind ((draws "" 0 6).bind fun code => Settles.bind ?_ fun success => ?_)
      fun sent => ?_
    · refine trigger_then (fun _ _ => rfl) fun curl => ?_
      split
      · exact Settles.ret _
      · exact act (fun _ _ => rfl) fun _ => Settles.ret _
    · split
      · exact Settles.ret _
      · exact trigger_then (fun _ _ => rfl) fun _ => Settles.ret _
    · split <;> exact Settles.ret _
  · exact Settles.ret _

end Concludes

theorem ServerJob.concludes (sys : System) (job : ServerJob) : Concludes (job.program sys) := by
  cases job with
  | cleanup =>
    refine ⟨Within.mono (m := 2) (fun _ _ => trivial) (by decide), ?_⟩
    rintro before rfl
    refine ⟨trivial, ?_⟩
    rintro now after ⟨-, rfl⟩ before rfl
    refine ⟨trivial, ?_⟩
    rintro count after ⟨-, rfl⟩
    exact ⟨count, rfl⟩
  | request req =>
    refine handleRouter_cases sys req (P := fun prog => Concludes prog)
      (fun _ => Concludes.handleRegister) (fun _ => Concludes.handleGetVerifyCode)
      (fun _ => Concludes.handleLogin) (fun _ => Concludes.handleGetProfile)
      (fun _ => Concludes.handleUpdateAvatar) (fun _ => Concludes.handleGetAvatar)
      (fun _ => Concludes.handleChangePassword) (fun _ => Concludes.handleBindPlatform)
      fun _ res => Concludes.ret res

/-! ### Among the other threads -/

section Workers

variable {ι : Type} [DecidableEq ι] {sys : System} {i : ι} {a b : Site ι} {effect : Effect}
  {reply : effect.Reply}

/-- What the effects answer, and what they throw. -/
theorem honest_exec (sys : System) (env : Env) (count : Nat) (effect : Effect) (w : World) :
    effect.Honest (exec sys env count effect w).1 := by
  cases effect with
  | connector conn c =>
    cases conn with
    | none => rfl
    | some k =>
      intro exn thrown
      simp only [exec] at thrown
      split at thrown
      · cases thrown
        rfl
      -- Of the calls only a statement can fail by itself.
      · cases c with
        | execute s =>
          simp only [execCall] at thrown
          split at thrown
          · cases thrown
          · cases thrown
            rfl
        | _ => cases thrown
  | derefCode ptr =>
    intro exn thrown
    simp only [exec] at thrown
    cases held : w.codes.deref ptr with
    | none =>
      rw [held] at thrown
      cases thrown
      rfl
    | some info =>
      rw [held] at thrown
      cases thrown
  | reserve elements =>
    intro exn thrown
    simp only [exec, Env.reserved] at thrown
    split at thrown <;> cases thrown
    rfl
  | fileExists path | createDirectory path =>
    intro exn thrown
    simp only [exec] at thrown
    split at thrown <;> cases thrown
    rfl
  | _ => trivial

/-- A thread sees its own fate change with its effects, and those of the others do not touch it. -/
theorem fateStep_of_siteStep (step : siteStep sys i effect a reply b) :
    fateStep effect (a.fate i) reply (b.fate i) := by
  obtain ⟨env, count, performed⟩ := step_of_siteStep step
  have honest := honest_exec sys env count effect a.world
  rw [performed] at honest
  obtain ⟨pool, -, rfl⟩ := step
  exact ⟨honest, Function.update_self ..⟩

theorem fate_of_siteStep_other {j : ι} (other : j ≠ i) (step : siteStep sys i effect a reply b) :
    b.fate j = a.fate j := by
  obtain ⟨pool, -, rfl⟩ := step
  exact Function.update_of_ne other ..

/-- The threads owe one another nothing: the fate of a job is its own. -/
def fateProtocol (ι : Type) : Protocol ι Effect Exn ServerJob ServerJob.Out (Site ι) where
  inv _ := True
  rely i a b := b.fate i = a.fate i
  pre _ _ _ := True
  post i _ result a := (a.fate i).Ended result
  idle _ _ := True

theorem fateProtocol_sound : (fateProtocol ι).Sound (workers ι sys) where
  refl _ _ := rfl
  trans _ _ _ _ first later := later.trans first
  starts i job a b _ _ starts := by
    cases starts
    refine ⟨trivial, ?_, fun j other => Function.update_of_ne other ..⟩
    -- A new job begins with nothing befallen.
    have ended := (job.concludes sys).ended
    rw [← show (a.begin i).fate i = .fine from Function.update_self ..] at ended
    unfold Protocol.SafeAt
    refine ended.of_view (fun site : Site ι => site.fate i) ?_ ?_ ?_
    · exact fun _ _ _ _ step => fateStep_of_siteStep step.2
    · exact fun _ _ same => same.symm
    · exact fun _ _ _ _ => trivial
  acts i _ _ _ _ _ _ step := ⟨trivial, fun _ other => fate_of_siteStep_other other step⟩
  post_stable i job result a b ended same := by
    change (b.fate i).Ended result
    rw [show b.fate i = a.fate i from same]
    exact ended
  idle_stable _ _ _ _ _ := trivial
  finishes _ _ _ _ _ := trivial

/-- Wherever an interleaving has got to, a job that is given forty turns is at its end, no matter
how they are mixed with those of other threads. If nothing has befallen it, then it has returned:
a handler has its response. Otherwise its wait for a connection has timed out, and it has ended in
the call through the null pointer, or it has read the entry that was erased. -/
theorem requests_end {outcome : Nat → DBManager.ConnectOutcome} {poolSize : Nat} {w : World}
    {c : Config ι Effect Effect.Reply Exn ServerJob.Out (Site ι)}
    (reach : (workers ι sys).Reachable (workersInit ι outcome poolSize w) c) {job : ServerJob}
    {prog : Prog job.Out} (runs : c.threads i = some ⟨job, prog⟩)
    (schedule : List (ι × Env × Nat)) (turns : 40 ≤ schedule.countP fun move => move.1 = i) :
    ∃ result, (c.runSchedule (siteExec sys) schedule).threads i =
        some ⟨job, Program.ofExcept result⟩ ∧
      ((c.runSchedule (siteExec sys) schedule).shared.fate i).Ended result := by
  have within : prog.Within 40 :=
    reach.residual (fun job => (job.concludes sys).within)
      (fun _ _ _ reply within => within.rest reply) (fun _ => rfl) runs
  obtain ⟨result, ended⟩ : ∃ result, (c.runSchedule (siteExec sys) schedule).threads i =
      some ⟨job, Program.ofExcept result⟩ := Config.ends_of_within runs within schedule turns
  refine ⟨result, ended, ?_⟩
  have later := reach.runSchedule schedule fun i choice _ effect a =>
    siteStep_siteExec sys i choice effect a
  have initially : (fateProtocol ι).Holds (workers ι sys) (workersInit ι outcome poolSize w) :=
    ⟨trivial, fun _ => trivial⟩
  have holds := initially.reachable fateProtocol_sound later
  cases result with
  | ok value => exact holds.post fateProtocol_sound ended
  | error exn => exact holds.post_raise fateProtocol_sound ended

end Workers

section Sample

open Reference

def bobWaits : ServerJob :=
  .request (request .post "/users/login" [("username", "bob"), ("password", "y")] "")

/-- A login over a pool without connections, and a cleanup. -/
def withoutConnections : Config (Fin 2) Effect Effect.Reply Exn ServerJob.Out (Site (Fin 2)) :=
  workersBegun (Fin 2) system (fun _ => .connected) 0 oneUser [(0, bobWaits), (1, .cleanup)]

def takingTurns : List (Fin 2 × Env × Nat) :=
  (List.replicate 40 [(0, env 0, 0), (1, env 0, 0)]).flatten

theorem requests_end_timedOut :
    (withoutConnections.runSchedule (siteExec system) takingTurns).threads 0 =
      some ⟨bobWaits, .raise .nullDeref⟩ := by
  have reach : (workers (Fin 2) system).Reachable
      (workersInit (Fin 2) (fun _ => .connected) 0 oneUser) withoutConnections :=
    workersBegun_reachable (by decide)
  have runs : withoutConnections.threads 0 = some ⟨bobWaits, bobWaits.program system⟩ := by
    simp [withoutConnections, workersBegun]
  have turns : 40 ≤ takingTurns.countP fun move => move.1 = 0 := by decide +kernel
  have fate : (withoutConnections.runSchedule (siteExec system) takingTurns).shared.fate 0 =
      .timedOut := by decide +kernel
  have ends := requests_end reach runs takingTurns turns
  rw [fate] at ends
  obtain ⟨result, ended, fits⟩ := ends
  rw [show result = .error .nullDeref from fits] at ended
  exact ended

end Sample

end MusicPlayer
