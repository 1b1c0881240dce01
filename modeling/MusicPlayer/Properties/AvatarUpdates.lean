import MusicPlayer.Properties.Answers

/-!
# Updates of an avatar

An update opens the file of the user, which truncates it, writes the text and closes it. The
stream is not asked afterwards whether it stored the text. What a following request reads
depends on the file alone, so an update is all or nothing unless the write or the close loses
bytes.
-/
namespace MusicPlayer

open Resumption Program JsonUtil

/-- The text that an update is about to store. -/
def avatarForm (sys : System) (req : HttpRequest) : Option String := do
  let j ← sys.parse req.body
  j.string? "avatar_data"

/-- No file operation fails that a read depends on. -/
structure Env.FilesWork (env : Env) : Prop where
  exists? : ∀ count, env.fsThrows count = false
  opens : ∀ count, env.opens count = true

/-- An update of the avatar is answered 200 only if a following read returns exactly its text,
and after any other answer a read of any user returns what it returned before. -/
structure AllOrNothingUpdate (sys : System) (env : Env) (before : World) (req : HttpRequest)
    (outcome : Except Exn HttpResponse × World) : Prop where
  answers : ∃ res, outcome.1 = .ok res
  stores : ∀ res, outcome.1 = .ok res → res.status = .ok →
    ∃ userId text, caller sys env req = some userId ∧ avatarForm sys req = some text ∧
      ∀ env' get, env'.FilesWork → caller sys env' get = some userId →
        (runProg sys env' (UserHandler.handleGetAvatar sys get) outcome.2).1 =
          .ok (UserHandler.avatarAnswer get.version text)
  keeps : ∀ res, outcome.1 = .ok res → res.status ≠ .ok →
    ∀ env' get userId, caller sys env' get = some userId →
      (runProg sys env' (UserHandler.handleGetAvatar sys get) outcome.2).1 =
        (runProg sys env' (UserHandler.handleGetAvatar sys get) before).1

/-! ### What a file keeps of a text -/

/-- The bytes that are stored under a limit. -/
def keptBytes (limit : Option Nat) (data : ByteArray) : ByteArray :=
  match limit with
  | some n => data.extract 0 n
  | none => data

theorem keptBytes_eq_iff {limit : Option Nat} {data : ByteArray} :
    keptBytes limit data = data ↔ ∀ n, limit = some n → data.size ≤ n := by
  cases limit with
  | none => simp [keptBytes]
  | some n =>
    simp only [keptBytes, Option.some.injEq, forall_eq']
    constructor
    · intro whole
      have sizes := congrArg ByteArray.size whole
      rw [ByteArray.size_extract] at sizes
      omega
    · intro enough
      have bound : max n data.size = n := Nat.max_eq_left enough
      rw [← bound, ByteArray.extract_zero_max_size]

theorem size_keptBytes_le (limit : Option Nat) (data : ByteArray) :
    (keptBytes limit data).size ≤ data.size := by
  cases limit with
  | none => exact Nat.le_refl _
  | some n =>
    rw [keptBytes, ByteArray.size_extract]
    omega

/-- What the second limit leaves whole the first has left whole. -/
theorem keptBytes_keptBytes_eq_iff {first second : Option Nat} {data : ByteArray} :
    keptBytes second (keptBytes first data) = data ↔
      keptBytes first data = data ∧ keptBytes second data = data := by
  constructor
  · intro whole
    have firstWhole : keptBytes first data = data := by
      have sizes := congrArg ByteArray.size whole
      have shrinks := size_keptBytes_le second (keptBytes first data)
      rw [keptBytes_eq_iff]
      rintro n rfl
      rw [sizes, keptBytes, ByteArray.size_extract] at shrinks
      omega
    rw [firstWhole] at whole
    exact ⟨firstWhole, whole⟩
  · rintro ⟨firstWhole, secondWhole⟩
    rw [firstWhole, secondWhole]

theorem overwrite_empty (data : ByteArray) : overwrite ByteArray.empty data = data := by
  rw [overwrite, ByteArray.size_empty, ByteArray.extract_eq_empty_iff.mpr (by simp),
    ByteArray.append_empty]

/-! ### Runs of requests with an accepted token -/

namespace UserHandler

section Runs

variable {sys : System} {env : Env} {req : HttpRequest} {userId : Int32}

/-- What the `catch` clauses of a handler make of a result. -/
def caught (version : Nat) : Except Exn HttpResponse → Except Exn HttpResponse
  | .error .jsonException => .ok (buildErrorResponse .badRequest version "Invalid JSON format")
  | .error .sqlException | .error .stdException =>
    .ok (buildErrorResponse .internalServerError version "Internal server error")
  | result => result

/-- The `catch` clauses perform nothing. -/
theorem run_catching (version : Nat) (body : Prog HttpResponse) (count : Nat) (w : World) :
    (catching version body).run (exec sys env) count w =
      (caught version (body.run (exec sys env) count w).1,
        (body.run (exec sys env) count w).2) := by
  obtain ⟨later, runs⟩ := run_tryCatch (exec sys env) body count w
  rw [catching, runs]
  rcases body.run (exec sys env) count w with ⟨result, after⟩
  cases result with
  | ok res => rfl
  | error exn => cases exn <;> rfl

/-- An accepted token costs two readings of the clock. -/
theorem run_verifyToken {token : String} (accepted : JWTUtil.accepts sys env token = true)
    (next : String → Prog HttpResponse) (count : Nat) (w : World) :
    ((JWTUtil.verifyToken sys token).bind next).run (exec sys env) count w =
      (next token).run (exec sys env) (count + 2) w := by
  cases found : sys.jwt.decode token with
  | none => simp [JWTUtil.accepts, found] at accepted
  | some decoded =>
    cases exp : decoded.payload.lookup "exp" with
    | none => simp [JWTUtil.accepts, found, exp] at accepted
    | some claim =>
      cases claim with
      | date time =>
        simp only [JWTUtil.accepts, found, exp, Option.any_some, Bool.and_eq_true,
          Bool.not_eq_true', decide_eq_false_iff_not] at accepted
        obtain ⟨verified, unexpired⟩ := accepted
        simp [JWTUtil.verifyToken, JWTUtil.isTokenExpired, JWTUtil.decode_of_some found, trigger,
          Program.tryCatch, Program.run, exec, verified, exp, unexpired]
      | _ => simp [JWTUtil.accepts, found, exp] at accepted

theorem tokenUserId_of_tokenId {token : String} (named : JWTUtil.tokenId? sys token = some userId) :
    tokenUserId sys token = .ret userId := by
  cases found : sys.jwt.decode token with
  | none => simp [JWTUtil.tokenId?, found] at named
  | some decoded =>
    cases id : decoded.payload.lookup "id" with
    | none => simp [JWTUtil.tokenId?, found, id] at named
    | some claim =>
      cases claim with
      | string s =>
        simp only [JWTUtil.tokenId?, found, id, Option.bind_some, Option.some.injEq] at named
        simp [tokenUserId, JWTUtil.getClaim, JWTUtil.decode_of_some found, id, named]
      | _ => simp [JWTUtil.tokenId?, found, id] at named

theorem caller_eq_some : caller sys env req = some userId ↔
    JWTUtil.accepts sys env (req.field "Authorization") = true ∧
      (req.field "Authorization").isEmpty = false ∧
      JWTUtil.tokenId? sys (req.field "Authorization") = some userId := by
  simp [caller, and_assoc]

/-- What a read answers, by what it finds under its path. -/
def avatarRead (env : Env) (version : Nat) (isDirectory : Bool) (file : Option ByteArray) :
    HttpResponse :=
  if env.fsThrows 2 then buildErrorResponse .internalServerError version "Internal server error"
  else if !(isDirectory || file.isSome) then
    buildErrorResponse .notFound version "Avatar not found"
  else if !(env.opens 3 && file.isSome) then
    buildErrorResponse .internalServerError version "Failed to read avatar"
  else match String.fromUTF8? (file.getD ByteArray.empty) with
    | none => buildErrorResponse .badRequest version "Invalid JSON format"
    | some text => avatarAnswer version text

/-- A read depends on nothing but what is under the path of its user. -/
theorem run_handleGetAvatar (names : caller sys env req = some userId) (w : World) :
    (runProg sys env (handleGetAvatar sys req) w).1 =
      .ok (avatarRead env req.version (w.directories.contains (avatarPath userId))
        (w.files (avatarPath userId))) := by
  obtain ⟨accepted, nonempty, named⟩ := caller_eq_some.mp names
  rw [runProg, handleGetAvatar, run_catching, bind_eq, run_verifyToken accepted]
  simp only [nonempty, Bool.false_eq_true, if_false, bind_eq, tokenUserId_of_tokenId named,
    ret_bind, trigger, act_bind, Program.run, exec, avatarRead]
  by_cases throws : env.fsThrows 2 = true
  · simp only [throws, if_true, ofExcept_error, raise_bind, Program.run, caught]
  simp only [throws, Bool.false_eq_true, if_false, ofExcept_ok, ret_bind]
  by_cases absent : (!(w.directories.contains (avatarPath userId) ||
      (w.files (avatarPath userId)).isSome)) = true
  · simp only [absent, if_true, pure_eq, Program.run, caught]
  simp only [absent, Bool.false_eq_true, if_false, Program.run, exec]
  by_cases closed : (!(env.opens 3 && (w.files (avatarPath userId)).isSome)) = true
  · simp only [closed, if_true, pure_eq, Program.run, caught]
  simp only [closed, Bool.false_eq_true, if_false, Program.run, exec]
  cases String.fromUTF8? ((w.files (avatarPath userId)).getD ByteArray.empty) <;> rfl

/-- The directory of the avatars is there. -/
def avatarsExist (w : World) : Bool :=
  w.directories.contains avatarDirectory || (w.files avatarDirectory).isSome

/-- The number of the effect of an update that opens the file. -/
def openCount (w : World) : Nat := if avatarsExist w then 3 else 4

/-- The world in which an update opens the file. -/
def withDirectory (w : World) : World :=
  if avatarsExist w then w else { w with directories := avatarDirectory :: w.directories }

/-- What the file holds after it was opened, written and closed. -/
def stored (env : Env) (w : World) (text : String) : ByteArray :=
  keptBytes (env.closeFails (openCount w + 2))
    (keptBytes (env.writeFails (openCount w + 1)) text.toUTF8)

/-- What an update answers and leaves behind. -/
def avatarUpdate (env : Env) (version : Nat) (userId : Int32) (text : String) (w : World) :
    HttpResponse × World :=
  if env.fsThrows 2 || (!avatarsExist w && env.fsThrows 3) then
    (buildErrorResponse .internalServerError version "Internal server error", w)
  else if env.opens (openCount w) then
    (buildSuccessResponse version (success "Avatar updated successfully"),
      { withDirectory w with
        files := Function.update w.files (avatarPath userId) (some (stored env w text)) })
  else (buildErrorResponse .internalServerError version "Failed to save avatar", withDirectory w)

theorem run_trigger {α : Type} (effect : Effect) (next : effect.Reply → Prog α) (count : Nat)
    (w : World) : ((trigger effect).bind next).run (exec sys env) count w =
      (next (exec sys env count effect w).1).run (exec sys env) (count + 1)
        (exec sys env count effect w).2 := rfl

/-- The part of an update from the open on. -/
theorem run_save {text : String} (count : Nat) (w : World) :
    ((trigger (.openOut (avatarPath userId))).bind fun opened =>
      if (!opened) = true then
        .ret (buildErrorResponse .internalServerError req.version "Failed to save avatar")
      else
        (trigger (.writeFile (avatarPath userId) text.toUTF8)).bind fun _ =>
          (trigger (.closeOut (avatarPath userId))).bind fun _ =>
            .ret (buildSuccessResponse req.version (success "Avatar updated successfully")) :
      Prog HttpResponse).run (exec sys env) count w =
      if env.opens count then
        (.ok (buildSuccessResponse req.version (success "Avatar updated successfully")), { w with
          files := Function.update w.files (avatarPath userId)
            (some (keptBytes (env.closeFails (count + 2))
              (keptBytes (env.writeFails (count + 1)) text.toUTF8))) })
      else
        (.ok (buildErrorResponse .internalServerError req.version "Failed to save avatar"), w) := by
  by_cases opens : env.opens count = true
  · simp only [trigger, act_bind, ret_bind, Program.run, exec, opens, if_true, Bool.not_true,
      Bool.false_eq_true, if_false]
    cases written : env.writeFails (count + 1) <;>
      cases closed : env.closeFails (count + 2) <;>
      simp [keptBytes, overwrite_empty]
  · simp [trigger, act_bind, ret_bind, Program.run, exec, opens]

theorem run_handleUpdateAvatar {text : String} (names : caller sys env req = some userId)
    (form : avatarForm sys req = some text) (fits : text.utf8ByteSize ≤ 1024 * 1024) (w : World) :
    runProg sys env (handleUpdateAvatar sys req) w =
      (.ok (avatarUpdate env req.version userId text w).1,
        (avatarUpdate env req.version userId text w).2) := by
  obtain ⟨accepted, nonempty, named⟩ := caller_eq_some.mp names
  obtain ⟨j, parsed, read⟩ := Option.bind_eq_some_iff.mp form
  have small : ¬text.utf8ByteSize > 1024 * 1024 := Nat.not_lt.mpr fits
  have contains := Json.contains_of_string? read
  have saves := @run_save sys env req userId text
  rw [runProg, handleUpdateAvatar, run_catching, bind_eq, run_verifyToken accepted]
  simp only [nonempty, Bool.false_eq_true, if_false, bind_eq, parseBody, parsed, ret_bind,
    contains, Bool.not_true, stringField, read, small, tokenUserId_of_tokenId named]
  rw [run_trigger]
  -- From here on the cases are those of `avatarUpdate`: each file effect may fail.
  cases looked : env.fsThrows 2 with
  | true => simp [exec, looked, Program.run, caught, avatarUpdate]
  | false =>
    have exists' : exec sys env 2 (.fileExists avatarDirectory) w = (.ok (avatarsExist w), w) := by
      simp only [exec, looked, Bool.false_eq_true, if_false, avatarsExist]
    simp only [Nat.zero_add, exists', ofExcept_ok, ret_bind]
    -- Creating the directory is one effect more, which shifts those behind it.
    cases exist : avatarsExist w with
    | true =>
      simp only [Bool.not_true, Bool.false_eq_true, if_false, pure_eq, saves, avatarUpdate, looked,
        exist, openCount, stored, withDirectory, Bool.false_and, Bool.or_false, if_true]
      split <;> rfl
    | false =>
      simp only [Bool.not_false, if_true]
      rw [run_trigger]
      cases created : env.fsThrows 3 with
      | true => simp [exec, looked, created, exist, Program.run, caught, avatarUpdate]
      | false =>
        have creates : exec sys env 3 (.createDirectory avatarDirectory) w =
            (.ok (), withDirectory w) := by
          simp only [exec, created, Bool.false_eq_true, if_false, withDirectory, exist]
        simp only [creates, ofExcept_ok, ret_bind, pure_eq, saves, avatarUpdate, looked, exist,
          created, openCount, stored, Bool.not_false, Bool.and_false, Bool.or_false,
          Bool.false_eq_true, if_false]
        by_cases opened : env.opens 4 = true
        · simp only [opened, if_true, caught, withDirectory, exist, Bool.false_eq_true, if_false]
        · simp only [opened, Bool.false_eq_true, if_false, caught, withDirectory, exist]

/-- A request that is turned down before it touches a file. -/
theorem wp_handleUpdateAvatar_refused {w : World}
    (refused : ∀ userId text, caller sys env req = some userId →
      avatarForm sys req = some text → 1024 * 1024 < text.utf8ByteSize) :
    (handleUpdateAvatar sys req).Wp (Step sys env)
      (fun result after => ∃ res, result = .ok res ∧ res.status ≠ .ok ∧ after = w) w := by
  have failed (res : HttpResponse) (status : res.status ≠ .ok) :
      ∃ answer, (.ok res : Except Exn HttpResponse) = .ok answer ∧ answer.status ≠ .ok ∧ w = w :=
    ⟨res, rfl, status, rfl⟩
  refine wp_catching (wp_authenticate failed fun accepted nonempty => ?_)
  refine wp_parseBody_bind (fun _ => failed) fun j parsed => ?_
  split
  next => exact failed _ (by simp)
  refine wp_stringField_bind (fun _ => failed) fun text read => ?_
  split
  next => exact failed _ (by simp)
  next fits =>
    refine wp_tokenUserId_bind accepted nonempty failed fun userId names => ?_
    have form : avatarForm sys req = some text := by simp [avatarForm, parsed, read]
    exact absurd (refused userId text names form) fits

end Runs

end UserHandler

/-! ### When an update is all or nothing -/

section Updates

open UserHandler

variable {sys : System} {env : Env} {req : HttpRequest} {userId : Int32} {w : World}

/-- An accepted update gets to the write, and the write or the close stores less than the whole
text. -/
def LosesBytes (sys : System) (env : Env) (w : World) (req : HttpRequest) : Prop :=
  ∃ userId text, caller sys env req = some userId ∧ avatarForm sys req = some text ∧
    text.utf8ByteSize ≤ 1024 * 1024 ∧ env.fsThrows 2 = false ∧
    (avatarsExist w = false → env.fsThrows 3 = false) ∧ env.opens (openCount w) = true ∧
    ∃ n < text.utf8ByteSize,
      env.writeFails (openCount w + 1) = some n ∨ env.closeFails (openCount w + 2) = some n

theorem stored_eq_iff {text : String} : stored env w text = text.toUTF8 ↔
    ¬∃ n < text.utf8ByteSize,
      env.writeFails (openCount w + 1) = some n ∨ env.closeFails (openCount w + 2) = some n := by
  rw [stored, keptBytes_keptBytes_eq_iff, keptBytes_eq_iff, keptBytes_eq_iff]
  constructor
  · rintro ⟨written, closed⟩ ⟨n, short, fails | fails⟩
    · exact absurd (written n fails) (Nat.not_le.mpr short)
    · exact absurd (closed n fails) (Nat.not_le.mpr short)
  · intro whole
    constructor
    · intro n fails
      exact Nat.le_of_not_lt fun short => whole ⟨n, short, .inl fails⟩
    · intro n fails
      exact Nat.le_of_not_lt fun short => whole ⟨n, short, .inr fails⟩

theorem fromUTF8?_eq_some {data : ByteArray} {text : String} :
    String.fromUTF8? data = some text ↔ data = text.toUTF8 := by
  unfold String.fromUTF8?
  split
  next valid =>
    rw [Option.some.injEq]
    constructor
    · rintro rfl
      rfl
    · rintro rfl
      rfl
  next invalid =>
    simp only [reduceCtorEq, false_iff]
    rintro rfl
    exact invalid text.isValidUTF8

/-- A read of a file that is there returns a text exactly when the file holds its bytes. -/
theorem avatarRead_eq_iff (works : env.FilesWork) {version : Nat} {isDirectory : Bool}
    {data : ByteArray} {text : String} :
    avatarRead env version isDirectory (some data) = avatarAnswer version text ↔
      data = text.toUTF8 := by
  simp only [avatarRead, works.exists? 2, works.opens 3, Option.isSome_some, Bool.or_true,
    Bool.and_true, Bool.not_true, Bool.false_eq_true, if_false, Option.getD_some]
  rw [← fromUTF8?_eq_some]
  cases String.fromUTF8? data with
  | none => simp [avatarAnswer, buildErrorResponse, buildSuccessResponse]
  | some other => simp [avatarAnswer, buildSuccessResponse]

theorem avatarPath_ne_directory (userId : Int32) : avatarPath userId ≠ avatarDirectory := by
  intro equal
  have lengths := congrArg String.length equal
  simp only [avatarPath, String.length_append] at lengths
  have separator : "/".length = 1 := rfl
  omega

@[simp] theorem withDirectory_files (w : World) : (withDirectory w).files = w.files := by
  rw [withDirectory]
  split <;> rfl

theorem contains_withDirectory (w : World) (userId : Int32) :
    (withDirectory w).directories.contains (avatarPath userId) =
      w.directories.contains (avatarPath userId) := by
  rw [withDirectory]
  split
  · rfl
  · rw [List.contains_cons, beq_false_of_ne (avatarPath_ne_directory userId), Bool.false_or]

/-- Making the directory is not seen by a read. -/
theorem read_withDirectory {env' : Env} {get : HttpRequest}
    (names : caller sys env' get = some userId) (w : World) :
    (runProg sys env' (handleGetAvatar sys get) (withDirectory w)).1 =
      (runProg sys env' (handleGetAvatar sys get) w).1 := by
  rw [run_handleGetAvatar names, run_handleGetAvatar names, contains_withDirectory,
    withDirectory_files]

/-- An update that is turned down leaves nothing behind but perhaps the directory. -/
theorem allOrNothing_of_failed {res : HttpResponse} {after : World} (status : res.status ≠ .ok)
    (unchanged : after = w ∨ after = withDirectory w) :
    AllOrNothingUpdate sys env w req (.ok res, after) where
  answers := ⟨res, rfl⟩
  stores other equal accepted := by
    cases equal
    exact absurd accepted status
  keeps other equal _ env' get userId names := by
    rcases unchanged with rfl | rfl
    · rfl
    · exact read_withDirectory names w

/-- An update that is answered 200 is all or nothing exactly if its file holds the text. -/
theorem allOrNothing_of_saved {res : HttpResponse} {after : World} {data : ByteArray}
    {text : String} (status : res.status = .ok) (names : caller sys env req = some userId)
    (form : avatarForm sys req = some text) (file : after.files (avatarPath userId) = some data) :
    AllOrNothingUpdate sys env w req (.ok res, after) ↔ data = text.toUTF8 := by
  constructor
  · intro whole
    obtain ⟨userId', text', names', form', reads⟩ := whole.stores res rfl status
    cases Option.some.inj (names.symm.trans names')
    cases Option.some.inj (form.symm.trans form')
    -- The same request reads the avatar back.
    let calm : Env := { env with fsThrows := fun _ => false, opens := fun _ => true }
    have works : calm.FilesWork := ⟨fun _ => rfl, fun _ => rfl⟩
    have named : caller sys calm req = some userId := names
    have read := reads calm req works named
    rw [run_handleGetAvatar named, file, Except.ok.injEq] at read
    exact (avatarRead_eq_iff works).mp read
  · rintro rfl
    refine ⟨⟨res, rfl⟩, ?_, ?_⟩
    · intro other _ _
      refine ⟨userId, text, names, form, fun env' get works named => ?_⟩
      rw [run_handleGetAvatar named, file, Except.ok.injEq]
      exact (avatarRead_eq_iff works).mpr rfl
    · rintro other ⟨⟩ failed
      exact absurd status failed

/-- An update that gets to the write is all or nothing exactly if no byte is lost. -/
theorem allOrNothing_of_opens {text : String} (names : caller sys env req = some userId)
    (form : avatarForm sys req = some text) (fits : text.utf8ByteSize ≤ 1024 * 1024)
    (looked : env.fsThrows 2 = false) (created : avatarsExist w = false → env.fsThrows 3 = false)
    (opened : env.opens (openCount w) = true) :
    AllOrNothingUpdate sys env w req (runProg sys env (handleUpdateAvatar sys req) w) ↔
      ¬∃ n < text.utf8ByteSize,
        env.writeFails (openCount w + 1) = some n ∨ env.closeFails (openCount w + 2) = some n := by
  have calm : (env.fsThrows 2 || (!avatarsExist w && env.fsThrows 3)) = false := by
    rw [looked, Bool.false_or]
    cases exist : avatarsExist w with
    | true => rfl
    | false => rw [created exist, Bool.and_false]
  rw [run_handleUpdateAvatar names form fits, avatarUpdate, calm, if_neg Bool.false_ne_true,
    if_pos opened, allOrNothing_of_saved (by simp) names form (Function.update_self ..),
    stored_eq_iff]

/-- One that does not get there is turned down. -/
theorem allOrNothing_of_not_opens {text : String} (names : caller sys env req = some userId)
    (form : avatarForm sys req = some text) (fits : text.utf8ByteSize ≤ 1024 * 1024)
    (fails : ¬(env.fsThrows 2 = false ∧ (avatarsExist w = false → env.fsThrows 3 = false) ∧
      env.opens (openCount w) = true)) :
    AllOrNothingUpdate sys env w req (runProg sys env (handleUpdateAvatar sys req) w) := by
  rw [run_handleUpdateAvatar names form fits, avatarUpdate]
  split
  next => exact allOrNothing_of_failed (by simp) (.inl rfl)
  next calm =>
    simp only [Bool.or_eq_true, Bool.and_eq_true, Bool.not_eq_true', not_or, not_and,
      Bool.not_eq_true] at calm
    rw [if_neg fun opened => fails ⟨calm.1, calm.2, opened⟩]
    exact allOrNothing_of_failed (by simp) (.inr rfl)

/-- An update of an avatar is all or nothing exactly when it does not get to store a part of the
text only. -/
theorem avatarUpdate_allOrNothing_iff (sys : System) (env : Env) (w : World) (req : HttpRequest) :
    AllOrNothingUpdate sys env w req (runProg sys env (handleUpdateAvatar sys req) w) ↔
      ¬LosesBytes sys env w req := by
  by_cases accepted : ∃ userId text, caller sys env req = some userId ∧
      avatarForm sys req = some text ∧ text.utf8ByteSize ≤ 1024 * 1024
  · -- Only an update whose file was opened can lose bytes.
    obtain ⟨userId, text, names, form, fits⟩ := accepted
    by_cases opens : env.fsThrows 2 = false ∧ (avatarsExist w = false → env.fsThrows 3 = false) ∧
        env.opens (openCount w) = true
    · obtain ⟨looked, created, opened⟩ := opens
      rw [allOrNothing_of_opens names form fits looked created opened]
      refine not_congr ⟨fun short => ⟨userId, text, names, form, fits, looked, created, opened,
        short⟩, ?_⟩
      rintro ⟨_, other, -, same, -, -, -, -, short⟩
      cases Option.some.inj (form.symm.trans same)
      exact short
    · apply iff_of_true (allOrNothing_of_not_opens names form fits opens)
      rintro ⟨-, -, -, -, -, looked, created, opened, -⟩
      exact opens ⟨looked, created, opened⟩
  · refine iff_of_true ?_ ?_
    · -- Everything else is answered with an error and changes nothing.
      have refused : ∀ userId text, caller sys env req = some userId →
          avatarForm sys req = some text → 1024 * 1024 < text.utf8ByteSize :=
        fun userId text names form => Nat.lt_of_not_le fun fits =>
          accepted ⟨userId, text, names, form, fits⟩
      have refusal : (handleUpdateAvatar sys req).Wp (Step sys env)
          (fun result after => ∃ res, result = .ok res ∧ res.status ≠ .ok ∧ after = w) w :=
        wp_handleUpdateAvatar_refused refused
      obtain ⟨res, result, status, same⟩ := runProg_of_wp refusal
      have whole : AllOrNothingUpdate sys env w req
          (.ok res, (runProg sys env (handleUpdateAvatar sys req) w).2) :=
        allOrNothing_of_failed status (.inl same)
      rw [← result] at whole
      exact whole
    · rintro ⟨userId, text, names, form, fits, -⟩
      exact accepted ⟨userId, text, names, form, fits⟩

end Updates

section Sample

open Reference UserHandler

/-- An update of bob's avatar. -/
def postAvatar (text : String) : HttpRequest :=
  request .post "/users/avatar" [("avatar_data", text)] tokenOfBob

/-- A server on which bob has an avatar. -/
def withAvatar (text : String) : World where
  directories := [avatarDirectory]
  files := Function.update (fun _ => none) (avatarPath 1) (some text.toUTF8)

/-- A disk that is full after one byte. -/
def fullDisk : Env := { env 0 with writeFails := fun _ => some 1 }

/-- The update is answered 200, the earlier avatar is gone and of the new one there is only one
byte. -/
theorem avatarUpdate_partial : ¬∀ (sys : System) (env : Env) (w : World) (req : HttpRequest),
    AllOrNothingUpdate sys env w req (runProg sys env (handleUpdateAvatar sys req) w) := by
  intro claimed
  have names : caller system fullDisk (postAvatar "new") = some 1 := by decide +kernel
  have form : avatarForm system (postAvatar "new") = some "new" := by decide +kernel
  have whole := claimed system fullDisk (withAvatar "old") (postAvatar "new")
  rw [allOrNothing_of_opens names form (by decide) rfl (fun _ => rfl) rfl] at whole
  exact whole ⟨1, by decide, .inl rfl⟩

end Sample

end MusicPlayer
