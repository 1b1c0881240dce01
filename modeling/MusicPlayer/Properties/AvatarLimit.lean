import MusicPlayer.Server.Session
import MusicPlayer.Properties.AvatarUpdates

/-!
# The limit on an avatar

The handler compares the text of an avatar with 1 MiB and has a message for a longer one. The
parser in front of it has a limit of the same number on the whole body, in which the text is
written as JSON. So a request whose body is over the limit is not answered at all.
-/
namespace MusicPlayer

open Resumption Program JsonUtil UserHandler Connection

/-- The answer to a text that is too long. -/
def tooLong (version : Nat) : HttpResponse :=
  buildErrorResponse .badRequest version "Avatar data requires not more than 1MB"

/-- The session answers an update with 200 up to 1 MiB, and with the message beyond. -/
structure LimitAsStated (c : Connection) (version : Nat) (text : String) : Prop where
  accepts : text.utf8ByteSize ≤ 1024 * 1024 →
    ∃ res, c.session.pending = .write res ∧ res.status = .ok
  rejects : 1024 * 1024 < text.utf8ByteSize → c.session.pending = .write (tooLong version)

section Limit

variable {sys : System} {what : Exn → String} {env : Env} {c d : Connection} {w : World}
  {req : HttpRequest} {rest : List HttpRequest} {userId : Int32} {text : String}

/-- A session that waits for a request has a blank message to read it into. -/
def Fresh (c : Connection) : Prop := c.session.pending = .read → c.session.request = .blank

theorem Fresh.move (fresh : Fresh c) (move : LimitedMove sys what c d) : Fresh d := by
  cases move with
  | read receives =>
    obtain ⟨-, rest, -, rfl⟩ := receives
    intro pending
    rw [asyncReadDone] at pending
    split at pending
    · simp only [readDone, Session.doWrite] at pending
      split at pending <;> cases pending
    · cases pending
  | write => exact fun _ => rfl
  | arrive => exact fresh
  | hangUp => rintro ⟨⟩
  | others => exact fresh

theorem Fresh.run (run : Relation.ReflTransGen (LimitedMove sys what) { world := w } c) :
    Fresh c := by
  induction run with
  | refl => exact fun _ => rfl
  | tail _ move ih => exact ih.move move

/-- The handler turns down a text that is too long, before it looks at the file system. -/
theorem run_handleUpdateAvatar_tooLong (names : caller sys env req = some userId)
    (form : avatarForm sys req = some text) (long : 1024 * 1024 < text.utf8ByteSize) (w : World) :
    runProg sys env (handleUpdateAvatar sys req) w = (.ok (tooLong req.version), w) := by
  obtain ⟨accepted, nonempty, -⟩ := caller_eq_some.mp names
  obtain ⟨j, parsed, read⟩ := Option.bind_eq_some_iff.mp form
  have contains := Json.contains_of_string? read
  rw [runProg, handleUpdateAvatar, run_catching, bind_eq, run_verifyToken accepted]
  simp only [nonempty, Bool.false_eq_true, if_false, bind_eq, parseBody, parsed, ret_bind,
    contains, Bool.not_true, stringField, read, gt_iff_lt, long, if_true, pure_eq, Program.run]
  rfl

/-- One that is not too long is stored, if nothing fails. -/
theorem run_handleUpdateAvatar_calm (calm : env.FilesNeverFail)
    (names : caller sys env req = some userId) (form : avatarForm sys req = some text)
    (fits : text.utf8ByteSize ≤ 1024 * 1024) (w : World) :
    (runProg sys env (handleUpdateAvatar sys req) w).1 =
      .ok (buildSuccessResponse req.version (success "Avatar updated successfully")) := by
  rw [run_handleUpdateAvatar names form fits]
  simp [avatarUpdate, calm.fsThrows, calm.opens]

/-- A body within the limit reaches the handler, and the session is about to write its answer. -/
theorem pending_of_fits (fresh : c.session.request = .blank) (route : routeOf req = .updateAvatar)
    (fits : req.body.utf8ByteSize ≤ bodyLimit) {res : HttpResponse}
    (answer : (runProg sys env (handleUpdateAvatar sys req) c.world).1 = .ok res) :
    (c.asyncReadDone sys what env req rest).session.pending = .write res := by
  have routed : (setupRoutes sys).handleRouter req = handleUpdateAvatar sys req :=
    handleRouter_eq rfl route
  have result : (exchange sys env c.world req).result = .ok res := by
    rw [exchange, serve, routed]
    exact answer
  rw [asyncReadDone, if_pos fits]
  simp only [readDone, fresh, HttpRequest.fill_blank, result, Session.handleRequest,
    Session.doWrite]

/-- A valid update that a session receives is answered as the limit has it, exactly when its body
as a whole is within the limit of the parser. -/
theorem avatarLimit_iff (run : Relation.ReflTransGen (LimitedMove sys what) { world := w } c)
    (receives : Receives sys what env req c d) (route : routeOf req = .updateAvatar)
    (names : caller sys env req = some userId)
    (body : sys.parse req.body = some (.object [("avatar_data", .string text)]))
    (calm : env.FilesNeverFail) :
    LimitAsStated d req.version text ↔ req.body.utf8ByteSize ≤ bodyLimit := by
  obtain ⟨waits, rest, -, rfl⟩ := receives
  have form : avatarForm sys req = some text := by
    rw [avatarForm, body]
    rfl
  constructor
  · intro stated
    -- A body beyond the limit ends the session, so neither answer is given.
    by_contra exceeds
    have ended : (c.asyncReadDone sys what env req rest).session.pending = .ended := by
      rw [asyncReadDone, if_neg exceeds]
    by_cases fits : text.utf8ByteSize ≤ 1024 * 1024
    · obtain ⟨res, answers, -⟩ := stated.accepts fits
      rw [ended] at answers
      cases answers
    · have answers := stated.rejects (by omega)
      rw [ended] at answers
      cases answers
  · intro fits
    have fresh := Fresh.run run waits
    constructor
    · intro short
      exact ⟨_, pending_of_fits fresh route fits
        (run_handleUpdateAvatar_calm calm names form short c.world), rfl⟩
    · intro long
      apply pending_of_fits fresh route fits
      rw [run_handleUpdateAvatar_tooLong names form long]

end Limit

section Sample

open Reference

/-- A session that waits for a request, which has arrived. -/
def awaiting (req : HttpRequest) : Connection := { world := {}, unread := [req], arrived := [req] }

theorem awaiting_run (req : HttpRequest) :
    Relation.ReflTransGen (LimitedMove system fun _ => "") { world := {} } (awaiting req) :=
  .single (.arrive _ req)

theorem postAvatar_named (text : String) : caller system (env 0) (postAvatar text) = some 1 := by
  have fields : caller system (env 0) (postAvatar text) =
      caller system (env 0) (postAvatar "new") := rfl
  rw [fields]
  decide +kernel

theorem postAvatar_parse {text : String} (plain : '"' ∉ text.toList) :
    system.parse (postAvatar text).body = some (.object [("avatar_data", .string text)]) :=
  parse_object (by decide) plain

theorem avatarLimit_iff_new : LimitAsStated
      ((awaiting (postAvatar "new")).asyncReadDone system (fun _ => "") (env 0) (postAvatar "new")
        []) 11 "new" ↔ (postAvatar "new").body.utf8ByteSize ≤ bodyLimit :=
  avatarLimit_iff (awaiting_run (postAvatar "new")) ⟨rfl, [], rfl, rfl⟩ rfl
    (postAvatar_named "new") (postAvatar_parse (by decide)) (env_filesNeverFail 0)

/-- Letters, as many as there are bytes. -/
def letters (n : Nat) : String := String.ofList (List.replicate n 'a')

theorem size_letters (n : Nat) : (letters n).utf8ByteSize = n := by
  induction n with
  | zero => rfl
  | succ n ih =>
    rw [letters] at ih
    rw [letters, List.replicate_succ, String.ofList_cons, String.utf8ByteSize_append, ih]
    have one : (String.singleton 'a').utf8ByteSize = 1 := rfl
    omega

theorem plain_letters (n : Nat) : '"' ∉ (letters n).toList := by
  intro member
  rw [letters, String.toList_ofList, List.mem_replicate] at member
  exact absurd member.2 (by decide)

/-- A text of 1 MiB makes a body that is longer, so its request is not answered. -/
theorem avatarLimit_unanswered : ¬∀ (sys : System) (what : Exn → String) (env : Env) (w : World)
    (c d : Connection) (req : HttpRequest) (userId : Int32) (text : String),
    Relation.ReflTransGen (LimitedMove sys what) { world := w } c →
    Receives sys what env req c d → routeOf req = .updateAvatar →
    caller sys env req = some userId →
    sys.parse req.body = some (.object [("avatar_data", .string text)]) → env.FilesNeverFail →
    LimitAsStated d req.version text := by
  intro stated
  have size := size_letters (1024 * 1024)
  have plain := plain_letters (1024 * 1024)
  generalize letters (1024 * 1024) = text at size plain
  have whole := stated system (fun _ => "") (env 0) {} _ _ (postAvatar text) 1 text
    (awaiting_run (postAvatar text)) ⟨rfl, [], rfl, rfl⟩ rfl (postAvatar_named text)
    (postAvatar_parse plain) (env_filesNeverFail 0)
  obtain ⟨res, answers, -⟩ := whole.accepts (by omega)
  have body : (postAvatar text).body.utf8ByteSize =
      "avatar_data".utf8ByteSize + text.utf8ByteSize + 7 := size_object "avatar_data" text
  rw [asyncReadDone, if_neg (by rw [body, bodyLimit]; omega)] at answers
  cases answers

end Sample

end MusicPlayer
