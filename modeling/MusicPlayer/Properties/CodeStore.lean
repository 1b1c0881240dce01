import MusicPlayer.Relational.Journal
import MusicPlayer.Server.VerifyService
import MusicPlayer.Reference

/-!
# The verification store refines its history

What `VerifyService` answers is determined by the journal of delivered mails: an address is
judged by the latest mail to it. The map `m_codes` is a cache of that journal, and the
cleanup forgets only what could no longer be accepted.
-/
namespace MusicPlayer

open Resumption Program Relational

/-- A delivered mail, with the time at which its code was stored. -/
structure Sent where
  email : String
  action : String
  code : String
  storedAt : Time
  deriving DecidableEq, Repr

/-- The entry `sendVerifyCode` stores for a mail. -/
def Sent.info (sys : System) (sent : Sent) : VerifyInfo :=
  ⟨sent.code, sent.storedAt + seconds sys.codeExpiry.toInt, sent.action⟩

/-- The mail that `sendVerifyCode` delivers under an environment, if it does. -/
def mailed? (env : Env) (email action : String) : Option Sent :=
  if env.mailed then
    some ⟨email, action, EmailUtil.drawnCode env.digit "" 0 6, env.clock .sendVerifyCode⟩
  else none

/-- The latest mail to an address in a journal, newest first. -/
def latestSent (journal : List Sent) (email : String) : Option Sent :=
  latest Sent.email journal email

/-- The map holds nothing but the latest mail of an address, and may have lost it once it
was `expired`. -/
def CodesReflect (sys : System) (expired : VerifyInfo → Prop) (codes : CodeStore)
    (journal : List Sent) : Prop :=
  Reflects Sent.email (Sent.info sys) expired codes.info? journal

def CodeStore.record (sys : System) (codes : CodeStore) (sent : Option Sent) : CodeStore :=
  match sent with
  | some sent => codes.assign sent.email (sent.info sys)
  | none => codes

/-! ### What the functions do -/

section Rules

variable {sys : System} {env : Env} {w : World}

theorem wp_generateLoop (code : String) (i left : Nat) (post : Except Exn String → World → Prop) :
    (EmailUtil.generateLoop code i left).Wp (Step sys env) post w ↔
      post (.ok (EmailUtil.drawnCode env.digit code i left)) w := by
  induction left generalizing code i with
  | zero => rfl
  | succ left ih =>
    simp only [EmailUtil.generateLoop, EmailUtil.drawnCode, trigger, bind_eq, act_bind, ret_bind,
      wp_uniformDigit, ih]

theorem wp_sendTextEmail (email subject body : String) (post : Except Exn Bool → World → Prop) :
    (EmailUtil.sendTextEmail sys email subject body).Wp (Step sys env) post w ↔
      post (.ok env.mailed) w := by
  simp only [EmailUtil.sendTextEmail, trigger, bind_eq, act_bind, ret_bind, wp_curlInit,
    Env.mailed]
  cases env.curlInit with
  | false => rfl
  | true => simp

/-- A code is stored exactly when its mail was delivered. -/
theorem wp_sendVerifyCode (email action : String) (post : Except Exn Bool → World → Prop) :
    (VerifyService.sendVerifyCode sys email action).Wp (Step sys env) post w ↔
      post (.ok env.mailed)
        { w with codes := w.codes.record sys (mailed? env email action) } := by
  simp only [VerifyService.sendVerifyCode, EmailUtil.generateVerificationCode, bind_eq, wp_bind,
    wp_generateLoop, wp_sendTextEmail, mailed?]
  cases delivered : env.mailed with
  | false => simp [CodeStore.record]
  | true => simp [trigger, CodeStore.record, Sent.info]

/-- The answer of `verifyCode` on the entry that the map holds. -/
def judge (entry : Option VerifyInfo) (now : Time) (action code : String) : Bool :=
  entry.any fun info => VerifyService.accepts info now action code

theorem wp_verifyCode (email action code : String) (post : Except Exn Bool → World → Prop) :
    (VerifyService.verifyCode email action code).Wp (Step sys env) post w ↔
      post (.ok (judge (w.codes.info? email) (env.clock .verifyCode) action code)) w := by
  simp only [VerifyService.verifyCode, trigger, bind_eq, act_bind, ret_bind, wp_findCode]
  cases found : w.codes.find email with
  | none => rw [CodeStore.find_eq_none.mp found]; rfl
  | some ptr =>
    -- Nothing runs between the lookup and the read, so the pointer is still good.
    simp only [wp_now, wp_derefCode, CodeStore.deref_of_find found]
    cases stored : w.codes.info? email with
    | none =>
      rw [CodeStore.find_eq_none.mpr stored] at found
      cases found
    | some info => simp [judge]

theorem wp_cleanupExpiredCodes (post : Except Exn Nat → World → Prop) :
    VerifyService.cleanupExpiredCodes.Wp (Step sys env) post w ↔
      post (.ok (w.codes.cleanup (env.clock .cleanupExpiredCodes)).1)
        { w with codes := (w.codes.cleanup (env.clock .cleanupExpiredCodes)).2 } := by
  simp [VerifyService.cleanupExpiredCodes, trigger]

end Rules

theorem accepts_iff {info : VerifyInfo} {now : Time} {action code : String} :
    VerifyService.accepts info now action code = true ↔
      info.action = action ∧ info.code = code ∧ now ≤ info.expireTime := by
  simp only [VerifyService.accepts, Bool.not_eq_true', Bool.or_eq_false_iff,
    decide_eq_false_iff_not, not_lt, bne_eq_false_iff_eq]
  tauto

theorem judge_iff {entry : Option VerifyInfo} {now : Time} {action code : String} :
    judge entry now action code = true ↔ ∃ info, entry = some info ∧ info.action = action ∧
      info.code = code ∧ now ≤ info.expireTime := by
  cases entry with
  | none => simp [judge]
  | some info => simp [judge, accepts_iff]

/-! ### The map reflects the journal -/

namespace CodesReflect

variable {sys : System} {expired : VerifyInfo → Prop} {codes : CodeStore} {journal : List Sent}

theorem empty : CodesReflect sys expired {} [] := Reflects.empty

theorem record (reflects : CodesReflect sys expired codes journal) (sent : Option Sent) :
    CodesReflect sys expired (codes.record sys sent) (sent.toList ++ journal) := by
  cases sent with
  | none => exact reflects
  | some sent => exact Reflects.write reflects sent fun email => codes.info?_assign _ _ _

theorem cleanup (reflects : CodesReflect sys expired codes journal) {now : Time}
    (dropped : ∀ info : VerifyInfo, info.expireTime < now → expired info) :
    CodesReflect sys expired (codes.cleanup now).2 journal :=
  Reflects.evict reflects (codes.info?_cleanup now) fun info gone =>
    dropped info (by simpa using gone)

/-- A code is accepted on the strength of the latest mail to the address. -/
theorem sent_of_judge (reflects : CodesReflect sys expired codes journal) {now : Time}
    {email action code : String} (accepted : judge (codes.info? email) now action code = true) :
    ∃ sent, latestSent journal email = some sent ∧ sent.action = action ∧ sent.code = code ∧
      now ≤ sent.storedAt + seconds sys.codeExpiry.toInt := by
  obtain ⟨info, stored, sameAction, sameCode, alive⟩ := judge_iff.mp accepted
  obtain ⟨sent, newest, rfl⟩ := Reflects.latest_of_view reflects stored
  exact ⟨sent, newest, sameAction, sameCode, alive⟩

end CodesReflect

/-! ### Calls of the service -/

namespace VerifyService

/-- The public functions of the service. -/
inductive Call where
  | sendVerifyCode (email action : String)
  | verifyCode (email action code : String)
  | cleanupExpiredCodes
  deriving DecidableEq, Repr

namespace Call

/-- The function it calls; `some` is the answer of a function that returns `bool`. -/
def program (sys : System) : Call → Prog (Option Bool)
  | sendVerifyCode email action => do
    return some (← VerifyService.sendVerifyCode sys email action)
  | verifyCode email action code => do
    return some (← VerifyService.verifyCode email action code)
  | cleanupExpiredCodes => do
    let _ ← VerifyService.cleanupExpiredCodes
    return none

/-- The clock reading a call makes. -/
def site : Call → ClockRead
  | sendVerifyCode .. => .sendVerifyCode
  | verifyCode .. => .verifyCode
  | cleanupExpiredCodes => .cleanupExpiredCodes

/-- The mail a call delivers. -/
def sent? (env : Env) : Call → Option Sent
  | sendVerifyCode email action => mailed? env email action
  | _ => none

end Call

/-- A sequence of calls, newest first, each with its environment. -/
abbrev History := List (Call × Env)

def History.world (sys : System) (start : World) : History → World
  | [] => start
  | (call, env) :: earlier =>
    (runProg sys env (call.program sys) (History.world sys start earlier)).2

/-- The mails that were delivered. Everything else about the history is left out. -/
def History.journal : History → List Sent
  | [] => []
  | (call, env) :: earlier => (call.sent? env).toList ++ History.journal earlier

def time (entry : Call × Env) : Time := entry.2.clock entry.1.site

/-- The clock does not run backwards from one call to the next. -/
def History.Ordered (history : History) : Prop :=
  history.Pairwise fun later earlier => time earlier ≤ time later

/-- What `verifyCode` answers after a history. -/
def History.answer (sys : System) (start : World) (history : History) (env : Env)
    (email action code : String) : Except Exn Bool :=
  (runProg sys env (VerifyService.verifyCode email action code) (history.world sys start)).1

theorem answer_eq_judge (sys : System) (start : World) (history : History) (env : Env)
    (email action code : String) :
    history.answer sys start env email action code =
      .ok (judge ((history.world sys start).codes.info? email) (env.clock .verifyCode) action
        code) := by
  have wp : (VerifyService.verifyCode email action code).Wp (Step sys env)
      (fun result _ => result = .ok (judge ((history.world sys start).codes.info? email)
        (env.clock .verifyCode) action code)) (history.world sys start) :=
    (wp_verifyCode ..).mpr rfl
  exact runProg_of_wp wp

/-- One call keeps the map a cache of the journal. -/
theorem codesReflect_step {sys : System} {bound : Time} {w : World} {journal : List Sent}
    (reflects : CodesReflect sys (·.expireTime < bound) w.codes journal) (call : Call) (env : Env)
    (before : time (call, env) ≤ bound) :
    CodesReflect sys (·.expireTime < bound) (runProg sys env (call.program sys) w).2.codes
      ((call.sent? env).toList ++ journal) := by
  have wp : (call.program sys).Wp (Step sys env) (fun _ after =>
      CodesReflect sys (·.expireTime < bound) after.codes
        ((call.sent? env).toList ++ journal)) w := by
    -- A new code is the latest mail of its address, and only expired ones are erased.
    cases call with
    | sendVerifyCode email action =>
      simp only [Call.program, bind_eq, wp_bind, wp_sendVerifyCode, pure_eq, wp_ret]
      exact reflects.record _
    | verifyCode email action code =>
      simp only [Call.program, bind_eq, wp_bind, wp_verifyCode, pure_eq, wp_ret]
      exact reflects
    | cleanupExpiredCodes =>
      simp only [Call.program, bind_eq, wp_bind, wp_cleanupExpiredCodes, pure_eq, wp_ret]
      exact reflects.cleanup fun info gone => lt_of_lt_of_le gone before
  exact runProg_of_wp wp

/-- After any history whose calls lie before `bound`, the map is a cache of the journal that
has lost at most what had expired by then. -/
theorem codesReflect_world (sys : System) {start : World} (fresh : start.codes = {})
    {bound : Time} (history : History) (before : ∀ entry ∈ history, time entry ≤ bound) :
    CodesReflect sys (·.expireTime < bound) (history.world sys start).codes history.journal := by
  induction history with
  | nil =>
    rw [History.world, fresh]
    exact CodesReflect.empty
  | cons entry earlier ih =>
    obtain ⟨call, env⟩ := entry
    have reflects := ih fun entry member => before entry (List.mem_cons_of_mem _ member)
    exact codesReflect_step reflects call env (before _ (List.mem_cons_self ..))

/-- `verifyCode` answers from the latest delivered mail to the address, and from nothing
else: histories with the same delivered mails get the same answers. -/
theorem verifyCode_refines_journal {sys : System} {start : World} (fresh : start.codes = {})
    (history : History) (env : Env) (email action code : String)
    (ordered : History.Ordered ((.verifyCode email action code, env) :: history)) :
    (∃ answer, history.answer sys start env email action code = .ok answer ∧
      (answer = true ↔ ∃ sent, latestSent history.journal email = some sent ∧
        sent.action = action ∧ sent.code = code ∧
        env.clock .verifyCode ≤ sent.storedAt + seconds sys.codeExpiry.toInt)) ∧
    ∀ other : History, other.journal = history.journal →
      History.Ordered ((.verifyCode email action code, env) :: other) →
      other.answer sys start env email action code =
        history.answer sys start env email action code := by
  -- The answer is a function of the journal, so equal journals have equal answers.
  have refines (calls : History)
      (ordered : History.Ordered ((.verifyCode email action code, env) :: calls)) :
      judge ((calls.world sys start).codes.info? email) (env.clock .verifyCode) action code = true ↔
        ∃ sent, latestSent calls.journal email = some sent ∧ sent.action = action ∧
          sent.code = code ∧
          env.clock .verifyCode ≤ sent.storedAt + seconds sys.codeExpiry.toInt := by
    have reflects := codesReflect_world sys fresh calls (List.pairwise_cons.mp ordered).1
    constructor
    · exact reflects.sent_of_judge
    · rintro ⟨sent, newest, sameAction, sameCode, alive⟩
      have held := Reflects.view_of_latest reflects newest (not_lt.mpr alive)
      exact judge_iff.mpr ⟨_, held, sameAction, sameCode, alive⟩
  refine ⟨⟨_, answer_eq_judge .., refines history ordered⟩, ?_⟩
  intro other sameJournal otherOrdered
  rw [answer_eq_judge, answer_eq_judge, Except.ok.injEq, Bool.eq_iff_iff,
    refines other otherOrdered, refines history ordered, sameJournal]

/-- A code is still accepted at the instant of its expiry, after a cleanup at that instant. -/
theorem verifyCode_at_expiry :
    let calls : History := [(.cleanupExpiredCodes, Reference.env (seconds 300)),
      (.sendVerifyCode "a@b.c" "register", Reference.env 0)]
    ∃ answer, calls.answer Reference.system {} (Reference.env (seconds 300)) "a@b.c" "register"
        "000000" = .ok answer ∧
      (answer = true ↔ ∃ sent, latestSent calls.journal "a@b.c" = some sent ∧
        sent.action = "register" ∧ sent.code = "000000" ∧
        seconds 300 ≤ sent.storedAt + seconds 300) :=
  (verifyCode_refines_journal rfl _ (Reference.env (seconds 300)) "a@b.c" "register" "000000"
    (by simp [History.Ordered, time, Call.site, Reference.env, seconds])).1

end VerifyService

end MusicPlayer
