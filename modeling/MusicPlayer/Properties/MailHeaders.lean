import MusicPlayer.Messages.HeaderLines
import MusicPlayer.Properties.Interference
import MusicPlayer.Properties.Requests

/-!
# The headers of a mail

The address of a mail is text that any client sends. It matches a regular expression by then, so
it cannot end its header line, and a reader of the mail finds three headers and the body.
-/
namespace MusicPlayer

open Resumption Program Messages

/-! ## What the regular expression matches -/

section Matches

open UserHandler RegularExpression

variable {chars s : List Char}

theorem mem_anyOf : s ∈ (anyOf chars).matches' ↔ ∃ c ∈ chars, s = [c] := by
  induction chars with
  | nil => simp [anyOf]
  | cons c chars ih =>
    rw [anyOf] at ih
    simp only [anyOf, List.foldr_cons, matches'_add, Language.mem_add, ih, matches'_char,
      List.mem_cons, exists_eq_or_imp]
    exact Iff.rfl

/-- One or more of the characters. -/
theorem mem_oneOrMore (matched : s ∈ (oneOrMore (anyOf chars)).matches') :
    s ≠ [] ∧ ∀ c ∈ s, c ∈ chars := by
  rw [oneOrMore, matches'_mul, matches'_star, Language.mem_mul] at matched
  obtain ⟨first, one, rest, more, rfl⟩ := matched
  obtain ⟨c, known, rfl⟩ := mem_anyOf.mp one
  obtain ⟨parts, rfl, each⟩ := Language.mem_kstar.mp more
  refine ⟨by simp, ?_⟩
  intro d member
  rcases List.mem_append.mp member with member | member
  · simpa [List.mem_singleton.mp member] using known
  · obtain ⟨part, inside, here⟩ := List.mem_flatten.mp member
    obtain ⟨e, known, rfl⟩ := mem_anyOf.mp (each part inside)
    simpa [List.mem_singleton.mp here] using known

/-- The parts of an address that the expression matches. -/
theorem parts_of_isValidEmail {email : String} (valid : isValidEmail email = true) :
    ∃ before name host, email.toList = before ++ '@' :: (name ++ '.' :: host) ∧
      (∀ c ∈ before, c ∈ localChars) ∧ (name ≠ [] ∧ ∀ c ∈ name, c ∈ domainChars) ∧
      (host ≠ [] ∧ ∀ c ∈ host, c ∈ hostChars) := by
  rw [isValidEmail, rmatch_iff_matches', emailRegex] at valid
  simp only [matches'_mul, Language.mem_mul] at valid
  obtain ⟨_, ⟨_, ⟨_, ⟨before, first, _, rfl, rfl⟩, name, second, rfl⟩, _, rfl, rfl⟩, host, third,
    whole⟩ := valid
  refine ⟨before, name, host, by simp [← whole], (mem_oneOrMore first).2, mem_oneOrMore second,
    mem_oneOrMore third⟩

end Matches

/-- One `@`, and after it a dot with something on either side. Nothing ends a line, and nothing
separates two addresses. -/
structure Address (email : String) : Prop where
  oneAt : email.toList.count '@' = 1
  clean : ∀ c ∈ ['\r', '\n', ' ', ','], c ∉ email.toList
  dotted : ∃ before name host, email.toList = before ++ '@' :: (name ++ '.' :: host) ∧
    name ≠ [] ∧ host ≠ []

theorem address_of_isValidEmail {email : String} (valid : UserHandler.isValidEmail email = true) :
    Address email := by
  obtain ⟨before, name, host, parts, localPart, domain, rest⟩ := parts_of_isValidEmail valid
  -- A character outside all three classes is in no part of the address.
  have outside {c : Char} (c₁ : c ∉ UserHandler.localChars) (c₂ : c ∉ UserHandler.domainChars)
      (c₃ : c ∉ UserHandler.hostChars) : c ∉ before ∧ c ∉ name ∧ c ∉ host :=
    ⟨fun member => c₁ (localPart c member), fun member => c₂ (domain.2 c member),
      fun member => c₃ (rest.2 c member)⟩
  constructor
  · obtain ⟨b, n, h⟩ := @outside '@' (by decide) (by decide) (by decide)
    simp [parts, List.count_append, List.count_eq_zero_of_not_mem, b, n, h]
  · intro c listed
    have apart : c ∉ before ∧ c ∉ name ∧ c ∉ host := by
      simp only [List.mem_cons, List.not_mem_nil, or_false] at listed
      rcases listed with rfl | rfl | rfl | rfl <;> exact outside (by decide) (by decide) (by decide)
    have other : c ≠ '@' ∧ c ≠ '.' := by
      simp only [List.mem_cons, List.not_mem_nil, or_false] at listed
      rcases listed with rfl | rfl | rfl | rfl <;> decide
    simp [parts, apart, other]
  · exact ⟨before, name, host, parts, domain.1, rest.1⟩

/-! ## The mail of a request -/

/-- The address that a request for a code names. -/
def requestedEmail (sys : System) (req : HttpRequest) : Option String :=
  (sendForm sys req).map (·.email)

/-- The text of the mail of a request, with the code that it draws. -/
def generatedBody (env : Env) : String :=
  "Your verification code is: " ++ EmailUtil.drawnCode env.digit "" 0 6

/-- The mails that a request for a code hands to curl. -/
def mailsOf (sys : System) (env : Env) (req : HttpRequest) (w : World) : List Mail :=
  ((UserHandler.handleGetVerifyCode sys req).effects (exec sys env) 0 w).filterMap fun
    | .curlPerform mail => some mail
    | _ => none

/-- A reader of the mail finds the three headers and the body. -/
structure ReadsBack (sys : System) (email body : String) (mail : Mail) : Prop where
  recipient : mail.recipient = email
  split : ∃ head, splitEmptyLine mail.content.toList = some (head, body.toList) ∧
    lines head = [("To: " ++ email).toList, ("From: " ++ sys.emailFrom).toList,
      ("Subject: " ++ "Verification Code").toList]

section Mails

variable {sys : System} {env : Env} {w : World} {req : HttpRequest}

theorem composeMessage_toList (email subject body : String) :
    (EmailUtil.composeMessage sys email subject body).toList =
      message [("To: " ++ email).toList, ("From: " ++ sys.emailFrom).toList,
        ("Subject: " ++ subject).toList] body.toList := by
  have ends : "\r\n".toList = crlf := rfl
  have twice : "\r\n\r\n".toList = crlf ++ crlf := rfl
  simp [EmailUtil.composeMessage, message, List.intercalate_cons_cons, ends, twice]

theorem readsBack_composeMessage {email : String} (address : Address email)
    (sender : '\r' ∉ sys.emailFrom.toList) (body : String) :
    ReadsBack sys email body
      ⟨email, EmailUtil.composeMessage sys email "Verification Code" body⟩ := by
  have clean : ∀ line ∈ [("To: " ++ email).toList, ("From: " ++ sys.emailFrom).toList,
      ("Subject: " ++ "Verification Code").toList], HeaderLine line := by
    have noReturn : '\r' ∉ email.toList := address.clean '\r' (by simp)
    intro line member
    simp only [List.mem_cons, List.not_mem_nil, or_false] at member
    rcases member with rfl | rfl | rfl
    · exact ⟨by simp, by simp [noReturn]⟩
    · exact ⟨by simp, by simp [sender]⟩
    · exact ⟨by simp, by simp⟩
  refine ⟨rfl, _, ?_, lines_intercalate (by simp) clean⟩
  rw [composeMessage_toList, splitEmptyLine_message (by simp) clean]

/-- A mail is what `holds` says, if the effect delivers one. -/
def Mails (holds : Mail → Prop) (effect : Effect) : Prop :=
  ∀ mail, effect = .curlPerform mail → holds mail

/-- The judgment of a request served alone, on the mails that it delivers. -/
abbrev Delivers {α : Type} (sys : System) (env : Env) (holds : Mail → Prop) (prog : Prog α)
    (post : Except Exn α → World → Prop) (w : World) : Prop :=
  prog.Safe (Step sys env) (· = ·) (fun effect _ => Mails holds effect) post w

variable {holds : Mail → Prop}

theorem delivers_generateLoop (code : String) (i left : Nat)
    {post : Except Exn String → World → Prop}
    (drawn : post (.ok (EmailUtil.drawnCode env.digit code i left)) w) :
    Delivers sys env holds (EmailUtil.generateLoop code i left) post w := by
  induction left generalizing code i with
  | zero => exact drawn
  | succ left ih =>
    refine Safe.alone (by simp [Mails]) fun digit after stepped => ?_
    obtain ⟨count, performed⟩ := stepped
    cases performed
    exact ih _ _ drawn

theorem delivers_sendTextEmail {email subject body : String}
    (owed : holds ⟨email, EmailUtil.composeMessage sys email subject body⟩) :
    Delivers sys env holds (EmailUtil.sendTextEmail sys email subject body)
      (fun _ _ => True) w := by
  refine Safe.alone (by simp [Mails]) fun curl after _ => ?_
  cases curl with
  | false => trivial
  | true =>
    have owes : Mails holds
        (.curlPerform ⟨email, EmailUtil.composeMessage sys email subject body⟩) := by
      simpa [Mails] using owed
    rintro _ rfl
    exact ⟨owes, fun _ _ _ => trivial⟩

theorem delivers_sendVerifyCode {email action : String}
    (owed : holds ⟨email, EmailUtil.composeMessage sys email "Verification Code"
      (generatedBody env)⟩) :
    Delivers sys env holds (VerifyService.sendVerifyCode sys email action) (fun _ _ => True) w := by
  refine (Safe.bind_iff ..).mpr (delivers_generateLoop "" 0 6 ?_)
  refine (Safe.bind_iff ..).mpr ((delivers_sendTextEmail owed).mono fun sent after _ => ?_)
  cases sent with
  | error exn => trivial
  | ok success =>
    cases success with
    | false => trivial
    | true =>
      rintro _ rfl
      exact ⟨by simp [Mails], fun _ _ _ => trivial⟩

theorem delivers_handleGetVerifyCode
    (owed : ∀ email, requestedEmail sys req = some email → UserHandler.isValidEmail email = true →
      holds ⟨email, EmailUtil.composeMessage sys email "Verification Code" (generatedBody env)⟩) :
    Delivers sys env holds (UserHandler.handleGetVerifyCode sys req) (fun _ _ => True) w := by
  refine safe_handler ?_
  have ends (result : Except Exn HttpResponse) (after : World) :
      orRefused (fun _ _ => True) result after := by
    cases result <;> simp [orRefused]
  unfold UserHandler.parseBody
  cases parsed : sys.parse req.body with
  | none => exact ends (.error .jsonException) w
  | some j =>
    simp only [bind_eq, ret_bind]
    split
    next => exact ends (.ok _) w
    unfold UserHandler.stringField
    cases readEmail : j.string? "email" with
    | none => exact ends (.error .jsonException) w
    | some email =>
      cases readAction : j.string? "action" with
      | none => exact ends (.error .jsonException) w
      | some action =>
        have names : requestedEmail sys req = some email := by
          simp [requestedEmail, sendForm, parsed, readEmail, readAction]
        simp only [ret_bind]
        split
        next => exact ends (.ok _) w
        next valid =>
        split
        next =>
          -- The one branch that sends: both members are strings and the address is valid.
          have sends : Delivers sys env holds (VerifyService.sendVerifyCode sys email action)
              (fun _ _ => True) w :=
            delivers_sendVerifyCode (owed email names (by simpa using valid))
          refine (Safe.bind_iff ..).mpr (sends.mono fun sent after _ => ?_)
          cases sent with
          | error exn => exact ends (.error exn) after
          | ok success =>
            simp only [thenSafe]
            split <;> exact ends (.ok _) after
        next => exact ends (.ok _) w

/-- Every mail of a request for a code goes to an address, which is the one in the request, and
reads back as its headers and its body. -/
theorem mail_readsBack (sender : ∀ c ∈ sys.emailFrom.toList, c ≠ '\r' ∧ c ≠ '\n') {mail : Mail}
    (delivers : mail ∈ mailsOf sys env req w) :
    ∃ email, requestedEmail sys req = some email ∧ Address email ∧
      ReadsBack sys email (generatedBody env) mail := by
  have clean : '\r' ∉ sys.emailFrom.toList := fun member => (sender '\r' member).1 rfl
  have safe : Delivers sys env (fun mail => ∃ email, requestedEmail sys req = some email ∧
      Address email ∧ ReadsBack sys email (generatedBody env) mail)
      (UserHandler.handleGetVerifyCode sys req) (fun _ _ => True) w :=
    delivers_handleGetVerifyCode fun email names valid =>
      have address := address_of_isValidEmail valid
      ⟨email, names, address, readsBack_composeMessage address clean _⟩
  -- A mail goes out by an effect of the run, and the effect was owed as safe.
  obtain ⟨effect, performed, carries⟩ := List.mem_filterMap.mp delivers
  have owed := safe.effects (fun count _ _ => ⟨count, rfl⟩) 0 effect performed
  cases effect with
  | curlPerform sent =>
    cases carries
    exact owed mail rfl
  | _ => cases carries

end Mails

section Sample

open Reference

def codeRequest : HttpRequest :=
  request .post "/users/verify_code" [("email", "a@b.c"), ("action", "register")] ""

theorem system_emailFrom : ∀ c ∈ system.emailFrom.toList, c ≠ '\r' ∧ c ≠ '\n' := by
  have clean : system.emailFrom.toList.all (fun c => c != '\r' && c != '\n') = true := by
    decide +kernel
  simpa using clean

theorem mail_readsBack_sent : ∃ email, requestedEmail system codeRequest = some email ∧
    Address email ∧ ReadsBack system email (generatedBody (env 0))
      ⟨"a@b.c", EmailUtil.composeMessage system "a@b.c" "Verification Code"
        (generatedBody (env 0))⟩ :=
  mail_readsBack system_emailFrom
    (show _ ∈ mailsOf system (env 0) codeRequest {} by decide +kernel)

end Sample

end MusicPlayer
