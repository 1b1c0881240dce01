import MusicPlayer.Server.Session
import MusicPlayer.Reference

/-!
# The protocol of a session

One response for each request, in the order of arrival and from that request alone. `need_eof` is
a question about responses: asked of a request it is never true, so a session never shuts its
connection down, whatever the request has asked for.
-/
namespace MusicPlayer

open Resumption Program

/-! ### What the router answers -/

theorem uses_anything {α : Type} (prog : Prog α) :
    prog.Uses (fun _ => True) fun _ => True := by
  induction prog with
  | ret value => trivial
  | raise exn => trivial
  | act effect rest ih => exact (uses_act ..).mpr ⟨trivial, ih⟩

/-- An exception that leaves a handler is undefined behaviour. -/
def Answered (result : Except Exn HttpResponse) : Prop :=
  ∀ exn, result = .error exn → exn = .nullDeref ∨ exn = .danglingRead

theorem catching_answered (version : Nat) (body : Prog HttpResponse) :
    (UserHandler.catching version body).Uses (fun _ => True) Answered := by
  refine (uses_tryCatch ..).mpr ((uses_anything body).mono fun result _ => ?_)
  cases result with
  | ok res =>
    intro exn equal
    cases equal
  | error exn =>
    cases exn with
    | nullDeref | danglingRead =>
      intro other equal
      cases equal
      simp
    | _ =>
      intro other equal
      cases equal

theorem handleRouter_answered (sys : System) (req : HttpRequest) :
    ((setupRoutes sys).handleRouter req).Uses (fun _ => True) Answered := by
  refine handleRouter_cases sys req (P := fun prog => prog.Uses (fun _ => True) Answered)
    ?_ ?_ ?_ ?_ ?_ ?_ ?_ ?_ ?_
  iterate 8 exact fun _ => catching_answered _ _
  intro _ res exn equal
  cases equal

/-- So the catch clause of a session has nothing to do. -/
theorem exchange_answered (sys : System) (env : Env) (w : World) (req : HttpRequest) :
    Answered (exchange sys env w req).result := by
  have safe : ((setupRoutes sys).handleRouter req).Wp (Step sys env)
      (fun result after => Answered result ∧ True) w := by
    refine Uses.safe (fun _ => True) (handleRouter_answered sys req) ?_ ?_ ?_ trivial
    · exact fun _ _ _ _ => trivial
    · exact fun _ _ _ _ => trivial
    · exact fun _ _ _ _ _ _ _ => trivial
  exact (runProg_of_wp safe).1

/-- A session answers with what the router answers. -/
theorem handleRequest_eq_some {what : Exn → String} {request : HttpRequest}
    {result : Except Exn HttpResponse} (answered : Answered result) {response : HttpResponse}
    (handled : Session.handleRequest what request result = some response) :
    result = .ok response := by
  cases result with
  | ok res => rw [Option.some.inj handled]
  | error exn =>
    rcases answered exn rfl with rfl | rfl
    · cases handled
    · cases handled

/-! ### Runs of a connection -/

namespace Connection

/-- After the `k`-th response the session has gone on reading: it has a later request, or it waits
for one, or it has read to the end of the stream. -/
def ReadsOn (c : Connection) (k : Nat) : Prop :=
  k + 1 < c.handled.length ∨ c.session.pending = .read ∨ c.hungUp = true

/-- What a session has done is right: the requests are handled in the order of arrival, each as
it was sent, and the responses are the answers of the router. It reads on after a response if and
only if the request asked for it. -/
structure Follows (sys : System) (what : Exn → String) (c : Connection) : Prop where
  inOrder : c.handled.map (·.request) ++ c.unread = c.arrived
  served : ∀ x ∈ c.handled, x = exchange sys x.env x.before x.request
  answers : (c.handled.take c.written.length).map (·.result) = c.written.map .ok
  oneEach : c.handled.length = c.written.length +
    match c.session.pending with
    | .write _ | .undefinedBehaviour => 1
    | .read | .ended => 0
  goesOn : ∀ k req, k < c.written.length → c.arrived[k]? = some req →
    (c.ReadsOn k ↔ req.keepAlive = true)
  /-- The session shuts the connection down after the first request that asked for nothing more. -/
  shuts : c.shutdown = true ↔
    ∃ k req, k < c.written.length ∧ c.arrived[k]? = some req ∧ req.keepAlive = false
  /-- It has come to its end where the client has hung up or the connection is shut down, and
  nowhere else. -/
  ends : c.session.pending = .ended ↔ c.hungUp = true ∨ c.shutdown = true
  complete : c.Quiescent sys what → c.session.pending = .read →
    c.written.length = c.arrived.length

/-- The responses so far and the one that is on the way. -/
def Answering (c : Connection) : Prop :=
  match c.session.pending with
  | .read => c.session.request = .blank ∧ c.handled.map (·.result) = c.written.map .ok
  | .write response => c.handled.map (·.result) = c.written.map .ok ++ [.ok response]
  | .ended => c.handled.map (·.result) = c.written.map .ok
  | .undefinedBehaviour => ∃ exn, c.handled.map (·.result) = c.written.map .ok ++ [.error exn]

/-- What every step keeps. -/
structure Serving (sys : System) (c : Connection) : Prop where
  inOrder : c.handled.map (·.request) ++ c.unread = c.arrived
  served : ∀ x ∈ c.handled, x = exchange sys x.env x.before x.request
  answering : c.Answering
  open' : c.shutdown = false
  hungUp : c.session.pending = .ended ↔ c.hungUp = true

variable {sys : System} {what : Exn → String} {c d : Connection}

theorem Serving.init (w : World) : Serving sys { world := w } :=
  ⟨rfl, by simp, ⟨rfl, rfl⟩, rfl, ⟨nofun, nofun⟩⟩

theorem Serving.step (serving : Serving sys c) (step : Step sys what c d) : Serving sys d := by
  obtain ⟨inOrder, served, answering, open', hungUp⟩ := serving
  cases step with
  | @read arriving rest waits sent env =>
    rw [Answering, waits] at answering
    obtain ⟨blank, results⟩ := answering
    -- `m_request` is blank before a read, so the parser adds to nothing.
    have alone : c.session.request.fill arriving = arriving := by
      rw [blank, HttpRequest.fill_blank]
    -- A session that waits for a request has not come to its end, and neither has the stream.
    have stream : c.hungUp = false := by
      rw [waits] at hungUp
      exact Bool.eq_false_of_not_eq_true fun hung => nomatch hungUp.mpr hung
    refine ⟨?_, ?_, ?_, open', ?_⟩
    · change (c.handled ++ [exchange sys env c.world (c.session.request.fill arriving)]).map
        (·.request) ++ rest = c.arrived
      rw [← inOrder, sent, alone, List.map_append, List.append_assoc]
      rfl
    · intro x member
      simp only [readDone, List.mem_append, List.mem_singleton] at member
      rcases member with earlier | rfl
      · exact served x earlier
      · rfl
    · have answered := exchange_answered sys env c.world (c.session.request.fill arriving)
      have results : (c.readDone sys what env arriving rest).handled.map (·.result) =
          c.written.map .ok ++
            [(exchange sys env c.world (c.session.request.fill arriving)).result] := by
        rw [← results]
        exact List.map_append
      -- Undefined behaviour leaves no response to write.
      cases response : Session.handleRequest what (c.session.request.fill arriving)
          (exchange sys env c.world (c.session.request.fill arriving)).result with
      | some res =>
        have session : (c.readDone sys what env arriving rest).session.pending = .write res :=
          congrArg (fun res => (Session.doWrite _ res).pending) response
        rw [Answering, session, results, handleRequest_eq_some answered response]
        rfl
      | none =>
        have session : (c.readDone sys what env arriving rest).session.pending =
            .undefinedBehaviour :=
          congrArg (fun res => (Session.doWrite _ res).pending) response
        rw [Answering, session, results]
        cases result : (exchange sys env c.world (c.session.request.fill arriving)).result with
        | ok res =>
          rw [result] at response
          cases response
        | error exn => exact ⟨exn, rfl⟩
    · change (Session.doWrite _ _).pending = .ended ↔ c.hungUp = true
      rw [stream]
      unfold Session.doWrite
      split <;> exact ⟨nofun, nofun⟩
  | @write response waits =>
    rw [Answering, waits] at answering
    rw [waits] at hungUp
    refine ⟨inOrder, served, ⟨rfl, ?_⟩, open', ?_⟩
    · simp only [writeDone, HttpRequest.needEof]
      exact answering.trans (by simp)
    · -- `need_eof` is false, so the session reads again.
      exact ⟨nofun, fun hung => nomatch hungUp.mpr hung⟩

theorem Serving.move (serving : Serving sys c) (move : Move sys what c d) : Serving sys d := by
  cases move with
  | session step => exact serving.step step
  | arrive req =>
    refine ⟨?_, serving.served, serving.answering, serving.open', serving.hungUp⟩
    rw [← serving.inOrder, List.append_assoc]
  | hangUp waits drained =>
    have answering := serving.answering
    rw [Answering, waits] at answering
    exact ⟨serving.inOrder, serving.served, answering.2, serving.open',
      ⟨fun _ => rfl, fun _ => rfl⟩⟩
  | others world =>
    exact ⟨serving.inOrder, serving.served, serving.answering, serving.open', serving.hungUp⟩

theorem Serving.run (serving : Serving sys c)
    (run : Relation.ReflTransGen (Move sys what) c d) : Serving sys d := by
  induction run with
  | refl => exact serving
  | tail _ move ih => exact ih.move move

theorem Serving.oneEach (serving : Serving sys c) :
    c.handled.length = c.written.length +
      match c.session.pending with
      | .write _ | .undefinedBehaviour => 1
      | .read | .ended => 0 := by
  have answering := serving.answering
  unfold Answering at answering
  split at answering
  next waits =>
    have lengths := congrArg List.length answering.2
    simpa [waits] using lengths
  -- The response of the request that was handled last is still to be written.
  next response waits =>
    have lengths := congrArg List.length answering
    simpa [waits] using lengths
  next waits =>
    have lengths := congrArg List.length answering
    simpa [waits] using lengths
  next waits =>
    obtain ⟨exn, results⟩ := answering
    have lengths := congrArg List.length results
    simpa [waits] using lengths

theorem Serving.answers (serving : Serving sys c) :
    (c.handled.take c.written.length).map (·.result) = c.written.map .ok := by
  have first : (c.written.map (Except.ok : HttpResponse → Except Exn HttpResponse)) <+:
      c.handled.map (·.result) := by
    have answering := serving.answering
    unfold Answering at answering
    split at answering
    · exact answering.2 ▸ List.prefix_rfl
    · exact answering ▸ List.prefix_append ..
    · exact answering ▸ List.prefix_rfl
    · obtain ⟨exn, results⟩ := answering
      exact results ▸ List.prefix_append ..
  rw [List.map_take]
  conv_rhs => rw [List.prefix_iff_eq_take.mp first]
  rw [List.length_map]

/-- A session that waits for a request has answered all that have arrived, if none is unread. -/
theorem Serving.complete (serving : Serving sys c) (quiescent : c.Quiescent sys what)
    (waits : c.session.pending = .read) : c.written.length = c.arrived.length := by
  have drained : c.unread = [] := by
    cases unread : c.unread with
    | nil => rfl
    | cons arriving rest => exact absurd (.read waits unread { clock := fun _ => 0 }) (quiescent _)
  have counted := serving.oneEach
  rw [waits] at counted
  rw [← serving.inOrder, drained, List.append_nil, List.length_map, counted]
  rfl

/-- The session reads on after every response. -/
theorem Serving.readsOn (serving : Serving sys c) {k : Nat} (answered : k < c.written.length) :
    c.ReadsOn k := by
  have counted := serving.oneEach
  cases pending : c.session.pending with
  | read => exact .inr (.inl pending)
  | ended => exact .inr (.inr (serving.hungUp.mp pending))
  -- A request that came after is being answered, or has led to undefined behaviour.
  | write response | undefinedBehaviour =>
    rw [pending] at counted
    exact .inl (counted ▸ Nat.succ_lt_succ answered)

end Connection

open Connection in
/-- In every state that a connection reaches, the session has followed the protocol if and only
if all the requests answered so far asked to keep the connection alive. -/
theorem session_follows_iff {sys : System} {what : Exn → String} {w : World} {c : Connection}
    (run : Relation.ReflTransGen (Move sys what) { world := w } c) :
    c.Follows sys what ↔
      ∀ k req, k < c.written.length → c.arrived[k]? = some req → req.keepAlive = true := by
  have serving := (Serving.init w).run run
  constructor
  · intro follows k req answered arrived
    exact (follows.goesOn k req answered arrived).mp (serving.readsOn answered)
  · intro alive
    refine ⟨serving.inOrder, serving.served, serving.answers, serving.oneEach, ?_, ?_, ?_, ?_⟩
    · intro k req answered arrived
      exact iff_of_true (serving.readsOn answered) (alive k req answered arrived)
    · -- Nothing is shut down, and no request asked for it.
      rw [serving.open']
      refine iff_of_false nofun ?_
      rintro ⟨k, req, answered, arrived, close⟩
      rw [alive k req answered arrived] at close
      cases close
    · rw [serving.open', serving.hungUp]
      simp
    · exact serving.complete

/-! ### A client that closes -/

section Close

open Reference Connection

/-- A request for the welcome page, without a Connection field. -/
def welcomeRequest (version : Nat) : HttpRequest := { method := .get, target := "/", version }

def welcome (version : Nat) : HttpResponse :=
  JsonUtil.buildSuccessResponse version
    (messageObject "message" "Welcome to HarmonyOS Music Player!")

def noText (_ : Exn) : String := ""

/-- A connection on which one request has arrived, and then the same when it is answered. -/
def greeted (version : Nat) : Connection :=
  { world := {}, unread := [welcomeRequest version], arrived := [welcomeRequest version] }

def welcomed (version : Nat) : Connection :=
  ((greeted version).readDone system noText (env 0) (welcomeRequest version) []).writeDone
    (welcome version)

theorem welcomed_run (version : Nat) :
    Relation.ReflTransGen (Move system noText) { world := {} } (welcomed version) := by
  have arrives : Move system noText { world := {} } (greeted version) := .arrive _ _
  have reads : Connection.Step system noText (greeted version)
      ((greeted version).readDone system noText (env 0) (welcomeRequest version) []) :=
    .read rfl rfl (env 0)
  have writes : Connection.Step system noText
      ((greeted version).readDone system noText (env 0) (welcomeRequest version) [])
      (welcomed version) := .write rfl
  exact .tail (.tail (.single arrives) (.session reads)) (.session writes)

theorem session_follows_iff_welcomed :
    (welcomed 11).Follows system noText ↔ ∀ k req, k < (welcomed 11).written.length →
      (welcomed 11).arrived[k]? = some req → req.keepAlive = true :=
  session_follows_iff (welcomed_run 11)

/-- An HTTP/1.0 client gets its answer, and the session waits for another request. -/
theorem welcomed_goesOn :
    ¬∀ (sys : System) (what : Exn → String) (w : World) (c : Connection),
      Relation.ReflTransGen (Move sys what) { world := w } c → c.Follows sys what := by
  intro follows
  have goesOn := (follows system noText {} (welcomed 10) (welcomed_run 10)).goesOn 0
    (welcomeRequest 10) (by decide) rfl
  have closes : (welcomeRequest 10).keepAlive = false := by decide
  rw [closes] at goesOn
  cases goesOn.mp (.inr (.inl rfl))

end Close

end MusicPlayer
