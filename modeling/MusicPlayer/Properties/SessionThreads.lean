import MusicPlayer.Properties.SessionProtocol
import MusicPlayer.Server.Traffic

/-!
# Sessions served by many threads

Whatever the threads do in between, each session is in the hands of at most one of them, and its
client gets one response for each request, in the order of the requests, each from a handler of
exactly that request. The threads do nothing that threads without sessions could not do.
-/
namespace MusicPlayer

open Resumption Program

namespace Line

variable {ι : Type} {what : Exn → String} {line : Line ι}

/-- The request that is in its handler. -/
def current (line : Line ι) : List HttpRequest :=
  match line.handler with
  | some _ => [line.session.request]
  | none => []

/-- The responses so far and the one that is on the way. -/
def Answering (line : Line ι) : Prop :=
  match line.session.pending with
  | .read => line.handled.map Prod.snd = line.written.map .ok
  | .write response => line.handled.map Prod.snd = line.written.map .ok ++ [.ok response]
  | .undefinedBehaviour =>
    ∃ exn, line.handled.map Prod.snd = line.written.map .ok ++ [.error exn]
  | .ended => line.failed = true

/-- What every move keeps for a connection. -/
structure Follows (line : Line ι) : Prop where
  inOrder : line.handled.map Prod.fst ++ line.current <+: line.arrived
  complete : line.failed = false →
    line.handled.map Prod.fst ++ line.current ++ line.unread = line.arrived
  answers : line.written.map .ok <+: line.handled.map Prod.snd
  answering : line.Answering
  handling : ∀ i, line.handler = some i → line.session.pending = .read
  fresh : line.Waits .read → line.session.request = .blank
  stopped : line.failed = true → line.Waits .ended
  open' : line.shutdown = false

theorem current_of_none (idle : line.handler = none) : line.current = [] := by
  rw [current, idle]

namespace Follows

theorem init : ({} : Line ι).Follows where
  inOrder := List.prefix_refl _
  complete _ := rfl
  answers := List.prefix_refl _
  answering := rfl
  handling _ serves := by cases serves
  fresh _ := rfl
  stopped failed := by cases failed
  open' := rfl

theorem arrive (follows : line.Follows) (req : HttpRequest) : (line.arrive req).Follows where
  inOrder := follows.inOrder.trans (List.prefix_append _ _)
  complete intact := by
    change line.handled.map Prod.fst ++ line.current ++ (line.unread ++ [req]) =
      line.arrived ++ [req]
    rw [← List.append_assoc, follows.complete intact]
  answers := follows.answers
  answering := follows.answering
  handling := follows.handling
  fresh := follows.fresh
  stopped := follows.stopped
  open' := follows.open'

/-- A session that has not failed waits for a read or a write, or is in a handler. -/
theorem intact (follows : line.Follows) (goes : ¬line.Waits .ended) : line.failed = false := by
  cases failed : line.failed with
  | false => rfl
  | true => exact (goes (follows.stopped failed)).elim

theorem intact_of_waits (follows : line.Follows) {pending : Pending} (waits : line.Waits pending)
    (goes : pending ≠ .ended) : line.failed = false :=
  follows.intact fun ended => goes (waits.2.symm.trans ended.2)

theorem intact_of_handler (follows : line.Follows) {i : ι} (serves : line.handler = some i) :
    line.failed = false := by
  refine follows.intact fun ended => ?_
  have idle := ended.1
  rw [serves] at idle
  cases idle

/-- Between two responses every request that was handled is answered. -/
theorem results (follows : line.Follows) (reads : line.session.pending = .read) :
    line.handled.map Prod.snd = line.written.map .ok := by
  have answering := follows.answering
  rw [Answering, reads] at answering
  exact answering

theorem readDone (follows : line.Follows) (i : ι) {arriving : HttpRequest}
    {rest : List HttpRequest} (waits : line.Waits .read) (sent : line.unread = arriving :: rest) :
    (line.readDone i arriving rest).Follows := by
  have intact := follows.intact_of_waits waits (by simp)
  -- `m_request` is blank before a read, so the parser adds to nothing.
  have current : (line.readDone i arriving rest).current = [arriving] := by
    change [line.session.request.fill arriving] = [arriving]
    rw [follows.fresh waits, HttpRequest.fill_blank]
  have arrived : line.handled.map Prod.fst ++ [arriving] ++ rest = line.arrived := by
    rw [← follows.complete intact, current_of_none waits.1, sent, List.append_nil,
      List.append_assoc]
    rfl
  refine ⟨?_, fun _ => ?_, follows.answers, ?_, fun _ _ => waits.2, ?_, ?_, follows.open'⟩
  · rw [current]
    exact ⟨rest, arrived⟩
  · rw [current]
    exact arrived
  · simp only [Answering, Line.readDone, waits.2]
    exact follows.results waits.2
  · rintro ⟨idle, -⟩
    cases idle
  · intro failed
    cases intact.symm.trans failed

/-- The thread has the result of the router, which is a response or undefined behaviour. -/
theorem handlerDone (follows : line.Follows) {i : ι} (serves : line.handler = some i)
    {result : Except Exn HttpResponse} (answered : Answered result) :
    (line.handlerDone what result).Follows := by
  have intact := follows.intact_of_handler serves
  have current : line.current = [line.session.request] := by rw [Line.current, serves]
  have requests : (line.handled ++ [(line.session.request, result)]).map Prod.fst =
      line.handled.map Prod.fst ++ line.current := by
    rw [current, List.map_append]
    rfl
  have extended : (line.handled ++ [(line.session.request, result)]).map Prod.snd =
      line.written.map .ok ++ [result] := by
    rw [← follows.results (follows.handling i serves), List.map_append]
    rfl
  have inOrder : (line.handled ++ [(line.session.request, result)]).map Prod.fst ++ [] <+:
      line.arrived := by
    rw [requests, List.append_nil]
    exact follows.inOrder
  have complete : (line.handled ++ [(line.session.request, result)]).map Prod.fst ++ [] ++
      line.unread = line.arrived := by
    rw [requests, List.append_nil]
    exact follows.complete intact
  have answers : line.written.map .ok <+:
      (line.handled ++ [(line.session.request, result)]).map Prod.snd := by
    rw [extended]
    exact List.prefix_append _ _
  have running {P : Prop} (failed : line.failed = true) : P := by
    rw [intact] at failed
    cases failed
  unfold Line.handlerDone
  cases response : Session.handleRequest what line.session.request result with
  | some res =>
    rw [handleRequest_eq_some answered response] at extended inOrder complete answers ⊢
    refine ⟨inOrder, fun _ => complete, answers, extended, ?_, ?_, running, follows.open'⟩
    · exact fun _ serves => by cases serves
    · rintro ⟨-, reads⟩
      cases reads
  | none =>
    refine ⟨inOrder, fun _ => complete, answers, ?_, ?_, ?_, running, follows.open'⟩
    · cases result with
      | ok res => cases response
      | error exn => exact ⟨exn, extended⟩
    · exact fun _ serves => by cases serves
    · rintro ⟨-, reads⟩
      cases reads

theorem writeDone (follows : line.Follows) {response : HttpResponse}
    (waits : line.Waits (.write response)) : (line.writeDone response).Follows := by
  have intact := follows.intact_of_waits waits (by simp)
  have results : line.handled.map Prod.snd = (line.written ++ [response]).map .ok := by
    have answering := follows.answering
    rw [Answering, waits.2] at answering
    rw [answering, List.map_append]
    rfl
  have current : line.current = [] := current_of_none waits.1
  -- The end of a request is never the end of the stream.
  simp only [Line.writeDone, HttpRequest.needEof, Bool.false_eq_true, if_false]
  refine ⟨?_, fun _ => ?_, ?_, results, fun _ _ => rfl, fun _ => rfl, ?_, follows.open'⟩
  · rw [Line.current]
    have inOrder := follows.inOrder
    rw [current] at inOrder
    simpa [waits.1] using inOrder
  · have complete := follows.complete intact
    rw [current] at complete
    simpa [Line.current, waits.1] using complete
  · exact ⟨[], by rw [List.append_nil, results]⟩
  · intro failed
    cases intact.symm.trans failed

/-- After an error nothing more is read or written. -/
theorem fail (follows : line.Follows) (idle : line.handler = none) (left : List HttpRequest) :
    ({ line.fail with unread := left } : Line ι).Follows where
  inOrder := follows.inOrder
  complete intact := by cases intact
  answers := follows.answers
  answering := rfl
  handling i serves := by
    rw [show ({ line.fail with unread := left } : Line ι).handler = line.handler from rfl, idle]
      at serves
    cases serves
  fresh waits := by cases waits.2
  stopped _ := ⟨idle, rfl⟩
  open' := follows.open'

end Follows

end Line

namespace Traffic

variable {ι κ : Type} [DecidableEq ι] [DecidableEq κ] {sys : System} {what : Exn → String}

/-- The threads and what they share. -/
abbrev Threads (ι : Type) : Type :=
  Config (Option ι) Effect Effect.Reply Exn ServerJob.Out (Site (Option ι))

variable {start c d : Threads ι} {s t : Traffic ι κ}

/-- On the way between two configurations a thread has come to the end of the handler of a
request, with a result. -/
def Ended (sys : System) (start c : Threads ι) (x : HttpRequest × Except Exn HttpResponse) : Prop :=
  ∃ mid i, (workers (Option ι) sys).Reachable start mid ∧
    mid.threads (some i) = some ⟨.request x.1, Program.ofExcept x.2⟩ ∧
    (workers (Option ι) sys).Reachable mid c

/-- The threads go on as threads without sessions do, and the sessions share them out. -/
structure Served (sys : System) (start : Threads ι) (s : Traffic ι κ) : Prop where
  threads : (workers (Option ι) sys).Reachable start s.config
  lines : ∀ k, (s.lines k).Follows
  own : ∀ k i, (s.lines k).handler = some i → ∃ prog, s.config.threads (some i) =
    some ⟨.request (s.lines k).session.request, prog⟩
  apart : ∀ k l i, (s.lines k).handler = some i → (s.lines l).handler = some i → k = l
  ended : ∀ k, ∀ x ∈ (s.lines k).handled, Ended sys start s.config x

/-- What a thread has in its hands is the handler of a request or a cleanup, and of what the
first one ends in only undefined behaviour is no response. -/
theorem answered_of_ended (fresh : ∀ i, start.threads i = none)
    (reach : (workers (Option ι) sys).Reachable start c) {i : Option ι} {req : HttpRequest}
    {result : Except Exn HttpResponse}
    (ended : c.threads i = some ⟨.request req, Program.ofExcept result⟩) : Answered result := by
  let holds : (job : ServerJob) → Prog job.Out → Prop
    | .request _, prog => prog.Uses (fun _ => True) Answered
    | .cleanup, _ => True
  have jobs (job : ServerJob) : holds job (job.program sys) := by
    cases job with
    | request req => exact handleRouter_answered sys req
    | cleanup => trivial
  have rests (job : ServerJob) (effect : Effect) (rest : effect.Reply → Prog job.Out)
      (reply : effect.Reply) (before : holds job (.act effect rest)) : holds job (rest reply) := by
    cases job with
    | request req => exact ((uses_act ..).mp before).2 reply
    | cleanup => trivial
  have here : holds (.request req) (Program.ofExcept result) :=
    reach.residual jobs rests fresh ended
  cases result with
  | ok res => exact here
  | error exn => exact here

theorem Ended.later {x : HttpRequest × Except Exn HttpResponse} (ended : Ended sys start c x)
    (move : (workers (Option ι) sys).Move c d) : Ended sys start d x := by
  obtain ⟨mid, i, before, here, after⟩ := ended
  exact ⟨mid, i, before, here, after.move move⟩

omit [DecidableEq κ] in
theorem Acts.move {i : Option ι} (acts : Acts sys i s t) :
    (workers (Option ι) sys).Move s.config t.config ∧ t.lines = s.lines := by
  cases acts with
  | act runs step => exact ⟨.act runs step, rfl⟩

omit [DecidableEq κ] in
/-- An effect leaves every thread with the job that it has. -/
theorem Acts.job {i j : Option ι} (acts : Acts sys i s t) {job : ServerJob} {prog : Prog job.Out}
    (runs : s.config.threads j = some ⟨job, prog⟩) :
    ∃ prog, t.config.threads j = some ⟨job, prog⟩ := by
  cases acts with
  | @act acted effect rest reply after acting step =>
    by_cases own : j = i
    · subst own
      rw [runs] at acting
      cases acting
      exact ⟨_, Function.update_self ..⟩
    · exact ⟨prog, (Function.update_of_ne own ..).trans runs⟩

namespace Served

omit [DecidableEq κ] in
theorem acts {i : Option ι} (served : Served sys start s) (acts : Acts sys i s t) :
    Served sys start t := by
  obtain ⟨move, lines⟩ := acts.move
  refine ⟨served.threads.move move, ?_, ?_, ?_, ?_⟩
  · rw [lines]
    exact served.lines
  · rw [lines]
    intro k j serves
    obtain ⟨prog, runs⟩ := served.own k j serves
    exact acts.job runs
  · rw [lines]
    exact served.apart
  · rw [lines]
    exact fun k x handled => (served.ended k x handled).later move

/-- A session lets go of its thread, or keeps it and its request. -/
theorem setLine (served : Served sys start s) {k : κ} {line : Line ι} (follows : line.Follows)
    (keeps : line.handler = none ∨
      line.handler = (s.lines k).handler ∧ line.session = (s.lines k).session)
    (ended : ∀ x ∈ line.handled, Ended sys start s.config x) :
    Served sys start (s.setLine k line) := by
  have serving : ∀ l, ∀ i, ((s.setLine k line).lines l).handler = some i →
      (s.lines l).handler = some i ∧
        ((s.setLine k line).lines l).session = (s.lines l).session := by
    refine forall_setLine (P := fun l line => ∀ i, line.handler = some i →
      (s.lines l).handler = some i ∧ line.session = (s.lines l).session) (fun i serves => ?_)
      fun l _ i serves => ⟨serves, rfl⟩
    rcases keeps with idle | ⟨same, session⟩
    · rw [idle] at serves
      cases serves
    · exact ⟨same ▸ serves, session⟩
  refine ⟨served.threads, ?_, fun l i serves => ?_, fun l m i first second => ?_, ?_⟩
  · exact forall_setLine (P := fun _ line => line.Follows) follows fun l _ => served.lines l
  · obtain ⟨before, session⟩ := serving l i serves
    rw [session]
    exact served.own l i before
  · exact served.apart l m i (serving l i first).1 (serving m i second).1
  · exact forall_setLine (P := fun _ line => ∀ x ∈ line.handled, Ended sys start s.config x)
      ended fun l _ => served.ended l

/-- A thread that is free takes a session that waits for it. -/
theorem read (served : Served sys start s) {k : κ} {i : ι} {arriving : HttpRequest}
    {rest : List HttpRequest} (waits : (s.lines k).Waits .read)
    (sent : (s.lines k).unread = arriving :: rest) (free : s.Free i) :
    Served sys start ((s.setLine k ((s.lines k).readDone i arriving rest)).start sys (some i)
      (.request ((s.lines k).session.request.fill arriving))) := by
  have move : (workers (Option ι) sys).Move s.config
      ((s.setLine k ((s.lines k).readDone i arriving rest)).start sys (some i)
        (.request ((s.lines k).session.request.fill arriving))).config := .start free.1 rfl
  -- The thread was free, so it is none that serves another session.
  have serving : ∀ l, ∀ j, ((s.setLine k ((s.lines k).readDone i arriving rest)).lines l).handler =
      some j → j = i ∧ l = k ∨ j ≠ i ∧ l ≠ k ∧ (s.lines l).handler = some j := by
    refine forall_setLine (P := fun l line => ∀ j, line.handler = some j →
      j = i ∧ l = k ∨ j ≠ i ∧ l ≠ k ∧ (s.lines l).handler = some j) (fun j serves => ?_)
      fun l other j serves => ?_
    · cases serves
      exact .inl ⟨rfl, rfl⟩
    · refine .inr ⟨?_, other, serves⟩
      rintro rfl
      exact free.2 l serves
  refine ⟨served.threads.move move, ?_, fun l j serves => ?_, fun l m j first second => ?_, ?_⟩
  · exact forall_setLine (P := fun _ line => line.Follows)
      ((served.lines k).readDone i waits sent) fun l _ => served.lines l
  · rcases serving l j serves with ⟨rfl, rfl⟩ | ⟨different, other, before⟩
    · rw [start_lines, setLine_self]
      exact ⟨_, Function.update_self ..⟩
    · obtain ⟨prog, runs⟩ := served.own l j before
      rw [start_lines, setLine_of_ne _ _ other]
      exact ⟨prog, (start_of_ne sys _ _ (by simpa using different)).trans runs⟩
  · rcases serving l j first with ⟨rfl, rfl⟩ | ⟨other, -, first⟩
    · rcases serving m j second with ⟨-, rfl⟩ | ⟨other, -, second⟩
      · rfl
      · exact (other rfl).elim
    · rcases serving m j second with ⟨rfl, rfl⟩ | ⟨-, -, second⟩
      · exact (other rfl).elim
      · exact served.apart l m j first second
  · exact forall_setLine (P := fun _ line => ∀ x ∈ line.handled, Ended sys start _ x)
      (fun x handled => (served.ended k x handled).later move)
      fun l _ x handled => (served.ended l x handled).later move

omit [DecidableEq κ] in
/-- The main thread begins to clean up. -/
theorem cleanup (served : Served sys start s) (idle : (s.config.threads none).Idle) :
    Served sys start (s.start sys none .cleanup) := by
  have move : (workers (Option ι) sys).Move s.config (s.start sys none .cleanup).config :=
    .start idle rfl
  refine ⟨served.threads.move move, served.lines, fun k i serves => ?_, served.apart,
    fun k x handled => (served.ended k x handled).later move⟩
  obtain ⟨prog, runs⟩ := served.own k i serves
  exact ⟨prog, (start_of_ne sys s .cleanup (by simp)).trans runs⟩

/-- One step of the sessions. -/
theorem step (fresh : ∀ i, start.threads i = none) (served : Served sys start s)
    (step : Step sys what s t) : Served sys start t := by
  cases step with
  | read waits sent _ free => exact served.read waits sent free
  | @tooLarge k arriving rest waits sent _ =>
    exact served.setLine ((served.lines k).fail waits.1 rest) (.inl waits.1) (served.ended k)
  | act acts => exact served.acts acts
  | @handled k i result serves ended =>
    have answered := answered_of_ended fresh served.threads ended
    refine served.setLine ((served.lines k).handlerDone serves answered) (.inl rfl) ?_
    intro x member
    rcases List.mem_append.mp member with earlier | new
    · exact served.ended k x earlier
    -- The handler has come to its end here.
    · rw [List.mem_singleton.mp new]
      exact ⟨s.config, i, served.threads, ended, .init⟩
  | @write k response waits =>
    refine served.setLine ((served.lines k).writeDone waits) (.inl waits.1) ?_
    exact served.ended k

theorem move (fresh : ∀ i, start.threads i = none) (served : Served sys start s)
    (move : Move sys what s t) : Served sys start t := by
  cases move with
  | step step => exact served.step fresh step
  | fault fault =>
    cases fault with
    | @read k waits =>
      exact served.setLine ((served.lines k).fail waits.1 _) (.inl waits.1) (served.ended k)
    | @write k response waits =>
      exact served.setLine ((served.lines k).fail waits.1 _) (.inl waits.1) (served.ended k)
  | main main =>
    cases main with
    | cleanup idle => exact served.cleanup idle
    | act acts => exact served.acts acts
  | arrive k req =>
    exact served.setLine ((served.lines k).arrive req) (.inr ⟨rfl, rfl⟩) (served.ended k)

omit [DecidableEq κ] in
theorem init (outcome : Nat → DBManager.ConnectOutcome) (poolSize : Nat) (w : World) :
    Served sys (workersInit (Option ι) outcome poolSize w) (init ι κ outcome poolSize w) := by
  refine ⟨.init, fun _ => Line.Follows.init, fun _ _ serves => ?_, fun _ _ _ serves => ?_,
    fun _ _ handled => ?_⟩
  · cases serves
  · cases serves
  · cases handled

theorem run (fresh : ∀ i, start.threads i = none) (served : Served sys start s)
    (run : Relation.ReflTransGen (Move sys what) s t) : Served sys start t := by
  induction run with
  | refl => exact served
  | tail _ move ih => exact ih.move fresh move

end Served

/-- Whatever the clients send, however many threads there are and in whatever order they move and
operations fail: the threads go on as they would without sessions, no two sessions are on one
thread and no session is on two, and each client has got, in the order of its requests, the
responses of handlers of exactly these requests, with at most one request in its handler and at
most one response on the way. -/
theorem sessions_served {outcome : Nat → DBManager.ConnectOutcome} {poolSize : Nat} {w : World}
    (run : Relation.ReflTransGen (Move sys what) (init ι κ outcome poolSize w) s) :
    Served sys (workersInit (Option ι) outcome poolSize w) s :=
  (Served.init outcome poolSize w).run (fun _ => rfl) run

/-! ### Two clients at a time -/

/-- A number of effects of one thread, in one environment. -/
def perform (sys : System) (s : Traffic ι κ) (i : ι) (choice : Env × Nat) (effects : Nat) :
    Traffic ι κ :=
  { s with config :=
    s.config.runSchedule (siteExec sys) (List.replicate effects (some i, choice)) }

theorem perform_steps (s : Traffic ι κ) (i : ι) (choice : Env × Nat) (effects : Nat) :
    Relation.ReflTransGen (Step sys what) s (s.perform sys i choice effects) := by
  induction effects generalizing s with
  | zero => exact .refl
  | succ effects ih =>
    have later := ih { s with config := s.config.perform (siteExec sys) (some i) choice }
    refine .trans ?_ later
    unfold Config.perform
    split
    next job effect rest runs =>
      exact .single (.act (.act runs (siteStep_siteExec sys (some i) choice effect _)))
    · exact .refl

theorem moves_of_steps (steps : Relation.ReflTransGen (Step sys what) s t) :
    Relation.ReflTransGen (Move sys what) s t :=
  steps.lift id fun _ _ step => .step step

section Sample

open Reference

/-- The response that a thread has in its hands. -/
def response? : Thread Effect Effect.Reply Exn ServerJob.Out → Option HttpResponse
  | some ⟨.request _, .ret response⟩ => some response
  | _ => none

/-- A login for a name that nobody has. -/
def loginRequest : HttpRequest :=
  request .post "/users/login" [("username", "bob"), ("password", "y")] ""

/-- Two clients have sent a request each, to a server with two threads and one connection to its
database. -/
def asked : Traffic (Fin 2) (Fin 2) :=
  ((init (Fin 2) (Fin 2) (fun _ => .connected) 1 {}).setLine 0
    (Line.arrive {} loginRequest)).setLine 1 (Line.arrive {} (welcomeRequest 11))

/-- One thread takes the login and gets as far as its query. -/
def loginTaken : Traffic (Fin 2) (Fin 2) :=
  (asked.setLine 0 ((asked.lines 0).readDone 0 loginRequest [])).start system (some 0)
    (.request ((asked.lines 0).session.request.fill loginRequest))

def loginBegun : Traffic (Fin 2) (Fin 2) := loginTaken.perform system 0 (env 0, 0) 5

/-- The other thread serves the other client. -/
def pageTaken : Traffic (Fin 2) (Fin 2) :=
  (loginBegun.setLine 1 ((loginBegun.lines 1).readDone 1 (welcomeRequest 11) [])).start system
    (some 1) (.request ((loginBegun.lines 1).session.request.fill (welcomeRequest 11)))

def pageHandled : Traffic (Fin 2) (Fin 2) :=
  pageTaken.setLine 1 ((pageTaken.lines 1).handlerDone noText (.ok (welcome 11)))

def pageWritten : Traffic (Fin 2) (Fin 2) :=
  pageHandled.setLine 1 ((pageHandled.lines 1).writeDone (welcome 11))

/-- Then the login comes to its end and is answered as well. -/
def loginEnded : Traffic (Fin 2) (Fin 2) := pageWritten.perform system 0 (env 0, 0) 10

def loginResponse : HttpResponse :=
  (response? (loginEnded.config.threads (some 0))).getD (welcome 11)

def loginHandled : Traffic (Fin 2) (Fin 2) :=
  loginEnded.setLine 0 ((loginEnded.lines 0).handlerDone noText (.ok loginResponse))

def bothServed : Traffic (Fin 2) (Fin 2) :=
  loginHandled.setLine 0 ((loginHandled.lines 0).writeDone loginResponse)

theorem asked_run : Relation.ReflTransGen (Move system noText)
    (init (Fin 2) (Fin 2) (fun _ => .connected) 1 {}) asked :=
  .tail (.single (.arrive _ 0 _)) (.arrive _ 1 _)

theorem loginEnded_steps : Relation.ReflTransGen (Step system noText) asked loginEnded := by
  have free : asked.Free 0 := ⟨trivial, Fin.forall_fin_two.mpr ⟨nofun, nofun⟩⟩
  have reads : Step system noText asked loginTaken := .read ⟨rfl, rfl⟩ rfl (by decide) free
  have begins : Relation.ReflTransGen (Step system noText) asked loginBegun :=
    .trans (.single reads) (perform_steps ..)
  have second : loginBegun.Free 1 := by
    have idle : (loginBegun.config.threads (some 1)).isNone = true := by decide +kernel
    rw [Free, Option.isNone_iff_eq_none.mp idle]
    exact ⟨trivial, Fin.forall_fin_two.mpr ⟨nofun, nofun⟩⟩
  have takes : Step system noText loginBegun pageTaken := .read ⟨rfl, rfl⟩ rfl (by decide) second
  have ended : pageTaken.config.threads (some 1) =
      some ⟨.request (pageTaken.lines 1).session.request, Program.ofExcept (.ok (welcome 11))⟩ :=
    start_self ..
  have handles : Step system noText pageTaken pageHandled := .handled rfl ended
  have writes : Step system noText pageHandled pageWritten := .write ⟨rfl, rfl⟩
  exact .trans (.tail (.tail (.tail begins takes) handles) writes) (perform_steps ..)

theorem loginEnded_returned : loginEnded.config.threads (some 0) =
    some ⟨.request (loginEnded.lines 0).session.request, .ret loginResponse⟩ := by
  have served : Served system _ loginEnded := (Served.init (fun _ => .connected) 1 {}).run
    (fun _ => rfl) (asked_run.trans (moves_of_steps loginEnded_steps))
  obtain ⟨prog, runs⟩ := served.own 0 0 rfl
  have responds : (response? (loginEnded.config.threads (some 0))).isSome = true := by
    decide +kernel
  rw [loginResponse]
  rw [runs] at responds ⊢
  cases prog with
  | ret response => rfl
  | _ => cases responds

theorem bothServed_steps : Relation.ReflTransGen (Step system noText) asked bothServed := by
  have handles : Step system noText loginEnded loginHandled := .handled rfl loginEnded_returned
  have writes : Step system noText loginHandled bothServed := .write ⟨rfl, rfl⟩
  exact .tail (.tail loginEnded_steps handles) writes

theorem loginResponse_status : loginResponse.status = .notFound := by decide +kernel

/-- The second client had its page before the first one had its answer. -/
theorem sessions_served_two : (bothServed.lines 0).written.map (·.status) = [.notFound] ∧
    (bothServed.lines 1).written = [welcome 11] ∧
    Served system (workersInit (Option (Fin 2)) (fun _ => .connected) 1 {}) bothServed :=
  ⟨congrArg (fun status => [status]) loginResponse_status, rfl,
    sessions_served (asked_run.trans (moves_of_steps bothServed_steps))⟩

end Sample

end Traffic

end MusicPlayer
