import MusicPlayer.Server.Session
import MusicPlayer.Server.Workers

/-!
# Sessions and threads

The server with all of its connections. The completion handlers of the sessions run on the threads
of `m_ioc`, and the handler of a request shares the database, the codes, the files and the pool
with those of other sessions, effect by effect. The main thread, which is `none` among the
threads, cleans up.
-/
namespace MusicPlayer

open Resumption Program

/-- A connection with its session. The lists of requests and results say what has happened, and
`failed` that an operation on the socket has failed; the session does not see them. -/
structure Line (ι : Type) where
  session : Session := .run
  /-- The thread that is in `handleRequest` of the session. -/
  handler : Option ι := none
  /-- Sent by the client and not read yet. -/
  unread : List HttpRequest := []
  written : List HttpResponse := []
  /-- The sending side was shut down. -/
  shutdown : Bool := false
  arrived : List HttpRequest := []
  handled : List (HttpRequest × Except Exn HttpResponse) := []
  failed : Bool := false

namespace Line

variable {ι : Type}

/-- The session waits for an operation to complete. -/
def Waits (line : Line ι) (pending : Pending) : Prop :=
  line.handler = none ∧ line.session.pending = pending

def arrive (line : Line ι) (req : HttpRequest) : Line ι :=
  { line with unread := line.unread ++ [req], arrived := line.arrived ++ [req] }

/-- `async_read` has completed, and a thread calls `handleRequest`. -/
def readDone (line : Line ι) (i : ι) (arriving : HttpRequest) (rest : List HttpRequest) : Line ι :=
  { line with
    unread := rest
    handler := some i
    session := { line.session with request := line.session.request.fill arriving } }

/-- `handleRequest` and then `doWrite`, once the router has come to its end. -/
def handlerDone (what : Exn → String) (line : Line ι) (result : Except Exn HttpResponse) : Line ι :=
  { line with
    handler := none
    handled := line.handled ++ [(line.session.request, result)]
    session :=
      line.session.doWrite (Session.handleRequest what line.session.request result) }

/-- `async_write` has completed. -/
def writeDone (line : Line ι) (response : HttpResponse) : Line ι :=
  if line.session.request.needEof then
    { line with
      written := line.written ++ [response]
      shutdown := true
      session := { line.session with pending := .ended } }
  else
    { line with
      written := line.written ++ [response]
      session := { line.session with request := .blank }.doRead }

/-- An operation has completed with an error, and its handler returns. -/
def fail (line : Line ι) : Line ι :=
  { line with failed := true, session := { line.session with pending := .ended } }

end Line

/-- The threads and the connections. -/
structure Traffic (ι κ : Type) where
  config : Config (Option ι) Effect Effect.Reply Exn ServerJob.Out (Site (Option ι))
  lines : κ → Line ι

namespace Traffic

variable {ι κ : Type} [DecidableEq ι] [DecidableEq κ]

/-- The server before its first connection. -/
def init (ι κ : Type) (outcome : Nat → DBManager.ConnectOutcome) (poolSize : Nat) (w : World) :
    Traffic ι κ where
  config := workersInit (Option ι) outcome poolSize w
  lines _ := {}

def setLine (s : Traffic ι κ) (k : κ) (line : Line ι) : Traffic ι κ :=
  { s with lines := Function.update s.lines k line }

/-- A thread is in `m_ioc.run()`, in no handler. -/
def Free (s : Traffic ι κ) (i : ι) : Prop :=
  (s.config.threads (some i)).Idle ∧ ∀ k, (s.lines k).handler ≠ some i

/-- A thread begins with a job. -/
def start (sys : System) (s : Traffic ι κ) (i : Option ι) (job : ServerJob) : Traffic ι κ :=
  { s with config := {
      shared := s.config.shared.begin i
      threads := Function.update s.config.threads i (some ⟨job, job.program sys⟩) } }

omit [DecidableEq ι] in
theorem setLine_self (s : Traffic ι κ) (k : κ) (line : Line ι) :
    (s.setLine k line).lines k = line := Function.update_self ..

omit [DecidableEq ι] in
theorem setLine_of_ne (s : Traffic ι κ) {k l : κ} (line : Line ι) (other : l ≠ k) :
    (s.setLine k line).lines l = s.lines l := Function.update_of_ne other ..

omit [DecidableEq ι] in
theorem forall_setLine {P : κ → Line ι → Prop} {s : Traffic ι κ} {k : κ} {line : Line ι}
    (new : P k line) (others : ∀ l, l ≠ k → P l (s.lines l)) (l : κ) :
    P l ((s.setLine k line).lines l) := by
  by_cases own : l = k
  · subst own
    rw [setLine_self]
    exact new
  · rw [setLine_of_ne s line own]
    exact others l own

omit [DecidableEq κ] in
@[simp] theorem start_lines (sys : System) (s : Traffic ι κ) (i : Option ι) (job : ServerJob) :
    (s.start sys i job).lines = s.lines := rfl

omit [DecidableEq κ] in
theorem start_self (sys : System) (s : Traffic ι κ) (i : Option ι) (job : ServerJob) :
    (s.start sys i job).config.threads i = some ⟨job, job.program sys⟩ :=
  Function.update_self ..

omit [DecidableEq κ] in
theorem start_of_ne (sys : System) (s : Traffic ι κ) {i j : Option ι} (job : ServerJob)
    (other : j ≠ i) : (s.start sys i job).config.threads j = s.config.threads j :=
  Function.update_of_ne other ..

/-- A thread performs an effect. -/
inductive Acts (sys : System) (i : Option ι) : Traffic ι κ → Traffic ι κ → Prop where
  | act {s : Traffic ι κ} {job : ServerJob} {effect : Effect}
      {rest : effect.Reply → Prog job.Out} {reply : effect.Reply} {after : Site (Option ι)}
      (runs : s.config.threads i = some ⟨job, .act effect rest⟩)
      (step : siteStep sys i effect s.config.shared reply after) :
      Acts sys i s { s with config := {
        shared := after
        threads := Function.update s.config.threads i (some ⟨job, rest reply⟩) } }

/-- A step of the sessions, on the threads of `m_ioc`. -/
inductive Step (sys : System) (what : Exn → String) : Traffic ι κ → Traffic ι κ → Prop where
  | read {s : Traffic ι κ} {k : κ} {i : ι} {arriving : HttpRequest} {rest : List HttpRequest}
      (waits : (s.lines k).Waits .read) (sent : (s.lines k).unread = arriving :: rest)
      (fits : arriving.body.utf8ByteSize ≤ Connection.bodyLimit) (free : s.Free i) :
      Step sys what s
        ((s.setLine k ((s.lines k).readDone i arriving rest)).start sys (some i)
          (.request ((s.lines k).session.request.fill arriving)))
  /-- The error `body_limit`. -/
  | tooLarge {s : Traffic ι κ} {k : κ} {arriving : HttpRequest} {rest : List HttpRequest}
      (waits : (s.lines k).Waits .read) (sent : (s.lines k).unread = arriving :: rest)
      (large : Connection.bodyLimit < arriving.body.utf8ByteSize) :
      Step sys what s (s.setLine k { (s.lines k).fail with unread := rest })
  | act {s t : Traffic ι κ} {i : ι} (acts : Acts sys (some i) s t) : Step sys what s t
  | handled {s : Traffic ι κ} {k : κ} {i : ι} {result : Except Exn HttpResponse}
      (serves : (s.lines k).handler = some i)
      (ended : s.config.threads (some i) =
        some ⟨.request (s.lines k).session.request, Program.ofExcept result⟩) :
      Step sys what s (s.setLine k ((s.lines k).handlerDone what result))
  | write {s : Traffic ι κ} {k : κ} {response : HttpResponse}
      (waits : (s.lines k).Waits (.write response)) :
      Step sys what s (s.setLine k ((s.lines k).writeDone response))

/-- An operation on a socket fails. The end of the stream is such an error of a read. -/
inductive Fault : Traffic ι κ → Traffic ι κ → Prop where
  | read {s : Traffic ι κ} {k : κ} (waits : (s.lines k).Waits .read) :
      Fault s (s.setLine k (s.lines k).fail)
  | write {s : Traffic ι κ} {k : κ} {response : HttpResponse}
      (waits : (s.lines k).Waits (.write response)) : Fault s (s.setLine k (s.lines k).fail)

/-- A step of the main thread, which wakes up every five seconds. -/
inductive Main (sys : System) : Traffic ι κ → Traffic ι κ → Prop where
  | cleanup {s : Traffic ι κ} (idle : (s.config.threads none).Idle) :
      Main sys s (s.start sys none .cleanup)
  | act {s t : Traffic ι κ} (acts : Acts sys none s t) : Main sys s t

inductive Move (sys : System) (what : Exn → String) : Traffic ι κ → Traffic ι κ → Prop where
  | step {s t : Traffic ι κ} (step : Step sys what s t) : Move sys what s t
  | fault {s t : Traffic ι κ} (fault : Fault s t) : Move sys what s t
  | main {s t : Traffic ι κ} (main : Main sys s t) : Move sys what s t
  | arrive (s : Traffic ι κ) (k : κ) (req : HttpRequest) :
      Move sys what s (s.setLine k ((s.lines k).arrive req))

end Traffic

end MusicPlayer
