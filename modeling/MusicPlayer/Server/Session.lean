import MusicPlayer.Server.Run
import Mathlib.Data.List.DropRight

/-!
# Sessions

`src/server/Session.cpp`: one connection, with what Beast does for it. A session waits for one
asynchronous operation at a time, so it is a state machine whose steps are the completions of
reads and writes. The world may change between them, since other sessions go on.
-/
namespace MusicPlayer

open JsonUtil

/-! ### Request messages of Beast -/

namespace HttpRequest

/-- A new message. -/
def blank : HttpRequest := { method := .other "", target := "" }

/-- The parser of `async_read` sets the request line and adds to what the message has already. -/
def fill (msg arriving : HttpRequest) : HttpRequest :=
  { arriving with
    fields := msg.fields ++ arriving.fields
    body := msg.body ++ arriving.body }

/-- The tokens of a field value, without blanks around them and in lower case. -/
def tokenList (value : String) : List (List Char) :=
  let isBlank (c : Char) : Bool := c == ' ' || c == '\t'
  (value.toList.splitOn ',').map fun token =>
    ((token.map Char.toLower).dropWhile isBlank).rdropWhile isBlank

/-- `keep_alive()`: HTTP/1.0 closes unless it is told otherwise, HTTP/1.1 stays. -/
def keepAlive (req : HttpRequest) : Bool :=
  let tokens := tokenList (req.field "Connection")
  if req.version < 11 then tokens.contains "keep-alive".toList
  else !tokens.contains "close".toList

/-- `need_eof()` of a request: the end of a request is never the end of the stream. -/
def needEof (_ : HttpRequest) : Bool := false

@[simp] theorem fill_blank (arriving : HttpRequest) : blank.fill arriving = arriving := by
  simp [fill, blank]

end HttpRequest

/-! ### The session -/

/-- What a session waits for. -/
inductive Pending where
  | read
  /-- `m_response` is being written. -/
  | write (response : HttpResponse)
  /-- A completion handler has returned without a new operation. -/
  | ended
  | undefinedBehaviour

structure Session where
  request : HttpRequest := .blank
  pending : Pending

namespace Session

def doRead (session : Session) : Session := { session with pending := .read }

def run : Session := doRead { pending := .ended }

/-- The response to the request, from what `handleRouter` returns or throws; `what` is the text
of an exception. Undefined behaviour has none. -/
def handleRequest (what : Exn → String) (request : HttpRequest) :
    Except Exn HttpResponse → Option HttpResponse
  | .ok response => some response
  | .error .nullDeref | .error .danglingRead => none
  | .error exn => some (buildErrorResponse .internalServerError request.version (what exn))

def doWrite (session : Session) : Option HttpResponse → Session
  | some response => { session with pending := .write response }
  | none => { session with pending := .undefinedBehaviour }

end Session

/-- A connection with its session and the rest of the server. The lists of requests and exchanges
say what has happened; the session does not see them. -/
structure Connection where
  world : World
  session : Session := .run
  /-- Sent by the client and not read yet, in the socket or in `m_buffer`. -/
  unread : List HttpRequest := []
  written : List HttpResponse := []
  /-- The sending side was shut down. -/
  shutdown : Bool := false
  /-- A read has come to the end of the stream: the client has closed its side. -/
  hungUp : Bool := false
  arrived : List HttpRequest := []
  handled : List Exchange := []

namespace Connection

/-- `async_read` has completed: the request is handled and its response is on the way. -/
def readDone (sys : System) (what : Exn → String) (env : Env) (c : Connection)
    (arriving : HttpRequest) (rest : List HttpRequest) : Connection :=
  let request := c.session.request.fill arriving
  let x := exchange sys env c.world request
  { c with
    world := x.after
    unread := rest
    handled := c.handled ++ [x]
    session := { c.session with request }.doWrite (Session.handleRequest what request x.result) }

/-- `async_write` has completed. -/
def writeDone (c : Connection) (response : HttpResponse) : Connection :=
  if c.session.request.needEof then
    { c with
      written := c.written ++ [response]
      shutdown := true
      session := { c.session with pending := .ended } }
  else
    { c with
      written := c.written ++ [response]
      session := { c.session with request := .blank }.doRead }

/-- A step of the session. -/
inductive Step (sys : System) (what : Exn → String) : Connection → Connection → Prop where
  | read {c : Connection} {arriving : HttpRequest} {rest : List HttpRequest}
      (waits : c.session.pending = .read) (sent : c.unread = arriving :: rest) (env : Env) :
      Step sys what c (c.readDone sys what env arriving rest)
  | write {c : Connection} {response : HttpResponse} (waits : c.session.pending = .write response) :
      Step sys what c (c.writeDone response)

/-- A step of the session, of the client or of other sessions. -/
inductive Move (sys : System) (what : Exn → String) : Connection → Connection → Prop where
  | session {c d : Connection} (step : Step sys what c d) : Move sys what c d
  | arrive (c : Connection) (req : HttpRequest) :
      Move sys what c { c with unread := c.unread ++ [req], arrived := c.arrived ++ [req] }
  /-- The client has closed its side: `end_of_stream`. -/
  | hangUp {c : Connection} (waits : c.session.pending = .read) (drained : c.unread = []) :
      Move sys what c { c with hungUp := true, session := { c.session with pending := .ended } }
  | others (c : Connection) (world : World) : Move sys what c { c with world }

/-- Nothing is left to do for the session until the client sends more. -/
def Quiescent (sys : System) (what : Exn → String) (c : Connection) : Prop :=
  ∀ d, ¬Step sys what c d

/-! ### The limit of the parser -/

/-- The default `body_limit` of a request parser: 1 MiB. -/
def bodyLimit : Nat := 1024 * 1024

/-- `async_read` has come to its end. A body over the limit ends it with the error `body_limit`,
and then the completion handler returns without a new operation. -/
def asyncReadDone (sys : System) (what : Exn → String) (env : Env) (c : Connection)
    (arriving : HttpRequest) (rest : List HttpRequest) : Connection :=
  if arriving.body.utf8ByteSize ≤ bodyLimit then c.readDone sys what env arriving rest
  else { c with unread := rest, session := { c.session with pending := .ended } }

/-- The session receives the request that is next, and handles it in an environment unless it is
over the limit. -/
def Receives (sys : System) (what : Exn → String) (env : Env) (arriving : HttpRequest)
    (c d : Connection) : Prop :=
  c.session.pending = .read ∧ ∃ rest, c.unread = arriving :: rest ∧
    d = c.asyncReadDone sys what env arriving rest

/-- A move of a connection whose parser has the limit. -/
inductive LimitedMove (sys : System) (what : Exn → String) : Connection → Connection → Prop where
  | read {c d : Connection} {env : Env} {arriving : HttpRequest}
      (receives : Receives sys what env arriving c d) : LimitedMove sys what c d
  | write {c : Connection} {response : HttpResponse} (waits : c.session.pending = .write response) :
      LimitedMove sys what c (c.writeDone response)
  | arrive (c : Connection) (req : HttpRequest) :
      LimitedMove sys what c { c with unread := c.unread ++ [req], arrived := c.arrived ++ [req] }
  | hangUp {c : Connection} (waits : c.session.pending = .read) (drained : c.unread = []) :
      LimitedMove sys what c
        { c with hungUp := true, session := { c.session with pending := .ended } }
  | others (c : Connection) (world : World) : LimitedMove sys what c { c with world }

end Connection

end MusicPlayer
