import MusicPlayer.Server.Router

/-!
# Routed requests and runs of the server

A request goes through the router of `setupRoutes`. A run serves requests one after the
other, in any order and each in its own environment; expired codes may be cleaned up in
between. The journal of a run lists the exchanges, newest first.
-/
namespace MusicPlayer

open Resumption Program

/-- The routes whose handlers do something. -/
inductive Route where
  | register
  | verifyCode
  | login
  | profile
  | updateAvatar
  | getAvatar
  | password
  | bind
  | other
  deriving DecidableEq, Repr

def routeOf (req : HttpRequest) : Route :=
  match req.method, req.target with
  | .post, "/users/register" => .register
  | .post, "/users/verify_code" => .verifyCode
  | .post, "/users/login" => .login
  | .get, "/users/info" => .profile
  | .post, "/users/avatar" => .updateAvatar
  | .get, "/users/avatar" => .getAvatar
  | .post, "/users/password" => .password
  | .post, "/users/bind" => .bind
  | _, _ => .other

/-- A request that no route takes. -/
theorem routeOf_of_find_eq_none {sys : System} {req : HttpRequest}
    (unrouted : (setupRoutes sys).find req.method req.target = none) : routeOf req = .other := by
  unfold routeOf
  split
  all_goals first
    | rfl
    | next method target =>
      rw [method, target] at unrouted
      cases unrouted

theorem mem_routes {entries : List (String × RouterHandler)} {target : String}
    {handler : RouterHandler} (found : entries.lookup target = some handler) :
    (target, handler) ∈ entries := by
  obtain ⟨before, after, rfl, -⟩ := List.lookup_eq_some_iff.mp found
  simp

/-- `handleRouter` calls the handler of the route. Every other route answers without doing
anything. -/
theorem handleRouter_cases (sys : System) (req : HttpRequest) {P : Prog HttpResponse → Prop}
    (register : routeOf req = .register → P (UserHandler.handleRegister sys req))
    (verifyCode : routeOf req = .verifyCode → P (UserHandler.handleGetVerifyCode sys req))
    (login : routeOf req = .login → P (UserHandler.handleLogin sys req))
    (profile : routeOf req = .profile → P (UserHandler.handleGetProfile sys req))
    (updateAvatar : routeOf req = .updateAvatar → P (UserHandler.handleUpdateAvatar sys req))
    (getAvatar : routeOf req = .getAvatar → P (UserHandler.handleGetAvatar sys req))
    (password : routeOf req = .password → P (UserHandler.handleChangePassword sys req))
    (bind : routeOf req = .bind → P (UserHandler.handleBindPlatform sys req))
    (other : routeOf req = .other → ∀ res, P (.ret res)) :
    P ((setupRoutes sys).handleRouter req) := by
  unfold Router.handleRouter
  cases found : (setupRoutes sys).find req.method req.target with
  | none => exact other (routeOf_of_find_eq_none found) _
  | some handler =>
    dsimp only
    cases method : req.method with
    | other name =>
      rw [method] at found
      cases found
    | get =>
      rw [method] at found
      have member := mem_routes found
      simp only [setupRoutes, Router.addRouter, List.mem_cons, Prod.mk.injEq, List.not_mem_nil,
        or_false] at member
      rcases member with ⟨target, rfl⟩ | ⟨target, rfl⟩ | ⟨target, rfl⟩
      · exact getAvatar (by simp [routeOf, method, target])
      · exact profile (by simp [routeOf, method, target])
      · exact other (by simp [routeOf, method, target]) _
    | post =>
      rw [method] at found
      have member := mem_routes found
      simp only [setupRoutes, Router.addRouter, List.mem_cons, Prod.mk.injEq, List.not_mem_nil,
        or_false] at member
      rcases member with fixed | fixed | fixed | fixed | fixed | fixed | fixed | fixed | fixed |
        fixed | fixed | ⟨target, rfl⟩ | ⟨target, rfl⟩ | ⟨target, rfl⟩ | ⟨target, rfl⟩ |
        ⟨target, rfl⟩ | ⟨target, rfl⟩
      -- The playlist and history routes are stubs.
      iterate 11
        · obtain ⟨target, rfl⟩ := fixed
          exact other (by simp [routeOf, method, target]) _
      · exact bind (by simp [routeOf, method, target])
      · exact password (by simp [routeOf, method, target])
      · exact updateAvatar (by simp [routeOf, method, target])
      · exact login (by simp [routeOf, method, target])
      · exact verifyCode (by simp [routeOf, method, target])
      · exact register (by simp [routeOf, method, target])

def handlerOf (sys : System) : Route → Option (HttpRequest → Prog HttpResponse)
  | .register => some (UserHandler.handleRegister sys)
  | .verifyCode => some (UserHandler.handleGetVerifyCode sys)
  | .login => some (UserHandler.handleLogin sys)
  | .profile => some (UserHandler.handleGetProfile sys)
  | .updateAvatar => some (UserHandler.handleUpdateAvatar sys)
  | .getAvatar => some (UserHandler.handleGetAvatar sys)
  | .password => some (UserHandler.handleChangePassword sys)
  | .bind => some (UserHandler.handleBindPlatform sys)
  | .other => none

theorem handleRouter_eq {sys : System} {req : HttpRequest} {route : Route}
    {handler : HttpRequest → Prog HttpResponse} (served : handlerOf sys route = some handler)
    (taken : routeOf req = route) : (setupRoutes sys).handleRouter req = handler req := by
  refine handleRouter_cases sys req (P := fun prog => prog = handler req) ?_ ?_ ?_ ?_ ?_ ?_ ?_ ?_ ?_
  all_goals
    intro other
    rw [← taken, other] at served
    cases served
    try rfl

/-- One request answered, with the world before and after it. An error instead of an answer
is undefined behaviour. -/
structure Exchange where
  request : HttpRequest
  env : Env
  before : World
  result : Except Exn HttpResponse
  after : World

def serve (sys : System) (env : Env) (w : World) (req : HttpRequest) :
    Except Exn HttpResponse × World :=
  runProg sys env ((setupRoutes sys).handleRouter req) w

def exchange (sys : System) (env : Env) (w : World) (req : HttpRequest) : Exchange :=
  { request := req
    env := env
    before := w
    result := (serve sys env w req).1
    after := (serve sys env w req).2 }

inductive Run (sys : System) (start : World) : List Exchange → World → Prop where
  | start : Run sys start [] start
  | request {journal : List Exchange} {w : World} (run : Run sys start journal w) (env : Env)
      (req : HttpRequest) :
      Run sys start (exchange sys env w req :: journal) (exchange sys env w req).after
  | cleanup {journal : List Exchange} {w : World} (run : Run sys start journal w) (env : Env) :
      Run sys start journal (runProg sys env VerifyService.cleanupExpiredCodes w).2

/-- The run that serves given requests, the last one first. -/
def runOf (sys : System) (start : World) : List (Env × HttpRequest) → List Exchange × World
  | [] => ([], start)
  | (env, req) :: earlier =>
    let (journal, w) := runOf sys start earlier
    (exchange sys env w req :: journal, (exchange sys env w req).after)

theorem run_runOf (sys : System) (start : World) (requests : List (Env × HttpRequest)) :
    Run sys start (runOf sys start requests).1 (runOf sys start requests).2 := by
  induction requests with
  | nil => exact .start
  | cons request earlier ih => exact .request ih request.1 request.2

namespace Exchange

/-- Answered 200. -/
def Answered200 (x : Exchange) : Prop := ∃ res, x.result = .ok res ∧ res.status = .ok

instance (x : Exchange) : Decidable x.Answered200 :=
  match equal : x.result with
  | .ok res =>
    decidable_of_iff (res.status = .ok) (by simp [Answered200, equal])
  | .error _ => isFalse (by simp [Answered200, equal])

end Exchange

end MusicPlayer
