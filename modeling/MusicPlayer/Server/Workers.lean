import MusicPlayer.Server.Run
import MusicPlayer.Server.Threads

/-!
# The server at work

The threads of `m_ioc` run the handlers of requests, and the main thread cleans up the expired
codes between its sleeps. All of them share the connection pool, the database, the map of codes
and the files, and they are interleaved at single effects.
-/
namespace MusicPlayer

open Resumption Program

/-- What a thread runs: the handler of a request, or `cleanupExpiredCodes`. -/
inductive ServerJob where
  | request (req : HttpRequest)
  | cleanup

namespace ServerJob

@[reducible] def Out : ServerJob → Type
  | request _ => HttpResponse
  | cleanup => Nat

def program (sys : System) : (job : ServerJob) → Prog job.Out
  | request req => (setupRoutes sys).handleRouter req
  | cleanup => VerifyService.cleanupExpiredCodes

end ServerJob

/-- The mail that went out with an effect. -/
def Effect.mails : (effect : Effect) → effect.Reply → List Mail
  | .curlPerform mail, true => [mail]
  | _, _ => []

/-- What has befallen the job of a thread. -/
inductive Fate where
  | fine
  /-- Its wait for a connection ended on an empty pool. -/
  | timedOut
  /-- The entry it had found in the map of codes was erased before it read it. -/
  | dangling
  deriving DecidableEq

/-- The fate of a job after one more effect. -/
def Fate.after (fate : Fate) : (effect : Effect) → effect.Reply → Fate
  | .waitFor, none => .timedOut
  | .derefCode _, .error _ => .dangling
  | _, _ => fate

/-- What all threads share, with the mails that have gone out so far and the fates of the jobs.
Nothing the threads do depends on these two records. -/
structure Site (ι : Type) where
  pool : PoolState ι
  mails : List Mail := []
  fate : ι → Fate := fun _ => .fine

section Workers

variable {ι : Type} [DecidableEq ι]

def Site.world (site : Site ι) : World := site.pool.world

/-- The records after an effect of a thread. -/
def Site.note (a : Site ι) (i : ι) (effect : Effect) (reply : effect.Reply) (pool : PoolState ι) :
    Site ι where
  pool := pool
  mails := a.mails ++ effect.mails reply
  fate := Function.update a.fate i ((a.fate i).after effect reply)

/-- One effect of a thread. -/
def siteStep (sys : System) (i : ι) (effect : Effect) (a : Site ι) (reply : effect.Reply)
    (b : Site ι) : Prop :=
  ∃ pool, poolStep sys (fun _ => True) i effect a.pool reply pool ∧ b = a.note i effect reply pool

/-- A new job of a thread. -/
def Site.begin (a : Site ι) (i : ι) : Site ι :=
  { a with pool := a.pool.begin i, fate := Function.update a.fate i .fine }

/-- One effect of a thread in a given environment, as the `n`-th effect for it. -/
def siteExec (sys : System) (i : ι) (choice : Env × Nat) (effect : Effect) (a : Site ι) :
    effect.Reply × Site ι :=
  let (reply, pool) := poolExec sys i choice effect a.pool
  (reply, a.note i effect reply pool)

theorem siteStep_siteExec (sys : System) (i : ι) (choice : Env × Nat) (effect : Effect)
    (a : Site ι) :
    siteStep sys i effect a (siteExec sys i choice effect a).1 (siteExec sys i choice effect a).2 :=
  ⟨_, poolStep_poolExec trivial effect a.pool, rfl⟩

/-- Threads that serve requests or clean up, one job after the other. -/
def workers (ι : Type) [DecidableEq ι] (sys : System) :
    Concurrent ι Effect Effect.Reply Exn ServerJob ServerJob.Out (Site ι) where
  program := ServerJob.program sys
  starts i _ a b := b = a.begin i
  step := siteStep sys

/-- All threads before their first job, over the pool that the constructor made. -/
def workersInit (ι : Type) (outcome : Nat → DBManager.ConnectOutcome) (poolSize : Nat)
    (w : World) : Config ι Effect Effect.Reply Exn ServerJob.Out (Site ι) where
  shared := { pool := { world := w, pool := DBManager.construct outcome poolSize } }
  threads _ := none

/-- Threads that have just begun with their jobs. -/
def workersBegun (ι : Type) [DecidableEq ι] (sys : System)
    (outcome : Nat → DBManager.ConnectOutcome) (poolSize : Nat) (w : World)
    (jobs : List (ι × ServerJob)) : Config ι Effect Effect.Reply Exn ServerJob.Out (Site ι) :=
  jobs.foldr (fun (i, job) c => {
    shared := c.shared.begin i
    threads := Function.update c.threads i (some ⟨job, job.program sys⟩) })
    (workersInit ι outcome poolSize w)

theorem workersBegun_reachable {sys : System} {outcome : Nat → DBManager.ConnectOutcome}
    {poolSize : Nat} {w : World} {jobs : List (ι × ServerJob)}
    (distinct : (jobs.map Prod.fst).Nodup) :
    (workers ι sys).Reachable (workersInit ι outcome poolSize w)
      (workersBegun ι sys outcome poolSize w jobs) := by
  suffices both : (workers ι sys).Reachable (workersInit ι outcome poolSize w)
      (workersBegun ι sys outcome poolSize w jobs) ∧ ∀ i, i ∉ jobs.map Prod.fst →
        (workersBegun ι sys outcome poolSize w jobs).threads i = none from both.1
  induction jobs with
  | nil => exact ⟨.init, fun _ _ => rfl⟩
  | cons first jobs ih =>
    obtain ⟨i, job⟩ := first
    obtain ⟨new, distinct⟩ := List.nodup_cons.mp distinct
    obtain ⟨reach, others⟩ := ih distinct
    have idle : ((workersBegun ι sys outcome poolSize w jobs).threads i).Idle := by
      rw [others i new]
      trivial
    refine ⟨reach.start i job idle rfl, fun j absent => ?_⟩
    rw [List.map_cons, List.mem_cons, not_or] at absent
    exact (Function.update_of_ne absent.1 ..).trans (others j absent.2)

/-- Of the world a thread sees an answer that an environment gives. -/
theorem step_of_siteStep {sys : System} {i : ι} {effect : Effect} {a b : Site ι}
    {reply : effect.Reply} (step : siteStep sys i effect a reply b) :
    ∃ env, Step sys env effect a.world reply b.world := by
  obtain ⟨pool, pooled, rfl⟩ := step
  exact step_of_poolStep pooled

theorem mails_of_siteStep {sys : System} {i : ι} {effect : Effect} {a b : Site ι}
    {reply : effect.Reply} (step : siteStep sys i effect a reply b) :
    b.mails = a.mails ++ effect.mails reply := by
  obtain ⟨pool, -, rfl⟩ := step
  rfl

end Workers

end MusicPlayer
