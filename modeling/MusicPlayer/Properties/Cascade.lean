import MusicPlayer.Resumption.Schedule
import MusicPlayer.Properties.Interference
import MusicPlayer.Properties.Ownership

/-!
# Deletions among other calls

Any number of threads call the data access objects, each one call after the other, and the tables
are empty at first. The tables keep what their keys promise all along. A deletion does its work in
one statement, so it is exact whatever the other threads do before and after that statement.
-/
namespace MusicPlayer

open Resumption Program Relational

/-- The world, and for each thread the tables before and after each statement that its call has
issued. Nothing the threads do depends on these. -/
structure CallState (ι : Type) where
  world : World
  statements : ι → List (Db × Db) := fun _ => []

section Threads

variable {ι : Type} [DecidableEq ι]

def noteStatement (i : ι) (effect : Effect) (before after : Db)
    (statements : ι → List (Db × Db)) : ι → List (Db × Db) :=
  match effect with
  | .connector _ (.execute _) =>
    Function.update statements i (statements i ++ [(before, after)])
  | _ => statements

/-- Each effect is answered by an environment of its own. -/
def callThreads (ι : Type) [DecidableEq ι] (sys : System) :
    Concurrent ι Effect Effect.Reply Exn DaoOp DaoOp.Result (CallState ι) where
  program := DaoOp.program sys
  starts i _ a b := b = { a with statements := Function.update a.statements i [] }
  step i effect a reply b :=
    (∃ env, Step sys env effect a.world reply b.world) ∧
      b.statements = noteStatement i effect a.world.db b.world.db a.statements

/-- No thread has called anything yet. -/
def callInit (ι : Type) (w : World) :
    Config ι Effect Effect.Reply Exn DaoOp.Result (CallState ι) where
  shared := { world := w }
  threads _ := none

end Threads

/-- The methods that delete. -/
def DaoOp.deletes : DaoOp → Bool
  | deleteUser _ | deletePlaylist _ | removeSongFromPlaylist .. | clearUserPlayHistory _
  | deletePlayHistory .. => true
  | _ => false

/-- How a call that deletes ends: without a statement, and then it has not deleted anything, or
with one statement, which has done what the result says. -/
inductive Deleted (sys : System) (op : DaoOp) (result : Except Exn op.Result) :
    List (Db × Db) → Prop where
  | without (done : ∀ db, DeletionDone sys op result db db) : Deleted sys op result []
  | once {before after : Db} (owned : before.Owned)
    (done : DeletionDone sys op result before after) : Deleted sys op result [(before, after)]

/-- What holds at every moment of every run. -/
structure Intact {ι : Type} (sys : System)
    (c : Config ι Effect Effect.Reply Exn DaoOp.Result (CallState ι)) : Prop where
  owned : c.shared.world.db.Owned
  /-- The calls that have ended. -/
  ended : ∀ i op result, c.threads i = some ⟨op, .ofExcept result⟩ → op.deletes = true →
    Deleted sys op result (c.shared.statements i)
  /-- The calls that could come next, if no other thread interferes. -/
  alone : ∀ (op : DaoOp) (env : Env) (n : Nat),
    DeletionDone sys op ((op.program sys).run (exec sys env) n c.shared.world).1 c.shared.world.db
      ((op.program sys).run (exec sys env) n c.shared.world).2.db

/-! ### Single effects -/

/-- The tables change by executed statements only. -/
theorem step_db {sys : System} {env : Env} {effect : Effect} {before after : World}
    {reply : effect.Reply} (step : Step sys env effect before reply after) :
    after.db = before.db ∨ ∃ (s : Statement) (ctx : SqlContext) (value : s.Reply),
      s.exec ctx before.db = some (value, after.db) := by
  by_cases bare : effect.Bare
  · obtain ⟨count, performed⟩ := step
    have kept := (exec_bare sys env count bare before before).1
    rw [performed] at kept
    exact .inl (congrArg World.db kept)
  cases effect with
  | connector conn c =>
    cases c with
    | execute s =>
      -- A statement that throws leaves the tables as they were.
      rcases step_statement step with ⟨-, rfl⟩ | ⟨ctx, value, db, -, -, executed, rfl⟩
      · exact .inl rfl
      · exact .inr ⟨s, ctx, value, executed⟩
    | _ => exact absurd trivial bare
  | fileExists | createDirectory | openOut | closeOut =>
    obtain ⟨count, performed⟩ := step
    simp only [exec] at performed
    split at performed <;> (cases performed; exact .inl rfl)
  | _ =>
    obtain ⟨count, performed⟩ := step
    cases performed
    exact .inl rfl

theorem Db.Owned.step {sys : System} {env : Env} {effect : Effect} {before after : World}
    {reply : effect.Reply} (owned : before.db.Owned)
    (step : Step sys env effect before reply after) : after.db.Owned := by
  rcases step_db step with same | ⟨s, ctx, value, executed⟩
  · rw [same]
    exact owned
  · exact owned.statement executed

/-! ### Calls under interference -/

section Calls

variable {ι : Type} [DecidableEq ι] {sys : System} {i : ι} {a b : CallState ι}

/-- The tables are as their keys say, and a thread's record is its own. -/
def callProtocol (ι : Type) (sys : System) :
    Protocol ι Effect Exn DaoOp DaoOp.Result (CallState ι) where
  inv a := a.world.db.Owned
  rely i a b := b.statements i = a.statements i
  pre _ _ _ := True
  post i op result a := op.deletes = true → Deleted sys op result (a.statements i)
  idle _ _ := True

/-- A step of a thread while the tables are as their keys say. -/
def callStep (sys : System) (i : ι) (effect : Effect) (a : CallState ι) (reply : effect.Reply)
    (b : CallState ι) : Prop :=
  a.world.db.Owned ∧ (callThreads ι sys).step i effect a reply b

/-- A part of a deletion that ends it as it should. -/
abbrev Deletes (sys : System) (i : ι) (op : DaoOp) (prog : Prog op.Result) (a : CallState ι) :
    Prop :=
  prog.Safe (callStep sys i) ((callProtocol ι sys).rely i) (fun _ a => a.world.db.Owned → True)
    (fun result b => Deleted sys op result (b.statements i)) a

omit [DecidableEq ι] in
theorem owes_nothing (effect : Effect) (a : CallState ι) (_ : effect.Bare) :
    a.world.db.Owned → True :=
  fun _ => trivial

/-- What is known of the statements of a call is ended by none but a statement of its own. -/
theorem undisturbed_statements (known : List (Db × Db) → Prop) :
    Undisturbed (callStep sys i) ((callProtocol ι sys).rely i)
      (fun a => known (a.statements i)) where
  later a b holds interfered := by
    have same : b.statements i = a.statements i := interfered
    rwa [same]
  bare effect a reply b bare holds step := by
    obtain ⟨-, -, noted⟩ := step
    have same : noteStatement i effect a.world.db b.world.db a.statements = a.statements := by
      cases effect with
      | connector conn c =>
        cases c with
        | execute s => exact bare.elim
        | _ => rfl
      | _ => rfl
    rwa [noted, same]

/-- The result that the `catch` clause makes of an exception. -/
theorem Deleted.caught {op : DaoOp} {exn : Exn} {statements : List (Db × Db)}
    (deleted : Deleted sys op (.error exn) statements) :
    Deleted sys op (.ok op.failure) statements := by
  have same {before after : Db} (done : DeletionDone sys op (.error exn) before after) :
      DeletionDone sys op (.ok op.failure) before after := by
    cases op <;> simp_all [DeletionDone, DaoOp.failure]
  cases deleted with
  | without done => exact .without fun db => same (done db)
  | once owned done => exact .once owned (same done)

/-- A call without a statement so far, and with its only statement ahead. -/
theorem safe_deletion {op : DaoOp} {conn : Option Conn} {s : Statement}
    {finish : s.Reply → op.Result}
    (done : ∀ (ctx : SqlContext) (before : Db) value after, before.Owned →
      ctx.collate = sys.collate → s.exec ctx before = some (value, after) →
        DeletionDone sys op (.ok (finish value)) before after)
    (fresh : a.statements i = []) :
    Deletes sys i op (((⟨conn⟩ : SqlConnGuard).execute s).bind fun value => .ret (finish value))
      a := by
  have noted {a b : CallState ι} {reply : Except Exn s.Reply} (fresh : a.statements i = [])
      (step : callStep sys i (.connector conn (.execute s)) a reply b) :
      b.statements i = [(a.world.db, b.world.db)] := by
    rw [step.2.2]
    simp [noteStatement, fresh]
  refine safe_statement (undisturbed_statements (· = [])) fresh (fun _ _ _ => trivial) ?_ ?_
  · intro a exn b fresh step
    rw [noted fresh step]
    obtain ⟨owned, ⟨env, performed⟩, -⟩ := step
    -- A statement that throws has changed nothing.
    rcases step_statement performed with ⟨-, world⟩ | ⟨ctx, value, db, -, answer, -⟩
    · rw [world]
      exact .once owned (deletionDone_error op exn _)
    · cases answer
  · intro a value b fresh step
    change Deleted sys op (.ok (finish value)) (b.statements i)
    rw [noted fresh step]
    obtain ⟨owned, ⟨env, performed⟩, -⟩ := step
    rcases step_statement performed with
      ⟨⟨exn, answer⟩, -⟩ | ⟨ctx, v, db, collate, answer, executed, world⟩
    · cases answer
    · cases answer
      rw [world]
      exact .once owned (done ctx _ value db owned collate executed)

/-- A call of the connector before the statement. -/
theorem safe_before {op : DaoOp} {guard : SqlConnGuard} {c : ConnectorCall}
    {next : c.Reply → Prog op.Result} (plain : c.isPlain = true) (fresh : a.statements i = [])
    (continues : ∀ reply (b : CallState ι), b.statements i = [] →
      Deletes sys i op (next reply) b) :
    Deletes sys i op ((guard.call c).bind next) a := by
  refine safe_plain (undisturbed_statements (· = [])) owes_nothing plain fresh
    (fun exn b fresh => ?_) continues
  rw [fresh]
  exact .without (deletionDone_error op exn)

/-- The method around a body that deletes. -/
theorem safe_deleting {op : DaoOp} {body : SqlConnGuard → Prog op.Result}
    (fresh : a.statements i = [])
    (works : ∀ conn (b : CallState ι), b.statements i = [] → Deletes sys i op (body ⟨conn⟩) b) :
    Deletes sys i op (daoMethod op.failure body) a := by
  refine (safe_method (fun result b => Deleted sys op result (b.statements i))
    (undisturbed_statements (· = [])) owes_nothing
    (fun result => undisturbed_statements (Deleted sys op result)) fresh ?_ works).mono ?_
  · intro exn b fresh
    rw [fresh]
    exact .without (deletionDone_error op exn)
  · rintro result b (deleted | ⟨rfl, deleted⟩)
    · exact deleted
    · exact deleted.caught

theorem deletes_program {op : DaoOp} (deleting : op.deletes = true) (fresh : a.statements i = []) :
    Deletes sys i op (op.program sys) a := by
  cases op with
  | deleteUser id =>
    change Deletes sys i (.deleteUser id) (UserDAO.deleteUser id) a
    refine safe_deleting fresh fun conn b fresh => ?_
    iterate 2 refine safe_before rfl fresh fun _ b fresh => ?_
    refine safe_deletion (fun ctx before value after owned _ executed => ?_) fresh
    cases executed
    exact owned.deletionDone_user id
  | deletePlaylist id =>
    change Deletes sys i (.deletePlaylist id) (PlaylistDAO.deletePlaylist id) a
    refine safe_deleting fresh fun conn b fresh => ?_
    iterate 2 refine safe_before rfl fresh fun _ b fresh => ?_
    refine safe_deletion (fun ctx before value after owned _ executed => ?_) fresh
    cases executed
    exact owned.deletionDone_playlist id
  -- These three delete below, where nothing depends on the rows. Texts are compared as the
  -- collation has it.
  | removeSongFromPlaylist playlistId songId songSource =>
    change Deletes sys i (.removeSongFromPlaylist playlistId songId songSource)
      (PlaylistDAO.removeSongFromPlaylist playlistId songId songSource) a
    refine safe_deleting fresh fun conn b fresh => ?_
    iterate 4 refine safe_before rfl fresh fun _ b fresh => ?_
    refine safe_deletion (fun ctx before value after owned collate executed => ?_) fresh
    cases executed
    rw [collate]
    exact deletionDone_songs _
  | clearUserPlayHistory userId =>
    change Deletes sys i (.clearUserPlayHistory userId)
      (PlayHistoryDAO.clearUserPlayHistory userId) a
    refine safe_deleting fresh fun conn b fresh => ?_
    iterate 2 refine safe_before rfl fresh fun _ b fresh => ?_
    refine safe_deletion (fun ctx before value after owned _ executed => ?_) fresh
    cases executed
    exact deletionDone_history _
  | deletePlayHistory historyId userId =>
    change Deletes sys i (.deletePlayHistory historyId userId)
      (PlayHistoryDAO.deletePlayHistory historyId userId) a
    refine safe_deleting fresh fun conn b fresh => ?_
    iterate 3 refine safe_before rfl fresh fun _ b fresh => ?_
    refine safe_deletion (fun ctx before value after owned _ executed => ?_) fresh
    cases executed
    exact deletionDone_history _
  | _ => cases deleting

/-- Every call is safe from its start. -/
theorem safe_daoProgram (op : DaoOp) (fresh : a.statements i = []) :
    (callProtocol ι sys).SafeAt (callThreads ι sys) i op (op.program sys) a := by
  cases deleting : op.deletes with
  | true =>
    exact (deletes_program deleting fresh).mono fun result b deleted _ => deleted
  | false =>
    -- Nothing is asked of the other methods.
    refine Safe.unconstrained (fun _ _ _ => trivial) (fun result b deletes => ?_) a
    rw [deleting] at deletes
    cases deletes

theorem noteStatement_other {effect : Effect} {before after : Db}
    {statements : ι → List (Db × Db)} {j : ι} (other : j ≠ i) :
    noteStatement i effect before after statements j = statements j := by
  unfold noteStatement
  split
  · exact Function.update_of_ne other ..
  · rfl

theorem callProtocol_sound : (callProtocol ι sys).Sound (callThreads ι sys) where
  refl _ _ := rfl
  trans _ _ _ _ first second := second.trans first
  starts i op a b owned _ started := by
    cases started
    refine ⟨owned, safe_daoProgram op ?_, fun j other => ?_⟩
    · simp
    · exact Function.update_of_ne other ..
  acts i effect a reply b owned _ step := by
    obtain ⟨⟨env, performed⟩, noted⟩ := step
    refine ⟨owned.step performed, fun j other => ?_⟩
    change b.statements j = a.statements j
    rw [noted]
    exact noteStatement_other other
  post_stable i op result a b ended interfered deletes := by
    have same : b.statements i = a.statements i := interfered
    rw [same]
    exact ended deletes
  idle_stable _ _ _ _ _ := trivial
  finishes _ _ _ _ _ := trivial

/-- From empty tables, at every moment of every interleaving: each row has its owner, each deletion
that has ended has done exactly what it returned, and so would each deletion made now. -/
theorem calls_intact {w : World} {c : Config ι Effect Effect.Reply Exn DaoOp.Result (CallState ι)}
    (empty : w.db.Empty) (reach : (callThreads ι sys).Reachable (callInit ι w) c) :
    Intact sys c := by
  have start : (callProtocol ι sys).Holds (callThreads ι sys) (callInit ι w) :=
    ⟨Db.Owned.of_empty empty, fun _ => trivial⟩
  have holds := start.reachable callProtocol_sound reach
  refine ⟨holds.inv, fun i op result ended => ?_, fun op env n => deletion_alone holds.inv op env n⟩
  cases result with
  | ok value => exact holds.post callProtocol_sound ended
  | error exn => exact holds.post_raise callProtocol_sound ended

end Calls

section Run

open Reference

def callExec (i : Fin 3) (choice : Env × Nat) (effect : Effect) (a : CallState (Fin 3)) :
    effect.Reply × CallState (Fin 3) :=
  let (reply, world) := exec system choice.1 choice.2 effect a.world
  (reply, { world, statements := noteStatement i effect a.world.db world.db a.statements })

def begun (c : Config (Fin 3) Effect Effect.Reply Exn DaoOp.Result (CallState (Fin 3)))
    (i : Fin 3) (op : DaoOp) :
    Config (Fin 3) Effect Effect.Reply Exn DaoOp.Result (CallState (Fin 3)) :=
  ⟨{ c.shared with statements := Function.update c.shared.statements i [] },
    Function.update c.threads i (some ⟨op, op.program system⟩)⟩

/-- A user is created, gets a playlist and is deleted, by three threads. -/
def userDeleted : Config (Fin 3) Effect Effect.Reply Exn DaoOp.Result (CallState (Fin 3)) :=
  let created := begun (callInit (Fin 3) {}) 0
    (.createUser { username := "bob", passwdHash := "secret", email := "bob@example.com" })
  let listed := begun created 1 (.createPlaylist { name := "Mix", userId := 1 })
  let deleted := begun listed 2 (.deleteUser 1)
  let served : Env × Nat := ({ env 0 with connection := fun _ => some 0 }, 0)
  deleted.runSchedule callExec (List.replicate 20 (0, served) ++ List.replicate 20 (1, served) ++
    List.replicate 10 (2, served))

theorem userDeleted_reachable :
    (callThreads (Fin 3) system).Reachable (callInit (Fin 3) {}) userDeleted := by
  refine Concurrent.Reachable.runSchedule ?_ _ fun i choice _ effect a =>
    ⟨⟨choice.1, choice.2, rfl⟩, rfl⟩
  refine Concurrent.Reachable.start (Concurrent.Reachable.start
    (Concurrent.Reachable.start .init 0 _ ?_ rfl) 1 _ ?_ rfl) 2 _ ?_ rfl
  all_goals trivial

/-- The argument and the result of a call of `deleteUser`. -/
def userDeletion? : (Σ op : DaoOp, op.Result) → Option (Int32 × Bool)
  | ⟨.deleteUser id, value⟩ => some (id, value)
  | _ => none

theorem userDeleted_returned : userDeleted.threads 2 = some ⟨.deleteUser 1, .ret true⟩ := by
  have evaluated : (userDeleted.threads 2).returned?.bind userDeletion? = some (1, true) := by
    decide +kernel
  obtain ⟨⟨op, value⟩, returned, deletion⟩ := Option.bind_eq_some_iff.mp evaluated
  rw [Thread.returned?_eq_some.mp returned]
  cases op with
  | deleteUser id =>
    cases deletion
    rfl
  | _ => cases deletion

theorem calls_intact_userDeleted : Intact system userDeleted ∧
    Deleted system (.deleteUser 1) (.ok true) (userDeleted.shared.statements 2) := by
  have intact := calls_intact ⟨rfl, rfl, rfl, rfl⟩ userDeleted_reachable
  exact ⟨intact, intact.ended 2 (.deleteUser 1) (.ok true) userDeleted_returned rfl⟩

end Run

end MusicPlayer
