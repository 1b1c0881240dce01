import MusicPlayer.Properties.ConnectionPool
import MusicPlayer.Reference

/-!
# The methods keep the protocol of the pool

Each method takes one connection, works under one guard and gives the connection back,
however its body ends. So every interleaving of methods conserves the connections.
-/
namespace MusicPlayer

open Resumption Program

variable {ι : Type} [DecidableEq ι]

/-- What a thread knows between two of its effects: where its connection is, which users it
has inserted, and whether it has waited in vain. -/
structure Sees (i : ι) (popped guarded : Option Conn) (waited : Bool) (rows : List UserRow)
    (s : PoolState ι) : Prop where
  popped : s.popped i = popped
  guarded : s.guarded i = guarded
  timedOut : waited = true → s.timedOut i = true
  rows : s.rowsBy i = rows

namespace Sees

variable {i : ι} {popped guarded : Option Conn} {waited : Bool} {rows : List UserRow}
  {a b : PoolState ι}

theorem later (sees : Sees i popped guarded waited rows a) (interfered : PoolRely i a b) :
    Sees i popped guarded waited rows b where
  popped := interfered.popped.trans sees.popped
  guarded := interfered.guarded.trans sees.guarded
  timedOut vain := interfered.timedOut.trans (sees.timedOut vain)
  rows := interfered.rows.trans sees.rows

theorem advance (sees : Sees i popped guarded waited rows a) (w : World) :
    Sees i popped guarded waited (rows ++ w.db.users.rows.drop a.world.db.users.rows.length)
      (a.advance i w) where
  popped := sees.popped
  guarded := sees.guarded
  timedOut := sees.timedOut
  rows := by rw [rowsBy_advance, sees.rows]

/-- A world with the same users. -/
theorem advance_of_users (sees : Sees i popped guarded waited rows a) {w : World}
    (users : w.db.users = a.world.db.users) :
    Sees i popped guarded waited rows (a.advance i w) := by
  have next := sees.advance w
  rw [users, List.drop_length, List.append_nil] at next
  exact next

end Sees

/-- A program of a thread that does what it owes, whatever the others do. -/
def PoolSafe {α : Type} (sys : System) (envs : Env → Prop) (created : List Conn)
    (statements : Statement → Prop) (i : ι) (prog : Prog α)
    (post : Except Exn α → PoolState ι → Prop) (s : PoolState ι) : Prop :=
  prog.Safe (fun effect a reply b => Conserved created a ∧ poolStep sys envs i effect a reply b)
    (PoolRely i) (fun effect a => Conserved created a → PoolPre statements i effect a) post s

/-- A statement that only reads. -/
def Statement.Reads (s : Statement) : Prop :=
  ∀ ctx db reply after, s.exec ctx db = some (reply, after) → after = db

section Rules

variable {sys : System} {envs : Env → Prop} {created : List Conn} {statements : Statement → Prop}
  {i : ι} {α : Type} {post : Except Exn α → PoolState ι → Prop} {rows : List UserRow}
  {waited : Bool} {s : PoolState ι}

theorem safe_lockPool {rest : Option Conn → Prog α} (sees : Sees i none none waited rows s)
    (continues : ∀ conn b, Sees i conn none false rows b →
      PoolSafe sys envs created statements i (rest conn) post b) :
    PoolSafe sys envs created statements i (.act .lockPool rest) post s := by
  intro a interfered
  have sees := sees.later interfered
  refine ⟨fun _ => ⟨sees.popped, sees.guarded⟩, ?_⟩
  rintro reply b ⟨-, step⟩
  have taken : a.take i = (reply, b) := step.symm
  unfold PoolState.take at taken
  split at taken
  · cases taken
    exact continues _ _ ⟨sees.popped, sees.guarded, by simp, sees.rows⟩
  · cases taken
    exact continues _ _ ⟨Function.update_self .., sees.guarded, by simp, sees.rows⟩

theorem safe_waitFor {rest : Option Conn → Prog α} (sees : Sees i none none waited rows s)
    (continues : ∀ conn b, Sees i conn none conn.isNone rows b →
      PoolSafe sys envs created statements i (rest conn) post b) :
    PoolSafe sys envs created statements i (.act .waitFor rest) post s := by
  intro a interfered
  have sees := sees.later interfered
  refine ⟨fun _ => ⟨sees.popped, sees.guarded⟩, ?_⟩
  rintro reply b ⟨-, step⟩
  have taken : a.afterWait i = (reply, b) := step.symm
  unfold PoolState.afterWait at taken
  split at taken
  · cases taken
    exact continues _ _ ⟨sees.popped, sees.guarded, fun _ => Function.update_self .., sees.rows⟩
  next conn rest pool =>
    simp only [PoolState.take, pool] at taken
    cases taken
    exact continues _ _ ⟨Function.update_self .., sees.guarded, by simp, sees.rows⟩

theorem safe_constructGuard {conn : Option Conn} {rest : Unit → Prog α}
    (sees : Sees i conn none waited rows s)
    (continues : ∀ b, Sees i none conn waited rows b →
      PoolSafe sys envs created statements i (rest ()) post b) :
    PoolSafe sys envs created statements i (.act (.constructGuard conn) rest) post s := by
  intro a interfered
  have sees := sees.later interfered
  refine ⟨fun _ => ⟨sees.popped, sees.guarded⟩, ?_⟩
  rintro reply b ⟨-, step⟩
  obtain rfl : b = a.construct i conn := step
  exact continues _ ⟨Function.update_self .., Function.update_self .., sees.timedOut, sees.rows⟩

/-- `~SqlConnGuard`. -/
theorem safe_destroy {conn : Option Conn} {next : Unit → Prog α}
    (sees : Sees i none conn waited rows s)
    (continues : ∀ b, Sees i none none waited rows b →
      PoolSafe sys envs created statements i (next ()) post b) :
    PoolSafe sys envs created statements i ((SqlConnGuard.destroy ⟨conn⟩).bind next) post s := by
  cases conn with
  | none => exact continues s sees
  | some conn =>
    intro a interfered
    have sees := sees.later interfered
    refine ⟨fun _ => ⟨sees.popped, sees.guarded⟩, ?_⟩
    rintro reply b ⟨-, step⟩
    obtain rfl : b = a.release i conn := step
    exact continues _ ⟨sees.popped, Function.update_self .., sees.timedOut, sees.rows⟩

/-- A call that executes no statement returns or throws, and moves nothing. -/
theorem exec_plain (sys : System) (env : Env) (count : Nat) (k : Conn) {c : ConnectorCall}
    (plain : ∀ s, c ≠ .execute s) (w : World) :
    exec sys env count (.connector (some k) c) w = (.error .sqlException, w) ∨
      ∃ reply, exec sys env count (.connector (some k) c) w = (.ok reply, w) := by
  simp only [exec]
  split
  · exact .inl rfl
  cases c with
  | execute s => exact absurd rfl (plain s)
  | _ => exact .inr ⟨_, rfl⟩

/-- A call of `getConnection` on the connection it has just popped. -/
theorem safe_call_popped {k : Conn} {c : ConnectorCall} (plain : ∀ s, c ≠ .execute s)
    (sees : Sees i (some k) none waited rows s) :
    PoolSafe sys envs created statements i (DBManager.call (some k) c) (fun result b =>
      Sees i (some k) none waited rows b ∧ ∀ exn, result = .error exn → exn = .sqlException) s := by
  intro a interfered
  have sees := sees.later interfered
  constructor
  · intro _
    exact ⟨.inl ⟨sees.popped, sees.guarded⟩, by simp, fun s equal => absurd equal (plain s)⟩
  rintro reply b ⟨-, env, count, w, -, performed, rfl⟩
  rcases exec_plain sys env count k plain a.world with throws | ⟨value, returns⟩
  · rw [throws] at performed
    cases performed
    refine ⟨sees.advance_of_users rfl, ?_⟩
    rintro exn equal
    cases equal
    rfl
  · rw [returns] at performed
    cases performed
    exact ⟨sees.advance_of_users rfl, by simp⟩

theorem PoolSafe.bind {β : Type} {prog : Prog β} {next : β → Prog α}
    {middle : Except Exn β → PoolState ι → Prop}
    (first : PoolSafe sys envs created statements i prog middle s)
    (raised : ∀ exn b, middle (.error exn) b → post (.error exn) b)
    (continues : ∀ value b, middle (.ok value) b →
      PoolSafe sys envs created statements i (next value) post b) :
    PoolSafe sys envs created statements i (prog.bind next) post s := by
  refine (Safe.bind_iff ..).mpr (first.mono fun result b holds => ?_)
  cases result with
  | ok value => exact continues value b holds
  | error exn => exact raised exn b holds

/-- The reconnect of an invalid connection keeps it, and its failure is swallowed. -/
theorem safe_revalidate {k : Conn} (sees : Sees i (some k) none waited rows s) :
    PoolSafe sys envs created statements i (DBManager.revalidate (some k)) (fun result b =>
      Sees i (some k) none waited rows b ∧ result = .ok ()) s := by
  -- An exception of one of the calls is the exception of the block.
  have raised {β : Type} (exn : Exn) (b : PoolState ι)
      (holds : Sees i (some k) none waited rows b ∧
        ∀ other, (.error exn : Except Exn β) = .error other → other = .sqlException) :
      Sees i (some k) none waited rows b ∧
        ∀ other, (.error exn : Except Exn Unit) = .error other → other = .sqlException := by
    refine ⟨holds.1, fun other equal => ?_⟩
    cases equal
    exact holds.2 exn rfl
  have block : PoolSafe sys envs created statements i
      ((DBManager.call (some k) .isValid).bind fun valid =>
        if (!valid) = true then
          (DBManager.call (some k) .reconnect).bind fun _ => DBManager.call (some k) .setSchema
        else .ret ()) (fun result b => Sees i (some k) none waited rows b ∧
          ∀ exn, result = .error exn → exn = .sqlException) s := by
    refine PoolSafe.bind (safe_call_popped (by simp) sees) raised fun valid b holds => ?_
    cases valid with
    | true => exact ⟨holds.1, by simp⟩
    | false =>
      refine PoolSafe.bind (safe_call_popped (by simp) holds.1) raised fun _ b holds => ?_
      exact safe_call_popped (by simp) holds.1
  refine (Safe.tryCatch_iff ..).mpr (block.mono ?_)
  rintro result b ⟨sees, only⟩
  cases result with
  | ok value => exact ⟨sees, rfl⟩
  | error exn =>
    cases only exn rfl
    exact ⟨sees, rfl⟩

/-- `getConnection` ends with a connection, or with none after a wait in vain. -/
theorem safe_getConnection {next : Option Conn → Prog α} (sees : Sees i none none waited rows s)
    (continues : ∀ conn b, Sees i conn none conn.isNone rows b →
      PoolSafe sys envs created statements i (next conn) post b) :
    PoolSafe sys envs created statements i (DBManager.getConnection.bind next) post s := by
  have popped {k : Conn} {b : PoolState ι} (sees : Sees i (some k) none false rows b) :
      PoolSafe sys envs created statements i
        (((DBManager.revalidate (some k)).bind fun _ => .ret (some k)).bind next) post b := by
    rw [bind_assoc]
    refine PoolSafe.bind (safe_revalidate sees) ?_ fun _ b holds => continues _ b holds.1
    rintro exn b ⟨-, equal⟩
    cases equal
  refine safe_lockPool sees fun conn b sees => ?_
  cases conn with
  | some k => exact popped sees
  | none =>
    refine safe_waitFor sees fun conn b sees => ?_
    cases conn with
    | some k => exact popped sees
    | none => exact continues none b sees

/-- A call that only reads leaves the database as it is. -/
theorem exec_reads (sys : System) (env : Env) (count : Nat) (conn : Option Conn)
    {c : ConnectorCall} (reads : ∀ s, c = .execute s → s.Reads) (w : World) :
    (exec sys env count (.connector conn c) w).2.db = w.db := by
  cases conn with
  | none => rfl
  | some k =>
    simp only [exec]
    split
    · rfl
    cases c with
    | execute s =>
      simp only [execCall]
      split
      next reply db executed => exact reads s rfl _ _ _ _ executed
      · rfl
    | _ => rfl

/-- The body of a method calls the connector through its guard, and needs nothing else of the
pool. -/
theorem safe_through {issued : Statement → Prop} {conn : Option Conn} {prog : Prog α}
    (performs : prog.Performs (Through conn issued))
    (executes : ∀ s, issued s → statements s) (sees : Sees i none conn conn.isNone rows s) :
    PoolSafe sys envs created statements i prog (fun _ b => ∃ more,
      Sees i none conn conn.isNone more b ∧ ((∀ s, issued s → s.Reads) → more = rows)) s := by
  refine Safe.mono (Uses.safe (fun b => ∃ more, Sees i none conn conn.isNone more b ∧
    ((∀ s, issued s → s.Reads) → more = rows)) performs ?_ ?_ ?_ ⟨rows, sees, fun _ => rfl⟩)
    fun _ _ both => both.2
  · rintro a b ⟨more, sees, same⟩ interfered
    exact ⟨more, sees.later interfered, same⟩
  · rintro effect a allowed ⟨more, sees, -⟩ _
    cases effect with
    -- The connection is the one of the guard, and null only after a wait in vain.
    | connector other c =>
      obtain ⟨rfl, issues⟩ := allowed
      refine ⟨.inr ⟨sees.popped, sees.guarded⟩, fun null => sees.timedOut ?_, fun s equal => ?_⟩
      · rw [null]
        rfl
      · exact ⟨sees.guarded, executes s (issues s equal)⟩
    | reserve count => trivial
    | _ => exact allowed.elim
  · rintro effect a reply b allowed ⟨more, sees, same⟩ ⟨-, step⟩
    cases effect with
    | connector other c =>
      obtain ⟨rfl, issues⟩ := allowed
      obtain ⟨env, count, w, -, performed, rfl⟩ := step
      refine ⟨_, sees.advance w, fun reads => ?_⟩
      have db := exec_reads sys env count other (fun s equal => reads s (issues s equal)) a.world
      rw [performed] at db
      -- A body that only reads leaves the record of inserted users as it is.
      have users : w.db.users = a.world.db.users := congrArg Db.users db
      rw [users, List.drop_length, List.append_nil]
      exact same reads
    | reserve count =>
      obtain ⟨env, performed, w, -, answered, rfl⟩ := step
      cases answered
      refine ⟨_, sees.advance _, fun reads => ?_⟩
      rw [List.drop_length, List.append_nil]
      exact same reads
    | _ => exact allowed.elim

/-- Whatever the body ends in, the scope of the guard ends without a connection. -/
theorem safe_scope {body : SqlConnGuard → Prog α}
    {outcome : Except Exn α → List UserRow → Prop} (sees : Sees i none none waited rows s)
    (works : ∀ conn b, Sees i none conn conn.isNone rows b →
      PoolSafe sys envs created statements i (body ⟨conn⟩) (fun result c => ∃ more,
        Sees i none conn conn.isNone more c ∧ outcome result more) b) :
    PoolSafe sys envs created statements i (SqlConnGuard.scope body) (fun result c =>
      ∃ more waited, Sees i none none waited more c ∧ outcome result more) s := by
  refine safe_getConnection sees fun conn b sees => ?_
  refine safe_constructGuard sees fun b sees => ?_
  -- The destructor runs in both cases, so the exception of the body is held until then.
  have attempted : PoolSafe sys envs created statements i (body ⟨conn⟩).attempt (fun result c =>
      ∃ inner, result = .ok inner ∧
        ∃ more, Sees i none conn conn.isNone more c ∧ outcome inner more) b := by
    refine (Safe.attempt_iff ..).mpr ((works conn b sees).mono fun result c holds => ?_)
    exact ⟨result, rfl, holds⟩
  simp only [ret_bind, bind_eq]
  refine PoolSafe.bind attempted ?_ ?_
  · rintro exn c ⟨inner, equal, -⟩
    cases equal
  · rintro result c ⟨inner, equal, more, sees, held⟩
    cases equal
    refine safe_destroy sees fun d sees => ?_
    cases result with
    | ok value => exact ⟨more, _, sees, held⟩
    | error exn => exact ⟨more, _, sees, held⟩

theorem safe_daoMethod {body : SqlConnGuard → Prog α} {failure : α}
    (outcome : Except Exn α → List UserRow → Prop) (sees : Sees i none none waited rows s)
    (works : ∀ conn b, Sees i none conn conn.isNone rows b →
      PoolSafe sys envs created statements i (body ⟨conn⟩) (fun result c => ∃ more,
        Sees i none conn conn.isNone more c ∧ outcome result more) b) :
    PoolSafe sys envs created statements i (daoMethod failure body) (fun result c =>
      ∃ more waited, Sees i none none waited more c ∧ (outcome result more ∨
        result = .ok failure ∧ outcome (.error .sqlException) more)) s := by
  refine (Safe.tryCatch_iff ..).mpr ((safe_scope sees works).mono ?_)
  rintro result c ⟨more, waited, sees, held⟩
  cases result with
  | ok value => exact ⟨more, waited, sees, .inl held⟩
  | error exn =>
    cases exn with
    | sqlException => exact ⟨more, waited, sees, .inr ⟨rfl, held⟩⟩
    | _ => exact ⟨more, waited, sees, .inl held⟩

/-- Every method takes a connection, uses it and gives it back. -/
theorem IsMethod.safe {issued : Statement → Prop} {failure : α} {prog : Prog α}
    (method : IsMethod issued failure prog) (executes : ∀ s, issued s → statements s)
    (sees : Sees i none none waited rows s) :
    PoolSafe sys envs created statements i prog (fun _ c => ∃ more waited,
      Sees i none none waited more c ∧ ((∀ s, issued s → s.Reads) → more = rows)) s := by
  obtain ⟨body, rfl, through⟩ := method
  refine Safe.mono (safe_daoMethod (fun _ more => (∀ s, issued s → s.Reads) → more = rows) sees
    fun conn b sees => safe_through (through ⟨conn⟩) executes sees) ?_
  rintro result c ⟨more, waited, sees, same | ⟨-, same⟩⟩
  · exact ⟨more, waited, sees, same⟩
  · exact ⟨more, waited, sees, same⟩

end Rules

/-! ### Interleaved methods -/

theorem createConnections_ge {outcome : Nat → DBManager.ConnectOutcome} {first left : Nat}
    {conn : Conn} (created : conn ∈ DBManager.createConnections outcome first left) :
    first ≤ conn := by
  induction left generalizing first with
  | zero => cases created
  | succ left ih =>
    unfold DBManager.createConnections at created
    split at created
    · rcases List.mem_cons.mp created with rfl | later
      · exact le_refl _
      · exact Nat.le_of_succ_le (ih later)
    · cases created
    · cases created

/-- The constructor creates each connection once. -/
theorem construct_nodup (outcome : Nat → DBManager.ConnectOutcome) (poolSize : Nat) :
    (DBManager.construct outcome poolSize).Nodup := by
  suffices distinct : ∀ first, (DBManager.createConnections outcome first poolSize).Nodup from
    distinct 0
  induction poolSize with
  | zero => exact fun first => List.nodup_nil
  | succ left ih =>
    intro first
    unfold DBManager.createConnections
    split
    · refine List.nodup_cons.mpr ⟨fun again => ?_, ih (first + 1)⟩
      exact absurd (createConnections_ge again) (Nat.not_succ_le_self first)
    · exact List.nodup_nil
    · exact List.nodup_nil

/-- The pool of the methods, with the connections that were created. -/
def poolProtocol (ι : Type) [DecidableEq ι] (created : List Conn) :
    Protocol ι Effect Exn DaoOp DaoOp.Result (PoolState ι) where
  inv := Conserved created
  rely := PoolRely
  pre := PoolPre fun _ => True
  post i _ _ s := s.popped i = none ∧ s.guarded i = none
  idle i s := s.popped i = none ∧ s.guarded i = none

theorem poolProtocol_sound (created : List Conn) (sys : System) :
    (poolProtocol ι created).Sound (daoThreads ι sys) where
  refl := PoolRely.refl
  trans i a b c := PoolRely.trans
  starts i op a b conserved idle starts := by
    obtain rfl : b = a.begin i := starts
    refine ⟨conserved.of_same rfl rfl rfl, ?_, fun j other => ?_⟩
    · have sees : Sees i none none false (a.rowsBy i) (a.begin i) :=
        ⟨idle.1, idle.2, by simp, rfl⟩
      refine Safe.mono ((op.isMethod sys).safe (fun _ _ => trivial) sees) ?_
      rintro result c ⟨more, waited, sees, -⟩
      exact ⟨sees.popped, sees.guarded⟩
    · exact ⟨rfl, rfl, Function.update_of_ne other .., rfl, fun _ _ => rfl⟩
  acts i effect a reply b conserved owes step := poolStep_guarantee conserved owes step
  post_stable i _ _ a b idle interfered :=
    ⟨interfered.popped.trans idle.1, interfered.guarded.trans idle.2⟩
  idle_stable i a b idle interfered :=
    ⟨interfered.popped.trans idle.1, interfered.guarded.trans idle.2⟩
  finishes _ _ _ _ idle := idle

theorem daoInit_holds (sys : System) (outcome : Nat → DBManager.ConnectOutcome) (poolSize : Nat)
    (w : World) : (poolProtocol ι (DBManager.construct outcome poolSize)).Holds
      (daoThreads ι sys) (daoInit ι outcome poolSize w) := by
  refine ⟨Conserved.of_pool (construct_nodup outcome poolSize) rfl fun _ => ⟨rfl, rfl⟩, ?_⟩
  exact fun _ => ⟨rfl, rfl⟩

/-- In every interleaving of methods the connections in the pool, the popped and the guarded
ones are those that the constructor created, each in one place. Between the methods they are
all in the pool. -/
theorem connections_conserved {sys : System} {outcome : Nat → DBManager.ConnectOutcome}
    {poolSize : Nat} {w : World} {c : Config ι Effect Effect.Reply Exn DaoOp.Result (PoolState ι)}
    (reach : (daoThreads ι sys).Reachable (daoInit ι outcome poolSize w) c) :
    Conserved (DBManager.construct outcome poolSize) c.shared ∧
      ((∀ i, (c.threads i).Idle) →
        c.shared.pool.Perm (DBManager.construct outcome poolSize)) := by
  have sound : (poolProtocol ι _).Sound (daoThreads ι sys) :=
    poolProtocol_sound (DBManager.construct outcome poolSize) sys
  have holds := (daoInit_holds sys outcome poolSize w).reachable sound reach
  refine ⟨holds.inv, fun idle => ?_⟩
  refine holds.inv.pool_perm (construct_nodup outcome poolSize) fun i => ?_
  exact (holds.threads i).idle sound (idle i)

/-- How a method goes on when there is no connection. -/
theorem getUserById_shape (sys : System) : ∃ locked waited guarded called,
    UserDAO.getUserById sys 0 = .act .lockPool locked ∧ locked none = .act .waitFor waited ∧
      waited none = .act (.constructGuard none) guarded ∧
      guarded () = .act (.connector none
        (.prepareStatement "SELECT * FROM users WHERE id = ?")) called :=
  ⟨_, _, _, _, rfl, rfl, rfl, rfl⟩

/-- A thread between two methods can start one and enter `getConnection`. -/
theorem reach_locked {sys : System} {init c : Config ι Effect Effect.Reply Exn DaoOp.Result
      (PoolState ι)} (reach : (daoThreads ι sys).Reachable init c) {i : ι}
    (idle : (c.threads i).Idle) {locked : Option Conn → Prog (Option User)}
    (shape : UserDAO.getUserById sys 0 = .act .lockPool locked) :
    (daoThreads ι sys).Reachable init ⟨((c.shared.begin i).take i).2,
      Function.update c.threads i
        (some ⟨.getUserById 0, locked ((c.shared.begin i).take i).1⟩)⟩ := by
  have started := reach.start i (.getUserById 0) idle rfl
  have runs : Function.update c.threads i
      (some ⟨.getUserById 0, (daoThreads ι sys).program (.getUserById 0)⟩) i =
        some ⟨.getUserById 0, .act .lockPool locked⟩ := by
    rw [Function.update_self, ← shape]
    rfl
  have takes : (daoThreads ι sys).step i .lockPool (c.shared.begin i)
      ((c.shared.begin i).take i).1 ((c.shared.begin i).take i).2 := rfl
  -- The thread starts its call and takes the first effect of it.
  have locks := started.act i runs takes
  rw [Function.update_idem] at locks
  exact locks

/-- One of two threads has popped the only connection. -/
theorem connections_conserved_popped :
    ∃ c : Config (Fin 2) Effect Effect.Reply Exn DaoOp.Result (PoolState (Fin 2)),
      c.shared.popped 0 = some 0 ∧ Conserved [0] c.shared := by
  obtain ⟨locked, -, -, -, shape, -⟩ := getUserById_shape Reference.system
  have initially : (daoThreads (Fin 2) Reference.system).Reachable
      (daoInit (Fin 2) (fun _ => .connected) 1 {}) (daoInit (Fin 2) (fun _ => .connected) 1 {}) :=
    .init
  have popped := reach_locked initially (i := 0) trivial shape
  exact ⟨_, rfl, (connections_conserved popped).1⟩

end MusicPlayer
