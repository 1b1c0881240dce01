import MusicPlayer.Database.Guards
import MusicPlayer.Properties.GuardDiscipline

/-!
# What guards release

The destructor of a guard releases the connection that the guard holds then, and an assignment runs
no destructor. So a connection that is overwritten is never released, and one that is copied is
released by every guard that has it.
-/
namespace MusicPlayer

open Machines

variable {ι : Type} [DecidableEq ι] {s t : GuardState ι} {created : List Conn} {i j : ι}

/-- No connection is in the pool while a guard holds it, and when no guard lives, each connection
has been released as often as it was acquired. -/
structure GuardState.ReleasedOnce (s : GuardState ι) : Prop where
  exclusive : ∀ conn ∈ s.connections, ∀ i, s.held i ≠ some conn
  balanced : (∀ i, s.guards i = none) → ∀ conn, s.released.count conn = s.acquired.count conn

/-- However the operations are broken off, the guards that then live release their connections
once, in any order. -/
def ReleasesOnce (outcome : Nat → DBManager.ConnectOutcome) (poolSize : Nat)
    (ops : List (GuardOp ι)) : Prop :=
  ∀ (done : List (GuardOp ι)) (ends : List ι) (t : GuardState ι), done <+: ops →
    (GuardState.start ι outcome poolSize).run (done ++ ends.map .destroy) = some t →
      t.ReleasedOnce

/-- An assignment of a guard to itself, a copy between guards that hold nothing, or a move to a
guard that holds nothing. -/
def GuardOp.Harmless (s : GuardState ι) : GuardOp ι → Prop
  | .copyAssign i j => i = j ∨ s.held i = none ∧ s.held j = none
  | .moveAssign i j => i = j ∨ s.held i = none
  | _ => True

/-! ### Single operations -/

namespace GuardState

theorem step_construct (stepped : s.step (.construct i) = some t) : s.guards i = none ∧
    (s.connections = [] ∧
        t = { s with guards := Function.update s.guards i (some ⟨none⟩) } ∨
      ∃ conn rest, s.connections = conn :: rest ∧
        t = { s with
          connections := rest
          guards := Function.update s.guards i (some ⟨some conn⟩)
          acquired := s.acquired ++ [conn] }) := by
  simp only [step, Option.bind_eq_bind, Option.bind_eq_some_iff] at stepped
  obtain ⟨_, checked, stepped⟩ := stepped
  refine ⟨by simpa [guard] using checked, ?_⟩
  split at stepped
  next empty =>
    cases stepped
    exact .inl ⟨empty, rfl⟩
  next conn rest connections =>
    cases stepped
    exact .inr ⟨conn, rest, connections, rfl⟩

theorem step_copyAssign (stepped : s.step (.copyAssign i j) = some t) :
    ∃ guard other, s.guards i = some guard ∧ s.guards j = some other ∧
      t = { s with guards := Function.update s.guards i (some ⟨other.conn⟩) } := by
  simp only [step, Option.bind_eq_bind, Option.bind_eq_some_iff] at stepped
  obtain ⟨guard, first, other, second, stepped⟩ := stepped
  cases stepped
  exact ⟨guard, other, first, second, rfl⟩

theorem step_moveAssign (stepped : s.step (.moveAssign i j) = some t) :
    ∃ guard other, s.guards i = some guard ∧ s.guards j = some other ∧
      t = { s with guards :=
        Function.update (Function.update s.guards j (some ⟨none⟩)) i (some ⟨other.conn⟩) } := by
  simp only [step, Option.bind_eq_bind, Option.bind_eq_some_iff] at stepped
  obtain ⟨guard, first, other, second, stepped⟩ := stepped
  cases stepped
  exact ⟨guard, other, first, second, rfl⟩

theorem step_destroy (stepped : s.step (.destroy i) = some t) : ∃ guard, s.guards i = some guard ∧
    (guard.conn = none ∧ t = { s with guards := Function.update s.guards i none } ∨
      ∃ conn, guard.conn = some conn ∧
        t = { s with
          connections := s.connections ++ [conn]
          guards := Function.update s.guards i none
          released := s.released ++ [conn] }) := by
  simp only [step, Option.bind_eq_bind, Option.bind_eq_some_iff] at stepped
  obtain ⟨guard, alive, stepped⟩ := stepped
  refine ⟨guard, alive, ?_⟩
  split at stepped
  next null =>
    cases stepped
    exact .inl ⟨null, rfl⟩
  next conn holds =>
    cases stepped
    exact .inr ⟨conn, holds, rfl⟩

/-- A guard that lives can be destroyed. -/
theorem exists_destroy {guard : SqlConnGuard} (alive : s.guards i = some guard) :
    ∃ t, s.step (.destroy i) = some t ∧ t.guards = Function.update s.guards i none := by
  simp only [step, alive, Option.bind_eq_bind, Option.bind_some]
  cases guard.conn with
  | none => exact ⟨_, rfl, rfl⟩
  | some conn => exact ⟨_, rfl, rfl⟩

/-- What the guards hold, after one of them has changed. -/
theorem held_of_update {guard : Option SqlConnGuard}
    (guards : t.guards = Function.update s.guards i guard) :
    t.held = Function.update s.held i (guard.bind (·.conn)) := by
  funext k
  by_cases own : k = i
  · subst own
    simp [held, guards]
  · simp [held, guards, own]

theorem held_of_copyAssign (stepped : s.step (.copyAssign i j) = some t) :
    t.connections = s.connections ∧ t.held = Function.update s.held i (s.held j) := by
  obtain ⟨guard, other, -, second, rfl⟩ := step_copyAssign stepped
  have gives : s.held j = other.conn := by simp [held, second]
  refine ⟨rfl, ?_⟩
  rw [held_of_update rfl, gives]
  rfl

theorem held_of_moveAssign (stepped : s.step (.moveAssign i j) = some t) :
    t.connections = s.connections ∧
      t.held = Function.update (Function.update s.held j none) i (s.held j) := by
  obtain ⟨guard, other, -, second, rfl⟩ := step_moveAssign stepped
  have gives : s.held j = other.conn := by simp [held, second]
  refine ⟨rfl, ?_⟩
  rw [gives]
  funext k
  by_cases own : k = i
  · subst own
    simp [held]
  · by_cases giver : k = j
    · subst giver
      simp [held, own]
    · simp [held, own, giver]

/-! ### What every operation keeps -/

/-- Every connection that was created and every release of one is accounted for, and only finitely
many guards live. -/
structure Tracked (created : List Conn) (s : GuardState ι) : Prop where
  accounts : ∀ conn, created.count conn + s.released.count conn =
    s.connections.count conn + s.acquired.count conn
  finite : ∃ alive : List ι, ∀ i, s.guards i ≠ none → i ∈ alive

theorem Tracked.step (tracked : s.Tracked created) {op : GuardOp ι}
    (stepped : s.step op = some t) : t.Tracked created := by
  obtain ⟨accounts, alive, finite⟩ := tracked
  -- One guard more is enough, whatever the operation does to it.
  have grown {guards : ι → Option SqlConnGuard} (finite : ∀ i, guards i ≠ none → i ∈ alive)
      (i : ι) (guard : Option SqlConnGuard) :
      ∃ alive : List ι, ∀ k, Function.update guards i guard k ≠ none → k ∈ alive := by
    refine ⟨i :: alive, fun k lives => ?_⟩
    by_cases own : k = i
    · simp [own]
    · rw [Function.update_of_ne own] at lives
      exact List.mem_cons_of_mem i (finite k lives)
  cases op with
  | construct i =>
    obtain ⟨-, ⟨-, rfl⟩ | ⟨conn, rest, connections, rfl⟩⟩ := step_construct stepped
    · exact ⟨accounts, grown finite i _⟩
    · refine ⟨fun k => ?_, grown finite i _⟩
      have account := accounts k
      rw [connections, List.count_cons] at account
      simp only [List.count_append, List.count_singleton]
      omega
  | copyAssign i j =>
    obtain ⟨guard, other, -, -, rfl⟩ := step_copyAssign stepped
    exact ⟨accounts, grown finite i _⟩
  | moveAssign i j =>
    obtain ⟨guard, other, -, second, rfl⟩ := step_moveAssign stepped
    refine ⟨accounts, grown (fun k lives => ?_) i _⟩
    by_cases own : k = j
    · rw [own]
      exact finite j (by simp [second])
    · rw [Function.update_of_ne own] at lives
      exact finite k lives
  | destroy i =>
    obtain ⟨guard, -, ⟨-, rfl⟩ | ⟨conn, -, rfl⟩⟩ := step_destroy stepped
    · exact ⟨accounts, grown finite i _⟩
    · refine ⟨fun k => ?_, grown finite i _⟩
      have account := accounts k
      simp only [List.count_append, List.count_singleton]
      omega

/-- The guards can all be destroyed. -/
theorem exists_destroyAll (finite : ∃ alive : List ι, ∀ i, s.guards i ≠ none → i ∈ alive) :
    ∃ (ends : List ι) (t : GuardState ι), s.run (ends.map .destroy) = some t ∧
      ∀ i, t.guards i = none := by
  obtain ⟨alive, finite⟩ := finite
  -- One guard of the list after the other, skipping those that do not live.
  induction alive generalizing s with
  | nil =>
    refine ⟨[], s, rfl, fun i => ?_⟩
    by_contra lives
    exact List.not_mem_nil (finite i lives)
  | cons i rest ih =>
    cases lives : s.guards i with
    | none =>
      refine ih fun k lives' => ?_
      have other : k ≠ i := by
        rintro rfl
        exact lives' lives
      exact (List.mem_cons.mp (finite k lives')).resolve_left other
    | some guard =>
      obtain ⟨t, stepped, guards⟩ := exists_destroy lives
      obtain ⟨ends, u, ran, none⟩ := @ih t fun k lives' => by
        rw [guards] at lives'
        have other : k ≠ i := by
          rintro rfl
          exact lives' (Function.update_self ..)
        rw [Function.update_of_ne other] at lives'
        exact (List.mem_cons.mp (finite k lives')).resolve_left other
      exact ⟨i :: ends, u, run_cons.mpr ⟨t, stepped, ran⟩, none⟩

/-! ### Harmless operations -/

/-- The pool as the threads see it, with the guards in the place of the threads. -/
def places (s : GuardState ι) : PoolState ι :=
  { world := {}, pool := s.connections, guarded := s.held }

/-- A connection goes from one guard to another one, which holds none. -/
theorem conserved_of_handed (conserved : Conserved created s.places) {conn : Conn} (other : i ≠ j)
    (giver : s.held j = some conn) (taker : s.held i = none)
    (connections : t.connections = s.connections)
    (held : t.held = Function.update (Function.update s.held j none) i (some conn)) :
    Conserved created t.places := by
  have was : s.places.At conn (.guarded j) := giver
  have only (place : Place ι) (there : s.places.At conn place) : place = .guarded j :=
    conserved.once conn place (.guarded j) there was
  have unpooled : conn ∉ s.connections := by
    intro there
    cases only .pool there
  -- `conn` changes its place, and no other connection does.
  refine conserved.move (p := .guarded j) (q := .guarded i) was ?_ ?_ ?_ ?_
  · intro place
    cases place with
    | pool => simp [PoolState.At, places, connections, unpooled]
    | popped k => simp [PoolState.At, places]
    | guarded k =>
      simp only [PoolState.At, places, held, Function.update_apply, Place.guarded.injEq]
      by_cases own : k = i
      · simp [own]
      · by_cases gives : k = j
        · simp [gives, Ne.symm other]
        · have apart : s.held k ≠ some conn := fun there =>
            gives (Place.guarded.inj (only (.guarded k) there))
          simp [own, gives, apart]
  · intro c differs place
    cases place with
    | pool => simp [PoolState.At, places, connections]
    | popped k => rfl
    | guarded k =>
      simp only [PoolState.At, places, held, Function.update_apply]
      by_cases own : k = i
      · simp [own, taker, Ne.symm differs]
      · by_cases gives : k = j
        · subst gives
          simp [own, giver, Ne.symm differs]
        · simp [own, gives]
  · simpa [places, connections] using conserved.nodup
  · exact fun k => .inl rfl

omit [DecidableEq ι] in
/-- The pointers and the pool are as they were. -/
theorem conserved_of_unchanged (conserved : Conserved created s.places)
    (connections : t.connections = s.connections) (held : t.held = s.held) :
    Conserved created t.places := by
  refine conserved.of_same ?_ rfl ?_
  · rw [places, connections, places]
  · rw [places, held, places]

/-- A harmless operation leaves every connection in one place. -/
theorem conserved_step (conserved : Conserved created s.places) {op : GuardOp ι}
    (harmless : op.Harmless s) (stepped : s.step op = some t) : Conserved created t.places := by
  cases op with
  | construct i =>
    obtain ⟨dead, ⟨-, rfl⟩ | ⟨conn, rest, connections, rfl⟩⟩ := step_construct stepped
    · refine conserved_of_unchanged conserved rfl ?_
      rw [held_of_update rfl, Function.update_eq_self_iff]
      simp [held, dead]
    · -- The two steps of a thread that gets a connection: pop it, then hand it to the guard.
      have idle : s.places.guarded i = none := by simp [places, held, dead]
      have taken : s.places.take i = (some conn, { s.places with
          pool := rest, popped := Function.update s.places.popped i (some conn) }) := by
        simp [PoolState.take, places, connections]
      have popped : Function.update s.places.popped i (some conn) i = some conn :=
        Function.update_self ..
      have guarded := (conserved.take taken rfl idle).construct popped idle
      refine guarded.of_same rfl ?_ ?_
      · simp [PoolState.construct, places]
      · rw [places, held_of_update rfl]
        rfl
  | copyAssign i j =>
    obtain ⟨connections, copied⟩ := held_of_copyAssign stepped
    apply conserved_of_unchanged conserved connections
    rw [copied, Function.update_eq_self_iff]
    rcases harmless with rfl | ⟨none, none'⟩
    · rfl
    · rw [none, none']
  | moveAssign i j =>
    obtain ⟨connections, moved⟩ := held_of_moveAssign stepped
    by_cases own : i = j
    · subst own
      apply conserved_of_unchanged conserved connections
      rw [moved, Function.update_idem, Function.update_eq_self]
    · have taker := harmless.resolve_left own
      -- Between two guards the pointer moves, or two null pointers change nothing.
      cases gives : s.held j with
      | some conn =>
        rw [gives] at moved
        exact conserved_of_handed conserved own gives taker connections moved
      | none =>
        apply conserved_of_unchanged conserved connections
        have emptied : Function.update s.held j none = s.held :=
          Function.update_eq_self_iff.mpr gives.symm
        rw [moved, emptied, gives]
        exact Function.update_eq_self_iff.mpr taker.symm
  | destroy i =>
    obtain ⟨guard, alive, ⟨null, rfl⟩ | ⟨conn, holds, rfl⟩⟩ := step_destroy stepped
    · refine conserved_of_unchanged conserved rfl ?_
      rw [held_of_update rfl, Function.update_eq_self_iff]
      simp [held, alive, null]
    · have holder : s.places.guarded i = some conn := by simp [places, held, alive, holds]
      refine (conserved.release holder).of_same rfl rfl ?_
      rw [places, held_of_update rfl]
      rfl

omit [DecidableEq ι] in
theorem releasedOnce_of_conserved (distinct : created.Nodup)
    (conserved : Conserved created s.places) (tracked : s.Tracked created) : s.ReleasedOnce := by
  refine ⟨fun conn pooled i held => ?_, fun none conn => ?_⟩
  · nomatch conserved.once conn .pool (.guarded i) pooled held
  · have all : s.connections.Perm created :=
      conserved.pool_perm distinct fun i => ⟨rfl, by simp [places, held, none]⟩
    have account := tracked.accounts conn
    rw [all.count_eq] at account
    omega

/-! ### Other assignments -/

theorem Tracked.run {ops : List (GuardOp ι)} (tracked : s.Tracked created)
    (ran : s.run ops = some t) : t.Tracked created :=
  Along.kept (fun _ _ _ tracked _ stepped => tracked.step stepped)
    (along_of_forall fun _ _ _ => trivial) tracked ran

/-- Nobody has the connection any more. -/
structure Lost (conn : Conn) (s : GuardState ι) : Prop where
  unpooled : conn ∉ s.connections
  unheld : ∀ i, s.held i ≠ some conn

/-- What no guard holds no guard gives back. -/
theorem Lost.destroyAll {conn : Conn} {ends : List ι} (lost : s.Lost conn)
    (ran : s.run (ends.map .destroy) = some t) : t.Lost conn := by
  induction ends generalizing s with
  | nil =>
    cases ran
    exact lost
  | cons i ends ih =>
    obtain ⟨u, stepped, ran⟩ := run_cons.mp ran
    refine ih ?_ ran
    obtain ⟨guard, alive, destroyed⟩ := step_destroy stepped
    have unheld (k : ι) : Function.update s.held i none k ≠ some conn := by
      by_cases own : k = i
      · simp [own]
      · simpa [own] using lost.unheld k
    obtain ⟨-, rfl⟩ | ⟨c, holds, rfl⟩ := destroyed
    · refine ⟨lost.unpooled, fun k => ?_⟩
      rw [held_of_update rfl]
      exact unheld k
    · have other : conn ≠ c := by
        rintro rfl
        exact lost.unheld i (by simp [held, alive, holds])
      refine ⟨by simp [lost.unpooled, other], fun k => ?_⟩
      rw [held_of_update rfl]
      exact unheld k

/-- A connection that is lost is missing at the end. -/
theorem exposed_of_lost {conn : Conn} (tracked : s.Tracked created) (made : conn ∈ created)
    (lost : s.Lost conn) : ∃ (ends : List ι) (t : GuardState ι),
      s.run (ends.map .destroy) = some t ∧ ¬t.ReleasedOnce := by
  obtain ⟨ends, t, ran, none⟩ := exists_destroyAll tracked.finite
  refine ⟨ends, t, ran, fun once => ?_⟩
  have account := (tracked.run ran).accounts conn
  rw [once.balanced none conn, List.count_eq_zero.mpr (lost.destroyAll ran).unpooled] at account
  have some := List.count_pos_iff.mpr made
  omega

/-- Of two guards with one connection the first gives it back and the second still has it. -/
theorem exposed_of_shared {conn : Conn} (other : i ≠ j) (first : s.held i = some conn)
    (second : s.held j = some conn) : ∃ (ends : List ι) (t : GuardState ι),
      s.run (ends.map .destroy) = some t ∧ ¬t.ReleasedOnce := by
  obtain ⟨guard, alive, holds⟩ := Option.bind_eq_some_iff.mp first
  obtain ⟨t, stepped, guards⟩ := exists_destroy alive
  refine ⟨[i], t, run_cons.mpr ⟨t, stepped, rfl⟩, fun once => once.exclusive conn ?_ j ?_⟩
  · obtain ⟨guard', alive', ⟨null, -⟩ | ⟨c, holds', rfl⟩⟩ := step_destroy stepped
    · rw [alive] at alive'
      cases alive'
      rw [null] at holds
      cases holds
    · rw [alive] at alive'
      cases alive'
      rw [holds] at holds'
      cases holds'
      simp
  · rw [held_of_update guards, Function.update_of_ne (Ne.symm other), second]

/-- After any other assignment there is an order of the destructors that shows it. -/
theorem exposed (conserved : Conserved created s.places) (tracked : s.Tracked created)
    {op : GuardOp ι} (harmful : ¬op.Harmless s) (stepped : s.step op = some t) :
    ∃ (ends : List ι) (u : GuardState ι),
      t.run (ends.map .destroy) = some u ∧ ¬u.ReleasedOnce := by
  have tracked' := tracked.step stepped
  -- A guard is the only place of what it holds, so overwriting it loses the connection.
  have overwritten {i : ι} {conn : Conn} (holds : s.held i = some conn)
      (connections : t.connections = s.connections) (unheld : t.held i ≠ some conn)
      (others : ∀ k, k ≠ i → t.held k = none ∨ t.held k = s.held k) :
      ∃ (ends : List ι) (u : GuardState ι),
        t.run (ends.map .destroy) = some u ∧ ¬u.ReleasedOnce := by
    have was : s.places.At conn (.guarded i) := holds
    have made : conn ∈ created := (conserved.somewhere conn).mpr ⟨_, was⟩
    refine exposed_of_lost tracked' made ⟨?_, fun k there => ?_⟩
    · rw [connections]
      exact fun pooled => nomatch conserved.once conn .pool _ pooled was
    · by_cases own : k = i
      · rw [own] at there
        exact unheld there
      · rcases others k own with none | same
        · rw [none] at there
          cases there
        · rw [same] at there
          exact own (Place.guarded.inj (conserved.once conn (.guarded k) _ there was))
  cases op with
  | construct i => exact absurd trivial harmful
  | destroy i => exact absurd trivial harmful
  | copyAssign i j =>
    obtain ⟨own, holding⟩ := not_or.mp harmful
    obtain ⟨connections, copied⟩ := held_of_copyAssign stepped
    cases gives : s.held j with
    | some conn =>
      have first : t.held i = some conn := by rw [copied, Function.update_self, gives]
      have second : t.held j = some conn := by
        rw [copied, Function.update_of_ne (Ne.symm own), gives]
      exact exposed_of_shared own first second
    | none =>
      obtain ⟨conn, holds⟩ := Option.ne_none_iff_exists'.mp fun none => holding ⟨none, gives⟩
      refine overwritten holds connections ?_ fun k other => .inr ?_
      · simp [copied, gives]
      · rw [copied, Function.update_of_ne other]
  | moveAssign i j =>
    obtain ⟨own, holding⟩ := not_or.mp harmful
    obtain ⟨connections, moved⟩ := held_of_moveAssign stepped
    obtain ⟨conn, holds⟩ := Option.ne_none_iff_exists'.mp holding
    refine overwritten holds connections ?_ fun k differs => ?_
    · rw [moved, Function.update_self]
      intro there
      exact own (Place.guarded.inj (conserved.once conn (.guarded i) (.guarded j) holds there))
    · rw [moved, Function.update_of_ne differs]
      by_cases giver : k = j
      · simp [giver]
      · simp [giver]

end GuardState

/-! ### Sequences of operations -/

/-- A sequence of operations releases every connection once, however it is broken off, just when
every assignment in it is harmless. -/
theorem releasesOnce_iff (outcome : Nat → DBManager.ConnectOutcome) (poolSize : Nat)
    (ops : List (GuardOp ι)) : ReleasesOnce outcome poolSize ops ↔
      Along GuardState.step (fun s op => op.Harmless s) (GuardState.start ι outcome poolSize)
        ops := by
  have distinct := construct_nodup outcome poolSize
  let created := DBManager.construct outcome poolSize
  let Orderly (s : GuardState ι) : Prop := Conserved created s.places ∧ s.Tracked created
  have start : Orderly (.start ι outcome poolSize) := by
    refine ⟨Conserved.of_pool distinct rfl fun _ => ⟨rfl, rfl⟩, fun _ => rfl, [], ?_⟩
    exact fun _ lives => absurd rfl lives
  have kept (s : GuardState ι) (op : GuardOp ι) (t : GuardState ι) (orderly : Orderly s)
      (harmless : op.Harmless s) (stepped : s.step op = some t) : Orderly t :=
    ⟨GuardState.conserved_step orderly.1 harmless stepped, orderly.2.step stepped⟩
  have lawful (s : GuardState ι) (es : List (GuardOp ι)) (t : GuardState ι) (orderly : Orderly s)
      (ending : ∃ ends : List ι, es = ends.map .destroy) (ran : s.run es = some t) :
      t.ReleasedOnce := by
    obtain ⟨ends, rfl⟩ := ending
    -- Destructors alone are harmless.
    have along : Along GuardState.step (fun s op => op.Harmless s) s (ends.map .destroy) := by
      refine along_of_forall fun s op member => ?_
      obtain ⟨i, -, rfl⟩ := List.mem_map.mp member
      trivial
    obtain ⟨conserved, tracked⟩ := along.kept kept orderly ran
    exact GuardState.releasedOnce_of_conserved distinct conserved tracked
  have exposed (s : GuardState ι) (op : GuardOp ι) (t : GuardState ι) (orderly : Orderly s)
      (harmful : ¬op.Harmless s) (stepped : s.step op = some t) : ∃ es u,
        (∃ ends : List ι, es = ends.map .destroy) ∧ t.run es = some u ∧ ¬u.ReleasedOnce := by
    obtain ⟨ends, u, ran, broken⟩ := GuardState.exposed orderly.1 orderly.2 harmful stepped
    exact ⟨_, u, ⟨ends, rfl⟩, ran, broken⟩
  refine Iff.trans ?_ (lawful_iff_along kept lawful exposed start)
  constructor
  · rintro once done es t front ⟨ends, rfl⟩ ran
    exact once done ends t front ran
  · intro once done ends t front ran
    exact once done _ t front ⟨ends, rfl⟩ ran

section Sample

/-- Two guards, a copy assignment and the end of the scope. -/
def copiedOver : List (GuardOp (Fin 2)) :=
  [.construct 0, .construct 1, .copyAssign 0 1, .destroy 1, .destroy 0]

/-- The connection of the first guard is never released, and that of the second one twice. -/
theorem copiedOver_released : ¬∀ (ι : Type) [DecidableEq ι]
    (outcome : Nat → DBManager.ConnectOutcome) (poolSize : Nat) (ops : List (GuardOp ι))
    (t : GuardState ι), (GuardState.start ι outcome poolSize).run ops = some t →
      t.ReleasedOnce := by
  intro once
  let connects : Nat → DBManager.ConnectOutcome := fun _ => .connected
  have ran : ((GuardState.start (Fin 2) connects 2).run copiedOver).map
      (fun t => (t.acquired, t.released, (t.guards 0).isNone, (t.guards 1).isNone)) =
        some ([0, 1], [1, 1], true, true) := by
    decide
  obtain ⟨t, ran, records⟩ := Option.map_eq_some_iff.mp ran
  simp only [Prod.mk.injEq, Option.isNone_iff_eq_none] at records
  obtain ⟨acquired, released, first, second⟩ := records
  have dead : ∀ i, t.guards i = none := Fin.forall_fin_two.mpr ⟨first, second⟩
  have counts := (once (Fin 2) connects 2 copiedOver t ran).balanced dead 0
  simp [acquired, released] at counts

end Sample

end MusicPlayer
