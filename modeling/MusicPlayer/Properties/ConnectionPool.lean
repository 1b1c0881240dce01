import MusicPlayer.Server.Threads

/-!
# Conservation of the connections

Every connection that was created is in exactly one place: in the pool, popped by one
`getConnection`, or held by one guard. This is the invariant of a protocol under which every
program of the data access layer is safe, whatever the other threads do.
-/
namespace MusicPlayer

open Resumption Program

variable {ι : Type}

/-- Where a connection can be. -/
inductive Place (ι : Type) where
  | pool
  | popped (i : ι)
  | guarded (i : ι)

def PoolState.At (s : PoolState ι) (conn : Conn) : Place ι → Prop
  | .pool => conn ∈ s.pool
  | .popped i => s.popped i = some conn
  | .guarded i => s.guarded i = some conn

/-- The connections that were created are those in the pool, popped and held, each once. -/
structure Conserved (created : List Conn) (s : PoolState ι) : Prop where
  nodup : s.pool.Nodup
  somewhere : ∀ conn, conn ∈ created ↔ ∃ place, s.At conn place
  once : ∀ conn p q, s.At conn p → s.At conn q → p = q
  single : ∀ i, s.popped i = none ∨ s.guarded i = none

namespace Conserved

variable {created : List Conn} {s t : PoolState ι}

/-- All connections are in the pool. -/
theorem of_pool (distinct : created.Nodup) (pool : s.pool = created)
    (idle : ∀ i, s.popped i = none ∧ s.guarded i = none) : Conserved created s := by
  have only (conn : Conn) (place : Place ι) (there : s.At conn place) :
      place = .pool ∧ conn ∈ created := by
    cases place with
    | pool => exact ⟨rfl, pool ▸ there⟩
    | popped i => rw [PoolState.At, (idle i).1] at there; cases there
    | guarded i => rw [PoolState.At, (idle i).2] at there; cases there
  refine ⟨pool ▸ distinct, fun conn => ⟨fun made => ⟨.pool, ?_⟩, ?_⟩, ?_, fun i => .inl (idle i).1⟩
  · rw [PoolState.At, pool]
    exact made
  · rintro ⟨place, there⟩
    exact (only conn place there).2
  · intro conn p q atP atQ
    rw [(only conn p atP).1, (only conn q atQ).1]

/-- Everything stays where it is. -/
theorem of_same (conserved : Conserved created s) (pool : t.pool = s.pool)
    (popped : t.popped = s.popped) (guarded : t.guarded = s.guarded) : Conserved created t := by
  have same (conn : Conn) (place : Place ι) : t.At conn place ↔ s.At conn place := by
    cases place with
    | pool => rw [PoolState.At, pool, PoolState.At]
    | popped i => rw [PoolState.At, popped, PoolState.At]
    | guarded i => rw [PoolState.At, guarded, PoolState.At]
  refine ⟨?_, fun conn => ?_, fun conn p q atP atQ => ?_, fun i => ?_⟩
  · rw [pool]
    exact conserved.nodup
  · simp only [same]
    exact conserved.somewhere conn
  · exact conserved.once conn p q ((same ..).mp atP) ((same ..).mp atQ)
  · rw [popped, guarded]
    exact conserved.single i

/-- One connection moves from one place to another. -/
theorem move (conserved : Conserved created s) {moved : Conn} {p q : Place ι}
    (was : s.At moved p)
    (own : ∀ place, t.At moved place ↔ place = q)
    (others : ∀ conn, conn ≠ moved → ∀ place, t.At conn place ↔ s.At conn place)
    (nodup : t.pool.Nodup) (single : ∀ i, t.popped i = none ∨ t.guarded i = none) :
    Conserved created t := by
  refine ⟨nodup, fun conn => ?_, fun conn first second atFirst atSecond => ?_, single⟩
  · -- Every connection that was created is somewhere.
    by_cases same : conn = moved
    · subst same
      have inside : conn ∈ created := (conserved.somewhere conn).mpr ⟨p, was⟩
      exact iff_of_true inside ⟨q, (own q).mpr rfl⟩
    · simp only [others conn same]
      exact conserved.somewhere conn
  · -- It is in one place only.
    by_cases same : conn = moved
    · subst same
      rw [own] at atFirst atSecond
      rw [atFirst, atSecond]
    · rw [others conn same] at atFirst atSecond
      exact conserved.once conn first second atFirst atSecond

/-- When nobody has a connection, they are all in the pool. -/
theorem pool_perm (conserved : Conserved created s) (distinct : created.Nodup)
    (idle : ∀ i, s.popped i = none ∧ s.guarded i = none) : s.pool.Perm created := by
  refine (List.perm_ext_iff_of_nodup conserved.nodup distinct).mpr fun conn => ?_
  rw [conserved.somewhere]
  constructor
  · intro there
    exact ⟨.pool, there⟩
  · rintro ⟨place, there⟩
    cases place with
    | pool => exact there
    | popped i => rw [PoolState.At, (idle i).1] at there; cases there
    | guarded i => rw [PoolState.At, (idle i).2] at there; cases there

variable [DecidableEq ι]

theorem take (conserved : Conserved created s) {i : ι} {reply : Option Conn}
    (taken : s.take i = (reply, t)) (free : s.popped i = none) (idle : s.guarded i = none) :
    Conserved created t := by
  unfold PoolState.take at taken
  split at taken
  next empty =>
    cases taken
    exact conserved
  next conn rest pool =>
    cases taken
    -- The connection moves from the front of the queue to the thread.
    have nodup := conserved.nodup
    rw [pool, List.nodup_cons] at nodup
    have was : s.At conn .pool := by simp [PoolState.At, pool]
    have only (place : Place ι) (there : s.At conn place) : place = .pool :=
      conserved.once conn place .pool there was
    refine conserved.move was (q := .popped i) ?_ ?_ nodup.2 ?_
    · intro place
      cases place with
      | pool => simp [PoolState.At, nodup.1]
      | guarded j => simpa [PoolState.At] using fun held => nomatch only (.guarded j) held
      | popped j =>
        by_cases same : j = i
        · subst same
          simp [PoolState.At]
        · simpa [PoolState.At, same] using fun held => nomatch only (.popped j) held
    · intro other differs place
      cases place with
      | pool => simp [PoolState.At, pool, differs]
      | guarded j => rfl
      | popped j =>
        by_cases same : j = i
        · subst same
          simp [PoolState.At, free, Ne.symm differs]
        · simp [PoolState.At, same]
    · intro j
      by_cases same : j = i
      · subst same
        exact .inr idle
      · simpa [same] using conserved.single j

theorem construct (conserved : Conserved created s) {i : ι} {conn : Option Conn}
    (own : s.popped i = conn) (idle : s.guarded i = none) :
    Conserved created (s.construct i conn) := by
  cases conn with
  | none =>
    -- A guard over a null pointer holds nothing that was not held before.
    refine conserved.of_same rfl ?_ ?_
    · rw [PoolState.construct, Function.update_eq_self_iff]
      exact own.symm
    · rw [PoolState.construct, Function.update_eq_self_iff]
      exact idle.symm
  | some conn =>
    -- From the hands of `getConnection` the connection goes to the guard.
    have only (place : Place ι) (there : s.At conn place) : place = .popped i :=
      conserved.once conn place (.popped i) there own
    refine conserved.move (p := .popped i) (q := .guarded i) own ?_ ?_ conserved.nodup ?_
    · intro place
      cases place with
      | pool => simpa [PoolState.At, PoolState.construct] using fun held => nomatch only .pool held
      | popped j =>
        by_cases same : j = i
        · subst same
          simp [PoolState.At, PoolState.construct]
        · have free : s.popped j ≠ some conn := by
            intro held
            cases only (.popped j) held
            exact same rfl
          simp [PoolState.At, PoolState.construct, same, free]
      | guarded j =>
        by_cases same : j = i
        · subst same
          simp [PoolState.At, PoolState.construct]
        · simpa [PoolState.At, PoolState.construct, same] using
            fun held => nomatch only (.guarded j) held
    · intro other differs place
      cases place with
      | pool => rfl
      | popped j =>
        by_cases same : j = i
        · subst same
          simp [PoolState.At, PoolState.construct, own, Ne.symm differs]
        · simp [PoolState.At, PoolState.construct, same]
      | guarded j =>
        by_cases same : j = i
        · subst same
          simp [PoolState.At, PoolState.construct, idle, Ne.symm differs]
        · simp [PoolState.At, PoolState.construct, same]
    · intro j
      by_cases same : j = i
      · subst same
        simp [PoolState.construct]
      · simpa [PoolState.construct, same] using conserved.single j

theorem release (conserved : Conserved created s) {i : ι} {conn : Conn}
    (held : s.guarded i = some conn) : Conserved created (s.release i conn) := by
  have only (place : Place ι) (there : s.At conn place) : place = .guarded i :=
    conserved.once conn place (.guarded i) there held
  -- The connection was with the guard, so pushing it back does not double it.
  have absent : conn ∉ s.pool := fun there => nomatch only .pool there
  refine conserved.move (p := .guarded i) (q := .pool) held ?_ ?_ ?_ ?_
  · intro place
    cases place with
    | pool => simp [PoolState.At, PoolState.release]
    | popped j =>
      simpa [PoolState.At, PoolState.release] using fun held => nomatch only (.popped j) held
    | guarded j =>
      by_cases same : j = i
      · subst same
        simp [PoolState.At, PoolState.release]
      · have free : s.guarded j ≠ some conn := by
          intro held
          cases only (.guarded j) held
          exact same rfl
        simp [PoolState.At, PoolState.release, same, free]
  · intro other differs place
    cases place with
    | pool => simp [PoolState.At, PoolState.release, differs]
    | popped j => rfl
    | guarded j =>
      by_cases same : j = i
      · subst same
        simp [PoolState.At, PoolState.release, held, Ne.symm differs]
      · simp [PoolState.At, PoolState.release, same]
  · exact conserved.nodup.append (List.nodup_singleton conn) (by simpa using absent)
  · intro j
    by_cases same : j = i
    · subst same
      simp [PoolState.release]
    · simpa [PoolState.release, same] using conserved.single j

theorem afterWait (conserved : Conserved created s) {i : ι} {reply : Option Conn}
    (waited : s.afterWait i = (reply, t)) (free : s.popped i = none) (idle : s.guarded i = none) :
    Conserved created t := by
  unfold PoolState.afterWait at waited
  split at waited
  next empty =>
    cases waited
    exact conserved.of_same rfl rfl rfl
  · exact conserved.take waited free idle

end Conserved

/-! ### What a thread owes and what it may rely on -/

variable [DecidableEq ι]

/-- What the other threads leave to a thread: its connection and its records, and the session
values of the connection that it holds. -/
structure PoolRely (i : ι) (a b : PoolState ι) : Prop where
  popped : b.popped i = a.popped i
  guarded : b.guarded i = a.guarded i
  timedOut : b.timedOut i = a.timedOut i
  rows : b.rowsBy i = a.rowsBy i
  session : ∀ conn, a.guarded i = some conn →
    b.world.db.lastInsertId conn = a.world.db.lastInsertId conn

theorem PoolRely.refl (i : ι) (a : PoolState ι) : PoolRely i a a :=
  ⟨rfl, rfl, rfl, rfl, fun _ _ => rfl⟩

theorem PoolRely.trans {i : ι} {a b c : PoolState ι} (first : PoolRely i a b)
    (second : PoolRely i b c) : PoolRely i a c where
  popped := second.popped.trans first.popped
  guarded := second.guarded.trans first.guarded
  timedOut := second.timedOut.trans first.timedOut
  rows := second.rows.trans first.rows
  session conn held :=
    (second.session conn (first.guarded.trans held)).trans (first.session conn held)

/-- A thread takes a connection only when it has none, calls the connector only through its
own, through a null pointer only after a wait in vain, and executes statements only under a
guard. -/
def PoolPre (statements : Statement → Prop) (i : ι) : Effect → PoolState ι → Prop
  | .lockPool, s | .waitFor, s => s.popped i = none ∧ s.guarded i = none
  | .constructGuard conn, s => s.popped i = conn ∧ s.guarded i = none
  | .releaseConnection conn, s => s.popped i = none ∧ s.guarded i = some conn
  | .connector conn c, s =>
    (s.popped i = conn ∧ s.guarded i = none ∨ s.popped i = none ∧ s.guarded i = conn) ∧
      (conn = none → s.timedOut i = true) ∧
      ∀ executed, c = .execute executed → s.guarded i = conn ∧ statements executed
  | _, _ => True

theorem rowsBy_advance (s : PoolState ι) (i : ι) (w : World) :
    (s.advance i w).rowsBy i =
      s.rowsBy i ++ w.db.users.rows.drop s.world.db.users.rows.length := by
  rw [PoolState.rowsBy, PoolState.advance, List.filterMap_append, List.filterMap_map,
    PoolState.rowsBy]
  simp

theorem rowsBy_advance_of_ne (s : PoolState ι) {i j : ι} (other : j ≠ i) (w : World) :
    (s.advance i w).rowsBy j = s.rowsBy j := by
  rw [PoolState.rowsBy, PoolState.advance, List.filterMap_append, List.filterMap_map,
    PoolState.rowsBy]
  simp [Ne.symm other]

/-- The world answers a connection without touching the session of another. -/
theorem exec_session (sys : System) (env : Env) (count : Nat) (effect : Effect) (w : World)
    {conn : Conn} (other : ∀ k s, effect = .connector (some k) (.execute s) → conn ≠ k) :
    (exec sys env count effect w).2.db.lastInsertId conn = w.db.lastInsertId conn := by
  cases effect with
  | connector through c =>
    cases through with
    | none => rfl
    | some k =>
      simp only [exec]
      split
      · rfl
      cases c with
      | execute s =>
        simp only [execCall]
        split
        next reply db executed => exact Statement.exec_lastInsertId executed (other k s rfl)
        · rfl
      | _ => rfl
  | fileExists path => simp only [exec]; split <;> rfl
  | createDirectory path => simp only [exec]; split <;> rfl
  | openOut path => simp only [exec]; split <;> rfl
  | closeOut path => simp only [exec]; split <;> rfl
  | _ => rfl

theorem PoolRely.advance {i j : ι} (other : j ≠ i) (a : PoolState ι) {w : World}
    (session : ∀ conn, a.guarded j = some conn →
      w.db.lastInsertId conn = a.world.db.lastInsertId conn) : PoolRely j a (a.advance i w) :=
  ⟨rfl, rfl, rfl, rowsBy_advance_of_ne a other w, session⟩

/-- A thread that does what it owes keeps the connections and leaves the other threads what
they rely on. -/
theorem poolStep_guarantee {sys : System} {envs : Env → Prop} {created : List Conn}
    {statements : Statement → Prop} {i : ι} {effect : Effect} {a b : PoolState ι}
    {reply : effect.Reply} (conserved : Conserved created a)
    (owes : PoolPre statements i effect a) (step : poolStep sys envs i effect a reply b) :
    Conserved created b ∧ ∀ j, j ≠ i → PoolRely j a b := by
  have answered {env : Env} {count : Nat} {w : World}
      (performed : exec sys env count effect a.world = (reply, w))
      (other : ∀ k s, effect = .connector (some k) (.execute s) →
        ∀ j, j ≠ i → a.guarded j ≠ some k) :
      Conserved created (a.advance i w) ∧ ∀ j, j ≠ i → PoolRely j a (a.advance i w) := by
    refine ⟨conserved.of_same rfl rfl rfl, fun j differs => PoolRely.advance differs a ?_⟩
    intro conn held
    have same := exec_session sys env count effect a.world fun k s executes equal =>
      other k s executes j differs (equal ▸ held)
    rw [performed] at same
    exact same
  -- Whoever pops or waits has nothing yet.
  have popped (owes : a.popped i = none ∧ a.guarded i = none) {conn : Option Conn}
      (taken : a.take i = (conn, b)) :
      Conserved created b ∧ ∀ j, j ≠ i → PoolRely j a b := by
    refine ⟨conserved.take taken owes.1 owes.2, fun j differs => ?_⟩
    unfold PoolState.take at taken
    split at taken
    · cases taken
      exact PoolRely.refl j a
    · cases taken
      exact ⟨Function.update_of_ne differs .., rfl, rfl, rfl, fun _ _ => rfl⟩
  cases effect with
  | lockPool => exact popped owes step.symm
  | waitFor =>
    have waited : a.afterWait i = (reply, b) := step.symm
    unfold PoolState.afterWait at waited
    split at waited
    · cases waited
      refine ⟨conserved.of_same rfl rfl rfl, fun j differs => ?_⟩
      exact ⟨rfl, rfl, Function.update_of_ne differs .., rfl, fun _ _ => rfl⟩
    · exact popped owes waited
  | constructGuard conn =>
    obtain rfl : b = a.construct i conn := step
    refine ⟨conserved.construct owes.1 owes.2, fun j differs => ?_⟩
    exact ⟨Function.update_of_ne differs .., Function.update_of_ne differs .., rfl, rfl,
      fun _ _ => rfl⟩
  | releaseConnection conn =>
    obtain rfl : b = a.release i conn := step
    refine ⟨conserved.release owes.2, fun j differs => ?_⟩
    exact ⟨rfl, Function.update_of_ne differs .., rfl, rfl, fun _ _ => rfl⟩
  | connector conn c =>
    obtain ⟨env, count, w, -, performed, rfl⟩ := step
    refine answered performed fun k s executes j differs held => ?_
    -- A statement goes through the own guard, which no other thread shares.
    cases executes
    have own := (owes.2.2 s rfl).1
    cases conserved.once k (.guarded j) (.guarded i) held own
    exact differs rfl
  | _ =>
    obtain ⟨env, count, w, -, performed, rfl⟩ := step
    exact answered performed (by simp)

end MusicPlayer
