import MusicPlayer.Database.UserDAO

/-!
# What the data access objects do

Every method runs its connector calls inside one guard. The rules below say what can come
of each call: it does its work, or the database refuses it, or it fails. Failures exist only
in environments that are not `Faultless`.
-/
namespace MusicPlayer

open Resumption Program Relational

/-- No connector call throws by itself and no `getConnection` times out. -/
structure Env.Faultless (env : Env) : Prop where
  connected : ∀ n, env.connection n ≠ none
  quiet : ∀ n, env.throws n = false

/-- The exceptions of a connector call that fails. -/
def Env.MayRaise (env : Env) (conn : Option Conn) (exn : Exn) : Prop :=
  ¬env.Faultless ∧ (exn = .sqlException ∨ exn = .nullDeref ∧ conn = none)

/-- What the database sees of a statement executed in this environment. -/
def Env.Context (sys : System) (env : Env) (ctx : SqlContext) : Prop :=
  ctx.collate = sys.collate ∧ ctx.now = env.dbNow

/-- A result as it leaves the `catch` clause of a method. -/
def caught {α : Type} (failure : α) (post : Except Exn α → World → Prop) :
    Except Exn α → World → Prop
  | .error .sqlException, w => post (.ok failure) w
  | result, w => post result w

@[simp] theorem caught_ok {α : Type} (failure value : α) (post : Except Exn α → World → Prop)
    (w : World) : caught failure post (.ok value) w ↔ post (.ok value) w := Iff.rfl

@[simp] theorem caught_sqlException {α : Type} (failure : α) (post : Except Exn α → World → Prop)
    (w : World) : caught failure post (.error .sqlException) w ↔ post (.ok failure) w := Iff.rfl

@[simp] theorem caught_nullDeref {α : Type} (failure : α) (post : Except Exn α → World → Prop)
    (w : World) :
    caught failure post (.error .nullDeref) w ↔ post (.error .nullDeref) w := Iff.rfl

section Calls

variable {sys : System} {env : Env} {w : World} {α : Type} {conn : Option Conn}
  {post : Except Exn α → World → Prop}

theorem execCall_plain {c : ConnectorCall} (plain : c.isPlain = true) (sys : System) (env : Env)
    (count : Nat) (k : Conn) (w : World) :
    ∃ reply, execCall sys env count k c w = (.ok reply, w) := by
  cases c with
  | isValid => cases plain
  | execute s => cases plain
  | _ => exact ⟨(), rfl⟩

/-- A connector call dereferences `nullptr`, throws, or is performed. -/
theorem wp_call {c : ConnectorCall} {post : Except Exn c.Reply → World → Prop}
    (null : conn = none → post (.error .nullDeref) w)
    (throws : ¬env.Faultless → post (.error .sqlException) w)
    (performs : ∀ count k reply after, conn = some k →
      execCall sys env count k c w = (reply, after) → post reply after) :
    (DBManager.call conn c).Wp (Step sys env) post w := by
  simp only [DBManager.call, trigger, bind_eq, act_bind, ret_bind, wp_act]
  rintro reply after ⟨count, answer⟩
  suffices holds : post reply after by
    cases reply with
    | ok value => exact holds
    | error exn => exact holds
  cases conn with
  | none =>
    cases answer
    exact null rfl
  | some k =>
    simp only [exec] at answer
    split at answer
    next thrown =>
      cases answer
      exact throws fun faultless => by simp [faultless.quiet] at thrown
    · exact performs count k reply after rfl answer

theorem wp_call_plain {c : ConnectorCall} (plain : c.isPlain = true)
    (connected : env.Faultless → conn.isSome) {post : Except Exn c.Reply → World → Prop}
    (fails : ∀ exn, env.MayRaise conn exn → post (.error exn) w)
    (done : ∀ reply, post (.ok reply) w) : (DBManager.call conn c).Wp (Step sys env) post w := by
  apply wp_call
  · rintro rfl
    exact fails _ ⟨fun faultless => absurd (connected faultless) (by simp), .inr ⟨rfl, rfl⟩⟩
  · intro faulty
    exact fails _ ⟨faulty, .inl rfl⟩
  · intro count k reply after _ performed
    obtain ⟨value, equal⟩ := execCall_plain plain sys env count k w
    rw [equal] at performed
    cases performed
    exact done value

theorem wp_call_execute {s : Statement} (connected : env.Faultless → conn.isSome)
    {post : Except Exn s.Reply → World → Prop}
    (fails : ∀ exn, env.MayRaise conn exn → post (.error exn) w)
    (refused : ∀ ctx, env.Context sys ctx → conn = some ctx.conn → s.exec ctx w.db = none →
      post (.error .sqlException) w)
    (done : ∀ ctx reply db, env.Context sys ctx → conn = some ctx.conn →
      s.exec ctx w.db = some (reply, db) → post (.ok reply) { w with db }) :
    (DBManager.call conn (.execute s)).Wp (Step sys env) post w := by
  apply wp_call
  · rintro rfl
    exact fails _ ⟨fun faultless => absurd (connected faultless) (by simp), .inr ⟨rfl, rfl⟩⟩
  · intro faulty
    exact fails _ ⟨faulty, .inl rfl⟩
  · intro count k reply after same performed
    simp only [execCall] at performed
    split at performed
    next value db outcome =>
      cases performed
      exact done _ _ _ ⟨rfl, rfl⟩ same outcome
    next outcome =>
      cases performed
      exact refused _ ⟨rfl, rfl⟩ same outcome

/-- A plain call in sequence. -/
theorem wp_plain_bind {c : ConnectorCall} {next : c.Reply → Prog α} (plain : c.isPlain = true)
    (connected : env.Faultless → conn.isSome)
    (fails : ∀ exn, env.MayRaise conn exn → post (.error exn) w)
    (continues : ∀ reply, (next reply).Wp (Step sys env) post w) :
    (((⟨conn⟩ : SqlConnGuard).call c).bind next).Wp (Step sys env) post w :=
  (wp_bind ..).mpr (wp_call_plain plain connected fails continues)

/-- Reading a column only where it is not NULL. -/
theorem wp_optional_bind {column : String} {next : Unit → Prog α} {p : Prop} [Decidable p]
    (connected : env.Faultless → conn.isSome)
    (fails : ∀ exn, env.MayRaise conn exn → post (.error exn) w)
    (continues : (next ()).Wp (Step sys env) post w) :
    (if p then ((⟨conn⟩ : SqlConnGuard).call (.getString column)).bind next else next ()).Wp
      (Step sys env) post w := by
  split
  · exact wp_plain_bind rfl connected fails fun _ => continues
  · exact continues

/-- A statement in sequence. -/
theorem wp_execute_bind {s : Statement} {next : s.Reply → Prog α}
    (connected : env.Faultless → conn.isSome)
    (fails : ∀ exn, env.MayRaise conn exn → post (.error exn) w)
    (refused : ∀ ctx, env.Context sys ctx → conn = some ctx.conn → s.exec ctx w.db = none →
      post (.error .sqlException) w)
    (continues : ∀ ctx reply db, env.Context sys ctx → conn = some ctx.conn →
      s.exec ctx w.db = some (reply, db) → (next reply).Wp (Step sys env) post { w with db }) :
    (((⟨conn⟩ : SqlConnGuard).execute s).bind next).Wp (Step sys env) post w :=
  (wp_bind ..).mpr (wp_call_execute connected fails refused continues)

/-- A statement that reads: the database neither refuses nor changes. -/
theorem wp_select_bind {s : Statement} {next : s.Reply → Prog α} {reply : SqlContext → s.Reply}
    (reads : ∀ ctx, s.exec ctx w.db = some (reply ctx, w.db))
    (connected : env.Faultless → conn.isSome)
    (fails : ∀ exn, env.MayRaise conn exn → post (.error exn) w)
    (continues : ∀ ctx, env.Context sys ctx → conn = some ctx.conn →
      (next (reply ctx)).Wp (Step sys env) post w) :
    (((⟨conn⟩ : SqlConnGuard).execute s).bind next).Wp (Step sys env) post w := by
  refine wp_execute_bind connected fails ?_ ?_
  · intro ctx _ _ refused
    rw [reads ctx] at refused
    cases refused
  · intro ctx value db sees same executed
    rw [reads ctx] at executed
    cases executed
    exact continues ctx sees same

/-- Through a connection, the calls of the revalidation change nothing; whatever they throw
is an `SQLException`. -/
theorem wp_revalidate_call (k : Conn) {c : ConnectorCall} (executes : ∀ s, c ≠ .execute s)
    {post : Except Exn c.Reply → World → Prop} (throws : post (.error .sqlException) w)
    (done : ∀ reply, post (.ok reply) w) :
    (DBManager.call (some k) c).Wp (Step sys env) post w := by
  apply wp_call
  · intro null
    cases null
  · exact fun _ => throws
  · intro count j reply after _ performed
    cases c with
    | execute s => exact absurd rfl (executes s)
    | _ =>
      cases performed
      exact done _

theorem wp_revalidate (k : Conn) {post : Except Exn Unit → World → Prop} (done : post (.ok ()) w) :
    (DBManager.revalidate (some k)).Wp (Step sys env) post w := by
  unfold DBManager.revalidate
  rw [wp_tryCatch]
  simp only [bind_eq, wp_bind]
  refine wp_revalidate_call k (by simp) done fun valid => ?_
  cases valid with
  | true => exact done
  | false =>
    simp only [Bool.not_false, if_true, wp_bind]
    refine wp_revalidate_call k (by simp) done fun _ => ?_
    exact wp_revalidate_call k (by simp) done fun _ => done

theorem wp_popConnection {post : Except Exn (Option Conn) → World → Prop}
    (done : ∀ conn : Option Conn, (env.Faultless → conn.isSome) → post (.ok conn) w) :
    DBManager.popConnection.Wp (Step sys env) post w := by
  have connected (count : Nat) (faultless : env.Faultless) : (env.connection count).isSome :=
    Option.isSome_iff_ne_none.mpr (faultless.connected count)
  simp only [DBManager.popConnection, trigger, bind_eq, act_bind, ret_bind, wp_act]
  rintro reply after ⟨count, answer⟩
  cases answer
  cases popped : env.connection count with
  | some k => exact done _ fun _ => rfl
  | none =>
    simp only [wp_act]
    rintro reply after ⟨count, answer⟩
    cases answer
    exact done _ (connected count)

theorem wp_getConnection {post : Except Exn (Option Conn) → World → Prop}
    (done : ∀ conn : Option Conn, (env.Faultless → conn.isSome) → post (.ok conn) w) :
    DBManager.getConnection.Wp (Step sys env) post w := by
  simp only [DBManager.getConnection, bind_eq, wp_bind]
  refine wp_popConnection fun conn connected => ?_
  cases conn with
  | none => exact done none connected
  | some k =>
    simp only [wp_bind]
    exact wp_revalidate k (done (some k) connected)

/-- A method does what its body does with the connection it gets, and turns an
`SQLException` into the failure value. -/
theorem wp_daoMethod {failure : α} {body : SqlConnGuard → Prog α}
    (bodies : ∀ conn : Option Conn, (env.Faultless → conn.isSome) →
      (body ⟨conn⟩).Wp (Step sys env) (caught failure post) w) :
    (daoMethod failure body).Wp (Step sys env) post w := by
  rw [daoMethod, wp_tryCatch]
  simp only [SqlConnGuard.scope, trigger, bind_eq, wp_bind]
  refine wp_getConnection fun conn connected => ?_
  simp only [act_bind, ret_bind, wp_constructGuard, wp_bind, wp_attempt]
  refine (bodies conn connected).mono fun result after outcome => ?_
  -- Releasing the connection cannot fail, so what the body did is what remains.
  cases conn <;> cases result with
  | ok value => simpa [SqlConnGuard.destroy, trigger] using outcome
  | error exn => cases exn <;> simpa [SqlConnGuard.destroy, trigger, caught] using outcome

end Calls

/-! ### The methods of `UserDAO` that the handlers call -/

/-- What `buildFromResultSet` makes of a row. -/
def UserRow.toUser (sys : System) (row : UserRow) : User where
  id := row.id
  username := row.username
  passwdHash := row.passwdHash
  email := row.email
  qqId := row.qqId.getD ""
  neteaseId := row.neteaseId.getD ""
  createAt := sys.formatTimestamp row.createAt
  updateAt := sys.formatTimestamp row.updateAt

namespace UserDAO

variable {sys : System} {env : Env} {w : World}

theorem wp_buildFromResultSet {conn : Option Conn} (row : UserRow)
    (connected : env.Faultless → conn.isSome) {post : Except Exn User → World → Prop}
    (fails : ∀ exn, env.MayRaise conn exn → post (.error exn) w)
    (done : post (.ok (row.toUser sys)) w) :
    (buildFromResultSet sys ⟨conn⟩ row).Wp (Step sys env) post w := by
  unfold buildFromResultSet
  iterate 7 refine wp_plain_bind rfl connected fails fun _ => ?_
  apply wp_optional_bind connected fails
  refine wp_plain_bind rfl connected fails fun _ => ?_
  exact wp_optional_bind connected fails done

theorem wp_getUserByUsername (username : String) {post : Except Exn (Option User) → World → Prop}
    (crashes : ¬env.Faultless → post (.error .nullDeref) w)
    (absent : (env.Faultless → ∀ row ∈ w.db.users.rows,
      sys.collate row.username ≠ sys.collate username) → post (.ok none) w)
    (found : ∀ row ∈ w.db.users.rows, sys.collate row.username = sys.collate username →
      post (.ok (some (row.toUser sys))) w) :
    (getUserByUsername sys username).Wp (Step sys env) post w := by
  refine wp_daoMethod fun conn connected => ?_
  have fails : ∀ exn, env.MayRaise conn exn → caught none post (.error exn) w := by
    rintro exn ⟨faulty, rfl | ⟨rfl, -⟩⟩
    · exact absent fun faultless => absurd faultless faulty
    · exact crashes faulty
  iterate 2 refine wp_plain_bind rfl connected fails fun _ => ?_
  refine wp_select_bind (fun _ => rfl) connected fails fun ctx ⟨collate, _⟩ _ => ?_
  refine wp_plain_bind rfl connected fails fun _ => ?_
  rw [collate]
  split
  next row rest result =>
    have member := List.mem_filter.mp (result ▸ List.mem_cons_self : row ∈ _)
    rw [mem_scan, beq_iff_eq] at member
    refine (wp_bind ..).mpr (wp_buildFromResultSet row connected fails ?_)
    exact found row member.1 member.2
  next result =>
    refine absent fun _ row member equal => ?_
    have none := List.filter_eq_nil_iff.mp result row (mem_scan.mpr member)
    exact none (beq_iff_eq.mpr equal)

theorem wp_getUserById (id : Int32) {post : Except Exn (Option User) → World → Prop}
    (crashes : ¬env.Faultless → post (.error .nullDeref) w) (absent : post (.ok none) w)
    (found : ∀ row ∈ w.db.users.rows, row.id = id → post (.ok (some (row.toUser sys))) w) :
    (getUserById sys id).Wp (Step sys env) post w := by
  refine wp_daoMethod fun conn connected => ?_
  have fails : ∀ exn, env.MayRaise conn exn → caught none post (.error exn) w := by
    rintro exn ⟨faulty, rfl | ⟨rfl, -⟩⟩
    · exact absent
    · exact crashes faulty
  iterate 2 refine wp_plain_bind rfl connected fails fun _ => ?_
  refine wp_select_bind (fun _ => rfl) connected fails fun ctx _ _ => ?_
  refine wp_plain_bind rfl connected fails fun _ => ?_
  split
  next row rest result =>
    have member := List.mem_filter.mp (result ▸ List.mem_cons_self : row ∈ _)
    refine (wp_bind ..).mpr (wp_buildFromResultSet row connected fails ?_)
    exact found row member.1 (beq_iff_eq.mp member.2)
  · exact absent

/-- The row is there as soon as the INSERT succeeds; what comes after it can only lose the
answer. -/
theorem wp_createUser (user : User) {post : Except Exn (Bool × User) → World → Prop}
    (crashes : ¬env.Faultless → post (.error .nullDeref) w) (rejected : post (.ok (false, user)) w)
    (inserted : ∀ ctx count db, env.Context sys ctx →
      w.db.insertUser ctx user.username (PasswordUtil.hashPassword sys.sha256 user.passwdHash)
        user.email = some (count, db) →
      post (.ok (true, { user with id := db.lastInsertId ctx.conn })) { w with db } ∧
      (¬env.Faultless → post (.ok (false, user)) { w with db })) :
    (createUser sys user).Wp (Step sys env) post w := by
  refine wp_daoMethod fun conn connected => ?_
  have fails : ∀ exn, env.MayRaise conn exn → caught (false, user) post (.error exn) w := by
    rintro exn ⟨faulty, rfl | ⟨rfl, -⟩⟩
    · exact rejected
    · exact crashes faulty
  iterate 4 refine wp_plain_bind rfl connected fails fun _ => ?_
  refine wp_execute_bind connected fails (fun _ _ _ _ => rejected) ?_
  rintro ctx count db sees rfl executed
  obtain ⟨answered, lost⟩ := inserted ctx count db sees executed
  -- The connection is not null, so what fails from here on is an `SQLException`.
  have loses : ∀ exn, env.MayRaise (some ctx.conn) exn →
      caught (false, user) post (.error exn) { w with db } := by
    rintro exn ⟨faulty, rfl | ⟨-, null⟩⟩
    · exact lost faulty
    · cases null
  refine wp_plain_bind rfl connected loses fun _ => ?_
  refine wp_execute_bind connected loses (fun _ _ _ refused => by cases refused) ?_
  rintro reader ids after - same selected
  cases selected
  rw [Option.some.inj same] at answered
  iterate 2 refine wp_plain_bind rfl connected loses fun _ => ?_
  exact answered

/-- The single-column updates. -/
theorem wp_updateColumn (sql value : String) (userId : Int32) (s : Statement)
    {post : Except Exn Bool → World → Prop}
    (crashes : ¬env.Faultless → post (.error .nullDeref) w) (rejected : post (.ok false) w)
    (updated : ∀ ctx reply db, env.Context sys ctx → s.exec ctx w.db = some (reply, db) →
      post (.ok true) { w with db }) :
    (updateColumn sql value userId s).Wp (Step sys env) post w := by
  refine wp_daoMethod fun conn connected => ?_
  have fails : ∀ exn, env.MayRaise conn exn → caught false post (.error exn) w := by
    rintro exn ⟨faulty, rfl | ⟨rfl, -⟩⟩
    · exact rejected
    · exact crashes faulty
  iterate 3 refine wp_plain_bind rfl connected fails fun _ => ?_
  refine wp_execute_bind connected fails (fun _ _ _ _ => rejected) ?_
  intro ctx reply db sees _ executed
  exact updated ctx reply db sees executed

end UserDAO

end MusicPlayer
