import MusicPlayer.Properties.WriteMethods
import MusicPlayer.Properties.Registry
import MusicPlayer.Reference

/-!
# Creating users and playlists

The INSERT of a creation commits on its own, and the id of the row is read by a statement after
it. A call that throws before the INSERT leaves nothing behind. One that throws after it turns
the answer into `false`, but the row stays.
-/
namespace MusicPlayer

open Resumption Program Relational

/-- The same rows in every table. -/
structure Db.SameRows (after before : Db) : Prop where
  users : after.users.rows = before.users.rows
  playlists : after.playlists.rows = before.playlists.rows
  playlistSongs : after.playlistSongs.rows = before.playlistSongs.rows
  playHistory : after.playHistory.rows = before.playHistory.rows

/-- One more user, with the given fields, and nothing else. -/
structure AddsUser (sys : System) (user : User) (before after : Db) (row : UserRow) : Prop where
  rows : after.users.rows = before.users.rows ++ [row]
  username : row.username = user.username
  passwdHash : row.passwdHash = PasswordUtil.hashPassword sys.sha256 user.passwdHash
  email : row.email = user.email
  playlists : after.playlists.rows = before.playlists.rows
  playlistSongs : after.playlistSongs.rows = before.playlistSongs.rows
  playHistory : after.playHistory.rows = before.playHistory.rows

/-- One more playlist, with the given fields, and nothing else. -/
structure AddsPlaylist (playlist : Playlist) (before after : Db) (row : PlaylistRow) : Prop where
  rows : after.playlists.rows = before.playlists.rows ++ [row]
  name : row.name = playlist.name
  userId : row.userId = playlist.userId
  cover : row.cover = nullable playlist.cover
  users : after.users.rows = before.users.rows
  playlistSongs : after.playlistSongs.rows = before.playlistSongs.rows
  playHistory : after.playHistory.rows = before.playHistory.rows

/-- The result of a creation tells whether its row was added, and which one it is. `withId` is
the caller's object under an id. -/
structure AllOrNothing {τ ρ : Type} (adds : Db → Db → ρ → Prop) (id : ρ → Int32)
    (withId : Int32 → τ) (before : World) (outcome : Except Exn (Bool × τ) × World) : Prop where
  true_iff : ∀ created object, outcome.1 = .ok (created, object) →
    (created = true ↔ ∃ row, adds before.db outcome.2.db row)
  identified : ∀ object, outcome.1 = .ok (true, object) →
    ∀ row, adds before.db outcome.2.db row → object = withId (id row)
  unchanged : ∀ object, outcome.1 = .ok (false, object) → outcome.2.db.SameRows before.db

def UserCreation (sys : System) (env : Env) (w : World) (user : User) : Prop :=
  AllOrNothing (AddsUser sys user) (·.id) (fun id => { user with id }) w
    (runProg sys env (UserDAO.createUser sys user) w)

def PlaylistCreation (sys : System) (env : Env) (w : World) (playlist : Playlist) : Prop :=
  AllOrNothing (AddsPlaylist playlist) (·.id) (fun id => { playlist with id }) w
    (runProg sys env (PlaylistDAO.createPlaylist playlist) w)

/-- If the INSERT, which is call number 4 of a creation, takes effect, then the calls that read
the id do not throw. -/
def AnswersInsert (sys : System) (env : Env) (w : World) (s : Statement) (later : Nat) : Prop :=
  ∀ k, (env.acquired 0).1 = some k → env.QuietFrom (env.acquired 0).2 5 →
    (s.exec (env.context sys k ((env.acquired 0).2 + 4)) w.db).isSome →
    env.QuietFrom ((env.acquired 0).2 + 5) later

/-! ### The runs of the two methods -/

section Runs

variable {sys : System} {env : Env} {k : Conn} {n : Nat} {w : World}

theorem UserDAO.run_createUser (connected : (env.acquired n).1 = some k) (user : User) :
    (createUser sys user).run (exec sys env) n w =
      issuedThen (false, user) (fun db => (true, { user with id := db.lastInsertId k }))
        (env.QuietFrom (env.acquired n).2 5) (env.QuietFrom ((env.acquired n).2 + 5) 4)
        (Statement.exec (env.context sys k ((env.acquired n).2 + 4)) w.db (.insertUser user.username
          (PasswordUtil.hashPassword sys.sha256 user.passwdHash) user.email)) w := by
  apply Proceeds.method connected
  case proceeds =>
    iterate 4 apply Proceeds.call rfl fun _ => rfl
    exact Proceeds.execute
  case reads =>
    intro count db
    refine Reads.call rfl (fun _ => rfl) ?_
    apply Reads.select rfl
    refine Reads.call rfl (fun _ => rfl) ?_
    exact Reads.call rfl (fun _ => rfl) (Reads.ret _)

theorem PlaylistDAO.run_createPlaylist (connected : (env.acquired n).1 = some k)
    (playlist : Playlist) :
    (createPlaylist playlist).run (exec sys env) n w =
      issuedThen (false, playlist) (fun db => (true, { playlist with id := db.lastInsertId k }))
        (env.QuietFrom (env.acquired n).2 5) (env.QuietFrom ((env.acquired n).2 + 5) 3)
        (Statement.exec (env.context sys k ((env.acquired n).2 + 4)) w.db
          (.insertPlaylist playlist.name playlist.userId (nullable playlist.cover))) w := by
  apply Proceeds.method connected
  case proceeds =>
    iterate 3 apply Proceeds.call rfl fun _ => rfl
    apply Proceeds.bindNullable
    exact Proceeds.execute
  case reads =>
    intro count db
    apply Reads.select rfl
    refine Reads.call rfl (fun _ => rfl) ?_
    exact Reads.call rfl (fun _ => rfl) (Reads.ret _)

end Runs

/-! ### When a creation is all or nothing -/

theorem Db.SameRows.rfl {db : Db} : db.SameRows db := ⟨Eq.refl _, Eq.refl _, Eq.refl _, Eq.refl _⟩

/-- A program that has no result has nothing to tell. -/
theorem allOrNothing_error {τ ρ : Type} {adds : Db → Db → ρ → Prop} {id : ρ → Int32}
    {withId : Int32 → τ} {before : World} {outcome : Except Exn (Bool × τ) × World} (exn : Exn)
    (ended : outcome.1 = .error exn) : AllOrNothing adds id withId before outcome := by
  constructor
  all_goals
    intros
    rw [ended] at *
    contradiction

/-- Before the INSERT nothing has happened, and after it the answer decides. -/
theorem allOrNothing_issuedThen {τ ρ : Type} {adds : Db → Db → ρ → Prop} {id : ρ → Int32}
    {withId : Int32 → τ} {s : Statement} {object : τ} {value : Db → Bool × τ} {quiet later : Prop}
    [Decidable quiet] [Decidable later] {executed : Option (s.Reply × Db)} {w : World}
    (inserts : ∀ reply db, executed = some (reply, db) →
      ∃ row, adds w.db db row ∧ value db = (true, withId (id row)))
    (sole : ∀ db a b, adds w.db db a → adds w.db db b → a = b)
    (grows : ∀ row, ¬adds w.db w.db row) :
    AllOrNothing adds id withId w (issuedThen (false, object) value quiet later executed w) ↔
      (quiet → executed.isSome → later) := by
  -- What does not reach the INSERT, or is refused, changes nothing and says so.
  have nothing : AllOrNothing adds id withId w (.ok (false, object), w) := by
    constructor
    · rintro created result ⟨⟩
      simpa using grows
    · rintro result ⟨⟩
    · rintro result ⟨⟩
      exact .rfl
  unfold issuedThen
  by_cases reached : quiet
  · rw [if_pos reached]
    cases executed with
    | none => simpa [reached] using nothing
    | some outcome =>
      obtain ⟨reply, db⟩ := outcome
      obtain ⟨row, added, valued⟩ := inserts reply db rfl
      simp only [reached, Option.isSome_some, forall_true_left]
      by_cases answered : later
      · rw [if_pos answered, valued]
        refine iff_of_true ?_ answered
        constructor
        · rintro created result ⟨⟩
          exact iff_of_true rfl ⟨row, added⟩
        · rintro result ⟨⟩ other alike
          rw [sole db row other added alike]
        · rintro result ⟨⟩
      · rw [if_neg answered]
        refine iff_of_false (fun whole => ?_) answered
        have told := whole.true_iff false object rfl
        exact absurd (told.mpr ⟨row, added⟩) (by decide)
  · rw [if_neg reached]
    simpa [reached] using nothing

theorem append_ne_self {ρ : Type} {rows : List ρ} {row : ρ} : rows ≠ rows ++ [row] := by
  intro equal
  have lengths := congrArg List.length equal
  rw [List.length_append, List.length_singleton] at lengths
  omega

section Inserts

variable {ctx : SqlContext} {before after : Db} {count : Nat}

theorem insertUser_adds {sys : System} {user : User}
    (executed : before.insertUser ctx user.username
      (PasswordUtil.hashPassword sys.sha256 user.passwdHash) user.email = some (count, after)) :
    ∃ row, AddsUser sys user before after row ∧ after.lastInsertId ctx.conn = row.id := by
  obtain ⟨id, inserted, -, equal⟩ := Db.insertUser_eq_some executed
  obtain ⟨-, rows, -⟩ := Table.insert_eq_some inserted
  refine ⟨_, ⟨rows, rfl, rfl, rfl, ?_, ?_, ?_⟩, ?_⟩
  · rw [equal]
  · rw [equal]
  · rw [equal]
  · rw [equal]
    exact Function.update_self ..

theorem insertPlaylist_eq_some {name : String} {userId : Int32} {cover : Option String}
    (executed : before.insertPlaylist ctx name userId cover = some (count, after)) :
    ∃ id, before.playlists.insert (fun id => ⟨id, userId, name, cover, ctx.now, ctx.now⟩) =
        some (id, after.playlists) ∧
      after = { before with
        playlists := after.playlists
        lastInsertId := Function.update before.lastInsertId ctx.conn id } := by
  unfold Db.insertPlaylist at executed
  split at executed
  · obtain ⟨⟨id, playlists⟩, inserted, equal⟩ := Option.map_eq_some_iff.mp executed
    simp only [Prod.mk.injEq] at equal
    obtain ⟨-, rfl⟩ := equal
    exact ⟨id, inserted, rfl⟩
  · cases executed

theorem insertPlaylist_adds {playlist : Playlist}
    (executed : before.insertPlaylist ctx playlist.name playlist.userId (nullable playlist.cover) =
      some (count, after)) :
    ∃ row, AddsPlaylist playlist before after row ∧ after.lastInsertId ctx.conn = row.id := by
  obtain ⟨id, inserted, equal⟩ := insertPlaylist_eq_some executed
  obtain ⟨-, rows, -⟩ := Table.insert_eq_some inserted
  refine ⟨_, ⟨rows, rfl, rfl, rfl, ?_, ?_, ?_⟩, ?_⟩
  · rw [equal]
  · rw [equal]
  · rw [equal]
  · rw [equal]
    exact Function.update_self ..

end Inserts

section Creations

variable (sys : System) (env : Env) (w : World)

theorem userCreation_iff (user : User) : UserCreation sys env w user ↔
    AnswersInsert sys env w (.insertUser user.username
      (PasswordUtil.hashPassword sys.sha256 user.passwdHash) user.email) 4 := by
  unfold UserCreation AnswersInsert runProg
  cases connected : (env.acquired 0).1 with
  | none =>
    rw [UserDAO.createUser, run_daoMethod_null connected rfl]
    exact iff_of_true (allOrNothing_error .nullDeref rfl) (by simp)
  | some k =>
    rw [UserDAO.run_createUser connected, allOrNothing_issuedThen]
    · simp
    · intro count db executed
      obtain ⟨row, added, identified⟩ := insertUser_adds executed
      exact ⟨row, added, by rw [← identified]; rfl⟩
    · intro db a b first second
      have equal := first.rows.symm.trans second.rows
      simpa using equal
    · exact fun row added => append_ne_self added.rows

theorem playlistCreation_iff (playlist : Playlist) : PlaylistCreation sys env w playlist ↔
    AnswersInsert sys env w
      (.insertPlaylist playlist.name playlist.userId (nullable playlist.cover)) 3 := by
  unfold PlaylistCreation AnswersInsert runProg
  cases connected : (env.acquired 0).1 with
  | none =>
    rw [PlaylistDAO.createPlaylist, run_daoMethod_null connected rfl]
    exact iff_of_true (allOrNothing_error .nullDeref rfl) (by simp)
  | some k =>
    rw [PlaylistDAO.run_createPlaylist connected, allOrNothing_issuedThen]
    · simp
    · intro count db executed
      obtain ⟨row, added, identified⟩ := insertPlaylist_adds executed
      exact ⟨row, added, by rw [← identified]; rfl⟩
    · intro db a b first second
      have equal := first.rows.symm.trans second.rows
      simpa using equal
    · exact fun row added => append_ne_self added.rows

end Creations

section LostAnswer

open Reference

/-- The `executeQuery` with text, call number 5 of `createPlaylist`, throws. -/
def textQueryThrows : Env where
  clock _ := 0
  throws n := n = 8

end LostAnswer

end MusicPlayer
