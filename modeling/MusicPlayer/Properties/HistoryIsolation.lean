import MusicPlayer.Properties.Interference
import MusicPlayer.Properties.GuardDiscipline
import MusicPlayer.Properties.PlayCount

/-!
# The histories of different users

Operations of `PlayHistoryDAO` name a user, each of their statements but one does too. The
exception is the UPDATE of a play, which names a record by the id that a SELECT has found for the
user before. Records never change their user and ids are not reused, so the record is still one of
that user, or it is gone.

From that it follows that a user cannot tell whether others do anything: with their operations
taken out of a schedule, all the others run as before.
-/
namespace MusicPlayer

open Resumption Program Relational

/-- The user for whom an operation on the history is called. -/
def DaoOp.historyUser? : DaoOp → Option Int32
  | addPlayHistory history => some history.userId
  | getUserPlayHistory userId _ _ | clearUserPlayHistory userId | deletePlayHistory _ userId
  | getUserTotalPlayCount userId | getUserRecentPlayCount userId _ | getUserTopArtists userId _
  | getUserTopSongs userId _ | getMostPlayedSongs userId _ => some userId
  | _ => none

/-- The records of all users but one, in the order of the table. -/
def Db.historyWithout (db : Db) (userId : Int32) : List PlayHistoryRow :=
  db.playHistory.rows.filter (·.userId != userId)

/-! ### Statements -/

/-- The record with an id, if there is one, belongs to a user. -/
def Db.Owns (db : Db) (userId id : Int32) : Prop :=
  ∀ row ∈ db.playHistory.rows, row.id = id → row.userId = userId

/-- A statement of an operation called for a user. -/
def Statement.OfUser (userId : Int32) (db : Db) : Statement → Prop
  | .selectSongCount user _ | .selectPlayHistory user _ _ | .clearPlayHistory user
  | .deletePlayHistory _ user | .countPlayHistory user | .countRecentPlayHistory user _
  | .selectTopArtists user _ | .selectTopSongs user _ => user = userId
  | .updateSongCount _ id => db.Owns userId id
  | .insertPlayHistory columns values => columns.length ≠ values.length
  | _ => False

/-- Records may go, but none comes or changes its user. -/
def Db.Shrinks (before after : Db) : Prop :=
  ∀ row ∈ after.playHistory.rows, ∃ old ∈ before.playHistory.rows,
    old.id = row.id ∧ old.userId = row.userId

theorem Db.Shrinks.refl (db : Db) : db.Shrinks db := fun row member => ⟨row, member, rfl, rfl⟩

theorem Db.Shrinks.trans {a b c : Db} (first : a.Shrinks b) (second : b.Shrinks c) :
    a.Shrinks c := by
  intro row member
  obtain ⟨middle, present, id, user⟩ := second row member
  obtain ⟨old, before, id', user'⟩ := first middle present
  exact ⟨old, before, id'.trans id, user'.trans user⟩

theorem Db.Owns.later {before after : Db} {userId id : Int32} (owns : before.Owns userId id)
    (shrinks : before.Shrinks after) : after.Owns userId id := by
  intro row member same
  obtain ⟨old, present, sameId, sameUser⟩ := shrinks row member
  exact sameUser.symm.trans (owns old present (sameId.trans same))

section Statements

variable {ctx : SqlContext} {userId other : Int32} {db db' : Db}

/-- The refused INSERT, whatever its values are. -/
theorem insertPlayHistory_of_length_ne {columns : List HistoryColumn} {values : List SqlValue}
    (differs : columns.length ≠ values.length) :
    db.insertPlayHistory ctx columns values = none := by
  simp [Db.insertPlayHistory, differs, guard]

/-- What the SELECTs of a user read is left when the records of another are taken out. -/
theorem historyOf_eq (differs : other ≠ userId) : db.historyOf ctx other =
    (scan (fun row => ctx.rank row.id) (db.historyWithout userId)).filter (·.userId == other) := by
  rw [Db.historyOf, Db.historyWithout, filter_scan, filter_scan, List.filter_filter]
  congr 1
  refine List.filter_congr fun row _ => ?_
  by_cases own : row.userId = other
  · simp [own, differs]
  · simp [own]

/-- Rows that are counted, none of them of the other user. -/
theorem countP_eq {p : PlayHistoryRow → Bool}
    (foreign : ∀ row ∈ db.playHistory.rows, p row = true → row.userId ≠ userId) :
    db.playHistory.rows.countP p = (db.historyWithout userId).countP p := by
  rw [Db.historyWithout, List.countP_filter]
  refine List.countP_congr fun row member => ?_
  simp only [bne_iff_ne, Bool.and_eq_true, ne_eq]
  exact ⟨fun selected => ⟨selected, foreign row member selected⟩, And.left⟩

theorem historyWithout_delete (selects : PlayHistoryRow → Bool) :
    { db with playHistory := db.playHistory.delete selects }.historyWithout userId =
      (db.historyWithout userId).filter fun row => !selects row := by
  simp only [Db.historyWithout, Table.delete, List.filter_filter, Bool.and_comm]

theorem historyWithout_update (db : Db) (selects : PlayHistoryRow → Bool)
    (assign : PlayHistoryRow → PlayHistoryRow) (keeps : ∀ row, (assign row).userId = row.userId) :
    { db with playHistory := db.playHistory.update selects assign }.historyWithout userId =
      (db.historyWithout userId).map fun row => if selects row then assign row else row := by
  simp only [Db.historyWithout, Table.update, List.filter_map]
  congr 1
  refine List.filter_congr fun row _ => ?_
  simp only [Function.comp_apply]
  split
  · rw [keeps]
  · rfl

/-- A DELETE of records of the user. -/
theorem delete_frame {selects : PlayHistoryRow → Bool}
    (own : ∀ row, selects row = true → row.userId = userId)
    {after : Db} (deleted : after.playHistory = db.playHistory.delete selects) :
    after.historyWithout userId = db.historyWithout userId ∧ db.Shrinks after ∧
      (db.playHistory.Unique PlayHistoryRow.id → after.playHistory.Unique PlayHistoryRow.id) := by
  refine ⟨?_, ?_, ?_⟩
  · have same : after.historyWithout userId =
        { db with playHistory := db.playHistory.delete selects }.historyWithout userId := by
      rw [Db.historyWithout, deleted, Db.historyWithout]
    rw [same, historyWithout_delete, List.filter_eq_self]
    intro row member
    -- A selected row is the own one of the user, and was left out already.
    have foreign := (List.mem_filter.mp member).2
    rw [Bool.not_eq_true']
    by_contra selected
    simp [own row (by simpa using selected)] at foreign
  · intro row member
    rw [deleted] at member
    exact ⟨row, (List.mem_filter.mp member).1, rfl, rfl⟩
  · intro unique
    rw [Table.Unique, deleted]
    exact unique.sublist (List.filter_sublist.map _)

/-- What a statement of a user does to the history. -/
theorem Statement.OfUser.frame {s : Statement} (own : s.OfUser userId db) {reply : s.Reply}
    {after : Db} (executed : s.exec ctx db = some (reply, after)) :
    after.historyWithout userId = db.historyWithout userId ∧ db.Shrinks after ∧
      (db.playHistory.Unique PlayHistoryRow.id → after.playHistory.Unique PlayHistoryRow.id) := by
  have reads (same : after = db) : after.historyWithout userId = db.historyWithout userId ∧
      db.Shrinks after ∧ (db.playHistory.Unique PlayHistoryRow.id →
        after.playHistory.Unique PlayHistoryRow.id) := by
    subst same
    exact ⟨rfl, .refl _, id⟩
  cases s with
  | selectSongCount | countPlayHistory | countRecentPlayHistory =>
    cases executed
    exact reads rfl
  | selectPlayHistory | selectTopArtists | selectTopSongs =>
    obtain ⟨rows, -, equal⟩ := Option.map_eq_some_iff.mp executed
    cases equal
    exact reads rfl
  -- The INSERT of a play is refused, so it adds no record for anybody.
  | insertPlayHistory columns values =>
    have refused : Statement.exec ctx db (.insertPlayHistory columns values) = none :=
      insertPlayHistory_of_length_ne own
    rw [refused] at executed
    cases executed
  | clearPlayHistory user =>
    cases executed
    obtain rfl : user = userId := own
    exact delete_frame (fun row selected => beq_iff_eq.mp selected) rfl
  | deletePlayHistory id user =>
    cases executed
    obtain rfl : user = userId := own
    refine delete_frame (fun row selected => ?_) rfl
    exact beq_iff_eq.mp (Bool.and_eq_true_iff.mp selected).2
  -- The UPDATE is by id; the id was found among the records of the user.
  | updateSongCount songCount id =>
    cases executed
    refine ⟨?_, ?_, fun unique => unique.update fun _ => rfl⟩
    · refine (historyWithout_update db _ (fun row => { row with songCount }) fun _ => rfl).trans ?_
      refine (List.map_congr_left fun row member => ?_).trans (List.map_id _)
      obtain ⟨present, foreign⟩ := List.mem_filter.mp member
      split
      next selected =>
        have user := own row present (beq_iff_eq.mp selected)
        simp [user] at foreign
      · rfl
    · intro row member
      obtain ⟨old, present, rfl⟩ := List.mem_map.mp member
      refine ⟨old, present, ?_⟩
      split <;> exact ⟨rfl, rfl⟩
  | _ => exact own.elim

/-- A statement of another user is answered from the records that are not of the user, and what
becomes of them is the same as well. -/
theorem Statement.OfUser.alike (ctx : SqlContext) {s : Statement} (own : s.OfUser other db)
    (own' : s.OfUser other db') (differs : other ≠ userId)
    (alike : db.historyWithout userId = db'.historyWithout userId) :
    (s.exec ctx db).map (fun answer => (answer.1, answer.2.historyWithout userId)) =
      (s.exec ctx db').map fun answer => (answer.1, answer.2.historyWithout userId) := by
  have history (user : Int32) (same : user = other) :
      db.historyOf ctx user = db'.historyOf ctx user := by
    rw [same, historyOf_eq differs, historyOf_eq differs, alike]
  have counts {p : PlayHistoryRow → Bool} (foreign : ∀ row, p row = true → row.userId = other) :
      db.playHistory.rows.countP p = db'.playHistory.rows.countP p := by
    have left : ∀ row, p row = true → row.userId ≠ userId := by
      intro row selected
      rw [foreign row selected]
      exact differs
    rw [countP_eq fun row _ => left row, countP_eq fun row _ => left row, alike]
  cases s with
  | selectSongCount user songId =>
    simp only [Statement.exec, history user own, Option.map_some, alike]
  | selectPlayHistory user limit offset =>
    simp only [Statement.exec, Db.selectPlayHistory, history user own, Option.map_map,
      Function.comp_def, alike]
  | selectTopArtists user limit =>
    simp only [Statement.exec, history user own, Option.map_map, Function.comp_def, alike]
  | selectTopSongs user limit =>
    simp only [Statement.exec, history user own, Option.map_map, Function.comp_def, alike]
  | countPlayHistory user =>
    obtain rfl : user = other := own
    simp only [Statement.exec, Option.map_some, alike, counts fun row => beq_iff_eq.mp]
  | countRecentPlayHistory user days =>
    obtain rfl : user = other := own
    have recent := counts (p := fun row => row.userId == user &&
      ctx.now - days.toInt * 86400 ≤ row.playedAt) fun row selected =>
        beq_iff_eq.mp (Bool.and_eq_true_iff.mp selected).1
    simp only [Statement.exec, Option.map_some, alike, recent]
  | clearPlayHistory user =>
    obtain rfl : user = other := own
    have selected := counts (p := fun row => row.userId == user) fun row => beq_iff_eq.mp
    simp only [Statement.exec, Option.map_some, historyWithout_delete, alike, selected]
  | deletePlayHistory id user =>
    obtain rfl : user = other := own
    have selected := counts (p := fun row => row.id == id && row.userId == user)
      fun row selected => beq_iff_eq.mp (Bool.and_eq_true_iff.mp selected).2
    simp only [Statement.exec, Option.map_some, historyWithout_delete, alike, selected]
  | updateSongCount songCount id =>
    -- The records with the id are records of the other user, in both tables.
    have changed {db : Db} (owns : db.Owns other id) :
        db.playHistory.changedRows (·.id == id) (fun row => { row with songCount }) =
          (db.historyWithout userId).countP fun row =>
            row.id == id && decide ({ row with songCount } ≠ row) := by
      refine countP_eq fun row member selected => ?_
      rw [owns row member (beq_iff_eq.mp (Bool.and_eq_true_iff.mp selected).1)]
      exact differs
    simp only [Statement.exec, Option.map_some, changed own, changed own',
      historyWithout_update _ _ (fun row : PlayHistoryRow => { row with songCount }) fun _ => rfl,
      alike]
  | insertPlayHistory columns values =>
    have refused (db : Db) : Statement.exec ctx db (.insertPlayHistory columns values) = none :=
      insertPlayHistory_of_length_ne own
    rw [refused db, refused db']
  | _ => exact own.elim

end Statements

/-! ### Operations as threads -/

section Threads

variable {ι : Type} [DecidableEq ι]

/-- Each thread makes one call. Every effect is answered by some environment. -/
def historyThreads (ι : Type) [DecidableEq ι] (sys : System) :
    Concurrent ι Effect Effect.Reply Exn DaoOp DaoOp.Result World where
  program := DaoOp.program sys
  starts _ _ _ _ := False
  step _ effect a reply b := ∃ env, Step sys env effect a reply b

def historyInit (sys : System) (w : World) (ops : ι → DaoOp) :
    Config ι Effect Effect.Reply Exn DaoOp.Result World where
  shared := w
  threads i := some ⟨ops i, (ops i).program sys⟩

/-- One effect of a thread in a given environment, as the `n`-th effect for it. -/
def historyExec (sys : System) (_ : ι) (choice : Env × Nat) (effect : Effect) (a : World) :
    effect.Reply × World :=
  exec sys choice.1 choice.2 effect a

/-- An effect of an operation called for a user. -/
def HistoryEffect (userId : Int32) : Effect → World → Prop
  | .connector _ (.execute s), w => s.OfUser userId w.db
  | effect, _ => effect.Bare

theorem historyEffect_of_bare {userId : Int32} (effect : Effect) (w : World)
    (bare : effect.Bare) : HistoryEffect userId effect w := by
  cases effect with
  | connector conn c =>
    cases c with
    | execute s => exact bare.elim
    | _ => exact bare
  | _ => exact bare

theorem HistoryEffect.bare_or {userId : Int32} {effect : Effect} {w : World}
    (own : HistoryEffect userId effect w) :
    effect.Bare ∨ ∃ conn s, effect = .connector conn (.execute s) ∧ s.OfUser userId w.db := by
  cases effect with
  | connector conn c =>
    cases c with
    | execute s => exact .inr ⟨conn, s, rfl, own⟩
    | _ => exact .inl own
  | _ => exact .inl own

/-- What an effect of the user does to the history. -/
theorem HistoryEffect.frame {sys : System} {env : Env} {userId : Int32} {effect : Effect}
    {a b : World} {reply : effect.Reply} (own : HistoryEffect userId effect a)
    (step : Step sys env effect a reply b) :
    b.db.historyWithout userId = a.db.historyWithout userId ∧ a.db.Shrinks b.db ∧
      (a.db.playHistory.Unique PlayHistoryRow.id → b.db.playHistory.Unique PlayHistoryRow.id) := by
  have still (same : b = a) : b.db.historyWithout userId = a.db.historyWithout userId ∧
      a.db.Shrinks b.db ∧ (a.db.playHistory.Unique PlayHistoryRow.id →
        b.db.playHistory.Unique PlayHistoryRow.id) := by
    subst same
    exact ⟨rfl, .refl _, id⟩
  -- Only a statement that was executed can change a table.
  rcases own.bare_or with bare | ⟨conn, s, rfl, statement⟩
  · obtain ⟨count, performed⟩ := step
    have kept := (exec_bare sys env count bare a a).1
    rw [performed] at kept
    exact still kept
  · rcases step_statement step with ⟨-, same⟩ | ⟨ctx, value, db, -, -, executed, rfl⟩
    · exact still same
    · exact statement.frame executed

/-- Answered from the records of the others, an effect of another user has the same reply. -/
theorem HistoryEffect.alike (sys : System) (env : Env) (count : Nat) {userId other : Int32}
    {effect : Effect} {a b : World} (own : HistoryEffect other effect a)
    (own' : HistoryEffect other effect b) (differs : other ≠ userId)
    (alike : a.db.historyWithout userId = b.db.historyWithout userId) :
    (exec sys env count effect a).1 = (exec sys env count effect b).1 ∧
      (exec sys env count effect a).2.db.historyWithout userId =
        (exec sys env count effect b).2.db.historyWithout userId := by
  rcases own.bare_or with bare | ⟨conn, s, rfl, statement⟩
  · obtain ⟨first, reply⟩ := exec_bare sys env count bare a b
    obtain ⟨second, -⟩ := exec_bare sys env count bare b a
    rw [first, second]
    exact ⟨reply, alike⟩
  cases conn with
  | none => exact ⟨rfl, alike⟩
  | some k =>
    simp only [exec]
    split
    · exact ⟨rfl, alike⟩
    simp only [execCall]
    -- Both databases refuse the statement, or both execute it with the same reply.
    have answers := Statement.OfUser.alike ⟨sys.collate, k, env.dbNow, env.rank count⟩ statement
      own' differs alike
    cases first : s.exec ⟨sys.collate, k, env.dbNow, env.rank count⟩ a.db with
    | none =>
      cases second : s.exec ⟨sys.collate, k, env.dbNow, env.rank count⟩ b.db with
      | none => exact ⟨rfl, alike⟩
      | some answer =>
        rw [first, second] at answers
        cases answers
    | some answer =>
      cases second : s.exec ⟨sys.collate, k, env.dbNow, env.rank count⟩ b.db with
      | none =>
        rw [first, second] at answers
        cases answers
      | some answer' =>
        rw [first, second] at answers
        obtain ⟨replies, histories⟩ := Prod.mk.inj (Option.some.inj answers)
        exact ⟨congrArg Except.ok replies, histories⟩

/-! ### Every operation keeps to the records of its user -/

/-- Each thread keeps to its user, and no thread brings records back. -/
def historyProtocol (user : ι → Int32) :
    Protocol ι Effect Exn DaoOp DaoOp.Result World where
  inv w := w.db.playHistory.Unique PlayHistoryRow.id
  rely _ a b := a.db.Shrinks b.db
  pre i := HistoryEffect (user i)
  post _ _ _ _ := True
  idle _ _ := True

theorem historyProtocol_sound (sys : System) (user : ι → Int32) :
    (historyProtocol user).Sound (historyThreads ι sys) where
  refl _ _ := .refl _
  trans _ _ _ _ first second := first.trans second
  starts _ _ _ _ _ _ starts := starts.elim
  acts _ _ _ _ _ unique own step := by
    obtain ⟨env, step⟩ := step
    obtain ⟨-, shrinks, keeps⟩ := own.frame step
    exact ⟨keeps unique, fun _ _ => shrinks⟩
  post_stable _ _ _ _ _ _ _ := trivial
  idle_stable _ _ _ _ _ := trivial
  finishes _ _ _ _ _ := trivial

section Safe

variable {sys : System} {user : ι → Int32} {i : ι} {w : World}

/-- A method whose statements all name the user. -/
theorem IsMethod.safeHistory {α : Type} {statements : Statement → Prop} {failure : α}
    {prog : Prog α} (method : IsMethod statements failure prog)
    (own : ∀ s, statements s → ∀ db, s.OfUser (user i) db) :
    prog.Safe (fun effect a reply b => (historyProtocol user).inv a ∧
      (historyThreads ι sys).step i effect a reply b) ((historyProtocol user).rely i)
      (fun effect a => (historyProtocol user).inv a → (historyProtocol user).pre i effect a)
      (fun _ _ => True) w := by
  have grants : Grants (fun effect => ∀ w, HistoryEffect (user i) effect w) statements :=
    { clock := fun _ _ => trivial
      lockPool := fun _ => trivial
      waitFor := fun _ => trivial
      constructGuard := fun _ _ => trivial
      releaseConnection := fun _ _ => trivial
      connector := fun conn c statement w => by
        cases c with
        | execute s => exact own s (statement s rfl) w.db
        | _ => trivial
      reserve := fun _ _ => trivial }
  refine (Uses.safe (fun _ => True) (method.performs grants) ?_ ?_ ?_ trivial).mono
    fun _ _ _ => trivial
  · exact fun _ _ _ _ => trivial
  · exact fun effect a own _ _ => own a
  · exact fun _ _ _ _ _ _ _ => trivial

/-- A record that a SELECT has found for the user is one of the user. -/
theorem owns_of_selected {db : Db} {ctx : SqlContext} {userId id : Int32} {songId : String}
    {owner : Int32} {songCount : Int32} {rest : List (Int32 × Int32)}
    (unique : db.playHistory.Unique PlayHistoryRow.id) (own : userId = owner)
    (selected : (((db.historyOf ctx userId).filter fun row =>
      ctx.collate row.songId == ctx.collate songId).map fun row => (row.id, row.songCount)) =
        (id, songCount) :: rest) : db.Owns owner id := by
  have member : (id, songCount) ∈ (id, songCount) :: rest := List.mem_cons_self
  rw [← selected, List.mem_map] at member
  obtain ⟨found, member, equal⟩ := member
  obtain ⟨same, -⟩ := Prod.mk.inj equal
  simp only [Db.historyOf, List.mem_filter, mem_scan, beq_iff_eq] at member
  obtain ⟨⟨present, user⟩, -⟩ := member
  intro row other sameId
  rw [unique.eq_of_key other present (sameId.trans same.symm), user, own]

/-- What the call of a play knows of the record that its SELECT has found. -/
theorem undisturbed_owns (id : Int32) :
    Undisturbed (fun effect a reply b => (historyProtocol user).inv a ∧
      (historyThreads ι sys).step i effect a reply b) ((historyProtocol user).rely i)
      (fun w => w.db.Owns (user i) id) where
  later a b owns shrinks := owns.later shrinks
  bare effect a reply b bare owns step := by
    obtain ⟨-, env, count, performed⟩ := step
    have kept := (exec_bare sys env count bare a a).1
    rw [performed] at kept
    obtain rfl : b = a := kept
    exact owns

theorem undisturbed_trivial : Undisturbed (fun effect a reply b => (historyProtocol user).inv a ∧
    (historyThreads ι sys).step i effect a reply b) ((historyProtocol user).rely i)
    (fun _ => True) :=
  ⟨fun _ _ _ _ => trivial, fun _ _ _ _ _ _ _ => trivial⟩

/-- Between the SELECT and the UPDATE of a play the record found stays one of the user. -/
theorem safe_addPlayHistory_owns (history : PlayHistory) (own : history.userId = user i) :
    (historyProtocol user).SafeAt (historyThreads ι sys) i (.addPlayHistory history)
      (PlayHistoryDAO.addPlayHistory history) w := by
  have free (effect : Effect) (a : World) (bare : effect.Bare) :
      (historyProtocol user).inv a → HistoryEffect (user i) effect a :=
    fun _ => historyEffect_of_bare effect a bare
  have ends {α : Type} (result : Except Exn α) : Undisturbed (fun effect a reply b =>
      (historyProtocol user).inv a ∧ (historyThreads ι sys).step i effect a reply b)
      ((historyProtocol user).rely i) (fun _ => True) := undisturbed_trivial
  refine (safe_method (fun _ _ => True) undisturbed_trivial free ends trivial
    (fun _ _ _ => trivial) fun conn b _ => ?_).mono fun _ _ _ => trivial
  iterate 3
    refine safe_plain undisturbed_trivial free rfl trivial (fun _ _ _ => trivial) fun _ b _ => ?_
  refine safe_statement undisturbed_trivial trivial (fun a _ _ => own) (fun _ _ _ _ _ => trivial)
    fun a found b _ step => ?_
  obtain ⟨unique, env, step⟩ := step
  cases found with
  -- No record was found: the INSERT that follows has a value too few.
  | nil =>
    iterate 6
      refine safe_plain undisturbed_trivial free rfl trivial (fun _ _ _ => trivial) fun _ b _ => ?_
    refine safe_bindNullable undisturbed_trivial free trivial (fun _ _ _ => trivial)
      fun songPic b _ => ?_
    refine safe_plain undisturbed_trivial free rfl trivial (fun _ _ _ => trivial) fun _ b _ => ?_
    have lengths : PlayHistoryDAO.insertColumns.length ≠
        (PlayHistoryDAO.insertValues history songPic).length := by
      simp [PlayHistoryDAO.insertColumns, PlayHistoryDAO.insertValues]
    exact safe_statement undisturbed_trivial trivial (fun _ _ _ => lengths)
      (fun _ _ _ _ _ => trivial) fun _ _ _ _ _ => trivial
  | cons entry rest =>
    obtain ⟨id, songCount⟩ := entry
    -- The record belongs to the user when the SELECT finds it, and nobody gives it away.
    have owns : b.db.Owns (user i) id := by
      rcases step_statement step with ⟨⟨exn, equal⟩, -⟩ | ⟨ctx, value, db, -, equal, executed, rfl⟩
      · cases equal
      · cases equal
        obtain ⟨selected, rfl⟩ := Prod.mk.inj (Option.some.inj executed)
        exact owns_of_selected unique own selected
    have undisturbed : Undisturbed (fun effect a reply b => (historyProtocol user).inv a ∧
        (historyThreads ι sys).step i effect a reply b) ((historyProtocol user).rely i)
        (fun w => w.db.Owns (user i) id) := undisturbed_owns id
    iterate 6
      refine safe_plain undisturbed free rfl owns (fun _ _ _ => trivial) fun _ b owns => ?_
    exact safe_statement undisturbed owns (fun _ owns _ => owns) (fun _ _ _ _ _ => trivial)
      fun _ _ _ _ _ => trivial

/-- Every operation on the history keeps to the records of the user it is called for. -/
theorem safe_historyOp {op : DaoOp} (called : op.historyUser? = some (user i)) :
    (historyProtocol user).SafeAt (historyThreads ι sys) i op (op.program sys) w := by
  cases op with
  | addPlayHistory history => exact safe_addPlayHistory_owns history (Option.some.inj called)
  | getUserPlayHistory userId limit offset =>
    apply (PlayHistoryDAO.getUserPlayHistory_isMethod userId limit offset).safeHistory
    rintro s rfl db
    exact Option.some.inj called
  | clearUserPlayHistory userId =>
    apply (PlayHistoryDAO.clearUserPlayHistory_isMethod userId).safeHistory
    rintro s rfl db
    exact Option.some.inj called
  | deletePlayHistory historyId userId =>
    apply (PlayHistoryDAO.deletePlayHistory_isMethod historyId userId).safeHistory
    rintro s rfl db
    exact Option.some.inj called
  | getUserTotalPlayCount userId =>
    apply (PlayHistoryDAO.getUserTotalPlayCount_isMethod userId).safeHistory
    rintro s rfl db
    exact Option.some.inj called
  | getUserRecentPlayCount userId days =>
    apply (PlayHistoryDAO.getUserRecentPlayCount_isMethod userId days).safeHistory
    rintro s rfl db
    exact Option.some.inj called
  | getUserTopArtists userId limit =>
    apply (PlayHistoryDAO.getUserTopArtists_isMethod userId limit).safeHistory
    rintro s rfl db
    exact Option.some.inj called
  | getUserTopSongs userId limit =>
    apply (PlayHistoryDAO.getUserTopSongs_isMethod userId limit).safeHistory
    rintro s rfl db
    exact Option.some.inj called
  | getMostPlayedSongs userId limit =>
    apply (PlayHistoryDAO.getMostPlayedSongs_isMethod userId limit).safeHistory
    rintro s rfl db
    exact Option.some.inj called
  | _ => cases called

end Safe

/-! ### Two runs -/

section Runs

variable {sys : System} {w : World} {ops : ι → DaoOp} {user : ι → Int32} {userId : Int32}
  {c d : Config ι Effect Effect.Reply Exn DaoOp.Result World}

theorem historyInit_holds (unique : w.db.playHistory.Unique PlayHistoryRow.id)
    (called : ∀ i, (ops i).historyUser? = some (user i)) :
    (historyProtocol user).Holds (historyThreads ι sys) (historyInit sys w ops) :=
  ⟨unique, fun i => ⟨w, .refl _, safe_historyOp (called i)⟩⟩

theorem historyStep_historyExec (sys : System) (i : ι) (choice : Env × Nat) (effect : Effect)
    (a : World) :
    (historyThreads ι sys).step i effect a (historyExec sys i choice effect a).1
      (historyExec sys i choice effect a).2 :=
  ⟨choice.1, choice.2, rfl⟩

/-- Configurations that only the operations of one user can tell apart. -/
structure AlikeBut (user : ι → Int32) (userId : Int32)
    (c d : Config ι Effect Effect.Reply Exn DaoOp.Result World) : Prop where
  threads : ∀ i, user i ≠ userId → c.threads i = d.threads i
  history : c.shared.db.historyWithout userId = d.shared.db.historyWithout userId

/-- An effect of the user is not seen by the others. -/
theorem AlikeBut.skip (alike : AlikeBut user userId c d)
    (holds : (historyProtocol user).Holds (historyThreads ι sys) c) {i : ι}
    (own : user i = userId) (choice : Env × Nat) :
    AlikeBut user userId (c.perform (historyExec sys) i choice) d := by
  unfold Config.perform
  split
  next job effect rest runs =>
    have permitted : HistoryEffect (user i) effect c.shared := holds.pre runs
    rw [own] at permitted
    obtain ⟨env, step⟩ := historyStep_historyExec sys i choice effect c.shared
    refine ⟨fun j differs => ?_, (permitted.frame step).1.trans alike.history⟩
    have other : j ≠ i := by
      rintro rfl
      exact differs own
    exact (Function.update_of_ne other ..).trans (alike.threads j differs)
  · exact alike

/-- An effect of another user has the same reply in both runs. -/
theorem AlikeBut.perform (alike : AlikeBut user userId c d)
    (holds : (historyProtocol user).Holds (historyThreads ι sys) c)
    (holds' : (historyProtocol user).Holds (historyThreads ι sys) d) {i : ι}
    (differs : user i ≠ userId) (choice : Env × Nat) :
    AlikeBut user userId (c.perform (historyExec sys) i choice)
      (d.perform (historyExec sys) i choice) := by
  cases thread : c.threads i with
  | none =>
    have thread' : d.threads i = none := (alike.threads i differs).symm.trans thread
    rw [Config.perform_of_idle choice (by rw [thread]; trivial),
      Config.perform_of_idle choice (by rw [thread']; trivial)]
    exact alike
  | some running =>
    obtain ⟨job, program⟩ := running
    have thread' : d.threads i = some ⟨job, program⟩ := (alike.threads i differs).symm.trans thread
    cases program with
    | act effect rest =>
      obtain ⟨replies, history⟩ := HistoryEffect.alike sys choice.1 choice.2 (holds.pre thread)
        (holds'.pre thread') differs alike.history
      rw [Config.perform_of_act choice thread, Config.perform_of_act choice thread']
      refine ⟨fun j other => ?_, history⟩
      dsimp only [historyExec]
      -- The replies are equal, so the thread goes on with the same program in both runs.
      rw [replies]
      by_cases same : j = i
      · subst same
        rw [Function.update_self, Function.update_self]
      · rw [Function.update_of_ne same, Function.update_of_ne same]
        exact alike.threads j other
    | _ =>
      rw [Config.perform_of_idle choice (by rw [thread]; trivial),
        Config.perform_of_idle choice (by rw [thread']; trivial)]
      exact alike

/-- The others run as if the user did nothing. -/
theorem AlikeBut.runSchedule (alike : AlikeBut user userId c d)
    (holds : (historyProtocol user).Holds (historyThreads ι sys) c)
    (holds' : (historyProtocol user).Holds (historyThreads ι sys) d)
    (schedule : List (ι × Env × Nat)) :
    AlikeBut user userId (c.runSchedule (historyExec sys) schedule)
      (d.runSchedule (historyExec sys) (schedule.filter fun move => user move.1 != userId)) := by
  have sound := historyProtocol_sound (ι := ι) sys user
  induction schedule generalizing c d with
  | nil => exact alike
  | cons move later ih =>
    obtain ⟨i, choice⟩ := move
    have next := holds.perform sound (historyStep_historyExec sys) i choice
    by_cases own : user i = userId
    · rw [List.filter_cons_of_neg (by simp [own])]
      exact ih (alike.skip holds own choice) next holds'
    · rw [List.filter_cons_of_pos (by simp [own])]
      have next' := holds'.perform sound (historyStep_historyExec sys) i choice
      exact ih (alike.perform holds holds' own choice) next next'

/-- However operations on the history are interleaved, no effect of an operation adds, changes or
removes a record of another user. With the operations of one user taken out of the schedule, every
operation of another user is where it is with them, so it returns the same, and the records of all
others are the same. Every interleaving is that of a schedule. -/
theorem histories_isolated (unique : w.db.playHistory.Unique PlayHistoryRow.id)
    (called : ∀ i, (ops i).historyUser? = some (user i)) :
    (∀ c, (historyThreads ι sys).Reachable (historyInit sys w ops) c →
      ∀ i op effect rest reply after, c.threads i = some ⟨op, .act effect rest⟩ →
        (historyThreads ι sys).step i effect c.shared reply after →
        after.db.historyWithout (user i) = c.shared.db.historyWithout (user i)) ∧
    (∀ (schedule : List (ι × Env × Nat)) (userId : Int32), AlikeBut user userId
      ((historyInit sys w ops).runSchedule (historyExec sys) schedule)
      ((historyInit sys w ops).runSchedule (historyExec sys)
        (schedule.filter fun move => user move.1 != userId))) ∧
    ∀ c, (historyThreads ι sys).Reachable (historyInit sys w ops) c →
      ∃ schedule, c = (historyInit sys w ops).runSchedule (historyExec sys) schedule := by
  have start : (historyProtocol user).Holds (historyThreads ι sys) (historyInit sys w ops) :=
    historyInit_holds unique called
  refine ⟨?_, ?_, ?_⟩
  · -- One effect of a call leaves the other histories as they are.
    intro c reach i op effect rest reply after runs step
    have holds := start.reachable (historyProtocol_sound sys user) reach
    obtain ⟨env, step⟩ := step
    exact (HistoryEffect.frame (holds.pre runs) step).1
  · -- Without the calls of the user the others run as they do with them.
    intro schedule userId
    exact AlikeBut.runSchedule ⟨fun _ _ => rfl, rfl⟩ start start schedule
  · -- Every reachable state is the end of a schedule.
    intro c reach
    refine reach.exists_schedule ?_ fun _ _ _ _ starts => starts
    rintro i effect a reply b ⟨env, count, performed⟩
    exact ⟨(env, count), performed⟩

end Runs

end Threads

/-! ### A deletion next to a count -/

section Neighbours

open Reference

/-- Two users with a record each. -/
def neighbours : World where
  db := { playHistory := {
    rows := [⟨1, 1, "1", "Song", "Singer", none, .qq, 0, 0⟩,
      ⟨2, 2, "1", "Song", "Singer", none, .qq, 0, 0⟩]
    autoInc := 3 } }

def neighbourOps : Fin 2 → DaoOp
  | 0 => .clearUserPlayHistory 1
  | 1 => .getUserTotalPlayCount 2

/-- The history of the first user is cleared while the second one counts. -/
def clearWhileCounting : List (Fin 2 × Env × Nat) :=
  List.replicate 5 (1, env 0, 0) ++ List.replicate 8 (0, env 0, 0) ++
    List.replicate 4 (1, env 0, 0)

theorem histories_isolated_neighbours : AlikeBut (fun i : Fin 2 => if i = 0 then 1 else 2) 1
    ((historyInit system neighbours neighbourOps).runSchedule (historyExec system)
      clearWhileCounting)
    ((historyInit system neighbours neighbourOps).runSchedule (historyExec system)
      (clearWhileCounting.filter fun move => (if move.1 = 0 then (1 : Int32) else 2) != 1)) :=
  (histories_isolated (by unfold Table.Unique; decide) (by decide)).2.1 clearWhileCounting 1

end Neighbours

end MusicPlayer
