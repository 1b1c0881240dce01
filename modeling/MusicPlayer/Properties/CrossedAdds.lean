import MusicPlayer.Properties.Interference
import MusicPlayer.Properties.GuardDiscipline
import MusicPlayer.Properties.PlaylistSet

/-!
# Adds of one song at the same time

Any number of `addSongToPlaylist` calls for one song of one playlist, one thread each. A call asks
in one statement whether the song is there and inserts it in another. Where the song has come in
between, the UNIQUE key refuses the INSERT and the `catch` clause makes `false` of it, although a
call that finds the song by its first statement returns true.
-/
namespace MusicPlayer

open Resumption Program Relational

/-- The world, with a mark for each thread whose INSERT has met the song. Nothing the threads do
depends on the marks. -/
structure AddState (ι : Type) where
  world : World
  crossed : ι → Bool := fun _ => false

section Threads

variable {ι : Type} [DecidableEq ι]

/-- The marks after an effect of a thread. -/
def noteCrossed (sys : System) (i : ι) (a : AddState ι) : Effect → ι → Bool
  | .connector _ (.execute (.insertPlaylistSong playlistId songId _ _ _ songWhere)) =>
    if a.world.db.playlistSongs.rows.any
        (Db.isPlaylistSong sys.collate playlistId songId songWhere) then
      Function.update a.crossed i true
    else a.crossed
  | _ => a.crossed

/-- Nothing fails but what the database refuses: no call throws of itself, and a thread that waits
for a connection gets one in time. -/
structure Env.Serves (env : Env) (effect : Effect) : Prop where
  quiet : ∀ n, env.throws n = false
  inTime : effect = .waitFor → ∀ n, env.connection n ≠ none

/-- Each thread makes one call. -/
def addThreads (ι : Type) [DecidableEq ι] (sys : System) (playlistId : Int32) :
    Concurrent ι Effect Effect.Reply Exn Song (fun _ => Bool) (AddState ι) where
  program := PlaylistDAO.addSongToPlaylist playlistId
  starts _ _ _ _ := False
  step i effect a reply b :=
    (∃ env : Env, env.Serves effect ∧ Step sys env effect a.world reply b.world) ∧
      b.crossed = noteCrossed sys i a effect

def addInit (playlistId : Int32) (w : World) (songs : ι → Song) :
    Config ι Effect Effect.Reply Exn (fun _ : Song => Bool) (AddState ι) where
  shared := { world := w }
  threads i := some ⟨songs i, PlaylistDAO.addSongToPlaylist playlistId (songs i)⟩

end Threads

/-- The rows of a song in a playlist. -/
def Db.rowsOfSong (sys : System) (db : Db) (playlistId : Int32) (songId songWhere : String) :
    List PlaylistSongRow :=
  db.playlistSongs.rows.filter (Db.isPlaylistSong sys.collate playlistId songId songWhere)

/-- The values of the song fit the columns. -/
def Song.Fits (sys : System) (song : Song) : Prop :=
  fitsVarchar 50 song.songId = true ∧ fitsVarchar 255 song.name = true ∧
    fitsVarchar 255 song.singer = true ∧ fitsVarchar 255 song.pic = true ∧
    (SongWhere.ofText sys.collate song.songWhere).isSome = true

instance (sys : System) (song : Song) : Decidable (song.Fits sys) :=
  inferInstanceAs (Decidable (_ ∧ _))

/-- The playlist exists and holds the song at most once, which is the UNIQUE key. If it is still to
be inserted, the ids have not run out. -/
structure Addable (sys : System) (db : Db) (playlistId : Int32) (songId songWhere : String) :
    Prop where
  playlist : ∃ row ∈ db.playlists.rows, row.id = playlistId
  once : (db.rowsOfSong sys playlistId songId songWhere).length ≤ 1
  room : ¬db.hasSong sys.collate playlistId songId songWhere → db.playlistSongs.autoInc < 2 ^ 31

/-! ### The two statements of a call -/

section Statements

variable {sys : System} {db : Db} {playlistId : Int32} {songId songWhere : String} {song : Song}
  {ctx : SqlContext}

theorem fitsNullable_nullable {n : Nat} {text : String} (fits : fitsVarchar n text = true) :
    fitsNullable n (nullable text) = true := by
  unfold nullable
  split
  · rfl
  · exact fits

/-- The key does not see how the song is spelt. -/
theorem isPlaylistSong_congr (same : SameSong sys song.songId song.songWhere songId songWhere) :
    Db.isPlaylistSong sys.collate playlistId song.songId song.songWhere =
      Db.isPlaylistSong sys.collate playlistId songId songWhere := by
  funext row
  rw [Bool.eq_iff_iff, isPlaylistSong_iff, isPlaylistSong_iff, SongKey.of_inj.mpr ⟨rfl, same⟩]

theorem hasSong_iff_rowsOfSong : db.hasSong sys.collate playlistId songId songWhere ↔
    db.rowsOfSong sys playlistId songId songWhere ≠ [] := by
  rw [Db.hasSong, Db.rowsOfSong, List.any_eq_true, ne_eq, List.filter_eq_nil_iff]
  push Not
  rfl

theorem Addable.exactlyOnce (addable : Addable sys db playlistId songId songWhere)
    (has : db.hasSong sys.collate playlistId songId songWhere) :
    (db.rowsOfSong sys playlistId songId songWhere).length = 1 := by
  have some := List.length_pos_iff.mpr (hasSong_iff_rowsOfSong.mp has)
  have once := addable.once
  omega

/-- The count that the SELECT of a call returns is 0 or 1, so it survives the conversion. -/
theorem Addable.counted (addable : Addable sys db playlistId songId songWhere) :
    0 < (Int32.ofNat (db.playlistSongs.rows.countP
        (Db.isPlaylistSong sys.collate playlistId songId songWhere))).toInt ↔
      db.hasSong sys.collate playlistId songId songWhere := by
  have once := addable.once
  rw [Db.rowsOfSong, ← List.countP_eq_length_filter] at once
  rw [Int32.toInt_ofNat_of_lt (by omega), Int.natCast_pos, List.countP_pos_iff, Db.hasSong,
    List.any_eq_true]

/-- An INSERT of a song that is there is refused. -/
theorem Db.insertPlaylistSong_of_hasSong (collation : ctx.collate = sys.collate)
    (has : db.hasSong sys.collate playlistId song.songId song.songWhere) {songPic : Option String} :
    db.insertPlaylistSong ctx playlistId song.songId song.name song.singer songPic song.songWhere =
      none := by
  rw [Option.eq_none_iff_forall_ne_some]
  rintro ⟨count, after⟩ executed
  simp only [insertPlaylistSong, Option.bind_eq_bind, Option.bind_eq_some_iff, collation]
    at executed
  obtain ⟨source, assigned, executed⟩ := executed
  split at executed
  next fits =>
    simp only [Bool.and_eq_true, Bool.not_eq_true'] at fits
    -- The key that the INSERT checks has the text of the column.
    have key : Db.isPlaylistSong sys.collate playlistId song.songId source.text =
        Db.isPlaylistSong sys.collate playlistId song.songId song.songWhere := by
      funext row
      simp only [isPlaylistSong, SongWhere.matchesText, SongWhere.collate_ofText assigned]
    rw [key, show db.playlistSongs.rows.any _ = true from has] at fits
    exact absurd fits.2 (by simp)
  · cases executed

/-- An INSERT of a song that fits, and is not there, appends the one row of it. -/
theorem Addable.insert (addable : Addable sys db playlistId songId songWhere)
    (collation : ctx.collate = sys.collate)
    (same : SameSong sys song.songId song.songWhere songId songWhere) (fits : song.Fits sys)
    (hasNot : ¬db.hasSong sys.collate playlistId songId songWhere) :
    ∃ after, db.insertPlaylistSong ctx playlistId song.songId song.name song.singer
        (nullable song.pic) song.songWhere = some (1, after) ∧
      Addable sys after playlistId songId songWhere ∧
        after.hasSong sys.collate playlistId songId songWhere := by
  obtain ⟨fitsId, fitsName, fitsSinger, fitsPic, fitsWhere⟩ := fits
  obtain ⟨source, assigned⟩ := Option.isSome_iff_exists.mp fitsWhere
  have key : Db.isPlaylistSong sys.collate playlistId song.songId source.text =
      Db.isPlaylistSong sys.collate playlistId songId songWhere := by
    rw [← isPlaylistSong_congr same]
    funext row
    simp only [Db.isPlaylistSong, SongWhere.matchesText, SongWhere.collate_ofText assigned]
  -- Nothing stands in the way of the row: no equal key, and a playlist that owns it.
  have free : db.playlistSongs.rows.any
      (Db.isPlaylistSong sys.collate playlistId songId songWhere) = false :=
    Bool.eq_false_iff.mpr hasNot
  have present : db.playlists.rows.any (·.id == playlistId) = true := by
    simpa [List.any_eq_true] using addable.playlist
  let row : PlaylistSongRow := ⟨Int32.ofNat db.playlistSongs.autoInc, playlistId, song.songId,
    song.name, song.singer, nullable song.pic, source, ctx.now⟩
  have own : Db.isPlaylistSong sys.collate playlistId songId songWhere row = true := by
    rw [← key, isPlaylistSong_iff]
    rfl
  have room := addable.room hasNot
  refine ⟨{ db with
      playlistSongs :=
        { rows := db.playlistSongs.rows ++ [row], autoInc := db.playlistSongs.autoInc + 1 }
      lastInsertId := Function.update db.lastInsertId ctx.conn
        (Int32.ofNat db.playlistSongs.autoInc) }, ?_, ⟨addable.playlist, ?_, ?_⟩, ?_⟩
  · simp only [Db.insertPlaylistSong, collation, assigned, Option.bind_eq_bind, Option.bind_some,
      fitsId, fitsName, fitsSinger, fitsNullable_nullable fitsPic, present, key, free,
      Bool.not_false, Bool.and_self, if_true, Table.insert, room]
    rfl
  · have none : db.rowsOfSong sys playlistId songId songWhere = [] :=
      not_not.mp fun some => hasNot (hasSong_iff_rowsOfSong.mpr some)
    simp only [Db.rowsOfSong] at none
    simp [Db.rowsOfSong, none, own]
  · refine fun absent => absurd ?_ absent
    simp [Db.hasSong, own]
  · simp [Db.hasSong, own]

end Statements

/-! ### What one call does -/

/-- The statements of a call. -/
def AddPre (sys : System) (playlistId : Int32) (songId songWhere : String) : Effect → Prop
  | .connector _ (.execute s) => ∃ song : Song, song.Fits sys ∧
      SameSong sys song.songId song.songWhere songId songWhere ∧
      (s = .countPlaylistSong playlistId song.songId song.songWhere ∨
        s = .insertPlaylistSong playlistId song.songId song.name song.singer (nullable song.pic)
          song.songWhere)
  | effect => effect.Bare

section Calls

variable {ι : Type}

/-- The song is there, once a call has seen or inserted it, and the mark of a thread is its own. -/
def AddRely (sys : System) (playlistId : Int32) (songId songWhere : String) (i : ι)
    (a b : AddState ι) : Prop :=
  (a.world.db.hasSong sys.collate playlistId songId songWhere →
    b.world.db.hasSong sys.collate playlistId songId songWhere) ∧ b.crossed i = a.crossed i

/-- A call has returned true, or its INSERT has met the song. -/
def AddPost (sys : System) (playlistId : Int32) (songId songWhere : String) (i : ι)
    (result : Except Exn Bool) (a : AddState ι) : Prop :=
  result = .ok (!a.crossed i) ∧ a.world.db.hasSong sys.collate playlistId songId songWhere

/-- The threads, with the song of each. -/
def addProtocol (sys : System) (playlistId : Int32) (songId songWhere : String)
    (songs : ι → Song) :
    Protocol ι Effect Exn Song (fun _ => Bool) (AddState ι) where
  inv a := Addable sys a.world.db playlistId songId songWhere
  rely := AddRely sys playlistId songId songWhere
  pre _ effect _ := AddPre sys playlistId songId songWhere effect
  post i song result a := song = songs i ∧ AddPost sys playlistId songId songWhere i result a
  idle _ _ := True

variable [DecidableEq ι] {sys : System} {playlistId : Int32} {songId songWhere : String}
  {songs : ι → Song} {i : ι} {a b : AddState ι}

theorem noteCrossed_bare {effect : Effect} (bare : effect.Bare) :
    noteCrossed sys i a effect = a.crossed := by
  cases effect with
  | connector conn c =>
    cases c with
    | execute s => exact bare.elim
    | _ => rfl
  | _ => rfl

theorem noteCrossed_other {effect : Effect} {j : ι} (other : j ≠ i) :
    noteCrossed sys i a effect j = a.crossed j := by
  unfold noteCrossed
  split
  · split
    · exact Function.update_of_ne other ..
    · rfl
  · rfl

/-- A bare effect changes neither the database nor the marks. -/
theorem addStep_bare {effect : Effect} (bare : effect.Bare) {reply : effect.Reply}
    (step : (addThreads ι sys playlistId).step i effect a reply b) :
    b.world.db = a.world.db ∧ b.crossed = a.crossed := by
  obtain ⟨⟨env, -, count, performed⟩, crossed⟩ := step
  have kept := (exec_bare sys env count bare a.world a.world).1
  rw [performed] at kept
  exact ⟨congrArg World.db kept, crossed.trans (noteCrossed_bare bare)⟩

theorem addStep_select {k : Conn} {reply : List Nat} (song : Song)
    (same : SameSong sys song.songId song.songWhere songId songWhere)
    (step : (addThreads ι sys playlistId).step i
      (.connector (some k) (.execute (.countPlaylistSong playlistId song.songId song.songWhere))) a
      (.ok reply) b) :
    reply = [a.world.db.playlistSongs.rows.countP
        (Db.isPlaylistSong sys.collate playlistId songId songWhere)] ∧
      b.world.db = a.world.db ∧ b.crossed = a.crossed := by
  obtain ⟨⟨env, serves, performed⟩, crossed⟩ := step
  obtain ⟨ctx, collation, refused | ⟨value, db, executed, answer, world⟩⟩ :=
    step_statement_of_quiet serves.quiet performed
  · cases refused.1
  · cases executed
    cases answer
    rw [collation, isPlaylistSong_congr same, world]
    exact ⟨rfl, rfl, crossed⟩

/-- A SELECT does not throw. -/
theorem addStep_select_answers {k : Conn} {exn : Exn} {song : Song} : ¬(addThreads ι sys
    playlistId).step i (.connector (some k)
      (.execute (.countPlaylistSong playlistId song.songId song.songWhere))) a (.error exn) b := by
  rintro ⟨⟨env, serves, performed⟩, -⟩
  obtain ⟨ctx, -, refused | ⟨value, db, -, answer, -⟩⟩ :=
    step_statement_of_quiet serves.quiet performed
  · cases refused.1
  · cases answer

/-- The INSERT of a call appends the row, or it meets the song and is refused. -/
theorem addStep_insert (addable : Addable sys a.world.db playlistId songId songWhere) {song : Song}
    (fits : song.Fits sys) (same : SameSong sys song.songId song.songWhere songId songWhere)
    {k : Conn} {reply : Except Exn Nat}
    (step : (addThreads ι sys playlistId).step i (.connector (some k) (.execute
      (.insertPlaylistSong playlistId song.songId song.name song.singer (nullable song.pic)
        song.songWhere))) a reply b) :
    Addable sys b.world.db playlistId songId songWhere ∧
      b.world.db.hasSong sys.collate playlistId songId songWhere ∧
      (a.world.db.hasSong sys.collate playlistId songId songWhere ∧
          reply = .error .sqlException ∧ b.crossed = Function.update a.crossed i true ∨
        reply = .ok 1 ∧ b.crossed = a.crossed) := by
  obtain ⟨⟨env, serves, performed⟩, crossed⟩ := step
  have key : Db.isPlaylistSong sys.collate playlistId song.songId song.songWhere =
      Db.isPlaylistSong sys.collate playlistId songId songWhere := isPlaylistSong_congr same
  simp only [noteCrossed, key] at crossed
  obtain ⟨ctx, collation, executed⟩ := step_statement_of_quiet serves.quiet performed
  -- Whoever comes second is refused by the unique key, and the first one is not.
  by_cases has : a.world.db.hasSong sys.collate playlistId songId songWhere
  · have met : a.world.db.hasSong sys.collate playlistId song.songId song.songWhere := by
      rw [Db.hasSong, key]
      exact has
    have none : a.world.db.insertPlaylistSong ctx playlistId song.songId song.name song.singer
        (nullable song.pic) song.songWhere = none := Db.insertPlaylistSong_of_hasSong collation met
    rcases executed with ⟨-, answer, world⟩ | ⟨value, db, executed, -⟩
    · rw [world]
      exact ⟨addable, has, .inl ⟨has, answer, crossed.trans (if_pos has)⟩⟩
    · cases none.symm.trans executed
  · obtain ⟨after, inserted, still, present⟩ := addable.insert collation same fits has
    rcases executed with ⟨refused, -⟩ | ⟨value, db, executed, answer, world⟩
    · cases inserted.symm.trans refused
    · cases inserted.symm.trans executed
      rw [world]
      exact ⟨still, present, .inr ⟨answer, crossed.trans (if_neg has)⟩⟩

/-- One effect of a call keeps the playlist as it must be, and what the other threads rely on. -/
theorem addStep_kept (addable : Addable sys a.world.db playlistId songId songWhere)
    {effect : Effect} {reply : effect.Reply} (owes : AddPre sys playlistId songId songWhere effect)
    (step : (addThreads ι sys playlistId).step i effect a reply b) :
    Addable sys b.world.db playlistId songId songWhere ∧
      ∀ j ≠ i, AddRely sys playlistId songId songWhere j a b := by
  have others (j : ι) (other : j ≠ i) : b.crossed j = a.crossed j := by
    rw [step.2]
    exact noteCrossed_other other
  by_cases bare : effect.Bare
  · obtain ⟨same, -⟩ := addStep_bare bare step
    rw [same]
    refine ⟨addable, fun j other => ⟨fun has => ?_, others j other⟩⟩
    rw [same]
    exact has
  · cases effect with
    | connector conn c =>
      cases c with
      | execute s =>
        obtain ⟨song, fits, same, statement⟩ := owes
        cases conn with
        | none =>
          obtain ⟨⟨env, -, count, performed⟩, -⟩ := step
          have world : b.world = a.world := (congrArg Prod.snd performed).symm
          rw [world]
          refine ⟨addable, fun j other => ⟨fun has => ?_, others j other⟩⟩
          rw [world]
          exact has
        | some k =>
          -- The query for the song, or its row.
          rcases statement with rfl | rfl
          · cases reply with
            | error exn => exact (addStep_select_answers step).elim
            | ok reply =>
              obtain ⟨-, database, -⟩ := addStep_select song same step
              rw [database]
              refine ⟨addable, fun j other => ⟨fun has => ?_, others j other⟩⟩
              rw [database]
              exact has
          · obtain ⟨still, has, -⟩ := addStep_insert addable fits same step
            exact ⟨still, fun j other => ⟨fun _ => has, others j other⟩⟩
      | _ => exact absurd owes bare
    | _ => exact absurd owes bare

/-- A step of a thread while the playlist is as it must be. -/
def addStep (sys : System) (playlistId : Int32) (songId songWhere : String) (i : ι)
    (effect : Effect) (a : AddState ι) (reply : effect.Reply) (b : AddState ι) : Prop :=
  Addable sys a.world.db playlistId songId songWhere ∧
    (addThreads ι sys playlistId).step i effect a reply b

theorem addThreads_quiet : Quiet (addStep sys playlistId songId songWhere i) where
  waits := by
    rintro a b ⟨-, ⟨env, serves, count, performed⟩, -⟩
    exact serves.inTime rfl count (congrArg Prod.fst performed)
  calls := by
    rintro k c other a exn b ⟨-, ⟨env, serves, count, performed⟩, -⟩
    simp only [exec, serves.quiet, Bool.false_eq_true, if_false] at performed
    cases c with
    | execute s => cases other
    | _ => cases performed

/-- What is known of a thread and its song is ended by no other thread and by no bare effect. -/
theorem undisturbed_add (P : Prop → Bool → Prop)
    (later : ∀ {p q : Prop} {x : Bool}, (p → q) → P p x → P q x) :
    Undisturbed (addStep sys playlistId songId songWhere i)
      (AddRely sys playlistId songId songWhere i)
      (fun a => P (a.world.db.hasSong sys.collate playlistId songId songWhere) (a.crossed i)) where
  later a b known interfered := by
    rw [interfered.2]
    exact later interfered.1 known
  bare effect a reply b bare known step := by
    obtain ⟨database, crossed⟩ := addStep_bare bare step.2
    rw [database, crossed]
    exact known

/-- What a call comes to, by whether the song is there and whether its INSERT has met it. -/
def AddOutcome (result : Except Exn Bool) (has : Prop) (crossed : Bool) : Prop :=
  has ∧ match result with
    | .ok value => value = true ∧ crossed = false
    | .error exn => exn = .sqlException ∧ crossed = true

/-- A call from its first effect on. -/
theorem safe_addSongToPlaylist {song : Song} (fits : song.Fits sys)
    (same : SameSong sys song.songId song.songWhere songId songWhere) (own : song = songs i)
    {s : AddState ι} (fresh : s.crossed i = false) :
    (addProtocol sys playlistId songId songWhere songs).SafeAt (addThreads ι sys playlistId) i song
      (PlaylistDAO.addSongToPlaylist playlistId song) s := by
  have quiet : Quiet (addStep sys playlistId songId songWhere i) := addThreads_quiet
  have unmarked : Undisturbed (addStep sys playlistId songId songWhere i)
      (AddRely sys playlistId songId songWhere i) (fun a => a.crossed i = false) :=
    undisturbed_add (fun _ x => x = false) fun _ known => known
  have settled (result : Except Exn Bool) : Undisturbed (addStep sys playlistId songId songWhere i)
      (AddRely sys playlistId songId songWhere i) (fun a =>
        AddOutcome result (a.world.db.hasSong sys.collate playlistId songId songWhere)
          (a.crossed i)) :=
    undisturbed_add (AddOutcome result) fun more known => ⟨more known.1, known.2⟩
  have free (effect : Effect) (a : AddState ι) (bare : effect.Bare) :
      Addable sys a.world.db playlistId songId songWhere →
        AddPre sys playlistId songId songWhere effect := by
    intro _
    cases effect with
    | connector conn c =>
      cases c with
      | execute s => exact bare.elim
      | _ => exact bare
    | _ => exact bare
  refine (safe_methodWith (fun result => ∃ k, result = .ok (some k))
    (fun result a => AddOutcome result
      (a.world.db.hasSong sys.collate playlistId songId songWhere) (a.crossed i))
    unmarked free settled (quiet.safe_getConnection unmarked free fresh) ?_ ?_).mono ?_
  · rintro exn b ⟨k, impossible⟩
    cases impossible
  · rintro conn b ⟨k, connected⟩ now
    cases connected
    iterate 4 refine quiet.safe_call unmarked free rfl now fun _ b now => ?_
    refine safe_statement unmarked now (fun a _ _ => ⟨song, fits, same, .inl rfl⟩)
      (fun a exn b _ step => (addStep_select_answers step.2).elim) fun a reply b now step => ?_
    obtain ⟨addable, step⟩ := step
    obtain ⟨rfl, database, crossed⟩ := addStep_select song same step
    rw [← crossed] at now
    -- The count that the call has read says whether the song was there.
    by_cases has : a.world.db.hasSong sys.collate playlistId songId songWhere
    · have seen : b.world.db.hasSong sys.collate playlistId songId songWhere ∧
          b.crossed i = false := by
        rw [database]
        exact ⟨has, now⟩
      refine quiet.safe_readCount (undisturbed_add (fun p x => p ∧ x = false) fun more known =>
        ⟨more known.1, known.2⟩) free seen fun b seen => ?_
      rw [if_pos (addable.counted.mpr has)]
      exact ⟨seen.1, rfl, seen.2⟩
    · refine quiet.safe_readCount unmarked free now fun b now => ?_
      rw [if_neg fun positive => has (addable.counted.mp positive)]
      iterate 5 refine quiet.safe_call unmarked free rfl now fun _ b now => ?_
      refine quiet.safe_bindNullable unmarked free now fun b now => ?_
      refine quiet.safe_call unmarked free rfl now fun _ b now => ?_
      -- Another call may have inserted the song since, and then the INSERT is refused.
      refine safe_statement unmarked now (fun a _ _ => ⟨song, fits, same, .inr rfl⟩) ?_ ?_
      · rintro a exn b now ⟨addable, step⟩
        obtain ⟨-, has, ⟨-, answer, crossed⟩ | ⟨answer, -⟩⟩ := addStep_insert addable fits same step
        · cases answer
          rw [crossed]
          exact ⟨has, rfl, Function.update_self ..⟩
        · cases answer
      · rintro a reply b now ⟨addable, step⟩
        obtain ⟨-, has, ⟨-, answer, -⟩ | ⟨answer, crossed⟩⟩ := addStep_insert addable fits same step
        · cases answer
        · cases answer
          rw [← crossed] at now
          exact ⟨has, rfl, now⟩
  · rintro result a (⟨other, has, ended⟩ | ⟨rfl, has, ended⟩)
    · refine ⟨own, ?_, has⟩
      cases result with
      | ok value => rw [ended.1, ended.2]; rfl
      | error exn =>
        obtain ⟨rfl, -⟩ := ended
        exact absurd rfl other
    · refine ⟨own, ?_, has⟩
      rw [ended.2]
      rfl

theorem addProtocol_sound : (addProtocol sys playlistId songId songWhere songs).Sound
    (addThreads ι sys playlistId) where
  refl i a := ⟨id, rfl⟩
  trans i a b c first second := ⟨second.1 ∘ first.1, second.2.trans first.2⟩
  starts i job a b _ _ starts := starts.elim
  acts i effect a reply b addable owes step := addStep_kept addable owes step
  post_stable i song result a b := by
    rintro ⟨own, returned, has⟩ ⟨more, mark⟩
    refine ⟨own, ?_, more has⟩
    rw [mark]
    exact returned
  idle_stable i a b _ _ := trivial
  finishes i song result a _ := trivial

section Run

variable {w : World} {c : Config ι Effect Effect.Reply Exn (fun _ : Song => Bool) (AddState ι)}

theorem addInit_holds (addable : Addable sys w.db playlistId songId songWhere)
    (fits : ∀ i, (songs i).Fits sys)
    (same : ∀ i, SameSong sys (songs i).songId (songs i).songWhere songId songWhere) :
    (addProtocol sys playlistId songId songWhere songs).Holds (addThreads ι sys playlistId)
      (addInit playlistId w songs) := by
  refine ⟨addable, fun i => ?_⟩
  exact ⟨_, ⟨id, rfl⟩, safe_addSongToPlaylist (fits i) (same i) rfl rfl⟩

/-- In every interleaving of the calls, when all have ended: each has returned true, with the song
once in the playlist, if and only if none has come to its INSERT with the song there already. -/
theorem adds_agree_iff (addable : Addable sys w.db playlistId songId songWhere)
    (fits : ∀ i, (songs i).Fits sys)
    (same : ∀ i, SameSong sys (songs i).songId (songs i).songWhere songId songWhere)
    (reach : (addThreads ι sys playlistId).Reachable (addInit playlistId w songs) c)
    (done : ∀ i, (c.threads i).Idle) :
    (∀ i, (c.threads i).returned? = some ⟨songs i, true⟩ ∧
        (c.shared.world.db.rowsOfSong sys playlistId songId songWhere).length = 1) ↔
      ∀ i, c.shared.crossed i = false := by
  have holds := (addInit_holds addable fits same).reachable addProtocol_sound reach
  have ended (i : ι) : c.threads i = some ⟨songs i, .ret (!c.shared.crossed i)⟩ ∧
      (c.shared.world.db.rowsOfSong sys playlistId songId songWhere).length = 1 := by
    obtain ⟨song, result, thread, rfl, returned, has⟩ :=
      holds.ended addProtocol_sound (reach.started rfl) (done i)
    rw [thread, returned]
    exact ⟨rfl, holds.inv.exactlyOnce has⟩
  refine forall_congr' fun i => ?_
  obtain ⟨thread, once⟩ := ended i
  rw [Thread.returned?_eq_some, thread]
  -- A call returns `false` exactly when the unique key has refused its row.
  cases c.shared.crossed i with
  | false => exact ⟨fun _ => rfl, fun _ => ⟨rfl, once⟩⟩
  | true =>
    constructor
    · rintro ⟨same, -⟩
      cases same
    · rintro ⟨⟩

end Run

end Calls

/-! ### Runs on one playlist -/

section Runs

open Reference

/-- One effect of a call in a given environment. -/
def addExec {ι : Type} [DecidableEq ι] (sys : System) (i : ι) (choice : Env × Nat)
    (effect : Effect) (a : AddState ι) : effect.Reply × AddState ι :=
  let (reply, world) := exec sys choice.1 choice.2 effect a.world
  (reply, { world, crossed := noteCrossed sys i a effect })

/-- The user of the server has a playlist without songs. -/
def emptyMix : World :=
  { oneUser with db := { oneUser.db with
      playlists := { rows := [⟨1, 1, "Mix", none, 0, 0⟩], autoInc := 2 } } }

def mixSong : Song := { songId := "7", name := "Song", singer := "Singer", songWhere := "QQ" }

theorem emptyMix_addable : Addable system emptyMix.db 1 "7" "QQ" :=
  ⟨by decide, by decide +kernel, fun _ => by decide⟩

theorem mixSong_fits : mixSong.Fits system := by decide +kernel

/-- A moment in which the thread has a connection of its own. -/
def servedBy (i : Conn) : Env × Nat := ({ env 0 with connection := fun _ => some i }, 0)

theorem addExec_step {i : Fin 2} {choice : Env × Nat}
    (served : choice = servedBy 0 ∨ choice = servedBy 1) {effect : Effect} {a : AddState (Fin 2)} :
    (addThreads (Fin 2) system 1).step i effect a (addExec system i choice effect a).1
      (addExec system i choice effect a).2 := by
  refine ⟨⟨choice.1, ⟨fun n => ?_, fun _ n => ?_⟩, choice.2, rfl⟩, rfl⟩
  · rcases served with rfl | rfl <;> rfl
  · rcases served with rfl | rfl <;> exact nofun

/-- One call after the other. -/
def addedInTurn : Config (Fin 2) Effect Effect.Reply Exn (fun _ : Song => Bool)
    (AddState (Fin 2)) :=
  (addInit 1 emptyMix fun _ => mixSong).runSchedule (addExec system)
    (List.replicate 19 (0, servedBy 0) ++ List.replicate 11 (1, servedBy 1))

/-- The second call inserts the song after the first has looked for it. -/
def addedBetween : Config (Fin 2) Effect Effect.Reply Exn (fun _ : Song => Bool)
    (AddState (Fin 2)) :=
  (addInit 1 emptyMix fun _ => mixSong).runSchedule (addExec system)
    (List.replicate 8 (0, servedBy 0) ++ List.replicate 19 (1, servedBy 1) ++
      List.replicate 11 (0, servedBy 0))

theorem addedInTurn_reachable : (addThreads (Fin 2) system 1).Reachable
    (addInit 1 emptyMix fun _ => mixSong) addedInTurn := by
  refine Concurrent.Reachable.init.runSchedule _ fun i choice member effect a => addExec_step ?_
  simp only [List.mem_append, List.mem_replicate, Prod.mk.injEq] at member
  tauto

theorem addedBetween_reachable : (addThreads (Fin 2) system 1).Reachable
    (addInit 1 emptyMix fun _ => mixSong) addedBetween := by
  refine Concurrent.Reachable.init.runSchedule _ fun i choice member effect a => addExec_step ?_
  simp only [List.mem_append, List.mem_replicate, Prod.mk.injEq] at member
  tauto

theorem addedInTurn_ended : (∀ i, (addedInTurn.threads i).returned?.isSome) ∧
    ∀ i, addedInTurn.shared.crossed i = false := by
  decide +kernel

theorem adds_agree_iff_inTurn :
    (addedInTurn.threads 0).returned? = some ⟨mixSong, true⟩ ∧
      (addedInTurn.threads 1).returned? = some ⟨mixSong, true⟩ ∧
      (addedInTurn.shared.world.db.rowsOfSong system 1 "7" "QQ").length = 1 := by
  have agreed := (adds_agree_iff emptyMix_addable (fun _ => mixSong_fits) (fun _ => ⟨rfl, rfl⟩)
    addedInTurn_reachable fun i => Thread.idle_of_returned (addedInTurn_ended.1 i)).mpr
      addedInTurn_ended.2
  exact ⟨(agreed 0).1, (agreed 1).1, (agreed 0).2⟩

theorem addedBetween_ended : (∀ i, (addedBetween.threads i).returned?.isSome) ∧
    (addedBetween.threads 0).returned?.map (fun job => job.2) = some false := by
  decide +kernel

/-- The INSERT of the first call is refused, and the call returns false. -/
theorem addedBetween_false : ¬∀ (ι : Type) [DecidableEq ι] (sys : System) (w : World)
    (playlistId : Int32) (songId songWhere : String) (songs : ι → Song)
    (c : Config ι Effect Effect.Reply Exn (fun _ : Song => Bool) (AddState ι)),
    Addable sys w.db playlistId songId songWhere → (∀ i, (songs i).Fits sys) →
    (∀ i, SameSong sys (songs i).songId (songs i).songWhere songId songWhere) →
    (addThreads ι sys playlistId).Reachable (addInit playlistId w songs) c →
    (∀ i, (c.threads i).Idle) →
    ∀ i, (c.threads i).returned? = some ⟨songs i, true⟩ ∧
      (c.shared.world.db.rowsOfSong sys playlistId songId songWhere).length = 1 := by
  intro agree
  obtain ⟨ended, refused⟩ := addedBetween_ended
  obtain ⟨returned, -⟩ := agree (Fin 2) system emptyMix 1 "7" "QQ" (fun _ => mixSong) addedBetween
    emptyMix_addable (fun _ => mixSong_fits) (fun _ => ⟨rfl, rfl⟩) addedBetween_reachable
    (fun i => Thread.idle_of_returned (ended i)) 0
  rw [returned] at refused
  cases refused

end Runs

end MusicPlayer
