import MusicPlayer.Properties.PlaylistEdits
import MusicPlayer.Properties.PlayCount
import MusicPlayer.Relational.Replay

/-!
# Playlists as sets of songs

What a playlist holds can be read off the calls of a run. Seen through the composite key, the rows
of `playlist_songs` are a partial map: an add offers a value for a key, a removal drops the key and
the deletion of a playlist drops all of its keys.
-/
namespace MusicPlayer

open Resumption Program Relational

/-! ### Songs up to the collation -/

/-- The songs that `getSongsInPlaylist` lists. -/
def songsIn (sys : System) (env : Env) (w : World) (playlistId : Int32) : List Song :=
  match (runProg sys env (PlaylistDAO.getSongsInPlaylist sys playlistId) w).1 with
  | .ok songs => songs
  | .error _ => []

/-- The song is in the list. -/
def Lists (sys : System) (env : Env) (w : World) (playlistId : Int32) (songId songWhere : String) :
    Prop :=
  ∃ song ∈ songsIn sys env w playlistId, SameSong sys song.songId song.songWhere songId songWhere

namespace Edited

/-- An add of the song that returned true. -/
def AddsAs (sys : System) (playlistId : Int32) (songId songWhere : String) (song : Song)
    (call : Edited) : Prop :=
  call.op = .add playlistId song ∧ call.result = .ok true ∧
    SameSong sys song.songId song.songWhere songId songWhere

def Adds (sys : System) (playlistId : Int32) (songId songWhere : String) (call : Edited) : Prop :=
  ∃ song, call.AddsAs sys playlistId songId songWhere song

/-- A removal of the song, or the deletion of the playlist. -/
def Takes (sys : System) (playlistId : Int32) (songId songWhere : String) (call : Edited) : Prop :=
  (∃ removedId removedWhere, call.op = .remove playlistId removedId removedWhere ∧
    SameSong sys removedId removedWhere songId songWhere) ∨ call.op = .delete playlistId

end Edited

/-- After the calls of the journal every playlist is a set of songs, read in the environment. -/
structure PlaylistsAreSets (sys : System) (env : Env) (journal : List Edited) (w : World) :
    Prop where
  reads : ∀ playlistId, runProg sys env (PlaylistDAO.getSongsInPlaylist sys playlistId) w =
    (.ok (songsIn sys env w playlistId), w)
  distinct : ∀ playlistId, (songsIn sys env w playlistId).Pairwise fun a b =>
    ¬SameSong sys a.songId a.songWhere b.songId b.songWhere
  /-- The latest add is later than every removal and deletion. -/
  member_iff : ∀ playlistId songId songWhere, Lists sys env w playlistId songId songWhere ↔
    Since (fun call => ¬call.Adds sys playlistId songId songWhere ∧
        ¬call.Takes sys playlistId songId songWhere)
      (fun call _ => call.Adds sys playlistId songId songWhere) journal
  /-- A song is shown as it was in the add that made it present. -/
  shown : ∀ playlistId, ∀ song ∈ songsIn sys env w playlistId,
    Since (fun call => ¬call.Takes sys playlistId song.songId song.songWhere)
      (fun call _ => ¬Lists sys env call.before playlistId song.songId song.songWhere ∧
        ∃ added, call.AddsAs sys playlistId song.songId song.songWhere added ∧
          song.songId = added.songId ∧ song.name = added.name ∧ song.singer = added.singer ∧
          song.pic = added.pic) journal
  repeated : ∀ call ∈ journal, ∀ playlistId song, call.op = .add playlistId song →
    Lists sys env call.before playlistId song.songId song.songWhere →
      call.result = .ok true ∧ call.after = call.before
  removed : ∀ call ∈ journal, ∀ playlistId songId songSource,
    call.op = .remove playlistId songId songSource → ∃ result, call.result = .ok result ∧
      (result = true ↔ Lists sys env call.before playlistId songId songSource)
  counted : ∀ playlistId, ∃ count,
    runProg sys env (PlaylistDAO.countSongsInPlaylist playlistId) w = (.ok count, w) ∧
      count.toInt = (songsIn sys env w playlistId).length
  others : ∀ call ∈ journal, ∀ playlistId, call.op.playlist? ≠ some playlistId →
    songsIn sys env call.after playlistId = songsIn sys env call.before playlistId

/-! ### The rows as a partial map -/

/-- The composite key of `playlist_songs`, up to the collation. -/
structure SongKey where
  playlistId : Int32
  songId : String
  songWhere : String
  deriving DecidableEq

/-- The other columns, as they are read. -/
structure SongDetails where
  songId : String
  name : String
  singer : String
  pic : String

def SongKey.of (collate : String → String) (playlistId : Int32) (songId songWhere : String) :
    SongKey :=
  ⟨playlistId, collate songId, collate songWhere⟩

def PlaylistSongRow.key (collate : String → String) (row : PlaylistSongRow) : SongKey :=
  .of collate row.playlistId row.songId row.songWhere.text

def PlaylistSongRow.details (row : PlaylistSongRow) : SongDetails :=
  ⟨row.songId, row.songName, row.songSinger, row.songPic.getD ""⟩

def Song.details (song : Song) : SongDetails := ⟨song.songId, song.name, song.singer, song.pic⟩

/-- What a call does to the map. -/
def PlaylistOp.change (sys : System) : PlaylistOp → Except Exn Bool → Change SongKey SongDetails
  | .add playlistId song, .ok true =>
    .offer (.of sys.collate playlistId song.songId song.songWhere) song.details
  | .remove playlistId songId songSource, _ =>
    .drop fun k => k = .of sys.collate playlistId songId songSource
  | .delete playlistId, _ => .drop fun k => k.playlistId = playlistId
  | _, _ => .keep

def Edited.change (sys : System) (call : Edited) : Change SongKey SongDetails :=
  call.op.change sys call.result

/-- The songs are under their keys in the map, and in existing playlists. -/
structure Holds (sys : System) (db : Db) (held : SongKey → Option SongDetails) : Prop where
  serial : db.playlistSongs.Serial (·.id)
  unique : db.playlistSongs.Unique (PlaylistSongRow.key sys.collate)
  owned : ∀ song ∈ db.playlistSongs.rows, ∃ playlist ∈ db.playlists.rows,
    playlist.id = song.playlistId
  view : db.playlistSongs.view (PlaylistSongRow.key sys.collate) PlaylistSongRow.details = held

section Keys

variable {sys : System}

theorem SongKey.of_inj {playlistId otherPlaylist : Int32}
    {songId songWhere other otherWhere : String} :
    SongKey.of sys.collate playlistId songId songWhere =
        .of sys.collate otherPlaylist other otherWhere ↔
      playlistId = otherPlaylist ∧ SameSong sys songId songWhere other otherWhere := by
  simp only [SongKey.of, SongKey.mk.injEq, SameSong]

/-- The WHERE clauses select by the key. -/
theorem isPlaylistSong_iff {playlistId : Int32} {songId songWhere : String}
    {row : PlaylistSongRow} :
    Db.isPlaylistSong sys.collate playlistId songId songWhere row = true ↔
      row.key sys.collate = .of sys.collate playlistId songId songWhere := by
  simp only [Db.isPlaylistSong, SongWhere.matchesText, Bool.and_eq_true, beq_iff_eq,
    PlaylistSongRow.key, SongKey.of, SongKey.mk.injEq, and_assoc]

theorem SongWhere.collate_ofText {collate : String → String} {text : String} {source : SongWhere}
    (assigned : SongWhere.ofText collate text = some source) :
    collate source.text = collate text := by
  unfold SongWhere.ofText at assigned
  split at assigned
  next same =>
    cases assigned
    exact same.symm
  · split at assigned
    next same =>
      cases assigned
      exact same.symm
    · cases assigned

theorem nullable_getD (text : String) : (nullable text).getD "" = text := by
  unfold nullable
  split
  next empty => exact (String.isEmpty_iff.mp empty).symm
  · rfl

end Keys

namespace Holds

variable {sys : System} {w w' : World} {held : SongKey → Option SongDetails}

/-- A row is shown under its key, and there is no other way to be in the map. -/
theorem isSome_iff (holds : Holds sys w.db held) {playlistId : Int32} {songId songWhere : String} :
    (held (.of sys.collate playlistId songId songWhere)).isSome ↔
      w.db.hasSong sys.collate playlistId songId songWhere := by
  rw [← holds.view, Table.view_isSome, Db.hasSong, List.any_eq_true]
  simp only [isPlaylistSong_iff]

theorem eq_none_of_hasNot (holds : Holds sys w.db held) {playlistId : Int32}
    {songId songWhere : String} (hasNot : ¬w.db.hasSong sys.collate playlistId songId songWhere) :
    held (.of sys.collate playlistId songId songWhere) = none := by
  rw [← Option.not_isSome_iff_eq_none, holds.isSome_iff]
  exact hasNot

theorem add (holds : Holds sys w.db held) {playlistId : Int32} {song : Song} {ctx : SqlContext}
    {count : Nat} {db : Db} (collation : ctx.collate = sys.collate)
    (hasNot : ¬w.db.hasSong sys.collate playlistId song.songId song.songWhere)
    (executed : w.db.insertPlaylistSong ctx playlistId song.songId song.name song.singer
      (nullable song.pic) song.songWhere = some (count, db)) :
    Holds sys db ((PlaylistOp.change sys (.add playlistId song) (.ok true)).apply held) := by
  obtain ⟨-, id, source, assigned, ⟨playlist, present, owner⟩, inserted, equal⟩ :=
    Db.insertPlaylistSong_eq_some executed
  rw [collation] at assigned
  set row : Int32 → PlaylistSongRow := fun id => ⟨id, playlistId, song.songId, song.name,
    song.singer, nullable song.pic, source, ctx.now⟩
  have key (id : Int32) : (row id).key sys.collate =
      .of sys.collate playlistId song.songId song.songWhere := by
    simp only [row, PlaylistSongRow.key, SongKey.of, SongWhere.collate_ofText assigned]
  have details (id : Int32) : (row id).details = song.details := by
    simp only [row, PlaylistSongRow.details, nullable_getD, Song.details]
  -- The key was free, so that the insertion is an update of the map.
  have absent := holds.eq_none_of_hasNot hasNot
  have free : ∀ other ∈ w.db.playlistSongs.rows,
      other.key sys.collate ≠ (row id).key sys.collate := by
    rw [key, ← Table.view_eq_none, holds.view]
    exact absent
  constructor
  case serial => exact holds.serial.insert rfl inserted
  case unique => exact holds.unique.insert inserted free
  case owned =>
    intro other member
    have playlists : db.playlists = w.db.playlists := by rw [equal]
    rw [playlists]
    rw [(Table.insert_eq_some inserted).2.1, List.mem_append, List.mem_singleton] at member
    rcases member with old | rfl
    · exact holds.owned other old
    · exact ⟨playlist, present, owner⟩
  case view =>
    rw [Table.view_insert inserted free, holds.view, key, details]
    simp [PlaylistOp.change, Change.apply, absent]

theorem remove (holds : Holds sys w.db held) {playlistId : Int32} {songId songSource : String}
    {removed : Except Exn Bool} {db : Db}
    (deleted : db = { w.db with
      playlistSongs := w.db.playlistSongs.delete
        (Db.isPlaylistSong sys.collate playlistId songId songSource) }) :
    Holds sys db ((PlaylistOp.change sys (.remove playlistId songId songSource) removed).apply
      held) := by
  subst deleted
  constructor
  case serial => exact holds.serial.delete _
  case unique => exact holds.unique.delete _
  case owned => exact fun song left => holds.owned song (List.mem_of_mem_filter left)
  case view =>
    funext k
    refine (Table.view_delete (· = .of sys.collate playlistId songId songSource)
      (fun row _ => isPlaylistSong_iff) k).trans ?_
    rw [holds.view]
    simp [PlaylistOp.change, Change.apply]

/-- Every song is in an existing playlist, so that the cascade takes all songs of the playlist. -/
theorem delete (holds : Holds sys w.db held) {playlistId : Int32} {deleted : Except Exn Bool} :
    Holds sys (w.db.deletePlaylistRows (·.id == playlistId))
      ((PlaylistOp.change sys (.delete playlistId) deleted).apply held) := by
  -- The songs that go with the playlist are those whose key names it.
  have cascades (song : PlaylistSongRow) (member : song ∈ w.db.playlistSongs.rows) :
      ((w.db.playlists.rows.filter (·.id == playlistId)).any (·.id == song.playlistId)) = true ↔
        (song.key sys.collate).playlistId = playlistId := by
    simp only [List.any_eq_true, List.mem_filter, beq_iff_eq]
    constructor
    · rintro ⟨playlist, ⟨-, chosen⟩, owner⟩
      exact owner.symm.trans chosen
    · intro chosen
      obtain ⟨playlist, present, owner⟩ := holds.owned song member
      exact ⟨playlist, ⟨present, owner.trans chosen⟩, owner⟩
  constructor
  case serial => exact holds.serial.delete _
  case unique => exact holds.unique.delete _
  case owned =>
    intro song left
    obtain ⟨member, kept⟩ := List.mem_filter.mp left
    obtain ⟨playlist, present, owner⟩ := holds.owned song member
    refine ⟨playlist, List.mem_filter.mpr ⟨present, ?_⟩, owner⟩
    rw [Bool.not_eq_true', ← Bool.not_eq_true] at kept
    have other : ¬song.playlistId = playlistId := fun same => kept ((cascades song member).mpr same)
    simpa [owner] using other
  case view =>
    funext k
    apply (Table.view_delete (·.playlistId = playlistId) cascades k).trans
    rw [holds.view]
    simp [PlaylistOp.change, Change.apply]

/-- What a call does to the tables is what it does to the map. -/
theorem step (holds : Holds sys w.db held) {op : PlaylistOp} {result : Bool}
    (step : EditStep sys w op result w') :
    Holds sys w'.db ((op.change sys (.ok result)).apply held) := by
  cases step with
  | create songs playlists =>
    refine ⟨songs ▸ holds.serial, songs ▸ holds.unique, ?_, songs ▸ holds.view⟩
    intro song member
    rw [songs] at member
    obtain ⟨playlist, present, owner⟩ := holds.owned song member
    exact ⟨playlist, playlists playlist present, owner⟩
  | present has =>
    -- The offer of a key that is held changes nothing, as the call does not.
    have same : (PlaylistOp.change sys (.add _ _) (.ok true)).apply held = held :=
      if_pos (holds.isSome_iff.mpr has)
    rw [same]
    exact holds
  | added collation hasNot executed => exact holds.add collation hasNot executed
  | refused hasNot => exact holds
  | remove removed_iff deleted => exact holds.remove deleted
  | delete => exact holds.delete

theorem empty {db : Db} (empty : db.playlistSongs.rows = [])
    (started : 0 < db.playlistSongs.autoInc) :
    Holds sys db fun _ => none := by
  refine ⟨.of_rows_nil empty started, ?_, ?_, ?_⟩
  · simp [Table.Unique, empty]
  · simp [empty]
  · funext k
    exact Table.view_of_rows_nil empty k

end Holds

section Run

variable {sys : System} {start w : World} {journal : List Edited}

/-- The rows after a run are the replay of its journal. -/
theorem EditRun.holds (run : EditRun sys start journal w)
    (initial : Holds sys start.db fun _ => none) :
    Holds sys w.db (replay (Edited.change sys) journal) := by
  induction run with
  | start => exact initial
  | call run env op faultless ih =>
    obtain ⟨result, ended, step⟩ := edited_step faultless ih.serial.numbered op
    have after := ih.step step
    rw [← ended] at after
    exact after

/-- The calls before a call of a run are a run to the world in which it was made. -/
theorem EditRun.split {newer older : List Edited} {call : Edited}
    (run : EditRun sys start (newer ++ call :: older) w) :
    EditRun sys start older call.before ∧
      ∃ env op, env.Faultless ∧ call = edited sys env call.before op := by
  induction newer generalizing w with
  | nil =>
    cases run with
    | call run env op faultless => exact ⟨run, env, op, faultless, rfl⟩
  | cons first newer ih =>
    cases run with
    | call run env op faultless => exact ih run

/-- What a call of a run has met and done. -/
theorem EditRun.step_of_mem (run : EditRun sys start journal w)
    (initial : Holds sys start.db fun _ => none) {call : Edited} (member : call ∈ journal) :
    ∃ result, call.result = .ok result ∧ EditStep sys call.before call.op result call.after := by
  obtain ⟨newer, older, rfl⟩ := List.append_of_mem member
  obtain ⟨before, env, op, faultless, made⟩ := run.split
  rw [made]
  exact edited_step faultless (before.holds initial).serial.numbered op

end Run

/-! ### What the readers see -/

/-- The rows that `getSongsInPlaylist` fetches, in the order in which the query meets them. -/
def listedRows (env : Env) (db : Db) (playlistId : Int32) : List PlaylistSongRow :=
  scan (fun row => env.rank ((env.acquired 0).2 + 2) row.id)
    (db.playlistSongs.rows.filter (·.playlistId == playlistId))

section Readers

variable {sys : System} {env : Env} {w : World} {playlistId : Int32}

theorem mem_listedRows {db : Db} {row : PlaylistSongRow} : row ∈ listedRows env db playlistId ↔
    row ∈ db.playlistSongs.rows ∧ row.playlistId = playlistId := by
  rw [listedRows, mem_scan, List.mem_filter, beq_iff_eq]

theorem run_getSongs (faultless : env.Faultless) :
    runProg sys env (PlaylistDAO.getSongsInPlaylist sys playlistId) w =
      (.ok ((listedRows env w.db playlistId).map (·.toSong sys)), w) := by
  obtain ⟨k, connected⟩ := faultless.acquired 0
  apply (PlaylistDAO.run_getSongsInPlaylist connected playlistId).trans
  rw [if_pos (faultless.quietFrom _ _), listedRows, filter_scan]

theorem songsIn_eq (faultless : env.Faultless) :
    songsIn sys env w playlistId = (listedRows env w.db playlistId).map (·.toSong sys) := by
  rw [songsIn, run_getSongs faultless]

theorem run_countSongs (faultless : env.Faultless)
    (numbered : w.db.playlistSongs.Numbered (·.id)) :
    ∃ count, runProg sys env (PlaylistDAO.countSongsInPlaylist playlistId) w = (.ok count, w) ∧
      count.toInt = (songsIn sys env w playlistId).length := by
  obtain ⟨k, connected⟩ := faultless.acquired 0
  refine ⟨_, (PlaylistDAO.run_countSongsInPlaylist connected playlistId).trans
    (by rw [if_pos (faultless.quietFrom _ _)]), ?_⟩
  rw [numbered.toInt_countP, songsIn_eq faultless, List.length_map, listedRows,
    (scan_perm _ _).length_eq, List.countP_eq_length_filter]

theorem lists_iff (faultless : env.Faultless) {songId songWhere : String} :
    Lists sys env w playlistId songId songWhere ↔
      w.db.hasSong sys.collate playlistId songId songWhere := by
  rw [Lists, songsIn_eq faultless, Db.hasSong, List.any_eq_true]
  simp only [isPlaylistSong_iff, PlaylistSongRow.key, SongKey.of_inj]
  constructor
  · rintro ⟨song, member, same⟩
    obtain ⟨row, listed, rfl⟩ := List.mem_map.mp member
    obtain ⟨stored, chosen⟩ := mem_listedRows.mp listed
    exact ⟨row, stored, chosen, same⟩
  · rintro ⟨row, stored, chosen, same⟩
    exact ⟨row.toSong sys, List.mem_map_of_mem (mem_listedRows.mpr ⟨stored, chosen⟩), same⟩

/-- Under the UNIQUE key no song is listed twice. -/
theorem songsIn_distinct (faultless : env.Faultless)
    (unique : w.db.playlistSongs.Unique (PlaylistSongRow.key sys.collate)) :
    (songsIn sys env w playlistId).Pairwise fun a b =>
      ¬SameSong sys a.songId a.songWhere b.songId b.songWhere := by
  have keys : ((listedRows env w.db playlistId).map (PlaylistSongRow.key sys.collate)).Nodup := by
    refine ((scan_perm _ _).map _).nodup_iff.mpr ?_
    exact List.Nodup.sublist (List.filter_sublist.map _) unique
  rw [songsIn_eq faultless, List.pairwise_map]
  refine (List.pairwise_map.mp keys).imp_of_mem fun {a b} first second different same => ?_
  refine different (SongKey.of_inj.mpr ⟨?_, same⟩)
  rw [(mem_listedRows.mp first).2, (mem_listedRows.mp second).2]

end Readers

/-! ### Calls on other playlists -/

section Steps

variable {sys : System} {env : Env} {w w' : World} {op : PlaylistOp} {result : Bool}

theorem EditStep.rows_of_other (step : EditStep sys w op result w') {playlistId : Int32}
    (other : op.playlist? ≠ some playlistId) :
    w'.db.playlistSongs.rows.filter (·.playlistId == playlistId) =
      w.db.playlistSongs.rows.filter (·.playlistId == playlistId) := by
  -- A DELETE that selects no row of the playlist.
  have untouched {selects : PlaylistSongRow → Bool}
      (elsewhere : ∀ row, row.playlistId = playlistId → selects row = false) :
      (w.db.playlistSongs.delete selects).rows.filter (·.playlistId == playlistId) =
        w.db.playlistSongs.rows.filter (·.playlistId == playlistId) := by
    rw [Table.delete, List.filter_filter]
    refine List.filter_congr fun row _ => ?_
    by_cases here : row.playlistId = playlistId
    · simp [elsewhere row here]
    · simp [here]
  cases step with
  | create songs playlists => rw [songs]
  | present has => rfl
  | refused hasNot => rfl
  | @added id song ctx count db collation hasNot executed =>
    obtain ⟨-, key, source, -, -, inserted, -⟩ := Db.insertPlaylistSong_eq_some executed
    have different : ¬id = playlistId := fun same => other (congrArg some same)
    simp [(Table.insert_eq_some inserted).2.1, different]
  | @remove id songId songSource removed db removed_iff deleted =>
    subst deleted
    refine untouched fun row here => ?_
    have different : ¬playlistId = id := fun same => other (congrArg some same.symm)
    simp [Db.isPlaylistSong, here, different]
  | @delete id deleted =>
    refine untouched fun row here => ?_
    have different : ¬id = playlistId := fun same => other (congrArg some same)
    simp only [List.any_eq_false, List.mem_filter, beq_iff_eq, here]
    rintro playlist ⟨-, chosen⟩ owner
    exact different (chosen.symm.trans owner)

theorem EditStep.songsIn_of_other (faultless : env.Faultless) (step : EditStep sys w op result w')
    {playlistId : Int32} (other : op.playlist? ≠ some playlistId) :
    songsIn sys env w' playlistId = songsIn sys env w playlistId := by
  rw [songsIn_eq faultless, songsIn_eq faultless, listedRows, listedRows, step.rows_of_other other]

/-- An add of a song that is there. -/
theorem EditStep.repeated {playlistId : Int32} {song : Song}
    (step : EditStep sys w (.add playlistId song) result w')
    (has : w.db.hasSong sys.collate playlistId song.songId song.songWhere) :
    result = true ∧ w' = w := by
  cases step with
  | present => exact ⟨rfl, rfl⟩
  | added collation hasNot executed => exact absurd has hasNot
  | refused hasNot => exact absurd has hasNot

theorem EditStep.removed {playlistId : Int32} {songId songSource : String}
    (step : EditStep sys w (.remove playlistId songId songSource) result w') :
    result = true ↔ w.db.hasSong sys.collate playlistId songId songSource := by
  cases step with
  | remove removed_iff => exact removed_iff

end Steps

/-! ### Reading the journal -/

section Journal

variable {sys : System} {call : Edited} {playlistId : Int32} {songId songWhere : String}

theorem Edited.change_eq_offer_iff {k : SongKey} {details : SongDetails} :
    call.change sys = .offer k details ↔ ∃ playlistId song, call.op = .add playlistId song ∧
      call.result = .ok true ∧ SongKey.of sys.collate playlistId song.songId song.songWhere = k ∧
      song.details = details := by
  unfold Edited.change
  constructor
  · intro offered
    unfold PlaylistOp.change at offered
    split at offered
    next playlistId song added succeeded =>
      cases offered
      exact ⟨playlistId, song, added, succeeded, rfl, rfl⟩
    all_goals cases offered
  · rintro ⟨playlistId, song, added, succeeded, rfl, rfl⟩
    rw [added, succeeded]
    rfl

theorem Edited.offers_iff : (call.change sys).Offers (.of sys.collate playlistId songId songWhere) ↔
    call.Adds sys playlistId songId songWhere := by
  simp only [Change.offers_iff, Edited.change_eq_offer_iff, SongKey.of_inj]
  constructor
  · rintro ⟨details, other, song, added, succeeded, ⟨rfl, same⟩, shown⟩
    exact ⟨song, added, succeeded, same⟩
  · rintro ⟨song, added, succeeded, same⟩
    exact ⟨_, playlistId, song, added, succeeded, ⟨rfl, same⟩, rfl⟩

theorem Edited.drops_iff : (call.change sys).Drops (.of sys.collate playlistId songId songWhere) ↔
    call.Takes sys playlistId songId songWhere := by
  obtain ⟨op, before, result, after⟩ := call
  unfold Edited.change Edited.Takes
  cases op with
  | create playlist => simp [PlaylistOp.change, Change.Drops]
  | add other song =>
    -- An add drops nothing, whatever its result.
    refine iff_of_false ?_ (by simp)
    unfold PlaylistOp.change
    split <;> simp_all [Change.Drops]
  | remove other removedId removedWhere =>
    simp only [PlaylistOp.change, Change.Drops, decide_eq_true_eq, SongKey.of_inj,
      PlaylistOp.remove.injEq, reduceCtorEq, or_false]
    constructor
    · rintro ⟨rfl, same⟩
      exact ⟨removedId, removedWhere, ⟨rfl, rfl, rfl⟩, same.1.symm, same.2.symm⟩
    · rintro ⟨otherId, otherWhere, ⟨rfl, rfl, rfl⟩, same⟩
      exact ⟨rfl, same.1.symm, same.2.symm⟩
  | delete other =>
    simp [PlaylistOp.change, Change.Drops, SongKey.of, eq_comm]

end Journal

/-- From an empty `playlist_songs`, the playlists are sets of songs after every run. -/
theorem playlists_are_sets {sys : System} {start w : World} {journal : List Edited}
    (empty : start.db.playlistSongs.rows = []) (started : 0 < start.db.playlistSongs.autoInc)
    (run : EditRun sys start journal w) (env : Env) (faultless : env.Faultless) :
    PlaylistsAreSets sys env journal w := by
  have initial : Holds sys start.db fun _ => none := .empty empty started
  have holds := run.holds initial
  constructor
  case reads =>
    intro playlistId
    rw [run_getSongs faultless, songsIn_eq faultless]
  case distinct => exact fun playlistId => songsIn_distinct faultless holds.unique
  case member_iff =>
    intro playlistId songId songWhere
    rw [lists_iff faultless, ← holds.isSome_iff, replay_isSome_iff]
    simp only [Edited.offers_iff, Edited.drops_iff]
  case shown =>
    intro playlistId song listed
    rw [songsIn_eq faultless] at listed
    obtain ⟨row, member, rfl⟩ := List.mem_map.mp listed
    obtain ⟨stored, rfl⟩ := mem_listedRows.mp member
    have held : replay (Edited.change sys) journal (row.key sys.collate) = some row.details := by
      rw [← holds.view]
      exact Table.view_of_mem holds.unique stored
    -- The value of the key is from the add that found it free.
    obtain ⟨newer, call, older, rfl, ⟨offered, free⟩, kept⟩ := since_offer_of_replay held
    refine ⟨newer, call, older, rfl, ⟨?_, ?_⟩, fun later member => ?_⟩
    · have absent : ¬(replay (Edited.change sys) older (row.key sys.collate)).isSome := by
        simp [free]
      rwa [lists_iff faultless, ← (run.split.1.holds initial).isSome_iff]
    · obtain ⟨playlistId, added, offer, succeeded, key, details⟩ :=
        Edited.change_eq_offer_iff.mp offered
      obtain ⟨rfl, same⟩ := SongKey.of_inj.mp key
      simp only [Song.details, PlaylistSongRow.details, SongDetails.mk.injEq] at details
      obtain ⟨songId, name, singer, pic⟩ := details
      exact ⟨added, ⟨offer, succeeded, same⟩, songId.symm, name.symm, singer.symm, pic.symm⟩
    · exact fun taken => kept later member (Edited.drops_iff.mpr taken)
  case repeated =>
    intro call member playlistId song add has
    obtain ⟨result, ended, step⟩ := run.step_of_mem initial member
    rw [add] at step
    obtain ⟨rfl, same⟩ := step.repeated ((lists_iff faultless).mp has)
    exact ⟨ended, same⟩
  case removed =>
    intro call member playlistId songId songSource remove
    obtain ⟨result, ended, step⟩ := run.step_of_mem initial member
    rw [remove] at step
    refine ⟨result, ended, ?_⟩
    rw [lists_iff faultless]
    exact step.removed
  case counted => exact fun playlistId => run_countSongs faultless holds.serial.numbered
  case others =>
    intro call member playlistId other
    obtain ⟨result, -, step⟩ := run.step_of_mem initial member
    exact step.songsIn_of_other faultless other

section Mix

open Reference

/-- The playlist gets the id 1. -/
def createMix : Edited := edited system (env 0) oneUser (.create { userId := 1, name := "Mix" })

def addToMix (name : String) (w : World) : Edited :=
  edited system (env 0) w (.add 1 { songId := "7", name, singer := "Singer", songWhere := "QQ" })

def mixed : World := (addToMix "Other" (addToMix "Song" createMix.after).after).after

theorem mix_run : EditRun system oneUser [addToMix "Other" (addToMix "Song" createMix.after).after,
    addToMix "Song" createMix.after, createMix] mixed := by
  have faultless : (env 0).Faultless := ⟨by simp [env], fun _ => rfl⟩
  exact ((EditRun.start.call (env 0) _ faultless).call (env 0) _ faultless).call (env 0) _ faultless

theorem playlists_are_sets_mix :
    (songsIn system (env 0) mixed 1).map (·.name) = ["Song"] ∧
      PlaylistsAreSets system (env 0) [addToMix "Other" (addToMix "Song" createMix.after).after,
        addToMix "Song" createMix.after, createMix] mixed :=
  ⟨by decide, playlists_are_sets rfl (by decide) mix_run (env 0) ⟨by simp [env], fun _ => rfl⟩⟩

end Mix

end MusicPlayer
