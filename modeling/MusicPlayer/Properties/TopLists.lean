import MusicPlayer.Properties.HistoryPages
import MusicPlayer.Reference

/-!
# Top lists

The artists that a user has heard most often, and the songs. Names that the collation does not
tell apart are one artist. Where counts are equal the database chooses who is on the list.
-/
namespace MusicPlayer

open Resumption Program Relational

/-! ### Groups -/

section Groups

variable {collate : String → String} {rows : List PlayHistoryRow} {row : PlayHistoryRow}
  {groups : List (String × Int)}

/-- How often the songs of an artist were played. -/
def playsOf (collate : String → String) (rows : List PlayHistoryRow) (singer : String) : Int :=
  ((rows.filter fun row => collate singer = collate row.songSinger).map (·.songCount.toInt)).sum

/-- One group for each artist, with the sum of the plays. -/
structure Grouped (collate : String → String) (rows : List PlayHistoryRow)
    (groups : List (String × Int)) : Prop where
  total : ∀ group ∈ groups, group.2 = playsOf collate rows group.1
  heard : ∀ group ∈ groups, ∃ row ∈ rows, row.songSinger = group.1
  once : groups.Pairwise fun g h => collate g.1 ≠ collate h.1
  all : ∀ row ∈ rows, ∃ group ∈ groups, collate group.1 = collate row.songSinger

theorem playsOf_append_same {singer : String} (same : collate singer = collate row.songSinger) :
    playsOf collate (rows ++ [row]) singer =
      playsOf collate rows singer + row.songCount.toInt := by
  simp [playsOf, List.filter_append, same]

theorem playsOf_append_other {singer : String} (other : collate singer ≠ collate row.songSinger) :
    playsOf collate (rows ++ [row]) singer = playsOf collate rows singer := by
  simp [playsOf, List.filter_append, other]

theorem playsOf_of_unheard {singer : String}
    (unheard : ∀ row ∈ rows, collate singer ≠ collate row.songSinger) :
    playsOf collate rows singer = 0 := by
  have none : rows.filter (fun row => collate singer = collate row.songSinger) = [] :=
    List.filter_eq_nil_iff.mpr fun row member => by simpa using unheard row member
  rw [playsOf, none]
  rfl

/-- A row joins the first group of its singer, or opens one at the end. -/
theorem addToGroups_cases (collate : String → String) (row : PlayHistoryRow)
    (groups : List (String × Int)) :
    (∃ before singer total after, groups = before ++ (singer, total) :: after ∧
      collate singer = collate row.songSinger ∧
      Db.addToGroups collate row groups =
        before ++ (singer, total + row.songCount.toInt) :: after) ∨
    ((∀ group ∈ groups, collate group.1 ≠ collate row.songSinger) ∧
      Db.addToGroups collate row groups = groups ++ [(row.songSinger, row.songCount.toInt)]) := by
  induction groups with
  | nil => exact .inr ⟨by simp, rfl⟩
  | cons group rest ih =>
    obtain ⟨singer, total⟩ := group
    rw [Db.addToGroups]
    by_cases same : collate singer = collate row.songSinger
    · exact .inl ⟨[], singer, total, rest, rfl, same, if_pos same⟩
    · rw [if_neg same]
      rcases ih with ⟨before, found, sum, after, split, equal, joined⟩ | ⟨none, opened⟩
      · refine .inl ⟨(singer, total) :: before, found, sum, after, ?_, equal, ?_⟩
        · rw [split, List.cons_append]
        · rw [joined, List.cons_append]
      · refine .inr ⟨List.forall_mem_cons.mpr ⟨same, none⟩, ?_⟩
        rw [opened, List.cons_append]

namespace Grouped

/-- Nor does the order of the groups matter. -/
theorem rearrange (grouped : Grouped collate rows groups) {others : List (String × Int)}
    (perm : groups.Perm others) : Grouped collate rows others where
  total group member := grouped.total group (perm.mem_iff.mpr member)
  heard group member := grouped.heard group (perm.mem_iff.mpr member)
  once := (perm.pairwise_iff fun different => Ne.symm different).mp grouped.once
  all row member := by
    obtain ⟨group, present, same⟩ := grouped.all row member
    exact ⟨group, perm.mem_iff.mp present, same⟩

theorem heard_append (grouped : Grouped collate rows groups) (row : PlayHistoryRow)
    {group : String × Int} (member : group ∈ groups) :
    ∃ played ∈ rows ++ [row], played.songSinger = group.1 := by
  obtain ⟨played, before, sung⟩ := grouped.heard group member
  exact ⟨played, List.mem_append_left _ before, sung⟩

/-- A row of an artist with a group. -/
theorem join {singer : String} {total : Int}
    (grouped : Grouped collate rows ((singer, total) :: groups))
    (same : collate singer = collate row.songSinger) :
    Grouped collate (rows ++ [row]) ((singer, total + row.songCount.toInt) :: groups) := by
  obtain ⟨apart, once⟩ := List.pairwise_cons.mp grouped.once
  -- The other groups are groups of other artists.
  have others : ∀ group ∈ groups, collate group.1 ≠ collate row.songSinger := by
    intro group member
    rw [← same]
    exact (apart group member).symm
  refine ⟨List.forall_mem_cons.mpr ⟨?_, fun group member => ?_⟩,
    List.forall_mem_cons.mpr ⟨?_, fun group member => ?_⟩, List.pairwise_cons.mpr ⟨apart, once⟩,
    fun played member => ?_⟩
  · rw [playsOf_append_same same, ← grouped.total (singer, total) (List.mem_cons_self ..)]
  · rw [playsOf_append_other (others group member)]
    exact grouped.total group (List.mem_cons_of_mem _ member)
  · have heard := grouped.heard_append row (List.mem_cons_self ..)
    exact heard
  · exact grouped.heard_append row (List.mem_cons_of_mem _ member)
  · rcases List.mem_append.mp member with before | new
    · obtain ⟨group, present, equal⟩ := grouped.all played before
      rcases List.mem_cons.mp present with rfl | present
      · exact ⟨_, List.mem_cons_self .., equal⟩
      · exact ⟨group, List.mem_cons_of_mem _ present, equal⟩
    · rw [List.mem_singleton.mp new]
      exact ⟨_, List.mem_cons_self .., same⟩

/-- A row of an artist without a group. -/
theorem opens (grouped : Grouped collate rows groups)
    (none : ∀ group ∈ groups, collate group.1 ≠ collate row.songSinger) :
    Grouped collate (rows ++ [row]) ((row.songSinger, row.songCount.toInt) :: groups) := by
  -- Nothing of the artist was played before.
  have unheard : ∀ played ∈ rows, collate row.songSinger ≠ collate played.songSinger := by
    intro played before same
    obtain ⟨group, present, equal⟩ := grouped.all played before
    exact none group present (equal.trans same.symm)
  refine ⟨List.forall_mem_cons.mpr ⟨?_, fun group member => ?_⟩,
    List.forall_mem_cons.mpr ⟨?_, fun group member => grouped.heard_append row member⟩,
    List.pairwise_cons.mpr ⟨fun group member => (none group member).symm, grouped.once⟩,
    fun played member => ?_⟩
  · rw [playsOf_append_same rfl, playsOf_of_unheard unheard, zero_add]
  · rw [playsOf_append_other (none group member)]
    exact grouped.total group member
  · exact ⟨row, List.mem_append_right _ (List.mem_singleton_self _), rfl⟩
  · rcases List.mem_append.mp member with before | new
    · obtain ⟨group, present, equal⟩ := grouped.all played before
      exact ⟨group, List.mem_cons_of_mem _ present, equal⟩
    · rw [List.mem_singleton.mp new]
      exact ⟨_, List.mem_cons_self .., rfl⟩

theorem add (grouped : Grouped collate rows groups) (row : PlayHistoryRow) :
    Grouped collate (rows ++ [row]) (Db.addToGroups collate row groups) := by
  rcases addToGroups_cases collate row groups with
    ⟨before, singer, total, after, rfl, same, joined⟩ | ⟨none, opened⟩
  · rw [joined]
    exact ((grouped.rearrange List.perm_middle).join same).rearrange List.perm_middle.symm
  · rw [opened]
    exact (grouped.opens none).rearrange (List.perm_append_singleton ..).symm

end Grouped

/-- `GROUP BY` over any rows. -/
theorem grouped_groupBySinger (collate : String → String) (rows : List PlayHistoryRow) :
    Grouped collate rows (Db.groupBySinger collate rows) := by
  induction rows using List.reverseRecOn with
  | nil => exact ⟨by simp [Db.groupBySinger], by simp [Db.groupBySinger], .nil, by simp⟩
  | append_singleton rows row ih =>
    rw [Db.groupBySinger, List.foldl_append]
    exact ih.add row

theorem playsOf_congr {one other : String} (same : collate one = collate other) :
    playsOf collate rows one = playsOf collate rows other := by
  rw [playsOf, playsOf, same]

theorem playsOf_perm {others : List PlayHistoryRow} (perm : rows.Perm others) (singer : String) :
    playsOf collate rows singer = playsOf collate others singer :=
  ((perm.filter _).map _).sum_eq

/-- The order of the rows does not matter for what the groups are. -/
theorem Grouped.perm {others : List PlayHistoryRow} (grouped : Grouped collate rows groups)
    (perm : rows.Perm others) : Grouped collate others groups where
  total group member := (grouped.total group member).trans (playsOf_perm perm group.1)
  heard group member := by
    obtain ⟨row, played, sung⟩ := grouped.heard group member
    exact ⟨row, perm.mem_iff.mp played, sung⟩
  once := grouped.once
  all row member := grouped.all row (perm.mem_iff.mpr member)

end Groups

/-! ### The lists -/

/-- The artists that were heard most often, each once, with their plays: whoever is not on the
list was heard no more often than anyone on it, and the list is full then. -/
structure TopArtists (collate : String → String) (rows : List PlayHistoryRow) (limit : Nat)
    (list : List (String × Int32)) : Prop where
  short : list.length ≤ limit
  total : ∀ artist ∈ list, artist.2 = Int32.ofInt (playsOf collate rows artist.1)
  heard : ∀ artist ∈ list, ∃ row ∈ rows, row.songSinger = artist.1
  once : list.Pairwise fun a b => collate a.1 ≠ collate b.1
  sorted : list.Pairwise fun a b => playsOf collate rows b.1 ≤ playsOf collate rows a.1
  best : ∀ row ∈ rows, (∀ artist ∈ list, collate artist.1 ≠ collate row.songSinger) →
    list.length = limit ∧
      ∀ artist ∈ list, playsOf collate rows row.songSinger ≤ playsOf collate rows artist.1

/-- The first groups of an answer, as they are returned. -/
theorem Grouped.topArtists {collate : String → String} {rows : List PlayHistoryRow}
    {groups answer : List (String × Int)} (grouped : Grouped collate rows groups)
    (ordered : OrderedBy (·.2) groups answer) (limit : Nat) :
    TopArtists collate rows limit
      ((answer.take limit).map fun group => (group.1, Int32.ofInt group.2)) := by
  have known {group : String × Int} (taken : group ∈ answer.take limit) : group ∈ groups :=
    ordered.perm.mem_iff.mp (List.mem_of_mem_take taken)
  have distinct : answer.Pairwise fun g h => collate g.1 ≠ collate h.1 :=
    (ordered.perm.pairwise_iff fun different => Ne.symm different).mpr grouped.once
  refine ⟨?_, ?_, ?_, ?_, ?_, ?_⟩
  · rw [List.length_map]
    exact List.length_take_le ..
  · rintro _ listed
    obtain ⟨group, taken, rfl⟩ := List.mem_map.mp listed
    rw [grouped.total group (known taken)]
  · rintro _ listed
    obtain ⟨group, taken, rfl⟩ := List.mem_map.mp listed
    exact grouped.heard group (known taken)
  · exact List.pairwise_map.mpr (distinct.sublist (List.take_sublist ..))
  · refine List.pairwise_map.mpr ?_
    refine (ordered.sorted.sublist (List.take_sublist ..)).imp_of_mem ?_
    intro first second firstTaken secondTaken le
    rw [← grouped.total first (known firstTaken), ← grouped.total second (known secondTaken)]
    exact le
  · intro row member missing
    obtain ⟨group, present, same⟩ := grouped.all row member
    -- The group of the row is behind the border.
    have behind : group ∈ answer.drop limit := by
      have somewhere := ordered.perm.mem_iff.mpr present
      rw [← List.take_append_drop limit answer, List.mem_append] at somewhere
      rcases somewhere with taken | behind
      · exact (missing _ (List.mem_map_of_mem taken) same).elim
      · exact behind
    have long : limit < answer.length := by
      have some := List.length_pos_of_mem behind
      rw [List.length_drop] at some
      omega
    refine ⟨by rw [List.length_map, List.length_take]; omega, ?_⟩
    rintro _ listed
    obtain ⟨top, taken, rfl⟩ := List.mem_map.mp listed
    have sorted := ordered.sorted
    rw [← List.take_append_drop limit answer] at sorted
    have le := (List.pairwise_append.mp sorted).2.2 top taken group behind
    rw [grouped.total group present, grouped.total top (known taken), playsOf_congr same] at le
    exact le

section Lists

variable {sys : System} {env : Env} {w : World} {userId limit : Int32}

theorem limitRows_of_nonneg {ρ : Type} (counts : 0 ≤ limit.toInt) (rows : List ρ) :
    Db.limitRows limit rows = some (rows.take limit.toInt.toNat) := by
  rw [Db.limitRows, if_neg (not_lt.mpr counts)]

/-- Without failures the top lists of a user are right, for every history: of the artists, and of
the songs. Both methods that list songs have the same songs in the same order. -/
theorem top_lists (faultless : env.Faultless) (counts : 0 ≤ limit.toInt) :
    (∃ list, runProg sys env (PlayHistoryDAO.getUserTopArtists userId limit) w = (.ok list, w) ∧
      TopArtists sys.collate (w.db.recordsOfUser userId) limit.toInt.toNat list) ∧
    ∃ answer, OrderedBy (fun row => row.songCount.toInt) (w.db.recordsOfUser userId) answer ∧
      runProg sys env (PlayHistoryDAO.getUserTopSongs userId limit) w =
        (.ok ((answer.take limit.toInt.toNat).map (·.toSong)), w) ∧
      runProg sys env (PlayHistoryDAO.getMostPlayedSongs sys userId limit) w =
        (.ok ((answer.take limit.toInt.toNat).map fun row =>
          (row.toPlayHistory sys, row.songCount)), w) := by
  obtain ⟨k, connected⟩ := faultless.acquired 0
  let ctx := env.context sys k ((env.acquired 0).2 + 3)
  have history : w.db.historyOf ctx userId =
      scan (fun row => ctx.rank row.id) (w.db.recordsOfUser userId) := filter_scan ..
  constructor
  · have selected := limitRows_of_nonneg counts (orderByDesc (·.2)
      (Db.groupBySinger sys.collate (w.db.historyOf ctx userId)))
    refine ⟨_, ?_, Grouped.topArtists (Grouped.perm (grouped_groupBySinger sys.collate
      (w.db.historyOf ctx userId)) ?_) (orderedBy_orderByDesc ..) _⟩
    · rw [runProg, PlayHistoryDAO.run_getUserTopArtists connected userId limit selected,
        if_pos (faultless.quietFrom _ _)]
    · rw [history]
      exact scan_perm ..
  · have selected := limitRows_of_nonneg counts (orderByDesc (fun row => row.songCount.toInt)
      (w.db.historyOf ctx userId))
    refine ⟨orderByDesc (fun row => row.songCount.toInt) (w.db.historyOf ctx userId), ?_, ?_, ?_⟩
    · rw [history]
      exact orderedBy_scan ..
    · rw [runProg, PlayHistoryDAO.run_getUserTopSongs connected userId limit selected,
        if_pos (faultless.quietFrom _ _)]
    · rw [runProg, PlayHistoryDAO.run_getMostPlayedSongs connected userId limit selected,
        if_pos (faultless.quietFrom _ _)]

end Lists

section Sample

open Reference

/-- A user who has heard one artist in two songs, and another one in a third. -/
def fanOfSinger : World where
  db := { oneUser.db with playHistory := {
    rows := [⟨1, 1, "1", "Song", "Singer", none, .qq, 2, 0⟩,
      ⟨2, 1, "2", "Hit", "Star", none, .qq, 3, 0⟩,
      ⟨3, 1, "3", "Other", "Singer", none, .netEase, 4, 0⟩]
    autoInc := 4 } }

/-- The artist of two songs is ahead of the artist of the hit. -/
theorem top_lists_singer : playsOf system.collate (fanOfSinger.db.recordsOfUser 1) "Singer" = 6 ∧
    ∃ list, runProg system (env 0) (PlayHistoryDAO.getUserTopArtists 1 1) fanOfSinger =
        (.ok list, fanOfSinger) ∧
      TopArtists system.collate (fanOfSinger.db.recordsOfUser 1) 1 list := by
  have faultless : (env 0).Faultless := ⟨fun _ => Option.some_ne_none _, fun _ => rfl⟩
  exact ⟨by decide +kernel, (top_lists faultless (by decide)).1⟩

end Sample

end MusicPlayer
