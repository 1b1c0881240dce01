import MusicPlayer.Properties.ReadMethods
import MusicPlayer.Relational.Numbering
import MusicPlayer.Relational.Paging
import MusicPlayer.Reference

/-!
# Pages of the play history

A client reads the history of a user page by page. Every page is a query of its own, and rows with
the same `played_at` come in an order of its choice. The pages partition the history in every case
if and only if no page border falls among records with the same `played_at` and every call has
memory for the page that it reserves.
-/
namespace MusicPlayer

open Resumption Program Relational

/-- The records of a user. -/
def Db.recordsOfUser (db : Db) (userId : Int32) : List PlayHistoryRow :=
  db.playHistory.rows.filter (·.userId == userId)

/-- `getUserPlayHistory(user, n, 0)`, `(user, n, n)`, `(user, n, 2n)` and so on, each call in its
environment, until a page is shorter than `n`. -/
def readPages (sys : System) (envs : Nat → Env) (w : World) (userId limit : Int32) :
    Nat → Nat → Option (List PlayHistory)
  | 0, _ => none
  | fuel + 1, k =>
    match (runProg sys (envs k) (PlayHistoryDAO.getUserPlayHistory sys userId limit
      (Int32.ofNat (k * limit.toInt.toNat))) w).1 with
    | .error _ => none
    | .ok list =>
      if list.length < limit.toInt.toNat then some list
      else (readPages sys envs w userId limit fuel (k + 1)).map (list ++ ·)

/-- The list has every record of the user once, and the newest first. -/
def Partitions (sys : System) (w : World) (userId : Int32) (list : List PlayHistory) : Prop :=
  ∃ rows : List PlayHistoryRow, list = rows.map (·.toPlayHistory sys) ∧
    rows.Perm (w.db.recordsOfUser userId) ∧ rows.Pairwise fun a b => b.playedAt ≤ a.playedAt

/-- The order in which the query of a call has the records of the user. -/
def historyOrder (env : Env) (w : World) (userId : Int32) : List PlayHistoryRow :=
  orderByDesc PlayHistoryRow.playedAt
    (scan (fun row => env.rank ((env.acquired 0).2 + 4) row.id) (w.db.recordsOfUser userId))

section Pages

variable {sys : System} {env : Env} {envs : Nat → Env} {w : World} {userId limit : Int32}

/-- A call returns the page of its query, if there is memory for as many rows as it asks for. -/
theorem run_historyPage (faultless : env.Faultless) {offset : Int32} (counts : 0 ≤ limit.toInt)
    (starts : 0 ≤ offset.toInt) :
    runProg sys env (PlayHistoryDAO.getUserPlayHistory sys userId limit offset) w =
      (if env.hasMemory limit.toInt.toNat then
        .ok ((((historyOrder env w userId).drop offset.toInt.toNat).take
          limit.toInt.toNat).map (·.toPlayHistory sys))
      else .error .stdException, w) := by
  obtain ⟨k, connected⟩ := faultless.acquired 0
  have selected : w.db.selectPlayHistory (env.context sys k ((env.acquired 0).2 + 4)) userId limit
      offset = some (((historyOrder env w userId).drop offset.toInt.toNat).take
        limit.toInt.toNat) := by
    simp only [Db.selectPlayHistory, Db.limitRows, if_neg (not_lt.mpr counts),
      if_neg (not_lt.mpr starts), Db.historyOf, filter_scan]
    rfl
  rw [runProg, PlayHistoryDAO.run_getUserPlayHistory connected userId limit offset selected,
    if_pos (faultless.quietFrom _ _), if_pos (faultless.quietFrom _ _),
    PlayHistoryDAO.sizeOfInt_of_nonneg counts]

theorem historyOrder_orderedBy :
    OrderedBy PlayHistoryRow.playedAt (w.db.recordsOfUser userId) (historyOrder env w userId) :=
  orderedBy_scan _ _ _

/-- The last page is the first that is not full. -/
def lastPage (w : World) (userId limit : Int32) : Nat :=
  (w.db.recordsOfUser userId).length / limit.toInt.toNat

theorem length_recordsOfUser_lt (numbered : w.db.playHistory.Numbered (·.id)) :
    (w.db.recordsOfUser userId).length < 2 ^ 31 :=
  lt_of_le_of_lt (List.length_filter_le ..) numbered.length_lt

/-- The call for a page that is not behind the last one. -/
theorem run_page (faultless : env.Faultless) (numbered : w.db.playHistory.Numbered (·.id))
    (positive : 1 ≤ limit.toInt) {k : Nat} (inside : k ≤ lastPage w userId limit) :
    (runProg sys env (PlayHistoryDAO.getUserPlayHistory sys userId limit
      (Int32.ofNat (k * limit.toInt.toNat))) w).1 =
        if env.memory limit.toInt.toNat then
          .ok ((page limit.toInt.toNat k (historyOrder env w userId)).map (·.toPlayHistory sys))
        else .error .stdException := by
  have few : (w.db.recordsOfUser userId).length < 2 ^ 31 := length_recordsOfUser_lt numbered
  -- The offset of a page that exists fits into the 32 bits of the parameter.
  have reached : k * limit.toInt.toNat ≤ (w.db.recordsOfUser userId).length :=
    (Nat.mul_le_mul_right _ inside).trans (Nat.div_mul_le_self _ _)
  have offset : (Int32.ofNat (k * limit.toInt.toNat)).toInt = (k * limit.toInt.toNat : Nat) :=
    Int32.toInt_ofNat_of_lt (by omega)
  have asked : limit.toInt.toNat ≠ 0 := by omega
  rw [run_historyPage faultless (by omega) (by omega), offset, Env.hasMemory,
    beq_false_of_ne asked, Bool.false_or]
  rfl

theorem length_page (k : Nat) : (page limit.toInt.toNat k (historyOrder env w userId)).length =
    min limit.toInt.toNat ((w.db.recordsOfUser userId).length - k * limit.toInt.toNat) := by
  rw [page, List.length_take, List.length_drop, historyOrder_orderedBy.perm.length_eq]

/-- All pages before the last one are full. -/
theorem length_page_of_lt {k : Nat} (before : k < lastPage w userId limit) :
    (page limit.toInt.toNat k (historyOrder env w userId)).length = limit.toInt.toNat := by
  have more : (k + 1) * limit.toInt.toNat ≤ (w.db.recordsOfUser userId).length :=
    (Nat.mul_le_mul_right _ before).trans (Nat.div_mul_le_self _ _)
  rw [Nat.succ_mul] at more
  rw [length_page]
  omega

theorem length_lastPage_lt (positive : 1 ≤ limit.toInt) : (page limit.toInt.toNat
    (lastPage w userId limit) (historyOrder env w userId)).length < limit.toInt.toNat := by
  have remainder := Nat.mod_lt (w.db.recordsOfUser userId).length
    (show 0 < limit.toInt.toNat by omega)
  rw [length_page, lastPage, Nat.mul_comm, ← Nat.mod_eq_sub_mul_div]
  exact (min_le_right _ _).trans_lt remainder

/-- From a page on that is not behind the last one, the client reads the pages up to that. -/
theorem readPages_eq (faultless : ∀ k, (envs k).Faultless)
    (numbered : w.db.playHistory.Numbered (·.id)) (positive : 1 ≤ limit.toInt)
    (room : ∀ k ≤ lastPage w userId limit, (envs k).memory limit.toInt.toNat = true)
    (fuel k : Nat) (inside : k ≤ lastPage w userId limit)
    (enough : lastPage w userId limit < fuel + k) :
    ∃ rest, readPages sys envs w userId limit fuel k =
        some (rest.map (·.toPlayHistory sys)) ∧
      pages limit.toInt.toNat (fun k => historyOrder (envs k) w userId) k ++ rest =
        pages limit.toInt.toNat (fun k => historyOrder (envs k) w userId)
          (lastPage w userId limit + 1) := by
  induction fuel generalizing k with
  | zero => omega
  | succ fuel ih =>
    rw [readPages, run_page (faultless k) numbered positive inside, if_pos (room k inside)]
    dsimp only
    rw [List.length_map]
    by_cases last : k = lastPage w userId limit
    · -- The last page is short, so the client stops; all others are full, so it goes on.
      subst last
      rw [if_pos (length_lastPage_lt positive), pages_succ]
      exact ⟨_, rfl, rfl⟩
    · have before : k < lastPage w userId limit := Nat.lt_of_le_of_ne inside last
      obtain ⟨rest, read, all⟩ := ih (k + 1) before (by omega)
      rw [if_neg (length_page_of_lt before).not_lt, read]
      refine ⟨page limit.toInt.toNat k (historyOrder (envs k) w userId) ++ rest, by simp, ?_⟩
      rw [← all, pages_succ, List.append_assoc]

/-- A call without memory is the end of the reading. -/
theorem readPages_eq_none (faultless : ∀ k, (envs k).Faultless)
    (numbered : w.db.playHistory.Numbered (·.id)) (positive : 1 ≤ limit.toInt) {j : Nat}
    (inside : j ≤ lastPage w userId limit)
    (none : (envs j).memory limit.toInt.toNat = false) (fuel k : Nat) (upTo : k ≤ j) :
    readPages sys envs w userId limit fuel k = Option.none := by
  induction fuel generalizing k with
  | zero => rfl
  | succ fuel ih =>
    rw [readPages, run_page (faultless k) numbered positive (upTo.trans inside)]
    cases room : (envs k).memory limit.toInt.toNat with
    | false => rfl
    | true =>
      -- The page before is full, so the client comes to the call that has none.
      have before : k < j := Nat.lt_of_le_of_ne upTo fun here => by
        rw [here, none] at room
        cases room
      have full : (page limit.toInt.toNat k (historyOrder (envs k) w userId)).length =
          limit.toInt.toNat :=
        length_page_of_lt (before.trans_le inside)
      rw [if_pos rfl]
      dsimp only
      rw [List.length_map, if_neg full.not_lt, ih (k + 1) before]
      rfl

/-- The client reads all pages, up to the first that is not full. -/
theorem readPages_zero (faultless : ∀ k, (envs k).Faultless)
    (numbered : w.db.playHistory.Numbered (·.id)) (positive : 1 ≤ limit.toInt)
    (room : ∀ k ≤ lastPage w userId limit, (envs k).memory limit.toInt.toNat = true) :
    readPages sys envs w userId limit (w.db.playHistory.rows.length + 1) 0 =
      some ((pages limit.toInt.toNat (fun k => historyOrder (envs k) w userId)
        (lastPage w userId limit + 1)).map (·.toPlayHistory sys)) := by
  have few : lastPage w userId limit ≤ w.db.playHistory.rows.length :=
    (Nat.div_le_self _ _).trans (List.length_filter_le ..)
  obtain ⟨rest, read, all⟩ := readPages_eq faultless numbered positive room
    (w.db.playHistory.rows.length + 1) 0 (Nat.zero_le _) (Nat.lt_succ_of_le few)
  rw [read, ← all]
  rfl

/-- The pages go behind the last record. -/
theorem length_le_pages (positive : 1 ≤ limit.toInt) : (w.db.recordsOfUser userId).length ≤
    (lastPage w userId limit + 1) * limit.toInt.toNat := by
  have many : 0 < limit.toInt.toNat := by omega
  have below := Nat.lt_mul_div_succ (w.db.recordsOfUser userId).length many
  rw [Nat.mul_comm] at below
  exact below.le

/-- Nothing fails in this environment but a `reserve` without memory. -/
def pageEnv (rank : Int32 → Nat) (memory : Nat → Bool) : Env where
  clock _ := 0
  rank _ := rank
  memory := memory

theorem pageEnv_faultless (rank : Int32 → Nat) (memory : Nat → Bool) :
    (pageEnv rank memory).Faultless := ⟨fun _ => nofun, fun _ => rfl⟩

/-- The queries may have a tie across a page border in such an order that one of its records comes
twice. -/
theorem exists_not_partitions (numbered : w.db.playHistory.Numbered (·.id))
    (positive : 1 ≤ limit.toInt) {k : Nat} (split : SplitAt PlayHistoryRow.playedAt
      (w.db.recordsOfUser userId) (k * limit.toInt.toNat)) (memory : Nat → Nat → Bool) :
    ∃ rank : Nat → Int32 → Nat, ¬Partitions sys w userId ((pages limit.toInt.toNat
      (fun k => historyOrder (pageEnv (rank k) (memory k)) w userId)
      (lastPage w userId limit + 1)).map (·.toPlayHistory sys)) := by
  have many : 0 < limit.toInt.toNat := by omega
  obtain ⟨answers, ordered, repeated⟩ :=
    exists_repeated many (orderedBy_orderByDesc PlayHistoryRow.playedAt _) split
  have unique : ((w.db.recordsOfUser userId).map (·.id)).Nodup :=
    List.Nodup.sublist (List.filter_sublist.map _) numbered.unique
  choose rank ranked using fun k => exists_rank unique (ordered k)
  have same : (fun k => historyOrder (pageEnv (rank k) (memory k)) w userId) = answers :=
    funext ranked
  refine ⟨rank, ?_⟩
  rintro ⟨rows, equal, perm, -⟩
  rw [same] at equal
  -- A record that comes twice brings its id twice.
  have ids : (rows.map (·.id)).Nodup := (perm.map _).nodup_iff.mpr unique
  have back : rows.map (·.id) = (rows.map (·.toPlayHistory sys)).map (·.id) := by
    rw [List.map_map]
    rfl
  rw [back, ← equal, List.map_map] at ids
  exact repeated _ (length_le_pages positive) (List.Nodup.of_map _ ids)

/-- For every page size from 1 on: the pages have every record once, the newest first, in whatever
order the queries have records of the same time, if and only if no page border falls among such
records and every call has memory for a page. -/
theorem pages_partition_iff (memory : Nat → Nat → Bool)
    (numbered : w.db.playHistory.Numbered (·.id)) (positive : 1 ≤ limit.toInt) :
    (∀ envs : Nat → Env, (∀ k, (envs k).Faultless ∧ (envs k).memory = memory k) → ∃ list,
        readPages sys envs w userId limit (w.db.playHistory.rows.length + 1) 0 = some list ∧
          Partitions sys w userId list) ↔
      (∀ k ≤ lastPage w userId limit, memory k limit.toInt.toNat = true) ∧
        ∀ k, ¬SplitAt PlayHistoryRow.playedAt (w.db.recordsOfUser userId)
          (k * limit.toInt.toNat) := by
  constructor
  · intro partitions
    have room : ∀ k ≤ lastPage w userId limit, memory k limit.toInt.toNat = true := by
      intro k inside
      by_contra none
      have faultless (k : Nat) := pageEnv_faultless (fun _ => 0) (memory k)
      obtain ⟨list, read, -⟩ := partitions _ fun k => ⟨faultless k, rfl⟩
      rw [readPages_eq_none faultless numbered positive inside (Bool.eq_false_of_not_eq_true none)
        _ 0 (Nat.zero_le k)] at read
      cases read
    refine ⟨room, fun k split => ?_⟩
    obtain ⟨rank, twice⟩ := exists_not_partitions numbered positive split memory
    have faultless (k : Nat) := pageEnv_faultless (rank k) (memory k)
    obtain ⟨list, read, whole⟩ := partitions _ fun k => ⟨faultless k, rfl⟩
    rw [readPages_zero faultless numbered positive room, Option.some.injEq] at read
    exact twice (read ▸ whole)
  · rintro ⟨room, whole⟩ envs conditions
    have faultless (k : Nat) : (envs k).Faultless := (conditions k).1
    have granted : ∀ k ≤ lastPage w userId limit, (envs k).memory limit.toInt.toNat = true := by
      intro k inside
      rw [(conditions k).2]
      exact room k inside
    have ordered (k : Nat) : OrderedBy PlayHistoryRow.playedAt (w.db.recordsOfUser userId)
        (historyOrder (envs k) w userId) := historyOrder_orderedBy
    refine ⟨_, readPages_zero faultless numbered positive granted, _, rfl, ?_,
      pairwise_pages ordered _⟩
    have all := pages_perm ordered whole (lastPage w userId limit + 1) 0
    rw [List.take_of_length_le ((ordered 0).perm.length_eq.trans_le (length_le_pages positive))]
      at all
    exact all.trans (ordered 0).perm

end Pages

/-! ### Two records of one second -/

section Twins

open Reference

/-- The user has played two songs in one second. -/
def twins : World where
  db := { oneUser.db with playHistory := {
    rows := [⟨1, 1, "1", "Song", "Singer", none, .qq, 0, 0⟩,
      ⟨2, 1, "2", "Other", "Singer", none, .qq, 0, 0⟩]
    autoInc := 3 } }

/-- The first query has the older id first, the later ones the newer. -/
def turning (k : Nat) : Env :=
  { env 0 with rank := fun _ id => if (k == 0) == (id == 1) then 0 else 1 }

theorem twins_numbered : twins.db.playHistory.Numbered (·.id) :=
  ⟨by unfold Table.Unique; decide, by decide⟩

theorem turning_faultless (k : Nat) : (turning k).Faultless := ⟨fun _ => nofun, fun _ => rfl⟩

/-- Two records on one page are on no border. -/
theorem pages_partition_iff_whole :
    ∃ list, readPages system turning twins 1 2 3 0 = some list ∧
      Partitions system twins 1 list := by
  refine (pages_partition_iff (fun _ _ => true) twins_numbered (by decide)).mpr
    ⟨fun _ _ => rfl, fun k split => ?_⟩ turning fun k => ⟨turning_faultless k, rfl⟩
  obtain ⟨row, -, above, upTo⟩ := split
  have none : (twins.db.recordsOfUser 1).countP (fun other => row.playedAt ≤ other.playedAt) ≤ 2 :=
    List.countP_le_length
  have even : k * (2 : Int32).toInt.toNat = k * 2 := rfl
  omega

/-- Page by page the client gets the first record twice and never the second. -/
theorem turning_ids : (readPages system turning twins 1 1 3 0).map (fun list => list.map (·.id)) =
    some [1, 1] := by
  decide +kernel

/-- There is memory for everything here. -/
theorem twins_repeated : ¬∀ (sys : System) (w : World) (userId limit : Int32),
    w.db.playHistory.Numbered (·.id) → 1 ≤ limit.toInt →
    ∀ envs : Nat → Env, (∀ k, (envs k).Faultless ∧ ∀ count, (envs k).memory count = true) → ∃ list,
      readPages sys envs w userId limit (w.db.playHistory.rows.length + 1) 0 = some list ∧
        Partitions sys w userId list := by
  intro partitions
  obtain ⟨list, read, rows, rfl, perm, -⟩ :=
    partitions system twins 1 1 twins_numbered (by decide) turning
      fun k => ⟨turning_faultless k, fun _ => rfl⟩
  have ids := turning_ids
  rw [show readPages system turning twins 1 1 3 0 = some _ from read, Option.map_some,
    Option.some.injEq, List.map_map] at ids
  have distinct : (rows.map (·.id)).Nodup := by
    refine (perm.map _).nodup_iff.mpr ?_
    decide
  rw [show rows.map (·.id) = [1, 1] from ids] at distinct
  exact absurd distinct (by decide)

end Twins

end MusicPlayer
