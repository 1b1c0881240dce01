import MusicPlayer.Properties.Interference
import MusicPlayer.Properties.GuardDiscipline
import MusicPlayer.Properties.PlayCount
import Mathlib.Algebra.BigOperators.Ring.Finset

/-!
# Plays of one song at the same time

Any number of `addPlayHistory` calls for a song that is in the history, one thread each. A call
reads the count in one statement and writes the next number in another. What was counted in
between is overwritten. The calls are counted when every SELECT meets the record of the song
first (it does not ask for the source), and every UPDATE still finds the number that its call
has read.
-/
namespace MusicPlayer

open Resumption Program Relational

/-- The world, with the number of rows that the UPDATE statements of each thread have changed.
Nothing the threads do depends on that record. -/
structure CountState (ι : Type) where
  world : World
  changed : ι → Nat := fun _ => 0

section Threads

variable {ι : Type} [DecidableEq ι]

/-- The record after an effect of a thread. -/
def noteChanged (i : ι) (changed : ι → Nat) : (effect : Effect) → effect.Reply → ι → Nat
  | .connector _ (.execute (.updateSongCount _ _)), .ok n =>
    Function.update changed i (changed i + n)
  | _, _ => changed

/-- Each thread makes one call. Every effect is answered by some environment; `permits` says
which effects and replies are considered. -/
def playThreads (ι : Type) [DecidableEq ι] (sys : System)
    (permits : (effect : Effect) → World → effect.Reply → Prop) :
    Concurrent ι Effect Effect.Reply Exn PlayHistory (fun _ => Bool) (CountState ι) where
  program := PlayHistoryDAO.addPlayHistory
  starts _ _ _ _ := False
  step i effect a reply b := permits effect a.world reply ∧
    (∃ env, Step sys env effect a.world reply b.world) ∧
    b.changed = noteChanged i a.changed effect reply

def playInit (w : World) (histories : ι → PlayHistory) :
    Config ι Effect Effect.Reply Exn (fun _ : PlayHistory => Bool) (CountState ι) where
  shared := { world := w }
  threads i := some ⟨histories i, PlayHistoryDAO.addPlayHistory (histories i)⟩

/-- The SELECT of a call meets the record first, and an UPDATE that is executed finds the count
that the call has read, or the one that it writes. -/
def Timely (record : PlayHistoryRow) : (effect : Effect) → World → effect.Reply → Prop
  | .connector _ (.execute (.selectSongCount _ _)), _, .ok found =>
    ∀ first ∈ found.head?, first.1 = record.id
  | .connector _ (.execute (.updateSongCount songCount id)), w, .ok _ =>
    ∀ row ∈ w.db.playHistory.rows, row.id = id →
      row.songCount.toInt + 1 = songCount.toInt ∨ row.songCount = songCount
  | _, _, _ => True

/-- The call of a thread has returned true. -/
def returnedTrue : Thread Effect Effect.Reply Exn (fun _ : PlayHistory => Bool) → Bool
  | some ⟨_, .ret value⟩ => value
  | _ => false

end Threads

/-- The records of a song in the history of a user. -/
def Db.recordsOf (sys : System) (db : Db) (userId : Int32) (songId songWhere : String) :
    List PlayHistoryRow :=
  db.playHistory.rows.filter fun row =>
    row.userId == userId && decide (SameSong sys row.songId row.songWhere.text songId songWhere)

/-! ### The record of the song -/

/-- The history in which a record has another count. -/
def Db.withCount (db : Db) (id songCount : Int32) : Table PlayHistoryRow :=
  db.playHistory.update (·.id == id) fun row => { row with songCount }

section Record

variable {sys : System} {db : Db} {userId : Int32} {songId songWhere : String}
  {record : PlayHistoryRow}

/-- The history has one record of the song, and `id` is its primary key. -/
structure OneRecord (sys : System) (db : Db) (userId : Int32) (songId songWhere : String)
    (record : PlayHistoryRow) : Prop where
  ids : db.playHistory.Unique PlayHistoryRow.id
  only : db.recordsOf sys userId songId songWhere = [record]

theorem OneRecord.mem_recordsOf (one : OneRecord sys db userId songId songWhere record) :
    record ∈ db.recordsOf sys userId songId songWhere := by
  simp [one.only]

theorem OneRecord.mem (one : OneRecord sys db userId songId songWhere record) :
    record ∈ db.playHistory.rows :=
  (List.mem_filter.mp one.mem_recordsOf).1

/-- The SELECT of a call would find the record. -/
theorem OneRecord.found (one : OneRecord sys db userId songId songWhere record) :
    record.userId = userId ∧ sys.collate record.songId = sys.collate songId := by
  have matches' := (List.mem_filter.mp one.mem_recordsOf).2
  simp only [Bool.and_eq_true, beq_iff_eq, decide_eq_true_eq] at matches'
  exact ⟨matches'.1, matches'.2.1⟩

/-- The row with the id of the record is the record. -/
theorem OneRecord.eq_of_id (one : OneRecord sys db userId songId songWhere record)
    {row : PlayHistoryRow} (member : row ∈ db.playHistory.rows) (same : row.id = record.id) :
    row = record :=
  one.ids.eq_of_key member one.mem same

/-- Setting the count of the record is all that happens to it, whatever count it had. -/
theorem withCount_withCount (id first second : Int32) :
    ({ db with playHistory := db.withCount id first } : Db).withCount id second =
      db.withCount id second := by
  simp only [Db.withCount, Table.update, List.map_map, Table.mk.injEq, and_true]
  refine List.map_congr_left fun row _ => ?_
  simp only [Function.comp_apply]
  by_cases own : (row.id == id) = true
  · simp [own]
  · simp [own]

theorem OneRecord.withCount_self (one : OneRecord sys db userId songId songWhere record) :
    db.withCount record.id record.songCount = db.playHistory := by
  have rows : (db.withCount record.id record.songCount).rows = db.playHistory.rows := by
    refine (List.map_congr_left fun row member => ?_).trans (List.map_id _)
    split
    next own =>
      obtain rfl := one.eq_of_id member (beq_iff_eq.mp own)
      rfl
    · rfl
  exact congrArg (Table.mk · db.playHistory.autoInc) rows

/-- With another count the record is still the only one of the song. -/
theorem OneRecord.recordsOf (one : OneRecord sys db userId songId songWhere record)
    (songCount : Int32) {now : Db} (history : now.playHistory = db.withCount record.id songCount) :
    now.recordsOf sys userId songId songWhere = [{ record with songCount }] := by
  have kept (row : PlayHistoryRow) : ((fun row : PlayHistoryRow => row.userId == userId &&
        decide (SameSong sys row.songId row.songWhere.text songId songWhere)) ∘
      fun row => if (row.id == record.id) = true then { row with songCount } else row) row =
        (row.userId == userId &&
          decide (SameSong sys row.songId row.songWhere.text songId songWhere)) := by
    simp only [Function.comp_apply]
    split <;> rfl
  have only : db.playHistory.rows.filter (fun row => row.userId == userId &&
      decide (SameSong sys row.songId row.songWhere.text songId songWhere)) = [record] := one.only
  simp only [Db.recordsOf, history, Db.withCount, Table.update, List.filter_map, funext kept, only,
    List.map_cons, beq_self_eq_true, if_true, List.map_nil]

/-- A SELECT that meets the record first finds the count of the moment. -/
theorem OneRecord.selects (one : OneRecord sys db userId songId songWhere record)
    {songCount : Int32} {ctx : SqlContext} (collate : ctx.collate = sys.collate) {now after : Db}
    (history : now.playHistory = db.withCount record.id songCount) {text : String}
    (song : sys.collate text = sys.collate songId) {found : List (Int32 × Int32)}
    (executed : Statement.exec ctx now (.selectSongCount userId text) = some (found, after))
    (first : ∀ entry ∈ found.head?, entry.1 = record.id) :
    ∃ rest, found = (record.id, songCount) :: rest := by
  have rows : now.playHistory.rows = db.playHistory.rows.map fun row =>
      if (row.id == record.id) = true then { row with songCount } else row :=
    congrArg Table.rows history
  simp only [Statement.exec, Db.historyOf, collate, Option.some.injEq, Prod.mk.injEq] at executed
  obtain ⟨equal, -⟩ := executed
  have present : (record.id, songCount) ∈ found := by
    rw [← equal, List.mem_map]
    refine ⟨{ record with songCount }, ?_, rfl⟩
    obtain ⟨user, same⟩ := one.found
    simp only [List.mem_filter, mem_scan, rows, List.mem_map, beq_iff_eq]
    exact ⟨⟨⟨record, one.mem, by simp⟩, user⟩, same.trans song.symm⟩
  cases found with
  | nil => cases present
  | cons entry rest =>
    have met := first entry rfl
    -- The first row has the id of the record, so it is the record.
    have member : entry ∈ entry :: rest := List.mem_cons_self
    rw [← equal, List.mem_map] at member
    obtain ⟨row, selected, rfl⟩ := member
    simp only [List.mem_filter, mem_scan, rows, List.mem_map] at selected
    obtain ⟨⟨⟨old, before, rfl⟩, -⟩, -⟩ := selected
    have own : old.id = record.id := by
      split at met <;> exact met
    refine ⟨rest, ?_⟩
    simp [own]

/-- The UPDATE of a call changes one row, unless the record has the count already. -/
theorem OneRecord.changedRows (one : OneRecord sys db userId songId songWhere record)
    (old new : Int32) :
    (db.withCount record.id old).changedRows (·.id == record.id)
      (fun row => { row with songCount := new }) = if old = new then 0 else 1 := by
  have single : db.playHistory.rows.countP (·.id == record.id) = 1 := by
    have count := List.count_eq_one_of_mem one.ids (List.mem_map_of_mem one.mem)
    rw [List.count, List.countP_map] at count
    exact count
  have changes (row : PlayHistoryRow) : ((fun row : PlayHistoryRow => row.id == record.id &&
      decide ({ row with songCount := new } ≠ row)) ∘
      fun row => if (row.id == record.id) = true then { row with songCount := old } else row) row =
        (row.id == record.id && decide (old ≠ new)) := by
    simp only [Function.comp_apply]
    by_cases own : (row.id == record.id) = true
    · simp [own, eq_comm]
    · simp [own]
  rw [Table.changedRows, Db.withCount, Table.update, List.countP_map, funext changes]
  split
  next same => simp [same]
  next differs => simpa [differs] using single

end Record

/-! ### What one call does -/

section Calls

variable {ι : Type} [DecidableEq ι] [Fintype ι]

/-- The history is that of the start but for the count of the record, which has grown by the
changes that the threads have made. -/
def Grown (db : Db) (record : PlayHistoryRow) (a : CountState ι) : Prop :=
  ∃ songCount : Int32, a.world.db.playHistory = db.withCount record.id songCount ∧
    songCount.toInt = record.songCount.toInt + ∑ i, (a.changed i : Int)

/-- The statements of a call. -/
def PlayPre (sys : System) (userId : Int32) (songId : String) (record : PlayHistoryRow) :
    Effect → CountState ι → Prop
  | .connector _ (.execute s), _ =>
    (∃ text, s = .selectSongCount userId text ∧ sys.collate text = sys.collate songId) ∨
      ∃ songCount, s = .updateSongCount songCount record.id
  | effect, _ => effect.Bare

/-- A call that has returned true has changed the record once, any other call has not. -/
def PlayPost (i : ι) (result : Except Exn Bool) (a : CountState ι) : Prop :=
  a.changed i = if result matches .ok true then 1 else 0

/-- What the other threads may do: they leave alone what this one has changed. -/
def PlayRely (i : ι) (a b : CountState ι) : Prop := b.changed i = a.changed i

/-- The threads, with the record of the song. -/
def playProtocol (ι : Type) [DecidableEq ι] [Fintype ι] (sys : System) (db : Db) (userId : Int32)
    (songId : String) (record : PlayHistoryRow) :
    Protocol ι Effect Exn PlayHistory (fun _ => Bool) (CountState ι) where
  inv := Grown db record
  rely := PlayRely
  pre _ := PlayPre sys userId songId record
  post i _ := PlayPost i
  idle _ _ := True

section Steps

variable {sys : System} {db : Db} {userId : Int32} {songId songWhere : String}
  {record : PlayHistoryRow}
  {i : ι} {a b : CountState ι}

omit [Fintype ι] in
theorem noteChanged_other {effect : Effect} {reply : effect.Reply} {j : ι} (other : j ≠ i) :
    noteChanged i a.changed effect reply j = a.changed j := by
  unfold noteChanged
  split
  · exact Function.update_of_ne other ..
  · rfl

omit [DecidableEq ι] in
/-- Where no row is changed, the history and the count of changes are as before. -/
theorem Grown.same (grown : Grown db record a)
    (history : b.world.db.playHistory = a.world.db.playHistory) (changed : b.changed = a.changed) :
    Grown db record b := by
  obtain ⟨songCount, now, sum⟩ := grown
  refine ⟨songCount, history.trans now, ?_⟩
  rw [changed]
  exact sum

/-- An UPDATE that finds the count its call has read adds what it changes. -/
theorem Grown.update (one : OneRecord sys db userId songId songWhere record)
    (grown : Grown db record a) {songCount : Int32} {ctx : SqlContext} {n : Nat} {after : Db}
    (fresh : ∀ row ∈ a.world.db.playHistory.rows, row.id = record.id →
      row.songCount.toInt + 1 = songCount.toInt ∨ row.songCount = songCount)
    (executed : Statement.exec ctx a.world.db (.updateSongCount songCount record.id) =
      some (n, after))
    (world : b.world.db = after)
    (changed : b.changed = Function.update a.changed i (a.changed i + n)) : Grown db record b := by
  obtain ⟨old, history, sum⟩ := grown
  simp only [Statement.exec, Option.some.injEq, Prod.mk.injEq] at executed
  obtain ⟨counted, updated⟩ := executed
  rw [history, one.changedRows] at counted
  -- The count that the UPDATE finds is the one its call has read, or already the new one.
  have found : old.toInt + 1 = songCount.toInt ∨ old = songCount := by
    have member : ({ record with songCount := old } : PlayHistoryRow) ∈
        a.world.db.playHistory.rows := by
      rw [history]
      exact List.mem_map.mpr ⟨record, one.mem, by simp⟩
    exact fresh _ member rfl
  refine ⟨songCount, ?_, ?_⟩
  · rw [world, ← updated]
    change a.world.db.playHistory.update _ _ = _
    rw [history]
    exact withCount_withCount record.id old songCount
  -- The sum over the calls moves with the one summand of this call.
  · have total : (∑ j, (b.changed j : Int)) = (∑ j, (a.changed j : Int)) + n := by
      have rest := Finset.add_sum_erase Finset.univ (fun j => (b.changed j : Int))
        (Finset.mem_univ i)
      have before := Finset.add_sum_erase Finset.univ (fun j => (a.changed j : Int))
        (Finset.mem_univ i)
      have others : ∑ j ∈ Finset.univ.erase i, (b.changed j : Int) =
          ∑ j ∈ Finset.univ.erase i, (a.changed j : Int) := by
        refine Finset.sum_congr rfl fun j member => ?_
        rw [changed, Function.update_of_ne (Finset.ne_of_mem_erase member)]
      have own : b.changed i = a.changed i + n := by
        rw [changed, Function.update_self]
      rw [← rest, ← before, others, own]
      omega
    rw [total, ← counted]
    rcases found with next | rfl
    · have differs : old ≠ songCount := by
        rintro rfl
        omega
      rw [if_neg differs]
      push_cast
      omega
    · simpa using sum

omit [Fintype ι] in
theorem noteChanged_bare {effect : Effect} (bare : effect.Bare) (reply : effect.Reply) :
    noteChanged i a.changed effect reply = a.changed := by
  cases effect with
  | connector conn c =>
    cases c with
    | execute s => exact bare.elim
    | _ => rfl
  | _ => rfl

omit [Fintype ι] in
theorem noteChanged_error {conn : Option Conn} {s : Statement} (exn : Exn) :
    noteChanged i a.changed (.connector conn (.execute s)) (.error exn) = a.changed := by
  cases s <;> rfl

omit [DecidableEq ι] in
/-- What an UPDATE of the record answers, while the history is grown. -/
theorem Grown.affects (one : OneRecord sys db userId songId songWhere record)
    (grown : Grown db record a) {songCount : Int32} {ctx : SqlContext} {n : Nat} {after : Db}
    (executed : Statement.exec ctx a.world.db (.updateSongCount songCount record.id) =
      some (n, after)) : n ≤ 1 := by
  obtain ⟨old, history, -⟩ := grown
  simp only [Statement.exec, Option.some.injEq, Prod.mk.injEq] at executed
  obtain ⟨rfl, -⟩ := executed
  rw [history, one.changedRows]
  split <;> omega

/-- One effect of a call keeps the history grown. -/
theorem playStep_grown (one : OneRecord sys db userId songId songWhere record)
    (grown : Grown db record a) {effect : Effect} {reply : effect.Reply}
    (owes : PlayPre sys userId songId record effect a)
    (step : (playThreads ι sys (Timely record)).step i effect a reply b) : Grown db record b := by
  obtain ⟨timely, ⟨env, performed⟩, changed⟩ := step
  by_cases bare : effect.Bare
  · obtain ⟨count, answered⟩ := performed
    have kept := (exec_bare sys env count bare a.world a.world).1
    rw [answered] at kept
    have history : b.world.db.playHistory = a.world.db.playHistory :=
      congrArg (·.db.playHistory) kept
    exact grown.same history (changed.trans (noteChanged_bare bare reply))
  · cases effect with
    | connector conn c =>
      cases c with
      | execute s =>
        rcases step_statement performed with
          ⟨⟨exn, rfl⟩, world⟩ | ⟨ctx, value, after, -, rfl, executed, world⟩
        · exact grown.same (by rw [world]) (changed.trans (noteChanged_error exn))
        · -- The query changes nothing, and the update adds one and is counted.
          rcases owes with ⟨text, rfl, -⟩ | ⟨songCount, rfl⟩
          · cases executed
            exact grown.same (by rw [world]) changed
          · exact grown.update one timely executed (by rw [world]) changed
      | _ => exact absurd owes bare
    | _ => exact absurd owes bare

/-- The number of changes of a thread is its own business. -/
theorem undisturbed_changed (P : Nat → Prop) :
    Undisturbed (fun effect (a : CountState ι) reply b => Grown db record a ∧
      (playThreads ι sys (Timely record)).step i effect a reply b) (PlayRely i)
      (fun a => P (a.changed i)) where
  later a b known interfered := by
    rw [interfered]
    exact known
  bare effect a reply b bare known step := by
    rw [step.2.2.2, noteChanged_bare bare]
    exact known

/-- A call from its first effect on. -/
theorem safe_addPlayHistory (one : OneRecord sys db userId songId songWhere record)
    (history : PlayHistory) (user : history.userId = userId)
    (song : sys.collate history.songId = sys.collate songId)
    {s : CountState ι} (fresh : s.changed i = 0) :
    (playProtocol ι sys db userId songId record).SafeAt (playThreads ι sys (Timely record)) i
      history (PlayHistoryDAO.addPlayHistory history) s := by
  subst user
  have undisturbed : Undisturbed (fun effect (a : CountState ι) reply b => Grown db record a ∧
      (playThreads ι sys (Timely record)).step i effect a reply b) (PlayRely i)
      (fun a => a.changed i = 0) := undisturbed_changed (· = 0)
  have free (effect : Effect) (a : CountState ι) (bare : effect.Bare) :
      Grown db record a → PlayPre sys history.userId songId record effect a := by
    intro _
    cases effect with
    | connector conn c =>
      cases c with
      | execute s => exact bare.elim
      | _ => exact bare
    | _ => exact bare
  have settled (result : Except Exn Bool) : Undisturbed (fun effect (a : CountState ι) reply b =>
      Grown db record a ∧ (playThreads ι sys (Timely record)).step i effect a reply b) (PlayRely i)
      (PlayPost i result) :=
    undisturbed_changed fun changed => changed = if result matches .ok true then 1 else 0
  refine (safe_method (PlayPost i) undisturbed free settled fresh (fun _ _ none => none)
    fun conn b now => ?_).mono fun result b ended => ?_
  · have refuses (s : Statement) (a : CountState ι) (exn : Exn) (b : CountState ι)
        (now : a.changed i = 0)
        (step : Grown db record a ∧ (playThreads ι sys (Timely record)).step i
          (.connector conn (.execute s)) a (.error exn) b) : PlayPost i (.error exn) b := by
      have same := step.2.2.2
      rw [noteChanged_error] at same
      change b.changed i = 0
      rw [same]
      exact now
    iterate 3 refine safe_plain undisturbed free rfl now (fun _ _ none => none) fun _ b now => ?_
    refine safe_statement undisturbed now (fun a _ _ => .inl ⟨_, rfl, song⟩)
      (refuses _) fun a reply b now step => ?_
    -- What the SELECT returns first is the record, with the count of the moment.
    obtain ⟨grown, timely, ⟨env, performed⟩, changed⟩ := step
    obtain ⟨songCount, rest, rfl⟩ : ∃ songCount rest, reply = (record.id, songCount) :: rest := by
      rcases step_statement performed with
        ⟨⟨exn, equal⟩, -⟩ | ⟨ctx, value, after, collate, equal, executed, -⟩
      · cases equal
      · obtain ⟨songCount, now, -⟩ := grown
        cases equal
        exact ⟨songCount, one.selects collate now song executed timely⟩
    replace now : b.changed i = 0 := by
      rw [changed]
      exact now
    iterate 6 refine safe_plain undisturbed free rfl now (fun _ _ none => none) fun _ b now => ?_
    refine safe_statement undisturbed now (fun a _ _ => .inr ⟨_, rfl⟩) (refuses _)
      fun a n b now step => ?_
    -- The UPDATE answers how often the thread has changed the record.
    obtain ⟨grown, -, ⟨env, performed⟩, changed⟩ := step
    have affects : n ≤ 1 := by
      rcases step_statement performed with
        ⟨⟨exn, equal⟩, -⟩ | ⟨ctx, value, after, -, equal, executed, -⟩
      · cases equal
      · cases equal
        exact grown.affects one executed
    have own : b.changed i = n := by
      rw [changed]
      exact (Function.update_self ..).trans (by rw [now, Nat.zero_add])
    change b.changed i = _
    rw [own]
    rcases Nat.le_one_iff_eq_zero_or_eq_one.mp affects with rfl | rfl <;> rfl
  · rcases ended with outcome | ⟨rfl, outcome⟩
    · exact outcome
    · exact outcome

end Steps

theorem playProtocol_sound {sys : System} {db : Db} {userId : Int32} {songId songWhere : String}
    {record : PlayHistoryRow} (one : OneRecord sys db userId songId songWhere record) :
    (playProtocol ι sys db userId songId record).Sound (playThreads ι sys (Timely record)) where
  refl i a := rfl
  trans i a b c first second := second.trans first
  starts i job a b _ _ starts := starts.elim
  acts i effect a reply b grown owes step := by
    refine ⟨playStep_grown one grown owes step, fun j other => ?_⟩
    change b.changed j = a.changed j
    rw [step.2.2]
    exact noteChanged_other other
  post_stable i job result a b holds interfered := by
    change b.changed i = _
    rw [show b.changed i = a.changed i from interfered]
    exact holds
  idle_stable i a b _ _ := trivial
  finishes i job result a _ := trivial

section Run

variable {sys : System} {w : World} {userId : Int32} {songId songWhere : String}
  {record : PlayHistoryRow}
  {histories : ι → PlayHistory}
  {c : Config ι Effect Effect.Reply Exn (fun _ : PlayHistory => Bool) (CountState ι)}

theorem playInit_holds (one : OneRecord sys w.db userId songId songWhere record)
    (same : ∀ i, (histories i).userId = userId ∧
      SameSong sys (histories i).songId (histories i).songWhere songId songWhere) :
    (playProtocol ι sys w.db userId songId record).Holds (playThreads ι sys (Timely record))
      (playInit w histories) := by
  refine ⟨⟨record.songCount, one.withCount_self.symm, by simp [playInit]⟩, fun i => ?_⟩
  exact ⟨_, rfl, safe_addPlayHistory one (histories i) (same i).1 (same i).2.1 rfl⟩

/-- If every UPDATE finds the count that its call has read (or already the one it writes), then
in the end the record of the song has grown by the number of calls that returned true, and it is
still the only one. -/
theorem plays_counted (one : OneRecord sys w.db userId songId songWhere record)
    (same : ∀ i, (histories i).userId = userId ∧
      SameSong sys (histories i).songId (histories i).songWhere songId songWhere)
    (reach : (playThreads ι sys (Timely record)).Reachable (playInit w histories) c)
    (done : ∀ i, (c.threads i).Idle) :
    ∃ songCount : Int32,
      c.shared.world.db.recordsOf sys userId songId songWhere = [{ record with songCount }] ∧
        songCount.toInt = record.songCount.toInt +
          (Finset.univ.filter fun i => returnedTrue (c.threads i) = true).card := by
  have sound := playProtocol_sound (ι := ι) one
  have holds := (playInit_holds one same).reachable sound reach
  obtain ⟨songCount, history, sum⟩ := holds.inv
  refine ⟨songCount, one.recordsOf songCount history, ?_⟩
  -- A call that has ended returned true exactly when it changed the record.
  have own (i : ι) : c.shared.changed i = if returnedTrue (c.threads i) = true then 1 else 0 := by
    obtain ⟨history, result, thread, post⟩ := holds.ended sound (reach.started rfl) (done i)
    rw [thread]
    cases result with
    | ok value => cases value <;> exact post
    | error exn => exact post
  rw [sum, Finset.natCast_card_filter]
  simp only [own, Nat.cast_ite, Nat.cast_one, Nat.cast_zero]

end Run

end Calls

/-! ### Runs on one record -/

section Runs

open Reference

instance (record : PlayHistoryRow) (effect : Effect) (w : World) (reply : effect.Reply) :
    Decidable (Timely record effect w reply) := by
  unfold Timely
  split
  -- A pair of numbers also has an instance that looks at all pairs.
  · exact Option.decidableForallMem _
  · infer_instance
  · infer_instance

/-- One effect of a call in a given environment. -/
def playExec {ι : Type} [DecidableEq ι] (sys : System) (i : ι) (choice : Env × Nat)
    (effect : Effect) (a : CountState ι) : effect.Reply × CountState ι :=
  let (reply, world) := exec sys choice.1 choice.2 effect a.world
  (reply, { world, changed := noteChanged i a.changed effect reply })

theorem playStep_playExec {ι : Type} [DecidableEq ι] {sys : System}
    {permits : (effect : Effect) → World → effect.Reply → Prop} {i : ι} {choice : Env × Nat}
    {effect : Effect} {a : CountState ι}
    (permitted : permits effect a.world (playExec sys i choice effect a).1) :
    (playThreads ι sys permits).step i effect a (playExec sys i choice effect a).1
      (playExec sys i choice effect a).2 :=
  ⟨permitted, ⟨choice.1, choice.2, rfl⟩, rfl⟩

def playedRecord : PlayHistoryRow := ⟨1, 1, "1", "Song", "Singer", none, .qq, 0, 0⟩

/-- A server with one user, who has one song in the history. -/
def replayer : World where
  db :=
    { users := { rows := [⟨1, "bob", "x", "a@b.c", none, none, 0, 0⟩], autoInc := 2 }
      playHistory := { rows := [playedRecord], autoInc := 2 } }

def replay : PlayHistory :=
  { userId := 1, songId := "1", songName := "Song", songSinger := "Singer", songWhere := "QQ" }

theorem replayer_oneRecord : OneRecord system replayer.db 1 "1" "QQ" playedRecord :=
  ⟨List.nodup_singleton _, by decide +kernel⟩

/-- Each thread has a connection of its own. -/
def ownConnection (i : Conn) : Env × Nat := ({ env 0 with connection := fun _ => some i }, 0)

/-- One call after the other. -/
def inTurn : Config (Fin 2) Effect Effect.Reply Exn (fun _ : PlayHistory => Bool)
    (CountState (Fin 2)) :=
  (playInit replayer fun _ => replay).runSchedule (playExec system)
    (List.replicate 15 (0, ownConnection 0) ++ List.replicate 15 (1, ownConnection 1))

theorem inTurn_reachable : (playThreads (Fin 2) system (Timely playedRecord)).Reachable
    (playInit replayer fun _ => replay) inTurn := by
  refine Concurrent.Reachable.init.runsWithin
    (fun _ effect a reply => decide (Timely playedRecord effect a.world reply)) _
    (by decide +kernel) ?_
  exact fun i choice _ effect a allowed => playStep_playExec (of_decide_eq_true allowed)

theorem inTurn_returned : ∀ i, (inTurn.threads i).returned?.isSome := by decide +kernel

theorem plays_counted_inTurn : ∃ songCount : Int32,
    inTurn.shared.world.db.recordsOf system 1 "1" "QQ" = [{ playedRecord with songCount }] ∧
      songCount.toInt = playedRecord.songCount.toInt +
        (Finset.univ.filter fun i => returnedTrue (inTurn.threads i) = true).card :=
  plays_counted replayer_oneRecord (fun _ => ⟨rfl, rfl, rfl⟩) inTurn_reachable fun i =>
    Thread.idle_of_returned (inTurn_returned i)

/-- The first call reads the count, two others run, and then it writes. -/
def overlap : Config (Fin 3) Effect Effect.Reply Exn (fun _ : PlayHistory => Bool)
    (CountState (Fin 3)) :=
  (playInit replayer fun _ => replay).runSchedule (playExec system)
    (List.replicate 7 (0, ownConnection 0) ++ List.replicate 15 (1, ownConnection 1) ++
      List.replicate 15 (2, ownConnection 2) ++ List.replicate 8 (0, ownConnection 0))

theorem overlap_reachable : (playThreads (Fin 3) system fun _ _ _ => True).Reachable
    (playInit replayer fun _ => replay) overlap :=
  Concurrent.Reachable.init.runSchedule _ fun _ _ _ _ _ => playStep_playExec trivial

/-- All three calls have returned true. -/
theorem overlap_ended : (∀ i, (overlap.threads i).returned?.isSome) ∧
    (Finset.univ.filter fun i => returnedTrue (overlap.threads i) = true).card = 3 ∧
    overlap.shared.world.db.recordsOf system 1 "1" "QQ" =
      [{ playedRecord with songCount := 1 }] := by
  decide +kernel

/-- Three calls return true and the count has grown by one. -/
theorem overlap_uncounted :
    ¬∀ (ι : Type) [DecidableEq ι] [Fintype ι] (sys : System) (w : World) (userId : Int32)
      (songId songWhere : String) (record : PlayHistoryRow) (histories : ι → PlayHistory)
      (c : Config ι Effect Effect.Reply Exn (fun _ : PlayHistory => Bool) (CountState ι)),
      OneRecord sys w.db userId songId songWhere record →
      (∀ i, (histories i).userId = userId ∧
        SameSong sys (histories i).songId (histories i).songWhere songId songWhere) →
      (playThreads ι sys fun _ _ _ => True).Reachable (playInit w histories) c →
      (∀ i, (c.threads i).Idle) →
      ∃ songCount : Int32,
        c.shared.world.db.recordsOf sys userId songId songWhere = [{ record with songCount }] ∧
          songCount.toInt = record.songCount.toInt +
            (Finset.univ.filter fun i => returnedTrue (c.threads i) = true).card := by
  intro counted
  obtain ⟨returned, answers, records⟩ := overlap_ended
  obtain ⟨songCount, only, grown⟩ := counted (Fin 3) system replayer 1 "1" "QQ" playedRecord
    (fun _ => replay) overlap replayer_oneRecord (fun _ => ⟨rfl, rfl, rfl⟩) overlap_reachable
    fun i => Thread.idle_of_returned (returned i)
  rw [answers] at grown
  rw [records, List.cons.injEq, PlayHistoryRow.mk.injEq] at only
  obtain rfl : 1 = songCount := by tauto
  exact absurd grown (by decide)

end Runs

end MusicPlayer
