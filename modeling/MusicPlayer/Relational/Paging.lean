import MusicPlayer.Relational.Table

/-!
# Paging through an ordered query

A query with `ORDER BY measure DESC` may answer with its rows in any order that is sorted by the
measure. Where every page comes from a query of its own, the pages are sorted one after the other.
They partition the rows, whatever the answers are, if and only if no page border falls among rows
with one measure.
-/
namespace Relational

variable {ρ : Type} {measure : ρ → Int} {rows answer other : List ρ}

/-- What the query may answer. -/
structure OrderedBy (measure : ρ → Int) (rows answer : List ρ) : Prop where
  perm : answer.Perm rows
  sorted : answer.Pairwise fun a b => measure b ≤ measure a

def page (n k : Nat) (answer : List ρ) : List ρ := (answer.drop (k * n)).take n

/-- The first pages, each of an answer of its own. -/
def pages (n : Nat) (answers : Nat → List ρ) (count : Nat) : List ρ :=
  (List.range count).flatMap fun k => page n k (answers k)

/-- Rows with one measure lie on both sides of the border. -/
def SplitAt (measure : ρ → Int) (rows : List ρ) (border : Nat) : Prop :=
  ∃ row ∈ rows, rows.countP (fun other => measure row < measure other) < border ∧
    border < rows.countP fun other => measure row ≤ measure other

theorem pages_succ (n : Nat) (answers : Nat → List ρ) (count : Nat) :
    pages n answers (count + 1) = pages n answers count ++ page n count (answers count) := by
  simp [pages, List.range_succ]

theorem take_page (n k : Nat) (answer : List ρ) :
    answer.take (k * n) ++ page n k answer = answer.take ((k + 1) * n) := by
  rw [page, ← List.take_add, Nat.succ_mul]

/-! ### Answers of one query -/

/-- A sorted list is cut where a threshold is. -/
theorem filter_eq_take_countP {p : ρ → Bool} {l : List ρ}
    (sorted : l.Pairwise fun a b => p b = true → p a = true) :
    l.filter p = l.take (l.countP p) := by
  induction l with
  | nil => rfl
  | cons first rest ih =>
    obtain ⟨before, sorted⟩ := List.pairwise_cons.mp sorted
    by_cases here : p first = true
    · rw [List.filter_cons_of_pos here, List.countP_cons_of_pos here, List.take_succ_cons,
        ih sorted]
    · have none : ∀ row ∈ rest, ¬p row = true := fun row member above =>
        here (before row member above)
      rw [List.filter_cons_of_neg here, List.countP_cons_of_neg here,
        List.filter_eq_nil_iff.mpr none, List.countP_eq_zero.mpr none, List.take_zero]

namespace OrderedBy

theorem filter_eq_take (ordered : OrderedBy measure rows answer) (v : Int) :
    answer.filter (fun row => v < measure row) =
      answer.take (rows.countP fun row => v < measure row) := by
  rw [← ordered.perm.countP_eq]
  refine filter_eq_take_countP (ordered.sorted.imp fun least above => ?_)
  simp only [decide_eq_true_eq] at above ⊢
  omega

/-- All answers have the same measures. -/
theorem map_measure (first : OrderedBy measure rows answer)
    (second : OrderedBy measure rows other) : answer.map measure = other.map measure := by
  refine List.Perm.eq_of_pairwise (fun a b _ _ below above => le_antisymm above below)
    (List.pairwise_map.mpr first.sorted) (List.pairwise_map.mpr second.sorted) ?_
  exact (first.perm.trans second.perm.symm).map measure

/-- Away from ties an answer has the same rows before the border as any other. -/
theorem take_perm (first : OrderedBy measure rows answer) (second : OrderedBy measure rows other)
    {border : Nat} (whole : ¬SplitAt measure rows border) :
    (answer.take border).Perm (other.take border) := by
  by_cases inside : border < answer.length
  -- The rows above the measure at the border are those before it.
  · set v := measure answer[border] with atBorder
    have member : answer[border] ∈ rows := first.perm.mem_iff.mp (List.getElem_mem inside)
    have split : answer = answer.take border ++ answer[border] :: answer.drop (border + 1) := by
      rw [List.getElem_cons_drop, List.take_append_drop]
    have sorted := first.sorted
    rw [split, List.pairwise_append, List.pairwise_cons] at sorted
    obtain ⟨-, ⟨after, -⟩, before⟩ := sorted
    have above : rows.countP (fun row => v < measure row) ≤ border := by
      rw [← first.perm.countP_eq, split, List.countP_append]
      have none : (answer[border] :: answer.drop (border + 1)).countP
          (fun row => v < measure row) = 0 := by
        refine List.countP_eq_zero.mpr fun row later => ?_
        rw [decide_eq_true_eq, not_lt]
        rcases List.mem_cons.mp later with rfl | later
        · exact le_refl _
        · exact after row later
      have few : (answer.take border).countP (fun row => v < measure row) ≤
          (answer.take border).length := List.countP_le_length
      rw [List.length_take] at few
      omega
    have upTo : border < rows.countP fun row => v ≤ measure row := by
      rw [← first.perm.countP_eq, split, List.countP_append, List.countP_cons_of_pos
        (by rw [decide_eq_true_eq])]
      have all : (answer.take border).countP (fun row => v ≤ measure row) =
          (answer.take border).length := by
        refine List.countP_eq_length.mpr fun row earlier => ?_
        rw [decide_eq_true_eq]
        exact before row earlier _ List.mem_cons_self
      rw [all, List.length_take]
      omega
    have count : rows.countP (fun row => v < measure row) = border := by
      by_contra fewer
      exact whole ⟨_, member, lt_of_le_of_ne above fewer, upTo⟩
    have here := first.filter_eq_take v
    have there := second.filter_eq_take v
    rw [count] at here there
    rw [← here, ← there]
    exact (first.perm.trans second.perm.symm).filter _
  -- No row is behind the border.
  · have same := (first.perm.trans second.perm.symm).length_eq
    rw [List.take_of_length_le (by omega), List.take_of_length_le (by omega)]
    exact first.perm.trans second.perm.symm

end OrderedBy

/-! ### Pages of several answers -/

section Pages

variable {n : Nat} {answers : Nat → List ρ}

/-- Whatever the answers are, the pages are sorted. -/
theorem map_pages (ordered : ∀ k, OrderedBy measure rows (answers k)) (count : Nat) :
    (pages n answers count).map measure = ((answers 0).take (count * n)).map measure := by
  induction count with
  | zero => simp [pages]
  | succ count ih =>
    have same := (ordered count).map_measure (ordered 0)
    rw [pages_succ, List.map_append, ih, ← take_page, List.map_append]
    simp only [page, List.map_take, List.map_drop, same]

theorem pairwise_pages (ordered : ∀ k, OrderedBy measure rows (answers k)) (count : Nat) :
    (pages n answers count).Pairwise fun a b => measure b ≤ measure a := by
  have sorted : ((answers 0).map measure).Pairwise fun a b => b ≤ a :=
    List.pairwise_map.mpr (ordered 0).sorted
  have first := sorted.sublist (List.take_sublist (count * n) _)
  rw [← List.map_take, ← map_pages ordered, List.pairwise_map] at first
  exact first

/-- Without ties at the borders the pages are what one answer has up to there. -/
theorem pages_perm (ordered : ∀ k, OrderedBy measure rows (answers k))
    (whole : ∀ k, ¬SplitAt measure rows (k * n)) (count : Nat) (j : Nat) :
    (pages n answers count).Perm ((answers j).take (count * n)) := by
  induction count generalizing j with
  | zero => simp [pages]
  | succ count ih =>
    rw [pages_succ]
    apply ((ih count).append_right _).trans
    rw [take_page]
    exact (ordered count).take_perm (ordered j) (whole (count + 1))

/-- Two neighbours with one measure may come in either order. -/
theorem OrderedBy.swap {before after : List ρ} {x y : ρ}
    (ordered : OrderedBy measure rows (before ++ x :: y :: after))
    (tie : measure x = measure y) : OrderedBy measure rows (before ++ y :: x :: after) := by
  have swapped : (before ++ y :: x :: after).Perm (before ++ x :: y :: after) :=
    (List.Perm.swap x y after).append_left before
  refine ⟨swapped.trans ordered.perm, ?_⟩
  have sorted : ((before ++ x :: y :: after).map measure).Pairwise fun a b => b ≤ a :=
    List.pairwise_map.mpr ordered.sorted
  have same : (before ++ y :: x :: after).map measure =
      (before ++ x :: y :: after).map measure := by
    simp [tie]
  rw [← same] at sorted
  exact List.pairwise_map.mp sorted

/-- The rows of one measure stand together, behind those above it. -/
theorem OrderedBy.measure_getElem (ordered : OrderedBy measure rows answer) {v : Int} {i : Nat}
    (inside : i < answer.length) (above : rows.countP (fun row => v < measure row) ≤ i)
    (upTo : i < rows.countP fun row => v ≤ measure row) : measure answer[i] = v := by
  rw [← ordered.perm.countP_eq] at above upTo
  have reached : v ≤ measure answer[i] := by
    have cut : answer.filter (fun row => v ≤ measure row) =
        answer.take (answer.countP fun row => v ≤ measure row) :=
      filter_eq_take_countP (ordered.sorted.imp fun least higher => by
        simp only [decide_eq_true_eq] at higher ⊢
        omega)
    have member : answer[i] ∈ answer.take (answer.countP fun row => v ≤ measure row) :=
      List.mem_take_iff_getElem.mpr ⟨i, by omega, rfl⟩
    rw [← cut, List.mem_filter] at member
    exact of_decide_eq_true member.2
  refine le_antisymm (not_lt.mp fun higher => ?_) reached
  -- Otherwise the row and all before it are above.
  have split : answer = answer.take i ++ answer[i] :: answer.drop (i + 1) := by
    rw [List.getElem_cons_drop, List.take_append_drop]
  have sorted := ordered.sorted
  rw [split, List.pairwise_append] at sorted
  have all : (answer.take i).countP (fun row => v < measure row) = (answer.take i).length := by
    refine List.countP_eq_length.mpr fun row earlier => ?_
    have least := sorted.2.2 row earlier _ List.mem_cons_self
    rw [decide_eq_true_eq]
    omega
  rw [split, List.countP_append, List.countP_cons_of_pos (by simpa using higher), all,
    List.length_take] at above
  omega

/-- Around a border that splits a tie every answer has two rows of the tie. -/
theorem OrderedBy.exists_tie (ordered : OrderedBy measure rows answer) {border : Nat}
    (split : SplitAt measure rows border) : ∃ before x y after,
      answer = before ++ x :: y :: after ∧ before.length + 1 = border ∧
        measure x = measure y := by
  obtain ⟨row, member, above, upTo⟩ := split
  have few : rows.countP (fun other => measure row ≤ measure other) ≤ rows.length :=
    List.countP_le_length
  rw [← ordered.perm.length_eq] at few
  obtain ⟨last, rfl⟩ : ∃ last, border = last + 1 := ⟨border - 1, by omega⟩
  refine ⟨answer.take last, answer[last], answer[last + 1], answer.drop (last + 2), ?_, ?_, ?_⟩
  · rw [List.getElem_cons_drop, List.getElem_cons_drop, List.take_append_drop]
  · rw [List.length_take]
    omega
  · rw [ordered.measure_getElem _ (Nat.le_of_lt_succ above) (by omega),
      ordered.measure_getElem _ (by omega) upTo]

/-- With a tie at a border there are answers whose pages repeat a row. -/
theorem exists_repeated (positive : 0 < n) (some : OrderedBy measure rows answer) {k : Nat}
    (split : SplitAt measure rows (k * n)) : ∃ answers : Nat → List ρ,
      (∀ k, OrderedBy measure rows (answers k)) ∧
        ∀ count, rows.length ≤ count * n → ¬(pages n answers count).Nodup := by
  obtain ⟨before, x, y, after, rfl, border, tie⟩ := some.exists_tie split
  have swapped := some.swap tie
  obtain ⟨last, rfl⟩ : ∃ last, k = last + 1 := Nat.exists_eq_succ_of_ne_zero (by
    rintro rfl
    omega)
  have next : (last + 1) * n = last * n + n := Nat.succ_mul last n
  -- From this border on the other row of the tie comes first.
  refine ⟨fun i => if i ≤ last then before ++ x :: y :: after else before ++ y :: x :: after,
    fun i => ?_, fun count all distinct => ?_⟩
  · dsimp only
    split
    · exact some
    · exact swapped
  · have inside : last + 1 < count := by
      have length := some.perm.length_eq
      simp only [List.length_append, List.length_cons] at length
      exact Nat.lt_of_mul_lt_mul_right (lt_of_lt_of_le (by omega) all)
    have here : x ∈ page n last (before ++ x :: y :: after) := by
      refine List.mem_take_iff_getElem.mpr ⟨n - 1, ?_, ?_⟩
      · simp only [List.length_drop, List.length_append, List.length_cons]
        omega
      · rw [List.getElem_drop, List.getElem_append_right (by omega)]
        simp only [show last * n + (n - 1) - before.length = 0 by omega, List.getElem_cons_zero]
    have again : x ∈ page n (last + 1) (before ++ y :: x :: after) := by
      have rest : (before ++ y :: x :: after).drop ((last + 1) * n) = x :: after := by
        rw [← border, List.drop_append, List.drop_of_length_le (Nat.le_succ _)]
        simp
      rw [page, rest, ← Nat.succ_pred_eq_of_pos positive, List.take_succ_cons]
      exact List.mem_cons_self
    have disjoint := List.pairwise_iff_getElem.mp (List.nodup_flatMap.mp distinct).2 last (last + 1)
      (by simpa using Nat.lt_of_succ_lt inside) (by simpa using inside) (Nat.lt_succ_self last)
    simp only [List.getElem_range, Function.onFun, le_refl, if_true,
      if_neg (Nat.not_succ_le_self last)] at disjoint
    exact disjoint here again

end Pages

/-! ### Every answer comes about -/

theorem orderedBy_orderByDesc (measure : ρ → Int) (rows : List ρ) :
    OrderedBy measure rows (orderByDesc measure rows) := by
  have : IsTrans ρ fun a b => measure b ≤ measure a := ⟨fun _ _ _ above below => below.trans above⟩
  have : Std.Total fun a b : ρ => measure b ≤ measure a := ⟨fun a b => le_total (measure b) _⟩
  exact ⟨orderByDesc_perm measure rows, List.pairwise_insertionSort _ rows⟩

theorem orderedBy_scan (measure : ρ → Int) (rank : ρ → Nat) (rows : List ρ) :
    OrderedBy measure rows (orderByDesc measure (scan rank rows)) := by
  obtain ⟨perm, sorted⟩ := orderedBy_orderByDesc measure (scan rank rows)
  exact ⟨perm.trans (scan_perm rank rows), sorted⟩

/-- With ranks for the rows the query can be made to answer in any sorted order. -/
theorem exists_rank {κ : Type} [DecidableEq κ] {key : ρ → κ} (unique : (rows.map key).Nodup)
    (ordered : OrderedBy measure rows answer) :
    ∃ rank : κ → Nat, orderByDesc measure (scan (fun row => rank (key row)) rows) = answer := by
  have distinct : (answer.map key).Nodup := (ordered.perm.map key).nodup_iff.mpr unique
  let rank (k : κ) : Nat := (answer.map key).idxOf k
  have at_index (i : Nat) (inside : i < answer.length) : rank (key answer[i]) = i := by
    have index := distinct.idxOf_getElem i (by simpa using inside)
    rwa [List.getElem_map] at index
  refine ⟨rank, ?_⟩
  have : IsTrans ρ fun a b => rank (key a) ≤ rank (key b) := ⟨fun _ _ _ => le_trans⟩
  have : Std.Total fun a b : ρ => rank (key a) ≤ rank (key b) := ⟨fun a b => le_total _ _⟩
  -- By their ranks the rows stand in the order of the answer, and no rank is given twice.
  have scanned : scan (fun row => rank (key row)) rows = answer := by
    refine List.Perm.eq_of_pairwise ?_ (List.pairwise_insertionSort _ rows) ?_
      ((scan_perm _ rows).trans ordered.perm.symm)
    · intro a b scanned there below above
      have same : rank (key a) = rank (key b) := le_antisymm below above
      have here : a ∈ answer := ordered.perm.mem_iff.mpr ((scan_perm _ rows).mem_iff.mp scanned)
      obtain ⟨i, insideI, rfl⟩ := List.mem_iff_getElem.mp here
      obtain ⟨j, insideJ, rfl⟩ := List.mem_iff_getElem.mp there
      rw [at_index, at_index] at same
      subst same
      rfl
    · refine List.pairwise_iff_getElem.mpr fun i j insideI insideJ earlier => ?_
      dsimp only
      rw [at_index, at_index]
      exact earlier.le
  rw [scanned]
  exact ordered.sorted.insertionSort_eq

end Relational
