import Mathlib.Data.Option.Basic

/-!
# Journals and the views that caches keep of them

A journal is the list of all writes, newest first. A cache answers from a view that holds
at most the newest write of a key. It may forget a write once that is `expired`, and must
never answer with an older one.
-/
namespace Relational

variable {κ ω ν : Type} [DecidableEq κ]

/-- The newest write of a key. -/
def latest (keyOf : ω → κ) (journal : List ω) (key : κ) : Option ω :=
  journal.find? fun write => keyOf write = key

theorem latest_cons (keyOf : ω → κ) (write : ω) (journal : List ω) (key : κ) :
    latest keyOf (write :: journal) key =
      if keyOf write = key then some write else latest keyOf journal key := by
  unfold latest
  by_cases same : keyOf write = key
  · rw [if_pos same, List.find?_cons_of_pos (by simpa using same)]
  · rw [if_neg same, List.find?_cons_of_neg (by simpa using same)]

theorem keyOf_of_latest {keyOf : ω → κ} {journal : List ω} {key : κ} {write : ω}
    (newest : latest keyOf journal key = some write) : keyOf write = key := by
  simpa using List.find?_some newest

/-- The view holds the newest write of every key, except those it forgot after they had
expired. -/
def Reflects (keyOf : ω → κ) (value : ω → ν) (expired : ν → Prop) (view : κ → Option ν)
    (journal : List ω) : Prop :=
  ∀ key, view key = (latest keyOf journal key).map value ∨
    view key = none ∧ ∀ write, latest keyOf journal key = some write → expired (value write)

namespace Reflects

variable {keyOf : ω → κ} {value : ω → ν} {expired : ν → Prop} {view : κ → Option ν}
  {journal : List ω}

theorem empty : Reflects keyOf value expired (fun _ => none) [] := fun _ => .inl rfl

/-- Writing through the cache. -/
theorem write (reflects : Reflects keyOf value expired view journal) (new : ω)
    {after : κ → Option ν}
    (stored : ∀ key, after key = if key = keyOf new then some (value new) else view key) :
    Reflects keyOf value expired after (new :: journal) := by
  intro key
  rw [stored, latest_cons]
  by_cases same : key = keyOf new
  · subst same
    left
    simp
  · rw [if_neg same, if_neg fun equal => same equal.symm]
    exact reflects key

/-- Forgetting what has expired. -/
theorem evict (reflects : Reflects keyOf value expired view journal) {keep : ν → Bool}
    {after : κ → Option ν} (filtered : ∀ key, after key = (view key).filter keep)
    (dropped : ∀ v, keep v = false → expired v) :
    Reflects keyOf value expired after journal := by
  intro key
  rw [filtered]
  rcases reflects key with current | ⟨forgotten, gone⟩
  · rw [current]
    -- A write that is still visible stays so, or is dropped because it has expired.
    cases newest : latest keyOf journal key with
    | none => exact .inl rfl
    | some write =>
      cases kept : keep (value write) with
      | true => left; simp [Option.filter, kept]
      | false =>
        right
        refine ⟨by simp [Option.filter, kept], ?_⟩
        rintro other equal
        cases equal
        exact dropped _ kept
  · right
    rw [forgotten]
    exact ⟨rfl, gone⟩

/-- Whatever the view holds is the newest write. -/
theorem latest_of_view (reflects : Reflects keyOf value expired view journal) {key : κ} {v : ν}
    (held : view key = some v) :
    ∃ write, latest keyOf journal key = some write ∧ value write = v := by
  rcases reflects key with current | ⟨forgotten, -⟩
  · rw [held] at current
    exact Option.map_eq_some_iff.mp current.symm
  · rw [held] at forgotten
    cases forgotten

/-- The newest write is in the view until it expires. -/
theorem view_of_latest (reflects : Reflects keyOf value expired view journal) {key : κ}
    {write : ω} (newest : latest keyOf journal key = some write)
    (alive : ¬expired (value write)) : view key = some (value write) := by
  rcases reflects key with current | ⟨-, gone⟩
  · rw [current, newest]
    rfl
  · exact absurd (gone write newest) alive

end Reflects

end Relational
