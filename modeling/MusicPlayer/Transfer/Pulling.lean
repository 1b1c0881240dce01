import Mathlib.Data.List.Basic

/-!
# Pulling a content in chunks

A source answers a request with a chunk, or faults. A receiver that asks until it gets an empty
chunk may choose every request by what it has got so far.

A source that always hands out the front of what it still has, and something as long as it has
anything, transfers its content to every such receiver.
-/
namespace Transfer

variable {σ ρ α : Type}

/-- The chunks for a sequence of requests, and the source afterwards. -/
def pulls (source : σ → ρ → Option (List α × σ)) : σ → List ρ → Option (List (List α) × σ)
  | s, [] => some ([], s)
  | s, request :: requests => do
    let (chunk, s) ← source s request
    let (chunks, s) ← pulls source s requests
    return (chunk :: chunks, s)

/-- The receiver asks at most `fuel` times, and has `got` these chunks before. -/
def transfer [DecidableEq α] (source : σ → ρ → Option (List α × σ)) (ask : List (List α) → ρ) :
    Nat → σ → List (List α) → Option (List (List α))
  | 0, _, _ => none
  | fuel + 1, s, got => do
    let (chunk, s) ← source s (ask got)
    if chunk = [] then return got
    transfer source ask fuel s (got ++ [chunk])

/-- What the source owes for one request: a chunk from the front of the rest, not longer than the
room for it, and empty only when there is nothing left. -/
structure Answered (rest : σ → List α) (room : ρ → Nat) (s : σ) (request : ρ) (chunk : List α)
    (t : σ) : Prop where
  front : chunk ++ rest t = rest s
  fits : chunk.length ≤ room request
  last : chunk = [] ↔ rest s = []

/-- Under the invariant the source answers every request as it should. -/
def HandsOut (source : σ → ρ → Option (List α × σ)) (inv : σ → Prop) (rest : σ → List α)
    (room : ρ → Nat) : Prop :=
  ∀ s request, inv s → ∃ chunk t, source s request = some (chunk, t) ∧ inv t ∧
    Answered rest room s request chunk t

variable {source : σ → ρ → Option (List α × σ)} {inv : σ → Prop} {rest : σ → List α}
  {room : ρ → Nat}

/-- Any sequence of requests is answered with pieces of the content, in order. -/
theorem HandsOut.pulls (hands : HandsOut source inv rest room) {s : σ} (start : inv s)
    (requests : List ρ) : ∃ chunks t, pulls source s requests = some (chunks, t) ∧ inv t ∧
      chunks.flatten ++ rest t = rest s ∧
      List.Forall₂ (fun chunk request => chunk.length ≤ room request) chunks requests := by
  induction requests generalizing s with
  | nil => exact ⟨[], s, rfl, start, by simp, .nil⟩
  | cons request requests ih =>
    obtain ⟨chunk, t, answer, kept, answered⟩ := hands s request start
    obtain ⟨chunks, u, pulled, kept, fronts, fit⟩ := ih kept
    refine ⟨chunk :: chunks, u, ?_, kept, ?_, .cons answered.fits fit⟩
    · simp [Transfer.pulls, answer, pulled]
    · simp [fronts, answered.front]

/-- Every chunk but the last makes the rest shorter, so the receiver comes to an end. -/
theorem HandsOut.transfer [DecidableEq α] (hands : HandsOut source inv rest room)
    (ask : List (List α) → ρ) {fuel : Nat} {s : σ} (start : inv s) (got : List (List α))
    (enough : (rest s).length < fuel) :
    ∃ received, transfer source ask fuel s got = some received ∧
      received.flatten = got.flatten ++ rest s := by
  induction fuel generalizing s got with
  | zero => omega
  | succ fuel ih =>
    obtain ⟨chunk, t, answer, kept, answered⟩ := hands s (ask got) start
    by_cases done : chunk = []
    · have nothing : rest s = [] := answered.last.mp done
      exact ⟨got, by simp [Transfer.transfer, answer, done], by simp [nothing]⟩
    · have filled : 0 < chunk.length := List.length_pos_iff.mpr done
      have shorter : (rest s).length = chunk.length + (rest t).length := by
        rw [← answered.front, List.length_append]
      obtain ⟨received, ended, all⟩ := ih kept (got ++ [chunk]) (by omega)
      refine ⟨received, by simp [Transfer.transfer, answer, done, ended], ?_⟩
      simp [all, answered.front]

end Transfer
