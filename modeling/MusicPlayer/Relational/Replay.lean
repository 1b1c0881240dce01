import Mathlib.Data.List.Basic
import Mathlib.Logic.Function.Basic

/-!
# Replaying changes of a partial map

A value that is offered for a key is kept if the key has none. Keys that are dropped lose their
value. What a journal of such changes comes to can be read off the journal: a key has a value if
the latest change that touches it is an offer, and the value is the one that found the key free.
-/
namespace Relational

inductive Change (κ ν : Type) where
  | keep
  | offer (k : κ) (v : ν)
  | drop (gone : κ → Bool)

namespace Change

variable {κ ν : Type}

def Offers (k : κ) : Change κ ν → Prop
  | offer other _ => other = k
  | _ => False

def Drops (k : κ) : Change κ ν → Prop
  | drop gone => gone k = true
  | _ => False

def apply [DecidableEq κ] : Change κ ν → (κ → Option ν) → κ → Option ν
  | keep, held => held
  | offer k v, held => if (held k).isSome then held else Function.update held k (some v)
  | drop gone, held => fun k => if gone k then none else held k

theorem offers_iff {change : Change κ ν} {k : κ} : change.Offers k ↔ ∃ v, change = offer k v := by
  cases change with
  | offer other v => simp [Offers]
  | _ => simp [Offers]

section Apply

variable [DecidableEq κ] {change : Change κ ν} {held : κ → Option ν} {k : κ} {v : ν}

theorem apply_of_untouched (kept : ¬change.Offers k) (undropped : ¬change.Drops k) :
    change.apply held k = held k := by
  cases change with
  | keep => rfl
  | offer other v =>
    simp only [apply]
    split
    · rfl
    · exact Function.update_of_ne (Ne.symm kept) ..
  | drop gone => exact if_neg undropped

theorem apply_of_drops (drops : change.Drops k) : change.apply held k = none := by
  cases change with
  | drop gone => exact if_pos drops
  | _ => exact drops.elim

theorem apply_of_held (present : held k = some v) (undropped : ¬change.Drops k) :
    change.apply held k = some v := by
  cases change with
  | keep => exact present
  | offer other w =>
    simp only [apply]
    split
    · exact present
    next absent =>
      have different : k ≠ other := by
        rintro rfl
        exact absent (by simp [present])
      rw [Function.update_of_ne different, present]
  | drop gone => exact (if_neg undropped).trans present

/-- Only an offer gives a free key a value. -/
theorem eq_offer_of_free (free : held k = none) (applied : change.apply held k = some v) :
    change = offer k v := by
  -- Of the three changes only an offer of this key makes it present.
  cases change with
  | keep =>
    rw [apply, free] at applied
    cases applied
  | offer other w =>
    by_cases same : other = k
    · subst same
      simp only [apply, free, Option.isSome_none, Bool.false_eq_true, if_false,
        Function.update_self, Option.some.injEq] at applied
      rw [applied]
    · have kept : (offer other w).apply held k = held k := apply_of_untouched same not_false
      rw [kept, free] at applied
      cases applied
  | drop gone =>
    simp only [apply, free, ite_self] at applied
    cases applied

theorem apply_isSome_of_offers (offers : change.Offers k) : (change.apply held k).isSome := by
  cases change with
  | offer other w =>
    obtain rfl : other = k := offers
    simp only [apply]
    split
    · assumption
    · simp
  | _ => exact offers.elim

end Apply

end Change

/-! ### Since -/

section Since

variable {ε : Type}

/-- In a journal with the newest first, an event with the journal before it meets `holds`, and all
events after it are `quiet`. -/
def Since (quiet : ε → Prop) (holds : ε → List ε → Prop) (journal : List ε) : Prop :=
  ∃ newer event older, journal = newer ++ event :: older ∧ holds event older ∧
    ∀ later ∈ newer, quiet later

variable {quiet : ε → Prop} {holds : ε → List ε → Prop}

theorem not_since_nil : ¬Since quiet holds [] := by
  rintro ⟨newer, event, older, split, -⟩
  simp at split

/-- The newest event is the one, or it is quiet and the one is before it. -/
theorem since_cons {event : ε} {earlier : List ε} : Since quiet holds (event :: earlier) ↔
    holds event earlier ∨ quiet event ∧ Since quiet holds earlier := by
  constructor
  · rintro ⟨newer, other, older, split, held, silent⟩
    cases newer with
    | nil =>
      obtain ⟨rfl, rfl⟩ := List.cons.inj split
      exact .inl held
    | cons first newer =>
      obtain ⟨rfl, rfl⟩ := List.cons.inj split
      exact .inr ⟨silent event List.mem_cons_self, newer, other, older, rfl, held,
        fun later member => silent later (List.mem_cons_of_mem _ member)⟩
  · rintro (held | ⟨calm, newer, other, older, rfl, held, silent⟩)
    · exact ⟨[], event, earlier, rfl, held, by simp⟩
    · exact ⟨event :: newer, other, older, rfl, held, by simpa [calm] using silent⟩

end Since

/-! ### Replay -/

section Replay

variable {ε κ ν : Type} [DecidableEq κ] {change : ε → Change κ ν} {k : κ} {v : ν}

/-- The map after a journal of changes that has the newest first. -/
def replay (change : ε → Change κ ν) : List ε → κ → Option ν
  | [] => fun _ => none
  | event :: earlier => (change event).apply (replay change earlier)

/-- A key has a value if the latest change that touches it is an offer. -/
theorem replay_isSome_iff {journal : List ε} : (replay change journal k).isSome ↔
    Since (fun event => ¬(change event).Offers k ∧ ¬(change event).Drops k)
      (fun event _ => (change event).Offers k) journal := by
  induction journal with
  | nil => exact iff_of_false (by simp [replay]) not_since_nil
  | cons event earlier ih =>
    rw [since_cons, replay]
    -- The newest event decides if it touches the key.
    by_cases offers : (change event).Offers k
    · exact iff_of_true (Change.apply_isSome_of_offers offers) (.inl offers)
    · by_cases drops : (change event).Drops k
      · rw [Change.apply_of_drops drops]
        simp [offers, drops]
      · rw [Change.apply_of_untouched offers drops, ih]
        simp [offers, drops]

/-- The value of a key comes from an offer that found the key free, and was not dropped since. -/
theorem since_offer_of_replay {journal : List ε} (held : replay change journal k = some v) :
    Since (fun event => ¬(change event).Drops k)
      (fun event older => change event = .offer k v ∧ replay change older k = none) journal := by
  induction journal with
  | nil => cases held
  | cons event earlier ih =>
    rw [replay] at held
    have undropped : ¬(change event).Drops k := by
      intro drops
      rw [Change.apply_of_drops drops] at held
      cases held
    rw [since_cons]
    -- A value that was there before is kept, and otherwise this event has offered it.
    cases before : replay change earlier k with
    | some w =>
      rw [Change.apply_of_held before undropped] at held
      exact .inr ⟨undropped, ih (before.trans held)⟩
    | none =>
      exact .inl ⟨Change.eq_offer_of_free before held, rfl⟩

end Replay

end Relational
