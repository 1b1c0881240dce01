import Mathlib.Data.List.TakeWhile

/-!
# Loading a record from a document

A record is loaded member by member, each one read from a document and assigned at once. The
load ends with an error at the first member that the document does not give. What was assigned
before that stays assigned.
-/
namespace Loading

/-- A member of a record: what was assigned to it is what it has. -/
structure Member (σ β : Type) where
  get : σ → β
  set : σ → β → σ
  get_set : ∀ s b, get (set s b) = b

namespace Member

variable {σ τ β γ : Type}

/-- A member of a member. -/
def within (outer : Member σ τ) (inner : Member τ β) : Member σ β where
  get s := inner.get (outer.get s)
  set s b := outer.set s (inner.set (outer.get s) b)
  get_set s b := by rw [outer.get_set, inner.get_set]

/-- Neither of two members is touched by an assignment to the other. -/
def Independent (m : Member σ β) (n : Member σ γ) : Prop :=
  (∀ s c, m.get (n.set s c) = m.get s) ∧ ∀ s b, n.get (m.set s b) = n.get s

theorem Independent.within {m : Member τ β} {n : Member τ γ} (apart : m.Independent n)
    (outer : Member σ τ) : (outer.within m).Independent (outer.within n) := by
  constructor
  · intro s c
    simp [Member.within, outer.get_set, apart.1]
  · intro s b
    simp [Member.within, outer.get_set, apart.2]

/-- Members of independent members are independent. -/
theorem Independent.inner {υ : Type} {m : Member σ τ} {n : Member σ υ}
    (apart : m.Independent n) (p : Member τ β) (q : Member υ γ) :
    (m.within p).Independent (n.within q) := by
  constructor
  · intro s c
    simp [Member.within, apart.1]
  · intro s b
    simp [Member.within, apart.2]

end Member

/-- A member that the document has to give, and the error where it does not. -/
structure Requirement (ρ ε σ : Type) where
  {β : Type}
  error : ε
  read : ρ → Option β
  member : Member σ β

namespace Requirement

variable {ρ π ε σ τ : Type}

def require (r : Requirement ρ ε σ) (document : ρ) : EStateM ε σ Unit :=
  match r.read document with
  | some b => modify fun s => r.member.set s b
  | none => throw r.error

def requireAll (document : ρ) : List (Requirement ρ ε σ) → EStateM ε σ Unit
  | [] => pure ()
  | r :: rs => do
    r.require document
    requireAll document rs

/-- The same requirement on a record that has the record as a member. -/
def within (outer : Member σ τ) (r : Requirement ρ ε τ) : Requirement ρ ε σ :=
  { r with member := outer.within r.member }

/-- The same requirement on a document that may have the document as a part. -/
def inside (part : π → Option ρ) (r : Requirement ρ ε σ) : Requirement π ε σ :=
  { r with read := fun document => (part document).bind r.read }

def found (document : ρ) (r : Requirement ρ ε σ) : Bool := (r.read document).isSome

/-- The member is what the document gives for it. -/
def Holds (document : ρ) (r : Requirement ρ ε σ) (s : σ) : Prop :=
  r.read document = some (r.member.get s)

/-- The record after the assignments up to the first member that is missing. -/
def assign (document : ρ) : List (Requirement ρ ε σ) → σ → σ
  | [], s => s
  | r :: rs, s =>
    match r.read document with
    | some b => assign document rs (r.member.set s b)
    | none => s

section Run

variable {document : ρ} {r : Requirement ρ ε σ} {rs qs : List (Requirement ρ ε σ)} {s : σ}

/-- The load leaves what the assignments give, and its error is that of the first missing
member. -/
theorem run_requireAll (rs : List (Requirement ρ ε σ)) (s : σ) :
    (requireAll document rs).run s =
      match rs.find? (!found document ·) with
      | none => .ok () (assign document rs s)
      | some r => .error r.error (assign document rs s) := by
  induction rs generalizing s with
  | nil => rfl
  | cons r rs ih =>
    cases given : r.read document with
    | none => simp [requireAll, require, found, assign, given]
    | some b =>
      have rest := ih (r.member.set s b)
      simp [requireAll, require, found, assign, given, rest]

theorem assign_append_of_found (all : rs.all (found document)) (s : σ) :
    assign document (rs ++ qs) s = assign document qs (assign document rs s) := by
  induction rs generalizing s with
  | nil => rfl
  | cons r rs ih =>
    simp only [List.all_cons, Bool.and_eq_true] at all
    obtain ⟨b, given⟩ := Option.isSome_iff_exists.mp all.1
    simp [assign, given, ih all.2]

theorem assign_append_of_missing (missing : ¬rs.all (found document)) (s : σ) :
    assign document (rs ++ qs) s = assign document rs s := by
  induction rs generalizing s with
  | nil => simp at missing
  | cons r rs ih =>
    cases given : r.read document with
    | none => simp [assign, given]
    | some b =>
      have rest : ¬rs.all (found document) := by simpa [found, given] using missing
      simp [assign, given, ih rest]

/-- A part that is missing gives none of the members. -/
theorem assign_inside_none {part : ρ → Option π} (none : part document = none)
    (qs : List (Requirement π ε σ)) (s : σ) :
    assign document (qs.map (inside part)) s = s := by
  cases qs <;> simp [assign, inside, none]

theorem assign_inside_some {part : ρ → Option π} {inner : π} (some : part document = some inner)
    (qs : List (Requirement π ε σ)) (s : σ) :
    assign document (qs.map (inside part)) s = assign inner qs s := by
  induction qs generalizing s with
  | nil => rfl
  | cons q qs ih => cases given : q.read inner <;> simp [assign, inside, some, given, ← ih]

theorem found_inside {part : ρ → Option π} {inner : π} (some : part document = some inner)
    (q : Requirement π ε σ) : (q.inside part).found document = q.found inner := by
  simp [found, inside, some]

end Run

/-! ## What a load leaves -/

def Independent (r q : Requirement ρ ε σ) : Prop := r.member.Independent q.member

section Loaded

variable {document : ρ} {rs : List (Requirement ρ ε σ)}

/-- The members in front of the first missing one are what the document gives, and the others
are as they were. -/
structure Loaded (document : ρ) (rs : List (Requirement ρ ε σ)) (s t : σ) : Prop where
  front : ∀ r ∈ rs.takeWhile (found document), r.Holds document t
  back : ∀ r ∈ rs.dropWhile (found document), r.member.get t = r.member.get s

/-- A member that is independent of all that are assigned stays. -/
theorem get_assign {β : Type} {m : Member σ β} (apart : ∀ r ∈ rs, m.Independent r.member)
    (s : σ) : m.get (assign document rs s) = m.get s := by
  induction rs generalizing s with
  | nil => rfl
  | cons r rs ih =>
    have rest := ih fun q member => apart q (List.mem_cons_of_mem r member)
    cases given : r.read document with
    | none => simp [assign, given]
    | some b => simp [assign, given, rest, (apart r List.mem_cons_self).1]

theorem loaded_assign (apart : rs.Pairwise Independent) (s : σ) :
    Loaded document rs s (assign document rs s) := by
  induction rs generalizing s with
  | nil => constructor <;> simp
  | cons r rs ih =>
    have ⟨first, others⟩ := List.pairwise_cons.mp apart
    cases given : r.read document with
    | none => constructor <;> simp [assign, found, given]
    | some b =>
      have rest := ih others (r.member.set s b)
      have here : found document r := by simp [found, given]
      simp only [assign, given]
      constructor
      · rw [List.takeWhile_cons_of_pos here]
        intro q member
        rcases List.mem_cons.mp member with rfl | member
        -- what comes after the first member does not touch it
        · simp [Holds, given, get_assign first, q.member.get_set]
        · exact rest.front q member
      · rw [List.dropWhile_cons_of_pos here]
        intro q member
        have later := (List.dropWhile_sublist _).subset member
        rw [rest.back q member, (first q later).2]

/-- A load that finds everything leaves what the document gives. -/
theorem Loaded.holds {s t : σ} (loaded : Loaded document rs s t) (all : rs.all (found document))
    {r : Requirement ρ ε σ} (member : r ∈ rs) : r.Holds document t := by
  apply loaded.front
  rwa [List.takeWhile_eq_self_iff.mpr (by simpa using all)]

end Loaded

end Requirement

end Loading
