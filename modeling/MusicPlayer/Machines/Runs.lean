import Mathlib.Data.List.Basic

/-!
# Runs of a partial step function

A run takes one action after the other. It is undefined from the first action on that is not
enabled. `Along` says that every action of a run is good in the state in which it is taken.

Good actions keep an invariant, and after a bad one there is a way to break a law. Then the actions
of a run are all good just when the law holds however the run is broken off and ended.
-/
namespace Machines

variable {σ α : Type}

def run (step : σ → α → Option σ) : σ → List α → Option σ
  | s, [] => some s
  | s, a :: as => (step s a).bind fun t => run step t as

def Along (step : σ → α → Option σ) (good : σ → α → Prop) : σ → List α → Prop
  | _, [] => True
  | s, a :: as => ∀ t, step s a = some t → good s a ∧ Along step good t as

instance Along.decidable (step : σ → α → Option σ) (good : σ → α → Prop)
    [∀ s a, Decidable (good s a)] : ∀ s as, Decidable (Along step good s as)
  | _, [] => .isTrue trivial
  | s, a :: as =>
    match stepped : step s a with
    | none => .isTrue fun t equal => by
        rw [stepped] at equal
        cases equal
    | some t =>
      have := Along.decidable step good t as
      decidable_of_iff (good s a ∧ Along step good t as) (by simp [Along, stepped])

variable {step : σ → α → Option σ} {good : σ → α → Prop} {inv law : σ → Prop} {s t : σ}

theorem run_cons {a : α} {as : List α} :
    run step s (a :: as) = some t ↔ ∃ u, step s a = some u ∧ run step u as = some t :=
  Option.bind_eq_some_iff

theorem run_append {as bs : List α} : run step s (as ++ bs) = some t ↔
    ∃ u, run step s as = some u ∧ run step u bs = some t := by
  induction as generalizing s with
  | nil => simp [run]
  | cons a as ih =>
    simp only [List.cons_append, run_cons, ih]
    constructor
    · rintro ⟨u, stepped, v, first, second⟩
      exact ⟨v, ⟨u, stepped, first⟩, second⟩
    · rintro ⟨v, ⟨u, stepped, first⟩, second⟩
      exact ⟨u, stepped, v, first, second⟩

theorem Along.front {as bs : List α} (along : Along step good s (as ++ bs)) :
    Along step good s as := by
  induction as generalizing s with
  | nil => trivial
  | cons a as ih =>
    intro t stepped
    obtain ⟨here, later⟩ := along t stepped
    exact ⟨here, ih later⟩

/-- What good actions keep holds at the end of a run of good actions. -/
theorem Along.kept (kept : ∀ s a t, inv s → good s a → step s a = some t → inv t)
    {as : List α} (along : Along step good s as) (start : inv s) (ran : run step s as = some t) :
    inv t := by
  induction as generalizing s with
  | nil =>
    cases ran
    exact start
  | cons a as ih =>
    obtain ⟨u, stepped, rest⟩ := run_cons.mp ran
    obtain ⟨here, later⟩ := along u stepped
    exact ih later (kept s a u start here stepped) rest

theorem along_of_forall {as : List α} (all : ∀ s, ∀ a ∈ as, good s a) : Along step good s as := by
  induction as generalizing s with
  | nil => trivial
  | cons a as ih =>
    intro t _
    exact ⟨all s a List.mem_cons_self, ih fun s b member => all s b (List.mem_cons_of_mem a member)⟩

/-- By allowed actions alone. -/
def Reaches (step : σ → α → Option σ) (allowed : α → Prop) (s t : σ) : Prop :=
  ∃ as, (∀ a ∈ as, allowed a) ∧ run step s as = some t

section Reaches

variable {allowed : α → Prop} {u : σ}

theorem Reaches.refl : Reaches step allowed s s := ⟨[], by simp, rfl⟩

theorem Reaches.one (a : α) (permitted : allowed a) (stepped : step s a = some t) :
    Reaches step allowed s t :=
  ⟨[a], by simpa using permitted, run_cons.mpr ⟨t, stepped, rfl⟩⟩

theorem Reaches.trans (first : Reaches step allowed s t) (second : Reaches step allowed t u) :
    Reaches step allowed s u := by
  obtain ⟨as, permitted, ran⟩ := first
  obtain ⟨bs, permitted', ran'⟩ := second
  refine ⟨as ++ bs, fun a member => ?_, run_append.mpr ⟨t, ran, ran'⟩⟩
  rcases List.mem_append.mp member with member | member
  · exact permitted a member
  · exact permitted' a member

end Reaches

/-- A law that an ending of the run exposes after every bad action, and after no good ones. -/
theorem lawful_iff_along {ends : List α → Prop}
    (kept : ∀ s a t, inv s → good s a → step s a = some t → inv t)
    (lawful : ∀ s es t, inv s → ends es → run step s es = some t → law t)
    (exposed : ∀ s a t, inv s → ¬good s a → step s a = some t →
      ∃ es u, ends es ∧ run step t es = some u ∧ ¬law u)
    (start : inv s) {as : List α} :
    (∀ done es t, done <+: as → ends es → run step s (done ++ es) = some t → law t) ↔
      Along step good s as := by
  constructor
  · intro all
    induction as generalizing s with
    | nil => trivial
    | cons a as ih =>
      intro t stepped
      have here : good s a := by
        by_contra bad
        obtain ⟨es, u, ending, ran, broken⟩ := exposed s a t start bad stepped
        have ran : run step s ([a] ++ es) = some u := run_cons.mpr ⟨t, stepped, ran⟩
        exact broken (all [a] es u (by simp) ending ran)
      refine ⟨here, ih (kept s a t start here stepped) fun done es u front ending ran => ?_⟩
      refine all (a :: done) es u (by simpa using front) ending ?_
      exact run_cons.mpr ⟨t, stepped, ran⟩
  · rintro along done es t ⟨rest, rfl⟩ ending ran
    obtain ⟨u, before, after⟩ := run_append.mp ran
    exact lawful u es t (along.front.kept kept start before) ending after

end Machines
