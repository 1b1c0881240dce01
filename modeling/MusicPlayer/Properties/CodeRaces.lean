import MusicPlayer.Resumption.Schedule
import MusicPlayer.Properties.CodeStore
import MusicPlayer.Properties.Discipline
import MusicPlayer.Reference

/-!
# The verification store under threads

Calls of `VerifyService` that run at the same time, one thread each. `verifyCode` keeps a pointer
to the entry it has found and reads it after the lock is released. `sendVerifyCode` delivers the
mail before it takes the lock, so codes may be stored in another order than mails are delivered.
-/
namespace MusicPlayer

open Resumption Program VerifyService

/-- The world, with a record of what the calls have done. Nothing they do depends on it. -/
structure CodeState (ι : Type) where
  world : World
  /-- The thread that is in the check of a found entry. -/
  checking : Option ι := none
  /-- The entry that a verification has found and not read yet. -/
  found : ι → Option CodePtr := fun _ => none
  /-- The map when a verification read its entry, or found none. -/
  seen : ι → CodeStore := fun _ => {}
  /-- The time of that check. -/
  clock : ι → Time := fun _ => 0
  /-- The mails that were delivered and the entries that were stored, newest first. -/
  mailed : List Mail := []
  kept : List VerifyInfo := []
  /-- The mail of a call that has not stored its code yet. -/
  unstored : ι → Option Mail := fun _ => none

section Threads

variable {ι : Type} [DecidableEq ι]

/-- The record after an effect of a thread. -/
def CodeState.note (a : CodeState ι) (i : ι) :
    (effect : Effect) → effect.Reply → World → CodeState ι
  | .findCode _, found, world =>
    { a with
      world
      found := Function.update a.found i found
      seen := Function.update a.seen i a.world.codes }
  | .now .verifyCode, now, world =>
    { a with world, checking := some i, clock := Function.update a.clock i now }
  | .derefCode _, _, world =>
    { a with
      world
      checking := none
      found := Function.update a.found i none
      seen := Function.update a.seen i a.world.codes }
  | .curlPerform mail, delivered, world =>
    if delivered then
      { a with
        world
        mailed := mail :: a.mailed
        unstored := Function.update a.unstored i (some mail) }
    else { a with world }
  | .storeCode email _ _ _, _, world =>
    { a with
      world
      kept := (world.codes.info? email).toList ++ a.kept
      unstored := Function.update a.unstored i none }
  | _, _, world => { a with world }

/-- Each thread makes one call. The check of an entry, which is a clock reading and a read, is
one step: no other thread moves within it. `permits` says which effects are considered. -/
def codeThreads (ι : Type) [DecidableEq ι] (sys : System)
    (permits : Effect → CodeState ι → Prop) :
    Concurrent ι Effect Effect.Reply Exn Call (fun _ => Option Bool) (CodeState ι) where
  program := Call.program sys
  starts _ _ _ _ := False
  step i effect a reply b := (a.checking = none ∨ a.checking = some i) ∧ permits effect a ∧
    ∃ env world, Step sys env effect a.world reply world ∧ b = a.note i effect reply world

def codeInit (sys : System) (w : World) (calls : ι → Call) :
    Config ι Effect Effect.Reply Exn (fun _ : Call => Option Bool) (CodeState ι) where
  shared := { world := w }
  threads i := some ⟨calls i, (calls i).program sys⟩

/-- One effect of a call in a given environment. -/
def codeExec (sys : System) (i : ι) (choice : Env × Nat) (effect : Effect) (a : CodeState ι) :
    effect.Reply × CodeState ι :=
  let (reply, world) := exec sys choice.1 choice.2 effect a.world
  (reply, a.note i effect reply world)

/-! ### Reading a found entry -/

/-- A cleanup erases no entry that a verification has found and not read yet. -/
def Unread : Effect → CodeState ι → Prop
  | .cleanupCodes now, a => ∀ i ptr info, a.found i = some ptr →
      a.world.codes.deref ptr = some info → ¬info.expireTime < now
  | _, _ => True

/-- What the calls do to the rest of the world. -/
def CodeEffect : Effect → Prop
  | .uniformDigit _ | .curlInit | .curlPerform _ | .findCode _ | .now _ | .derefCode _
  | .storeCode .. | .cleanupCodes _ => True
  | _ => False

/-- Every pointer that is still to be read leads to an entry. -/
def EntriesHeld (a : CodeState ι) : Prop :=
  ∀ i ptr, a.found i = some ptr → (a.world.codes.deref ptr).isSome

/-- The others leave a thread its record, and the map while it checks. -/
structure CodeRely (i : ι) (a b : CodeState ι) : Prop where
  found : b.found i = a.found i
  seen : b.seen i = a.seen i
  clock : b.clock i = a.clock i
  check : a.checking = some i → b.checking = some i ∧ b.world.codes = a.world.codes

omit [DecidableEq ι] in
theorem CodeRely.refl (i : ι) (a : CodeState ι) : CodeRely i a a :=
  ⟨rfl, rfl, rfl, fun checking => ⟨checking, rfl⟩⟩

omit [DecidableEq ι] in
theorem CodeRely.trans {i : ι} {a b c : CodeState ι} (first : CodeRely i a b)
    (second : CodeRely i b c) : CodeRely i a c where
  found := second.found.trans first.found
  seen := second.seen.trans first.seen
  clock := second.clock.trans first.clock
  check checking := by
    obtain ⟨still, same⟩ := first.check checking
    obtain ⟨last, same'⟩ := second.check still
    exact ⟨last, same'.trans same⟩

/-- The answer of the whole of `verifyCode`, run at once on the map that the call has seen. -/
def atomicAnswer (email action code : String) (a : CodeState ι) (i : ι) : Bool :=
  judge ((a.seen i).info? email) (a.clock i) action code

/-- What a call has done when it has ended. -/
def CodePost (i : ι) (call : Call) (result : Except Exn (Option Bool)) (a : CodeState ι) : Prop :=
  a.found i = none ∧ match call with
    | .verifyCode email action code => result = .ok (some (atomicAnswer email action code a i))
    | _ => True

/-- The threads, where a read entry must be one that was found. -/
def lookupProtocol (ι : Type) [DecidableEq ι] :
    Protocol ι Effect Exn Call (fun _ => Option Bool) (CodeState ι) where
  inv := EntriesHeld
  rely := CodeRely
  pre i effect a := CodeEffect effect ∧ ∀ ptr, effect = .derefCode ptr → a.found i = some ptr
  post := CodePost
  idle _ _ := True

section Store

variable {codes : CodeStore}

theorem CodeStore.lookup_assign_ne {email other : String} (differs : other ≠ email)
    (info : VerifyInfo) :
    (codes.assign email info).entries.lookup other = codes.entries.lookup other := by
  unfold CodeStore.assign
  split <;> exact AList.lookup_insert_ne differs

/-- An assignment to an entry leaves it where it is. -/
theorem CodeStore.deref_assign {ptr : CodePtr} (held : (codes.deref ptr).isSome) (email : String)
    (info : VerifyInfo) : ((codes.assign email info).deref ptr).isSome := by
  by_cases same : ptr.email = email
  · subst same
    unfold CodeStore.deref at held ⊢
    unfold CodeStore.assign
    cases stored : codes.entries.lookup ptr.email with
    | none => simp [stored] at held
    | some entry =>
      simp only [stored] at held ⊢
      simp only [AList.lookup_insert]
      split at held
      next node => simp [node]
      · cases held
  · unfold CodeStore.deref at held ⊢
    rw [CodeStore.lookup_assign_ne same]
    exact held

/-- A cleanup leaves an entry that has not expired. -/
theorem CodeStore.deref_cleanup {ptr : CodePtr} {now : Time} (held : (codes.deref ptr).isSome)
    (alive : ∀ info, codes.deref ptr = some info → ¬info.expireTime < now) :
    ((codes.cleanup now).2.deref ptr).isSome := by
  obtain ⟨info, read⟩ := Option.isSome_iff_exists.mp held
  have unexpired := alive info read
  unfold CodeStore.deref at read ⊢
  cases stored : codes.entries.lookup ptr.email with
  | none =>
    rw [stored] at read
    cases read
  | some entry =>
    rw [stored] at read
    simp only at read
    split at read
    next node =>
      obtain rfl := Option.some.inj read
      have kept : (codes.cleanup now).2.entries.lookup ptr.email = some entry := by
        have looked :=
          CodeStore.lookup_cleanupLoop now ptr.email codes.entries.entries 0 codes.entries
        -- The loop erases by key, and the only entry of the key has not expired.
        have unvisited : codes.entries.entries.any
            (fun it => it.1 == ptr.email && decide (it.2.info.expireTime < now)) = false := by
          rw [List.any_eq_false]
          rintro ⟨key, value⟩ visited
          by_cases here : key = ptr.email
          · subst here
            have same : value = entry :=
              Option.some.inj ((AList.mem_lookup_iff.mpr visited).symm.trans stored)
            simp [same, unexpired]
          · simp [here]
        rw [unvisited, stored] at looked
        exact looked
      simp [kept, node]
    · cases read

theorem CodeStore.email_of_find {email : String} {ptr : CodePtr}
    (found : codes.find email = some ptr) : ptr.email = email := by
  obtain ⟨entry, -, rfl⟩ := Option.map_eq_some_iff.mp found
  rfl

/-- What is read through a pointer is what the map holds for the address. -/
theorem CodeStore.info?_of_deref {ptr : CodePtr} {info : VerifyInfo}
    (read : codes.deref ptr = some info) : codes.info? ptr.email = some info := by
  unfold CodeStore.deref at read
  unfold CodeStore.info?
  split at read
  next entry stored =>
    split at read
    · rw [stored]
      exact read
    · cases read
  · cases read

end Store

section Lookups

variable {sys : System} {i : ι} {a b : CodeState ι}

/-- An effect that neither stores a code nor cleans up leaves the map as it is. -/
theorem exec_codes (sys : System) (env : Env) (count : Nat) {effect : Effect}
    (call : CodeEffect effect) (stores : ∀ email code expiry action,
      effect ≠ .storeCode email code expiry action) (cleans : ∀ now, effect ≠ .cleanupCodes now)
    (w : World) : (exec sys env count effect w).2.codes = w.codes := by
  cases effect with
  | storeCode email code expiry action => exact absurd rfl (stores email code expiry action)
  | cleanupCodes now => exact absurd rfl (cleans now)
  | uniformDigit | curlInit | curlPerform | findCode | now | derefCode => rfl
  | _ => exact call.elim

/-- What an effect records is recorded under its thread. -/
theorem CodeState.note_other {effect : Effect} {reply : effect.Reply} {world : World} {j : ι}
    (other : j ≠ i) : (a.note i effect reply world).found j = a.found j ∧
      (a.note i effect reply world).seen j = a.seen j ∧
      (a.note i effect reply world).clock j = a.clock j ∧
      (a.note i effect reply world).unstored j = a.unstored j := by
  unfold CodeState.note
  split
  · exact ⟨Function.update_of_ne other .., Function.update_of_ne other .., rfl, rfl⟩
  · exact ⟨rfl, rfl, Function.update_of_ne other .., rfl⟩
  · exact ⟨Function.update_of_ne other .., Function.update_of_ne other .., rfl, rfl⟩
  · split
    · exact ⟨rfl, rfl, rfl, Function.update_of_ne other ..⟩
    · exact ⟨rfl, rfl, rfl, rfl⟩
  · exact ⟨rfl, rfl, rfl, Function.update_of_ne other ..⟩
  · exact ⟨rfl, rfl, rfl, rfl⟩

/-- Nobody moves while another thread checks. -/
theorem codeRely_of_step {effect : Effect} {reply : effect.Reply}
    {permits : Effect → CodeState ι → Prop}
    (step : (codeThreads ι sys permits).step i effect a reply b) {j : ι} (other : j ≠ i) :
    CodeRely j a b := by
  obtain ⟨turn, -, env, world, -, rfl⟩ := step
  have kept : (a.note i effect reply world).found j = a.found j ∧ _ := CodeState.note_other other
  obtain ⟨found, seen, clock, -⟩ := kept
  refine ⟨found, seen, clock, fun checking => ?_⟩
  rcases turn with none | own
  · rw [checking] at none
    cases none
  · rw [checking] at own
    exact absurd (Option.some.inj own) other

theorem EntriesHeld.step (held : EntriesHeld a) {effect : Effect} {reply : effect.Reply}
    (call : CodeEffect effect) (step : (codeThreads ι sys Unread).step i effect a reply b) :
    EntriesHeld b := by
  obtain ⟨-, unread, env, world, ⟨count, performed⟩, rfl⟩ := step
  have codes (stores : ∀ email code expiry action, effect ≠ .storeCode email code expiry action)
      (cleans : ∀ now, effect ≠ .cleanupCodes now) : world.codes = a.world.codes := by
    have same := exec_codes sys env count call stores cleans a.world
    rw [performed] at same
    exact same
  intro j ptr found
  cases effect with
  | findCode email =>
    change (world.codes.deref ptr).isSome
    rw [codes (by simp) (by simp)]
    by_cases own : j = i
    · subst own
      -- The entry has been found in this very map.
      have recorded : (a.note j (.findCode email) reply world).found j = reply :=
        Function.update_self ..
      obtain rfl : reply = some ptr := recorded.symm.trans found
      have looked : a.world.codes.find email = some ptr := (Prod.mk.inj performed).1
      rw [CodeStore.deref_of_find looked]
      by_contra none
      rw [Option.not_isSome_iff_eq_none, ← CodeStore.find_eq_none, looked] at none
      cases none
    · exact held j ptr ((Function.update_of_ne own ..).symm.trans found)
  | derefCode read =>
    change (world.codes.deref ptr).isSome
    rw [codes (by simp) (by simp)]
    by_cases own : j = i
    · subst own
      cases (Function.update_self ..).symm.trans found
    · exact held j ptr ((Function.update_of_ne own ..).symm.trans found)
  | storeCode email code expiry action =>
    obtain ⟨-, rfl⟩ := Prod.mk.inj performed
    exact CodeStore.deref_assign (held j ptr found) email _
  | cleanupCodes now =>
    obtain ⟨-, rfl⟩ := Prod.mk.inj performed
    exact CodeStore.deref_cleanup (held j ptr found) fun info => unread j ptr info found
  | curlPerform mail =>
    have same : (a.note i (.curlPerform mail) reply world).found = a.found ∧
        (a.note i (.curlPerform mail) reply world).world = world := by
      cases reply <;> exact ⟨rfl, rfl⟩
    rw [same.1] at found
    rw [same.2, codes (by simp) (by simp)]
    exact held j ptr found
  | now site =>
    have same : (a.note i (.now site) reply world).found = a.found ∧
        (a.note i (.now site) reply world).world = world := by
      cases site <;> exact ⟨rfl, rfl⟩
    rw [same.1] at found
    rw [same.2, codes (by simp) (by simp)]
    exact held j ptr found
  | uniformDigit | curlInit =>
    change (world.codes.deref ptr).isSome
    rw [codes (by simp) (by simp)]
    exact held j ptr found
  | _ => exact call.elim

/-- A verification that reads an entry finds it where it was. -/
theorem safe_verification {email action code : String} {s : CodeState ι} :
    (lookupProtocol ι).SafeAt (codeThreads ι sys Unread) i (.verifyCode email action code)
      (Call.program sys (.verifyCode email action code)) s := by
  intro a interfered
  refine ⟨fun _ => ⟨trivial, by simp⟩, ?_⟩
  rintro found b ⟨-, -, -, env, world, ⟨count, performed⟩, rfl⟩
  obtain ⟨rfl, rfl⟩ := Prod.mk.inj performed
  cases lookup : a.world.codes.find email with
  | none =>
    refine ⟨Function.update_self .., ?_⟩
    have seen : (a.note i (.findCode email) none a.world).seen i = a.world.codes :=
      Function.update_self ..
    simp only [atomicAnswer, seen, CodeStore.find_eq_none.mp lookup]
    rfl
  | some ptr =>
    intro c interfered
    have found : c.found i = some ptr := interfered.found.trans (Function.update_self ..)
    refine ⟨fun _ => ⟨trivial, by simp⟩, ?_⟩
    rintro now d ⟨-, -, -, env, world, ⟨count, performed⟩, rfl⟩
    obtain ⟨-, rfl⟩ := Prod.mk.inj performed
    intro e interfered
    replace found : e.found i = some ptr := interfered.found.trans found
    have clock : e.clock i = now := interfered.clock.trans (Function.update_self ..)
    refine ⟨fun _ => ⟨trivial, ?_⟩, ?_⟩
    · rintro other equal
      cases equal
      exact found
    rintro read f ⟨held, -, -, env, world, ⟨count, performed⟩, rfl⟩
    obtain ⟨rfl, rfl⟩ := Prod.mk.inj performed
    -- The entry is still there: the invariant says so of every pointer to be read.
    obtain ⟨info, stored⟩ := Option.isSome_iff_exists.mp (held i ptr found)
    rw [stored]
    refine ⟨Function.update_self .., ?_⟩
    have seen : (e.note i (.derefCode ptr) (.ok info) e.world).seen i = e.world.codes :=
      Function.update_self ..
    have entry : e.world.codes.info? email = some info := by
      rw [← CodeStore.email_of_find lookup]
      exact CodeStore.info?_of_deref stored
    have same : (e.note i (.derefCode ptr) (.ok info) e.world).clock i = now := clock
    have answer : atomicAnswer email action code (e.note i (.derefCode ptr) (.ok info) e.world) i =
        accepts info now action code := by
      rw [atomicAnswer, seen, entry, same]
      rfl
    exact congrArg (fun value => Except.ok (some value)) answer.symm

/-- A call that looks up no entry. -/
theorem safe_withoutLookup {call : Call} {program : Prog (Option Bool)}
    (performs : program.Performs fun effect => CodeEffect effect ∧
      (∀ email, effect ≠ .findCode email) ∧ (∀ ptr, effect ≠ .derefCode ptr))
    (other : ∀ email action code, call ≠ .verifyCode email action code) {s : CodeState ι}
    (fresh : s.found i = none) :
    (lookupProtocol ι).SafeAt (codeThreads ι sys Unread) i call program s := by
  refine (Uses.safe (fun a : CodeState ι => a.found i = none) performs ?_ ?_ ?_ fresh).mono ?_
  · exact fun a b none interfered => interfered.found.trans none
  · exact fun effect a allowed _ _ => ⟨allowed.1, fun ptr equal => absurd equal (allowed.2.2 ptr)⟩
  · rintro effect a reply b ⟨call, finds, derefs⟩ none ⟨-, -, -, env, world, -, rfl⟩
    unfold CodeState.note
    split
    · exact absurd rfl (finds _)
    · exact none
    · exact absurd rfl (derefs _)
    · split <;> exact none
    · exact none
    · exact none
  · rintro result b ⟨-, none⟩
    refine ⟨none, ?_⟩
    split
    · exact absurd rfl (other _ _ _)
    · trivial

theorem safe_call_of_service (call : Call) {s : CodeState ι} (fresh : s.found i = none) :
    (lookupProtocol ι).SafeAt (codeThreads ι sys Unread) i call (call.program sys) s := by
  cases call with
  | verifyCode email action code => exact safe_verification
  | sendVerifyCode email action =>
    refine safe_withoutLookup (Performs.bind ?_ fun _ => Performs.ret _) (by simp) fresh
    refine UserHandler.sendVerifyCode_performs ?_ ?_ ?_ ?_ email action
    all_goals
      intros
      exact ⟨trivial, by simp, by simp⟩
  | cleanupExpiredCodes =>
    refine safe_withoutLookup (Performs.bind ?_ fun _ => Performs.ret _) (by simp) fresh
    refine performs_trigger_bind ⟨trivial, by simp, by simp⟩ fun now => ?_
    exact Performs.act ⟨trivial, by simp, by simp⟩ fun _ => Performs.ret _

theorem lookupProtocol_sound : (lookupProtocol ι).Sound (codeThreads ι sys Unread) where
  refl := CodeRely.refl
  trans _ _ _ _ first second := first.trans second
  starts _ _ _ _ _ _ starts := starts.elim
  acts i effect a reply b held owes step :=
    ⟨held.step owes.1 step, fun _ other => codeRely_of_step step other⟩
  post_stable i call result a b post interfered := by
    obtain ⟨none, outcome⟩ := post
    refine ⟨interfered.found.trans none, ?_⟩
    cases call with
    | verifyCode email action code =>
      simp only [atomicAnswer, interfered.seen, interfered.clock]
      exact outcome
    | _ => trivial
  idle_stable _ _ _ _ _ := trivial
  finishes _ _ _ _ _ := trivial

/-- If no cleanup erases an entry that a verification has found and not read yet, then every
verification that is about to read finds its entry in the map, and every verification that has
ended has answered what `verifyCode` answers if it is run at once, on the map at its check. -/
theorem verifications_atomic {w : World} {calls : ι → Call}
    {c : Config ι Effect Effect.Reply Exn (fun _ : Call => Option Bool) (CodeState ι)}
    (reach : (codeThreads ι sys Unread).Reachable (codeInit sys w calls) c) :
    (∀ i call ptr rest, c.threads i = some ⟨call, .act (.derefCode ptr) rest⟩ →
      (c.shared.world.codes.deref ptr).isSome) ∧
    (∀ i email action code exn,
      c.threads i ≠ some ⟨.verifyCode email action code, .raise exn⟩) ∧
    ∀ i email action code answer,
      c.threads i = some ⟨.verifyCode email action code, .ret answer⟩ →
      ∃ value, answer = some value ∧ ∀ env : Env, env.clock .verifyCode = c.shared.clock i →
        (runProg sys env (VerifyService.verifyCode email action code)
          { w with codes := c.shared.seen i }).1 = .ok value := by
  have start : (lookupProtocol ι).Holds (codeThreads ι sys Unread) (codeInit sys w calls) := by
    refine ⟨?_, fun i => ⟨_, CodeRely.refl i _, safe_call_of_service (calls i) rfl⟩⟩
    -- Before the first effect no thread has found an entry.
    intro i ptr found
    cases found
  have holds := start.reachable lookupProtocol_sound reach
  refine ⟨?_, ?_, ?_⟩
  · intro i call ptr rest runs
    exact holds.inv i ptr ((holds.pre runs).2 ptr rfl)
  · intro i email action code exn raised
    obtain ⟨-, outcome⟩ := holds.post_raise lookupProtocol_sound raised
    cases outcome
  · intro i email action code answer returned
    obtain ⟨-, outcome⟩ := holds.post lookupProtocol_sound returned
    refine ⟨_, Except.ok.inj outcome, fun env clock => ?_⟩
    -- The call run at once, at the clock reading and on the map of the thread.
    have wp : (VerifyService.verifyCode email action code).Wp (Step sys env)
        (fun result _ => result = .ok (atomicAnswer email action code c.shared i))
        { w with codes := c.shared.seen i } := by
      refine (wp_verifyCode ..).mpr ?_
      rw [clock]
      rfl
    exact runProg_of_wp wp

end Lookups

end Threads

/-! ### A cleanup next to a verification -/

section Cleanup

open Reference

theorem codeStep_codeExec {ι : Type} [DecidableEq ι] {sys : System}
    {permits : Effect → CodeState ι → Prop} {i : ι} {choice : Env × Nat} {effect : Effect}
    {a : CodeState ι} (turn : a.checking = none ∨ a.checking = some i)
    (permitted : permits effect a) :
    (codeThreads ι sys permits).step i effect a (codeExec sys i choice effect a).1
      (codeExec sys i choice effect a).2 :=
  ⟨turn, permitted, choice.1, _, ⟨choice.2, rfl⟩, rfl⟩

/-- One code, which expires at 1000. -/
def codeHeld : World where
  codes := ({} : CodeStore).assign "a@b.c" ⟨"000000", 1000, "register"⟩

def verifyAndClean : Fin 2 → Call
  | 0 => .verifyCode "a@b.c" "register" "000000"
  | 1 => .cleanupExpiredCodes

/-- Whose turn it is, as far as the check of an entry goes. -/
def inTurnOf {ι : Type} [DecidableEq ι] (i : ι) (a : CodeState ι) : Bool :=
  a.checking == none || a.checking == some i

theorem turn_of_inTurnOf {ι : Type} [DecidableEq ι] {i : ι} {a : CodeState ι}
    (turn : inTurnOf i a = true) : a.checking = none ∨ a.checking = some i := by
  simpa [inTurnOf] using turn

/-- No cleanup at this time erases what a thread has found. -/
def leavesFound {ι : Type} [Fintype ι] (effect : Effect) (a : CodeState ι) : Bool :=
  match effect with
  | .cleanupCodes now => decide (∀ i, ((a.found i).bind a.world.codes.deref).all
      fun info => !decide (info.expireTime < now))
  | _ => true

theorem unread_of_leavesFound {ι : Type} [Fintype ι] {effect : Effect} {a : CodeState ι}
    (leaves : leavesFound effect a = true) : Unread effect a := by
  cases effect with
  | cleanupCodes now =>
    intro i ptr info found read
    have kept := of_decide_eq_true leaves i
    rw [found, Option.bind_some, read] at kept
    simpa using kept
  | _ => trivial

/-- The cleanup runs at 999 between the two steps of the verification, and leaves the entry. -/
def checkedInTime : Config (Fin 2) Effect Effect.Reply Exn (fun _ : Call => Option Bool)
    (CodeState (Fin 2)) :=
  (codeInit system codeHeld verifyAndClean).runSchedule (codeExec system)
    [(0, env 999, 0), (1, env 999, 0), (1, env 999, 0), (0, env 1000, 0), (0, env 1000, 0)]

theorem checkedInTime_reachable : (codeThreads (Fin 2) system Unread).Reachable
    (codeInit system codeHeld verifyAndClean) checkedInTime := by
  refine Concurrent.Reachable.init.runsWithin
    (fun i effect a _ => inTurnOf i a && leavesFound effect a) _ (by decide +kernel) ?_
  intro i choice _ effect a allowed
  obtain ⟨turn, leaves⟩ := Bool.and_eq_true_iff.mp allowed
  exact codeStep_codeExec (turn_of_inTurnOf turn) (unread_of_leavesFound leaves)

theorem checkedInTime_returned :
    (checkedInTime.threads 0).returned?.map (fun ended => (ended.1, ended.2)) =
      some (.verifyCode "a@b.c" "register" "000000", some true) ∧
      (env 1000).clock .verifyCode = checkedInTime.shared.clock 0 := by
  decide +kernel

/-- The code is accepted, as it is by a verification at 1000. -/
theorem verifications_atomic_inTime : (runProg system (env 1000)
    (VerifyService.verifyCode "a@b.c" "register" "000000")
      { codeHeld with codes := checkedInTime.shared.seen 0 }).1 = .ok true := by
  obtain ⟨ended, clock⟩ := checkedInTime_returned
  obtain ⟨⟨call, answer⟩, returned, equal⟩ := Option.map_eq_some_iff.mp ended
  obtain ⟨rfl, rfl⟩ := Prod.mk.inj equal
  obtain ⟨value, accepted, atomic⟩ := (verifications_atomic checkedInTime_reachable).2.2 0 _ _ _ _
    (Thread.returned?_eq_some.mp returned)
  obtain rfl := Option.some.inj accepted
  exact atomic (env 1000) clock

/-- The cleanup runs at 1001, after the verification has found its entry at 1000. -/
def erasedBefore : Config (Fin 2) Effect Effect.Reply Exn (fun _ : Call => Option Bool)
    (CodeState (Fin 2)) :=
  (codeInit system codeHeld verifyAndClean).runSchedule (codeExec system)
    [(0, env 1000, 0), (1, env 1001, 0), (1, env 1001, 0), (0, env 1001, 0)]

theorem erasedBefore_reachable : (codeThreads (Fin 2) system fun _ _ => True).Reachable
    (codeInit system codeHeld verifyAndClean) erasedBefore := by
  refine Concurrent.Reachable.init.runsWithin (fun i _ a _ => inTurnOf i a) _
    (by decide +kernel) ?_
  exact fun i choice _ effect a turn => codeStep_codeExec (turn_of_inTurnOf turn) trivial

/-- The verification is about to read an entry that the map has no more. -/
theorem erasedBefore_dangling :
    ¬∀ (ι : Type) [DecidableEq ι] (sys : System) (w : World) (calls : ι → Call)
      (c : Config ι Effect Effect.Reply Exn (fun _ : Call => Option Bool) (CodeState ι)),
      (codeThreads ι sys fun _ _ => True).Reachable (codeInit sys w calls) c →
      ∀ i call ptr rest, c.threads i = some ⟨call, .act (.derefCode ptr) rest⟩ →
        (c.shared.world.codes.deref ptr).isSome := by
  intro held
  have entry := held (Fin 2) system codeHeld verifyAndClean erasedBefore erasedBefore_reachable 0
    _ ⟨"a@b.c", 0⟩ _ rfl
  have erased : (erasedBefore.shared.world.codes.deref ⟨"a@b.c", 0⟩).isSome = false := rfl
  rw [erased] at entry
  cases entry

end Cleanup

/-! ### The order of mails and codes -/

/-- The mail that carries a code. -/
def codeMail (sys : System) (email code : String) : Mail :=
  ⟨email, EmailUtil.composeMessage sys email "Verification Code"
    ("Your verification code is: " ++ code)⟩

theorem codeMail_injective (sys : System) (email : String) :
    Function.Injective (codeMail sys email) := by
  intro first second same
  have texts := (Mail.mk.inj same).2
  simpa [EmailUtil.composeMessage, String.append_assoc] using texts

section Sends

variable {ι : Type} [DecidableEq ι] {sys : System} {email : String} {w : World} {i : ι}
  {a b : CodeState ι}

/-- The map holds the entry stored last. What was stored had been delivered, and what was
delivered has been stored or is about to be. -/
structure Posted (sys : System) (email : String) (w : World) (a : CodeState ι) : Prop where
  held : a.world.codes.info? email = (a.kept.head?).or (w.codes.info? email)
  delivered : ∀ info ∈ a.kept, codeMail sys email info.code ∈ a.mailed
  stored : ∀ mail ∈ a.mailed, (∃ info ∈ a.kept, codeMail sys email info.code = mail) ∨
    ∃ i, a.unstored i = some mail

/-- Mails stay delivered, and what a thread has to store is its own business. -/
structure SendRely (i : ι) (a b : CodeState ι) : Prop where
  unstored : b.unstored i = a.unstored i
  mailed : ∀ mail ∈ a.mailed, mail ∈ b.mailed

/-- A send stores the code that it has mailed, and mails nothing before. -/
def SendPre (sys : System) (email : String) (i : ι) : Effect → CodeState ι → Prop
  | .uniformDigit _, _ | .curlInit, _ => True
  | .curlPerform _, a => a.unstored i = none
  | .storeCode address code _ _, a => address = email ∧
      a.unstored i = some (codeMail sys email code) ∧ codeMail sys email code ∈ a.mailed
  | _, _ => False

def sendProtocol (ι : Type) [DecidableEq ι] (sys : System) (email : String) (w : World) :
    Protocol ι Effect Exn Call (fun _ => Option Bool) (CodeState ι) where
  inv := Posted sys email w
  rely := SendRely
  pre := SendPre sys email
  post i _ _ a := a.unstored i = none
  idle _ _ := True

theorem sendRely_of_step {effect : Effect} {reply : effect.Reply}
    {permits : Effect → CodeState ι → Prop}
    (step : (codeThreads ι sys permits).step i effect a reply b) {j : ι} (other : j ≠ i) :
    SendRely j a b := by
  obtain ⟨-, -, env, world, -, rfl⟩ := step
  have kept : (a.note i effect reply world).found j = a.found j ∧ _ := CodeState.note_other other
  refine ⟨kept.2.2.2, fun mail member => ?_⟩
  unfold CodeState.note
  split
  any_goals exact member
  split
  · exact List.mem_cons_of_mem _ member
  · exact member

theorem Posted.step (posted : Posted sys email w a) {effect : Effect} {reply : effect.Reply}
    (owes : SendPre sys email i effect a)
    (step : (codeThreads ι sys fun _ _ => True).step i effect a reply b) :
    Posted sys email w b := by
  obtain ⟨-, -, env, world, ⟨count, performed⟩, rfl⟩ := step
  cases effect with
  | uniformDigit | curlInit =>
    obtain ⟨-, rfl⟩ := Prod.mk.inj performed
    exact ⟨posted.held, posted.delivered, posted.stored⟩
  | curlPerform mail =>
    obtain ⟨-, rfl⟩ := Prod.mk.inj performed
    cases reply with
    | false => exact ⟨posted.held, posted.delivered, posted.stored⟩
    | true =>
      refine ⟨posted.held, fun info member =>
        List.mem_cons_of_mem _ (posted.delivered info member), ?_⟩
      intro other member
      rcases List.mem_cons.mp member with rfl | earlier
      · exact .inr ⟨i, Function.update_self ..⟩
      · refine (posted.stored other earlier).imp_right fun ⟨j, pending⟩ => ⟨j, ?_⟩
        -- The thread that delivers has nothing else to store.
        have differs : j ≠ i := by
          rintro rfl
          rw [show a.unstored j = none from owes] at pending
          cases pending
        exact (Function.update_of_ne differs ..).trans pending
  | storeCode address code expiry action =>
    obtain ⟨rfl, pending, sent⟩ := owes
    obtain ⟨-, rfl⟩ := Prod.mk.inj performed
    let info : VerifyInfo := ⟨code, env.clock .sendVerifyCode + expiry, action⟩
    have entry : (a.world.codes.assign address info).info? address = some info := by
      rw [CodeStore.info?_assign, if_pos rfl]
    have kept : (a.note i (.storeCode address code expiry action) reply
        { a.world with codes := a.world.codes.assign address info }).kept = info :: a.kept := by
      change ((a.world.codes.assign address info).info? address).toList ++ a.kept = _
      rw [entry]
      rfl
    refine ⟨?_, ?_, ?_⟩
    · rw [kept]
      exact entry
    · rw [kept]
      intro other member
      rcases List.mem_cons.mp member with rfl | earlier
      · exact sent
      · exact posted.delivered other earlier
    · rw [kept]
      intro mail member
      rcases posted.stored mail member with ⟨other, before, same⟩ | ⟨j, waits⟩
      · exact .inl ⟨other, List.mem_cons_of_mem _ before, same⟩
      · by_cases own : j = i
        · subst own
          rw [pending] at waits
          exact .inl ⟨info, List.mem_cons_self, Option.some.inj waits⟩
        · exact .inr ⟨j, (Function.update_of_ne own ..).trans waits⟩
  | _ => exact owes.elim

/-- A send from its first effect on. -/
theorem safe_sendVerifyCode {action : String} {s : CodeState ι} (fresh : s.unstored i = none) :
    (sendProtocol ι sys email w).SafeAt (codeThreads ι sys fun _ _ => True) i
      (.sendVerifyCode email action) (Call.program sys (.sendVerifyCode email action)) s := by
  have drawn (s : CodeState ι) (fresh : s.unstored i = none) :
      (EmailUtil.generateVerificationCode 6).Safe (fun effect a reply b =>
        (sendProtocol ι sys email w).inv a ∧
          (codeThreads ι sys fun _ _ => True).step i effect a reply b)
        ((sendProtocol ι sys email w).rely i)
        (fun effect a => (sendProtocol ι sys email w).inv a →
          (sendProtocol ι sys email w).pre i effect a)
        (fun _ b => b.unstored i = none) s := by
    have performs : (EmailUtil.generateVerificationCode 6).Performs
        fun effect => ∃ i, effect = .uniformDigit i :=
      UserHandler.generateLoop_performs (fun i => ⟨i, rfl⟩) "" 0 6
    refine (Uses.safe (fun a : CodeState ι => a.unstored i = none) performs ?_ ?_ ?_ fresh).mono
      fun _ _ both => both.2
    · exact fun a b none interfered => interfered.unstored.trans none
    · rintro effect a ⟨k, rfl⟩ _ _
      trivial
    · rintro effect a reply b ⟨k, rfl⟩ none ⟨-, -, -, env, world, -, rfl⟩
      exact none
  refine (Safe.bind_iff ..).mpr ((Safe.bind_iff ..).mpr ((drawn s fresh).mono ?_))
  intro code b unsent
  cases code with
  | error exn => exact unsent
  | ok code =>
    -- The handle, the delivery and the store.
    intro a interfered
    replace unsent : a.unstored i = none := interfered.unstored.trans unsent
    refine ⟨fun _ => trivial, ?_⟩
    rintro curl b ⟨-, -, -, env, world, -, rfl⟩
    cases curl with
    | false => exact unsent
    | true =>
      intro c interfered
      have still : c.unstored i = none := interfered.unstored.trans unsent
      refine ⟨fun _ => still, ?_⟩
      rintro delivered b ⟨-, -, -, env, world, -, rfl⟩
      cases delivered with
      | false => exact still
      | true =>
        intro d interfered
        have pending : d.unstored i = some (codeMail sys email code) :=
          interfered.unstored.trans (Function.update_self ..)
        have sent : codeMail sys email code ∈ d.mailed :=
          interfered.mailed _ List.mem_cons_self
        refine ⟨fun _ => ⟨rfl, pending, sent⟩, ?_⟩
        rintro _ b ⟨-, -, -, env, world, -, rfl⟩
        exact Function.update_self ..

theorem sendProtocol_sound : (sendProtocol ι sys email w).Sound
    (codeThreads ι sys fun _ _ => True) where
  refl _ _ := ⟨rfl, fun _ member => member⟩
  trans _ _ _ _ first second := ⟨second.unstored.trans first.unstored,
    fun mail member => second.mailed mail (first.mailed mail member)⟩
  starts _ _ _ _ _ _ starts := starts.elim
  acts _ _ _ _ _ posted owes step :=
    ⟨posted.step owes step, fun _ other => sendRely_of_step step other⟩
  post_stable _ _ _ _ _ none interfered := interfered.unstored.trans none
  idle_stable _ _ _ _ _ := trivial
  finishes _ _ _ _ _ := trivial

/-- A code is accepted for the address, with some action. -/
def CodeAccepted (sys : System) (email : String) (env : Env) (world : World) (code : String) :
    Prop :=
  ∃ action, (runProg sys env (VerifyService.verifyCode email action code) world).1 = .ok true

/-- As long as nothing has expired, the code accepted is the one in the mail delivered last. -/
def NewestMailWins (sys : System) (email : String) (a : CodeState ι) : Prop :=
  ∀ newest earlier, a.mailed = newest :: earlier → ∀ env : Env,
    (∀ info ∈ a.kept, env.clock .verifyCode ≤ info.expireTime) →
    ∀ code, CodeAccepted sys email env a.world code ↔ codeMail sys email code = newest

/-- When all the sends to an address have returned, the code accepted for it is the one that was
stored last. It was delivered in a mail, and the code of every delivered mail has been stored. So
it is the code in the last mail if the codes were stored in the order of the deliveries. -/
theorem newest_code_wins {actions : ι → String}
    {c : Config ι Effect Effect.Reply Exn (fun _ : Call => Option Bool) (CodeState ι)}
    (reach : (codeThreads ι sys fun _ _ => True).Reachable
      (codeInit sys w fun i => .sendVerifyCode email (actions i)) c)
    (done : ∀ i, (c.threads i).Idle) :
    (∀ last earlier, c.shared.kept = last :: earlier → ∀ env : Env,
      env.clock .verifyCode ≤ last.expireTime →
      ∀ code, CodeAccepted sys email env c.shared.world code ↔ code = last.code) ∧
    (∀ info ∈ c.shared.kept, codeMail sys email info.code ∈ c.shared.mailed) ∧
    (∀ mail ∈ c.shared.mailed, ∃ info ∈ c.shared.kept, codeMail sys email info.code = mail) ∧
    (c.shared.kept.map (fun info => codeMail sys email info.code) = c.shared.mailed →
      NewestMailWins sys email c.shared) := by
  have start : (sendProtocol ι sys email w).Holds (codeThreads ι sys fun _ _ => True)
      (codeInit sys w fun i => .sendVerifyCode email (actions i)) := by
    refine ⟨⟨rfl, by simp [codeInit], by simp [codeInit]⟩, fun i => ?_⟩
    exact ⟨_, ⟨rfl, fun _ member => member⟩, safe_sendVerifyCode rfl⟩
  have holds := start.reachable sendProtocol_sound reach
  have accepted (last : VerifyInfo) (earlier : List VerifyInfo)
      (kept : c.shared.kept = last :: earlier) (env : Env)
      (alive : env.clock .verifyCode ≤ last.expireTime) (code : String) :
      CodeAccepted sys email env c.shared.world code ↔ code = last.code := by
    -- `codes` holds what was stored last, and verification reads nothing else.
    have entry : c.shared.world.codes.info? email = some last := by
      rw [holds.inv.held, kept]
      rfl
    have answers (action : String) :
        (runProg sys env (VerifyService.verifyCode email action code) c.shared.world).1 =
          .ok (accepts last (env.clock .verifyCode) action code) := by
      have wp : (VerifyService.verifyCode email action code).Wp (Step sys env)
          (fun result _ => result = .ok (accepts last (env.clock .verifyCode) action code))
          c.shared.world := by
        refine (wp_verifyCode ..).mpr ?_
        rw [entry]
        rfl
      exact runProg_of_wp wp
    constructor
    · rintro ⟨action, answer⟩
      rw [answers action, Except.ok.injEq, accepts_iff] at answer
      exact answer.2.1.symm
    · rintro rfl
      refine ⟨last.action, ?_⟩
      rw [answers, Except.ok.injEq, accepts_iff]
      exact ⟨rfl, rfl, alive⟩
  have stored (mail : Mail) (member : mail ∈ c.shared.mailed) :
      ∃ info ∈ c.shared.kept, codeMail sys email info.code = mail := by
    rcases holds.inv.stored mail member with found | ⟨i, pending⟩
    · exact found
    · -- A thread that has ended has nothing left to store.
      exfalso
      obtain ⟨job, result, -, post⟩ := holds.ended sendProtocol_sound (reach.started rfl) (done i)
      have settled : c.shared.unstored i = none := post
      rw [settled] at pending
      cases pending
  -- If the codes were stored in the order of the mails, the last of each belong together.
  refine ⟨accepted, holds.inv.delivered, stored, ?_⟩
  intro inOrder newest earlier mailed env alive code
  cases kept : c.shared.kept with
  | nil =>
    rw [kept, mailed] at inOrder
    cases inOrder
  | cons last before =>
    rw [kept, mailed, List.map_cons] at inOrder
    obtain ⟨same, -⟩ := List.cons.inj inOrder
    rw [accepted last before kept env (alive last (by rw [kept]; exact List.mem_cons_self)) code,
      ← same]
    exact (codeMail_injective sys email).eq_iff.symm

end Sends

/-! ### Two sends -/

section Crossing

open Reference

/-- Two requests for a code; each thread draws a digit of its own. -/
def twoSends : Fin 2 → Call := fun _ => .sendVerifyCode "a@b.c" "register"

def drawing (digit : Fin 10) : Env × Nat := ({ env 0 with digit := fun _ => digit }, 0)

/-- Each send stores its code before the other one delivers. -/
def sentInTurn : Config (Fin 2) Effect Effect.Reply Exn (fun _ : Call => Option Bool)
    (CodeState (Fin 2)) :=
  (codeInit system {} twoSends).runSchedule (codeExec system)
    (List.replicate 9 (0, drawing 0) ++ List.replicate 9 (1, drawing 1))

theorem sentInTurn_reachable : (codeThreads (Fin 2) system fun _ _ => True).Reachable
    (codeInit system {} twoSends) sentInTurn := by
  refine Concurrent.Reachable.init.runsWithin (fun i _ a _ => inTurnOf i a) _
    (by decide +kernel) ?_
  exact fun i choice _ effect a turn => codeStep_codeExec (turn_of_inTurnOf turn) trivial

theorem sentInTurn_ended : (∀ i, (sentInTurn.threads i).returned?.isSome) ∧
    sentInTurn.shared.kept.map (fun info => codeMail system "a@b.c" info.code) =
      sentInTurn.shared.mailed := by
  decide +kernel

theorem newest_code_wins_inTurn : NewestMailWins system "a@b.c" sentInTurn.shared :=
  (newest_code_wins sentInTurn_reachable fun i =>
    Thread.idle_of_returned (sentInTurn_ended.1 i)).2.2.2 sentInTurn_ended.2

/-- The first send delivers, the second one delivers and stores, and then the first one stores. -/
def crossed : Config (Fin 2) Effect Effect.Reply Exn (fun _ : Call => Option Bool)
    (CodeState (Fin 2)) :=
  (codeInit system {} twoSends).runSchedule (codeExec system)
    (List.replicate 8 (0, drawing 0) ++ List.replicate 9 (1, drawing 1) ++ [(0, drawing 0)])

theorem crossed_reachable : (codeThreads (Fin 2) system fun _ _ => True).Reachable
    (codeInit system {} twoSends) crossed := by
  refine Concurrent.Reachable.init.runsWithin (fun i _ a _ => inTurnOf i a) _
    (by decide +kernel) ?_
  exact fun i choice _ effect a turn => codeStep_codeExec (turn_of_inTurnOf turn) trivial

theorem crossed_ended : (∀ i, (crossed.threads i).returned?.isSome) ∧
    crossed.shared.mailed =
      [codeMail system "a@b.c" "111111", codeMail system "a@b.c" "000000"] ∧
    (∀ info ∈ crossed.shared.kept, 0 ≤ info.expireTime) ∧
    (runProg system (env 0) (VerifyService.verifyCode "a@b.c" "register" "000000")
      crossed.shared.world).1 = .ok true := by
  decide +kernel

/-- The code of the older mail is accepted. -/
theorem crossed_older :
    ¬∀ (ι : Type) [DecidableEq ι] (sys : System) (w : World) (email : String)
      (actions : ι → String)
      (c : Config ι Effect Effect.Reply Exn (fun _ : Call => Option Bool) (CodeState ι)),
      (codeThreads ι sys fun _ _ => True).Reachable
        (codeInit sys w fun i => .sendVerifyCode email (actions i)) c →
      (∀ i, (c.threads i).Idle) → NewestMailWins sys email c.shared := by
  intro wins
  obtain ⟨returned, mailed, kept, accepted⟩ := crossed_ended
  have newest := wins (Fin 2) system {} "a@b.c" (fun _ => "register") crossed crossed_reachable
    fun i => Thread.idle_of_returned (returned i)
  have same := (newest _ _ mailed (env 0) kept "000000").mp ⟨"register", accepted⟩
  exact absurd (codeMail_injective system "a@b.c" same) (by decide)

end Crossing

end MusicPlayer
