import MusicPlayer.Properties.RequestEnds
import MusicPlayer.Properties.SessionThreads
import Mathlib.Algebra.BigOperators.Group.Finset.Basic
import Mathlib.Data.Fintype.BigOperators

/-!
# Every request is answered

Once the clients are quiet, there is only so much left to do: each request costs a read, at most
forty effects of its handler, the end of the handler and a write. When nothing of it is left, every
request of a client whose connection works has been answered, as long as there is a thread to do
it. How often the main thread cleans up in between does not matter. As in `RequestEnds`, the calls
of libraries are taken to return.
-/
namespace MusicPlayer

open Resumption Program

/-- What a sum changes by, when one of its terms changes. -/
theorem sum_change {α : Type} [Fintype α] [DecidableEq α] {f g : α → Nat} (a : α)
    (others : ∀ x, x ≠ a → g x = f x) :
    Finset.univ.sum g + f a = Finset.univ.sum f + g a := by
  have same : (Finset.univ.erase a).sum g = (Finset.univ.erase a).sum f :=
    Finset.sum_congr rfl fun x member => others x (Finset.ne_of_mem_erase member)
  have new : g a + (Finset.univ.erase a).sum g = Finset.univ.sum g :=
    Finset.add_sum_erase Finset.univ g (Finset.mem_univ a)
  have old : f a + (Finset.univ.erase a).sum f = Finset.univ.sum f :=
    Finset.add_sum_erase Finset.univ f (Finset.mem_univ a)
  omega

theorem sum_update {α : Type} [Fintype α] [DecidableEq α] (f : α → Nat) (a : α) (n : Nat) :
    Finset.univ.sum (Function.update f a n) + f a = Finset.univ.sum f + n := by
  have change := sum_change a fun x other => Function.update_of_ne other n f
  rwa [Function.update_self] at change

namespace Line

variable {ι : Type} {line : Line ι}

/-- How many steps a session has still to make at most, with those of its handlers. -/
def left (line : Line ι) : Nat :=
  43 * line.unread.length +
    match line.handler, line.session.pending with
    | some _, _ => 3
    | none, .write _ => 2
    | none, .read => 1
    | none, .ended | none, .undefinedBehaviour => 0

theorem left_readDone (i : ι) {arriving : HttpRequest} {rest : List HttpRequest}
    (waits : line.Waits .read) (sent : line.unread = arriving :: rest) :
    (line.readDone i arriving rest).left + 41 = line.left := by
  simp only [left, Line.readDone, waits.1, waits.2, sent, List.length_cons]
  omega

theorem left_handlerDone (what : Exn → String) {i : ι} (serves : line.handler = some i)
    (result : Except Exn HttpResponse) : (line.handlerDone what result).left < line.left := by
  simp only [left, Line.handlerDone, serves]
  cases Session.handleRequest what line.session.request result with
  | some response => simp [Session.doWrite]
  | none => simp [Session.doWrite]

theorem left_writeDone {response : HttpResponse} (waits : line.Waits (.write response)) :
    (line.writeDone response).left < line.left := by
  simp [left, Line.writeDone, HttpRequest.needEof, waits.1, waits.2, Session.doRead]

theorem left_fail {pending : Pending} (waits : line.Waits pending) (rest : List HttpRequest)
    (fewer : rest.length ≤ line.unread.length)
    (goes : pending = .read ∨ ∃ response, pending = .write response) :
    ({ line.fail with unread := rest } : Line ι).left < line.left := by
  rcases goes with rfl | ⟨response, rfl⟩
  · simp only [left, Line.fail, waits.1, waits.2]
    omega
  · simp only [left, Line.fail, waits.1, waits.2]
    omega

end Line

namespace Traffic

variable {ι κ : Type} [DecidableEq ι] [DecidableEq κ] {sys : System} {what : Exn → String}

/-- A run in which no request arrives, with the number of steps that are not the main thread's. -/
inductive Run (sys : System) (what : Exn → String) (s : Traffic ι κ) :
    Nat → Traffic ι κ → Prop where
  | refl : Run sys what s 0 s
  | step {n : Nat} {t u : Traffic ι κ} (run : Run sys what s n t) (step : Step sys what t u) :
      Run sys what s (n + 1) u
  | fault {n : Nat} {t u : Traffic ι κ} (run : Run sys what s n t) (fault : Fault t u) :
      Run sys what s (n + 1) u
  | main {n : Nat} {t u : Traffic ι κ} (run : Run sys what s n t) (main : Main sys t u) :
      Run sys what s n u

/-- How many effects the threads have still to perform at most. -/
def Bounds (s : Traffic ι κ) (b : ι → Nat) : Prop :=
  ∀ i job (prog : Prog job.Out), s.config.threads (some i) = some ⟨job, prog⟩ → prog.Within (b i)

/-- How many steps are left at most. -/
def left [Fintype ι] [Fintype κ] (s : Traffic ι κ) (b : ι → Nat) : Nat :=
  (Finset.univ.sum fun k => (s.lines k).left) + Finset.univ.sum b

section Left

variable [Fintype ι] [Fintype κ] {s t : Traffic ι κ} {b : ι → Nat}

omit [DecidableEq ι] in
theorem left_setLine (s : Traffic ι κ) (b : ι → Nat) (k : κ) (line : Line ι) :
    (s.setLine k line).left b + (s.lines k).left = s.left b + line.left := by
  have change := sum_change (f := fun l => (s.lines l).left)
    (g := fun l => ((s.setLine k line).lines l).left) k fun l other => by
      rw [setLine_of_ne s line other]
  rw [setLine_self] at change
  simp only [left]
  omega

omit [DecidableEq κ] [Fintype ι] [Fintype κ] in
/-- A new handler has its forty effects. -/
theorem Bounds.start (bounds : s.Bounds b) (i : ι) (job : ServerJob) :
    (s.start sys (some i) job).Bounds (Function.update b i 40) := by
  intro j other prog runs
  by_cases own : j = i
  · subst own
    rw [Function.update_self]
    rw [start_self] at runs
    cases runs
    exact (job.concludes sys).within
  · rw [start_of_ne sys s job (by simpa using own)] at runs
    rw [Function.update_of_ne own]
    exact bounds j other prog runs

omit [DecidableEq κ] in
/-- An effect is one of those that were left to the thread. -/
theorem Acts.left {i : ι} (bounds : s.Bounds b) (acts : Acts sys (some i) s t) :
    ∃ c, t.Bounds c ∧ t.left c < s.left b := by
  cases acts with
  | @act job effect rest reply after runs step =>
    have within := bounds i job _ runs
    obtain ⟨n, more⟩ : ∃ n, b i = n + 1 := by
      cases some : b i with
      | zero =>
        rw [some] at within
        exact within.elim
      | succ n => exact ⟨n, rfl⟩
    rw [more] at within
    refine ⟨Function.update b i n, fun j other prog runs => ?_, ?_⟩
    · dsimp only at runs
      by_cases own : j = i
      · subst own
        rw [Function.update_self] at runs ⊢
        cases runs
        exact within reply
      · rw [Function.update_of_ne (by simpa using own)] at runs
        rw [Function.update_of_ne own]
        exact bounds j other prog runs
    · have threads := sum_update b i n
      simp only [Traffic.left]
      omega

/-- One step of the sessions takes something off. -/
theorem Step.left (bounds : s.Bounds b) (step : Step sys what s t) :
    ∃ c, t.Bounds c ∧ t.left c < s.left b := by
  cases step with
  | @read k i arriving rest waits sent fits free =>
    -- What the request was counted for covers its handler.
    refine ⟨Function.update b i 40, Bounds.start bounds i _, ?_⟩
    have lines := left_setLine s b k ((s.lines k).readDone i arriving rest)
    have threads := sum_update b i 40
    have line := Line.left_readDone i waits sent
    simp only [Traffic.left, start_lines] at lines ⊢
    omega
  | @tooLarge k arriving rest waits sent large =>
    refine ⟨b, bounds, ?_⟩
    have lines := left_setLine s b k { (s.lines k).fail with unread := rest }
    have line := Line.left_fail waits rest (by rw [sent]; simp) (.inl rfl)
    omega
  | act acts => exact acts.left bounds
  | @handled k i result serves ended =>
    refine ⟨b, bounds, ?_⟩
    have lines := left_setLine s b k ((s.lines k).handlerDone what result)
    have line := Line.left_handlerDone what serves result
    omega
  | @write k response waits =>
    refine ⟨b, bounds, ?_⟩
    have lines := left_setLine s b k ((s.lines k).writeDone response)
    have line := Line.left_writeDone waits
    omega

omit [DecidableEq ι] in
theorem Fault.left (fault : Fault s t) : t.left b < s.left b := by
  cases fault with
  | @read k waits =>
    have lines := left_setLine s b k (s.lines k).fail
    have line := Line.left_fail waits (s.lines k).unread le_rfl (.inl rfl)
    change (s.lines k).fail.left < _ at line
    omega
  | @write k response waits =>
    have lines := left_setLine s b k (s.lines k).fail
    have line := Line.left_fail waits (s.lines k).unread le_rfl (.inr ⟨response, rfl⟩)
    change (s.lines k).fail.left < _ at line
    omega

omit [DecidableEq κ] in
/-- The main thread has no session and is no thread that the sessions wait for. -/
theorem Main.left (bounds : s.Bounds b) (main : Main sys s t) :
    t.Bounds b ∧ t.left b = s.left b := by
  cases main with
  | cleanup idle =>
    refine ⟨fun i job prog runs => ?_, rfl⟩
    rw [start_of_ne sys s .cleanup (by simp)] at runs
    exact bounds i job prog runs
  | act acts =>
    cases acts with
    | act runs step =>
      refine ⟨fun i job prog others => ?_, rfl⟩
      dsimp only at others
      rw [Function.update_of_ne (by simp)] at others
      exact bounds i job prog others

theorem Run.left {n : Nat} (bounds : s.Bounds b) (run : Run sys what s n t) :
    ∃ c, t.Bounds c ∧ n + t.left c ≤ s.left b := by
  induction run with
  | refl => exact ⟨b, bounds, by omega⟩
  | step run step ih =>
    obtain ⟨c, bounds, le⟩ := ih
    obtain ⟨d, later, less⟩ := step.left bounds
    exact ⟨d, later, by omega⟩
  | fault run fault ih =>
    obtain ⟨c, bounds, le⟩ := ih
    have less := fault.left (b := c)
    refine ⟨c, ?_, by omega⟩
    cases fault with
    | read | write => exact bounds
  | main run main ih =>
    obtain ⟨c, bounds, le⟩ := ih
    obtain ⟨later, same⟩ := main.left bounds
    exact ⟨c, later, by omega⟩

end Left

section Rest

variable {start : Threads ι} {s t : Traffic ι κ}

theorem Run.served {n : Nat} (fresh : ∀ i, start.threads i = none) (served : Served sys start s)
    (run : Run sys what s n t) : Served sys start t := by
  induction run with
  | refl => exact served
  | step run step ih => exact ih.step fresh step
  | @fault n t u run fault ih =>
    have move : Move sys what t u := .fault fault
    exact ih.move fresh move
  | @main n t u run main ih =>
    have move : Move sys what t u := .main main
    exact ih.move fresh move

/-- Where no step is left, no thread is in a job. -/
theorem idle_of_rest (rest : ∀ u, ¬Step sys what s u) (i : ι) :
    (s.config.threads (some i)).Idle := by
  cases thread : s.config.threads (some i) with
  | none => trivial
  | some running =>
    obtain ⟨job, prog⟩ := running
    cases prog with
    | ret value => trivial
    | raise exn => trivial
    | act effect later =>
      -- Whatever the effect is, it has an answer.
      have step := siteStep_siteExec sys (some i) ({ clock := fun _ => 0 }, 0) effect
        s.config.shared
      exact (rest _ (.act (.act thread step))).elim

/-- Nor is a session in a handler. -/
theorem Served.handler_of_rest (served : Served sys start s) (rest : ∀ u, ¬Step sys what s u)
    (k : κ) : (s.lines k).handler = none := by
  cases serves : (s.lines k).handler with
  | none => rfl
  | some i =>
    obtain ⟨prog, runs⟩ := served.own k i serves
    have idle := idle_of_rest rest i
    rw [runs] at idle
    cases prog with
    | ret res =>
      have ended : s.config.threads (some i) =
          some ⟨.request (s.lines k).session.request, Program.ofExcept (.ok res)⟩ := runs
      exact (rest _ (.handled serves ended)).elim
    | raise exn =>
      have ended : s.config.threads (some i) =
          some ⟨.request (s.lines k).session.request, Program.ofExcept (.error exn)⟩ := runs
      exact (rest _ (.handled serves ended)).elim
    | act effect later => exact idle.elim

/-- Where no step is left, a session whose connection works waits for a request that the client
has not sent, or has met undefined behaviour. -/
theorem Served.waits_of_rest [Nonempty ι] (served : Served sys start s)
    (rest : ∀ u, ¬Step sys what s u) {k : κ} (intact : (s.lines k).failed = false)
    (sound : (s.lines k).session.pending ≠ .undefinedBehaviour) :
    (s.lines k).Waits .read ∧ (s.lines k).unread = [] := by
  have idle := served.handler_of_rest rest
  cases pending : (s.lines k).session.pending with
  | read =>
    refine ⟨⟨idle k, pending⟩, ?_⟩
    cases sent : (s.lines k).unread with
    | nil => rfl
    | cons arriving later =>
      obtain ⟨i⟩ := ‹Nonempty ι›
      have free : s.Free i := by
        refine ⟨idle_of_rest rest i, fun l => ?_⟩
        rw [idle l]
        simp
      by_cases fits : arriving.body.utf8ByteSize ≤ Connection.bodyLimit
      · exact (rest _ (.read ⟨idle k, pending⟩ sent fits free)).elim
      · exact (rest _ (.tooLarge ⟨idle k, pending⟩ sent (Nat.lt_of_not_le fits))).elim
  | write response => exact (rest _ (.write ⟨idle k, pending⟩)).elim
  | ended =>
    -- A session ends only by an error.
    have answering := (served.lines k).answering
    rw [Line.Answering, pending, intact] at answering
    cases answering
  | undefinedBehaviour => exact (sound pending).elim

/-- From wherever the server has got to, without further requests its sessions and their threads
take only so many steps, however often the main thread cleans up in between. Where they come to
rest, if no handler has met undefined behaviour, every request on every connection that has not
failed is answered: it was handled in its turn, and the client has got the response. -/
theorem requests_answered [Fintype ι] [Nonempty ι] [Fintype κ]
    {outcome : Nat → DBManager.ConnectOutcome} {poolSize : Nat} {w : World}
    (reach : Relation.ReflTransGen (Move sys what) (init ι κ outcome poolSize w) s) {n : Nat}
    (run : Run sys what s n t) :
    n ≤ (Finset.univ.sum fun k => (s.lines k).left) + 40 * Fintype.card ι ∧
      ((∀ u, ¬Step sys what t u) →
        (∀ k, (t.lines k).session.pending ≠ .undefinedBehaviour) →
        ∀ k, (t.lines k).failed = false →
          (t.lines k).handled.map Prod.fst = (t.lines k).arrived ∧
          (t.lines k).handled.map Prod.snd = (t.lines k).written.map .ok) := by
  have fresh : ∀ i, (workersInit (Option ι) outcome poolSize w).threads i = none := fun _ => rfl
  have before : Served sys (workersInit (Option ι) outcome poolSize w) s :=
    (Served.init outcome poolSize w).run fresh reach
  refine ⟨?_, fun rest sound k intact => ?_⟩
  · have bounds : s.Bounds fun _ => 40 := fun i job prog runs =>
      before.threads.residual (fun job => (job.concludes sys).within)
        (fun _ _ _ reply within => within.rest reply) fresh runs
    obtain ⟨c, -, le⟩ := run.left bounds
    have effects : (Finset.univ.sum fun _ : ι => 40) = Fintype.card ι * 40 :=
      Finset.sum_const_nat fun _ _ => rfl
    simp only [Traffic.left] at le
    omega
  · have served := run.served fresh before
    obtain ⟨waits, drained⟩ := served.waits_of_rest rest intact (sound k)
    have complete := (served.lines k).complete intact
    rw [Line.current_of_none waits.1, drained, List.append_nil, List.append_nil] at complete
    exact ⟨complete, (served.lines k).results waits.2⟩

end Rest

theorem Run.of_steps {s t : Traffic ι κ} (steps : Relation.ReflTransGen (Step sys what) s t) :
    ∃ n, Run sys what s n t := by
  induction steps with
  | refl => exact ⟨0, .refl⟩
  | tail _ step ih =>
    obtain ⟨n, run⟩ := ih
    exact ⟨n + 1, run.step step⟩

section Sample

open Reference

theorem bothServed_lines (k : Fin 2) :
    (bothServed.lines k).Waits .read ∧ (bothServed.lines k).unread = [] := by
  revert k
  exact Fin.forall_fin_two.mpr ⟨⟨⟨rfl, rfl⟩, rfl⟩, ⟨⟨rfl, rfl⟩, rfl⟩⟩

theorem bothServed_rest (u : Traffic (Fin 2) (Fin 2)) : ¬Step system noText bothServed u := by
  intro step
  cases step with
  | @read k i arriving rest waits sent =>
    rw [(bothServed_lines k).2] at sent
    cases sent
  | @tooLarge k arriving rest waits sent =>
    rw [(bothServed_lines k).2] at sent
    cases sent
  | @act _ i acts =>
    -- Both threads have come to the end of their handlers.
    have ended : ∀ i : Fin 2, (bothServed.config.threads (some i)).returned?.isSome = true := by
      decide +kernel
    have idle := Thread.idle_of_returned (ended i)
    cases acts with
    | act runs step =>
      rw [runs] at idle
      exact idle.elim
  | @handled k i result serves =>
    rw [(bothServed_lines k).1.1] at serves
    cases serves
  | @write k response waits =>
    have reads := (bothServed_lines k).1.2
    rw [waits.2] at reads
    cases reads

theorem requests_answered_two :
    (bothServed.lines 0).handled.map Prod.fst = [loginRequest] ∧
      (bothServed.lines 0).handled.map Prod.snd = [.ok loginResponse] := by
  obtain ⟨n, run⟩ := Run.of_steps bothServed_steps
  have sound (k : Fin 2) : (bothServed.lines k).session.pending ≠ .undefinedBehaviour := by
    rw [(bothServed_lines k).1.2]
    nofun
  exact (requests_answered asked_run run).2 bothServed_rest sound 0 rfl

end Sample

end Traffic

end MusicPlayer
