import MusicPlayer.Server.Streams
import MusicPlayer.Properties.AvatarUpdates
import MusicPlayer.Properties.Interference

/-!
# Reads of an avatar among updates

The threads update and read the avatar of one user, and no file operation fails. An update
truncates the file when it opens it and stores its text chunk by chunk, without a lock, so a
read may come upon the file in between. If nobody opens the file while another thread writes or
reads it, and nobody begins to read it while another thread writes it, then every read that is
answered 200 returns a text that was posted as a whole.

The state records who is writing and who is reading, and the texts of the updates that have
begun. Nothing the threads do depends on these records.
-/
namespace MusicPlayer

open Resumption Program JsonUtil UserHandler

inductive AvatarCall where
  | update (req : HttpRequest)
  | read (req : HttpRequest)
  deriving DecidableEq

namespace AvatarCall

def request : AvatarCall → HttpRequest
  | .update req | .read req => req

/-- The handler, over streams. -/
def program (sys : System) (fuel : Nat) : AvatarCall → StreamProg HttpResponse
  | .update req => overStreams fuel (handleUpdateAvatar sys req)
  | .read req => overStreams fuel (handleGetAvatar sys req)

/-- The text of an update. -/
def posts (sys : System) : AvatarCall → Option String
  | .update req => avatarForm sys req
  | .read _ => none

end AvatarCall

structure AvatarState (ι : Type) where
  world : World
  /-- Has opened the file for output and not written it to its end yet. -/
  writing : ι → Bool := fun _ => false
  /-- Has read a part of the file and not come to its end yet. -/
  reading : ι → Bool := fun _ => false
  posted : List String := []

namespace AvatarState

variable {ι : Type} [DecidableEq ι]

/-- A new request of a thread. -/
def begin (sys : System) (a : AvatarState ι) (i : ι) (call : AvatarCall) : AvatarState ι :=
  { a with
    writing := Function.update a.writing i false
    reading := Function.update a.reading i false
    posted := (call.posts sys).toList ++ a.posted }

/-- What is recorded of an effect of a thread. -/
def note (a : AvatarState ι) (i : ι) (w : World) :
    (effect : StreamEffect) → effect.Reply → AvatarState ι
  | .call (.openOut _), opened =>
    { a with world := w, writing := Function.update a.writing i opened }
  | .call (.closeOut _), _ => { a with world := w, writing := Function.update a.writing i false }
  | .call _, _ => { a with world := w }
  | .writeChunk _ _ data, (written : Nat) =>
    { a with world := w, writing := Function.update a.writing i (decide (written < data.size)) }
  | .readChunk _ _, (chunk : ByteArray) =>
    { a with world := w, reading := Function.update a.reading i (!chunk.isEmpty) }

/-- The bytes are those of an update that has begun, or were there at the start. -/
def Known (first : Option ByteArray) (a : AvatarState ι) (data : ByteArray) : Prop :=
  first = some data ∨ ∃ text ∈ a.posted, data = text.toUTF8

end AvatarState

/-- Any number of threads that update and read the avatar of one user, one request after the
other, with every step as `permits` has it. -/
def avatarThreads (ι : Type) [DecidableEq ι] (sys : System) (userId : Int32) (fuel : Nat)
    (permits : ι → StreamEffect → AvatarState ι → Prop) :
    Concurrent ι StreamEffect StreamEffect.Reply (Option Exn) AvatarCall (fun _ => HttpResponse)
      (AvatarState ι) where
  program := AvatarCall.program sys fuel
  starts i call a b := named sys call.request = some userId ∧ b = a.begin sys i call
  step i effect a reply b := permits i effect a ∧ StreamStep sys effect a.world reply b.world ∧
    b = a.note i b.world effect reply

def avatarInit {ι : Type} (w : World) :
    Config ι StreamEffect StreamEffect.Reply (Option Exn) (fun _ : AvatarCall => HttpResponse)
      (AvatarState ι) :=
  ⟨{ world := w }, fun _ => none⟩

/-- Nobody opens the file while another thread writes or reads it, and nobody begins to read it
while another thread writes it. -/
def Unshared {ι : Type} (i : ι) (effect : StreamEffect) (a : AvatarState ι) : Prop :=
  match effect with
  | .call (.openOut _) => ∀ j ≠ i, a.writing j = false ∧ a.reading j = false
  | .readChunk _ 0 => ∀ j ≠ i, a.writing j = false
  | _ => True

/-! ### What the threads promise one another -/

section Protocol

variable {ι : Type}

structure AvatarInv (first : Option ByteArray) (path : String) (a : AvatarState ι) : Prop where
  exclusive : ∀ i, a.writing i = true →
    a.reading i = false ∧ ∀ j ≠ i, a.writing j = false ∧ a.reading j = false
  whole : (∀ i, a.writing i = false) → ∀ data, a.world.files path = some data →
    a.Known first data

structure AvatarRely (path : String) (i : ι) (a b : AvatarState ι) : Prop where
  writing : b.writing i = a.writing i
  reading : b.reading i = a.reading i
  posted : a.posted ⊆ b.posted
  held : a.writing i = true ∨ a.reading i = true → b.world.files path = a.world.files path
  there : (a.world.files path).isSome → (b.world.files path).isSome

/-- What the handlers do to the file system besides opening a file for output, writing and
reading. -/
def Effect.KeepsFiles : Effect → Prop
  | .now _ | .fileExists _ | .createDirectory _ | .openIn _ | .closeFile _ => True
  | _ => False

/-- What a thread owes at a call. A chunk is the rest of a posted text, and is written behind
the start of that text. -/
def AvatarPre (path : String) (i : ι) (effect : StreamEffect) (a : AvatarState ι) : Prop :=
  match effect with
  | .call (.openOut p) => p = path ∧ a.reading i = false
  | .call (.closeOut _) =>
    a.writing i = true → ∃ text ∈ a.posted, a.world.files path = some text.toUTF8
  | .call effect => effect.KeepsFiles
  | .writeChunk p position data => p = path ∧ a.writing i = true ∧
    ∃ text ∈ a.posted, position < text.toUTF8.size ∧
      a.world.files path = some (text.toUTF8.extract 0 position) ∧
      data = text.toUTF8.extract position text.toUTF8.size
  | .readChunk _ position => a.writing i = false ∧ (position ≠ 0 → a.reading i = true)

/-- What a handler owes at an effect, whatever its calls are. -/
def AvatarOwes (path : String) (i : ι) (effect : Effect) (a : AvatarState ι) : Prop :=
  a.reading i = false ∧ match effect with
    | .openOut p => p = path ∧ a.writing i = false
    | .writeFile p data => p = path ∧ a.writing i = true ∧
      a.world.files path = some ByteArray.empty ∧ ∃ text ∈ a.posted, data = text.toUTF8
    | .closeOut _ =>
      a.writing i = true → ∃ text ∈ a.posted, a.world.files path = some text.toUTF8
    | .openIn p => p = path ∧ a.writing i = false
    | .readFile p => p = path ∧ a.writing i = false ∧ (a.world.files path).isSome
    | effect => effect.KeepsFiles ∧ a.writing i = false

/-- What an effect comes to, from what its thread knew before to what it knows then. -/
def AvatarComes (first : Option ByteArray) (path : String) (i : ι) (effect : Effect)
    (a : AvatarState ι) (reply : effect.Reply) (b : AvatarState ι) : Prop :=
  a.posted ⊆ b.posted ∧ b.reading i = false ∧ match effect, reply with
    | .openOut _, opened =>
      opened = true ∧ b.writing i = true ∧ b.world.files path = some ByteArray.empty
    | .writeFile .., _ =>
      b.writing i = true → ∃ text ∈ b.posted, b.world.files path = some text.toUTF8
    | .openIn _, opened => b.writing i = false ∧ (opened = true → (b.world.files path).isSome)
    | .readFile _, data => b.writing i = false ∧ b.Known first data
    | _, _ => b.writing i = false

/-- The results of a request. -/
def AvatarPost {X : Type} (first : Option ByteArray) (i : ι) (call : AvatarCall)
    (result : Except X HttpResponse) (a : AvatarState ι) : Prop :=
  a.writing i = false ∧ ∀ req, call = .read req → ∀ res, result = .ok res → res.status = .ok →
    ∃ data text, a.Known first data ∧ String.fromUTF8? data = some text ∧
      res = avatarAnswer req.version text

def avatarProtocol (ι : Type) [DecidableEq ι] (first : Option ByteArray) (path : String) :
    Protocol ι StreamEffect (Option Exn) AvatarCall (fun _ => HttpResponse) (AvatarState ι) where
  inv := AvatarInv first path
  rely := AvatarRely path
  pre := AvatarPre path
  post := AvatarPost first
  idle i a := a.writing i = false

/-! ### One step -/

section Steps

variable {sys : System} {userId : Int32} {fuel : Nat} {first : Option ByteArray} {path : String}
  {i : ι} {a b : AvatarState ι}

theorem AvatarRely.refl (path : String) (i : ι) (a : AvatarState ι) : AvatarRely path i a a :=
  ⟨rfl, rfl, fun _ => id, fun _ => rfl, id⟩

theorem AvatarRely.trans {c : AvatarState ι} (first : AvatarRely path i a b)
    (second : AvatarRely path i b c) : AvatarRely path i a c where
  writing := second.writing.trans first.writing
  reading := second.reading.trans first.reading
  posted := List.Subset.trans first.posted second.posted
  held busy := by
    have still : b.writing i = true ∨ b.reading i = true := by
      rwa [first.writing, first.reading]
    rw [second.held still, first.held busy]
  there := second.there ∘ first.there

theorem AvatarState.Known.mono {data : ByteArray} (known : a.Known first data)
    (more : a.posted ⊆ b.posted) : b.Known first data := by
  rcases known with initial | ⟨text, posted, same⟩
  · exact .inl initial
  · exact .inr ⟨text, more posted, same⟩

/-- An effect that keeps the files. -/
theorem exec_keepsFiles {env : Env} {count : Nat} {effect : Effect} (keeps : effect.KeepsFiles)
    (w : World) : (exec sys env count effect w).2.files = w.files := by
  cases effect with
  | now | openIn | closeFile => rfl
  | fileExists | createDirectory =>
    simp only [exec]
    split <;> rfl
  | _ => exact keeps.elim

/-- A step that leaves the file as it is, of a thread that stays idle. -/
theorem avatarInv_of_same (inv : AvatarInv first path a) (writes : b.writing = a.writing)
    (reads : b.reading = a.reading) (posted : b.posted = a.posted)
    (files : b.world.files path = a.world.files path) : AvatarInv first path b where
  exclusive := by
    rw [writes, reads]
    exact inv.exclusive
  whole nobody data file := by
    rw [writes] at nobody
    rw [files] at file
    exact (inv.whole nobody data file).mono (by rw [posted]; exact fun _ => id)

variable [DecidableEq ι]

theorem note_keepsFiles {effect : Effect} (keeps : effect.KeepsFiles) (w : World)
    (reply : effect.Reply) : a.note i w (.call effect) reply = { a with world := w } := by
  cases effect with
  | openOut | closeOut => exact keeps.elim
  | _ => rfl

theorem note_posted (w : World) (effect : StreamEffect) (reply : effect.Reply) :
    (a.note i w effect reply).posted = a.posted := by
  cases effect with
  | call effect => cases effect <;> rfl
  | _ => rfl

/-- The records of the other threads stay as they are. -/
theorem note_other {j : ι} (other : j ≠ i) (w : World) (effect : StreamEffect)
    (reply : effect.Reply) : (a.note i w effect reply).writing j = a.writing j ∧
      (a.note i w effect reply).reading j = a.reading j := by
  cases effect with
  | call effect =>
    cases effect with
    | openOut | closeOut => exact ⟨Function.update_of_ne other .., rfl⟩
    | _ => exact ⟨rfl, rfl⟩
  | writeChunk => exact ⟨Function.update_of_ne other .., rfl⟩
  | readChunk => exact ⟨rfl, Function.update_of_ne other ..⟩

/-- A step that does not touch the file while another thread is busy with it disturbs no other
thread. -/
theorem avatarRely_of_step {effect : StreamEffect} {reply : effect.Reply}
    (step : b = a.note i b.world effect reply)
    (held : ∀ j ≠ i, a.writing j = true ∨ a.reading j = true →
      b.world.files path = a.world.files path)
    (there : (a.world.files path).isSome → (b.world.files path).isSome) :
    ∀ j ≠ i, AvatarRely path j a b := by
  intro j other
  obtain ⟨writing, reading⟩ := note_other (a := a) other b.world effect reply
  have posted := note_posted (a := a) (i := i) b.world effect reply
  rw [← step] at writing reading posted
  exact ⟨writing, reading, by rw [posted]; exact fun _ => id, held j other, there⟩

/-- With nobody else at the file, a thread opens it for output. -/
theorem step_openOut {p : String} {reply : Bool} (own : p = path) (idle : a.reading i = false)
    (step : (avatarThreads ι sys userId fuel Unshared).step i (.call (.openOut p)) a reply b) :
    reply = true ∧ b.writing i = true ∧ b.reading i = false ∧ a.posted = b.posted ∧
      b.world.files path = some ByteArray.empty ∧ AvatarInv first path b ∧
      ∀ j ≠ i, AvatarRely path j a b := by
  subst own
  obtain ⟨alone, ⟨env, count, size, calm, -, performed⟩, noted⟩ := step
  simp only [StreamEffect.exec, exec, calm.opens, if_true] at performed
  obtain ⟨rfl, world⟩ := Prod.mk.inj performed
  have file : b.world.files p = some ByteArray.empty := by
    rw [← world]
    exact Function.update_self ..
  have writes : b.writing = Function.update a.writing i true := by rw [noted]; rfl
  have reads : b.reading = a.reading := by rw [noted]; rfl
  have own : b.writing i = true := by rw [writes]; exact Function.update_self ..
  refine ⟨rfl, own, by rw [reads]; exact idle, by rw [noted]; rfl, file, ⟨?_, ?_⟩, ?_⟩
  · -- Only this thread writes now, and the others are not at the file.
    intro j writing
    have same : j = i := by
      by_contra other
      rw [writes, Function.update_of_ne other, (alone j other).1] at writing
      cases writing
    subst same
    rw [writes, reads]
    refine ⟨idle, fun k other => ?_⟩
    rw [Function.update_of_ne other]
    exact alone k other
  · -- The file may hold anything while somebody writes.
    intro nobody
    rw [nobody i] at own
    cases own
  · refine avatarRely_of_step noted (fun j other busy => ?_) (by simp [file])
    rw [(alone j other).1, (alone j other).2] at busy
    simp at busy

theorem step_keepsFiles {effect : Effect} {reply : effect.Reply} (keeps : effect.KeepsFiles)
    (inv : AvatarInv first path a)
    (step : (avatarThreads ι sys userId fuel Unshared).step i (.call effect) a reply b) :
    b.writing = a.writing ∧ b.reading = a.reading ∧ b.posted = a.posted ∧
      b.world.files = a.world.files ∧ AvatarInv first path b ∧
      ∀ j ≠ i, AvatarRely path j a b := by
  obtain ⟨-, ⟨env, count, size, -, -, performed⟩, noted⟩ := step
  have files : b.world.files = a.world.files := by
    have answered : exec sys env count effect a.world = (reply, b.world) := performed
    have kept : (exec sys env count effect a.world).2.files = a.world.files :=
      exec_keepsFiles keeps a.world
    rwa [answered] at kept
  have recorded := noted
  rw [note_keepsFiles keeps] at recorded
  have writes : b.writing = a.writing := by rw [recorded]
  have reads : b.reading = a.reading := by rw [recorded]
  have posted : b.posted = a.posted := by rw [recorded]
  refine ⟨writes, reads, posted, files,
    avatarInv_of_same inv writes reads posted (by rw [files]), ?_⟩
  exact avatarRely_of_step noted (fun _ _ _ => by rw [files]) (by rw [files]; exact id)

/-- The close of an output stream, behind a text that was written to its end. -/
theorem step_closeOut {p : String} {reply : Unit} (inv : AvatarInv first path a)
    (stored : a.writing i = true → ∃ text ∈ a.posted, a.world.files path = some text.toUTF8)
    (step : (avatarThreads ι sys userId fuel Unshared).step i (.call (.closeOut p)) a reply b) :
    b.writing i = false ∧ b.reading = a.reading ∧ b.posted = a.posted ∧
      AvatarInv first path b ∧ ∀ j ≠ i, AvatarRely path j a b := by
  obtain ⟨-, ⟨env, count, size, calm, -, performed⟩, noted⟩ := step
  simp only [StreamEffect.exec, exec, calm.closes] at performed
  obtain ⟨-, world⟩ := Prod.mk.inj performed
  have writes : b.writing = Function.update a.writing i false := by rw [noted]; rfl
  have reads : b.reading = a.reading := by rw [noted]; rfl
  have posted : b.posted = a.posted := by rw [noted]; rfl
  refine ⟨by rw [writes]; exact Function.update_self .., reads, posted, ⟨?_, ?_⟩, ?_⟩
  · intro j writing
    have other : j ≠ i := by
      rintro rfl
      rw [writes, Function.update_self] at writing
      cases writing
    rw [writes, Function.update_of_ne other] at writing
    obtain ⟨idle, others⟩ := inv.exclusive j writing
    rw [writes, reads]
    refine ⟨idle, fun k apart => ⟨?_, (others k apart).2⟩⟩
    by_cases own : k = i
    · rw [own, Function.update_self]
    · rw [Function.update_of_ne own]
      exact (others k apart).1
  · -- Once nobody writes, the file holds a whole text again.
    intro nobody data file
    rw [← world] at file
    cases own : a.writing i with
    | true =>
      obtain ⟨text, begun, whole⟩ := stored own
      rw [whole] at file
      exact .inr ⟨text, by rw [posted]; exact begun, (Option.some.inj file).symm⟩
    | false =>
      have idle (j : ι) : a.writing j = false := by
        by_cases same : j = i
        · rw [same, own]
        · have still := nobody j
          rwa [writes, Function.update_of_ne same] at still
      exact (inv.whole idle data file).mono (by rw [posted]; exact fun _ => id)
  · exact avatarRely_of_step noted (fun _ _ _ => by rw [world]) (by rw [world]; exact id)

/-- A chunk of the thread that writes. Who has stored the last chunk has stored the text. -/
theorem step_writeChunk {position written : Nat} {text : String} (inv : AvatarInv first path a)
    (owns : a.writing i = true) (begun : text ∈ a.posted) (more : position < text.toUTF8.size)
    (file : a.world.files path = some (text.toUTF8.extract 0 position))
    (step : (avatarThreads ι sys userId fuel Unshared).step i
      (.writeChunk path position (text.toUTF8.extract position text.toUTF8.size)) a written b) :
    0 < written ∧ position + written ≤ text.toUTF8.size ∧
      b.world.files path = some (text.toUTF8.extract 0 (position + written)) ∧
      b.writing i = decide (position + written < text.toUTF8.size) ∧ b.reading = a.reading ∧
      b.posted = a.posted ∧ AvatarInv first path b ∧ ∀ j ≠ i, AvatarRely path j a b := by
  obtain ⟨-, ⟨env, count, size, -, positive, performed⟩, noted⟩ := step
  have nothing (n : Nat) : ByteArray.empty.extract n ByteArray.empty.size = ByteArray.empty :=
    ByteArray.extract_eq_empty_iff.mpr (by simp)
  have start : a.world.files path = some (text.toUTF8.extract 0 position ++
      ByteArray.empty.extract position ByteArray.empty.size) := by
    rw [file, nothing, ByteArray.append_empty]
  have rest : (text.toUTF8.extract position text.toUTF8.size).size =
      text.toUTF8.size - position := by
    rw [ByteArray.size_extract, Nat.min_self]
  -- What the stream has stored is a front of the text, with nothing of an old file behind it.
  rw [exec_writeChunk (Nat.le_of_lt more) start] at performed
  obtain ⟨count, world⟩ := Prod.mk.inj performed
  have stored : b.world.files path = some (text.toUTF8.extract 0 (position + written)) := by
    rw [← world, count, nothing, ByteArray.append_empty]
    exact Function.update_self ..
  have writes : b.writing = Function.update a.writing i
      (decide (position + written < text.toUTF8.size)) := by
    have left : written < text.toUTF8.size - position ↔
        position + written < text.toUTF8.size := by omega
    rw [noted, AvatarState.note]
    simp only [rest, left]
  have reads : b.reading = a.reading := by rw [noted]; rfl
  have posted : b.posted = a.posted := by rw [noted]; rfl
  have fits : position + written ≤ text.toUTF8.size := by omega
  obtain ⟨idle, others⟩ := inv.exclusive i owns
  refine ⟨by omega, fits, stored, by rw [writes, Function.update_self], reads, posted,
    ⟨?_, ?_⟩, ?_⟩
  · intro j writing
    have same : j = i := by
      by_contra other
      rw [writes, Function.update_of_ne other, (others j other).1] at writing
      cases writing
    rw [same, writes, reads]
    refine ⟨idle, fun k other => ?_⟩
    rw [Function.update_of_ne other]
    exact others k other
  · -- With the last chunk the thread is done, and the front is the text.
    intro nobody data whole
    have done := nobody i
    rw [writes, Function.update_self, decide_eq_false_iff_not] at done
    have last : position + written = text.toUTF8.size := by omega
    rw [stored, last, ByteArray.extract_zero_size] at whole
    exact .inr ⟨text, by rw [posted]; exact begun, (Option.some.inj whole).symm⟩
  · refine avatarRely_of_step noted (fun j other busy => ?_) (by simp [stored])
    rw [(others j other).1, (others j other).2] at busy
    simp at busy

/-- The next chunk of a read, or its end. -/
theorem step_readChunk {p : String} {position : Nat} {chunk : ByteArray}
    (inv : AvatarInv first path a) (idle : a.writing i = false)
    (begun : position ≠ 0 → a.reading i = true)
    (step : (avatarThreads ι sys userId fuel Unshared).step i (.readChunk p position) a chunk b) :
    (∀ j, a.writing j = false) ∧ b.world = a.world ∧
      (∃ size > 0, chunk = ((a.world.files p).getD ByteArray.empty).extract position
        (position + size)) ∧
      b.writing = a.writing ∧ b.reading i = !chunk.isEmpty ∧ b.posted = a.posted ∧
      AvatarInv first path b ∧ ∀ j ≠ i, AvatarRely path j a b := by
  obtain ⟨apart, ⟨env, count, size, -, positive, performed⟩, noted⟩ := step
  obtain ⟨bytes, world⟩ := Prod.mk.inj performed
  have writes : b.writing = a.writing := by rw [noted]; rfl
  have reads : b.reading = Function.update a.reading i (!chunk.isEmpty) := by rw [noted]; rfl
  have posted : b.posted = a.posted := by rw [noted]; rfl
  -- Before the first chunk nobody writes by permission, and then because this thread reads.
  have nobody (j : ι) : a.writing j = false := by
    by_cases own : j = i
    · rw [own]
      exact idle
    cases position with
    | zero => exact apart j own
    | succ position =>
      by_contra writing
      have busy := ((inv.exclusive j (by simpa using writing)).2 i (Ne.symm own)).2
      rw [begun (by omega)] at busy
      cases busy
  refine ⟨nobody, world.symm, ⟨size, positive, bytes.symm⟩, writes,
    by rw [reads, Function.update_self], posted, ⟨?_, ?_⟩, ?_⟩
  · intro j writing
    rw [writes, nobody j] at writing
    cases writing
  · intro _ data file
    rw [← world] at file
    exact (inv.whole nobody data file).mono (by rw [posted]; exact fun _ => id)
  · exact avatarRely_of_step noted (fun _ _ _ => by rw [← world]) (by rw [← world]; exact id)

/-! ### What the loops come to -/

/-- A step of a thread while the invariant holds. -/
def avatarStep (sys : System) (userId : Int32) (fuel : Nat) (first : Option ByteArray)
    (path : String) (i : ι) (effect : StreamEffect) (a : AvatarState ι) (reply : effect.Reply)
    (b : AvatarState ι) : Prop :=
  AvatarInv first path a ∧ (avatarThreads ι sys userId fuel Unshared).step i effect a reply b

/-- A write among other threads, from a position that it has come to. -/
theorem safe_writeLoop {text : String} {calls position : Nat} {s : AvatarState ι}
    (fits : position ≤ text.toUTF8.size) (enough : text.toUTF8.size ≤ position + calls)
    (begun : text ∈ s.posted) (idle : s.reading i = false)
    (owns : position < text.toUTF8.size → s.writing i = true)
    (file : s.writing i = true → s.world.files path = some (text.toUTF8.extract 0 position)) :
    (writeLoop path text.toUTF8 calls position).Safe (avatarStep sys userId fuel first path i)
      (AvatarRely path i) (fun effect a => AvatarInv first path a → AvatarPre path i effect a)
      (fun result b => result = .ok () ∧ s.posted ⊆ b.posted ∧ b.reading i = false ∧
        (b.writing i = true → ∃ text ∈ b.posted, b.world.files path = some text.toUTF8)) s := by
  have ended {position : Nat} {s : AvatarState ι} (begun : text ∈ s.posted)
      (done : position = text.toUTF8.size)
      (file : s.writing i = true → s.world.files path = some (text.toUTF8.extract 0 position)) :
      s.writing i = true → ∃ text ∈ s.posted, s.world.files path = some text.toUTF8 := by
    intro writing
    rw [done, ByteArray.extract_zero_size] at file
    exact ⟨text, begun, file writing⟩
  -- The invariant of the loop: the file holds the text up to `position` while the thread writes.
  induction calls generalizing position s with
  | zero => exact ⟨rfl, fun _ => id, idle, ended begun (by omega) file⟩
  | succ calls ih =>
    rw [writeLoop]
    split
    next more =>
      intro a interfered
      -- The others have neither taken the file nor changed it.
      have writing : a.writing i = true := by
        rw [interfered.writing]
        exact owns more
      have stored : a.world.files path = some (text.toUTF8.extract 0 position) := by
        rw [interfered.held (.inl (owns more))]
        exact file (owns more)
      have posted := interfered.posted begun
      refine ⟨fun _ => ⟨rfl, writing, text, posted, more, stored, rfl⟩, ?_⟩
      rintro written b ⟨inv, step⟩
      obtain ⟨positive, further, chunk, writes, reads, texts, -⟩ :=
        step_writeChunk inv writing posted more stored step
      have quiet : b.reading i = false := by
        rw [reads, interfered.reading]
        exact idle
      refine (ih further (by omega) (by rw [texts]; exact posted) quiet ?_
        fun _ => chunk).mono ?_
      · intro left
        rw [writes]
        exact decide_eq_true left
      · rintro result final ⟨rfl, later, rest⟩
        refine ⟨rfl, List.Subset.trans (List.Subset.trans interfered.posted ?_) later, rest⟩
        rw [texts]
        exact fun _ => id
    next done => exact ⟨rfl, fun _ => id, idle, ended begun (by omega) file⟩

/-- A read among other threads, with what it has read so far. -/
theorem safe_readLoop {calls : Nat} {read : ByteArray} {s : AvatarState ι}
    (idle : s.writing i = false) (busy : read.size ≠ 0 → s.reading i = true ∧
      ∀ data, s.world.files path = some data → IsFront read data)
    (there : (s.world.files path).isSome) :
    (readLoop path calls read).Safe (avatarStep sys userId fuel first path i)
      (AvatarRely path i) (fun effect a => AvatarInv first path a → AvatarPre path i effect a)
      (fun result b => b.writing i = false ∧ ∀ data, result = .ok data →
        s.posted ⊆ b.posted ∧ b.reading i = false ∧ b.Known first data) s := by
  induction calls generalizing read s with
  | zero =>
    refine ⟨idle, ?_⟩
    rintro data ⟨⟩
  | succ calls ih =>
    intro a interfered
    have quiet : a.writing i = false := by
      rw [interfered.writing]
      exact idle
    have begun : read.size ≠ 0 → a.reading i = true := by
      rw [interfered.reading]
      exact fun some => (busy some).1
    obtain ⟨data, file⟩ := Option.isSome_iff_exists.mp (interfered.there there)
    -- While it is read the file stays as it is.
    have front : IsFront read data := by
      by_cases none : read.size = 0
      · rw [ByteArray.size_eq_zero_iff.mp none]
        exact isFront_empty data
      · have same := interfered.held (.inr (busy none).1)
        rw [file] at same
        exact (busy none).2 data same.symm
    refine ⟨fun _ => ⟨quiet, begun⟩, ?_⟩
    rintro (chunk : ByteArray) b ⟨inv, step⟩
    obtain ⟨nobody, world, ⟨size, positive, bytes⟩, writes, reads, texts, -⟩ :=
      step_readChunk inv quiet begun step
    rw [file, Option.getD_some] at bytes
    have known : b.Known first data :=
      (inv.whole nobody data file).mono (by rw [texts]; exact fun _ => id)
    dsimp only
    split
    next empty =>
      refine ⟨by rw [writes]; exact quiet, ?_⟩
      rintro result ⟨⟩
      rw [bytes, isEmpty_extract positive] at empty
      rw [front.whole empty]
      refine ⟨by rw [texts]; exact interfered.posted, ?_, known⟩
      rw [reads, bytes, (isEmpty_extract positive).mpr empty]
      rfl
    next more =>
      refine (ih (by rw [writes]; exact quiet) ?_ ?_).mono ?_
      · refine fun _ => ⟨by simpa [reads] using more, ?_⟩
        intro other same
        rw [world, file] at same
        rw [← Option.some.inj same, bytes]
        exact front.append size
      · rw [world, file]
        rfl
      · rintro result final ⟨still, ends⟩
        refine ⟨still, fun other same => ?_⟩
        obtain ⟨later, done, whole⟩ := ends other same
        refine ⟨List.Subset.trans interfered.posted ?_, done, whole⟩
        rw [texts] at later
        exact later

/-- An effect that keeps the files, of a thread that does not write. -/
theorem safe_keepsFiles {effect : Effect} {s : AvatarState ι} (keeps : effect.KeepsFiles)
    (idle : s.reading i = false) (free : s.writing i = false)
    {post : Except (Option Exn) effect.Reply → AvatarState ι → Prop}
    (continues : ∀ a reply b, (avatarThreads ι sys userId fuel Unshared).step i (.call effect) a
        reply b →
      s.posted ⊆ b.posted → b.reading i = false → b.writing i = false →
      b.world.files = a.world.files → post (.ok reply) b) :
    (Program.act (.call effect) .ret : StreamProg effect.Reply).Safe
      (avatarStep sys userId fuel first path i) (AvatarRely path i)
      (fun effect a => AvatarInv first path a → AvatarPre path i effect a) post s := by
  intro a interfered
  refine ⟨fun _ => ?_, ?_⟩
  · cases effect with
    | now | fileExists | createDirectory | openIn | closeFile => trivial
    | _ => exact keeps.elim
  · rintro reply b ⟨inv, step⟩
    obtain ⟨writes, reads, texts, files, -⟩ := step_keepsFiles keeps inv step
    refine continues a reply b step ?_ ?_ ?_ files
    · rw [texts]
      exact interfered.posted
    · rw [reads, interfered.reading, idle]
    · rw [writes, interfered.writing, free]

/-- The calls of an effect come to what the handler relies on. -/
theorem streamed_implements {effect : Effect} {s : AvatarState ι}
    (owes : AvatarOwes path i effect s) :
    (streamed fuel effect).Safe (avatarStep sys userId fuel first path i) (AvatarRely path i)
      (fun effect a => AvatarInv first path a → AvatarPre path i effect a)
      (implemented (AvatarComes first path i) (fun _ b => b.writing i = false) effect s) s := by
  obtain ⟨idle, owes⟩ := owes
  cases effect with
  -- Four effects touch the file, and each has its step lemma or its loop.
  | openOut p =>
    obtain ⟨own, free⟩ := owes
    intro a interfered
    have quiet : a.reading i = false := interfered.reading.trans idle
    refine ⟨fun _ => ⟨own, quiet⟩, ?_⟩
    rintro opened b ⟨inv, step⟩
    obtain ⟨answer, writing, still, texts, file, opened⟩ := step_openOut own quiet step
    have _ : AvatarInv first path b := opened.1
    exact ⟨texts ▸ interfered.posted, still, answer, writing, file⟩
  | writeFile p data =>
    obtain ⟨rfl, writing, file, text, begun, rfl⟩ := owes
    refine (safe_writeLoop (Nat.zero_le _) (by omega) begun idle (fun _ => writing)
      fun _ => by rw [file, ByteArray.extract_same]).mono ?_
    rintro result b ⟨rfl, posted, quiet, whole⟩
    exact ⟨posted, quiet, whole⟩
  | closeOut p =>
    intro a interfered
    have stored : a.writing i = true →
        ∃ text ∈ a.posted, a.world.files path = some text.toUTF8 := by
      intro writing
      rw [interfered.writing] at writing
      obtain ⟨text, begun, file⟩ := owes writing
      exact ⟨text, interfered.posted begun, by rw [interfered.held (.inl writing), file]⟩
    refine ⟨fun _ => stored, ?_⟩
    rintro reply b ⟨inv, step⟩
    obtain ⟨writes, reads, texts, -⟩ := step_closeOut inv stored step
    exact ⟨texts ▸ interfered.posted, by rw [reads, interfered.reading, idle], writes⟩
  | readFile p =>
    obtain ⟨rfl, free, there⟩ := owes
    refine (safe_readLoop free (fun some => absurd ByteArray.size_empty some) there).mono ?_
    rintro result b ⟨quiet, ends⟩
    cases result with
    | ok data =>
      obtain ⟨posted, still, known⟩ := ends data rfl
      exact ⟨posted, still, quiet, known⟩
    | error exn => exact quiet
  | openIn p =>
    obtain ⟨rfl, free⟩ := owes
    have keeps : (Effect.openIn p).KeepsFiles := trivial
    refine safe_keepsFiles keeps idle free fun a opened b step posted quiet still files => ?_
    refine ⟨posted, quiet, still, fun found => ?_⟩
    obtain ⟨-, ⟨env, count, size, -, -, performed⟩, -⟩ := step
    have answer : (env.opens count && (a.world.files p).isSome) = opened :=
      congrArg Prod.fst performed
    rw [found] at answer
    rw [files]
    exact (Bool.and_eq_true_iff.mp answer).2
  -- The others leave all files as they are.
  | now site =>
    exact safe_keepsFiles owes.1 idle owes.2 fun a reply b _ posted quiet still _ =>
      ⟨posted, quiet, still⟩
  | fileExists p =>
    exact safe_keepsFiles owes.1 idle owes.2 fun a reply b _ posted quiet still _ =>
      ⟨posted, quiet, still⟩
  | createDirectory p =>
    exact safe_keepsFiles owes.1 idle owes.2 fun a reply b _ posted quiet still _ =>
      ⟨posted, quiet, still⟩
  | closeFile p =>
    exact safe_keepsFiles owes.1 idle owes.2 fun a reply b _ posted quiet still _ =>
      ⟨posted, quiet, still⟩
  | _ => exact owes.1.elim

end Steps

/-! ### The two handlers -/

section Handlers

variable {sys : System} {userId : Int32} {first : Option ByteArray} {i : ι} {a b s : AvatarState ι}

/-- A thread that is not at the file, with the text of its update among those that have begun. -/
structure Ready (i : ι) (text : Option String) (a : AvatarState ι) : Prop where
  reading : a.reading i = false
  writing : a.writing i = false
  posted : ∀ s ∈ text, s ∈ a.posted

theorem Ready.later {text : Option String} (ready : Ready i text a) (posted : a.posted ⊆ b.posted)
    (reading : b.reading i = false) (writing : b.writing i = false) : Ready i text b :=
  ⟨reading, writing, fun s member => posted (ready.posted s member)⟩

/-- What a handler comes to, by what its effects come to. -/
abbrev HandlerSafe (userId : Int32) (first : Option ByteArray) (i : ι) {α : Type} (prog : Prog α)
    (post : Except Exn α → AvatarState ι → Prop) (s : AvatarState ι) : Prop :=
  prog.Safe (AvatarComes first (avatarPath userId) i) (· = ·) (AvatarOwes (avatarPath userId) i)
    post s

/-- The check of the token, by a thread that is not at the file. -/
theorem Ready.authenticate {text : Option String} {token : String} {res : HttpResponse}
    {next : String → Prog HttpResponse} {post : Except Exn HttpResponse → AvatarState ι → Prop}
    (ready : Ready i text s) (refused : ∀ b, Ready i text b → post (.ok res) b)
    (raised : ∀ exn b, Ready i text b → post (.error exn) b)
    (accepted : ∀ b, Ready i text b → HandlerSafe userId first i (next token) post b) :
    HandlerSafe userId first i ((JWTUtil.verifyToken sys token).bind fun accepted =>
      if accepted.isEmpty = true then .ret res else next accepted) post s := by
  refine safe_authenticate (Ready i text) ?_ ?_ ?_ refused raised accepted ready
  · rintro a b ready rfl
    exact ready
  · exact fun site a ready => ⟨ready.reading, trivial, ready.writing⟩
  · rintro site a reply b ready ⟨posted, reading, writing⟩
    exact ready.later posted reading writing

/-- The part of an update from the open on. -/
theorem Ready.save {version : Nat} {text : String} (ready : Ready i (some text) s)
    {post : Except Exn HttpResponse → AvatarState ι → Prop}
    (done : ∀ res b, b.writing i = false → post (.ok res) b) :
    HandlerSafe userId first i ((trigger (.openOut (avatarPath userId))).bind fun opened =>
      if (!opened) = true then
        .ret (buildErrorResponse .internalServerError version "Failed to save avatar")
      else
        (trigger (.writeFile (avatarPath userId) text.toUTF8)).bind fun _ =>
          (trigger (.closeOut (avatarPath userId))).bind fun _ =>
            .ret (buildSuccessResponse version (success "Avatar updated successfully")))
      post s := by
  refine Safe.alone ⟨ready.reading, rfl, ready.writing⟩ ?_
  rintro opened a ⟨posted, reading, rfl, writing, file⟩
  have begun : text ∈ a.posted := posted (ready.posted text rfl)
  refine Safe.alone ⟨reading, rfl, writing, file, text, begun, rfl⟩ ?_
  rintro ⟨⟩ b ⟨-, reading, whole⟩
  refine Safe.alone ⟨reading, whole⟩ ?_
  rintro ⟨⟩ c ⟨-, -, writing⟩
  exact done _ c writing

theorem Ready.handleUpdateAvatar {req : HttpRequest} (names : named sys req = some userId)
    (ready : Ready i (avatarForm sys req) s) :
    HandlerSafe userId first i (handleUpdateAvatar sys req)
      (fun _ b => b.writing i = false) s := by
  have failed {b : AvatarState ι} (exn : Exn) (writing : b.writing i = false) :
      orRefused (fun _ b => b.writing i = false) (.error exn) b :=
    ⟨fun _ _ => writing, fun _ => writing⟩
  refine safe_handler (ready.authenticate (fun b ready => ready.writing)
    (fun exn b ready => failed exn ready.writing) fun a ready => ?_)
  simp only [bind_eq]
  unfold parseBody
  cases parsed : sys.parse req.body with
  | none => exact failed _ ready.writing
  | some j =>
  simp only [ret_bind]
  split
  · exact ready.writing
  unfold stringField
  cases read : j.string? "avatar_data" with
  | none => exact failed _ ready.writing
  | some text =>
  have form : avatarForm sys req = some text := by simp [avatarForm, parsed, read]
  rw [form] at ready
  simp only [ret_bind]
  split
  · exact ready.writing
  rw [tokenUserId_of_tokenId names]
  simp only [ret_bind]
  -- `exists` and `create_directory` come before the file itself.
  refine Safe.alone ⟨ready.reading, trivial, ready.writing⟩ ?_
  rintro found b ⟨posted, reading, writing⟩
  have ready := ready.later posted reading writing
  cases found with
  | error exn => exact failed exn writing
  | ok found =>
    cases found with
    | true => exact ready.save fun _ _ => id
    | false =>
      refine Safe.alone ⟨ready.reading, trivial, ready.writing⟩ ?_
      rintro created c ⟨posted, reading, writing⟩
      cases created with
      | error exn => exact failed exn writing
      | ok created => exact (ready.later posted reading writing).save fun _ _ => id

theorem Ready.handleGetAvatar {req : HttpRequest} (names : named sys req = some userId)
    (ready : Ready i none s) :
    HandlerSafe userId first i (handleGetAvatar sys req) (AvatarPost first i (.read req)) s := by
  have turned {res : HttpResponse} {b : AvatarState ι} (writing : b.writing i = false)
      (status : res.status ≠ .ok) : AvatarPost first i (.read req) (.ok res : Except Exn _) b := by
    refine ⟨writing, ?_⟩
    rintro _ _ other ⟨⟩ answered
    exact absurd answered status
  have failed {b : AvatarState ι} (exn : Exn) (writing : b.writing i = false) :
      orRefused (AvatarPost first i (.read req)) (.error exn) b := by
    refine ⟨fun res status => turned writing status, fun exn => ⟨writing, ?_⟩⟩
    rintro _ _ res ⟨⟩
  refine safe_handler (ready.authenticate (fun b ready => turned ready.writing (by simp))
    (fun exn b ready => failed exn ready.writing) fun a ready => ?_)
  rw [tokenUserId_of_tokenId names]
  simp only [bind_eq, ret_bind]
  refine Safe.alone ⟨ready.reading, trivial, ready.writing⟩ ?_
  rintro found b ⟨posted, reading, writing⟩
  cases found with
  | error exn => exact failed exn writing
  | ok found =>
  simp only [ofExcept_ok, ret_bind]
  split
  · exact turned writing (by simp)
  -- A file that is not there cannot be opened, so the read below has one.
  refine Safe.alone ⟨reading, rfl, writing⟩ ?_
  rintro opened c ⟨-, reading, writing, there⟩
  simp only [ret_bind]
  split
  · exact turned writing (by simp)
  next opened =>
  refine Safe.alone ⟨reading, rfl, writing, there (by simpa using opened)⟩ ?_
  rintro data d ⟨-, reading, writing, known⟩
  refine Safe.alone ⟨reading, trivial, writing⟩ ?_
  rintro ⟨⟩ e ⟨posted, -, writing⟩
  simp only [ret_bind]
  split
  -- Bytes that are no text are not answered.
  next => exact failed _ writing
  next text utf8 =>
    refine ⟨writing, ?_⟩
    rintro other ⟨⟩ res ⟨⟩ -
    exact ⟨data, text, known.mono posted, utf8, rfl⟩

end Handlers

/-! ### Every run -/

section Runs

variable {sys : System} {userId : Int32} {fuel : Nat} {first : Option ByteArray}
  [DecidableEq ι]

/-- A request over streams, from its start. -/
theorem safe_program {i : ι} {call : AvatarCall} {s : AvatarState ι}
    (names : named sys call.request = some userId) (ready : Ready i (call.posts sys) s) :
    (avatarProtocol ι first (avatarPath userId)).SafeAt
      (avatarThreads ι sys userId fuel Unshared) i call (call.program sys fuel) s := by
  have refines (prog : Prog HttpResponse)
      (safe : HandlerSafe userId first i prog (AvatarPost first i call) s) :
      (avatarProtocol ι first (avatarPath userId)).SafeAt
        (avatarThreads ι sys userId fuel Unshared) i call (overStreams fuel prog) s := by
    refine (Safe.refine (fun effect before owes => streamed_implements owes) safe).mono ?_
    intro result b outcome
    cases result with
    | ok res =>
      refine ⟨outcome.1, fun req same other answer => outcome.2 req same other ?_⟩
      cases answer
      rfl
    | error exn =>
      rcases outcome with ⟨_, -, writing, -⟩ | writing
      · exact ⟨writing, by rintro _ _ res ⟨⟩⟩
      · exact ⟨writing, by rintro _ _ res ⟨⟩⟩
  cases call with
  | update req =>
    refine refines _ ((ready.handleUpdateAvatar names).mono fun result b writing => ⟨writing, ?_⟩)
    rintro _ ⟨⟩
  | read req => exact refines _ (ready.handleGetAvatar names)

/-- The start of a request by a thread that does not write. -/
theorem begin_kept {path : String} {i : ι} {call : AvatarCall} {a : AvatarState ι}
    (inv : AvatarInv first path a) (idle : a.writing i = false) :
    AvatarInv first path (a.begin sys i call) ∧ Ready i (call.posts sys) (a.begin sys i call) ∧
      ∀ j ≠ i, AvatarRely path j a (a.begin sys i call) := by
  have writes : (a.begin sys i call).writing = a.writing := by
    rw [AvatarState.begin, ← idle, Function.update_eq_self]
  have grown : a.posted ⊆ (a.begin sys i call).posted := List.subset_append_right ..
  refine ⟨⟨?_, ?_⟩, ⟨Function.update_self .., Function.update_self .., ?_⟩, ?_⟩
  · intro j writing
    rw [writes] at writing
    obtain ⟨quiet, others⟩ := inv.exclusive j writing
    have other : j ≠ i := by
      rintro rfl
      rw [idle] at writing
      cases writing
    refine ⟨(Function.update_of_ne other ..).trans quiet, fun k apart => ?_⟩
    rw [writes]
    refine ⟨(others k apart).1, ?_⟩
    by_cases own : k = i
    · rw [own]
      exact Function.update_self ..
    · exact (Function.update_of_ne own ..).trans (others k apart).2
  · intro nobody data file
    rw [writes] at nobody
    exact (inv.whole nobody data file).mono grown
  · -- The text of the request is among those that have begun.
    intro text posted
    exact List.mem_append_left _ (Option.mem_toList.mpr posted)
  · intro j other
    exact ⟨by rw [writes], Function.update_of_ne other .., grown, fun _ => rfl, id⟩

theorem avatarProtocol_sound : (avatarProtocol ι first (avatarPath userId)).Sound
    (avatarThreads ι sys userId fuel Unshared) where
  refl i a := AvatarRely.refl _ i a
  trans i a b c := AvatarRely.trans
  starts i call a b inv idle starts := by
    obtain ⟨names, rfl⟩ := starts
    obtain ⟨still, ready, others⟩ := begin_kept inv idle
    exact ⟨still, safe_program names ready, others⟩
  acts i effect a reply b inv owes step := by
    cases effect with
    | writeChunk p position data =>
      obtain ⟨rfl, writing, text, begun, more, file, rfl⟩ := owes
      exact (step_writeChunk inv writing begun more file step).2.2.2.2.2.2
    | readChunk p position =>
      exact (step_readChunk inv owes.1 owes.2 step).2.2.2.2.2.2
    | call effect =>
      by_cases keeps : effect.KeepsFiles
      · exact (step_keepsFiles keeps inv step).2.2.2.2
      cases effect with
      | openOut p => exact (step_openOut owes.1 owes.2 step).2.2.2.2.2
      | closeOut p => exact (step_closeOut inv owes step).2.2.2
      | _ => exact absurd owes keeps
  post_stable i call result a b := by
    rintro ⟨writing, known⟩ interfered
    refine ⟨interfered.writing.trans writing, fun req same res answer status => ?_⟩
    obtain ⟨data, text, stored, utf8, equal⟩ := known req same res answer status
    exact ⟨data, text, stored.mono interfered.posted, utf8, equal⟩
  idle_stable i a b idle interfered := interfered.writing.trans idle
  finishes i call result a outcome := outcome.1

theorem avatarInit_holds (w : World) :
    (avatarProtocol ι (w.files (avatarPath userId)) (avatarPath userId)).Holds
      (avatarThreads ι sys userId fuel Unshared) (avatarInit w) := by
  refine ⟨⟨?_, fun _ data file => .inl file⟩, fun _ => rfl⟩
  rintro i ⟨⟩

/-- In every interleaving of updates and reads in which nobody opens the file while another
thread writes or reads it, and nobody begins to read it while another thread writes it: a read
that is answered 200 returns exactly the text of an update that has begun, or the one that was
there at the start. -/
theorem avatarReads_whole {w : World} {c : Config ι StreamEffect StreamEffect.Reply (Option Exn)
      (fun _ : AvatarCall => HttpResponse) (AvatarState ι)}
    (reach : (avatarThreads ι sys userId fuel Unshared).Reachable (avatarInit w) c) {i : ι}
    {req : HttpRequest} {res : HttpResponse}
    (returned : (c.threads i).returned? = some ⟨.read req, res⟩) (status : res.status = .ok) :
    ∃ text, res = avatarAnswer req.version text ∧
      (text ∈ c.shared.posted ∨ w.files (avatarPath userId) = some text.toUTF8) := by
  have holds := (avatarInit_holds w).reachable avatarProtocol_sound reach
  obtain ⟨-, known⟩ := holds.post avatarProtocol_sound (Thread.returned?_eq_some.mp returned)
  obtain ⟨data, text, stored, utf8, equal⟩ := known req rfl res rfl status
  rw [fromUTF8?_eq_some] at utf8
  refine ⟨text, equal, ?_⟩
  -- The bytes are those of one text, so the answer has this text.
  rcases stored with initial | ⟨other, posted, same⟩
  · rw [utf8] at initial
    exact .inr initial
  · have texts : String.fromUTF8? other.toUTF8 = some text :=
      fromUTF8?_eq_some.mpr (same.symm.trans utf8)
    rw [fromUTF8?_eq_some.mpr rfl] at texts
    rw [← Option.some.inj texts]
    exact .inl posted

end Runs

end Protocol

section Sample

open Reference

/-- One call of a thread in a given environment, which moves at most some number of bytes. -/
def avatarExec {ι : Type} [DecidableEq ι] (sys : System) (i : ι) (choice : Env × Nat)
    (effect : StreamEffect) (a : AvatarState ι) : effect.Reply × AvatarState ι :=
  let (reply, world) := effect.exec sys choice.1 0 choice.2 a.world
  (reply, a.note i world effect reply)

/-- `Unshared`, as a test. -/
def leavesFile {ι : Type} [DecidableEq ι] [Fintype ι] (i : ι) (effect : StreamEffect)
    (a : AvatarState ι) : Bool :=
  match effect with
  | .call (.openOut _) => decide (∀ j, j ≠ i → a.writing j = false ∧ a.reading j = false)
  | .readChunk _ 0 => decide (∀ j, j ≠ i → a.writing j = false)
  | _ => true

theorem unshared_of_leavesFile {ι : Type} [DecidableEq ι] [Fintype ι] {i : ι}
    {effect : StreamEffect} {a : AvatarState ι} (leaves : leavesFile i effect a = true) :
    Unshared i effect a := by
  unfold leavesFile at leaves
  unfold Unshared
  split
  · exact of_decide_eq_true leaves
  · exact of_decide_eq_true leaves
  · trivial

theorem avatarStep_avatarExec {ι : Type} [DecidableEq ι] {sys : System} {userId : Int32}
    {fuel : Nat} {permits : ι → StreamEffect → AvatarState ι → Prop} {i : ι} {choice : Env × Nat}
    (calm : choice.1.FilesNeverFail) (positive : 0 < choice.2) {effect : StreamEffect}
    {a : AvatarState ι} (permitted : permits i effect a) :
    (avatarThreads ι sys userId fuel permits).step i effect a
      (avatarExec sys i choice effect a).1 (avatarExec sys i choice effect a).2 := by
  have world (w : World) (reply : effect.Reply) : (a.note i w effect reply).world = w := by
    cases effect with
    | call effect => cases effect <;> rfl
    | _ => rfl
  refine ⟨permitted, ?_, ?_⟩
  · exact ⟨choice.1, 0, choice.2, calm, positive, by simp only [avatarExec, world]⟩
  · simp only [avatarExec, world]

def getAvatar : HttpRequest := request .get "/users/avatar" [] tokenOfBob

/-- A call that moves one byte. -/
def byByte : Env × Nat := (env 0, 1)

/-- Bob has an avatar, and one thread is about to update it, the other to read it. -/
def requested : Config (Fin 2) StreamEffect StreamEffect.Reply (Option Exn)
    (fun _ : AvatarCall => HttpResponse) (AvatarState (Fin 2)) :=
  let update : AvatarCall := .update (postAvatar "ab")
  let read : AvatarCall := .read getAvatar
  ⟨(({ world := withAvatar "old" } : AvatarState (Fin 2)).begin system 0 update).begin
      system 1 read,
    Function.update (Function.update (fun _ => none) 0 (some ⟨update, update.program system 4⟩)) 1
      (some ⟨read, read.program system 4⟩)⟩

theorem requested_reachable (permits : Fin 2 → StreamEffect → AvatarState (Fin 2) → Prop) :
    (avatarThreads (Fin 2) system 1 4 permits).Reachable (avatarInit (withAvatar "old"))
      requested := by
  have names : named system (postAvatar "ab") = some 1 ∧ named system getAvatar = some 1 := by
    decide +kernel
  have start : (avatarThreads (Fin 2) system 1 4 permits).Reachable (avatarInit (withAvatar "old"))
      (avatarInit (withAvatar "old")) := .init
  have updates := start.start 0 (.update (postAvatar "ab")) trivial ⟨names.1, rfl⟩
  exact updates.start 1 (.read getAvatar) trivial ⟨names.2, rfl⟩

/-- The request of a thread that has ended, and the text it was answered with. -/
def textRead (thread : Thread StreamEffect StreamEffect.Reply (Option Exn)
    (fun _ : AvatarCall => HttpResponse)) : Option (AvatarCall × Status × Option String) :=
  thread.returned?.map fun job => (job.1, job.2.status, job.2.body.string? "avatar_data")

theorem returned_of_textRead {thread : Thread StreamEffect StreamEffect.Reply (Option Exn)
      (fun _ : AvatarCall => HttpResponse)} {call : AvatarCall} {text : String}
    (read : textRead thread = some (call, .ok, some text)) : ∃ res,
      thread.returned? = some ⟨call, res⟩ ∧ res.status = .ok ∧
        res.body.string? "avatar_data" = some text := by
  obtain ⟨⟨call, res⟩, returned, answer⟩ := Option.map_eq_some_iff.mp read
  simp only [Prod.mk.injEq] at answer
  obtain ⟨rfl, status, body⟩ := answer
  exact ⟨res, returned, status, body⟩

def readAfterUpdate : List (Fin 2 × (Env × Nat)) :=
  List.replicate 7 (0, byByte) ++ List.replicate 8 (1, byByte)

def readDuringUpdate : List (Fin 2 × (Env × Nat)) :=
  List.replicate 4 (0, byByte) ++ List.replicate 6 (1, byByte)

def wholeRead : Config (Fin 2) StreamEffect StreamEffect.Reply (Option Exn)
    (fun _ : AvatarCall => HttpResponse) (AvatarState (Fin 2)) :=
  requested.runSchedule (avatarExec system) readAfterUpdate

def emptyRead : Config (Fin 2) StreamEffect StreamEffect.Reply (Option Exn)
    (fun _ : AvatarCall => HttpResponse) (AvatarState (Fin 2)) :=
  requested.runSchedule (avatarExec system) readDuringUpdate

theorem wholeRead_reachable : (avatarThreads (Fin 2) system 1 4 Unshared).Reachable
    (avatarInit (withAvatar "old")) wholeRead := by
  refine (requested_reachable Unshared).runsWithin (fun i effect a _ => leavesFile i effect a)
    readAfterUpdate (by decide +kernel) fun i choice member effect a leaves => ?_
  simp only [readAfterUpdate, List.mem_append, List.mem_replicate, Prod.mk.injEq] at member
  obtain ⟨-, -, rfl⟩ | ⟨-, -, rfl⟩ := member
  · exact avatarStep_avatarExec (env_filesNeverFail 0) (by decide) (unshared_of_leavesFile leaves)
  · exact avatarStep_avatarExec (env_filesNeverFail 0) (by decide) (unshared_of_leavesFile leaves)

theorem emptyRead_reachable : (avatarThreads (Fin 2) system 1 4 fun _ _ _ => True).Reachable
    (avatarInit (withAvatar "old")) emptyRead := by
  refine (requested_reachable _).runSchedule readDuringUpdate fun i choice member effect a => ?_
  simp only [readDuringUpdate, List.mem_append, List.mem_replicate, Prod.mk.injEq] at member
  obtain ⟨-, -, rfl⟩ | ⟨-, -, rfl⟩ := member
  · exact avatarStep_avatarExec (env_filesNeverFail 0) (by decide) trivial
  · exact avatarStep_avatarExec (env_filesNeverFail 0) (by decide) trivial

/-- The read after the update returns its text. -/
theorem wholeRead_text : textRead (wholeRead.threads 1) =
    some (.read getAvatar, .ok, some "ab") := by
  decide +kernel

theorem avatarReads_whole_after : ∃ res text, (wholeRead.threads 1).returned? =
      some ⟨.read getAvatar, res⟩ ∧ res = avatarAnswer getAvatar.version text ∧
        (text ∈ wholeRead.shared.posted ∨
          (withAvatar "old").files (avatarPath 1) = some text.toUTF8) := by
  obtain ⟨res, returned, status, -⟩ := returned_of_textRead wholeRead_text
  obtain ⟨text, answer, known⟩ := avatarReads_whole wholeRead_reachable returned status
  exact ⟨res, text, returned, answer, known⟩

/-- The read between the open and the first chunk of the update returns the empty text. -/
theorem emptyRead_text : textRead (emptyRead.threads 1) =
      some (.read getAvatar, .ok, some "") ∧
    "" ∉ emptyRead.shared.posted ∧
      (withAvatar "old").files (avatarPath 1) ≠ some "".toUTF8 := by
  decide +kernel

/-- Nobody has posted an empty text. -/
theorem avatarReads_empty : ¬∀ (ι : Type) [DecidableEq ι] (sys : System) (userId : Int32)
    (fuel : Nat) (w : World) (c : Config ι StreamEffect StreamEffect.Reply (Option Exn)
      (fun _ : AvatarCall => HttpResponse) (AvatarState ι)) (i : ι) (req : HttpRequest)
    (res : HttpResponse),
    (avatarThreads ι sys userId fuel fun _ _ _ => True).Reachable (avatarInit w) c →
    (c.threads i).returned? = some ⟨.read req, res⟩ → res.status = .ok →
    ∃ text, res = avatarAnswer req.version text ∧
      (text ∈ c.shared.posted ∨ w.files (avatarPath userId) = some text.toUTF8) := by
  intro whole
  obtain ⟨read, unposted, different⟩ := emptyRead_text
  obtain ⟨res, returned, status, body⟩ := returned_of_textRead read
  obtain ⟨text, rfl, known⟩ := whole (Fin 2) system 1 4 _ _ 1 _ res emptyRead_reachable returned
    status
  have empty : text = "" := by
    simpa [avatarAnswer, Json.string?, List.lookup_cons] using body
  subst empty
  rcases known with posted | initial
  · exact unposted posted
  · exact different initial

end Sample

end MusicPlayer
