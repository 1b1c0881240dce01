import MusicPlayer.Resumption.Refinement
import MusicPlayer.Resumption.Schedule
import MusicPlayer.Handlers.UserHandler

/-!
# Requests over the chunks of a file

The workers of the server handle requests at the same time, and a stream does not write or read
a file at once. Here a write is a loop of calls that each store some bytes at the position of
the stream, and a read is a loop of calls that each return some, until one returns none. How
many bytes a call moves is not the choice of the program.

A request that is alone over its streams does what it does with whole files.
-/
namespace MusicPlayer

open Resumption Program

/-- The effects of a request whose files are streams. -/
inductive StreamEffect where
  | call (effect : Effect)
  /-- `write` of what is left, at the position of the stream. -/
  | writeChunk (path : String) (position : Nat) (data : ByteArray)
  /-- `read` at the position of the stream. -/
  | readChunk (path : String) (position : Nat)

@[reducible] def StreamEffect.Reply : StreamEffect → Type
  | .call effect => effect.Reply
  | .writeChunk .. => Nat
  | .readChunk .. => ByteArray

/-- `none` is raised by a read that has not come to an end yet. -/
abbrev StreamProg (α : Type) := Program StreamEffect StreamEffect.Reply (Option Exn) α

/-- Write until nothing is left. Every call stores at least one byte, so as many calls as there
are bytes are enough. -/
def writeLoop (path : String) (data : ByteArray) : Nat → Nat → StreamProg Unit
  | 0, _ => .ret ()
  | fuel + 1, position =>
    if position < data.size then
      .act (.writeChunk path position (data.extract position data.size)) fun (written : Nat) =>
        writeLoop path data fuel (position + written)
    else .ret ()

/-- Read until a call returns nothing. -/
def readLoop (path : String) : Nat → ByteArray → StreamProg ByteArray
  | 0, _ => .raise none
  | fuel + 1, read =>
    .act (.readChunk path read.size) fun (chunk : ByteArray) =>
      if chunk.isEmpty then .ret read else readLoop path fuel (read ++ chunk)

/-- The calls of an effect; a read makes at most `fuel` of them. -/
def streamed (fuel : Nat) : (effect : Effect) → StreamProg effect.Reply
  | .writeFile path data => writeLoop path data data.size 0
  | .readFile path => readLoop path fuel ByteArray.empty
  | effect => .act (.call effect) .ret

/-- A handler whose files are streams. -/
def overStreams {α : Type} (fuel : Nat) (prog : Prog α) : StreamProg α :=
  prog.refine (streamed fuel) some

/-- A write at a position. What lies between the end of the file and the position is zero. -/
def writeAt (old : ByteArray) (position : Nat) (data : ByteArray) : ByteArray :=
  old.extract 0 position ++ ⟨Array.replicate (position - old.size) 0⟩ ++ data ++
    old.extract (position + data.size) old.size

/-- One call, which moves at most `size` bytes. -/
def StreamEffect.exec (sys : System) (env : Env) (count size : Nat) :
    (effect : StreamEffect) → World → effect.Reply × World
  | .call effect, w => MusicPlayer.exec sys env count effect w
  | .writeChunk path position data, w =>
    let old := (w.files path).getD ByteArray.empty
    (min size data.size, { w with
      files := Function.update w.files path (some (writeAt old position (data.extract 0 size))) })
  | .readChunk path position, w =>
    (((w.files path).getD ByteArray.empty).extract position (position + size), w)

/-- One effect, while no file operation fails. -/
def CalmStep (sys : System) (effect : Effect) (before : World) (reply : effect.Reply)
    (after : World) : Prop :=
  ∃ env count, env.FilesNeverFail ∧ exec sys env count effect before = (reply, after)

def StreamStep (sys : System) (effect : StreamEffect) (before : World) (reply : effect.Reply)
    (after : World) : Prop :=
  ∃ env count size, env.FilesNeverFail ∧ 0 < size ∧
    effect.exec sys env count size before = (reply, after)

/-! ### Bytes -/

/-- The next chunk is empty exactly at the end of the file. -/
theorem isEmpty_extract {data : ByteArray} {position size : Nat} (positive : 0 < size) :
    (data.extract position (position + size)).isEmpty = true ↔ data.size ≤ position := by
  rw [ByteArray.isEmpty, beq_iff_eq, ByteArray.size_extract]
  omega

/-- A front of a file is known by its length. -/
def IsFront (read data : ByteArray) : Prop := read = data.extract 0 read.size

theorem isFront_extract (data : ByteArray) (n : Nat) : IsFront (data.extract 0 n) data := by
  rw [IsFront, ByteArray.size_extract, ByteArray.ext_iff]
  simp only [ByteArray.data_extract, Array.extract_eq_extract_right, ByteArray.size_data]
  omega

theorem isFront_empty (data : ByteArray) : IsFront ByteArray.empty data := by
  rw [IsFront, ByteArray.size_empty, ByteArray.extract_same]

theorem IsFront.size_le {read data : ByteArray} (front : IsFront read data) :
    read.size ≤ data.size := by
  have sizes := congrArg ByteArray.size front
  rw [ByteArray.size_extract] at sizes
  omega

/-- What has been read together with the next chunk. -/
theorem IsFront.append {read data : ByteArray} (front : IsFront read data) (size : Nat) :
    IsFront (read ++ data.extract read.size (read.size + size)) data := by
  have start : data.extract 0 read.size = read := front.symm
  have grown : data.extract 0 (read.size + size) =
      read ++ data.extract read.size (read.size + size) := by
    rw [ByteArray.extract_eq_extract_append_extract read.size (by omega) (by omega), start]
  rw [← grown]
  exact isFront_extract data _

/-- A front that is no shorter than the file is the file. -/
theorem IsFront.whole {read data : ByteArray} (front : IsFront read data)
    (long : data.size ≤ read.size) : read = data := by
  have bound : max read.size data.size = read.size := Nat.max_eq_left long
  rw [front, ← bound, ByteArray.extract_zero_max_size]

/-- The next bytes of a text, at the end of what a stream has written of it. -/
theorem writeAt_chunk {data old : ByteArray} {position n : Nat} (fits : position + n ≤ data.size) :
    writeAt (data.extract 0 position ++ old.extract position old.size) position
        (data.extract position (position + n)) =
      data.extract 0 (position + n) ++ old.extract (position + n) old.size := by
  have front : position = (data.extract 0 position).size := by
    rw [ByteArray.size_extract]
    omega
  have chunk : (data.extract position (position + n)).size = n := by
    rw [ByteArray.size_extract]
    omega
  have back : (old.extract position old.size).size = old.size - position := by
    rw [ByteArray.size_extract]
    omega
  -- The position is inside the file, so nothing is filled up.
  have gap : position - (data.extract 0 position ++ old.extract position old.size).size = 0 := by
    rw [ByteArray.size_append, ← front]
    omega
  have after : (data.extract 0 position ++ old.extract position old.size).extract (position + n)
      (data.extract 0 position ++ old.extract position old.size).size =
        old.extract (position + n) old.size := by
    rw [ByteArray.size_append, ← front, ByteArray.extract_append_size_add' front,
      ByteArray.extract_extract, back]
    congr 1
    omega
  -- The front and the chunk together are the longer front.
  have grown : data.extract 0 position ++ data.extract position (position + n) =
      data.extract 0 (position + n) :=
    (ByteArray.extract_eq_extract_append_extract position (by omega) (by omega)).symm
  rw [writeAt, gap, chunk, after, ByteArray.extract_append_eq_left front]
  change data.extract 0 position ++ ByteArray.empty ++ _ ++ _ = _
  rw [ByteArray.append_empty, grown]

/-! ### Alone -/

section Alone

variable {sys : System} {path : String} {w : World}

/-- One call of a write: some bytes more of the text are in the file. -/
theorem exec_writeChunk {env : Env} {count size : Nat} {data old : ByteArray} {position : Nat}
    (fits : position ≤ data.size) (file : w.files path =
      some (data.extract 0 position ++ old.extract position old.size)) :
    (StreamEffect.writeChunk path position (data.extract position data.size)).exec sys env count
        size w =
      (min size (data.size - position), { w with
        files := Function.update w.files path
          (some (data.extract 0 (position + min size (data.size - position)) ++
            old.extract (position + min size (data.size - position)) old.size)) }) := by
  have rest : (data.extract position data.size).size = data.size - position := by
    rw [ByteArray.size_extract, Nat.min_self]
  -- The bytes that the call stores, counted from the start of the text.
  have chunk : (data.extract position data.size).extract 0 size =
      data.extract position (position + min size (data.size - position)) := by
    rw [ByteArray.extract_extract]
    congr 1
    omega
  simp only [StreamEffect.exec, file, Option.getD_some, chunk, rest]
  rw [writeAt_chunk (by omega)]

/-- A write that nobody interferes with, from a position that it has come to. -/
theorem wp_writeLoop {data old : ByteArray} {fuel position : Nat} (fits : position ≤ data.size)
    (enough : data.size ≤ position + fuel) (file : w.files path =
      some (data.extract 0 position ++ old.extract position old.size)) :
    (writeLoop path data fuel position).Wp (StreamStep sys) (fun result after => result = .ok () ∧
      after = { w with
        files := Function.update w.files path (some (overwrite old data)) }) w := by
  -- A write that has come to the end of the text has nothing left to do.
  have ended {w : World} (file : w.files path =
      some (data.extract 0 data.size ++ old.extract data.size old.size)) :
      w = { w with files := Function.update w.files path (some (overwrite old data)) } := by
    rw [ByteArray.extract_zero_size] at file
    rw [overwrite, ← file, Function.update_eq_self]
  induction fuel generalizing position w with
  | zero =>
    have done : position = data.size := by omega
    rw [done] at file
    exact ⟨rfl, ended file⟩
  | succ fuel ih =>
    rw [writeLoop]
    split
    next more =>
      rw [wp_act]
      rintro written after ⟨env, count, size, -, positive, performed⟩
      rw [exec_writeChunk fits file] at performed
      obtain ⟨rfl, rfl⟩ := Prod.mk.inj performed
      have further : position + min size (data.size - position) ≤ data.size := by omega
      refine (ih further (by omega) (Function.update_self ..)).mono ?_
      rintro result final ⟨rfl, rfl⟩
      exact ⟨rfl, by rw [Function.update_idem]⟩
    next done =>
      have done : position = data.size := by omega
      rw [done] at file
      exact ⟨rfl, ended file⟩

/-- A read that nobody interferes with returns the file, if it may make enough calls. -/
theorem wp_readLoop {data : ByteArray} {fuel : Nat} {read : ByteArray}
    (file : (w.files path).getD ByteArray.empty = data) (front : IsFront read data) :
    (readLoop path fuel read).Wp (StreamStep sys) (fun result after => after = w ∧
      (result = .ok data ∨ result = .error none ∧ read.size + fuel ≤ data.size)) w := by
  induction fuel generalizing read with
  | zero => exact ⟨rfl, .inr ⟨rfl, front.size_le⟩⟩
  | succ fuel ih =>
    rw [readLoop, wp_act]
    rintro chunk after ⟨env, count, size, -, positive, performed⟩
    obtain ⟨rfl, rfl⟩ := Prod.mk.inj performed
    rw [file]
    split
    -- A read of nothing is the end of the file, and what was read is all of it.
    next empty =>
      rw [isEmpty_extract positive] at empty
      rw [front.whole empty]
      exact ⟨rfl, .inl rfl⟩
    next more =>
      rw [isEmpty_extract positive] at more
      apply (ih (front.append size)).mono
      rintro result final ⟨rfl, rfl | ⟨rfl, short⟩⟩
      · exact ⟨rfl, .inl rfl⟩
      · rw [ByteArray.size_append, ByteArray.size_extract] at short
        exact ⟨rfl, .inr ⟨rfl, by omega⟩⟩

/-- A stream writes to a file that is there. -/
def FilesThere (effect : Effect) (w : World) : Prop :=
  match effect with
  | .writeFile path _ => (w.files path).isSome
  | _ => True

/-- Alone over its streams, a program comes to what it comes to with whole files. -/
theorem wp_overStreams {α : Type} {prog : Prog α} {post : Except Exn α → World → Prop}
    (fuel : Nat) (safe : prog.Safe (CalmStep sys) (· = ·) FilesThere post w) :
    (overStreams fuel prog).Wp (StreamStep sys)
      (embedded some post fun exn _ => exn = none) w := by
  refine Safe.refine ?_ safe
  intro effect before owed
  -- An effect that is one call is answered as before.
  have once {effect : Effect} (call : streamed fuel effect = .act (.call effect) .ret) :
      (streamed fuel effect).Wp (StreamStep sys)
        (implemented (CalmStep sys) (fun exn _ => exn = none) effect before) before := by
    rw [call, wp_act]
    rintro reply after ⟨env, count, size, calm, -, performed⟩
    exact ⟨env, count, calm, performed⟩
  let env : Env := { clock := fun _ => 0 }
  have calm : env.FilesNeverFail := ⟨fun _ => rfl, fun _ => rfl, fun _ => rfl, fun _ => rfl⟩
  cases effect with
  | writeFile path data =>
    obtain ⟨old, file⟩ := Option.isSome_iff_exists.mp owed
    have start : before.files path =
        some (data.extract 0 0 ++ old.extract 0 old.size) := by
      rw [file, ByteArray.extract_same, ByteArray.extract_zero_size, ByteArray.empty_append]
    refine (wp_writeLoop (Nat.zero_le _) (by omega) start).mono ?_
    rintro result after ⟨rfl, rfl⟩
    refine ⟨env, 0, calm, ?_⟩
    simp only [exec, env, file, Option.getD_some]
  | readFile path =>
    apply (wp_readLoop rfl (isFront_empty _)).mono
    rintro result after ⟨rfl, rfl | ⟨rfl, -⟩⟩
    · exact ⟨env, 0, calm, rfl⟩
    · rfl
  | _ => exact once rfl

end Alone

end MusicPlayer
