import MusicPlayer.Transfer.Pulling
import MusicPlayer.Utils.EmailUtil

/-!
# The upload of a mail

What curl gets through `readCallback`, however it cuts the content up: the pointer and `size_left`
advance together, and `size_left` is the number of bytes behind the pointer. So the effect
`curlPerform` may carry the content as a whole.
-/
namespace MusicPlayer

open Transfer EmailUtil

/-- A request of curl: the buffer as it was and the two factors of its size. -/
structure ReadRequest where
  ptr : List UInt8
  size : Nat
  nmemb : Nat
  positive : 0 < size * nmemb
  bounded : size * nmemb < 2 ^ 64
  room : size * nmemb ≤ ptr.length

namespace EmailUtil

/-- Curl takes as many bytes from its buffer as the returned number says. -/
def handOver (content : List UInt8) (d : EmailData) (request : ReadRequest) :
    Option (List UInt8 × EmailData) := do
  let (count, ptr, d) ← readCallback content request.ptr request.size request.nmemb d
  return (ptr.take count, d)

/-- The bytes that are left are those behind the pointer. -/
def EmailData.Inside (content : List UInt8) (d : EmailData) : Prop :=
  d.data + d.sizeLeft = content.length

variable {content ptr : List UInt8} {size nmemb : Nat} {d : EmailData}

theorem emailData_inside (content : List UInt8) : (emailData content).Inside content := by
  simp [EmailData.Inside, emailData]

theorem EmailData.Inside.length_drop (inside : d.Inside content) :
    (content.drop d.data).length = d.sizeLeft := by
  have total : d.data + d.sizeLeft = content.length := inside
  simp only [List.length_drop]
  omega

theorem memcpy_eq {src n : Nat} (within : src + n ≤ content.length) (room : n ≤ ptr.length) :
    memcpy ptr content src n = some ((content.drop src).take n ++ ptr.drop n) := by
  simp [memcpy, guard, within, room]

/-- With nothing left the callback copies nothing either. -/
theorem readCallback_eq (inside : d.Inside content) {n : Nat}
    (copied : n = min (size * nmemb % 2 ^ 64) d.sizeLeft) (room : n ≤ ptr.length) :
    readCallback content ptr size nmemb d = some (n, (content.drop d.data).take n ++ ptr.drop n,
      ⟨d.data + n, d.sizeLeft - n⟩) := by
  obtain ⟨data, sizeLeft⟩ := d
  have total : data + sizeLeft = content.length := inside
  simp only at copied ⊢
  by_cases finished : sizeLeft = 0
  · have nothing : n = 0 := by omega
    simp [readCallback, finished, nothing]
  · have within : data + n ≤ content.length := by omega
    simp only [readCallback, finished, ↓reduceIte, ← copied, memcpy_eq within room,
      Option.bind_eq_bind, Option.bind_some, Option.pure_def]

end EmailUtil

/-- A valid request gets the next bytes, as many as fit. -/
theorem readCallback_request {content : List UInt8} {d : EmailData} (inside : d.Inside content)
    (request : ReadRequest) {n : Nat} (copied : n = min (request.size * request.nmemb) d.sizeLeft) :
    readCallback content request.ptr request.size request.nmemb d =
      some (n, (content.drop d.data).take n ++ request.ptr.drop n,
        ⟨d.data + n, d.sizeLeft - n⟩) := by
  obtain ⟨ptr, size, nmemb, positive, bounded, room⟩ := request
  simp only at copied ⊢
  refine readCallback_eq inside ?_ (by omega)
  rw [Nat.mod_eq_of_lt bounded, copied]

theorem handOver_request {content : List UInt8} {d : EmailData} (inside : d.Inside content)
    (request : ReadRequest) {n : Nat} (copied : n = min (request.size * request.nmemb) d.sizeLeft) :
    handOver content d request =
      some ((content.drop d.data).take n, ⟨d.data + n, d.sizeLeft - n⟩) := by
  have length := inside.length_drop
  have exact : ((content.drop d.data).take n).length = n := by
    simp only [List.length_take, length]
    omega
  simp [handOver, readCallback_request inside request copied, List.take_left' exact]

/-- The callback hands out the content behind its pointer. -/
theorem handOver_handsOut (content : List UInt8) :
    HandsOut (handOver content) (EmailData.Inside content) (fun d => content.drop d.data)
      (fun request => request.size * request.nmemb) := by
  intro d request inside
  have total : d.data + d.sizeLeft = content.length := inside
  have length := inside.length_drop
  obtain ⟨n, copied⟩ : ∃ n, n = min (request.size * request.nmemb) d.sizeLeft := ⟨_, rfl⟩
  refine ⟨_, _, handOver_request inside request copied, ?_, ?_, ?_, ?_⟩
  · simp only [EmailData.Inside]
    omega
  · simp only [← List.drop_drop, List.take_append_drop]
  · simp only [List.length_take]
    omega
  · -- The request is positive, so nothing is copied only when nothing is left.
    have positive := request.positive
    rw [← List.length_eq_zero_iff, ← List.length_eq_zero_iff, List.length_take, length]
    omega

/-- The content reaches curl whole and in order, whatever curl asks for. -/
structure Uploaded (content : List UInt8) : Prop where
  /-- After any requests, none of which reads beyond the end of the content. -/
  pulled : ∀ requests : List ReadRequest, ∃ chunks d,
    pulls (handOver content) (emailData content) requests = some (chunks, d) ∧
      chunks.flatten <+: content ∧
      chunks.flatten.length + d.sizeLeft = content.length ∧
      List.Forall₂ (fun chunk request => chunk.length ≤ request.size * request.nmemb)
        chunks requests ∧
      ∀ next : ReadRequest, ∃ count ptr d',
        readCallback content next.ptr next.size next.nmemb d = some (count, ptr, d') ∧
          (count = 0 ↔ chunks.flatten = content)
  /-- Curl asks until it gets 0. -/
  received : ∀ (ask : List (List UInt8) → ReadRequest) (fuel : Nat), content.length < fuel →
    ∃ chunks, transfer (handOver content) ask fuel (emailData content) [] = some chunks ∧
      chunks.flatten = content

theorem uploaded (content : List UInt8) : Uploaded content := by
  have hands := handOver_handsOut content
  have start := emailData_inside content
  constructor
  · intro requests
    obtain ⟨chunks, d, pulled, inside, fronts, fit⟩ := hands.pulls start requests
    -- What was handed out and what is behind the pointer are the content.
    have whole : chunks.flatten ++ content.drop d.data = content := by
      simpa [emailData] using fronts
    have total : chunks.flatten.length + d.sizeLeft = content.length := by
      have lengths := congrArg List.length whole
      rw [List.length_append, inside.length_drop] at lengths
      exact lengths
    refine ⟨chunks, d, pulled, ⟨_, whole⟩, total, fit, fun next => ?_⟩
    refine ⟨_, _, _, readCallback_request inside next rfl, ?_⟩
    have positive := next.positive
    constructor
    · intro nothing
      refine List.IsPrefix.eq_of_length ⟨_, whole⟩ ?_
      omega
    · intro everything
      rw [everything] at total
      omega
  · intro ask fuel enough
    obtain ⟨chunks, ended, all⟩ := hands.transfer ask start [] (by simpa [emailData] using enough)
    exact ⟨chunks, ended, by simpa [emailData] using all⟩

/-- A request for which curl has a buffer of two bytes. -/
def twoBytes : ReadRequest where
  ptr := [0, 0]
  size := 1
  nmemb := 2
  positive := by decide
  bounded := by decide
  room := by decide

/-- Three bytes go through such a buffer in two chunks. -/
example : transfer (handOver [97, 98, 99]) (fun _ => twoBytes) 4 (emailData [97, 98, 99]) [] =
    some [[97, 98], [99]] := by decide

end MusicPlayer
