import Mathlib.Data.List.Basic

/-!
# Header lines and a body

A message is a list of header lines, an empty line and a body. Lines are separated by CR LF. What
is printed so is split again into the same lines and the same body, provided that no header line
is empty or holds a CR.
-/
namespace Messages

def crlf : List Char := ['\r', '\n']

/-- The header lines, each with its end, an empty line and the body. -/
def message (headers : List (List Char)) (body : List Char) : List Char :=
  crlf.intercalate headers ++ crlf ++ crlf ++ body

/-- Split at every CR LF. -/
def lines : List Char → List (List Char)
  | [] => [[]]
  | '\r' :: '\n' :: rest => [] :: lines rest
  | c :: rest => (lines rest).modifyHead (c :: ·)

/-- Split at the first empty line, into what is before it and what is after it. -/
def splitEmptyLine : List Char → Option (List Char × List Char)
  | [] => none
  | '\r' :: '\n' :: '\r' :: '\n' :: rest => some ([], rest)
  | c :: rest => (splitEmptyLine rest).map fun (before, after) => (c :: before, after)

/-- A line that can be a header. -/
structure HeaderLine (line : List Char) : Prop where
  nonempty : line ≠ []
  noReturn : '\r' ∉ line

section Lines

variable {line rest : List Char}

theorem lines_append (clean : '\r' ∉ line) (rest : List Char) :
    lines (line ++ rest) = (lines rest).modifyHead (line ++ ·) := by
  induction line with
  | nil => cases split : lines rest <;> simp [split]
  | cons c line ih =>
    have other : c ≠ '\r' := fun same => clean (by simp [same])
    have more := ih fun member => clean (List.mem_cons_of_mem c member)
    rw [List.cons_append, lines, more]
    · cases lines rest <;> rfl
    · intro tail same
      exact absurd same other

theorem lines_of_clean (clean : '\r' ∉ line) : lines line = [line] := by
  simpa [lines] using lines_append clean []

theorem lines_append_crlf (clean : '\r' ∉ line) :
    lines (line ++ crlf ++ rest) = line :: lines rest := by
  rw [List.append_assoc, lines_append clean]
  simp [crlf, lines]

/-- Lines that are put together with CR LF between them are split again. -/
theorem lines_intercalate {headers : List (List Char)} (nonempty : headers ≠ [])
    (clean : ∀ line ∈ headers, HeaderLine line) :
    lines (crlf.intercalate headers) = headers := by
  induction headers with
  | nil => exact absurd rfl nonempty
  | cons line headers ih =>
    have first := (clean line List.mem_cons_self).noReturn
    cases headers with
    | nil => rw [List.intercalate_singleton, lines_of_clean first]
    | cons next headers =>
      have more := ih (by simp) fun line member => clean line (List.mem_cons_of_mem _ member)
      rw [List.intercalate_cons_cons, lines_append_crlf first, more]

end Lines

section EmptyLine

variable {line rest : List Char}

theorem splitEmptyLine_append (clean : '\r' ∉ line) :
    splitEmptyLine (line ++ rest) =
      (splitEmptyLine rest).map fun (before, after) => (line ++ before, after) := by
  induction line with
  | nil => simp
  | cons c line ih =>
    have other : c ≠ '\r' := fun same => clean (by simp [same])
    have more := ih fun member => clean (List.mem_cons_of_mem c member)
    rw [List.cons_append, splitEmptyLine, more]
    · cases splitEmptyLine rest <;> rfl
    · intro tail same
      exact absurd same other

/-- A line end in front of a line that is not empty does not make an empty line. -/
theorem splitEmptyLine_crlf (clean : HeaderLine line) :
    splitEmptyLine (crlf ++ (line ++ rest)) =
      (splitEmptyLine (line ++ rest)).map fun (before, after) => (crlf ++ before, after) := by
  obtain ⟨c, line, rfl⟩ := List.exists_cons_of_ne_nil clean.nonempty
  have other : c ≠ '\r' := fun same => clean.noReturn (by simp [same])
  rw [crlf, List.cons_append, List.cons_append, List.nil_append, List.cons_append]
  rw [splitEmptyLine, splitEmptyLine]
  · cases splitEmptyLine (c :: (line ++ rest)) <;> rfl
  · simp
  · simp [other]

theorem message_cons_cons (line next : List Char) (headers : List (List Char))
    (body : List Char) :
    message (line :: next :: headers) body = line ++ (crlf ++ message (next :: headers) body) := by
  simp [message, List.intercalate_cons_cons]

theorem exists_message_cons (line : List Char) (headers : List (List Char)) (body : List Char) :
    ∃ rest, message (line :: headers) body = line ++ rest := by
  cases headers with
  | nil => exact ⟨crlf ++ crlf ++ body, by simp [message]⟩
  | cons next headers => exact ⟨_, message_cons_cons line next headers body⟩

/-- A message is split into what it is made of. -/
theorem splitEmptyLine_message {headers : List (List Char)} (nonempty : headers ≠ [])
    (clean : ∀ line ∈ headers, HeaderLine line) (body : List Char) :
    splitEmptyLine (message headers body) = some (crlf.intercalate headers, body) := by
  induction headers with
  | nil => exact absurd rfl nonempty
  | cons line headers ih =>
    have first := clean line List.mem_cons_self
    cases headers with
    | nil =>
      have printed : message [line] body = line ++ (crlf ++ crlf ++ body) := by simp [message]
      rw [printed, splitEmptyLine_append first.noReturn]
      simp [crlf, splitEmptyLine]
    | cons next headers =>
      have rest : ∀ line ∈ next :: headers, HeaderLine line :=
        fun line member => clean line (List.mem_cons_of_mem _ member)
      have more := ih (by simp) rest
      obtain ⟨tail, starts⟩ := exists_message_cons next headers body
      rw [starts] at more
      -- the line end is not the first half of an empty line, as `next` comes after it
      rw [message_cons_cons, starts, splitEmptyLine_append first.noReturn,
        splitEmptyLine_crlf (rest next List.mem_cons_self), more]
      simp [List.intercalate_cons_cons]

end EmptyLine

end Messages
