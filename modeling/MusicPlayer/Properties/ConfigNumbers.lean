import MusicPlayer.Properties.ConfigLoads
import Mathlib.Algebra.Group.Int.Defs

/-!
# The numbers of the configuration

A load takes any integer for an integer field, and keeps the bits that the type of the field has
room for.
-/
namespace MusicPlayer

open Utils Loading Requirement Config

/-- An integer field: where the file has it, the numbers that its type has room for, from `low`
up to but not including `high`, and the number that a configuration has. -/
structure IntegerField where
  section_ : String
  key : String
  low : Int
  high : Int
  stored : Config → Int

def integerFields : List IntegerField :=
  [⟨"database", "port", 0, 2 ^ 16, fun c => c.database.port.toNat⟩,
    ⟨"database", "connection_pool_size", 0, 2 ^ 64, fun c => c.database.connectionPoolSize.toNat⟩,
    ⟨"database", "connection_timeout", 0, 2 ^ 32, fun c => c.database.connectionTimeout.toNat⟩,
    ⟨"server", "port", 0, 2 ^ 16, fun c => c.server.port.toNat⟩,
    ⟨"server", "threads", -2 ^ 31, 2 ^ 31, fun c => c.server.threads.toInt⟩,
    ⟨"server", "request_timeout", 0, 2 ^ 32, fun c => c.server.requestTimeout.toNat⟩,
    ⟨"jwt", "expire_time", 0, 2 ^ 32, fun c => c.jwt.expireTime.toNat⟩,
    ⟨"verify_service", "verification_code_expiry", -2 ^ 31, 2 ^ 31,
      fun c => c.verifyService.verficationCodeExpiry.toInt⟩]

namespace IntegerField

/-- The number in the file. -/
def number (f : IntegerField) (j : Json) : Option Int := numberAt f.section_ f.key j

def Fits (f : IntegerField) (n : Int) : Prop := f.low ≤ n ∧ n < f.high

end IntegerField

/-- Every number in the file has room in its field. -/
def NumbersFit (j : Json) : Prop :=
  ∀ f ∈ integerFields, ∀ n, f.number j = some n → f.Fits n

/-- A load that succeeds stores the numbers of the file, and one with a number that has no room
fails. -/
structure NumbersKept (j : Json) (result : Bool × Config) : Prop where
  exact : result.1 = true →
    ∀ f ∈ integerFields, ∀ n, f.number j = some n → f.stored result.2 = n
  refuses : ¬NumbersFit j → result.1 = false

section Conversion

variable {n : Int}

theorem uint16_ofInt_iff : ((UInt16.ofInt n).toNat : Int) = n ↔ 0 ≤ n ∧ n < 2 ^ 16 := by
  simp only [UInt16.ofInt, UInt16.toNat_ofNat']
  omega

theorem uint32_ofInt_iff : ((UInt32.ofInt n).toNat : Int) = n ↔ 0 ≤ n ∧ n < 2 ^ 32 := by
  simp only [UInt32.ofInt, UInt32.toNat_ofNat']
  omega

theorem uint64_ofInt_iff : ((UInt64.ofInt n).toNat : Int) = n ↔ 0 ≤ n ∧ n < 2 ^ 64 := by
  simp only [UInt64.ofInt, UInt64.toNat_ofNat']
  omega

theorem int32_ofInt_iff : (Int32.ofInt n).toInt = n ↔ -2 ^ 31 ≤ n ∧ n < 2 ^ 31 := by
  rw [Int32.toInt_ofInt, Int.bmod_def]
  simp only [Int32.size]
  omega

end Conversion

section Load

variable {j : Json} {parse : String → Option Json} {file : Option String}

/-- A load that succeeds has assigned every field that the file gives. -/
theorem holds_of_loadable (loads : loadable j = true) (before : Config) :
    ∀ r ∈ requirements, r.found j → r.Holds j (assign j requirements before) := by
  intro r member found
  by_cases mail : (part "verify_service" j).isSome
  · have loaded : Loaded j requirements before _ := loaded_assign requirements_pairwise before
    exact loaded.holds (all_found_of_loadable loads mail) member
  · have absent : part "verify_service" j = none := by simpa using mail
    have core : coreRequirements.all (Requirement.found j) := by
      rw [loadable, Bool.and_eq_true] at loads
      exact loads.1
    rw [requirements, assign_append_of_found core, mailRequirements, sectionRequirements,
      assign_inside_none absent]
    have apart := (List.pairwise_append.mp requirements_pairwise).1
    have loaded : Loaded j coreRequirements before _ := loaded_assign apart before
    rcases List.mem_append.mp member with member | member
    · exact loaded.holds core member
    · simp only [mailRequirements, sectionRequirements, List.mem_map] at member
      obtain ⟨_, -, rfl⟩ := member
      simp [Requirement.found, inside, absent] at found

/-- The integer fields are the numbers of the file, converted. -/
structure Converted (j : Json) (c : Config) : Prop where
  databasePort : ∀ n, numberAt "database" "port" j = some n → c.database.port = .ofInt n
  connectionPoolSize : ∀ n, numberAt "database" "connection_pool_size" j = some n →
    c.database.connectionPoolSize = .ofInt n
  connectionTimeout : ∀ n, numberAt "database" "connection_timeout" j = some n →
    c.database.connectionTimeout = .ofInt n
  serverPort : ∀ n, numberAt "server" "port" j = some n → c.server.port = .ofInt n
  threads : ∀ n, numberAt "server" "threads" j = some n → c.server.threads = .ofInt n
  requestTimeout : ∀ n, numberAt "server" "request_timeout" j = some n →
    c.server.requestTimeout = .ofInt n
  expireTime : ∀ n, numberAt "jwt" "expire_time" j = some n → c.jwt.expireTime = .ofInt n
  codeExpiry : ∀ n, numberAt "verify_service" "verification_code_expiry" j = some n →
    c.verifyService.verficationCodeExpiry = .ofInt n

theorem converted_of_loadable (loads : loadable j = true) (before : Config) :
    Converted j (assign j requirements before) := by
  have number {key field : String} {β : Type} {convert : Int → β} {b : β}
      (holds : ((part key j).bind fun d => (d.integer? field).map convert).isSome →
        ((part key j).bind fun d => (d.integer? field).map convert) = some b) :
      ∀ n, numberAt key field j = some n → b = convert n := by
    intro n given
    obtain ⟨d, present, read⟩ := Option.bind_eq_some_iff.mp given
    simpa [present, read, eq_comm] using holds
  have holds := holds_of_loadable loads before
  generalize assign j requirements before = c at holds
  simp only [requirements, coreRequirements, mailRequirements, sectionRequirements,
    databaseRequirements, serverRequirements, jwtRequirements, logRequirements,
    verifyServiceRequirements, List.map_cons, List.map_nil, List.cons_append, List.nil_append,
    List.forall_mem_cons, List.not_mem_nil, false_implies, implies_true, and_true, Holds, inside,
    within, Member.within, requireString, requireInteger, databaseMember, serverMember, jwtMember,
    logMember, verifyServiceMember, found] at holds
  -- The requirements of the eight numbers among the others.
  obtain ⟨-, port, -, -, -, poolSize, timeout, -, serverPort, threads, requestTimeout, -,
    expireTime, -, -, -, -, -, -, expiry, -⟩ := holds
  exact ⟨number port, number poolSize, number timeout, number serverPort, number threads,
    number requestTimeout, number expireTime, number expiry⟩

/-- A converted number is the one in the file exactly when the field has room for it. -/
theorem Converted.stored_iff {c : Config} (converted : Converted j c) {f : IntegerField}
    (member : f ∈ integerFields) {n : Int} (given : f.number j = some n) :
    f.stored c = n ↔ f.Fits n := by
  simp only [integerFields, List.mem_cons, List.not_mem_nil, or_false] at member
  simp only [IntegerField.Fits]
  rcases member with rfl | rfl | rfl | rfl | rfl | rfl | rfl | rfl
  · simp only [converted.databasePort n given, uint16_ofInt_iff]
  · simp only [converted.connectionPoolSize n given, uint64_ofInt_iff]
  · simp only [converted.connectionTimeout n given, uint32_ofInt_iff]
  · simp only [converted.serverPort n given, uint16_ofInt_iff]
  · simp only [converted.threads n given, int32_ofInt_iff]
  · simp only [converted.requestTimeout n given, uint32_ofInt_iff]
  · simp only [converted.expireTime n given, uint32_ofInt_iff]
  · simp only [converted.codeExpiry n given, int32_ofInt_iff]

/-- The numbers are kept exactly when a file that lacks nothing required has no number without
room in its field. -/
theorem numbers_kept_iff (parsed : file.bind parse = some j) (before : Config) :
    NumbersKept j (loadFromFile parse file before) ↔ (loadable j = true → NumbersFit j) := by
  rw [loadFromFile_parsed parsed]
  constructor
  · intro kept loads f member n given
    have converted := converted_of_loadable loads before
    exact (converted.stored_iff member given).mp (kept.exact loads f member n given)
  · intro fit
    constructor
    · intro loads f member n given
      have converted := converted_of_loadable loads before
      exact (converted.stored_iff member given).mpr (fit loads f member n given)
    · intro unfit
      simpa using fun loads => unfit (fit loads)

end Load

section Sample

/-- A file that lacks nothing, with a port for the server. -/
def withPort (port : Int) : Json :=
  .object (coreSections port ++
    [("verify_service", .object [("smtp_server_url", .string "smtps://localhost"),
      ("smtp_user", .string "music"), ("smtp_password", .string ""),
      ("verification_code_expiry", .numberInteger 300), ("email_from", .string "music@x.y")])])

theorem numbers_kept_iff_port : NumbersKept (withPort 8080)
      (loadFromFile (fun _ => some (withPort 8080)) (some "") {}) ↔
    (loadable (withPort 8080) = true → NumbersFit (withPort 8080)) :=
  numbers_kept_iff rfl {}

/-- Port 70000 is loaded as 4464. -/
theorem port_narrowed : ¬∀ (parse : String → Option Json) (file : Option String)
    (before : Config) (j : Json), file.bind parse = some j →
    NumbersKept j (loadFromFile parse file before) := by
  intro kept
  have whole := kept (fun _ => some (withPort 70000)) (some "") {} (withPort 70000) rfl
  have port := whole.exact (by decide +kernel)
    ⟨"server", "port", 0, 2 ^ 16, fun c => c.server.port.toNat⟩ (by simp [integerFields])
    70000 rfl
  exact absurd port (by decide +kernel)

end Sample

end MusicPlayer
