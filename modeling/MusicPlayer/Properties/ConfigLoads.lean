import MusicPlayer.Utils.Config

/-!
# What a load of the configuration leaves

A load assigns the fields in the order in which it reads them. So one that fails leaves those in
front of the first missing one assigned, and one that succeeds has assigned them all, unless the
last section is missing.
-/
namespace MusicPlayer

open Utils Loading Requirement Config

/-- The section of a file. -/
def part (key : String) (j : Json) : Option Json := j.member? key

/-- The requirements of a section on the file and the configuration as a whole. -/
def sectionRequirements {τ : Type} (key : String) (m : Member Config τ)
    (rs : List (Requirement Json String τ)) : List (Requirement Json String Config) :=
  (rs.map (within m)).map (inside (part key))

/-- What the sections require that a file cannot do without. -/
def coreRequirements : List (Requirement Json String Config) :=
  sectionRequirements "database" databaseMember databaseRequirements ++
    (sectionRequirements "server" serverMember serverRequirements ++
      (sectionRequirements "jwt" jwtMember jwtRequirements ++
        sectionRequirements "log" logMember logRequirements))

def mailRequirements : List (Requirement Json String Config) :=
  sectionRequirements "verify_service" verifyServiceMember verifyServiceRequirements

/-- All requirements, in the order of reading. -/
def requirements : List (Requirement Json String Config) := coreRequirements ++ mailRequirements

/-- A file that lacks nothing, or nothing but the section `verify_service` as a whole. -/
def loadable (j : Json) : Bool :=
  coreRequirements.all (found j) &&
    ((j.member? "verify_service").isNone || mailRequirements.all (found j))

section Load

variable {j : Json} {parse : String → Option Json} {file : Option String}

/-- What `loadFromFile` makes of a result. -/
def outcome : EStateM.Result String Config Bool → Bool × Config
  | .ok loaded c => (loaded, c)
  | .error _ c => (false, c)

/-- A section that is there with all it requires is assigned, and the load goes on. -/
theorem outcome_section {τ : Type} (key : String) (m : Member Config τ)
    {fields : List (Requirement Json String τ)} {qs : List (Requirement Json String Config)}
    (nonempty : fields ≠ []) {rest : Parse Bool} {loads : Bool}
    (goesOn : ∀ c, outcome (rest.run c) = (loads, assign j qs c)) (c : Config) :
    outcome (EStateM.run (do
        let some inner := j.member? key | return false
        requireAll inner (fields.map (within m))
        rest) c) =
      ((sectionRequirements key m fields).all (found j) && loads,
        assign j (sectionRequirements key m fields ++ qs) c) := by
  have nonempty : fields.map (within m) ≠ [] := by simpa using nonempty
  rw [sectionRequirements]
  generalize fields.map (within m) = rs at nonempty
  cases present : part key j with
  -- Without the section not one of its members is found.
  | none =>
    obtain ⟨r, rs, rfl⟩ := List.exists_cons_of_ne_nil nonempty
    simp only [part] at present
    simp [assign, found, inside, part, present, outcome, EStateM.run, pure, EStateM.pure]
  | some inner =>
    have run : (requireAll inner rs).run c = _ := run_requireAll rs c
    have all_inside : (rs.map (inside (part key))).all (found j) = rs.all (found inner) := by
      simp only [List.all_map, Function.comp_def, found_inside present]
    -- The load goes on behind a complete section, and stops at the first missing member.
    cases missing : rs.find? (!found inner ·) with
    | none =>
      have all : rs.all (found inner) := by simpa using missing
      rw [assign_append_of_found (all_inside.trans all), assign_inside_some present]
      simp only [missing, EStateM.run] at run
      simp only [part] at present
      simp [bind, EStateM.bind, present, run, all_inside, all, ← goesOn, EStateM.run]
    | some r =>
      have lacks : ¬rs.all (found inner) := by
        simpa using ⟨r, List.mem_of_find?_eq_some missing, by simpa using List.find?_some missing⟩
      rw [assign_append_of_missing (by rwa [all_inside]), assign_inside_some present]
      simp only [missing, EStateM.run] at run
      simp only [part] at present
      simp [bind, EStateM.bind, present, run, all_inside, lacks, outcome, EStateM.run]

/-- The last section may be missing. -/
theorem outcome_mail (c : Config) :
    outcome (EStateM.run (do
        if let some inner := j.member? "verify_service" then
          parseVerifyServiceConfig inner
        return true) c) =
      ((part "verify_service" j).isNone || mailRequirements.all (found j),
        assign j mailRequirements c) := by
  cases present : part "verify_service" j with
  | none =>
    rw [mailRequirements, sectionRequirements, assign_inside_none present]
    simp only [part] at present
    simp [present, outcome, EStateM.run, pure, EStateM.pure]
  | some inner =>
    have ends (c : Config) : outcome ((pure true : Parse Bool).run c) =
        (true, assign j ([] : List (Requirement Json String Config)) c) := rfl
    have step := outcome_section "verify_service" verifyServiceMember
      (show verifyServiceRequirements ≠ [] by simp [verifyServiceRequirements]) ends c
    simp only [part] at present
    simpa [present, mailRequirements, parseVerifyServiceConfig] using step

/-- A load assigns what the file gives up to the first missing field. -/
theorem loadFromFile_parsed (parsed : file.bind parse = some j) (c : Config) :
    loadFromFile parse file c = (loadable j, assign j requirements c) := by
  have log := outcome_section "log" logMember
    (show logRequirements ≠ [] by simp [logRequirements]) (outcome_mail (j := j))
  have jwt := outcome_section "jwt" jwtMember
    (show jwtRequirements ≠ [] by simp [jwtRequirements]) log
  have server := outcome_section "server" serverMember
    (show serverRequirements ≠ [] by simp [serverRequirements]) jwt
  have database := outcome_section "database" databaseMember
    (show databaseRequirements ≠ [] by simp [databaseRequirements]) server c
  calc loadFromFile parse file c = outcome ((parseSections j).run c) := by
        rw [loadFromFile, parsed]
        rfl
    _ = _ := database
    _ = (loadable j, assign j requirements c) := by
        simp [loadable, requirements, coreRequirements, Bool.and_assoc, part]

/-! ## The fields are independent of one another -/

/-- Within a section, fields in both orders. -/
theorem sectionRequirements_pairwise {τ : Type} {m : Member Config τ} {key : String}
    {rs : List (Requirement Json String τ)} (apart : rs.Pairwise Independent) :
    (sectionRequirements key m rs).Pairwise Independent := by
  rw [sectionRequirements, List.map_map, List.pairwise_map]
  exact apart.imp fun apart => apart.within m

/-- Fields of two sections. -/
theorem sectionRequirements_apart {τ υ : Type} {m : Member Config τ} {n : Member Config υ}
    (apart : m.Independent n) {key other : String} {rs : List (Requirement Json String τ)}
    {qs : List (Requirement Json String υ)} :
    ∀ r ∈ sectionRequirements key m rs, ∀ q ∈ sectionRequirements other n qs,
      r.Independent q := by
  intro r left q right
  simp only [sectionRequirements, List.mem_map] at left right
  obtain ⟨_, ⟨p, -, rfl⟩, rfl⟩ := left
  obtain ⟨_, ⟨q, -, rfl⟩, rfl⟩ := right
  exact apart.inner p.member q.member

theorem databaseRequirements_pairwise : databaseRequirements.Pairwise Independent := by
  simp [databaseRequirements, Independent, Member.Independent, requireString, requireInteger]

theorem serverRequirements_pairwise : serverRequirements.Pairwise Independent := by
  simp [serverRequirements, Independent, Member.Independent, requireString, requireInteger]

theorem jwtRequirements_pairwise : jwtRequirements.Pairwise Independent := by
  simp [jwtRequirements, Independent, Member.Independent, requireString, requireInteger]

theorem logRequirements_pairwise : logRequirements.Pairwise Independent := by
  simp [logRequirements, Independent, Member.Independent, requireString]

theorem verifyServiceRequirements_pairwise :
    verifyServiceRequirements.Pairwise Independent := by
  simp [verifyServiceRequirements, Independent, Member.Independent, requireString, requireInteger]

theorem requirements_pairwise : requirements.Pairwise Independent := by
  have sections : requirements =
      [sectionRequirements "database" databaseMember databaseRequirements,
        sectionRequirements "server" serverMember serverRequirements,
        sectionRequirements "jwt" jwtMember jwtRequirements,
        sectionRequirements "log" logMember logRequirements,
        sectionRequirements "verify_service" verifyServiceMember verifyServiceRequirements].flatten
      := by
    simp [requirements, coreRequirements, mailRequirements]
  rw [sections, List.pairwise_flatten]
  constructor
  · simp [sectionRequirements_pairwise, databaseRequirements_pairwise,
      serverRequirements_pairwise, jwtRequirements_pairwise, logRequirements_pairwise,
      verifyServiceRequirements_pairwise]
  · simp only [List.pairwise_cons, List.forall_mem_cons, List.not_mem_nil, false_implies,
      implies_true, and_true, List.Pairwise.nil]
    have apart := @sectionRequirements_apart
    refine ⟨⟨apart ?_, apart ?_, apart ?_, apart ?_⟩, ⟨apart ?_, apart ?_, apart ?_⟩,
      ⟨apart ?_, apart ?_⟩, apart ?_⟩
    all_goals exact ⟨fun _ _ => rfl, fun _ _ => rfl⟩

/-! ## What is left -/

def textAt (section_ key : String) (j : Json) : Option String :=
  (part section_ j).bind (·.string? key)

def numberAt (section_ key : String) (j : Json) : Option Int :=
  (part section_ j).bind (·.integer? key)

/-- Every required field is in the file with its type, and the texts are those of the file. -/
structure Complete (j : Json) (c : Config) : Prop where
  databaseHost : textAt "database" "host" j = some c.database.host
  databasePort : (numberAt "database" "port" j).isSome
  databaseUser : textAt "database" "user" j = some c.database.user
  databasePassword : textAt "database" "password" j = some c.database.password
  databaseName : textAt "database" "dbname" j = some c.database.dbname
  connectionPoolSize : (numberAt "database" "connection_pool_size" j).isSome
  connectionTimeout : (numberAt "database" "connection_timeout" j).isSome
  serverHost : textAt "server" "host" j = some c.server.host
  serverPort : (numberAt "server" "port" j).isSome
  threads : (numberAt "server" "threads" j).isSome
  requestTimeout : (numberAt "server" "request_timeout" j).isSome
  secret : textAt "jwt" "secret" j = some c.jwt.secret
  expireTime : (numberAt "jwt" "expire_time" j).isSome
  issuer : textAt "jwt" "issuer" j = some c.jwt.issuer
  level : textAt "log" "level" j = some c.log.level
  path : textAt "log" "path" j = some c.log.path
  smtpServerUrl : textAt "verify_service" "smtp_server_url" j = some c.verifyService.smtpServerUrl
  smtpUser : textAt "verify_service" "smtp_user" j = some c.verifyService.smtpUser
  smtpPassword : textAt "verify_service" "smtp_password" j = some c.verifyService.smtpPassword
  codeExpiry : (numberAt "verify_service" "verification_code_expiry" j).isSome
  emailFrom : textAt "verify_service" "email_from" j = some c.verifyService.emailFrom

/-- A load that succeeds leaves what the file gives, and one that fails leaves what was there. -/
structure Transactional (document : Option Json) (before : Config) (result : Bool × Config) :
    Prop where
  whole : result.1 = true → ∃ j, document = some j ∧ Complete j result.2
  untouched : result.1 = false → result.2 = before

/-- A load that succeeds, with the last section there, leaves what the file gives. One that fails
has assigned the fields in front of the first missing one, and no other. -/
structure LoadOutcome (document : Option Json) (before : Config) (result : Bool × Config) :
    Prop where
  whole : result.1 = true →
    ∃ j, document = some j ∧ ((part "verify_service" j).isSome → Complete j result.2)
  stopped : result.1 = false → (document = none ∧ result.2 = before) ∨
    ∃ j, document = some j ∧ ¬requirements.all (found j) ∧ Loaded j requirements before result.2

theorem complete_of_holds {c : Config} (holds : ∀ r ∈ requirements, r.Holds j c) :
    Complete j c := by
  have number {key field : String} {β : Type} {convert : Int → β} {b : β}
      (given : ((part key j).bind fun d => (d.integer? field).map convert) = some b) :
      (numberAt key field j).isSome := by
    obtain ⟨d, present, read⟩ := Option.bind_eq_some_iff.mp given
    obtain ⟨n, read, -⟩ := Option.map_eq_some_iff.mp read
    simp [numberAt, present, read]
  -- The requirements as a list, and then as the fields of `Complete` in the same order.
  simp only [requirements, coreRequirements, mailRequirements, sectionRequirements,
    databaseRequirements, serverRequirements, jwtRequirements, logRequirements,
    verifyServiceRequirements, List.map_cons, List.map_nil, List.cons_append, List.nil_append,
    List.forall_mem_cons, List.not_mem_nil, false_implies, implies_true, and_true, Holds, inside,
    within, Member.within, requireString, requireInteger, databaseMember, serverMember, jwtMember,
    logMember, verifyServiceMember] at holds
  obtain ⟨host, port, user, password, dbname, poolSize, timeout, serverHost, serverPort, threads,
    requestTimeout, secret, expireTime, issuer, level, path, url, smtpUser, smtpPassword, expiry,
    emailFrom⟩ := holds
  exact ⟨host, number port, user, password, dbname, number poolSize, number timeout, serverHost,
    number serverPort, number threads, number requestTimeout, secret, number expireTime, issuer,
    level, path, url, smtpUser, smtpPassword, number expiry, emailFrom⟩

theorem all_found_of_loadable (loads : loadable j = true)
    (mail : (part "verify_service" j).isSome) : requirements.all (found j) := by
  have given : (j.member? "verify_service").isNone = false := by
    simpa [part, Option.isNone_eq_false_iff] using mail
  simpa [loadable, given, requirements] using loads

/-- What a load leaves, whatever the file and the configuration before. -/
theorem load_outcome (parse : String → Option Json) (file : Option String) (before : Config) :
    LoadOutcome (file.bind parse) before (loadFromFile parse file before) := by
  cases parsed : file.bind parse with
  | none =>
    have nothing : loadFromFile parse file before = (false, before) := by
      simp [loadFromFile, parsed]
    rw [nothing]
    exact ⟨by simp, fun _ => .inl ⟨rfl, rfl⟩⟩
  | some j =>
    rw [loadFromFile_parsed parsed]
    -- The assignments are the same in both cases; only the result differs.
    have loaded : Loaded j requirements before _ := loaded_assign requirements_pairwise before
    constructor
    · intro loads
      refine ⟨j, rfl, fun mail => complete_of_holds fun r member => ?_⟩
      exact loaded.holds (all_found_of_loadable loads mail) member
    · intro fails
      refine .inr ⟨j, rfl, ?_, loaded⟩
      intro all
      simp only [requirements, List.all_append, Bool.and_eq_true] at all
      simp [loadable, all.1, all.2] at fails

end Load

section Sample

/-- A file whose only field is the host of the database. -/
def hostOnly : Json := .object [("database", .object [("host", .string "127.0.0.1")])]

/-- The first four sections of a configuration, with a port for the server. -/
def coreSections (port : Int) : List (String × Json) :=
  [("database", .object [("host", .string "127.0.0.1"), ("port", .numberInteger 3306),
      ("user", .string "root"), ("password", .string ""), ("dbname", .string "music"),
      ("connection_pool_size", .numberInteger 5), ("connection_timeout", .numberInteger 5)]),
    ("server", .object [("host", .string "0.0.0.0"), ("port", .numberInteger port),
      ("threads", .numberInteger 1), ("request_timeout", .numberInteger 30)]),
    ("jwt", .object [("secret", .string "s"), ("expire_time", .numberInteger 86400),
      ("issuer", .string "music-player-backend")]),
    ("log", .object [("level", .string "info"), ("path", .string "logs")])]

/-- A load that fails leaves the host of the file, and one without the last section succeeds. -/
theorem load_notTransactional :
    ¬Transactional (some hostOnly) {} (loadFromFile (fun _ => some hostOnly) (some "") {}) ∧
    ¬Transactional (some (.object (coreSections 8080))) {}
      (loadFromFile (fun _ => some (.object (coreSections 8080))) (some "") {}) := by
  constructor
  · intro whole
    have host := congrArg (·.database.host) (whole.untouched (by decide +kernel))
    exact absurd host (by decide +kernel)
  · intro whole
    obtain ⟨j, same, complete⟩ := whole.whole (by decide +kernel)
    cases same
    exact absurd complete.codeExpiry (by decide +kernel)

end Sample

end MusicPlayer
