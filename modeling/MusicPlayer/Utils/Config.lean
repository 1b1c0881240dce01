import MusicPlayer.Loading.Requirements
import MusicPlayer.Utils.Json

/-!
# `Config`

Each field of `config.json` is checked and assigned in turn; what is missing or of another type
is thrown, with what was assigned before left in the configuration.
-/
namespace MusicPlayer.Utils

open Loading Requirement

structure DatabaseConfig where
  host : String := "localhost"
  port : UInt16 := 3306
  user : String := "root"
  password : String := ""
  dbname : String := ""
  connectionPoolSize : UInt64 := 5
  /-- In seconds, as are the other times. -/
  connectionTimeout : UInt32 := 3
  deriving DecidableEq

structure ServerConfig where
  host : String := "0.0.0.0"
  port : UInt16 := 8080
  threads : Int32 := 4
  requestTimeout : UInt32 := 30
  deriving DecidableEq

structure JWTConfig where
  secret : String := ""
  expireTime : UInt32 := 86400
  issuer : String := "music-player-backend"
  deriving DecidableEq

structure LogConfig where
  level : String := "info"
  path : String := "logs/app.log"
  deriving DecidableEq

structure VerifyServiceConfig where
  smtpServerUrl : String := ""
  smtpUser : String := ""
  smtpPassword : String := ""
  /-- `verfication_code_expiry`, which `new Config()` sets to 0. -/
  verficationCodeExpiry : Int32 := 0
  emailFrom : String := ""
  deriving DecidableEq

structure Config where
  database : DatabaseConfig := {}
  server : ServerConfig := {}
  jwt : JWTConfig := {}
  log : LogConfig := {}
  verifyService : VerifyServiceConfig := {}
  deriving DecidableEq

namespace Config

/-- `m_db_config` and the other members. -/
def databaseMember : Member Config DatabaseConfig :=
  ⟨Config.database, fun c d => { c with database := d }, fun _ _ => rfl⟩

def serverMember : Member Config ServerConfig :=
  ⟨Config.server, fun c s => { c with server := s }, fun _ _ => rfl⟩

def jwtMember : Member Config JWTConfig :=
  ⟨Config.jwt, fun c t => { c with jwt := t }, fun _ _ => rfl⟩

def logMember : Member Config LogConfig :=
  ⟨Config.log, fun c l => { c with log := l }, fun _ _ => rfl⟩

def verifyServiceMember : Member Config VerifyServiceConfig :=
  ⟨Config.verifyService, fun c v => { c with verifyService := v }, fun _ _ => rfl⟩

end Config

section Fields

variable {σ β : Type}

/-- `contains(key)` and `is_string()`, then `get<std::string>()`, or the exception. -/
def requireString (key error : String) (get : σ → String) (set : σ → String → σ)
    (get_set : ∀ s b, get (set s b) = b) : Requirement Json String σ :=
  ⟨error, (·.string? key), get, set, get_set⟩

/-- `contains(key)` and `is_number_integer()`, then `get` of an integer type, which keeps the
bits that the type has room for. -/
def requireInteger (key error : String) (convert : Int → β) (get : σ → β) (set : σ → β → σ)
    (get_set : ∀ s b, get (set s b) = b) : Requirement Json String σ :=
  ⟨error, fun j => (j.integer? key).map convert, get, set, get_set⟩

end Fields

def databaseRequirements : List (Requirement Json String DatabaseConfig) :=
  [requireString "host" "Database host is required"
      (·.host) (fun c s => { c with host := s }) fun _ _ => rfl,
    requireInteger "port" "Database port is required" UInt16.ofInt
      (·.port) (fun c n => { c with port := n }) fun _ _ => rfl,
    requireString "user" "Database user is required"
      (·.user) (fun c s => { c with user := s }) fun _ _ => rfl,
    requireString "password" "Database password is required"
      (·.password) (fun c s => { c with password := s }) fun _ _ => rfl,
    requireString "dbname" "Database name is required"
      (·.dbname) (fun c s => { c with dbname := s }) fun _ _ => rfl,
    requireInteger "connection_pool_size" "Database connection pool size is required" UInt64.ofInt
      (·.connectionPoolSize) (fun c n => { c with connectionPoolSize := n }) fun _ _ => rfl,
    requireInteger "connection_timeout" "Database connection timeout is required" UInt32.ofInt
      (·.connectionTimeout) (fun c n => { c with connectionTimeout := n }) fun _ _ => rfl]

def serverRequirements : List (Requirement Json String ServerConfig) :=
  [requireString "host" "Server host is required"
      (·.host) (fun c s => { c with host := s }) fun _ _ => rfl,
    requireInteger "port" "Server port is required" UInt16.ofInt
      (·.port) (fun c n => { c with port := n }) fun _ _ => rfl,
    requireInteger "threads" "Server threads is required" Int32.ofInt
      (·.threads) (fun c n => { c with threads := n }) fun _ _ => rfl,
    requireInteger "request_timeout" "Server request timeout is required" UInt32.ofInt
      (·.requestTimeout) (fun c n => { c with requestTimeout := n }) fun _ _ => rfl]

def jwtRequirements : List (Requirement Json String JWTConfig) :=
  [requireString "secret" "JWT secret is required"
      (·.secret) (fun c s => { c with secret := s }) fun _ _ => rfl,
    requireInteger "expire_time" "JWT expire time is required" UInt32.ofInt
      (·.expireTime) (fun c n => { c with expireTime := n }) fun _ _ => rfl,
    requireString "issuer" "JWT issuer is required"
      (·.issuer) (fun c s => { c with issuer := s }) fun _ _ => rfl]

def logRequirements : List (Requirement Json String LogConfig) :=
  [requireString "level" "Log level is required"
      (·.level) (fun c s => { c with level := s }) fun _ _ => rfl,
    requireString "path" "Log path is required"
      (·.path) (fun c s => { c with path := s }) fun _ _ => rfl]

def verifyServiceRequirements : List (Requirement Json String VerifyServiceConfig) :=
  [requireString "smtp_server_url" "SMTP server is required"
      (·.smtpServerUrl) (fun c s => { c with smtpServerUrl := s }) fun _ _ => rfl,
    requireString "smtp_user" "SMTP user is required"
      (·.smtpUser) (fun c s => { c with smtpUser := s }) fun _ _ => rfl,
    requireString "smtp_password" "SMTP password is required"
      (·.smtpPassword) (fun c s => { c with smtpPassword := s }) fun _ _ => rfl,
    requireInteger "verification_code_expiry" "Verification code expiry is required" Int32.ofInt
      (·.verficationCodeExpiry) (fun c n => { c with verficationCodeExpiry := n }) fun _ _ => rfl,
    requireString "email_from" "Email from is required"
      (·.emailFrom) (fun c s => { c with emailFrom := s }) fun _ _ => rfl]

namespace Config

/-- A `std::runtime_error` is its text, and leaves the configuration as it is by then. -/
abbrev Parse := EStateM String Config

def parseDatabaseConfig (j : Json) : Parse Unit :=
  requireAll j (databaseRequirements.map (within databaseMember))

def parseServerConfig (j : Json) : Parse Unit :=
  requireAll j (serverRequirements.map (within serverMember))

def parseJWTConfig (j : Json) : Parse Unit :=
  requireAll j (jwtRequirements.map (within jwtMember))

def parseLogConfig (j : Json) : Parse Unit :=
  requireAll j (logRequirements.map (within logMember))

def parseVerifyServiceConfig (j : Json) : Parse Unit :=
  requireAll j (verifyServiceRequirements.map (within verifyServiceMember))

/-- The body of the `try` block, on the parsed file. -/
def parseSections (config_json : Json) : Parse Bool := do
  let some database := config_json.member? "database" | return false
  parseDatabaseConfig database
  let some server := config_json.member? "server" | return false
  parseServerConfig server
  let some jwt := config_json.member? "jwt" | return false
  parseJWTConfig jwt
  let some log := config_json.member? "log" | return false
  parseLogConfig log
  -- the `else` of the last section has no `return false`, only the log message
  if let some verifyService := config_json.member? "verify_service" then
    parseVerifyServiceConfig verifyService
  return true

/-- The result and the configuration after it. `none` is a file that cannot be opened, and
`parse` gives `none` for a parse error. -/
def loadFromFile (parse : String → Option Json) (file : Option String) (config : Config) :
    Bool × Config :=
  match file.bind parse with
  | none => (false, config)
  | some config_json =>
    match (parseSections config_json).run config with
    | .ok loaded config => (loaded, config)
    | .error _ config => (false, config)

end Config

end MusicPlayer.Utils
