import MusicPlayer.Properties.Discipline
import MusicPlayer.Reference

/-!
# When a token is accepted

`verifyToken` compares the expiry of a token with the clock twice: in jwt-cpp's `verify`, with a
leeway of 60 seconds, and in `isTokenExpired`, without. The second check decides.
-/
namespace MusicPlayer.JWTUtil

open Resumption Program

/-- The claim names with a meaning of their own. -/
def reservedNames : List String := ["iss", "sub", "aud", "exp", "nbf", "iat", "jti"]

/-- Generate a token at `t` and check it at `t'`. -/
structure Timed (issue check : Env) (t t' : Int) : Prop where
  issued : issue.clock .generateToken = seconds t
  verified : check.clock .verifyToken = seconds t'
  compared : check.clock .isTokenExpired = seconds t'

/-- The token made at `t` for `v` is accepted at `t'` iff that is in the window, and then it
returns the claims that were given. -/
def Window (sys : System) (subject : String) (claims : List (String × String)) (v t t' : Int) :
    Prop :=
  ∀ (issue check : Env) (w : World), Timed issue check t t' → ∃ token,
    (runProg sys issue (generateToken sys subject claims v) w).1 = .ok token ∧
    ((runProg sys check (verifyToken sys token) w).1 = .ok token ↔
      t - 60 ≤ t' ∧ t' ≤ t + v + 60) ∧
    ((runProg sys check (verifyToken sys token) w).1 = .ok token → ∀ claim ∈ claims,
      (runProg sys check (getClaim sys token claim.1) w).1 = .ok claim.2)

/-- A token of another algorithm, issuer or secret, or without an expiry. -/
def Foreign (sys : System) (text : String) (decoded : Token) : Prop :=
  decoded.algorithm ≠ "HS256" ∨ decoded.payload.lookup "iss" ≠ some (.string issuer) ∨
    (∃ secret, secret ≠ sys.jwtSecret ∧ text = sys.jwt.sign secret decoded) ∨
    decoded.payload.lookup "exp" = none

/-- Foreign tokens are rejected at every time. -/
def RejectsForeign (sys : System) : Prop :=
  ∀ text decoded, sys.jwt.decode text = some decoded → Foreign sys text decoded →
    ∀ (env : Env) (w : World), (runProg sys env (verifyToken sys text) w).1 = .ok ""

/-! ### The payload of a generated token -/

section Payload

variable {payload : List (String × Claim)} {name other : String} {claim : Claim}

theorem lookup_filter_ne (different : other ≠ name) :
    (payload.filter (·.1 != name)).lookup other = payload.lookup other := by
  induction payload with
  | nil => rfl
  | cons first rest ih =>
    obtain ⟨key, value⟩ := first
    by_cases dropped : key = name
    · subst dropped
      simp [List.lookup_cons, beq_false_of_ne different, ih]
    · simp [List.lookup_cons, dropped, ih]

theorem lookup_filter_self : (payload.filter (·.1 != name)).lookup name = none := by
  rw [List.lookup_eq_none_iff]
  intro entry member
  have kept := (List.mem_filter.mp member).2
  rw [bne_iff_ne] at kept
  exact bne_iff_ne.mpr kept.symm

theorem lookup_setClaim : (setClaim payload name claim).lookup other =
    if other = name then some claim else payload.lookup other := by
  rw [setClaim, List.lookup_append]
  split
  next same =>
    subst same
    simp [lookup_filter_self]
  next different =>
    simp [lookup_filter_ne different, List.lookup_cons, beq_false_of_ne different]

/-- The loop over the claims, for a name that is not among them. -/
theorem lookup_setClaims_other {claims : List (String × String)}
    (absent : other ∉ claims.map Prod.fst) :
    (claims.foldl (fun payload claim => setClaim payload claim.1 (.string claim.2))
      payload).lookup other = payload.lookup other := by
  induction claims generalizing payload with
  | nil => rfl
  | cons first rest ih =>
    rw [List.map_cons, List.mem_cons, not_or] at absent
    rw [List.foldl_cons, ih absent.2, lookup_setClaim, if_neg absent.1]

theorem lookup_setClaims {claims : List (String × String)} (names : (claims.map Prod.fst).Nodup)
    {given : String × String} (member : given ∈ claims) :
    (claims.foldl (fun payload claim => setClaim payload claim.1 (.string claim.2))
      payload).lookup given.1 = some (.string given.2) := by
  induction claims generalizing payload with
  | nil => cases member
  | cons first rest ih =>
    rw [List.map_cons, List.nodup_cons] at names
    rw [List.foldl_cons]
    rcases List.mem_cons.mp member with rfl | later
    · rw [lookup_setClaims_other names.1, lookup_setClaim, if_pos rfl]
    · exact ih names.2 later

end Payload

theorem toTimeT_seconds (n : Int) : toTimeT (seconds n) = n := Int.mul_tdiv_cancel n (by decide)

theorem seconds_add (m n : Int) : seconds m + seconds n = seconds (m + n) := by
  simp only [seconds, Int.add_mul]

theorem seconds_sub (m n : Int) : seconds m - seconds n = seconds (m - n) := by
  simp only [seconds, Int.sub_mul]

theorem seconds_lt {m n : Int} : seconds m < seconds n ↔ m < n := by
  have scaled : (m * 1000000000 : Int) < n * 1000000000 ↔ m < n := by omega
  exact scaled

section Generated

variable {sys : System} {claims : List (String × String)} {v t : Int}

/-- Names that the caller has not given have the values of the builder. -/
theorem lookup_generated {name : String} (reserved : name ∈ reservedNames)
    (free : ∀ claim ∈ claims, claim.1 ∉ reservedNames) (subject : String) (t v : Int) :
    (buildToken (seconds t) subject claims v).payload.lookup name =
      [("iss", .string issuer), ("iat", .date t), ("exp", .date (t + v)),
        ("sub", .string subject)].lookup name := by
  have absent : name ∉ claims.map Prod.fst := by
    intro given
    obtain ⟨claim, member, rfl⟩ := List.mem_map.mp given
    exact free claim member reserved
  rw [buildToken, lookup_setClaims_other absent, toTimeT_seconds, seconds_add, toTimeT_seconds]

/-- Of the two checks against the expiry the one without a leeway is the stricter one. -/
theorem accepts_iff_window {check : Env} {t' exp iat : Int} {text : String} {decoded : Token}
    (found : sys.jwt.decode text = some decoded) (algorithm : decoded.algorithm = "HS256")
    (signed : sys.jwt.verifySignature sys.jwtSecret text = true)
    (iss_eq : decoded.payload.lookup "iss" = some (.string issuer))
    (exp_eq : decoded.payload.lookup "exp" = some (.date exp))
    (iat_eq : decoded.payload.lookup "iat" = some (.date iat))
    (nbf_eq : decoded.payload.lookup "nbf" = none)
    (verified : check.clock .verifyToken = seconds t')
    (compared : check.clock .isTokenExpired = seconds t') :
    accepts sys check text = true ↔ iat - 60 ≤ t' ∧ t' ≤ exp := by
  simp only [accepts, found, Option.any_some, verify, algorithm, signed, dateAllows, iss_eq, exp_eq,
    iat_eq, nbf_eq, verified, compared, seconds_add, seconds_sub, seconds_lt, beq_self_eq_true,
    Bool.true_and, Bool.and_true, Bool.and_eq_true, Bool.not_eq_true', decide_eq_false_iff_not,
    Int.not_lt]
  omega

theorem accepts_generated (lawful : sys.jwt.Lawful) {issue check : Env} {t' : Int}
    (timed : Timed issue check t t') (free : ∀ claim ∈ claims, claim.1 ∉ reservedNames)
    (subject : String) (v : Int) :
    accepts sys check (sys.jwt.sign sys.jwtSecret
        (buildToken (seconds t) subject claims v)) = true ↔
      t - 60 ≤ t' ∧ t' ≤ t + v := by
  have entry {name : String} (reserved : name ∈ reservedNames) :=
    lookup_generated reserved free subject t v
  apply accepts_iff_window (lawful.decode_sign _ _)
  case algorithm => rfl
  case signed => exact lawful.verify_sign _ _
  case iss_eq => exact entry (by decide)
  case exp_eq => exact entry (by decide)
  case iat_eq => exact entry (by decide)
  case nbf_eq => exact entry (by decide)
  case verified => exact timed.verified
  case compared => exact timed.compared

theorem run_generateToken (env : Env) (w : World) (subject : String) (v : Int) :
    runProg sys env (generateToken sys subject claims v) w =
      (.ok (sys.jwt.sign sys.jwtSecret
        (buildToken (env.clock .generateToken) subject claims v)), w) := rfl

theorem run_verifyToken (env : Env) (w : World) (text : String) :
    (runProg sys env (verifyToken sys text) w).1 =
      .ok (if accepts sys env text then text else "") :=
  runProg_of_wp ((wp_verifyToken text fun result _ =>
    result = .ok (if accepts sys env text then text else "")).mpr rfl)

theorem run_getClaim {env : Env} {w : World} {text name value : String} {decoded : Token}
    (found : sys.jwt.decode text = some decoded)
    (carried : decoded.payload.lookup name = some (.string value)) :
    (runProg sys env (getClaim sys text name) w).1 = .ok value := by
  rw [getClaim, decode_of_some found, bind_eq, ret_bind, carried]
  rfl

end Generated

/-- What text the verifier lets through, whatever the time. -/
theorem rejectsForeign {sys : System}
    (separates : ∀ secret token, sys.jwt.verifySignature sys.jwtSecret (sys.jwt.sign secret token) =
      true → secret = sys.jwtSecret) : RejectsForeign sys := by
  intro text decoded found foreign env w
  have refused : accepts sys env text = false := by
    rw [accepts, found, Option.any_some, Bool.and_eq_false_iff, verify]
    rcases foreign with algorithm | issuer | ⟨secret, other, rfl⟩ | unlimited
    · simp [algorithm]
    · simp [issuer]
    · have unverified :
          sys.jwt.verifySignature sys.jwtSecret (sys.jwt.sign secret decoded) = false :=
        Bool.eq_false_iff.mpr fun verified => other (separates secret decoded verified)
      simp [unverified]
    · simp [unlimited]
  rw [run_verifyToken, refused]
  rfl

/-- The window of the claim ends where the expiry is, and not a leeway later. -/
theorem window_iff {sys : System} (lawful : sys.jwt.Lawful)
    (printed : ∀ secret token, sys.jwt.sign secret token ≠ "")
    (separates : ∀ secret token, sys.jwt.verifySignature sys.jwtSecret (sys.jwt.sign secret token) =
      true → secret = sys.jwtSecret)
    (subject : String) {claims : List (String × String)} (names : (claims.map Prod.fst).Nodup)
    (free : ∀ claim ∈ claims, claim.1 ∉ reservedNames) {v : Int} (lifetime : 0 ≤ v) (t t' : Int) :
    Window sys subject claims v t t' ∧ RejectsForeign sys ↔ t' ≤ t + v ∨ t + v + 60 < t' := by
  rw [and_iff_left (rejectsForeign separates)]
  let token := sys.jwt.sign sys.jwtSecret (buildToken (seconds t) subject claims v)
  have generated {issue check : Env} (w : World) (timed : Timed issue check t t') :
      (runProg sys issue (generateToken sys subject claims v) w).1 = .ok token := by
    rw [run_generateToken, timed.issued]
  have returned {issue check : Env} (w : World) (timed : Timed issue check t t') :
      (runProg sys check (verifyToken sys token) w).1 = .ok token ↔ t - 60 ≤ t' ∧ t' ≤ t + v := by
    rw [run_verifyToken, ← accepts_generated lawful timed free subject v, Except.ok.injEq]
    split
    next accepted => exact iff_of_true rfl accepted
    next refused => exact iff_of_false (printed _ _).symm refused
  -- The claim allows up to 60 seconds more than `isTokenExpired` does, and agrees elsewhere.
  constructor
  · intro window
    have timed : Timed { clock := fun _ => seconds t } { clock := fun _ => seconds t' } t t' :=
      ⟨rfl, rfl, rfl⟩
    obtain ⟨made, made_eq, accepted_iff, -⟩ := window _ _ {} timed
    rw [generated {} timed, Except.ok.injEq] at made_eq
    rw [← made_eq, returned {} timed] at accepted_iff
    omega
  · intro outside issue check w timed
    refine ⟨token, generated w timed, ?_, ?_⟩
    · rw [returned w timed]
      omega
    · intro _ claim member
      exact run_getClaim (lawful.decode_sign _ _) (lookup_setClaims names member)

section SecondCheck

open Reference

theorem system_separates (secret : String) (token : Token)
    (verified : system.jwt.verifySignature system.jwtSecret (system.jwt.sign secret token) = true) :
    secret = system.jwtSecret := by
  simp only [system, jwt, Reference.verifySignature, Reference.decode_sign] at verified ⊢
  have equal : Reference.sign "secret" token = Reference.sign secret token := beq_iff_eq.mp verified
  have fields := congrArg (fun text => readFields text.toList []) equal
  simp only [Reference.sign, String.toList_ofList, readFields_printFields, Option.some.injEq,
    List.cons.injEq, String.toList_inj] at fields
  exact fields.1.symm

theorem system_printed (secret : String) (token : Token) : system.jwt.sign secret token ≠ "" := by
  intro empty
  have fields := congrArg (fun text => readFields text.toList []) empty
  simp [system, jwt, Reference.sign, readFields_printFields, readFields] at fields

theorem window_iff_login :
    Window system "bob" [("email", "a@b.c"), ("id", "1")] 3600 0 1800 ∧ RejectsForeign system ↔
      (1800 : Int) ≤ 0 + 3600 ∨ 0 + 3600 + 60 < (1800 : Int) := by
  apply window_iff jwt_lawful system_printed system_separates
  case names => decide
  case free => decide
  case lifetime => decide

/-- Half a minute after its expiry a token is rejected, within the tolerance. -/
theorem tolerance_unused :
    ¬∀ sys : System, sys.jwt.Lawful → (∀ secret token, sys.jwt.sign secret token ≠ "") →
      (∀ secret token, sys.jwt.verifySignature sys.jwtSecret (sys.jwt.sign secret token) = true →
        secret = sys.jwtSecret) →
      ∀ subject (claims : List (String × String)), (claims.map Prod.fst).Nodup →
        (∀ claim ∈ claims, claim.1 ∉ reservedNames) → ∀ v : Int, 0 ≤ v → ∀ t t' : Int,
          Window sys subject claims v t t' ∧ RejectsForeign sys := by
  intro whole
  have claimed := whole system jwt_lawful system_printed system_separates "bob" [] (by decide)
    (by decide) 3600 (by decide) 0 3630
  have timed : Timed (env (seconds 0)) (env (seconds 3630)) 0 3630 := ⟨rfl, rfl, rfl⟩
  obtain ⟨token, made, accepted_iff, -⟩ := claimed.1 _ _ {} timed
  rw [run_generateToken, timed.issued, Except.ok.injEq] at made
  have expired : ¬accepts system (env (seconds 3630)) token = true := by
    rw [← made, accepts_generated jwt_lawful timed (by decide)]
    decide
  have accepted := accepted_iff.mpr (by decide)
  rw [run_verifyToken, if_neg expired, ← made, Except.ok.injEq] at accepted
  exact system_printed _ _ accepted.symm

end SecondCheck

end MusicPlayer.JWTUtil
