import MusicPlayer.Resumption.Safety
import MusicPlayer.Database.Statement
import MusicPlayer.System
import Mathlib.Data.List.AList

/-!
# Effects of the server and the world they act on

The functions of `src` are programs over `Effect`. An effect is one indivisible action: a
clock reading, a critical section of a mutex, one call of the database connector, one file
operation. `exec` performs it on the `World` under an `Env`, which decides everything the
code does not: times, random digits, deliveries, and which calls fail.
-/
namespace MusicPlayer

open Resumption

/-- Ticks of `std::chrono::system_clock`, nanoseconds. -/
abbrev Time := Int

/-- Ticks of a number of seconds. -/
def seconds (n : Int) : Time := n * 1000000000

/-- `VerifyService::VerifyInfo`. -/
structure VerifyInfo where
  code : String
  expireTime : Time
  action : String
  deriving DecidableEq, Repr

/-- A node of `m_codes`. Its identity is what a pointer to it names. -/
structure CodeNode where
  node : Nat
  info : VerifyInfo
  deriving DecidableEq, Repr

/-- `m_codes`, with the identity the next new node gets. -/
structure CodeStore where
  entries : AList fun _ : String => CodeNode := ∅
  nextNode : Nat := 0

/-- `const VerifyInfo*` into `m_codes`. -/
structure CodePtr where
  email : String
  node : Nat
  deriving DecidableEq, Repr

namespace CodeStore

/-- `m_codes.find(email)`. -/
def find (codes : CodeStore) (email : String) : Option CodePtr :=
  (codes.entries.lookup email).map fun entry => ⟨email, entry.node⟩

/-- `*pInfo`, if the node is still there. -/
def deref (codes : CodeStore) (ptr : CodePtr) : Option VerifyInfo :=
  match codes.entries.lookup ptr.email with
  | some entry => if entry.node = ptr.node then some entry.info else none
  | none => none

/-- `m_codes[email] = info`: an existing node is assigned in place. -/
def assign (codes : CodeStore) (email : String) (info : VerifyInfo) : CodeStore :=
  match codes.entries.lookup email with
  | some entry => { codes with entries := codes.entries.insert email ⟨entry.node, info⟩ }
  | none =>
    { entries := codes.entries.insert email ⟨codes.nextNode, info⟩
      nextNode := codes.nextNode + 1 }

/-- The loop of `cleanupExpiredCodes`, over the entries still to visit. -/
def cleanupLoop (now : Time) (count : Nat) (entries : AList fun _ : String => CodeNode) :
    List (Sigma fun _ : String => CodeNode) → Nat × AList fun _ : String => CodeNode
  | [] => (count, entries)
  | it :: rest =>
    if it.2.info.expireTime < now then cleanupLoop now (count + 1) (entries.erase it.1) rest
    else cleanupLoop now count entries rest

def cleanup (codes : CodeStore) (now : Time) : Nat × CodeStore :=
  let (count, entries) := cleanupLoop now 0 codes.entries codes.entries.entries
  (count, { codes with entries })

/-- What the map holds for an address. -/
def info? (codes : CodeStore) (email : String) : Option VerifyInfo :=
  (codes.entries.lookup email).map (·.info)

end CodeStore

/-- The calls of `std::chrono::system_clock::now`, by the function that makes them. -/
inductive ClockRead where
  | sendVerifyCode
  | verifyCode
  | cleanupExpiredCodes
  | generateToken
  | verifyToken
  | isTokenExpired
  deriving DecidableEq, Repr

/-- A composed message and the recipient of the envelope. -/
structure Mail where
  recipient : String
  content : String
  deriving DecidableEq, Repr

/-- Calls of the connector through a connection, its statements and its result sets. All of
them may throw. -/
inductive ConnectorCall where
  | isValid
  | reconnect
  | setSchema
  | prepareStatement (sql : String)
  | createStatement
  | setInt (index : Nat) (value : Int32)
  | setString (index : Nat) (value : String)
  | setNull (index : Nat)
  | execute (s : Statement)
  | next
  | rowsCount
  | getInt (column : String)
  | getString (column : String)
  | isNull (column : String)

@[reducible] def ConnectorCall.Reply : ConnectorCall → Type
  | .isValid => Bool
  | .execute s => s.Reply
  | _ => Unit

inductive Effect where
  | now (site : ClockRead)
  | uniformDigit (i : Nat)
  | curlInit
  | curlPerform (mail : Mail)
  | findCode (email : String)
  | derefCode (ptr : CodePtr)
  /-- `m_codes[email] = {code, now() + expiry, action}` under the lock. -/
  | storeCode (email code : String) (expiry : Time) (action : String)
  | cleanupCodes (now : Time)
  /-- The critical section of `getConnection` up to `wait_for`: pop, unless it must wait. -/
  | lockPool
  /-- The rest of it, once `wait_for` returned: pop, or `nullptr` after the timeout. -/
  | waitFor
  | constructGuard (conn : Option Conn)
  | releaseConnection (conn : Conn)
  | connector (conn : Option Conn) (call : ConnectorCall)
  /-- `reserve(count)` of an empty vector. -/
  | reserve (count : Nat)
  | fileExists (path : String)
  | createDirectory (path : String)
  | openOut (path : String)
  | writeFile (path : String) (data : ByteArray)
  /-- `close` of an output stream, which first flushes what the stream still has. -/
  | closeOut (path : String)
  | closeFile (path : String)
  | openIn (path : String)
  | readFile (path : String)

@[reducible] def Effect.Reply : Effect → Type
  | .now _ => Time
  | .uniformDigit _ => Fin 10
  | .curlInit | .curlPerform _ => Bool
  | .findCode _ => Option CodePtr
  | .derefCode _ => Except Exn VerifyInfo
  | .storeCode .. => Unit
  | .cleanupCodes _ => Nat
  | .lockPool | .waitFor => Option Conn
  | .constructGuard _ | .releaseConnection _ => Unit
  | .connector _ call => Except Exn call.Reply
  | .reserve _ => Except Exn Unit
  | .fileExists _ => Except Exn Bool
  | .createDirectory _ => Except Exn Unit
  | .openOut _ | .openIn _ => Bool
  | .writeFile .. | .closeOut _ | .closeFile _ => Unit
  | .readFile _ => ByteArray

abbrev Prog (α : Type) := Program Effect Effect.Reply Exn α

/-- Perform one effect and return its reply. -/
def trigger (effect : Effect) : Prog effect.Reply := .act effect .ret

/-- The part of the world the server shares between its requests. The connection pool is
not in it: a single request sees of the pool only which connection it gets. -/
structure World where
  db : Db := {}
  codes : CodeStore := {}
  directories : List String := []
  files : String → Option ByteArray := fun _ => none

/-! Numerals of the finite types in environments and runs stand on these instances, and not on a
proof inside the term. -/

instance neZero_two : NeZero 2 := ⟨by decide⟩

instance neZero_three : NeZero 3 := ⟨by decide⟩

instance neZero_ten : NeZero 10 := ⟨by decide⟩

/-- The environment of one request. Functions of a number are indexed by how many effects
the request performed before. -/
structure Env where
  clock : ClockRead → Time
  digit : Nat → Fin 10 := fun _ => 0
  curlInit : Bool := true
  delivered : Bool := true
  /-- The connection the pool hands out, or `nullptr` after a timeout. -/
  connection : Nat → Option Conn := fun _ => some 0
  /-- The connector call throws without effect. -/
  throws : Nat → Bool := fun _ => false
  valid : Nat → Bool := fun _ => true
  dbNow : Timestamp := 0
  rank : Nat → Int32 → Nat := fun _ _ => 0
  /-- The allocator has memory for a vector of this many elements. -/
  memory : Nat → Bool := fun _ => true
  fsThrows : Nat → Bool := fun _ => false
  opens : Nat → Bool := fun _ => true
  /-- A write fails after this many bytes. -/
  writeFails : Nat → Option Nat := fun _ => none
  /-- The flush of a close fails, and only this many bytes of the file are stored. -/
  closeFails : Nat → Option Nat := fun _ => none

/-- `CURLE_OK`: the mail of this request is delivered. -/
def Env.mailed (env : Env) : Bool := env.curlInit && env.delivered

/-- `reserve` of an empty vector succeeds. For no elements it allocates nothing. -/
def Env.hasMemory (env : Env) (count : Nat) : Bool := count == 0 || env.memory count

/-- What it does otherwise: `std::bad_alloc`, or `std::length_error`. -/
def Env.reserved (env : Env) (count : Nat) : Except Exn Unit :=
  if env.hasMemory count then .ok () else .error .stdException

/-- No file operation fails. -/
structure Env.FilesNeverFail (env : Env) : Prop where
  fsThrows : ∀ count, env.fsThrows count = false
  opens : ∀ count, env.opens count = true
  writes : ∀ count, env.writeFails count = none
  closes : ∀ count, env.closeFails count = none

/-- A write at the start of a file. -/
def overwrite (old data : ByteArray) : ByteArray := data ++ old.extract data.size old.size

/-- A connector call on a non-null connection that does not throw by itself. -/
def execCall (sys : System) (env : Env) (count : Nat) (conn : Conn) :
    (call : ConnectorCall) → World → Except Exn call.Reply × World
  | .isValid, w => (.ok (env.valid count), w)
  | .execute s, w =>
    match s.exec ⟨sys.collate, conn, env.dbNow, env.rank count⟩ w.db with
    | some (reply, db) => (.ok reply, { w with db })
    | none => (.error .sqlException, w)
  | .reconnect, w | .setSchema, w | .prepareStatement _, w | .createStatement, w
  | .setInt .., w | .setString .., w | .setNull _, w | .next, w | .rowsCount, w
  | .getInt _, w | .getString _, w | .isNull _, w => (.ok (), w)

def exec (sys : System) (env : Env) (count : Nat) :
    (effect : Effect) → World → effect.Reply × World
  | .now site, w => (env.clock site, w)
  | .uniformDigit i, w => (env.digit i, w)
  | .curlInit, w => (env.curlInit, w)
  | .curlPerform _, w => (env.delivered, w)
  | .findCode email, w => (w.codes.find email, w)
  | .derefCode ptr, w => ((w.codes.deref ptr).elim (.error .danglingRead) .ok, w)
  | .storeCode email code expiry action, w =>
    let info := ⟨code, env.clock .sendVerifyCode + expiry, action⟩
    ((), { w with codes := w.codes.assign email info })
  | .cleanupCodes now, w =>
    ((w.codes.cleanup now).1, { w with codes := (w.codes.cleanup now).2 })
  | .lockPool, w => (env.connection count, w)
  | .waitFor, w => (env.connection count, w)
  | .constructGuard _, w => ((), w)
  | .releaseConnection _, w => ((), w)
  | .connector none _, w => (.error .nullDeref, w)
  | .connector (some conn) call, w =>
    if env.throws count then (.error .sqlException, w) else execCall sys env count conn call w
  | .reserve elements, w => (env.reserved elements, w)
  | .fileExists path, w =>
    if env.fsThrows count then (.error .stdException, w)
    else (.ok (w.directories.contains path || (w.files path).isSome), w)
  | .createDirectory path, w =>
    if env.fsThrows count then (.error .stdException, w)
    else (.ok (), { w with directories := path :: w.directories })
  | .openOut path, w =>
    -- Opening for output truncates the file.
    if env.opens count then
      (true, { w with files := Function.update w.files path (some ByteArray.empty) })
    else (false, w)
  | .writeFile path data, w =>
    let stored := match env.writeFails count with
      | some n => data.extract 0 n
      | none => data
    let old := (w.files path).getD ByteArray.empty
    ((), { w with files := Function.update w.files path (some (overwrite old stored)) })
  | .closeOut path, w =>
    match env.closeFails count with
    | some n =>
      ((), { w with
        files := Function.update w.files path ((w.files path).map (·.extract 0 n)) })
    | none => ((), w)
  | .closeFile _, w => ((), w)
  | .openIn path, w => (env.opens count && (w.files path).isSome, w)
  | .readFile path, w => ((w.files path).getD ByteArray.empty, w)

/-- One effect under an environment, at any point of the request. -/
def Step (sys : System) (env : Env) (effect : Effect) (before : World) (reply : effect.Reply)
    (after : World) : Prop :=
  ∃ count, exec sys env count effect before = (reply, after)

/-- Run a program to completion. -/
def runProg {α : Type} (sys : System) (env : Env) (prog : Prog α) (w : World) :
    Except Exn α × World :=
  prog.run (exec sys env) 0 w

theorem runProg_of_wp {α : Type} {sys : System} {env : Env} {prog : Prog α}
    {post : Except Exn α → World → Prop} {w : World} (wp : prog.Wp (Step sys env) post w) :
    post (runProg sys env prog w).1 (runProg sys env prog w).2 :=
  wp.run (fun count _ _ => ⟨count, rfl⟩) 0

/-- What every effect of a program keeps, the program keeps. -/
theorem wp_of_performs {α : Type} {sys : System} {env : Env} {allowed : Effect → Prop}
    {prog : Prog α} (inv : World → Prop) (performs : prog.Performs allowed)
    (kept : ∀ effect count before, allowed effect → inv before →
      inv (exec sys env count effect before).2) {w : World} (holds : inv w) :
    prog.Wp (Step sys env) (fun _ after => inv after) w := by
  refine Program.Safe.mono (Program.Uses.safe inv performs ?_ ?_ ?_ holds) fun _ _ both => both.2
  · rintro a b holds rfl
    exact holds
  · exact fun _ _ _ _ => trivial
  · rintro effect before reply after permitted holds ⟨count, performed⟩
    have next := kept effect count before permitted holds
    rw [performed] at next
    exact next

/-! ### Rules for the effects an environment answers in one way -/

section Rules

variable {sys : System} {env : Env} {α : Type} {post : Except Exn α → World → Prop} {w : World}

theorem wp_act_of_exec {effect : Effect} {rest : effect.Reply → Prog α} {after : World}
    {reply : effect.Reply} (answer : ∀ count, exec sys env count effect w = (reply, after)) :
    (Program.act effect rest : Prog α).Wp (Step sys env) post w ↔
      (rest reply).Wp (Step sys env) post after := by
  rw [Program.wp_act]
  constructor
  · intro all
    exact all reply after ⟨0, answer 0⟩
  · rintro one r a ⟨count, equal⟩
    rw [answer count] at equal
    cases equal
    exact one

@[simp] theorem wp_now (site : ClockRead) (rest : Time → Prog α) :
    (Program.act (.now site) rest : Prog α).Wp (Step sys env) post w ↔
      (rest (env.clock site)).Wp (Step sys env) post w :=
  wp_act_of_exec fun _ => rfl

@[simp] theorem wp_uniformDigit (i : Nat) (rest : Fin 10 → Prog α) :
    (Program.act (.uniformDigit i) rest : Prog α).Wp (Step sys env) post w ↔
      (rest (env.digit i)).Wp (Step sys env) post w :=
  wp_act_of_exec fun _ => rfl

@[simp] theorem wp_curlInit (rest : Bool → Prog α) :
    (Program.act .curlInit rest : Prog α).Wp (Step sys env) post w ↔
      (rest env.curlInit).Wp (Step sys env) post w :=
  wp_act_of_exec fun _ => rfl

@[simp] theorem wp_curlPerform (mail : Mail) (rest : Bool → Prog α) :
    (Program.act (.curlPerform mail) rest : Prog α).Wp (Step sys env) post w ↔
      (rest env.delivered).Wp (Step sys env) post w :=
  wp_act_of_exec fun _ => rfl

@[simp] theorem wp_findCode (email : String) (rest : Option CodePtr → Prog α) :
    (Program.act (.findCode email) rest : Prog α).Wp (Step sys env) post w ↔
      (rest (w.codes.find email)).Wp (Step sys env) post w :=
  wp_act_of_exec fun _ => rfl

@[simp] theorem wp_derefCode (ptr : CodePtr) (rest : Except Exn VerifyInfo → Prog α) :
    (Program.act (.derefCode ptr) rest : Prog α).Wp (Step sys env) post w ↔
      (rest ((w.codes.deref ptr).elim (.error .danglingRead) .ok)).Wp (Step sys env) post w :=
  wp_act_of_exec fun _ => rfl

@[simp] theorem wp_storeCode (email code : String) (expiry : Time) (action : String)
    (rest : Unit → Prog α) :
    (Program.act (.storeCode email code expiry action) rest : Prog α).Wp (Step sys env) post w ↔
      (rest ()).Wp (Step sys env) post { w with
        codes := w.codes.assign email ⟨code, env.clock .sendVerifyCode + expiry, action⟩ } :=
  wp_act_of_exec fun _ => rfl

@[simp] theorem wp_cleanupCodes (now : Time) (rest : Nat → Prog α) :
    (Program.act (.cleanupCodes now) rest : Prog α).Wp (Step sys env) post w ↔
      (rest (w.codes.cleanup now).1).Wp (Step sys env) post
        { w with codes := (w.codes.cleanup now).2 } :=
  wp_act_of_exec fun _ => rfl

@[simp] theorem wp_constructGuard (conn : Option Conn) (rest : Unit → Prog α) :
    (Program.act (.constructGuard conn) rest : Prog α).Wp (Step sys env) post w ↔
      (rest ()).Wp (Step sys env) post w :=
  wp_act_of_exec fun _ => rfl

@[simp] theorem wp_reserve (count : Nat) (rest : Except Exn Unit → Prog α) :
    (Program.act (.reserve count) rest : Prog α).Wp (Step sys env) post w ↔
      (rest (env.reserved count)).Wp (Step sys env) post w :=
  wp_act_of_exec fun _ => rfl

@[simp] theorem wp_releaseConnection (conn : Conn) (rest : Unit → Prog α) :
    (Program.act (.releaseConnection conn) rest : Prog α).Wp (Step sys env) post w ↔
      (rest ()).Wp (Step sys env) post w :=
  wp_act_of_exec fun _ => rfl

end Rules

/-! ### The map of codes -/

namespace CodeStore

theorem find_eq_none {codes : CodeStore} {email : String} :
    codes.find email = none ↔ codes.info? email = none := by
  simp only [find, info?, Option.map_eq_none_iff]

/-- Right after the lookup the pointer reads the entry of the address. -/
theorem deref_of_find {codes : CodeStore} {email : String} {ptr : CodePtr}
    (found : codes.find email = some ptr) : codes.deref ptr = codes.info? email := by
  unfold find at found
  cases stored : codes.entries.lookup email with
  | none => simp [stored] at found
  | some entry =>
    simp only [stored, Option.map_some, Option.some.injEq] at found
    subst found
    simp [deref, info?, stored]

theorem info?_assign (codes : CodeStore) (email other : String) (info : VerifyInfo) :
    (codes.assign email info).info? other =
      if other = email then some info else codes.info? other := by
  unfold assign
  split <;> by_cases same : other = email
  all_goals first
    | (subst same; simp [info?])
    | simp [info?, same]

@[simp] theorem info?_empty (email : String) : ({} : CodeStore).info? email = none := rfl

/-- What the loop leaves of an entry: the rest of the iteration decides, and an entry it
does not visit stays. -/
theorem lookup_cleanupLoop (now : Time) (email : String)
    (visits : List (Sigma fun _ : String => CodeNode)) (count : Nat)
    (entries : AList fun _ : String => CodeNode) :
    (cleanupLoop now count entries visits).2.lookup email =
      if visits.any fun it => it.1 == email && decide (it.2.info.expireTime < now) then none
      else entries.lookup email := by
  induction visits generalizing count entries with
  | nil => rfl
  | cons it rest ih =>
    rw [cleanupLoop, List.any_cons]
    by_cases expired : it.2.info.expireTime < now
    · -- An expired entry is erased here, whatever the rest of the loop does.
      rw [if_pos expired, ih]
      by_cases here : it.1 = email
      · subst here
        rw [AList.lookup_erase, decide_eq_true expired, beq_self_eq_true]
        simp
      · rw [AList.lookup_erase_ne fun equal => here equal.symm, beq_false_of_ne here]
        rfl
    · rw [if_neg expired, ih, decide_eq_false expired, Bool.and_false, Bool.false_or]

/-- Cleaning up erases exactly the expired entries. -/
theorem info?_cleanup (codes : CodeStore) (now : Time) (email : String) :
    (codes.cleanup now).2.info? email =
      (codes.info? email).filter fun info => !decide (info.expireTime < now) := by
  have mem_lookup (it : Sigma fun _ : String => CodeNode) :
      it ∈ codes.entries.entries ↔ codes.entries.lookup it.1 = some it.2 :=
    AList.mem_lookup_iff.symm
  simp only [cleanup, info?, lookup_cleanupLoop]
  cases stored : codes.entries.lookup email with
  | none => simp
  | some entry =>
    by_cases expired : entry.info.expireTime < now
    -- The loop over the map meets the entry and erases it.
    · have visited : codes.entries.entries.any
          (fun it => it.1 == email && decide (it.2.info.expireTime < now)) = true :=
        List.any_eq_true.mpr ⟨⟨email, entry⟩, (mem_lookup _).mpr stored, by simp [expired]⟩
      simp [visited, Option.filter, expired]
    -- Under the key there is no entry but this one, which the loop leaves.
    · have unvisited : codes.entries.entries.any
          (fun it => it.1 == email && decide (it.2.info.expireTime < now)) = false := by
        rw [List.any_eq_false]
        rintro ⟨key, value⟩ visited
        by_cases here : key = email
        · subst here
          have same : value = entry :=
            Option.some.inj (((mem_lookup _).mp visited).symm.trans stored)
          simp [same, expired]
        · simp [here]
      simp [unvisited, Option.filter, expired]

end CodeStore

end MusicPlayer
