import CordonWatch.Fault
import CordonWatch.Lease.Elector

/-!
# A server with one lease

The server side of an election, with a clock of its own that only sleeping
moves. A lease is created once, and replaced only by a write that carries the
version that is stored. Requests are recorded in order, and meet with the
faults that are scheduled before they are performed.

A race stands for another writer: it makes the next replacement find that the
lease has changed meanwhile.

The server keeps the text of the time of acquisition as it was written. Electors
write it with microseconds; other clients may write it otherwise.
-/

namespace CordonWatch

/-- A server with one lease, and what became of the requests to it. -/
structure LeaseServer where
  /-- The namespace of the lease. -/
  ns : String
  lease : Option Lease := none
  /-- The text of the time at which the lease was acquired, where another client than an
  elector has written it. -/
  acquireText : Option String := none
  /-- The version given last. -/
  lastVersion : Nat := 0
  /-- How many of the next replacements will find the lease changed. -/
  races : Nat := 0
  faults : List (Fault Api.Method Api.Refusal) := []
  /-- The requests, the first one first. -/
  exchanges : List Api.Exchange := []
  logs : List LogLine := []
  now : Instant
  deriving Inhabited

namespace LeaseServer

/-- Stores a lease under a new version, as an elector writes it unless a text is given. -/
def store (s : LeaseServer) (spec : Option LeaseSpec) (acquireText : Option String := none) :
    LeaseServer :=
  { s with
    lease := some ⟨s.lastVersion + 1, spec⟩
    acquireText
    lastVersion := s.lastVersion + 1 }

/-- The text that is stored of a time at which the lease was acquired. -/
def shownAcquired (s : LeaseServer) (acquired : Instant) : String :=
  s.acquireText.getD acquired.renderMicros

/-- Time passes. -/
def advance (s : LeaseServer) (nanos : Nat) : LeaseServer :=
  { s with now := s.now.addNanos nanos }

/-- Reads the lease. -/
def get (s : LeaseServer) : Except Api.Refusal Lease :=
  match s.lease with
  | some lease => .ok lease
  | none => .error (.notFound "lease not found")

/-- Creates the lease, unless there is one. -/
def create (s : LeaseServer) (spec : LeaseSpec) : Except Api.Refusal Unit × LeaseServer :=
  match s.lease with
  | none => (.ok (), s.store (some spec))
  | some _ => (.error (.stale "lease already exists"), s)

/-- Replaces the lease, if the write carries the version that is stored. -/
def replace (s : LeaseServer) (lease : Lease) : Except Api.Refusal Unit × LeaseServer :=
  match s.lease with
  | none => (.error (.notFound "lease not found"), s)
  | some stored =>
    if s.races > 0 then
      (.error (.stale "lease was modified"),
        { s.store stored.spec s.acquireText with races := s.races - 1 })
    else if lease.version ≠ stored.version then (.error (.stale "lease was modified"), s)
    else (.ok (), s.store lease.spec)

/-- The code of an answer, where `success` is that of a request that was performed. -/
def codeOf {α : Type} (success : Nat) : Except Api.Refusal α → Nat
  | .ok _ => success
  | .error e => e.code

/-- Shows a request to the faults, performs it if none strikes, and records
it with the code of its answer. A request that cannot be made goes nowhere. -/
def exchange {α : Type} (method : Api.Method) (path : String) (success : Nat)
    (perform : LeaseServer → Except Api.Refusal α × LeaseServer) (s : LeaseServer) :
    Except Api.RequestFailure α × LeaseServer :=
  match Http.Target.defect? path with
  | some defect => (.error (.unmade (.target defect)), s)
  | none =>
    let (refusal, faults) := Fault.meet method s.faults
    let (answer, s) : Except Api.Refusal α × LeaseServer :=
      match refusal with
      | some e => (.error e, { s with faults })
      | none => perform { s with faults }
    (answer.mapError Api.Refusal.failure,
      { s with exchanges := s.exchanges ++ [⟨method, path, codeOf success answer⟩] })

/-- Answers a call of an elector. -/
def answer (call : LeaseCall) (s : LeaseServer) : call.Answer × LeaseServer :=
  match call with
  | .get => s.exchange .get (Lease.path s.ns) 200 fun s => (s.get, s)
  | .create spec => s.exchange .post (Lease.collectionPath s.ns) 201 (·.create spec)
  | .replace lease => s.exchange .put (Lease.path s.ns) 200 (·.replace lease)
  | .sleep span => ((), s.advance (span.millis * 10 ^ 6))

/-- Records a note of a program. -/
def record (note : Note) (s : LeaseServer) : LeaseServer :=
  match note with
  | .log line => { s with logs := s.logs ++ [line] }
  | _ => s

/-- Runs the programs of an elector. -/
def handler : Program.Handler LeaseCall LeaseCall.Answer LeaseServer where
  answer := answer
  clock := now
  record := record

/-- Forgets the requests and the lines recorded so far. -/
def forgetRecords (s : LeaseServer) : LeaseServer := { s with exchanges := [], logs := [] }

/-- Lets an elector try to acquire the lease for a time, and says whether it
did. Attempts start from the beginning in even distance, up to but not at the
end; if none succeeds all the time has passed. -/
def acquireWithin (s : LeaseServer) (id : String) (limitNanos : Nat) : Bool × LeaseServer :=
  let interval := Elector.retryInterval.millis * 10 ^ 6
  let attempts := (limitNanos + interval - 1) / interval
  let (acquired, after) := (Elector.acquire id attempts).run handler s
  if acquired then (true, after) else (false, { after with now := s.now.addNanos limitNanos })

end LeaseServer

end CordonWatch
