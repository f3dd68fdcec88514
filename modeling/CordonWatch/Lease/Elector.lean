import CordonWatch.Api.Request
import CordonWatch.Lease.Basic
import CordonWatch.Program
import CordonWatch.Text.Digits
import CordonWatch.Text.Quoted
import CordonWatch.Time.Span

/-!
# Holding the lease

An elector tries to acquire the lease until it succeeds, renews it from time
to time, and releases it in the end. It knows only what it reads: every write
replaces the version it has just read, so a write over somebody else's is
refused. A refused write is no failure but means that the lease is not the
elector's; any other failed request is reported as it is.

Each of the operations is a finite program. Waiting to acquire is one with a
bound on the number of attempts; where an attempt succeeds within a bound, a
greater bound changes nothing.
-/

namespace CordonWatch

/-- What an elector asks of the world: requests about the lease, and to sleep. -/
inductive LeaseCall where
  | get
  | create (spec : LeaseSpec)
  | replace (lease : Lease)
  | sleep (span : Span)
  deriving DecidableEq, Repr, Inhabited

/-- What a call is answered with. -/
@[reducible]
def LeaseCall.Answer : LeaseCall → Type
  | .get => Except Api.RequestFailure Lease
  | .create _ => Except Api.RequestFailure Unit
  | .replace _ => Except Api.RequestFailure Unit
  | .sleep _ => Unit

/-- A program of an elector. -/
abbrev LeaseProgram (α : Type) : Type := Program LeaseCall LeaseCall.Answer α

namespace Elector

/-- Delay between attempts to acquire the lease. -/
def retryInterval : Span := Span.ofSeconds 5

/-- Delay between renewals of the lease. -/
def renewInterval : Span := Span.ofSeconds 10

/-- Who an elector is: its pod, else its host, else a name with a number of
32 bits in it. -/
def identity (podName hostname : Option String) (number : Nat) : String :=
  match podName, hostname with
  | some pod, _ => pod
  | none, some host => host
  | none, none => "eviction-autoscaler-" ++ Text.zeroPadded 8 (Text.hex number)

/-- The namespace of the lease: the one asked for, else the one that the
platform has put down for the program, else the default one. -/
def chooseNamespace (asked : String) (putDown : Option String) : String :=
  if !asked.isEmpty then asked
  else
    match putDown with
    | some text =>
      let cs := text.toList.dropWhile Text.isBlank
      String.ofList (cs.reverse.dropWhile Text.isBlank).reverse
    | none => "default"

/-- Whether a write was done, where a refused one was not. -/
def written : Except Api.RequestFailure Unit → Except Api.RequestFailure Bool
  | .ok () => .ok true
  | .error e => if e.isConflict then .ok false else .error e

/-- Creates the lease. -/
def create (id : String) (now : Instant) : LeaseProgram (Except Api.RequestFailure Bool) :=
  .ask (.create (.first id now.wholeMicros)) fun answer => .done (written answer)

/-- Replaces the lease. -/
def replace (lease : Lease) : LeaseProgram (Except Api.RequestFailure Bool) :=
  .ask (.replace lease) fun answer => .done (written answer)

/-- Claims a lease that was read, unless somebody else holds it. -/
def claim (id : String) (lease : Lease) (now : Instant) :
    LeaseProgram (Except Api.RequestFailure Bool) :=
  let spec := lease.spec.getD {}
  if lease.holder? = some id then
    replace { lease with spec := some (spec.reclaimed id now.wholeMicros) }
  else if spec.isExpired now then
    replace { lease with spec := some (spec.takenOver id now.wholeMicros) }
  else .done (.ok false)

/-- One attempt to acquire the lease. -/
def attempt (id : String) : LeaseProgram (Except Api.RequestFailure Bool) :=
  -- The clock is read before the lease, so the time written is not later than the answer.
  .readClock fun now =>
    .ask .get fun
      | .ok lease => claim id lease now
      | .error e => if e.isNotFound then create id now else .done (.error e)

/-- Attempts to acquire the lease, at most `attempts` times and with a sleep
between two of them, and says whether one succeeded. -/
def attemptUpTo (id : String) : Nat → LeaseProgram Bool
  | 0 => .done false
  | attempts + 1 =>
    let goOn : LeaseProgram Bool :=
      if attempts = 0 then .done false
      else .ask (.sleep retryInterval) fun () => attemptUpTo id attempts
    (attempt id).bind fun
      | .ok true => .log (.info "Acquired leader lease" [("identity", id)]) (.done true)
      | .ok false =>
        .log (.debug ("Lease held by another instance, retrying in " ++ retryInterval.render) [])
          goOn
      | .error e =>
        .log
          (.warn
            ("Lease acquisition error: " ++ e.message ++ ", retrying in " ++ retryInterval.render)
            [])
          goOn

/-- Waits until the lease is acquired, for at most that many attempts. -/
def acquire (id : String) (attempts : Nat) : LeaseProgram Bool :=
  .log
    (.info "Waiting to acquire leader lease" [("identity", id), ("lease", Lease.name)])
    (attemptUpTo id attempts)

/-- Renews the lease, and says whether the elector still holds it. -/
def renew (id : String) : LeaseProgram (Except Api.RequestFailure Bool) :=
  .ask .get fun
    | .error e => .done (.error e)
    | .ok lease =>
      if lease.holder? = some id then
        .readClock fun now =>
          let spec := lease.spec.map fun s => { s with renewTime := some now.wholeMicros }
          (replace { lease with spec }).bind fun
            | .ok true => .log (.debug "Renewed leader lease" []) (.done (.ok true))
            | .ok false =>
              .log (.warn "Lease conflict during renewal, lost leadership" []) (.done (.ok false))
            | .error e => .done (.error e)
      else .done (.ok false)

/-- Gives the lease up. -/
def release (id : String) : LeaseProgram Unit :=
  .ask .get fun
    | .error e => .log (.warn ("Failed to read lease for release: " ++ e.message) []) (.done ())
    | .ok lease =>
      if lease.holder? = some id then
        let spec := lease.spec.map fun s => { s with holderIdentity := none }
        (replace { lease with spec }).bind fun
          | .ok true => .log (.info "Released leader lease" [("identity", id)]) (.done ())
          | .ok false => .log (.warn "Lease changed before release" []) (.done ())
          | .error e =>
            .log (.warn ("Failed to release leader lease: " ++ e.message) []) (.done ())
      else .log (.debug "Lease not held by us, skipping release" []) (.done ())

end Elector

end CordonWatch
