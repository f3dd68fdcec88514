import CordonWatch.Json.Record
import CordonWatch.Object.Meta
import CordonWatch.Time.Instant

/-!
# The lease

Of several controllers only the holder of the lease works. The lease names its
holder and says when it was last renewed; when it has gone unrenewed for longer
than its duration, anybody may take it over. Durations are compared in whole
seconds, a part of a second being cut off, so a lease of 15 seconds expires
when 16 seconds have passed.
-/

namespace CordonWatch

/-- What a lease says. Its times have microseconds. -/
structure LeaseSpec where
  holderIdentity : Option String := none
  /-- An integer of 32 bits with sign. -/
  leaseDurationSeconds : Option Int := none
  acquireTime : Option Instant := none
  renewTime : Option Instant := none
  /-- How often the lease has changed hands; an integer of 32 bits with sign. -/
  leaseTransitions : Option Int := none
  preferredHolder : Option String := none
  strategy : Option String := none
  deriving DecidableEq, Repr, Inhabited

/-- A lease as stored. -/
structure Lease where
  version : Nat
  spec : Option LeaseSpec
  deriving DecidableEq, Repr, Inhabited

/-- An instant with what is below a microsecond cut off. -/
def Instant.wholeMicros (t : Instant) : Instant := ⟨t.seconds, t.nanos / 1000 * 1000⟩

/-- The integer of 32 bits with sign that a sum that left the range wraps to. -/
def wrap32 (n : Int) : Int := Int.bmod n (2 ^ 32)

namespace LeaseSpec

/-- Seconds that a lease lasts without being renewed, unless it says otherwise. -/
def standardDuration : Int := 15

/-- Whether the lease has gone unrenewed for longer than its duration. One
that was never renewed has. -/
def isExpired (spec : LeaseSpec) (now : Instant) : Bool :=
  match spec.renewTime with
  | none => true
  | some renewed =>
    decide (now.secondsSince renewed > spec.leaseDurationSeconds.getD standardDuration)

/-- What the lease says when `identity` takes it over at `now`. -/
def takenOver (previous : LeaseSpec) (identity : String) (now : Instant) : LeaseSpec where
  holderIdentity := some identity
  leaseDurationSeconds := some standardDuration
  acquireTime := some now
  renewTime := some now
  leaseTransitions := some (wrap32 (previous.leaseTransitions.getD 0 + 1))

/-- What the lease says when its holder `identity` claims it again at `now`. -/
def reclaimed (previous : LeaseSpec) (identity : String) (now : Instant) : LeaseSpec where
  holderIdentity := some identity
  leaseDurationSeconds := some standardDuration
  acquireTime := previous.acquireTime
  renewTime := some now
  leaseTransitions := some (previous.leaseTransitions.getD 0)

/-- What the first lease says. -/
def first (identity : String) (now : Instant) : LeaseSpec where
  holderIdentity := some identity
  leaseDurationSeconds := some standardDuration
  acquireTime := some now
  renewTime := some now
  leaseTransitions := some 0

/-- Reads what a lease says, as an open record. -/
def ofJson? (v : Json) : Option LeaseSpec := do
  let fields ← v.open?
  return {
    holderIdentity := ← Json.entry? "holderIdentity" Json.asText fields
    leaseDurationSeconds := ← Json.entry? "leaseDurationSeconds" Json.asInt32 fields
    acquireTime := ← Json.entry? "acquireTime" Instant.ofJson? fields
    renewTime := ← Json.entry? "renewTime" Instant.ofJson? fields
    leaseTransitions := ← Json.entry? "leaseTransitions" Json.asInt32 fields
    preferredHolder := ← Json.entry? "preferredHolder" Json.asText fields
    strategy := ← Json.entry? "strategy" Json.asText fields }

/-- What a lease says, where `acquired` and `renewed` write the times. -/
def toJsonWith (acquired renewed : Instant → Json) (s : LeaseSpec) : Json := .object <|
  Json.present "acquireTime" acquired s.acquireTime
    ++ Json.present "holderIdentity" .text s.holderIdentity
    ++ Json.present "leaseDurationSeconds" .int s.leaseDurationSeconds
    ++ Json.present "leaseTransitions" .int s.leaseTransitions
    ++ Json.present "preferredHolder" .text s.preferredHolder
    ++ Json.present "renewTime" renewed s.renewTime
    ++ Json.present "strategy" .text s.strategy

end LeaseSpec

namespace Lease

/-- The name under which the lease is stored. -/
def name : String := "eviction-autoscaler-leader"

/-- Who holds the lease. -/
def holder? (l : Lease) : Option String := l.spec.bind LeaseSpec.holderIdentity

/-- The path of the leases of a namespace. -/
def collectionPath (ns : String) : String :=
  "/apis/coordination.k8s.io/v1/namespaces/" ++ ns ++ "/leases"

/-- The path of the lease of a namespace. -/
def path (ns : String) : String := collectionPath ns ++ "/" ++ name

end Lease

end CordonWatch
