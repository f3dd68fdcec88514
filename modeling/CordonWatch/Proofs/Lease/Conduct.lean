import CordonWatch.Lease.Elector
import CordonWatch.Proofs.Program

/-!
# What an elector writes

The three operations of an elector with the lease as it is stored, whatever
else happens to it meanwhile. Each writes at most what it makes of the lease
it has just read: an attempt claims a lease that was the elector's own or had
expired when the clock was read, a renewal sets the time of a lease that was
its own, a release clears the holder of one that was its own. `Makes` says what
exactly becomes of the lease, `MayWrite` as much of it as a tenure depends on.
An attempt ends well only if its write was accepted.

These are two conducts, `exactly` and the looser `conduct`, in terms of what the
elector has seen (`Sight`). The operations keep the exact one
(`keeps_exactly_program`), and so they keep the other (`keeps_program`).
-/

namespace CordonWatch.Elector

/-- An operation of an elector. -/
inductive Operation where
  | attempt
  | renew
  | release
  deriving DecidableEq

/-- What an operation gives. -/
@[reducible]
def Operation.Result : Operation → Type
  | .attempt => Except Api.RequestFailure Bool
  | .renew => Except Api.RequestFailure Bool
  | .release => Unit

/-- The program of an operation. -/
def Operation.program (id : String) : (op : Operation) → LeaseProgram op.Result
  | .attempt => Elector.attempt id
  | .renew => Elector.renew id
  | .release => Elector.release id

/-- What an elector has seen since it began an operation. -/
structure Sight where
  /-- What the clock showed when it was read last. -/
  reading : Option Instant := none
  /-- The lease that was read last. -/
  lastRead : Option Lease := none
  /-- Whether a write was accepted. -/
  wrote : Bool := false

/-- What an operation may make of a lease that it has read. -/
def MayWrite (id : String) (reading : Option Instant) (old : Lease) :
    Operation → Option LeaseSpec → Prop
  | .attempt, written => ∃ now spec, reading = some now ∧ written = some spec ∧
      (old.holder? = some id ∨ (old.spec.getD {}).isExpired now) ∧
      spec.holderIdentity = some id ∧ spec.renewTime = some now.wholeMicros ∧
      spec.leaseDurationSeconds = some LeaseSpec.standardDuration
  | .renew, written => old.holder? = some id ∧
      ∃ now, written = old.spec.map fun spec => { spec with renewTime := some now }
  | .release, written => old.holder? = some id ∧
      written = old.spec.map fun spec => { spec with holderIdentity := none }

/-- The conduct of an elector in an operation. -/
def conduct (id : String) (op : Operation) : Program.Conduct LeaseCall LeaseCall.Answer Sight where
  allows seen
    | .get => True
    | .create spec => op = .attempt ∧
        ∃ now, seen.reading = some now ∧ spec = .first id now.wholeMicros
    | .replace lease => ∃ old, seen.lastRead = some old ∧ lease.version = old.version ∧
        MayWrite id seen.reading old op lease.spec
    | .sleep _ => False
  hears seen
    | .get, answer =>
      match answer with
      | .ok lease => { seen with lastRead := some lease }
      | .error _ => seen
    | .create _, answer | .replace _, answer =>
      match answer with
      | .ok () => { seen with wrote := true }
      | .error _ => seen
    | .sleep _, _ => seen
  sees seen now := { seen with reading := some now }

/-- What an operation makes of a lease that it has read. -/
inductive Makes (id : String) (reading : Option Instant) (old : Lease) :
    Operation → Option LeaseSpec → Prop
  | reclaim {now : Instant} (read : reading = some now) (mine : old.holder? = some id) :
    Makes id reading old .attempt (some ((old.spec.getD {}).reclaimed id now.wholeMicros))
  | takeover {now : Instant} (read : reading = some now) (other : old.holder? ≠ some id)
    (expired : (old.spec.getD {}).isExpired now = true) :
    Makes id reading old .attempt (some ((old.spec.getD {}).takenOver id now.wholeMicros))
  | renewal {now : Instant} (read : reading = some now) (mine : old.holder? = some id) :
    Makes id reading old .renew
      (old.spec.map fun spec => { spec with renewTime := some now.wholeMicros })
  | release (mine : old.holder? = some id) :
    Makes id reading old .release (old.spec.map fun spec => { spec with holderIdentity := none })

theorem Makes.mayWrite {id : String} {reading : Option Instant} {old : Lease} {op : Operation}
    {spec : Option LeaseSpec} (h : Makes id reading old op spec) :
    MayWrite id reading old op spec := by
  cases h with
  | @reclaim now read mine => exact ⟨now, _, read, rfl, Or.inl mine, rfl, rfl, rfl⟩
  | @takeover now read other expired => exact ⟨now, _, read, rfl, Or.inr expired, rfl, rfl, rfl⟩
  | @renewal now read mine => exact ⟨mine, now.wholeMicros, rfl⟩
  | release mine => exact ⟨mine, rfl⟩

/-- The conduct of an elector in an operation, with all that it writes. -/
def exactly (id : String) (op : Operation) : Program.Conduct LeaseCall LeaseCall.Answer Sight where
  allows seen
    | .get => True
    | .create spec => op = .attempt ∧
        ∃ now, seen.reading = some now ∧ spec = .first id now.wholeMicros
    | .replace lease => ∃ old, seen.lastRead = some old ∧ lease.version = old.version ∧
        Makes id seen.reading old op lease.spec
    | .sleep _ => False
  hears := (conduct id op).hears
  sees := (conduct id op).sees

/-- An attempt that ends well has written. -/
def Fits : (op : Operation) → Sight → op.Result → Prop
  | .attempt, seen, result => result = .ok true → seen.wrote = true
  | .renew, _, _ => True
  | .release, _, _ => True

theorem written_error (e : Api.RequestFailure) : written (.error e) ≠ .ok true := by
  unfold written
  dsimp only
  split
  · exact fun h => nomatch h
  · exact fun h => nomatch h

theorem keeps_replace {id : String} {op : Operation} {seen : Sight} {old : Lease}
    {spec : Option LeaseSpec} (hread : seen.lastRead = some old)
    (hwrite : Makes id seen.reading old op spec) :
    (replace { old with spec }).Keeps (exactly id op)
      (fun seen result => result = .ok true → seen.wrote = true) seen := by
  refine ⟨⟨old, hread, rfl, hwrite⟩, fun answer => ?_⟩
  match answer with
  | .ok () => exact fun _ => rfl
  | .error e => exact fun h => absurd h (written_error e)

/-- An attempt reads all that it depends on itself, so it may begin with anything seen. -/
theorem keeps_attempt (id : String) (seen : Sight) :
    (attempt id).Keeps (exactly id .attempt) (Fits .attempt) seen := by
  intro now
  refine ⟨trivial, fun answer => ?_⟩
  match answer with
  | .ok lease =>
    dsimp only [claim]
    split
    next hmine => exact keeps_replace rfl (.reclaim rfl hmine)
    next hother =>
      split
      next hexpired => exact keeps_replace rfl (.takeover rfl hother hexpired)
      next => exact fun h => nomatch h
  | .error e =>
    dsimp only
    split
    · refine ⟨⟨rfl, now, rfl, rfl⟩, fun answer => ?_⟩
      match answer with
      | .ok () => exact fun _ => rfl
      | .error e => exact fun h => absurd h (written_error e)
    · exact fun h => nomatch h

theorem keeps_renew (id : String) (seen : Sight) :
    (renew id).Keeps (exactly id .renew) (Fits .renew) seen := by
  refine ⟨trivial, fun answer => ?_⟩
  match answer with
  | .error e => exact trivial
  | .ok lease =>
    dsimp only
    split
    next hmine =>
      intro now
      refine Program.Keeps.bind (keeps_replace rfl (@Makes.renewal id _ _ now rfl hmine))
        fun seen result _ => ?_
      match result with
      | .ok true => exact trivial
      | .ok false => exact trivial
      | .error e => exact trivial
    next => exact trivial

theorem keeps_release (id : String) (seen : Sight) :
    (release id).Keeps (exactly id .release) (Fits .release) seen := by
  refine ⟨trivial, fun answer => ?_⟩
  match answer with
  | .error e => exact trivial
  | .ok lease =>
    dsimp only
    split
    next hmine =>
      refine Program.Keeps.bind (keeps_replace rfl (.release hmine)) fun seen result _ => ?_
      match result with
      | .ok true => exact trivial
      | .ok false => exact trivial
      | .error e => exact trivial
    next => exact trivial

/-- The operations of an elector keep to their exact conduct, whatever it has seen before. -/
theorem keeps_exactly_program (id : String) (op : Operation) (seen : Sight) :
    (op.program id).Keeps (exactly id op) (Fits op) seen := by
  cases op with
  | attempt => exact keeps_attempt id seen
  | renew => exact keeps_renew id seen
  | release => exact keeps_release id seen

/-- The operations of an elector keep to their conduct, having seen nothing to begin with. -/
theorem keeps_program (id : String) (op : Operation) :
    (op.program id).Keeps (conduct id op) (Fits op) {} := by
  refine (keeps_exactly_program id op {}).mono (fun seen call hcall => ?_) rfl rfl
  cases call with
  | get => exact trivial
  | create spec => exact hcall
  | replace lease =>
    obtain ⟨old, hread, hversion, hmakes⟩ := hcall
    exact ⟨old, hread, hversion, hmakes.mayWrite⟩
  | sleep span => exact hcall.elim

end CordonWatch.Elector
