import CordonWatch.Proofs.Lease.Tenure
import Mathlib.Data.List.Basic

/-!
# The history of the lease

Any number of electors acquire, renew and release one lease, each in any number of
operations at once, request by request and in any order. Requests may fail, operations
may be given up, and the clock may show anything to anybody. A register notes every write
that is accepted (`Entry`): whose it is, what the clock showed and which lease the elector
had read last, and the lease before and after.

Every entry is one of five (`Justified`): the lease is created, taken over, claimed again
by its holder, renewed by its holder or released by its holder, and nothing but what
belongs to that changes. The version replaced is the one that the elector read last, and
so is all that the lease says. So the lease keeps its history (`writes_justified`): it has
changed hands as often as it says, beyond what it said to begin with, and it was acquired
last when it says.

The number of transitions has 32 bits and would wrap. It does not as long as no lease that
is replaced has the greatest number.
-/

namespace CordonWatch

open Elector (Sight Operation Makes)
open LeaseServer (Alike Written Versioned)

/-- How often the lease has changed hands. -/
def transitions (spec : Option LeaseSpec) : Int := (spec.bind LeaseSpec.leaseTransitions).getD 0

/-- When the lease was acquired by its holder. -/
def acquired (spec : Option LeaseSpec) : Option Instant := spec.bind LeaseSpec.acquireTime

/-- An accepted write of the lease. -/
structure Entry where
  /-- Whose write it is. -/
  elector : String
  /-- What the clock showed to the elector last, in the operation that writes. -/
  reading : Option Instant
  /-- The lease that the elector has read last, in whatever operation. -/
  lastRead : Option Lease
  /-- The lease that is replaced; none if it is created. -/
  before : Option Lease
  /-- What the lease says from then on. -/
  after : Option LeaseSpec

/-- What an elector may do to the lease with a write. -/
inductive Justified (id : String) (reading : Option Instant) (before : Option Lease) :
    Option LeaseSpec → Prop
  /-- There was no lease. -/
  | creation {now : Instant} (absent : before = none) (read : reading = some now) :
    Justified id reading before (some {
      holderIdentity := some id
      leaseDurationSeconds := some 15
      acquireTime := some now.wholeMicros
      renewTime := some now.wholeMicros
      leaseTransitions := some 0 })
  /-- The lease was not held by the elector, and had no time of renewal or had expired. -/
  | takeover {old : Lease} {now : Instant} (there : before = some old)
    (read : reading = some now) (other : old.holder? ≠ some id)
    (expired : ∀ renewed, old.spec.bind LeaseSpec.renewTime = some renewed →
      now.secondsSince renewed > (old.spec.bind LeaseSpec.leaseDurationSeconds).getD 15) :
    Justified id reading before (some {
      holderIdentity := some id
      leaseDurationSeconds := some 15
      acquireTime := some now.wholeMicros
      renewTime := some now.wholeMicros
      leaseTransitions := some (transitions old.spec + 1) })
  /-- The holder claims the lease again. -/
  | reclaim {old : Lease} {now : Instant} (there : before = some old)
    (read : reading = some now) (mine : old.holder? = some id) :
    Justified id reading before (some {
      holderIdentity := some id
      leaseDurationSeconds := some 15
      acquireTime := acquired old.spec
      renewTime := some now.wholeMicros
      leaseTransitions := some (transitions old.spec) })
  /-- The holder renews the lease: only the time of renewal changes. -/
  | renewal {old : Lease} {now : Instant} {spec : LeaseSpec} (there : before = some old)
    (read : reading = some now) (mine : old.holder? = some id) (content : old.spec = some spec) :
    Justified id reading before (some { spec with renewTime := some now.wholeMicros })
  /-- The holder releases the lease: only the holder is cleared. -/
  | release {old : Lease} {spec : LeaseSpec} (there : before = some old)
    (mine : old.holder? = some id) (content : old.spec = some spec) :
    Justified id reading before (some { spec with holderIdentity := none })

namespace Entry

/-- The write is what an operation of the elector makes of the lease, or creates it. -/
def Genuine (e : Entry) : Prop :=
  (e.before = none ∧ ∃ now, e.reading = some now ∧
    e.after = some (.first e.elector now.wholeMicros)) ∨
  ∃ old op, e.before = some old ∧ Makes e.elector e.reading old op e.after

/-- The lease changes hands. -/
def isTakeover (e : Entry) : Bool :=
  match e.before with
  | some old => decide (old.holder? ≠ some e.elector)
  | none => false

/-- The lease is acquired: it is created, or changes hands. -/
def isAcquisition (e : Entry) : Bool := e.before.isNone || e.isTakeover

end Entry

/-- What an elector may be asked to do. Waiting for the lease is bounded by a number of
attempts, which may be any number. -/
inductive Task where
  | acquire (attempts : Nat)
  | renew
  | release

namespace Task

/-- What comes of a task. -/
@[reducible]
def Result : Task → Type
  | .acquire _ => Bool
  | .renew => Except Api.RequestFailure Bool
  | .release => Unit

/-- The program of a task. -/
def program (id : String) : (task : Task) → LeaseProgram task.Result
  | .acquire attempts => Elector.acquire id attempts
  | .renew => Elector.renew id
  | .release => Elector.release id

end Task

/-- An elector at a task, with what is left of it and what the clock showed last. -/
structure Worker where
  elector : String
  reading : Option Instant
  activity : Σ task : Task, LeaseProgram task.Result

/-- A server with the lease, those at work, which lease each elector has read last, and the
accepted writes in order. -/
structure Register where
  server : LeaseServer
  workers : Nat → Option Worker := fun _ => none
  lastRead : String → Option Lease := fun _ => none
  entries : List Entry := []

namespace Register

/-- What the lease says. -/
def spec (r : Register) : Option LeaseSpec := r.server.lease.bind Lease.spec

/-- The register where one at work has come to something else. -/
def set (r : Register) (i : Nat) (w : Worker) : Register :=
  { r with workers := fun j => if j = i then some w else r.workers j }

/-- The leases read last, after a request of an elector was answered. -/
def lastReadBy (id : String) (lastRead : String → Option Lease) :
    (call : LeaseCall) → call.Answer → String → Option Lease
  | .get, .ok lease => fun x => if x = id then some lease else lastRead x
  | _, _ => lastRead

/-- The accepted writes, after a request of an elector was answered. -/
def entriesBy (r : Register) (id : String) (reading : Option Instant) :
    (call : LeaseCall) → call.Answer → List Entry
  | .create spec, .ok () =>
    r.entries ++ [⟨id, reading, r.lastRead id, r.server.lease, some spec⟩]
  | .replace lease, .ok () =>
    r.entries ++ [⟨id, reading, r.lastRead id, r.server.lease, lease.spec⟩]
  | _, _ => r.entries

/-- The register after a call of an elector was answered. -/
def answered (r : Register) (id : String) (reading : Option Instant) (call : LeaseCall) :
    Register :=
  { r with
    server := (r.server.answer call).2
    lastRead := lastReadBy id r.lastRead call (r.server.answer call).1
    entries := r.entriesBy id reading call (r.server.answer call).1 }

/-- What may happen next: requests get into trouble, or out of it; an elector begins a
task; or it goes on by one step with one. The clock shows anything. -/
inductive Step : Register → Register → Prop
  | trouble (r : Register) (faults : List (Fault Api.Method Api.Refusal)) (races : Nat) :
    Step r { r with server := { r.server with faults, races } }
  | begin (r : Register) (i : Nat) (id : String) (task : Task) :
    Step r (r.set i ⟨id, none, ⟨task, task.program id⟩⟩)
  | ask {r : Register} {i : Nat} {id : String} {reading : Option Instant} {task : Task}
    {call : LeaseCall} {next : call.Answer → LeaseProgram task.Result}
    (busy : r.workers i = some ⟨id, reading, ⟨task, .ask call next⟩⟩) :
    Step r ((r.answered id reading call).set i
      ⟨id, reading, ⟨task, next (r.server.answer call).1⟩⟩)
  | readClock {r : Register} {i : Nat} {id : String} {reading : Option Instant} {task : Task}
    {next : Instant → LeaseProgram task.Result}
    (busy : r.workers i = some ⟨id, reading, ⟨task, .readClock next⟩⟩) (now : Instant) :
    Step r (r.set i ⟨id, some now, ⟨task, next now⟩⟩)
  | note {r : Register} {i : Nat} {id : String} {reading : Option Instant} {task : Task}
    {entry : Note} {next : LeaseProgram task.Result}
    (busy : r.workers i = some ⟨id, reading, ⟨task, .note entry next⟩⟩) :
    Step r (r.set i ⟨id, reading, ⟨task, next⟩⟩)

/-- A beginning, with any lease or none. The number of transitions has 32 bits. -/
structure Initial (r : Register) : Prop where
  versioned : r.server.Versioned
  workers : ∀ i, r.workers i = none
  lastRead : ∀ id, r.lastRead id = none
  entries : r.entries = []
  inRange : -2 ^ 31 ≤ transitions r.spec

/-- What comes about from a beginning. -/
inductive Reachable (start : Register) : Register → Prop
  | start (h : start.Initial) : Reachable start start
  | step {r r' : Register} (h : Reachable start r) (hstep : Step r r') : Reachable start r'

end Register

/-! ### What those at work write -/

namespace Elector

/-- The conduct of an elector at any task: each write is one that some operation makes of
the lease read last. -/
def dutiful (id : String) : Program.Conduct LeaseCall LeaseCall.Answer Sight where
  allows seen
    | .get | .sleep _ => True
    | .create spec => ∃ now, seen.reading = some now ∧ spec = .first id now.wholeMicros
    | .replace lease => ∃ old op, seen.lastRead = some old ∧ lease.version = old.version ∧
        Makes id seen.reading old op lease.spec
  hears := (conduct id .attempt).hears
  sees := (conduct id .attempt).sees

theorem dutiful_of_exactly {α : Type} {id : String} {op : Operation} {fits : Sight → α → Prop}
    {p : LeaseProgram α} {seen : Sight} (h : p.Keeps (exactly id op) fits seen) :
    p.Keeps (dutiful id) Program.Unasked seen := by
  have h' : p.Keeps (dutiful id) fits seen := by
    refine h.mono (fun seen call hcall => ?_) rfl rfl
    cases call with
    | get | sleep => exact trivial
    | create spec => exact hcall.2
    | replace lease =>
      obtain ⟨old, hread, hversion, hmakes⟩ := hcall
      exact ⟨old, op, hread, hversion, hmakes⟩
  exact h'.unasked

theorem dutiful_attemptUpTo (id : String) (attempts : Nat) :
    ∀ seen, (attemptUpTo id attempts).Keeps (dutiful id) Program.Unasked seen := by
  induction attempts with
  | zero => exact fun _ => trivial
  | succ attempts ih =>
    intro seen
    refine (dutiful_of_exactly (keeps_attempt id seen)).bind fun seen' result _ => ?_
    have hgoOn : Program.Keeps (dutiful id) Program.Unasked
        (if attempts = 0 then .done false
          else .ask (.sleep retryInterval) fun () => attemptUpTo id attempts :
          LeaseProgram Bool) seen' := by
      split
      · exact trivial
      · exact ⟨trivial, fun _ => ih _⟩
    match result with
    | .ok true => exact trivial
    | .ok false => exact hgoOn
    | .error e => exact hgoOn

/-- Electors are dutiful at all tasks, whatever they have seen. -/
theorem dutiful_program (id : String) (task : Task) (seen : Sight) :
    (task.program id).Keeps (dutiful id) Program.Unasked seen := by
  cases task with
  | acquire attempts => exact dutiful_attemptUpTo id attempts seen
  | renew => exact dutiful_of_exactly (keeps_renew id seen)
  | release => exact dutiful_of_exactly (keeps_release id seen)

end Elector

/-! ### What was read -/

namespace LeaseServer

variable {s s' : LeaseServer}

/-- The lease was read at some time: it is not newer than the one there is, and is the same
if the version is. -/
def HasShown (s : LeaseServer) (old : Lease) : Prop :=
  ∃ lease, s.lease = some lease ∧ old.version ≤ lease.version ∧
    (old.version = lease.version → old = lease)

theorem hasShown_of_lease {lease : Lease} (h : s.lease = some lease) : s.HasShown lease :=
  ⟨lease, h, Nat.le_refl _, fun _ => rfl⟩

theorem HasShown.kept {old : Lease} (h : s.HasShown old) (hlease : s'.lease = s.lease) :
    s'.HasShown old := by
  obtain ⟨lease, hl, hle⟩ := h
  exact ⟨lease, hlease.trans hl, hle⟩

theorem HasShown.written {old : Lease} {spec : Option LeaseSpec} (h : s.HasShown old)
    (hv : s.Versioned) (hs : Written spec s s') : s'.HasShown old := by
  obtain ⟨lease, hl, hle, -⟩ := h
  have hlast := hv lease hl
  refine ⟨_, hs.lease, ?_, fun heq => ?_⟩
  · show old.version ≤ s.lastVersion + 1
    omega
  · have heq' : old.version = s.lastVersion + 1 := heq
    omega

end LeaseServer

namespace Register

/-! ### What steps keep -/

/-- The entries lead from what the lease said to what it says now, each from what the one
before it has left. -/
inductive Leads (start : Option LeaseSpec) : List Entry → Option LeaseSpec → Prop
  | start : Leads start [] start
  | write {entries : List Entry} {spec : Option LeaseSpec} (h : Leads start entries spec)
    (e : Entry) (before : e.before.bind Lease.spec = spec) : Leads start (entries ++ [e]) e.after

/-- One at work goes on as its elector does, with what it has seen; what it has read last is
no newer than what its elector has read last. -/
structure Aware (s : LeaseServer) (lastRead : String → Option Lease) (w : Worker)
    (seen : Sight) : Prop where
  reading : seen.reading = w.reading
  lastRead : ∀ old, seen.lastRead = some old → s.HasShown old ∧
    ∃ latest, lastRead w.elector = some latest ∧ old.version ≤ latest.version
  keeps : w.activity.2.Keeps (Elector.dutiful w.elector) Program.Unasked seen

/-- What the electors go by was read, and what is noted is what they did. -/
structure Faithful (start : Option LeaseSpec) (r : Register) : Prop where
  versioned : r.server.Versioned
  shown : ∀ id latest, r.lastRead id = some latest → r.server.HasShown latest
  workers : ∀ i w, r.workers i = some w → ∃ seen, Aware r.server r.lastRead w seen
  entries : ∀ e ∈ r.entries, e.lastRead = e.before ∧ e.Genuine
  leads : Leads start r.entries r.spec

/-- What was read stays what was read, and what electors have read last only gets newer. -/
structure Grows (r r' : Register) : Prop where
  shown : ∀ old, r.server.HasShown old → r'.server.HasShown old
  latest : ∀ id latest, r.lastRead id = some latest →
    ∃ latest', r'.lastRead id = some latest' ∧ latest.version ≤ latest'.version

variable {start : Option LeaseSpec} {r r' : Register} {s' : LeaseServer} {i : Nat} {id : String}
  {reading : Option Instant} {task : Task} {seen : Sight} {w : Worker}

theorem Aware.grows (h : Aware r.server r.lastRead w seen) (hg : Grows r r') :
    Aware r'.server r'.lastRead w seen where
  reading := h.reading
  lastRead := by
    intro old hold
    obtain ⟨hshown, latest, hlatest, hle⟩ := h.lastRead old hold
    obtain ⟨latest', hlatest', hle'⟩ := hg.latest _ _ hlatest
    exact ⟨hg.shown old hshown, latest', hlatest', Nat.le_trans hle hle'⟩
  keeps := h.keeps

theorem Faithful.set (h : Faithful start r) (seen : Sight)
    (hw : Aware r.server r.lastRead w seen) :
    Faithful start (r.set i w) where
  versioned := h.versioned
  shown := h.shown
  workers := by
    intro j w' hw'
    have hw' : (if j = i then some w else r.workers j) = some w' := hw'
    split at hw'
    next =>
      cases hw'
      exact ⟨seen, hw⟩
    next => exact h.workers j w' hw'
  entries := h.entries
  leads := h.leads

/-- The server has done something else than to write the lease, and an elector may have read it. -/
theorem Faithful.still (h : Faithful start r) (hlease : s'.lease = r.server.lease)
    (hversion : s'.lastVersion = r.server.lastVersion) {lastRead : String → Option Lease}
    (hread : ∀ id, lastRead id = r.lastRead id ∨
      ∃ lease, r.server.lease = some lease ∧ lastRead id = some lease) :
    Faithful start { r with server := s', lastRead } ∧
      Grows r { r with server := s', lastRead } := by
  have hgrows : Grows r { r with server := s', lastRead } := by
    refine ⟨fun old hold => hold.kept hlease, fun id latest hlatest => ?_⟩
    rcases hread id with hsame | ⟨lease, hl, hnow⟩
    · exact ⟨latest, hsame.trans hlatest, Nat.le_refl _⟩
    · obtain ⟨lease', hl', hle, _⟩ := h.shown id latest hlatest
      rw [hl] at hl'
      cases hl'
      exact ⟨lease, hnow, hle⟩
  refine ⟨⟨fun lease hl => ?_, fun id latest hlatest => ?_, fun j w hw => ?_, h.entries, ?_⟩,
    hgrows⟩
  · have hle := h.versioned lease (hlease.symm.trans hl)
    rw [← hversion] at hle
    exact hle
  · refine LeaseServer.HasShown.kept ?_ hlease
    have hlatest : lastRead id = some latest := hlatest
    rcases hread id with hsame | ⟨lease, hl, hnow⟩
    · exact h.shown id latest (hsame.symm.trans hlatest)
    · rw [hnow] at hlatest
      cases hlatest
      exact LeaseServer.hasShown_of_lease hl
  · obtain ⟨seen, hseen⟩ := h.workers j w hw
    exact ⟨seen, hseen.grows hgrows⟩
  · show Leads start r.entries (s'.lease.bind Lease.spec)
    rw [hlease]
    exact h.leads

/-- The lease has been written, and what is noted of it is right. -/
theorem Faithful.written (h : Faithful start r) {spec : Option LeaseSpec}
    (hs : Written spec r.server s') {entries : List Entry}
    (hentries : ∀ e ∈ entries, e.lastRead = e.before ∧ e.Genuine)
    (hleads : Leads start entries spec) :
    Faithful start { r with server := s', entries } ∧ Grows r { r with server := s', entries } := by
  have hgrows : Grows r { r with server := s', entries } :=
    ⟨fun old hold => hold.written h.versioned hs,
      fun id latest hlatest => ⟨latest, hlatest, Nat.le_refl _⟩⟩
  refine ⟨⟨.written hs, fun id latest hlatest => ?_, fun j w hw => ?_, hentries, ?_⟩, hgrows⟩
  · exact (h.shown id latest hlatest).written h.versioned hs
  · obtain ⟨seen, hseen⟩ := h.workers j w hw
    exact ⟨seen, hseen.grows hgrows⟩
  · show Leads start entries (s'.lease.bind Lease.spec)
    rw [hs.lease]
    exact hleads

/-- An accepted write is noted. -/
theorem Faithful.noted (h : Faithful start r) {e : Entry} (hs : Written e.after r.server s')
    (hbefore : e.before = r.server.lease) (hread : e.lastRead = e.before) (hgenuine : e.Genuine) :
    Faithful start { r with server := s', entries := r.entries ++ [e] } ∧
      Grows r { r with server := s', entries := r.entries ++ [e] } := by
  have hentries : ∀ x ∈ r.entries ++ [e], x.lastRead = x.before ∧ x.Genuine :=
    List.forall_mem_append.mpr ⟨h.entries, List.forall_mem_singleton.mpr ⟨hread, hgenuine⟩⟩
  exact h.written hs hentries (h.leads.write e (congrArg (·.bind Lease.spec) hbefore))

/-- Where there is no lease nobody has ever read one. -/
theorem Faithful.unread (h : Faithful start r) (hnone : r.server.lease = none) (id : String) :
    r.lastRead id = none := by
  cases hread : r.lastRead id with
  | none => rfl
  | some latest =>
    obtain ⟨lease, hl, _⟩ := h.shown id latest hread
    rw [hnone] at hl
    cases hl

/-- A lease that was read is the one there is, if its version still is the one stored; and
it is then what its elector has read last. -/
theorem Aware.current (h : Aware r.server r.lastRead w seen) (hr : Faithful start r)
    {old stored : Lease} (hread : seen.lastRead = some old) (hstored : r.server.lease = some stored)
    (hversion : stored.version = old.version) :
    old = stored ∧ r.lastRead w.elector = some stored := by
  obtain ⟨⟨lease, hl, _, hold⟩, latest, hlatest, hle⟩ := h.lastRead old hread
  rw [hstored] at hl
  cases hl
  refine ⟨hold hversion.symm, ?_⟩
  -- The version that the elector has read last is between the one read and the one stored.
  obtain ⟨lease, hl, hle', hsame⟩ := hr.shown _ latest hlatest
  rw [hstored] at hl
  cases hl
  rw [hlatest, hsame (by omega)]

/-- The elector has read the lease, or its request did not get through. -/
theorem Faithful.answered_get (h : Faithful start r)
    {next : LeaseCall.Answer .get → LeaseProgram task.Result}
    (hw : Aware r.server r.lastRead ⟨id, reading, ⟨task, .ask .get next⟩⟩ seen) :
    Faithful start ((r.answered id reading .get).set i
      ⟨id, reading, ⟨task, next (r.server.answer .get).1⟩⟩) := by
  obtain ⟨hs, hread⟩ := r.server.answer_get
  have hnext := hw.keeps.2 (r.server.answer .get).1
  unfold answered
  cases hanswer : (r.server.answer .get).1 with
  | error e =>
    rw [hanswer] at hnext
    obtain ⟨hstill, hgrows⟩ := h.still hs.lease hs.lastVersion fun _ => Or.inl rfl
    exact hstill.set seen (Aware.grows ⟨hw.reading, hw.lastRead, hnext⟩ hgrows)
  | ok lease =>
    rw [hanswer] at hnext
    obtain ⟨hlease, _⟩ := hread lease hanswer
    have hnow : ∀ x, (if x = id then some lease else r.lastRead x) = r.lastRead x ∨
        ∃ lease', r.server.lease = some lease' ∧
          (if x = id then some lease else r.lastRead x) = some lease' := by
      intro x
      split
      · exact Or.inr ⟨lease, hlease, rfl⟩
      · exact Or.inl rfl
    obtain ⟨hstill, hgrows⟩ := h.still hs.lease hs.lastVersion hnow
    refine hstill.set { seen with lastRead := some lease }
      ⟨hw.reading, fun old hold => ?_, hnext⟩
    cases hold
    exact ⟨hgrows.shown _ (LeaseServer.hasShown_of_lease hlease), _, if_pos rfl, Nat.le_refl _⟩

/-- The elector has created the lease, or its request was refused. -/
theorem Faithful.answered_create (h : Faithful start r) {spec : LeaseSpec}
    {next : LeaseCall.Answer (.create spec) → LeaseProgram task.Result}
    (hw : Aware r.server r.lastRead ⟨id, reading, ⟨task, .ask (.create spec) next⟩⟩ seen) :
    Faithful start ((r.answered id reading (.create spec)).set i
      ⟨id, reading, ⟨task, next (r.server.answer (.create spec)).1⟩⟩) := by
  obtain ⟨⟨now, hreading, hspec⟩, hnext⟩ := hw.keeps
  have hnext := hnext (r.server.answer (.create spec)).1
  unfold answered
  rcases r.server.answer_create spec with ⟨⟨e, he⟩, hs⟩ | ⟨hok, hnone, hs⟩
  · rw [he] at hnext ⊢
    obtain ⟨hstill, hgrows⟩ := h.still hs.lease hs.lastVersion fun _ => Or.inl rfl
    exact hstill.set seen (Aware.grows ⟨hw.reading, hw.lastRead, hnext⟩ hgrows)
  · rw [hok] at hnext ⊢
    have hgenuine :
        Entry.Genuine ⟨id, reading, r.lastRead id, r.server.lease, some spec⟩ :=
      Or.inl ⟨hnone, now, hw.reading.symm.trans hreading, congrArg some hspec⟩
    obtain ⟨hnoted, hgrows⟩ := h.noted hs rfl ((h.unread hnone id).trans hnone.symm) hgenuine
    exact hnoted.set { seen with wrote := true }
      (Aware.grows ⟨hw.reading, hw.lastRead, hnext⟩ hgrows)

/-- The elector has replaced the lease, or its request was refused. -/
theorem Faithful.answered_replace (h : Faithful start r) {lease : Lease}
    {next : LeaseCall.Answer (.replace lease) → LeaseProgram task.Result}
    (hw : Aware r.server r.lastRead ⟨id, reading, ⟨task, .ask (.replace lease) next⟩⟩ seen) :
    Faithful start ((r.answered id reading (.replace lease)).set i
      ⟨id, reading, ⟨task, next (r.server.answer (.replace lease)).1⟩⟩) := by
  obtain ⟨⟨old, op, hread, hversion, hmakes⟩, hnext⟩ := hw.keeps
  have hnext := hnext (r.server.answer (.replace lease)).1
  unfold answered
  rcases r.server.answer_replace lease with
    ⟨⟨e, he⟩, hs | ⟨stored, hstored, hs⟩⟩ | ⟨hok, stored, hstored, hstoredVersion, hs⟩
  · rw [he] at hnext ⊢
    obtain ⟨hstill, hgrows⟩ := h.still hs.lease hs.lastVersion fun _ => Or.inl rfl
    exact hstill.set seen (Aware.grows ⟨hw.reading, hw.lastRead, hnext⟩ hgrows)
  · rw [he] at hnext ⊢
    have hleads : Leads start r.entries stored.spec := by
      have hspec : r.spec = stored.spec := by rw [spec, hstored]; rfl
      exact hspec ▸ h.leads
    obtain ⟨hwritten, hgrows⟩ := h.written hs h.entries hleads
    exact hwritten.set seen (Aware.grows ⟨hw.reading, hw.lastRead, hnext⟩ hgrows)
  · rw [hok] at hnext ⊢
    obtain ⟨rfl, hlatest⟩ := hw.current h hread hstored (hstoredVersion.trans hversion)
    rw [show seen.reading = reading from hw.reading] at hmakes
    have hgenuine :
        Entry.Genuine ⟨id, reading, r.lastRead id, r.server.lease, lease.spec⟩ :=
      Or.inr ⟨old, op, hstored, hmakes⟩
    obtain ⟨hnoted, hgrows⟩ := h.noted hs rfl (hlatest.trans hstored.symm) hgenuine
    exact hnoted.set { seen with wrote := true }
      (Aware.grows ⟨hw.reading, hw.lastRead, hnext⟩ hgrows)

/-- What an answer leaves: what is noted is what was done, and the elector goes on with what
it has seen. -/
theorem Faithful.answered (h : Faithful start r) {call : LeaseCall}
    {next : call.Answer → LeaseProgram task.Result}
    (hw : Aware r.server r.lastRead ⟨id, reading, ⟨task, .ask call next⟩⟩ seen) :
    Faithful start ((r.answered id reading call).set i
      ⟨id, reading, ⟨task, next (r.server.answer call).1⟩⟩) := by
  cases call with
  | get => exact h.answered_get hw
  | create spec => exact h.answered_create hw
  | replace lease => exact h.answered_replace hw
  | sleep span =>
    have hlease : (r.server.answer (.sleep span)).2.lease = r.server.lease := rfl
    obtain ⟨hstill, hgrows⟩ := h.still hlease rfl fun _ => Or.inl rfl
    exact hstill.set seen (Aware.grows ⟨hw.reading, hw.lastRead, hw.keeps.2 ()⟩ hgrows)

/-- Each step keeps what is noted true. -/
theorem Faithful.step (h : Faithful start r) (hstep : Step r r') : Faithful start r' := by
  cases hstep with
  | trouble faults races =>
    have hs : Alike r.server { r.server with faults, races } := ⟨rfl, rfl, rfl, rfl⟩
    exact (h.still hs.lease hs.lastVersion fun _ => Or.inl rfl).1
  | begin i id task =>
    have hw : Aware r.server r.lastRead ⟨id, none, ⟨task, task.program id⟩⟩ {} :=
      ⟨rfl, fun _ hl => (nomatch hl), Elector.dutiful_program id task {}⟩
    exact h.set {} hw
  | ask busy =>
    obtain ⟨seen, hseen⟩ := h.workers _ _ busy
    exact h.answered hseen
  | readClock busy now =>
    obtain ⟨seen, hseen⟩ := h.workers _ _ busy
    refine h.set { seen with reading := some now } ⟨rfl, hseen.lastRead, ?_⟩
    exact hseen.keeps now
  | note busy =>
    obtain ⟨seen, hseen⟩ := h.workers _ _ busy
    exact h.set seen ⟨hseen.reading, hseen.lastRead, hseen.keeps⟩

theorem Reachable.initial {start : Register} (h : Reachable start r) : start.Initial := by
  induction h with
  | start h => exact h
  | step h hstep ih => exact ih

/-- All that comes about from a beginning is noted truly. -/
theorem Reachable.faithful {start : Register} (h : Reachable start r) :
    Faithful start.spec r := by
  induction h with
  | start h =>
    refine ⟨h.versioned, fun id latest hl => ?_, fun i w hw => ?_, fun e he => ?_, ?_⟩
    · rw [h.lastRead id] at hl
      cases hl
    · rw [h.workers i] at hw
      cases hw
    · rw [h.entries] at he
      cases he
    · rw [h.entries]
      exact .start
  | step h hstep ih => exact ih.step hstep

end Register

/-! ### What writes do to the history -/

theorem getD_acquireTime (spec : Option LeaseSpec) :
    (spec.getD {}).acquireTime = acquired spec := by
  cases spec with
  | none => rfl
  | some spec => rfl

theorem getD_leaseTransitions (spec : Option LeaseSpec) :
    (spec.getD {}).leaseTransitions.getD 0 = transitions spec := by
  cases spec with
  | none => rfl
  | some spec => rfl

/-- One more than a number that is not the greatest of 32 bits does not wrap. -/
theorem wrap32_add_one {n : Int} (hle : -2 ^ 31 ≤ n) (hlt : n < 2 ^ 31 - 1) :
    wrap32 (n + 1) = n + 1 := by
  unfold wrap32
  rw [Int.bmod_def]
  split <;> omega

/-- A lease has expired only if it has not been renewed for longer than its duration. -/
theorem expired_of_isExpired {spec : Option LeaseSpec} {now : Instant}
    (h : (spec.getD {}).isExpired now = true) (renewed : Instant)
    (hrenewed : spec.bind LeaseSpec.renewTime = some renewed) :
    now.secondsSince renewed > (spec.bind LeaseSpec.leaseDurationSeconds).getD 15 := by
  cases spec with
  | none => cases hrenewed
  | some spec =>
    have hrenewed : spec.renewTime = some renewed := hrenewed
    have h : spec.isExpired now = true := h
    unfold LeaseSpec.isExpired at h
    rw [hrenewed] at h
    exact of_decide_eq_true h

/-- What an operation makes of a lease is justified, unless the number of transitions wraps. -/
theorem Justified.of_makes {id : String} {reading : Option Instant} {old : Lease}
    {op : Operation} {spec : Option LeaseSpec} (h : Makes id reading old op spec)
    (hle : -2 ^ 31 ≤ transitions old.spec) (hlt : transitions old.spec < 2 ^ 31 - 1) :
    Justified id reading (some old) spec := by
  cases h with
  | reclaim read mine =>
    unfold LeaseSpec.reclaimed
    rw [getD_acquireTime, getD_leaseTransitions]
    exact .reclaim rfl read mine
  | takeover read other expired =>
    unfold LeaseSpec.takenOver
    rw [getD_leaseTransitions, wrap32_add_one hle hlt]
    exact .takeover rfl read other (expired_of_isExpired expired)
  | renewal read mine =>
    obtain ⟨content, hcontent, _⟩ := Option.bind_eq_some_iff.mp mine
    rw [hcontent]
    exact .renewal rfl read mine hcontent
  | release mine =>
    obtain ⟨content, hcontent, _⟩ := Option.bind_eq_some_iff.mp mine
    rw [hcontent]
    exact .release rfl mine hcontent

namespace Entry

variable {e : Entry}

/-- What the lease said before. -/
def specBefore (e : Entry) : Option LeaseSpec := e.before.bind Lease.spec

theorem Genuine.justified (h : e.Genuine) (hle : -2 ^ 31 ≤ transitions e.specBefore)
    (hlt : transitions e.specBefore < 2 ^ 31 - 1) :
    Justified e.elector e.reading e.before e.after := by
  rcases h with ⟨hnone, now, hread, hafter⟩ | ⟨old, op, hold, hmakes⟩
  · rw [hafter]
    exact .creation hnone hread
  · rw [specBefore, hold] at hle hlt
    rw [hold]
    exact .of_makes hmakes hle hlt

theorem isTakeover_of_other {old : Lease} (hbefore : e.before = some old)
    (other : old.holder? ≠ some e.elector) : e.isTakeover = true := by
  unfold isTakeover
  rw [hbefore]
  exact decide_eq_true other

theorem isTakeover_of_mine {old : Lease} (hbefore : e.before = some old)
    (mine : old.holder? = some e.elector) : e.isTakeover = false := by
  unfold isTakeover
  rw [hbefore]
  exact decide_eq_false (not_not_intro mine)

theorem isAcquisition_of_some {old : Lease} (hbefore : e.before = some old) :
    e.isAcquisition = e.isTakeover := by
  unfold isAcquisition
  rw [hbefore]
  rfl

/-- The number of transitions goes up by one where the lease changes hands. A lease is
acquired when it is created or changes hands. -/
theorem history_after (h : Justified e.elector e.reading e.before e.after) :
    transitions e.after = transitions e.specBefore + (if e.isTakeover then 1 else 0) ∧
    acquired e.after =
      if e.isAcquisition then e.reading.map Instant.wholeMicros else acquired e.specBefore := by
  generalize hafter : e.after = after at h
  unfold specBefore
  cases h with
  | creation hbefore hread =>
    unfold isAcquisition isTakeover
    rw [hbefore, hread]
    exact ⟨rfl, rfl⟩
  | takeover hbefore hread other =>
    rw [isAcquisition_of_some hbefore, isTakeover_of_other hbefore other, hbefore, hread]
    exact ⟨rfl, rfl⟩
  | reclaim hbefore _ mine =>
    rw [isAcquisition_of_some hbefore, isTakeover_of_mine hbefore mine, hbefore]
    exact ⟨(Int.add_zero _).symm, rfl⟩
  | renewal hbefore _ mine content =>
    rw [isAcquisition_of_some hbefore, isTakeover_of_mine hbefore mine, hbefore]
    dsimp only [Option.bind_some]
    rw [content]
    exact ⟨(Int.add_zero _).symm, rfl⟩
  | release hbefore mine content =>
    rw [isAcquisition_of_some hbefore, isTakeover_of_mine hbefore mine, hbefore]
    dsimp only [Option.bind_some]
    rw [content]
    exact ⟨(Int.add_zero _).symm, rfl⟩

end Entry

namespace Register

/-- When the lease was acquired last, as the entries have it. -/
def lastAcquired (start : Option LeaseSpec) (entries : List Entry) : Option Instant :=
  match (entries.filter Entry.isAcquisition).getLast? with
  | some e => e.reading.map Instant.wholeMicros
  | none => acquired start

theorem lastAcquired_append (start : Option LeaseSpec) (entries : List Entry) (e : Entry) :
    lastAcquired start (entries ++ [e]) =
      if e.isAcquisition then e.reading.map Instant.wholeMicros
      else lastAcquired start entries := by
  unfold lastAcquired
  rw [List.filter_append, List.filter_singleton]
  cases e.isAcquisition with
  | true => rw [cond_true, List.getLast?_concat, if_pos rfl]
  | false => rw [cond_false, List.append_nil, if_neg Bool.false_ne_true]

/-- What the entries say of the lease that they have led to. -/
structure History (start : Option LeaseSpec) (entries : List Entry) (spec : Option LeaseSpec) :
    Prop where
  transitions : transitions spec = CordonWatch.transitions start + entries.countP Entry.isTakeover
  acquired : acquired spec = lastAcquired start entries

/-- The lease keeps its history, write by write. -/
theorem Leads.history {start spec : Option LeaseSpec} {entries : List Entry}
    (h : Leads start entries spec) (hrange : -2 ^ 31 ≤ transitions start)
    (hgenuine : ∀ e ∈ entries, e.Genuine)
    (hbound : ∀ e ∈ entries, transitions e.specBefore < 2 ^ 31 - 1) :
    (∀ e ∈ entries, Justified e.elector e.reading e.before e.after) ∧
      History start entries spec := by
  induction h with
  | start => exact ⟨fun e he => (nomatch he), (Int.add_zero _).symm, rfl⟩
  | @write entries spec h e before ih =>
    obtain ⟨hgenuine, hlast⟩ := List.forall_mem_append.mp hgenuine
    obtain ⟨hbound, hboundLast⟩ := List.forall_mem_append.mp hbound
    obtain ⟨hjustified, htransitions, hacquired⟩ := ih hgenuine hbound
    have hbefore : e.specBefore = spec := before
    have hle : -2 ^ 31 ≤ transitions e.specBefore := by
      rw [hbefore, htransitions]
      omega
    have hwrite := (hlast e (List.mem_singleton_self e)).justified hle
      (hboundLast e (List.mem_singleton_self e))
    obtain ⟨htransitions', hacquired'⟩ := Entry.history_after hwrite
    refine ⟨List.forall_mem_append.mpr ⟨hjustified, List.forall_mem_singleton.mpr hwrite⟩, ?_, ?_⟩
    · rw [htransitions', hbefore, htransitions, List.countP_append, List.countP_singleton]
      split <;> omega
    · rw [hacquired', hbefore, hacquired, lastAcquired_append]

/-- Every write of the lease is justified: it replaces the lease that its elector has read
last, and does with it what the elector may do. The lease has changed hands as often as it
says, and was acquired last when it says. -/
theorem Reachable.writes_justified {start r : Register} (h : Reachable start r)
    (hbound : ∀ e ∈ r.entries, transitions e.specBefore < 2 ^ 31 - 1) :
    (∀ e ∈ r.entries, e.lastRead = e.before ∧
      Justified e.elector e.reading e.before e.after) ∧
    Leads start.spec r.entries r.spec ∧ History start.spec r.entries r.spec := by
  have hfaithful := h.faithful
  obtain ⟨hjustified, hhistory⟩ := hfaithful.leads.history h.initial.inRange
    (fun e he => (hfaithful.entries e he).2) hbound
  exact ⟨fun e he => ⟨(hfaithful.entries e he).1, hjustified e he⟩, hfaithful.leads, hhistory⟩

/-- A register of a lease that is not there yet. -/
def fresh : Register := { server := { ns := "default", now := ⟨0, 0⟩ } }

/-- One elector creates the lease, another takes it over sixteen seconds later and releases it. -/
theorem writes_justified_twoElectors : ∃ r, Reachable fresh r ∧
    (∀ e ∈ r.entries, transitions e.specBefore < 2 ^ 31 - 1) ∧
    r.entries.map Entry.elector = ["a", "b", "b"] ∧
    (∀ e ∈ r.entries, e.lastRead = e.before ∧
      Justified e.elector e.reading e.before e.after) ∧
    Leads fresh.spec r.entries r.spec ∧ History fresh.spec r.entries r.spec := by
  have hfresh : fresh.Initial :=
    ⟨fun _ h => (nomatch h), fun _ => rfl, fun _ => rfl, rfl, by decide⟩
  have h₁ := (Reachable.start hfresh).step (.begin _ 0 "a" (.acquire 1))
  have h₂ := h₁.step (@Step.note _ 0 _ _ _ _ _ rfl)
  have h₃ := h₂.step (@Step.readClock _ 0 _ _ _ _ rfl ⟨0, 0⟩)
  have h₄ := h₃.step (@Step.ask _ 0 _ _ _ _ _ rfl)
  have h₅ := h₄.step (@Step.ask _ 0 _ _ _ _ _ rfl)
  have h₆ := h₅.step (.begin _ 1 "b" (.acquire 1))
  have h₇ := h₆.step (@Step.note _ 1 _ _ _ _ _ rfl)
  have h₈ := h₇.step (@Step.readClock _ 1 _ _ _ _ rfl ⟨16, 0⟩)
  have h₉ := h₈.step (@Step.ask _ 1 _ _ _ _ _ rfl)
  have h₁₀ := h₉.step (@Step.ask _ 1 _ _ _ _ _ rfl)
  have h₁₁ := h₁₀.step (.begin _ 2 "b" .release)
  have h₁₂ := h₁₁.step (@Step.ask _ 2 _ _ _ _ _ rfl)
  have h₁₃ := h₁₂.step (@Step.ask _ 2 _ _ _ _ _ rfl)
  obtain ⟨r, hr, hbound, hwriters⟩ : ∃ r, Reachable fresh r ∧
      (∀ e ∈ r.entries, transitions e.specBefore < 2 ^ 31 - 1) ∧
      r.entries.map Entry.elector = ["a", "b", "b"] :=
    ⟨_, h₁₃, by decide, rfl⟩
  exact ⟨r, hr, hbound, hwriters, hr.writes_justified hbound⟩

end Register

end CordonWatch
