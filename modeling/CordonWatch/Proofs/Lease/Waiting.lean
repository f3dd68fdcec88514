import CordonWatch.Proofs.Lease.Conduct
import CordonWatch.Proofs.Lease.Handover
import Mathlib.Data.Nat.Find

/-!
# Waiting for the lease ends

An elector waits for the lease alone at a server: nobody else writes, and time passes only
while the elector sleeps. Some attempts, finitely many, run into trouble, of whatever kind
and whatever the server would have answered (`Trouble`).

An attempt that runs into trouble changes nothing and does not succeed
(`run_attempt_troubled`). One that does not succeeds exactly if the lease can be had at
that time (`run_attempt_had`, `run_attempt_not_had`). Sooner or later it can be had, since
only a renewal would keep it held (`exists_chance`). So waiting ends at the first attempt
that can succeed, and a greater bound on the number of attempts changes nothing
(`acquire_ends_at_first_chance`).
-/

namespace CordonWatch

/-! ### Times apart -/

namespace Instant

theorem toNanos_addNanos (t : Instant) (n : Int) : (t.addNanos n).toNanos = t.toNanos + n := by
  unfold addNanos ofNanos toNanos
  dsimp only
  omega

theorem toNanos_wholeMicros (t : Instant) : t.wholeMicros.toNanos = t.toNanos / 1000 * 1000 := by
  unfold wholeMicros toNanos
  dsimp only
  omega

/-- Only what the clock counts decides on the time that has passed. -/
theorem secondsSince_congr {t t' : Instant} (h : t.toNanos = t'.toNanos) (earlier : Instant) :
    t.secondsSince earlier = t'.secondsSince earlier := by
  unfold secondsSince
  rw [h]

end Instant

/-- What goes wrong with an attempt to acquire the lease. Its read may fail; if the attempt
comes to write all the same, the write is refused or fails. -/
structure Trouble where
  read : Option Api.RequestFailure := none
  write : Api.RequestFailure
  deriving DecidableEq

/-- A server with a lease, and how often the elector has slept. -/
structure LoneElector where
  server : LeaseServer
  sleeps : Nat := 0

namespace LoneElector

/-- What goes wrong with which attempts, each told by the number of sleeps before it. -/
abbrev Troubles := List (Nat × Trouble)

/-- A request that gets through to the server and is performed there. -/
def performed {α : Type} (s : LoneElector) (answer : Except Api.Refusal α × LeaseServer) :
    Except Api.RequestFailure α × LoneElector :=
  (answer.1.mapError Api.Refusal.failure, { s with server := answer.2 })

/-- Answers a call of the elector: as the trouble of the attempt has it, else as the server
does. -/
def answer (troubles : Troubles) (call : LeaseCall) (s : LoneElector) :
    call.Answer × LoneElector :=
  match call with
  | .get =>
    match (troubles.lookup s.sleeps).bind Trouble.read with
    | some e => (.error e, s)
    | none => s.performed (s.server.get, s.server)
  | .create spec =>
    match troubles.lookup s.sleeps with
    | some trouble => (.error trouble.write, s)
    | none => s.performed (s.server.create spec)
  | .replace lease =>
    match troubles.lookup s.sleeps with
    | some trouble => (.error trouble.write, s)
    | none => s.performed (s.server.replace lease)
  | .sleep span =>
    ((), { server := s.server.advance (span.millis * 10 ^ 6), sleeps := s.sleeps + 1 })

/-- Runs the programs of the elector. -/
def handler (troubles : Troubles) : Program.Handler LeaseCall LeaseCall.Answer LoneElector where
  answer := answer troubles
  clock s := s.server.now
  record _ s := s

end LoneElector

/-- Whether an elector can have the lease at a time: there is none, or the elector holds it
already, or it was never renewed, or it has gone unrenewed for longer than it lasts. -/
def Obtainable (lease : Option Lease) (id : String) (t : Instant) : Prop :=
  lease = none ∨ lease.bind Lease.holder? = some id ∨
    (lease.bind Lease.spec).bind LeaseSpec.renewTime = none ∨
    ∃ renewed, (lease.bind Lease.spec).bind LeaseSpec.renewTime = some renewed ∧
      ((lease.bind Lease.spec).bind LeaseSpec.leaseDurationSeconds).getD 15
        < t.secondsSince renewed

theorem obtainable_congr {lease : Option Lease} {id : String} {t t' : Instant}
    (h : t.toNanos = t'.toNanos) : Obtainable lease id t ↔ Obtainable lease id t' := by
  unfold Obtainable
  simp only [Instant.secondsSince_congr h]

/-- What an attempt looks at is whether the lease is its own, and whether it has expired. -/
theorem obtainable_some_iff (lease : Lease) (id : String) (t : Instant) :
    Obtainable (some lease) id t ↔
      lease.holder? = some id ∨ (lease.spec.getD {}).isExpired t = true := by
  have hexpired : (lease.spec.getD {}).isExpired t = true ↔
      lease.spec.bind LeaseSpec.renewTime = none ∨
      ∃ renewed, lease.spec.bind LeaseSpec.renewTime = some renewed ∧
        (lease.spec.bind LeaseSpec.leaseDurationSeconds).getD 15 < t.secondsSince renewed := by
    unfold LeaseSpec.isExpired
    cases hspec : lease.spec with
    | none => simp
    | some spec =>
      cases hrenewed : spec.renewTime with
      | none => simp [hrenewed]
      | some renewed => simp [hrenewed, LeaseSpec.standardDuration]
  rw [hexpired]
  simp [Obtainable]

instance (lease : Option Lease) (id : String) (t : Instant) : Decidable (Obtainable lease id t) :=
  match lease with
  | none => .isTrue (Or.inl rfl)
  | some lease => decidable_of_iff _ (obtainable_some_iff lease id t).symm

namespace LoneElector

variable {troubles : Troubles} {s : LoneElector} {id : String}

/-! ### One attempt -/

/-- An attempt that runs into trouble does not succeed, and changes nothing. -/
theorem run_attempt_troubled {trouble : Trouble} (h : troubles.lookup s.sleeps = some trouble) :
    ((Elector.attempt id).run (handler troubles) s).1 ≠ .ok true ∧
      ((Elector.attempt id).run (handler troubles) s).2 = s := by
  -- Whatever the attempt comes to write, the write fails.
  have hcreate : ∀ now, (Elector.create id now).run (handler troubles) s
      = (Elector.written (.error trouble.write), s) := by
    intro now
    simp only [Elector.create, Program.run_ask, Program.run_done, handler, answer]
    rw [h]
  have hreplace : ∀ lease, (Elector.replace lease).run (handler troubles) s
      = (Elector.written (.error trouble.write), s) := by
    intro lease
    simp only [Elector.replace, Program.run_ask, Program.run_done, handler, answer]
    rw [h]
  have hclaim : ∀ lease now, ((Elector.claim id lease now).run (handler troubles) s).1 ≠ .ok true ∧
      ((Elector.claim id lease now).run (handler troubles) s).2 = s := by
    intro lease now
    unfold Elector.claim
    dsimp only
    split
    · rw [hreplace]
      exact ⟨Elector.written_error _, rfl⟩
    · split
      · rw [hreplace]
        exact ⟨Elector.written_error _, rfl⟩
      · exact ⟨by simp, rfl⟩
  have habsent : ∀ (e : Api.RequestFailure) now,
      ((if e.isNotFound then Elector.create id now else .done (.error e)).run
        (handler troubles) s).1 ≠ .ok true ∧
      ((if e.isNotFound then Elector.create id now else .done (.error e)).run
        (handler troubles) s).2 = s := by
    intro e now
    split
    · rw [hcreate]
      exact ⟨Elector.written_error _, rfl⟩
    · exact ⟨by simp, rfl⟩
  have hget : ((handler troubles).answer .get s).2 = s := by
    simp only [handler, answer]
    rw [h]
    cases (some trouble).bind Trouble.read with
    | some e => rfl
    | none => rfl
  rw [Elector.attempt, Program.run_readClock, Program.run_ask, hget]
  cases ((handler troubles).answer .get s).1 with
  | ok lease => exact hclaim lease _
  | error e => exact habsent e _

/-- An attempt without trouble begins with a read of the lease as it is. -/
theorem run_attempt (h : troubles.lookup s.sleeps = none) :
    (Elector.attempt id).run (handler troubles) s =
      match s.server.lease with
      | none => (Elector.create id s.server.now).run (handler troubles) s
      | some lease => (Elector.claim id lease s.server.now).run (handler troubles) s := by
  have hget : (handler troubles).answer .get s = s.performed (s.server.get, s.server) := by
    simp only [handler, answer]
    rw [h]
    rfl
  rw [Elector.attempt, Program.run_readClock, Program.run_ask, hget, LeaseServer.get]
  cases s.server.lease with
  | none => rfl
  | some lease => rfl

/-- An attempt without trouble succeeds if the lease can be had, which is then renewed at
that time. -/
theorem run_attempt_had (h : troubles.lookup s.sleeps = none) (hraces : s.server.races = 0)
    (hopen : Obtainable s.server.lease id s.server.now) :
    ∃ spec : LeaseSpec, spec.holderIdentity = some id ∧
      spec.renewTime = some s.server.now.wholeMicros ∧
      (Elector.attempt id).run (handler troubles) s
        = (.ok true, { s with server := s.server.store (some spec) }) := by
  rw [run_attempt h]
  cases hlease : s.server.lease with
  | none =>
    refine ⟨.first id s.server.now.wholeMicros, rfl, rfl, ?_⟩
    have hcreate : ∀ spec, (handler troubles).answer (.create spec) s
        = s.performed (.ok (), s.server.store (some spec)) := by
      intro spec
      simp only [handler, answer, LeaseServer.create]
      rw [h, hlease]
    dsimp only [Elector.create]
    rw [Program.run_ask, hcreate]
    rfl
  | some lease =>
    have hreplace : ∀ spec, (Elector.replace ⟨lease.version, some spec⟩).run (handler troubles) s
        = (.ok true, { s with server := s.server.store (some spec) }) := by
      intro spec
      have hanswer : (handler troubles).answer (.replace ⟨lease.version, some spec⟩) s
          = s.performed (.ok (), s.server.store (some spec)) := by
        simp only [handler, answer]
        have hreplaced : s.server.replace ⟨lease.version, some spec⟩ = _ :=
          LeaseServer.replace_of_no_races hraces hlease rfl
        rw [h]
        dsimp only
        rw [hreplaced]
      rw [Elector.replace, Program.run_ask, hanswer]
      rfl
    rw [hlease, obtainable_some_iff] at hopen
    dsimp only [Elector.claim]
    by_cases hmine : lease.holder? = some id
    · rw [if_pos hmine]
      exact ⟨_, rfl, rfl, hreplace _⟩
    · rw [if_neg hmine, if_pos (hopen.resolve_left hmine)]
      exact ⟨_, rfl, rfl, hreplace _⟩

/-- An attempt without trouble leaves a lease alone that cannot be had. -/
theorem run_attempt_not_had (h : troubles.lookup s.sleeps = none)
    (hclosed : ¬ Obtainable s.server.lease id s.server.now) :
    (Elector.attempt id).run (handler troubles) s = (.ok false, s) := by
  rw [run_attempt h]
  cases hlease : s.server.lease with
  | none => exact absurd (Or.inl hlease) hclosed
  | some lease =>
    rw [hlease, obtainable_some_iff, not_or] at hclosed
    dsimp only [Elector.claim]
    rw [if_neg hclosed.1, if_neg hclosed.2]
    rfl

/-! ### Attempt after attempt -/

/-- An attempt that comes after so many sleeps more can succeed. -/
def Chance (troubles : Troubles) (s : LoneElector) (id : String) (more : Nat) : Prop :=
  troubles.lookup (s.sleeps + more) = none ∧
    Obtainable s.server.lease id (s.server.now.addNanos (more * (5 * 10 ^ 9)))

/-- The elector after it has slept once. -/
def slept (s : LoneElector) : LoneElector :=
  { server := s.server.advance (5 * 10 ^ 9), sleeps := s.sleeps + 1 }

theorem chance_zero_iff : s.Chance troubles id 0 ↔
    troubles.lookup s.sleeps = none ∧ Obtainable s.server.lease id s.server.now := by
  have hnow : (s.server.now.addNanos ((0 : Nat) * (5 * 10 ^ 9))).toNanos
      = s.server.now.toNanos := by
    rw [Instant.toNanos_addNanos]
    omega
  unfold Chance
  rw [Nat.add_zero, obtainable_congr hnow]

theorem chance_slept_iff (more : Nat) :
    s.slept.Chance troubles id more ↔ s.Chance troubles id (more + 1) := by
  have hnow : (s.slept.server.now.addNanos (more * (5 * 10 ^ 9))).toNanos
      = (s.server.now.addNanos ((more + 1 : Nat) * (5 * 10 ^ 9))).toNanos := by
    dsimp only [slept, LeaseServer.advance]
    rw [Instant.toNanos_addNanos, Instant.toNanos_addNanos, Instant.toNanos_addNanos]
    omega
  unfold Chance
  rw [obtainable_congr hnow, show s.slept.sleeps + more = s.sleeps + (more + 1) by
    dsimp only [slept]; omega]
  rfl

/-- An attempt that has no chance changes nothing, and the elector goes to sleep, if it may
make another one. -/
theorem run_attemptUpTo_of_no_chance (hnone : ¬ s.Chance troubles id 0) (attempts : Nat) :
    (Elector.attemptUpTo id (attempts + 1)).run (handler troubles) s =
      if attempts = 0 then (false, s)
      else (Elector.attemptUpTo id attempts).run (handler troubles) s.slept := by
  have hattempt : ((Elector.attempt id).run (handler troubles) s).1 ≠ .ok true ∧
      ((Elector.attempt id).run (handler troubles) s).2 = s := by
    rw [chance_zero_iff, not_and] at hnone
    cases htrouble : troubles.lookup s.sleeps with
    | some trouble => exact run_attempt_troubled htrouble
    | none =>
      rw [run_attempt_not_had htrouble (hnone htrouble)]
      exact ⟨by simp, rfl⟩
  rw [Elector.attemptUpTo, Program.run_bind, hattempt.2]
  have hgoOn : ((if attempts = 0 then .done false
      else .ask (.sleep Elector.retryInterval) fun () => Elector.attemptUpTo id attempts :
        LeaseProgram Bool).run (handler troubles) s) =
      if attempts = 0 then (false, s)
      else (Elector.attemptUpTo id attempts).run (handler troubles) s.slept := by
    split
    · rfl
    · rfl
  cases hresult : ((Elector.attempt id).run (handler troubles) s).1 with
  | error e => exact hgoOn
  | ok acquired =>
    cases acquired with
    | false => exact hgoOn
    | true => exact absurd hresult hattempt.1

/-- The lease is the elector's, and was renewed at that time, in whole microseconds. -/
def HasRenewed (s : LoneElector) (id : String) (nanos : Int) : Prop :=
  s.server.lease.bind Lease.holder? = some id ∧
    ((s.server.lease.bind Lease.spec).bind LeaseSpec.renewTime).map Instant.toNanos
      = some (nanos / 1000 * 1000)

/-- Where the first chance comes after so many sleeps, fewer attempts do not succeed, and
more come to the same: the elector has slept so many times and holds the lease. -/
theorem run_attemptUpTo (more : Nat) : ∀ s : LoneElector, s.server.races = 0 →
    s.Chance troubles id more → (∀ fewer < more, ¬ s.Chance troubles id fewer) →
    (∀ attempts ≤ more, ((Elector.attemptUpTo id attempts).run (handler troubles) s).1 = false) ∧
    ∃ final : LoneElector, (∀ attempts, more < attempts →
        (Elector.attemptUpTo id attempts).run (handler troubles) s = (true, final)) ∧
      final.sleeps = s.sleeps + more ∧
      final.HasRenewed id (s.server.now.toNanos + more * (5 * 10 ^ 9)) := by
  induction more with
  | zero =>
    intro s hraces hchance _
    obtain ⟨htrouble, hopen⟩ := chance_zero_iff.mp hchance
    obtain ⟨spec, hholder, hrenewed, hrun⟩ := run_attempt_had htrouble hraces hopen
    refine ⟨fun attempts hle => ?_, { s with server := s.server.store (some spec) },
      fun attempts hlt => ?_, rfl, hholder, ?_⟩
    · rw [Nat.le_zero.mp hle]
      rfl
    · obtain ⟨further, rfl⟩ := Nat.exists_eq_succ_of_ne_zero (Nat.ne_of_gt hlt)
      rw [Elector.attemptUpTo, Program.run_bind, hrun]
      rfl
    · show spec.renewTime.map Instant.toNanos = _
      have hnow : s.server.now.toNanos + (0 : Nat) * (5 * 10 ^ 9) = s.server.now.toNanos := by omega
      rw [hrenewed, hnow, Option.map_some, Instant.toNanos_wholeMicros]
  | succ more ih =>
    intro s hraces hchance hfirst
    obtain ⟨hfew, final, hmany, hsleeps, hholds⟩ := ih s.slept hraces
      ((chance_slept_iff more).mpr hchance)
      fun fewer hlt hsooner => hfirst (fewer + 1) (by omega) ((chance_slept_iff fewer).mp hsooner)
    have hnone := hfirst 0 (by omega)
    refine ⟨fun attempts hle => ?_, final, fun attempts hlt => ?_, ?_, ?_⟩
    · cases attempts with
      | zero => rfl
      | succ attempts =>
        rw [run_attemptUpTo_of_no_chance hnone]
        split
        · rfl
        · exact hfew attempts (by omega)
    · cases attempts with
      | zero => omega
      | succ attempts =>
        rw [run_attemptUpTo_of_no_chance hnone, if_neg (by omega)]
        exact hmany attempts (by omega)
    · rw [hsleeps]
      dsimp only [slept]
      omega
    · have hnow : s.server.now.toNanos + (more + 1 : Nat) * (5 * 10 ^ 9)
          = s.slept.server.now.toNanos + more * (5 * 10 ^ 9) := by
        dsimp only [slept, LeaseServer.advance]
        rw [Instant.toNanos_addNanos]
        omega
      rw [hnow]
      exact hholds

/-! ### The first chance -/

/-- No trouble comes after some number of attempts. -/
theorem exists_lookup_eq_none (troubles : Troubles) :
    ∃ bound, ∀ n, bound ≤ n → troubles.lookup n = none := by
  induction troubles with
  | nil => exact ⟨0, fun _ _ => rfl⟩
  | cons first rest ih =>
    obtain ⟨bound, hrest⟩ := ih
    refine ⟨max bound (first.1 + 1), fun n hn => ?_⟩
    have hne : (n == first.1) = false := beq_false_of_ne (by omega)
    rw [List.lookup_cons, hne]
    exact hrest n (by omega)

/-- A lease that nobody renews can be had sooner or later. -/
theorem exists_obtainable (lease : Option Lease) (id : String) (t : Instant) :
    ∃ bound, ∀ k : Nat, bound ≤ k → Obtainable lease id (t.addNanos (k * (5 * 10 ^ 9))) := by
  cases hrenewed : (lease.bind Lease.spec).bind LeaseSpec.renewTime with
  | none => exact ⟨0, fun k _ => Or.inr (Or.inr (Or.inl hrenewed))⟩
  | some renewed =>
    generalize hlasts : ((lease.bind Lease.spec).bind LeaseSpec.leaseDurationSeconds).getD 15
      = lasts
    refine ⟨(renewed.toNanos - t.toNanos).natAbs + lasts.natAbs + 1, fun k hk => ?_⟩
    refine Or.inr (Or.inr (Or.inr ⟨renewed, hrenewed, ?_⟩))
    rw [hlasts, Instant.secondsSince, Instant.toNanos_addNanos]
    -- Each sleep takes more seconds than one, so these are enough to make up for both.
    have hpassed : (lasts + 1) * 10 ^ 9 ≤ t.toNanos + k * (5 * 10 ^ 9) - renewed.toNanos := by omega
    have hnonneg : 0 ≤ t.toNanos + k * (5 * 10 ^ 9) - renewed.toNanos := by omega
    rw [Int.tdiv_eq_ediv_of_nonneg hnonneg]
    exact Int.le_ediv_of_mul_le (by decide) hpassed

theorem exists_chance (troubles : Troubles) (s : LoneElector) (id : String) :
    ∃ k, s.Chance troubles id k := by
  obtain ⟨calm, hcalm⟩ := exists_lookup_eq_none troubles
  obtain ⟨had, hhad⟩ := exists_obtainable s.server.lease id s.server.now
  exact ⟨calm + had, hcalm _ (by omega), hhad _ (by omega)⟩

/-- Waiting for the lease ends, whatever the lease says and whichever finitely many attempts
run into trouble, as long as nobody else writes. It ends at the first attempt that runs
into no trouble and comes at a time when the lease can be had: any smaller bound on the
number of attempts is too small, and with any greater one the elector has slept exactly
as often, five seconds each time, and holds the lease, renewed at the time of the attempt. -/
theorem acquire_ends_at_first_chance (id : String) (troubles : Troubles) (server : LeaseServer)
    (halone : server.races = 0) :
    ∃ k : Nat,
      (troubles.lookup k = none ∧
        Obtainable server.lease id (server.now.addNanos (k * (5 * 10 ^ 9)))) ∧
      (∀ j < k, ¬ (troubles.lookup j = none ∧
        Obtainable server.lease id (server.now.addNanos (j * (5 * 10 ^ 9))))) ∧
      (∀ attempts ≤ k, ((Elector.acquire id attempts).run (handler troubles) ⟨server, 0⟩).1 = false) ∧
      ∃ final : LoneElector,
        (∀ attempts, k < attempts →
          (Elector.acquire id attempts).run (handler troubles) ⟨server, 0⟩ = (true, final)) ∧
        final.sleeps = k ∧
        final.HasRenewed id (server.now.toNanos + k * (5 * 10 ^ 9)) := by
  classical
  have hchance : ∀ k, Chance troubles ⟨server, 0⟩ id k ↔ troubles.lookup k = none ∧
      Obtainable server.lease id (server.now.addNanos (k * (5 * 10 ^ 9))) := by
    intro k
    unfold Chance
    rw [Nat.zero_add]
  have hsome := exists_chance troubles ⟨server, 0⟩ id
  obtain ⟨hfew, final, hmany, hsleeps, hholds⟩ := run_attemptUpTo (Nat.find hsome) ⟨server, 0⟩
    halone (Nat.find_spec hsome) fun j hj => Nat.find_min hsome hj
  refine ⟨Nat.find hsome, (hchance _).mp (Nat.find_spec hsome),
    fun j hj h => Nat.find_min hsome hj ((hchance j).mpr h), hfew, final, hmany, ?_, hholds⟩
  rw [hsleeps]
  exact Nat.zero_add _

/-- A server whose lease was renewed two seconds ago by another elector. -/
def heldByAnother : LeaseServer where
  ns := "default"
  lease := some ⟨1, some { holderIdentity := some "a", renewTime := some ⟨98, 0⟩ }⟩
  lastVersion := 1
  now := ⟨100, 0⟩

/-- The second attempt cannot read the lease; the fourth, at which the lease has expired,
is refused its write. -/
def twoTroubles : Troubles :=
  [(1, ⟨some (.unreachable "connection reset"), .unreachable "connection reset"⟩),
    (3, ⟨none, (Api.Refusal.stale "lease was modified").failure⟩)]

theorem acquire_ends_at_first_chance_troubled :
    heldByAnother.races = 0 ∧
    ((Elector.acquire "b" 4).run (handler twoTroubles) ⟨heldByAnother, 0⟩).1 = false ∧
    ∃ final : LoneElector,
      (∀ attempts, 4 < attempts →
        (Elector.acquire "b" attempts).run (handler twoTroubles) ⟨heldByAnother, 0⟩
          = (true, final)) ∧
      final.sleeps = 4 ∧ final.HasRenewed "b" (120 * 10 ^ 9) := by
  obtain ⟨k, hchance, hfirst, hfew, final, hmany, hsleeps, hholds⟩ :=
    acquire_ends_at_first_chance "b" twoTroubles heldByAnother rfl
  have hk : k = 4 := by
    rcases Nat.lt_trichotomy k 4 with hlt | heq | hgt
    · have hnone : ∀ j < 4, ¬ (twoTroubles.lookup j = none ∧ Obtainable heldByAnother.lease "b"
          (heldByAnother.now.addNanos (j * (5 * 10 ^ 9)))) := by
        decide
      exact absurd hchance (hnone k hlt)
    · exact heq
    · exact absurd ⟨rfl, by decide⟩ (hfirst 4 hgt)
  subst hk
  exact ⟨rfl, hfew 4 (Nat.le_refl 4), final, hmany, hsleeps, hholds⟩

end LoneElector

end CordonWatch
