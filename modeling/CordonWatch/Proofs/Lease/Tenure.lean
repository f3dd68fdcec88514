import CordonWatch.Proofs.Lease.Conduct
import CordonWatch.Proofs.Lease.Server

/-!
# The tenure of an elector

An elector that has written the lease is safe from the others for a while
(`Tenure`): as long as the lease names it the lease has the time that it wrote
and the standard duration, and once the lease does not name it any more
sixteen seconds have gone by. For the lease is only ever taken over after it
had expired, counted in whole seconds, when the clock was read
(`le_of_isExpired`); and nobody has written it since it was read, since the
write carries the version that was read (`Valid`).

Attempts begin a tenure (`tenure_of_attempt`), renewals go on with one
(`Tenure.renewed`), and what others write leaves it as it is
(`Tenure.written`).
-/

namespace CordonWatch

namespace LeaseServer

/-- The version given last is not below the one of the lease. -/
def Versioned (s : LeaseServer) : Prop :=
  ∀ lease, s.lease = some lease → lease.version ≤ s.lastVersion

variable {s s' : LeaseServer}

theorem Versioned.alike (h : s.Versioned) (hs : Alike s s') : s'.Versioned := by
  intro lease hl
  rw [hs.lastVersion]
  exact h lease (hs.lease ▸ hl)

theorem Versioned.written {spec : Option LeaseSpec} (hs : Written spec s s') : s'.Versioned := by
  intro lease hl
  rw [hs.lease] at hl
  cases hl
  exact Nat.le_of_eq hs.lastVersion.symm

end LeaseServer

namespace Elector

open LeaseServer (Alike Written Versioned)

variable {id : String} {s s' : LeaseServer} {seen : Sight} {r : Instant}

/-! ### What an elector has seen -/

/-- What an elector has seen is not newer than what there is: the clock has not
gone back, and the lease is as it was read if its version still is the same. -/
structure Valid (s : LeaseServer) (seen : Sight) : Prop where
  reading : ∀ t, seen.reading = some t → t.toNanos ≤ s.now.toNanos
  lastRead : ∀ old, seen.lastRead = some old → old.version ≤ s.lastVersion ∧
    ∀ lease, s.lease = some lease → lease.version = old.version → lease = old

theorem Valid.later (h : Valid s seen) (hlease : s'.lease = s.lease)
    (hversion : s'.lastVersion = s.lastVersion) (hnow : s.now.toNanos ≤ s'.now.toNanos) :
    Valid s' seen where
  reading := fun t ht => Int.le_trans (h.reading t ht) hnow
  lastRead := by
    intro old hold
    rw [hlease, hversion]
    exact h.lastRead old hold

theorem Valid.alike (h : Valid s seen) (hs : Alike s s') : Valid s' seen :=
  h.later hs.lease hs.lastVersion (Int.le_of_eq (congrArg Instant.toNanos hs.now.symm))

/-- What was seen stays valid when the lease is written, which gives it a new version. -/
theorem Valid.written {spec : Option LeaseSpec} (h : Valid s seen) (hs : Written spec s s') :
    Valid s' seen where
  reading := by
    intro t ht
    rw [hs.now]
    exact h.reading t ht
  lastRead := by
    intro old hold
    obtain ⟨hle, _⟩ := h.lastRead old hold
    rw [hs.lastVersion]
    refine ⟨Nat.le_succ_of_le hle, fun lease hl hversion => ?_⟩
    rw [hs.lease] at hl
    cases hl
    dsimp only at hversion
    omega

theorem Valid.wrote (h : Valid s seen) : Valid s { seen with wrote := true } :=
  ⟨h.reading, h.lastRead⟩

/-! ### Tenure -/

/-- An elector has written `r` as the time of renewal. If the lease names it,
that is the time of the lease, which lasts for the standard duration; if not,
sixteen seconds have gone by since. -/
def Tenure (id : String) (r : Instant) (s : LeaseServer) : Prop :=
  ∃ lease, s.lease = some lease ∧
    (lease.holder? = some id → ∃ spec, lease.spec = some spec ∧ spec.renewTime = some r ∧
      spec.leaseDurationSeconds.getD LeaseSpec.standardDuration = LeaseSpec.standardDuration) ∧
    (lease.holder? ≠ some id → r.toNanos + 16 * 10 ^ 9 ≤ s.now.toNanos)

theorem Tenure.later (h : Tenure id r s) (hlease : s'.lease = s.lease)
    (hnow : s.now.toNanos ≤ s'.now.toNanos) : Tenure id r s' := by
  obtain ⟨lease, hl, hmine, hother⟩ := h
  exact ⟨lease, hlease.trans hl, hmine, fun hne => Int.le_trans (hother hne) hnow⟩

theorem Tenure.alike (h : Tenure id r s) (hs : Alike s s') : Tenure id r s' :=
  h.later hs.lease (Int.le_of_eq (congrArg Instant.toNanos hs.now.symm))

/-- Writing the lease again as it was changes nothing for anybody. -/
theorem Tenure.rewritten (h : Tenure id r s) {stored : Lease} (hstored : s.lease = some stored)
    (hs : Written stored.spec s s') : Tenure id r s' := by
  obtain ⟨lease, hl, hmine, hother⟩ := h
  rw [hstored] at hl
  cases hl
  refine ⟨_, hs.lease, hmine, fun hne => ?_⟩
  rw [hs.now]
  exact hother hne

/-- More than fifteen whole seconds are sixteen seconds at least. -/
theorem le_of_lt_secondsSince {t : Instant} (h : 15 < t.secondsSince r) :
    r.toNanos + 16 * 10 ^ 9 ≤ t.toNanos := by
  unfold Instant.secondsSince at h
  by_cases hnonneg : 0 ≤ t.toNanos - r.toNanos
  · rw [Int.tdiv_eq_ediv_of_nonneg hnonneg] at h
    omega
  · -- The quotient is cut off toward zero, so it is not positive.
    have hneg : 0 ≤ (-(t.toNanos - r.toNanos)).tdiv (10 ^ 9) :=
      Int.tdiv_nonneg (by omega) (by decide)
    rw [Int.neg_tdiv] at hneg
    omega

/-- A lease that lasts for the standard duration and has expired at a time was
renewed sixteen seconds before or earlier. -/
theorem le_of_isExpired {spec : LeaseSpec} {t : Instant} (h : spec.isExpired t = true)
    (hr : spec.renewTime = some r)
    (hduration : spec.leaseDurationSeconds.getD LeaseSpec.standardDuration
      = LeaseSpec.standardDuration) : r.toNanos + 16 * 10 ^ 9 ≤ t.toNanos := by
  unfold LeaseSpec.isExpired at h
  rw [hr] at h
  dsimp only at h
  rw [hduration] at h
  exact le_of_lt_secondsSince (of_decide_eq_true h)

/-- What an operation writes names its elector or nobody. -/
theorem MayWrite.holder {reading : Option Instant} {old : Lease} {op : Operation}
    {spec : Option LeaseSpec} (h : MayWrite id reading old op spec) {x : String}
    (hx : spec.bind LeaseSpec.holderIdentity = some x) : x = id := by
  cases op with
  | attempt =>
    obtain ⟨_, new, _, rfl, _, hholder, _⟩ := h
    exact Option.some.inj (hx.symm.trans hholder)
  | renew =>
    obtain ⟨hmine, now, rfl⟩ := h
    unfold Lease.holder? at hmine
    cases hold : old.spec with
    | none => rw [hold] at hx; cases hx
    | some spec =>
      rw [hold] at hx hmine
      exact Option.some.inj (hx.symm.trans hmine)
  | release =>
    obtain ⟨_, rfl⟩ := h
    cases hold : old.spec with
    | none => rw [hold] at hx; cases hx
    | some spec => rw [hold] at hx; cases hx

/-- The lease is written by others only when the tenure of an elector is over. -/
theorem Tenure.written {x : String} (h : Tenure x r s) (hx : x ≠ id) {old : Lease}
    {op : Operation} {spec : Option LeaseSpec} (hseen : Valid s seen) (hold : s.lease = some old)
    (hwrite : MayWrite id seen.reading old op spec) (hs : Written spec s s') : Tenure x r s' := by
  refine ⟨_, hs.lease, fun hholder => absurd (hwrite.holder hholder) hx, fun _ => ?_⟩
  obtain ⟨lease, hl, hmine, hother⟩ := h
  rw [hold] at hl
  cases hl
  rw [hs.now]
  by_cases hholder : old.holder? = some x
  · -- The lease names the elector, so what is written is a takeover.
    have hnot : old.holder? ≠ some id := by
      rw [hholder]
      exact fun he => hx (Option.some.inj he)
    cases op with
    | attempt =>
      obtain ⟨t, _, ht, _, hclaim, _⟩ := hwrite
      obtain ⟨spec, hspec, hr, hduration⟩ := hmine hholder
      rw [hspec] at hclaim
      have hexpired := hclaim.resolve_left hnot
      exact Int.le_trans (le_of_isExpired hexpired hr hduration) (hseen.reading t ht)
    | renew => exact absurd hwrite.1 hnot
    | release => exact absurd hwrite.1 hnot
  · exact hother hholder

/-- An attempt that has written the lease begins a tenure. -/
theorem tenure_of_attempt {reading : Option Instant} {old : Lease} {spec : Option LeaseSpec}
    (hwrite : MayWrite id reading old .attempt spec) (hs : Written spec s s') :
    ∃ r, spec.bind LeaseSpec.renewTime = some r ∧ Tenure id r s' := by
  obtain ⟨now, new, _, rfl, _, hholder, hr, hduration⟩ := hwrite
  refine ⟨now.wholeMicros, hr, _, hs.lease, fun _ => ⟨new, rfl, hr, ?_⟩, fun hne => ?_⟩
  · rw [hduration]
    rfl
  · exact absurd hholder hne

/-- A renewal that has written the lease goes on with the tenure. -/
theorem Tenure.renewed (h : Tenure id r s) {reading : Option Instant} {old : Lease}
    {spec : Option LeaseSpec} (hold : s.lease = some old)
    (hwrite : MayWrite id reading old .renew spec) (hs : Written spec s s') :
    ∃ r, spec.bind LeaseSpec.renewTime = some r ∧ Tenure id r s' := by
  obtain ⟨lease, hl, hmine, _⟩ := h
  rw [hold] at hl
  cases hl
  obtain ⟨hholder, now, rfl⟩ := hwrite
  obtain ⟨spec, hspec, _, hduration⟩ := hmine hholder
  rw [hspec] at hs ⊢
  refine ⟨now, rfl, _, hs.lease, fun _ => ⟨_, rfl, rfl, hduration⟩, fun hne => absurd ?_ hne⟩
  rw [Lease.holder?, hspec] at hholder
  exact hholder

end Elector

end CordonWatch
