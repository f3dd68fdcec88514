import CordonWatch.Proofs.Lease.Server

/-!
# What a release leaves to the next elector

A release clears the holder of the lease and leaves its time of renewal and its
duration. An attempt of another elector tests first whether the lease is its
own and then whether it has expired, and does not look at whether anybody
holds it. So a lease that was released is taken over at once only if it has
expired anyhow; otherwise the next elector waits as if the lease were still
held (`attempt_after_release`).
-/

namespace CordonWatch.LeaseServer

variable {s : LeaseServer}

theorem alike_record (note : Note) (s : LeaseServer) : Alike s (s.record note) := by
  cases note <;> exact ⟨rfl, rfl, rfl, rfl⟩

/-- The server after an elector has released the lease, or has tried to. -/
def afterRelease (s : LeaseServer) (id : String) : LeaseServer :=
  ((Elector.release id).run handler s).2

/-- One attempt of an elector at the time `t`, where no request fails and nobody interferes. -/
def attemptAt (s : LeaseServer) (id : String) (t : Instant) :
    Except Api.RequestFailure Bool × LeaseServer :=
  (Elector.attempt id).run handler { s with now := t, faults := [], races := 0 }

/-- A release of the lease by its holder leaves what it says, or clears the holder of it. -/
theorem afterRelease_cases {id : String} {version : Nat} {spec : LeaseSpec}
    (hlease : s.lease = some ⟨version, some spec⟩) (hheld : spec.holderIdentity = some id) :
    (∃ version', (s.afterRelease id).lease = some ⟨version', some spec⟩) ∨
      Http.Target.defect? (Lease.path s.ns) = none ∧ (s.afterRelease id).ns = s.ns ∧
        ∃ version', (s.afterRelease id).lease
          = some ⟨version', some { spec with holderIdentity := none }⟩ := by
  obtain ⟨hread, hgot⟩ := s.answer_get
  have hstored := hread.lease.trans hlease
  unfold afterRelease
  rw [Elector.release, Program.run_ask, show handler.answer .get s = s.answer .get from rfl]
  cases hanswer : (s.answer .get).1 with
  | error e => exact Or.inl ⟨version, (alike_record _ _).lease.trans hstored⟩
  | ok lease =>
    obtain ⟨hlease', hpath⟩ := hgot lease hanswer
    rw [hlease] at hlease'
    cases hlease'
    generalize (s.answer .get).2 = s₁ at hread hstored ⊢
    have hanswered := s₁.answer_replace ⟨version, some { spec with holderIdentity := none }⟩
    dsimp only [Option.map_some]
    rw [if_pos (show Lease.holder? ⟨version, some spec⟩ = some id from hheld), Program.run_bind,
      Elector.replace, Program.run_ask,
      show handler.answer _ s₁ = s₁.answer _ from rfl, Program.run_done]
    generalize s₁.answer _ = answered at hanswered ⊢
    -- Whatever came of the write, the server that is left is the one after it with a line logged.
    suffices h : ∀ s₂, Alike answered.2 s₂ → (∃ version', s₂.lease = some ⟨version', some spec⟩) ∨
        Http.Target.defect? (Lease.path s.ns) = none ∧ s₂.ns = s.ns ∧
          ∃ version', s₂.lease = some ⟨version', some { spec with holderIdentity := none }⟩ by
      cases Elector.written answered.1 with
      | error e => exact h _ (alike_record (.log _) answered.2)
      | ok done =>
        cases done with
        | false => exact h _ (alike_record (.log _) answered.2)
        | true => exact h _ (alike_record (.log _) answered.2)
    intro s₂ hs₂
    rw [hs₂.lease, hs₂.ns]
    rcases hanswered with ⟨_, hs | ⟨stored, hs₁, hs⟩⟩ | ⟨_, _, _, _, hs⟩
    · exact Or.inl ⟨version, hs.lease.trans hstored⟩
    · rw [hstored] at hs₁
      cases hs₁
      exact Or.inl ⟨_, hs.lease⟩
    · exact Or.inr ⟨hpath, hs.ns.trans hread.ns, _, hs.lease⟩

theorem replace_of_no_races {stored lease : Lease} (hraces : s.races = 0)
    (hstored : s.lease = some stored) (hversion : lease.version = stored.version) :
    s.replace lease = (.ok (), s.store lease.spec) := by
  unfold replace
  rw [hstored]
  dsimp only
  rw [if_neg (by omega), if_neg (fun hne => hne hversion)]

/-- An attempt at a lease that names somebody else or nobody succeeds if the
lease has expired, and then takes it over; otherwise it leaves the lease alone. -/
theorem run_attempt_of_not_held {id : String} {lease : Lease} (hfaults : s.faults = [])
    (hraces : s.races = 0) (hpath : Http.Target.defect? (Lease.path s.ns) = none)
    (hlease : s.lease = some lease) (hother : lease.holder? ≠ some id) :
    ((lease.spec.getD {}).isExpired s.now = true →
        ((Elector.attempt id).run handler s).1 = .ok true ∧
          ((Elector.attempt id).run handler s).2.lease = some ⟨s.lastVersion + 1,
            some ((lease.spec.getD {}).takenOver id s.now.wholeMicros)⟩) ∧
      ((lease.spec.getD {}).isExpired s.now = false →
        ((Elector.attempt id).run handler s).1 = .ok false ∧
          ((Elector.attempt id).run handler s).2.lease = some lease) := by
  obtain ⟨exchanges, hget⟩ := exchange_of_no_faults .get (Lease.path s.ns) 200
    (fun s => (s.get, s)) s hpath hfaults
  have hgot : s.get = .ok lease := by
    unfold get
    rw [hlease]
  have hread : s.answer .get = (.ok lease, { s with exchanges }) := by
    rw [show s.answer .get = _ from hget, hgot]
    rfl
  rw [Elector.attempt, Program.run_readClock, Program.run_ask,
    show handler.answer .get s = s.answer .get from rfl, hread]
  dsimp only [Elector.claim]
  rw [if_neg hother, show handler.clock s = s.now from rfl]
  constructor
  · intro hexpired
    rw [if_pos hexpired]
    generalize (lease.spec.getD {}).takenOver id s.now.wholeMicros = spec
    obtain ⟨exchanges', hput⟩ := exchange_of_no_faults .put (Lease.path s.ns) 200
      (·.replace ⟨lease.version, some spec⟩) { s with exchanges } hpath hfaults
    have hreplaced : ({ s with exchanges } : LeaseServer).replace ⟨lease.version, some spec⟩ = _ :=
      replace_of_no_races hraces hlease rfl
    rw [hreplaced] at hput
    rw [Elector.replace, Program.run_ask,
      show handler.answer (.replace _) { s with exchanges } = _ from hput]
    exact ⟨rfl, rfl⟩
  · intro hlasting
    rw [if_neg (by rw [hlasting]; decide)]
    exact ⟨rfl, hlease⟩

/-- A lease has expired if it was never renewed, or has gone unrenewed for longer
than its duration. -/
theorem isExpired_iff (spec : LeaseSpec) (t : Instant) : spec.isExpired t = true ↔
    ∀ renewed, spec.renewTime = some renewed →
      spec.leaseDurationSeconds.getD LeaseSpec.standardDuration < t.secondsSince renewed := by
  unfold LeaseSpec.isExpired
  cases spec.renewTime with
  | none => exact ⟨fun _ _ h => (nomatch h), fun _ => rfl⟩
  | some renewed =>
    dsimp only
    rw [decide_eq_true_iff]
    exact ⟨fun h r hr => Option.some.inj hr ▸ h, fun h => h renewed rfl⟩

/-- Once a release has cleared the holder of a lease, the next attempt of any
elector succeeds, and gives the lease to it, if and only if the lease had
never been renewed or has gone unrenewed for longer than its duration. If
neither is so, the lease counts as held, and stays as the release has left it. -/
theorem attempt_after_release {a : String} {version : Nat} {spec : LeaseSpec} (b : String)
    (t : Instant) (hlease : s.lease = some ⟨version, some spec⟩)
    (hheld : spec.holderIdentity = some a)
    (hreleased : (s.afterRelease a).lease.bind Lease.holder? = none) :
    let expired := ∀ renewed, spec.renewTime = some renewed →
      spec.leaseDurationSeconds.getD LeaseSpec.standardDuration < t.secondsSince renewed
    let attempt := (s.afterRelease a).attemptAt b t
    (attempt.1 = .ok true ∧ attempt.2.lease.bind Lease.holder? = some b ↔ expired) ∧
      (¬ expired → attempt.1 = .ok false ∧ attempt.2.lease = (s.afterRelease a).lease) := by
  rcases afterRelease_cases hlease hheld with ⟨version', hkept⟩ | ⟨hpath, hns, version', hcleared⟩
  · -- The lease still names its holder, so it was not released.
    rw [hkept] at hreleased
    exact absurd (hreleased.symm.trans hheld) (by simp)
  · rw [← hns] at hpath
    -- Whether the lease has expired does not depend on the holder.
    have hnobody : Lease.holder? ⟨version', some { spec with holderIdentity := none }⟩ ≠ some b :=
      fun h => nomatch h
    obtain ⟨htaken, hleft⟩ := run_attempt_of_not_held
      (s := { s.afterRelease a with now := t, faults := [], races := 0 }) rfl rfl hpath hcleared
      hnobody
    dsimp only
    rw [← isExpired_iff, hcleared]
    unfold attemptAt
    by_cases hexpired : spec.isExpired t = true
    · obtain ⟨hresult, hlease'⟩ := htaken hexpired
      rw [hresult, hlease']
      exact ⟨⟨fun _ => hexpired, fun _ => ⟨rfl, rfl⟩⟩, fun hne => absurd hexpired hne⟩
    · obtain ⟨hresult, hlease'⟩ := hleft (Bool.eq_false_iff.mpr hexpired)
      rw [hresult, hlease']
      exact ⟨⟨fun ⟨h, _⟩ => (nomatch h), fun h => absurd h hexpired⟩, fun _ => ⟨rfl, rfl⟩⟩

/-- A server with a lease that an elector has just renewed. -/
def justRenewed : LeaseServer :=
  { ns := "default"
    lease := some ⟨1, some { holderIdentity := some "a", leaseDurationSeconds := some 15
                             acquireTime := some ⟨0, 0⟩, renewTime := some ⟨0, 0⟩
                             leaseTransitions := some 0 }⟩
    lastVersion := 1
    now := ⟨0, 0⟩ }

/-- Released at once, that lease goes to another elector sixteen seconds later. -/
theorem attempt_after_release_justRenewed :
    (justRenewed.afterRelease "a").lease.bind Lease.holder? = none ∧
      ((justRenewed.afterRelease "a").attemptAt "b" ⟨16, 0⟩).1 = .ok true ∧
      ((justRenewed.afterRelease "a").attemptAt "b" ⟨16, 0⟩).2.lease.bind Lease.holder?
        = some "b" := by
  have hreleased : (justRenewed.afterRelease "a").lease.bind Lease.holder? = none := by
    decide +kernel
  obtain ⟨hiff, _⟩ := attempt_after_release "b" ⟨16, 0⟩
    (show justRenewed.lease = some ⟨1, some _⟩ from rfl) rfl hreleased
  refine ⟨hreleased, hiff.mpr fun renewed hr => ?_⟩
  cases hr
  decide

/-- A lease has been released, and the first attempt of another elector at the
same instant does not get it. -/
theorem released_lease_not_acquired :
    (justRenewed.afterRelease "a").lease.bind Lease.holder? = none ∧
      ((justRenewed.afterRelease "a").attemptAt "b" justRenewed.now).1 = .ok false ∧
      ((justRenewed.afterRelease "a").attemptAt "b" justRenewed.now).2.lease.bind Lease.holder?
        = none := by
  refine ⟨by decide +kernel, ?_, by decide +kernel⟩
  have hresult : ((justRenewed.afterRelease "a").attemptAt "b" justRenewed.now).1.toOption
      = some false := by decide +kernel
  cases h : ((justRenewed.afterRelease "a").attemptAt "b" justRenewed.now).1 with
  | error e =>
    rw [h] at hresult
    cases hresult
  | ok acquired =>
    rw [h] at hresult
    cases hresult
    rfl

end CordonWatch.LeaseServer
