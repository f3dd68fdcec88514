import CordonWatch.Lease.Server

/-!
# What requests do to the lease

One statement for each request of an elector. A request that is refused, or
does not get through, leaves the lease alone, but for the race in which
somebody else has written the lease again as it was. A request that is
answered well has found the lease, has found none, or has found the version it
carries, and has left what it says under a new version. Proofs about elections
cite these and open neither the faults nor the exchange of messages.
-/

namespace CordonWatch.LeaseServer

/-- Nothing of the lease has changed, nor has the time. -/
structure Alike (s s' : LeaseServer) : Prop where
  ns : s'.ns = s.ns
  lease : s'.lease = s.lease
  lastVersion : s'.lastVersion = s.lastVersion
  now : s'.now = s.now

/-- The lease has been written and says `spec`, under a new version. -/
structure Written (spec : Option LeaseSpec) (s s' : LeaseServer) : Prop where
  ns : s'.ns = s.ns
  lease : s'.lease = some ⟨s.lastVersion + 1, spec⟩
  lastVersion : s'.lastVersion = s.lastVersion + 1
  now : s'.now = s.now

section

variable {α : Type} (method : Api.Method) (path : String) (success : Nat)
  (perform : LeaseServer → Except Api.Refusal α × LeaseServer) (s : LeaseServer)

/-- A request fails on its way, or it can be made and is performed; around it
only records and faults change. -/
theorem exchange_cases :
    (∃ e faults exchanges, s.exchange method path success perform
        = (.error e, { s with faults, exchanges })) ∨
      Http.Target.defect? path = none ∧ ∃ faults exchanges,
        s.exchange method path success perform
          = ((perform { s with faults }).1.mapError Api.Refusal.failure,
            { (perform { s with faults }).2 with exchanges }) := by
  unfold exchange
  split
  next defect _ => exact Or.inl ⟨_, s.faults, s.exchanges, rfl⟩
  next hpath =>
    dsimp only
    cases (Fault.meet method s.faults).1 with
    | some e => exact Or.inl ⟨e.failure, _, _, rfl⟩
    | none => exact Or.inr ⟨hpath, _, _, rfl⟩

/-- A request that can be made is performed, where no faults are scheduled. -/
theorem exchange_of_no_faults (hpath : Http.Target.defect? path = none) (h : s.faults = []) :
    ∃ exchanges, s.exchange method path success perform
      = ((perform s).1.mapError Api.Refusal.failure, { (perform s).2 with exchanges }) := by
  have hsame : { s with faults := [] } = s := by rw [← h]
  unfold exchange
  rw [hpath, h]
  dsimp only [Fault.meet_nil]
  rw [hsame]
  exact ⟨_, rfl⟩

end

/-- The server creates the lease, or refuses and changes nothing. -/
theorem create_cases (s : LeaseServer) (spec : LeaseSpec) :
    (∃ e, s.create spec = (.error e, s)) ∨
      s.lease = none ∧ s.create spec = (.ok (), s.store (some spec)) := by
  unfold create
  cases s.lease with
  | none => exact Or.inr ⟨rfl, rfl⟩
  | some stored => exact Or.inl ⟨_, rfl⟩

/-- The server refuses a replacement and changes nothing; or it refuses because
of a race, which leaves what the lease says; or it takes the replacement in,
which then carries the version stored. -/
theorem replace_cases (s : LeaseServer) (lease : Lease) :
    (∃ e, s.replace lease = (.error e, s)) ∨
      (∃ e stored, s.lease = some stored ∧
        s.replace lease = (.error e,
          { s.store stored.spec s.acquireText with races := s.races - 1 })) ∨
      ∃ stored, s.lease = some stored ∧ stored.version = lease.version ∧
        s.replace lease = (.ok (), s.store lease.spec) := by
  unfold replace
  cases s.lease with
  | none => exact Or.inl ⟨_, rfl⟩
  | some stored =>
    dsimp only
    split
    · exact Or.inr (Or.inl ⟨_, stored, rfl, rfl⟩)
    · split
      · exact Or.inl ⟨_, rfl⟩
      next hversion =>
        exact Or.inr (Or.inr ⟨stored, rfl, (Decidable.not_not.mp hversion).symm, rfl⟩)

/-- Reading changes nothing, and gives the lease if it gives one; it can then be requested. -/
theorem answer_get (s : LeaseServer) :
    Alike s (s.answer .get).2 ∧ ∀ lease, (s.answer .get).1 = .ok lease →
      s.lease = some lease ∧ Http.Target.defect? (Lease.path s.ns) = none := by
  rcases exchange_cases .get (Lease.path s.ns) 200 (fun s => (s.get, s)) s with
    ⟨e, faults, exchanges, h⟩ | ⟨hpath, faults, exchanges, h⟩
  · rw [show s.answer .get = _ from h]
    exact ⟨⟨rfl, rfl, rfl, rfl⟩, fun lease hl => nomatch hl⟩
  · rw [show s.answer .get = _ from h]
    refine ⟨⟨rfl, rfl, rfl, rfl⟩, fun lease hl => ?_⟩
    dsimp only [get] at hl
    cases hs : s.lease with
    | none =>
      rw [hs] at hl
      cases hl
    | some stored =>
      rw [hs] at hl
      cases hl
      exact ⟨rfl, hpath⟩

/-- The lease is created only where there is none. -/
theorem answer_create (s : LeaseServer) (spec : LeaseSpec) :
    ((∃ e, (s.answer (.create spec)).1 = .error e) ∧ Alike s (s.answer (.create spec)).2) ∨
      ((s.answer (.create spec)).1 = .ok () ∧ s.lease = none ∧
        Written (some spec) s (s.answer (.create spec)).2) := by
  rcases exchange_cases .post (Lease.collectionPath s.ns) 201 (·.create spec) s with
    ⟨e, faults, exchanges, h⟩ | ⟨_, faults, exchanges, h⟩
  · rw [show s.answer (.create spec) = _ from h]
    exact Or.inl ⟨⟨e, rfl⟩, rfl, rfl, rfl, rfl⟩
  · rw [show s.answer (.create spec) = _ from h]
    dsimp only
    rcases create_cases { s with faults } spec with ⟨e, hc⟩ | ⟨hnone, hc⟩
    · rw [hc]
      exact Or.inl ⟨⟨e.failure, rfl⟩, rfl, rfl, rfl, rfl⟩
    · rw [hc]
      exact Or.inr ⟨rfl, hnone, rfl, rfl, rfl, rfl⟩

/-- The lease is replaced only if the version that is stored is the one carried. -/
theorem answer_replace (s : LeaseServer) (lease : Lease) :
    ((∃ e, (s.answer (.replace lease)).1 = .error e) ∧
        (Alike s (s.answer (.replace lease)).2 ∨ ∃ stored, s.lease = some stored ∧
          Written stored.spec s (s.answer (.replace lease)).2)) ∨
      ((s.answer (.replace lease)).1 = .ok () ∧ ∃ stored, s.lease = some stored ∧
        stored.version = lease.version ∧ Written lease.spec s (s.answer (.replace lease)).2) := by
  rcases exchange_cases .put (Lease.path s.ns) 200 (·.replace lease) s with
    ⟨e, faults, exchanges, h⟩ | ⟨_, faults, exchanges, h⟩
  · rw [show s.answer (.replace lease) = _ from h]
    exact Or.inl ⟨⟨e, rfl⟩, Or.inl ⟨rfl, rfl, rfl, rfl⟩⟩
  · rw [show s.answer (.replace lease) = _ from h]
    dsimp only
    rcases replace_cases { s with faults } lease with
      ⟨e, hr⟩ | ⟨e, stored, hs, hr⟩ | ⟨stored, hs, hversion, hr⟩
    · rw [hr]
      exact Or.inl ⟨⟨e.failure, rfl⟩, Or.inl ⟨rfl, rfl, rfl, rfl⟩⟩
    · rw [hr]
      exact Or.inl ⟨⟨e.failure, rfl⟩, Or.inr ⟨stored, hs, rfl, rfl, rfl, rfl⟩⟩
    · rw [hr]
      exact Or.inr ⟨rfl, stored, hs, hversion, rfl, rfl, rfl, rfl⟩

end CordonWatch.LeaseServer
