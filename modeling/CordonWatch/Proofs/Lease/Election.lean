import CordonWatch.Proofs.Lease.Tenure

/-!
# There is one leader at most

Electors with different identities work on one lease, request by request and
in any order, with readings of one clock that never goes back. Requests may
fail, and operations may be given up before they are done. An elector leads
from when an attempt of its ended well, until it releases the lease or a
renewal does not end well, and for no longer than fifteen seconds after the
last time of renewal that it has written (`LeaderAt`). `leader_unique` says
that no two lead at one time.

The invariant (`Consistent`) is that an elector that leads has a tenure, and
so has one whose attempt has written and is about to end well.
-/

namespace CordonWatch

open Elector (Operation Sight Fits Valid Tenure conduct)
open LeaseServer (Alike Written Versioned)

/-- An elector, with what it has come to. -/
structure Candidate where
  /-- The operation it is in, and what is left of it. -/
  activity : Option (Σ op : Operation, LeaseProgram op.Result) := none
  /-- An attempt ended well, and since then it has neither begun to release the
  lease nor had a renewal that ended otherwise than well. -/
  leads : Bool := false
  /-- The last time of renewal that it has written. -/
  renewed : Option Instant := none

/-- A server with the lease, and the electors by their identities. -/
structure Election where
  server : LeaseServer
  candidates : String → Candidate := fun _ => {}

namespace Candidate

/-- The last time of renewal written, after a request was answered. -/
def renewedBy (before : Option Instant) : (call : LeaseCall) → call.Answer → Option Instant
  | .create spec, .ok () => spec.renewTime
  | .replace lease, .ok () => lease.spec.bind LeaseSpec.renewTime
  | _, _ => before

/-- Whether an elector leads when an operation is done. -/
def leadsAfter (before : Bool) : (op : Operation) → op.Result → Bool
  | .attempt, .ok true => true
  | .renew, .ok true => before
  | .renew, _ => false
  | _, _ => before

end Candidate

namespace Election

/-- The election where an elector has come to something else. -/
def set (e : Election) (id : String) (c : Candidate) : Election :=
  { e with candidates := fun x => if x = id then c else e.candidates x }

/-- What may happen next: time passes; requests get into trouble, or out of it;
an elector begins an operation, giving up the one it is in; or it goes on by
one step with the one that it is in. -/
inductive Step : Election → Election → Prop
  | tick (e : Election) {now : Instant} (later : e.server.now.toNanos ≤ now.toNanos) :
    Step e { e with server := { e.server with now } }
  | trouble (e : Election) (faults : List (Fault Api.Method Api.Refusal)) (races : Nat) :
    Step e { e with server := { e.server with faults, races } }
  | begin (e : Election) (id : String) (op : Operation) :
    Step e (e.set id { e.candidates id with
      activity := some ⟨op, op.program id⟩
      leads := (e.candidates id).leads && decide (op ≠ .release) })
  | ask {e : Election} {id : String} {op : Operation} {call : LeaseCall}
    {next : call.Answer → LeaseProgram op.Result}
    (busy : (e.candidates id).activity = some ⟨op, .ask call next⟩) :
    Step e (set { e with server := (e.server.answer call).2 } id { e.candidates id with
      activity := some ⟨op, next (e.server.answer call).1⟩
      renewed := Candidate.renewedBy (e.candidates id).renewed call (e.server.answer call).1 })
  | readClock {e : Election} {id : String} {op : Operation}
    {next : Instant → LeaseProgram op.Result}
    (busy : (e.candidates id).activity = some ⟨op, .readClock next⟩) :
    Step e (e.set id { e.candidates id with activity := some ⟨op, next e.server.now⟩ })
  | note {e : Election} {id : String} {op : Operation} {entry : Note}
    {next : LeaseProgram op.Result}
    (busy : (e.candidates id).activity = some ⟨op, .note entry next⟩) :
    Step e (e.set id { e.candidates id with activity := some ⟨op, next⟩ })
  | finish {e : Election} {id : String} {op : Operation} {result : op.Result}
    (busy : (e.candidates id).activity = some ⟨op, .done result⟩) :
    Step e (e.set id { e.candidates id with
      activity := none
      leads := Candidate.leadsAfter (e.candidates id).leads op result })

/-- An election before any elector has begun, with any lease or none. -/
structure Initial (e : Election) : Prop where
  versioned : e.server.Versioned
  candidates : ∀ id, e.candidates id = {}

/-- The elections that come about. -/
inductive Reachable : Election → Prop
  | initial {e : Election} (h : e.Initial) : Reachable e
  | step {e e' : Election} (h : Reachable e) (hstep : Step e e') : Reachable e'

/-- The elector leads at the time that the clock shows. -/
def LeaderAt (e : Election) (id : String) : Prop :=
  (e.candidates id).leads = true ∧ ∃ r, (e.candidates id).renewed = some r ∧
    e.server.now.toNanos ≤ r.toNanos + 15 * 10 ^ 9

end Election

/-! ### The invariant -/

namespace Candidate

/-- The elector has a tenure from the last time of renewal that it has written. -/
def Secure (id : String) (s : LeaseServer) (c : Candidate) : Prop :=
  ∃ r, c.renewed = some r ∧ Tenure id r s

/-- An elector that leads has a tenure. The operation that it is in keeps to its
conduct with what the elector has seen; a release was not begun by a leader,
and an attempt that has written has a tenure already. -/
structure Sound (id : String) (s : LeaseServer) (c : Candidate) : Prop where
  leading : c.leads = true → c.Secure id s
  busy : ∀ op p, c.activity = some ⟨op, p⟩ → ∃ seen, Valid s seen ∧
    p.Keeps (conduct id op) (Fits op) seen ∧ (op = .release → c.leads = false) ∧
    (op = .attempt → seen.wrote = true → c.Secure id s)

variable {id : String} {s s' : LeaseServer} {c : Candidate}

/-- An elector is not affected by what leaves its tenure and what it has seen alone. -/
theorem Sound.spared (h : c.Sound id s) (hvalid : ∀ seen, Valid s seen → Valid s' seen)
    (htenure : ∀ r, Tenure id r s → Tenure id r s') : c.Sound id s' where
  leading := by
    intro hleads
    obtain ⟨r, hr, ht⟩ := h.leading hleads
    exact ⟨r, hr, htenure r ht⟩
  busy := by
    intro op p hp
    obtain ⟨seen, hseen, hkeeps, hrelease, hwrote⟩ := h.busy op p hp
    refine ⟨seen, hvalid seen hseen, hkeeps, hrelease, fun hop hw => ?_⟩
    obtain ⟨r, hr, ht⟩ := hwrote hop hw
    exact ⟨r, hr, htenure r ht⟩

/-- An elector that has come to the same with the lease, and goes on with an operation. -/
theorem Sound.goesOn {op : Operation} {p : LeaseProgram op.Result} {seen : Sight}
    (h : c.Sound id s) (hseen : Valid s seen) (hkeeps : p.Keeps (conduct id op) (Fits op) seen)
    (hrelease : op = .release → c.leads = false)
    (hwrote : op = .attempt → seen.wrote = true → c.Secure id s) :
    Sound id s { c with activity := some ⟨op, p⟩ } where
  leading := h.leading
  busy := by
    intro op' p' hp
    cases hp
    exact ⟨seen, hseen, hkeeps, hrelease, hwrote⟩

theorem Sound.readClock {op : Operation} {next : Instant → LeaseProgram op.Result}
    (h : c.Sound id s) (busy : c.activity = some ⟨op, .readClock next⟩) :
    Sound id s { c with activity := some ⟨op, next s.now⟩ } := by
  obtain ⟨seen, hseen, hkeeps, hrelease, hwrote⟩ := h.busy _ _ busy
  have hread : Valid s { seen with reading := some s.now } := by
    refine ⟨fun t ht => ?_, hseen.lastRead⟩
    cases ht
    exact Int.le_refl _
  exact h.goesOn hread (hkeeps s.now) hrelease hwrote

theorem Sound.begin (h : c.Sound id s) (op : Operation) :
    Sound id s { c with
      activity := some ⟨op, op.program id⟩
      leads := c.leads && decide (op ≠ .release) } where
  leading := by
    intro hleads
    exact h.leading (Bool.and_eq_true_iff.mp hleads).1
  busy := by
    intro op' p' hp
    cases hp
    refine ⟨{}, ⟨fun _ ht => (nomatch ht), fun _ hl => (nomatch hl)⟩,
      Elector.keeps_program id op, ?_, fun _ hw => nomatch hw⟩
    rintro rfl
    exact Bool.and_false _

theorem Sound.finish {op : Operation} {result : op.Result} (h : c.Sound id s)
    (busy : c.activity = some ⟨op, .done result⟩) :
    Sound id s { c with activity := none, leads := leadsAfter c.leads op result } where
  leading := by
    intro hleads
    obtain ⟨seen, _, hfits, hrelease, hwrote⟩ := h.busy _ _ busy
    cases op with
    | attempt =>
      match result with
      | .ok true => exact hwrote rfl (hfits rfl)
      | .ok false => exact h.leading hleads
      | .error e => exact h.leading hleads
    | renew =>
      match result with
      | .ok true => exact h.leading hleads
      | .ok false => cases hleads
      | .error e => cases hleads
    | release => exact h.leading hleads
  busy := fun _ _ hp => nomatch hp

/-- What the answer to a request of an elector leaves for all: the version given
last is the highest, the elector itself can go on, and no other is affected. -/
structure Answered (id : String) (s s' : LeaseServer) (c' : Candidate) : Prop where
  versioned : s'.Versioned
  own : c'.Sound id s'
  others : ∀ x, x ≠ id → ∀ c, Sound x s c → Sound x s' c

theorem Answered.alike {c' : Candidate} (hv : s.Versioned) (hs : Alike s s')
    (hown : c'.Sound id s) : Answered id s s' c' where
  versioned := hv.alike hs
  own := hown.spared (fun _ h => h.alike hs) (fun _ h => h.alike hs)
  others := fun _ _ _ h => h.spared (fun _ h => h.alike hs) (fun _ h => h.alike hs)

/-- A request that found that somebody had written the lease again as it was. -/
theorem Answered.rewritten {c' : Candidate} {stored : Lease} (hstored : s.lease = some stored)
    (hs : Written stored.spec s s') (hown : c'.Sound id s) : Answered id s s' c' where
  versioned := .written hs
  own := hown.spared (fun _ h => h.written hs) (fun _ h => h.rewritten hstored hs)
  others := fun _ _ _ h =>
    h.spared (fun _ h => h.written hs) (fun _ h => h.rewritten hstored hs)

theorem Sound.ask_get {op : Operation} {next : LeaseCall.Answer .get → LeaseProgram op.Result}
    (h : c.Sound id s) (hv : s.Versioned) (busy : c.activity = some ⟨op, .ask .get next⟩) :
    Answered id s (s.answer .get).2
      { c with activity := some ⟨op, next (s.answer .get).1⟩ } := by
  obtain ⟨hs, hread⟩ := s.answer_get
  obtain ⟨seen, hseen, ⟨_, hnext⟩, hrelease, hwrote⟩ := h.busy _ _ busy
  refine .alike hv hs ?_
  have hnext' := hnext (s.answer .get).1
  cases hanswer : (s.answer .get).1 with
  | error e =>
    rw [hanswer] at hnext'
    exact h.goesOn hseen hnext' hrelease hwrote
  | ok lease =>
    rw [hanswer] at hnext'
    obtain ⟨hlease, _⟩ := hread lease hanswer
    have hseen' : Valid s { seen with lastRead := some lease } := by
      refine ⟨hseen.reading, fun old hold => ?_⟩
      cases hold
      refine ⟨hv lease hlease, fun stored hstored _ => ?_⟩
      exact Option.some.inj (hstored.symm.trans hlease)
    exact h.goesOn hseen' hnext' hrelease hwrote

theorem Sound.ask_create {op : Operation} {spec : LeaseSpec}
    {next : LeaseCall.Answer (.create spec) → LeaseProgram op.Result} (h : c.Sound id s)
    (hv : s.Versioned) (busy : c.activity = some ⟨op, .ask (.create spec) next⟩) :
    Answered id s (s.answer (.create spec)).2 { c with
      activity := some ⟨op, next (s.answer (.create spec)).1⟩
      renewed := renewedBy c.renewed (.create spec) (s.answer (.create spec)).1 } := by
  obtain ⟨seen, hseen, ⟨⟨hop, now, _, hspec⟩, hnext⟩, hrelease, hwrote⟩ := h.busy _ _ busy
  have hnext' := hnext (s.answer (.create spec)).1
  rcases s.answer_create spec with ⟨⟨e, he⟩, hs⟩ | ⟨hok, hnone, hs⟩
  · rw [he] at hnext' ⊢
    exact .alike hv hs (h.goesOn hseen hnext' hrelease hwrote)
  · rw [hok] at hnext' ⊢
    have hsecure : Tenure id now.wholeMicros (s.answer (.create spec)).2 := by
      rw [hspec] at hs ⊢
      exact ⟨_, hs.lease, fun _ => ⟨_, rfl, rfl, rfl⟩, fun hne => absurd rfl hne⟩
    have hrenewed : spec.renewTime = some now.wholeMicros := by
      rw [hspec]
      rfl
    refine ⟨.written hs, ⟨fun _ => ⟨_, hrenewed, hsecure⟩, ?_⟩, fun x _ c' hc' => ?_⟩
    · intro op' p' hp
      cases hp
      exact ⟨_, (hseen.written hs).wrote, hnext', hrelease, fun _ _ => ⟨_, hrenewed, hsecure⟩⟩
    · -- Where there was no lease nobody had a tenure.
      refine hc'.spared (fun _ h => h.written hs) (fun r hr => ?_)
      obtain ⟨lease, hl, _⟩ := hr
      rw [hnone] at hl
      cases hl

theorem Sound.ask_replace {op : Operation} {lease : Lease}
    {next : LeaseCall.Answer (.replace lease) → LeaseProgram op.Result} (h : c.Sound id s)
    (hv : s.Versioned) (busy : c.activity = some ⟨op, .ask (.replace lease) next⟩) :
    Answered id s (s.answer (.replace lease)).2 { c with
      activity := some ⟨op, next (s.answer (.replace lease)).1⟩
      renewed := renewedBy c.renewed (.replace lease) (s.answer (.replace lease)).1 } := by
  obtain ⟨seen, hseen, ⟨⟨old, hread, hversion, hwrite⟩, hnext⟩, hrelease, hwrote⟩ :=
    h.busy _ _ busy
  have hnext' := hnext (s.answer (.replace lease)).1
  rcases s.answer_replace lease with
    ⟨⟨e, he⟩, hs | ⟨stored, hstored, hs⟩⟩ | ⟨hok, stored, hstored, hstoredVersion, hs⟩
  · rw [he] at hnext' ⊢
    exact .alike hv hs (h.goesOn hseen hnext' hrelease hwrote)
  · rw [he] at hnext' ⊢
    exact .rewritten hstored hs (h.goesOn hseen hnext' hrelease hwrote)
  · rw [hok] at hnext' ⊢
    -- The version that is stored is the one that was read, and so is the lease.
    have hold : stored = old :=
      (hseen.lastRead old hread).2 stored hstored (hstoredVersion.trans hversion)
    rw [hold] at hstored
    have hvalid := (hseen.written hs).wrote
    refine ⟨.written hs, ?_, fun x hx c' hc' => ?_⟩
    · cases op with
      | attempt =>
        have hsecure := Elector.tenure_of_attempt hwrite hs
        refine ⟨fun _ => hsecure, ?_⟩
        intro op' p' hp
        cases hp
        exact ⟨_, hvalid, hnext', hrelease, fun _ _ => hsecure⟩
      | renew =>
        refine ⟨fun hleads => ?_, ?_⟩
        · obtain ⟨r, _, ht⟩ := h.leading hleads
          exact ht.renewed hstored hwrite hs
        · intro op' p' hp
          cases hp
          exact ⟨_, hvalid, hnext', hrelease, fun hop => nomatch hop⟩
      | release =>
        refine ⟨fun hleads => ?_, ?_⟩
        · rw [show c.leads = true from hleads] at hrelease
          exact absurd (hrelease rfl) (by decide)
        · intro op' p' hp
          cases hp
          exact ⟨_, hvalid, hnext', hrelease, fun hop => nomatch hop⟩
    · exact hc'.spared (fun _ h => h.written hs)
        (fun _ h => h.written hx hseen hstored hwrite hs)

/-- A request of an elector is answered. -/
theorem Sound.ask {op : Operation} {call : LeaseCall}
    {next : call.Answer → LeaseProgram op.Result} (h : c.Sound id s) (hv : s.Versioned)
    (busy : c.activity = some ⟨op, .ask call next⟩) :
    Answered id s (s.answer call).2 { c with
      activity := some ⟨op, next (s.answer call).1⟩
      renewed := renewedBy c.renewed call (s.answer call).1 } := by
  cases call with
  | get => exact h.ask_get hv busy
  | create spec => exact h.ask_create hv busy
  | replace lease => exact h.ask_replace hv busy
  | sleep span =>
    obtain ⟨_, _, ⟨hallowed, _⟩, _⟩ := h.busy _ _ busy
    exact hallowed.elim

end Candidate

/-! ### All elections -/

namespace Election

variable {e e' : Election}

/-- The version given last is the highest, and every elector is sound. -/
structure Consistent (e : Election) : Prop where
  versioned : e.server.Versioned
  sound : ∀ id, (e.candidates id).Sound id e.server

theorem Consistent.set (h : e.Consistent) {id : String} {c : Candidate}
    (hc : c.Sound id e.server) : (e.set id c).Consistent where
  versioned := h.versioned
  sound := by
    intro x
    show (if x = id then c else e.candidates x).Sound x e.server
    split
    next hx => exact hx ▸ hc
    next => exact h.sound x

/-- Each step keeps an election consistent. -/
theorem Consistent.step (h : e.Consistent) (hstep : Step e e') : e'.Consistent := by
  cases hstep with
  | tick later =>
    exact ⟨h.versioned, fun id => (h.sound id).spared
      (fun _ hs => hs.later rfl rfl later) (fun _ ht => ht.later rfl later)⟩
  | trouble faults races =>
    have hs : Alike e.server { e.server with faults, races } := ⟨rfl, rfl, rfl, rfl⟩
    exact ⟨h.versioned.alike hs, fun id => (h.sound id).spared
      (fun _ h => h.alike hs) (fun _ h => h.alike hs)⟩
  | begin id op => exact h.set ((h.sound id).begin op)
  | @ask id op call next busy =>
    have hanswered := (h.sound id).ask h.versioned busy
    refine ⟨hanswered.versioned, fun x => ?_⟩
    show Candidate.Sound x _ (if x = id then _ else e.candidates x)
    split
    next hx => exact hx ▸ hanswered.own
    next hx => exact hanswered.others x hx _ (h.sound x)
  | readClock busy => exact h.set ((h.sound _).readClock busy)
  | note busy =>
    obtain ⟨seen, hseen, hkeeps, hrelease, hwrote⟩ := (h.sound _).busy _ _ busy
    exact h.set ((h.sound _).goesOn hseen hkeeps hrelease hwrote)
  | finish busy => exact h.set ((h.sound _).finish busy)

/-- All elections that come about are consistent. -/
theorem Reachable.consistent (h : e.Reachable) : e.Consistent := by
  induction h with
  | initial h =>
    refine ⟨h.versioned, fun id => ?_⟩
    rw [h.candidates id]
    exact ⟨fun hleads => (nomatch hleads), fun _ _ hp => (nomatch hp)⟩
  | step h hstep ih => exact ih.step hstep

/-- No two electors lead at one time. -/
theorem leader_unique (h : e.Reachable) {x y : String} (hx : e.LeaderAt x) (hy : e.LeaderAt y) :
    x = y := by
  -- A leader has its name in the lease: its tenure has not been over for long enough.
  have hnamed : ∀ z, e.LeaderAt z → ∃ lease, e.server.lease = some lease ∧
      lease.holder? = some z := by
    intro z ⟨hleads, r, hr, hrecent⟩
    obtain ⟨r', hr', lease, hlease, _, hother⟩ := (h.consistent.sound z).leading hleads
    rw [hr] at hr'
    cases hr'
    refine ⟨lease, hlease, ?_⟩
    by_cases hholder : lease.holder? = some z
    · exact hholder
    · have := hother hholder
      omega
  obtain ⟨lease, hlease, hnamex⟩ := hnamed x hx
  obtain ⟨lease', hlease', hnamey⟩ := hnamed y hy
  rw [hlease] at hlease'
  cases hlease'
  exact Option.some.inj (hnamex.symm.trans hnamey)

/-- An election about a lease that is not there yet. -/
def fresh : Election := { server := { ns := "default", now := ⟨0, 0⟩ } }

/-- An elector that creates the lease leads, for fifteen seconds. After sixteen another one
takes the lease over and leads, and the first one, which has heard of nothing, does not. -/
theorem leader_unique_takeover : ∃ e e' : Election, e.Reachable ∧ e'.Reachable ∧
    e.server.now = ⟨15, 0⟩ ∧ e.LeaderAt "a" ∧ ¬ e.LeaderAt "b" ∧
    e'.server.now = ⟨16, 0⟩ ∧ (e'.candidates "a").leads = true ∧
    e'.LeaderAt "b" ∧ ¬ e'.LeaderAt "a" := by
  have hfresh : fresh.Initial := ⟨fun _ h => (nomatch h), fun _ => rfl⟩
  have h₁ := (Reachable.initial hfresh).step (.begin _ "a" .attempt)
  have h₂ := h₁.step (@Step.readClock _ "a" _ _ rfl)
  have h₃ := h₂.step (@Step.ask _ "a" _ _ _ rfl)
  have h₄ := h₃.step (@Step.ask _ "a" _ _ _ rfl)
  have h₅ := h₄.step (@Step.finish _ "a" _ _ rfl)
  have h₆ := h₅.step (@Step.tick _ ⟨15, 0⟩ (by decide))
  have h₇ := h₆.step (@Step.tick _ ⟨16, 0⟩ (by decide))
  have h₈ := h₇.step (.begin _ "b" .attempt)
  have h₉ := h₈.step (@Step.readClock _ "b" _ _ rfl)
  have h₁₀ := h₉.step (@Step.ask _ "b" _ _ _ rfl)
  have h₁₁ := h₁₀.step (@Step.ask _ "b" _ _ _ rfl)
  have h₁₂ := h₁₁.step (@Step.finish _ "b" _ _ rfl)
  obtain ⟨e, he, hnow, hleads, hrenewed⟩ : ∃ e : Election, e.Reachable ∧
      e.server.now = ⟨15, 0⟩ ∧ (e.candidates "a").leads = true ∧
      (e.candidates "a").renewed = some ⟨0, 0⟩ := ⟨_, h₆, rfl, rfl, rfl⟩
  obtain ⟨e', he', hnow', hstill, hleads', hrenewed'⟩ : ∃ e : Election, e.Reachable ∧
      e.server.now = ⟨16, 0⟩ ∧ (e.candidates "a").leads = true ∧
      (e.candidates "b").leads = true ∧ (e.candidates "b").renewed = some ⟨16, 0⟩ :=
    ⟨_, h₁₂, rfl, rfl, rfl, rfl⟩
  have ha : e.LeaderAt "a" := ⟨hleads, _, hrenewed, by rw [hnow]; decide⟩
  have hb : e'.LeaderAt "b" := ⟨hleads', _, hrenewed', by rw [hnow']; decide⟩
  exact ⟨e, e', he, he', hnow, ha, fun hb => absurd (leader_unique he ha hb) (by decide),
    hnow', hstill, hb, fun ha => absurd (leader_unique he' ha hb) (by decide)⟩

end Election

end CordonWatch
