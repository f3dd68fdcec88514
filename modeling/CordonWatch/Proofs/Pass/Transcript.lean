import CordonWatch.Proofs.Pass.Copying
import CordonWatch.Proofs.Pass.Stopping

/-!
# What a pass says

`Says` lists what a program may say whatever it is answered: the calls that it makes,
each with its answer, and the result that it ends with. No store is assumed, so this
holds of runs among other writers as well as of runs against a store in memory, and
what two programs say in a row is what the one says and then the other (`Says.bind`).

A pass says the same thing for one pod after the other (`Handles`): it looks for the
autoscaler of the pod; if there is one the status of the pod is written, unless the pod
announces its eviction already; and if that did not fail, the eviction is recorded on
the autoscaler, whether the status had to be written or not. `says_overNode` is that for
whole passes.

In particular a pass over pods that are all different writes the status of each of them
once at most, and of those alone that do not announce the eviction (`Handles.marks`).
-/

namespace CordonWatch

namespace Program

variable {Call : Type} {Answer : Call → Type} {α β σ : Type}

/-- The program may make these calls, where each is answered as it is here, and then
end with that result. -/
inductive Says : Program Call Answer α → List ((call : Call) × Answer call) → α → Prop where
  | done (a : α) : Says (.done a) [] a
  | ask {call : Call} {next : Answer call → Program Call Answer α} {answer : Answer call}
    {said : List ((call : Call) × Answer call)} {a : α} (h : Says (next answer) said a) :
    Says (.ask call next) (⟨call, answer⟩ :: said) a
  | readClock {next : Instant → Program Call Answer α} {now : Instant}
    {said : List ((call : Call) × Answer call)} {a : α} (h : Says (next now) said a) :
    Says (.readClock next) said a
  | note {entry : Note} {next : Program Call Answer α}
    {said : List ((call : Call) × Answer call)} {a : α} (h : Says next said a) :
    Says (.note entry next) said a

theorem says_dialogue (h : Handler Call Answer σ) (p : Program Call Answer α) (s : σ) :
    p.Says (p.dialogue h s) (p.run h s).1 := by
  induction p generalizing s with
  | done a => exact .done a
  | ask call next ih => exact .ask (ih _ _)
  | readClock next ih => exact .readClock (ih _ s)
  | note entry next ih => exact .note (ih _)

/-- What two programs say in a row is what the first says and then the second. -/
theorem Says.bind {p : Program Call Answer α} {f : α → Program Call Answer β}
    {said : List ((call : Call) × Answer call)} {b : β} (h : (p.bind f).Says said b) :
    ∃ first a second, said = first ++ second ∧ p.Says first a ∧ (f a).Says second b := by
  induction p generalizing said with
  | done a => exact ⟨[], a, said, rfl, .done a, h⟩
  | ask call next ih =>
    cases h with
    | @ask _ _ answer rest _ h =>
      obtain ⟨first, a, second, rfl, hfirst, hsecond⟩ := ih answer h
      exact ⟨⟨call, answer⟩ :: first, a, second, rfl, .ask hfirst, hsecond⟩
  | readClock next ih =>
    cases h with
    | @readClock _ now _ _ h =>
      obtain ⟨first, a, second, hsaid, hfirst, hsecond⟩ := ih now h
      exact ⟨first, a, second, hsaid, .readClock hfirst, hsecond⟩
  | note entry next ih =>
    cases h with
    | note h =>
      obtain ⟨first, a, second, hsaid, hfirst, hsecond⟩ := ih h
      exact ⟨first, a, second, hsaid, .note hfirst, hsecond⟩

/-- A program that keeps to a conduct makes calls that are allowed with something known. -/
theorem Keeps.speaks {κ : Type} {c : Conduct Call Answer κ} {fits : κ → α → Prop}
    {p : Program Call Answer α} {k : κ} (hp : p.Keeps c fits k)
    {said : List ((call : Call) × Answer call)} {a : α} (h : p.Says said a) :
    ∀ x ∈ said, ∃ known, c.allows known x.1 := by
  induction h generalizing k with
  | done => simp
  | ask _ ih =>
    obtain ⟨hcall, hnext⟩ := hp
    exact List.forall_mem_cons.mpr ⟨⟨k, hcall⟩, ih (hnext _)⟩
  | readClock _ ih => exact ih (hp _)
  | note _ ih => exact ih hp

end Program

/-! ### The announcement of a pod -/

/-- A pod announces its eviction if its first condition that announces a disruption is
true, for that reason, with that message, and was not probed. -/
theorem Pod.announces_iff (pod : Pod) :
    pod.Announces ↔ ∃ c, (pod.conditions.getD []).find? (·.type = PodCondition.disruptionTarget)
        = some c ∧ c.status = "True" ∧ c.reason = some "EvictionAttempt" ∧
      c.message = some "eviction attempt anticipated by node cordon" ∧ c.lastProbeTime = none := by
  constructor
  · rintro ⟨now, since, hfound⟩
    exact ⟨_, hfound, rfl, rfl, rfl, rfl⟩
  · rintro ⟨c, hfound, hstatus, hreason, hmessage, hprobe⟩
    have htype : c.type = PodCondition.disruptionTarget := by
      simpa using List.find?_some hfound
    refine ⟨default, c.lastTransitionTime, hfound.trans (congrArg some ?_)⟩
    cases c
    simp only at hstatus hreason hmessage hprobe htype
    rw [hstatus, hreason, hmessage, hprobe, htype]
    rfl

/-- Announcing an eviction leaves exactly those pods alone that announce it. -/
theorem Pod.unchanged_iff (now : Instant) (pod : Pod) :
    (pod.setCondition (.evictionAnticipated now)).2 = false ↔ pod.Announces := by
  constructor
  · intro hsame
    have hshown := pod.announces_marked now
    rwa [Pod.marked, hsame, if_neg Bool.false_ne_true] at hshown
  · rintro ⟨then', since, hfound⟩
    show ((PodCondition.evictionAnticipated now).set (pod.conditions.getD [])).2 = false
    rcases PodCondition.set_cases (.evictionAnticipated now) (pod.conditions.getD []) with
      ⟨hnone, -⟩ | ⟨before, c, after, hl, hc, hbefore, hset⟩
    · have hmem := List.mem_of_find?_eq_some hfound
      have hother := hnone _ hmem
      exact absurd rfl hother
    · -- The condition that is replaced is the one that was found, and has its time already.
      have hfirst : (pod.conditions.getD []).find? (·.type = PodCondition.disruptionTarget)
          = some c := by
        have hafter := PodCondition.find?_append_of_ne (l := c :: after) hbefore
        rw [List.find?_cons_of_pos (by simpa using hc)] at hafter
        exact (congrArg _ hl).trans hafter
      have hfoundc : c = { PodCondition.evictionAnticipated then' with
          lastTransitionTime := since } := Option.some.inj (hfirst.symm.trans hfound)
      rw [hset, hfoundc]
      exact decide_eq_false fun hne => hne rfl

/-- A pod announces its eviction once that was set. -/
theorem Pod.announces_setCondition (now : Instant) (pod : Pod) :
    (pod.setCondition (.evictionAnticipated now)).1.Announces := by
  by_cases hchanged : (pod.setCondition (.evictionAnticipated now)).2 = true
  · have hshown := pod.announces_marked now
    rw [Pod.marked, if_pos hchanged] at hshown
    exact hshown
  · have hsame := Bool.eq_false_iff.mpr hchanged
    obtain ⟨then', since, hfound⟩ := (Pod.unchanged_iff now pod).mp hsame
    refine ⟨then', since, ?_⟩
    rw [Pod.setCondition_fst]
    rw [← PodCondition.set_eq_self (l := pod.conditions.getD []) hsame] at hfound
    exact hfound

/-! ### What the parts of a pass say -/

namespace Store

/-- A program that gives up says nothing more. -/
theorem GivesUp.speaks {α : Type} {e : Failure} {p : Attempt α} (hp : GivesUp e p)
    {said : List Exchange} {result : Except Failure α} (h : p.Says said result) :
    said = [] ∧ result = .error e := by
  induction h with
  | done result => exact ⟨rfl, hp⟩
  | ask | readClock => exact hp.elim
  | note _ ih => exact ih hp

/-- A program that fails fast makes allowed calls only. -/
theorem FailsFast.speaks {α : Type} {allowed : Call → Prop} {p : Attempt α}
    (hp : FailsFast allowed p) {said : List Exchange} {result : Except Failure α}
    (h : p.Says said result) : ∀ x ∈ said, allowed x.1 := by
  induction h with
  | done => simp
  | @ask call next answer rest _ h ih =>
    obtain ⟨hcall, hfailed, hnext⟩ := hp
    refine List.forall_mem_cons.mpr ⟨hcall, ?_⟩
    cases answer with
    | error e =>
      rw [((hfailed e).speaks h).1]
      simp
    | ok result => exact ih (hnext result)
  | @readClock next now _ _ _ ih => exact ih (hp now)
  | note _ ih => exact ih hp

/-- A program that fails fast has either succeeded, and so have all its calls, or it has
ended with the failure of its last call, after calls that have all succeeded. -/
theorem FailsFast.ends {α : Type} {allowed : Call → Prop} {p : Attempt α}
    (hp : FailsFast allowed p) {said : List Exchange} {result : Except Failure α}
    (h : p.Says said result) :
    ((∃ a, result = .ok a) ∧ ∀ x ∈ said, x.Succeeded) ∨
      ∃ e before call, result = .error e ∧ said = before ++ [⟨call, .error e⟩] ∧
        ∀ x ∈ before, x.Succeeded := by
  induction h with
  | done result => exact Or.inl ⟨hp, by simp⟩
  | @ask call next answer rest _ h ih =>
    obtain ⟨-, hfailed, hnext⟩ := hp
    cases answer with
    | error e =>
      obtain ⟨rfl, rfl⟩ := (hfailed e).speaks h
      exact Or.inr ⟨e, [], call, rfl, rfl, by simp⟩
    | ok result =>
      rcases ih (hnext result) with ⟨hok, hall⟩ | ⟨e, before, call', herror, rfl, hall⟩
      · exact Or.inl ⟨hok, List.forall_mem_cons.mpr ⟨⟨result, rfl⟩, hall⟩⟩
      · exact Or.inr ⟨e, ⟨call, .ok result⟩ :: before, call', herror, rfl,
          List.forall_mem_cons.mpr ⟨⟨result, rfl⟩, hall⟩⟩
  | @readClock next now _ _ _ ih => exact ih (hp now)
  | note _ ih => exact ih hp

/-- A call of a program that fails fast is its last one if it fails, and its failure is
what the program ends with. -/
theorem FailsFast.last_of_failed {α : Type} {allowed : Call → Prop} {p : Attempt α}
    (hp : FailsFast allowed p) {said before after : List Exchange} {result : Except Failure α}
    (h : p.Says said result) {call : Call} {e : Failure}
    (hsaid : said = before ++ ⟨call, .error e⟩ :: after) : after = [] ∧ result = .error e := by
  have hfailed : ¬ Exchange.Succeeded ⟨call, .error e⟩ := by
    rintro ⟨_, hok⟩
    cases hok
  rcases hp.ends h with ⟨-, hall⟩ | ⟨e', before', call', hresult, hsaid', hall⟩
  · exact absurd (hall _ (hsaid ▸ by simp)) hfailed
  · rw [hsaid'] at hsaid
    rcases List.eq_nil_or_concat after with rfl | ⟨front, last, rfl⟩
    · obtain ⟨-, hlast⟩ := List.append_inj' hsaid rfl
      cases hlast
      exact ⟨rfl, hresult⟩
    · rw [List.concat_eq_append, ← List.cons_append, ← List.append_assoc] at hsaid
      obtain ⟨hfront, -⟩ := List.append_inj' hsaid rfl
      exact absurd (hall _ (hfront ▸ by simp)) hfailed

end Store

namespace Pass

open Store (Call Exchange)

/-- The exchange is one of a store that keeps objects at their places: what is stored
for an autoscaler stands where the autoscaler does, and the autoscalers that are listed
are of the namespace. -/
def InPlace : Exchange → Prop
  | ⟨.updateAutoscaler a, .ok stored⟩ => placeOf stored = placeOf a
  | ⟨.listAutoscalers ns, .ok listed⟩ => ∀ a ∈ listed, a.metadata.ns = some ns
  | _ => True

/-- What is remembered of an autoscaler stands where the autoscaler does. -/
def WrittenInPlace (written : Written) : Prop :=
  ∀ ns name a, written.find? ⟨ns, name⟩ = some a → placeOf a = ⟨some ns, name⟩

/-- The step at the status of a pod is passed: nothing is said if the pod announces its
eviction, and otherwise the announcement is written. -/
inductive Announced (pod : Pod) : List Exchange → Prop where
  | already (h : pod.Announces) : Announced pod []
  | written (h : ¬ pod.Announces) (now : Instant) :
    Announced pod
      [⟨.updatePodStatus (pod.setCondition (.evictionAnticipated now)).1, .ok ()⟩]

/-- The call records the eviction of the pod on the autoscaler of that place. -/
def RecordsOn (place : Place) (pod : Pod) (call : Call) : Prop :=
  ∃ (latest : Autoscaler) (now : Instant), placeOf latest = place ∧
    call = .updateAutoscaler (latest.noting pod now)

/-- What is said while pods are handled in turn. The pass goes on with the next pod when
one has no autoscaler or its eviction was recorded, and ends where a call failed. -/
inductive Handles (order : PolicyOrder) : List Pod → List Exchange → Prop where
  | none : Handles order [] []
  | unread {pod : Pod} {rest : List Pod} {reads : List Exchange} {e : Failure}
    (search : (findPolicy order pod).Says reads (.error e)) : Handles order (pod :: rest) reads
  | ungoverned {pod : Pod} {rest : List Pod} {reads later : List Exchange}
    (search : (findPolicy order pod).Says reads (.ok none)) (after : Handles order rest later) :
    Handles order (pod :: rest) (reads ++ later)
  | unmarked {pod : Pod} {rest : List Pod} {reads : List Exchange} {policy : Autoscaler}
    (search : (findPolicy order pod).Says reads (.ok (some policy))) (new : ¬ pod.Announces)
    (now : Instant) (e : Failure) :
    Handles order (pod :: rest) (reads ++
      [⟨.updatePodStatus (pod.setCondition (.evictionAnticipated now)).1, .error e⟩])
  | unrecorded {pod : Pod} {rest : List Pod} {reads step : List Exchange} {policy a : Autoscaler}
    (search : (findPolicy order pod).Says reads (.ok (some policy))) (marked : Announced pod step)
    (attempt : RecordsOn (placeOf policy) pod (.updateAutoscaler a)) (e : Failure) :
    Handles order (pod :: rest) (reads ++ (step ++ [⟨.updateAutoscaler a, .error e⟩]))
  | recorded {pod : Pod} {rest : List Pod} {reads step later : List Exchange}
    {policy a : Autoscaler}
    (search : (findPolicy order pod).Says reads (.ok (some policy))) (marked : Announced pod step)
    (attempt : RecordsOn (placeOf policy) pod (.updateAutoscaler a)) (stored : Autoscaler)
    (after : Handles order rest later) :
    Handles order (pod :: rest) (reads ++ (step ++ ⟨.updateAutoscaler a, .ok stored⟩ :: later))

/-- What a pass says: it reads the node, and if the node is cordoned it reads the pods
of the node and handles them. -/
inductive Transcript (order : PolicyOrder) (name : String) : List Exchange → Prop where
  | unseen {answer : Call.Answer (.getNode name)}
    (h : ∀ node, answer = .ok (some node) → node.isCordoned = false) :
    Transcript order name [⟨.getNode name, answer⟩]
  | unlisted {node : Node} (cordoned : node.isCordoned = true) (e : Failure) :
    Transcript order name
      [⟨.getNode name, .ok (some node)⟩, ⟨.podsOnNode name, .error e⟩]
  | handled {node : Node} (cordoned : node.isCordoned = true) {pods : List Pod}
    {said : List Exchange} (h : Handles order pods said) :
    Transcript order name
      (⟨.getNode name, .ok (some node)⟩ :: ⟨.podsOnNode name, .ok pods⟩ :: said)

theorem says_firstGoverning {ns : String} {labels : Table String String} {l : List Autoscaler}
    {said : List Exchange} {a : Autoscaler}
    (h : (firstGoverning ns labels l).Says said (.ok (some a))) : a ∈ l := by
  induction l generalizing said with
  | nil => cases h
  | cons candidate rest ih =>
    cases h with
    | @ask _ _ answer _ _ h =>
      match answer with
      | .error e => cases h
      | .ok none =>
        cases h with
        | note h => exact List.mem_cons_of_mem _ (ih h)
      | .ok (some budget) =>
        dsimp only at h
        split at h
        · cases h with
          | note h => exact List.mem_cons_of_mem _ (ih h)
        · split at h
          · cases h
            exact List.mem_cons_self ..
          · exact List.mem_cons_of_mem _ (ih h)

/-- The autoscaler that is found for a pod is one of its namespace. -/
theorem says_findPolicy {order : PolicyOrder} {pod : Pod} {said : List Exchange} {a : Autoscaler}
    (h : (findPolicy order pod).Says said (.ok (some a))) (hplace : ∀ x ∈ said, InPlace x) :
    a.metadata.ns = some pod.nsOrDefault := by
  cases h with
  | @ask _ _ answer _ _ h =>
    match answer with
    | .error e => cases h
    | .ok listed =>
      have hlisted : ∀ b ∈ listed, b.metadata.ns = some pod.nsOrDefault :=
        hplace _ (List.mem_cons_self ..)
      obtain ⟨first, result, second, -, hfirst, hsecond⟩ := h.bind
      match result with
      | .error e => cases hsecond
      | .ok none =>
        cases hsecond with
        | note hsecond => cases hsecond
      | .ok (some found) =>
        cases hsecond
        exact hlisted a (PolicyOrder.mem_arrange.mp (says_firstGoverning hfirst))

theorem says_markPod {ns : String} {pod : Pod} {said : List Exchange}
    {result : Except Failure Unit} (h : (markPod ns pod).Says said result) :
    (result = .ok () ∧ Announced pod said) ∨
      ∃ e now, result = .error e ∧ ¬ pod.Announces ∧
        said = [⟨.updatePodStatus (pod.setCondition (.evictionAnticipated now)).1, .error e⟩] := by
  cases h with
  | @readClock _ now _ _ h =>
    dsimp only at h
    split at h
    next hchanged =>
      have hnew : ¬ pod.Announces := by
        intro hshown
        rw [(Pod.unchanged_iff now pod).mpr hshown] at hchanged
        cases hchanged
      cases h with
      | @ask _ _ answer _ _ h =>
        match answer with
        | .error e =>
          cases h with
          | note h =>
            cases h
            exact Or.inr ⟨e, now, rfl, hnew, rfl⟩
        | .ok () =>
          cases h
          exact Or.inl ⟨rfl, .written hnew now⟩
    next hsame =>
      cases h
      exact Or.inl ⟨rfl, .already ((Pod.unchanged_iff now pod).mp (Bool.eq_false_iff.mpr hsame))⟩

theorem says_recordEviction {ns : String} {pod : Pod} {policy : Autoscaler} {written : Written}
    {said : List Exchange} {result : Except Failure Written}
    (h : (recordEviction ns pod policy written).Says said result) :
    ∃ now a, a = ((written.find? ⟨ns, policy.name⟩).getD policy).noting pod now ∧
      ((∃ e, result = .error e ∧ said = [⟨.updateAutoscaler a, .error e⟩]) ∨
        ∃ stored, result = .ok (written.insert ⟨ns, policy.name⟩ stored) ∧
          said = [⟨.updateAutoscaler a, .ok stored⟩]) := by
  cases h with
  | @readClock _ now _ _ h =>
    refine ⟨now, _, rfl, ?_⟩
    cases h with
    | @ask _ _ answer _ _ h =>
      match answer with
      | .error e =>
        cases h with
        | note h =>
          cases h
          exact Or.inl ⟨e, rfl, rfl⟩
      | .ok stored =>
        cases h
        exact Or.inr ⟨stored, rfl, rfl⟩

theorem writtenInPlace_empty : WrittenInPlace Table.empty := by
  intro ns name a ha
  rw [Table.find?_empty] at ha
  cases ha

/-- What is stored for an autoscaler is remembered at its place. -/
theorem WrittenInPlace.insert {written : Written} (h : WrittenInPlace written) {ns name : String}
    {stored : Autoscaler} (hplace : placeOf stored = ⟨some ns, name⟩) :
    WrittenInPlace (written.insert ⟨ns, name⟩ stored) := by
  intro ns' name' a ha
  rw [Table.find?_insert] at ha
  split at ha
  next hkey =>
    cases hkey
    cases ha
    exact hplace
  next => exact h ns' name' a ha

/-- What is said for a pod that has an autoscaler, and what is remembered then. The status
step fails, or it is passed and the attempt follows to record the eviction on what the pass
has written last of the autoscaler, which may fail in turn. -/
theorem says_handlePod_written {node : String} {pod : Pod} {policy : Autoscaler}
    {written : Written} {said : List Exchange} {result : Except Failure Written}
    (h : (handlePod node pod policy written).Says said result) :
    (∃ e now, result = .error e ∧ ¬ pod.Announces ∧
      said = [⟨.updatePodStatus (pod.setCondition (.evictionAnticipated now)).1, .error e⟩]) ∨
    ∃ step now a, Announced pod step ∧
      a = ((written.find? ⟨pod.nsOrDefault, policy.name⟩).getD policy).noting pod now ∧
      ((∃ e, result = .error e ∧ said = step ++ [⟨.updateAutoscaler a, .error e⟩]) ∨
        ∃ stored, result = .ok (written.insert ⟨pod.nsOrDefault, policy.name⟩ stored) ∧
          said = step ++ [⟨.updateAutoscaler a, .ok stored⟩]) := by
  -- Two notes come before the pod is marked.
  cases h with
  | note h =>
    cases h with
    | note h =>
      obtain ⟨step, marked, recording, rfl, hmark, hrecord⟩ := Program.Says.bind h
      rcases says_markPod hmark with ⟨rfl, hmarked⟩ | ⟨e, now, rfl, hnew, rfl⟩
      · obtain ⟨now, a, ha, hends⟩ := says_recordEviction hrecord
        refine Or.inr ⟨step, now, a, hmarked, ha, ?_⟩
        rcases hends with ⟨e, rfl, rfl⟩ | ⟨stored, rfl, rfl⟩
        · exact Or.inl ⟨e, rfl, rfl⟩
        · exact Or.inr ⟨stored, rfl, rfl⟩
      · cases hrecord
        exact Or.inl ⟨e, now, rfl, hnew, rfl⟩

/-- What is remembered of an autoscaler, or the copy in the cache, stands at its place. -/
theorem WrittenInPlace.latest {written : Written} (h : WrittenInPlace written) {ns : String}
    {policy : Autoscaler} (hpolicy : placeOf policy = ⟨some ns, policy.name⟩) :
    placeOf ((written.find? ⟨ns, policy.name⟩).getD policy) = placeOf policy := by
  cases hfound : written.find? ⟨ns, policy.name⟩ with
  | none => rfl
  | some latest => exact (h _ _ latest hfound).trans hpolicy.symm

/-- Where objects keep their places, the attempt to record the eviction is made at the place
of the autoscaler, and what is remembered then stands at its place again. -/
theorem says_handlePod {node : String} {pod : Pod} {policy : Autoscaler} {written : Written}
    {said : List Exchange} {result : Except Failure Written}
    (h : (handlePod node pod policy written).Says said result)
    (hpolicy : placeOf policy = ⟨some pod.nsOrDefault, policy.name⟩)
    (hwritten : WrittenInPlace written) :
    (∃ e now, result = .error e ∧ ¬ pod.Announces ∧
      said = [⟨.updatePodStatus (pod.setCondition (.evictionAnticipated now)).1, .error e⟩]) ∨
    ∃ step a, Announced pod step ∧ RecordsOn (placeOf policy) pod (.updateAutoscaler a) ∧
      ((∃ e, result = .error e ∧ said = step ++ [⟨.updateAutoscaler a, .error e⟩]) ∨
        ∃ stored written', result = .ok written' ∧
          said = step ++ [⟨.updateAutoscaler a, .ok stored⟩] ∧
          (placeOf stored = placeOf a → WrittenInPlace written')) := by
  refine (says_handlePod_written h).imp_right ?_
  rintro ⟨step, now, a, hmarked, ha, hends⟩
  have hlatest := hwritten.latest hpolicy
  refine ⟨step, a, hmarked, ⟨_, now, hlatest, congrArg Call.updateAutoscaler ha⟩, ?_⟩
  refine hends.imp_right ?_
  rintro ⟨stored, hresult, hsaid⟩
  refine ⟨stored, _, hresult, hsaid, fun hstored => hwritten.insert ?_⟩
  rw [hstored, ha]
  exact hlatest.trans hpolicy

/-- What is said while pods are handled, where the store keeps objects at their places. -/
theorem says_handlePods (order : PolicyOrder) (node : String) (pods : List Pod) :
    ∀ {written : Written} {changed : Bool} {said : List Exchange} {result : Except Failure Bool},
      (handlePods order node pods written changed).Says said result →
      (∀ x ∈ said, InPlace x) → WrittenInPlace written → Handles order pods said := by
  induction pods with
  | nil =>
    intro written changed said result h _ _
    cases h
    exact .none
  | cons pod rest ih =>
    intro written changed said result h hplace hwritten
    obtain ⟨reads, found, later, rfl, hsearch, hgoes⟩ := Program.Says.bind h
    obtain ⟨hreads, hlater⟩ := List.forall_mem_append.mp hplace
    match found with
    | .error e =>
      cases hgoes
      rw [List.append_nil]
      exact .unread hsearch
    | .ok none => exact .ungoverned hsearch (ih hgoes hlater hwritten)
    | .ok (some policy) =>
      have hpolicy : placeOf policy = ⟨some pod.nsOrDefault, policy.name⟩ :=
        Place.ext (says_findPolicy hsearch hreads) rfl
      obtain ⟨handling, handled, later, rfl, hhandling, hends⟩ := Program.Says.bind hgoes
      rcases says_handlePod hhandling hpolicy hwritten with ⟨e, now, rfl, hnew, rfl⟩ |
        ⟨step, a, hmarked, hattempt, ⟨e, rfl, rfl⟩ | ⟨stored, written', rfl, rfl, hwritten'⟩⟩
      · cases hends
        rw [List.append_nil]
        exact .unmarked hsearch hnew now e
      · cases hends
        rw [List.append_nil]
        exact .unrecorded hsearch hmarked hattempt e
      · obtain ⟨hrecorded, hrest⟩ := List.forall_mem_append.mp hlater
        have hstored : placeOf stored = placeOf a :=
          hrecorded ⟨.updateAutoscaler a, .ok stored⟩ (by simp)
        have hnext := ih hends hrest (hwritten' hstored)
        rw [List.append_assoc, List.singleton_append]
        exact .recorded hsearch hmarked hattempt stored hnext

/-- A pass reads the node, and if the node is cordoned the pods of the node. What it says
then is what is said while these are handled. -/
theorem says_overNode_cases {config : Config} {name : String} {said : List Exchange}
    {result : Except Failure Outcome} (h : (overNode config name).Says said result) :
    (∃ answer : Call.Answer (.getNode name), said = [⟨.getNode name, answer⟩] ∧
      ∀ node, answer = .ok (some node) → node.isCordoned = false) ∨
    ∃ node, node.isCordoned = true ∧
      ((∃ e, said = [⟨.getNode name, .ok (some node)⟩, ⟨.podsOnNode name, .error e⟩]) ∨
        ∃ pods rest changed,
          said = ⟨.getNode name, .ok (some node)⟩ :: ⟨.podsOnNode name, .ok pods⟩ :: rest ∧
          (handlePods config.order name pods Table.empty false).Says rest changed) := by
  cases h with
  | @ask _ _ answer _ _ h =>
    match answer with
    | .error e =>
      cases h
      exact Or.inl ⟨_, rfl, by simp⟩
    | .ok none =>
      cases h with
      | note h =>
        cases h
        exact Or.inl ⟨_, rfl, by simp⟩
    | .ok (some node) =>
      dsimp only at h
      split at h
      next hcordoned =>
        cases h
        refine Or.inl ⟨_, rfl, fun node' hnode => ?_⟩
        cases hnode
        simpa using hcordoned
      next hcordoned =>
        refine Or.inr ⟨node, by simpa using hcordoned, ?_⟩
        cases h with
        | note h =>
          cases h with
          | note h =>
            cases h with
            | @ask _ _ answer _ _ h =>
              match answer with
              | .error e =>
                cases h
                exact Or.inl ⟨e, rfl⟩
              | .ok pods =>
                obtain ⟨said, handled, end', rfl, hsaid, hend⟩ := Program.Says.bind h
                have hnothing : end' = [] := by
                  match handled with
                  | .error e =>
                    cases hend
                    rfl
                  | .ok changed =>
                    dsimp only at hend
                    split at hend
                    · cases hend
                      rfl
                    · cases hend
                      rfl
                subst hnothing
                exact Or.inr ⟨pods, said, handled, by rw [List.append_nil], hsaid⟩

/-- What a pass says, where the store keeps objects at their places. -/
theorem says_overNode {config : Config} {name : String} {said : List Exchange}
    {result : Except Failure Outcome} (h : (overNode config name).Says said result)
    (hplace : ∀ x ∈ said, InPlace x) : Transcript config.order name said := by
  rcases says_overNode_cases h with ⟨answer, rfl, hunseen⟩ |
    ⟨node, hcordoned, ⟨e, rfl⟩ | ⟨pods, rest, changed, rfl, hrest⟩⟩
  · exact .unseen hunseen
  · exact .unlisted hcordoned e
  · refine .handled hcordoned (says_handlePods _ _ _ hrest (fun x hx => ?_) writtenInPlace_empty)
    exact hplace x (List.mem_cons_of_mem _ (List.mem_cons_of_mem _ hx))

/-! ### How often the status of a pod is written -/

/-- The exchange writes the status of the pod at the place. -/
def marksAt (place : Place) : Exchange → Bool
  | ⟨.updatePodStatus pod, .ok ()⟩ => placeOf pod = place
  | _ => false

theorem marksAt_of_read {place : Place} {x : Exchange} (h : x.1.target? = none) :
    marksAt place x = false := by
  obtain ⟨call, answer⟩ := x
  cases call with
  | updatePodStatus | updateAutoscaler => cases h
  | getNode | podsOnNode | listAutoscalers | getBudget => rfl

theorem countP_search {order : PolicyOrder} {pod : Pod} {said : List Exchange}
    {result : Except Failure (Option Autoscaler)} (h : (findPolicy order pod).Says said result)
    (place : Place) : said.countP (marksAt place) = 0 := by
  rw [List.countP_eq_zero]
  intro x hx
  rw [marksAt_of_read ((failsFast_findPolicy order pod).speaks h x hx).target?]
  exact Bool.false_ne_true

/-- Passing the status step of a pod writes at the place of the pod alone, once at most,
and only if the pod does not announce its eviction. -/
theorem Announced.marks {pod : Pod} {step : List Exchange} (h : Announced pod step)
    (place : Place) : step.countP (marksAt place) = 0 ∨
      step.countP (marksAt place) = 1 ∧ placeOf pod = place ∧ ¬ pod.Announces := by
  cases h with
  | already => exact Or.inl rfl
  | written hnew now =>
    by_cases hplace : placeOf pod = place
    · refine Or.inr ⟨?_, hplace, hnew⟩
      rw [List.countP_cons_of_pos]
      · rfl
      · exact decide_eq_true hplace
    · refine Or.inl ?_
      rw [List.countP_cons_of_neg]
      · rfl
      · exact Bool.eq_false_iff.mp (decide_eq_false hplace)

/-- Of pods that are all different each is written once at most, and only if it does not
announce its eviction. -/
theorem Handles.marks {order : PolicyOrder} {pods : List Pod} {said : List Exchange}
    (h : Handles order pods said) (hnodup : (Store.Shelf.places pods).Nodup) (place : Place) :
    said.countP (marksAt place) = 0 ∨
      said.countP (marksAt place) = 1 ∧ ∃ pod ∈ pods, placeOf pod = place ∧ ¬ pod.Announces := by
  induction h with
  | none => exact Or.inl rfl
  | unread search => exact Or.inl (countP_search search place)
  | ungoverned search after ih =>
    rw [List.countP_append, countP_search search, Nat.zero_add]
    refine (ih (List.nodup_cons.mp hnodup).2).imp_right ?_
    rintro ⟨hone, pod, hpod, hnew⟩
    exact ⟨hone, pod, List.mem_cons_of_mem _ hpod, hnew⟩
  | unmarked search new now e =>
    rw [List.countP_append, countP_search search, Nat.zero_add]
    exact Or.inl rfl
  | @unrecorded pod rest reads step policy a search marked attempt e =>
    rw [List.countP_append, countP_search search, Nat.zero_add, List.countP_append]
    refine (marked.marks place).imp id ?_
    rintro ⟨hone, hpod, hnew⟩
    exact ⟨congrArg (· + 0) hone, pod, List.mem_cons_self .., hpod, hnew⟩
  | @recorded pod rest reads step later policy a search marked attempt stored after ih =>
    obtain ⟨hfirst, hrest⟩ := List.nodup_cons.mp (show (placeOf pod :: _).Nodup from hnodup)
    rw [List.countP_append, countP_search search, Nat.zero_add, List.countP_append,
      List.countP_cons_of_neg Bool.false_ne_true]
    rcases marked.marks place with hstep | ⟨hstep, hpod, hnew⟩
    · rw [hstep, Nat.zero_add]
      refine (ih hrest).imp_right ?_
      rintro ⟨hone, other, hother, hnew⟩
      exact ⟨hone, other, List.mem_cons_of_mem _ hother, hnew⟩
    · -- No other pod stands at the place of the one that was written.
      rcases ih hrest with hlater | ⟨-, other, hother, hplace, -⟩
      · rw [hstep, hlater]
        exact Or.inr ⟨rfl, pod, List.mem_cons_self .., hpod, hnew⟩
      · have hmem : placeOf other ∈ Store.Shelf.places rest := List.mem_map_of_mem hother
        rw [hplace, ← hpod] at hmem
        exact absurd hmem hfirst

/-- What a pass writes as the status of a pod announces its eviction. -/
theorem announces_of_says {config : Config} {name : String} {said : List Exchange}
    {result : Except Failure Outcome} (h : (overNode config name).Says said result) {pod : Pod}
    {answer : Call.Answer (.updatePodStatus pod)} (hx : ⟨.updatePodStatus pod, answer⟩ ∈ said) :
    pod.Announces := by
  obtain ⟨known, copy, now, -, rfl⟩ := (keeps_overNode config name).speaks h _ hx
  exact copy.announces_setCondition now

end Pass

end CordonWatch
