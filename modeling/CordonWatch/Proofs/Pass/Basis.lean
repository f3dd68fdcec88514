import CordonWatch.Proofs.Pass.Transcript
import CordonWatch.Proofs.Split

/-!
# What the writes of a pass are based on

Each write of a pass is for a pod of its node, and comes right after an autoscaler was
found for that pod. A status is written over the copy of the pod that the pass was shown.
The record of an eviction is built on what the store has answered last to a write of the
autoscaler, and on the copy that was found if the pass has not written it yet
(`Based`, `based_overNode`).

The pass remembers answers in a table by key, and says nothing of the table. What the table
holds can be read off what was said so far (`Remembers`): that is the invariant of the loop
over the pods.
-/

namespace CordonWatch.Pass

open Store (Call Exchange)

/-- What was stored last for the autoscaler at a place, if anything was. -/
def lastStored (place : Place) (said : List Exchange) : Option Autoscaler :=
  said.reverse.findSome? fun
    | ⟨.updateAutoscaler a, .ok stored⟩ => if placeOf a = place then some stored else none
    | _ => none

/-- What a write for a pod is based on, after some exchanges. -/
inductive Based (order : PolicyOrder) (pod : Pod) (before : List Exchange) : Call → Prop where
  /-- An autoscaler was found, and the pod does not announce its eviction yet. -/
  | status {earlier reads : List Exchange} {policy : Autoscaler} (split : before = earlier ++ reads)
    (search : (findPolicy order pod).Says reads (.ok (some policy))) (new : ¬ pod.Announces)
    (now : Instant) :
    Based order pod before (.updatePodStatus (pod.setCondition (.evictionAnticipated now)).1)
  /-- An autoscaler was found, and the step at the status of the pod was passed. -/
  | record {earlier reads step : List Exchange} {policy : Autoscaler}
    (split : before = earlier ++ (reads ++ step))
    (search : (findPolicy order pod).Says reads (.ok (some policy))) (marked : Announced pod step)
    (now : Instant) :
    Based order pod before
      (.updateAutoscaler (((lastStored (placeOf policy) before).getD policy).noting pod now))

/-! ### What was stored last -/

theorem lastStored_append (place : Place) (said later : List Exchange) :
    lastStored place (said ++ later) = (lastStored place later).or (lastStored place said) := by
  rw [lastStored, List.reverse_append, List.findSome?_append]
  rfl

theorem lastStored_singleton_of_read {place : Place} {x : Exchange} (h : x.1.target? = none) :
    lastStored place [x] = none := by
  obtain ⟨call, answer⟩ := x
  cases call with
  | updatePodStatus | updateAutoscaler => cases h
  | getNode | podsOnNode | listAutoscalers | getBudget => rfl

theorem lastStored_of_reads {place : Place} {said : List Exchange}
    (h : ∀ x ∈ said, x.1.target? = none) : lastStored place said = none := by
  induction said with
  | nil => rfl
  | cons x rest ih =>
    obtain ⟨hx, hrest⟩ := List.forall_mem_cons.mp h
    rw [← List.singleton_append, lastStored_append, ih hrest, lastStored_singleton_of_read hx]
    rfl

theorem lastStored_of_search {order : PolicyOrder} {pod : Pod} {reads : List Exchange}
    {result : Except Failure (Option Autoscaler)} (h : (findPolicy order pod).Says reads result)
    (place : Place) : lastStored place reads = none :=
  lastStored_of_reads fun x hx => ((failsFast_findPolicy order pod).speaks h x hx).target?

theorem Announced.lastStored_eq {pod : Pod} {step : List Exchange} (h : Announced pod step)
    (place : Place) : lastStored place step = none := by
  cases h with
  | already => rfl
  | written => rfl

theorem lastStored_accepted (place : Place) (a stored : Autoscaler) :
    lastStored place [⟨.updateAutoscaler a, .ok stored⟩]
      = if placeOf a = place then some stored else none := by
  rw [lastStored, List.reverse_singleton, List.findSome?_singleton]

/-- Where objects keep their places, what was stored last stands at the place. -/
theorem placeOf_lastStored {place : Place} {said : List Exchange} {stored : Autoscaler}
    (hplace : ∀ x ∈ said, InPlace x) (h : lastStored place said = some stored) :
    placeOf stored = place := by
  obtain ⟨⟨call, answer⟩, hx, hstored⟩ := List.exists_of_findSome?_eq_some h
  have hkept := hplace _ (List.mem_reverse.mp hx)
  cases call with
  | getNode | podsOnNode | listAutoscalers | getBudget | updatePodStatus => cases hstored
  | updateAutoscaler a =>
    cases answer with
    | error e => cases hstored
    | ok stored' =>
      dsimp only at hstored
      split at hstored
      next hat =>
        cases hstored
        exact hkept.trans hat
      next => cases hstored

/-! ### The loop over the pods -/

/-- What a pass remembers is what was stored last, by what it has said. -/
def Remembers (written : Written) (said : List Exchange) : Prop :=
  ∀ ns name, written.find? ⟨ns, name⟩ = lastStored ⟨some ns, name⟩ said

theorem Remembers.append {written : Written} {said later : List Exchange}
    (h : Remembers written said) (hlater : ∀ place, lastStored place later = none) :
    Remembers written (said ++ later) := by
  intro ns name
  rw [lastStored_append, hlater, Option.none_or]
  exact h ns name

/-- What is stored is remembered by the key of the place at which it was written. -/
theorem Remembers.insert {written : Written} {said : List Exchange} (h : Remembers written said)
    {ns name : String} {a stored : Autoscaler} (hplace : placeOf a = ⟨some ns, name⟩) :
    Remembers (written.insert ⟨ns, name⟩ stored) (said ++ [⟨.updateAutoscaler a, .ok stored⟩]) := by
  intro ns' name'
  rw [lastStored_append, lastStored_accepted, hplace, Table.find?_insert]
  by_cases hkey : (⟨ns, name⟩ : ObjectKey) = ⟨ns', name'⟩
  · cases hkey
    rw [if_pos rfl, if_pos rfl]
    rfl
  · have hne : (⟨some ns, name⟩ : Place) ≠ ⟨some ns', name'⟩ := by
      intro heq
      cases heq
      exact hkey rfl
    rw [if_neg hkey, if_neg hne]
    exact h ns' name'

section

variable {order : PolicyOrder} {node : String} {pod : Pod} {policy : Autoscaler}
  {written : Written} {earlier reads said : List Exchange}

/-- The writes for a pod are based on the autoscaler found for it, and on what is
remembered. -/
theorem based_handlePod {result : Except Failure Written}
    (h : (handlePod node pod policy written).Says said result)
    (hsearch : (findPolicy order pod).Says reads (.ok (some policy)))
    (hpolicy : placeOf policy = ⟨some pod.nsOrDefault, policy.name⟩)
    (hremembers : Remembers written (earlier ++ reads)) {front after : List Exchange}
    {x : Exchange} (hsaid : said = front ++ x :: after) :
    Based order pod (earlier ++ (reads ++ front)) x.1 := by
  rcases says_handlePod_written h with
    ⟨e, now, -, hnew, rfl⟩ | ⟨step, now, a, hmarked, ha, hends⟩
  · obtain ⟨rfl, rfl⟩ := singleton_eq_append_cons hsaid
    exact .status (by rw [List.append_nil]) hsearch hnew now
  · -- Whatever is answered, the record of the eviction is the last call.
    obtain ⟨answer, hlast⟩ : ∃ answer, said = step ++ [⟨.updateAutoscaler a, answer⟩] := by
      rcases hends with ⟨e, -, hsaid⟩ | ⟨stored, -, hsaid⟩
      · exact ⟨_, hsaid⟩
      · exact ⟨_, hsaid⟩
    rcases append_eq_append_cons (hlast.symm.trans hsaid) with ⟨others, hstep⟩ | ⟨rest, rfl, hrest⟩
    · cases hmarked with
      | already =>
        exact absurd hstep.symm (List.append_ne_nil_of_right_ne_nil _ (List.cons_ne_nil _ _))
      | written hnew now =>
        obtain ⟨rfl, rfl⟩ := singleton_eq_append_cons hstep
        exact .status (by rw [List.append_nil]) hsearch hnew now
    · obtain ⟨rfl, rfl⟩ := singleton_eq_append_cons hrest
      have hlatest : written.find? ⟨pod.nsOrDefault, policy.name⟩
          = lastStored (placeOf policy) (earlier ++ (reads ++ (step ++ []))) := by
        rw [hpolicy, List.append_nil, ← List.append_assoc]
        exact hremembers.append hmarked.lastStored_eq _ _
      rw [ha, hlatest]
      exact .record (by rw [List.append_nil]) hsearch hmarked now

/-- Where objects keep their places, what is remembered after a pod is what was stored last
again. -/
theorem remembers_handlePod {written' : Written}
    (h : (handlePod node pod policy written).Says said (.ok written'))
    (hpolicy : placeOf policy = ⟨some pod.nsOrDefault, policy.name⟩)
    (hwritten : WrittenInPlace written) (hplace : ∀ x ∈ said, InPlace x)
    (hremembers : Remembers written earlier) :
    WrittenInPlace written' ∧ Remembers written' (earlier ++ said) := by
  rcases says_handlePod_written h with
    ⟨e, now, herror, -, -⟩ | ⟨step, now, a, hmarked, ha, ⟨e, herror, -⟩ | ⟨stored, hok, hsaid⟩⟩
  · cases herror
  · cases herror
  · cases hok
    have hat : placeOf a = ⟨some pod.nsOrDefault, policy.name⟩ := by
      rw [ha]
      exact (hwritten.latest hpolicy).trans hpolicy
    have hstored : placeOf stored = placeOf a :=
      hplace ⟨.updateAutoscaler a, .ok stored⟩ (hsaid ▸ by simp)
    refine ⟨hwritten.insert (hstored.trans hat), ?_⟩
    rw [hsaid, ← List.append_assoc]
    exact (hremembers.append hmarked.lastStored_eq).insert hat

end

/-- What is said while the pods are handled that follow some exchanges: each write is for
one of the pods, and based on what was said before it. -/
theorem based_handlePods (order : PolicyOrder) (node : String) (pods : List Pod) :
    ∀ {written : Written} {changed : Bool} {earlier said : List Exchange}
      {result : Except Failure Bool},
      (handlePods order node pods written changed).Says said result →
      (∀ x ∈ said, InPlace x) → WrittenInPlace written → Remembers written earlier →
      ∀ {before after : List Exchange} {x : Exchange}, said = before ++ x :: after →
        x.1.target? ≠ none → ∃ pod ∈ pods, Based order pod (earlier ++ before) x.1 := by
  induction pods with
  | nil =>
    intro written changed earlier said result h _ _ _ before after x hsaid
    cases h
    exact absurd hsaid.symm (List.append_ne_nil_of_right_ne_nil _ (List.cons_ne_nil _ _))
  | cons pod rest ih =>
    intro written changed earlier said result h hplace hwritten hremembers before after x hsaid
      hwrite
    obtain ⟨reads, found, later, rfl, hsearch, hgoes⟩ := Program.Says.bind h
    obtain ⟨hplaceReads, hplaceLater⟩ := List.forall_mem_append.mp hplace
    -- The search only reads, so the write comes after it.
    rcases append_eq_append_cons hsaid with ⟨others, hreads⟩ | ⟨front, rfl, hlater⟩
    · have hx : x ∈ reads := hreads ▸ by simp
      exact absurd ((failsFast_findPolicy order pod).speaks hsearch x hx).target? hwrite
    have hremembers' := hremembers.append (lastStored_of_search hsearch)
    rcases found with e | _ | policy
    · cases hgoes
      exact absurd hlater.symm (List.append_ne_nil_of_right_ne_nil _ (List.cons_ne_nil _ _))
    · obtain ⟨p, hp, hbased⟩ := ih hgoes hplaceLater hwritten hremembers' hlater hwrite
      exact ⟨p, List.mem_cons_of_mem _ hp, by rwa [List.append_assoc] at hbased⟩
    · have hpolicy : placeOf policy = ⟨some pod.nsOrDefault, policy.name⟩ :=
        Place.ext (says_findPolicy hsearch hplaceReads) rfl
      obtain ⟨handling, handled, later, rfl, hhandling, hends⟩ := Program.Says.bind hgoes
      obtain ⟨hplaceHandling, hplaceRest⟩ := List.forall_mem_append.mp hplaceLater
      rcases append_eq_append_cons hlater with ⟨others, hhandled⟩ | ⟨front, rfl, hrest⟩
      · exact ⟨pod, List.mem_cons_self .., based_handlePod hhandling hsearch hpolicy hremembers'
          hhandled⟩
      · cases handled with
        | error e =>
          cases hends
          exact absurd hrest.symm (List.append_ne_nil_of_right_ne_nil _ (List.cons_ne_nil _ _))
        | ok written' =>
          obtain ⟨hwritten', hremembers''⟩ :=
            remembers_handlePod hhandling hpolicy hwritten hplaceHandling hremembers'
          obtain ⟨p, hp, hbased⟩ := ih hends hplaceRest hwritten' hremembers'' hrest hwrite
          refine ⟨p, List.mem_cons_of_mem _ hp, ?_⟩
          rwa [List.append_assoc, List.append_assoc] at hbased

/-- What a pass says: a write is made only where the node was read and is cordoned, for a
pod that it was shown on the node, and based on what was said before. -/
theorem based_overNode {config : Config} {name : String} {said : List Exchange}
    {result : Except Failure Outcome} (h : (overNode config name).Says said result)
    (hplace : ∀ x ∈ said, InPlace x) {before after : List Exchange} {x : Exchange}
    (hsaid : said = before ++ x :: after) (hwrite : x.1.target? ≠ none) :
    ∃ node pods, node.isCordoned = true ∧ ⟨.getNode name, .ok (some node)⟩ ∈ said ∧
      ⟨.podsOnNode name, .ok pods⟩ ∈ said ∧
      ∃ pod ∈ pods, Based config.order pod before x.1 := by
  have hx : x ∈ said := hsaid ▸ by simp
  rcases says_overNode_cases h with ⟨answer, rfl, -⟩ |
    ⟨node, hcordoned, ⟨e, rfl⟩ | ⟨pods, rest, changed, hall, hrest⟩⟩
  · obtain rfl := List.mem_singleton.mp hx
    exact absurd rfl hwrite
  · rcases List.mem_cons.mp hx with rfl | hx
    · exact absurd rfl hwrite
    · obtain rfl := List.mem_singleton.mp hx
      exact absurd rfl hwrite
  · let seen : List Exchange := [⟨.getNode name, .ok (some node)⟩, ⟨.podsOnNode name, .ok pods⟩]
    have hseen : ∀ y ∈ seen, y.1.target? = none := by simp [seen, Call.target?]
    have hsplit : seen ++ rest = before ++ x :: after := hall.symm.trans hsaid
    refine ⟨node, pods, hcordoned, hall ▸ by simp, hall ▸ by simp, ?_⟩
    rcases append_eq_append_cons hsplit with ⟨others, hfirst⟩ | ⟨front, rfl, hlater⟩
    · exact absurd (hseen x (hfirst ▸ by simp)) hwrite
    · have hplaceRest : ∀ y ∈ rest, InPlace y := fun y hy => hplace y (hall ▸ by simp [hy])
      have hempty : Remembers Table.empty seen := by
        intro ns name
        rw [Table.find?_empty, lastStored_of_reads hseen]
      exact based_handlePods config.order name pods hrest hplaceRest writtenInPlace_empty hempty
        hlater hwrite

end CordonWatch.Pass
