import CordonWatch.Proofs.Pass.Copying
import CordonWatch.Proofs.Store.Held

/-!
# Passes among other writers

Any number of passes run over one server, call by call and in any order, and
other clients write pods and autoscalers in between as they like. The caches
show a pass anything that the server has held at some time; any call may fail.
All the server sees to is that a write carries the version that it holds, and
that what it stores gets a version that the object never had (`World.Step`).

A pass writes whole objects, from copies that may be old. Still no update is
lost (`no_lost_update`): what a pass has written differs from what the server
held just before in the last eviction of the autoscaler, or in the one
condition of the pod, and in the version, and in nothing else.

The invariant is `World.Consistent`: every copy that a running pass has
received was held at some time. A copy whose version is the one held now is
therefore what is held now, and the pass has but edited it.
-/

namespace CordonWatch.Store

/-- What passes and other clients share, and how far each pass has come. -/
structure World where
  pods : Held Pod
  autoscalers : Held Autoscaler
  /-- What is left of the passes that have begun. -/
  passes : Nat → Option (Attempt Pass.Outcome) := fun _ => none

namespace World

/-- The world where a pass has so much left. -/
def setPass (w : World) (i : Nat) (p : Attempt Pass.Outcome) : World :=
  { w with passes := fun j => if j = i then some p else w.passes j }

/-- How a call may be answered, and what it leaves. Reads are answered with
objects that were held at some time. A write is refused, or what it carries is
in the version that is held, and is stored in one that was never held. Of a pod
that is written the server may take in all or the status only. -/
inductive Answers (w : World) : (call : Call) → call.Answer → World → Prop
  | failed (call : Call) (e : Failure) : w.Answers call (.error e) w
  | node (name : String) (node : Option Node) : w.Answers (.getNode name) (.ok node) w
  | pods (node : String) {pods : List Pod} (held : ∀ pod ∈ pods, pod ∈ w.pods.ever) :
    w.Answers (.podsOnNode node) (.ok pods) w
  | autoscalers (ns : String) {autoscalers : List Autoscaler}
    (held : ∀ a ∈ autoscalers, a ∈ w.autoscalers.ever) :
    w.Answers (.listAutoscalers ns) (.ok autoscalers) w
  | budget (ns name : String) (budget : Option Budget) :
    w.Answers (.getBudget ns name) (.ok budget) w
  | podStored {pod stored taken : Pod} {version : String}
    (there : Shelf.at? (placeOf pod) w.pods.shelf = some stored)
    (current : versionOf stored = versionOf pod)
    (taking : taken = pod ∨ taken = { stored with status := pod.status })
    (new : w.pods.IsNew (withVersion (some version) taken)) :
    w.Answers (.updatePodStatus pod) (.ok ())
      { w with pods := w.pods.store (withVersion (some version) taken) }
  | autoscalerStored {a stored : Autoscaler} {version : String}
    (there : Shelf.at? (placeOf a) w.autoscalers.shelf = some stored)
    (current : versionOf stored = versionOf a)
    (new : w.autoscalers.IsNew (withVersion (some version) a)) :
    w.Answers (.updateAutoscaler a) (.ok (withVersion (some version) a))
      { w with autoscalers := w.autoscalers.store (withVersion (some version) a) }

/-- What may happen next: a pass begins, in the place of one that is done or
given up; a pass goes on; or another client writes or deletes an object. -/
inductive Step : World → World → Prop
  | begin (w : World) (i : Nat) (config : Pass.Config) (node : String) :
    Step w (w.setPass i (Pass.overNode config node))
  | ask {w w' : World} {i : Nat} {call : Call} {next : call.Answer → Attempt Pass.Outcome}
    {answer : call.Answer} (pass : w.passes i = some (.ask call next))
    (answers : w.Answers call answer w') : Step w (w'.setPass i (next answer))
  | readClock {w : World} {i : Nat} {next : Instant → Attempt Pass.Outcome}
    (pass : w.passes i = some (.readClock next)) (now : Instant) : Step w (w.setPass i (next now))
  | note {w : World} {i : Nat} {entry : Note} {next : Attempt Pass.Outcome}
    (pass : w.passes i = some (.note entry next)) : Step w (w.setPass i next)
  | putPod {w : World} {pod : Pod} (new : w.pods.IsNew pod) :
    Step w { w with pods := w.pods.store pod }
  | removePod (w : World) (place : Place) : Step w { w with pods := w.pods.discard place }
  | putAutoscaler {w : World} {a : Autoscaler} (new : w.autoscalers.IsNew a) :
    Step w { w with autoscalers := w.autoscalers.store a }
  | removeAutoscaler (w : World) (place : Place) :
    Step w { w with autoscalers := w.autoscalers.discard place }

/-- A world before any pass has begun: no version was held twice. -/
structure Initial (w : World) : Prop where
  pods : w.pods.Sound
  autoscalers : w.autoscalers.Sound
  passes : ∀ i, w.passes i = none

/-- The worlds that come about. -/
inductive Reachable : World → Prop
  | initial {w : World} (h : w.Initial) : Reachable w
  | step {w w' : World} (h : Reachable w) (hstep : Step w w') : Reachable w'

/-! ### What every copy once was -/

/-- The object was held at some time. -/
def Holds (w : World) : Object → Prop
  | .pod pod => pod ∈ w.pods.ever
  | .autoscaler a => a ∈ w.autoscalers.ever
  | .node _ | .budget _ => False

/-- No version was held twice, and what a running pass has received was held at
some time. -/
structure Consistent (w : World) : Prop where
  pods : w.pods.Sound
  autoscalers : w.autoscalers.Sound
  passes : ∀ i p, w.passes i = some p →
    ∃ known, (∀ o ∈ known, w.Holds o) ∧ p.Keeps copying (fun _ _ => True) known

variable {w w' : World}

theorem Holds.storePod {o : Object} (h : w.Holds o) (pod : Pod) :
    Holds { w with pods := w.pods.store pod } o := by
  cases o with
  | pod p => exact List.mem_cons_of_mem _ h
  | autoscaler a => exact h
  | node n => exact h
  | budget b => exact h

theorem Holds.storeAutoscaler {o : Object} (h : w.Holds o) (a : Autoscaler) :
    Holds { w with autoscalers := w.autoscalers.store a } o := by
  cases o with
  | pod p => exact h
  | autoscaler b => exact List.mem_cons_of_mem _ h
  | node n => exact h
  | budget b => exact h

/-- The copies that an answer contains were held at some time. -/
theorem Answers.copies {call : Call} {answer : call.Answer} (h : w.Answers call answer w') :
    ∀ o ∈ call.copies answer, w'.Holds o := by
  intro o ho
  cases h with
  | failed call e => cases call <;> exact absurd ho List.not_mem_nil
  | node | budget | podStored => exact absurd ho List.not_mem_nil
  | pods node held =>
    obtain ⟨pod, hpod, rfl⟩ := List.mem_map.mp ho
    exact held pod hpod
  | autoscalers ns held =>
    obtain ⟨a, ha, rfl⟩ := List.mem_map.mp ho
    exact held a ha
  | autoscalerStored there current new =>
    rw [List.mem_singleton.mp ho]
    exact List.mem_cons_self ..

/-- A consistent world in which nothing that was held is forgotten stays consistent. -/
theorem Consistent.grow (h : w.Consistent) (hpods : w'.pods.Sound)
    (hautoscalers : w'.autoscalers.Sound) (hpasses : w'.passes = w.passes)
    (hholds : ∀ o, w.Holds o → w'.Holds o) : w'.Consistent where
  pods := hpods
  autoscalers := hautoscalers
  passes := by
    intro i p hp
    obtain ⟨known, hknown, hkeeps⟩ := h.passes i p (hpasses ▸ hp)
    exact ⟨known, fun o ho => hholds o (hknown o ho), hkeeps⟩

/-- A pass that keeps the rules with what it has received may run. -/
theorem Consistent.setPass (h : w.Consistent) (i : Nat) {p : Attempt Pass.Outcome}
    {known : List Object} (hknown : ∀ o ∈ known, w.Holds o)
    (hp : p.Keeps copying (fun _ _ => True) known) : (w.setPass i p).Consistent where
  pods := h.pods
  autoscalers := h.autoscalers
  passes := by
    intro j q hq
    rw [show (w.setPass i p).passes j = if j = i then some p else w.passes j from rfl] at hq
    split at hq
    · cases hq
      exact ⟨known, hknown, hp⟩
    · exact h.passes j q hq

theorem Answers.holds {call : Call} {answer : call.Answer} (h : w.Answers call answer w')
    {o : Object} (ho : w.Holds o) : w'.Holds o := by
  cases h with
  | failed | node | pods | autoscalers | budget => exact ho
  | podStored => exact ho.storePod _
  | autoscalerStored => exact ho.storeAutoscaler _

theorem Consistent.answered (h : w.Consistent) {call : Call} {answer : call.Answer}
    (hans : w.Answers call answer w') : w'.Consistent := by
  cases hans with
  | failed | node | pods | autoscalers | budget => exact h
  | podStored there current taking new =>
    exact h.grow (h.pods.store new) h.autoscalers rfl fun _ ho => ho.storePod _
  | autoscalerStored there current new =>
    exact h.grow h.pods (h.autoscalers.store new) rfl fun _ ho => ho.storeAutoscaler _

/-- Each step keeps a world consistent. -/
theorem Consistent.step (h : w.Consistent) (hstep : Step w w') : w'.Consistent := by
  cases hstep with
  | begin i config node =>
    exact h.setPass i (fun o ho => absurd ho List.not_mem_nil)
      ((Pass.keeps_overNode config node).imp fun _ _ _ => trivial)
  | ask pass answers =>
    obtain ⟨known, hknown, _, hnext⟩ := h.passes _ _ pass
    refine (h.answered answers).setPass _ (fun o ho => ?_) (hnext _)
    rcases List.mem_append.mp ho with ho | ho
    · exact answers.copies o ho
    · exact answers.holds (hknown o ho)
  | readClock pass now =>
    obtain ⟨known, hknown, hnext⟩ := h.passes _ _ pass
    exact h.setPass _ hknown (hnext now)
  | note pass =>
    obtain ⟨known, hknown, hnext⟩ := h.passes _ _ pass
    exact h.setPass _ hknown hnext
  | putPod new => exact h.grow (h.pods.store new) h.autoscalers rfl fun _ ho => ho.storePod _
  | removePod place =>
    exact h.grow (h.pods.discard place) h.autoscalers rfl fun o ho => by cases o <;> exact ho
  | putAutoscaler new =>
    exact h.grow h.pods (h.autoscalers.store new) rfl fun _ ho => ho.storeAutoscaler _
  | removeAutoscaler place =>
    exact h.grow h.pods (h.autoscalers.discard place) rfl fun o ho => by cases o <;> exact ho

/-- All worlds that come about are consistent. -/
theorem Reachable.consistent (h : w.Reachable) : w.Consistent := by
  induction h with
  | initial h =>
    refine ⟨h.pods, h.autoscalers, fun i p hp => ?_⟩
    rw [h.passes i] at hp
    cases hp
  | step h hstep ih => exact ih.step hstep

/-! ### What a pass changes -/

/-- Two autoscalers that differ in the last eviction and the version at most. -/
def SameButEviction (a a' : Autoscaler) : Prop :=
  ∃ eviction version,
    a' = withVersion version { a with spec := { a.spec with lastEviction := eviction } }

/-- Two lists of conditions that differ in the first one that announces a
disruption at most; there may be none in the one list and one more in the other. -/
def SameButDisruption (l l' : List PodCondition) : Prop :=
  ∃ before new after, new.type = PodCondition.disruptionTarget ∧
    (∀ e ∈ before, e.type ≠ PodCondition.disruptionTarget) ∧ l' = before ++ new :: after ∧
    ((l = before ∧ after = []) ∨
      ∃ old, old.type = PodCondition.disruptionTarget ∧ l = before ++ old :: after)

/-- Announcing an eviction sets the first condition that announces a disruption. -/
theorem sameButDisruption_set (now : Instant) (l : List PodCondition) :
    SameButDisruption l ((PodCondition.evictionAnticipated now).set l).1 := by
  rcases PodCondition.set_cases (.evictionAnticipated now) l with
    ⟨hnone, hset⟩ | ⟨before, c, after, hl, hc, hbefore, hset⟩
  · exact ⟨l, .evictionAnticipated now, [], rfl, hnone, by rw [hset], Or.inl ⟨rfl, rfl⟩⟩
  · exact ⟨before, _, after, PodCondition.replacing_type _ c, hbefore, by rw [hset],
      Or.inr ⟨c, hc, hl⟩⟩

/-- Two pods that differ in the first condition that announces a disruption and
in the version at most. -/
def SamePodButDisruption (p p' : Pod) : Prop :=
  ∃ conditions version, SameButDisruption (p.conditions.getD []) conditions ∧
    p' = withVersion version { p with status := { p.status with conditions := some conditions } }

/-- No update is lost. Whenever a write of an autoscaler by a pass is accepted,
what is stored is what was held just before but for the last eviction and the
version; and whenever a write of a pod by a pass is accepted, what is stored is
what was held but for the announced disruption and the version. -/
theorem no_lost_update (h : w.Reachable) (i : Nat) :
    (∀ a next stored', w.passes i = some (.ask (.updateAutoscaler a) next) →
      w.Answers (.updateAutoscaler a) (.ok stored') w' →
      ∃ stored, Shelf.at? (placeOf stored) w.autoscalers.shelf = some stored ∧
        SameButEviction stored stored' ∧
        w' = { w with autoscalers := w.autoscalers.store stored' }) ∧
    ∀ pod next, w.passes i = some (.ask (.updatePodStatus pod) next) →
      w.Answers (.updatePodStatus pod) (.ok ()) w' →
      ∃ stored stored', Shelf.at? (placeOf stored) w.pods.shelf = some stored ∧
        SamePodButDisruption stored stored' ∧ w' = { w with pods := w.pods.store stored' } := by
  have hw := h.consistent
  constructor
  · intro a next stored' hpass hans
    obtain ⟨known, hknown, ⟨copy, pod, now, hcopy, rfl⟩, _⟩ := hw.passes i _ hpass
    cases hans with
    | @autoscalerStored _ stored version there current new =>
      have hsame : stored = copy := hw.autoscalers.eq_of_version (hknown _ hcopy) there current
      subst hsame
      exact ⟨stored, there, ⟨_, some version, rfl⟩, rfl⟩
  · intro pod next hpass hans
    obtain ⟨known, hknown, ⟨copy, now, hcopy, rfl⟩, _⟩ := hw.passes i _ hpass
    cases hans with
    | @podStored _ stored taken version there current taking new =>
      have hsame : stored = copy := hw.pods.eq_of_version (hknown _ hcopy) there current
      subst hsame
      have htaken : taken = (stored.setCondition (.evictionAnticipated now)).1 := by
        rcases taking with rfl | rfl
        · rfl
        · rfl
      refine ⟨stored, withVersion (some version) taken, there, ?_, rfl⟩
      rw [htaken, Pod.setCondition_fst]
      exact ⟨_, some version, sameButDisruption_set now _, rfl⟩

/-- A world with one pod and one autoscaler. -/
def small : World :=
  let pod : Pod :=
    { metadata := { name := some "web-0", ns := some "prod", resourceVersion := some "1" }
      nodeName := some "n1" }
  let a : Autoscaler :=
    { metadata := { name := some "web", ns := some "prod", resourceVersion := some "1" }
      spec := {} }
  { pods := ⟨[pod], [pod]⟩, autoscalers := ⟨[a], [a]⟩ }

theorem initial_small : small.Initial where
  pods := .initial (by decide)
  autoscalers := .initial (by decide)
  passes := fun _ => rfl

/-- That world with another pod on the node. -/
def pair : World :=
  let other (pod : Pod) : Pod :=
    { pod with metadata := { pod.metadata with name := some "web-1" } }
  let pods := small.pods.shelf ++ small.pods.shelf.map other
  { small with pods := ⟨pods, pods⟩ }

theorem initial_pair : pair.Initial where
  pods := .initial (by decide)
  autoscalers := initial_small.autoscalers
  passes := fun _ => rfl

/-- The autoscaler as another client writes it: it is for another target. -/
def retargeted : Autoscaler where
  metadata := { name := some "web", ns := some "prod", resourceVersion := some "2" }
  spec := { targetName := "api" }

/-- The first pod as another client writes it after it was marked: it is on no node. -/
def unassigned : Pod where
  metadata := { name := some "web-0", ns := some "prod", resourceVersion := some "3" }

/-- A pass in that world marks both pods and records their evictions. Another client has
written the autoscaler when the pass comes to the first pod, and the cache has heard of it;
when the pass comes to the second one the cache shows the first version again, and another
client has written the first pod. The last write goes out from what the pass remembers of
its own one, and the target that the other client has set is still there. -/
theorem no_lost_update_pair :
    ∃ (w₁ w₁' w₂ w₂' : World) (pod stored stored' : Pod) (a held held' : Autoscaler)
      (nextPod : Call.Answer (.updatePodStatus pod) → _)
      (next : Call.Answer (.updateAutoscaler a) → _),
      (w₁.Reachable ∧ w₁.passes 0 = some (.ask (.updatePodStatus pod) nextPod) ∧
        w₁.Answers (.updatePodStatus pod) (.ok ()) w₁') ∧
      (SamePodButDisruption stored stored' ∧ w₁' = { w₁ with pods := w₁.pods.store stored' }) ∧
      (w₂.Reachable ∧ w₂.passes 0 = some (.ask (.updateAutoscaler a) next) ∧
        w₂.Answers (.updateAutoscaler a) (.ok held') w₂') ∧
      (SameButEviction held held' ∧
        w₂' = { w₂ with autoscalers := w₂.autoscalers.store held' }) ∧
      held'.spec.targetName = "api" ∧ held'.spec.lastEviction.podName = "web-1" := by
  have hpods : ∀ pod ∈ pair.pods.shelf, pod ∈ pair.pods.ever := fun _ h => h
  have h₁ := (Reachable.initial initial_pair).step (.begin _ 0 {} "n1")
  have h₂ := h₁.step (.ask (i := 0) rfl
    (.node "n1" (some { metadata := {}, unschedulable := some true })))
  have h₃ := (h₂.step (.note (i := 0) rfl)).step (.note (i := 0) rfl)
  have h₄ := h₃.step (.ask (i := 0) rfl (.pods "n1" hpods))
  have h₅ := h₄.step (@Step.putAutoscaler _ retargeted (by decide +kernel))
  have h₆ := h₅.step (.ask (i := 0) rfl (@Answers.autoscalers _ "prod" [retargeted]
    fun _ ha => List.mem_singleton.mp ha ▸ List.mem_cons_self ..))
  have h₇ := h₆.step (.ask (i := 0) rfl
    (.budget "prod" "web" (some { metadata := {}, selector := some {} })))
  have h₈ := (h₇.step (.note (i := 0) rfl)).step (.note (i := 0) rfl)
  have h₉ := h₈.step (.readClock (i := 0) rfl ⟨0, 0⟩)
  have h₁₀ := h₉.step (.ask (i := 0) rfl
    (@Answers.podStored _ _ _ _ "2" rfl rfl (Or.inl rfl) (by decide +kernel)))
  have h₁₁ := h₁₀.step (.readClock (i := 0) rfl ⟨0, 0⟩)
  have h₁₂ := h₁₁.step (.ask (i := 0) rfl
    (@Answers.autoscalerStored _ _ _ "3" rfl rfl (by decide +kernel)))
  have h₁₃ := h₁₂.step (@Step.putPod _ unassigned (by decide +kernel))
  have h₁₄ := h₁₃.step (.ask (i := 0) rfl (@Answers.autoscalers _ "prod" small.autoscalers.ever
    fun _ ha => List.mem_cons_of_mem _ (List.mem_cons_of_mem _ ha)))
  have h₁₅ := h₁₄.step (.ask (i := 0) rfl
    (.budget "prod" "web" (some { metadata := {}, selector := some {} })))
  have h₁₆ := (h₁₅.step (.note (i := 0) rfl)).step (.note (i := 0) rfl)
  have h₁₇ := h₁₆.step (.readClock (i := 0) rfl ⟨0, 0⟩)
  obtain ⟨stored, stored', -, hpod, hw₁⟩ := (no_lost_update h₁₇ 0).2 _ _ rfl
    (@Answers.podStored _ _ _ _ "2" rfl rfl (Or.inl rfl) (by decide +kernel))
  have h₁₈ := h₁₇.step (.ask (i := 0) rfl
    (@Answers.podStored _ _ _ _ "2" rfl rfl (Or.inl rfl) (by decide +kernel)))
  have h₁₉ := h₁₈.step (.readClock (i := 0) rfl ⟨0, 0⟩)
  obtain ⟨held, -, ha, hw₂⟩ := (no_lost_update h₁₉ 0).1 _ _ _ rfl
    (@Answers.autoscalerStored _ _ _ "4" rfl rfl (by decide +kernel))
  exact ⟨_, _, _, _, _, stored, stored', _, held, _, _, _,
    ⟨h₁₇, rfl, @Answers.podStored _ _ _ _ "2" rfl rfl (Or.inl rfl) (by decide +kernel)⟩,
    ⟨hpod, hw₁⟩,
    ⟨h₁₉, rfl, @Answers.autoscalerStored _ _ _ "4" rfl rfl (by decide +kernel)⟩,
    ⟨ha, hw₂⟩, rfl, rfl⟩

end World

end CordonWatch.Store
