import CordonWatch.Proofs.Pass.MarkedOnce

/-!
# What the metrics count

A pass counts an eviction when it has chosen the autoscaler of a pod, before it writes
anything for it. Two writes may follow, and either may fail; a failure ends the pass. So
each eviction counted is one whose record was accepted, or the one at whose writes the pass
broke off, and no other exit of the pass comes after a count (`metrics_handlePod`). Over
any number of passes the counters are exactly what the calls and their answers say
(`Ran.counted_exactly`).

Nothing is assumed of the caches or of the faults. All that matters of a store is that
calls do not count, and that it keeps objects at their places (`Meters`).
-/

namespace CordonWatch

/-! ### Programs that count nothing -/

namespace Program

variable {Call : Type} {Answer : Call → Type} {α β : Type}

/-- The program leaves lines of the log and no other notes. -/
def LogsOnly : Program Call Answer α → Prop
  | .done _ => True
  | .ask _ next => ∀ answer, (next answer).LogsOnly
  | .readClock next => ∀ now, (next now).LogsOnly
  | .note entry next => (∃ line, entry = .log line) ∧ next.LogsOnly

theorem LogsOnly.bind {p : Program Call Answer α} {f : α → Program Call Answer β}
    (hp : p.LogsOnly) (hf : ∀ a, (f a).LogsOnly) : (p.bind f).LogsOnly := by
  induction p with
  | done a => exact hf a
  | ask call next ih => exact fun answer => ih answer (hp answer)
  | readClock next ih => exact fun now => ih now (hp now)
  | note entry next ih => exact ⟨hp.1, ih hp.2⟩

end Program

namespace Pass

open Store (Attempt Call Exchange)

theorem logsOnly_firstGoverning (ns : String) (labels : Table String String)
    (l : List Autoscaler) : (firstGoverning ns labels l).LogsOnly := by
  induction l with
  | nil => trivial
  | cons candidate rest ih =>
    rintro (e | _ | budget)
    · trivial
    · exact ⟨⟨_, rfl⟩, ih⟩
    · dsimp only
      split
      · exact ⟨⟨_, rfl⟩, ih⟩
      · split
        · trivial
        · exact ih

theorem logsOnly_findPolicy (order : PolicyOrder) (pod : Pod) :
    (findPolicy order pod).LogsOnly := by
  rintro (e | autoscalers)
  · trivial
  · refine (logsOnly_firstGoverning _ _ _).bind ?_
    rintro (e | _ | a)
    · trivial
    · exact ⟨⟨_, rfl⟩, trivial⟩
    · trivial

theorem logsOnly_markPod (ns : String) (pod : Pod) : (markPod ns pod).LogsOnly := by
  intro now
  dsimp only
  split
  · rintro (e | ⟨⟩)
    · exact ⟨⟨_, rfl⟩, trivial⟩
    · trivial
  · trivial

theorem logsOnly_recordEviction (ns : String) (pod : Pod) (policy : Autoscaler)
    (written : Written) : (recordEviction ns pod policy written).LogsOnly := by
  rintro now (e | stored)
  · exact ⟨⟨_, rfl⟩, trivial⟩
  · trivial

/-! ### What exchanges count for -/

/-- The exchange has the record of an eviction accepted, in that namespace. -/
def acceptsIn (ns : String) : Exchange → Bool
  | ⟨.updateAutoscaler a, .ok _⟩ => a.metadata.ns = some ns
  | _ => false

/-- The exchange is a write that fails, of the status of a pod or of the record of an
eviction, in that namespace. -/
def refusesIn (ns : String) : Exchange → Bool
  | ⟨.updatePodStatus pod, .error _⟩ => pod.nsOrDefault = ns
  | ⟨.updateAutoscaler a, .error _⟩ => a.metadata.ns = some ns
  | _ => false

/-- How many evictions in a namespace some exchanges account for. -/
def dueIn (ns : String) (said : List Exchange) : Nat :=
  said.countP (acceptsIn ns) + said.countP (refusesIn ns)

/-- The node that a pass has read is there and cordoned. -/
def sawCordon (said : List Exchange) : Bool :=
  said.any fun
    | ⟨.getNode _, .ok (some node)⟩ => node.isCordoned
    | _ => false

/-- A pass has ended with a write that failed, in that namespace. -/
def brokeOff (ns : String) (said : List Exchange) : Bool := said.getLast?.any (refusesIn ns)

variable {ns : String}

theorem dueIn_append (said later : List Exchange) :
    dueIn ns (said ++ later) = dueIn ns said + dueIn ns later := by
  unfold dueIn
  rw [List.countP_append, List.countP_append]
  omega

theorem not_dueIn_of_read {x : Exchange} (h : x.1.target? = none) :
    acceptsIn ns x = false ∧ refusesIn ns x = false := by
  obtain ⟨call, answer⟩ := x
  cases call with
  | updatePodStatus | updateAutoscaler => cases h
  | getNode | podsOnNode | listAutoscalers | getBudget => exact ⟨rfl, rfl⟩

theorem dueIn_of_reads {said : List Exchange} (h : ∀ x ∈ said, x.1.target? = none) :
    dueIn ns said = 0 := by
  rw [dueIn, List.countP_eq_zero.mpr fun x hx => ?_, List.countP_eq_zero.mpr fun x hx => ?_]
  · rw [(not_dueIn_of_read (h x hx)).2]
    exact Bool.false_ne_true
  · rw [(not_dueIn_of_read (h x hx)).1]
    exact Bool.false_ne_true

/-- A status that is accepted is not the record of an eviction. -/
theorem Announced.dueIn_eq_zero {pod : Pod} {step : List Exchange} (h : Announced pod step) :
    dueIn ns step = 0 := by
  cases h with
  | already => rfl
  | written => rfl

theorem dueIn_failed_status (pod : Pod) (e : Failure) :
    dueIn ns [⟨.updatePodStatus pod, .error e⟩] = if pod.nsOrDefault = ns then 1 else 0 := by
  by_cases hns : pod.nsOrDefault = ns <;> simp [dueIn, acceptsIn, refusesIn, hns]

/-- The attempt to record an eviction accounts for one, whether it is accepted or not. -/
theorem dueIn_record {a : Autoscaler} {home : String} (ha : a.metadata.ns = some home)
    (answer : Call.Answer (.updateAutoscaler a)) :
    dueIn ns [⟨.updateAutoscaler a, answer⟩] = if home = ns then 1 else 0 := by
  cases answer <;> by_cases hns : home = ns <;> simp [dueIn, acceptsIn, refusesIn, ha, hns]

/-- The record of an eviction is written in the namespace of the autoscaler. -/
theorem RecordsOn.ns_eq {place : Place} {pod : Pod} {a : Autoscaler}
    (h : RecordsOn place pod (.updateAutoscaler a)) : a.metadata.ns = place.ns := by
  obtain ⟨latest, now, rfl, ha⟩ := h
  cases ha
  rfl

/-- The call writes for that pod: the status of the pod at its place, or the record of its
eviction on an autoscaler of its namespace. -/
def WritesFor (pod : Pod) : Call → Prop
  | .updatePodStatus written => placeOf written = placeOf pod
  | .updateAutoscaler a =>
    a.metadata.ns = some pod.nsOrDefault ∧ a.spec.lastEviction.podName = pod.name
  | .getNode _ | .podsOnNode _ | .listAutoscalers _ | .getBudget _ _ => False

theorem RecordsOn.writesFor {policy a : Autoscaler} {pod : Pod}
    (h : RecordsOn (placeOf policy) pod (.updateAutoscaler a))
    (hpolicy : policy.metadata.ns = some pod.nsOrDefault) :
    WritesFor pod (.updateAutoscaler a) := by
  have hns := h.ns_eq
  obtain ⟨latest, now, -, ha⟩ := h
  cases ha
  exact ⟨hns.trans hpolicy, rfl⟩

/-- All writes while pods are handled are for those pods. -/
theorem writesFor_of_handles {order : PolicyOrder} {pods : List Pod} {said : List Exchange}
    (h : Handles order pods said) (hplace : ∀ x ∈ said, InPlace x) :
    ∀ x ∈ said, x.1.target? ≠ none → ∃ pod ∈ pods, WritesFor pod x.1 := by
  have hreads : ∀ {pod : Pod} {reads : List Exchange} {result : Except Failure (Option Autoscaler)},
      (findPolicy order pod).Says reads result → ∀ x ∈ reads, x.1.target? = none :=
    fun hsearch x hx => ((failsFast_findPolicy order _).speaks hsearch x hx).target?
  have hstep : ∀ {pod : Pod} {step : List Exchange}, Announced pod step →
      ∀ x ∈ step, WritesFor pod x.1 := by
    intro pod step hmarked
    cases hmarked with
    | already => simp
    | written hnew now => exact List.forall_mem_singleton.mpr rfl
  induction h with
  | none => simp
  | unread search => exact fun x hx hwrite => absurd (hreads search x hx) hwrite
  | @ungoverned pod rest reads later search after ih =>
    intro x hx hwrite
    rcases List.mem_append.mp hx with hx | hx
    · exact absurd (hreads search x hx) hwrite
    · obtain ⟨p, hp, hfor⟩ := ih (List.forall_mem_append.mp hplace).2 x hx hwrite
      exact ⟨p, List.mem_cons_of_mem _ hp, hfor⟩
  | @unmarked pod rest reads policy search new now e =>
    intro x hx hwrite
    rcases List.mem_append.mp hx with hx | hx
    · exact absurd (hreads search x hx) hwrite
    · obtain rfl := List.mem_singleton.mp hx
      exact ⟨pod, List.mem_cons_self .., rfl⟩
  | @unrecorded pod rest reads step policy a search marked attempt e =>
    have hpolicy := says_findPolicy search (List.forall_mem_append.mp hplace).1
    intro x hx hwrite
    rcases List.mem_append.mp hx with hx | hx
    · exact absurd (hreads search x hx) hwrite
    · refine ⟨pod, List.mem_cons_self .., ?_⟩
      rcases List.mem_append.mp hx with hx | hx
      · exact hstep marked x hx
      · obtain rfl := List.mem_singleton.mp hx
        exact attempt.writesFor hpolicy
  | @recorded pod rest reads step later policy a search marked attempt stored after ih =>
    obtain ⟨hplaceReads, hplaceRest⟩ := List.forall_mem_append.mp hplace
    have hpolicy := says_findPolicy search hplaceReads
    intro x hx hwrite
    rcases List.mem_append.mp hx with hx | hx
    · exact absurd (hreads search x hx) hwrite
    · rcases List.mem_append.mp hx with hx | hx
      · exact ⟨pod, List.mem_cons_self .., hstep marked x hx⟩
      · rcases List.mem_cons.mp hx with rfl | hx
        · exact ⟨pod, List.mem_cons_self .., attempt.writesFor hpolicy⟩
        · have hplaceLater := (List.forall_mem_append.mp hplaceRest).2
          obtain ⟨p, hp, hfor⟩ := ih (List.forall_mem_cons.mp hplaceLater).2 x hx hwrite
          exact ⟨p, List.mem_cons_of_mem _ hp, hfor⟩

/-- All writes of a pass are for pods that it was shown on its node. -/
theorem writesFor_of_transcript {order : PolicyOrder} {name : String} {said : List Exchange}
    (h : Transcript order name said) (hplace : ∀ x ∈ said, InPlace x) :
    ∀ x ∈ said, x.1.target? ≠ none →
      ∃ pods, ⟨.podsOnNode name, .ok pods⟩ ∈ said ∧ ∃ pod ∈ pods, WritesFor pod x.1 := by
  intro x hx hwrite
  cases h with
  | unseen =>
    obtain rfl := List.mem_singleton.mp hx
    exact absurd rfl hwrite
  | unlisted =>
    rcases List.mem_cons.mp hx with rfl | hx
    · exact absurd rfl hwrite
    · obtain rfl := List.mem_singleton.mp hx
      exact absurd rfl hwrite
  | @handled node cordoned pods said h =>
    rcases List.mem_cons.mp hx with rfl | hx
    · exact absurd rfl hwrite
    · rcases List.mem_cons.mp hx with rfl | hx
      · exact absurd rfl hwrite
      · refine ⟨pods, by simp, writesFor_of_handles h (fun y hy => hplace y ?_) x hx hwrite⟩
        exact List.mem_cons_of_mem _ (List.mem_cons_of_mem _ hy)

/-! ### What a pass counts -/

section

variable {σ : Type} {h : Program.Handler Call Call.Answer σ} {metrics : σ → Metrics}

/-- Calls count nothing, and notes are counted. -/
structure Meters (h : Program.Handler Call Call.Answer σ) (metrics : σ → Metrics) : Prop where
  answer : ∀ call s, metrics (h.answer call s).2 = metrics s
  record : ∀ entry s, metrics (h.record entry s) = (metrics s).record entry

theorem Meters.run_of_logsOnly {α : Type} (hm : Meters h metrics)
    {p : Program Call Call.Answer α} (hp : p.LogsOnly) (s : σ) :
    metrics (p.run h s).2 = metrics s := by
  induction p generalizing s with
  | done a => rfl
  | ask call next ih => exact (ih _ (hp _) _).trans (hm.answer call s)
  | readClock next ih => exact ih _ (hp _) s
  | note entry next ih =>
    obtain ⟨⟨line, rfl⟩, hnext⟩ := hp
    exact (ih hnext _).trans (hm.record _ s)

/-- For a pod that has an autoscaler one eviction is counted, and the exchanges account
for one, however it is handled. -/
theorem metrics_handlePod (hm : Meters h metrics) {node : String} {pod : Pod}
    {policy : Autoscaler} {written : Written} (s : σ)
    (hpolicy : placeOf policy = ⟨some pod.nsOrDefault, policy.name⟩)
    (hwritten : WrittenInPlace written) :
    metrics ((handlePod node pod policy written).run h s).2
        = (metrics s).countEvictions pod.nsOrDefault 1 ∧
      dueIn ns ((handlePod node pod policy written).dialogue h s)
        = if pod.nsOrDefault = ns then 1 else 0 := by
  constructor
  · -- After the count the pod is marked and its eviction recorded, and nothing more counted.
    refine (hm.run_of_logsOnly (Program.LogsOnly.bind (logsOnly_markPod _ pod) ?_) _).trans ?_
    · rintro (e | ⟨⟩)
      · trivial
      · exact logsOnly_recordEviction _ _ _ _
    · rw [hm.record, hm.record]
      rfl
  · have hsays := Program.says_dialogue h (handlePod node pod policy written) s
    rcases says_handlePod hsays hpolicy hwritten with
      ⟨e, now, -, -, hsaid⟩ | ⟨step, a, hmarked, hattempt, hends⟩
    · rw [hsaid, dueIn_failed_status]
      rfl
    · have hrecord := hattempt.ns_eq
      rw [hpolicy] at hrecord
      rcases hends with ⟨e, -, hsaid⟩ | ⟨stored, written', -, hsaid, -⟩
      · rw [hsaid, dueIn_append, hmarked.dueIn_eq_zero, Nat.zero_add, dueIn_record hrecord]
      · rw [hsaid, dueIn_append, hmarked.dueIn_eq_zero, Nat.zero_add, dueIn_record hrecord]

/-- While pods are handled as many evictions are counted in a namespace as the exchanges
account for, and no cordon. -/
theorem metrics_handlePods (hm : Meters h metrics) (order : PolicyOrder) (node : String)
    (pods : List Pod) :
    ∀ (written : Written) (changed : Bool) (s : σ),
      (∀ x ∈ (handlePods order node pods written changed).dialogue h s, InPlace x) →
      WrittenInPlace written →
      (metrics ((handlePods order node pods written changed).run h s).2).cordons
          = (metrics s).cordons ∧
        (metrics ((handlePods order node pods written changed).run h s).2).evictionsIn ns
          = (metrics s).evictionsIn ns
            + dueIn ns ((handlePods order node pods written changed).dialogue h s) := by
  induction pods with
  | nil => exact fun written changed s _ _ => ⟨rfl, rfl⟩
  | cons pod rest ih =>
    intro written changed s hplace hwritten
    have hsearch := Program.says_dialogue h (findPolicy order pod) s
    have hreads : dueIn ns ((findPolicy order pod).dialogue h s) = 0 := dueIn_of_reads fun x hx =>
      ((failsFast_findPolicy order pod).speaks hsearch x hx).target?
    have hquiet := hm.run_of_logsOnly (logsOnly_findPolicy order pod) s
    rw [handlePods, Program.dialogue_bind] at hplace
    rw [handlePods, Program.run_bind, Program.dialogue_bind, dueIn_append, hreads, Nat.zero_add,
      ← hquiet]
    obtain ⟨hplaceReads, hplace⟩ := List.forall_mem_append.mp hplace
    generalize ((findPolicy order pod).run h s).2 = s₁ at hplace ⊢
    cases hfound : ((findPolicy order pod).run h s).1 with
    | error e => exact ⟨rfl, rfl⟩
    | ok found =>
      rw [hfound] at hsearch hplace
      cases found with
      | none => exact ih written changed s₁ hplace hwritten
      | some policy =>
        have hpolicy : placeOf policy = ⟨some pod.nsOrDefault, policy.name⟩ :=
          Place.ext (says_findPolicy hsearch hplaceReads) rfl
        obtain ⟨hcounted, hdue⟩ := @metrics_handlePod ns _ _ _ hm node pod policy written s₁
          hpolicy hwritten
        have hsays := Program.says_dialogue h (handlePod node pod policy written) s₁
        dsimp only at hplace ⊢
        rw [Program.dialogue_bind] at hplace
        obtain ⟨hplaceHandling, hplace⟩ := List.forall_mem_append.mp hplace
        rw [Program.run_bind, Program.dialogue_bind, dueIn_append, hdue]
        generalize ((handlePod node pod policy written).run h s₁).2 = s₂ at hcounted hplace ⊢
        have hcordons : (metrics s₂).cordons = (metrics s₁).cordons := by
          rw [hcounted]
          rfl
        have hevictions : (metrics s₂).evictionsIn ns
            = (metrics s₁).evictionsIn ns + if pod.nsOrDefault = ns then 1 else 0 := by
          rw [hcounted, Metrics.evictionsIn_countEvictions]
          by_cases hns : pod.nsOrDefault = ns
          · rw [if_pos hns, if_pos hns, hns]
          · rw [if_neg hns, if_neg hns, Nat.add_zero]
        cases hhandled : ((handlePod node pod policy written).run h s₁).1 with
        | error e => exact ⟨hcordons, hevictions⟩
        | ok written' =>
          rw [hhandled] at hsays hplace
          have hwritten' : WrittenInPlace written' := by
            rcases says_handlePod hsays hpolicy hwritten with ⟨e, now, herror, -, -⟩ |
              ⟨step, a, -, -, ⟨e, herror, -⟩ | ⟨stored, remembered, hok, hsaid, hkept⟩⟩
            · cases herror
            · cases herror
            · cases hok
              exact hkept (hplaceHandling ⟨.updateAutoscaler a, .ok stored⟩ (hsaid ▸ by simp))
          obtain ⟨hcordons', hevictions'⟩ := ih written' true s₂ hplace hwritten'
          refine ⟨hcordons'.trans hcordons, ?_⟩
          rw [hevictions', hevictions, Nat.add_assoc]

/-- What is left of a pass once its node is seen to be cordoned. -/
def overCordoned (config : Config) (name : String) : Attempt Outcome :=
  .note .cordonSeen <|
    .log (.info "Node is cordoned" [("node", name)]) <|
      .ask (.podsOnNode name) fun
        | .error e => .done (.error e)
        | .ok pods =>
          (handlePods config.order name pods Table.empty false).bind fun
            | .error e => .done (.error e)
            | .ok changed =>
              if changed && !config.cooldown.isZero then
                .done (.ok (.requeueAfter config.cooldown))
              else .done (.ok .done)

theorem overNode_eq (config : Config) (name : String) :
    overNode config name = .ask (.getNode name) fun
      | .error e => .done (.error e)
      | .ok none => .log (.debug "Node no longer exists" [("node", name)]) (.done (.ok .done))
      | .ok (some node) =>
        if !node.isCordoned then .done (.ok .done) else overCordoned config name :=
  rfl

/-- A cordon is counted first, and then what is counted for the pods. -/
theorem metrics_overCordoned (hm : Meters h metrics) (config : Config) (name : String) (s : σ)
    (hplace : ∀ x ∈ (overCordoned config name).dialogue h s, InPlace x) :
    (metrics ((overCordoned config name).run h s).2).cordons = (metrics s).cordons + 1 ∧
      (metrics ((overCordoned config name).run h s).2).evictionsIn ns
        = (metrics s).evictionsIn ns + dueIn ns ((overCordoned config name).dialogue h s) := by
  let line : LogLine := .info "Node is cordoned" [("node", name)]
  have hseen : metrics (h.record (.log line) (h.record .cordonSeen s))
      = (metrics s).countCordon := by
    rw [hm.record, hm.record]
    rfl
  have hpods := (hm.answer (.podsOnNode name) _).trans hseen
  rw [overCordoned, Program.dialogue, Program.log, Program.dialogue, Program.dialogue] at hplace
  rw [overCordoned, Program.log, Program.run_note, Program.run_note, Program.run_ask,
    Program.dialogue, Program.dialogue, Program.dialogue]
  generalize h.answer (.podsOnNode name) (h.record (.log line) (h.record .cordonSeen s)) = answered
    at hpods hplace ⊢
  obtain ⟨answer, s₁⟩ := answered
  have hcordons : (metrics s₁).cordons = (metrics s).cordons + 1 := congrArg Metrics.cordons hpods
  have hevictions : (metrics s₁).evictionsIn ns = (metrics s).evictionsIn ns :=
    (congrArg (Metrics.evictionsIn · ns) hpods).trans rfl
  cases answer with
  | error e => exact ⟨hcordons, hevictions⟩
  | ok pods =>
    dsimp only at hplace ⊢
    rw [Program.dialogue_bind] at hplace
    obtain ⟨-, hplace⟩ := List.forall_mem_cons.mp hplace
    obtain ⟨hcordons', hevictions'⟩ := @metrics_handlePods ns _ _ _ hm config.order name pods
      Table.empty false s₁ (List.forall_mem_append.mp hplace).1 writtenInPlace_empty
    rw [Program.run_bind, Program.dialogue_bind]
    generalize ((handlePods config.order name pods Table.empty false).run h s₁).2 = s₂
      at hcordons' hevictions' ⊢
    -- What follows decides the outcome, and neither asks nor notes anything.
    have hends : (metrics s₂).cordons = (metrics s).cordons + 1 ∧
        (metrics s₂).evictionsIn ns = (metrics s).evictionsIn ns
          + dueIn ns (⟨.podsOnNode name, .ok pods⟩
            :: ((handlePods config.order name pods Table.empty false).dialogue h s₁ ++ [])) := by
      rw [hcordons', hcordons, hevictions', hevictions, List.append_nil]
      exact ⟨rfl, rfl⟩
    cases ((handlePods config.order name pods Table.empty false).run h s₁).1 with
    | error e => exact hends
    | ok changed =>
      dsimp only
      split
      · exact hends
      · exact hends

/-- A pass counts a cordon if the node that it has read is cordoned, and as many evictions
in a namespace as its exchanges account for. -/
theorem metrics_overNode (hm : Meters h metrics) (config : Config) (name : String) (s : σ)
    (hplace : ∀ x ∈ (overNode config name).dialogue h s, InPlace x) :
    (metrics ((overNode config name).run h s).2).cordons
        = (metrics s).cordons + (sawCordon ((overNode config name).dialogue h s)).toNat ∧
      (metrics ((overNode config name).run h s).2).evictionsIn ns
        = (metrics s).evictionsIn ns + dueIn ns ((overNode config name).dialogue h s) := by
  have hnode := hm.answer (.getNode name) s
  rw [overNode_eq, Program.dialogue] at hplace ⊢
  rw [Program.run_ask, ← hnode]
  generalize h.answer (.getNode name) s = answered at hplace ⊢
  obtain ⟨answer, s₁⟩ := answered
  rcases answer with e | _ | node
  · exact ⟨rfl, rfl⟩
  · exact ⟨congrArg Metrics.cordons (hm.record _ s₁),
      congrArg (Metrics.evictionsIn · ns) (hm.record _ s₁)⟩
  · cases hcordoned : node.isCordoned with
    | false =>
      have hdone : ∀ x y : Attempt Outcome, (if (!node.isCordoned) = true then x else y) = x :=
        fun x y => if_pos (by rw [hcordoned]; rfl)
      have hunseen : sawCordon [⟨.getNode name, .ok (some node)⟩] = false := by
        simp [sawCordon, hcordoned]
      dsimp only
      rw [hdone]
      exact ⟨congrArg (_ + Bool.toNat ·) hunseen.symm, rfl⟩
    | true =>
      have hgoesOn : ∀ x y : Attempt Outcome, (if (!node.isCordoned) = true then x else y) = y :=
        fun x y => if_neg (by rw [hcordoned]; exact Bool.false_ne_true)
      dsimp only at hplace ⊢
      rw [hgoesOn] at hplace ⊢
      have hsaw : ∀ said, sawCordon (⟨.getNode name, .ok (some node)⟩ :: said) = true := by
        simp [sawCordon, hcordoned]
      rw [hsaw]
      exact metrics_overCordoned hm config name s₁ (List.forall_mem_cons.mp hplace).2

end

end Pass

namespace Store

open Pass (acceptsIn refusesIn dueIn sawCordon brokeOff WritesFor)

/-- What has succeeded is not refused. -/
theorem not_refusesIn_of_succeeded {ns : String} {x : Exchange} (h : x.Succeeded) :
    ¬ refusesIn ns x = true := by
  obtain ⟨call, answer⟩ := x
  cases answer with
  | error e =>
    obtain ⟨result, herror⟩ := h
    cases herror
  | ok result => cases call <;> exact Bool.false_ne_true

/-- Of the writes of a pass one fails at most, and then it is the last call. -/
theorem countP_refusesIn {ns : String} {config : Pass.Config} {name : String}
    {said : List Exchange} {result : Except Failure Pass.Outcome}
    (h : (Pass.overNode config name).Says said result) :
    said.countP (refusesIn ns) = (brokeOff ns said).toNat := by
  have hnone : ∀ said : List Exchange, (∀ x ∈ said, x.Succeeded) →
      said.countP (refusesIn ns) = 0 := fun said hall =>
    List.countP_eq_zero.mpr fun x hx => not_refusesIn_of_succeeded (hall x hx)
  rcases (Pass.failsFast_overNode config name).ends h with
    ⟨-, hall⟩ | ⟨e, before, call, -, rfl, hall⟩
  · rw [hnone said hall, brokeOff]
    cases hlast : said.getLast? with
    | none => rfl
    | some x =>
      have hx := @not_refusesIn_of_succeeded ns x (hall x (List.mem_of_getLast? hlast))
      rw [Option.any_some, Bool.eq_false_iff.mpr hx]
      rfl
  · rw [List.countP_append, hnone before hall, brokeOff, List.getLast?_concat, Option.any_some,
      Nat.zero_add, List.countP_singleton]
    cases refusesIn ns ⟨call, .error e⟩ <;> rfl

namespace Memory

variable {clock : Memory → Instant} {lags : Memory → Bool} {m : Memory} {passes : List PassSaid}

theorem meters_handlerUnder (clock : Memory → Instant) (lags : Memory → Bool) :
    Pass.Meters (handlerUnder clock lags) metrics where
  answer := by
    intro call m
    by_cases hidle : call.target? = none ∨
        ∃ e, ((handlerUnder clock lags).answer call m).1 = .error e
    · obtain ⟨faults, hstate⟩ := answer_idle call m hidle
      rw [hstate]
    · obtain ⟨hwrite, hok⟩ := not_or.mp hidle
      cases call with
      | getNode | podsOnNode | listAutoscalers | getBudget => exact absurd rfl hwrite
      | updatePodStatus pod =>
        cases hanswer : ((handlerUnder clock lags).answer (.updatePodStatus pod) m).1 with
        | error e => exact absurd ⟨e, hanswer⟩ hok
        | ok result =>
          obtain ⟨stored, faults, index, logs, -, -, hstate⟩ := answer_updatePodStatus_ok hanswer
          rw [hstate]
      | updateAutoscaler a =>
        cases hanswer : ((handlerUnder clock lags).answer (.updateAutoscaler a) m).1 with
        | error e => exact absurd ⟨e, hanswer⟩ hok
        | ok stored =>
          obtain ⟨old, faults, cached, -, -, -, -, hstate⟩ := answer_updateAutoscaler_ok hanswer
          rw [hstate]
  record := by
    intro entry m
    cases entry <;> rfl

/-- Passes have run one after the other over a store that had counted nothing, whatever
its caches show, whatever faults are scheduled, and whatever is done to it in between. -/
inductive Ran : List PassSaid → Memory → Prop where
  | start {m : Memory} (hnew : m.metrics = {}) : Ran [] m
  | between {passes : List PassSaid} {m m' : Memory} (h : Ran passes m)
    (hcordons : m'.metrics.cordons = m.metrics.cordons)
    (hevictions : ∀ ns, m'.metrics.evictionsIn ns = m.metrics.evictionsIn ns) : Ran passes m'
  | pass {passes : List PassSaid} {m : Memory} (h : Ran passes m) (clock : Memory → Instant)
    (lags : Memory → Bool) (config : Pass.Config) (name : String) :
    Ran
      (passes ++ [⟨config, name, (Pass.overNode config name).dialogue (handlerUnder clock lags) m⟩])
      ((Pass.overNode config name).run (handlerUnder clock lags) m).2

/-- The cordons counted are the passes that have read a cordoned node. The evictions
counted in a namespace are the records that were accepted there, and one more for each pass
that has ended with a write there that failed. All writes of a pass are for pods that it was
shown on its node, in the namespaces of those pods. -/
theorem Ran.counted_exactly (h : Ran passes m) :
    m.metrics.cordons = passes.countP (sawCordon ·.said) ∧
    (∀ ns, m.metrics.evictionsIn ns
      = (saidBy passes).countP (acceptsIn ns) + passes.countP (brokeOff ns ·.said)) ∧
    ∀ pass ∈ passes, ∀ x ∈ pass.said, x.1.target? ≠ none →
      ∃ pods, ⟨.podsOnNode pass.node, .ok pods⟩ ∈ pass.said ∧ ∃ pod ∈ pods, WritesFor pod x.1 := by
  induction h with
  | start hnew =>
    rw [hnew]
    exact ⟨rfl, fun ns => rfl, by simp⟩
  | between _ hcordons hevictions ih =>
    obtain ⟨ihcordons, ihevictions, ihwrites⟩ := ih
    exact ⟨hcordons.trans ihcordons, fun ns => (hevictions ns).trans (ihevictions ns), ihwrites⟩
  | @pass passes m _ clock lags config name ih =>
    obtain ⟨ihcordons, ihevictions, ihwrites⟩ := ih
    have hsays := Program.says_dialogue (handlerUnder clock lags) (Pass.overNode config name) m
    have hplace := @inPlace_dialogue clock lags _ (Pass.overNode config name) m
    have hpass := fun ns => @Pass.metrics_overNode ns _ _ _ (meters_handlerUnder clock lags)
      config name m hplace
    refine ⟨?_, fun ns => ?_, List.forall_mem_append.mpr ⟨ihwrites, ?_⟩⟩
    · rw [(hpass "").1, ihcordons, List.countP_append, List.countP_singleton]
      cases sawCordon ((Pass.overNode config name).dialogue (handlerUnder clock lags) m) <;> rfl
    · have hbroken := @countP_refusesIn ns _ _ _ _ hsays
      rw [(hpass ns).2, ihevictions, saidBy_concat, List.countP_append, List.countP_append,
        List.countP_singleton]
      unfold dueIn
      dsimp only
      rw [hbroken]
      cases brokeOff ns ((Pass.overNode config name).dialogue (handlerUnder clock lags) m) with
      | false => simp only [Bool.toNat_false, Bool.false_eq_true, if_false]; omega
      | true => simp only [Bool.toNat_true, if_true]; omega
    · refine List.forall_mem_singleton.mpr fun x hx hwrite => ?_
      exact Pass.writesFor_of_transcript (transcript_pass clock lags config name m) hplace x hx
        hwrite

/-- Two passes over a node with two pods: the first breaks off at the record of the second
eviction, and so counts it once more than the second pass, which has both accepted. -/
theorem Ran.counted_exactly_healed : Ran healed (resumed.pass {} "n1").2 ∧
    (saidBy healed).countP (acceptsIn "prod") = 3 ∧ healed.countP (brokeOff "prod" ·.said) = 1 ∧
    (resumed.pass {} "n1").2.metrics.evictionsIn "prod" = 4 := by
  have hmetrics : resumed.metrics = (flaky.pass {} "n1").2.metrics := by decide +kernel
  have hstart : Ran [] flaky := .start rfl
  have hfirst := (hstart.pass now lag {} "n1").between (congrArg Metrics.cordons hmetrics)
    fun ns => congrArg (Metrics.evictionsIn · ns) hmetrics
  have hsecond : Ran healed (resumed.pass {} "n1").2 := hfirst.pass now lag {} "n1"
  have haccepted : (saidBy healed).countP (acceptsIn "prod") = 3 := by decide +kernel
  have hbroken : healed.countP (brokeOff "prod" ·.said) = 1 := by decide +kernel
  refine ⟨hsecond, haccepted, hbroken, ?_⟩
  rw [(Ran.counted_exactly hsecond).2.1, haccepted, hbroken]

end Memory

end Store

end CordonWatch
