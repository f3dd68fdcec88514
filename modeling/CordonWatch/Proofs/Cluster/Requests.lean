import CordonWatch.Cluster.Link
import CordonWatch.Proofs.Pass.Basis
import CordonWatch.Proofs.Pass.Effect

/-!
# The requests of a pass

Over a cluster the writes of a pass are requests to the API server. `Link.sent` lists the
requests of a run, each with what came of it, and `Link.map_heard_sent` says that they are
the writes of its dialogue. What the requests say is read off the bodies that are sent: a
status goes out as the version of the cached pod and all of its conditions, with the
announcement among them (`Patches`), an autoscaler as a whole, changed in its last eviction
(`Puts`). `Link.sent_overNode` is that for whole passes over any caches, whatever the server
answers, and what a refusal makes of the pass.
-/

namespace CordonWatch

/-- An instant as requests write it: whole seconds of universal time. -/
def Instant.secondsJson (t : Instant) : Json := .text (t.wholeSeconds.renderDateTime ++ "Z")

theorem Instant.toJson_eq : Instant.toJson = Instant.secondsJson := by
  funext t
  have hsecond : (t.wholeSeconds).nanos / 10 ^ 9 = t.nanos / 10 ^ 9 :=
    Nat.mul_div_cancel _ (by decide)
  unfold Instant.toJson Instant.secondsJson Instant.renderSeconds Instant.renderDateTime
  rw [hsecond]
  rfl

/-- The conditions of a pod with the announcement of its eviction among them: where one of
the type was there the first one is replaced, and keeps its time if it was true already;
otherwise the announcement is added at the end. -/
inductive PodCondition.Announcing (now : Instant) (old : List PodCondition) :
    List PodCondition → Prop where
  | added (new : ∀ c ∈ old, c.type ≠ "DisruptionTarget") :
    Announcing now old (old ++ [evictionAnticipated now])
  | replaced {before after : List PodCondition} {c : PodCondition}
    (split : old = before ++ c :: after) (type : c.type = "DisruptionTarget")
    (first : ∀ e ∈ before, e.type ≠ "DisruptionTarget") :
    Announcing now old (before ++
      { evictionAnticipated now with
        lastTransitionTime := if c.status = "True" then c.lastTransitionTime else some now } ::
      after)

theorem PodCondition.announcing_set (now : Instant) (old : List PodCondition) :
    Announcing now old ((evictionAnticipated now).set old).1 := by
  rcases set_cases (evictionAnticipated now) old with
    ⟨hnone, hset⟩ | ⟨before, c, after, hsplit, htype, hfirst, hset⟩
  · rw [hset]
    exact .added hnone
  · have hstored : (evictionAnticipated now).replacing c = { evictionAnticipated now with
        lastTransitionTime := if c.status = "True" then c.lastTransitionTime else some now } := by
      by_cases hstatus : c.status = "True"
      · rw [if_pos hstatus]
        exact if_pos hstatus
      · rw [if_neg hstatus]
        exact if_neg hstatus
    rw [hset, hstored]
    exact .replaced hsplit htype hfirst

theorem PodCondition.Announcing.ne_nil {now : Instant} {old conditions : List PodCondition}
    (h : Announcing now old conditions) : conditions ≠ [] := by
  cases h with
  | added => simp
  | replaced => simp

namespace Cluster

open Store (Attempt Call Exchange)

/-- A write that was sent, with what came of it. -/
abbrev Sent : Type := (w : Api.Write) × Except Api.RequestFailure w.Stored

/-- What a pass hears of a write that it has sent. -/
def Sent.heard : Sent → Exchange
  | ⟨.podConditions pod, answer⟩ =>
    ⟨.updatePodStatus pod, (answer.map fun _ => ()).mapError Api.RequestFailure.toFailure⟩
  | ⟨.autoscaler a, answer⟩ =>
    ⟨.updateAutoscaler a, answer.mapError Api.RequestFailure.toFailure⟩

/-- The exchange is a write. -/
def isWrite (x : Exchange) : Bool := x.1.target?.isSome

namespace Link

variable {σ α : Type}

/-- What a call has sent, if it is a write. -/
def sentFor (l : Link σ) (call : Call) (s : σ) : List Sent :=
  match call with
  | .updatePodStatus pod => [⟨.podConditions pod, (l.send (.podConditions pod) s).1⟩]
  | .updateAutoscaler a => [⟨.autoscaler a, (l.send (.autoscaler a) s).1⟩]
  | .getNode _ | .podsOnNode _ | .listAutoscalers _ | .getBudget _ _ => []

/-- The writes that a run sends, in order. -/
def sent (l : Link σ) : Attempt α → σ → List Sent
  | .done _, _ => []
  | .ask call next, s =>
    l.sentFor call s ++ l.sent (next (l.answer call s).1) (l.answer call s).2
  | .readClock next, s => l.sent (next (l.clock s)) s
  | .note entry next, s => l.sent next (l.record entry s)

/-- The writes that a run sends are those of its dialogue. -/
theorem map_heard_sent (l : Link σ) (p : Attempt α) (s : σ) :
    (l.sent p s).map Sent.heard = (p.dialogue l.handler s).filter isWrite := by
  induction p generalizing s with
  | done => rfl
  | ask call next ih =>
    have hcall : (l.sentFor call s).map Sent.heard
        = [(⟨call, (l.answer call s).1⟩ : Exchange)].filter isWrite := by
      cases call <;> rfl
    rw [sent, List.map_append, ih, hcall]
    exact (List.filter_append _ _).symm
  | readClock next ih => exact ih _ s
  | note entry next ih => exact ih _

/-- A request stands in the dialogue of its run among the same writes. -/
theorem heard_of_sent {l : Link σ} {p : Attempt α} {s : σ} {before after : List Sent} {r : Sent}
    (hsent : l.sent p s = before ++ r :: after) :
    ∃ earlier later, p.dialogue l.handler s = earlier ++ r.heard :: later ∧
      earlier.filter isWrite = before.map Sent.heard ∧
      later.filter isWrite = after.map Sent.heard := by
  have hwrites := l.map_heard_sent p s
  rw [hsent, List.map_append, List.map_cons] at hwrites
  obtain ⟨front, back, hsaid, hfront, hback⟩ := List.filter_eq_append_iff.mp hwrites.symm
  obtain ⟨reads, later, rfl, hreads, -, hlater⟩ := List.filter_eq_cons_iff.mp hback
  refine ⟨front ++ reads, later, ?_, ?_, hlater⟩
  · rw [hsaid, List.append_assoc]
  · rw [List.filter_append, hfront, List.filter_eq_nil_iff.mpr hreads, List.append_nil]

/-- In whatever order the cache gives them, the autoscalers listed for a namespace are the
cached ones of that namespace. -/
theorem mem_inNamespace_iff (l : Link σ) {ns : String} {s : σ} {a : Autoscaler} :
    a ∈ l.inNamespace ns s ↔
      a ∈ (l.caches s).autoscalers.live.values ∧ a.metadata.ns = some ns := by
  unfold inNamespace
  rw [List.mem_filter, (l.listed_perm s).mem_iff, decide_eq_true_iff]

/-- Where a stored autoscaler stands where it was sent, a run keeps objects at their places. -/
theorem inPlace_dialogue {l : Link σ} (hanswers : ∀ a s stored,
      (l.send (.autoscaler a) s).1 = .ok stored → placeOf stored = placeOf a)
    (p : Attempt α) (s : σ) : ∀ x ∈ p.dialogue l.handler s, Pass.InPlace x := by
  induction p generalizing s with
  | done => exact fun x hx => absurd hx List.not_mem_nil
  | ask call next ih =>
    refine List.forall_mem_cons.mpr ⟨?_, ih _ _⟩
    cases call with
    | getNode | podsOnNode | getBudget | updatePodStatus => trivial
    | listAutoscalers ns =>
      intro a ha
      exact (l.mem_inNamespace_iff.mp ha).2
    | updateAutoscaler a =>
      have hheard : (l.handler.answer (.updateAutoscaler a) s).1
          = (l.send (.autoscaler a) s).1.mapError Api.RequestFailure.toFailure := rfl
      rw [hheard]
      cases hsent : (l.send (.autoscaler a) s).1 with
      | error f => trivial
      | ok stored => exact hanswers a s stored hsent
  | readClock next ih => exact ih _ s
  | note entry next ih => exact ih _

end Link

/-- The request merges the announcement into the conditions of the pod. -/
structure Patches (pod : Pod) (now : Instant) (w : Api.Write) : Prop where
  method : w.method = .patch
  path : w.path = "/api/v1/namespaces/" ++ pod.metadata.ns.getD "default" ++ "/pods/" ++ pod.name
    ++ "/status"
  body : ∃ conditions, conditions ≠ [] ∧
    PodCondition.Announcing now (pod.conditions.getD []) conditions ∧
    w.body = .object [
      ("metadata", .object [("resourceVersion", .ofText? pod.metadata.resourceVersion)]),
      ("status", .object [
        ("conditions", .list (conditions.map (PodCondition.toJsonWith Instant.secondsJson)))])]

/-- The request replaces the autoscaler with `latest`, changed in its last eviction. -/
structure Puts (pod : Pod) (policy latest : Autoscaler) (now : Instant) (w : Api.Write) :
    Prop where
  method : w.method = .put
  ns : policy.metadata.ns = some pod.nsOrDefault
  path : w.path = "/apis/eviction-autoscaler.azure.com/v1/namespaces/" ++ pod.nsOrDefault
    ++ "/evictionautoscalers/" ++ policy.name
  body : w.body = Autoscaler.toJsonWith Instant.secondsJson
    { latest with spec :=
      { latest.spec with lastEviction := { podName := pod.name, evictionTime := some now } } }

theorem patches_announcement (pod : Pod) (now : Instant) :
    Patches pod now (.podConditions (pod.setCondition (.evictionAnticipated now)).1) where
  method := rfl
  path := rfl
  body := by
    have hannouncing := PodCondition.announcing_set now (pod.conditions.getD [])
    refine ⟨_, hannouncing.ne_nil, hannouncing, ?_⟩
    rw [Api.Write.body, Instant.toJson_eq]
    rfl

theorem puts_record {pod : Pod} {policy latest : Autoscaler} (now : Instant)
    (hpolicy : policy.metadata.ns = some pod.nsOrDefault)
    (hlatest : placeOf latest = placeOf policy) :
    Puts pod policy latest now (.autoscaler (latest.noting pod now)) where
  method := rfl
  ns := hpolicy
  path := by
    have hns : latest.metadata.ns = some pod.nsOrDefault :=
      (congrArg Place.ns hlatest).trans hpolicy
    have hname : latest.metadata.nameAny = policy.name := congrArg Place.name hlatest
    have hpath : (Api.Write.autoscaler (latest.noting pod now)).path
        = "/apis/" ++ Autoscaler.apiVersion ++ "/namespaces/" ++ latest.metadata.ns.getD "default"
          ++ "/" ++ Autoscaler.plural ++ "/" ++ latest.metadata.nameAny := rfl
    have hprefix : "/apis/" ++ Autoscaler.apiVersion ++ "/namespaces/"
        = "/apis/eviction-autoscaler.azure.com/v1/namespaces/" := by decide
    have hplural : "/" ++ (Autoscaler.plural ++ "/") = "/evictionautoscalers/" := by decide
    rw [hpath, hns, hname, hprefix, Option.getD_some, ← hplural, ← String.append_assoc,
      ← String.append_assoc]
  body := by
    rw [Api.Write.body, Instant.toJson_eq]
    rfl

/-- What was stored last is told by the writes alone. -/
theorem lastStored_filter (place : Place) (said : List Exchange) :
    Pass.lastStored place (said.filter isWrite) = Pass.lastStored place said := by
  induction said with
  | nil => rfl
  | cons x rest ih =>
    rw [← List.singleton_append, List.filter_append, Pass.lastStored_append, Pass.lastStored_append,
      ih]
    by_cases hx : isWrite x = true
    · rw [List.filter_cons_of_pos hx, List.filter_nil]
    · have hread : x.1.target? = none := by simpa [isWrite] using hx
      rw [List.filter_cons_of_neg hx, List.filter_nil, Pass.lastStored_singleton_of_read hread]
      rfl

/-- The pass makes no request after one that failed, and ends with what the failure is: a
conflict if the error answer has code 409, and a failure of the API otherwise. Where an
answer came with code 409, its body may be a status object with a code of its own. -/
structure Ends {α : Type} (r : Sent) (after : List Sent) (ended : Except Failure α) : Prop where
  last : ∀ f, r.2 = .error f → after = []
  conflict : ∀ told, r.2 = .error (.answered told) → told.code = 409 →
    ended = .error (.conflict told.message)
  http : ∀ body, r.2 = .error (.answered (.ofBody 409 body)) →
    (∀ told, (Json.read body).bind Api.ErrorAnswer.ofJson? = some told → told.code = 409) →
      ∃ message, ended = .error (.conflict message)
  other : ∀ f, r.2 = .error f → f.isConflict = false → ended = .error (.api f.message)

/-- The code of an error answer is that of the answer it was read from, unless its body
has one. -/
theorem code_ofBody {code : Nat} {body : String}
    (h : ∀ told, (Json.read body).bind Api.ErrorAnswer.ofJson? = some told → told.code = code) :
    (Api.ErrorAnswer.ofBody code body).code = code := by
  unfold Api.ErrorAnswer.ofBody
  cases hread : (Json.read body).bind Api.ErrorAnswer.ofJson? with
  | none => rfl
  | some told => exact h told hread

theorem toFailure_of_conflict {told : Api.ErrorAnswer} (h : told.code = 409) :
    (Api.RequestFailure.answered told).toFailure = .conflict told.message :=
  if_pos h

theorem toFailure_of_not_conflict {f : Api.RequestFailure} (h : f.isConflict = false) :
    f.toFailure = .api f.message := by
  cases f with
  | answered told =>
    have hcode : ¬ told.code = Api.conflictCode := by simpa [Api.RequestFailure.isConflict] using h
    exact if_neg hcode
  | unreachable message => rfl
  | unmade defect => rfl

/-- A request that fails is the last one of a pass. -/
theorem Link.ends_overNode {σ : Type} (l : Link σ) (config : Pass.Config) (name : String) (s : σ)
    {before after : List Sent} {r : Sent}
    (hsent : l.sent (Pass.overNode config name) s = before ++ r :: after) :
    Ends r after ((Pass.overNode config name).run l.handler s).1 := by
  have hsays := Program.says_dialogue l.handler (Pass.overNode config name) s
  have hfailed : ∀ f, r.2 = .error f →
      after = [] ∧ ((Pass.overNode config name).run l.handler s).1 = .error f.toFailure := by
    intro f hf
    obtain ⟨earlier, later, hsaid, -, hafter⟩ := Link.heard_of_sent hsent
    obtain ⟨call, hcall⟩ : ∃ call, r.heard = ⟨call, .error f.toFailure⟩ := by
      obtain ⟨w, answer⟩ := r
      obtain rfl : answer = .error f := hf
      cases w with
      | podConditions pod => exact ⟨_, rfl⟩
      | autoscaler a => exact ⟨_, rfl⟩
    rw [hcall] at hsaid
    obtain ⟨rfl, hended⟩ := (Pass.failsFast_overNode config name).last_of_failed hsays hsaid
    exact ⟨List.map_eq_nil_iff.mp hafter.symm, hended⟩
  exact {
    last := fun f hf => (hfailed f hf).1
    conflict := fun told hf hcode => by
      rw [(hfailed _ hf).2, toFailure_of_conflict hcode]
    http := fun body hf hbody =>
      ⟨_, by rw [(hfailed _ hf).2, toFailure_of_conflict (code_ofBody hbody)]⟩
    other := fun f hf hother => by
      rw [(hfailed _ hf).2, toFailure_of_not_conflict hother] }

/-- The requests of a pass over a cluster, whatever its caches show, in whatever order they
list it, and whatever the server answers, if only a stored autoscaler stands where it was
sent. Each is made for a pod that the index had on the node, once the node was seen to be
cordoned, and after an autoscaler was found for the pod. It merges the announcement into the
cached conditions of the pod, or replaces the autoscaler by what the server has answered
last to a write of it, by the cached copy where there was none, changed in its last
eviction. A request that fails ends the pass. -/
theorem Link.sent_overNode {σ : Type} (l : Link σ) (config : Pass.Config) (name : String) (s : σ)
    (hanswers : ∀ a s stored, (l.send (.autoscaler a) s).1 = .ok stored →
      placeOf stored = placeOf a) :
    let said := (Pass.overNode config name).dialogue l.handler s
    ∀ before r after, l.sent (Pass.overNode config name) s = before ++ r :: after →
      (∃ node pods pod policy reads now,
        ⟨.getNode name, .ok (some node)⟩ ∈ said ∧ node.isCordoned = true ∧
        ⟨.podsOnNode name, .ok pods⟩ ∈ said ∧ pod ∈ pods ∧
        reads <:+: said ∧ (Pass.findPolicy config.order pod).Says reads (.ok (some policy)) ∧
        (Patches pod now r.1 ∨ Puts pod policy
          ((Pass.lastStored (placeOf policy) (before.map Sent.heard)).getD policy) now r.1)) ∧
      Ends r after ((Pass.overNode config name).run l.handler s).1 := by
  intro said before r after hsent
  refine ⟨?_, l.ends_overNode config name s hsent⟩
  have hsays := Program.says_dialogue l.handler (Pass.overNode config name) s
  have hplace := Link.inPlace_dialogue hanswers (Pass.overNode config name) s
  obtain ⟨earlier, later, hsaid, hbefore, -⟩ := Link.heard_of_sent hsent
  have hwrite : r.heard.1.target? ≠ none := by
    obtain ⟨_ | _, answer⟩ := r
    · exact Option.some_ne_none _
    · exact Option.some_ne_none _
  obtain ⟨node, pods, hcordoned, hnode, hpods, pod, hpod, hbased⟩ :=
    Pass.based_overNode hsays hplace hsaid hwrite
  have hfirst : earlier <+: said := ⟨_, hsaid.symm⟩
  have hearlier : ∀ x ∈ earlier, Pass.InPlace x := fun x hx => hplace x (hfirst.mem hx)
  obtain ⟨w, answer⟩ := r
  cases w with
  | podConditions marked =>
    cases hbased with
    | @status front reads policy split search new now =>
      have hreads : reads <:+: earlier := ⟨front, [], by rw [split, List.append_nil]⟩
      exact ⟨node, pods, pod, policy, reads, now, hnode, hcordoned, hpods, hpod,
        hreads.trans hfirst.isInfix, search, Or.inl (patches_announcement pod now)⟩
  | autoscaler a =>
    cases hbased with
    | @record front reads step policy split search marked now =>
      have hreads : reads <:+: earlier := ⟨front, step, by rw [split, List.append_assoc]⟩
      have hpolicy : policy.metadata.ns = some pod.nsOrDefault :=
        Pass.says_findPolicy search fun x hx => hearlier x (split ▸ by simp [hx])
      have hlatest : placeOf ((Pass.lastStored (placeOf policy) earlier).getD policy)
          = placeOf policy := by
        cases hstored : Pass.lastStored (placeOf policy) earlier with
        | none => rfl
        | some stored => exact Pass.placeOf_lastStored hearlier hstored
      refine ⟨node, pods, pod, policy, reads, now, hnode, hcordoned, hpods, hpod,
        hreads.trans hfirst.isInfix, search, Or.inr ?_⟩
      rw [← hbefore, lastStored_filter]
      exact puts_record now hpolicy hlatest

/-- Caches with two pods on a cordoned node, either of which two autoscalers could govern. -/
def rivalCaches : Caches where
  nodes := Store.Memory.rivals.nodes.foldl (fun c node => c.apply (.apply node)) {}
  pods := Store.Memory.rivals.index
  budgets := Store.Memory.rivals.budgets.foldl (fun c budget => c.apply (.apply budget)) {}
  autoscalers := Store.Memory.rivals.cached.foldl (fun c a => c.apply (.apply a)) {}

/-- A cluster with those caches, which list the autoscalers against the order of their
names. The server stores what it is sent, but refuses the fourth write. The state counts
the writes. -/
def refusing (refusal : Api.RequestFailure) : Link Nat where
  caches _ := rivalCaches
  listed _ := rivalCaches.autoscalers.live.values.reverse
  listed_perm _ := List.reverse_perm _
  send w n :=
    if n = 3 then (.error refusal, 4)
    else
      match w with
      | .podConditions pod => (.ok pod, n + 1)
      | .autoscaler a => (.ok a, n + 1)
  clock _ := ⟨0, 0⟩
  record _ n := n

theorem placeOf_stored_refusing (refusal : Api.RequestFailure) (a : Autoscaler) (n : Nat)
    (stored : Autoscaler) (h : ((refusing refusal).send (.autoscaler a) n).1 = .ok stored) :
    placeOf stored = placeOf a := by
  by_cases hn : n = 3
  · simp [refusing, hn] at h
  · simp only [refusing, if_neg hn] at h
    cases h
    rfl

/-- The last request of the pass over that node is the one that is refused. -/
theorem exists_sent_refusing (refusal : Api.RequestFailure) :
    ∃ before r, (refusing refusal).sent (Pass.overNode {} "n1") 0 = before ++ [r] ∧
      r.2 = .error refusal :=
  ⟨[_, _, _], _, rfl, rfl⟩

/-- The refusal of a write for its version. -/
def modified : Api.ErrorAnswer where
  status := "Failure"
  message := "web was modified"
  reason := "Conflict"
  code := 409

theorem Link.sent_overNode_refusing :
    ((refusing (.answered modified)).sent (Pass.overNode {} "n1") 0).map (·.1.path) =
      ["/api/v1/namespaces/prod/pods/web-0/status",
        "/apis/eviction-autoscaler.azure.com/v1/namespaces/prod/evictionautoscalers/web",
        "/api/v1/namespaces/prod/pods/web-1/status",
        "/apis/eviction-autoscaler.azure.com/v1/namespaces/prod/evictionautoscalers/web"] ∧
    ((Pass.overNode {} "n1").run (refusing (.answered modified)).handler 0).1
      = .error (.conflict "web was modified") := by
  refine ⟨by decide +kernel, ?_⟩
  obtain ⟨before, r, hsent, hrefused⟩ := exists_sent_refusing (.answered modified)
  exact (Link.sent_overNode (refusing (.answered modified)) {} "n1" 0
    (placeOf_stored_refusing _) before r [] hsent).2.conflict modified hrefused rfl

/-- An answer with code 409 whose body is a status object with a code of its own. -/
def overruled : Api.RequestFailure :=
  .answered (.ofBody 409
    "\x7b\"status\":\"Failure\",\"message\":\"m\",\"reason\":\"r\",\"code\":500\x7d")

/-- That answer is no conflict: the pass ends with a failure of the API. -/
theorem overruled_no_conflict :
    ∃ r ∈ (refusing overruled).sent (Pass.overNode {} "n1") 0, r.2 = .error overruled ∧
      ∃ message, ((Pass.overNode {} "n1").run (refusing overruled).handler 0).1
        = .error (.api message) := by
  have htold : overruled
      = .answered { status := "Failure", message := "m", reason := "r", code := 500 } := by
    decide +kernel
  have hconflict : overruled.isConflict = false := by
    rw [htold]
    rfl
  obtain ⟨before, r, hsent, hrefused⟩ := exists_sent_refusing overruled
  have hends := Link.ends_overNode (refusing overruled) {} "n1" 0 hsent
  exact ⟨r, hsent ▸ List.mem_append_right _ (List.mem_singleton_self _), hrefused, _,
    hends.other _ hrefused hconflict⟩

end Cluster

end CordonWatch
