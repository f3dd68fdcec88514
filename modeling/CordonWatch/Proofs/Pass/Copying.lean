import CordonWatch.Proofs.Object.Edits
import CordonWatch.Proofs.Pass.Selection
import CordonWatch.Proofs.Program

/-!
# A pass edits copies

Whatever a pass is answered, each of its writes is an edit of an object that
one of the answers contained: a pod that was listed, with the announcement of
an eviction set, or an autoscaler that was listed or had been stored by the
pass before, with an eviction noted on it. Everything else in what is written
is as it was in that copy.

That is a conduct (`copying`) whose knowledge are the copies received, and
`keeps_overNode` says that passes keep it.
-/

namespace CordonWatch

namespace Store

/-- The copies of pods and autoscalers that an answer contains. -/
def Call.copies : (call : Call) → call.Answer → List Object
  | .podsOnNode _, answer =>
    match answer with
    | .ok pods => pods.map .pod
    | .error _ => []
  | .listAutoscalers _, answer =>
    match answer with
    | .ok autoscalers => autoscalers.map .autoscaler
    | .error _ => []
  | .updateAutoscaler _, answer =>
    match answer with
    | .ok stored => [.autoscaler stored]
    | .error _ => []
  | .getNode _, _ | .getBudget _ _, _ | .updatePodStatus _, _ => []

/-- Writes that are edits of copies received. -/
def copying : Program.Conduct Call Call.Answer (List Object) where
  allows known
    | .updatePodStatus pod => ∃ copy now, .pod copy ∈ known ∧
        pod = (copy.setCondition (.evictionAnticipated now)).1
    | .updateAutoscaler a => ∃ copy pod now, .autoscaler copy ∈ known ∧ a = copy.noting pod now
    | .getNode _ | .podsOnNode _ | .listAutoscalers _ | .getBudget _ _ => True
  hears known call answer := call.copies answer ++ known
  sees known _ := known

end Store

namespace Pass

open Store (Call Attempt copying)

/-- What has been learned stays known, and what a part of a pass gives fits that. -/
def Learned {α : Type} (known : List Object) (fits : List Object → α → Prop) (known' : List Object)
    (result : Except Failure α) : Prop :=
  known ⊆ known' ∧ ∀ a, result = .ok a → fits known' a

/-- An autoscaler that was found is one of the copies. -/
def Found (known : List Object) (found : Option Autoscaler) : Prop :=
  ∀ a, found = some a → .autoscaler a ∈ known

/-- What is remembered of autoscalers are copies. -/
def Remembered (known : List Object) (written : Written) : Prop :=
  ∀ key a, written.find? key = some a → .autoscaler a ∈ known

variable {known : List Object}

theorem Learned.failed {α : Type} {fits : List Object → α → Prop} {known' : List Object}
    (h : known ⊆ known') (e : Failure) : Learned known fits known' (.error e) :=
  ⟨h, fun _ ha => nomatch ha⟩

theorem Learned.after {α : Type} {fits : List Object → α → Prop} {known' known'' : List Object}
    {result : Except Failure α} (h : known ⊆ known') (hr : Learned known' fits known'' result) :
    Learned known fits known'' result :=
  ⟨List.Subset.trans h hr.1, hr.2⟩

theorem remembered_empty : Remembered known Table.empty := by
  intro key a ha
  rw [Table.find?_empty] at ha
  cases ha

theorem Remembered.mono {known' : List Object} {written : Written} (h : Remembered known written)
    (hsub : known ⊆ known') : Remembered known' written :=
  fun key a ha => hsub (h key a ha)

theorem keeps_firstGoverning (ns : String) (labels : Table String String) (l : List Autoscaler) :
    ∀ {known' : List Object}, known ⊆ known' → (∀ a ∈ l, .autoscaler a ∈ known') →
      (firstGoverning ns labels l).Keeps copying (Learned known Found) known' := by
  induction l with
  | nil => exact fun h _ => ⟨h, fun found hfound a ha => by cases hfound; cases ha⟩
  | cons candidate rest ih =>
    intro known' h hl
    have hrest := ih h fun a ha => hl a (List.mem_cons_of_mem _ ha)
    refine ⟨trivial, fun answer => ?_⟩
    match answer with
    | .error e => exact Learned.failed h e
    | .ok none => exact hrest
    | .ok (some budget) =>
      dsimp only
      cases Selector.parse budget.selector with
      | error defect => exact hrest
      | ok selector =>
        dsimp only
        split
        · refine ⟨h, fun found hfound a ha => ?_⟩
          cases hfound
          cases ha
          exact hl candidate (List.mem_cons_self ..)
        · exact hrest

theorem keeps_findPolicy (order : PolicyOrder) (pod : Pod) :
    (findPolicy order pod).Keeps copying (Learned known Found) known := by
  refine ⟨trivial, fun answer => ?_⟩
  match answer with
  | .error e => exact Learned.failed (List.Subset.refl _) e
  | .ok autoscalers =>
    have hsub : known ⊆ autoscalers.map .autoscaler ++ known := List.subset_append_right _ _
    have hcopies : ∀ a ∈ order.arrange autoscalers,
        .autoscaler a ∈ autoscalers.map .autoscaler ++ known := by
      intro a ha
      exact List.mem_append_left _ (List.mem_map_of_mem (PolicyOrder.mem_arrange.mp ha))
    refine (keeps_firstGoverning _ _ _ hsub hcopies).bind fun k result hresult => ?_
    match result with
    | .error e => exact hresult
    | .ok none => exact hresult
    | .ok (some a) => exact hresult

theorem keeps_markPod (ns : String) {pod : Pod} (h : .pod pod ∈ known) :
    (markPod ns pod).Keeps copying (Learned known fun _ _ => True) known := by
  intro now
  show Program.Keeps _ _ (if (pod.setCondition (.evictionAnticipated now)).2 then _ else _) _
  split
  · refine ⟨⟨pod, now, h, rfl⟩, fun answer => ?_⟩
    match answer with
    | .error e => exact ⟨List.Subset.refl _, fun _ ha => nomatch ha⟩
    | .ok () => exact ⟨List.Subset.refl _, fun _ _ => trivial⟩
  · exact ⟨List.Subset.refl _, fun _ _ => trivial⟩

theorem keeps_recordEviction (ns : String) (pod : Pod) {policy : Autoscaler} {written : Written}
    (hpolicy : .autoscaler policy ∈ known) (hwritten : Remembered known written) :
    (recordEviction ns pod policy written).Keeps copying (Learned known Remembered) known := by
  intro now
  have hlatest : .autoscaler ((written.find? ⟨ns, policy.name⟩).getD policy) ∈ known := by
    cases hfound : written.find? ⟨ns, policy.name⟩ with
    | none => exact hpolicy
    | some a => exact hwritten _ _ hfound
  refine ⟨⟨_, pod, now, hlatest, rfl⟩, fun answer => ?_⟩
  match answer with
  | .error e => exact ⟨List.Subset.refl _, fun _ ha => nomatch ha⟩
  | .ok stored =>
    refine ⟨List.subset_cons_self _ _, fun written' hresult key a ha => ?_⟩
    cases hresult
    rw [Table.find?_insert] at ha
    split at ha
    · cases ha
      exact List.mem_cons_self ..
    · exact List.mem_cons_of_mem _ (hwritten key a ha)

theorem keeps_handlePod (node : String) {pod : Pod} {policy : Autoscaler} {written : Written}
    (hpod : .pod pod ∈ known) (hpolicy : .autoscaler policy ∈ known)
    (hwritten : Remembered known written) :
    (handlePod node pod policy written).Keeps copying (Learned known Remembered) known := by
  refine (keeps_markPod pod.nsOrDefault hpod).bind fun k result hresult => ?_
  obtain ⟨hsub, _⟩ := hresult
  match result with
  | .error e => exact Learned.failed hsub e
  | .ok () =>
    exact (keeps_recordEviction pod.nsOrDefault pod (hsub hpolicy) (hwritten.mono hsub)).imp
      fun _ _ h => h.after hsub

theorem keeps_handlePods (order : PolicyOrder) (node : String) (pods : List Pod) :
    ∀ {known : List Object} {written : Written} (changed : Bool),
      (∀ pod ∈ pods, .pod pod ∈ known) → Remembered known written →
      (handlePods order node pods written changed).Keeps copying
        (Learned known fun _ _ => True) known := by
  induction pods with
  | nil => exact fun _ _ _ => ⟨List.Subset.refl _, fun _ _ => trivial⟩
  | cons pod rest ih =>
    intro known written changed hpods hwritten
    refine (keeps_findPolicy order pod).bind fun k₁ found hfound => ?_
    obtain ⟨hsub₁, hfound⟩ := hfound
    have hpods₁ : ∀ p ∈ pod :: rest, .pod p ∈ k₁ := fun p hp => hsub₁ (hpods p hp)
    have hrest₁ : ∀ p ∈ rest, .pod p ∈ k₁ := fun p hp => hpods₁ p (List.mem_cons_of_mem _ hp)
    match found with
    | .error e => exact Learned.failed hsub₁ e
    | .ok none =>
      exact (ih changed hrest₁ (hwritten.mono hsub₁)).imp fun _ _ h => h.after hsub₁
    | .ok (some policy) =>
      have hpolicy : .autoscaler policy ∈ k₁ := hfound _ rfl policy rfl
      refine (keeps_handlePod node (hpods₁ pod (List.mem_cons_self ..)) hpolicy
        (hwritten.mono hsub₁)).bind fun k₂ result hresult => ?_
      obtain ⟨hsub₂, hresult⟩ := hresult
      have hsub : known ⊆ k₂ := List.Subset.trans hsub₁ hsub₂
      match result with
      | .error e => exact Learned.failed hsub e
      | .ok written' =>
        exact (ih true (fun p hp => hsub₂ (hrest₁ p hp)) (hresult _ rfl)).imp
          fun _ _ h => h.after hsub

/-- A pass over a node only ever writes edits of copies that it has received. -/
theorem keeps_overNode (config : Config) (name : String) :
    (overNode config name).Keeps copying (Learned [] fun _ _ => True) [] := by
  refine ⟨trivial, fun answer => ?_⟩
  match answer with
  | .error e => exact Learned.failed (List.Subset.refl _) e
  | .ok none => exact ⟨List.Subset.refl _, fun _ _ => trivial⟩
  | .ok (some node) =>
    dsimp only
    split
    · exact ⟨List.Subset.refl _, fun _ _ => trivial⟩
    · refine ⟨trivial, fun answer => ?_⟩
      match answer with
      | .error e => exact Learned.failed (List.Subset.refl _) e
      | .ok pods =>
        have hpods : ∀ pod ∈ pods, Object.pod pod ∈ pods.map Object.pod ++ [] := by
          intro pod hpod
          exact List.mem_append_left _ (List.mem_map_of_mem hpod)
        refine (keeps_handlePods config.order name pods false hpods remembered_empty).bind
          fun k result hresult => ?_
        match result with
        | .error e => exact Learned.failed (List.nil_subset _) e
        | .ok changed =>
          dsimp only
          split
          · exact ⟨List.nil_subset _, fun _ _ => trivial⟩
          · exact ⟨List.nil_subset _, fun _ _ => trivial⟩

end Pass

end CordonWatch
