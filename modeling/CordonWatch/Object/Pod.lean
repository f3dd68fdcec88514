import CordonWatch.Object.PodStatus

/-!
# Pods

Of a pod the controller looks at its metadata, at the node it is assigned to
and at the conditions of its status.
-/

namespace CordonWatch

/-- Where an object is found: its namespace, empty if it has none, and its name. -/
@[ext]
structure ObjectKey where
  ns : String
  name : String
  deriving DecidableEq, Repr, Inhabited

/-- Keys are ordered by namespace, then by name. -/
instance : KeyOrder ObjectKey where
  lt a b := a.ns < b.ns ∨ (a.ns = b.ns ∧ a.name < b.name)
  decLt a b := inferInstanceAs (Decidable (a.ns < b.ns ∨ (a.ns = b.ns ∧ a.name < b.name)))
  irrefl a h := by
    rcases h with h | ⟨_, h⟩
    · exact String.lt_irrefl _ h
    · exact String.lt_irrefl _ h
  trans h h' := by
    rcases h with h | ⟨he, h⟩
    · rcases h' with h' | ⟨he', _⟩
      · exact Or.inl (String.lt_trans h h')
      · exact Or.inl (he' ▸ h)
    · rcases h' with h' | ⟨he', h'⟩
      · exact Or.inl (he ▸ h')
      · exact Or.inr ⟨he.trans he', String.lt_trans h h'⟩
  trichotomy a b := by
    rcases KeyOrder.trichotomy a.ns b.ns with h | h | h
    · exact Or.inl (Or.inl h)
    · rcases KeyOrder.trichotomy a.name b.name with h' | h' | h'
      · exact Or.inl (Or.inr ⟨h, h'⟩)
      · exact Or.inr (Or.inl (ObjectKey.ext h h'))
      · exact Or.inr (Or.inr (Or.inr ⟨h.symm, h'⟩))
    · exact Or.inr (Or.inr (Or.inl h))

/-- The key of an object with that metadata. -/
def ObjectMeta.key (m : ObjectMeta) : ObjectKey := ⟨m.ns.getD "", m.nameAny⟩

/-- A pod. -/
structure Pod where
  metadata : ObjectMeta
  nodeName : Option String := none
  status : PodStatus := {}
  deriving Inhabited

namespace Pod

/-- The name of a pod. -/
def name (p : Pod) : String := p.metadata.nameAny

/-- The namespace of a pod; one without belongs to the default one. -/
def nsOrDefault (p : Pod) : String := p.metadata.nsOrDefault

/-- The key of a pod. -/
def key (p : Pod) : ObjectKey := p.metadata.key

/-- The node a pod is assigned to. An empty name is no assignment. -/
def node? (p : Pod) : Option String := p.nodeName.filter (!·.isEmpty)

/-- The conditions of a pod. -/
def conditions (p : Pod) : Option (List PodCondition) := p.status.conditions

/-- Sets a condition of a pod, and says whether that changed the conditions. -/
def setCondition (p : Pod) (c : PodCondition) : Pod × Bool :=
  let (status, changed) := p.status.setCondition c
  ({ p with status }, changed)

/-- Reads a pod as an open record. -/
def ofJson? (v : Json) : Option Pod := do
  let fields ← v.open?
  let spec ← Json.entry? "spec" Json.open? fields
  return {
    metadata := (← Json.entry? "metadata" ObjectMeta.ofJson? fields).getD {}
    nodeName := ← Json.entry? "nodeName" Json.asText (spec.getD [])
    status := (← Json.entry? "status" PodStatus.ofJson? fields).getD {} }

end Pod

end CordonWatch
