import CordonWatch.Object.Autoscaler
import CordonWatch.Object.Budget
import CordonWatch.Object.Node
import CordonWatch.Object.Pod

/-!
# The kinds of objects

Objects of all four kinds have metadata, and with it a place and a version. An
object is looked up and stored by its place alone.
-/

namespace CordonWatch

/-- A kind of object that the controller deals with. -/
inductive Kind where
  | node
  | pod
  | budget
  | autoscaler
  deriving DecidableEq, Repr, Inhabited

/-- An object of any kind. -/
inductive Object where
  | node (n : Node)
  | pod (p : Pod)
  | budget (b : Budget)
  | autoscaler (a : Autoscaler)
  deriving Inhabited

/-- Objects with metadata. -/
class HasMetadata (α : Type) where
  metadata : α → ObjectMeta
  withMetadata : ObjectMeta → α → α

instance : HasMetadata Node := ⟨Node.metadata, fun m n => { n with metadata := m }⟩
instance : HasMetadata Pod := ⟨Pod.metadata, fun m p => { p with metadata := m }⟩
instance : HasMetadata Budget := ⟨Budget.metadata, fun m b => { b with metadata := m }⟩
instance : HasMetadata Autoscaler := ⟨Autoscaler.metadata, fun m a => { a with metadata := m }⟩

/-- Where an object stands: its namespace, if it has one, and its name. -/
@[ext]
structure Place where
  ns : Option String
  name : String
  deriving DecidableEq, Repr, Inhabited

/-- The key of a place. Places in no namespace and in one without a name share it. -/
def Place.key (p : Place) : ObjectKey := ⟨p.ns.getD "", p.name⟩

/-- Places are ordered by key; a place in no namespace comes first. -/
instance : KeyOrder Place where
  lt a b := a.key < b.key ∨ (a.key = b.key ∧ a.ns.isNone ∧ b.ns.isSome)
  decLt a b := inferInstanceAs
    (Decidable (a.key < b.key ∨ (a.key = b.key ∧ a.ns.isNone ∧ b.ns.isSome)))
  irrefl a h := by
    rcases h with h | ⟨_, h, h'⟩
    · exact KeyOrder.irrefl _ h
    · cases hn : a.ns <;> simp [hn] at h h'
  trans {a b c} h h' := by
    rcases h with h | ⟨he, h, hs⟩
    · rcases h' with h' | ⟨he', _⟩
      · exact Or.inl (KeyOrder.trans h h')
      · exact Or.inl (he' ▸ h)
    · rcases h' with h' | ⟨_, hn, _⟩
      · exact Or.inl (he ▸ h')
      · cases hb : b.ns <;> simp [hb] at hs hn
  trichotomy a b := by
    rcases KeyOrder.trichotomy a.key b.key with h | h | h
    · exact Or.inl (Or.inl h)
    · have hn : a.ns.getD "" = b.ns.getD "" := congrArg ObjectKey.ns h
      have hm : a.name = b.name := congrArg ObjectKey.name h
      cases ha : a.ns with
      | none =>
        cases hb : b.ns with
        | none => exact Or.inr (Or.inl (Place.ext (ha.trans hb.symm) hm))
        | some _ => exact Or.inl (Or.inr ⟨h, by simp, by simp⟩)
      | some _ =>
        cases hb : b.ns with
        | none => exact Or.inr (Or.inr (Or.inr ⟨h.symm, by simp, by simp⟩))
        | some _ =>
          simp only [ha, hb, Option.getD_some] at hn
          exact Or.inr (Or.inl (Place.ext (by rw [ha, hb, hn]) hm))
    · exact Or.inr (Or.inr (Or.inl h))

section

variable {α : Type} [HasMetadata α]

/-- The place of an object. -/
def placeOf (x : α) : Place := ⟨(HasMetadata.metadata x).ns, (HasMetadata.metadata x).nameAny⟩

/-- The version of an object. -/
def versionOf (x : α) : Option String := (HasMetadata.metadata x).resourceVersion

/-- The object with another version. -/
def withVersion (version : Option String) (x : α) : α :=
  HasMetadata.withMetadata { HasMetadata.metadata x with resourceVersion := version } x

end

end CordonWatch
