import CordonWatch.Proofs.Watch.PodIndex
import Mathlib.Data.List.Induction

/-!
# Buckets and the keys in them

The index keeps the same thing twice: the pods in buckets by node, and for each key the
node in whose bucket its pod stands. `Placement.InOrder` says that the two agree, that
every pod stands where it belongs, and that nothing is left of a node whose last pod went.

Any sequence of changes to an empty placement leaves it in order, and so both placements
of an index are in order after any events (`inOrder_placeAll`). That buckets and nodes
agree comes from the table of pods that the placement shows (`Placement.Shows`); what a
table cannot show is an empty bucket, and of that `NoneEmpty` speaks.
-/

namespace CordonWatch.Watch

namespace Placement

/-- A change to a placement. -/
inductive Change where
  | upsert (pod : Pod)
  | remove (key : ObjectKey)

/-- Makes one change. -/
def place (p : Placement) : Change → Placement
  | .upsert pod => p.upsert pod
  | .remove key => p.remove key

/-- Makes a sequence of changes. -/
def placeAll (p : Placement) (changes : List Change) : Placement := changes.foldl place p

/-- The two maps of a placement are in order. -/
structure InOrder (p : Placement) : Prop where
  /-- The node of a key is known exactly if the bucket of the node has the key. -/
  nodeOf_iff : ∀ key node, p.nodeOf.find? key = some node ↔
    ∃ bucket, p.byNode.find? node = some bucket ∧ bucket.contains key = true
  /-- No key is in two buckets. -/
  oneBucket : ∀ {key node node' bucket bucket'},
    p.byNode.find? node = some bucket → bucket.contains key = true →
    p.byNode.find? node' = some bucket' → bucket'.contains key = true → node = node'
  /-- A pod stands under its own key, in the bucket of its node. -/
  belongs : ∀ {key node bucket pod}, p.byNode.find? node = some bucket →
    bucket.find? key = some pod → pod.key = key ∧ pod.node? = some node ∧ node ≠ ""
  /-- No bucket is empty. -/
  noneEmpty : ∀ {node bucket}, p.byNode.find? node = some bucket → bucket.size ≠ 0
  /-- A node that no key is on has no bucket. -/
  deserted : ∀ {node}, (∀ key, p.nodeOf.find? key ≠ some node) → p.byNode.find? node = none
  /-- Each key is counted in one bucket. -/
  size_eq : p.nodeOf.size = (p.byNode.values.map Table.size).sum

/-! ### No bucket is empty -/

/-- Every bucket has a pod. -/
def NoneEmpty (p : Placement) : Prop :=
  ∀ node bucket, p.byNode.find? node = some bucket → bucket.isEmpty = false

variable {p : Placement}

theorem noneEmpty_empty : NoneEmpty {} := fun _ _ h => nomatch h

theorem NoneEmpty.remove (h : p.NoneEmpty) (key : ObjectKey) : (p.remove key).NoneEmpty := by
  unfold Placement.remove
  cases p.nodeOf.find? key with
  | none => exact h
  | some node =>
    dsimp only
    cases hbucket : p.byNode.find? node with
    | none => exact h
    | some bucket =>
      intro node' bucket' hfind
      dsimp only at hfind
      cases hempty : (bucket.erase key).isEmpty with
      | true =>
        rw [if_pos hempty, Table.find?_erase] at hfind
        split at hfind
        · cases hfind
        · exact h node' bucket' hfind
      | false =>
        rw [if_neg (by rw [hempty]; exact Bool.false_ne_true), Table.find?_insert] at hfind
        split at hfind
        · cases hfind
          exact hempty
        · exact h node' bucket' hfind

theorem NoneEmpty.upsert (h : p.NoneEmpty) (pod : Pod) : (p.upsert pod).NoneEmpty := by
  have hremoved := h.remove pod.key
  unfold Placement.upsert
  generalize p.remove pod.key = p' at hremoved
  cases pod.node? with
  | none => exact hremoved
  | some node =>
    intro node' bucket' hfind
    dsimp only at hfind
    rw [Table.find?_insert] at hfind
    split at hfind
    · cases hfind
      refine Table.isEmpty_eq_false_iff.mpr ⟨pod.key, ?_⟩
      rw [Table.contains, Table.find?_insert, if_pos rfl]
      rfl
    · exact hremoved node' bucket' hfind

/-! ### A placement that shows a table is in order -/

variable {t : Table ObjectKey Pod}

/-- A bucket has the pods of the table that are on its node. -/
theorem Shows.find?_bucket (h : p.Shows t) {node : String} {bucket : Table ObjectKey Pod}
    (hbucket : p.byNode.find? node = some bucket) (key : ObjectKey) (pod : Pod) :
    bucket.find? key = some pod ↔ t.find? key = some pod ∧ pod.node? = some node := by
  have hfilter := h.bucket node
  rw [Placement.bucket, hbucket, Option.getD_some] at hfilter
  rw [hfilter, Table.find?_filter, Option.filter_eq_some_iff, decide_eq_true_iff]

/-- A node that a pod of the table is on has a bucket, and the bucket has the pod. -/
theorem Shows.exists_bucket (h : p.Shows t) {key : ObjectKey} {pod : Pod} {node : String}
    (hpod : t.find? key = some pod) (hnode : pod.node? = some node) :
    ∃ bucket, p.byNode.find? node = some bucket ∧ bucket.find? key = some pod := by
  cases hbucket : p.byNode.find? node with
  | some bucket => exact ⟨bucket, rfl, (h.find?_bucket hbucket key pod).mpr ⟨hpod, hnode⟩⟩
  | none =>
    have hfilter := h.bucket node
    rw [Placement.bucket, hbucket, Option.getD_none] at hfilter
    have hfind := congrArg (Table.find? · key) hfilter
    rw [Table.find?_empty, Table.find?_filter, hpod] at hfind
    simp [Option.filter, hnode] at hfind

theorem Shows.nodeOf_iff (h : p.Shows t) (key : ObjectKey) (node : String) :
    p.nodeOf.find? key = some node ↔
      ∃ bucket, p.byNode.find? node = some bucket ∧ bucket.contains key = true := by
  rw [h.nodeOf, Option.bind_eq_some_iff]
  constructor
  · rintro ⟨pod, hpod, hnode⟩
    obtain ⟨bucket, hbucket, hfind⟩ := h.exists_bucket hpod hnode
    exact ⟨bucket, hbucket, Option.isSome_iff_exists.mpr ⟨pod, hfind⟩⟩
  · rintro ⟨bucket, hbucket, hkey⟩
    obtain ⟨pod, hfind⟩ := Option.isSome_iff_exists.mp hkey
    exact ⟨pod, (h.find?_bucket hbucket key pod).mp hfind⟩

theorem Shows.inOrder (h : p.Shows t) (hkeyed : Keyed t) (hnone : p.NoneEmpty) : p.InOrder where
  nodeOf_iff := h.nodeOf_iff
  oneBucket := by
    intro key node node' bucket bucket' hbucket hkey hbucket' hkey'
    have hnode := (h.nodeOf_iff key node).mpr ⟨bucket, hbucket, hkey⟩
    have hnode' := (h.nodeOf_iff key node').mpr ⟨bucket', hbucket', hkey'⟩
    exact Option.some.inj (hnode.symm.trans hnode')
  belongs := by
    intro key node bucket pod hbucket hfind
    obtain ⟨hpod, hnode⟩ := (h.find?_bucket hbucket key pod).mp hfind
    exact ⟨hkeyed key pod hpod, hnode, (Pod.node?_eq_some_iff.mp hnode).2⟩
  noneEmpty := by
    intro node bucket hbucket hsize
    obtain ⟨key, hkey⟩ := Table.isEmpty_eq_false_iff.mp (hnone node bucket hbucket)
    rw [← Table.mem_keys_iff,
      List.eq_nil_of_length_eq_zero (bucket.length_keys.trans hsize)] at hkey
    cases hkey
  deserted := by
    intro node hnode
    rw [Option.eq_none_iff_forall_ne_some]
    intro bucket hbucket
    obtain ⟨key, hkey⟩ := Table.isEmpty_eq_false_iff.mp (hnone node bucket hbucket)
    exact hnode key ((h.nodeOf_iff key node).mpr ⟨bucket, hbucket, hkey⟩)
  size_eq := Table.size_eq_sum_size h.nodeOf_iff

/-! ### Any changes -/

theorem placeAll_concat (changes : List Change) (change : Change) :
    placeAll {} (changes ++ [change]) = (placeAll {} changes).place change := List.foldl_concat ..

/-- What any changes make of an empty placement shows some table of pods, each under
its own key, and has no empty bucket. -/
theorem exists_shows_placeAll (changes : List Change) :
    ∃ t, (placeAll {} changes).Shows t ∧ Keyed t ∧ (placeAll {} changes).NoneEmpty := by
  induction changes using List.reverseRecOn with
  | nil => exact ⟨Table.empty, shows_empty, keyed_empty, noneEmpty_empty⟩
  | append_singleton earlier change ih =>
    obtain ⟨t, hshows, hkeyed, hnone⟩ := ih
    rw [placeAll_concat]
    cases change with
    | upsert pod =>
      exact ⟨t.insert pod.key pod, hshows.upsert pod, hkeyed.insert pod, hnone.upsert pod⟩
    | remove key => exact ⟨t.erase key, hshows.remove key, hkeyed.erase key, hnone.remove key⟩

end Placement

namespace PodIndex

open Placement

/-- Both placements of an index are what some changes make of an empty one. -/
theorem exists_changes (events : List (Event Pod)) :
    (∃ changes, (applyAll {} events).live = placeAll {} changes) ∧
      ∃ changes, (applyAll {} events).staged.getD {} = placeAll {} changes := by
  induction events using List.reverseRecOn with
  | nil => exact ⟨⟨[], rfl⟩, ⟨[], rfl⟩⟩
  | append_singleton earlier event ih =>
    obtain ⟨⟨changes, hlive⟩, ⟨collected, hstaged⟩⟩ := ih
    rw [applyAll, List.foldl_concat]
    change (∃ _, ((applyAll {} earlier).apply event).live = _) ∧
      ∃ _, ((applyAll {} earlier).apply event).staged.getD {} = _
    -- The end of a list takes over what it has collected, with the changes that made it.
    generalize applyAll {} earlier = ix at hlive hstaged
    cases event with
    | init => exact ⟨⟨changes, hlive⟩, ⟨[], rfl⟩⟩
    | initApply pod =>
      refine ⟨⟨changes, hlive⟩, ⟨collected ++ [.upsert pod], ?_⟩⟩
      rw [placeAll_concat, ← hstaged]
      rfl
    | initDone => exact ⟨⟨collected, hstaged⟩, ⟨[], rfl⟩⟩
    | apply pod =>
      refine ⟨⟨changes ++ [.upsert pod], ?_⟩, ⟨collected, hstaged⟩⟩
      rw [placeAll_concat, ← hlive]
      rfl
    | delete pod =>
      refine ⟨⟨changes ++ [.remove pod.key], ?_⟩, ⟨collected, hstaged⟩⟩
      rw [placeAll_concat, ← hlive]
      rfl

end PodIndex

/-- Whatever is changed in an empty placement, its two maps stay in order. So do those of
both placements of an index, whatever events it takes in: of the one that readers see,
and of the one that a running list has collected so far. -/
theorem Placement.inOrder_placeAll :
    (∀ changes, (placeAll {} changes).InOrder) ∧
      ∀ events : List (Event Pod), (PodIndex.applyAll {} events).live.InOrder ∧
        ((PodIndex.applyAll {} events).staged.getD {}).InOrder := by
  have hany : ∀ changes, (placeAll {} changes).InOrder := by
    intro changes
    obtain ⟨t, hshows, hkeyed, hnone⟩ := exists_shows_placeAll changes
    exact hshows.inOrder hkeyed hnone
  refine ⟨hany, fun events => ?_⟩
  obtain ⟨⟨changes, hlive⟩, ⟨collected, hstaged⟩⟩ := PodIndex.exists_changes events
  rw [hlive, hstaged]
  exact ⟨hany changes, hany collected⟩

end CordonWatch.Watch
