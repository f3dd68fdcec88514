import CordonWatch.Proofs.Table
import CordonWatch.Watch.PodIndex

/-!
# The index shows the pods as they are

Beside the index stands a `Roster`: the pods that a watch tells of in one plain
table by key, and those of a running list in another. Nothing is sorted by
node there; the pods of a node are found by going through all of them. After
any events, in whatever order, the index answers what the roster answers
(`podsOn_applyAll`): the pods of a node are those that a scan of the roster
finds, by namespace and name, and a list is seen when it is complete and not
before.

`Placement.Shows` ties buckets to a table. Taking a pod out and putting one in
keep it up (`Shows.remove`, `Shows.upsert`), and so does every event
(`PodIndex.Shows.apply`); no proof beside these opens an operation of the index.
-/

namespace CordonWatch

/-- A pod is on a node if it is assigned to it by a name that is not empty. -/
theorem Pod.node?_eq_some_iff {pod : Pod} {node : String} :
    pod.node? = some node ↔ pod.nodeName = some node ∧ node ≠ "" := by
  unfold Pod.node?
  rw [Option.filter_eq_some_iff]
  simp

namespace Watch

/-! ### Plain tables of pods -/

/-- The pods that a watch has told of: those that readers see, and those that a
running list has told of so far. -/
structure Roster where
  live : Table ObjectKey Pod := Table.empty
  staged : Table ObjectKey Pod := Table.empty

namespace Roster

/-- Takes in one event. -/
def apply (r : Roster) : Event Pod → Roster
  | .init => { r with staged := Table.empty }
  | .initApply pod => { r with staged := r.staged.insert pod.key pod }
  | .initDone => { live := r.staged, staged := Table.empty }
  | .apply pod => { r with live := r.live.insert pod.key pod }
  | .delete pod => { r with live := r.live.erase pod.key }

/-- Takes in a sequence of events. -/
def applyAll (r : Roster) (events : List (Event Pod)) : Roster := events.foldl apply r

/-- The pods assigned to a node, found by going through all of them. -/
def podsOn (r : Roster) (node : String) : List Pod :=
  r.live.values.filter fun pod => decide (pod.nodeName = some node ∧ node ≠ "")

/-- The pods that are assigned to some node. -/
def assigned (r : Roster) : List Pod :=
  r.live.values.filter fun pod => pod.nodeName.any (· ≠ "")

end Roster

/-- Each pod stands under its own key. -/
def Keyed (t : Table ObjectKey Pod) : Prop := ∀ key pod, t.find? key = some pod → pod.key = key

theorem Keyed.insert {t : Table ObjectKey Pod} (h : Keyed t) (pod : Pod) :
    Keyed (t.insert pod.key pod) := by
  intro key p hp
  rw [Table.find?_insert] at hp
  split at hp
  next hkey =>
    cases hp
    exact hkey
  next => exact h key p hp

theorem Keyed.erase {t : Table ObjectKey Pod} (h : Keyed t) (key : ObjectKey) :
    Keyed (t.erase key) := by
  intro key' p hp
  rw [Table.find?_erase] at hp
  split at hp
  · cases hp
  · exact h key' p hp

theorem keyed_empty : Keyed Table.empty := fun _ _ hp => nomatch hp

/-- Where each pod stands under its own key, the pods come by namespace and name. -/
theorem Keyed.values_ascending {t : Table ObjectKey Pod} (h : Keyed t) :
    t.values.Pairwise fun p q => p.key < q.key := by
  have hkey : ∀ e ∈ t.entries, e.2.key = e.1 :=
    fun e he => h e.1 e.2 ((Table.mem_entries_iff t e.1 e.2).mp he)
  refine List.pairwise_map.mpr (t.ascending.imp_of_mem fun ha hb hlt => ?_)
  rw [hkey _ ha, hkey _ hb]
  exact hlt

theorem Keyed.mem_values_iff {t : Table ObjectKey Pod} (h : Keyed t) {pod : Pod} :
    pod ∈ t.values ↔ t.find? pod.key = some pod := by
  rw [Table.mem_values_iff]
  constructor
  · rintro ⟨key, hkey⟩
    rw [h key pod hkey]
    exact hkey
  · exact fun hpod => ⟨pod.key, hpod⟩

theorem keyed_foldl_insert (pods : List Pod) {t : Table ObjectKey Pod} (ht : Keyed t) :
    Keyed (pods.foldl (fun t p => t.insert p.key p) t) := by
  induction pods generalizing t with
  | nil => exact ht
  | cons p rest ih => exact ih (ht.insert p)

/-- Pods of different keys are all there when they have been put into a table one after
the other. -/
theorem mem_values_foldl_insert {pods : List Pod} (hd : (pods.map Pod.key).Nodup) {pod : Pod} :
    ∀ {t : Table ObjectKey Pod}, Keyed t → (∀ p ∈ pods, t.find? p.key = none) →
      (pod ∈ (pods.foldl (fun t p => t.insert p.key p) t).values ↔
        pod ∈ pods ∨ pod ∈ t.values) := by
  induction pods with
  | nil =>
    intro t _ _
    simp
  | cons p rest ih =>
    intro t ht hfresh
    obtain ⟨hp, hrest⟩ := List.nodup_cons.mp hd
    have hother : ∀ q ∈ rest, p.key ≠ q.key := fun q hq he => hp (he ▸ List.mem_map_of_mem hq)
    refine (ih hrest (ht.insert p) fun q hq => ?_).trans ?_
    · rw [Table.find?_insert, if_neg (hother q hq)]
      exact hfresh q (List.mem_cons_of_mem _ hq)
    · rw [(ht.insert p).mem_values_iff, ht.mem_values_iff, Table.find?_insert, List.mem_cons]
      by_cases hkey : p.key = pod.key
      · rw [if_pos hkey, ← hkey, hfresh p (List.mem_cons_self ..)]
        simp [eq_comm, or_comm]
      · have hne : pod ≠ p := fun he => hkey (he ▸ rfl)
        simp [if_neg hkey, hne]

/-! ### Buckets by node -/

namespace Placement

/-- The pods in the bucket of a node. A node without a bucket has none. -/
def bucket (p : Placement) (node : String) : Table ObjectKey Pod :=
  (p.byNode.find? node).getD Table.empty

theorem podsOn_eq_values (p : Placement) (node : String) :
    p.podsOn node = (p.bucket node).values := by
  unfold podsOn bucket
  cases p.byNode.find? node with
  | none => rfl
  | some bucket => rfl

/-- Placed pods are those of a table that are on a node: the bucket of a node
has its pods, and of each key it is known on which node its pod is. -/
structure Shows (p : Placement) (t : Table ObjectKey Pod) : Prop where
  nodeOf : ∀ key, p.nodeOf.find? key = (t.find? key).bind Pod.node?
  bucket : ∀ node, p.bucket node = t.filter fun _ pod => decide (pod.node? = some node)

variable {p : Placement} {t : Table ObjectKey Pod}

theorem shows_empty : Shows {} Table.empty where
  nodeOf := fun _ => rfl
  bucket := fun _ => rfl

/-- Taking a key out of the bucket in which it stands leaves the others alone,
whether or not the bucket goes with it. -/
theorem bucket_remove {key : ObjectKey} {node : String} (h : p.nodeOf.find? key = some node)
    (node' : String) :
    (p.remove key).bucket node'
      = if node' = node then (p.bucket node).erase key else p.bucket node' := by
  unfold remove bucket
  rw [h]
  dsimp only
  cases hbucket : p.byNode.find? node with
  | none =>
    dsimp only
    split
    next hnode => rw [hnode, hbucket]; rfl
    next => rfl
  | some b =>
    dsimp only [Option.getD_some]
    cases hempty : (b.erase key).isEmpty with
    | true =>
      rw [if_pos rfl, Table.find?_erase]
      split
      · exact (Table.eq_empty_of_isEmpty hempty).symm
      · rfl
    | false =>
      rw [if_neg Bool.false_ne_true, Table.find?_insert]
      split
      next hnode => rw [if_pos hnode.symm]; rfl
      next hnode => rw [if_neg (Ne.symm hnode)]

/-- Taking out a key that stands in no bucket changes nothing. -/
theorem remove_of_not_placed {key : ObjectKey} (h : p.nodeOf.find? key = none) :
    p.remove key = p := by
  unfold remove
  rw [h]

theorem Shows.remove (h : p.Shows t) (key : ObjectKey) : (p.remove key).Shows (t.erase key) := by
  cases hplaced : p.nodeOf.find? key with
  | none =>
    -- The table may have a pod of that key, but then it is on no node.
    have hnone : (t.find? key).bind Pod.node? = none := (h.nodeOf key).symm.trans hplaced
    rw [remove_of_not_placed hplaced]
    refine ⟨fun key' => ?_, fun node => ?_⟩
    · rw [h.nodeOf, Table.find?_erase]
      split
      next hkey => rw [hkey, hnone]; rfl
      next => rfl
    · rw [h.bucket, Table.filter_erase, Table.erase_of_find?_eq_none]
      rw [Table.find?_filter]
      cases hpod : t.find? key with
      | none => rfl
      | some pod =>
        rw [hpod] at hnone
        simp [Option.filter, show pod.node? = none from hnone]
  | some node =>
    refine ⟨fun key' => ?_, fun node' => ?_⟩
    · rw [show (p.remove key).nodeOf = p.nodeOf.erase key by rw [Placement.remove, hplaced],
        Table.find?_erase, Table.find?_erase, h.nodeOf]
      split
      · rfl
      · rfl
    · rw [bucket_remove hplaced, h.bucket, h.bucket, Table.filter_erase]
      split
      next hnode => rw [hnode]
      next hnode =>
        -- The pod of the key is on another node, so it is not in this bucket.
        refine (Table.erase_of_find?_eq_none ?_).symm
        have hon := (h.nodeOf key).symm.trans hplaced
        rw [Table.find?_filter]
        cases hpod : t.find? key with
        | none => rfl
        | some pod =>
          rw [hpod] at hon
          have hne : pod.node? ≠ some node' := by
            rw [show pod.node? = some node from hon]
            exact fun he => hnode (Option.some.inj he).symm
          simp [Option.filter, hne]

theorem bucket_insert (p : Placement) (nodeOf : Table ObjectKey String) (node node' : String)
    (b : Table ObjectKey Pod) :
    bucket { nodeOf, byNode := p.byNode.insert node b } node'
      = if node = node' then b else p.bucket node' := by
  unfold bucket
  rw [Table.find?_insert]
  split
  · rfl
  · rfl

theorem Shows.upsert (h : p.Shows t) (pod : Pod) :
    (p.upsert pod).Shows (t.insert pod.key pod) := by
  have hremoved := h.remove pod.key
  -- What was there under the key is out of the way first.
  rw [← Table.insert_erase]
  unfold Placement.upsert
  generalize p.remove pod.key = p' at hremoved
  have hgone : (t.erase pod.key).find? pod.key = none := by rw [Table.find?_erase, if_pos rfl]
  generalize t.erase pod.key = t' at hremoved hgone
  cases hnode : pod.node? with
  | none =>
    refine ⟨fun key => ?_, fun node => ?_⟩
    · rw [hremoved.nodeOf, Table.find?_insert]
      split
      next hkey =>
        rw [← hkey, hgone]
        exact hnode.symm
      next => rfl
    · rw [hremoved.bucket, Table.filter_insert, if_neg (by simp [hnode]),
        Table.erase_of_find?_eq_none]
      rw [Table.find?_filter, hgone]
      rfl
  | some node =>
    refine ⟨fun key => ?_, fun node' => ?_⟩
    · rw [Table.find?_insert, Table.find?_insert, hremoved.nodeOf]
      split
      · exact hnode.symm
      · rfl
    · rw [bucket_insert, Table.filter_insert, hremoved.bucket]
      by_cases hsame : node = node'
      · rw [if_pos hsame, if_pos (by simp [hnode, hsame]), ← hsame]
        exact congrArg (Table.insert · pod.key pod) (hremoved.bucket node)
      · rw [if_neg hsame, if_neg (by simp [hnode, hsame]), Table.erase_of_find?_eq_none]
        rw [Table.find?_filter, hgone]
        rfl

/-- The pods of a node are those of the table that are on it. -/
theorem Shows.podsOn (h : p.Shows t) (node : String) :
    p.podsOn node = t.values.filter fun pod => decide (pod.node? = some node) := by
  rw [podsOn_eq_values, h.bucket, Table.values_filter]

/-- The size is the number of pods of the table that are on a node. -/
theorem Shows.size (h : p.Shows t) :
    p.size = (t.values.filter fun pod => pod.node?.isSome).length := by
  have hsize : p.nodeOf.size = (t.filter fun _ pod => pod.node?.isSome).size := by
    refine Table.size_eq_of_find?_isSome fun key => ?_
    rw [h.nodeOf, Table.find?_filter]
    cases t.find? key with
    | none => rfl
    | some pod => cases hnode : pod.node? <;> simp [Option.filter, hnode]
  rw [Placement.size, hsize, ← Table.values_filter, Table.values, List.length_map, Table.size]

end Placement

/-! ### The index beside the roster -/

namespace PodIndex

/-- The index shows what the roster has, and collects what the roster collects. -/
structure Shows (ix : PodIndex) (r : Roster) : Prop where
  live : ix.live.Shows r.live
  staged : (ix.staged.getD {}).Shows r.staged
  liveKeyed : Keyed r.live
  stagedKeyed : Keyed r.staged

variable {ix : PodIndex} {r : Roster}

theorem shows_empty : Shows {} {} :=
  ⟨Placement.shows_empty, Placement.shows_empty, keyed_empty, keyed_empty⟩

/-- Every event keeps the index in step with the roster. -/
theorem Shows.apply (h : ix.Shows r) (event : Event Pod) :
    (ix.apply event).Shows (r.apply event) := by
  cases event with
  | init => exact ⟨h.live, Placement.shows_empty, h.liveKeyed, keyed_empty⟩
  | initApply pod => exact ⟨h.live, h.staged.upsert pod, h.liveKeyed, h.stagedKeyed.insert pod⟩
  | initDone => exact ⟨h.staged, Placement.shows_empty, h.stagedKeyed, keyed_empty⟩
  | apply pod => exact ⟨h.live.upsert pod, h.staged, h.liveKeyed.insert pod, h.stagedKeyed⟩
  | delete pod => exact ⟨h.live.remove pod.key, h.staged, h.liveKeyed.erase pod.key, h.stagedKeyed⟩

theorem Shows.applyAll (h : ix.Shows r) (events : List (Event Pod)) :
    (ix.applyAll events).Shows (r.applyAll events) := by
  induction events generalizing ix r with
  | nil => exact h
  | cons event rest ih => exact ih (h.apply event)

theorem Shows.podsOn (h : ix.Shows r) (node : String) : ix.podsOn node = r.podsOn node := by
  refine (h.live.podsOn node).trans (List.filter_congr fun pod _ => ?_)
  exact decide_eq_decide.mpr Pod.node?_eq_some_iff

theorem Shows.ascending (h : ix.Shows r) (node : String) :
    (ix.podsOn node).Pairwise fun p q => p.key < q.key := by
  rw [h.podsOn]
  exact h.liveKeyed.values_ascending.filter _

theorem Shows.size (h : ix.Shows r) : ix.size = r.assigned.length := by
  refine (h.live.size).trans (congrArg List.length (List.filter_congr fun pod _ => ?_))
  unfold Pod.node?
  cases pod.nodeName with
  | none => rfl
  | some name => by_cases hname : name = "" <;> simp [Option.filter, hname]

/-- After a list the live pods are those of the list, put one after the other. -/
theorem live_listing (ix : PodIndex) (pods : List Pod) :
    (ix.applyAll (Event.listing pods)).live = pods.foldl Placement.upsert {} := by
  have hstaged : ∀ (p : Placement) (ix : PodIndex), ix.staged = some p →
      ((pods.map Event.initApply).foldl apply ix).staged
        = some (pods.foldl Placement.upsert p) := by
    induction pods with
    | nil => exact fun p ix h => h
    | cons pod rest ih =>
      intro p ix h
      refine ih (p.upsert pod) (ix.apply (.initApply pod)) ?_
      rw [apply, h]
      rfl
  unfold applyAll Event.listing
  rw [List.foldl_append, List.foldl_append]
  show (((pods.map Event.initApply).foldl apply (ix.apply .init)).staged.getD {}) = _
  rw [hstaged {} (ix.apply .init) rfl]
  rfl

/-- After a list of pods with different keys the index has exactly the pods of the list. -/
theorem podsOn_listing (ix : PodIndex) {pods : List Pod} (hd : (pods.map Pod.key).Nodup)
    (node : String) :
    ((ix.applyAll (Event.listing pods)).podsOn node).Pairwise (fun p q => p.key < q.key) ∧
      ∀ pod, pod ∈ (ix.applyAll (Event.listing pods)).podsOn node
        ↔ pod ∈ pods ∧ pod.node? = some node := by
  have hshows : ∀ {p : Placement} {t : Table ObjectKey Pod}, p.Shows t →
      (pods.foldl Placement.upsert p).Shows (pods.foldl (fun t pod => t.insert pod.key pod) t) := by
    clear hd
    induction pods with
    | nil => exact fun h => h
    | cons pod rest ih => exact fun h => ih (h.upsert pod)
  have hlive : (ix.applyAll (Event.listing pods)).live.Shows _ :=
    live_listing ix pods ▸ hshows Placement.shows_empty
  have hpods := hlive.podsOn node
  refine ⟨?_, fun pod => ?_⟩
  · rw [podsOn, hpods]
    exact (keyed_foldl_insert pods keyed_empty).values_ascending.filter _
  · rw [podsOn, hpods, List.mem_filter, decide_eq_true_iff,
      mem_values_foldl_insert hd keyed_empty fun _ _ => rfl]
    simp [Table.values, Table.empty]

/-- The index is ready once some list was completed. -/
theorem ready_applyAll (ix : PodIndex) (events : List (Event Pod)) :
    (ix.applyAll events).ready = true ↔ ix.ready = true ∨ .initDone ∈ events := by
  induction events generalizing ix with
  | nil => simp [applyAll]
  | cons event rest ih =>
    rw [show ix.applyAll (event :: rest) = (ix.apply event).applyAll rest from rfl, ih]
    cases event <;> simp [apply]

/-- After any events the index answers as the roster does. The pods of a node
are those that a scan finds, each once and by namespace and name; the size is
the number of pods that are on a node; and the index is ready exactly if some
list was completed. -/
theorem podsOn_applyAll (events : List (Event Pod)) :
    (∀ node,
      (applyAll {} events).podsOn node = (Roster.applyAll {} events).podsOn node ∧
      ((applyAll {} events).podsOn node).Pairwise (fun p q => p.key < q.key) ∧
      ∀ pod, pod ∈ (applyAll {} events).podsOn node ↔
        (Roster.applyAll {} events).live.find? pod.key = some pod ∧
          pod.nodeName = some node ∧ node ≠ "") ∧
    (applyAll {} events).size = (Roster.applyAll {} events).assigned.length ∧
    ((applyAll {} events).ready = true ↔ .initDone ∈ events) := by
  have h := shows_empty.applyAll events
  refine ⟨fun node => ⟨h.podsOn node, h.ascending node, fun pod => ?_⟩, h.size, ?_⟩
  · rw [h.podsOn, Roster.podsOn, List.mem_filter, h.liveKeyed.mem_values_iff, decide_eq_true_iff]
  · rw [ready_applyAll]
    simp

end PodIndex

end Watch

end CordonWatch
