import CordonWatch.Proofs.Store.Shelf
import CordonWatch.Store.Memory

/-!
# What calls do to a store in memory

One statement for each way in which a store in memory changes: what putting a
pod or an autoscaler leaves as it was (`putPod_eq`, `putAutoscaler_eq`), that a
read leaves all objects alone (`Untouched.of_read`), and what an accepted write
stores (`updatePodStatus_ok`, `updateAutoscaler_ok`). Proofs about passes cite
these and open no operation of the store.

A pass takes time, and its own writes may reach the caches or not, each of
them by itself. `handlerUnder` answers calls like `Memory.handler`, but asks
the state for the time of a clock reading, and whether the caches lag.
-/

namespace CordonWatch.Store

/-- What a call writes, if it is a write: the kind and the place of the object. -/
def Call.target? : Call → Option (CordonWatch.Kind × Place)
  | .updatePodStatus pod => some (.pod, placeOf pod)
  | .updateAutoscaler a => some (.autoscaler, placeOf a)
  | .getNode _ | .podsOnNode _ | .listAutoscalers _ | .getBudget _ _ => none

namespace Memory

/-- The writes among the calls so far, in order. -/
def writes (m : Memory) : List (CordonWatch.Kind × Place) := m.calls.filterMap Call.target?

/-- Runs programs where each state has its own time, and says by itself
whether the caches lag. -/
def handlerUnder (clock : Memory → Instant) (lags : Memory → Bool) :
    Program.Handler Call Call.Answer Memory where
  answer call m := answer call { m with lag := lags m }
  clock := clock
  record := record

/-- The store's own handler has the store's time and lag. -/
theorem handlerUnder_now_lag : handlerUnder now lag = handler := rfl

/-! ### Changes -/

theorem putPod_eq (m : Memory) (pod : Pod) :
    ∃ index logs, m.putPod pod = { m with pods := Shelf.put pod m.pods, index, logs } := by
  unfold putPod tellIndex
  dsimp only
  split
  · exact ⟨_, _, rfl⟩
  · exact ⟨_, _, rfl⟩

/-- Putting an autoscaler changes the autoscalers on the server, and the
cached ones alike or not at all. -/
theorem putAutoscaler_eq (m : Memory) (a : Autoscaler) :
    ∃ cached, (cached = m.cached ∨ cached = Shelf.put a m.cached) ∧
      m.putAutoscaler a = { m with autoscalers := Shelf.put a m.autoscalers, cached } := by
  unfold putAutoscaler
  dsimp only
  split
  · exact ⟨_, Or.inl rfl, rfl⟩
  · exact ⟨_, Or.inr rfl, rfl⟩

/-- Putting an autoscaler where one stands does not change the places of the cached ones,
whether the cache follows or not. -/
theorem places_putAutoscaler {m : Memory} {cached : Shelf Autoscaler} {a : Autoscaler}
    (hcached : cached = m.cached ∨ cached = Shelf.put a m.cached)
    (hthere : placeOf a ∈ Shelf.places m.cached) : Shelf.places cached = Shelf.places m.cached := by
  rcases hcached with rfl | rfl
  · rfl
  · obtain ⟨b, hb⟩ := Shelf.exists_at?_of_mem_places hthere
    exact Shelf.places_put hb

theorem at?_putAutoscaler {m : Memory} {cached : Shelf Autoscaler} {a : Autoscaler} {place : Place}
    (hcached : cached = m.cached ∨ cached = Shelf.put a m.cached) (hplace : placeOf a ≠ place) :
    Shelf.at? place cached = Shelf.at? place m.cached := by
  rcases hcached with rfl | rfl
  · rfl
  · rw [Shelf.at?_put, if_neg hplace]

/-- From one state to another nothing was written: all objects are as they
were, and if calls were made they only read. -/
structure Untouched (m m' : Memory) : Prop where
  nodes : m'.nodes = m.nodes
  budgets : m'.budgets = m.budgets
  pods : m'.pods = m.pods
  autoscalers : m'.autoscalers = m.autoscalers
  index : m'.index = m.index
  cached : m'.cached = m.cached
  faults : m'.faults = m.faults
  now : m'.now = m.now
  calls : m.calls <+: m'.calls
  writes : m'.writes = m.writes

theorem Untouched.refl (m : Memory) : Untouched m m :=
  ⟨rfl, rfl, rfl, rfl, rfl, rfl, rfl, rfl, List.prefix_refl _, rfl⟩

theorem Untouched.trans {m₁ m₂ m₃ : Memory} (h₁ : Untouched m₁ m₂) (h₂ : Untouched m₂ m₃) :
    Untouched m₁ m₃ where
  nodes := h₂.nodes.trans h₁.nodes
  budgets := h₂.budgets.trans h₁.budgets
  pods := h₂.pods.trans h₁.pods
  autoscalers := h₂.autoscalers.trans h₁.autoscalers
  index := h₂.index.trans h₁.index
  cached := h₂.cached.trans h₁.cached
  faults := h₂.faults.trans h₁.faults
  now := h₂.now.trans h₁.now
  calls := h₁.calls.trans h₂.calls
  writes := h₂.writes.trans h₁.writes

theorem Untouched.of_record {clock : Memory → Instant} {lags : Memory → Bool} (note : Note)
    (m : Memory) : Untouched m ((handlerUnder clock lags).record note m) := by
  cases note <;> exact ⟨rfl, rfl, rfl, rfl, rfl, rfl, rfl, rfl, List.prefix_refl _, rfl⟩

/-! ### Calls -/

variable {clock : Memory → Instant} {lags : Memory → Bool} {m : Memory}

/-- The state in which a call is performed that meets with no fault. -/
def asked (lags : Memory → Bool) (call : Call) (m : Memory) : Memory :=
  { m with calls := m.calls ++ [call], lag := lags m, faults := [] }

/-- Where no faults are scheduled a call is recorded and performed. -/
theorem answer_of_no_faults (h : m.faults = []) (call : Call) :
    (handlerUnder clock lags).answer call m = (m.asked lags call).perform call := by
  simp only [handlerUnder, answer, h, Fault.meet_nil, asked]

theorem writes_asked (lags : Memory → Bool) (call : Call) :
    (m.asked lags call).writes = m.writes ++ call.target?.toList := by
  cases h : call.target? <;> simp [writes, asked, h]

/-- To be asked for something to read changes nothing. -/
theorem Untouched.of_read (h : m.faults = []) {call : Call} (hread : call.target? = none) :
    Untouched m (m.asked lags call) where
  nodes := rfl
  budgets := rfl
  pods := rfl
  autoscalers := rfl
  index := rfl
  cached := rfl
  faults := h.symm
  now := rfl
  calls := List.prefix_append _ _
  writes := by rw [writes_asked, hread]; exact List.append_nil _

/-- A status written over the version it was read at is stored. -/
theorem updatePodStatus_ok {pod stored : Pod}
    (hstored : Shelf.at? (placeOf pod) m.pods = some stored)
    (hversion : versionOf stored = versionOf pod) :
    m.updatePodStatus pod =
      (.ok (), m.putPod (withVersion (some (nextVersion (versionOf stored)))
        { stored with status := pod.status })) := by
  unfold updatePodStatus
  rw [hstored]
  dsimp only
  rw [if_neg (fun hne => hne hversion)]

/-- An autoscaler written over the version it was read at is stored. -/
theorem updateAutoscaler_ok {a stored : Autoscaler}
    (hstored : Shelf.at? (placeOf a) m.autoscalers = some stored)
    (hversion : versionOf stored = versionOf a) :
    m.updateAutoscaler a =
      (.ok (withVersion (some (nextVersion (versionOf stored))) a),
        m.putAutoscaler (withVersion (some (nextVersion (versionOf stored))) a)) := by
  unfold updateAutoscaler
  rw [hstored]
  dsimp only
  rw [if_neg (fun hne => hne hversion)]

end Memory

end CordonWatch.Store
