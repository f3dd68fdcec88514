import CordonWatch.Cluster.Caches
import CordonWatch.Store.Call

/-!
# The store over the caches and the API server

A pass that runs against a cluster reads from the caches and writes to the API
server. A `Link` is what that takes: a look at the caches, a way to send a
write, the clock, and a place for notes. Reads never fail; a write that is
refused for its version is a conflict, and any other failed write a failure of
the API.

The cache of the autoscalers gives them in an order of its own, which may be
another one at every look. It is a part of the link.
-/

namespace CordonWatch.Cluster

/-- How a pass reaches a cluster. -/
structure Link (σ : Type) where
  caches : σ → Caches
  /-- The cached autoscalers, in the order in which the cache gives them. By place
  unless said otherwise. -/
  listed : σ → List Autoscaler := fun s => (caches s).autoscalers.live.values
  listed_perm : ∀ s, (listed s).Perm (caches s).autoscalers.live.values := by
    exact fun _ => List.Perm.refl _
  /-- Sends a write, and gives back what is stored. -/
  send : (w : Api.Write) → σ → Except Api.RequestFailure w.Stored × σ
  clock : σ → Instant
  record : Note → σ → σ

namespace Link

variable {σ : Type}

/-- The cached autoscalers of a namespace, as the cache gives them. -/
def inNamespace (l : Link σ) (ns : String) (s : σ) : List Autoscaler :=
  (l.listed s).filter fun a => decide (a.metadata.ns = some ns)

/-- Sends a write of an autoscaler. -/
def replace (l : Link σ) (a : Autoscaler) (s : σ) : Except Failure Autoscaler × σ :=
  let (answer, s) := l.send (.autoscaler a) s
  (answer.mapError Api.RequestFailure.toFailure, s)

/-- Sends a write of the conditions of a pod. -/
def patch (l : Link σ) (pod : Pod) (s : σ) : Except Failure Unit × σ :=
  let (answer, s) := l.send (.podConditions pod) s
  ((answer.map fun _ => ()).mapError Api.RequestFailure.toFailure, s)

/-- Answers a call of a pass. -/
def answer (l : Link σ) (call : Store.Call) (s : σ) : call.Answer × σ :=
  match call with
  | .getNode name => (.ok ((l.caches s).node? name), s)
  | .podsOnNode name => (.ok ((l.caches s).pods.podsOn name), s)
  | .listAutoscalers ns => (.ok (l.inNamespace ns s), s)
  | .getBudget ns name => (.ok ((l.caches s).budgets.find? ⟨some ns, name⟩), s)
  | .updatePodStatus pod => l.patch pod s
  | .updateAutoscaler a => l.replace a s

/-- Runs passes against a cluster. -/
def handler (l : Link σ) : Program.Handler Store.Call Store.Call.Answer σ where
  answer := l.answer
  clock := l.clock
  record := l.record

end Link

end CordonWatch.Cluster
