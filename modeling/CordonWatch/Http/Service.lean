import CordonWatch.Http.Basic
import CordonWatch.Metrics

/-!
# The services of the controller

The metrics are served by one service, and two probes by another: that the
process is alive, and that its caches are filled.
-/

namespace CordonWatch.Http

/-- The service of the metrics. -/
def metricsService (m : Metrics) : List Page :=
  [{ path := "/metrics"
     contentType := "text/plain; version=0.0.4; charset=utf-8"
     body := m.expose }]

/-- The service of the probes, where `ready` says that the caches are filled. -/
def probeService (ready : Bool) : List Page :=
  [{ path := "/healthz", body := "ok" },
   if ready then { path := "/readyz", body := "ok" }
   else { path := "/readyz", status := 503, body := "caches not synced" }]

end CordonWatch.Http
