import Mathlib.Data.Finmap
import Mzani.State.Metrics

/-!
# Snapshots and reports

What is read off the metrics: the snapshot for embedders and the report of the
log, with the average latency computed in each of them.
-/

namespace Mzani

open Support

structure MetricsSnapshot where
  totalRequests : U64
  totalBytesProxied : U64
  poolRejected : U64
  droppedLogs : U64
  avgLatency : Duration
  lastRequestDuration : Duration
  perBackend : Finmap fun _ : SocketAddr => BackendMetrics

/-- `u32::try_from(count).unwrap_or(1)` -/
def u32OrOne (count : U64) : Nat :=
  if count.val < u32Limit then count else 1

namespace Metrics

/-- Builds a point-in-time snapshot. -/
def snapshot (metrics : Metrics) (droppedLogs : U64) : MetricsSnapshot where
  totalRequests := metrics.totalRequests
  totalBytesProxied := metrics.totalBytesProxied
  poolRejected := metrics.poolRejected
  droppedLogs := droppedLogs
  avgLatency :=
    if 0 < metrics.totalRequests then
      metrics.totalDuration / u32OrOne metrics.totalRequests
    else 0
  lastRequestDuration := metrics.lastRequestDuration
  perBackend := metrics.perBackend.toFinmap

end Metrics

/-! ## Reports -/

/-- The digits after the point, without trailing zeros. -/
def fractionText : (digits : Nat) → (fraction : Nat) → Text
  | 0, _ => []
  | digits + 1, fraction =>
      if fraction = 0 then []
      else
        Nat.digitChar (fraction / 10 ^ digits) ::
          fractionText digits (fraction % 10 ^ digits)

/-- `fmt_decimal` of the standard library, without a precision. -/
def fmtDecimal (integer fraction digits : Nat) (unit : String) : Text :=
  let fractional := fractionText digits fraction
  decimal integer ++ (if fractional = [] then [] else '.' :: fractional) ++ unit.toList

/-- `Debug for Duration` -/
def Duration.debug (duration : Duration) : Text :=
  let secs := duration / 1000000000
  let nanos := duration % 1000000000
  if 0 < secs then fmtDecimal secs nanos 9 "s"
  else if 1000000 ≤ nanos then fmtDecimal (nanos / 1000000) (nanos % 1000000) 6 "ms"
  else if 1000 ≤ nanos then fmtDecimal (nanos / 1000) (nanos % 1000) 3 "µs"
  else fmtDecimal nanos 0 0 "ns"

example : Duration.debug 2000000050 = "2.00000005s".toList := by decide +kernel

/-- What a report shows of floating-point numbers, and the order in which it
goes over the backends. -/
structure ReportTexts where
  uptime : Text
  requestsPerSecond : Text
  /-- a number of bytes in KB, MB or GB -/
  scaled : Nat → Text
  order : (entries : List (Sigma fun _ : SocketAddr => BackendMetrics)) →
    { ordered : List (Sigma fun _ : SocketAddr => BackendMetrics) // ordered.Perm entries }

namespace ReportTexts

variable (texts : ReportTexts)

def formatBytes (bytes : Nat) : Text :=
  if 1024 ≤ bytes then texts.scaled bytes else decimal bytes ++ " bytes".toList

/-- A line of the report. -/
def line (label : String) (text : Text) : Text :=
  label.toList ++ text ++ ['\n']

def backendLine (entry : Sigma fun _ : SocketAddr => BackendMetrics) : Text :=
  "   ".toList ++ formatAddr entry.1 ++ " requests=".toList ++ decimal entry.2.requests.val ++
    " errors=".toList ++ decimal entry.2.errors.val ++ ['\n']

/-- Builds a human-readable metrics report. -/
def formatReport (metrics : Metrics) : Text :=
  let avgLatency :=
    if 0 < metrics.totalRequests then
      metrics.totalDuration / u32OrOne metrics.totalRequests
    else 0
  let summary :=
    line "--- [ LOAD BALANCER METRICS ] ---" [] ++
    line "Uptime            : " (texts.uptime ++ ['s']) ++
    line "Total Requests    : " (decimal metrics.totalRequests.val) ++
    line "Pool Rejected     : " (decimal metrics.poolRejected.val) ++
    line "Throughput        : " (texts.formatBytes metrics.totalBytesProxied.val) ++
    line "Avg Latency       : " (Duration.debug avgLatency) ++
    line "Last Req Duration : " (Duration.debug metrics.lastRequestDuration) ++
    line "Largest Payload   : " (texts.formatBytes metrics.largestRequestBytes) ++
    line "Requests / Sec    : " texts.requestsPerSecond
  let backends :=
    if metrics.perBackend.entries = [] then []
    else
      line " Per-Backend:" [] ++
        ((texts.order metrics.perBackend.entries).val.map backendLine).flatten
  summary ++ backends ++ " ---------------------------------".toList

/-- Structured log record for periodic aggregate snapshots. -/
def snapshotRecord (metrics : Metrics) : LogRecord :=
  (LogRecord.new .info "metrics_snapshot" .metrics)
    |>.field "total_requests" (decimal metrics.totalRequests.val)
    |>.field "report" (texts.formatReport metrics)

end ReportTexts

end Mzani
