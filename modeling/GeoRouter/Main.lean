import GeoRouter.Relay.Report
import Std.Time.DateTime.Timestamp

/-!
# The relay as a program

Prints what happens to one packet on a line of stations.
-/

namespace GeoRouter

def usage : String := "usage: relay [--stations N] [--spacing N] [--latitude N] [--longitude N] " ++
  "[--hop-limit N] [--lifetime SECONDS] [--seed N] [--verbose] PAYLOAD"

def unixMillis : IO Nat := do
  return (← Std.Time.Timestamp.now).toMillisecondsSinceUnixEpoch.val.toNat

end GeoRouter

def main (words : List String) : IO UInt32 := do
  let report := GeoRouter.Relay.report words (← GeoRouter.unixMillis)
  if report = .misused then IO.eprintln GeoRouter.usage
  report.lines.forM IO.println
  return report.code
