import GeoRouter.Router.LocationTable

/-!
# Duplicate detection

A packet is known by its source, and by a timestamp and a sequence number of that source. It is
fresh if the source has no entry in the location table, or if timestamp and number are newer than
those of the last packet that was taken from it, the number deciding only between equal timestamps.
A fresh packet becomes the last one taken.
-/

namespace GeoRouter

inductive Freshness where
  | fresh
  | duplicate
  deriving DecidableEq

namespace Freshness

def name : Freshness → String
  | .fresh => "Fresh"
  | .duplicate => "Duplicate"

end Freshness

namespace LocationTable

def detect (table : LocationTable) (mid : Mid) (sequence : SequenceNumber)
    (timestamp : Timestamp) : Freshness × LocationTable :=
  match table.find? mid with
  | none => (.fresh, table)
  | some entry =>
    if timestamp.newer entry.timestamp ||
        (timestamp = entry.timestamp && sequence.newer entry.sequence) then
      (.fresh, table.modify mid fun entry => { entry with timestamp, sequence })
    else (.duplicate, table)

/-- Tests a packet without sequence number by its timestamp alone. -/
def detectTimestamp (table : LocationTable) (mid : Mid) (timestamp : Timestamp) :
    Freshness × LocationTable :=
  match table.find? mid with
  | none => (.fresh, table)
  | some entry =>
    if timestamp.newer entry.timestamp then
      (.fresh, table.modify mid fun entry => { entry with timestamp })
    else (.duplicate, table)

/-- Tests the packet in a string of octets, of which the registry says where the fields are. None
if it has no address or no timestamp. -/
def detectPacket? (table : LocationTable) (b : Bytes) :
    Except Fault (Option (Freshness × LocationTable)) := do
  match ← FixedHeader.sourceAddress? b, ← FixedHeader.timestamp? b with
  | some source, some timestamp =>
    match ← FixedHeader.sequenceNumber? b with
    | some sequence => return some (table.detect source.mid sequence timestamp)
    | none => return some (table.detectTimestamp source.mid timestamp)
  | _, _ => return none

end LocationTable
end GeoRouter
