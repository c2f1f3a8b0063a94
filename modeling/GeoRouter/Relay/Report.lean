import GeoRouter.Relay.Line
import GeoRouter.Text.Quoted
import GeoRouter.Text.Utf8

/-!
# The report of a run

The lines that the relay prints, and the code that it exits with.
-/

namespace GeoRouter.Relay

namespace Event

def text : Event → String
  | .placed index address latitude => s!"station {index}: {address.text} at {latitude.toInt}"
  | .sent destination => s!"station 0: sent to {destination.text}"
  | .unsent reason => s!"station 0: could not send, Some(Err({reason.name}))"
  | .forwarded index nextHop => s!"station {index}: forwarded to {nextHop.text}"
  | .dropped index none => s!"station {index}: dropped, None"
  | .dropped index (some cause) => s!"station {index}: dropped, Some({cause.name})"
  | .received payload => s!"received {Quoted.text (Utf8.decode payload)}"
  | .delivered index => s!"station {index}: delivered"

end Event

def settingLines (settings : Settings) : List String :=
  Setting.all.map fun setting => s!"{setting.name} = {(settings.get setting).text}"

structure Report where
  lines : List String
  code : UInt32
  deriving DecidableEq

namespace Report

def misused : Report := ⟨[], 1⟩

def brokenOff (lines : List String) : Report := ⟨lines, 101⟩

end Report

/-- Runs the relay as the words of a command line ask for it, at a time in milliseconds since the
Unix epoch. -/
def report (words : List String) (now : Nat) : Report :=
  match Options.ofArguments? words with
  | none => .misused
  | some (options, payload) =>
    match options.settings? with
    | .error _ => .brokenOff []
    | .ok settings =>
      let shown := if options.verbose then settingLines settings else []
      match options.line settings now with
      | .error _ => .brokenOff shown
      | .ok line =>
        let shown := shown ++ (placements line).map Event.text
        match run? Geodesy.distance line now (Utf8.encode payload) with
        | none => .brokenOff shown
        | some events => ⟨shown ++ events.map Event.text, 0⟩

end GeoRouter.Relay
