/-!
# Profilers

The analyses that the consumer of events can run. Each has a name on the command line, a name in
records, the number by which the consumer knows it, and the file that lists the events it
consumes.
-/

namespace ProfilingSession

/-- An analysis that the consumer can run. -/
inductive Profiler where
  /-- Memory dependences carried by loops. -/
  | dependence
  /-- Dependences together with the calling context. -/
  | contextDependence
  /-- What pointers point to. -/
  | pointsTo
  /-- Prediction of loaded values. -/
  | loadedValue
  /-- Lifetime of objects within the iterations of loops. -/
  | objectLifetime
  /-- Dependences across the whole program. -/
  | wholeProgram
  /-- Privatization. -/
  | privatization
  deriving DecidableEq, Repr

namespace Profiler

def all : List Profiler :=
  [.dependence, .contextDependence, .pointsTo, .loadedValue, .objectLifetime, .wholeProgram,
    .privatization]

/-- The name on the command line. -/
def name : Profiler → String
  | .dependence => "dep"
  | .contextDependence => "dep-context"
  | .pointsTo => "pt"
  | .loadedValue => "lv"
  | .objectLifetime => "ol"
  | .wholeProgram => "wp-dep"
  | .privatization => "privateer"

/-- The name in records. -/
def recordName : Profiler → String
  | .dependence => "dep"
  | .contextDependence => "dep-context"
  | .pointsTo => "points-to"
  | .loadedValue => "loaded-value"
  | .objectLifetime => "object-lifetime"
  | .wholeProgram => "whole-program-dep"
  | .privatization => "privateer"

/-- The number by which the consumer knows the analysis. Dependences with and without context are
one analysis there; the events that are sent make the difference. -/
def index : Profiler → Nat
  | .dependence => 0
  | .contextDependence => 0
  | .pointsTo => 1
  | .loadedValue => 2
  | .objectLifetime => 3
  | .wholeProgram => 4
  | .privatization => 5

/-- The file, within a directory of specifications, that lists the events of the analysis. -/
def eventsFile : Profiler → String
  | .dependence => "DepModEvents.yaml"
  | .contextDependence => "DepModule_TrackContext_Events.yaml"
  | .pointsTo => "PointsToModEvents.yaml"
  | .loadedValue => "LoadedValueModEvents.yaml"
  | .objectLifetime => "ObjectLifetimeModEvents.yaml"
  | .wholeProgram => "WholeProgramDepModEvents.yaml"
  | .privatization => "PrivateerProfilerEvents.yaml"

/-- Whether the consumer can share the analysis among threads. -/
def sharesThreads : Profiler → Bool
  | .objectLifetime => false
  | .privatization => false
  | _ => true

def ofName? (text : String) : Option Profiler :=
  if text = "lt" then some .objectLifetime
  else all.find? fun profiler => profiler.name == text

/-- What is said about a name that no analysis has. -/
def unknownMessage (text : String) : String :=
  "unknown module '" ++ text ++ "' (expected one of: " ++ ", ".intercalate (all.map name) ++ ")"

end Profiler

end ProfilingSession
