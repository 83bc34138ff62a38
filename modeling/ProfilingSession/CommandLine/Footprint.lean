import ProfilingSession.CommandLine.Invocation

/-!
# Footprints

The paths that a command looks at or changes by itself, whatever the programs do that it launches.
-/

namespace ProfilingSession

open FileTree (Path)

namespace Generation

/-- The paths that a request is about. -/
def Request.paths (request : Request) : List Path :=
  [request.directory, Path.join request.directory Catalog.fileName] ++
    (request.profiler.map (selectionPath request.directory)).toList ++
    request.template.toList ++ [request.output]

end Generation

namespace HeaderSet

def Request.paths (request : Request) : List Path :=
  [request.directory, Path.join request.directory Catalog.fileName, request.output] ++
    request.template.toList ++
    Profiler.all.map (Generation.selectionPath request.directory) ++
    Profiler.all.map (headerPath request)

end HeaderSet

namespace Plan

def paths (plan : Plan) : List Path :=
  let channels := plan.channels
  let ids := (List.range (channels.high + 1 - channels.low)).map fun n => channels.low + n
  [plan.consumer, plan.producer, plan.logDirectory, plan.consumerLog, plan.producerLog,
    channels.directory] ++ ids.map channels.segment ++ ids.map channels.marker

end Plan

namespace CommandLine

def Command.paths : Command → List Path
  | .generate request => request.paths
  | .run options =>
    (options.headerRequest.map Generation.Request.paths).getD [] ++
      (options.plan.toOption.map Plan.paths).getD [] ++
      [options.record, options.artifact, options.outputPath]

end CommandLine

end ProfilingSession
