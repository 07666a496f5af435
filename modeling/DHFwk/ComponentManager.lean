import DHFwk.SinkStatus
import DHFwk.SourceStatus

/-!
# Both sides of the component manager

`ComponentManager` puts the source side and the sink side together. Each has its own record
and its own lock, and an operation of one side leaves the other as it is.
-/

namespace DHFwk

/-- The source side and the sink side, with the worlds that their calls run on. -/
structure ComponentManager (L L' W W' : Type) where
  source : SourceManager L W
  sink : SinkManager L' W'

/-- An operation of either side. -/
inductive ComponentOp
  | source (op : SourceOp)
  | sink (op : SinkOp)
  deriving DecidableEq, Repr

/-- Run an operation on its side. -/
def ComponentOp.run {L L' W W' : Type} (q : Queries) (c : SourceCalls W) (c' : SinkCalls W')
    (m : ComponentManager L L' W W') : ComponentOp → Int × ComponentManager L L' W W'
  | .source op =>
    let r := op.run q c m.source
    (r.1, { m with source := r.2 })
  | .sink op =>
    let r := op.run q c' m.sink
    (r.1, { m with sink := r.2 })

end DHFwk
