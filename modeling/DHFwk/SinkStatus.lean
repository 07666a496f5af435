import DHFwk.Gate

/-!
# Enabling and disabling sinks

The lock-delimited bodies of `component_manager.cpp` that write `dhSinkStatus_` :
`EnableSinkInternal`, `DisableSinkInternal`, `ForceDisableSinkInternal`,
`ResetSinkEnableStatus` and `RecoverActiveEnableSink`.

A sink is one component for all its hardware : nothing is enabled or disabled for a single
piece, so a second caller adds to the counts without a call whichever hardware it names,
and the disable tests either count where the source side tests one after the other.
-/

namespace DHFwk

/-- The calls the sink side makes under its lock. `configDistributedHardware` looks up the
loaded sink itself and does nothing if there is none. -/
structure SinkCalls (W : Type) where
  initCompSink : DHType → Call W
  uninitCompSink : DHType → (keepSAMonitor : Bool) → Call W
  startSink : DHType → Call W
  stopSink : DHType → Call W
  waitForResult : Action → DHType → W → Bool × W
  configDistributedHardware : DHType → (dhId customParams : String) → W → W

namespace SinkCalls

variable {W : Type} (c : SinkCalls W) (dhType : DHType)

/-- `StartSinkAndWait`. -/
def startSinkAndWait : Call W :=
  (c.initCompSink dhType).andThen <| (c.startSink dhType).andThen <|
    (Call.ofBool (c.waitForResult .START_SINK dhType)
      ERR_DH_FWK_COMPONENT_ENABLE_TIMEOUT).orUndo (c.uninitCompSink dhType false)

/-- `StopSink`, the wait for it, and `UninitCompSink`. -/
def unload : Call W :=
  (c.stopSink dhType).andThen <|
    (Call.ofBool (c.waitForResult .STOP_SINK dhType)
      ERR_DH_FWK_COMPONENT_DISABLE_TIMEOUT).andThen (c.uninitCompSink dhType false)

/-- Hand the parameters of the first caller, if it has any, to the sink. -/
def configure (d : DHDescriptor) : Call W := fun w =>
  (DH_FWK_SUCCESS, if d.customParams = "" then w
    else c.configDistributedHardware d.dhType d.id d.customParams w)

end SinkCalls

/-- The sink side of the component manager. -/
structure SinkManager (L W : Type) where
  dhSinkStatus_ : Table DHType (DHSinkStatus L) := ∅
  world : W

section bodies

variable {L W : Type} (c : SinkCalls W) (d : DHDescriptor)

/-- The part of `EnableSinkInternal` under the lock, on the status of its type. -/
def enableSinkStatus (caller : DHStatusCtrlKey) (s : DHSinkStatus L) (w : W) :
    Int × DHSinkStatus L × W :=
  let s' := s.touch d.id caller
  if s.enableState d.id caller = .ENABLED then settle .success s' s' w
  else if s.refEnable d.id ≠ 0 ∨ s.refLoad ≠ 0 then settle .success s' (s.addRef d.id caller) w
  else settle ((c.startSinkAndWait d.dhType).andThen (c.configure d)) s'
    (s.firstRef d.id caller) w

/-- The part of `DisableSinkInternal` after its check, on the status of its type. -/
def disableSinkStatus (caller : DHStatusCtrlKey) (s : DHSinkStatus L) (w : W) :
    Int × DHSinkStatus L × W :=
  let s' := s.touch d.id caller
  if s.enableState d.id caller = .DISABLED then settle .success s' s' w
  else if s.refEnable d.id > 1 ∨ s.refLoad > 1 then
    settle .success s' (s.deleteRef d.id caller) w
  else settle (c.unload d.dhType) s' (s.lastRef d.id caller) w

/-- The part of `ForceDisableSinkInternal` after its entry is found, on the status of its
type : the entry goes before the component is unloaded. -/
def forceDisableSinkStatus (s : DHSinkStatus L) (w : W) : Int × DHSinkStatus L × W :=
  let s' := s.drop d.id
  if s'.refLoad > 0 then settle .success s' s' w
  else settle (c.unload d.dhType) s' s' w

end bodies

namespace SinkManager

variable {L W : Type} (q : Queries) (c : SinkCalls W) (d : DHDescriptor) (m : SinkManager L W)

/-- `dhSinkStatus_[dhType]`. -/
def status (dhType : DHType) : DHSinkStatus L :=
  m.dhSinkStatus_.get dhType

/-- Write back the status of a type. -/
def put (dhType : DHType) (r : Int × DHSinkStatus L × W) : Int × SinkManager L W :=
  (r.1, { dhSinkStatus_ := m.dhSinkStatus_.set dhType r.2.1, world := r.2.2 })

/-- `EnableSinkInternal`. -/
def enableSinkInternal (caller : DHStatusCtrlKey) : Int × SinkManager L W :=
  if ¬q.isDHTypeSupport d.dhType then (ERR_DH_FWK_TYPE_NOT_EXIST, m)
  else
    let gateRet := checkAudioConfigGate q q.getLocalNetworkId d "sink"
    if gateRet ≠ DH_FWK_SUCCESS then (gateRet, m)
    else m.put d.dhType <| enableSinkStatus c d caller (m.status d.dhType) m.world

/-- `DisableSinkInternal`. -/
def disableSinkInternal (caller : DHStatusCtrlKey) : Int × SinkManager L W :=
  if ¬q.isDHTypeSupport d.dhType then (ERR_DH_FWK_TYPE_NOT_EXIST, m)
  else m.put d.dhType <| disableSinkStatus c d caller (m.status d.dhType) m.world

/-- The listener that `EnableSinkInternal` and `DisableSinkInternal` hand to their caller,
once their checks are passed. -/
def callerListener (caller : DHStatusCtrlKey) : Option L :=
  (m.status d.dhType).listeners.lookup caller

/-- `ForceDisableSinkInternal`. -/
def forceDisableSinkInternal : Int × SinkManager L W :=
  if ¬q.isDHTypeSupport d.dhType then (ERR_DH_FWK_TYPE_NOT_EXIST, m)
  else
    let s := m.status d.dhType
    match s.enableInfos.lookup d.id with
    | none => m.put d.dhType (ERR_DH_FWK_COMPONENT_REPEAT_CALL, s, m.world)
    | some _ => m.put d.dhType <| forceDisableSinkStatus c d s m.world

/-- The listeners that `ForceDisableSinkInternal` collects : those of the callers it finds
enabled. They are told when it succeeds. -/
def forceListeners : List L :=
  (m.status d.dhType).enabledListeners d.id

/-- `ResetSinkEnableStatus`. -/
def resetSinkEnableStatus (dhType : DHType) (keepSAMonitor : Bool) : SinkManager L W :=
  let w := (c.uninitCompSink dhType keepSAMonitor m.world).2
  match m.dhSinkStatus_.lookup dhType with
  | none => { m with world := w }
  | some s => { dhSinkStatus_ := m.dhSinkStatus_.set dhType s.resetEnableStatus, world := w }

/-- `RecoverActiveEnableSink`. -/
def recoverActiveEnableSink (dhType : DHType) : SinkManager L W :=
  match m.dhSinkStatus_.lookup dhType with
  | none => m
  | some s => { m with dhSinkStatus_ := m.dhSinkStatus_.set dhType s.recoverActiveEnable }

theorem status_resetSinkEnableStatus_eq (dhType : DHType) (keepSAMonitor : Bool) (t : DHType) :
    (m.resetSinkEnableStatus c dhType keepSAMonitor).status t =
      if t = dhType then (m.status t).resetEnableStatus else m.status t :=
  Table.get_of_update rfl (fun h => by simp [resetSinkEnableStatus, h])
    (fun s h => by simp [resetSinkEnableStatus, h]) t

theorem status_recoverActiveEnableSink_eq (dhType t : DHType) :
    (m.recoverActiveEnableSink dhType).status t =
      if t = dhType then (m.status t).recoverActiveEnable else m.status t :=
  Table.get_of_update rfl (fun h => by simp [recoverActiveEnableSink, h])
    (fun s h => by simp [recoverActiveEnableSink, h]) t

/-- The enable tasks that `RecoverActiveEnableSink` pushes : the hardware and the caller of
each. -/
def recoverTasks (dhType : DHType) : List (String × DHStatusCtrlKey) :=
  (m.status dhType).activeEnabled

end SinkManager

/-! ## The bodies as steps -/

/-- The bodies, with their arguments. -/
inductive SinkOp
  | enableSink (d : DHDescriptor) (caller : DHStatusCtrlKey)
  | disableSink (d : DHDescriptor) (caller : DHStatusCtrlKey)
  | forceDisableSink (d : DHDescriptor)
  | resetSinkEnableStatus (dhType : DHType) (keepSAMonitor : Bool)
  | recoverActiveEnableSink (dhType : DHType)
  deriving DecidableEq, Repr

/-- Run a body; the recovery steps return nothing, read as success. -/
def SinkOp.run {L W : Type} (q : Queries) (c : SinkCalls W) (m : SinkManager L W) :
    SinkOp → Int × SinkManager L W
  | .enableSink d caller => m.enableSinkInternal q c d caller
  | .disableSink d caller => m.disableSinkInternal q c d caller
  | .forceDisableSink d => m.forceDisableSinkInternal q c d
  | .resetSinkEnableStatus dhType keep =>
    (DH_FWK_SUCCESS, m.resetSinkEnableStatus c dhType keep)
  | .recoverActiveEnableSink dhType => (DH_FWK_SUCCESS, m.recoverActiveEnableSink dhType)

end DHFwk
