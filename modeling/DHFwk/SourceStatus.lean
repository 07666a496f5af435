import DHFwk.Gate

/-!
# Enabling and disabling sources

The lock-delimited bodies of `component_manager.cpp` that write `dhSourceStatus_` :
`EnableSourceInternal`, `DisableSourceInternal`, `ForceDisableSourceInternal`,
`EnableMetaSource`, `DisableMetaSource`, and the two recovery steps
`ResetSourceEnableStatus` and `RecoverActiveEnableSource`.

`SourceCalls W` are the calls they make on the loaded component and the modem extension.
They run on a world `W` and their codes are theirs to choose, so a body is a function of
the status, of the world and of the calls. The modem extension is told the network id
only; the hardware id and the type name the hardware the call is made for.
-/

namespace DHFwk

/-- The calls the source side makes under its lock. -/
structure SourceCalls (W : Type) where
  initCompSource : DHType → Call W
  uninitCompSource : DHType → (keepSAMonitor : Bool) → Call W
  startSource : DHType → Call W
  stopSource : DHType → Call W
  waitForResult : Action → DHType → W → Bool × W
  enable : (networkId uuid dhId : String) → DHType → (isActive : Bool) →
    (customParams : String) → Call W
  disable : (networkId uuid dhId : String) → DHType → Call W
  modemEnable : (networkId dhId : String) → DHType → Call W
  modemDisable : (networkId dhId : String) → DHType → Call W

namespace SourceCalls

variable {W : Type} (c : SourceCalls W) (dhType : DHType)

/-- `InitCompSource`, `StartSource` and the wait for it; a wait that answers false
unloads the component again. -/
def load : Call W :=
  (c.initCompSource dhType).andThen <| (c.startSource dhType).andThen <|
    (Call.ofBool (c.waitForResult .START_SOURCE dhType)
      ERR_DH_FWK_COMPONENT_ENABLE_TIMEOUT).orUndo (c.uninitCompSource dhType false)

/-- `StopSource`, the wait for it, and `UninitCompSource`. -/
def unload : Call W :=
  (c.stopSource dhType).andThen <|
    (Call.ofBool (c.waitForResult .STOP_SOURCE dhType)
      ERR_DH_FWK_COMPONENT_DISABLE_TIMEOUT).andThen (c.uninitCompSource dhType false)

/-- What a failed first enable does : `StopSource` and `UninitCompSource`. -/
def abandon : Call W :=
  (c.stopSource dhType).ignoring (c.uninitCompSource dhType false)

end SourceCalls

/-- The source side of the component manager. -/
structure SourceManager (L W : Type) where
  dhSourceStatus_ : Table DHType (DHSourceStatus L) := ∅
  world : W

section bodies

variable {L W : Type} (q : Queries) (c : SourceCalls W) (networkId uuid : String)
  (d : DHDescriptor)

/-- `CheckEnableSourceParam`. -/
def checkEnableSourceParam : Int :=
  if ¬q.isDHTypeSupport d.dhType then ERR_DH_FWK_TYPE_NOT_EXIST
  else checkAudioConfigGate q networkId d "source"

/-- The calls of `RealEnableSource`. -/
def realEnableSource (isActive : Bool) : Call W :=
  (c.load d.dhType).andThen <|
    (c.enable networkId uuid d.id d.dhType isActive d.customParams).orUndo (c.abandon d.dhType)

/-- The calls of `RealDisableSource`. -/
def realDisableSource : Call W :=
  (c.disable networkId uuid d.id d.dhType).andThen (c.unload d.dhType)

/-- The calls of `EnableMetaSourceInternal`. -/
def enableMetaSourceInternal : Call W :=
  (c.load d.dhType).andThen <| (c.modemEnable networkId d.id d.dhType).orUndo (c.abandon d.dhType)

/-- The calls of `DisableMetaSourceInternal` : the code of the modem is only logged. -/
def disableMetaSourceInternal : Call W :=
  (c.modemDisable networkId d.id d.dhType).ignoring (c.unload d.dhType)

/-- The caller of the automatic enables and of the modem enables. -/
def autoCaller : DHStatusCtrlKey := { uid := 0, pid := 0 }

/-- The part of `EnableSourceInternal` under the lock, on the status of its type. -/
def enableSourceStatus (caller : DHStatusCtrlKey) (s : DHSourceStatus L) (w : W) :
    Int × DHSourceStatus L × W :=
  let k : DHStatusSourceEnableInfoKey := { networkId := networkId, dhId := d.id }
  let s' := s.touch k caller
  if s.enableState k caller = .ENABLED then settle .success s' s' w
  else if s.refEnable k ≠ 0 then settle .success s' (s.addRef k caller) w
  else if s.refLoad ≠ 0 then
    settle (c.enable networkId uuid d.id d.dhType caller.isActive d.customParams)
      s' (s.addRef k caller) w
  else settle (realEnableSource c networkId uuid d caller.isActive) s' (s.firstRef k caller) w

/-- The part of `DisableSourceInternal` under the lock, on the status of its type. -/
def disableSourceStatus (caller : DHStatusCtrlKey) (s : DHSourceStatus L) (w : W) :
    Int × DHSourceStatus L × W :=
  let k : DHStatusSourceEnableInfoKey := { networkId := networkId, dhId := d.id }
  let s' := s.touch k caller
  if s.enableState k caller = .DISABLED then settle .success s' s' w
  else if s.refEnable k > 1 then settle .success s' (s.deleteRef k caller) w
  else if s.refLoad > 1 then
    settle (c.disable networkId uuid d.id d.dhType) s' (s.deleteRef k caller) w
  else settle (realDisableSource c networkId uuid d) s' (s.lastRef k caller) w

/-- The part of `EnableMetaSource` under the lock, on the status of its type. -/
def enableMetaSourceStatus (s : DHSourceStatus L) (w : W) : Int × DHSourceStatus L × W :=
  let k : DHStatusSourceEnableInfoKey := { networkId := networkId, dhId := d.id }
  let s' := s.touch k autoCaller
  if s.enableState k autoCaller = .ENABLED then (ERR_DH_FWK_COMPONENT_REPEAT_CALL, s', w)
  else if s.refEnable k > 0 then settle .success s' (s.addRef k autoCaller) w
  else if s.refLoad > 0 then
    settle ((c.modemEnable networkId d.id d.dhType).orCode ERR_DH_FWK_PARA_INVALID)
      s' (s.addRef k autoCaller) w
  else settle (enableMetaSourceInternal c networkId d) s' (s.firstRef k autoCaller) w

/-- The part of `DisableMetaSource` under the lock, on the status of its type : with other
hardware loaded the code of the modem is only logged. -/
def disableMetaSourceStatus (s : DHSourceStatus L) (w : W) : Int × DHSourceStatus L × W :=
  let k : DHStatusSourceEnableInfoKey := { networkId := networkId, dhId := d.id }
  let s' := s.touch k autoCaller
  if s.enableState k autoCaller = .DISABLED then (ERR_DH_FWK_COMPONENT_REPEAT_CALL, s', w)
  else if s.refEnable k > 1 then settle .success s' (s.deleteRef k autoCaller) w
  else if s.refLoad > 1 then
    settle ((c.modemDisable networkId d.id d.dhType).ignoring .success) s' (s.deleteRef k autoCaller) w
  else settle (disableMetaSourceInternal c networkId d) s' (s.lastRef k autoCaller) w

/-- The part of `ForceDisableSourceInternal` after its entry is found, on the status of its
type : the entry goes once the hardware is disabled, before the component is unloaded. -/
def forceDisableSourceStatus (s : DHSourceStatus L) (w : W) : Int × DHSourceStatus L × W :=
  let k : DHStatusSourceEnableInfoKey := { networkId := networkId, dhId := d.id }
  let (ret, w) := c.disable networkId uuid d.id d.dhType w
  if ret ≠ DH_FWK_SUCCESS then (ret, s, w)
  else
    let s' := s.drop k
    if s'.refLoad > 0 then (DH_FWK_SUCCESS, s', w)
    else settle (c.unload d.dhType) s' s' w

end bodies

namespace SourceManager

variable {L W : Type} (q : Queries) (c : SourceCalls W) (networkId : String) (d : DHDescriptor)
  (m : SourceManager L W)

/-- `dhSourceStatus_[dhType]`. -/
def status (dhType : DHType) : DHSourceStatus L :=
  m.dhSourceStatus_.get dhType

/-- Write back the status of a type. -/
def put (dhType : DHType) (r : Int × DHSourceStatus L × W) : Int × SourceManager L W :=
  (r.1, { dhSourceStatus_ := m.dhSourceStatus_.set dhType r.2.1, world := r.2.2 })

/-- `EnableSourceInternal`. -/
def enableSourceInternal (caller : DHStatusCtrlKey) : Int × SourceManager L W :=
  let paramRet := checkEnableSourceParam q networkId d
  if paramRet ≠ DH_FWK_SUCCESS then (paramRet, m)
  else m.put d.dhType <|
    enableSourceStatus c networkId (q.getUUIDByNetworkId networkId) d caller
      (m.status d.dhType) m.world

/-- `DisableSourceInternal`. -/
def disableSourceInternal (caller : DHStatusCtrlKey) : Int × SourceManager L W :=
  if ¬q.isDHTypeSupport d.dhType then (ERR_DH_FWK_TYPE_NOT_EXIST, m)
  else m.put d.dhType <|
    disableSourceStatus c networkId (q.getUUIDByNetworkId networkId) d caller
      (m.status d.dhType) m.world

/-- The listener that `EnableSourceInternal` and `DisableSourceInternal` hand to their
caller, once their checks are passed. -/
def callerListener (caller : DHStatusCtrlKey) : Option L :=
  (m.status d.dhType).listeners.lookup caller

/-- `EnableMetaSource`. -/
def enableMetaSource : Int × SourceManager L W :=
  m.put d.dhType <| enableMetaSourceStatus c networkId d (m.status d.dhType) m.world

/-- `DisableMetaSource`. -/
def disableMetaSource : Int × SourceManager L W :=
  m.put d.dhType <| disableMetaSourceStatus c networkId d (m.status d.dhType) m.world

/-- `ForceDisableSourceInternal`. -/
def forceDisableSourceInternal : Int × SourceManager L W :=
  let s := m.status d.dhType
  match s.enableInfos.lookup { networkId := networkId, dhId := d.id } with
  | none => m.put d.dhType (ERR_DH_FWK_COMPONENT_REPEAT_CALL, s, m.world)
  | some _ => m.put d.dhType <|
      forceDisableSourceStatus c networkId (q.getUUIDByNetworkId networkId) d s m.world

/-- The listeners that `ForceDisableSourceInternal` collects : those of the callers it
finds enabled. They are told when it succeeds. -/
def forceListeners : List L :=
  (m.status d.dhType).enabledListeners { networkId := networkId, dhId := d.id }

/-- `ResetSourceEnableStatus`. -/
def resetSourceEnableStatus (dhType : DHType) (keepSAMonitor : Bool) : SourceManager L W :=
  let w := (c.uninitCompSource dhType keepSAMonitor m.world).2
  match m.dhSourceStatus_.lookup dhType with
  | none => { m with world := w }
  | some s =>
    { dhSourceStatus_ := m.dhSourceStatus_.set dhType s.resetEnableStatus, world := w }

/-- `RecoverActiveEnableSource`. -/
def recoverActiveEnableSource (dhType : DHType) : SourceManager L W :=
  match m.dhSourceStatus_.lookup dhType with
  | none => m
  | some s =>
    { m with dhSourceStatus_ := m.dhSourceStatus_.set dhType s.recoverActiveEnable }

theorem status_resetSourceEnableStatus_eq (dhType : DHType) (keepSAMonitor : Bool) (t : DHType) :
    (m.resetSourceEnableStatus c dhType keepSAMonitor).status t =
      if t = dhType then (m.status t).resetEnableStatus else m.status t :=
  Table.get_of_update rfl (fun h => by simp [resetSourceEnableStatus, h])
    (fun s h => by simp [resetSourceEnableStatus, h]) t

theorem status_recoverActiveEnableSource_eq (dhType t : DHType) :
    (m.recoverActiveEnableSource dhType).status t =
      if t = dhType then (m.status t).recoverActiveEnable else m.status t :=
  Table.get_of_update rfl (fun h => by simp [recoverActiveEnableSource, h])
    (fun s h => by simp [recoverActiveEnableSource, h]) t

theorem status_resetSourceEnableStatus (dhType : DHType) (keepSAMonitor : Bool) :
    (m.resetSourceEnableStatus c dhType keepSAMonitor).status dhType =
      (m.status dhType).resetEnableStatus :=
  (m.status_resetSourceEnableStatus_eq c dhType keepSAMonitor dhType).trans (if_pos rfl)

theorem status_recoverActiveEnableSource (dhType : DHType) :
    (m.recoverActiveEnableSource dhType).status dhType =
      (m.status dhType).recoverActiveEnable :=
  (m.status_recoverActiveEnableSource_eq dhType dhType).trans (if_pos rfl)

theorem world_recoverActiveEnableSource (dhType : DHType) :
    (m.recoverActiveEnableSource dhType).world = m.world := by
  unfold recoverActiveEnableSource
  split <;> rfl

theorem world_resetSourceEnableStatus (dhType : DHType) (keepSAMonitor : Bool) :
    (m.resetSourceEnableStatus c dhType keepSAMonitor).world =
      (c.uninitCompSource dhType keepSAMonitor m.world).2 := by
  unfold resetSourceEnableStatus
  split <;> rfl

/-- The enable tasks that `RecoverActiveEnableSource` pushes : the hardware and the caller
of each. -/
def recoverTasks (dhType : DHType) : List (DHStatusSourceEnableInfoKey × DHStatusCtrlKey) :=
  (m.status dhType).activeEnabled

end SourceManager

/-! ## The bodies as steps -/

/-- The bodies, with their arguments. -/
inductive SourceOp
  | enableSource (networkId : String) (d : DHDescriptor) (caller : DHStatusCtrlKey)
  | disableSource (networkId : String) (d : DHDescriptor) (caller : DHStatusCtrlKey)
  | forceDisableSource (networkId : String) (d : DHDescriptor)
  | enableMetaSource (networkId : String) (d : DHDescriptor)
  | disableMetaSource (networkId : String) (d : DHDescriptor)
  | resetSourceEnableStatus (dhType : DHType) (keepSAMonitor : Bool)
  | recoverActiveEnableSource (dhType : DHType)
  deriving DecidableEq, Repr

/-- Run a body; the recovery steps return nothing, read as success. -/
def SourceOp.run {L W : Type} (q : Queries) (c : SourceCalls W) (m : SourceManager L W) :
    SourceOp → Int × SourceManager L W
  | .enableSource networkId d caller => m.enableSourceInternal q c networkId d caller
  | .disableSource networkId d caller => m.disableSourceInternal q c networkId d caller
  | .forceDisableSource networkId d => m.forceDisableSourceInternal q c networkId d
  | .enableMetaSource networkId d => m.enableMetaSource c networkId d
  | .disableMetaSource networkId d => m.disableMetaSource c networkId d
  | .resetSourceEnableStatus dhType keep =>
    (DH_FWK_SUCCESS, m.resetSourceEnableStatus c dhType keep)
  | .recoverActiveEnableSource dhType => (DH_FWK_SUCCESS, m.recoverActiveEnableSource dhType)

end DHFwk
