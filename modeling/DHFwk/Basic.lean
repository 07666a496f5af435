import DHFwk.Table

/-!
# Hardware types, descriptors, return codes

The data that the services pass to each other : `DHType` and `DHSubtype` of
`device_type.h`, the descriptor of a piece of hardware, and the return codes of
`distributed_hardware_errno.h` that the modelled functions return. Return codes are
compared with `DH_FWK_SUCCESS` only, so they are integers.
-/

namespace DHFwk

/-! ## Return codes -/

abbrev DH_FWK_SUCCESS : Int := 0
abbrev ERR_DH_FWK_PARA_INVALID : Int := -10000
abbrev ERR_DH_FWK_TYPE_NOT_EXIST : Int := -10003
abbrev ERR_DH_FWK_POINTER_IS_NULL : Int := -10005
abbrev ERR_DH_FWK_COMPONENT_ENABLE_TIMEOUT : Int := -10304
abbrev ERR_DH_FWK_COMPONENT_DISABLE_TIMEOUT : Int := -10305
abbrev ERR_DH_FWK_COMPONENT_MONITOR_NULL : Int := -10011
abbrev ERR_DH_FWK_COMPONENT_REPEAT_CALL : Int := -10015
abbrev ERR_DH_FWK_COMPONENT_DISABLED_BY_CONFIG : Int := -10018
abbrev ERR_DH_FWK_HARDWARE_MANAGER_DEVICE_REPEAT_ONLINE : Int := -10500
abbrev ERR_DH_FWK_HARDWARE_MANAGER_DEVICE_REPEAT_OFFLINE : Int := -10501
abbrev ERR_DH_FWK_HARDWARE_MANAGER_INIT_FAILED : Int := -10502
abbrev ERR_DH_FWK_LOADER_HANDLER_IS_NULL : Int := -10600
abbrev ERR_DH_FWK_LOADER_DLCLOSE_FAIL : Int := -10603
abbrev ERR_DH_FWK_NO_HDF_SUPPORT : Int := -10816

/-! ## Hardware -/

/-- `DHType`. -/
inductive DHType
  | UNKNOWN | CAMERA | AUDIO | SCREEN | GPS | INPUT | HFP | A2D | VIRMODEM_AUDIO | MODEM | MAX_DH
  deriving DecidableEq, Repr

/-- `DHSubtype`. -/
inductive DHSubtype
  | UNKNOWN | CAMERA | SCREEN | INPUT | MODEM_MIC | MODEM_SPEAKER | AUDIO_MIC | AUDIO_SPEAKER
  deriving DecidableEq, Repr

/-- `DHDescriptor` : the id of a piece of hardware, its type, and the caller's parameters. -/
structure DHDescriptor where
  id : String
  dhType : DHType
  customParams : String := ""
  deriving DecidableEq, Repr

end DHFwk
