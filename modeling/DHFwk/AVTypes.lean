/-!
# Names and codes of the AV transport

The return codes of `av_trans_errno.h` that the modelled functions return, the owners of an engine,
the names under which the channels of the control centre are known, and the states of an engine.
-/

namespace DHFwk

/-! ## Return codes -/

abbrev DH_AVT_SUCCESS : Int := 0
abbrev ERR_DH_AVT_INVALID_PARAM : Int := -80001
abbrev ERR_DH_AVT_START_FAILED : Int := -80003
abbrev ERR_DH_AVT_STOP_FAILED : Int := -80004
abbrev ERR_DH_AVT_SETUP_FAILED : Int := -80006
abbrev ERR_DH_AVT_PUSH_DATA_FAILED : Int := -80007
abbrev ERR_DH_AVT_CREATE_CHANNEL_FAILED : Int := -80010
abbrev ERR_DH_AVT_CHANNEL_ALREADY_CREATED : Int := -80011
abbrev ERR_DH_AVT_INVALID_PARAM_VALUE : Int := -81000
abbrev ERR_DH_AVT_SESSION_ERROR : Int := -81011
abbrev ERR_DH_AVT_SEND_DATA_FAILED : Int := -81012
abbrev ERR_DH_AVT_PREPARE_FAILED : Int := -81013
abbrev ERR_DH_AVT_SET_PARAM_FAILED : Int := -81014
abbrev ERR_DH_AVT_SESSION_HAS_OPENED : Int := -80025

/-! ## Owners -/

abbrev OWNER_NAME_D_CAMERA : String := "ohos.dhardware.dcamera"
abbrev OWNER_NAME_D_SCREEN : String := "ohos.dhardware.dscreen"
abbrev OWNER_NAME_D_MIC : String := "ohos.dhardware.daudio.dmic"
abbrev OWNER_NAME_D_SPEAKER : String := "ohos.dhardware.daudio.dspeaker"
abbrev OWNER_NAME_D_VIRMODEM_MIC : String := "ohos.dhardware.dcall.dmic"
abbrev OWNER_NAME_D_VIRMODEM_SPEAKER : String := "ohos.dhardware.dcall.dspeaker"

/-! ## Channels of the control centre -/

abbrev AV_SYNC_SENDER_CONTROL_SESSION_NAME : String := "ohos.dhardware.av.sync.sender.control"
abbrev AV_SYNC_RECEIVER_CONTROL_SESSION_NAME : String :=
  "ohos.dhardware.av.sync.receiver.control"

/-- The device of a listener for all devices. -/
abbrev AV_TRANS_SPECIAL_DEVICE_ID : String := "av.trans.special.device.id"

/-- What becomes of a channel. -/
inductive ChannelEvent
  | EVENT_CHANNEL_OPENED
  | EVENT_CHANNEL_OPEN_FAIL
  | EVENT_CHANNEL_CLOSED
  deriving DecidableEq, Repr

/-! ## Engines -/

inductive StateId
  | IDLE
  | INITIALIZED
  | CH_CREATED
  | STARTED
  | PLAYING
  | STOPPED
  deriving DecidableEq, Repr

end DHFwk
