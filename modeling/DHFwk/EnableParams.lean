import DHFwk.DeviceRecords

/-!
# The parameters of an enable

`ComponentManager::Enable` asks `GetEnableParam` for the attributes and versions of both ends of
a piece of hardware, first from the capability records and then from the meta records. Both
paths write one `EnableParam` as they go and may fail after any step, and a first attempt that
fails is followed by three more on the same object.

`GetEnableMetaParam` writes every field that it succeeds with, except the attributes of the
source : it leaves these where no local meta record is of the type. So what a failed attempt
wrote there survives exactly then (`meta_fallback_iff`). `RetryGetEnableParam` answers success
also if all of its attempts failed, so `Enable` may reach the component with an object that no
attempt has filled (`enable_params_iff`).
-/

set_option linter.unusedSectionVars false

namespace DHFwk

abbrev ERR_DH_FWK_COMPONENT_GET_SINK_VERSION_FAILED : Int := -10009
abbrev ERR_DH_FWK_COMPONENT_DHTYPE_NOT_FOUND : Int := -10010
abbrev ERR_DH_FWK_COMPONENT_GET_ENABLE_PARAM_FAILED : Int := -10013
abbrev ERR_DH_FWK_VERSION_DEVICE_ID_NOT_EXIST : Int := -10200
abbrev ERR_DH_FWK_COMPONENT_ENABLE_FAILED : Int := -10302
abbrev ERR_DH_FWK_RESOURCE_CAPABILITY_MAP_NOT_FOUND : Int := -10404
abbrev ERR_DH_FWK_RESOURCE_KEY_IS_EMPTY : Int := -10410

abbrev ENABLE_RETRY_MAX_TIMES : ℕ := 3

/-- `EnableParam`. -/
@[ext] structure EnableParam where
  sourceVersion : String := ""
  sourceAttrs : String := ""
  sinkVersion : String := ""
  sinkAttrs : String := ""
  subtype : String := ""
  deriving DecidableEq, Repr

/-- A code that is not success. -/
abbrev ErrCode := { code : Int // code ≠ DH_FWK_SUCCESS }

/-! ## Versions -/

/-- `DHVersion`. -/
structure DHVersion where
  uuid : String
  dhVersion : String
  compVersions : Table UInt32 CompVersion

/-- `VersionInfo`. -/
structure VersionInfo where
  deviceId : String
  dhVersion : String
  compVersions : Table UInt32 CompVersion

/-- The version of one end of a component. -/
def CompVersion.ofEnd (isSink : Bool) (v : CompVersion) : String :=
  if isSink then v.sinkVersion else v.sourceVersion

/-- What an attempt reads : the local device, the records of the three managers, the versions
that `VersionManager` holds, and those that the version store has. -/
structure ParamCaches where
  localUuid : String
  localUdidHash : String
  sha256 : String → String
  getUdidHashIdByUUID : String → String
  capabilityInfoManager : InfoStore CapabilityInfo := {}
  localCapabilityInfoManager : InfoStore CapabilityInfo := {}
  metaInfoManager : InfoStore MetaCapabilityInfo := {}
  dhVersions_ : Table String DHVersion := ∅
  versionInfos : String → Except ErrCode VersionInfo

namespace ParamCaches

variable (s : ParamCaches) (networkId uuid dhId : String) (dhType : UInt32)

/-- `GetDeviceIdByUUID`. -/
def getDeviceIdByUUID : String :=
  if ¬isIdLengthValid uuid then "" else s.sha256 uuid

/-- `VersionManager::GetCompVersion`. -/
def getCompVersion : Except ErrCode CompVersion :=
  if ¬isIdLengthValid uuid then .error ⟨ERR_DH_FWK_PARA_INVALID, by decide⟩
  else match s.dhVersions_.lookup uuid with
    | none => .error ⟨ERR_DH_FWK_VERSION_DEVICE_ID_NOT_EXIST, by decide⟩
    | some dhVersion =>
      match dhVersion.compVersions.lookup dhType with
      | none => .error ⟨ERR_DH_FWK_TYPE_NOT_EXIST, by decide⟩
      | some compVersion => .ok compVersion

/-- `GetVersionFromVerMgr`. -/
def getVersionFromVerMgr (version : String) (isSink : Bool) : Int × String :=
  if ¬isIdLengthValid uuid then (ERR_DH_FWK_PARA_INVALID, version)
  else match s.getCompVersion uuid dhType with
    | .error ret => (ret, version)
    | .ok compversion => (DH_FWK_SUCCESS, compversion.ofEnd isSink)

/-- `GetVersionInfoByDeviceId`. -/
def getVersionInfoByDeviceId (deviceId : String) : Except ErrCode VersionInfo :=
  if ¬isIdLengthValid deviceId then .error ⟨ERR_DH_FWK_PARA_INVALID, by decide⟩ else s.versionInfos deviceId

/-- `UpdateVersionCache`. -/
def updateVersionCache (versionInfo : VersionInfo) : ParamCaches :=
  if ¬isIdLengthValid uuid then s
  else
    let dhVersion : DHVersion := ⟨uuid, versionInfo.dhVersion, versionInfo.compVersions⟩
    { s with dhVersions_ := s.dhVersions_.set uuid dhVersion }

/-- `GetVersionFromVerInfoMgr`. -/
def getVersionFromVerInfoMgr (version : String) (isSink : Bool) : Int × String × ParamCaches :=
  if ¬isIdLengthValid uuid then (ERR_DH_FWK_PARA_INVALID, version, s)
  else match s.getVersionInfoByDeviceId (s.getDeviceIdByUUID uuid) with
    | .error ret => (ret, version, s)
    | .ok versionInfo =>
      match versionInfo.compVersions.lookup dhType with
      | none => (ERR_DH_FWK_COMPONENT_DHTYPE_NOT_FOUND, version, s)
      | some compVersion =>
        (DH_FWK_SUCCESS, compVersion.ofEnd isSink, s.updateVersionCache uuid versionInfo)

/-- `GetVersion`. -/
def getVersion (version : String) (isSink : Bool) : Int × String × ParamCaches :=
  if ¬isIdLengthValid uuid then (ERR_DH_FWK_PARA_INVALID, version, s)
  else
    let (ret, version) := s.getVersionFromVerMgr uuid dhType version isSink
    if ret = DH_FWK_SUCCESS ∧ version ≠ "" then (DH_FWK_SUCCESS, version, s)
    else s.getVersionFromVerInfoMgr uuid dhType version isSink

/-! ## Records -/

/-- `GetCapability` of `CapabilityInfoManager` and of `LocalCapabilityInfoManager`. -/
def getCapability (manager : InfoStore CapabilityInfo) (deviceId dhId : String) :
    Except ErrCode CapabilityInfo :=
  if ¬isIdLengthValid deviceId ∨ ¬isIdLengthValid dhId then .error ⟨ERR_DH_FWK_PARA_INVALID, by decide⟩
  else match manager.globalInfoMap_.lookup (getCapabilityKey deviceId dhId) with
    | none => .error ⟨ERR_DH_FWK_RESOURCE_CAPABILITY_MAP_NOT_FOUND, by decide⟩
    | some capability => .ok capability

/-- `MetaInfoManager::GetMetaCapInfo`. -/
def getMetaCapInfo (udidHash dhId : String) : Except ErrCode MetaCapabilityInfo :=
  if ¬isHashSizeValid udidHash ∨ ¬isIdLengthValid dhId then .error ⟨ERR_DH_FWK_PARA_INVALID, by decide⟩
  else match s.metaInfoManager.globalInfoMap_.lookup (getCapabilityKey udidHash dhId) with
    | none => .error ⟨ERR_DH_FWK_RESOURCE_CAPABILITY_MAP_NOT_FOUND, by decide⟩
    | some metaCap => .ok metaCap

/-- `GetCapParam`. -/
def getCapParam : Except ErrCode CapabilityInfo :=
  if ¬isIdLengthValid uuid ∨ ¬isIdLengthValid dhId then .error ⟨ERR_DH_FWK_PARA_INVALID, by decide⟩
  else
    let deviceId := s.getDeviceIdByUUID uuid
    match getCapability s.capabilityInfoManager deviceId dhId with
    | .ok capability => .ok capability
    | .error _ => getCapability s.localCapabilityInfoManager deviceId dhId

/-- `GetMetaParam`. -/
def getMetaParam : Except ErrCode MetaCapabilityInfo :=
  if ¬isIdLengthValid uuid ∨ ¬isIdLengthValid dhId then .error ⟨ERR_DH_FWK_PARA_INVALID, by decide⟩
  else s.getMetaCapInfo (s.getUdidHashIdByUUID uuid) dhId

/-- The capability records of the local device. -/
def sourceCapInfos : List CapabilityInfo :=
  CapabilityInfoManager.getCapabilitiesByDeviceId (s.getDeviceIdByUUID s.localUuid) []
    s.capabilityInfoManager

/-- The meta records of the local device. -/
def sourceMetaInfos : List CapabilityInfo :=
  (MetaInfoManager.getMetaCapInfosByUdidHash s.localUdidHash [] s.metaInfoManager).map
    MetaCapabilityInfo.toCapabilityInfo

/-- The loop over the records of the local device : the last one of the type writes the
attributes of the source. -/
def writeSourceAttrs (infos : List CapabilityInfo) (sourceAttrs : String) : String :=
  infos.foldl (fun attrs info => if dhType = info.dhType_ then info.dhAttrs_ else attrs)
    sourceAttrs

/-! ## The two paths -/

/-- `GetEnableCapParam`. -/
def getEnableCapParam (param : EnableParam) (capability : CapabilityInfo) :
    Int × EnableParam × ParamCaches :=
  if ¬isIdLengthValid networkId ∨ ¬isIdLengthValid uuid then (ERR_DH_FWK_PARA_INVALID, param, s)
  else
    let sourceAttrs := writeSourceAttrs dhType s.sourceCapInfos param.sourceAttrs
    let param := { param with sourceAttrs := sourceAttrs }
    let (ret, sourceVersion, s) := s.getVersion s.localUuid dhType "" false
    if ret ≠ DH_FWK_SUCCESS then (ERR_DH_FWK_COMPONENT_GET_SINK_VERSION_FAILED, param, s)
    else
      let param := { param with sourceVersion := sourceVersion, sinkAttrs := capability.dhAttrs_ }
      let (ret, sinkVersion, s) := s.getVersion uuid dhType "" true
      let found (sinkVersion : String) : Int × EnableParam × ParamCaches :=
        (DH_FWK_SUCCESS,
          { param with sinkVersion := sinkVersion, subtype := capability.dhSubtype_ }, s)
      if ret = DH_FWK_SUCCESS then found sinkVersion
      else
        -- the version store may not be synchronised yet : the meta record has the version too
        match s.getMetaCapInfo (s.getUdidHashIdByUUID uuid) capability.dhId_ with
        | .error _ => (ERR_DH_FWK_COMPONENT_GET_SINK_VERSION_FAILED, param, s)
        | .ok metaCap => found metaCap.compVersion_.sinkVersion

/-- `GetEnableMetaParam`. -/
def getEnableMetaParam (param : EnableParam) (metaCap : MetaCapabilityInfo) :
    Int × EnableParam × ParamCaches :=
  if ¬isIdLengthValid networkId ∨ ¬isIdLengthValid uuid then (ERR_DH_FWK_PARA_INVALID, param, s)
  else
    let sourceAttrs := writeSourceAttrs dhType s.sourceMetaInfos param.sourceAttrs
    let param := { param with sourceAttrs := sourceAttrs }
    let (ret, sourceVersion, s) := s.getVersion s.localUuid dhType "" false
    if ret ≠ DH_FWK_SUCCESS then (ERR_DH_FWK_COMPONENT_GET_SINK_VERSION_FAILED, param, s)
    else
      (DH_FWK_SUCCESS,
        { param with
          sourceVersion := sourceVersion
          sinkAttrs := metaCap.dhAttrs_
          sinkVersion := metaCap.compVersion_.sinkVersion
          subtype := metaCap.dhSubtype_ }, s)

/-- The first half of `GetEnableParam`, through the capability records. -/
def capPath (param : EnableParam) : Int × EnableParam × ParamCaches :=
  match s.getCapParam uuid dhId with
  | .error ret => (ret, param, s)
  | .ok capability => s.getEnableCapParam networkId uuid dhType param capability

/-- The second half of `GetEnableParam`, through the meta records. -/
def metaPath (param : EnableParam) : Int × EnableParam × ParamCaches :=
  match s.getMetaParam uuid dhId with
  | .error ret => (ret, param, s)
  | .ok metaCap => s.getEnableMetaParam networkId uuid dhType param metaCap

/-- `GetEnableParam`. -/
def getEnableParam (param : EnableParam) : Int × EnableParam × ParamCaches :=
  if ¬isIdLengthValid networkId ∨ ¬isIdLengthValid uuid ∨ ¬isIdLengthValid dhId then
    (ERR_DH_FWK_COMPONENT_GET_ENABLE_PARAM_FAILED, param, s)
  else
    let (ret, param, s) := s.capPath networkId uuid dhId dhType param
    if ret = DH_FWK_SUCCESS then (ret, param, s)
    else
      let (ret, param, s) := s.metaPath networkId uuid dhId dhType param
      if ret = DH_FWK_SUCCESS then (ret, param, s)
      else (ERR_DH_FWK_COMPONENT_GET_ENABLE_PARAM_FAILED, param, s)

/-! ## Which versions and records are found -/

/-- `GetVersion` finds a version : one that is not empty is in the cache, or the store has one. -/
def VersionKnown (isSink : Bool) : Prop :=
  isIdLengthValid uuid = true ∧
    ((∃ v, s.getCompVersion uuid dhType = .ok v ∧ v.ofEnd isSink ≠ "") ∨
      ∃ info v, s.getVersionInfoByDeviceId (s.getDeviceIdByUUID uuid) = .ok info ∧
        info.compVersions.lookup dhType = some v)

/-- The capability records and the versions give the parameters. -/
def CapObtainable : Prop :=
  s.VersionKnown s.localUuid dhType false ∧ ∃ capability, s.getCapParam uuid dhId = .ok capability ∧
    (s.VersionKnown uuid dhType true ∨
      ∃ metaCap, s.getMetaCapInfo (s.getUdidHashIdByUUID uuid) capability.dhId_ = .ok metaCap)

/-- The meta records and the version of the source give the parameters. -/
def MetaObtainable : Prop :=
  s.VersionKnown s.localUuid dhType false ∧ ∃ metaCap, s.getMetaParam uuid dhId = .ok metaCap

/-- An attempt succeeds. -/
def Obtainable : Prop :=
  (isIdLengthValid networkId = true ∧ isIdLengthValid uuid = true ∧ isIdLengthValid dhId = true) ∧
    (s.CapObtainable uuid dhId dhType ∨ s.MetaObtainable uuid dhId dhType)

section Versions

variable {s uuid dhType} {version : String} {isSink : Bool}

/-- What `GetVersion` does : it fails and leaves the cache, finds the version there, or reads it
from the store into the cache. -/
theorem getVersion_cases (s : ParamCaches) (uuid : String) (dhType : UInt32) (isSink : Bool) :
    (¬s.VersionKnown uuid dhType isSink ∧ (s.getVersion uuid dhType "" isSink).1 ≠ DH_FWK_SUCCESS ∧
        (s.getVersion uuid dhType "" isSink).2.2 = s) ∨
      (s.VersionKnown uuid dhType isSink ∧ ∃ v, s.getCompVersion uuid dhType = .ok v ∧
        v.ofEnd isSink ≠ "" ∧
        s.getVersion uuid dhType "" isSink = (DH_FWK_SUCCESS, v.ofEnd isSink, s)) ∨
      (s.VersionKnown uuid dhType isSink ∧ ∃ info v,
        s.getVersionInfoByDeviceId (s.getDeviceIdByUUID uuid) = .ok info ∧
        info.compVersions.lookup dhType = some v ∧
        s.getVersion uuid dhType "" isSink =
          (DH_FWK_SUCCESS, v.ofEnd isSink, s.updateVersionCache uuid info)) := by
  by_cases hid : isIdLengthValid uuid = true
  swap
  · left
    refine ⟨fun h => hid h.1, ?_, ?_⟩ <;> simp [getVersion, hid]
  by_cases hcache : ∃ v, s.getCompVersion uuid dhType = .ok v ∧ v.ofEnd isSink ≠ ""
  · right; left
    obtain ⟨v, hv, hne⟩ := hcache
    refine ⟨⟨hid, .inl ⟨v, hv, hne⟩⟩, v, hv, hne, ?_⟩
    simp [getVersion, getVersionFromVerMgr, hid, hv, hne]
  -- nothing in the cache : the store decides
  have hstore : s.getVersion uuid dhType "" isSink =
      s.getVersionFromVerInfoMgr uuid dhType "" isSink := by
    unfold getVersion getVersionFromVerMgr
    cases hv : s.getCompVersion uuid dhType with
    | error ret => simp [hid, ret.2]
    | ok v =>
      have hempty : v.ofEnd isSink = "" := by
        by_contra hne
        exact hcache ⟨v, hv, hne⟩
      simp [hid, hempty]
  rw [hstore]
  unfold getVersionFromVerInfoMgr VersionKnown
  cases hinfo : s.getVersionInfoByDeviceId (s.getDeviceIdByUUID uuid) with
  | error ret =>
    left
    refine ⟨?_, by simpa [hid] using ret.2, by simp [hid]⟩
    rintro ⟨-, h | ⟨info, v, h, -⟩⟩
    · exact hcache h
    · cases h
  | ok info =>
    cases hv : info.compVersions.lookup dhType with
    | none =>
      left
      refine ⟨?_, by simp [hid, hv], by simp [hid, hv]⟩
      rintro ⟨-, h | ⟨info', v, h, hv'⟩⟩
      · exact hcache h
      · cases h
        simp [hv] at hv'
    | some v =>
      right; right
      exact ⟨⟨hid, .inr ⟨info, v, rfl, hv⟩⟩, info, v, rfl, hv, by simp [hid, hv]⟩

theorem getVersion_fst : (s.getVersion uuid dhType "" isSink).1 = DH_FWK_SUCCESS ↔
    s.VersionKnown uuid dhType isSink := by
  obtain ⟨hno, hret, -⟩ | ⟨hyes, v, -, -, heq⟩ | ⟨hyes, info, v, -, -, heq⟩ :=
    s.getVersion_cases uuid dhType isSink
  · exact iff_of_false hret hno
  · exact iff_of_true (by rw [heq]) hyes
  · exact iff_of_true (by rw [heq]) hyes

theorem getVersion_of_not (h : ¬s.VersionKnown uuid dhType isSink) :
    (s.getVersion uuid dhType "" isSink).2.2 = s := by
  obtain ⟨-, -, heq⟩ | ⟨hyes, -⟩ | ⟨hyes, -⟩ := s.getVersion_cases uuid dhType isSink
  · exact heq
  · exact absurd hyes h
  · exact absurd hyes h

theorem updateVersionCache_others (s : ParamCaches) (uuid : String) (info : VersionInfo) :
    ∃ t, s.updateVersionCache uuid info = { s with dhVersions_ := t } := by
  unfold updateVersionCache
  split_ifs
  · exact ⟨_, rfl⟩
  · exact ⟨s.dhVersions_, rfl⟩

/-- Only the versions change. -/
theorem getVersion_others (s : ParamCaches) (uuid : String) (dhType : UInt32) (isSink : Bool) :
    ∃ t, (s.getVersion uuid dhType "" isSink).2.2 = { s with dhVersions_ := t } := by
  obtain ⟨-, -, heq⟩ | ⟨-, v, -, -, heq⟩ | ⟨-, info, v, -, -, heq⟩ :=
    s.getVersion_cases uuid dhType isSink
  · exact ⟨s.dhVersions_, heq⟩
  · exact ⟨s.dhVersions_, by rw [heq]⟩
  · rw [heq]
    exact s.updateVersionCache_others uuid info

/-- A version that was read from the store is in the cache. -/
theorem getCompVersion_updateVersionCache {info : VersionInfo} {v : CompVersion}
    (hid : isIdLengthValid uuid = true) (hv : info.compVersions.lookup dhType = some v) :
    (s.updateVersionCache uuid info).getCompVersion uuid dhType = .ok v := by
  simp [updateVersionCache, getCompVersion, hid, hv]

/-- The version that was found is found again, and the cache stays. -/
theorem getVersion_again (h : s.VersionKnown uuid dhType isSink) :
    (s.getVersion uuid dhType "" isSink).2.2.getVersion uuid dhType "" isSink =
      s.getVersion uuid dhType "" isSink := by
  obtain ⟨hno, -⟩ | ⟨-, v, -, -, heq⟩ | ⟨-, info, v, hinfo, hv, heq⟩ :=
    s.getVersion_cases uuid dhType isSink
  · exact absurd h hno
  · rw [heq]
    exact heq
  · rw [heq]
    have hcomp := getCompVersion_updateVersionCache (s := s) h.1 hv
    have hagain : (s.updateVersionCache uuid info).updateVersionCache uuid info =
        s.updateVersionCache uuid info := by
      simp [updateVersionCache, h.1, Table.set, AList.insert_insert]
    have hstore : (s.updateVersionCache uuid info).getVersionInfoByDeviceId
        ((s.updateVersionCache uuid info).getDeviceIdByUUID uuid) = .ok info := by
      rw [← hinfo]
      simp [updateVersionCache, h.1, getVersionInfoByDeviceId, getDeviceIdByUUID]
    by_cases hne : v.ofEnd isSink = ""
    · simp [getVersion, getVersionFromVerMgr, getVersionFromVerInfoMgr, h.1, hcomp, hne, hstore, hv,
        hagain]
    · simp [getVersion, getVersionFromVerMgr, h.1, hcomp, hne]

/-- What one call puts in the cache does not change which versions of the type are known. -/
theorem versionKnown_getVersion {uuid' : String} {isSink' : Bool} :
    (s.getVersion uuid dhType "" isSink).2.2.VersionKnown uuid' dhType isSink' ↔
      s.VersionKnown uuid' dhType isSink' := by
  obtain ⟨-, -, heq⟩ | ⟨-, v, -, -, heq⟩ | ⟨hyes, info, v, hinfo, hv, heq⟩ :=
    s.getVersion_cases uuid dhType isSink
  · rw [heq]
  · rw [heq]
  · rw [heq]
    by_cases hu : uuid' = uuid
    · subst hu
      have hstore : (s.updateVersionCache uuid' info).getVersionInfoByDeviceId
          ((s.updateVersionCache uuid' info).getDeviceIdByUUID uuid') = .ok info := by
        rw [← hinfo]
        simp [updateVersionCache, hyes.1, getVersionInfoByDeviceId, getDeviceIdByUUID]
      exact iff_of_true ⟨hyes.1, .inr ⟨info, v, hstore, hv⟩⟩ ⟨hyes.1, .inr ⟨info, v, hinfo, hv⟩⟩
    · simp [updateVersionCache, hyes.1, VersionKnown, getCompVersion, getVersionInfoByDeviceId,
        getDeviceIdByUUID, Table.lookup_set_ne _ hu]

end Versions

section Paths

variable {s networkId uuid dhId dhType} {param : EnableParam}

/-- One of the ids is refused. -/
theorem ids_refused_iff :
    (¬isIdLengthValid networkId ∨ ¬isIdLengthValid uuid ∨ ¬isIdLengthValid dhId) ↔
      ¬(isIdLengthValid networkId = true ∧ isIdLengthValid uuid = true ∧
        isIdLengthValid dhId = true) := by
  rw [not_and_or, not_and_or]

/-- The last of the records that is of the type. -/
def lastOfType (dhType : UInt32) (infos : List CapabilityInfo) : Option CapabilityInfo :=
  infos.reverse.find? fun info => dhType = info.dhType_

theorem writeSourceAttrs_eq (dhType : UInt32) : ∀ (infos : List CapabilityInfo) (attrs : String),
    writeSourceAttrs dhType infos attrs = ((lastOfType dhType infos).map (·.dhAttrs_)).getD attrs
  | [], attrs => rfl
  | info :: infos, attrs => by
    have ih := writeSourceAttrs_eq dhType infos
    unfold writeSourceAttrs lastOfType at *
    rw [List.foldl_cons, ih, List.reverse_cons, List.find?_append]
    cases infos.reverse.find? (fun info => decide (dhType = info.dhType_)) with
    | some last => rfl
    | none => by_cases h : dhType = info.dhType_ <;> simp [h]

theorem lastOfType_eq_none_iff {infos : List CapabilityInfo} :
    lastOfType dhType infos = none ↔ ∀ info ∈ infos, info.dhType_ ≠ dhType := by
  unfold lastOfType
  rw [List.find?_eq_none]
  simp [eq_comm]

variable (s uuid dhId dhType param) in
/-- The attributes of the source that the first half hands to the second : those of the last local
capability record of the type, if there is one and the record of the hardware is found, and else
those that the object came with. -/
def sourceAttrsBefore : String :=
  match s.getCapParam uuid dhId with
  | .error _ => param.sourceAttrs
  | .ok _ => ((lastOfType dhType s.sourceCapInfos).map (·.dhAttrs_)).getD param.sourceAttrs

/-- The second half, where it succeeds. -/
theorem metaPath_eq {metaCap : MetaCapabilityInfo} (hnet : isIdLengthValid networkId = true)
    (hid : isIdLengthValid uuid = true) (hmeta : s.getMetaParam uuid dhId = .ok metaCap)
    (hlocal : s.VersionKnown s.localUuid dhType false) :
    s.metaPath networkId uuid dhId dhType param =
      (DH_FWK_SUCCESS,
        { sourceVersion := (s.getVersion s.localUuid dhType "" false).2.1
          sourceAttrs := writeSourceAttrs dhType s.sourceMetaInfos param.sourceAttrs
          sinkVersion := metaCap.compVersion_.sinkVersion
          sinkAttrs := metaCap.dhAttrs_
          subtype := metaCap.dhSubtype_ },
        (s.getVersion s.localUuid dhType "" false).2.2) := by
  have hret := getVersion_fst.2 hlocal
  simp [metaPath, hmeta, getEnableMetaParam, hnet, hid, hret]

theorem metaPath_fst (s : ParamCaches) (param : EnableParam)
    (hnet : isIdLengthValid networkId = true) (hid : isIdLengthValid uuid = true) :
    (s.metaPath networkId uuid dhId dhType param).1 = DH_FWK_SUCCESS ↔
      s.MetaObtainable uuid dhId dhType := by
  unfold MetaObtainable
  cases hmeta : s.getMetaParam uuid dhId with
  | error ret => simp [metaPath, hmeta, ret.2]
  | ok metaCap =>
    by_cases hlocal : s.VersionKnown s.localUuid dhType false
    · rw [metaPath_eq hnet hid hmeta hlocal]
      simp [hlocal]
    · have hret : (s.getVersion s.localUuid dhType "" false).1 ≠ DH_FWK_SUCCESS :=
        fun h => hlocal (getVersion_fst.1 h)
      simp [metaPath, hmeta, getEnableMetaParam, hnet, hid, hret, hlocal]

theorem getMetaCapInfo_getVersion (s : ParamCaches) (uuid udidHash dhId : String) (dhType : UInt32)
    (isSink : Bool) :
    (s.getVersion uuid dhType "" isSink).2.2.getMetaCapInfo udidHash dhId =
      s.getMetaCapInfo udidHash dhId := by
  obtain ⟨t, ht⟩ := s.getVersion_others uuid dhType isSink
  rw [ht]
  rfl

/-- How the first half ends : all of it is there, or it fails and has written no more than the
attributes, the version and the sink's attributes. -/
theorem capPath_cases (s : ParamCaches) (networkId uuid dhId : String) (dhType : UInt32)
    (param : EnableParam) (hnet : isIdLengthValid networkId = true)
    (hid : isIdLengthValid uuid = true) :
    (s.CapObtainable uuid dhId dhType ∧
        (s.capPath networkId uuid dhId dhType param).1 = DH_FWK_SUCCESS) ∨
      (¬s.CapObtainable uuid dhId dhType ∧
        (s.capPath networkId uuid dhId dhType param).1 ≠ DH_FWK_SUCCESS ∧
        (s.capPath networkId uuid dhId dhType param).2.1.sourceAttrs =
          s.sourceAttrsBefore uuid dhId dhType param ∧
        (s.capPath networkId uuid dhId dhType param).2.1.subtype = param.subtype ∧
        ((s.capPath networkId uuid dhId dhType param).2.2 = s ∨
          s.VersionKnown s.localUuid dhType false ∧
            (s.capPath networkId uuid dhId dhType param).2.2 =
              (s.getVersion s.localUuid dhType "" false).2.2)) := by
  cases hcap : s.getCapParam uuid dhId with
  | error ret =>
    right
    refine ⟨fun ⟨_, capability, h, _⟩ => by simp [hcap] at h, ?_⟩
    simp [capPath, sourceAttrsBefore, hcap, ret.2]
  | ok capability =>
    by_cases hlocal : s.VersionKnown s.localUuid dhType false
    swap
    · have hret : (s.getVersion s.localUuid dhType "" false).1 ≠ DH_FWK_SUCCESS :=
        fun h => hlocal (getVersion_fst.1 h)
      right
      refine ⟨fun h => hlocal h.1, ?_⟩
      simp [capPath, getEnableCapParam, sourceAttrsBefore, hcap, hnet, hid, hret,
        getVersion_of_not hlocal, writeSourceAttrs_eq]
    have hret := getVersion_fst.2 hlocal
    by_cases hsink : s.VersionKnown uuid dhType true
    · have hsink' : (s.getVersion s.localUuid dhType "" false).2.2.VersionKnown uuid dhType true :=
        versionKnown_getVersion.2 hsink
      have hret' := getVersion_fst.2 hsink'
      left
      exact ⟨⟨hlocal, capability, hcap, .inl hsink⟩,
        by simp [capPath, getEnableCapParam, hcap, hnet, hid, hret, hret']⟩
    -- the version of the sink is not known, and asking for it leaves the cache
    have hsink' : ¬(s.getVersion s.localUuid dhType "" false).2.2.VersionKnown uuid dhType true :=
      fun h => hsink (versionKnown_getVersion.1 h)
    have hret' : ((s.getVersion s.localUuid dhType "" false).2.2.getVersion uuid dhType "" true).1 ≠
        DH_FWK_SUCCESS := fun h => hsink' (getVersion_fst.1 h)
    have hstate := getVersion_of_not hsink'
    obtain ⟨t, ht⟩ := s.getVersion_others s.localUuid dhType false
    have hhash : (s.getVersion s.localUuid dhType "" false).2.2.getUdidHashIdByUUID =
        s.getUdidHashIdByUUID := by rw [ht]
    have hget := s.getMetaCapInfo_getVersion s.localUuid (s.getUdidHashIdByUUID uuid)
      capability.dhId_ dhType false
    cases hmeta : s.getMetaCapInfo (s.getUdidHashIdByUUID uuid) capability.dhId_ with
    | ok metaCap =>
      left
      refine ⟨⟨hlocal, capability, hcap, .inr ⟨metaCap, hmeta⟩⟩, ?_⟩
      simp [capPath, getEnableCapParam, hcap, hnet, hid, hret, hret', hstate, hhash, hget, hmeta]
    | error ret =>
      right
      refine ⟨?_, ?_⟩
      · rintro ⟨-, capability', hcap', h | ⟨metaCap, h⟩⟩
        · exact hsink h
        · cases hcap.symm.trans hcap'
          cases hmeta.symm.trans h
      · simp [capPath, getEnableCapParam, sourceAttrsBefore, hcap, hnet, hid, hret, hret', hstate,
          hhash, hget, hmeta, hlocal, writeSourceAttrs_eq]

/-- The second half does the same after a first half that failed. -/
theorem metaObtainable_getVersion :
    (s.getVersion s.localUuid dhType "" false).2.2.MetaObtainable uuid dhId dhType ↔
      s.MetaObtainable uuid dhId dhType := by
  obtain ⟨t, ht⟩ := s.getVersion_others s.localUuid dhType false
  have hlocal : (s.getVersion s.localUuid dhType "" false).2.2.localUuid = s.localUuid := by rw [ht]
  have hget : (s.getVersion s.localUuid dhType "" false).2.2.getMetaParam uuid dhId =
      s.getMetaParam uuid dhId := by
    rw [ht]
    rfl
  unfold MetaObtainable
  rw [hlocal, hget, versionKnown_getVersion]

/-- An attempt succeeds exactly if one of its halves has what it needs, whatever the object is. -/
theorem getEnableParam_fst :
    (s.getEnableParam networkId uuid dhId dhType param).1 = DH_FWK_SUCCESS ↔
      s.Obtainable networkId uuid dhId dhType := by
  unfold Obtainable getEnableParam
  by_cases hids : isIdLengthValid networkId = true ∧ isIdLengthValid uuid = true ∧
    isIdLengthValid dhId = true
  swap
  · rw [if_pos (ids_refused_iff.2 hids)]
    exact iff_of_false (by simp) fun h => hids h.1
  obtain ⟨hnet, hid, hdh⟩ := hids
  rw [if_neg (by simp [hnet, hid, hdh])]
  simp only [hnet, hid, hdh, and_self, true_and]
  obtain ⟨hcap, hret⟩ | ⟨hcap, hret, -, -, hstate⟩ :=
    s.capPath_cases networkId uuid dhId dhType param hnet hid
  · rw [if_pos hret]
    exact iff_of_true hret (.inl hcap)
  rw [if_neg hret]
  have hmeta : (s.capPath networkId uuid dhId dhType param).2.2.MetaObtainable uuid dhId dhType ↔
      s.MetaObtainable uuid dhId dhType := by
    obtain heq | ⟨-, heq⟩ := hstate
    · rw [heq]
    · rw [heq, metaObtainable_getVersion]
  simp only [hcap, false_or]
  rw [← hmeta, ← metaPath_fst _ (s.capPath networkId uuid dhId dhType param).2.1 hnet hid]
  split_ifs with h
  · exact Iff.rfl
  · exact iff_of_false (by simp) h

/-- After a first half that failed, the second writes what it would have written at once. -/
theorem metaPath_getVersion (hnet : isIdLengthValid networkId = true)
    (hid : isIdLengthValid uuid = true) (h : s.MetaObtainable uuid dhId dhType) :
    (s.getVersion s.localUuid dhType "" false).2.2.metaPath networkId uuid dhId dhType param =
      s.metaPath networkId uuid dhId dhType param := by
  obtain ⟨hlocal, metaCap, hmeta⟩ := h
  have hagain := getVersion_again hlocal
  have hknown : (s.getVersion s.localUuid dhType "" false).2.2.VersionKnown s.localUuid dhType
      false := versionKnown_getVersion.2 hlocal
  rw [metaPath_eq hnet hid hmeta hlocal]
  obtain ⟨t, ht⟩ := s.getVersion_others s.localUuid dhType false
  rw [ht] at hagain hknown ⊢
  rw [metaPath_eq (s := { s with dhVersions_ := t }) hnet hid hmeta hknown]
  simp only [hagain, ht]
  rfl

/-- Where the second half succeeds after the first has failed, it leaves what the object held
exactly in the attributes of the source, and there only if no local meta record is of the type. -/
theorem getEnableParam_of_meta
    (hcap : (s.capPath networkId uuid dhId dhType param).1 ≠ DH_FWK_SUCCESS)
    (hok : (s.getEnableParam networkId uuid dhId dhType param).1 = DH_FWK_SUCCESS) :
    (s.metaPath networkId uuid dhId dhType {}).1 = DH_FWK_SUCCESS ∧
      (s.getEnableParam networkId uuid dhId dhType param).2.1 =
        { (s.metaPath networkId uuid dhId dhType {}).2.1 with
          sourceAttrs := ((lastOfType dhType s.sourceMetaInfos).map (·.dhAttrs_)).getD
            (s.sourceAttrsBefore uuid dhId dhType param) } := by
  obtain ⟨⟨hnet, hid, hdh⟩, hobtain⟩ := getEnableParam_fst.1 hok
  obtain ⟨-, hret⟩ | ⟨hno, -, hattrs, -, hstate⟩ :=
    s.capPath_cases networkId uuid dhId dhType param hnet hid
  · exact absurd hret hcap
  have hmeta := hobtain.resolve_left hno
  have hsame : ∀ p, (s.capPath networkId uuid dhId dhType param).2.2.metaPath networkId uuid dhId
      dhType p = s.metaPath networkId uuid dhId dhType p := by
    intro p
    obtain heq | ⟨-, heq⟩ := hstate
    · rw [heq]
    · rw [heq, metaPath_getVersion hnet hid hmeta]
  have hsucc : ∀ p, (s.metaPath networkId uuid dhId dhType p).1 = DH_FWK_SUCCESS :=
    fun p => (metaPath_fst s p hnet hid).2 hmeta
  have hrun : s.getEnableParam networkId uuid dhId dhType param = s.metaPath networkId uuid dhId
      dhType (s.capPath networkId uuid dhId dhType param).2.1 := by
    simp only [getEnableParam, hnet, hid, hdh, not_true_eq_false, or_self, if_false, hcap, hsame,
      hsucc, if_true]
    exact Prod.ext (hsucc _).symm rfl
  refine ⟨hsucc {}, ?_⟩
  obtain ⟨hlocal, metaCap, hget⟩ := hmeta
  rw [hrun, metaPath_eq hnet hid hget hlocal, metaPath_eq hnet hid hget hlocal, hattrs,
    writeSourceAttrs_eq]

/-- With the records under their own keys, the object comes to the second half as it came to the
first : what is kept was written by an earlier attempt. -/
theorem sourceAttrsBefore_of_keyed
    (hkeyed : ∀ capability, s.getCapParam uuid dhId = .ok capability → capability.dhId_ = dhId)
    (hcap : (s.capPath networkId uuid dhId dhType param).1 ≠ DH_FWK_SUCCESS)
    (hok : (s.getEnableParam networkId uuid dhId dhType param).1 = DH_FWK_SUCCESS) :
    s.sourceAttrsBefore uuid dhId dhType param = param.sourceAttrs := by
  obtain ⟨⟨hnet, hid, hdh⟩, hobtain⟩ := getEnableParam_fst.1 hok
  obtain ⟨-, hret⟩ | ⟨hno, -⟩ :=
    s.capPath_cases networkId uuid dhId dhType param hnet hid
  · exact absurd hret hcap
  obtain ⟨hlocal, metaCap, hmeta⟩ := hobtain.resolve_left hno
  unfold sourceAttrsBefore
  cases hget : s.getCapParam uuid dhId with
  | error ret => rfl
  | ok capability =>
    refine absurd ⟨hlocal, capability, hget, .inr ⟨metaCap, ?_⟩⟩ hno
    rw [hkeyed capability hget]
    simpa [getMetaParam, hid, hdh] using hmeta

theorem metaPath_subtype (h : (s.metaPath networkId uuid dhId dhType param).1 ≠ DH_FWK_SUCCESS) :
    (s.metaPath networkId uuid dhId dhType param).2.1.subtype = param.subtype := by
  unfold metaPath at *
  cases hmeta : s.getMetaParam uuid dhId with
  | error ret => rfl
  | ok metaCap =>
    simp only [hmeta] at h ⊢
    unfold getEnableMetaParam at *
    split_ifs at h ⊢ with hvalid
    · rfl
    · by_cases hret : (s.getVersion s.localUuid dhType "" false).1 = DH_FWK_SUCCESS
      · simp [hret] at h
      · simp [hret]

/-- An attempt that fails does not write the subtype. -/
theorem getEnableParam_of_not (param : EnableParam) (h : ¬s.Obtainable networkId uuid dhId dhType) :
    (s.getEnableParam networkId uuid dhId dhType param).1 ≠ DH_FWK_SUCCESS ∧
      (s.getEnableParam networkId uuid dhId dhType param).2.1.subtype = param.subtype := by
  have hfail : (s.getEnableParam networkId uuid dhId dhType param).1 ≠ DH_FWK_SUCCESS :=
    fun hret => h (getEnableParam_fst.1 hret)
  refine ⟨hfail, ?_⟩
  unfold getEnableParam at *
  by_cases hids : ¬isIdLengthValid networkId ∨ ¬isIdLengthValid uuid ∨ ¬isIdLengthValid dhId
  · rw [if_pos hids]
  rw [if_neg hids] at hfail ⊢
  obtain ⟨hnet, hid, hdh⟩ := not_not.1 (mt ids_refused_iff.2 hids)
  obtain ⟨-, hret⟩ | ⟨-, hret, -, hsub, -⟩ :=
    s.capPath_cases networkId uuid dhId dhType param hnet hid
  · simp [hret] at hfail
  · simp only [hret, if_false] at hfail ⊢
    split_ifs at hfail ⊢ with hmeta
    · exact absurd hmeta hfail
    · rw [metaPath_subtype hmeta, hsub]

/-- The meta records give the object that they give a new one exactly if a local meta record is
of the type, or the object had no attributes of the source when the capability records failed. -/
theorem meta_fallback_iff
    (hcap : (s.capPath networkId uuid dhId dhType param).1 ≠ DH_FWK_SUCCESS)
    (hok : (s.getEnableParam networkId uuid dhId dhType param).1 = DH_FWK_SUCCESS) :
    (s.getEnableParam networkId uuid dhId dhType param).2.1 =
        (s.metaPath networkId uuid dhId dhType {}).2.1 ↔
      (∃ info ∈ s.sourceMetaInfos, info.dhType_ = dhType) ∨
        s.sourceAttrsBefore uuid dhId dhType param = "" := by
  obtain ⟨⟨hnet, hid, -⟩, -⟩ := getEnableParam_fst.1 hok
  obtain ⟨hsucc, hrun⟩ := getEnableParam_of_meta hcap hok
  obtain ⟨hlocal, metaCap, hget⟩ := (metaPath_fst s _ hnet hid).1 hsucc
  have hnew : (s.metaPath networkId uuid dhId dhType {}).2.1.sourceAttrs =
      ((lastOfType dhType s.sourceMetaInfos).map (·.dhAttrs_)).getD "" := by
    rw [metaPath_eq hnet hid hget hlocal, writeSourceAttrs_eq]
  rw [hrun, EnableParam.ext_iff]
  simp only [hnew, true_and, and_true]
  cases hlast : lastOfType dhType s.sourceMetaInfos with
  | none =>
    have hnone : ¬∃ info ∈ s.sourceMetaInfos, info.dhType_ = dhType := by
      simpa using lastOfType_eq_none_iff.1 hlast
    simp [hnone]
  | some info =>
    have hsome : ∃ info ∈ s.sourceMetaInfos, info.dhType_ = dhType := by
      by_contra hno
      have := lastOfType_eq_none_iff.2 (by simpa using hno)
      simp [hlast] at this
    simp [hsome]

end Paths

/-- The record of a local camera, and the version of the local device. The other device has a
record of its camera, and no version. -/
def cameraCaches : ParamCaches where
  localUuid := "l"
  localUdidHash := "lh"
  sha256 s := s
  getUdidHashIdByUUID _ := "uh"
  capabilityInfoManager :=
    { globalInfoMap_ := (Table.set ∅ (getCapabilityKey "l" "c")
        { dhId_ := "c", deviceId_ := "l", dhType_ := 1, dhAttrs_ := "attrs" }).set
        (getCapabilityKey "u" "c") { dhId_ := "c", deviceId_ := "u", dhType_ := 1 } }
  dhVersions_ := Table.set ∅ "l" ⟨"l", "1", Table.set ∅ 1 { sourceVersion := "1" }⟩
  versionInfos _ := .error ⟨ERR_DH_FWK_VERSION_DEVICE_ID_NOT_EXIST, by decide⟩

/-- The record of the other camera is a meta record now. -/
def metaCameraCaches : ParamCaches :=
  { cameraCaches with
    capabilityInfoManager :=
      { globalInfoMap_ := Table.set ∅ (getCapabilityKey "l" "c")
          { dhId_ := "c", deviceId_ := "l", dhType_ := 1, dhAttrs_ := "attrs" } }
    metaInfoManager :=
      { globalInfoMap_ := Table.set ∅ (getCapabilityKey "uh" "c")
          { dhId_ := "c", deviceId_ := "u", dhType_ := 1, udidHash_ := "uh" } } }

/-- The attributes that the first attempt wrote are in the object of the second. -/
theorem meta_fallback_keeps :
    let param := (cameraCaches.getEnableParam "n" "u" "c" 1 {}).2.1
    (cameraCaches.getEnableParam "n" "u" "c" 1 {}).1 ≠ DH_FWK_SUCCESS ∧
      (metaCameraCaches.capPath "n" "u" "c" 1 param).1 ≠ DH_FWK_SUCCESS ∧
      (metaCameraCaches.getEnableParam "n" "u" "c" 1 param).1 = DH_FWK_SUCCESS ∧
      (metaCameraCaches.getEnableParam "n" "u" "c" 1 param).2.1 ≠
        (metaCameraCaches.metaPath "n" "u" "c" 1 {}).2.1 := by
  decide +kernel

theorem meta_fallback_new :
    (metaCameraCaches.getEnableParam "n" "u" "c" 1 {}).2.1 =
      (metaCameraCaches.metaPath "n" "u" "c" 1 {}).2.1 :=
  (meta_fallback_iff (by decide +kernel) (by decide +kernel)).2 (.inr (by decide +kernel))

end ParamCaches

/-! ## Enabling -/

/-- `cJSON_AddNumberToObject`. -/
def addNumberToObject (object : Document) (name : String) (number : ℚ) : Document :=
  match object with
  | .object members => .object (members ++ [(name, .number number)])
  | .array items => .array (items ++ [.number number])
  | other => other

/-- `AddTokenIdToSinkAttrs`. -/
def addTokenIdToSinkAttrs (cJSON : DocumentCodec) (customParams : String) (param : EnableParam) :
    EnableParam :=
  if customParams = "" then param
  else match (cJSON.parse customParams).bind (·.getObjectItem "tokenId") with
    | some (.number tokenId) =>
      match cJSON.parse (if param.sinkAttrs = "" then "\x7b\x7d" else param.sinkAttrs) with
      | none => param
      | some sinkAttrs =>
        let sinkAttrsStr := cJSON.printUnformatted (addNumberToObject sinkAttrs "tokenId" tokenId)
        { param with sinkAttrs := sinkAttrsStr }
    | _ => param

/-- What an attempt meets. -/
structure Attempt where
  online : Bool
  caches : ParamCaches

/-- One call of `ComponentEnable::Enable`. -/
@[ext] structure EnableCall where
  networkId : String
  dhId : String
  param : EnableParam
  customParams : String
  deriving DecidableEq, Repr

/-- What `Enable` meets : the types that are loaded, the caches at first and at each of the other
attempts, what `CheckSubtypeResource` reads, and at each call of the component whether the device is
still online and what the component answers. -/
structure EnableWorld where
  compSource_ : UInt32 → Bool
  first : ParamCaches
  attempts : ℕ → Attempt
  checkResource : Bool
  resourceDesc : Table String Bool
  isIdenticalAccount : String → Bool
  cJSON : DocumentCodec
  answer : Int
  retries : ℕ → Bool × Int

/-- What `Enable` did : its code, what each call of `GetEnableParam` returned and made of the
object, and the calls of the component. -/
structure EnableRun where
  ret : Int
  attempts : List (Int × EnableParam)
  calls : List EnableCall
  deriving DecidableEq, Repr

section Retry

variable (networkId uuid dhId : String) (dhType : UInt32)

/-- The loop of `RetryGetEnableParam`. -/
def retryLoop : List Attempt → EnableParam → Int × EnableParam × List (Int × EnableParam)
  | [], param => (DH_FWK_SUCCESS, param, [])
  | a :: rest, param =>
    if ¬a.online then (ERR_DH_FWK_COMPONENT_ENABLE_FAILED, param, [])
    else
      let (ret, param, _) := a.caches.getEnableParam networkId uuid dhId dhType param
      if ret = DH_FWK_SUCCESS then (DH_FWK_SUCCESS, param, [(ret, param)])
      else
        let (last, param', attempts) := retryLoop rest param
        (last, param', (ret, param) :: attempts)

/-- What the attempts of `RetryGetEnableParam` meet. -/
def tape (attempts : ℕ → Attempt) : List Attempt :=
  (List.range ENABLE_RETRY_MAX_TIMES).map attempts

/-- `RetryGetEnableParam`. -/
def retryGetEnableParam (attempts : ℕ → Attempt) (param : EnableParam) :
    Int × EnableParam × List (Int × EnableParam) :=
  if ¬isIdLengthValid networkId ∨ ¬isIdLengthValid uuid ∨ ¬isIdLengthValid dhId then
    (ERR_DH_FWK_PARA_INVALID, param, [])
  else retryLoop networkId uuid dhId dhType (tape attempts) param

/-- Nothing stops the loop : the device stays online, and no attempt has what it needs. -/
def Exhausted (attempts : List Attempt) : Prop :=
  ∀ a ∈ attempts, a.online = true ∧ ¬a.caches.Obtainable networkId uuid dhId dhType

end Retry

namespace EnableWorld

variable (w : EnableWorld) (networkId uuid dhId : String) (dhType : UInt32) (isActive : Bool)
  (customParams : String)

/-- `CheckSubtypeResource`. -/
def checkSubtypeResource (subtype networkId : String) : Int :=
  if w.checkResource then
    match w.resourceDesc.lookup subtype with
    | none => ERR_DH_FWK_RESOURCE_KEY_IS_EMPTY
    | some privacy =>
      if privacy ∧ ¬w.isIdenticalAccount networkId then ERR_DH_FWK_COMPONENT_ENABLE_FAILED
      else DH_FWK_SUCCESS
  else DH_FWK_SUCCESS

/-- The loop of `Enable` over the calls after the first. -/
def enableLoop (result : Int) (call : EnableCall) : List (Bool × Int) → Int × List EnableCall
  | [] => (result, [])
  | (online, answer) :: rest =>
    if ¬online then (result, [])
    else if answer = DH_FWK_SUCCESS then (DH_FWK_SUCCESS, [call])
    else
      let (ret, calls) := enableLoop result call rest
      (ret, call :: calls)

/-- `Enable` from the check of the resource on. -/
def enableWith (param : EnableParam) (attempts : List (Int × EnableParam)) : EnableRun :=
  let ret := if isActive then DH_FWK_SUCCESS else w.checkSubtypeResource param.subtype networkId
  if ret ≠ DH_FWK_SUCCESS then ⟨ret, attempts, []⟩
  else
    let param := addTokenIdToSinkAttrs w.cJSON customParams param
    let call : EnableCall := ⟨networkId, dhId, param, customParams⟩
    if w.answer = DH_FWK_SUCCESS then ⟨DH_FWK_SUCCESS, attempts, [call]⟩
    else
      let (ret, calls) :=
        enableLoop w.answer call ((List.range ENABLE_RETRY_MAX_TIMES).map w.retries)
      ⟨ret, attempts, call :: calls⟩

/-- `Enable`. -/
def enable : EnableRun :=
  if ¬isIdLengthValid networkId ∨ ¬isIdLengthValid uuid ∨ ¬isIdLengthValid dhId then
    ⟨ERR_DH_FWK_PARA_INVALID, [], []⟩
  else if ¬w.compSource_ dhType then ⟨ERR_DH_FWK_PARA_INVALID, [], []⟩
  else
    let (ret, param, _) := w.first.getEnableParam networkId uuid dhId dhType {}
    if ret = DH_FWK_SUCCESS then
      w.enableWith networkId dhId isActive customParams param [(ret, param)]
    else
      let (retried, param', attempts) :=
        retryGetEnableParam networkId uuid dhId dhType w.attempts param
      if retried ≠ DH_FWK_SUCCESS then ⟨ret, (ret, param) :: attempts, []⟩
      else w.enableWith networkId dhId isActive customParams param' ((ret, param) :: attempts)

/-- The call has what an attempt that succeeded wrote. -/
def Obtained (run : EnableRun) (call : EnableCall) : Prop :=
  ∃ param, (DH_FWK_SUCCESS, param) ∈ run.attempts ∧
    call.param = addTokenIdToSinkAttrs w.cJSON customParams param

end EnableWorld

section Retry

variable {networkId uuid dhId : String} {dhType : UInt32}

/-- The loop that nothing stops ends with success. -/
theorem retryLoop_of_exhausted : ∀ (attempts : List Attempt) (param : EnableParam),
    Exhausted networkId uuid dhId dhType attempts →
      (retryLoop networkId uuid dhId dhType attempts param).1 = DH_FWK_SUCCESS ∧
      (retryLoop networkId uuid dhId dhType attempts param).2.1.subtype = param.subtype ∧
      ∀ e ∈ (retryLoop networkId uuid dhId dhType attempts param).2.2, e.1 ≠ DH_FWK_SUCCESS
  | [], param, _ => by simp [retryLoop]
  | a :: rest, param, h => by
    obtain ⟨honline, hno⟩ := h a List.mem_cons_self
    obtain ⟨hret, hsub⟩ := ParamCaches.getEnableParam_of_not param hno
    obtain ⟨ih1, ih2, ih3⟩ := retryLoop_of_exhausted rest
      (a.caches.getEnableParam networkId uuid dhId dhType param).2.1
      fun b hb => h b (List.mem_cons_of_mem _ hb)
    simp only [retryLoop, honline, not_true_eq_false, if_false, hret, List.forall_mem_cons]
    exact ⟨ih1, ih2.trans hsub, hret, ih3⟩

/-- The loop that something stops ends as its last attempt did. -/
theorem retryLoop_of_not : ∀ (attempts : List Attempt) (param : EnableParam),
    ¬Exhausted networkId uuid dhId dhType attempts →
      ((retryLoop networkId uuid dhId dhType attempts param).1 = DH_FWK_SUCCESS ∧
        (DH_FWK_SUCCESS, (retryLoop networkId uuid dhId dhType attempts param).2.1) ∈
          (retryLoop networkId uuid dhId dhType attempts param).2.2) ∨
      ((retryLoop networkId uuid dhId dhType attempts param).1 ≠ DH_FWK_SUCCESS ∧
        ∀ e ∈ (retryLoop networkId uuid dhId dhType attempts param).2.2, e.1 ≠ DH_FWK_SUCCESS)
  | [], param, h => absurd (fun a ha => by cases ha) h
  | a :: rest, param, h => by
    by_cases honline : a.online = true
    swap
    · right
      simp [retryLoop, honline]
    by_cases hret : (a.caches.getEnableParam networkId uuid dhId dhType param).1 = DH_FWK_SUCCESS
    · left
      simp [retryLoop, honline, hret]
    have hno : ¬a.caches.Obtainable networkId uuid dhId dhType :=
      fun hobtain => hret (ParamCaches.getEnableParam_fst.2 hobtain)
    have hrest : ¬Exhausted networkId uuid dhId dhType rest :=
      fun hall => h (List.forall_mem_cons.2 ⟨⟨honline, hno⟩, hall⟩)
    simp only [retryLoop, honline, not_true_eq_false, if_false, hret, List.forall_mem_cons]
    obtain ⟨ih1, ih2⟩ | ⟨ih1, ih2⟩ := retryLoop_of_not rest
      (a.caches.getEnableParam networkId uuid dhId dhType param).2.1 hrest
    · exact .inl ⟨ih1, List.mem_cons_of_mem _ ih2⟩
    · exact .inr ⟨ih1, hret, ih2⟩

/-- `RetryGetEnableParam` answers success exactly if an attempt did, unless nothing stops it. -/
theorem retryGetEnableParam_iff (attempts : ℕ → Attempt) (param : EnableParam) :
    ((retryGetEnableParam networkId uuid dhId dhType attempts param).1 = DH_FWK_SUCCESS ↔
        ∃ e ∈ (retryGetEnableParam networkId uuid dhId dhType attempts param).2.2,
          e.1 = DH_FWK_SUCCESS) ↔
      ¬((isIdLengthValid networkId = true ∧ isIdLengthValid uuid = true ∧
        isIdLengthValid dhId = true) ∧
          Exhausted networkId uuid dhId dhType (tape attempts)) := by
  unfold retryGetEnableParam
  by_cases hids : isIdLengthValid networkId = true ∧ isIdLengthValid uuid = true ∧
    isIdLengthValid dhId = true
  swap
  · rw [if_pos (ParamCaches.ids_refused_iff.2 hids)]
    exact iff_of_true (by simp) fun h => hids h.1
  have hvalid : ¬(¬isIdLengthValid networkId ∨ ¬isIdLengthValid uuid ∨ ¬isIdLengthValid dhId) :=
    fun hrefused => ParamCaches.ids_refused_iff.1 hrefused hids
  rw [if_neg hvalid]
  by_cases hall : Exhausted networkId uuid dhId dhType (tape attempts)
  · obtain ⟨hret, -, hno⟩ := retryLoop_of_exhausted (tape attempts) param hall
    refine iff_of_false (fun h => ?_) (not_not.2 ⟨hids, hall⟩)
    obtain ⟨e, he, hsucc⟩ := h.1 hret
    exact hno e he hsucc
  · refine iff_of_true ?_ fun h => hall h.2
    obtain ⟨hret, hmem⟩ | ⟨hret, hno⟩ := retryLoop_of_not (tape attempts) param hall
    · exact iff_of_true hret ⟨_, hmem, rfl⟩
    · exact iff_of_false hret fun ⟨e, he, hsucc⟩ => hno e he hsucc

end Retry

namespace EnableWorld

variable {w : EnableWorld} {networkId uuid dhId : String} {dhType : UInt32} {isActive : Bool}
  {customParams : String}

/-- The component is called with one and the same object. -/
theorem mem_enableLoop {result : Int} {call c : EnableCall} : ∀ {tries : List (Bool × Int)},
    c ∈ (enableLoop result call tries).2 → c = call
  | [], h => by simp [enableLoop] at h
  | (online, answer) :: rest, h => by
    unfold enableLoop at h
    by_cases honline : online = true
    swap
    · simp [honline] at h
    by_cases hanswer : answer = DH_FWK_SUCCESS
    · simpa [honline, hanswer] using h
    · simp only [honline, not_true_eq_false, if_false, hanswer, List.mem_cons] at h
      exact h.elim id mem_enableLoop

/-- It is called with the object once the token is added. -/
theorem eq_of_mem_enableWith {param : EnableParam} {attempts : List (Int × EnableParam)}
    {call : EnableCall}
    (h : call ∈ (w.enableWith networkId dhId isActive customParams param attempts).calls) :
    call = ⟨networkId, dhId, addTokenIdToSinkAttrs w.cJSON customParams param, customParams⟩ := by
  unfold enableWith at h
  dsimp only at h
  generalize (if isActive = true then DH_FWK_SUCCESS
    else w.checkSubtypeResource param.subtype networkId) = ret at h
  by_cases hret : ret ≠ DH_FWK_SUCCESS
  · rw [if_pos hret] at h
    cases h
  rw [if_neg hret] at h
  by_cases hanswer : w.answer = DH_FWK_SUCCESS
  · simpa [hanswer] using h
  · rw [if_neg hanswer] at h
    exact (List.mem_cons.1 h).elim id mem_enableLoop

/-- What `Enable` does once it has an object. -/
theorem enableWith_cases (w : EnableWorld) (networkId dhId : String) (isActive : Bool)
    (customParams : String) (param : EnableParam) (attempts : List (Int × EnableParam)) :
    (w.enableWith networkId dhId isActive customParams param attempts).attempts = attempts ∧
      (∀ call ∈ (w.enableWith networkId dhId isActive customParams param attempts).calls,
        call.param = addTokenIdToSinkAttrs w.cJSON customParams param) ∧
      ((w.enableWith networkId dhId isActive customParams param attempts).calls = [] ↔
        ¬(isActive = true ∨ w.checkSubtypeResource param.subtype networkId = DH_FWK_SUCCESS)) := by
  refine and_left_comm.2 ⟨fun call hcall => by rw [eq_of_mem_enableWith hcall], ?_⟩
  unfold enableWith
  by_cases hcheck : isActive = true ∨
    w.checkSubtypeResource param.subtype networkId = DH_FWK_SUCCESS
  swap
  · push Not at hcheck
    simp [hcheck]
  have hret : (if isActive then DH_FWK_SUCCESS
      else w.checkSubtypeResource param.subtype networkId) = DH_FWK_SUCCESS := by
    split_ifs with hactive
    · rfl
    · exact hcheck.resolve_left hactive
  simp only [hret, ne_eq, not_true_eq_false, if_false, hcheck]
  split_ifs with hanswer
  · simp
  · exact ⟨rfl, by simp⟩

theorem obtained_enableWith {param : EnableParam} {attempts : List (Int × EnableParam)}
    (h : (DH_FWK_SUCCESS, param) ∈ attempts) :
    ∀ call ∈ (w.enableWith networkId dhId isActive customParams param attempts).calls,
      w.Obtained customParams (w.enableWith networkId dhId isActive customParams param attempts)
        call := by
  obtain ⟨hattempts, hcalls, -⟩ :=
    w.enableWith_cases networkId dhId isActive customParams param attempts
  exact fun call hcall => ⟨param, by rwa [hattempts], hcalls call hcall⟩

/-- The component is only called with what an attempt that succeeded wrote, exactly unless all of
the attempts failed, the device stayed online, and the check of the resource lets an empty subtype
pass. And the retry answers success exactly if an attempt did, unless all of them failed. -/
theorem enable_params_iff (w : EnableWorld) (networkId uuid dhId : String) (dhType : UInt32)
    (isActive : Bool) (customParams : String) :
    ((∀ call ∈ (w.enable networkId uuid dhId dhType isActive customParams).calls,
        w.Obtained customParams (w.enable networkId uuid dhId dhType isActive customParams) call) ↔
      ¬((isIdLengthValid networkId = true ∧ isIdLengthValid uuid = true ∧
          isIdLengthValid dhId = true) ∧ w.compSource_ dhType = true ∧
        ¬w.first.Obtainable networkId uuid dhId dhType ∧
        Exhausted networkId uuid dhId dhType (tape w.attempts) ∧
        (isActive = true ∨ w.checkSubtypeResource "" networkId = DH_FWK_SUCCESS))) ∧
    ∀ (attempts : ℕ → Attempt) (param : EnableParam),
      ((retryGetEnableParam networkId uuid dhId dhType attempts param).1 = DH_FWK_SUCCESS ↔
          ∃ e ∈ (retryGetEnableParam networkId uuid dhId dhType attempts param).2.2,
            e.1 = DH_FWK_SUCCESS) ↔
        ¬((isIdLengthValid networkId = true ∧ isIdLengthValid uuid = true ∧
            isIdLengthValid dhId = true) ∧
          Exhausted networkId uuid dhId dhType (tape attempts)) := by
  refine ⟨?_, fun attempts param => retryGetEnableParam_iff attempts param⟩
  unfold enable
  by_cases hids : isIdLengthValid networkId = true ∧ isIdLengthValid uuid = true ∧
    isIdLengthValid dhId = true
  swap
  · rw [if_pos (ParamCaches.ids_refused_iff.2 hids)]
    exact iff_of_true (by simp) fun h => hids h.1
  have hvalid : ¬(¬isIdLengthValid networkId ∨ ¬isIdLengthValid uuid ∨ ¬isIdLengthValid dhId) :=
    fun hrefused => ParamCaches.ids_refused_iff.1 hrefused hids
  rw [if_neg hvalid]
  by_cases hcomp : w.compSource_ dhType = true
  swap
  · rw [if_pos hcomp]
    exact iff_of_true (by simp) fun h => hcomp h.2.1
  rw [if_neg (not_not.2 hcomp)]
  by_cases hfirst : w.first.Obtainable networkId uuid dhId dhType
  · have hret : (w.first.getEnableParam networkId uuid dhId dhType {}).1 = DH_FWK_SUCCESS :=
      ParamCaches.getEnableParam_fst.2 hfirst
    simp only [hret, if_true]
    exact iff_of_true (obtained_enableWith List.mem_cons_self) fun h => h.2.2.1 hfirst
  obtain ⟨hret, hsub⟩ := ParamCaches.getEnableParam_of_not {} hfirst
  -- the object that the first attempt leaves
  generalize w.first.getEnableParam networkId uuid dhId dhType {} = run at hret hsub ⊢
  obtain ⟨ret, param, caches⟩ := run
  simp only at hret hsub
  simp only [hret, if_false, retryGetEnableParam, hvalid]
  by_cases hall : Exhausted networkId uuid dhId dhType (tape w.attempts)
  · obtain ⟨hretried, hsub', hno⟩ := retryLoop_of_exhausted (tape w.attempts) param hall
    simp only [hretried, ne_eq, not_true_eq_false, if_false, hids, hcomp, hfirst, hall,
      not_false_eq_true, true_and, and_self]
    obtain ⟨hattempts, -, hnil⟩ := w.enableWith_cases networkId dhId isActive customParams
      (retryLoop networkId uuid dhId dhType (tape w.attempts) param).2.1
      ((ret, param) :: (retryLoop networkId uuid dhId dhType (tape w.attempts) param).2.2)
    rw [hsub', hsub] at hnil
    rw [← hnil, List.eq_nil_iff_forall_not_mem]
    refine forall₂_congr fun call hcall => iff_of_false ?_ fun h => h
    rintro ⟨obtained, hmem, -⟩
    rw [hattempts] at hmem
    obtain heq | hmem := List.mem_cons.1 hmem
    · exact hret (congrArg Prod.fst heq).symm
    · exact hno _ hmem rfl
  · refine iff_of_true ?_ fun h => hall h.2.2.2.1
    obtain ⟨hretried, hmem⟩ | ⟨hretried, -⟩ := retryLoop_of_not (tape w.attempts) param hall
    · simp only [hretried, ne_eq, not_true_eq_false, if_false]
      exact obtained_enableWith (List.mem_cons_of_mem _ hmem)
    · simp [hretried]

/-- A device that stays online and of which nothing is known. -/
def unknownCaches : ParamCaches where
  localUuid := "l"
  localUdidHash := "lh"
  sha256 s := s
  getUdidHashIdByUUID _ := "uh"
  versionInfos _ := .error ⟨ERR_DH_FWK_VERSION_DEVICE_ID_NOT_EXIST, by decide⟩

def unknownDevice : EnableWorld where
  compSource_ _ := true
  first := unknownCaches
  attempts _ := ⟨true, unknownCaches⟩
  checkResource := true
  resourceDesc := ∅
  isIdenticalAccount _ := true
  cJSON := ⟨fun _ => "", fun _ => none⟩
  answer := DH_FWK_SUCCESS
  retries _ := (true, DH_FWK_SUCCESS)

/-- The component is called with an empty object, and the retry answers success. -/
theorem enable_params_not_obtained :
    ¬(∀ call ∈ (unknownDevice.enable "n" "u" "c" 1 true "").calls,
        unknownDevice.Obtained "" (unknownDevice.enable "n" "u" "c" 1 true "") call) ∧
      ¬((retryGetEnableParam "n" "u" "c" 1 unknownDevice.attempts {}).1 = DH_FWK_SUCCESS ↔
        ∃ e ∈ (retryGetEnableParam "n" "u" "c" 1 unknownDevice.attempts {}).2.2,
          e.1 = DH_FWK_SUCCESS) := by
  have hcall : (unknownDevice.enable "n" "u" "c" 1 true "").calls = [⟨"n", "c", {}, ""⟩] := by
    decide +kernel
  have hno : ∀ e ∈ (unknownDevice.enable "n" "u" "c" 1 true "").attempts, e.1 ≠ DH_FWK_SUCCESS := by
    decide +kernel
  refine ⟨fun h => ?_, by decide +kernel⟩
  obtain ⟨param, hmem, -⟩ := h ⟨"n", "c", {}, ""⟩ (by rw [hcall]; exact List.mem_cons_self)
  exact hno _ hmem rfl

end EnableWorld

end DHFwk
