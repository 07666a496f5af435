import DHFwk.EnableParams

/-!
# The lookup of a version

`GetVersion` asks the version manager, then the version store. It goes on from the manager if the
manager's version is empty, but what it takes from the store may be empty too : then it succeeds
with no version. `GetEnableCapParam` asks the meta record only if `GetVersion` fails, so such a
success also keeps it from a version that the meta record has.

Both find a version if there is one, except in exactly these states (`version_lookup_iff`).
-/

set_option linter.unusedSectionVars false

namespace DHFwk

namespace ParamCaches

variable (s : ParamCaches) (networkId uuid : String) (dhType : UInt32) (isSink : Bool)

/-! ## The sources -/

/-- The version manager has a version of the role, which may be empty. -/
def CacheHolds (version : String) : Prop :=
  ∃ v, s.getCompVersion uuid dhType = .ok v ∧ v.ofEnd isSink = version

/-- The version store has a version of the role, which may be empty. -/
def StoreHolds (version : String) : Prop :=
  isIdLengthValid uuid = true ∧
    ∃ info v, s.getVersionInfoByDeviceId (s.getDeviceIdByUUID uuid) = .ok info ∧
      info.compVersions.lookup dhType = some v ∧ v.ofEnd isSink = version

/-- One of the two has the version, and it is not empty. -/
def Held (version : String) : Prop :=
  version ≠ "" ∧ (s.CacheHolds uuid dhType isSink version ∨ s.StoreHolds uuid dhType isSink version)

/-- The version store has an empty version, and the version manager none that is not. -/
def Blank : Prop :=
  (∀ version, s.CacheHolds uuid dhType isSink version → version = "") ∧
    s.StoreHolds uuid dhType isSink ""

/-- `GetVersion` succeeds exactly if there is a version, and then with one of these. -/
def FindsVersion (version : String) : Prop :=
  ((s.getVersion uuid dhType version isSink).1 = DH_FWK_SUCCESS ↔
      ∃ held, s.Held uuid dhType isSink held) ∧
    ((s.getVersion uuid dhType version isSink).1 = DH_FWK_SUCCESS →
      s.Held uuid dhType isSink (s.getVersion uuid dhType version isSink).2.1)

/-- If `GetEnableCapParam` succeeds with an empty version of the sink, the meta record has no
version either. -/
def AsksMeta (param : EnableParam) (capability : CapabilityInfo) : Prop :=
  (s.getEnableCapParam networkId uuid dhType param capability).1 = DH_FWK_SUCCESS →
    (s.getEnableCapParam networkId uuid dhType param capability).2.1.sinkVersion = "" →
    ∀ metaCap, s.getMetaCapInfo (s.getUdidHashIdByUUID uuid) capability.dhId_ = .ok metaCap →
      metaCap.compVersion_.sinkVersion = ""

/-- The sink's version is blank once the version of the source has been looked up : for the local
device that may have put the store's record in the place of the manager's. -/
def SinkBlank : Prop :=
  s.StoreHolds uuid dhType true "" ∧
    ∀ v, s.getCompVersion uuid dhType = .ok v →
      v.sinkVersion = "" ∨ uuid = s.localUuid ∧ v.sourceVersion = ""

/-- The meta record has a version that is not empty. -/
def MetaHolds (capability : CapabilityInfo) : Prop :=
  ∃ metaCap, s.getMetaCapInfo (s.getUdidHashIdByUUID uuid) capability.dhId_ = .ok metaCap ∧
    metaCap.compVersion_.sinkVersion ≠ ""

section

variable {s networkId uuid dhType isSink} {held version : String} {param : EnableParam}
variable {capability : CapabilityInfo}

theorem CacheHolds.valid (h : s.CacheHolds uuid dhType isSink version) :
    isIdLengthValid uuid = true := by
  obtain ⟨v, hv, -⟩ := h
  by_contra hid
  simp [getCompVersion, hid] at hv

/-! ## What is found -/

/-- A version of the manager is taken if it is not empty. -/
theorem getVersion_of_cache (version : String) (h : s.CacheHolds uuid dhType isSink held)
    (hne : held ≠ "") :
    s.getVersion uuid dhType version isSink = (DH_FWK_SUCCESS, held, s) := by
  have hid := h.valid
  obtain ⟨v, hv, rfl⟩ := h
  simp [getVersion, getVersionFromVerMgr, hid, hv, hne]

/-- Otherwise it is up to the store. -/
theorem getVersion_eq_store (version : String) (hid : isIdLengthValid uuid = true)
    (h : ∀ held, s.CacheHolds uuid dhType isSink held → held = "") :
    ∃ version', s.getVersion uuid dhType version isSink =
      s.getVersionFromVerInfoMgr uuid dhType version' isSink := by
  cases hv : s.getCompVersion uuid dhType with
  | error ret =>
    exact ⟨version, by simp [getVersion, getVersionFromVerMgr, hid, hv, ret.2]⟩
  | ok v =>
    have hempty : v.ofEnd isSink = "" := h _ ⟨v, hv, rfl⟩
    exact ⟨"", by simp [getVersion, getVersionFromVerMgr, hid, hv, hempty]⟩

theorem getVersion_of_store (version : String)
    (h : ∀ held, s.CacheHolds uuid dhType isSink held → held = "")
    (hstore : s.StoreHolds uuid dhType isSink held) :
    ∃ info v, s.getVersionInfoByDeviceId (s.getDeviceIdByUUID uuid) = .ok info ∧
      info.compVersions.lookup dhType = some v ∧ v.ofEnd isSink = held ∧
      s.getVersion uuid dhType version isSink =
        (DH_FWK_SUCCESS, held, s.updateVersionCache uuid info) := by
  obtain ⟨hid, info, v, hinfo, hv, rfl⟩ := hstore
  obtain ⟨version', heq⟩ := getVersion_eq_store version hid h
  refine ⟨info, v, hinfo, hv, rfl, ?_⟩
  rw [heq]
  simp [getVersionFromVerInfoMgr, hid, hinfo, hv]

theorem getVersion_of_neither (version : String)
    (h : ∀ held, s.CacheHolds uuid dhType isSink held → held = "")
    (hstore : ∀ held, ¬s.StoreHolds uuid dhType isSink held) :
    (s.getVersion uuid dhType version isSink).1 ≠ DH_FWK_SUCCESS := by
  by_cases hid : isIdLengthValid uuid = true
  · obtain ⟨version', heq⟩ := getVersion_eq_store version hid h
    rw [heq]
    cases hinfo : s.getVersionInfoByDeviceId (s.getDeviceIdByUUID uuid) with
    | error ret => simpa [getVersionFromVerInfoMgr, hid, hinfo] using ret.2
    | ok info =>
      cases hv : info.compVersions.lookup dhType with
      | none => simp [getVersionFromVerInfoMgr, hid, hinfo, hv]
      | some v => exact absurd ⟨hid, info, v, hinfo, hv, rfl⟩ (hstore _)
  · simp [getVersion, hid]

/-- There is one version of the store. -/
theorem StoreHolds.unique (h : s.StoreHolds uuid dhType isSink held)
    (h' : s.StoreHolds uuid dhType isSink version) : held = version := by
  obtain ⟨-, info, v, hinfo, hv, rfl⟩ := h
  obtain ⟨-, info', v', hinfo', hv', rfl⟩ := h'
  cases hinfo.symm.trans hinfo'
  cases hv.symm.trans hv'
  rfl

/-- The three ways of a lookup : the manager's version, the store's, or none. -/
theorem lookup_cases (s : ParamCaches) (uuid : String) (dhType : UInt32) (isSink : Bool) :
    (∃ held, s.CacheHolds uuid dhType isSink held ∧ held ≠ "") ∨
      (∀ held, s.CacheHolds uuid dhType isSink held → held = "") ∧
        ((∃ held, s.StoreHolds uuid dhType isSink held) ∨
          ∀ held, ¬s.StoreHolds uuid dhType isSink held) := by
  by_cases hcache : ∃ held, s.CacheHolds uuid dhType isSink held ∧ held ≠ ""
  · exact .inl hcache
  · refine .inr ⟨fun held h => ?_, ?_⟩
    · by_contra hne
      exact hcache ⟨held, h, hne⟩
    · by_cases hstore : ∃ held, s.StoreHolds uuid dhType isSink held
      · exact .inl hstore
      · exact .inr (not_exists.1 hstore)

/-- A lookup is right exactly if it does not meet an empty version in the store. -/
theorem findsVersion_iff (version : String) :
    s.FindsVersion uuid dhType isSink version ↔ ¬s.Blank uuid dhType isSink := by
  obtain ⟨held, hcache, hne⟩ | ⟨hcache, ⟨held, hstore⟩ | hstore⟩ :=
    s.lookup_cases uuid dhType isSink
  · have hget := getVersion_of_cache version hcache hne
    refine iff_of_true ?_ fun h => hne (h.1 held hcache)
    rw [FindsVersion, hget]
    exact ⟨iff_of_true rfl ⟨held, hne, .inl hcache⟩, fun _ => ⟨hne, .inl hcache⟩⟩
  · obtain ⟨info, v, -, -, -, hget⟩ := getVersion_of_store version hcache hstore
    rw [FindsVersion, hget]
    by_cases hempty : held = ""
    · subst hempty
      exact iff_of_false (fun h => (h.2 rfl).1 rfl) fun h => h ⟨hcache, hstore⟩
    · refine iff_of_true ?_ fun h => hempty (hstore.unique h.2)
      exact ⟨iff_of_true rfl ⟨held, hempty, .inr hstore⟩, fun _ => ⟨hempty, .inr hstore⟩⟩
  · have hfail := getVersion_of_neither version hcache hstore
    refine iff_of_true ⟨iff_of_false hfail ?_, fun h => absurd h hfail⟩ fun h => hstore _ h.2
    rintro ⟨held, hne, h | h⟩
    · exact hne (hcache held h)
    · exact hstore held h

/-! ## The meta record -/

theorem storeHolds_updateVersionCache {uuid' : String} {info : VersionInfo} :
    (s.updateVersionCache uuid' info).StoreHolds uuid dhType isSink version ↔
      s.StoreHolds uuid dhType isSink version := by
  obtain ⟨t, ht⟩ := s.updateVersionCache_others uuid' info
  rw [ht]
  rfl

/-- What the lookup of the source's version leaves is blank for the sink exactly if the sink's
version is blank. -/
theorem blank_getVersion_iff (hlocal : s.VersionKnown s.localUuid dhType false) :
    (s.getVersion s.localUuid dhType "" false).2.2.Blank uuid dhType true ↔
      s.SinkBlank uuid dhType := by
  obtain ⟨held, hcache, hne⟩ | ⟨hcache, ⟨held, hstore⟩ | hstore⟩ :=
    s.lookup_cases s.localUuid dhType false
  · -- the manager has the source's version, and stays
    rw [getVersion_of_cache "" hcache hne]
    obtain ⟨v, hv, rfl⟩ := hcache
    refine and_comm.trans (and_congr_right fun _ => ⟨fun h w hw => ?_, ?_⟩)
    · exact .inl (h _ ⟨w, hw, rfl⟩)
    · rintro h version ⟨w, hw, rfl⟩
      rcases h w hw with hempty | ⟨rfl, hempty⟩
      · exact hempty
      · cases hv.symm.trans hw
        exact absurd hempty hne
  · -- the store's record comes into the manager
    obtain ⟨info, v, hinfo, hv, -, hget⟩ := getVersion_of_store "" hcache hstore
    rw [hget]
    have hid := hstore.1
    rw [Blank, SinkBlank, storeHolds_updateVersionCache, and_comm]
    refine and_congr_right fun hblank => ?_
    by_cases hu : uuid = s.localUuid
    · subst hu
      obtain ⟨-, info', v', hinfo', hv', hempty⟩ := hblank
      cases hinfo.symm.trans hinfo'
      cases hv.symm.trans hv'
      have hcomp := getCompVersion_updateVersionCache (s := s) hid hv
      refine iff_of_true ?_ fun w hw => .inr ⟨rfl, hcache _ ⟨w, hw, rfl⟩⟩
      rintro version ⟨w, hw, rfl⟩
      cases hcomp.symm.trans hw
      exact hempty
    · have hcomp : (s.updateVersionCache s.localUuid info).getCompVersion uuid dhType =
          s.getCompVersion uuid dhType := by
        simp [updateVersionCache, hid, getCompVersion, Table.lookup_set_ne _ hu]
      refine ⟨fun h w hw => .inl (h _ ⟨w, hcomp.trans hw, rfl⟩), ?_⟩
      rintro h version ⟨w, hw, rfl⟩
      exact (h w (hcomp.symm.trans hw)).resolve_right fun hsame => hu hsame.1
  · exact absurd (getVersion_fst.2 hlocal) (getVersion_of_neither "" hcache hstore)

/-- With the version of the source, `GetEnableCapParam` takes that of the sink from `GetVersion`. -/
theorem getEnableCapParam_of_version {t : ParamCaches} (param : EnableParam)
    (capability : CapabilityInfo) (hnet : isIdLengthValid networkId = true)
    (hid : isIdLengthValid uuid = true)
    (hlocal : (s.getVersion s.localUuid dhType "" false).1 = DH_FWK_SUCCESS)
    (hsink : (s.getVersion s.localUuid dhType "" false).2.2.getVersion uuid dhType "" true =
      (DH_FWK_SUCCESS, held, t)) :
    (s.getEnableCapParam networkId uuid dhType param capability).1 = DH_FWK_SUCCESS ∧
      (s.getEnableCapParam networkId uuid dhType param capability).2.1.sinkVersion = held := by
  simp [getEnableCapParam, hnet, hid, hlocal, hsink]

/-- Without it there is no success. -/
theorem getEnableCapParam_of_not (h : ¬(isIdLengthValid networkId = true ∧
    isIdLengthValid uuid = true ∧ s.VersionKnown s.localUuid dhType false)) :
    (s.getEnableCapParam networkId uuid dhType param capability).1 ≠ DH_FWK_SUCCESS := by
  by_cases hnet : isIdLengthValid networkId = true
  · by_cases hid : isIdLengthValid uuid = true
    · have hret : (s.getVersion s.localUuid dhType "" false).1 ≠ DH_FWK_SUCCESS :=
        fun hlocal => h ⟨hnet, hid, getVersion_fst.1 hlocal⟩
      simp [getEnableCapParam, hnet, hid, hret]
    · simp [getEnableCapParam, hid]
  · simp [getEnableCapParam, hnet]

/-- If `GetVersion` fails, the version is that of the meta record. -/
theorem sinkVersion_of_meta {metaCap : MetaCapabilityInfo}
    (hnet : isIdLengthValid networkId = true) (hid : isIdLengthValid uuid = true)
    (hlocal : (s.getVersion s.localUuid dhType "" false).1 = DH_FWK_SUCCESS)
    (hsink : ((s.getVersion s.localUuid dhType "" false).2.2.getVersion uuid dhType "" true).1 ≠
      DH_FWK_SUCCESS)
    (hmeta : s.getMetaCapInfo (s.getUdidHashIdByUUID uuid) capability.dhId_ = .ok metaCap) :
    (s.getEnableCapParam networkId uuid dhType param capability).2.1.sinkVersion =
      metaCap.compVersion_.sinkVersion := by
  have hstate :
      ((s.getVersion s.localUuid dhType "" false).2.2.getVersion uuid dhType "" true).2.2 =
        (s.getVersion s.localUuid dhType "" false).2.2 :=
    getVersion_of_not fun h => hsink (getVersion_fst.2 h)
  obtain ⟨t, ht⟩ := s.getVersion_others s.localUuid dhType false
  have hhash : (s.getVersion s.localUuid dhType "" false).2.2.getUdidHashIdByUUID =
      s.getUdidHashIdByUUID := by rw [ht]
  have hget := s.getMetaCapInfo_getVersion s.localUuid (s.getUdidHashIdByUUID uuid)
    capability.dhId_ dhType false
  simp [getEnableCapParam, hnet, hid, hlocal, hsink, hstate, hhash, hget, hmeta]

/-- The meta record's version is passed over exactly if the sink's version is blank. -/
theorem asksMeta_iff (param : EnableParam) (capability : CapabilityInfo) :
    s.AsksMeta networkId uuid dhType param capability ↔
      ¬(isIdLengthValid networkId = true ∧ s.VersionKnown s.localUuid dhType false ∧
        s.SinkBlank uuid dhType ∧ s.MetaHolds uuid capability) := by
  by_cases hpre : isIdLengthValid networkId = true ∧ isIdLengthValid uuid = true ∧
      s.VersionKnown s.localUuid dhType false
  swap
  · exact iff_of_true (fun h => absurd h (getEnableCapParam_of_not hpre))
      fun h => hpre ⟨h.1, h.2.2.1.1.1, h.2.1⟩
  obtain ⟨hnet, hid, hlocal⟩ := hpre
  have hret := getVersion_fst.2 hlocal
  rw [← blank_getVersion_iff hlocal]
  obtain ⟨held, hcache, hne⟩ | ⟨hcache, ⟨held, hstore⟩ | hstore⟩ :=
    (s.getVersion s.localUuid dhType "" false).2.2.lookup_cases uuid dhType true
  · obtain ⟨-, hversion⟩ := getEnableCapParam_of_version param capability hnet hid hret
      (getVersion_of_cache "" hcache hne)
    refine iff_of_true (fun _ hempty => absurd (hversion.symm.trans hempty) hne) fun h => ?_
    exact hne (h.2.2.1.1 held hcache)
  · obtain ⟨info, v, -, -, -, hget⟩ := getVersion_of_store "" hcache hstore
    obtain ⟨hsuccess, hversion⟩ := getEnableCapParam_of_version param capability hnet hid
      hret hget
    constructor
    · rintro h ⟨-, -, hblank, metaCap, hmeta, hne⟩
      exact hne (h hsuccess (hversion.trans (hstore.unique hblank.2)) metaCap hmeta)
    · intro h _ hempty metaCap hmeta
      by_contra hne
      have hblank : held = "" := hversion.symm.trans hempty
      exact h ⟨hnet, hlocal, ⟨hcache, hblank ▸ hstore⟩, metaCap, hmeta, hne⟩
  · have hfail := getVersion_of_neither "" hcache hstore
    refine iff_of_true (fun _ hempty metaCap hmeta => ?_) fun h => hstore _ h.2.2.1.2
    rw [← hempty, sinkVersion_of_meta hnet hid hret hfail hmeta]

/-- A lookup succeeds exactly if there is a version, and does not keep `GetEnableCapParam` from the
meta record, exactly if it does not meet an empty version of the store. -/
theorem version_lookup_iff (s : ParamCaches) (networkId uuid : String) (dhType : UInt32)
    (isSink : Bool) (version : String) (param : EnableParam) (capability : CapabilityInfo) :
    (s.FindsVersion uuid dhType isSink version ∧
        s.AsksMeta networkId uuid dhType param capability) ↔
      ¬s.Blank uuid dhType isSink ∧
        ¬(isIdLengthValid networkId = true ∧ s.VersionKnown s.localUuid dhType false ∧
          s.SinkBlank uuid dhType ∧ s.MetaHolds uuid capability) :=
  and_congr (findsVersion_iff version) (asksMeta_iff param capability)

end

/-- The version store has a record of the other device's camera that names the version of the
source only. The meta record names that of the sink. -/
def blankCaches : ParamCaches :=
  { cameraCaches with
    metaInfoManager :=
      { globalInfoMap_ := Table.set ∅ (getCapabilityKey "uh" "c")
          { dhId_ := "c", deviceId_ := "u", dhType_ := 1, udidHash_ := "uh",
            compVersion_ := { sinkVersion := "2" } } }
    versionInfos := fun _ => .ok ⟨"u", "1", Table.set ∅ 1 { sourceVersion := "1" }⟩ }

/-- `GetVersion` succeeds with no version, and the enable goes on without the one that is there. -/
theorem version_lookup_blank :
    (blankCaches.getVersion "u" 1 "" true).1 = DH_FWK_SUCCESS ∧
      (blankCaches.getVersion "u" 1 "" true).2.1 = "" ∧
      ¬blankCaches.FindsVersion "u" 1 true "" ∧
      (blankCaches.getEnableCapParam "n" "u" 1 {} { dhId_ := "c", deviceId_ := "u" }).1 =
        DH_FWK_SUCCESS ∧
      (blankCaches.getEnableCapParam "n" "u" 1 {} { dhId_ := "c", deviceId_ := "u" }).2.1.sinkVersion
        = "" ∧
      blankCaches.MetaHolds "u" { dhId_ := "c", deviceId_ := "u" } := by
  have hversion : (blankCaches.getVersion "u" 1 "" true).1 = DH_FWK_SUCCESS ∧
      (blankCaches.getVersion "u" 1 "" true).2.1 = "" := by
    decide +kernel
  exact ⟨hversion.1, hversion.2, fun h => (h.2 hversion.1).1 hversion.2, by decide +kernel,
    by decide +kernel, ⟨_, rfl, by decide⟩⟩

end ParamCaches

end DHFwk
