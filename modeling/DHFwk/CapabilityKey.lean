import DHFwk.Text

/-!
# Keys of capability records

A record is stored under `deviceId ### dhId` (`getCapabilityKey`). What a key says about its
device is read back by splitting it at the first separator (`splitString`). A device id
without the character of the separator is read back as it is, and such ids make different
keys for different hardware.
-/

namespace DHFwk

abbrev RESOURCE_SEPARATOR : String := "###"

/-- `GetCapabilityKey`. -/
def getCapabilityKey (deviceId dhId : String) : String :=
  deviceId ++ RESOURCE_SEPARATOR ++ dhId

/-- `DHCommTool::SplitString` : the part before the first separator, nothing if there is
none. -/
def splitString (capInfoPrefix : String) : String :=
  match Text.find RESOURCE_SEPARATOR.toList capInfoPrefix.toList with
  | none => ""
  | some pos => String.ofList (capInfoPrefix.toList.take pos)

/-- What is split off a key is its beginning, and a separator follows. -/
theorem splitString_append {key : String} (h : splitString key ≠ "") :
    ∃ rest, key = splitString key ++ RESOURCE_SEPARATOR ++ rest := by
  unfold splitString at h ⊢
  split at h
  · exact absurd rfl h
  · next pos hpos =>
    obtain ⟨rest, hrest⟩ := Text.append_of_find hpos
    refine ⟨String.ofList rest, String.toList_inj.1 ?_⟩
    simpa using hrest

/-- No separator begins in the id, where one follows : it neither has one in it nor ends with the
character. -/
def PlainId (deviceId : String) : Prop :=
  ¬RESOURCE_SEPARATOR.toList <:+: deviceId.toList ++ ['#', '#']

instance (deviceId : String) : Decidable (PlainId deviceId) :=
  inferInstanceAs (Decidable ¬_)

/-- The id with a separator begins the other one with a separator. -/
def BeginsWith (deviceId prefixId : String) : Prop :=
  prefixId.toList ++ RESOURCE_SEPARATOR.toList <+: deviceId.toList ++ RESOURCE_SEPARATOR.toList

instance (deviceId prefixId : String) : Decidable (BeginsWith deviceId prefixId) :=
  inferInstanceAs (Decidable (_ <+: _))

theorem beginsWith_self (deviceId : String) : BeginsWith deviceId deviceId :=
  List.prefix_refl _

/-- What is split off any key. -/
theorem splitString_getCapabilityKey_iff {deviceId prefixId : String} (dhId : String) :
    splitString (getCapabilityKey deviceId dhId) = prefixId ↔
      PlainId prefixId ∧ BeginsWith deviceId prefixId := by
  have hkey : (getCapabilityKey deviceId dhId).toList =
      deviceId.toList ++ RESOURCE_SEPARATOR.toList ++ dhId.toList := by
    rw [getCapabilityKey, String.toList_append, String.toList_append]
  have hcut : splitString (getCapabilityKey deviceId dhId) = prefixId ↔
      ∃ n, Text.find RESOURCE_SEPARATOR.toList (getCapabilityKey deviceId dhId).toList = some n ∧
        (getCapabilityKey deviceId dhId).toList.take n = prefixId.toList := by
    obtain ⟨n, -, hfind⟩ := Text.exists_find_append RESOURCE_SEPARATOR.toList deviceId.toList
    unfold splitString
    rw [hkey, hfind]
    simp [← String.toList_inj]
  rw [hcut, hkey, Text.take_find_iff, Text.find_append_self_iff (by decide)]
  rfl

theorem plainId_of_notMem {deviceId : String} (h : '#' ∉ deviceId.toList) : PlainId deviceId := by
  intro hinfix
  have hcount := hinfix.sublist.count_le '#'
  rw [List.count_append, List.count_eq_zero.2 h] at hcount
  exact absurd hcount (by decide)

/-- A device id without the character of the separator is split off its keys. -/
theorem splitString_getCapabilityKey {deviceId : String} (h : '#' ∉ deviceId.toList)
    (dhId : String) : splitString (getCapabilityKey deviceId dhId) = deviceId :=
  (splitString_getCapabilityKey_iff dhId).2 ⟨plainId_of_notMem h, beginsWith_self deviceId⟩

/-- One device has different keys for different hardware. -/
theorem getCapabilityKey_inj_right {deviceId dhId dhId' : String}
    (h : getCapabilityKey deviceId dhId = getCapabilityKey deviceId dhId') : dhId = dhId' := by
  have hlist := congrArg String.toList h
  rw [getCapabilityKey, getCapabilityKey, String.toList_append, String.toList_append (t := dhId')]
    at hlist
  exact String.toList_inj.1 (List.append_cancel_left hlist)

/-- Such ids make different keys for different hardware. -/
theorem getCapabilityKey_inj {deviceId deviceId' dhId dhId' : String}
    (h : '#' ∉ deviceId.toList) (h' : '#' ∉ deviceId'.toList)
    (hkey : getCapabilityKey deviceId dhId = getCapabilityKey deviceId' dhId') :
    deviceId = deviceId' ∧ dhId = dhId' := by
  have hid : deviceId = deviceId' := by
    rw [← splitString_getCapabilityKey h dhId, hkey, splitString_getCapabilityKey h']
  subst hid
  exact ⟨rfl, getCapabilityKey_inj_right hkey⟩

end DHFwk
