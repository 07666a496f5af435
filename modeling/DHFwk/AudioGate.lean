import DHFwk.DeviceTasks
import DHFwk.Json

/-!
# Which subtypes of audio a product has

The configuration of a product may switch off subtypes of a type for the role of the sink or of the
source. It is parsed into a table of tables : a subtype of a type, then a role. The gate lets a
role pass that is not in the table. The audio component is registered if its microphone or its
loudspeaker is not in the table, or has any role that is on.

So the two count a role that is missing beside one that is off, and a role that is on but is
neither the sink nor the source, in different ways, and else agree (`registered_iff_gate`).
-/

set_option linter.unusedSectionVars false

namespace DHFwk

open Json

abbrev AUDIO_COMP_NAME : String := "distributed_audio"
abbrev AUDIO_HANDLER_VERSION : String := "1.0"
abbrev AUDIO_SOURCE_VERSION : String := "1.0"
abbrev AUDIO_SINK_VERSION : String := "1.0"

/-- `g_mapDhTypeName`. -/
def g_mapDhTypeName : List (String × DHType) :=
  [("UNKNOWN", .UNKNOWN), ("CAMERA", .CAMERA), ("AUDIO", DHType.AUDIO), ("SCREEN", .SCREEN),
    ("GPS", .GPS), ("INPUT", .INPUT), ("HFP", .HFP), ("A2D", .A2D),
    ("VIRMODEM_AUDIO", DHType.VIRMODEM_AUDIO), ("MODEM", .MODEM)]

/-- The type of a name. A name that is not there becomes one of the type `UNKNOWN`. -/
def DHType.ofName (name : String) : DHType :=
  ((g_mapDhTypeName.find? fun e => e.1 = name).map Prod.snd).getD .UNKNOWN

/-- The number of a type. -/
def DHType.number (type : DHType) : UInt32 :=
  ((dhTypeNumbers.find? fun e => e.2 = type).map Prod.fst).getD 0

/-- What is read of a `CompConfig` here. -/
structure CompConfig where
  name : String
  type : DHType
  compHandlerVersion : String
  compSourceVersion : String
  compSinkVersion : String
  haveFeature : Bool
  sourceFeatureFilters : List String
  sinkSupportedFeatures : List String
  deriving DecidableEq

/-- `g_audioCompConfig`. -/
def g_audioCompConfig : CompConfig where
  name := AUDIO_COMP_NAME
  type := DHType.AUDIO
  compHandlerVersion := AUDIO_HANDLER_VERSION
  compSourceVersion := AUDIO_SOURCE_VERSION
  compSinkVersion := AUDIO_SINK_VERSION
  haveFeature := true
  sourceFeatureFilters := []
  sinkSupportedFeatures := []

/-- The roles of each subtype of each type, on or off. -/
abbrev EnableMap := Table (DHType × String) (Table String Bool)

/-- What `ComponentLoader` knows of the configuration and of the local versions. -/
structure ComponentLoader where
  componentEnableMap_ : EnableMap := ∅
  isLocalVersionInit_ : Bool := false
  compVersions : Table DHType CompVersion := ∅

/-! ## The code -/

/-- The named children of a document. The items of an array have no names and are passed over. -/
def children : Json → List (String × Json)
  | .object members => members
  | _ => []

/-- `cJSON_IsTrue`. -/
def isJsonTrue : Json → Bool
  | .bool b => b
  | _ => false

/-- `componentEnableMap_[{type, subtype}][role] = enable`. -/
def setRole (t : EnableMap) (key : DHType × String) (role : String) (enable : Bool) : EnableMap :=
  t.set key ((t.get key).set role enable)

/-- `ParseSubtypeEnableConfig`. -/
def parseSubtypeEnableConfig (key : DHType × String) (subEntry : Json) (t : EnableMap) :
    EnableMap :=
  (children subEntry).foldl
    (fun t roleEntry => setRole t key roleEntry.1 (isJsonTrue roleEntry.2)) t

/-- `ParseComponentEnableConfig`. -/
def parseComponentEnableConfig (root : Json) (t : EnableMap) : EnableMap :=
  (children root).foldl
    (fun t typeEntry =>
      let type := DHType.ofName typeEntry.1
      (children typeEntry.2).foldl
        (fun t subEntry =>
          match subEntry.2 with
          | .bool enable =>
            setRole (setRole t (type, subEntry.1) "sink" enable) (type, subEntry.1) "source" enable
          | .object members =>
            parseSubtypeEnableConfig (type, subEntry.1) (.object members) t
          | _ => t)
        t)
    t

namespace ComponentLoader

/-- The end of `GetCompPathAndVersion` : the configuration is parsed, if there is one. -/
def initEnableConfig (enableConfig : Option Json) (s : ComponentLoader) : ComponentLoader :=
  { s with
    componentEnableMap_ := match enableConfig with
      | none => s.componentEnableMap_
      | some root => parseComponentEnableConfig root s.componentEnableMap_
    isLocalVersionInit_ := true }

/-- `IsComponentSubtypeEnabled`. -/
def isComponentSubtypeEnabled (type : DHType) (subtype role : String) (s : ComponentLoader) :
    Bool :=
  if ¬s.isLocalVersionInit_ then true
  else
    match s.componentEnableMap_.lookup (type, subtype) with
    | none => true
    | some roles =>
      match roles.lookup role with
      | none => true
      | some enable => enable

/-- `IsSubtypeAnyRoleEnabled`. -/
def isSubtypeAnyRoleEnabled (subtype : String) (s : ComponentLoader) : Bool :=
  match s.componentEnableMap_.lookup (DHType.AUDIO, subtype) with
  | none => false
  | some roles => roles.entries.any fun rolePair => rolePair.2

/-- `GetCompVersionFromComConfig`. -/
def getCompVersionFromComConfig (comCfg : CompConfig) : CompVersion where
  dhType := comCfg.type.number
  name := comCfg.name
  handlerVersion := comCfg.compHandlerVersion
  sinkVersion := comCfg.compSinkVersion
  sourceVersion := comCfg.compSourceVersion
  haveFeature := comCfg.haveFeature
  sourceFeatureFilters := comCfg.sourceFeatureFilters
  sinkSupportedFeatures := comCfg.sinkSupportedFeatures

/-- A subtype is not in the table, or has a role that is on. -/
def subtypeNeeded (subtype : String) (s : ComponentLoader) : Bool :=
  (s.componentEnableMap_.lookup (DHType.AUDIO, subtype)).isNone || s.isSubtypeAnyRoleEnabled subtype

/-- `RegisterAudioComponentIfNeeded`. -/
def registerAudioComponentIfNeeded (dhtypeMap : Table DHType CompConfig) (s : ComponentLoader) :
    Table DHType CompConfig × ComponentLoader :=
  let micEnable := s.subtypeNeeded "mic"
  let speakerEnable := s.subtypeNeeded "speaker"
  if micEnable || speakerEnable then
    (dhtypeMap.set DHType.AUDIO g_audioCompConfig,
      { s with compVersions :=
        s.compVersions.set DHType.AUDIO (getCompVersionFromComConfig g_audioCompConfig) })
  else
    (dhtypeMap.remove DHType.AUDIO, { s with compVersions := s.compVersions.remove DHType.AUDIO })

end ComponentLoader

/-! ## What a configuration says -/

/-- The settings of a configuration in their order : a type, a subtype and a role, on or off. -/
def settings (root : Json) : List (((DHType × String) × String) × Bool) :=
  (children root).flatMap fun typeEntry =>
    (children typeEntry.2).flatMap fun subEntry =>
      let key := (DHType.ofName typeEntry.1, subEntry.1)
      match subEntry.2 with
      | .bool enable => [((key, "sink"), enable), ((key, "source"), enable)]
      | .object members => members.map fun roleEntry => ((key, roleEntry.1), isJsonTrue roleEntry.2)
      | _ => []

/-- The settings in a table without nesting, where the last one for a role counts. -/
def settingsTable (root : Json) : Table ((DHType × String) × String) Bool :=
  (settings root).foldl (fun t setting => t.set setting.1 setting.2) ∅

/-- What a configuration says of a role of a subtype of audio, if it says anything. -/
def configured (enableConfig : Option Json) (subtype role : String) : Option Bool :=
  enableConfig.bind fun root => (settingsTable root).lookup ((DHType.AUDIO, subtype), role)

/-- What a table has for a role. -/
def roleOf (t : EnableMap) (key : DHType × String) (role : String) : Option Bool :=
  (t.lookup key).bind fun roles => roles.lookup role

variable {t : EnableMap} {key key' : DHType × String} {role role' subtype : String} {enable : Bool}
variable {root : Json} {s : ComponentLoader}

theorem roleOf_setRole :
    roleOf (setRole t key role enable) key' role' =
      if (key', role') = (key, role) then some enable else roleOf t key' role' := by
  by_cases hkey : key' = key
  · subst hkey
    by_cases hrole : role' = role
    · subst hrole
      simp [roleOf, setRole]
    · have hget : ((t.get key').lookup role') = roleOf t key' role' := by
        rw [roleOf, Table.get]
        cases t.lookup key' <;> rfl
      simp [roleOf, setRole, Table.lookup_set_ne _ hrole, hrole, hget]
  · simp [roleOf, setRole, Table.lookup_set_ne _ hkey, hkey]

/-- The nested loops make the settings one after the other. -/
theorem parse_eq (root : Json) (t : EnableMap) :
    parseComponentEnableConfig root t =
      (settings root).foldl (fun t setting => setRole t setting.1.1 setting.1.2 setting.2) t := by
  simp only [parseComponentEnableConfig, settings, List.foldl_flatMap]
  congr 1
  funext t typeEntry
  congr 1
  funext t subEntry
  cases subEntry.2 <;> simp [parseSubtypeEnableConfig, children, List.foldl_map]

/-- The nested table has for a role what the table without nesting has. -/
theorem roleOf_foldl : ∀ (es : List (((DHType × String) × String) × Bool)) (t : EnableMap)
    (t' : Table ((DHType × String) × String) Bool),
    (∀ key role, roleOf t key role = t'.lookup (key, role)) → ∀ key role,
    roleOf (es.foldl (fun t e => setRole t e.1.1 e.1.2 e.2) t) key role =
      (es.foldl (fun t e => t.set e.1 e.2) t').lookup (key, role)
  | [], _, _, h => h
  | e :: es, t, t', h => roleOf_foldl es _ _ fun key role => by
    rw [roleOf_setRole, Table.lookup_set, h]

theorem roleOf_parse (root : Json) (key : DHType × String) (role : String) :
    roleOf (parseComponentEnableConfig root ∅) key role =
      (settingsTable root).lookup (key, role) := by
  rw [parse_eq, settingsTable]
  exact roleOf_foldl _ _ _ (fun _ _ => rfl) key role

/-- Each subtype that is in the table has a role. -/
def HasRoles (t : EnableMap) : Prop :=
  ∀ key roles, t.lookup key = some roles → ∃ role, roleOf t key role ≠ none

theorem HasRoles.setRole (h : HasRoles t) : HasRoles (DHFwk.setRole t key role enable) := by
  intro key' roles hroles
  by_cases hkey : key' = key
  · subst hkey
    exact ⟨role, by simp [roleOf_setRole]⟩
  · rw [DHFwk.setRole, Table.lookup_set_ne _ hkey] at hroles
    obtain ⟨role', hrole⟩ := h key' roles hroles
    refine ⟨role', ?_⟩
    rwa [roleOf_setRole, if_neg fun heq => hkey (Prod.mk.inj heq).1]

theorem HasRoles.foldl : ∀ (es : List (((DHType × String) × String) × Bool)) {t : EnableMap},
    HasRoles t → HasRoles (es.foldl (fun t e => DHFwk.setRole t e.1.1 e.1.2 e.2) t)
  | [], _, h => h
  | _ :: es, _, h => HasRoles.foldl es h.setRole

theorem hasRoles_parse (root : Json) : HasRoles (parseComponentEnableConfig root ∅) := by
  rw [parse_eq]
  exact HasRoles.foldl _ fun _ _ h => absurd h (Table.lookup_empty_ne_some _ _)

/-! ## The gate and the registration -/

/-- The gate lets a role pass that is not off. -/
theorem isComponentSubtypeEnabled_iff (hinit : s.isLocalVersionInit_ = true) (type : DHType) :
    s.isComponentSubtypeEnabled type subtype role = true ↔
      roleOf s.componentEnableMap_ (type, subtype) role ≠ some false := by
  simp only [ComponentLoader.isComponentSubtypeEnabled, hinit, roleOf, not_true_eq_false, if_false]
  cases s.componentEnableMap_.lookup (type, subtype) with
  | none => simp
  | some roles => cases hrole : roles.lookup role <;> simp [hrole]

theorem isSubtypeAnyRoleEnabled_iff :
    s.isSubtypeAnyRoleEnabled subtype = true ↔
      ∃ role, roleOf s.componentEnableMap_ (DHType.AUDIO, subtype) role = some true := by
  simp only [ComponentLoader.isSubtypeAnyRoleEnabled, roleOf]
  cases s.componentEnableMap_.lookup (DHType.AUDIO, subtype) with
  | none => simp
  | some roles =>
    simp only [List.any_eq_true, Option.bind_some]
    constructor
    · rintro ⟨⟨role, enable⟩, hmem, rfl⟩
      exact ⟨role, AList.mem_lookup_iff.2 hmem⟩
    · rintro ⟨role, hrole⟩
      exact ⟨⟨role, true⟩, AList.mem_lookup_iff.1 hrole, rfl⟩

/-- A subtype is needed if nothing is said of it, or a role is on. -/
theorem subtypeNeeded_iff (h : HasRoles s.componentEnableMap_) :
    s.subtypeNeeded subtype = true ↔
      (∀ role, roleOf s.componentEnableMap_ (DHType.AUDIO, subtype) role = none) ∨
        ∃ role, roleOf s.componentEnableMap_ (DHType.AUDIO, subtype) role = some true := by
  rw [ComponentLoader.subtypeNeeded, Bool.or_eq_true, isSubtypeAnyRoleEnabled_iff,
    Option.isNone_iff_eq_none]
  refine or_congr_left ⟨fun hnone role => by rw [roleOf, hnone]; rfl, fun hnone => ?_⟩
  cases hroles : s.componentEnableMap_.lookup (DHType.AUDIO, subtype) with
  | none => rfl
  | some roles =>
    obtain ⟨role, hrole⟩ := h _ roles hroles
    exact absurd (hnone role) hrole

/-- A registration leaves the component and its version together, or neither. -/
theorem registered_iff (s : ComponentLoader) (dhtypeMap : Table DHType CompConfig) :
    ((s.registerAudioComponentIfNeeded dhtypeMap).1.lookup DHType.AUDIO).isSome =
        (s.subtypeNeeded "mic" || s.subtypeNeeded "speaker") ∧
      ((s.registerAudioComponentIfNeeded dhtypeMap).2.compVersions.lookup DHType.AUDIO).isSome =
        (s.subtypeNeeded "mic" || s.subtypeNeeded "speaker") := by
  simp only [ComponentLoader.registerAudioComponentIfNeeded]
  split_ifs with h
  · rw [h]
    simp
  · rw [Bool.eq_false_of_not_eq_true h]
    simp

theorem isComponentSubtypeEnabled_register (dhtypeMap : Table DHType CompConfig) (type : DHType) :
    (s.registerAudioComponentIfNeeded dhtypeMap).2.isComponentSubtypeEnabled type subtype role =
      s.isComponentSubtypeEnabled type subtype role := by
  simp only [ComponentLoader.registerAudioComponentIfNeeded]
  split_ifs <;> rfl

/-! ## The rule -/

/-- The subtypes of audio that are gated, and the roles that the gate is asked for. -/
abbrev audioSubtypes : List String := ["mic", "speaker"]
abbrev gatedRoles : List String := ["sink", "source"]

/-- The loader once it has read a configuration and has registered audio if needed. -/
def loaded (enableConfig : Option Json) (dhtypeMap : Table DHType CompConfig) :
    Table DHType CompConfig × ComponentLoader :=
  (({} : ComponentLoader).initEnableConfig enableConfig).registerAudioComponentIfNeeded dhtypeMap

/-- Audio is registered exactly if the gate lets one of its subtypes pass in one of the roles. -/
def OneRule (enableConfig : Option Json) (dhtypeMap : Table DHType CompConfig) : Prop :=
  ((loaded enableConfig dhtypeMap).1.lookup DHType.AUDIO).isSome = true ↔
    ∃ subtype ∈ audioSubtypes, ∃ role ∈ gatedRoles,
      (loaded enableConfig dhtypeMap).2.isComponentSubtypeEnabled DHType.AUDIO subtype role = true

/-- Something is said of both subtypes, no role of them is on, and of one of their gated roles
nothing is said. -/
def RoleMissing (enableConfig : Option Json) : Prop :=
  (∀ subtype ∈ audioSubtypes, (∃ role, configured enableConfig subtype role ≠ none) ∧
      ∀ role, configured enableConfig subtype role ≠ some true) ∧
    ∃ subtype ∈ audioSubtypes, ∃ role ∈ gatedRoles, configured enableConfig subtype role = none

/-- All gated roles are off, and another role is on. -/
def OtherRoleOn (enableConfig : Option Json) : Prop :=
  (∀ subtype ∈ audioSubtypes, ∀ role ∈ gatedRoles,
      configured enableConfig subtype role = some false) ∧
    ∃ subtype ∈ audioSubtypes, ∃ role, configured enableConfig subtype role = some true

variable {enableConfig : Option Json}

theorem roleOf_initEnableConfig (enableConfig : Option Json) (subtype role : String) :
    roleOf (({} : ComponentLoader).initEnableConfig enableConfig).componentEnableMap_
      (DHType.AUDIO, subtype) role = configured enableConfig subtype role := by
  cases enableConfig with
  | none => rfl
  | some root => exact roleOf_parse root _ role

theorem hasRoles_initEnableConfig (enableConfig : Option Json) :
    HasRoles (({} : ComponentLoader).initEnableConfig enableConfig).componentEnableMap_ := by
  cases enableConfig with
  | none => exact fun _ _ h => absurd h (Table.lookup_empty_ne_some _ _)
  | some root => exact hasRoles_parse root

/-- Audio is registered if of one subtype nothing is said, or one of its roles is on. -/
theorem loaded_registered_iff (dhtypeMap : Table DHType CompConfig) :
    ((loaded enableConfig dhtypeMap).1.lookup DHType.AUDIO).isSome = true ↔
      ∃ subtype ∈ audioSubtypes, (∀ role, configured enableConfig subtype role = none) ∨
        ∃ role, configured enableConfig subtype role = some true := by
  rw [loaded, (registered_iff _ dhtypeMap).1, Bool.or_eq_true,
    subtypeNeeded_iff (hasRoles_initEnableConfig enableConfig),
    subtypeNeeded_iff (hasRoles_initEnableConfig enableConfig)]
  simp only [roleOf_initEnableConfig, List.mem_cons, List.not_mem_nil, or_false, exists_eq_or_imp,
    exists_eq_left]

/-- The gate lets a role pass that is not configured to be off. -/
theorem loaded_enabled_iff (dhtypeMap : Table DHType CompConfig) (subtype role : String) :
    (loaded enableConfig dhtypeMap).2.isComponentSubtypeEnabled DHType.AUDIO subtype role = true ↔
      configured enableConfig subtype role ≠ some false := by
  rw [loaded, isComponentSubtypeEnabled_register, isComponentSubtypeEnabled_iff rfl,
    roleOf_initEnableConfig]

/-- Registration and gate are one rule exactly if no gated role is missing where nothing is on, and
no other role is on where the gated ones are off. -/
theorem registered_iff_gate (enableConfig : Option Json) (dhtypeMap : Table DHType CompConfig) :
    OneRule enableConfig dhtypeMap ↔ ¬RoleMissing enableConfig ∧ ¬OtherRoleOn enableConfig := by
  simp only [OneRule, loaded_registered_iff, loaded_enabled_iff]
  constructor
  · refine fun h => ⟨fun ⟨hoff, subtype, hsubtype, role, hrole, hmissing⟩ => ?_,
      fun ⟨hoff, subtype, hsubtype, role, hon⟩ => ?_⟩
    · obtain ⟨subtype', hsubtype', hnone | ⟨role', hon⟩⟩ :=
        h.2 ⟨subtype, hsubtype, role, hrole, by rw [hmissing]; decide⟩
      · obtain ⟨role', hsaid⟩ := (hoff subtype' hsubtype').1
        exact hsaid (hnone role')
      · exact (hoff subtype' hsubtype').2 role' hon
    · obtain ⟨subtype', hsubtype', role', hrole', hpass⟩ :=
        h.1 ⟨subtype, hsubtype, .inr ⟨role, hon⟩⟩
      exact hpass (hoff subtype' hsubtype' role' hrole')
  · rintro ⟨hmissing, hother⟩
    constructor
    · rintro ⟨subtype, hsubtype, hneeded⟩
      by_contra hgate
      push Not at hgate
      refine hother ⟨hgate, subtype, hsubtype, ?_⟩
      refine hneeded.resolve_left fun hnone => ?_
      exact absurd ((hnone "sink").symm.trans (hgate subtype hsubtype "sink" (by decide)))
        (by decide)
    · rintro ⟨subtype, hsubtype, role, hrole, hpass⟩
      by_contra hneeded
      push Not at hneeded
      refine hmissing ⟨hneeded, subtype, hsubtype, role, hrole, ?_⟩
      cases hvalue : configured enableConfig subtype role with
      | none => rfl
      | some enable =>
        cases enable with
        | false => exact absurd hvalue hpass
        | true => exact absurd hvalue ((hneeded subtype hsubtype).2 role)

/-- Both subtypes are switched off as sources, and nothing is said of them as sinks. -/
def sinkMissing : Json :=
  .object [("AUDIO", .object [("mic", .object [("source", .bool false)]),
    ("speaker", .object [("source", .bool false)])])]

/-- Both subtypes are off in both roles, and one has another role. -/
def thirdRole : Json :=
  .object [("AUDIO", .object [("mic", .bool false),
    ("speaker", .object [("sink", .bool false), ("source", .bool false), ("relay", .bool true)])])]

/-- The gate lets a microphone pass as a sink, and there is no audio component. With a third role
there is one, and the gate lets nothing pass. -/
theorem audio_two_rules :
    ((loaded (some sinkMissing) ∅).1.lookup DHType.AUDIO).isSome = false ∧
      (loaded (some sinkMissing) ∅).2.isComponentSubtypeEnabled DHType.AUDIO "mic" "sink" = true ∧
      ((loaded (some thirdRole) ∅).1.lookup DHType.AUDIO).isSome = true ∧
      (∀ subtype ∈ audioSubtypes, ∀ role ∈ gatedRoles,
        (loaded (some thirdRole) ∅).2.isComponentSubtypeEnabled DHType.AUDIO subtype role =
          false) ∧
      ¬OneRule (some sinkMissing) ∅ := by
  have hregistered : ((loaded (some sinkMissing) ∅).1.lookup DHType.AUDIO).isSome = false := by
    decide +kernel
  have hgate : (loaded (some sinkMissing) ∅).2.isComponentSubtypeEnabled DHType.AUDIO "mic" "sink" =
      true := by
    decide +kernel
  refine ⟨hregistered, hgate, by decide +kernel, by decide +kernel, fun h => ?_⟩
  have hneeded := h.2 ⟨"mic", by decide, "sink", by decide, hgate⟩
  exact absurd (hregistered.symm.trans hneeded) Bool.false_ne_true

end DHFwk
