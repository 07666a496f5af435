import DHFwk.Calls
import DHFwk.Status

/-!
# What an enable asks before it takes the lock

`Queries` are the questions that the bodies of `component_manager.cpp` put to the loader,
the capability caches and the device context : they change nothing, and their answers are
free. `checkAudioConfigGate` refuses a microphone or a loudspeaker that the product
configuration switches off for the given role. `settle` ends a locked body : it makes the
calls and writes the status according to their code.
-/

namespace DHFwk

/-- `Action` of `WaitForResult`. -/
inductive Action
  | START_SOURCE | START_SINK | STOP_SOURCE | STOP_SINK
  deriving DecidableEq, Repr

/-- The questions asked of other components. -/
structure Queries where
  isDHTypeSupport : DHType → Bool
  getDHSubtypeByDHId : (networkId dhId : String) → Int × DHSubtype
  isComponentSubtypeEnabled : DHType → (subtype role : String) → Bool
  getUUIDByNetworkId : String → String
  getLocalNetworkId : String

/-- Answers that let every request pass. -/
def Queries.permissive : Queries where
  isDHTypeSupport _ := true
  getDHSubtypeByDHId _ _ := (DH_FWK_SUCCESS, .UNKNOWN)
  isComponentSubtypeEnabled _ _ _ := true
  getUUIDByNetworkId _ := ""
  getLocalNetworkId := ""

/-- The subtype strings `MIC` and `SPEAKER`; no other subtype is gated. -/
def gatedSubtype : DHSubtype → Option String
  | .AUDIO_MIC => some "mic"
  | .AUDIO_SPEAKER => some "speaker"
  | _ => none

/-- `CheckAudioConfigGate`. -/
def checkAudioConfigGate (q : Queries) (networkId : String) (d : DHDescriptor)
    (role : String) : Int :=
  if d.dhType ≠ DHType.AUDIO then DH_FWK_SUCCESS
  else
    let (ret, dhSubtype) := q.getDHSubtypeByDHId networkId d.id
    if ret ≠ DH_FWK_SUCCESS then ret
    else match gatedSubtype dhSubtype with
      | none => DH_FWK_SUCCESS
      | some subtype =>
        if q.isComponentSubtypeEnabled d.dhType subtype role then DH_FWK_SUCCESS
        else ERR_DH_FWK_COMPONENT_DISABLED_BY_CONFIG

/-- Make the calls; the status becomes `done` if they succeed and stays `kept` if not. -/
def settle {S W : Type} (calls : Call W) (kept done : S) (w : W) : Int × S × W :=
  ((calls w).1, if (calls w).1 = DH_FWK_SUCCESS then done else kept, (calls w).2)

section settle

variable {S W : Type} {calls : Call W} {kept done : S} {w : W}

theorem settle_fst : (settle calls kept done w).1 = (calls w).1 :=
  rfl

theorem settle_status_of_success (h : (calls w).1 = DH_FWK_SUCCESS) :
    (settle calls kept done w).2.1 = done :=
  if_pos h

theorem settle_status_of_failure (h : (calls w).1 ≠ DH_FWK_SUCCESS) :
    (settle calls kept done w).2.1 = kept :=
  if_neg h

theorem settle_world : (settle calls kept done w).2.2 = (calls w).2 :=
  rfl

/-- A body keeps what its calls make true of the done status when they succeed and of the
kept one when they fail. -/
theorem settle_triple {P : W → Prop} {Q : S → W → Prop}
    (h : Call.Triple P calls (Q done) (Q kept)) (hw : P w) :
    Q (settle calls kept done w).2.1 (settle calls kept done w).2.2 := by
  by_cases hc : (calls w).1 = DH_FWK_SUCCESS
  · rw [settle_status_of_success hc, settle_world]
    exact h.of_success hw hc
  · rw [settle_status_of_failure hc, settle_world]
    exact h.of_failure hw hc

/-- A body keeps what its calls keep of the world. -/
theorem settle_keeps {P : W → Prop} (h : Call.Triple P calls P P) (hw : P w) :
    P (settle calls kept done w).2.2 :=
  settle_triple (Q := fun _ w => P w) h hw

/-- What holds of the kept and of the done status holds of the settled one. -/
theorem settle_status {P : S → Prop} (hk : P kept) (hd : P done) :
    P (settle calls kept done w).2.1 :=
  settle_triple (P := fun _ => True) (Q := fun s _ => P s)
    (fun w _ => by split_ifs <;> assumption) trivial

end settle

end DHFwk
