import DHFwk.Runs
import DHFwk.DeviceLife
import Mathlib.Data.String.Basic

/-!
# The sockets to other devices

`DHTransport` has one socket for each device. A socket is opened by `StartSocket`, which looks
into the table, then binds without the lock, and then puts the socket there, or by a peer;
`OnSocketOpened` overwrites the entry of the device. `StopSocket` looks up a socket, shuts it
down without the lock, and then erases the entry of the device, whatever is in it by then.

So two sockets of one device that are opened at once leave one that is not in the table, and a
socket that is opened while another is being stopped loses its entry. In every other run each
socket that is open is found under its device, and `StopSocket` erases only what it shut down
(`sockets_found_iff`).
-/

set_option linter.unusedSectionVars false

namespace DHFwk

open Runs

/-! ## Calls and sockets -/

/-- Where a `StartSocket` call is : in front of `Bind`, or behind it, where the socket may have
been closed again. -/
inductive StartPhase
  | created
  | bound
  | closed
  deriving DecidableEq, Repr

/-- A `StartSocket` call that has made its socket and not yet called `OnSocketOpened`. -/
structure StartCall where
  remoteNetworkId : String
  socket : Int
  phase : StartPhase
  deriving DecidableEq, Repr

/-- A `StopSocket` call that has looked up its socket and not yet erased the entry. -/
structure StopCall where
  remoteNetworkId : String
  socketId : Int
  isShutdown : Bool
  deriving DecidableEq, Repr

/-- The table, and the calls that are under way. `live` has the sockets that `OnSocketOpened`
was called for and that were neither shut down nor closed since, with the networkId of each;
`taken` the entries that `StopSocket` erased for sockets it had not shut down. -/
structure DHTransport where
  remoteDevSocketIds_ : Table String Int := ∅
  live : Table Int String := ∅
  starts : Table ℕ StartCall := ∅
  stops : Table ℕ StopCall := ∅
  taken : List (String × Int) := []

/-- What happens next. A call has a number; `socket` is what `Socket` returns. -/
inductive TransportStep
  | startSocket (call : ℕ) (remoteNetworkId : String) (socket : Int)
  | bind (call : ℕ) (ret : Int)
  | bound (call : ℕ)
  | onSocketOpened (socketId : Int) (networkId : String)
  | onSocketClosed (socketId : Int)
  | stopSocket (call : ℕ) (remoteNetworkId : String)
  | shutdown (call : ℕ)
  | clearDeviceSocketOpened (call : ℕ)
  | send (remoteNetworkId : String)
  deriving DecidableEq, Repr

namespace DHTransport

/-- `IsDeviceSessionOpened`, and the socketId. -/
def isDeviceSessionOpened (s : DHTransport) (remoteNetworkId : String) : Option Int :=
  if ¬isIdLengthValid remoteNetworkId then none
  else s.remoteDevSocketIds_.lookup remoteNetworkId

/-- `GetRemoteNetworkIdBySocketId` : the first entry, in the order of the map. -/
def getRemoteNetworkIdBySocketId (s : DHTransport) (socketId : Int) : String :=
  (s.remoteDevSocketIds_.firstKey socketId).getD ""

/-- `OnSocketOpened`. -/
def onSocketOpened (s : DHTransport) (socketId : Int) (networkId : String) : DHTransport :=
  { s with remoteDevSocketIds_ := s.remoteDevSocketIds_.set networkId socketId }

/-- A socket is not live any more, and if it is bound, it will not be when it is recorded. -/
def die (s : DHTransport) (socketId : Int) : DHTransport :=
  { s with
    live := s.live.remove socketId
    starts := s.starts.mapVals fun _ c =>
      if c.socket = socketId ∧ c.phase = .bound then { c with phase := .closed } else c }

/-- `OnSocketClosed` : the first entry with the socket is erased. -/
def onSocketClosed (s : DHTransport) (socketId : Int) : DHTransport :=
  match s.remoteDevSocketIds_.firstKey socketId with
  | none => s
  | some networkId =>
    { s with remoteDevSocketIds_ := s.remoteDevSocketIds_.remove networkId }

/-- `ClearDeviceSocketOpened`, of a networkId that was checked. -/
def clearDeviceSocketOpened (s : DHTransport) (remoteDevId : String) : DHTransport :=
  { s with remoteDevSocketIds_ := s.remoteDevSocketIds_.remove remoteDevId }

/-- The entry that `StopSocket` finds when it erases it, if it is not the one it shut down. -/
def foreign (s : DHTransport) (c : StopCall) : List (String × Int) :=
  match s.remoteDevSocketIds_.lookup c.remoteNetworkId with
  | none => []
  | some socketId => if socketId = c.socketId then [] else [(c.remoteNetworkId, socketId)]

/-- One step. A peer has a networkId; `Send` only looks up a socket. -/
def step (s : DHTransport) : TransportStep → DHTransport
  | .startSocket call remoteNetworkId socket =>
    if (s.starts.lookup call).isSome ∨ ¬isIdLengthValid remoteNetworkId ∨
        (s.isDeviceSessionOpened remoteNetworkId).isSome ∨ socket < DH_FWK_SUCCESS then s
    else { s with starts := s.starts.set call ⟨remoteNetworkId, socket, .created⟩ }
  | .bind call ret =>
    match s.starts.lookup call with
    | some ⟨remoteNetworkId, socket, .created⟩ =>
      if ret < DH_FWK_SUCCESS then
        { s.die socket with starts := (s.die socket).starts.remove call }
      else { s with starts := s.starts.set call ⟨remoteNetworkId, socket, .bound⟩ }
    | _ => s
  | .bound call =>
    match s.starts.lookup call with
    | some ⟨remoteNetworkId, socket, .bound⟩ =>
      { s.onSocketOpened socket remoteNetworkId with
        live := s.live.set socket remoteNetworkId
        starts := s.starts.remove call }
    | some ⟨remoteNetworkId, socket, .closed⟩ =>
      { s.onSocketOpened socket remoteNetworkId with starts := s.starts.remove call }
    | _ => s
  | .onSocketOpened socketId networkId =>
    if networkId = "" then s
    else { s.onSocketOpened socketId networkId with live := s.live.set socketId networkId }
  | .onSocketClosed socketId => (s.onSocketClosed socketId).die socketId
  | .stopSocket call remoteNetworkId =>
    match s.stops.lookup call, s.isDeviceSessionOpened remoteNetworkId with
    | none, some socketId =>
      { s with stops := s.stops.set call ⟨remoteNetworkId, socketId, false⟩ }
    | _, _ => s
  | .shutdown call =>
    match s.stops.lookup call with
    | some ⟨remoteNetworkId, socketId, false⟩ =>
      { s.die socketId with stops := s.stops.set call ⟨remoteNetworkId, socketId, true⟩ }
    | _ => s
  | .clearDeviceSocketOpened call =>
    match s.stops.lookup call with
    | some ⟨remoteNetworkId, socketId, true⟩ =>
      { s.clearDeviceSocketOpened remoteNetworkId with
        stops := s.stops.remove call
        taken := s.taken ++ s.foreign ⟨remoteNetworkId, socketId, true⟩ }
    | _ => s
  | .send _ => s

/-- Every socket that is open is found under the device it was opened with and is the one of
that device, and what `StopSocket` erased it had shut down. -/
structure Found (s : DHTransport) : Prop where
  resolves : ∀ socketId networkId, s.live.lookup socketId = some networkId →
    s.getRemoteNetworkIdBySocketId socketId = networkId
  kept : ∀ socketId networkId, s.live.lookup socketId = some networkId →
    s.remoteDevSocketIds_.lookup networkId = some socketId
  own : s.taken = []

/-- The device has no other open socket in the table. -/
def Alone (s : DHTransport) (socketId : Int) (networkId : String) : Prop :=
  ∀ other, s.remoteDevSocketIds_.lookup networkId = some other → other ≠ socketId →
    s.live.lookup other ≠ some networkId

/-- When a socket is recorded, its device has no other open socket, and no device before it in
the table has a stale entry with its id; if it was closed since, its id was not opened again
for a device behind. When `StopSocket` erases an entry, it is of the socket that was shut down,
and that id was not opened again for the device. -/
def Undisturbed (s : DHTransport) : TransportStep → Prop
  | .bound call =>
    match s.starts.lookup call with
    | some ⟨remoteNetworkId, socket, .bound⟩ => s.Alone socket remoteNetworkId ∧
      ∀ networkId, s.remoteDevSocketIds_.lookup networkId = some socket →
        remoteNetworkId ≤ networkId
    | some ⟨remoteNetworkId, socket, .closed⟩ => s.Alone socket remoteNetworkId ∧
      ∀ networkId, s.live.lookup socket = some networkId → networkId ≤ remoteNetworkId
    | _ => True
  | .onSocketOpened socketId networkId => networkId ≠ "" → s.Alone socketId networkId ∧
    ∀ networkId', s.remoteDevSocketIds_.lookup networkId' = some socketId → networkId ≤ networkId'
  | .clearDeviceSocketOpened call =>
    match s.stops.lookup call with
    | some ⟨remoteNetworkId, socketId, true⟩ =>
      ∀ other, s.remoteDevSocketIds_.lookup remoteNetworkId = some other →
        other = socketId ∧ s.live.lookup other ≠ some remoteNetworkId
    | _ => True
  | _ => True

/-! ## Tables that resolve sockets -/

/-- The first entry of every live socket is that of its device. -/
def Resolves (t : Table String Int) (live : Table Int String) : Prop :=
  ∀ socketId networkId, live.lookup socketId = some networkId →
    t.firstKey socketId = some networkId

section Resolves

variable {t : Table String Int} {live live' : Table Int String} {socketId : Int}
  {networkId : String}

theorem Resolves.lookup (h : Resolves t live) (hl : live.lookup socketId = some networkId) :
    t.lookup networkId = some socketId :=
  (Table.firstKey_eq_some_iff.1 (h socketId networkId hl)).1

theorem Resolves.le (h : Resolves t live) (hl : live.lookup socketId = some networkId)
    {networkId' : String} (ht : t.lookup networkId' = some socketId) : networkId ≤ networkId' :=
  (Table.firstKey_eq_some_iff.1 (h socketId networkId hl)).2 networkId' ht

/-- A socket is recorded. The others are still resolved exactly if the entry that is
overwritten is not of an open one of the same device. -/
theorem resolves_set_iff (h : Resolves t live)
    (hlive : ∀ other ≠ socketId, live'.lookup other = live.lookup other) :
    Resolves (t.set networkId socketId) live' ↔
      (∀ other, t.lookup networkId = some other → other ≠ socketId →
        live.lookup other ≠ some networkId) ∧
      ∀ networkId', live'.lookup socketId = some networkId' → networkId' ≤ networkId ∧
        (networkId' = networkId ∨ t.lookup networkId' = some socketId) ∧
        ∀ k, t.lookup k = some socketId → networkId' ≤ k := by
  constructor
  · intro hr
    refine ⟨fun other ht hne hl => ?_, fun networkId' hl => ?_⟩
    · have hlookup := hr.lookup ((hlive other hne).trans hl)
      rw [Table.lookup_set_self] at hlookup
      exact hne (Option.some.inj hlookup).symm
    · have hle := hr.le hl (Table.lookup_set_self t networkId socketId)
      have hlookup := hr.lookup hl
      rw [Table.lookup_set] at hlookup
      refine ⟨hle, ?_, fun k hk => ?_⟩
      · split_ifs at hlookup with heq
        · exact .inl heq
        · exact .inr hlookup
      · by_cases hkey : k = networkId
        · exact hkey ▸ hle
        · exact hr.le hl ((Table.lookup_set_ne t hkey socketId).trans hk)
  · rintro ⟨hother, hself⟩ other networkId' hl
    rw [Table.firstKey_eq_some_iff]
    by_cases heq : other = socketId
    · subst heq
      obtain ⟨hle, hin, hleast⟩ := hself networkId' hl
      constructor
      · rw [Table.lookup_set]
        split_ifs with hkey
        · rfl
        · exact hin.resolve_left hkey
      · intro k hk
        rw [Table.lookup_set] at hk
        split_ifs at hk with hkey
        · exact hkey ▸ hle
        · exact hleast k hk
    · rw [hlive other heq] at hl
      have hne : networkId' ≠ networkId := by
        rintro rfl
        exact hother other (h.lookup hl) heq hl
      refine ⟨(Table.lookup_set_ne t hne socketId).trans (h.lookup hl), fun k hk => ?_⟩
      rw [Table.lookup_set] at hk
      split_ifs at hk
      · exact absurd (Option.some.inj hk).symm heq
      · exact h.le hl hk

/-- A socket is not live any more. -/
theorem Resolves.remove_live (h : Resolves t live) (socketId : Int) :
    Resolves t (live.remove socketId) := by
  intro other networkId hl
  rw [Table.lookup_remove] at hl
  split_ifs at hl
  exact h other networkId hl

/-- An entry is erased. -/
theorem resolves_remove_iff (h : Resolves t live) : Resolves (t.remove networkId) live ↔
    ∀ other, t.lookup networkId = some other → live.lookup other ≠ some networkId := by
  constructor
  · intro hr other _ hl
    have hlookup := hr.lookup hl
    rw [Table.lookup_remove_self] at hlookup
    cases hlookup
  · intro hno other networkId' hl
    have hne : networkId' ≠ networkId := by
      rintro rfl
      exact hno other (h.lookup hl) hl
    refine Table.firstKey_eq_some_iff.2 ⟨?_, fun k hk => ?_⟩
    · rw [Table.lookup_remove_ne t hne]
      exact h.lookup hl
    · rw [Table.lookup_remove] at hk
      split_ifs at hk
      exact h.le hl hk

/-- A socket is recorded and live. -/
theorem resolves_record_iff (h : Resolves t live) :
    Resolves (t.set networkId socketId) (live.set socketId networkId) ↔
      (∀ other, t.lookup networkId = some other → other ≠ socketId →
        live.lookup other ≠ some networkId) ∧
      ∀ networkId', t.lookup networkId' = some socketId → networkId ≤ networkId' := by
  rw [resolves_set_iff h fun other hne => Table.lookup_set_ne live hne networkId]
  refine and_congr_right fun _ => ⟨fun hself => ?_, fun hleast networkId' hl => ?_⟩
  · exact (hself networkId (Table.lookup_set_self live socketId networkId)).2.2
  · rw [Table.lookup_set_self] at hl
    obtain rfl := Option.some.inj hl
    exact ⟨le_rfl, .inl rfl, hleast⟩

/-- A socket that was closed is recorded. -/
theorem resolves_record_closed_iff (h : Resolves t live) :
    Resolves (t.set networkId socketId) live ↔
      (∀ other, t.lookup networkId = some other → other ≠ socketId →
        live.lookup other ≠ some networkId) ∧
      ∀ networkId', live.lookup socketId = some networkId' → networkId' ≤ networkId := by
  rw [resolves_set_iff h fun _ _ => rfl]
  refine and_congr_right fun _ => ⟨fun hself networkId' hl => (hself networkId' hl).1,
    fun hle networkId' hl => ⟨hle networkId' hl, .inr (h.lookup hl), fun k hk => h.le hl hk⟩⟩

/-- A socket is closed, and its first entry erased. -/
theorem Resolves.close (h : Resolves t live) (socketId : Int) :
    Resolves ((t.firstKey socketId).elim t fun networkId => t.remove networkId)
      (live.remove socketId) := by
  cases hfirst : t.firstKey socketId with
  | none => exact h.remove_live socketId
  | some networkId =>
    refine (resolves_remove_iff (h.remove_live socketId)).2 fun other ht hl => ?_
    have hother : t.lookup networkId = some socketId := (Table.firstKey_eq_some_iff.1 hfirst).1
    obtain rfl := Option.some.inj (ht.symm.trans hother)
    rw [Table.lookup_remove_self] at hl
    cases hl

end Resolves

/-! ## What every step keeps -/

/-- Devices have a networkId. -/
structure Named (s : DHTransport) : Prop where
  live : ∀ socketId networkId, s.live.lookup socketId = some networkId → networkId ≠ ""
  starts : ∀ call c, s.starts.lookup call = some c → c.remoteNetworkId ≠ ""

variable {s : DHTransport}

theorem found_iff (h : s.Named) :
    s.Found ↔ Resolves s.remoteDevSocketIds_ s.live ∧ s.taken = [] := by
  constructor
  · intro hf
    refine ⟨fun socketId networkId hl => ?_, hf.own⟩
    have hresolves := hf.resolves socketId networkId hl
    have hne := h.live socketId networkId hl
    unfold getRemoteNetworkIdBySocketId at hresolves
    cases hfirst : s.remoteDevSocketIds_.firstKey socketId with
    | none =>
      rw [hfirst] at hresolves
      exact absurd hresolves.symm hne
    | some k =>
      rw [hfirst] at hresolves
      exact congrArg some hresolves
  · rintro ⟨hr, hown⟩
    refine ⟨fun socketId networkId hl => ?_, fun socketId networkId hl => hr.lookup hl, hown⟩
    rw [getRemoteNetworkIdBySocketId, hr socketId networkId hl]
    rfl

theorem ne_empty_of_isIdLengthValid {id : String} (h : isIdLengthValid id = true) : id ≠ "" := by
  rintro rfl
  exact absurd h (by decide)

theorem Named.die (h : s.Named) (socketId : Int) : (s.die socketId).Named where
  live other networkId hl := by
    rw [DHTransport.die, Table.lookup_remove] at hl
    split_ifs at hl
    exact h.live other networkId hl
  starts call c hc := by
    rw [DHTransport.die, Table.lookup_mapVals] at hc
    obtain ⟨c', hc', rfl⟩ := Option.map_eq_some_iff.1 hc
    split_ifs <;> exact h.starts call c' hc'

theorem Named.set_start (h : s.Named) (call : ℕ) {c : StartCall} (hc : c.remoteNetworkId ≠ "") :
    Named { s with starts := s.starts.set call c } where
  live := h.live
  starts call' c' hc' := by
    rw [Table.lookup_set] at hc'
    split_ifs at hc'
    · exact Option.some.inj hc' ▸ hc
    · exact h.starts call' c' hc'

theorem Named.remove_start (h : s.Named) (call : ℕ) :
    Named { s with starts := s.starts.remove call } where
  live := h.live
  starts call' c' hc' := by
    rw [Table.lookup_remove] at hc'
    split_ifs at hc'
    exact h.starts call' c' hc'

theorem Named.set_live (h : s.Named) (socketId : Int) {networkId : String}
    (hn : networkId ≠ "") : Named { s with live := s.live.set socketId networkId } where
  live other networkId' hl := by
    rw [Table.lookup_set] at hl
    split_ifs at hl
    · exact Option.some.inj hl ▸ hn
    · exact h.live other networkId' hl
  starts := h.starts

/-- Only `live` and `starts` matter. -/
theorem Named.congr {s' : DHTransport} (h : s.Named) (hlive : s'.live = s.live)
    (hstarts : s'.starts = s.starts) : s'.Named where
  live := hlive ▸ h.live
  starts := hstarts ▸ h.starts

theorem Named.step (h : s.Named) (l : TransportStep) : (s.step l).Named := by
  cases l with
  | startSocket call remoteNetworkId socket =>
    simp only [DHTransport.step]
    split_ifs with hno
    · exact h
    · simp only [not_or, not_not] at hno
      exact h.set_start call (ne_empty_of_isIdLengthValid hno.2.1)
  | bind call ret =>
    simp only [DHTransport.step]
    split
    · next remoteNetworkId socket hc =>
      have hn : remoteNetworkId ≠ "" := h.starts call _ hc
      split_ifs
      · exact (h.die socket).remove_start call
      · exact h.set_start call hn
    · exact h
  | bound call =>
    simp only [DHTransport.step]
    split
    · next remoteNetworkId socket hc =>
      exact ((h.set_live socket (h.starts call _ hc)).remove_start call).congr rfl rfl
    · exact (h.remove_start call).congr rfl rfl
    · exact h
  | onSocketOpened socketId networkId =>
    simp only [DHTransport.step]
    split_ifs with hn
    · exact h
    · exact (h.set_live socketId hn).congr rfl rfl
  | onSocketClosed socketId =>
    refine Named.die (h.congr ?_ ?_) socketId
    · unfold DHTransport.onSocketClosed
      split <;> rfl
    · unfold DHTransport.onSocketClosed
      split <;> rfl
  | stopSocket call remoteNetworkId =>
    simp only [DHTransport.step]
    split
    · exact h.congr rfl rfl
    · exact h
  | shutdown call =>
    simp only [DHTransport.step]
    split
    · exact (h.die _).congr rfl rfl
    · exact h
  | clearDeviceSocketOpened call =>
    simp only [DHTransport.step]
    split
    · exact h.congr rfl rfl
    · exact h
  | send remoteNetworkId => exact h

/-! ## Runs -/

theorem onSocketClosed_eq (s : DHTransport) (socketId : Int) :
    (s.onSocketClosed socketId).remoteDevSocketIds_ =
        (s.remoteDevSocketIds_.firstKey socketId).elim s.remoteDevSocketIds_
          (fun networkId => s.remoteDevSocketIds_.remove networkId) ∧
      (s.onSocketClosed socketId).live = s.live ∧ (s.onSocketClosed socketId).taken = s.taken := by
  unfold onSocketClosed
  cases s.remoteDevSocketIds_.firstKey socketId with
  | none => exact ⟨rfl, rfl, rfl⟩
  | some networkId => exact ⟨rfl, rfl, rfl⟩

theorem foreign_eq_nil_iff (s : DHTransport) (c : StopCall) : s.foreign c = [] ↔
    ∀ other, s.remoteDevSocketIds_.lookup c.remoteNetworkId = some other → other = c.socketId := by
  unfold foreign
  cases s.remoteDevSocketIds_.lookup c.remoteNetworkId with
  | none => simp
  | some socketId => simp

/-- Where the open sockets are found, a step keeps it so exactly if it meets the condition. -/
theorem found_step_iff (h : s.Named) (hs : s.Found) (l : TransportStep) :
    (s.step l).Found ↔ s.Undisturbed l := by
  obtain ⟨hr, hown⟩ := (found_iff h).1 hs
  rw [found_iff (h.step l)]
  cases l with
  | startSocket call remoteNetworkId socket =>
    refine iff_of_true ?_ trivial
    simp only [step]
    split_ifs <;> exact ⟨hr, hown⟩
  | bind call ret =>
    refine iff_of_true ?_ trivial
    simp only [step]
    split
    · split_ifs
      · exact ⟨hr.remove_live _, hown⟩
      · exact ⟨hr, hown⟩
    · exact ⟨hr, hown⟩
  | bound call =>
    simp only [step, Undisturbed]
    rcases s.starts.lookup call with _ | ⟨remoteNetworkId, socket, _ | _ | _⟩
    · exact iff_of_true ⟨hr, hown⟩ trivial
    · exact iff_of_true ⟨hr, hown⟩ trivial
    · exact (and_iff_left hown).trans (resolves_record_iff hr)
    · exact (and_iff_left hown).trans (resolves_record_closed_iff hr)
  | onSocketOpened socketId networkId =>
    simp only [step, Undisturbed]
    split_ifs with hn
    · exact iff_of_true ⟨hr, hown⟩ fun hne => absurd hn hne
    · rw [forall_prop_of_true hn]
      exact (and_iff_left hown).trans (resolves_record_iff hr)
  | onSocketClosed socketId =>
    obtain ⟨htable, hlive, htaken⟩ := s.onSocketClosed_eq socketId
    refine iff_of_true ⟨?_, htaken.trans hown⟩ trivial
    simp only [step, die, htable, hlive]
    exact hr.close socketId
  | stopSocket call remoteNetworkId =>
    refine iff_of_true ?_ trivial
    simp only [step]
    split <;> exact ⟨hr, hown⟩
  | shutdown call =>
    refine iff_of_true ?_ trivial
    simp only [step]
    split
    · exact ⟨hr.remove_live _, hown⟩
    · exact ⟨hr, hown⟩
  | clearDeviceSocketOpened call =>
    simp only [step, Undisturbed]
    rcases s.stops.lookup call with _ | ⟨remoteNetworkId, socketId, _ | _⟩
    · exact iff_of_true ⟨hr, hown⟩ trivial
    · exact iff_of_true ⟨hr, hown⟩ trivial
    · simp only [clearDeviceSocketOpened, hown, List.nil_append, foreign_eq_nil_iff]
      rw [resolves_remove_iff hr, and_comm, ← forall₂_and]
  | send remoteNetworkId => exact iff_of_true ⟨hr, hown⟩ trivial

theorem named_init : Named {} where
  live _ _ hl := by cases hl
  starts _ _ hc := by cases hc

theorem found_init : Found {} where
  resolves _ _ hl := by cases hl
  kept _ _ hl := by cases hl
  own := rfl

end DHTransport

open DHTransport

/-- Every open socket is found under its device, and `StopSocket` erases only what it shut
down, in every state that a run reaches, exactly if its steps all meet the condition. -/
theorem sockets_found_iff (ls : List TransportStep) :
    Along DHTransport.step DHTransport.Undisturbed {} ls ↔
      ∀ pre post, ls = pre ++ post → (pre.foldl DHTransport.step {}).Found := by
  have hnamed : ∀ (s : DHTransport) (l : TransportStep), s.Named → (s.step l).Named :=
    fun _ l h => h.step l
  have hstep : ∀ (s : DHTransport) (l : TransportStep), s.Named → s.Found →
      ((s.step l).Found ↔ s.Undisturbed l) := fun _ l h hs => found_step_iff h hs l
  exact along_iff hnamed hstep ls named_init found_init

/-- A peer opens a socket while `StartSocket` binds one to it. -/
def openedAtOnce : List TransportStep :=
  [.startSocket 0 "n" 5, .onSocketOpened 6 "n", .bind 0 0, .bound 0]

/-- A peer opens a socket while `StopSocket` stops the one before. -/
def openedWhileStopped : List TransportStep :=
  [.onSocketOpened 5 "n", .stopSocket 0 "n", .shutdown 0, .onSocketOpened 6 "n",
    .clearDeviceSocketOpened 0]

/-- The socket of the peer is open and not found, and the second one was taken out by a call
that shut another down. -/
theorem sockets_not_found :
    ¬ (openedAtOnce.foldl DHTransport.step {}).Found ∧
      (openedWhileStopped.foldl DHTransport.step {}).live.lookup 6 = some "n" ∧
      (openedWhileStopped.foldl DHTransport.step {}).getRemoteNetworkIdBySocketId 6 = "" ∧
      (openedWhileStopped.foldl DHTransport.step {}).taken = [("n", 6)] := by
  refine ⟨fun h => ?_, by decide, by decide, by decide⟩
  have hresolves := h.resolves 6 "n" (by decide)
  exact absurd hresolves (by decide)

end DHFwk
