import DHFwk.CapabilityInfo
import DHFwk.KeyedSet
import DHFwk.Runs
import DHFwk.Table

/-!
# The listeners of a topic

A `PublisherItem` keeps the listeners of its topic in a set ordered by the address of
`AsObject()`, so two listeners with the same remote object are one to it. That is right for two
proxies of one remote object. But `AsObject()` of a listener of the process itself is `nullptr` :
the second one of a topic is not added, and the removal of one takes the other out.

`listeners_exact_iff` says exactly when the listeners of a topic are those added and not removed
since.
-/

set_option linter.unusedSectionVars false

open Runs

namespace DHFwk

/-- `DHTopic`. -/
inductive DHTopic
  | TOPIC_MIN
  | TOPIC_START_DSCREEN
  | TOPIC_SINK_PROJECT_WINDOW_INFO
  | TOPIC_STOP_DSCREEN
  | TOPIC_DEV_OFFLINE
  | TOPIC_LOW_LATENCY
  | TOPIC_INIT_DHMS_READY
  | TOPIC_PHY_DEV_PLUGIN
  | TOPIC_ISOMERISM
  | TOPIC_AV_FLUENCY
  | TOPIC_AV_LOW_LATENCY
  | TOPIC_CREATE_SESSION_READY
  | TOPIC_SOURCE_DHMS_READY
  | TOPIC_MAX
  deriving DecidableEq

/-- An `IPublisherListener`, by the addresses of itself and of `AsObject()`. -/
structure IPublisherListener where
  getRefPtr : ℕ
  /-- The remote object of a proxy, 0 (`nullptr`) for a listener of the process. -/
  asObject : ℕ
  deriving DecidableEq

/-- `IsMessageLengthValid`. -/
def isMessageLengthValid (inputMessage : String) : Bool :=
  inputMessage ≠ "" && inputMessage.utf8ByteSize ≤ MAX_MESSAGE_LEN

/-! ## One topic -/

/-- The class `PublisherItem`; `listeners_` is ordered by `ListenerCompare`. -/
structure PublisherItem where
  topic_ : DHTopic := .TOPIC_MIN
  listeners_ : KeyedSet IPublisherListener.asObject := ∅

namespace PublisherItem

variable (s : PublisherItem)

/-- `AddListener`. -/
def addListener (listener : Option IPublisherListener) : PublisherItem :=
  match listener with
  | none => s
  | some listener => { s with listeners_ := s.listeners_.insert listener }

/-- `RemoveListener` : the first listener with the remote object is erased, by its key. -/
def removeListener (listener : Option IPublisherListener) : PublisherItem :=
  match listener with
  | none => s
  | some listener =>
    match s.listeners_.elems.find? fun lis => lis.asObject = listener.asObject with
    | none => s
    | some lis => { s with listeners_ := s.listeners_.erase lis.asObject }

/-- `PublishMessage`, as the calls of `OnMessage` it makes. -/
def publishMessage (message : String) : List (IPublisherListener × DHTopic × String) :=
  if isMessageLengthValid message then s.listeners_.elems.map (·, s.topic_, message) else []

/-- A call that changes the listeners of a topic. -/
inductive Call
  | AddListener (listener : Option IPublisherListener)
  | RemoveListener (listener : Option IPublisherListener)
  deriving DecidableEq

/-- The listener a call is about. -/
def Call.listener : Call → Option IPublisherListener
  | AddListener listener => listener
  | RemoveListener listener => listener

/-- One call. -/
def step : Call → PublisherItem
  | .AddListener listener => s.addListener listener
  | .RemoveListener listener => s.removeListener listener

/-! ## Which listeners are the same -/

/-- What listeners count as the same : at least they have the same remote object. -/
structure Sameness (ι : Type*) where
  who : IPublisherListener → ι
  asObject_eq : ∀ {l l' : IPublisherListener}, who l = who l' → l.asObject = l'.asObject

/-- Each listener by itself, so that two proxies of one remote object are two listeners. -/
def byListener : Sameness IPublisherListener := ⟨id, fun h => congrArg _ h⟩

/-- Who gets the messages. -/
inductive Receiver
  | process (getRefPtr : ℕ)
  | remote (asObject : ℕ)
  deriving DecidableEq

/-- A listener of the process by itself, a proxy by its remote object. -/
def byReceiver : Sameness Receiver where
  who l := if l.asObject = 0 then .process l.getRefPtr else .remote l.asObject
  asObject_eq {l l'} h := by
    split_ifs at h with hl hl'
    · rw [hl, hl']
    · exact Receiver.remote.inj h

variable {ι : Type*} (same : Sameness ι) (topic : DHTopic)

/-- The listeners, each as what it counts for. -/
def registered : Set ι := s.listeners_.names same.who

/-- What a listener added in `calls` and not removed since counts for. -/
def AddedSince (calls : List Call) (i : ι) : Prop :=
  ∃ pre l post, calls = pre ++ .AddListener (some l) :: post ∧ same.who l = i ∧
    ∀ l', .RemoveListener (some l') ∈ post → same.who l' ≠ i

/-- A topic's listeners after `calls`. -/
def run (calls : List Call) : PublisherItem := calls.foldl step { topic_ := topic }

/-- A removal takes away the listener and nothing else, and a message reaches exactly the
listeners added and not removed since. -/
structure Exact (calls : List Call) : Prop where
  removes : ∀ pre l post, calls = pre ++ .RemoveListener (some l) :: post →
    ((run topic pre).removeListener (some l)).registered same =
      (run topic pre).registered same \ {same.who l}
  reaches : ∀ pre post, calls = pre ++ post → ∀ message, isMessageLengthValid message = true →
    ∀ i, (∃ l, same.who l = i ∧ (l, topic, message) ∈ (run topic pre).publishMessage message) ↔
      AddedSince same pre i

/-- No listener but the one that the call is about has its remote object. -/
def Alone (call : Call) : Prop :=
  ∀ l ∈ call.listener, s.listeners_.Apart same.who l

section

variable {s same topic}

@[simp] theorem topic_step (call : Call) : (s.step call).topic_ = s.topic_ := by
  rcases call with (_ | listener) | (_ | listener)
  · rfl
  · rfl
  · rfl
  · simp only [step, removeListener]
    split <;> rfl

/-- `RemoveListener` erases by the remote object. -/
theorem removeListener_some (listener : IPublisherListener) :
    s.removeListener (some listener) =
      { s with listeners_ := s.listeners_.erase listener.asObject } := by
  rw [removeListener]
  split
  next h =>
    rw [KeyedSet.erase_of_forall_ne fun lis hlis => by simpa using List.find?_eq_none.1 h lis hlis]
  next lis h =>
    have hlis : lis.asObject = listener.asObject := by simpa using List.find?_some h
    rw [hlis]

/-- What a call is for, on what the listeners count for. -/
def expected (same : Sameness ι) (listeners : Set ι) : Call → Set ι
  | .AddListener (some l) => insert (same.who l) listeners
  | .RemoveListener (some l) => listeners \ {same.who l}
  | .AddListener none | .RemoveListener none => listeners

/-- A call does what it is for exactly if its listener is alone with its remote object. -/
theorem registered_step_iff (s : PublisherItem) (call : Call) :
    (s.step call).registered same = expected same (s.registered same) call ↔
      s.Alone same call := by
  have hsame : ∀ l l', same.who l = same.who l' → l.asObject = l'.asObject :=
    fun _ _ => same.asObject_eq
  have halone : ∀ l, s.listeners_.Apart same.who l ↔
      ∀ l' ∈ some l, s.listeners_.Apart same.who l' := fun l =>
    ⟨fun h l' hl' => Option.mem_some.1 hl' ▸ h, fun h => h l rfl⟩
  rcases call with (_ | l) | (_ | l)
  · exact iff_of_true rfl fun _ hl => absurd hl (Option.not_mem_none _)
  · exact (KeyedSet.names_insert_iff hsame s.listeners_ l).trans (halone l)
  · exact iff_of_true rfl fun _ hl => absurd hl (Option.not_mem_none _)
  · rw [step, removeListener_some]
    exact (KeyedSet.names_erase_iff hsame s.listeners_ l).trans (halone l)

/-- To the receivers a proxy is always alone, a listener of the process if there is no other one. -/
theorem alone_byReceiver_iff (call : Call) :
    s.Alone byReceiver call ↔ ∀ l ∈ call.listener, l.asObject = 0 →
      ∀ l' ∈ s.listeners_.elems, l'.asObject = 0 → l'.getRefPtr = l.getRefPtr := by
  refine forall₂_congr fun l _ => ?_
  constructor
  · intro h hl l' hmem hl'
    simpa [byReceiver, hl, hl'] using h l' hmem (hl'.trans hl.symm)
  · intro h l' hmem hkey
    by_cases hl : l.asObject = 0
    · simp [byReceiver, hl, hkey, h hl l' hmem (hkey.trans hl)]
    · simp [byReceiver, hl, hkey]

/-! ## Runs -/

/-- The last call of a list either is the one that added a listener, or comes after it. -/
theorem addedSince_concat (calls : List Call) (call : Call) (i : ι) :
    AddedSince same (calls ++ [call]) i ↔
      (∃ l, call = .AddListener (some l) ∧ same.who l = i) ∨
        AddedSince same calls i ∧ ∀ l, call = .RemoveListener (some l) → same.who l ≠ i := by
  constructor
  · rintro ⟨pre, l, post, h, hl, hpost⟩
    rcases post.eq_nil_or_concat with rfl | ⟨post, last, rfl⟩
    · obtain ⟨-, hcall⟩ := List.append_inj' h rfl
      exact Or.inl ⟨l, List.singleton_inj.1 hcall, hl⟩
    · rw [List.concat_eq_append, ← List.cons_append, ← List.append_assoc] at h
      obtain ⟨hcalls, hcall⟩ := List.append_inj' h rfl
      obtain rfl := List.singleton_inj.1 hcall
      refine Or.inr ⟨⟨pre, l, post, hcalls, hl, fun l' hl' => hpost l' (by simp [hl'])⟩, ?_⟩
      rintro l' rfl
      exact hpost l' (by simp)
  · rintro (⟨l, rfl, hl⟩ | ⟨⟨pre, l, post, rfl, hl, hpost⟩, hcall⟩)
    · exact ⟨calls, l, [], rfl, hl, fun l' hl' => absurd hl' List.not_mem_nil⟩
    · refine ⟨pre, l, post ++ [call], by simp, hl, fun l' hl' => ?_⟩
      rcases List.mem_append.1 hl' with hl' | hl'
      · exact hpost l' hl'
      · exact hcall l' (List.mem_singleton.1 hl').symm

/-- The listeners added and not removed since are what the calls are for, one after the other. -/
theorem addedSince_iff (calls : List Call) (i : ι) :
    AddedSince same calls i ↔ i ∈ calls.foldl (expected same) ∅ := by
  induction calls using List.reverseRecOn with
  | nil =>
    refine iff_of_false ?_ (Set.notMem_empty i)
    rintro ⟨pre, l, post, h, -⟩
    simp at h
  | append_singleton calls call ih =>
    rw [addedSince_concat, ih, List.foldl_append, List.foldl_cons, List.foldl_nil]
    rcases call with (_ | l) | (_ | l) <;> simp [expected, eq_comm]

theorem topic_run (calls : List Call) : (run topic calls).topic_ = topic :=
  foldl_invariant (P := fun s : PublisherItem => s.topic_ = topic)
    (fun _ call h => (topic_step call).trans h) calls rfl

/-- A message reaches the listeners of the topic. -/
theorem exists_mem_publishMessage {message : String} (h : isMessageLengthValid message = true)
    (calls : List Call) (i : ι) :
    (∃ l, same.who l = i ∧ (l, topic, message) ∈ (run topic calls).publishMessage message) ↔
      i ∈ (run topic calls).registered same := by
  simp only [publishMessage, if_pos h, topic_run, List.mem_map, Prod.mk.injEq, and_true,
    exists_eq_right, registered, KeyedSet.names, Set.mem_ofPred_eq]
  exact exists_congr fun l => and_comm

theorem exact_iff_registered (calls : List Call) :
    Exact same topic calls ↔ ∀ pre post, calls = pre ++ post →
      (run topic pre).registered same = pre.foldl (expected same) ∅ := by
  constructor
  · intro h pre post hcalls
    ext i
    have hvalid : isMessageLengthValid "a" = true := by decide
    rw [← exists_mem_publishMessage hvalid, h.reaches pre post hcalls "a" hvalid, addedSince_iff]
  · intro h
    refine ⟨fun pre l post hcalls => ?_, fun pre post hcalls message hvalid i => ?_⟩
    · have hnext := h (pre ++ [.RemoveListener (some l)]) post (by simp [hcalls])
      rw [run, List.foldl_append, List.foldl_append] at hnext
      rw [h pre _ hcalls]
      exact hnext
    · rw [exists_mem_publishMessage hvalid, h pre post hcalls, addedSince_iff]

/-- The removals take away one listener each and the messages reach exactly the listeners added
and not removed since, if and only if no call is about a listener whose remote object another
registered one has. -/
theorem listeners_exact_iff (same : Sameness ι) (topic : DHTopic) (calls : List Call) :
    Exact same topic calls ↔
      Along step (fun s call => s.Alone same call) { topic_ := topic } calls := by
  have hstart : registered { topic_ := topic } same = ∅ := KeyedSet.names_empty _
  rw [exact_iff_registered, along_iff_view (fun s => s.registered same) (expected same)
    registered_step_iff, hstart]
  exact Iff.rfl

end

/-- The listener for low latency, and another listener of the process. -/
def lowLatencyListener : IPublisherListener := ⟨1, 0⟩

def otherListener : IPublisherListener := ⟨2, 0⟩

/-- The listener for low latency is registered, and gone after the removal of one that is not. -/
def otherRemoved : List Call :=
  [.AddListener (some lowLatencyListener), .RemoveListener (some otherListener)]

theorem not_exact_otherRemoved (hne : same.who lowLatencyListener ≠ same.who otherListener) :
    ¬Exact same .TOPIC_LOW_LATENCY otherRemoved := by
  intro h
  have hgone := h.removes [.AddListener (some lowLatencyListener)] otherListener [] rfl
  have hmem : same.who lowLatencyListener ∈
      (run .TOPIC_LOW_LATENCY [.AddListener (some lowLatencyListener)]).registered same \
        {same.who otherListener} := ⟨⟨lowLatencyListener, by decide, rfl⟩, hne⟩
  rw [← hgone] at hmem
  obtain ⟨l, hl, -⟩ := hmem
  have hempty : (run .TOPIC_LOW_LATENCY otherRemoved).listeners_.elems = [] := by decide
  exact List.not_mem_nil (hempty ▸ hl)

theorem other_removal_removes :
    ¬Exact byReceiver .TOPIC_LOW_LATENCY otherRemoved ∧
      ¬Exact byListener .TOPIC_LOW_LATENCY otherRemoved :=
  ⟨not_exact_otherRemoved byReceiver (by decide), not_exact_otherRemoved byListener (by decide)⟩

end PublisherItem

/-! ## All topics -/

/-- The class `Publisher`. -/
structure Publisher where
  publisherItems_ : Table DHTopic PublisherItem

namespace Publisher

open PublisherItem

/-- The topics `Publisher` has an item for. -/
def topics : List DHTopic :=
  [.TOPIC_START_DSCREEN, .TOPIC_SINK_PROJECT_WINDOW_INFO, .TOPIC_STOP_DSCREEN, .TOPIC_DEV_OFFLINE,
    .TOPIC_LOW_LATENCY, .TOPIC_INIT_DHMS_READY, .TOPIC_PHY_DEV_PLUGIN, .TOPIC_ISOMERISM,
    .TOPIC_AV_FLUENCY, .TOPIC_AV_LOW_LATENCY, .TOPIC_CREATE_SESSION_READY,
    .TOPIC_SOURCE_DHMS_READY]

/-- `Publisher`, as it is made. -/
def init : Publisher :=
  ⟨topics.foldl (fun t topic => t.set topic { topic_ := topic }) ∅⟩

variable (p : Publisher) (topic : DHTopic)

/-- `RegisterListener` and `UnregisterListener`, by the call of the item. -/
def step (p : Publisher) (call : DHTopic × Call) : Publisher :=
  match p.publisherItems_.lookup call.1 with
  | none => p
  | some item => ⟨p.publisherItems_.set call.1 (item.step call.2)⟩

/-- `RegisterListener`. -/
def registerListener (listener : Option IPublisherListener) : Publisher :=
  p.step (topic, .AddListener listener)

/-- `UnregisterListener`. -/
def unregisterListener (listener : Option IPublisherListener) : Publisher :=
  p.step (topic, .RemoveListener listener)

/-- `PublishMessage`, as the calls of `OnMessage` it makes. -/
def publishMessage (message : String) : List (IPublisherListener × DHTopic × String) :=
  match p.publisherItems_.lookup topic with
  | none => []
  | some item => item.publishMessage message

/-- A call changes the item of its own topic only. -/
theorem lookup_step (call : DHTopic × Call) :
    (p.step call).publisherItems_.lookup topic =
      (p.publisherItems_.lookup topic).map fun item =>
        if call.1 = topic then item.step call.2 else item := by
  unfold step
  split
  next h =>
    by_cases htopic : call.1 = topic
    · rw [← htopic, h]
      rfl
    · simp [htopic]
  next item h =>
    rw [Table.lookup_set]
    by_cases htopic : call.1 = topic
    · rw [if_pos htopic.symm, ← htopic, h]
      simp
    · simp [htopic, Ne.symm htopic]

theorem lookup_init : init.publisherItems_.lookup topic =
    if topic ∈ topics then some { topic_ := topic } else none := by
  cases topic <;> rfl

/-- The item of a topic has had the calls of its topic. -/
theorem lookup_foldl (calls : List (DHTopic × Call)) (p : Publisher) :
    (calls.foldl step p).publisherItems_.lookup topic =
      (p.publisherItems_.lookup topic).map
        ((calls.filter fun call => call.1 = topic).map Prod.snd |>.foldl PublisherItem.step) := by
  induction calls generalizing p with
  | nil => simp
  | cons call calls ih =>
    rw [List.foldl_cons, ih, lookup_step]
    by_cases htopic : call.1 = topic <;> simp [htopic, Function.comp_def]

/-- A message of a topic reaches the listeners that the calls of this topic leave. -/
theorem publishMessage_foldl {topic : DHTopic} (h : topic ∈ topics)
    (calls : List (DHTopic × Call)) (message : String) :
    (calls.foldl step init).publishMessage topic message =
      (run topic ((calls.filter fun call => call.1 = topic).map Prod.snd)).publishMessage
        message := by
  simp only [publishMessage, lookup_foldl, lookup_init, if_pos h]
  rfl

end Publisher

end DHFwk
