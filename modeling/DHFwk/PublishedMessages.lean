import DHFwk.ListenerCalls

/-!
# Messages from client to client

A client publishes a message under a topic, and the listeners of the topic in other processes hear
it. On its way the message crosses the proxy and the stub of the service, the items of the
`Publisher`, and for each listener the proxy and the stub of the listener.

What this is for is a board (`Board`) : who listens to which topic, and for each of them what it
has heard. A message that is published is heard once by each listener of its topic at that moment,
unless it is lost on the way to it. `messages_refine` says that the service with all that is around
it does nothing else, whatever the clients, the links and the rest of the service do.
-/

set_option linter.unusedSectionVars false

namespace DHFwk

open Wire ListenerCalls

/-! ## Topics and remote objects -/

/-- The number of a topic. -/
def DHTopic.number : DHTopic → UInt32
  | .TOPIC_MIN => 0
  | .TOPIC_START_DSCREEN => 1
  | .TOPIC_SINK_PROJECT_WINDOW_INFO => 2
  | .TOPIC_STOP_DSCREEN => 3
  | .TOPIC_DEV_OFFLINE => 4
  | .TOPIC_LOW_LATENCY => 5
  | .TOPIC_INIT_DHMS_READY => 6
  | .TOPIC_PHY_DEV_PLUGIN => 7
  | .TOPIC_ISOMERISM => 8
  | .TOPIC_AV_FLUENCY => 9
  | .TOPIC_AV_LOW_LATENCY => 10
  | .TOPIC_CREATE_SESSION_READY => 11
  | .TOPIC_SOURCE_DHMS_READY => 12
  | .TOPIC_MAX => 13

/-- The topic of a number. The other numbers have no item. -/
def DHTopic.ofNumber (topic : UInt32) : Option DHTopic :=
  (.TOPIC_MIN :: .TOPIC_MAX :: Publisher.topics).find? fun t => t.number = topic

theorem validTopic_number {topic : DHTopic} (h : topic ∉ Publisher.topics) :
    Remote.validTopic topic.number = false := by
  cases topic with
  | TOPIC_MIN | TOPIC_MAX => rfl
  | _ => exact absurd (by decide) h

/-- A remote object, by its address. -/
structure RemoteObject where
  address : ℕ
  address_ne : address ≠ 0
  deriving DecidableEq

theorem RemoteObject.ext_address {r r' : RemoteObject} (h : r.address = r'.address) : r = r' := by
  cases r
  cases r'
  congr

/-! ## The service and its listeners -/

/-- The way to a listener, for one message. -/
structure Link where
  proxy : ListenerCalls.Proxy
  arrives : Bool
  stub : ListenerCalls.Stub

def Link.telling (link : Link) (topic : DHTopic) (message : String) : Telling :=
  ⟨link.proxy, .onMessage topic.number message, link.arrives, link.stub⟩

/-- What the service does besides : the scene that goes with a topic, and all other requests, for
which it may publish messages of its own. -/
structure Rest (S : Type) where
  setAVSyncScene : DHTopic → S → S
  serve : Remote.Service RemoteObject S
  publishes : Remote.Op RemoteObject → S → List (DHTopic × String)

/-- The service with the publisher. `heard` is what the listeners were called with. -/
structure Hub (S : Type) where
  publisher : Publisher := .init
  /-- The proxies that were made, each for a request of its own. -/
  made : ℕ := 0
  /-- How many messages were published. -/
  published : ℕ := 0
  other : S
  heard : List (RemoteObject × Callback) := []

section

variable {S : Type} (links : ℕ → RemoteObject → Link) (rest : Rest S)

/-- A call of `OnMessage` that the publisher makes. A listener of the process itself has no remote
object. -/
def deliver (links : RemoteObject → Link) (call : IPublisherListener × DHTopic × String) :
    Option (RemoteObject × Callback) :=
  if h : call.1.asObject = 0 then none
  else
    (((links ⟨call.1.asObject, h⟩).telling call.2.1 call.2.2).called).map
      (⟨call.1.asObject, h⟩, ·)

namespace Hub

/-- `PublishMessage` of the publisher. -/
def publish (h : Hub S) (message : DHTopic × String) : Hub S :=
  { h with
    published := h.published + 1
    heard := h.heard ++
      (h.publisher.publishMessage message.1 message.2).filterMap (deliver (links h.published)) }

/-- `RegisterListener` and `UnregisterListener`. -/
def change (h : Hub S) (topic : DHTopic) (call : PublisherItem.Call) : Hub S :=
  { h with publisher := h.publisher.step (topic, call) }

/-- A listener of a client, by a proxy that is made for the request. -/
def proxyOf (h : Hub S) (listener : RemoteObject) : Option IPublisherListener :=
  some ⟨h.made + 1, listener.address⟩

def registerPublisherListener (topic : UInt32) (listener : RemoteObject) (h : Hub S) : Hub S :=
  match DHTopic.ofNumber topic with
  | none => h
  | some topic =>
    { h.change topic (.AddListener (h.proxyOf listener)) with
      made := h.made + 1
      other := rest.setAVSyncScene topic h.other }

def unregisterPublisherListener (topic : UInt32) (listener : RemoteObject) (h : Hub S) : Hub S :=
  match DHTopic.ofNumber topic with
  | none => h
  | some topic =>
    { h.change topic (.RemoveListener (h.proxyOf listener)) with made := h.made + 1 }

def publishMessage (topic : UInt32) (msg : String) (h : Hub S) : Hub S :=
  match DHTopic.ofNumber topic with
  | none => h
  | some topic =>
    if topic = .TOPIC_CREATE_SESSION_READY then h else h.publish links (topic, msg)

/-- Any other request. -/
def serve (op : Remote.Op RemoteObject) (h : Hub S) : Remote.Answer × Hub S :=
  ((rest.serve op h.other).1,
    { (rest.publishes op h.other).foldl (Hub.publish links) h with
      other := (rest.serve op h.other).2 })

end Hub

/-- The service. It answers the requests about the publisher with `DH_FWK_SUCCESS`. -/
def hubService : Remote.Service RemoteObject (Hub S)
  | .registerPublisherListener topic listener, h =>
    ({}, h.registerPublisherListener rest topic listener)
  | .unregisterPublisherListener topic listener, h =>
    ({}, h.unregisterPublisherListener topic listener)
  | .publishMessage topic msg, h => ({}, h.publishMessage links topic msg)
  | op, h => h.serve links rest op

/-- What happens next : a client calls, a listener of the process itself comes or goes, or the
service publishes by itself. -/
inductive HubStep
  | call (attempt : Remote.Attempt RemoteObject)
  | listen (topic : DHTopic) (getRefPtr : ℕ)
  | unlisten (topic : DHTopic) (getRefPtr : ℕ)
  | publish (topic : DHTopic) (message : String)

def Hub.step (ipc : Remote.Ipc RemoteObject) (h : Hub S) : HubStep → Hub S
  | .call attempt => (Remote.remote ipc (hubService links rest) attempt h).2
  | .listen topic getRefPtr => h.change topic (.AddListener (some ⟨getRefPtr, 0⟩))
  | .unlisten topic getRefPtr => h.change topic (.RemoveListener (some ⟨getRefPtr, 0⟩))
  | .publish topic message => h.publish links (topic, message)

/-! ## The board -/

/-- Who listens to which topic, and what each has heard. -/
structure Board (S : Type) where
  registered : Set (DHTopic × RemoteObject) := ∅
  published : ℕ := 0
  other : S
  heard : RemoteObject → List (DHTopic × String) := fun _ => []

open Classical in
/-- Each listener of the topic hears the message, once, unless it is lost on the way. -/
noncomputable def Board.publish (b : Board S) (message : DHTopic × String) : Board S :=
  { b with
    published := b.published + 1
    heard := fun listener => b.heard listener ++
      if (message.1, listener) ∈ b.registered ∧
          ((links b.published listener).telling message.1 message.2).isCarried = true then
        [message]
      else [] }

/-- The requests of clients. -/
noncomputable def boardService : Remote.Service RemoteObject (Board S)
  | .registerPublisherListener topic listener, b =>
    ({}, match DHTopic.ofNumber topic with
      | none => b
      | some topic =>
        { b with
          registered := insert (topic, listener) b.registered
          other := rest.setAVSyncScene topic b.other })
  | .unregisterPublisherListener topic listener, b =>
    ({}, match DHTopic.ofNumber topic with
      | none => b
      | some topic => { b with registered := b.registered \ {(topic, listener)} })
  | .publishMessage topic msg, b =>
    ({}, match DHTopic.ofNumber topic with
      | none => b
      | some topic =>
        if topic = .TOPIC_CREATE_SESSION_READY then b else b.publish links (topic, msg))
  | op, b =>
    ((rest.serve op b.other).1,
      { (rest.publishes op b.other).foldl (Board.publish links) b with
        other := (rest.serve op b.other).2 })

/-- The calls of clients that arrive, made on the spot. -/
noncomputable def Board.step (b : Board S) : HubStep → Board S
  | .call attempt =>
    match attempt.action with
    | none => b
    | some action => (action.run (boardService links rest) b).2
  | .listen .. => b
  | .unlisten .. => b
  | .publish topic message => b.publish links (topic, message)

/-! ## The service is a board -/

/-- A listener of the topic has the remote object. -/
def PublisherItem.Has (item : PublisherItem) (address : ℕ) : Prop :=
  ∃ l ∈ item.listeners_.elems, l.asObject = address

/-- The service has the listeners of the board, and they have heard the same. -/
structure Shows (h : Hub S) (b : Board S) : Prop where
  items : ∀ topic ∈ Publisher.topics, ∃ item,
    h.publisher.publisherItems_.lookup topic = some item ∧ item.topic_ = topic ∧
      ∀ listener, (topic, listener) ∈ b.registered ↔ item.Has listener.address
  others : ∀ topic ∉ Publisher.topics, h.publisher.publisherItems_.lookup topic = none
  published : h.published = b.published
  other : h.other = b.other
  heard : ∀ listener, (h.heard.filter fun c => c.1 = listener).map Prod.snd =
    (b.heard listener).map fun message => .onMessage message.1.number message.2

theorem PublisherItem.has_step_add (item : PublisherItem) (l : IPublisherListener) (address : ℕ) :
    (item.step (.AddListener (some l))).Has address ↔
      address = l.asObject ∨ item.Has address := by
  have helems : (item.step (.AddListener (some l))).listeners_ = item.listeners_.insert l := rfl
  unfold Has
  rw [helems]
  by_cases hnew : ∃ l' ∈ item.listeners_.elems, l'.asObject = l.asObject
  · obtain ⟨l', hl', hkey⟩ := hnew
    rw [KeyedSet.insert_of_mem hl' hkey]
    refine ⟨.inr, ?_⟩
    rintro (rfl | h)
    · exact ⟨l', hl', hkey⟩
    · exact h
  · simp only [KeyedSet.mem_insert_of_new hnew]
    constructor
    · rintro ⟨l', rfl | hl', rfl⟩
      · exact .inl rfl
      · exact .inr ⟨l', hl', rfl⟩
    · rintro (rfl | ⟨l', hl', rfl⟩)
      · exact ⟨l, .inl rfl, rfl⟩
      · exact ⟨l', .inr hl', rfl⟩

theorem PublisherItem.has_step_remove (item : PublisherItem) (l : IPublisherListener)
    (address : ℕ) :
    (item.step (.RemoveListener (some l))).Has address ↔
      item.Has address ∧ address ≠ l.asObject := by
  have hstep : item.step (.RemoveListener (some l)) = item.removeListener (some l) := rfl
  unfold Has
  rw [hstep, removeListener_some]
  simp only [KeyedSet.mem_erase]
  constructor
  · rintro ⟨l', ⟨hl', hne⟩, rfl⟩
    exact ⟨⟨l', hl', rfl⟩, hne⟩
  · rintro ⟨⟨l', hl', rfl⟩, hne⟩
    exact ⟨l', ⟨hl', hne⟩, rfl⟩

/-- What a listener hears of the calls that the publisher makes, is what is carried to it, once for
each listener with its remote object. -/
theorem filter_deliver (links : RemoteObject → Link) (topic : DHTopic) (message : String)
    (r : RemoteObject) : ∀ ls : List IPublisherListener,
      (((ls.map (·, topic, message)).filterMap (deliver links)).filter
        fun c => c.1 = r).map Prod.snd =
          (ls.filter fun l => l.asObject = r.address).filterMap fun _ =>
            ((links r).telling topic message).called
  | [] => rfl
  | l :: ls => by
    have hrest := filter_deliver links topic message r ls
    rw [List.map_cons, List.filterMap_cons]
    by_cases hl : l.asObject = r.address
    · obtain ⟨address, hne⟩ := r
      obtain rfl : l.asObject = address := hl
      have hdeliver : deliver links (l, topic, message) =
          (((links ⟨l.asObject, hne⟩).telling topic message).called).map
            (⟨l.asObject, hne⟩, ·) := dif_neg hne
      rw [List.filter_cons_of_pos (by simp), List.filterMap_cons, ← hrest, hdeliver]
      cases ((links ⟨l.asObject, hne⟩).telling topic message).called with
      | none => rfl
      | some c => simp
    · rw [List.filter_cons_of_neg (by simpa using hl), ← hrest]
      cases hdeliver : deliver links (l, topic, message) with
      | none => rfl
      | some c =>
        have hne : c.1 ≠ r := by
          rintro rfl
          unfold deliver at hdeliver
          split_ifs at hdeliver with hzero
          obtain ⟨c', -, rfl⟩ := Option.map_eq_some_iff.1 hdeliver
          exact hl rfl
        simp [hne]

variable {links rest} {h : Hub S} {b : Board S}

/-- A message that is not carried to a listener is not heard by it. -/
theorem telling_called (link : Link) (topic : DHTopic) (message : String) :
    (link.telling topic message).called =
      if (link.telling topic message).isCarried then some (.onMessage topic.number message)
      else none :=
  (link.telling topic message).called_eq

theorem isCarried_valid {link : Link} {topic : DHTopic} {message : String}
    (h : (link.telling topic message).isCarried = true) :
    topic ∈ Publisher.topics ∧ isMessageLengthValid message = true := by
  simp only [Telling.isCarried, Link.telling, Callback.isValid, Bool.and_eq_true] at h
  refine ⟨?_, h.1.1.2.2⟩
  by_contra htopic
  rw [validTopic_number htopic] at h
  exact absurd h.1.1.2.1 Bool.false_ne_true

open Classical in
theorem Shows.publishMessage (hs : Shows h b) (topic : DHTopic) (message : String)
    (listener : RemoteObject) (link : RemoteObject → Link) :
    (((h.publisher.publishMessage topic message).filterMap (deliver link)).filter
      fun c => c.1 = listener).map Prod.snd =
        if (topic, listener) ∈ b.registered ∧
            ((link listener).telling topic message).isCarried = true then
          [Callback.onMessage topic.number message]
        else [] := by
  by_cases htopic : topic ∈ Publisher.topics
  swap
  · have hnone : h.publisher.publishMessage topic message = [] := by
      rw [Publisher.publishMessage, hs.others topic htopic]
    rw [hnone, if_neg fun hall => htopic (isCarried_valid hall.2).1]
    rfl
  obtain ⟨item, hlookup, rfl, hregistered⟩ := hs.items topic htopic
  by_cases hmessage : isMessageLengthValid message = true
  swap
  · have hnone : h.publisher.publishMessage item.topic_ message = [] := by
      rw [Publisher.publishMessage, hlookup]
      exact if_neg hmessage
    rw [hnone, if_neg fun hall => hmessage (isCarried_valid hall.2).2]
    rfl
  have hcalls : h.publisher.publishMessage item.topic_ message =
      item.listeners_.elems.map (·, item.topic_, message) := by
    rw [Publisher.publishMessage, hlookup]
    exact if_pos hmessage
  rw [hcalls, filter_deliver, hregistered]
  by_cases hhas : item.Has listener.address
  · obtain ⟨l, hl, hkey⟩ := hhas
    have hone : item.listeners_.elems.filter (fun l => l.asObject = listener.address) = [l] := by
      rw [← hkey]
      exact item.listeners_.filter_key hl
    rw [hone, List.filterMap_cons, telling_called]
    cases ((link listener).telling item.topic_ message).isCarried with
    | true => rw [if_pos rfl, if_pos ⟨⟨l, hl, hkey⟩, rfl⟩]; rfl
    | false => rw [if_neg Bool.false_ne_true, if_neg fun hall => Bool.false_ne_true hall.2]; rfl
  · have hone : item.listeners_.elems.filter (fun l => l.asObject = listener.address) = [] :=
      List.filter_eq_nil_iff.2 fun l hl hkey => hhas ⟨l, hl, of_decide_eq_true hkey⟩
    rw [hone, if_neg fun hall => hhas hall.1]
    rfl

theorem Shows.publish (hs : Shows h b) (message : DHTopic × String) :
    Shows (h.publish links message) (b.publish links message) where
  items := hs.items
  others := hs.others
  published := congrArg (· + 1) hs.published
  other := hs.other
  heard listener := by
    obtain ⟨topic, message⟩ := message
    unfold Hub.publish Board.publish
    dsimp only
    rw [List.filter_append, List.map_append, hs.heard, hs.publishMessage, hs.published,
      List.map_append]
    split_ifs <;> rfl

theorem Shows.publishAll (messages : List (DHTopic × String)) :
    ∀ {h : Hub S} {b : Board S}, Shows h b →
      Shows (messages.foldl (Hub.publish links) h) (messages.foldl (Board.publish links) b) := by
  induction messages with
  | nil => exact fun hs => hs
  | cons message messages ih => exact fun hs => ih (hs.publish message)

/-- What is done to one topic leaves the other topics. -/
theorem Shows.change (hs : Shows h b) (topic : DHTopic) (call : PublisherItem.Call)
    {registered : Set (DHTopic × RemoteObject)}
    (hsame : ∀ t listener, t ≠ topic → ((t, listener) ∈ registered ↔ (t, listener) ∈ b.registered))
    (hcall : ∀ item : PublisherItem, ∀ listener,
      ((topic, listener) ∈ b.registered ↔ item.Has listener.address) →
        ((topic, listener) ∈ registered ↔ (item.step call).Has listener.address)) :
    Shows (h.change topic call) { b with registered := registered } where
  items t ht := by
    obtain ⟨item, hlookup, htopic, hregistered⟩ := hs.items t ht
    unfold Hub.change
    dsimp only
    rw [Publisher.lookup_step, hlookup]
    by_cases heq : topic = t
    · subst heq
      refine ⟨item.step call, ?_, (PublisherItem.topic_step call).trans htopic,
        fun listener => hcall item listener (hregistered listener)⟩
      rw [Option.map_some, if_pos rfl]
    · refine ⟨item, ?_, htopic, fun listener => (hsame t listener (Ne.symm heq)).trans
        (hregistered listener)⟩
      rw [Option.map_some, if_neg heq]
  others t ht := by
    unfold Hub.change
    dsimp only
    rw [Publisher.lookup_step, hs.others t ht]
    rfl
  published := hs.published
  other := hs.other
  heard := hs.heard

theorem Shows.register (hs : Shows h b) (topic : DHTopic) (getRefPtr : ℕ)
    (listener : RemoteObject) :
    Shows (h.change topic (.AddListener (some ⟨getRefPtr, listener.address⟩)))
      { b with registered := insert (topic, listener) b.registered } := by
  refine hs.change topic _ (fun t l hne => ?_) fun item l hregistered => ?_
  · simp [hne]
  · rw [PublisherItem.has_step_add, ← hregistered, Set.mem_insert_iff, Prod.mk.injEq,
      eq_self_iff_true, true_and]
    exact or_congr_left ⟨congrArg RemoteObject.address, RemoteObject.ext_address⟩

theorem Shows.unregister (hs : Shows h b) (topic : DHTopic) (getRefPtr : ℕ)
    (listener : RemoteObject) :
    Shows (h.change topic (.RemoveListener (some ⟨getRefPtr, listener.address⟩)))
      { b with registered := b.registered \ {(topic, listener)} } := by
  refine hs.change topic _ (fun t l hne => ?_) fun item l hregistered => ?_
  · simp [hne]
  · rw [PublisherItem.has_step_remove, ← hregistered, Set.mem_sdiff, Set.mem_singleton_iff,
      Prod.mk.injEq, eq_self_iff_true, true_and]
    exact and_congr_right fun _ =>
      not_congr ⟨congrArg RemoteObject.address, RemoteObject.ext_address⟩

/-- A listener of the process itself is no remote object. -/
theorem Shows.local (hs : Shows h b) (topic : DHTopic) (getRefPtr : ℕ) :
    Shows (h.change topic (.AddListener (some ⟨getRefPtr, 0⟩))) b ∧
      Shows (h.change topic (.RemoveListener (some ⟨getRefPtr, 0⟩))) b := by
  refine ⟨hs.change topic _ (fun _ _ _ => Iff.rfl) fun item l hregistered => ?_,
    hs.change topic _ (fun _ _ _ => Iff.rfl) fun item l hregistered => ?_⟩
  · rw [PublisherItem.has_step_add, hregistered]
    exact (or_iff_right l.address_ne).symm
  · rw [PublisherItem.has_step_remove, hregistered]
    exact (and_iff_left l.address_ne).symm

theorem Shows.others_serve (hs : Shows h b) (op : Remote.Op RemoteObject) :
    (h.serve links rest op).1 = (rest.serve op b.other).1 ∧
      Shows (h.serve links rest op).2
        { (rest.publishes op b.other).foldl (Board.publish links) b with
          other := (rest.serve op b.other).2 } := by
  unfold Hub.serve
  rw [hs.other]
  have hp : Shows ((rest.publishes op b.other).foldl (Hub.publish links) h)
      ((rest.publishes op b.other).foldl (Board.publish links) b) := hs.publishAll _
  exact ⟨rfl, hp.items, hp.others, hp.published, rfl, hp.heard⟩

/-- The service answers a request as the board does, and still shows it. -/
theorem Shows.service (hs : Shows h b) (op : Remote.Op RemoteObject) :
    (hubService links rest op h).1 = (boardService links rest op b).1 ∧
      Shows (hubService links rest op h).2 (boardService links rest op b).2 := by
  cases op with
  | registerPublisherListener topic listener =>
    refine ⟨rfl, ?_⟩
    dsimp only [hubService, boardService, Hub.registerPublisherListener]
    cases DHTopic.ofNumber topic with
    | none => exact hs
    | some topic =>
      have hr := hs.register topic (h.made + 1) listener
      exact ⟨hr.items, hr.others, hr.published, congrArg (rest.setAVSyncScene topic) hr.other,
        hr.heard⟩
  | unregisterPublisherListener topic listener =>
    refine ⟨rfl, ?_⟩
    dsimp only [hubService, boardService, Hub.unregisterPublisherListener]
    cases DHTopic.ofNumber topic with
    | none => exact hs
    | some topic =>
      have hr := hs.unregister topic (h.made + 1) listener
      exact ⟨hr.items, hr.others, hr.published, hr.other, hr.heard⟩
  | publishMessage topic msg =>
    refine ⟨rfl, ?_⟩
    dsimp only [hubService, boardService, Hub.publishMessage]
    cases DHTopic.ofNumber topic with
    | none => exact hs
    | some topic =>
      dsimp only
      split_ifs
      · exact hs
      · exact hs.publish (topic, msg)
  | _ => exact hs.others_serve _

/-- Two services that answer every request alike do every action alike. -/
theorem run_simulates {R S T : Type} {service : Remote.Service R S}
    {service' : Remote.Service R T} {rel : S → T → Prop}
    (hop : ∀ op s t, rel s t →
      (service op s).1 = (service' op t).1 ∧ rel (service op s).2 (service' op t).2)
    (action : Remote.Action R) {s : S} {t : T} (h : rel s t) :
    rel (action.run service s).2 (action.run service' t).2 := by
  cases action with
  | call op => exact (hop op s t h).2
  | load dhType remoteObj =>
    obtain ⟨hload, h⟩ := hop (.loadDistributedHDF dhType) s t h
    dsimp only [Remote.Action.run, Remote.loadAndWatch]
    cases remoteObj with
    | none => exact h
    | some remoteObj =>
      obtain ⟨hadd, h'⟩ := hop (.addDeathRecipient dhType remoteObj) _ _ h
      dsimp only
      rw [hload]
      by_cases hret : (service' (.loadDistributedHDF dhType) t).1.ret = 0
      · rw [if_pos hret, if_pos hret, hadd]
        split_ifs
        · exact h'
        · exact (hop _ _ _ h').2
      · rw [if_neg hret, if_neg hret]
        exact h
  | unLoad dhType remoteObj =>
    obtain ⟨hunload, h⟩ := hop (.unLoadDistributedHDF dhType) s t h
    dsimp only [Remote.Action.run, Remote.unLoadAndUnwatch]
    cases remoteObj with
    | none => exact h
    | some remoteObj =>
      dsimp only
      rw [hunload]
      split_ifs
      · exact (hop _ _ _ h).2
      · exact h

theorem Shows.step (hs : Shows h b) (ipc : Remote.Ipc RemoteObject) (l : HubStep) :
    Shows (h.step links rest ipc l) (b.step links rest l) := by
  cases l with
  | call attempt =>
    dsimp only [Hub.step, Board.step]
    rw [attempt.remote_state]
    cases attempt.action with
    | none => exact hs
    | some action => exact run_simulates (fun op _ _ h => h.service op) action hs
  | listen topic getRefPtr => exact (hs.local topic getRefPtr).1
  | unlisten topic getRefPtr => exact (hs.local topic getRefPtr).2
  | publish topic message => exact hs.publish (topic, message)

theorem shows_init (s : S) : Shows { other := s } { other := s } where
  items topic h := by
    refine ⟨_, (Publisher.lookup_init topic).trans (if_pos h), rfl, fun listener => ?_⟩
    exact iff_of_false (Set.notMem_empty _) fun ⟨_, hl, _⟩ => List.not_mem_nil hl
  others topic h := (Publisher.lookup_init topic).trans (if_neg h)
  published := rfl
  other := rfl
  heard _ := rfl

end

/-- **The service is a board.** Whatever clients call, listeners of the process come and go, and the
service publishes by itself, over any links : each remote object has heard what it has heard on
the board, where the calls that arrive are made on the spot. -/
theorem messages_refine {S : Type} (links : ℕ → RemoteObject → Link) (rest : Rest S)
    (ipc : Remote.Ipc RemoteObject) (steps : List HubStep) (s : S) (listener : RemoteObject) :
    (((steps.foldl (Hub.step links rest ipc) { other := s }).heard.filter
      fun c => c.1 = listener).map Prod.snd) =
        ((steps.foldl (Board.step links rest) { other := s }).heard listener).map
          fun message => .onMessage message.1.number message.2 := by
  have hrun : ∀ (steps : List HubStep) {h : Hub S} {b : Board S}, Shows h b →
      Shows (steps.foldl (Hub.step links rest ipc) h) (steps.foldl (Board.step links rest) b) := by
    intro steps
    induction steps with
    | nil => exact fun hs => hs
    | cons l steps ih => exact fun hs => ih (hs.step ipc l)
  exact (hrun steps (shows_init s)).heard listener

end DHFwk
