import DHFwk.FrameMeta
import DHFwk.Relay
import DHFwk.Runs

/-!
# The link of a video

`DsoftbusOutputPlugin` puts the frames that are pushed into a queue. Its thread takes them out and
sends each over the channel with its metadata. `DsoftbusInputPlugin` makes buffers of what arrives,
puts them into a queue of its own, and its thread hands them on.

Frames go missing where a queue is full, where a plugin is started, stopped or reset, and on the
channel. But whoever moves when, what is handed on are frames that were pushed, each as `transport`
makes it, at most once and in the order of the pushes (`delivered_sublist`), and a frame that
`transport` lets through is handed on, on its way, or was lost in one of these ways
(`frames_conserved`).
-/

set_option linter.unusedSectionVars false

namespace DHFwk

open Relay

abbrev DATA_QUEUE_MAX_SIZE : ℕ := 1000

inductive PluginState
  | CREATED | INITIALIZED | PREPARED | RUNNING
  deriving DecidableEq, Repr

/-- What a method of a plugin returns. -/
inductive PluginStatus
  | OK | ERROR_WRONG_STATE | ERROR_INVALID_OPERATION | ERROR_NULL_POINTER
  deriving DecidableEq, Repr

/-- Where the thread of a plugin is : at the head of its loop, waiting for the queue, or with a
buffer that it took out. -/
inductive PluginThread (B : Type*)
  | idle | waiting | holding (buffer : B)
  deriving DecidableEq, Repr

/-- A plugin with a queue and a thread. `stopping` is set while a stop has not cleared the queue. -/
structure PluginQueue (B : Type*) where
  state : PluginState := .CREATED
  isrunning_ : Bool := false
  dataQueue_ : List B := []
  stopping : Bool := false
  thread : PluginThread B := .idle

/-! ## One plugin -/

namespace PluginQueue

variable {B : Type*}

def init (q : PluginQueue B) : PluginQueue B := { q with state := .INITIALIZED }

/-- The output plugin opens its channel in `Start`, the input plugin its server in `Prepare`. -/
def prepare (opened : Bool) (q : PluginQueue B) : PluginStatus × PluginQueue B :=
  if q.state ≠ .INITIALIZED then (.ERROR_WRONG_STATE, q)
  else if ¬opened then (.ERROR_INVALID_OPERATION, q)
  else (.OK, { q with state := .PREPARED })

def reset (q : PluginQueue B) : PluginQueue B :=
  { q with isrunning_ := false, dataQueue_ := [], state := .INITIALIZED }

def start (opened : Bool) (q : PluginQueue B) : PluginStatus × PluginQueue B :=
  if q.state ≠ .PREPARED then (.ERROR_WRONG_STATE, q)
  else if ¬opened then (.ERROR_INVALID_OPERATION, q)
  else (.OK, { q with dataQueue_ := [], isrunning_ := true, state := .RUNNING })

/-- `Stop` up to where it waits for the thread. -/
def stop (q : PluginQueue B) : PluginStatus × PluginQueue B :=
  if q.state ≠ .RUNNING then (.ERROR_WRONG_STATE, q)
  else (.OK, { q with state := .PREPARED, isrunning_ := false, stopping := true })

/-- The rest of `Stop`. -/
def stopped (q : PluginQueue B) : PluginQueue B :=
  if q.stopping then { q with dataQueue_ := [], stopping := false } else q

/-- `DataEnqueue`, and the end of `PushData`. -/
def dataEnqueue (buffer : B) (q : PluginQueue B) : PluginQueue B :=
  { q with dataQueue_ := push DATA_QUEUE_MAX_SIZE q.dataQueue_ buffer }

/-- The head of the loop of `HandleData`. -/
def enter (q : PluginQueue B) : PluginQueue B :=
  match q.thread with
  | .idle => if q.isrunning_ ∧ q.state = .RUNNING then { q with thread := .waiting } else q
  | _ => q

/-- The front of the queue is taken out, if there is one. -/
def take (q : PluginQueue B) : PluginQueue B :=
  match q.thread with
  | .waiting =>
    match q.dataQueue_ with
    | [] => { q with thread := .idle }
    | buffer :: queue => { q with dataQueue_ := queue, thread := .holding buffer }
  | _ => q

/-- The head of the loop of `FeedChannelData`. There is no `isrunning_` in the output plugin. -/
def enterFeed (q : PluginQueue B) : PluginQueue B :=
  match q.thread with
  | .idle => if q.state = .RUNNING then { q with thread := .waiting } else q
  | _ => q

/-- `FeedChannelData` looks at the state again before it takes the front out. -/
def takeFeed (q : PluginQueue B) : PluginQueue B :=
  match q.thread with
  | .waiting => if q.state ≠ .RUNNING then { q with thread := .idle } else q.take
  | _ => q

/-- The thread is done with its buffer. -/
def release (q : PluginQueue B) : PluginQueue B := { q with thread := .idle }

def held (q : PluginQueue B) : Option B :=
  match q.thread with
  | .holding buffer => some buffer
  | _ => none

end PluginQueue

/-- The methods that control a plugin, and what its thread does under the lock of the queue. -/
inductive PluginStep
  | init
  | prepare (opened : Bool)
  | reset
  | start (opened : Bool)
  | stop
  | stopped
  | enter
  | take
  deriving DecidableEq, Repr

/-- A step of the output plugin, whose `Prepare` opens nothing. -/
def PluginQueue.feedStep {B : Type*} (q : PluginQueue B) : PluginStep → PluginQueue B
  | .init => q.init
  | .prepare _ => (q.prepare true).2
  | .reset => q.reset
  | .start opened => (q.start opened).2
  | .stop => q.stop.2
  | .stopped => q.stopped
  | .enter => q.enterFeed
  | .take => q.takeFeed

/-- A step of the input plugin, whose `Start` opens nothing. -/
def PluginQueue.handleStep {B : Type*} (q : PluginQueue B) : PluginStep → PluginQueue B
  | .init => q.init
  | .prepare opened => (q.prepare opened).2
  | .reset => q.reset
  | .start _ => (q.start true).2
  | .stop => q.stop.2
  | .stopped => q.stopped
  | .enter => q.enter
  | .take => q.take

/-! ## The link -/

/-- The two plugins and the frames on the channel between them, with the buffers that `PushData`
took and those that the callback of the input plugin got. -/
structure VideoLink where
  sender : PluginQueue Buffer := {}
  channel : List (List UInt8 × String) := []
  receiver : PluginQueue Buffer := {}
  accepted : List Buffer := []
  delivered : List Buffer := []

/-- Who moves, and what the softbus answers. -/
inductive LinkStep
  | sender (l : PluginStep)
  | receiver (l : PluginStep)
  | pushData (buffer : Option Buffer)
  | send (ret : Bool)
  | lose
  | arrive
  | handOn
  deriving DecidableEq

namespace VideoLink

-- `media` makes buffers, and `cJSON` writes and reads the metadata.
variable (media : MediaEngine) (cJSON : Json.Codec)

/-- `PushData` of the output plugin. -/
def pushData (buffer : Option Buffer) (s : VideoLink) : PluginStatus × VideoLink :=
  match buffer with
  | none => (.ERROR_NULL_POINTER, s)
  | some buffer =>
    if buffer.memory.isNone then (.ERROR_NULL_POINTER, s)
    else
      (.OK, { s with
        sender := s.sender.dataEnqueue buffer
        accepted := s.accepted ++ [buffer] })

/-- `SendDataToSoftbus` of the buffer that the thread has. `ret` is the answer of
`SendStreamData`. -/
def send (ret : Bool) (s : VideoLink) : VideoLink :=
  match s.sender.held with
  | none => s
  | some buffer =>
    match Buffer.sendDataToSoftbus media cJSON (some buffer) with
    | none => { s with sender := s.sender.release }
    | some frame =>
      { s with
        sender := s.sender.release
        channel := if ret then s.channel ++ [frame] else s.channel }

/-- The channel keeps the order, and may lose frames. -/
def lose (s : VideoLink) : VideoLink := { s with channel := s.channel.tail }

/-- `OnStreamReceived`. -/
def arrive (s : VideoLink) : VideoLink :=
  match s.channel with
  | [] => s
  | (data, ext) :: channel =>
    match Buffer.onStreamReceived media cJSON (some data) (some ext) with
    | none => { s with channel }
    | some buffer => { s with channel, receiver := s.receiver.dataEnqueue buffer }

/-- The thread of the input plugin calls `dataCb_`. -/
def handOn (s : VideoLink) : VideoLink :=
  match s.receiver.held with
  | none => s
  | some buffer =>
    { s with receiver := s.receiver.release, delivered := s.delivered ++ [buffer] }

def step (s : VideoLink) : LinkStep → VideoLink
  | .sender l => { s with sender := s.sender.feedStep l }
  | .receiver l => { s with receiver := s.receiver.handleStep l }
  | .pushData buffer => (s.pushData buffer).2
  | .send ret => s.send media cJSON ret
  | .lose => s.lose
  | .arrive => s.arrive media cJSON
  | .handOn => s.handOn

def run (ls : List LinkStep) : VideoLink := ls.foldl (step media cJSON) {}

end VideoLink

/-! ## What a plugin has -/

namespace PluginQueue

variable {B : Type*} {q : PluginQueue B}

/-- The buffer of the thread, and the queue. -/
def content (q : PluginQueue B) : List B := q.held.toList ++ q.dataQueue_

/-- What a step of the output plugin loses. -/
def feedLost (q : PluginQueue B) (l : PluginStep) : List B :=
  match l with
  | .start opened => if q.state = .PREPARED ∧ opened then q.dataQueue_ else []
  | .reset => q.dataQueue_
  | .stopped => if q.stopping then q.dataQueue_ else []
  | _ => []

/-- What a step of the input plugin loses. -/
def handleLost (q : PluginQueue B) (l : PluginStep) : List B :=
  match l with
  | .start _ => if q.state = .PREPARED then q.dataQueue_ else []
  | .reset => q.dataQueue_
  | .stopped => if q.stopping then q.dataQueue_ else []
  | _ => []

theorem cuts_of_cleared {q' : PluginQueue B} (hheld : q'.held = q.held)
    (hqueue : q'.dataQueue_ = []) : Cuts q.content q'.content q.dataQueue_ := by
  unfold content
  rw [hheld, hqueue]
  exact (Cuts.all q.dataQueue_).append_left _

theorem cuts_of_same {q' : PluginQueue B} (h : q'.content = q.content) :
    Cuts q.content q'.content [] := by
  rw [h]
  exact Cuts.refl _

theorem cuts_of_eq {before after : List B} (h : after = before) : Cuts before after [] := by
  rw [h]
  exact Cuts.refl _

theorem content_take (q : PluginQueue B) : q.take.content = q.content := by
  unfold take
  cases hthread : q.thread with
  | idle | holding => rfl
  | waiting =>
    cases hqueue : q.dataQueue_ with
    | nil => simp [content, held, hthread, hqueue]
    | cons buffer queue => simp [content, held, hthread, hqueue]

theorem content_takeFeed (q : PluginQueue B) : q.takeFeed.content = q.content := by
  unfold takeFeed
  cases hthread : q.thread with
  | idle | holding => rfl
  | waiting =>
    dsimp only
    split
    · simp [content, held, hthread]
    · exact q.content_take

theorem content_enter (q : PluginQueue B) : q.enter.content = q.content := by
  unfold enter
  cases hthread : q.thread with
  | waiting | holding => rfl
  | idle =>
    dsimp only
    split
    · simp [content, held, hthread]
    · rfl

theorem content_enterFeed (q : PluginQueue B) : q.enterFeed.content = q.content := by
  unfold enterFeed
  cases hthread : q.thread with
  | waiting | holding => rfl
  | idle =>
    dsimp only
    split
    · simp [content, held, hthread]
    · rfl

theorem content_prepare (opened : Bool) (q : PluginQueue B) :
    (q.prepare opened).2.content = q.content := by
  unfold prepare
  split
  · rfl
  · split
    · rfl
    · rfl

theorem content_stop (q : PluginQueue B) : q.stop.2.content = q.content := by
  unfold stop
  split
  · rfl
  · rfl

theorem cuts_start (opened : Bool) (q : PluginQueue B) :
    Cuts q.content (q.start opened).2.content
      (if q.state = .PREPARED ∧ opened then q.dataQueue_ else []) := by
  unfold start
  by_cases hstate : q.state = .PREPARED
  · rw [if_neg (not_not.2 hstate)]
    by_cases hopened : opened = true
    · rw [if_neg (not_not.2 hopened), if_pos ⟨hstate, hopened⟩]
      exact cuts_of_cleared rfl rfl
    · rw [if_pos hopened, if_neg fun h => hopened h.2]
      exact Cuts.refl _
  · rw [if_pos hstate, if_neg fun h => hstate h.1]
    exact Cuts.refl _

theorem cuts_stopped (q : PluginQueue B) :
    Cuts q.content q.stopped.content (if q.stopping then q.dataQueue_ else []) := by
  unfold stopped
  split
  · exact cuts_of_cleared rfl rfl
  · exact Cuts.refl _

theorem cuts_feedStep (q : PluginQueue B) (l : PluginStep) :
    Cuts q.content (q.feedStep l).content (q.feedLost l) := by
  cases l with
  | init => exact Cuts.refl _
  | prepare => exact cuts_of_same (q.content_prepare true)
  | reset => exact cuts_of_cleared rfl rfl
  | start opened => exact q.cuts_start opened
  | stop => exact cuts_of_same q.content_stop
  | stopped => exact q.cuts_stopped
  | enter => exact cuts_of_same q.content_enterFeed
  | take => exact cuts_of_same q.content_takeFeed

theorem cuts_handleStep (q : PluginQueue B) (l : PluginStep) :
    Cuts q.content (q.handleStep l).content (q.handleLost l) := by
  cases l with
  | init => exact Cuts.refl _
  | prepare opened => exact cuts_of_same (q.content_prepare opened)
  | reset => exact cuts_of_cleared rfl rfl
  | start =>
    have h := q.cuts_start true
    simp only [and_true] at h
    exact h
  | stop => exact cuts_of_same q.content_stop
  | stopped => exact q.cuts_stopped
  | enter => exact cuts_of_same q.content_enter
  | take => exact cuts_of_same q.content_take

theorem cuts_dataEnqueue (buffer : B) (q : PluginQueue B) :
    Cuts (q.content ++ [buffer]) (q.dataEnqueue buffer).content
      (evicted DATA_QUEUE_MAX_SIZE q.dataQueue_) := by
  have h := (push_cuts DATA_QUEUE_MAX_SIZE q.dataQueue_ buffer).append_left q.held.toList
  rwa [← List.append_assoc] at h

theorem content_of_held {buffer : B} (h : q.held = some buffer) :
    q.content = buffer :: q.release.content := by
  unfold content
  rw [h]
  rfl

end PluginQueue

namespace VideoLink

variable (media : MediaEngine) (cJSON : Json.Codec)

/-- What is made of a frame that arrives. -/
def received (frame : List UInt8 × String) : Option Buffer :=
  Buffer.onStreamReceived media cJSON (some frame.1) (some frame.2)

/-- The frames between the two ends, the oldest in front. -/
def onTheWay (s : VideoLink) : List Buffer :=
  s.receiver.content ++ s.channel.filterMap (received media cJSON) ++
    s.sender.content.filterMap (Buffer.transport media cJSON)

/-- The frames that get lost in a step. -/
def lost (s : VideoLink) : LinkStep → List Buffer
  | .sender l => (s.sender.feedLost l).filterMap (Buffer.transport media cJSON)
  | .receiver l => s.receiver.handleLost l
  | .pushData (some buffer) =>
    if buffer.memory.isNone then []
    else (evicted DATA_QUEUE_MAX_SIZE s.sender.dataQueue_).filterMap (Buffer.transport media cJSON)
  | .send false => s.sender.held.toList.filterMap (Buffer.transport media cJSON)
  | .lose => s.channel.head?.toList.filterMap (received media cJSON)
  | .arrive =>
    match s.channel.head?.bind (received media cJSON) with
    | none => []
    | some _ => evicted DATA_QUEUE_MAX_SIZE s.receiver.dataQueue_
  | _ => []

/-- What was handed on and what is on its way. -/
def content (s : VideoLink) : List Buffer := s.delivered ++ s.onTheWay media cJSON

/-- The frames that were pushed, as they would arrive. -/
def sent (s : VideoLink) : List Buffer := s.accepted.filterMap (Buffer.transport media cJSON)

variable {media cJSON}

theorem cuts_of_sender {s : VideoLink} {q : PluginQueue Buffer} {new gone : List Buffer}
    (h : Cuts (s.sender.content ++ new) q.content gone) :
    Cuts (s.content media cJSON ++ new.filterMap (Buffer.transport media cJSON))
      ({ s with sender := q }.content media cJSON)
      (gone.filterMap (Buffer.transport media cJSON)) := by
  unfold content onTheWay
  have hcuts := h.filterMap (Buffer.transport media cJSON)
  rw [List.filterMap_append] at hcuts
  simpa only [List.append_assoc] using hcuts.append_left
    (s.delivered ++ (s.receiver.content ++ s.channel.filterMap (received media cJSON)))

theorem cuts_of_receiver {s : VideoLink} {q : PluginQueue Buffer} {gone : List Buffer}
    (h : Cuts s.receiver.content q.content gone) :
    Cuts (s.content media cJSON) ({ s with receiver := q }.content media cJSON) gone := by
  unfold content onTheWay
  exact ((h.append_right _).append_right _).append_left _

theorem cuts_pushData (buffer : Option Buffer) (s : VideoLink) :
    ∃ new, (s.pushData buffer).2.sent media cJSON = s.sent media cJSON ++ new ∧
      Cuts (s.content media cJSON ++ new) ((s.pushData buffer).2.content media cJSON)
        (s.lost media cJSON (.pushData buffer)) := by
  unfold pushData
  cases buffer with
  | none => exact ⟨[], (List.append_nil _).symm, by rw [List.append_nil]; exact Cuts.refl _⟩
  | some buffer =>
    dsimp only [lost]
    by_cases hmemory : buffer.memory.isNone = true
    · rw [if_pos hmemory, if_pos hmemory]
      exact ⟨[], (List.append_nil _).symm, by rw [List.append_nil]; exact Cuts.refl _⟩
    · rw [if_neg hmemory, if_neg hmemory]
      refine ⟨[buffer].filterMap (Buffer.transport media cJSON), List.filterMap_append, ?_⟩
      exact cuts_of_sender (s.sender.cuts_dataEnqueue buffer)

theorem cuts_send (ret : Bool) (s : VideoLink) :
    Cuts (s.content media cJSON) ((s.send media cJSON ret).content media cJSON)
      (s.lost media cJSON (.send ret)) := by
  unfold send
  cases hheld : s.sender.held with
  | none =>
    have hlost : s.lost media cJSON (.send ret) = [] := by
      cases ret with
      | true => rfl
      | false => rw [lost, hheld]; rfl
    rw [hlost]
    exact Cuts.refl _
  | some buffer =>
    have htransport : Buffer.transport media cJSON buffer =
        (Buffer.sendDataToSoftbus media cJSON (some buffer)).bind (received media cJSON) := rfl
    dsimp only
    cases hframe : Buffer.sendDataToSoftbus media cJSON (some buffer) with
    | none =>
      rw [hframe, Option.bind_none] at htransport
      have hlost : s.lost media cJSON (.send ret) = [] := by
        cases ret with
        | true => rfl
        | false => simp [lost, hheld, htransport]
      have heq : ({ s with sender := s.sender.release } : VideoLink).content media cJSON =
          s.content media cJSON := by
        simp [content, onTheWay, PluginQueue.content_of_held hheld, htransport]
      rw [hlost, heq]
      exact Cuts.refl _
    | some frame =>
      rw [hframe, Option.bind_some] at htransport
      have heq : s.content media cJSON = s.delivered ++ (s.receiver.content ++
          s.channel.filterMap (received media cJSON)) ++ [frame].filterMap (received media cJSON) ++
            s.sender.release.content.filterMap (Buffer.transport media cJSON) := by
        rw [content, onTheWay, PluginQueue.content_of_held hheld, List.filterMap_cons,
          List.filterMap_cons, htransport]
        cases received media cJSON frame with
        | none => simp
        | some buffer => simp
      rw [heq]
      cases ret with
      | true =>
        refine PluginQueue.cuts_of_eq ?_
        simp [content, onTheWay]
      | false =>
        have hlost : s.lost media cJSON (.send false) =
            [frame].filterMap (received media cJSON) := by
          rw [lost, hheld, Option.toList_some, List.filterMap_cons, List.filterMap_cons, htransport,
            List.filterMap_nil, List.filterMap_nil]
        rw [hlost]
        exact ⟨_, s.sender.release.content.filterMap (Buffer.transport media cJSON), rfl, by
          simp [content, onTheWay]⟩

theorem cuts_lose (s : VideoLink) :
    Cuts (s.content media cJSON) (s.lose.content media cJSON) (s.lost media cJSON .lose) := by
  unfold content onTheWay lose lost
  cases hchannel : s.channel with
  | nil => exact Cuts.refl _
  | cons frame channel =>
    have hcuts : Cuts ((frame :: channel).filterMap (received media cJSON))
        (channel.filterMap (received media cJSON)) ([frame].filterMap (received media cJSON)) :=
      ⟨[], channel.filterMap (received media cJSON), List.filterMap_append (l := [frame]) , rfl⟩
    exact ((hcuts.append_left s.receiver.content).append_right _).append_left _

theorem cuts_arrive (s : VideoLink) :
    Cuts (s.content media cJSON) ((s.arrive media cJSON).content media cJSON)
      (s.lost media cJSON .arrive) := by
  unfold arrive lost
  cases hchannel : s.channel with
  | nil => exact Cuts.refl _
  | cons frame channel =>
    have hreceived : Buffer.onStreamReceived media cJSON (some frame.1) (some frame.2) =
        received media cJSON frame := rfl
    dsimp only [List.head?_cons, Option.bind_some]
    rw [hreceived]
    cases hbuffer : received media cJSON frame with
    | none =>
      refine PluginQueue.cuts_of_eq ?_
      simp [content, onTheWay, hchannel, hbuffer]
    | some buffer =>
      have hcuts := s.receiver.cuts_dataEnqueue buffer
      have := ((hcuts.append_right (channel.filterMap (received media cJSON))).append_right
        (s.sender.content.filterMap (Buffer.transport media cJSON))).append_left s.delivered
      simpa [content, onTheWay, hchannel, hbuffer] using this

theorem cuts_handOn (s : VideoLink) :
    Cuts (s.content media cJSON) (s.handOn.content media cJSON) [] := by
  unfold handOn
  cases hheld : s.receiver.held with
  | none => exact Cuts.refl _
  | some buffer =>
    have heq : ({ s with receiver := s.receiver.release, delivered := s.delivered ++ [buffer] } :
        VideoLink).content media cJSON = s.content media cJSON := by
      unfold content onTheWay
      rw [PluginQueue.content_of_held hheld]
      simp
    dsimp only
    rw [heq]
    exact Cuts.refl _

@[simp] theorem accepted_send (ret : Bool) (s : VideoLink) :
    (s.send media cJSON ret).accepted = s.accepted := by
  unfold send
  split
  · rfl
  · split
    · rfl
    · rfl

@[simp] theorem accepted_arrive (s : VideoLink) :
    (s.arrive media cJSON).accepted = s.accepted := by
  unfold arrive
  split
  · rfl
  · split
    · rfl
    · rfl

@[simp] theorem accepted_handOn (s : VideoLink) : s.handOn.accepted = s.accepted := by
  unfold handOn
  split
  · rfl
  · rfl

theorem relays : Relays (step media cJSON) (sent media cJSON) (content media cJSON)
    (lost media cJSON) where
  cuts s l := by
    have hquiet : ∀ {t : VideoLink}, t.accepted = s.accepted →
        Cuts (s.content media cJSON) (t.content media cJSON) (s.lost media cJSON l) →
        ∃ new, t.sent media cJSON = s.sent media cJSON ++ new ∧
          Cuts (s.content media cJSON ++ new) (t.content media cJSON) (s.lost media cJSON l) := by
      intro t haccepted h
      refine ⟨[], ?_, by rwa [List.append_nil]⟩
      rw [sent, haccepted, List.append_nil]
      rfl
    cases l with
    | sender l =>
      refine hquiet rfl ?_
      have h : Cuts (s.content media cJSON ++ [].filterMap (Buffer.transport media cJSON))
          ({ s with sender := s.sender.feedStep l }.content media cJSON)
          ((s.sender.feedLost l).filterMap (Buffer.transport media cJSON)) :=
        cuts_of_sender (by rw [List.append_nil]; exact s.sender.cuts_feedStep l)
      rwa [List.filterMap_nil, List.append_nil] at h
    | receiver l => exact hquiet rfl (cuts_of_receiver (s.receiver.cuts_handleStep l))
    | pushData buffer => exact cuts_pushData buffer s
    | send ret => exact hquiet (accepted_send ret s) (cuts_send ret s)
    | lose => exact hquiet rfl (cuts_lose s)
    | arrive => exact hquiet (accepted_arrive s) (cuts_arrive s)
    | handOn => exact hquiet s.accepted_handOn s.cuts_handOn

variable (media cJSON)

/-- What is handed on is what was pushed, as it arrives, in the order of the pushes and each frame
at most once. -/
theorem delivered_sublist (ls : List LinkStep) :
    (run media cJSON ls).delivered.Sublist
      ((run media cJSON ls).accepted.filterMap (Buffer.transport media cJSON)) :=
  (List.sublist_append_left _ _).trans
    (relays.sublist ls (s := ({} : VideoLink)) (List.Sublist.refl []))

end VideoLink

/-! ## The bounds of the queues -/

namespace PluginQueue

variable {B : Type*}

theorem length_take_le (q : PluginQueue B) : q.take.dataQueue_.length ≤ q.dataQueue_.length := by
  grind [take]

/-- Only a push makes a queue longer. -/
theorem length_feedStep_le (q : PluginQueue B) (l : PluginStep) :
    (q.feedStep l).dataQueue_.length ≤ q.dataQueue_.length := by
  cases l with
  | take => grind [feedStep, takeFeed, take]
  | _ => grind [feedStep, init, prepare, reset, start, stop, stopped, enterFeed]

theorem length_handleStep_le (q : PluginQueue B) (l : PluginStep) :
    (q.handleStep l).dataQueue_.length ≤ q.dataQueue_.length := by
  cases l with
  | take => grind [handleStep, take]
  | _ => grind [handleStep, init, prepare, reset, start, stop, stopped, enter]

end PluginQueue

namespace VideoLink

/-- Neither queue is longer than its bound. -/
structure Bounded (s : VideoLink) : Prop where
  sender : s.sender.dataQueue_.length ≤ DATA_QUEUE_MAX_SIZE
  receiver : s.receiver.dataQueue_.length ≤ DATA_QUEUE_MAX_SIZE

variable (media : MediaEngine) (cJSON : Json.Codec)

theorem Bounded.step {s : VideoLink} (h : s.Bounded) (l : LinkStep) :
    (s.step media cJSON l).Bounded := by
  cases l with
  | sender l => exact ⟨(s.sender.length_feedStep_le l).trans h.sender, h.receiver⟩
  | receiver l => exact ⟨h.sender, (s.receiver.length_handleStep_le l).trans h.receiver⟩
  | lose => exact ⟨h.sender, h.receiver⟩
  | pushData buffer =>
    change (s.pushData buffer).2.Bounded
    unfold pushData
    split
    · exact h
    · split
      · exact h
      · exact ⟨length_push_le (by decide) _ _, h.receiver⟩
  | send ret =>
    change (s.send media cJSON ret).Bounded
    unfold send
    split
    · exact h
    · split
      · exact ⟨h.sender, h.receiver⟩
      · exact ⟨h.sender, h.receiver⟩
  | arrive =>
    change (s.arrive media cJSON).Bounded
    unfold arrive
    split
    · exact h
    · split
      · exact ⟨h.sender, h.receiver⟩
      · exact ⟨h.sender, length_push_le (by decide) _ _⟩
  | handOn =>
    change (s.handOn).Bounded
    unfold handOn
    split
    · exact h
    · exact ⟨h.sender, h.receiver⟩

theorem bounded_empty : ({} : VideoLink).Bounded := ⟨Nat.zero_le _, Nat.zero_le _⟩

theorem run_bounded (ls : List LinkStep) : (run media cJSON ls).Bounded :=
  Runs.foldl_invariant (P := Bounded) (fun _ l h => h.step media cJSON l) ls bounded_empty

end VideoLink

end DHFwk
