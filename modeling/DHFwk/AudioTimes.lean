import DHFwk.Ring
import DHFwk.Runs
import DHFwk.AudioCoder

/-!
# The times of decoded frames

The codec puts out one frame for each that it accepts, in their order, and the filter remembers
the times of the frames in between : `ptsMap_` has them under indices that wrap at 15, one counter
for what goes in and one for what comes out.

A frame that the codec does not accept has been counted by then, an output that is not passed on
is not counted, a stop discards frames that stay counted, and with 16 frames in the codec one time
is written over another. `times_kept` : in runs without these, every output has the time
of its frame.
-/

set_option linter.unusedSectionVars false

namespace DHFwk

open Runs

namespace AudioCoder

/-- The times of the frames in the codec are in the table, the two counters stand at its ends, and
the counters went around only after the entry for that was made. -/
structure Aligned (ptsMap : Table ℕ Int64) (frameIn frameOut : ℕ) (inFlight : List Int64) :
    Prop where
  times : Ring.Holds INDEX_FLAG ptsMap frameOut inFlight
  out_lt : frameOut < 15
  in_eq : (frameOut + inFlight.length) % 15 = frameIn
  special : ptsMap.lookup INDEX_FLAG = none → frameOut + inFlight.length = frameIn

/-- Every output has the time of its frame. -/
def Faithful (s : AudioCoder) : Prop :=
  ∀ p ∈ s.pushed, p.source = some p.pts_

/-- The codec puts out what it was given. -/
def Emits (s : AudioCoder) : Label → Bool
  | .onOutputBufferAvailable _ _ => !s.inFlight.isEmpty
  | _ => true

/-- A frame that gets as far as the codec is accepted, and is the 15th in there at most ; what
comes out is passed on ; and a stop finds no frame in the codec, or all 15. -/
def Orderly (s : AudioCoder) : Label → Bool
  | .process copied pushed =>
    match s.thread_ with
    | .holding (some b) _ codecMem =>
      !(s.audioCodec_ && s.isRunning_ && codecMem && b.memory_ && b.meta_ && copied) ||
        (pushed && s.inFlight.length < INDEX_FLAG)
    | _ => true
  | .onOutputBufferAvailable buffer request =>
    s.audioCodec_ && s.isRunning_ && buffer && s.outputProducer_ &&
      request.any fun out => out.memory_ && out.meta_
  | .joined flushed stopped =>
    s.call = some .stop ∧ (s.thread_ = .none ∨ s.thread_ = .ended) ∧ (flushed || stopped) →
      s.inFlight.length % INDEX_FLAG = 0
  | _ => true

/-! ## The counters -/

section Aligned

variable {ptsMap : Table ℕ Int64} {frameIn frameOut : ℕ} {pts special : Int64}
  {inFlight : List Int64}

/-- A frame goes in. -/
theorem Aligned.push (h : Aligned ptsMap frameIn frameOut inFlight) (hlen : inFlight.length < 15)
    (hwrap : frameIn + 1 ≠ 15) (pts : Int64) :
    Aligned (ptsMap.set frameIn pts) (frameIn + 1) frameOut (inFlight ++ [pts]) := by
  have hlength : (inFlight ++ [pts]).length = inFlight.length + 1 := by simp
  have hnext := h.in_eq
  have htimes := h.times.push hlen pts
  rw [hnext] at htimes
  refine ⟨htimes, h.out_lt, by omega, fun hnone => ?_⟩
  rw [Table.lookup_set_ne _ (by simp only [INDEX_FLAG]; omega)] at hnone
  have hcount := h.special hnone
  omega

/-- The counter goes around, and the entry for that is made beside the others. -/
theorem Aligned.push_wrap (h : Aligned ptsMap frameIn frameOut inFlight)
    (hlen : inFlight.length < 15) (hwrap : frameIn + 1 = 15) (pts special : Int64) :
    Aligned ((ptsMap.set frameIn pts).set INDEX_FLAG special) 0 frameOut (inFlight ++ [pts]) := by
  have hlength : (inFlight ++ [pts]).length = inFlight.length + 1 := by simp
  have hnext := h.in_eq
  have htimes := h.times.push hlen pts
  rw [hnext] at htimes
  refine ⟨htimes.of_agree fun k hk => Table.lookup_set_ne _ hk.ne _, h.out_lt, by omega, ?_⟩
  intro hnone
  rw [Table.lookup_set_self] at hnone
  cases hnone

/-- What comes out has the time of the frame that went in first. -/
theorem Aligned.head (h : Aligned ptsMap frameIn frameOut (pts :: inFlight)) :
    ptsMap.lookup frameOut = some pts :=
  h.times.head h.out_lt

theorem Aligned.pop (h : Aligned ptsMap frameIn frameOut (pts :: inFlight))
    (hwrap : frameOut + 1 ≠ 15) :
    Aligned (ptsMap.remove frameOut) frameIn (frameOut + 1) inFlight := by
  have hout := h.out_lt
  have hnext := h.in_eq
  have htimes := h.times.pop hout
  rw [List.length_cons] at hnext
  rw [Nat.mod_eq_of_lt (by simp only [INDEX_FLAG]; omega)] at htimes
  refine ⟨htimes, by omega, by omega, fun hnone => ?_⟩
  rw [Table.lookup_remove_ne _ (by simp only [INDEX_FLAG]; omega)] at hnone
  have hcount := h.special hnone
  rw [List.length_cons] at hcount
  omega

/-- By then the other counter went around too. -/
theorem Aligned.pop_wrap (h : Aligned ptsMap frameIn frameOut (pts :: inFlight))
    (hwrap : frameOut + 1 = 15) :
    (ptsMap.lookup INDEX_FLAG).isSome ∧
      Aligned (ptsMap.remove frameOut) frameIn 0 inFlight := by
  have hout := h.out_lt
  have hnext := h.in_eq
  have htimes := h.times.pop hout
  rw [List.length_cons] at hnext
  rw [hwrap, Nat.mod_self] at htimes
  have hsome : ptsMap.lookup INDEX_FLAG ≠ none := by
    intro hnone
    have hcount := h.special hnone
    rw [List.length_cons] at hcount
    omega
  refine ⟨Option.isSome_iff_ne_none.2 hsome, htimes, by decide, by omega, fun hnone => ?_⟩
  rw [Table.lookup_remove_ne _ (by simp only [INDEX_FLAG]; omega)] at hnone
  exact absurd hnone hsome

/-- Frames that are discarded all at once, 15 or none. -/
theorem Aligned.discard (h : Aligned ptsMap frameIn frameOut inFlight)
    (hlen : inFlight.length % 15 = 0) : Aligned ptsMap frameIn frameOut [] := by
  have hnext := h.in_eq
  have hout := h.out_lt
  refine ⟨Ring.holds_nil _ _ _, hout, ?_, fun hnone => ?_⟩
  · rw [List.length_nil]
    omega
  · have hcount := h.special hnone
    rw [List.length_nil]
    omega

end Aligned

/-! ## One step -/

/-- While there is a codec, its frames are in line with the counters ; and what came out is
right. -/
structure InLine (s : AudioCoder) : Prop where
  aligned : s.audioCodec_ = true →
    Aligned s.ptsMap_ s.frameInIndex_ s.frameOutIndex_ s.inFlight
  faithful : Faithful s

/-- `s'` has the times of `s`. -/
structure SameTimes (s s' : AudioCoder) : Prop where
  audioCodec : s'.audioCodec_ = s.audioCodec_
  ptsMap : s'.ptsMap_ = s.ptsMap_
  frameIn : s'.frameInIndex_ = s.frameInIndex_
  frameOut : s'.frameOutIndex_ = s.frameOutIndex_
  inFlight : s'.inFlight = s.inFlight
  pushed : s'.pushed = s.pushed

theorem SameTimes.inLine {s s' : AudioCoder} (h : SameTimes s s') (hs : InLine s) : InLine s' := by
  refine ⟨fun hcodec => ?_, fun p hp => hs.faithful p (h.pushed ▸ hp)⟩
  rw [h.ptsMap, h.frameIn, h.frameOut, h.inFlight]
  exact hs.aligned (h.audioCodec ▸ hcodec)

/-- A frame that is accepted goes in, as one of 15 at most. -/
theorem inLine_stampIn {s : AudioCoder} (hs : InLine s) (hcodec : s.audioCodec_ = true)
    (hlen : s.inFlight.length < 15) (b : Frame) :
    InLine { s.stampIn .decoder b with
      inFlight := (s.stampIn .decoder b).inFlight ++ [b.pts_] } := by
  have haligned := hs.aligned hcodec
  unfold stampIn
  dsimp only
  split_ifs with hwrap
  · exact ⟨fun _ => haligned.push_wrap hlen hwrap _ _, hs.faithful⟩
  · exact ⟨fun _ => haligned.push hlen hwrap _, hs.faithful⟩

/-- A frame that does not get as far as the codec changes no times. -/
theorem sameTimes_processData {s : AudioCoder} {audioData : Option InBuffer}
    {codecMem copied pushed : Bool}
    (h : ∀ b, audioData = some b →
      (s.audioCodec_ && s.isRunning_ && codecMem && b.memory_ && b.meta_ && copied) = false) :
    (s.processData .decoder audioData codecMem copied pushed).2 = s := by
  cases audioData with
  | none =>
    unfold processData
    split_ifs <;> rfl
  | some b =>
    have hb := h b rfl
    unfold processData
    dsimp only
    split_ifs <;> first | rfl | grind

theorem processData_of_accepted {s : AudioCoder} {b : InBuffer} {codecMem copied : Bool}
    (h : (s.audioCodec_ && s.isRunning_ && codecMem && b.memory_ && b.meta_ && copied) = true) :
    s.processData .decoder (some b) codecMem copied true =
      (.OK, { s.stampIn .decoder b.toFrame with
        inFlight := (s.stampIn .decoder b.toFrame).inFlight ++ [b.pts_] }) := by
  simp only [Bool.and_eq_true] at h
  obtain ⟨⟨⟨⟨⟨hcodec, hrun⟩, hmem⟩, hmemory⟩, hmeta⟩, hcopied⟩ := h
  simp [processData, hcodec, hrun, hmem, hmemory, hmeta, hcopied]

theorem inLine_process {s : AudioCoder} (hs : InLine s) {copied pushed : Bool}
    (h : Orderly s (.process copied pushed) = true) :
    InLine (s.process .decoder copied pushed) := by
  cases hthread : s.thread_ with
  | holding audioData index codecMem =>
    have hdata : InLine (s.processData .decoder audioData codecMem copied pushed).2 := by
      by_cases hstop : ∀ b, audioData = some b →
          (s.audioCodec_ && s.isRunning_ && codecMem && b.memory_ && b.meta_ && copied) = false
      · rw [sameTimes_processData hstop]
        exact hs
      · push Not at hstop
        obtain ⟨b, rfl, hgo⟩ := hstop
        rw [Bool.ne_false_iff] at hgo
        simp only [Orderly, hthread, hgo, Bool.not_true, Bool.false_or, Bool.and_eq_true,
          decide_eq_true_iff] at h
        obtain ⟨rfl, hlen⟩ := h
        rw [processData_of_accepted hgo]
        refine inLine_stampIn hs ?_ hlen b.toFrame
        simp only [Bool.and_eq_true] at hgo
        exact hgo.1.1.1.1.1
    simp only [process, hthread]
    split <;> rename_i s' hr <;> rw [hr] at hdata
    · exact ⟨hdata.aligned, hdata.faithful⟩
    · exact ⟨hdata.aligned, hdata.faithful⟩
    · exact ⟨hdata.aligned, hdata.faithful⟩
  | none | check | wait | ended =>
    simp only [process, hthread]
    exact hs

/-- What comes out gets the time that went in first, and the counters stay in line. -/
theorem stampOut_spec {s : AudioCoder} {pts : Int64}
    (h : Aligned s.ptsMap_ s.frameInIndex_ s.frameOutIndex_ (pts :: s.inFlight)) :
    (s.stampOut .decoder).1.1 = pts ∧
      Aligned (s.stampOut .decoder).2.ptsMap_ (s.stampOut .decoder).2.frameInIndex_
        (s.stampOut .decoder).2.frameOutIndex_ (s.stampOut .decoder).2.inFlight ∧
      (s.stampOut .decoder).2.pushed = s.pushed := by
  have hhead := h.head
  have hout := h.out_lt
  have hkeep : (s.ptsMap_.remove s.frameOutIndex_).lookup INDEX_FLAG =
      s.ptsMap_.lookup INDEX_FLAG := Table.lookup_remove_ne _ (by simp only [INDEX_FLAG]; omega)
  unfold stampOut
  dsimp only
  by_cases hwrap : s.frameOutIndex_ + 1 ≠ INDEX_FLAG
  · rw [if_pos hwrap, hhead]
    exact ⟨rfl, h.pop hwrap, rfl⟩
  · obtain ⟨hflag, hpop⟩ := h.pop_wrap (not_not.1 hwrap)
    obtain ⟨special, hspecial⟩ := Option.isSome_iff_exists.1 hflag
    rw [if_neg hwrap, hkeep, hspecial, hhead]
    exact ⟨rfl, hpop, rfl⟩

theorem output_of_passed {s : AudioCoder} {out : OutBuffer} (hcodec : s.audioCodec_ = true)
    (hrun : s.isRunning_ = true) (hproducer : s.outputProducer_ = true)
    (hmemory : out.memory_ = true) (hmeta : out.meta_ = true) (source : Option Int64) :
    let r := { s with indices := s.indices.issue, outputs := s.outputs.issue }.stampOut .decoder
    s.output .decoder true (some out) source =
      { r.2 with
        outputs := r.2.outputs.give (r.2.outputs.issued - 1)
        pushed := r.2.pushed ++ [⟨r.1.1, some r.1.2, source⟩]
        indices := r.2.indices.give (r.2.indices.issued - 1) } := by
  simp [output, hcodec, hrun, hproducer, hmemory, hmeta]

/-- What the codec puts out is passed on with the time of its frame. -/
theorem inLine_output {s : AudioCoder} (hs : InLine s) {buffer : Bool}
    {request : Option OutBuffer} (hemits : Emits s (.onOutputBufferAvailable buffer request) = true)
    (h : Orderly s (.onOutputBufferAvailable buffer request) = true) :
    InLine (s.onOutputBufferAvailable .decoder buffer request) := by
  obtain ⟨pts, rest, hflight⟩ : ∃ pts rest, s.inFlight = pts :: rest := by
    simp only [Emits] at hemits
    exact List.exists_cons_of_ne_nil (by simpa using hemits)
  simp only [Orderly, Bool.and_eq_true, Option.any_eq_true] at h
  obtain ⟨⟨⟨⟨hcodec, hrun⟩, hbuffer⟩, hproducer⟩, out, rfl, hmemory, hmeta⟩ := h
  have haligned := hs.aligned hcodec
  rw [hflight] at haligned
  have hpassed := output_of_passed (s := { s with inFlight := rest }) hcodec hrun hproducer hmemory
    hmeta (some pts)
  rw [onOutputBufferAvailable, hflight, hbuffer]
  obtain ⟨hpts, hpop, hpushed⟩ := stampOut_spec (s := { s with
    inFlight := rest, indices := s.indices.issue, outputs := s.outputs.issue }) haligned
  refine (congrArg InLine hpassed).mpr ?_
  refine ⟨fun _ => hpop, fun p hp => ?_⟩
  rcases List.mem_append.1 hp with hp | hp
  · exact hs.faithful p (hpushed ▸ hp)
  · rw [List.mem_singleton.1 hp, hpts]

/-- Frames are discarded by a stop that finds none, or all 15, and by a release. -/
theorem inLine_joined {s : AudioCoder} (hs : InLine s) {flushed stopped : Bool}
    (h : Orderly s (.joined flushed stopped) = true) : InLine (s.joined flushed stopped) := by
  unfold joined
  split_ifs with hthread
  · exact hs
  · have hended : s.thread_ = .none ∨ s.thread_ = .ended := by tauto
    split
    · exact hs
    · rename_i hcall
      simp only [Orderly, hcall, hended, true_and, decide_eq_true_iff] at h
      unfold flushAndStop
      by_cases hcodec : ¬s.joinThread.audioCodec_
      · rw [if_pos hcodec]
        exact ⟨hs.aligned, hs.faithful⟩
      rw [if_neg hcodec]
      dsimp only
      split_ifs with hdiscard
      · exact ⟨fun hcodec => (hs.aligned hcodec).discard (h hdiscard), hs.faithful⟩
      · exact ⟨hs.aligned, hs.faithful⟩
    · refine ⟨fun hcodec => Bool.noConfusion hcodec, ?_⟩
      unfold flushAndStop
      split_ifs <;> exact hs.faithful

/-- A step keeps the counters in line if it is orderly. -/
theorem inLine_step {s : AudioCoder} (hs : InLine s) {l : Label} (hemits : Emits s l = true)
    (h : Orderly s l = true) : InLine (s.step .decoder l) := by
  unfold step
  by_cases hterminated : s.terminated = true
  · rw [if_pos hterminated]
    exact hs
  rw [if_neg hterminated]
  cases l with
  | processInputBuffer acquired =>
    refine SameTimes.inLine ?_ hs
    cases acquired with
    | none => exact ⟨rfl, rfl, rfl, rfl, rfl, rfl⟩
    | some buffer => cases buffer <;> exact ⟨rfl, rfl, rfl, rfl, rfl, rfl⟩
  | onInputBufferAvailable index buffer =>
    refine SameTimes.inLine ?_ hs
    cases buffer <;> exact ⟨rfl, rfl, rfl, rfl, rfl, rfl⟩
  | onOutputBufferAvailable buffer request => exact inLine_output hs hemits h
  | onError => exact ⟨hs.aligned, hs.faithful⟩
  | check =>
    refine SameTimes.inLine ?_ hs
    dsimp only
    unfold check
    split <;> exact ⟨rfl, rfl, rfl, rfl, rfl, rfl⟩
  | take =>
    refine SameTimes.inLine ?_ hs
    dsimp only
    unfold take
    split
    · split <;> exact ⟨rfl, rfl, rfl, rfl, rfl, rfl⟩
    · exact ⟨rfl, rfl, rfl, rfl, rfl, rfl⟩
  | process copied pushed => exact inLine_process hs h
  | start granted started =>
    refine SameTimes.inLine ?_ hs
    dsimp only
    unfold startAudioCodec startInputThread
    split_ifs
    · exact ⟨rfl, rfl, rfl, rfl, rfl, rfl⟩
    · exact ⟨rfl, rfl, rfl, rfl, rfl, rfl⟩
    · split <;> exact ⟨rfl, rfl, rfl, rfl, rfl, rfl⟩
  | stop =>
    dsimp only
    split_ifs
    · exact hs
    · exact ⟨hs.aligned, hs.faithful⟩
  | release =>
    dsimp only
    unfold releaseAudioCodec
    split_ifs
    · exact hs
    · exact ⟨fun h => Bool.noConfusion h, hs.faithful⟩
    · exact ⟨hs.aligned, hs.faithful⟩
    · exact hs
  | joined flushed stopped => exact inLine_joined hs h

/-- In runs of a codec that puts out what it was given, every output has the time of its frame
if each frame that gets as far as the codec is accepted, with 15 in there at most, all that comes
out is passed on, and a stop finds no frame in the codec, or all 15. -/
theorem times_kept (outputProducer : Bool) (ls : List Label)
    (hcodec : Along (step .decoder) (fun s l => Emits s l = true) (prepared outputProducer) ls)
    (h : Along (step .decoder) (fun s l => Orderly s l = true) (prepared outputProducer) ls) :
    Faithful (ls.foldl (step .decoder) (prepared outputProducer)) := by
  have hboth := hcodec.and h
  have hprepared : InLine (prepared outputProducer) := by
    refine ⟨fun _ => ⟨Ring.holds_nil _ _ _, Nat.zero_lt_succ _, rfl, fun _ => rfl⟩, fun p hp => ?_⟩
    cases hp
  have hstep : ∀ s l, InLine s → Emits s l = true ∧ Orderly s l = true →
      InLine (s.step .decoder l) := fun s l hs hl => inLine_step hs hl.1 hl.2
  exact (Along.invariant hstep hprepared hboth).faithful

/-- The thread takes a frame of some time, and pushes it into the codec. -/
def frameIn (pts : Int64) (pushed : Bool) : List Label :=
  [.onInputBufferAvailable 0 (some true),
    .processInputBuffer (some (some { memory_ := true, meta_ := true, pts_ := pts })),
    .check, .take, .process true pushed]

/-- Two frames go in and come out, and the filter is stopped and started. -/
def twoFrames : List Label :=
  .start true true :: frameIn 40 true ++ frameIn 60 true ++
    [.onOutputBufferAvailable true (some ⟨true, true, 0⟩),
      .onOutputBufferAvailable true (some ⟨true, true, 0⟩),
      .stop, .check, .joined true true, .start true true]

theorem times_kept_two :
    Faithful (twoFrames.foldl (step .decoder) (prepared true)) ∧
      (twoFrames.foldl (step .decoder) (prepared true)).pushed.map Pushed.pts_ = [40, 60] :=
  ⟨times_kept true twoFrames (by decide +kernel) (by decide +kernel), by decide +kernel⟩

/-- The codec does not accept a frame, and after a stop and a start the next one comes out. -/
def refusedFrame : List Label :=
  .start true true :: frameIn 40 false ++ [.stop, .joined true true, .start true true] ++
    frameIn 60 true ++ [.onOutputBufferAvailable true (some ⟨true, true, 0⟩)]

/-- It comes out with the time of the frame before it. -/
theorem times_not_kept :
    Along (step .decoder) (fun s l => Emits s l = true) (prepared true) refusedFrame ∧
      (refusedFrame.foldl (step .decoder) (prepared true)).pushed = [⟨40, some 40, some 60⟩] ∧
      ¬Faithful (refusedFrame.foldl (step .decoder) (prepared true)) := by
  have hpushed : (refusedFrame.foldl (step .decoder) (prepared true)).pushed =
      [⟨40, some 40, some 60⟩] := by decide +kernel
  refine ⟨by decide +kernel, hpushed, fun h => ?_⟩
  have hsame := h ⟨40, some 40, some 60⟩ (hpushed ▸ List.mem_singleton_self _)
  exact absurd hsame (by decide)

end AudioCoder

end DHFwk
