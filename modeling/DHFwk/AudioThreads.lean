import DHFwk.Runs
import DHFwk.AudioCoder

/-!
# The thread of an audio filter, and its codec

A start makes a new thread, whether or not the last one is joined. A release stops the thread
before it destroys the codec, unless `isStoped_` is set ; a stop that succeeds sets it, and no
start takes it back.

So the codec outlives its thread exactly in runs that start only where the last thread is joined,
and that do not release after a stop and a new start (`codec_outlives_iff`).
-/

set_option linter.unusedSectionVars false

namespace DHFwk

open Runs

namespace AudioCoder

/-- No thread was assigned over one that is not joined, no codec was destroyed before its thread
was joined, and once the codec is released there is no thread to join. -/
structure Safe (s : AudioCoder) : Prop where
  assigned : s.terminated = false
  destroyed : s.destroyedEarly = false
  released : s.audioCodec_ = false → s.thread_ = .none

/-- A start, and a release that does not stop the thread, find no thread to join. -/
def InTurn (s : AudioCoder) : Label → Bool
  | .start granted started =>
    s.call.isNone && s.audioCodec_ && granted && started → s.thread_ = .none
  | .release => s.call.isNone && s.audioCodec_ && s.isStoped_ → s.thread_ = .none
  | _ => true

/-! ## What a step leaves -/

/-- A step has the codec, the thread if there is none, and what was done before. -/
structure Leaves (s s' : AudioCoder) : Prop where
  terminated : s'.terminated = s.terminated
  destroyedEarly : s'.destroyedEarly = s.destroyedEarly
  audioCodec : s'.audioCodec_ = s.audioCodec_
  thread : s.thread_ = .none → s'.thread_ = .none

theorem Leaves.safe {s s' : AudioCoder} (h : Leaves s s') (hs : Safe s) : Safe s' where
  assigned := h.terminated.trans hs.assigned
  destroyed := h.destroyedEarly.trans hs.destroyed
  released hcodec := h.thread (hs.released (h.audioCodec.symm.trans hcodec))

/-- A thread that processes a frame is there before and after. -/
theorem leaves_process (coder : Coder) (copied pushed : Bool) (s : AudioCoder) :
    Leaves s (s.process coder copied pushed) := by
  cases hthread : s.thread_ with
  | holding audioData index codecMem =>
    obtain ⟨ptsMap, frameIn, inFlight, heq⟩ :=
      processData_eq coder audioData codecMem copied pushed s
    obtain ⟨status, s', hr⟩ :
        ∃ status s', s.processData coder audioData codecMem copied pushed = (status, s') :=
      ⟨_, _, rfl⟩
    rw [hr] at heq
    dsimp only at heq
    subst heq
    simp only [process, hthread, hr]
    cases status <;> exact ⟨rfl, rfl, rfl, fun h => by simp [hthread] at h⟩
  | none | check | wait | ended =>
    simp only [process, hthread]
    exact ⟨rfl, rfl, rfl, id⟩

theorem leaves_check (s : AudioCoder) : Leaves s s.check := by
  unfold check
  split
  · rename_i hthread
    exact ⟨rfl, rfl, rfl, fun h => by simp [hthread] at h⟩
  · exact ⟨rfl, rfl, rfl, id⟩

theorem leaves_take (s : AudioCoder) : Leaves s s.take := by
  unfold take
  split
  · rename_i hthread
    split <;> exact ⟨rfl, rfl, rfl, fun h => by simp [hthread] at h⟩
  · exact ⟨rfl, rfl, rfl, id⟩

theorem leaves_output (coder : Coder) (buffer : Bool) (request : Option OutBuffer)
    (source : Option Int64) (s : AudioCoder) :
    Leaves s (s.output coder buffer request source) := by
  cases request with
  | none =>
    unfold output
    dsimp only
    split_ifs <;> exact ⟨rfl, rfl, rfl, id⟩
  | some out =>
    obtain ⟨ptsMap, frameOut, heq⟩ := stampOut_eq coder
      { s with indices := s.indices.issue, outputs := s.outputs.issue }
    unfold output
    dsimp only
    rw [heq]
    split_ifs <;> exact ⟨rfl, rfl, rfl, id⟩

theorem leaves_processInputBuffer (acquired : Option (Option Frame)) (s : AudioCoder) :
    Leaves s (s.processInputBuffer acquired) := by
  cases acquired with
  | none => exact ⟨rfl, rfl, rfl, id⟩
  | some buffer => cases buffer <;> exact ⟨rfl, rfl, rfl, id⟩

theorem leaves_flushAndStop (flushed stopped : Bool) (s : AudioCoder) :
    Leaves s (s.flushAndStop flushed stopped) := by
  unfold flushAndStop
  split_ifs <;> exact ⟨rfl, rfl, rfl, id⟩

/-! ## What a step changes -/

/-- The codec is destroyed safely exactly if there is no thread to join. -/
theorem safe_destroy_iff {s : AudioCoder} (hs : Safe s) :
    Safe s.destroy ↔ s.thread_ = .none := by
  constructor
  · exact fun h => h.released rfl
  · intro hthread
    refine ⟨hs.assigned, ?_, fun _ => hthread⟩
    simp [destroy, hs.destroyed, hthread]

theorem safe_joined {s : AudioCoder} (hs : Safe s) (flushed stopped : Bool) :
    Safe (s.joined flushed stopped) := by
  have hjoin : Safe s.joinThread := ⟨hs.assigned, hs.destroyed, fun _ => rfl⟩
  have hleaves := leaves_flushAndStop flushed stopped s.joinThread
  have hrest := hleaves.safe hjoin
  unfold joined
  split_ifs
  · exact hs
  · split
    · exact hs
    · exact ⟨hrest.assigned, hrest.destroyed, hrest.released⟩
    · exact (safe_destroy_iff hrest).2 (hleaves.thread rfl)

theorem safe_start_iff {s : AudioCoder} (hs : Safe s) (granted started : Bool) :
    Safe (s.startAudioCodec granted started) ↔
      (s.audioCodec_ && granted && started → s.thread_ = .none) := by
  unfold startAudioCodec
  split_ifs with hstart
  · refine iff_of_true hs fun h => absurd h ?_
    grind
  · have hgo : (s.audioCodec_ && granted && started) = true := by grind
    unfold startInputThread
    split
    · rename_i hthread
      have hcodec : s.audioCodec_ = true := by grind
      refine iff_of_true ⟨hs.assigned, hs.destroyed, fun hnone => ?_⟩ fun _ => hthread
      exact Bool.noConfusion (hcodec.symm.trans hnone)
    · rename_i hthread
      exact iff_of_false (fun h => Bool.noConfusion h.assigned) fun h => hthread (h hgo)

theorem safe_release_iff {s : AudioCoder} (hs : Safe s) :
    Safe s.releaseAudioCodec ↔ (s.audioCodec_ && s.isStoped_ → s.thread_ = .none) := by
  unfold releaseAudioCodec
  by_cases hcodec : ¬s.audioCodec_
  · rw [if_pos hcodec]
    exact iff_of_true hs fun h => absurd h (by grind)
  rw [if_neg hcodec]
  by_cases hstoped : s.isStoped_ = true
  · rw [if_pos hstoped, safe_destroy_iff hs]
    exact ⟨fun h _ => h, fun h => h (by grind)⟩
  · rw [if_neg hstoped]
    exact iff_of_true ⟨hs.assigned, hs.destroyed, hs.released⟩ fun h => absurd h (by grind)

/-- A step is safe exactly if it is in turn. -/
theorem safe_step_iff {s : AudioCoder} (hs : Safe s) (coder : Coder) (l : Label) :
    Safe (s.step coder l) ↔ InTurn s l = true := by
  unfold step
  rw [if_neg (by simp [hs.assigned])]
  cases l with
  | processInputBuffer acquired =>
    exact iff_of_true ((leaves_processInputBuffer acquired s).safe hs) rfl
  | onInputBufferAvailable index buffer =>
    refine iff_of_true (Leaves.safe ?_ hs) rfl
    cases buffer <;> exact ⟨rfl, rfl, rfl, id⟩
  | onOutputBufferAvailable buffer request =>
    have hpop : Safe { s with inFlight := s.inFlight.tail } :=
      ⟨hs.assigned, hs.destroyed, hs.released⟩
    exact iff_of_true ((leaves_output coder buffer request _ _).safe hpop) rfl
  | onError => exact iff_of_true ⟨hs.assigned, hs.destroyed, hs.released⟩ rfl
  | check => exact iff_of_true ((leaves_check s).safe hs) rfl
  | take => exact iff_of_true ((leaves_take s).safe hs) rfl
  | process copied pushed => exact iff_of_true ((leaves_process coder copied pushed s).safe hs) rfl
  | start granted started =>
    dsimp only
    cases hcall : s.call with
    | none =>
      simp only [InTurn, hcall, Option.isNone_none, Bool.true_and, decide_eq_true_iff]
      exact safe_start_iff hs granted started
    | some call => exact iff_of_true hs (by simp [InTurn, hcall])
  | stop =>
    dsimp only
    split_ifs
    · exact iff_of_true hs rfl
    · exact iff_of_true ⟨hs.assigned, hs.destroyed, hs.released⟩ rfl
  | release =>
    dsimp only
    cases hcall : s.call with
    | none =>
      simp only [InTurn, hcall, Option.isNone_none, Bool.true_and, decide_eq_true_iff]
      exact safe_release_iff hs
    | some call => exact iff_of_true hs (by simp [InTurn, hcall])
  | joined flushed stopped => exact iff_of_true (safe_joined hs flushed stopped) rfl

/-- In a run of the filter the codec outlives its thread exactly if each start, and each release
that does not stop the thread, finds no thread to join. -/
theorem codec_outlives_iff (coder : Coder) (outputProducer : Bool) (ls : List Label) :
    Along (step coder) (fun s l => InTurn s l = true) (prepared outputProducer) ls ↔
      ∀ pre post, ls = pre ++ post →
        Safe (pre.foldl (step coder) (prepared outputProducer)) := by
  have hsafe : Safe (prepared outputProducer) :=
    ⟨rfl, rfl, fun h => Bool.noConfusion h⟩
  exact along_iff (J := fun _ => True) (P := Safe) (fun _ _ _ => trivial)
    (fun s l _ hs => safe_step_iff hs coder l) ls trivial hsafe

/-- A filter that was stopped is started again and released. -/
def restarted : List Label :=
  [.start true true, .stop, .check, .joined true true, .start true true, .release]

/-- A second start assigns over the thread, and a release after a stop and a start destroys the
codec of a thread that runs. -/
theorem codec_not_outlives :
    ([.start true true, .start true true].foldl (step .decoder) {}).terminated = true ∧
      (restarted.foldl (step .decoder) {}).destroyedEarly = true ∧
      (restarted.foldl (step .decoder) {}).thread_ = .check := by
  decide +kernel

end AudioCoder

end DHFwk
