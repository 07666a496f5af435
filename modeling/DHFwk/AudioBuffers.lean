import DHFwk.Runs
import DHFwk.AudioCoder
import DHFwk.AudioMeta

/-!
# What becomes of the buffers of the audio filters

A filter acquires buffers and has to release them, requests buffers of the next filter and has
to push them, and has to free what the codec reports. Once it is stopped nothing should be left
over.

The filters that decode and encode forget a frame that is not processed, be it for bad memory, an
error of the codec, or because the stop comes while the thread has it ; and they forget a report
of the codec on every early return. The filter of the stream forgets the buffer that it
requested for a message without metadata text. `buffers_conserved_iff` : nothing is left over
exactly if none of this happens.
-/

set_option linter.unusedSectionVars false

namespace DHFwk

open Runs

namespace AudioCoder

/-! ## Numbers that are out -/

def idOf : Option InBuffer → List ℕ
  | none => []
  | some b => [b.id]

def idsOf (queue : List (Option InBuffer)) : List ℕ :=
  queue.flatMap idOf

@[simp] theorem idsOf_cons (b : Option InBuffer) (queue : List (Option InBuffer)) :
    idsOf (b :: queue) = idOf b ++ idsOf queue := rfl

/-- What the thread has. -/
def heldIds : Worker → List ℕ
  | .holding audioData _ _ => idOf audioData
  | _ => []

/-- The frames that are to be released. -/
def inputIds (s : AudioCoder) : List ℕ :=
  idsOf s.inputDataBufferQueue_ ++ heldIds s.thread_

/-- Nothing is lost so far. -/
structure Settled (s : AudioCoder) : Prop where
  inputs : s.inputs.Settled s.inputIds
  outputs : s.outputs.Settled []
  indices : s.indices.Settled []

structure Sound (s : AudioCoder) : Prop where
  inputs : s.inputs.Sound s.inputIds
  outputs : s.outputs.Sound []
  indices : s.indices.Sound []

/-! ## Releasing -/

theorem keeps_releaseBuffer (b : Option InBuffer) (g : Ledger) (out : List ℕ) :
    g.Keeps (idOf b ++ out) (releaseBuffer b g) out := by
  cases b with
  | none => exact .refl g out
  | some b => exact .give g b.id out

theorem keeps_evict (queue : List (Option InBuffer)) (g : Ledger) (out : List ℕ) :
    g.Keeps (idsOf queue ++ out) (evict queue g).2 (idsOf (evict queue g).1 ++ out) := by
  induction queue generalizing g with
  | nil => exact .refl g _
  | cons front queue ih =>
    rw [evict]
    split_ifs
    · rw [idsOf_cons, List.append_assoc]
      exact (keeps_releaseBuffer front g _).trans (ih _)
    · exact .refl g _

theorem keeps_releaseAll (queue : List (Option InBuffer)) (g : Ledger) (out : List ℕ) :
    g.Keeps (idsOf queue ++ out)
      (queue.foldl (fun inputs buffer => releaseBuffer buffer inputs) g) out := by
  induction queue generalizing g with
  | nil => exact .refl g _
  | cons front queue ih =>
    rw [idsOf_cons, List.append_assoc]
    exact (keeps_releaseBuffer front g _).trans (ih _)

/-! ## One step -/

/-- A step that loses nothing. -/
structure Keeps (s s' : AudioCoder) : Prop where
  inputs : s.inputs.Keeps s.inputIds s'.inputs s'.inputIds
  outputs : s.outputs.Keeps [] s'.outputs []
  indices : s.indices.Keeps [] s'.indices []

/-- `s'` has the books of `s`, and the same frames. -/
theorem Keeps.of_eq {s s' : AudioCoder} (hinputs : s'.inputs = s.inputs)
    (hids : s'.inputIds = s.inputIds) (houtputs : s'.outputs = s.outputs)
    (hindices : s'.indices = s.indices) : Keeps s s' where
  inputs := by rw [hinputs, hids]; exact .refl _ _
  outputs := by rw [houtputs]; exact .refl _ _
  indices := by rw [hindices]; exact .refl _ _

theorem Keeps.settled_iff {s s' : AudioCoder} (h : Keeps s s') (hs : Sound s) :
    Sound s' ∧ (Settled s' ↔ Settled s) := by
  obtain ⟨hinputs, hin⟩ := h.inputs hs.inputs
  obtain ⟨houtputs, hout⟩ := h.outputs hs.outputs
  obtain ⟨hindices, hind⟩ := h.indices hs.indices
  refine ⟨⟨hinputs, houtputs, hindices⟩, ?_, ?_⟩
  · exact fun hset => ⟨hin.1 hset.inputs, hout.1 hset.outputs, hind.1 hset.indices⟩
  · exact fun hset => ⟨hin.2 hset.inputs, hout.2 hset.outputs, hind.2 hset.indices⟩

theorem keeps_processInputBuffer (acquired : Option (Option Frame)) (s : AudioCoder) :
    Keeps s (s.processInputBuffer acquired) := by
  cases acquired with
  | none => exact .of_eq rfl rfl rfl rfl
  | some buffer =>
    refine ⟨?_, ?_, ?_⟩
    · cases buffer with
      | none =>
        have h := keeps_evict s.inputDataBufferQueue_ s.inputs (heldIds s.thread_)
        simpa [processInputBuffer, inputIds, idsOf, idOf] using h
      | some frame =>
        -- The frame is acquired before the queue is cut.
        have hissue := Ledger.Keeps.issue s.inputs s.inputIds
        have hperm : (s.inputs.issued :: s.inputIds).Perm
            (idsOf s.inputDataBufferQueue_ ++ s.inputs.issued :: heldIds s.thread_) :=
          List.perm_middle.symm
        have hevict := keeps_evict s.inputDataBufferQueue_ s.inputs.issue
          (s.inputs.issued :: heldIds s.thread_)
        have h := (hissue.trans (.of_perm _ hperm)).trans hevict
        simpa [processInputBuffer, inputIds, idsOf, idOf] using h
    · cases buffer <;> exact .refl _ _
    · cases buffer <;> exact .refl _ _

theorem keeps_take (s : AudioCoder) : Keeps s s.take := by
  unfold take
  split
  · rename_i hthread
    split
    · rename_i audioData queue index codecMem bufs hqueue hbufs
      refine ⟨?_, .refl _ _, .refl _ _⟩
      refine .of_perm _ ?_
      simp only [inputIds, hqueue, hthread, heldIds, idsOf_cons, List.append_nil]
      exact List.perm_append_comm
    · refine .of_eq rfl ?_ rfl rfl
      simp only [inputIds, hthread, heldIds]
  · exact .of_eq rfl rfl rfl rfl

theorem keeps_check (s : AudioCoder) : Keeps s s.check := by
  unfold check
  split
  · rename_i hthread
    refine .of_eq rfl ?_ rfl rfl
    simp only [inputIds, hthread]
    split_ifs <;> rfl
  · exact .of_eq rfl rfl rfl rfl

theorem keeps_startAudioCodec (granted started : Bool) (s : AudioCoder) :
    Keeps s (s.startAudioCodec granted started) := by
  unfold startAudioCodec startInputThread
  split_ifs
  · exact .of_eq rfl rfl rfl rfl
  · split
    · rename_i hthread
      refine .of_eq rfl ?_ rfl rfl
      simp only [inputIds, hthread, heldIds]
    · exact .of_eq rfl rfl rfl rfl

theorem keeps_releaseAudioCodec (s : AudioCoder) : Keeps s s.releaseAudioCodec := by
  unfold releaseAudioCodec
  split_ifs
  · exact .of_eq rfl rfl rfl rfl
  · exact .of_eq rfl rfl rfl rfl
  · exact .of_eq rfl rfl rfl rfl

/-- A thread that has ended has nothing, and the queue is released. -/
theorem keeps_joinThread {s : AudioCoder} (h : s.thread_ = .none ∨ s.thread_ = .ended) :
    Keeps s s.joinThread := by
  have hheld : heldIds s.thread_ = [] := by
    rcases h with h | h <;> rw [h] <;> rfl
  refine ⟨?_, .refl _ _, .refl _ _⟩
  rw [inputIds, hheld]
  exact keeps_releaseAll s.inputDataBufferQueue_ s.inputs []

theorem Keeps.trans {s s' s'' : AudioCoder} (h : Keeps s s') (h' : Keeps s' s'') : Keeps s s'' :=
  ⟨h.inputs.trans h'.inputs, h.outputs.trans h'.outputs, h.indices.trans h'.indices⟩

theorem keeps_flushAndStop (flushed stopped : Bool) (s : AudioCoder) :
    Keeps s (s.flushAndStop flushed stopped) := by
  unfold flushAndStop
  split_ifs <;> exact .of_eq rfl rfl rfl rfl

theorem keeps_joined (flushed stopped : Bool) (s : AudioCoder) :
    Keeps s (s.joined flushed stopped) := by
  unfold joined
  split_ifs with hthread
  · exact .of_eq rfl rfl rfl rfl
  · have h : s.thread_ = .none ∨ s.thread_ = .ended := by tauto
    have hrest := (keeps_joinThread h).trans (keeps_flushAndStop flushed stopped _)
    split
    · exact .of_eq rfl rfl rfl rfl
    · exact hrest.trans (.of_eq rfl rfl rfl rfl)
    · exact hrest.trans (.of_eq rfl rfl rfl rfl)

/-! ## What is lost -/

/-- The frame that the thread has is processed, and what the codec reports is passed on. -/
def Handled (s : AudioCoder) : Label → Bool
  | .process copied pushed =>
    match s.thread_ with
    | .holding (some b) _ codecMem =>
      s.audioCodec_ && s.isRunning_ && codecMem && b.memory_ && b.meta_ && copied && pushed
    | _ => true
  | .onOutputBufferAvailable buffer request =>
    !(s.audioCodec_ && s.isRunning_) ||
      (buffer && s.outputProducer_ && request.any fun out => out.memory_ && out.meta_)
  | _ => true

/-- `s'` has the books and the queue of `s`. -/
structure SameBooks (s s' : AudioCoder) : Prop where
  inputs : s'.inputs = s.inputs
  queue : s'.inputDataBufferQueue_ = s.inputDataBufferQueue_
  outputs : s'.outputs = s.outputs
  indices : s'.indices = s.indices

theorem sameBooks_processData (coder : Coder) (audioData : Option InBuffer)
    (codecMem copied pushed : Bool) (s : AudioCoder) :
    SameBooks s (s.processData coder audioData codecMem copied pushed).2 := by
  obtain ⟨ptsMap, frameIn, inFlight, heq⟩ :=
    processData_eq coder audioData codecMem copied pushed s
  rw [heq]
  exact ⟨rfl, rfl, rfl, rfl⟩

/-- A frame is processed exactly under this condition. -/
theorem processData_eq_OK_iff (coder : Coder) (b : InBuffer) (codecMem copied pushed : Bool)
    (s : AudioCoder) :
    (s.processData coder (some b) codecMem copied pushed).1 = .OK ↔
      (s.audioCodec_ && s.isRunning_ && codecMem && b.memory_ && b.meta_ && copied && pushed) =
        true := by
  unfold processData
  dsimp only
  split_ifs <;> grind

/-- What `process` does to the books : the frame of the thread is out no more. -/
theorem process_books {s : AudioCoder} {audioData : Option InBuffer} {index : UInt32}
    {codecMem : Bool} (h : s.thread_ = .holding audioData index codecMem) (coder : Coder)
    (copied pushed : Bool) :
    (s.process coder copied pushed).inputIds = idsOf s.inputDataBufferQueue_ ∧
      (s.process coder copied pushed).inputs =
        (if (s.processData coder audioData codecMem copied pushed).1 = .OK then
          releaseBuffer audioData s.inputs
        else s.inputs) ∧
      (s.process coder copied pushed).outputs = s.outputs ∧
      (s.process coder copied pushed).indices = s.indices := by
  obtain ⟨hin, hqueue, hout, hind⟩ :=
    sameBooks_processData coder audioData codecMem copied pushed s
  simp only [process, h]
  split <;> rename_i s' hr <;> rw [hr] at hin hqueue hout hind ⊢ <;>
    simp only at hin hqueue hout hind
  all_goals
    refine ⟨?_, by simp [hin], hout, hind⟩
    simp [inputIds, heldIds, hqueue]

/-- The frame that the thread has is lost exactly if it is not processed. -/
theorem settled_process_iff {s : AudioCoder} (hs : Sound s) (coder : Coder)
    (copied pushed : Bool) :
    Sound (s.process coder copied pushed) ∧
      (Settled (s.process coder copied pushed) ↔
        Settled s ∧ Handled s (.process copied pushed) = true) := by
  cases hthread : s.thread_ with
  | holding audioData index codecMem =>
    obtain ⟨hids, hin, hout, hind⟩ := process_books hthread coder copied pushed
    have hheld : s.inputs.Keeps s.inputIds s.inputs
        (idOf audioData ++ idsOf s.inputDataBufferQueue_) := by
      rw [inputIds, hthread]
      exact .of_perm _ List.perm_append_comm
    have hrelease := hheld.trans (keeps_releaseBuffer audioData _ _)
    cases audioData with
    | none =>
      -- There is nothing to lose.
      have hk : Keeps s (s.process coder copied pushed) := by
        refine ⟨?_, ?_, ?_⟩
        · rw [hids, hin]
          split_ifs <;> exact hrelease
        · rw [hout]
          exact .refl _ _
        · rw [hind]
          exact .refl _ _
      have hdone := hk.settled_iff hs
      refine ⟨hdone.1, hdone.2.trans ?_⟩
      simp [Handled, hthread]
    | some b =>
      have hhandled : Handled s (.process copied pushed) = true ↔
          (s.processData coder (some b) codecMem copied pushed).1 = .OK := by
        rw [processData_eq_OK_iff]
        simp only [Handled, hthread]
      rw [hhandled]
      by_cases hstatus : (s.processData coder (some b) codecMem copied pushed).1 = .OK
      · rw [if_pos hstatus] at hin
        have hk : Keeps s (s.process coder copied pushed) := by
          refine ⟨?_, ?_, ?_⟩
          · rw [hids, hin]
            exact hrelease
          · rw [hout]
            exact .refl _ _
          · rw [hind]
            exact .refl _ _
        have hdone := hk.settled_iff hs
        exact ⟨hdone.1, hdone.2.trans (and_iff_left hstatus).symm⟩
      · rw [if_neg hstatus] at hin
        obtain ⟨hsound, hnot⟩ := (hheld.loses (.drop _ b.id _)) hs.inputs
        refine ⟨⟨?_, ?_, ?_⟩, iff_of_false (fun hset => hnot ?_) fun h => hstatus h.2⟩
        · rw [hids, hin]
          exact hsound
        · rw [hout]
          exact hs.outputs
        · rw [hind]
          exact hs.indices
        · rw [← hids, ← hin]
          exact hset.inputs
  | none | check | wait | ended =>
    have hsame : s.process coder copied pushed = s := by simp only [process, hthread]
    rw [hsame]
    simp [hs, Handled, hthread]

theorem sameBooks_stampOut (coder : Coder) (s : AudioCoder) :
    SameBooks s (s.stampOut coder).2 ∧ (s.stampOut coder).2.thread_ = s.thread_ := by
  obtain ⟨ptsMap, frameOut, heq⟩ := stampOut_eq coder s
  rw [heq]
  exact ⟨⟨rfl, rfl, rfl, rfl⟩, rfl⟩

/-- A step that forgets a report of the codec. -/
structure Forgets (s s' : AudioCoder) : Prop where
  inputs : s'.inputs = s.inputs
  ids : s'.inputIds = s.inputIds
  outputs : s.outputs.Sound [] → s'.outputs.Sound []
  indices : s'.indices = s.indices.issue

theorem Forgets.settled_iff {s s' : AudioCoder} (h : Forgets s s') (hs : Sound s) {p : Prop}
    (hp : ¬p) : Sound s' ∧ (Settled s' ↔ Settled s ∧ p) := by
  obtain ⟨hsound, hnot⟩ := Ledger.Loses.issue s.indices [] hs.indices
  refine ⟨⟨?_, h.outputs hs.outputs, ?_⟩, iff_of_false (fun hset => hnot ?_) fun hset => hp hset.2⟩
  · rw [h.inputs, h.ids]
    exact hs.inputs
  · rw [h.indices]
    exact hsound
  · rw [← h.indices]
    exact hset.indices

/-- A report is forgotten exactly if no buffer is pushed for it, or one without meta. -/
theorem settled_output_iff {s : AudioCoder} (hs : Sound s) (coder : Coder) (buffer : Bool)
    (request : Option OutBuffer) (source : Option Int64) :
    Sound (s.output coder buffer request source) ∧
      (Settled (s.output coder buffer request source) ↔
        Settled s ∧ Handled s (.onOutputBufferAvailable buffer request) = true) := by
  by_cases hrun : ¬s.audioCodec_ ∨ ¬s.isRunning_
  · have hhandled : Handled s (.onOutputBufferAvailable buffer request) = true := by
      simp only [Handled]
      grind
    rw [output, if_pos hrun]
    exact ⟨hs, (and_iff_left hhandled).symm⟩
  have hhandled : Handled s (.onOutputBufferAvailable buffer request) = true ↔
      ¬(¬buffer ∨ ¬s.outputProducer_) ∧ request.any fun out => out.memory_ && out.meta_ := by
    simp only [Handled]
    grind
  rw [output, if_neg hrun, hhandled]
  by_cases hbuffer : ¬buffer ∨ ¬s.outputProducer_
  · rw [if_pos hbuffer]
    refine Forgets.settled_iff ?_ hs fun h => h.1 hbuffer
    exact ⟨rfl, rfl, id, rfl⟩
  rw [if_neg hbuffer]
  cases request with
  | none =>
    refine Forgets.settled_iff ?_ hs (by simp)
    exact ⟨rfl, rfl, id, rfl⟩
  | some out =>
    dsimp only
    by_cases hmemory : ¬out.memory_
    · rw [if_pos hmemory]
      refine Forgets.settled_iff ?_ hs (by simp [hmemory])
      exact ⟨rfl, rfl, fun h => (Ledger.Loses.issue _ _ h).1, rfl⟩
    rw [if_neg hmemory]
    by_cases hmeta : ¬out.meta_
    · rw [if_pos hmeta]
      refine Forgets.settled_iff ?_ hs (by simp [hmeta])
      exact ⟨rfl, rfl, fun h => (Ledger.Keeps.issue_give _ _ h).1, rfl⟩
    rw [if_neg hmeta]
    obtain ⟨⟨hin, hqueue, hout, hind⟩, hthread⟩ := sameBooks_stampOut coder
      { s with indices := s.indices.issue, outputs := s.outputs.issue }
    generalize stampOut coder _ = r at *
    obtain ⟨⟨pts, special⟩, s'⟩ := r
    dsimp only at *
    have hk : Keeps s { s' with
        outputs := s'.outputs.give (s'.outputs.issued - 1)
        pushed := s'.pushed ++ [⟨pts, some special, source⟩]
        indices := s'.indices.give (s'.indices.issued - 1) } := by
      refine ⟨?_, ?_, ?_⟩
      · simp only [inputIds, hin, hqueue, hthread]
        exact .refl _ _
      · simp only [hout]
        exact .issue_give _ _
      · simp only [hind]
        exact .issue_give _ _
    have hdone := hk.settled_iff hs
    refine ⟨hdone.1, hdone.2.trans (and_iff_left ⟨hbuffer, ?_⟩).symm⟩
    simpa using And.intro hmemory hmeta

/-- A step of the filter loses nothing exactly if it is handled. -/
theorem settled_step_iff {s : AudioCoder} (hs : Sound s) (coder : Coder) (l : Label) :
    Sound (s.step coder l) ∧
      (Settled (s.step coder l) ↔
        Settled s ∧ (s.terminated = true ∨ Handled s l = true)) := by
  unfold step
  by_cases hterminated : s.terminated = true
  · rw [if_pos hterminated]
    exact ⟨hs, (and_iff_left (.inl hterminated)).symm⟩
  rw [if_neg hterminated]
  have hkeeps : ∀ {s'}, Keeps s s' → Handled s l = true →
      Sound s' ∧ (Settled s' ↔ Settled s ∧ (s.terminated = true ∨ Handled s l = true)) := by
    intro s' hk hhandled
    obtain ⟨hsound, hiff⟩ := hk.settled_iff hs
    exact ⟨hsound, hiff.trans (and_iff_left (.inr hhandled)).symm⟩
  rw [or_iff_right hterminated] at hkeeps ⊢
  cases l with
  | processInputBuffer acquired => exact hkeeps (keeps_processInputBuffer acquired s) rfl
  | onInputBufferAvailable index buffer =>
    refine hkeeps ?_ rfl
    cases buffer <;> exact .of_eq rfl rfl rfl rfl
  | onOutputBufferAvailable buffer request =>
    have hpop : Keeps s { s with inFlight := s.inFlight.tail } := .of_eq rfl rfl rfl rfl
    obtain ⟨hs', hiff⟩ := hpop.settled_iff hs
    obtain ⟨hsound, hout⟩ := settled_output_iff hs' coder buffer request s.inFlight.head?
    exact ⟨hsound, hout.trans (and_congr_left' hiff)⟩
  | onError => exact hkeeps (.of_eq rfl rfl rfl rfl) rfl
  | check => exact hkeeps (keeps_check s) rfl
  | take => exact hkeeps (keeps_take s) rfl
  | process copied pushed => exact settled_process_iff hs coder copied pushed
  | start granted started =>
    refine hkeeps ?_ rfl
    dsimp only
    split_ifs
    · exact .of_eq rfl rfl rfl rfl
    · exact keeps_startAudioCodec granted started s
  | stop =>
    refine hkeeps ?_ rfl
    dsimp only
    split_ifs <;> exact .of_eq rfl rfl rfl rfl
  | release =>
    refine hkeeps ?_ rfl
    dsimp only
    split_ifs
    · exact .of_eq rfl rfl rfl rfl
    · exact keeps_releaseAudioCodec s
  | joined flushed stopped => exact hkeeps (keeps_joined flushed stopped s) rfl

/-! ## Runs that end with a stop -/

theorem sound_prepared (outputProducer : Bool) : Sound (prepared outputProducer) :=
  ⟨Ledger.sound_empty, Ledger.sound_empty, Ledger.sound_empty⟩

theorem settled_prepared (outputProducer : Bool) : Settled (prepared outputProducer) :=
  ⟨rfl, rfl, rfl⟩

/-- A stop that can go on : the thread has ended. -/
structure Stops (s : AudioCoder) : Prop where
  alive : s.terminated = false
  call : s.call = some .stop
  thread : s.thread_ = .none ∨ s.thread_ = .ended

/-- Each buffer that was acquired is released once, each that was requested is pushed once, and
each report of the codec is freed once. -/
structure Conserved (s : AudioCoder) : Prop where
  inputs : s.inputs.given.Perm (List.range s.inputs.issued)
  outputs : s.outputs.given.Perm (List.range s.outputs.issued)
  indices : s.indices.given.Perm (List.range s.indices.issued)

theorem Sound.conserved_iff {s : AudioCoder} (h : Sound s) (hids : s.inputIds = []) :
    Conserved s ↔ Settled s := by
  have hin := h.inputs.perm_range
  have hout := h.outputs.perm_range
  have hind := h.indices.perm_range
  rw [hids, List.append_nil] at hin
  rw [List.append_nil] at hout hind
  constructor
  · intro hc
    refine ⟨?_, hout.2 hc.outputs, hind.2 hc.indices⟩
    rw [hids]
    exact hin.2 hc.inputs
  · intro hset
    refine ⟨hin.1 ?_, hout.1 hset.outputs, hind.1 hset.indices⟩
    rw [← hids]
    exact hset.inputs

/-- A step loses nothing, or nothing happens any more. -/
def Kept (s : AudioCoder) (l : Label) : Prop :=
  s.terminated = true ∨ Handled s l = true

instance (s : AudioCoder) (l : Label) : Decidable (Kept s l) :=
  inferInstanceAs (Decidable (_ ∨ _))

/-- After a stop nothing is left over exactly if no step of the run lost something. -/
theorem conserved_iff_along (coder : Coder) (outputProducer : Bool) (ls : List Label)
    (flushed stopped : Bool) (hstop : Stops (ls.foldl (step coder) (prepared outputProducer))) :
    Conserved ((ls.foldl (step coder) (prepared outputProducer)).step coder
        (.joined flushed stopped)) ↔
      Along (step coder) Kept (prepared outputProducer) ls := by
  set s := ls.foldl (step coder) (prepared outputProducer) with hs
  have hrun : Sound s := by
    rw [hs]
    exact foldl_invariant (P := Sound) (fun s l h => (settled_step_iff h coder l).1) ls
      (sound_prepared outputProducer)
  have hstep := settled_step_iff hrun coder (.joined flushed stopped)
  have hids : (s.step coder (.joined flushed stopped)).inputIds = [] := by
    have hthread : ¬(s.thread_ ≠ .none ∧ s.thread_ ≠ .ended) := by
      rcases hstop.thread with h | h <;> simp [h]
    simp only [step, hstop.alive, Bool.false_eq_true, if_false, joined, if_neg hthread, hstop.call]
    unfold flushAndStop
    split_ifs <;> rfl
  rw [hstep.1.conserved_iff hids, hstep.2, and_iff_left (.inr rfl), hs,
    foldl_iff_along (fun s l h => (settled_step_iff h coder l).1)
      (fun s l h => (settled_step_iff h coder l).2) ls (sound_prepared outputProducer)]
  exact and_iff_right (settled_prepared outputProducer)

end AudioCoder

/-! ## The filter of the stream -/

open AudioMeta

/-- The books of `AVTransBusInputFilter`. -/
structure BusInput where
  inputs : Ledger := {}
  outputs : Ledger := {}

namespace BusInput

/-- What happens next : a message of the stream, with what the producer answers, or an input
buffer. `memory` tells whether the buffer that is acquired has memory. -/
inductive Label
  | onStreamReceived (producer : Option Producer) (data : Option (List UInt8))
      (ext : Option String)
  | processInputBuffer (running : Bool) (acquired : Option (Option Bool))
      (producer : Option (Option AVBuffer))

/-- The buffer that `StreamDataEnqueue` requests for a message. -/
def requested (cJSON : Json.Codec) (producer : Option Producer) (data : Option (List UInt8))
    (ext : Option String) : Option AVBuffer := do
  let _ ← acceptMessage cJSON ext
  let producer ← producer
  let data ← data
  producer.requestBuffer data.length

/-- `ProcessAndSendBuffer` : the buffer that is requested, if any, and whether it is pushed. -/
def processAndSendBuffer (memory : Option Bool) (producer : Option (Option AVBuffer))
    (outputs : Ledger) : Ledger :=
  if memory ≠ some true then outputs
  else
    match producer with
    | none => outputs
    | some none => outputs
    | some (some outBuffer) =>
      if outBuffer.memory_.isNone then outputs.issue
      else outputs.issue.give (outputs.issue.issued - 1)

/-- One step. `OnStreamReceived` pushes what it requests, or does not. -/
def step (cJSON : Json.Codec) (s : BusInput) : Label → BusInput
  | .onStreamReceived producer data ext =>
    { s with
      outputs :=
        (AudioMeta.onStreamReceived cJSON producer data ext).foldl
          (fun outputs _ => outputs.give (outputs.issued - 1))
          (if (requested cJSON producer data ext).isSome then s.outputs.issue else s.outputs) }
  | .processInputBuffer running acquired producer =>
    if ¬running then s
    else
      match acquired with
      | none => s
      | some none => s
      | some (some memory) =>
        { s with
          inputs := s.inputs.issue.give (s.inputs.issue.issued - 1)
          outputs := processAndSendBuffer (some memory) producer s.outputs }

/-- A buffer that is requested has memory, and the message has its metadata text if there is a
meta for it. -/
def Handled (cJSON : Json.Codec) : Label → Prop
  | .onStreamReceived producer data ext =>
    ∀ b, requested cJSON producer data ext = some b →
      b.memory_.isSome ∧ (b.meta_.isSome → (paramOf cJSON ext).isSome)
  | .processInputBuffer running acquired producer =>
    running = true → acquired = some (some true) →
      ∀ b, producer = some (some b) → b.memory_.isSome

structure Sound (s : BusInput) : Prop where
  inputs : s.inputs.Sound []
  outputs : s.outputs.Sound []

structure Settled (s : BusInput) : Prop where
  inputs : s.inputs.Settled []
  outputs : s.outputs.Settled []

/-- Each buffer that was acquired is released once, and each that was requested pushed once. -/
structure Conserved (s : BusInput) : Prop where
  inputs : s.inputs.given.Perm (List.range s.inputs.issued)
  outputs : s.outputs.given.Perm (List.range s.outputs.issued)

theorem Sound.conserved_iff {s : BusInput} (h : Sound s) : Conserved s ↔ Settled s := by
  have hin := h.inputs.perm_range
  have hout := h.outputs.perm_range
  rw [List.append_nil] at hin hout
  exact ⟨fun hc => ⟨hin.2 hc.inputs, hout.2 hc.outputs⟩,
    fun hs => ⟨hin.1 hs.inputs, hout.1 hs.outputs⟩⟩

variable {cJSON : Json.Codec}

/-- What a message pushes : the buffer that is requested, under this condition. -/
theorem length_onStreamReceived (producer : Option Producer) (data : Option (List UInt8))
    (ext : Option String) :
    (requested cJSON producer data ext = none ∧
        AudioMeta.onStreamReceived cJSON producer data ext = []) ∨
      ∃ b, requested cJSON producer data ext = some b ∧
        ((b.memory_.isSome ∧ (b.meta_.isSome → (paramOf cJSON ext).isSome)) ∧
            (AudioMeta.onStreamReceived cJSON producer data ext).length = 1 ∨
          ¬(b.memory_.isSome ∧ (b.meta_.isSome → (paramOf cJSON ext).isSome)) ∧
            AudioMeta.onStreamReceived cJSON producer data ext = []) := by
  unfold requested AudioMeta.onStreamReceived paramOf
  cases acceptMessage cJSON ext with
  | none => exact .inl ⟨rfl, rfl⟩
  | some resMsg =>
    unfold streamDataEnqueue
    cases producer with
    | none => exact .inl ⟨rfl, rfl⟩
    | some p =>
      cases data with
      | none => exact .inl ⟨rfl, rfl⟩
      | some d =>
        dsimp only [Option.bind_eq_bind, Option.bind_some]
        cases p.requestBuffer d.length with
        | none => exact .inl ⟨rfl, rfl⟩
        | some b =>
          refine .inr ⟨b, rfl, ?_⟩
          dsimp only
          cases b.memory_ with
          | none => exact .inr ⟨by simp, rfl⟩
          | some memory =>
            cases b.meta_ with
            | none => exact .inl ⟨by simp, rfl⟩
            | some m =>
              cases resMsg.getObjectItem AVT_DATA_PARAM with
              | none => exact .inr ⟨by simp, rfl⟩
              | some item => cases item <;> simp

/-- A handled step that keeps both ledgers loses nothing. -/
theorem Sound.keeps_iff {s : BusInput} (hs : Sound s) {g g' : Ledger} {l : Label}
    (hg : s.inputs.Keeps [] g []) (hg' : s.outputs.Keeps [] g' []) (hhandled : Handled cJSON l) :
    Sound ⟨g, g'⟩ ∧ (Settled ⟨g, g'⟩ ↔ Settled s ∧ Handled cJSON l) := by
  obtain ⟨hin, hiff⟩ := hg hs.inputs
  obtain ⟨hout, hiff'⟩ := hg' hs.outputs
  refine ⟨⟨hin, hout⟩, fun hset => ⟨⟨hiff.1 hset.inputs, hiff'.1 hset.outputs⟩, hhandled⟩, ?_⟩
  exact fun hset => ⟨hiff.2 hset.1.inputs, hiff'.2 hset.1.outputs⟩

/-- A step that is not handled loses the buffer that was requested. -/
theorem Sound.loses_iff {s : BusInput} (hs : Sound s) {g : Ledger} {l : Label}
    (hg : s.inputs.Keeps [] g []) (hhandled : ¬Handled cJSON l) :
    Sound ⟨g, s.outputs.issue⟩ ∧
      (Settled ⟨g, s.outputs.issue⟩ ↔ Settled s ∧ Handled cJSON l) := by
  obtain ⟨hsound, hnot⟩ := Ledger.Loses.issue s.outputs [] hs.outputs
  exact ⟨⟨(hg hs.inputs).1, hsound⟩, iff_of_false (fun hset => hnot hset.outputs)
    fun hset => hhandled hset.2⟩

theorem settled_onStreamReceived_iff {s : BusInput} (hs : Sound s) (producer : Option Producer)
    (data : Option (List UInt8)) (ext : Option String) :
    Sound (s.step cJSON (.onStreamReceived producer data ext)) ∧
      (Settled (s.step cJSON (.onStreamReceived producer data ext)) ↔
        Settled s ∧ Handled cJSON (.onStreamReceived producer data ext)) := by
  rcases @length_onStreamReceived cJSON producer data ext with
    ⟨hnone, hpushed⟩ | ⟨b, hb, ⟨hok, hpushed⟩ | ⟨hbad, hpushed⟩⟩
  · have hhandled : Handled cJSON (.onStreamReceived producer data ext) := fun b hb => by
      rw [hnone] at hb
      cases hb
    simp only [step, hnone, hpushed, List.foldl_nil, Option.isSome_none, Bool.false_eq_true,
      if_false]
    exact hs.keeps_iff (.refl _ _) (.refl _ _) hhandled
  · obtain ⟨out, hpushed⟩ := List.length_eq_one_iff.1 hpushed
    have hhandled : Handled cJSON (.onStreamReceived producer data ext) := fun b' hb' =>
      Option.some.inj (hb.symm.trans hb') ▸ hok
    simp only [step, hb, hpushed, List.foldl_cons, List.foldl_nil, Option.isSome_some, if_true]
    exact hs.keeps_iff (.refl _ _) (.issue_give _ _) hhandled
  · simp only [step, hb, hpushed, List.foldl_nil, Option.isSome_some, if_true]
    exact hs.loses_iff (.refl _ _) fun hhandled => hbad (hhandled b hb)

/-- A step of the filter loses nothing exactly if it is handled. -/
theorem settled_step_iff {s : BusInput} (hs : Sound s) (l : Label) :
    Sound (s.step cJSON l) ∧ (Settled (s.step cJSON l) ↔ Settled s ∧ Handled cJSON l) := by
  cases l with
  | onStreamReceived producer data ext => exact settled_onStreamReceived_iff hs producer data ext
  | processInputBuffer running acquired producer =>
    cases running with
    | false =>
      simp only [step, Bool.false_eq_true, not_false_eq_true, if_true]
      exact hs.keeps_iff (.refl _ _) (.refl _ _) fun h => absurd h (by decide)
    | true =>
      simp only [step, not_true_eq_false, if_false]
      cases acquired with
      | none => exact hs.keeps_iff (.refl _ _) (.refl _ _) fun _ h => by cases h
      | some buffer =>
        cases buffer with
        | none => exact hs.keeps_iff (.refl _ _) (.refl _ _) fun _ h => by cases h
        | some memory =>
          unfold processAndSendBuffer
          cases memory with
          | false => exact hs.keeps_iff (.issue_give _ _) (.refl _ _) fun _ h => by cases h
          | true =>
            simp only [ne_eq, not_true_eq_false, if_false]
            cases producer with
            | none => exact hs.keeps_iff (.issue_give _ _) (.refl _ _) fun _ _ b h => by cases h
            | some request =>
              cases request with
              | none => exact hs.keeps_iff (.issue_give _ _) (.refl _ _) fun _ _ b h => by cases h
              | some b =>
                cases hmemory : b.memory_ with
                | none =>
                  simp only [hmemory, Option.isNone_none, if_true]
                  refine hs.loses_iff (.issue_give _ _) fun h => ?_
                  have hsome := h rfl rfl b rfl
                  simp [hmemory] at hsome
                | some m =>
                  simp only [hmemory, Option.isNone_some, Bool.false_eq_true, if_false]
                  refine hs.keeps_iff (.issue_give _ _) (.issue_give _ _) fun _ _ b' h => ?_
                  obtain rfl := Option.some.inj (Option.some.inj h)
                  simp [hmemory]

theorem conserved_iff_along (ls : List Label) :
    Conserved (ls.foldl (step cJSON) {}) ↔
      Along (step cJSON) (fun _ l => Handled cJSON l) {} ls := by
  have hempty : Sound {} := ⟨Ledger.sound_empty, Ledger.sound_empty⟩
  have hrun : Sound (ls.foldl (step cJSON) {}) :=
    foldl_invariant (P := Sound) (fun s l h => (settled_step_iff h l).1) ls hempty
  rw [hrun.conserved_iff, foldl_iff_along (fun s l h => (settled_step_iff h l).1)
    (fun s l h => (settled_step_iff h l).2) ls hempty]
  exact and_iff_right ⟨rfl, rfl⟩

end BusInput

/-- Once a filter that decodes or encodes is stopped, and at any time in the filter of the stream,
all buffers are given back and all reports are freed exactly if each frame that the thread had was
processed, each report was passed on, and each buffer that was requested could be filled. -/
theorem buffers_conserved_iff (coder : Coder) (outputProducer : Bool)
    (ls : List AudioCoder.Label) (flushed stopped : Bool)
    (hstop : AudioCoder.Stops
      (ls.foldl (AudioCoder.step coder) (AudioCoder.prepared outputProducer)))
    (cJSON : Json.Codec) (messages : List BusInput.Label) :
    (AudioCoder.Conserved
          ((ls.foldl (AudioCoder.step coder) (AudioCoder.prepared outputProducer)).step coder
            (.joined flushed stopped)) ↔
        Along (AudioCoder.step coder) AudioCoder.Kept (AudioCoder.prepared outputProducer) ls) ∧
      (BusInput.Conserved (messages.foldl (BusInput.step cJSON) {}) ↔
        Along (BusInput.step cJSON) (fun _ l => BusInput.Handled cJSON l) {} messages) :=
  ⟨AudioCoder.conserved_iff_along coder outputProducer ls flushed stopped hstop,
    BusInput.conserved_iff_along messages⟩

namespace AudioCoder

/-- A frame is decoded, and the filter stopped. -/
def oneFrame (meta_ : Bool) : List Label :=
  [.start true true, .onInputBufferAvailable 0 (some true),
    .processInputBuffer (some (some { memory_ := true, meta_ := meta_, pts_ := 40 })),
    .check, .take, .process true true, .onOutputBufferAvailable true (some ⟨true, true, 0⟩),
    .stop, .check]

end AudioCoder

/-- A good frame, and a message that is not parsed. -/
theorem buffers_conserved_one :
    (AudioCoder.Conserved
          (((AudioCoder.oneFrame true).foldl (AudioCoder.step .decoder)
            (AudioCoder.prepared true)).step .decoder (.joined true true)) ↔
        Along (AudioCoder.step .decoder) AudioCoder.Kept (AudioCoder.prepared true)
          (AudioCoder.oneFrame true)) ∧
      (BusInput.Conserved
          ([.onStreamReceived (some plainProducer) (some [1, 2]) (some "x")].foldl
            (BusInput.step earlyCodec) {}) ↔
        Along (BusInput.step earlyCodec) (fun _ l => BusInput.Handled earlyCodec l) {}
          [.onStreamReceived (some plainProducer) (some [1, 2]) (some "x")]) :=
  buffers_conserved_iff .decoder true (AudioCoder.oneFrame true) true true
    ⟨by decide +kernel, by decide +kernel, by decide +kernel⟩ earlyCodec
    [.onStreamReceived (some plainProducer) (some [1, 2]) (some "x")]

/-- cJSON on a message without metadata. -/
def bareCodec : Json.Codec where
  printUnformatted _ := ""
  parse s :=
    if s = "\x7b\"avtrans_data_meta_type\":0\x7d" then
      some (.object [(AVT_DATA_META_TYPE, .number 0)])
    else none

/-- A frame without meta is not released, and the buffer that is requested for a message without
metadata is not pushed. -/
theorem buffers_not_conserved :
    AudioCoder.Stops ((AudioCoder.oneFrame false).foldl (AudioCoder.step .decoder)
        (AudioCoder.prepared true)) ∧
      ¬AudioCoder.Conserved
        (((AudioCoder.oneFrame false).foldl (AudioCoder.step .decoder)
          (AudioCoder.prepared true)).step .decoder (.joined true true)) ∧
      ¬BusInput.Conserved
        ([.onStreamReceived (some plainProducer) (some [1, 2])
          (some "\x7b\"avtrans_data_meta_type\":0\x7d")].foldl (BusInput.step bareCodec) {}) := by
  refine ⟨⟨?_, ?_, ?_⟩, fun h => ?_, fun h => ?_⟩
  · decide +kernel
  · decide +kernel
  · decide +kernel
  · exact absurd h.inputs (by decide +kernel)
  · exact absurd h.outputs (by decide +kernel)

end DHFwk
