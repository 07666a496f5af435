import DHFwk.OutputController

/-!
# How long a frame waits for the clock

Before a frame is posted, the output controller sleeps. It takes the time to the next frame
(`CalSleepTime`) and corrects it by the offset of the frame to the clock : to the clock of the
audio stream in the mode `SYNC`, if the offset leaves the band from `-trackClockThre_` to
`waitClockThre_`. Then it cuts the sleep to `sleepThre_`.

A frame that is early comes back into the band. For one that is late the threshold has the wrong
sign : the correction goes through the band, and out of it on the other side unless the band has
room for three times `trackClockThre_` (`syncsInBand_iff`).
-/

set_option linter.unusedSectionVars false

namespace DHFwk

abbrev INVALID_INTERVAL : ℤ := 0

/-- What the statistician knows of the last frames. -/
structure TimeStatistician where
  timeStampInterval_ : ℤ
  averTimeStampInterval_ : ℤ

/-- The times of the output controller, exact integers. -/
structure SleepControl where
  mode_ : ControlMode := .SMOOTH
  statistician_ : Option TimeStatistician := none
  isTimeInit_ : Bool := false
  isBaselineInit_ : Bool := false
  bufferTime_ : UInt32 := 0
  waitClockThre_ : ℤ := 0
  trackClockThre_ : ℤ := 0
  adjustSleepFactor_ : Float32 := 0
  waitClockFactor_ : Float32 := 0
  trackClockFactor_ : Float32 := 0
  enterTime_ : ℤ := 0
  lastEnterTime_ : ℤ := 0
  lastTimeStamp_ : ℤ := 0
  leaveTime_ : ℤ := 0
  timeStampBaseline_ : ℤ := 0
  clockTime_ : ℤ := 0
  clockBaseline_ : ℤ := 0
  delta_ : ℤ := 0
  sleep_ : ℤ := 0
  sleepThre_ : ℤ := 0
  devClockDiff_ : ℤ := 0
  aFront_ : ℤ := 0
  aBack_ : ℤ := 0
  vFront_ : ℤ := 0
  vBack_ : ℤ := 0

namespace SleepControl

/-! ## The code -/

/-- `InitTime`. -/
def initTime (enterTime timeStamp : ℤ) (s : SleepControl) : SleepControl :=
  { s with
    delta_ := 0
    sleep_ := 0
    lastEnterTime_ := enterTime
    lastTimeStamp_ := timeStamp
    leaveTime_ := enterTime
    isTimeInit_ := true }

/-- `InitBaseline`. -/
def initBaseline (timeStampBaseline clockBaseline : ℤ) (s : SleepControl) : SleepControl :=
  { s with
    timeStampBaseline_ := timeStampBaseline
    clockBaseline_ := clockBaseline + s.bufferTime_.toNat
    isBaselineInit_ := true }

/-- `RecordTime`, which looks at the time again. -/
def recordTime (enterTime timeStamp leaveTime : ℤ) (s : SleepControl) : SleepControl :=
  { s with
    lastEnterTime_ := enterTime
    lastTimeStamp_ := timeStamp
    leaveTime_ := leaveTime
    isTimeInit_ := true }

/-- An integer times a `float`, as an integer again. -/
def scale (n : ℤ) (factor : Float32) : ℤ := (Float32.ofInt n * factor).toInt64.toInt

/-- `CalSleepTime`. -/
def calSleepTime (timeStamp : ℤ) (s : SleepControl) : SleepControl :=
  let interval := timeStamp - s.lastTimeStamp_
  let elapse := s.enterTime_ - s.leaveTime_
  let render := s.enterTime_ - s.lastEnterTime_
  let delta := render - s.sleep_ - elapse
  let s := { s with delta_ := s.delta_ + delta, sleep_ := interval - elapse }
  if interval = INVALID_INTERVAL then s
  else
    let adjustThre := scale interval s.adjustSleepFactor_
    if s.delta_ > adjustThre ∧ s.sleep_ > 0 then
      let sleep := s.sleep_ - adjustThre
      { s with delta_ := s.delta_ - (if sleep < 0 then s.sleep_ else adjustThre), sleep_ := sleep }
    else if s.delta_ < -adjustThre then { s with sleep_ := s.sleep_ + s.delta_, delta_ := 0 }
    else s

/-- The time of a frame at the begin of its sleep, `vcts`. -/
def vcts (data : Buffer) (s : SleepControl) : ℤ :=
  if s.sleep_ > 0 then data.pts.toInt - s.sleep_ else data.pts.toInt

/-- `HandleSmoothTime`. -/
def handleSmoothTime (data : Buffer) (s : SleepControl) : SleepControl :=
  match s.statistician_ with
  | none => s
  | some statistician =>
    if statistician.timeStampInterval_ = INVALID_INTERVAL then s
    else if statistician.averTimeStampInterval_ = INVALID_INTERVAL then s
    else
      let waitClockThre := scale statistician.averTimeStampInterval_ s.waitClockFactor_
      let trackClockThre := scale statistician.averTimeStampInterval_ s.trackClockFactor_
      let offset := s.vcts data - s.timeStampBaseline_ - (s.clockTime_ - s.clockBaseline_)
      if offset > waitClockThre ∨ offset < -trackClockThre then
        { s with sleep_ := s.sleep_ + offset }
      else s

/-- How far a frame is before the clock, the `offset` of `HandleSyncTime`. -/
def offset (data : Buffer) (s : SleepControl) : ℤ :=
  (s.vcts data - s.vFront_ - s.vBack_) - (s.clockTime_ - s.aFront_ - s.aBack_) - s.devClockDiff_

/-- `HandleSyncTime`. -/
def handleSyncTime (data : Option Buffer) (s : SleepControl) : SleepControl :=
  match data with
  | none => s
  | some data =>
    match data.bufferMeta with
    | none => s
    | some _ =>
      let offset := s.offset data
      let append := (s.trackClockThre_ + s.waitClockThre_).tdiv 2
      if offset > s.waitClockThre_ then
        { s with sleep_ := s.sleep_ + (offset - s.waitClockThre_ + append) }
      else if offset < -s.trackClockThre_ then
        { s with sleep_ := s.sleep_ + (offset - s.trackClockThre_ - append) }
      else s

/-- The sleep, not above `sleepThre_` and then not below 0. -/
def clampSleep (s : SleepControl) : SleepControl :=
  let s := if s.sleep_ > s.sleepThre_ then { s with sleep_ := s.sleepThre_ } else s
  if s.sleep_ < 0 then { s with sleep_ := 0 } else s

/-- `SyncClock`, without the wait itself. The frames that it is called with are not null. -/
def syncClock (data : Option Buffer) (s : SleepControl) : SleepControl :=
  match s.mode_ with
  | .SMOOTH => ((data.map s.handleSmoothTime).getD s).clampSleep
  | .SYNC => (s.handleSyncTime data).clampSleep

/-- A frame that is controlled : the time at its begin and at its end, the clock that was read, and
what the statistician makes of it. -/
structure Frame where
  data : Buffer
  enterTime : ℤ
  leaveTime : ℤ
  clockTime : ℤ
  statistician : Option TimeStatistician

/-- What `ControlOutput` does with the times of a frame that it holds back. -/
def controlOutput (frame : Frame) (s : SleepControl) : SleepControl :=
  let timeStamp := frame.data.pts.toInt
  let s := { s with
    enterTime_ := frame.enterTime
    clockTime_ := frame.clockTime
    statistician_ := frame.statistician }
  let s := if s.isTimeInit_ then s else s.initTime s.enterTime_ timeStamp
  let s := if s.isBaselineInit_ then s else s.initBaseline timeStamp s.clockTime_
  ((s.calSleepTime timeStamp).syncClock (some frame.data)).recordTime s.enterTime_ timeStamp
    frame.leaveTime

/-! ## The band -/

/-- The offset of a frame, if it is one that has an offset. -/
def offset? (data : Option Buffer) (s : SleepControl) : Option ℤ :=
  data.bind fun data => data.bufferMeta.map fun _ => s.offset data

/-- What `HandleSyncTime` adds to the sleep. -/
def corr (data : Option Buffer) (s : SleepControl) : ℤ := (s.handleSyncTime data).sleep_ - s.sleep_

/-- An offset that is tolerated. -/
def InBand (offset : ℤ) (s : SleepControl) : Prop :=
  -s.trackClockThre_ ≤ offset ∧ offset ≤ s.waitClockThre_

instance (offset : ℤ) (s : SleepControl) : Decidable (s.InBand offset) :=
  inferInstanceAs (Decidable (_ ∧ _))

/-- An offset in the band is left, any other comes into the band, and the wait is bounded. -/
def SyncsInBand (data : Option Buffer) (s : SleepControl) : Prop :=
  (∀ offset ∈ s.offset? data,
    (s.InBand offset → s.corr data = 0) ∧
      (¬s.InBand offset → s.InBand (offset - s.corr data))) ∧
    0 ≤ (s.syncClock data).sleep_ ∧ (s.syncClock data).sleep_ ≤ s.sleepThre_

variable {s : SleepControl} {data : Option Buffer} {d : ℤ}

/-! ## The correction -/

/-- What is added to the sleep at an offset. -/
def corrAt (d : ℤ) (s : SleepControl) : ℤ :=
  let append := (s.trackClockThre_ + s.waitClockThre_).tdiv 2
  if d > s.waitClockThre_ then d - s.waitClockThre_ + append
  else if d < -s.trackClockThre_ then d - s.trackClockThre_ - append
  else 0

theorem corr_of_offset (hoffset : d ∈ s.offset? data) : s.corr data = s.corrAt d := by
  obtain ⟨frame, rfl, hframe⟩ := Option.bind_eq_some_iff.1 hoffset
  obtain ⟨bufferMeta, hmeta, rfl⟩ := Option.map_eq_some_iff.1 hframe
  simp only [corr, handleSyncTime, hmeta, corrAt]
  split_ifs <;> simp

theorem corrAt_of_inBand (h : s.InBand d) : s.corrAt d = 0 := by
  rw [corrAt, if_neg h.2.not_gt, if_neg h.1.not_gt]

/-- Half of the width of the band. -/
theorem append_eq (htrack : 0 ≤ s.trackClockThre_) (hwait : 0 ≤ s.waitClockThre_) :
    (s.trackClockThre_ + s.waitClockThre_).tdiv 2 = (s.trackClockThre_ + s.waitClockThre_) / 2 :=
  Int.tdiv_eq_ediv_of_nonneg (Int.add_nonneg htrack hwait)

/-- A frame that is early comes to half of the band before the threshold. -/
theorem inBand_of_early (htrack : 0 ≤ s.trackClockThre_) (hwait : 0 ≤ s.waitClockThre_)
    (h : s.waitClockThre_ < d) : s.InBand (d - s.corrAt d) := by
  have hcorr : s.corrAt d =
      d - s.waitClockThre_ + (s.trackClockThre_ + s.waitClockThre_) / 2 := by
    rw [corrAt, if_pos h, append_eq htrack hwait]
  rw [hcorr]
  constructor <;> omega

/-- A frame that is late comes to `trackClockThre_` and half of the band behind 0. -/
theorem inBand_of_late_iff (htrack : 0 ≤ s.trackClockThre_) (hwait : 0 ≤ s.waitClockThre_)
    (h : d < -s.trackClockThre_) :
    s.InBand (d - s.corrAt d) ↔ 3 * s.trackClockThre_ ≤ s.waitClockThre_ + 1 := by
  have hcorr : s.corrAt d =
      d - s.trackClockThre_ - (s.trackClockThre_ + s.waitClockThre_) / 2 := by
    rw [corrAt, if_neg (by omega), if_pos h, append_eq htrack hwait]
  rw [hcorr, InBand]
  omega

theorem not_inBand_iff :
    ¬s.InBand d ↔ s.waitClockThre_ < d ∨ d < -s.trackClockThre_ := by
  rw [InBand]
  omega

/-- At an offset the correction is right exactly if the frame is not late, or the band has room. -/
theorem corrects_iff (htrack : 0 ≤ s.trackClockThre_) (hwait : 0 ≤ s.waitClockThre_) (d : ℤ) :
    ((s.InBand d → s.corrAt d = 0) ∧
        (¬s.InBand d → s.InBand (d - s.corrAt d))) ↔
      (d < -s.trackClockThre_ → 3 * s.trackClockThre_ ≤ s.waitClockThre_ + 1) := by
  refine ⟨fun h hlate => ?_, fun h => ⟨corrAt_of_inBand, fun hout => ?_⟩⟩
  · exact (inBand_of_late_iff htrack hwait hlate).1 (h.2 (not_inBand_iff.2 (.inr hlate)))
  · rcases not_inBand_iff.1 hout with hearly | hlate
    · exact inBand_of_early htrack hwait hearly
    · exact (inBand_of_late_iff htrack hwait hlate).2 (h hlate)

/-! ## The wait -/

theorem clampSleep_eq (s : SleepControl) :
    s.clampSleep.sleep_ = max 0 (min s.sleep_ s.sleepThre_) := by
  simp only [clampSleep]
  split_ifs <;> simp_all <;> omega

@[simp] theorem sleepThre_handleSyncTime (data : Option Buffer) :
    (s.handleSyncTime data).sleepThre_ = s.sleepThre_ := by
  simp only [handleSyncTime]
  split
  · rfl
  · split
    · rfl
    · split_ifs <;> rfl

theorem clampSleep_bounds_iff :
    (0 ≤ s.clampSleep.sleep_ ∧ s.clampSleep.sleep_ ≤ s.sleepThre_) ↔ 0 ≤ s.sleepThre_ := by
  rw [clampSleep_eq]
  omega

@[simp] theorem sleepThre_handleSmoothTime {frame : Buffer} :
    (s.handleSmoothTime frame).sleepThre_ = s.sleepThre_ := by
  simp only [handleSmoothTime]
  split
  · rfl
  · split_ifs <;> rfl

@[simp] theorem sleepThre_calSleepTime {timeStamp : ℤ} :
    (s.calSleepTime timeStamp).sleepThre_ = s.sleepThre_ := by
  simp only [calSleepTime]
  split_ifs <;> rfl

theorem sleepThre_clampSleep : s.clampSleep.sleepThre_ = s.sleepThre_ := by
  simp only [clampSleep]
  split_ifs <;> rfl

/-- The wait is cut to its bounds in both modes. -/
theorem syncClock_bounds (hthre : 0 ≤ s.sleepThre_) :
    (s.syncClock data).sleepThre_ = s.sleepThre_ ∧
      0 ≤ (s.syncClock data).sleep_ ∧ (s.syncClock data).sleep_ ≤ s.sleepThre_ := by
  obtain ⟨t, hclock, hkept⟩ :
      ∃ t : SleepControl, s.syncClock data = t.clampSleep ∧ t.sleepThre_ = s.sleepThre_ := by
    rw [syncClock]
    cases hmode : s.mode_ with
    | SMOOTH =>
      refine ⟨_, rfl, ?_⟩
      cases data with
      | none => rfl
      | some frame => exact sleepThre_handleSmoothTime
    | SYNC => exact ⟨_, rfl, sleepThre_handleSyncTime data⟩
  rw [hclock, ← hkept]
  exact ⟨sleepThre_clampSleep, clampSleep_bounds_iff.2 (hkept ▸ hthre)⟩

/-- One frame leaves the bound of the wait as it is, and the wait within it. -/
theorem controlOutput_bounds (frame : Frame) (hthre : 0 ≤ s.sleepThre_) :
    (s.controlOutput frame).sleepThre_ = s.sleepThre_ ∧
      0 ≤ (s.controlOutput frame).sleep_ ∧ (s.controlOutput frame).sleep_ ≤ s.sleepThre_ := by
  obtain ⟨t, hclock, hkept⟩ : ∃ t : SleepControl, t.sleepThre_ = s.sleepThre_ ∧
      (s.controlOutput frame).sleep_ = (t.syncClock (some frame.data)).sleep_ ∧
      (s.controlOutput frame).sleepThre_ = (t.syncClock (some frame.data)).sleepThre_ := by
    refine ⟨_, ?_, rfl, rfl⟩
    rw [sleepThre_calSleepTime]
    split_ifs <;> rfl
  rw [hkept.1, hkept.2, ← hclock]
  exact syncClock_bounds (hclock ▸ hthre)

/-- So no frame of a run waits longer. -/
theorem run_bounds : ∀ (frames : List Frame) {s : SleepControl}, 0 ≤ s.sleepThre_ → 0 ≤ s.sleep_ →
    s.sleep_ ≤ s.sleepThre_ →
    0 ≤ (frames.foldl (fun s frame => s.controlOutput frame) s).sleep_ ∧
      (frames.foldl (fun s frame => s.controlOutput frame) s).sleep_ ≤ s.sleepThre_
  | [], _, _, hlow, hhigh => ⟨hlow, hhigh⟩
  | frame :: frames, s, hthre, _, _ => by
    obtain ⟨hkept, hlow, hhigh⟩ := controlOutput_bounds (s := s) frame hthre
    have hrest := run_bounds frames (hkept.symm ▸ hthre) hlow (hkept.symm ▸ hhigh)
    rwa [hkept] at hrest

/-- In the mode `SYNC` the offset after the correction is in the band, and the wait within its
bounds, exactly if no late frame meets a band that has no room for three times `trackClockThre_`,
and the bound of the wait is not negative. -/
theorem syncsInBand_iff (s : SleepControl) (data : Option Buffer) (hmode : s.mode_ = .SYNC)
    (htrack : 0 ≤ s.trackClockThre_) (hwait : 0 ≤ s.waitClockThre_) :
    s.SyncsInBand data ↔
      (∀ offset ∈ s.offset? data, offset < -s.trackClockThre_ →
          3 * s.trackClockThre_ ≤ s.waitClockThre_ + 1) ∧
        0 ≤ s.sleepThre_ := by
  have hclock : s.syncClock data = (s.handleSyncTime data).clampSleep := by
    simp only [syncClock, hmode]
  have hsleep : (0 ≤ (s.syncClock data).sleep_ ∧ (s.syncClock data).sleep_ ≤ s.sleepThre_) ↔
      0 ≤ s.sleepThre_ := by
    rw [hclock, ← sleepThre_handleSyncTime data]
    exact clampSleep_bounds_iff
  rw [SyncsInBand, hsleep]
  refine and_congr_left fun _ => forall₂_congr fun offset hoffset => ?_
  rw [corr_of_offset hoffset]
  exact corrects_iff htrack hwait offset

/-- The controller of a screen in the mode `SYNC`, with its thresholds in nanoseconds. -/
def screenSync : SleepControl where
  mode_ := .SYNC
  waitClockThre_ := 125000000
  trackClockThre_ := 45000000
  sleepThre_ := 1000000000
  clockTime_ := 1000000000

/-- A frame that is 50 ms behind the clock. -/
def lateFrame : Buffer where
  pts := 950000000
  bufferMeta := some { metaType := 0, USER_FRAME_NUMBER := some 1 }
  memory := none

theorem syncsInBand_screen : screenSync.SyncsInBand (some { lateFrame with pts := 1200000000 }) :=
  (syncsInBand_iff screenSync _ rfl (by decide) (by decide)).2 ⟨by decide, by decide⟩

/-- A frame 50 ms behind the clock comes to 130 ms before it. -/
theorem late_frame_overshoots :
    screenSync.mode_ = .SYNC ∧ screenSync.offset? (some lateFrame) = some (-50000000) ∧
      screenSync.corr (some lateFrame) = -180000000 ∧ ¬screenSync.SyncsInBand (some lateFrame) := by
  have hoffset : screenSync.offset? (some lateFrame) = some (-50000000) := by decide
  refine ⟨rfl, hoffset, by decide, fun h => ?_⟩
  exact absurd ((h.1 _ hoffset).2 (by decide)) (by decide)

end SleepControl

end DHFwk
