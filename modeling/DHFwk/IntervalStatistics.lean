import DHFwk.Intervals
import Mathlib.Algebra.Ring.Int.Defs
import Mathlib.Data.List.Induction
import Mathlib.Tactic.SplitIfs

/-!
# Averages of the intervals between frames

The output controller counts the intervals between the frames that it gets, sums them up and
divides. It does so for the times at which frames are pushed and for their time stamps, each with a
counter of 32 bits.

A last time of 0 stands for none, so the interval after a frame with time 0 is left out : neither
counted nor summed up. The averages are those of the other intervals (`Tracks`), and the way from
the first frame to the last, divided by the number of intervals, only if no frame but the last has
the time 0, or by chance. The counter of the time stamps is also divided by when it has come around
to 0, which that of the push times is checked for (`averages_iff`).
-/

set_option linter.unusedSectionVars false

namespace DHFwk

namespace IntervalStatistics

/-! ## The code -/

/-- The meta of a buffer, with the tag that is read. -/
structure BufferMeta where
  USER_PUSH_DATA_TIME : Option Int64 := none
  deriving DecidableEq

/-- `Plugin::Buffer`, as far as it is read. -/
structure Buffer where
  pts : Int64
  bufferMeta : Option BufferMeta
  deriving DecidableEq

structure TimeStatistician where
  pushIndex_ : Int32 := 0
  averPushInterval_ : Int64 := 0
  lastPushTime_ : Int64 := 0
  pushTime_ : Int64 := 0
  pushIntervalSum_ : Int64 := 0
  pushInterval_ : Int64 := 0
  timeStampIndex_ : Int32 := 0
  averTimeStampInterval_ : Int64 := 0
  lastTimeStamp_ : Int64 := 0
  timeStamp_ : Int64 := 0
  timeStampIntervalSum_ : Int64 := 0
  timeStampInterval_ : Int64 := 0
  deriving DecidableEq

namespace TimeStatistician

/-- `ClearStatistics`. -/
def clearStatistics (s : TimeStatistician) : TimeStatistician :=
  { s with
    pushIndex_ := 0
    averPushInterval_ := 0
    lastPushTime_ := 0
    pushTime_ := 0
    pushIntervalSum_ := 0
    pushInterval_ := 0
    timeStampIndex_ := 0
    averTimeStampInterval_ := 0
    lastTimeStamp_ := 0
    timeStamp_ := 0
    timeStampIntervalSum_ := 0
    timeStampInterval_ := 0 }

/-- `CalAverPushInterval`. -/
def calAverPushInterval (pushTime : Int64) (s : TimeStatistician) : TimeStatistician :=
  let s := { s with pushTime_ := pushTime, pushInterval_ := pushTime - s.lastPushTime_ }
  if s.lastPushTime_ = 0 then { s with lastPushTime_ := s.pushTime_ }
  else
    let s := { s with
      pushIndex_ := s.pushIndex_ + 1
      pushIntervalSum_ := s.pushIntervalSum_ + s.pushInterval_ }
    if s.pushIndex_ = 0 then s
    else { s with
      averPushInterval_ := s.pushIntervalSum_ / s.pushIndex_.toInt64
      lastPushTime_ := s.pushTime_ }

/-- `CalAverTimeStampInterval`, which ends in a division by zero where there is no result. -/
def calAverTimeStampInterval (timeStamp : Int64) (s : TimeStatistician) :
    Option TimeStatistician :=
  let s := { s with timeStamp_ := timeStamp, timeStampInterval_ := timeStamp - s.lastTimeStamp_ }
  if s.lastTimeStamp_ = 0 then some { s with lastTimeStamp_ := s.timeStamp_ }
  else
    let s := { s with
      timeStampIndex_ := s.timeStampIndex_ + 1
      timeStampIntervalSum_ := s.timeStampIntervalSum_ + s.timeStampInterval_ }
    if s.timeStampIndex_ = 0 then none
    else some { s with
      averTimeStampInterval_ := s.timeStampIntervalSum_ / s.timeStampIndex_.toInt64
      lastTimeStamp_ := s.timeStamp_ }

/-- `CalProcessTime`. -/
def calProcessTime (s : TimeStatistician) (data : Option Buffer) : Option TimeStatistician :=
  match data with
  | none => some s
  | some data =>
    match data.bufferMeta with
    | none => some s
    | some bufferMeta =>
      match bufferMeta.USER_PUSH_DATA_TIME with
      | none => some s.clearStatistics
      | some pushTime => (s.calAverPushInterval pushTime).calAverTimeStampInterval data.pts

/-- Calls of `CalProcessTime`, one after the other. -/
def run (s : TimeStatistician) (calls : List (Option Buffer)) : Option TimeStatistician :=
  calls.foldlM calProcessTime s

end TimeStatistician

/-! ## What it is for -/

/-- The frames since the last clear, each with its push time and its time stamp. -/
def record (frames : List (Int64 × Int64)) (data : Option Buffer) : List (Int64 × Int64) :=
  match data with
  | none => frames
  | some data =>
    match data.bufferMeta with
    | none => frames
    | some bufferMeta =>
      match bufferMeta.USER_PUSH_DATA_TIME with
      | none => []
      | some pushTime => frames ++ [(pushTime, data.pts)]

section

variable (calls : List (Option Buffer)) (times : List Int64)

/-- The push times since the last clear. -/
def pushTimes : List Int64 := (calls.foldl record []).map Prod.fst

/-- The time stamps since the last clear. -/
def timeStamps : List Int64 := (calls.foldl record []).map Prod.snd

/-- The way from the first to the last of some times. -/
def way : ℤ := (times.getLast?.getD 0).toInt - (times.head?.getD 0).toInt

/-- The way, divided by the number of intervals. -/
def average : ℤ := (way times).tdiv ((times.length : ℤ) - 1)

/-- The intervals that are counted : those that do not begin at 0. -/
def counted : List ℤ := Intervals.kept (· = 0) (times.map Int64.toInt)

/-- An average is right, as long as its counter has not wrapped. -/
def IsAverage (aver : Int64) : Prop :=
  (counted times).length < 2 ^ 31 → aver.toInt = average times

/-- No division by zero, and averages that are right behind two frames or more. -/
def Averages (s : TimeStatistician) : Prop :=
  ∃ s', s.clearStatistics.run calls = some s' ∧
    (2 ≤ (calls.foldl record []).length →
      IsAverage (timeStamps calls) s'.averTimeStampInterval_ ∧
        IsAverage (pushTimes calls) s'.averPushInterval_)

/-- No time but the last is 0, and the way has 64 bits ; or the intervals that do not begin at 0
have the average of all. -/
def Fair : Prop :=
  (counted times).length < 2 ^ 31 →
    if 0 ∈ times.dropLast then
      ((counted times).sum.bmod (2 ^ 64)).tdiv (counted times).length = average times
    else -2 ^ 63 ≤ way times ∧ way times < 2 ^ 63

end

/-! ## One statistic -/

/-- What is kept of one kind of times. -/
structure Statistic where
  index : Int32
  last : Int64
  sum : Int64
  aver : Int64

/-- The next time. -/
def Statistic.next (t : Int64) (x : Statistic) : Statistic :=
  if x.last = 0 then { x with last := t }
  else
    { index := x.index + 1
      last := t
      sum := x.sum + (t - x.last)
      aver := (x.sum + (t - x.last)) / (x.index + 1).toInt64 }

/-- The counter comes around with the next time. -/
def Statistic.Wraps (x : Statistic) : Prop := x.last ≠ 0 ∧ x.index + 1 = 0

/-- The counter, the sum and the average are those of the intervals that are counted. -/
structure Tracks (times : List Int64) (x : Statistic) : Prop where
  index_eq : x.index = Int32.ofNat (counted times).length
  last_eq : x.last = times.getLast?.getD 0
  sum_eq : x.sum = Int64.ofInt (counted times).sum
  aver_eq : x.aver = if counted times = [] then 0 else x.sum / x.index.toInt64

section Tracks

variable {times : List Int64} {x : Statistic} {t : Int64}

theorem tracks_nil : Tracks [] ⟨0, 0, 0, 0⟩ := ⟨rfl, rfl, rfl, rfl⟩

theorem Tracks.getLast_eq (h : Tracks times x) (hlast : x.last ≠ 0) :
    times.getLast? = some x.last := by
  have heq := h.last_eq
  cases hend : times.getLast? with
  | none =>
    rw [hend] at heq
    exact absurd heq hlast
  | some last =>
    rw [hend] at heq
    rw [heq]
    rfl

/-- The interval from 0 is not counted. -/
theorem Tracks.counted_of_zero (h : Tracks times x) (hlast : x.last = 0) :
    counted (times ++ [t]) = counted times := by
  rw [counted, List.map_append]
  refine Intervals.kept_concat_of_skip fun a ha => ?_
  rw [List.getLast?_map] at ha
  obtain ⟨last, hend, rfl⟩ := Option.map_eq_some_iff.1 ha
  have heq := h.last_eq
  rw [hend, hlast] at heq
  rw [show last = 0 from heq.symm]
  rfl

theorem Tracks.counted_of_ne_zero (h : Tracks times x) (hlast : x.last ≠ 0) :
    counted (times ++ [t]) = counted times ++ [t.toInt - x.last.toInt] := by
  rw [counted, List.map_append]
  refine Intervals.kept_concat ?_ fun hzero => hlast (Int64.toInt_inj.1 hzero)
  rw [List.getLast?_map, h.getLast_eq hlast]
  rfl

theorem Tracks.next (h : Tracks times x) (t : Int64) : Tracks (times ++ [t]) (x.next t) := by
  have hend : (times ++ [t]).getLast?.getD 0 = t := by rw [List.getLast?_concat]; rfl
  rw [Statistic.next]
  split_ifs with hlast
  · have hcounted : counted (times ++ [t]) = counted times := h.counted_of_zero hlast
    exact ⟨by rw [hcounted]; exact h.index_eq, hend.symm, by rw [hcounted]; exact h.sum_eq,
      by rw [hcounted]; exact h.aver_eq⟩
  · have hcounted : counted (times ++ [t]) = counted times ++ [t.toInt - x.last.toInt] :=
      h.counted_of_ne_zero hlast
    refine ⟨?_, hend.symm, ?_, ?_⟩
    · rw [hcounted, h.index_eq, List.length_append, Int32.ofNat_add]
      rfl
    · rw [hcounted, h.sum_eq, List.sum_append, List.sum_singleton, Int64.ofInt_add,
        Int64.ofInt_sub, Int64.ofInt_toInt, Int64.ofInt_toInt]
    · have hne : counted (times ++ [t]) ≠ [] :=
        hcounted ▸ List.append_ne_nil_of_right_ne_nil _ (List.cons_ne_nil _ _)
      rw [if_neg hne]

/-- The counter comes around with the interval number `2 ^ 32`. -/
theorem Tracks.wraps_iff (h : Tracks times x) (hlt : (counted times).length < 2 ^ 32) :
    x.Wraps ↔ ¬(counted (times ++ [t])).length < 2 ^ 32 := by
  by_cases hlast : x.last = 0
  · rw [h.counted_of_zero hlast]
    exact iff_of_false (fun hwraps => hwraps.1 hlast) (not_not_intro hlt)
  · have hindex : x.index + 1 = Int32.ofNat ((counted times).length + 1) := by
      rw [h.index_eq, Int32.ofNat_add]
      rfl
    rw [h.counted_of_ne_zero hlast, List.length_append, List.length_singleton, Statistic.Wraps,
      hindex, and_iff_right hlast, ← Int32.toInt_inj, Int32.toInt_ofNat', Int32.toInt_zero,
      ← Int.dvd_iff_bmod_eq_zero]
    simp only [Int32.size]
    omega

/-- While the counter has not wrapped, the average is a quotient of integers. -/
theorem Tracks.toInt_aver (h : Tracks times x) (hlt : (counted times).length < 2 ^ 31) :
    x.aver.toInt = ((counted times).sum.bmod (2 ^ 64)).tdiv (counted times).length := by
  rw [h.aver_eq]
  split_ifs with hnil
  · rw [hnil]
    rfl
  · have hindex : x.index.toInt64.toInt = (counted times).length := by
      rw [Int32.toInt_toInt64, h.index_eq, Int32.toInt_ofNat_of_lt hlt]
    have hne : x.index.toInt64 ≠ -1 := by
      rw [Ne, ← Int64.toInt_inj, hindex]
      exact fun hneg => absurd (hneg ▸ Int.natCast_nonneg (counted times).length) (by decide)
    rw [Int64.toInt_div_of_ne_right _ _ hne, hindex, h.sum_eq, Int64.toInt_ofInt]
    rfl

/-- A way of more than 64 bits comes out with the other sign. -/
theorem tdiv_bmod_eq_iff {d : ℤ} {k : ℕ} (hlow : -2 ^ 64 < d) (hhigh : d < 2 ^ 64) (hk : 0 < k)
    (hlt : k < 2 ^ 31) :
    (d.bmod (2 ^ 64)).tdiv k = d.tdiv k ↔ -2 ^ 63 ≤ d ∧ d < 2 ^ 63 := by
  have hpos : ∀ {e : ℤ}, 2 ^ 63 ≤ e → 1 ≤ e.tdiv k := fun he =>
    Int.le_tdiv_of_mul_le (Int.natCast_pos.2 hk) (by omega)
  have hnonneg : ∀ {e : ℤ}, 0 ≤ e → 0 ≤ e.tdiv k := fun he =>
    Int.tdiv_nonneg he (Int.natCast_nonneg k)
  constructor
  · intro heq
    by_contra hout
    rcases (by omega : 2 ^ 63 ≤ d ∨ d < -2 ^ 63) with hd | hd
    · have hwrap : d.bmod (2 ^ 64) = -(2 ^ 64 - d) := by
        rw [Int.bmod_def]
        omega
      have hlarge := hpos hd
      have hrest := hnonneg (show 0 ≤ 2 ^ 64 - d by omega)
      rw [hwrap, Int.neg_tdiv] at heq
      omega
    · have hwrap : d.bmod (2 ^ 64) = d + 2 ^ 64 := by
        rw [Int.bmod_def]
        omega
      have hlarge := hpos (show 2 ^ 63 ≤ -d by omega)
      have hrest := hnonneg (show 0 ≤ d + 2 ^ 64 by omega)
      rw [Int.neg_tdiv] at hlarge
      rw [hwrap] at heq
      omega
  · rintro ⟨hfrom, hto⟩
    rw [Int.bmod_eq_of_le (by omega) (by omega)]

theorem way_lt (times : List Int64) : -2 ^ 64 < way times ∧ way times < 2 ^ 64 := by
  have hlast := (times.getLast?.getD 0).toInt_lt
  have hlast' := (times.getLast?.getD 0).le_toInt
  have hfirst := (times.head?.getD 0).toInt_lt
  have hfirst' := (times.head?.getD 0).le_toInt
  rw [way]
  omega

theorem length_counted_le (times : List Int64) : (counted times).length ≤ times.length - 1 := by
  rw [counted, ← List.length_map Int64.toInt]
  exact Intervals.length_kept_le _

/-- Of times that are not 0, the last one apart, every interval is counted. -/
theorem counted_of_not_mem {first : Int64} (hzero : 0 ∉ (first :: times).dropLast) :
    (counted (first :: times)).length = times.length ∧
      (counted (first :: times)).sum = way (first :: times) := by
  have hkept : ∀ a ∈ ((first :: times).map Int64.toInt).dropLast, ¬a = 0 := by
    rw [← List.map_dropLast]
    intro a ha hne
    obtain ⟨t, ht, rfl⟩ := List.mem_map.1 ha
    obtain rfl : t = 0 := Int64.toInt_inj.1 hne
    exact hzero ht
  constructor
  · rw [counted, Intervals.length_kept hkept, List.length_map]
    rfl
  · have hlast : ((first :: times).map Int64.toInt).getLast (List.cons_ne_nil _ _) =
        ((first :: times).getLast?.getD 0).toInt := by
      rw [List.getLast_map, List.getLast?_eq_some_getLast (List.cons_ne_nil _ _)]
      rfl
    rw [way, ← hlast]
    exact Intervals.sum_kept hkept

/-- Times above 0 are fair. -/
theorem fair_of_pos (hpos : ∀ t ∈ times, 0 < t.toInt) : Fair times := by
  intro _
  have hzero : 0 ∉ times.dropLast := fun hmem =>
    absurd (hpos 0 (List.dropLast_subset times hmem)) (by decide)
  have hend : ∀ o : Option Int64, (∀ t ∈ o, t ∈ times) → 0 ≤ (o.getD 0).toInt := by
    intro o hmem
    cases o with
    | none => exact Int.le_refl 0
    | some t => exact Int.le_of_lt (hpos t (hmem t rfl))
  have hfirst := hend times.head? fun _ => List.mem_of_mem_head?
  have hlast := hend times.getLast? fun _ => List.mem_of_getLast?
  have hfirst' := (times.head?.getD 0).toInt_lt
  have hlast' := (times.getLast?.getD 0).toInt_lt
  rw [if_neg hzero, way]
  omega

/-- The average that is kept is right exactly if the times are fair. -/
theorem Tracks.isAverage_iff (h : Tracks times x) (hlen : 2 ≤ times.length) :
    IsAverage times x.aver ↔ Fair times := by
  refine forall_congr' fun hlt => ?_
  rw [h.toInt_aver hlt]
  split_ifs with hzero
  · rfl
  · obtain ⟨first, rest, rfl⟩ := List.exists_cons_of_length_pos (show 0 < times.length by omega)
    obtain ⟨hlength, hsum⟩ := counted_of_not_mem hzero
    have hcount : ((first :: rest).length : ℤ) - 1 = rest.length := by
      rw [List.length_cons]
      omega
    have hrest : 0 < rest.length := Nat.lt_of_succ_le (Nat.le_of_succ_le_succ hlen)
    rw [average, hcount, hsum, hlength]
    exact tdiv_bmod_eq_iff (way_lt _).1 (way_lt _).2 hrest (hlength ▸ hlt)

end Tracks

/-! ## Both statistics -/

namespace TimeStatistician

variable {s s' : TimeStatistician} {t : Int64}

/-- What is kept of the push times. -/
def pushes (s : TimeStatistician) : Statistic where
  index := s.pushIndex_
  last := s.lastPushTime_
  sum := s.pushIntervalSum_
  aver := s.averPushInterval_

/-- What is kept of the time stamps. -/
def stamps (s : TimeStatistician) : Statistic where
  index := s.timeStampIndex_
  last := s.lastTimeStamp_
  sum := s.timeStampIntervalSum_
  aver := s.averTimeStampInterval_

theorem pushes_calAverPushInterval (h : ¬s.pushes.Wraps) :
    (s.calAverPushInterval t).pushes = s.pushes.next t := by
  by_cases hlast : s.lastPushTime_ = 0
  · rw [Statistic.next, if_pos (show s.pushes.last = 0 from hlast), calAverPushInterval]
    exact congrArg pushes (if_pos hlast)
  · have hindex : s.pushIndex_ + 1 ≠ 0 := fun hindex => h ⟨hlast, hindex⟩
    rw [Statistic.next, if_neg (show s.pushes.last ≠ 0 from hlast), calAverPushInterval]
    exact congrArg pushes ((if_neg hlast).trans (if_neg hindex))

theorem stamps_calAverPushInterval : (s.calAverPushInterval t).stamps = s.stamps := by
  unfold calAverPushInterval
  dsimp only
  split_ifs
  all_goals rfl

/-- When the counter comes around, it is divided by. -/
theorem calAverTimeStampInterval_of_wraps (h : s.stamps.Wraps) :
    s.calAverTimeStampInterval t = none := by
  unfold calAverTimeStampInterval
  exact (if_neg h.1).trans (if_pos h.2)

theorem exists_calAverTimeStampInterval (h : ¬s.stamps.Wraps) :
    ∃ s', s.calAverTimeStampInterval t = some s' ∧ s'.stamps = s.stamps.next t ∧
      s'.pushes = s.pushes := by
  by_cases hlast : s.lastTimeStamp_ = 0
  · refine ⟨_, if_pos hlast, ?_, rfl⟩
    rw [Statistic.next, if_pos (show s.stamps.last = 0 from hlast)]
    rfl
  · have hindex : s.timeStampIndex_ + 1 ≠ 0 := fun hindex => h ⟨hlast, hindex⟩
    refine ⟨_, (if_neg hlast).trans (if_neg hindex), ?_, rfl⟩
    rw [Statistic.next, if_neg (show s.stamps.last ≠ 0 from hlast)]
    rfl

end TimeStatistician

/-- Both statistics are kept of the frames since the last clear, that of the push times as long as
its counter has not come around. -/
structure Stands (frames : List (Int64 × Int64)) (s : TimeStatistician) : Prop where
  stamps : Tracks (frames.map Prod.snd) s.stamps
  stamps_lt : (counted (frames.map Prod.snd)).length < 2 ^ 32
  pushes : (counted (frames.map Prod.fst)).length < 2 ^ 32 → Tracks (frames.map Prod.fst) s.pushes

section Stands

variable {frames : List (Int64 × Int64)} {s : TimeStatistician}

theorem stands_clearStatistics (s : TimeStatistician) : Stands [] s.clearStatistics where
  stamps := tracks_nil
  stamps_lt := Nat.two_pow_pos 32
  pushes _ := tracks_nil

/-- A frame with a push time : counted, unless the counter of the time stamps comes around. -/
theorem Stands.frame (h : Stands frames s) (pushTime timeStamp : Int64) :
    let frames' := frames ++ [(pushTime, timeStamp)]
    if (counted (frames'.map Prod.snd)).length < 2 ^ 32 then
      ∃ s', (s.calAverPushInterval pushTime).calAverTimeStampInterval timeStamp = some s' ∧
        Stands frames' s'
    else (s.calAverPushInterval pushTime).calAverTimeStampInterval timeStamp = none := by
  have hsame : (s.calAverPushInterval pushTime).stamps = s.stamps :=
    TimeStatistician.stamps_calAverPushInterval
  have hwraps := h.stamps.wraps_iff (t := timeStamp) h.stamps_lt
  dsimp only
  rw [List.map_append, List.map_singleton]
  split_ifs with hlt
  · have hnot : ¬(s.calAverPushInterval pushTime).stamps.Wraps := by
      rw [hsame, hwraps]
      exact not_not_intro hlt
    obtain ⟨s', hs', hstamps, hpushes⟩ :=
      TimeStatistician.exists_calAverTimeStampInterval (t := timeStamp) hnot
    refine ⟨s', hs', ⟨?_, ?_, ?_⟩⟩
    · rw [hstamps, hsame, List.map_append]
      exact h.stamps.next timeStamp
    · rwa [List.map_append]
    · rw [hpushes, List.map_append]
      intro hpush
      have hbefore : (counted (frames.map Prod.fst)).length < 2 ^ 32 := by
        refine Nat.lt_of_le_of_lt ?_ hpush
        rw [counted, counted, List.map_append]
        exact (Intervals.kept_prefix _ _).length_le
      have htracks := h.pushes hbefore
      have hpushWraps : ¬s.pushes.Wraps := fun hw =>
        (htracks.wraps_iff hbefore).1 hw hpush
      rw [TimeStatistician.pushes_calAverPushInterval hpushWraps]
      exact htracks.next pushTime
  · refine TimeStatistician.calAverTimeStampInterval_of_wraps ?_
    rw [hsame, hwraps]
    exact hlt

/-- One call : a frame that is not processed changes nothing, and one without a push time clears. -/
theorem Stands.calProcessTime (h : Stands frames s) (data : Option Buffer) :
    if (counted ((record frames data).map Prod.snd)).length < 2 ^ 32 then
      ∃ s', s.calProcessTime data = some s' ∧ Stands (record frames data) s'
    else s.calProcessTime data = none := by
  rcases data with _ | ⟨pts, _ | ⟨_ | pushTime⟩⟩
  · exact (if_pos h.stamps_lt).mpr ⟨s, rfl, h⟩
  · exact (if_pos h.stamps_lt).mpr ⟨s, rfl, h⟩
  · exact (if_pos (Nat.two_pow_pos 32)).mpr ⟨_, rfl, stands_clearStatistics s⟩
  · exact h.frame pushTime pts

end Stands

/-! ## Runs -/

section

variable (s : TimeStatistician) (calls : List (Option Buffer))

theorem run_concat (data : Option Buffer) :
    s.run (calls ++ [data]) = (s.run calls).bind fun s' => s'.calProcessTime data := by
  rw [TimeStatistician.run, List.foldlM_append]
  exact Option.bind_congr fun s' _ => Option.bind_fun_some (s'.calProcessTime data)

theorem record_concat (data : Option Buffer) :
    (calls ++ [data]).foldl record [] = record (calls.foldl record []) data := by
  rw [List.foldl_append, List.foldl_cons, List.foldl_nil]

/-- A run stands at the end of all frames, if no counter of time stamps came around. -/
theorem stands_run : ∀ calls : List (Option Buffer),
    (∀ calls', calls' <+: calls → (counted (timeStamps calls')).length < 2 ^ 32) →
      ∃ s', s.clearStatistics.run calls = some s' ∧ Stands (calls.foldl record []) s' := by
  intro calls
  induction calls using List.reverseRecOn with
  | nil => exact fun _ => ⟨_, rfl, stands_clearStatistics s⟩
  | append_singleton calls data ih =>
    intro h
    obtain ⟨s', hrun, hstands⟩ := ih fun calls' hcalls' =>
      h calls' (hcalls'.trans (List.prefix_append _ _))
    have hlt := h _ List.prefix_rfl
    have hcall := hstands.calProcessTime data
    rw [timeStamps, record_concat] at hlt
    rw [if_pos hlt] at hcall
    rw [run_concat, hrun, record_concat]
    exact hcall

/-- Where one came around, there was a division by zero. -/
theorem counted_lt_of_run : ∀ {calls : List (Option Buffer)} {s' : TimeStatistician},
    s.clearStatistics.run calls = some s' → ∀ calls', calls' <+: calls →
      (counted (timeStamps calls')).length < 2 ^ 32 := by
  intro calls
  induction calls using List.reverseRecOn with
  | nil =>
    intro s' _ calls' hcalls'
    rw [List.prefix_nil.1 hcalls']
    exact Nat.two_pow_pos 32
  | append_singleton calls data ih =>
    intro s' hrun calls' hcalls'
    rw [run_concat] at hrun
    obtain ⟨s₁, hs₁, hdata⟩ := Option.bind_eq_some_iff.1 hrun
    rcases List.prefix_concat_iff.1 hcalls' with rfl | hbefore
    · obtain ⟨s₂, hs₂, hstands⟩ := stands_run s calls (ih hs₁)
      obtain rfl : s₁ = s₂ := Option.some.inj (hs₁.symm.trans hs₂)
      have hcall := hstands.calProcessTime data
      by_contra hwrap
      rw [timeStamps, record_concat] at hwrap
      rw [if_neg hwrap, hdata] at hcall
      exact absurd hcall (Option.some_ne_none s')
    · exact ih hs₁ calls' hbefore

/-- Behind two frames, the averages are right exactly if the times are fair. -/
theorem Stands.isAverage_iff {s : TimeStatistician} (h : Stands (calls.foldl record []) s)
    (hlen : 2 ≤ (calls.foldl record []).length) :
    IsAverage (timeStamps calls) s.averTimeStampInterval_ ∧
        IsAverage (pushTimes calls) s.averPushInterval_ ↔
      Fair (timeStamps calls) ∧ Fair (pushTimes calls) := by
  refine and_congr (h.stamps.isAverage_iff (by rwa [List.length_map])) ?_
  by_cases hpush : (counted (pushTimes calls)).length < 2 ^ 32
  · exact (h.pushes hpush).isAverage_iff (by rwa [List.length_map])
  · have hwrapped : ¬(counted (pushTimes calls)).length < 2 ^ 31 := fun hlt =>
      hpush (Nat.lt_trans hlt (by decide))
    exact iff_of_true (fun hlt => absurd hlt hwrapped) fun hlt => absurd hlt hwrapped

theorem averages_of_fair
    (hlt : ∀ calls', calls' <+: calls → (counted (timeStamps calls')).length < 2 ^ 32)
    (hfair : 2 ≤ (calls.foldl record []).length →
      Fair (timeStamps calls) ∧ Fair (pushTimes calls)) : Averages calls s := by
  obtain ⟨s', hrun, hstands⟩ := stands_run s calls hlt
  exact ⟨s', hrun, fun hlen => (hstands.isAverage_iff calls hlen).2 (hfair hlen)⟩

/-- There is no division by zero and the averages are right exactly if at most `2 ^ 32 - 1`
intervals of time stamps are counted between two clears, and the times are fair. -/
theorem averages_iff : Averages calls s ↔
    (∀ calls', calls' <+: calls → (counted (timeStamps calls')).length < 2 ^ 32) ∧
      (2 ≤ (calls.foldl record []).length → Fair (timeStamps calls) ∧ Fair (pushTimes calls)) := by
  constructor
  · rintro ⟨s', hrun, haver⟩
    have hlt := counted_lt_of_run s hrun
    obtain ⟨s₂, hs₂, hstands⟩ := stands_run s calls hlt
    obtain rfl : s' = s₂ := Option.some.inj (hrun.symm.trans hs₂)
    exact ⟨hlt, fun hlen => (hstands.isAverage_iff calls hlen).1 (haver hlen)⟩
  · rintro ⟨hlt, hfair⟩
    exact averages_of_fair s calls hlt hfair

end

/-! ## Frames alone -/

/-- A frame with a push time and a time stamp. -/
def frame (times : Int64 × Int64) : Option Buffer :=
  some { pts := times.2, bufferMeta := some { USER_PUSH_DATA_TIME := some times.1 } }

theorem record_frames (frames before : List (Int64 × Int64)) :
    (frames.map frame).foldl record before = before ++ frames := by
  induction frames generalizing before with
  | nil => exact (List.append_nil before).symm
  | cons f frames ih =>
    rw [List.map_cons, List.foldl_cons, ih]
    exact List.append_cons before f frames |>.symm

theorem timeStamps_frames (frames : List (Int64 × Int64)) :
    timeStamps (frames.map frame) = frames.map Prod.snd := by
  rw [timeStamps, record_frames, List.nil_append]

theorem pushTimes_frames (frames : List (Int64 × Int64)) :
    pushTimes (frames.map frame) = frames.map Prod.fst := by
  rw [pushTimes, record_frames, List.nil_append]

/-- Frames with times above 0, not more than the counters have numbers, have the right averages. -/
theorem averages_of_pos {frames : List (Int64 × Int64)} (hlen : frames.length ≤ 2 ^ 32)
    (hpos : ∀ f ∈ frames, 0 < f.1.toInt ∧ 0 < f.2.toInt) (s : TimeStatistician) :
    Averages (frames.map frame) s := by
  refine averages_of_fair s _ (fun calls' hcalls' => ?_) fun _ => ⟨?_, ?_⟩
  · obtain ⟨frames', hframes', rfl⟩ := List.prefix_map_iff.1 hcalls'
    have hcount := length_counted_le (frames'.map Prod.snd)
    have hle := hframes'.length_le
    rw [List.length_map] at hcount
    rw [timeStamps_frames]
    omega
  · rw [timeStamps_frames]
    exact fair_of_pos (List.forall_mem_map.2 fun f hf => (hpos f hf).2)
  · rw [pushTimes_frames]
    exact fair_of_pos (List.forall_mem_map.2 fun f hf => (hpos f hf).1)

/-- Frames that all have the same time stamp, which is not 0, end in a division by zero. -/
theorem run_replicate {n : ℕ} (hn : 2 ^ 32 ≤ n) (s : TimeStatistician) {f : Int64 × Int64}
    (hf : f.2 ≠ 0) : s.clearStatistics.run ((List.replicate (n + 1) f).map frame) = none := by
  cases hrun : s.clearStatistics.run ((List.replicate (n + 1) f).map frame) with
  | none => rfl
  | some s' =>
    have hlt := counted_lt_of_run s hrun _ List.prefix_rfl
    have hzero : 0 ∉ (f.2 :: List.replicate n f.2).dropLast := by
      intro hmem
      have hmem' : 0 ∈ List.replicate (n + 1) f.2 := List.dropLast_subset _ hmem
      exact hf (List.eq_of_mem_replicate hmem').symm
    rw [timeStamps_frames, List.map_replicate, List.replicate_succ,
      (counted_of_not_mem hzero).1, List.length_replicate] at hlt
    exact absurd hlt (Nat.not_lt.2 hn)

/-- Frames with the time stamps 0 and 40, 40 apart as their push times are, have the average 0 ;
and the same time stamp often enough is a division by zero. -/
theorem not_averages :
    ¬Averages ([(100, 0), (140, 40)].map frame) {} ∧
      ¬Averages ((List.replicate (2 ^ 32 + 1) (100, 40)).map frame) {} := by
  constructor
  · rintro ⟨s', hrun, haver⟩
    have hs' : ({} : TimeStatistician).clearStatistics.run ([(100, 0), (140, 40)].map frame) =
        some { pushIndex_ := 1, averPushInterval_ := 40, lastPushTime_ := 140, pushTime_ := 140,
               pushIntervalSum_ := 40, pushInterval_ := 40, lastTimeStamp_ := 40,
               timeStamp_ := 40, timeStampInterval_ := 40 } := by decide
    obtain rfl := Option.some.inj (hs'.symm.trans hrun)
    exact absurd ((haver (by decide)).1 (by decide)) (by decide)
  · rintro ⟨s', hrun, -⟩
    rw [run_replicate (Nat.le_refl _) _ (by decide)] at hrun
    exact absurd hrun.symm (Option.some_ne_none s')

end IntervalStatistics

end DHFwk
