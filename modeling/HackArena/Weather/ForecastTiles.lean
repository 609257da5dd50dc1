import HackArena.Weather.Forecast

/-!
# The buckets of a forecast

A forecast has a bucket time at its start and at every boundary of its slots
up to the horizon. It has a point at those that the schedule covers, and the
buckets that are made from the points follow each other without gaps.
-/

namespace HackArena.Weather

open Boink Domain HackArena.Admin HackArena.Services

/-! ## The loop -/

/-- The loop of `project_forecast`; no result if the rounds do not
suffice. -/
def projectLoop (entries : List ScheduleEntry) (endMs stepMs : ℤ) :
    (rounds : ℕ) → (first : Bool) → (timeMs : ℤ) →
      Option (Except WeatherDomainError (List ForecastPoint))
  | 0, _, _ => none
  | rounds + 1, first, timeMs =>
      if timeMs ≤ endMs then
        let point := ((weatherTypeAt entries timeMs).map (ForecastPoint.mk timeMs)).toList
        match if first then nextAlignedBucketStart timeMs stepMs
          else checkedTime (timeMs + stepMs) with
        | .error err => some (.error err)
        | .ok next =>
            if endMs < next then some (.ok point)
            else (projectLoop entries endMs stepMs rounds false next).map
              (Except.map (point ++ ·))
      else some (.ok [])

/-- The first boundary after a time. -/
def nextBoundary (stepMs timeMs : ℤ) : ℤ := (timeMs / stepMs + 1) * stepMs

/-- The bucket times from a time on, with so many boundaries. -/
def bucketTimes (stepMs : ℤ) : ℕ → ℤ → List ℤ
  | 0, timeMs => [timeMs]
  | n + 1, timeMs => timeMs :: bucketTimes stepMs n (nextBoundary stepMs timeMs)

def pointsAt (entries : List ScheduleEntry) (times : List ℤ) : List ForecastPoint :=
  times.flatMap fun timeMs => ((weatherTypeAt entries timeMs).map (ForecastPoint.mk timeMs)).toList

theorem pointsAt_cons (entries : List ScheduleEntry) (timeMs : ℤ) (times : List ℤ) :
    pointsAt entries (timeMs :: times) = pointsAt entries [timeMs] ++ pointsAt entries times := by
  rw [pointsAt, pointsAt, pointsAt, List.flatMap_cons, List.flatMap_singleton]

section Boundaries

variable {stepMs timeMs endMs : ℤ} (hstep : 0 < stepMs)

include hstep

theorem lt_nextBoundary : timeMs < nextBoundary stepMs timeMs := by
  rw [nextBoundary]
  exact Int.lt_ediv_add_one_mul_self timeMs hstep

theorem nextBoundary_le : nextBoundary stepMs timeMs ≤ timeMs + stepMs := by
  have hle := Int.ediv_mul_le timeMs hstep.ne'
  rw [nextBoundary, add_mul, one_mul]
  omega

theorem nextBoundary_le_end {n : ℕ} (hn : endMs / stepMs = timeMs / stepMs + (n + 1 : ℕ)) :
    nextBoundary stepMs timeMs ≤ endMs := by
  have hquot : (timeMs / stepMs + 1) * stepMs ≤ endMs / stepMs * stepMs :=
    mul_le_mul_of_nonneg_right (by omega) hstep.le
  exact hquot.trans (Int.ediv_mul_le _ hstep.ne')

theorem nextBoundary_ediv : nextBoundary stepMs timeMs / stepMs = timeMs / stepMs + 1 :=
  Int.mul_ediv_cancel _ hstep.ne'

theorem nextBoundary_le_of_dvd {boundary : ℤ} (hdvd : stepMs ∣ boundary) (hlt : timeMs < boundary) :
    nextBoundary stepMs timeMs ≤ boundary := by
  obtain ⟨k, rfl⟩ := hdvd
  have hk : timeMs / stepMs < k := Int.ediv_lt_of_lt_mul hstep (by rwa [mul_comm])
  rw [nextBoundary, mul_comm]
  exact mul_le_mul_of_nonneg_left hk hstep.le

omit hstep in
theorem dvd_nextBoundary : stepMs ∣ nextBoundary stepMs timeMs := Dvd.intro_left _ rfl

omit hstep in
theorem nextAlignedBucketStart_eq :
    nextAlignedBucketStart timeMs stepMs = checkedTime (nextBoundary stepMs timeMs) := by
  have hparts := Int.emod_add_mul_ediv timeMs stepMs
  rw [nextAlignedBucketStart, nextBoundary, add_mul, one_mul, mul_comm]
  split <;> congr 1 <;> omega

omit hstep in
theorem add_eq_nextBoundary (hdvd : stepMs ∣ timeMs) :
    timeMs + stepMs = nextBoundary stepMs timeMs := by
  rw [nextBoundary, add_mul, one_mul, Int.ediv_mul_cancel hdvd]

end Boundaries

theorem checkedTime_ok {timeMs : ℤ} (h : i64Min ≤ timeMs ∧ timeMs ≤ i64Max) :
    checkedTime timeMs = .ok timeMs := by
  rw [checkedTime, checkedI64, if_pos h]

theorem checkedTime_error {timeMs : ℤ} (h : i64Max < timeMs) :
    checkedTime timeMs = .error .timestampOverflow := by
  rw [checkedTime, checkedI64, if_neg (by omega)]

section Loop

variable {entries : List ScheduleEntry} {endMs stepMs : ℤ}

theorem next_eq {first : Bool} {timeMs : ℤ} (hfirst : first = false → stepMs ∣ timeMs) :
    (if first then nextAlignedBucketStart timeMs stepMs else checkedTime (timeMs + stepMs)) =
      checkedTime (nextBoundary stepMs timeMs) := by
  cases first with
  | true => exact nextAlignedBucketStart_eq
  | false => exact congrArg checkedTime (add_eq_nextBoundary (hfirst rfl))

section Step

variable {rounds : ℕ} {first : Bool} {timeMs : ℤ} (hle : timeMs ≤ endMs)
  (hfirst : first = false → stepMs ∣ timeMs)

include hle hfirst

theorem projectFrom_succ :
    projectFrom entries endMs stepMs (rounds + 1) first timeMs =
      (checkedTime (nextBoundary stepMs timeMs)).bind fun next =>
        if endMs < next then .ok (pointsAt entries [timeMs])
        else (projectFrom entries endMs stepMs rounds false next).map
          (pointsAt entries [timeMs] ++ ·) := by
  rw [projectFrom, if_pos hle, ← next_eq hfirst, pointsAt, List.flatMap_singleton]
  cases first <;> rfl

theorem projectLoop_succ :
    projectLoop entries endMs stepMs (rounds + 1) first timeMs =
      match checkedTime (nextBoundary stepMs timeMs) with
      | .error err => some (.error err)
      | .ok next =>
          if endMs < next then some (.ok (pointsAt entries [timeMs]))
          else (projectLoop entries endMs stepMs rounds false next).map
            (Except.map (pointsAt entries [timeMs] ++ ·)) := by
  rw [projectLoop, if_pos hle, ← next_eq hfirst, pointsAt, List.flatMap_singleton]

end Step

/-- The rounds suffice, and the boundary behind the horizon decides whether
the loop fails. -/
theorem projectFrom_eq (hstep : 0 < stepMs) (hend : endMs ≤ i64Max) {n rounds : ℕ} {first : Bool}
    {timeMs : ℤ} (hn : endMs / stepMs = timeMs / stepMs + n) (hrounds : n ≤ rounds)
    (hle : timeMs ≤ endMs) (hmin : i64Min ≤ timeMs) (hfirst : first = false → stepMs ∣ timeMs) :
    projectLoop entries endMs stepMs (rounds + 1) first timeMs =
        some (projectFrom entries endMs stepMs (rounds + 1) first timeMs) ∧
      projectFrom entries endMs stepMs (rounds + 1) first timeMs =
        if i64Max < nextBoundary stepMs endMs then .error .timestampOverflow
        else .ok (pointsAt entries (bucketTimes stepMs n timeMs)) := by
  rw [projectLoop_succ hle hfirst, projectFrom_succ hle hfirst]
  have hlt : timeMs < nextBoundary stepMs timeMs := lt_nextBoundary hstep
  induction n generalizing rounds first timeMs with
  | zero =>
    have hnext : nextBoundary stepMs timeMs = nextBoundary stepMs endMs := by
      rw [nextBoundary, nextBoundary, hn, Nat.cast_zero, add_zero]
    have hpast : endMs < nextBoundary stepMs endMs := lt_nextBoundary hstep
    rw [hnext]
    by_cases hover : i64Max < nextBoundary stepMs endMs
    · rw [checkedTime_error hover, if_pos hover]
      exact ⟨rfl, rfl⟩
    · rw [checkedTime_ok ⟨by omega, by omega⟩, if_neg hover]
      dsimp only [Except.bind]
      rw [if_pos hpast, if_pos hpast]
      exact ⟨rfl, rfl⟩
  | succ n ih =>
    have hinside : nextBoundary stepMs timeMs ≤ endMs := nextBoundary_le_end hstep hn
    obtain ⟨rounds, rfl⟩ := Nat.exists_eq_succ_of_ne_zero (by omega : rounds ≠ 0)
    have hdvd : false = false → stepMs ∣ nextBoundary stepMs timeMs := fun _ => dvd_nextBoundary
    obtain ⟨hloop, hfrom⟩ := @ih rounds false _ (by rw [nextBoundary_ediv hstep]; omega)
      (by omega) hinside (by omega) hdvd (lt_nextBoundary hstep)
    rw [← projectLoop_succ hinside hdvd, ← projectFrom_succ hinside hdvd] at hloop
    rw [← projectFrom_succ hinside hdvd] at hfrom
    rw [checkedTime_ok ⟨by omega, by omega⟩]
    dsimp only [Except.bind]
    rw [if_neg (not_lt.mpr hinside), if_neg (not_lt.mpr hinside), hloop, hfrom]
    refine ⟨rfl, ?_⟩
    split
    · rfl
    · exact congrArg Except.ok (pointsAt_cons ..).symm

end Loop

/-! ## The points -/

/-- The start, and the boundaries up to the horizon. -/
def IsBucketTime (startMs horizonMs stepMs timeMs : ℤ) : Prop :=
  timeMs = startMs ∨ (startMs < timeMs ∧ timeMs ≤ startMs + horizonMs ∧ stepMs ∣ timeMs)

/-- A point and the next one, at most a step later. -/
def NextPoint (stepMs : ℤ) (a b : ForecastPoint) : Prop :=
  a.timeMs < b.timeMs ∧ b.timeMs ≤ a.timeMs + stepMs

section Times

variable {entries : List ScheduleEntry} {endMs stepMs : ℤ} (hstep : 0 < stepMs)

include hstep

theorem mem_bucketTimes {n : ℕ} {timeMs : ℤ} (hn : endMs / stepMs = timeMs / stepMs + n)
    (hle : timeMs ≤ endMs) {t : ℤ} :
    t ∈ bucketTimes stepMs n timeMs ↔ t = timeMs ∨ (timeMs < t ∧ t ≤ endMs ∧ stepMs ∣ t) := by
  induction n generalizing timeMs with
  | zero =>
    rw [bucketTimes, List.mem_singleton, or_iff_left]
    rintro ⟨hlt, hend, hdvd⟩
    have hnext := nextBoundary_le_of_dvd hstep hdvd hlt
    have hpast : endMs < nextBoundary stepMs endMs := lt_nextBoundary hstep
    rw [nextBoundary, hn, Nat.cast_zero, add_zero] at hpast
    exact absurd (hpast.trans_le hnext) (not_lt.mpr hend)
  | succ n ih =>
    have hlt : timeMs < nextBoundary stepMs timeMs := lt_nextBoundary hstep
    have hinside : nextBoundary stepMs timeMs ≤ endMs := nextBoundary_le_end hstep hn
    rw [bucketTimes, List.mem_cons, ih (by rw [nextBoundary_ediv hstep]; omega) hinside]
    refine or_congr_right ⟨?_, ?_⟩
    · rintro (rfl | ⟨hafter, hend, hdvd⟩)
      · exact ⟨hlt, hinside, dvd_nextBoundary⟩
      · exact ⟨hlt.trans hafter, hend, hdvd⟩
    · rintro ⟨hafter, hend, hdvd⟩
      rcases (nextBoundary_le_of_dvd hstep hdvd hafter).eq_or_lt with heq | hbefore
      · exact .inl heq.symm
      · exact .inr ⟨hbefore, hend, hdvd⟩

theorem isChain_bucketTimes (n : ℕ) (timeMs : ℤ) :
    (bucketTimes stepMs n timeMs).IsChain fun a b => a < b ∧ b ≤ a + stepMs := by
  induction n generalizing timeMs with
  | zero => exact List.isChain_singleton _
  | succ n ih =>
    have hhead : (bucketTimes stepMs n (nextBoundary stepMs timeMs)).head? =
        some (nextBoundary stepMs timeMs) := by
      cases n <;> rfl
    rw [bucketTimes, List.isChain_cons, hhead]
    refine ⟨?_, ih _⟩
    intro t ht
    obtain rfl := Option.some.inj ht
    exact ⟨lt_nextBoundary hstep, nextBoundary_le hstep⟩

end Times

section Points

variable {entries : List ScheduleEntry} {stepMs : ℤ}

theorem mem_pointsAt {times : List ℤ} {point : ForecastPoint} :
    point ∈ pointsAt entries times ↔
      point.timeMs ∈ times ∧ weatherTypeAt entries point.timeMs = some point.weatherType := by
  rw [pointsAt, List.mem_flatMap]
  constructor
  · rintro ⟨timeMs, htime, hpoint⟩
    obtain ⟨weatherType, htype, rfl⟩ := Option.map_eq_some_iff.mp (Option.mem_toList.mp hpoint)
    exact ⟨htime, htype⟩
  · rintro ⟨htime, htype⟩
    refine ⟨_, htime, ?_⟩
    rw [htype]
    exact List.mem_singleton.mpr rfl

theorem weatherTypeAt_isSome_iff {timeMs : ℤ} :
    (weatherTypeAt entries timeMs).isSome ↔ ∃ entry ∈ entries.head?, entry.startsAtMs ≤ timeMs := by
  rw [weatherTypeAt, Option.isSome_map, weatherAt, partitionPoint]
  cases entries with
  | nil => simp
  | cons entry rest =>
    by_cases hstarted : entry.startsAtMs ≤ timeMs
    · rw [List.takeWhile_cons_of_pos (by simpa using hstarted), List.length_cons]
      have hlength := (List.takeWhile_prefix (l := rest)
        fun entry => decide (entry.startsAtMs ≤ timeMs)).length_le
      simp only [List.head?_cons, Option.mem_some_iff, exists_eq_left', hstarted, iff_true]
      rw [List.getElem?_eq_getElem (by rw [List.length_cons]; omega)]
      rfl
    · rw [List.takeWhile_cons_of_neg (by simpa using hstarted)]
      simpa using hstarted

/-- Once the schedule has begun, every time is covered. -/
theorem covered_of_le {s t : ℤ} (hle : s ≤ t) (hs : (weatherTypeAt entries s).isSome) :
    (weatherTypeAt entries t).isSome := by
  obtain ⟨entry, hentry, hstarted⟩ := weatherTypeAt_isSome_iff.mp hs
  exact weatherTypeAt_isSome_iff.mpr ⟨entry, hentry, hstarted.trans hle⟩

/-- Only the first times can be without a point. -/
theorem isChain_pointsAt {times : List ℤ}
    (h : times.IsChain fun a b => a < b ∧ b ≤ a + stepMs) :
    (pointsAt entries times).IsChain (NextPoint stepMs) := by
  induction times with
  | nil => exact List.isChain_nil
  | cons t times ih =>
    obtain ⟨hnext, htail⟩ := List.isChain_cons.mp h
    rw [pointsAt_cons, pointsAt, List.flatMap_singleton]
    cases htype : weatherTypeAt entries t with
    | none => exact ih htail
    | some weatherType =>
      refine List.isChain_cons.mpr ⟨fun point hpoint => ?_, ih htail⟩
      cases times with
      | nil => cases hpoint
      | cons u times =>
        obtain ⟨hlt, hle⟩ := hnext u rfl
        have hcovered := covered_of_le hlt.le (Option.isSome_iff_exists.mpr ⟨_, htype⟩)
        obtain ⟨nextType, hnextType⟩ := Option.isSome_iff_exists.mp hcovered
        rw [pointsAt_cons, pointsAt, List.flatMap_singleton, hnextType] at hpoint
        obtain rfl := Option.some.inj hpoint
        exact ⟨hlt, hle⟩

end Points

/-! ## The buckets -/

/-- The buckets that `forecast_points_to_proto` makes from the points. -/
def bucketsOf (stepMs : ℤ) : List ForecastPoint → List (ℤ × ℤ)
  | [] => []
  | [point] => [(point.timeMs, point.timeMs + stepMs)]
  | point :: next :: rest => (point.timeMs, next.timeMs) :: bucketsOf stepMs (next :: rest)

/-- The buckets that a time is in. -/
def bucketsAt (buckets : List (ℤ × ℤ)) (timeMs : ℤ) : List (ℤ × ℤ) :=
  buckets.filter fun bucket => bucket.1 ≤ timeMs && timeMs < bucket.2

/-- The buckets follow each other without gaps, and none is longer than a
step. -/
structure Tiles (stepMs : ℤ) (points : List ForecastPoint) (buckets : List (ℤ × ℤ)) : Prop where
  starts : buckets.map (·.1) = points.map (·.timeMs)
  contiguous : buckets.IsChain fun a b => a.2 = b.1
  short : ∀ bucket ∈ buckets, bucket.1 < bucket.2 ∧ bucket.2 ≤ bucket.1 + stepMs
  once : ∀ first ∈ points.head?, ∀ last ∈ points.getLast?, ∀ timeMs, first.timeMs ≤ timeMs →
    timeMs ≤ last.timeMs → (bucketsAt buckets timeMs).length = 1

section Buckets

variable {stepMs : ℤ} {points : List ForecastPoint}

theorem mapPoints_eq {schedule : List ScheduleEntry} (hmin : ∀ point ∈ points, i64Min ≤ point.timeMs + stepMs)
    (hmax : ∀ last ∈ points.getLast?, last.timeMs + stepMs ≤ i64Max) :
    mapPoints schedule stepMs points = .ok ((bucketsOf stepMs points).map fun bucket =>
      forecastPointToProto schedule bucket.1 bucket.2) := by
  induction points with
  | nil => rfl
  | cons point points ih =>
    cases points with
    | nil =>
      have hrange : i64Min ≤ point.timeMs + stepMs ∧ point.timeMs + stepMs ≤ i64Max :=
        ⟨hmin point List.mem_cons_self, hmax point rfl⟩
      rw [mapPoints, checkedI64, if_pos hrange]
      rfl
    | cons next points =>
      rw [mapPoints, ih (fun p hp => hmin p (List.mem_cons_of_mem _ hp)) fun last hlast =>
        hmax last (by rwa [List.getLast?_cons_cons])]
      rfl

theorem bucketsOf_starts (stepMs : ℤ) (points : List ForecastPoint) :
    (bucketsOf stepMs points).map (·.1) = points.map (·.timeMs) := by
  fun_induction bucketsOf stepMs points with
  | case1 => rfl
  | case2 point => rfl
  | case3 point next rest ih => rw [List.map_cons, List.map_cons, ih]

theorem bucketsOf_contiguous (stepMs : ℤ) (points : List ForecastPoint) :
    (bucketsOf stepMs points).IsChain fun a b => a.2 = b.1 := by
  fun_induction bucketsOf stepMs points with
  | case1 => exact List.isChain_nil
  | case2 point => exact List.isChain_singleton _
  | case3 point next rest ih =>
    refine List.isChain_cons.mpr ⟨fun bucket hbucket => ?_, ih⟩
    have hstart := congrArg List.head? (bucketsOf_starts stepMs (next :: rest))
    rw [List.head?_map, Option.mem_def.mp hbucket] at hstart
    exact (Option.some.inj hstart).symm

theorem bucketsOf_short (hstep : 0 < stepMs) (h : points.IsChain (NextPoint stepMs)) :
    ∀ bucket ∈ bucketsOf stepMs points, bucket.1 < bucket.2 ∧ bucket.2 ≤ bucket.1 + stepMs := by
  fun_induction bucketsOf stepMs points with
  | case1 => exact fun bucket hbucket => absurd hbucket List.not_mem_nil
  | case2 point =>
    intro bucket hbucket
    rw [List.mem_singleton.mp hbucket]
    exact ⟨by dsimp only; omega, le_rfl⟩
  | case3 point next rest ih =>
    obtain ⟨hnext, htail⟩ := List.isChain_cons.mp h
    intro bucket hbucket
    rcases List.mem_cons.mp hbucket with rfl | hbucket
    · exact hnext next rfl
    · exact ih htail bucket hbucket

theorem bucketsAt_before (h : points.IsChain (NextPoint stepMs)) {timeMs : ℤ}
    (hbefore : ∀ first ∈ points.head?, timeMs < first.timeMs) :
    bucketsAt (bucketsOf stepMs points) timeMs = [] := by
  fun_induction bucketsOf stepMs points with
  | case1 => rfl
  | case2 point => simp [bucketsAt, hbefore point rfl]
  | case3 point next rest ih =>
    obtain ⟨hnext, htail⟩ := List.isChain_cons.mp h
    have hpoint := hbefore point rfl
    have hrest := ih htail fun first hfirst => by
      obtain rfl := Option.some.inj hfirst
      exact hpoint.trans (hnext _ rfl).1
    rw [bucketsAt, List.filter_cons_of_neg (by simp [hpoint])]
    exact hrest

theorem bucketsAt_once (hstep : 0 < stepMs) (h : points.IsChain (NextPoint stepMs)) {timeMs : ℤ}
    {first last : ForecastPoint} (hfirst : first ∈ points.head?) (hlast : last ∈ points.getLast?)
    (hge : first.timeMs ≤ timeMs) (hle : timeMs ≤ last.timeMs) :
    (bucketsAt (bucketsOf stepMs points) timeMs).length = 1 := by
  fun_induction bucketsOf stepMs points generalizing first with
  | case1 => cases hfirst
  | case2 point =>
    obtain rfl : point = first := Option.some.inj hfirst
    obtain rfl : point = last := Option.some.inj hlast
    rw [bucketsAt, List.filter_cons_of_pos (by simp; omega), List.filter_nil]
    rfl
  | case3 point next rest ih =>
    obtain rfl := Option.some.inj hfirst
    obtain ⟨hnext, htail⟩ := List.isChain_cons.mp h
    by_cases hin : timeMs < next.timeMs
    · have hnone := bucketsAt_before htail fun first hfirst => by
        obtain rfl := Option.some.inj hfirst
        exact hin
      rw [bucketsAt, List.filter_cons_of_pos (by simp [hge, hin])]
      exact congrArg (List.length (α := ℤ × ℤ) · + 1) hnone
    · rw [bucketsAt, List.filter_cons_of_neg (by simp [hin])]
      exact ih htail rfl (by rwa [List.getLast?_cons_cons] at hlast) (not_lt.mp hin)

theorem tiles_bucketsOf (hstep : 0 < stepMs) (h : points.IsChain (NextPoint stepMs)) :
    Tiles stepMs points (bucketsOf stepMs points) where
  starts := bucketsOf_starts stepMs points
  contiguous := bucketsOf_contiguous stepMs points
  short := bucketsOf_short hstep h
  once _ hfirst _ hlast _ hge hle := bucketsAt_once hstep h hfirst hlast hge hle

end Buckets

/-! ## The forecast -/

/-- There is a point for each bucket time that the schedule covers, and they
are in order. -/
structure ForecastOf (entries : List ScheduleEntry) (startMs horizonMs stepMs : ℤ)
    (points : List ForecastPoint) : Prop where
  mem_iff : ∀ point, point ∈ points ↔ IsBucketTime startMs horizonMs stepMs point.timeMs ∧
    weatherTypeAt entries point.timeMs = some point.weatherType
  increasing : points.Pairwise fun a b => a.timeMs < b.timeMs

section Forecast

variable {entries : List ScheduleEntry} {startMs horizonMs stepMs : ℤ} {preset : ForecastPreset}

theorem presetWindow_spec (h : presetWindow preset = .ok (horizonMs, stepMs)) :
    0 < stepMs ∧ stepMs ≤ horizonMs ∧ stepMs ∣ horizonMs ∧ presetStepMs preset = .ok stepMs := by
  cases preset with
  | unspecified => cases h
  | oneHourStep15Min =>
    cases h
    decide
  | twelveHoursStep1Hour =>
    cases h
    decide

/-- The boundaries of a horizon are as many as it has steps. -/
theorem ediv_horizon (hstep : 0 < stepMs) (hhorizon : stepMs ≤ horizonMs)
    (hdvd : stepMs ∣ horizonMs) :
    (startMs + horizonMs) / stepMs = startMs / stepMs + ((horizonMs / stepMs).toNat : ℕ) := by
  rw [Int.add_ediv_of_dvd_right hdvd,
    Int.toNat_of_nonneg (Int.ediv_nonneg (hstep.le.trans hhorizon) hstep.le)]

theorem projectForecast_eq (hstart : i64Min ≤ startMs)
    (hpreset : presetWindow preset = .ok (horizonMs, stepMs)) (hentries : Increasing entries) :
    projectForecast entries startMs preset =
      if i64Max < nextBoundary stepMs (startMs + horizonMs) then .error .timestampOverflow
      else .ok (pointsAt entries (bucketTimes stepMs (horizonMs / stepMs).toNat startMs)) := by
  obtain ⟨hstep, hhorizon, hdvd, -⟩ := presetWindow_spec hpreset
  have hvalid : validateSchedule entries .allowAnywhere = .ok () :=
    (validateSchedule_ok_iff entries _).mpr ⟨hentries, fun htail => by cases htail⟩
  rw [projectForecast, hvalid, hpreset]
  dsimp only [bind, Except.bind]
  by_cases hend : startMs + horizonMs ≤ i64Max
  · rw [checkedTime_ok ⟨by omega, hend⟩]
    exact (projectFrom_eq hstep hend (ediv_horizon hstep hhorizon hdvd) (Nat.le_succ _)
      (le_add_of_nonneg_right (hstep.le.trans hhorizon)) hstart fun hfirst => by cases hfirst).2
  · have hpast : startMs + horizonMs < nextBoundary stepMs (startMs + horizonMs) :=
      lt_nextBoundary hstep
    rw [checkedTime_error (not_le.mp hend), if_pos (by omega)]

theorem projectForecast_error (hentries : ¬ Increasing entries) :
    ∃ err, projectForecast entries startMs preset = .error err := by
  cases hvalid : validateSchedule entries .allowAnywhere with
  | ok _ => exact absurd ((validateSchedule_ok_iff entries _).mp hvalid).1 hentries
  | error err =>
    refine ⟨err, ?_⟩
    rw [projectForecast, hvalid]
    rfl

theorem forecastOf_pointsAt (hstep : 0 < stepMs) (hhorizon : stepMs ≤ horizonMs)
    (hdvd : stepMs ∣ horizonMs) :
    ForecastOf entries startMs horizonMs stepMs
      (pointsAt entries (bucketTimes stepMs (horizonMs / stepMs).toNat startMs)) where
  mem_iff point := by
    rw [mem_pointsAt, mem_bucketTimes hstep (ediv_horizon hstep hhorizon hdvd)
      (le_add_of_nonneg_right (hstep.le.trans hhorizon))]
    rfl
  increasing := by
    have hchain : (pointsAt entries (bucketTimes stepMs (horizonMs / stepMs).toNat startMs)).IsChain
        (NextPoint stepMs) := isChain_pointsAt (isChain_bucketTimes hstep _ _)
    have htimes : ((pointsAt entries (bucketTimes stepMs (horizonMs / stepMs).toNat startMs)).map
        (·.timeMs)).IsChain (· < ·) :=
      (List.isChain_map _).mpr (hchain.imp fun _ _ h => h.1)
    exact List.pairwise_map.mp (List.isChain_iff_pairwise.mp htimes)

/-- The last bucket ends before the boundary that has been checked. -/
theorem forecastPointsToProto_eq (hstart : i64Min ≤ startMs)
    (hpreset : presetWindow preset = .ok (horizonMs, stepMs))
    (hover : ¬ i64Max < nextBoundary stepMs (startMs + horizonMs)) {points : List ForecastPoint}
    (hpoints : ForecastOf entries startMs horizonMs stepMs points) :
    forecastPointsToProto points entries preset =
      .ok ((bucketsOf stepMs points).map fun bucket =>
        forecastPointToProto entries bucket.1 bucket.2) := by
  obtain ⟨hstep, hhorizon, hdvd, hpresetStep⟩ := presetWindow_spec hpreset
  have htime : ∀ point ∈ points, IsBucketTime startMs horizonMs stepMs point.timeMs :=
    fun point hpoint => ((hpoints.mem_iff point).mp hpoint).1
  rw [forecastPointsToProto, hpresetStep]
  refine mapPoints_eq (fun point hpoint => ?_) fun last hlast => ?_
  · rcases htime point hpoint with heq | ⟨hlt, -, -⟩ <;> omega
  · have hpast : startMs + horizonMs < nextBoundary stepMs (startMs + horizonMs) :=
      lt_nextBoundary hstep
    rcases htime last (List.mem_of_getLast? hlast) with heq | ⟨-, hle, hboundary⟩
    · omega
    · have hnext : last.timeMs + stepMs ≤ nextBoundary stepMs (startMs + horizonMs) := by
        rw [add_eq_nextBoundary hboundary]
        exact mul_le_mul_of_nonneg_right
          (Int.add_le_add_right (Int.ediv_le_ediv hstep hle) 1) hstep.le
      omega

end Forecast

/-- A forecast fails only for a schedule that is out of order or when the
first boundary behind its horizon is no time any more; otherwise its buckets
cover every time from its first point to its last one once. -/
theorem forecast_buckets (entries : List ScheduleEntry) (startMs horizonMs stepMs : ℤ)
    (preset : ForecastPreset) (hstart : i64Min ≤ startMs)
    (hpreset : presetWindow preset = .ok (horizonMs, stepMs)) :
    (startMs + horizonMs ≤ i64Max →
      projectLoop entries (startMs + horizonMs) stepMs ((horizonMs / stepMs).toNat + 2) true startMs =
        some (projectFrom entries (startMs + horizonMs) stepMs ((horizonMs / stepMs).toNat + 2) true
          startMs)) ∧
    ((∃ err, projectForecast entries startMs preset = .error err) ↔
      ¬ Increasing entries ∨ i64Max < nextBoundary stepMs (startMs + horizonMs)) ∧
    ∀ points, projectForecast entries startMs preset = .ok points →
      ForecastOf entries startMs horizonMs stepMs points ∧
      forecastPointsToProto points entries preset =
        .ok ((bucketsOf stepMs points).map fun bucket =>
          forecastPointToProto entries bucket.1 bucket.2) ∧
      Tiles stepMs points (bucketsOf stepMs points) := by
  obtain ⟨hstep, hhorizon, hdvd, -⟩ := presetWindow_spec hpreset
  refine ⟨fun hend => ?_, ?_, fun points hpoints => ?_⟩
  · exact (projectFrom_eq hstep hend (ediv_horizon hstep hhorizon hdvd) (Nat.le_succ _)
      (le_add_of_nonneg_right (hstep.le.trans hhorizon)) hstart fun hfirst => by cases hfirst).1
  · by_cases hentries : Increasing entries
    · rw [projectForecast_eq hstart hpreset hentries]
      split <;> simp [*]
    · exact iff_of_true (projectForecast_error hentries) (.inl hentries)
  · have hentries : Increasing entries := by
      by_contra hentries
      obtain ⟨err, herr⟩ := projectForecast_error hentries
      rw [herr] at hpoints
      cases hpoints
    rw [projectForecast_eq hstart hpreset hentries] at hpoints
    split at hpoints
    · cases hpoints
    · rename_i hover
      obtain rfl := Except.ok.inj hpoints
      have hforecast : ForecastOf entries startMs horizonMs stepMs (pointsAt entries
          (bucketTimes stepMs (horizonMs / stepMs).toNat startMs)) :=
        forecastOf_pointsAt hstep hhorizon hdvd
      exact ⟨hforecast, forecastPointsToProto_eq hstart hpreset hover hforecast,
        tiles_bucketsOf hstep (isChain_pointsAt (isChain_bucketTimes hstep _ _))⟩

/-- The schedule begins after the start, and the forecast with the first
boundary after that. -/
theorem forecast_buckets_late :
    ∃ points, projectForecast [⟨60000, .clear, 20⟩] 10 .oneHourStep15Min = .ok points ∧
      Tiles (15 * minuteMs) points (bucketsOf (15 * minuteMs) points) := by
  have hforecast := forecast_buckets [⟨60000, .clear, 20⟩] 10 hourMs (15 * minuteMs)
    .oneHourStep15Min (by decide) rfl
  cases hpoints : projectForecast [⟨60000, .clear, 20⟩] 10 .oneHourStep15Min with
  | ok points => exact ⟨points, rfl, (hforecast.2.2 points hpoints).2.2⟩
  | error err =>
    rcases hforecast.2.1.mp ⟨err, hpoints⟩ with hentries | hover
    · exact absurd (List.isChain_singleton _) hentries
    · exact absurd hover (by decide)

/-- A forecast fails although all of its bucket times are in range; and a
covered time before the last point is in no bucket. -/
theorem forecast_buckets_gaps :
    (Increasing [] ∧
      projectForecast [] (i64Max - hourMs) .oneHourStep15Min = .error .timestampOverflow ∧
      ∀ timeMs, IsBucketTime (i64Max - hourMs) hourMs (15 * minuteMs) timeMs → timeMs ≤ i64Max) ∧
    (∃ points, projectForecast [⟨60000, .clear, 20⟩] 0 .oneHourStep15Min = .ok points ∧
      (weatherTypeAt [⟨60000, .clear, 20⟩] 60000).isSome ∧
      (∃ last ∈ points.getLast?, 60000 < last.timeMs) ∧
      bucketsAt (bucketsOf (15 * minuteMs) points) 60000 = []) := by
  refine ⟨⟨List.isChain_nil, by decide +kernel, ?_⟩, ?_⟩
  · rintro timeMs (rfl | ⟨-, hle, -⟩)
    · decide
    · exact hle.trans (by decide)
  · refine ⟨[⟨900000, .clear⟩, ⟨1800000, .clear⟩, ⟨2700000, .clear⟩, ⟨3600000, .clear⟩],
      by decide +kernel, by decide, ⟨_, rfl, by decide⟩, by decide⟩

end HackArena.Weather
