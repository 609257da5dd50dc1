import HackArena.Services.CarCalls

/-!
# The pit history of the official build

In the official build a pit stop is a visit to the fix zone: a longest
stretch of updates that find the car in the zone, closed by one that does
not. What the store keeps about the stops of a car can be read off the
calls made for it, and this module says how.
-/

namespace HackArena.Services

open Boink HackArena.Runtime

/-! ## Visits in a sequence of calls -/

/-- Whether an update finds the car in the fix zone. -/
def CarCall.zone : CarCall → Option Bool
  | .updatePitStateFromRuntime state _ _ => some (state.pitstopState.hasZone .fix)
  | _ => none

def zoneAt (calls : List CarCall) (i : ℕ) : Option Bool := calls[i]?.bind CarCall.zone

/-- What the last update found; a car that was never updated is outside. -/
def lastZone (calls : List CarCall) : Bool := ((calls.filterMap CarCall.zone).getLast?).getD false

/-- The update finds the car in the zone, the one before it did not. -/
def BeginsVisit (calls : List CarCall) (i : ℕ) : Prop :=
  zoneAt calls i = some true ∧ lastZone (calls.take i) = false

/-- The visit that begins at `i` has not been closed. -/
def OpenVisit (calls : List CarCall) (i : ℕ) : Prop :=
  BeginsVisit calls i ∧ ∀ k < calls.length, i < k → zoneAt calls k ≠ some false

/-- The visit that begins at `i` is closed by the update at `j`. -/
def IsVisit (calls : List CarCall) (i j : ℕ) : Prop :=
  OpenVisit (calls.take j) i ∧ zoneAt calls j = some false

instance (calls : List CarCall) (i : ℕ) : Decidable (BeginsVisit calls i) :=
  inferInstanceAs (Decidable (_ ∧ _))

instance (calls : List CarCall) (i : ℕ) : Decidable (OpenVisit calls i) :=
  inferInstanceAs (Decidable (_ ∧ _))

instance (calls : List CarCall) (i j : ℕ) : Decidable (IsVisit calls i j) :=
  inferInstanceAs (Decidable (_ ∧ _))

/-- The closed visits, oldest first. -/
def completedVisits (calls : List CarCall) : List (ℕ × ℕ) :=
  (List.range calls.length).filterMap fun j =>
    ((List.range j).find? fun i => IsVisit calls i j).map fun i => (i, j)

/-! ## What a visit is recorded with -/

def CarCall.isEmergency : CarCall → Bool
  | .markEmergencyPitstopRequested _ => true
  | _ => false

def CarCall.pitRequest : CarCall → Option Bool
  | .setPitRequestActive active => some active
  | _ => none

/-- An emergency stop was requested and no visit has begun since. -/
def EmergencyPending (calls : List CarCall) : Prop :=
  ∃ m < calls.length, (calls[m]?.map CarCall.isEmergency) = some true ∧
    ∀ k < calls.length, m < k → ¬ BeginsVisit calls k

/-- A stop was requested, and since then neither was the request changed
nor has a visit begun. -/
def RequestPending (calls : List CarCall) : Prop :=
  ∃ m < calls.length, calls[m]?.bind CarCall.pitRequest = some true ∧
    ∀ k < calls.length, m < k →
      ¬ BeginsVisit calls k ∧ calls[k]?.bind CarCall.pitRequest = none

instance (calls : List CarCall) : Decidable (EmergencyPending calls) :=
  inferInstanceAs (Decidable (∃ m < _, _))

instance (calls : List CarCall) : Decidable (RequestPending calls) :=
  inferInstanceAs (Decidable (∃ m < _, _))

/-- The source of a visit that begins after the calls. -/
def pitSource (calls : List CarCall) : RuntimePitEntrySource :=
  if EmergencyPending calls then .emergency
  else if RequestPending calls then .requested
  else .botDecision

/-- The lap that came with an update. -/
def CarCall.lap : CarCall → Option ℕ
  | .updatePitStateFromRuntime _ raceMetrics _ => raceMetrics.map (·.completedLaps)
  | _ => none

/-- The lap of the latest visit that began with race metrics. -/
def lastLap (calls : List CarCall) : ℕ :=
  ((((List.range calls.length).filter fun i => BeginsVisit calls i).filterMap fun i =>
    calls[i]?.bind CarCall.lap).getLast?).getD 0

def CarCall.slot : CarCall → Option (Option ℤ)
  | .setActiveBotSlot slotIndex => some (some slotIndex)
  | .clearActiveBotSlot => some none
  | _ => none

/-- The bot slot after the calls; a car without identity has none. -/
def botSlot (identity : Option RuntimeCarIdentity) (calls : List CarCall) : ℕ :=
  match identity.bind fun identity =>
      ((calls.filterMap CarCall.slot).getLast?).getD identity.activeBotSlot with
  | none => 1
  | some slot => (max slot 1).toNat

/-- The history entry of a visit from `i` to `j`. -/
def visitEntry (identity : Option RuntimeCarIdentity) (calls : List CarCall) :
    ℕ × ℕ → Option RuntimePitHistoryEntry
  | (i, j) =>
      match calls[i]?, calls[j]? with
      | some (.updatePitStateFromRuntime entered raceMetrics nowMs),
        some (.updatePitStateFromRuntime left _ _) => some
          { pitTimeMs := nowMs
            lap := (raceMetrics.map (·.completedLaps)).getD (lastLap (calls.take i))
            source := pitSource (calls.take i)
            tireTypeAfter := runtimeTireTypeFromEngine left.tyreType
            tireTypeBefore := runtimeTireTypeFromEngine entered.tyreType
            tireWearBeforeRepair := entered.tyreHealth
            tireTemperatureBeforeCelsius := entered.tyreTemperatureCelsius
            tireTemperatureAfterCelsius := left.tyreTemperatureCelsius
            botSlotBefore := botSlot identity (calls.take i)
            botSlotAfter := botSlot identity (calls.take j) }
      | _, _ => none

/-! ## One more call -/

section Snoc

variable {calls : List CarCall} {c : CarCall} {i : ℕ}

theorem zoneAt_append_of_lt (hi : i < calls.length) :
    zoneAt (calls ++ [c]) i = zoneAt calls i := by
  rw [zoneAt, zoneAt, List.getElem?_append_left hi]

theorem zoneAt_append_length : zoneAt (calls ++ [c]) calls.length = c.zone := by
  simp [zoneAt]

theorem take_append_of_le (hi : i ≤ calls.length) : (calls ++ [c]).take i = calls.take i := by
  rw [List.take_append_of_le_length hi]

theorem lt_length_of_zoneAt {z : Bool} (h : zoneAt calls i = some z) : i < calls.length := by
  by_contra hi
  rw [zoneAt, List.getElem?_eq_none (Nat.not_lt.mp hi)] at h
  cases h

theorem lastZone_append : lastZone (calls ++ [c]) = c.zone.getD (lastZone calls) := by
  rw [lastZone, lastZone, List.filterMap_append]
  cases hzone : c.zone <;> simp [hzone]

theorem beginsVisit_append_of_lt (hi : i < calls.length) :
    BeginsVisit (calls ++ [c]) i ↔ BeginsVisit calls i := by
  rw [BeginsVisit, BeginsVisit, zoneAt_append_of_lt hi, take_append_of_le hi.le]

theorem beginsVisit_append_length :
    BeginsVisit (calls ++ [c]) calls.length ↔ c.zone = some true ∧ lastZone calls = false := by
  rw [BeginsVisit, zoneAt_append_length, take_append_of_le le_rfl, List.take_length]

theorem isVisit_append_of_lt {j : ℕ} (hj : j < calls.length) :
    IsVisit (calls ++ [c]) i j ↔ IsVisit calls i j := by
  rw [IsVisit, IsVisit, zoneAt_append_of_lt hj, take_append_of_le hj.le]

theorem isVisit_append_length :
    IsVisit (calls ++ [c]) i calls.length ↔ OpenVisit calls i ∧ c.zone = some false := by
  rw [IsVisit, zoneAt_append_length, take_append_of_le le_rfl, List.take_length]

/-- The visit that the last call closes, if it closes one. -/
theorem completedVisits_append : completedVisits (calls ++ [c]) = completedVisits calls ++
    (((List.range calls.length).find? fun i => OpenVisit calls i ∧ c.zone = some false).map
      fun i => (i, calls.length)).toList := by
  rw [completedVisits, List.length_append, List.length_singleton, List.range_succ,
    List.filterMap_append]
  congr 1
  · rw [completedVisits]
    apply List.filterMap_congr
    intro j hj
    have hlt := List.mem_range.mp hj
    simp only [isVisit_append_of_lt hlt]
  · simp only [isVisit_append_length, List.filterMap_cons, List.filterMap_nil]
    cases List.find? _ _ <;> rfl

theorem openVisit_append : OpenVisit (calls ++ [c]) i ↔
    OpenVisit calls i ∧ c.zone ≠ some false ∨
      i = calls.length ∧ c.zone = some true ∧ lastZone calls = false := by
  constructor
  · rintro ⟨hbegins, hlater⟩
    have hi := lt_length_of_zoneAt hbegins.1
    rw [List.length_append, List.length_singleton] at hi hlater
    rcases Nat.lt_succ_iff_lt_or_eq.mp hi with hlt | rfl
    · refine Or.inl ⟨⟨(beginsVisit_append_of_lt hlt).mp hbegins, fun k hk hik => ?_⟩, ?_⟩
      · rw [← zoneAt_append_of_lt hk (c := c)]
        exact hlater k (by omega) hik
      · have hzone := hlater calls.length (by omega) hlt
        rwa [zoneAt_append_length] at hzone
    · exact Or.inr ⟨rfl, beginsVisit_append_length.mp hbegins⟩
  · rintro (⟨⟨hbegins, hlater⟩, hc⟩ | ⟨rfl, hc, hlast⟩)
    · have hi := lt_length_of_zoneAt hbegins.1
      refine ⟨(beginsVisit_append_of_lt hi).mpr hbegins, fun k hk hik => ?_⟩
      rw [List.length_append, List.length_singleton] at hk
      rcases Nat.lt_succ_iff_lt_or_eq.mp hk with hlt | rfl
      · rw [zoneAt_append_of_lt hlt]
        exact hlater k hlt hik
      · rwa [zoneAt_append_length]
    · refine ⟨beginsVisit_append_length.mpr ⟨hc, hlast⟩, fun k hk hik => ?_⟩
      rw [List.length_append, List.length_singleton] at hk
      omega

end Snoc

/-- A visit is open exactly while the last update found the car in the
zone. -/
theorem lastZone_eq_true (calls : List CarCall) :
    lastZone calls = true ↔ ∃ i, OpenVisit calls i := by
  induction calls using List.reverseRecOn with
  | nil => simp [lastZone, OpenVisit, BeginsVisit, zoneAt]
  | append_singleton calls c ih =>
      rw [lastZone_append]
      simp only [openVisit_append]
      cases hzone : c.zone with
      | none => simpa using ih
      | some z =>
          cases z with
          | false => simp
          | true =>
              cases hlast : lastZone calls with
              | false => simp
              | true =>
                  obtain ⟨i, hi⟩ := ih.mp hlast
                  exact ⟨fun _ => ⟨i, Or.inl ⟨hi, by simp⟩⟩, fun _ => rfl⟩

theorem OpenVisit.unique {calls : List CarCall} {i j : ℕ} (hi : OpenVisit calls i)
    (hj : OpenVisit calls j) : i = j := by
  induction calls using List.reverseRecOn with
  | nil => simp [OpenVisit, BeginsVisit, zoneAt] at hi
  | append_singleton calls c ih =>
      have hclosed : lastZone calls = false → ∀ k, ¬ OpenVisit calls k := by
        intro hlast k hk
        rw [(lastZone_eq_true calls).mpr ⟨k, hk⟩] at hlast
        cases hlast
      rcases openVisit_append.mp hi with ⟨hi, -⟩ | ⟨rfl, -, hlast⟩ <;>
        rcases openVisit_append.mp hj with ⟨hj, -⟩ | ⟨rfl, -, hlast'⟩
      · exact ih hi hj
      · exact (hclosed hlast' i hi).elim
      · exact (hclosed hlast j hj).elim
      · rfl

/-- The last call closes the open visit when it leaves the zone. -/
theorem completedVisits_closes {calls : List CarCall} {c : CarCall} {i : ℕ}
    (hi : OpenVisit calls i) (hc : c.zone = some false) :
    completedVisits (calls ++ [c]) = completedVisits calls ++ [(i, calls.length)] := by
  rw [completedVisits_append]
  have hmem : i ∈ List.range calls.length := List.mem_range.mpr (lt_length_of_zoneAt hi.1.1)
  have hfind : ((List.range calls.length).find? fun i => OpenVisit calls i ∧ c.zone = some false) =
      some i := by
    cases hfind : (List.range calls.length).find?
        fun i => OpenVisit calls i ∧ c.zone = some false with
    | none =>
        have hnot := List.find?_eq_none.mp hfind i hmem
        simp [hi, hc] at hnot
    | some j =>
        have hj := List.find?_some hfind
        rw [decide_eq_true_iff] at hj
        rw [hi.unique hj.1]
  rw [hfind]
  rfl

theorem completedVisits_continues {calls : List CarCall} {c : CarCall}
    (h : lastZone calls = false ∨ c.zone ≠ some false) :
    completedVisits (calls ++ [c]) = completedVisits calls := by
  rw [completedVisits_append]
  have hfind : ((List.range calls.length).find? fun i => OpenVisit calls i ∧ c.zone = some false) =
      none := by
    rw [List.find?_eq_none]
    intro i _
    rw [decide_eq_true_iff]
    rintro ⟨hi, hc⟩
    rcases h with hlast | hne
    · rw [(lastZone_eq_true calls).mpr ⟨i, hi⟩] at hlast
      cases hlast
    · exact hne hc
  rw [hfind]
  simp

/-! ## Requests, laps and slots after one more call -/

/-- The last position with `A`, when `B` holds at all later ones, is the
newest position or an older one. -/
theorem exists_last_succ {A B : ℕ → Prop} {n : ℕ} :
    (∃ m < n + 1, A m ∧ ∀ k < n + 1, m < k → B k) ↔
      A n ∨ (∃ m < n, A m ∧ ∀ k < n, m < k → B k) ∧ B n := by
  constructor
  · rintro ⟨m, hm, hA, hB⟩
    rcases Nat.lt_succ_iff_lt_or_eq.mp hm with hlt | rfl
    · exact Or.inr ⟨⟨m, hlt, hA, fun k hk => hB k (by omega)⟩, hB n (by omega) hlt⟩
    · exact Or.inl hA
  · rintro (hA | ⟨⟨m, hm, hA, hB⟩, hBn⟩)
    · exact ⟨n, by omega, hA, fun k hk hnk => by omega⟩
    · refine ⟨m, by omega, hA, fun k hk hmk => ?_⟩
      rcases Nat.lt_succ_iff_lt_or_eq.mp hk with hlt | rfl
      · exact hB k hlt hmk
      · exact hBn

section Snoc

variable {calls : List CarCall} {c : CarCall}

/-- The calls begin a visit with their last one. -/
def Enters (calls : List CarCall) (c : CarCall) : Prop :=
  c.zone = some true ∧ lastZone calls = false

instance (calls : List CarCall) (c : CarCall) : Decidable (Enters calls c) :=
  inferInstanceAs (Decidable (_ ∧ _))

theorem emergencyPending_append : EmergencyPending (calls ++ [c]) ↔
    c.isEmergency = true ∨ EmergencyPending calls ∧ ¬ Enters calls c := by
  rw [EmergencyPending, List.length_append, List.length_singleton, exists_last_succ]
  have hold : (∃ m < calls.length, (calls ++ [c])[m]?.map CarCall.isEmergency = some true ∧
      ∀ k < calls.length, m < k → ¬ BeginsVisit (calls ++ [c]) k) ↔ EmergencyPending calls := by
    apply exists_congr
    intro m
    apply and_congr_right
    intro hm
    rw [List.getElem?_append_left hm]
    apply and_congr_right
    intro _
    apply forall₂_congr
    intro k hk
    rw [beginsVisit_append_of_lt hk]
  rw [hold, beginsVisit_append_length, Enters]
  simp

theorem requestPending_append : RequestPending (calls ++ [c]) ↔
    c.pitRequest = some true ∨ RequestPending calls ∧ ¬ Enters calls c ∧ c.pitRequest = none := by
  rw [RequestPending, List.length_append, List.length_singleton, exists_last_succ]
  have hold : (∃ m < calls.length, (calls ++ [c])[m]?.bind CarCall.pitRequest = some true ∧
      ∀ k < calls.length, m < k → ¬ BeginsVisit (calls ++ [c]) k ∧
        (calls ++ [c])[k]?.bind CarCall.pitRequest = none) ↔ RequestPending calls := by
    apply exists_congr
    intro m
    apply and_congr_right
    intro hm
    rw [List.getElem?_append_left hm]
    apply and_congr_right
    intro _
    apply forall₂_congr
    intro k hk
    rw [beginsVisit_append_of_lt hk, List.getElem?_append_left hk]
  rw [hold, beginsVisit_append_length, Enters]
  simp

theorem lastLap_append : lastLap (calls ++ [c]) =
    if Enters calls c then c.lap.getD (lastLap calls) else lastLap calls := by
  have hbegins : (List.range calls.length).filter (fun i => BeginsVisit (calls ++ [c]) i) =
      (List.range calls.length).filter fun i => BeginsVisit calls i := by
    apply List.filter_congr
    intro i hi
    simp only [beginsVisit_append_of_lt (List.mem_range.mp hi)]
  have hlaps : ((List.range calls.length).filter fun i => BeginsVisit calls i).filterMap
      (fun i => (calls ++ [c])[i]?.bind CarCall.lap) =
      ((List.range calls.length).filter fun i => BeginsVisit calls i).filterMap
        fun i => calls[i]?.bind CarCall.lap := by
    apply List.filterMap_congr
    intro i hi
    rw [List.getElem?_append_left (List.mem_range.mp (List.mem_filter.mp hi).1)]
  rw [lastLap, lastLap, List.length_append, List.length_singleton, List.range_succ,
    List.filter_append, hbegins, List.filterMap_append, hlaps]
  by_cases henters : Enters calls c
  · have hlast : BeginsVisit (calls ++ [c]) calls.length := beginsVisit_append_length.mpr henters
    cases hlap : c.lap <;> simp [henters, hlast, hlap]
  · have hlast : ¬ BeginsVisit (calls ++ [c]) calls.length :=
      fun h => henters (beginsVisit_append_length.mp h)
    simp [henters, hlast]

theorem visitEntry_append_of_lt (identity : Option RuntimeCarIdentity) {i j : ℕ}
    (hi : i < calls.length) (hj : j < calls.length) :
    visitEntry identity (calls ++ [c]) (i, j) = visitEntry identity calls (i, j) := by
  rw [visitEntry, visitEntry, List.getElem?_append_left hi, List.getElem?_append_left hj,
    take_append_of_le hi.le, take_append_of_le hj.le]

end Snoc

theorem lt_of_mem_completedVisits {calls : List CarCall} {i j : ℕ}
    (h : (i, j) ∈ completedVisits calls) : i < j ∧ j < calls.length := by
  obtain ⟨k, hk, hmap⟩ := List.mem_filterMap.mp h
  obtain ⟨m, hm, heq⟩ := Option.map_eq_some_iff.mp hmap
  cases heq
  exact ⟨List.mem_range.mp (List.mem_of_find?_eq_some hm), List.mem_range.mp hk⟩

/-! ## What the store keeps of it -/

/-- The part of a pit state that is about stops. -/
structure PitTrack where
  pitRequestActive : Bool
  emergencyIntentPending : Bool
  wasInFixZone : Bool
  activeFixSession : Option RuntimeActiveFixSession
  history : List RuntimePitHistoryEntry
  lastPitSource : RuntimePitEntrySource
  lastPitLap : ℕ

def RuntimePitState.track (e : RuntimePitState) : PitTrack :=
  ⟨e.pitRequestActive, e.emergencyIntentPending, e.wasInFixZone, e.activeFixSession, e.history,
    e.lastPitSource, e.lastPitLap⟩

/-- What is kept of a visit that begins with an update. -/
def sessionOf (identity : Option RuntimeCarIdentity) (before : List CarCall) :
    CarCall → Option RuntimeActiveFixSession
  | .updatePitStateFromRuntime state raceMetrics nowMs => some
      { entryTimeMs := nowMs
        entryLap := (raceMetrics.map (·.completedLaps)).getD (lastLap before)
        source := pitSource before
        tireTypeBefore := runtimeTireTypeFromEngine state.tyreType
        tireWearBeforeRepair := state.tyreHealth
        tireTemperatureBeforeCelsius := state.tyreTemperatureCelsius
        botSlotBefore := botSlot identity before }
  | _ => none

/-- While a visit is open, the latest lap is the one it began with. -/
theorem OpenVisit.lastLap {calls : List CarCall} {i : ℕ} (h : OpenVisit calls i) :
    Services.lastLap calls =
      (calls[i]?.bind CarCall.lap).getD (Services.lastLap (calls.take i)) := by
  induction calls using List.reverseRecOn with
  | nil => simp [OpenVisit, BeginsVisit, zoneAt] at h
  | append_singleton calls c ih =>
      rcases openVisit_append.mp h with ⟨hi, -⟩ | ⟨rfl, hc, hlast⟩
      · have hlt := lt_length_of_zoneAt hi.1.1
        have hstays : ¬ Enters calls c := by
          simp [Enters, (lastZone_eq_true calls).mpr ⟨i, hi⟩]
        rw [lastLap_append, if_neg hstays, take_append_of_le hlt.le,
          List.getElem?_append_left hlt]
        exact ih hi
      · have henters : Enters calls c := ⟨hc, hlast⟩
        rw [lastLap_append, if_pos henters, take_append_of_le le_rfl, List.take_length]
        simp

/-- An open visit began with an update. -/
theorem OpenVisit.call {calls : List CarCall} {i : ℕ} (h : OpenVisit calls i) :
    ∃ state raceMetrics nowMs,
      calls[i]? = some (.updatePitStateFromRuntime state raceMetrics nowMs) := by
  have hzone := h.1.1
  rw [zoneAt] at hzone
  obtain ⟨c, hc, hsome⟩ := Option.bind_eq_some_iff.mp hzone
  cases c <;> simp only [CarCall.zone, reduceCtorEq] at hsome
  exact ⟨_, _, _, hc⟩

/-- The stops kept for a car are those of the calls made for it. -/
structure Tracks (identity : Option RuntimeCarIdentity) (calls : List CarCall) (t : PitTrack) :
    Prop where
  zone : t.wasInFixZone = lastZone calls
  emergency : t.emergencyIntentPending = true ↔ EmergencyPending calls
  request : t.pitRequestActive = true ↔ RequestPending calls
  closed : lastZone calls = false → t.activeFixSession = none ∧ t.lastPitLap = lastLap calls
  opened : ∀ i, OpenVisit calls i → t.lastPitLap = lastLap (calls.take i) ∧
    t.activeFixSession.isSome ∧
    t.activeFixSession = calls[i]?.bind (sessionOf identity (calls.take i))
  history : t.history.map some =
    ((completedVisits calls).reverse.take pitHistoryMaxEntries).map (visitEntry identity calls)
  front : ∀ h ∈ t.history.head?, t.lastPitSource = h.source ∧ t.lastPitLap = h.lap

theorem tracks_nil (identity : Option RuntimeCarIdentity) :
    Tracks identity [] RuntimePitState.default.track where
  zone := rfl
  emergency := by simp [RuntimePitState.default, RuntimePitState.track, EmergencyPending]
  request := by simp [RuntimePitState.default, RuntimePitState.track, RequestPending]
  closed := fun _ => ⟨rfl, rfl⟩
  opened := by simp [OpenVisit, BeginsVisit, zoneAt]
  history := rfl
  front := by simp [RuntimePitState.default, RuntimePitState.track]

section Step

variable {identity : Option RuntimeCarIdentity} {calls : List CarCall} {c : CarCall} {t : PitTrack}

theorem visitEntries_append :
    ((completedVisits calls).reverse.take pitHistoryMaxEntries).map
        (visitEntry identity (calls ++ [c])) =
      ((completedVisits calls).reverse.take pitHistoryMaxEntries).map
        (visitEntry identity calls) := by
  apply List.map_congr_left
  rintro ⟨i, j⟩ hmem
  have hlt := lt_of_mem_completedVisits (List.mem_reverse.mp (List.mem_of_mem_take hmem))
  exact visitEntry_append_of_lt identity (hlt.1.trans hlt.2) hlt.2

/-- A call that is no update and leaves the stops alone, up to the two
requests. -/
theorem Tracks.other (h : Tracks identity calls t) (hzone : c.zone = none) {e p : Bool}
    (he : e = true ↔ EmergencyPending (calls ++ [c])) (hp : p = true ↔ RequestPending (calls ++ [c])) :
    Tracks identity (calls ++ [c])
      { t with emergencyIntentPending := e, pitRequestActive := p } := by
  have hlast : lastZone (calls ++ [c]) = lastZone calls := by simp [lastZone_append, hzone]
  have henters : ¬ Enters calls c := by simp [Enters, hzone]
  have hlap : lastLap (calls ++ [c]) = lastLap calls := by rw [lastLap_append, if_neg henters]
  constructor
  · exact h.zone.trans hlast.symm
  · exact he
  · exact hp
  · rw [hlast, hlap]
    exact h.closed
  · intro i hi
    rcases openVisit_append.mp hi with ⟨hi, -⟩ | ⟨-, hc, -⟩
    · have hlt := lt_length_of_zoneAt hi.1.1
      rw [take_append_of_le hlt.le, List.getElem?_append_left hlt]
      exact h.opened i hi
    · rw [hzone] at hc
      cases hc
  · rw [completedVisits_continues (Or.inr (by simp [hzone])), visitEntries_append]
    exact h.history
  · exact h.front

theorem Tracks.entrySource {entry : RuntimePitState} (h : Tracks identity calls entry.track) :
    entry.entrySource = pitSource calls := by
  have he := h.emergency
  have hp := h.request
  simp only [RuntimePitState.track] at he hp
  simp only [RuntimePitState.entrySource, pitSource, he, hp]

variable {entry : RuntimePitState} {state : VehicleState} {raceMetrics : Option VehicleRaceMetrics}
  {slot nowMs : ℕ}

/-- An update outside the zone while no visit is open. -/
theorem Tracks.away (h : Tracks identity calls entry.track)
    (hin : state.pitstopState.hasZone .fix = false) (hlast : lastZone calls = false) :
    Tracks identity (calls ++ [.updatePitStateFromRuntime state raceMetrics nowMs])
      (entry.trackFixSession state raceMetrics slot nowMs).track := by
  have hwas : entry.wasInFixZone = false := h.zone.trans hlast
  have htrack : (entry.trackFixSession state raceMetrics slot nowMs).track =
      { entry.track with wasInFixZone := false } := by
    simp [RuntimePitState.trackFixSession, RuntimePitState.track, hin, hwas]
  rw [htrack]
  have henters : ¬ Enters calls (.updatePitStateFromRuntime state raceMetrics nowMs) := by
    simp [Enters, CarCall.zone, hin]
  constructor
  · simp [lastZone_append, CarCall.zone, hin]
  · simpa [emergencyPending_append, CarCall.isEmergency, henters] using h.emergency
  · simpa [requestPending_append, CarCall.pitRequest, henters] using h.request
  · intro _
    rw [lastLap_append, if_neg henters]
    exact h.closed hlast
  · intro i hi
    rcases openVisit_append.mp hi with ⟨-, hc⟩ | ⟨-, hc, -⟩ <;> simp [CarCall.zone, hin] at hc
  · rw [completedVisits_continues (Or.inl hlast), visitEntries_append]
    exact h.history
  · exact h.front

/-- An update that finds the car still in the zone. -/
theorem Tracks.stays (h : Tracks identity calls entry.track)
    (hin : state.pitstopState.hasZone .fix = true) (hlast : lastZone calls = true) :
    Tracks identity (calls ++ [.updatePitStateFromRuntime state raceMetrics nowMs])
      (entry.trackFixSession state raceMetrics slot nowMs).track := by
  have hwas : entry.wasInFixZone = true := h.zone.trans hlast
  have htrack : (entry.trackFixSession state raceMetrics slot nowMs).track =
      { entry.track with wasInFixZone := true } := by
    simp [RuntimePitState.trackFixSession, RuntimePitState.track, hin, hwas]
  rw [htrack]
  have henters : ¬ Enters calls (.updatePitStateFromRuntime state raceMetrics nowMs) := by
    simp [Enters, hlast]
  constructor
  · simp [lastZone_append, CarCall.zone, hin]
  · simpa [emergencyPending_append, CarCall.isEmergency, henters] using h.emergency
  · simpa [requestPending_append, CarCall.pitRequest, henters] using h.request
  · simp [lastZone_append, CarCall.zone, hin]
  · intro i hi
    rcases openVisit_append.mp hi with ⟨hi, -⟩ | ⟨-, -, hfalse⟩
    · have hlt := lt_length_of_zoneAt hi.1.1
      rw [take_append_of_le hlt.le, List.getElem?_append_left hlt]
      exact h.opened i hi
    · simp [hlast] at hfalse
  · rw [completedVisits_continues (Or.inr (by simp [CarCall.zone, hin])), visitEntries_append]
    exact h.history
  · exact h.front

/-- An update that begins a visit. -/
theorem Tracks.enters (h : Tracks identity calls entry.track)
    (hin : state.pitstopState.hasZone .fix = true) (hlast : lastZone calls = false)
    (hslot : slot = botSlot identity calls) :
    Tracks identity (calls ++ [.updatePitStateFromRuntime state raceMetrics nowMs])
      (entry.trackFixSession state raceMetrics slot nowMs).track := by
  have hwas : entry.wasInFixZone = false := h.zone.trans hlast
  have hlap : entry.lastPitLap = lastLap calls := (h.closed hlast).2
  have htrack : (entry.trackFixSession state raceMetrics slot nowMs).track =
      { entry.track with
        wasInFixZone := true
        pitRequestActive := false
        emergencyIntentPending := false
        activeFixSession := sessionOf identity calls
          (.updatePitStateFromRuntime state raceMetrics nowMs) } := by
    simp [RuntimePitState.trackFixSession, RuntimePitState.track, hin, hwas, sessionOf,
      h.entrySource, hlap, hslot]
  rw [htrack]
  have henters : Enters calls (.updatePitStateFromRuntime state raceMetrics nowMs) := by
    simp [Enters, CarCall.zone, hin, hlast]
  constructor
  · simp [lastZone_append, CarCall.zone, hin]
  · simp [emergencyPending_append, CarCall.isEmergency, henters]
  · simp [requestPending_append, CarCall.pitRequest, henters]
  · simp [lastZone_append, CarCall.zone, hin]
  · intro i hi
    rcases openVisit_append.mp hi with ⟨hi, -⟩ | ⟨rfl, -, -⟩
    · rw [(lastZone_eq_true calls).mpr ⟨i, hi⟩] at hlast
      cases hlast
    · rw [take_append_of_le le_rfl, List.take_length]
      exact ⟨hlap, rfl, by simp⟩
  · rw [completedVisits_continues (Or.inl hlast), visitEntries_append]
    exact h.history
  · exact h.front

/-- An update that closes a visit. -/
theorem Tracks.leaves (h : Tracks identity calls entry.track)
    (hin : state.pitstopState.hasZone .fix = false) (hlast : lastZone calls = true)
    (hslot : slot = botSlot identity calls) :
    Tracks identity (calls ++ [.updatePitStateFromRuntime state raceMetrics nowMs])
      (entry.trackFixSession state raceMetrics slot nowMs).track := by
  have hwas : entry.wasInFixZone = true := h.zone.trans hlast
  obtain ⟨i, hi⟩ := (lastZone_eq_true calls).mp hlast
  have hlt := lt_length_of_zoneAt hi.1.1
  obtain ⟨entered, metrics, enteredMs, hcall⟩ := hi.call
  have hlap := hi.lastLap
  have hsession := (h.opened i hi).2.2
  rw [hcall] at hlap hsession
  simp only [RuntimePitState.track, Option.bind_some, sessionOf, CarCall.lap] at hlap hsession
  set record : RuntimePitHistoryEntry :=
    { pitTimeMs := enteredMs
      lap := lastLap calls
      source := pitSource (calls.take i)
      tireTypeAfter := runtimeTireTypeFromEngine state.tyreType
      tireTypeBefore := runtimeTireTypeFromEngine entered.tyreType
      tireWearBeforeRepair := entered.tyreHealth
      tireTemperatureBeforeCelsius := entered.tyreTemperatureCelsius
      tireTemperatureAfterCelsius := state.tyreTemperatureCelsius
      botSlotBefore := botSlot identity (calls.take i)
      botSlotAfter := botSlot identity calls } with hrecord
  have htrack : (entry.trackFixSession state raceMetrics slot nowMs).track =
      { entry.track with
        wasInFixZone := false
        activeFixSession := none
        history := (record :: entry.history).take pitHistoryMaxEntries
        lastPitSource := record.source
        lastPitLap := record.lap } := by
    simp [RuntimePitState.trackFixSession, RuntimePitState.track, RuntimePitState.pushHistory,
      hin, hwas, hsession, hrecord, hlap, hslot]
  have hclosed : visitEntry identity
      (calls ++ [.updatePitStateFromRuntime state raceMetrics nowMs]) (i, calls.length) =
      some record := by
    rw [visitEntry, List.getElem?_append_left hlt, take_append_of_le hlt.le,
      take_append_of_le le_rfl, List.take_length, hcall]
    simp [hrecord, hlap]
  rw [htrack]
  have henters : ¬ Enters calls (.updatePitStateFromRuntime state raceMetrics nowMs) := by
    simp [Enters, hlast]
  constructor
  · simp [lastZone_append, CarCall.zone, hin]
  · simpa [emergencyPending_append, CarCall.isEmergency, henters] using h.emergency
  · simpa [requestPending_append, CarCall.pitRequest, henters] using h.request
  · intro _
    rw [lastLap_append, if_neg henters]
    exact ⟨rfl, rfl⟩
  · intro j hj
    rcases openVisit_append.mp hj with ⟨-, hc⟩ | ⟨-, hc, -⟩ <;> simp [CarCall.zone, hin] at hc
  · have hhistory : entry.history.map some = _ := h.history
    rw [completedVisits_closes hi (by simp [CarCall.zone, hin]), List.reverse_append,
      List.reverse_singleton, List.singleton_append, pitHistoryMaxEntries, List.take_succ_cons,
      List.take_succ_cons, List.map_cons, List.map_cons, hclosed]
    congr 1
    rw [List.map_take, hhistory, ← visitEntries_append, pitHistoryMaxEntries, ← List.map_take,
      List.take_take]
    rfl
  · simp [pitHistoryMaxEntries]

end Step

/-! ## Runs of the store -/

/-- Calls for any cars, in the order in which they are made. -/
def runCalls (b : Build) (s : RaceRuntimeStore) (calls : List (ℕ × CarCall)) : RaceRuntimeStore :=
  calls.foldl (fun s c => c.2.apply b s c.1) s

def callsFor (carId : ℕ) (calls : List (ℕ × CarCall)) : List CarCall :=
  (calls.filter fun c => c.1 = carId).map (·.2)

/-- The bot slot that an identity carries after the calls. -/
def SlotTracks (identity : Option RuntimeCarIdentity) (calls : List CarCall)
    (current : Option RuntimeCarIdentity) : Prop :=
  current.map (·.activeBotSlot) = identity.map fun identity =>
    ((calls.filterMap CarCall.slot).getLast?).getD identity.activeBotSlot

theorem SlotTracks.current {identity : Option RuntimeCarIdentity} {calls : List CarCall}
    {s : RaceRuntimeStore} {carId : ℕ}
    (h : SlotTracks identity calls (s.carIdentity.lookup carId)) :
    s.currentBotSlotForHistory carId = botSlot identity calls := by
  have hbind : (s.carIdentity.lookup carId).bind (·.activeBotSlot) =
      identity.bind fun identity =>
        ((calls.filterMap CarCall.slot).getLast?).getD identity.activeBotSlot := by
    rw [SlotTracks] at h
    cases hcurrent : s.carIdentity.lookup carId <;> cases hidentity : identity <;>
      simp_all
  exact congrArg (fun slot : Option ℤ => match slot with
    | none => 1
    | some slot => (max slot 1).toNat) hbind

/-- A call sets the slot it names and leaves it otherwise. -/
theorem SlotTracks.apply {identity : Option RuntimeCarIdentity} {calls : List CarCall}
    {s : RaceRuntimeStore} {carId : ℕ} (b : Build) (c : CarCall)
    (h : SlotTracks identity calls (s.carIdentity.lookup carId)) :
    SlotTracks identity (calls ++ [c]) ((c.apply b s carId).carIdentity.lookup carId) := by
  have hkeep : c.slot = none →
      ((c.apply b s carId).carIdentity.lookup carId).map (·.activeBotSlot) =
        (s.carIdentity.lookup carId).map (·.activeBotSlot) →
      SlotTracks identity (calls ++ [c]) ((c.apply b s carId).carIdentity.lookup carId) := by
    intro hslot hsame
    rw [SlotTracks, hsame, h]
    simp [List.filterMap_append, hslot]
  have hwrite : ∀ slot, c.slot = some slot →
      ((c.apply b s carId).carIdentity.lookup carId).map (·.activeBotSlot) =
        (s.carIdentity.lookup carId).map (fun _ => slot) →
      SlotTracks identity (calls ++ [c]) ((c.apply b s carId).carIdentity.lookup carId) := by
    intro slot hslot hset
    have hsome : (s.carIdentity.lookup carId).map (fun _ => slot) =
        identity.map fun _ => slot := by
      have hmap := congrArg (Option.map fun _ => slot) h
      simpa [Function.comp_def] using hmap
    rw [SlotTracks, hset, hsome]
    simp [List.filterMap_append, hslot]
  cases c with
  | setActiveBotSlot slotIndex =>
      apply hwrite (some slotIndex) rfl
      rw [CarCall.apply, RaceRuntimeStore.setActiveBotSlot, modifyIdentity_lookup, Option.map_map]
      rfl
  | clearActiveBotSlot =>
      apply hwrite none rfl
      rw [CarCall.apply, RaceRuntimeStore.clearActiveBotSlot, modifyIdentity_lookup,
        Option.map_map]
      rfl
  | setBotSwitchInProgress inProgress =>
      apply hkeep rfl
      rw [CarCall.apply, RaceRuntimeStore.setBotSwitchInProgress, modifyIdentity_lookup,
        Option.map_map]
      rfl
  | planPitFixTireApply currentTireType inStationaryFix =>
      apply hkeep rfl
      rw [CarCall.apply, planPitFixTireApply_store]
      rfl
  | _ => exact hkeep rfl rfl

/-- The update of the official build, as far as stops are concerned. -/
theorem updatePitStateFromRuntime_track (s : RaceRuntimeStore) (carId : ℕ) (state : VehicleState)
    (raceMetrics : Option VehicleRaceMetrics) (nowMs : ℕ) :
    ((s.updatePitStateFromRuntime .official carId state raceMetrics nowMs).2.pitState carId).track =
      ((s.pitState carId).trackFixSession state raceMetrics (s.currentBotSlotForHistory carId)
        nowMs).track := by
  simp only [RaceRuntimeStore.updatePitStateFromRuntime, pitState_putPitState_self]
  cases completedPit state <;> rfl

theorem Tracks.update {identity : Option RuntimeCarIdentity} {calls : List CarCall}
    {entry : RuntimePitState} (h : Tracks identity calls entry.track) (state : VehicleState)
    (raceMetrics : Option VehicleRaceMetrics) (nowMs : ℕ) :
    Tracks identity (calls ++ [.updatePitStateFromRuntime state raceMetrics nowMs])
      (entry.trackFixSession state raceMetrics (botSlot identity calls) nowMs).track := by
  cases hin : state.pitstopState.hasZone .fix <;> cases hlast : lastZone calls
  · exact h.away hin hlast
  · exact h.leaves hin hlast rfl
  · exact h.enters hin hlast rfl
  · exact h.stays hin hlast

/-- A call that neither updates nor requests leaves the stops alone. -/
theorem track_of_other (b : Build) (s : RaceRuntimeStore) (carId : ℕ) {c : CarCall}
    (hzone : c.zone = none) (hemergency : c.isEmergency = false) (hrequest : c.pitRequest = none) :
    ((c.apply b s carId).pitState carId).track = (s.pitState carId).track := by
  cases c with
  | updatePitStateFromRuntime => cases hzone
  | markEmergencyPitstopRequested => cases hemergency
  | setPitRequestActive => cases hrequest
  | setNextTireFromFrontend tireType =>
      simp only [CarCall.apply, RaceRuntimeStore.setNextTireFromFrontend,
        pitState_putPitState_self]
      cases tireType <;> rfl
  | setNextTireFromBot tireType =>
      simp only [CarCall.apply, RaceRuntimeStore.setNextTireFromBot, pitState_putPitState_self]
      split <;> rfl
  | planPitFixTireApply currentTireType inStationaryFix =>
      rw [CarCall.apply, planPitFixTireApply_store, pitState_putPitState_self]
      cases inStationaryFix <;> rfl
  | setActiveBotSlot => exact congrArg _ (modifyIdentity_pitState ..)
  | clearActiveBotSlot => exact congrArg _ (modifyIdentity_pitState ..)
  | setBotSwitchInProgress => exact congrArg _ (modifyIdentity_pitState ..)
  | markPitFixTireApplied =>
      simp [CarCall.apply, RaceRuntimeStore.markPitFixTireApplied, RuntimePitState.track]
  | markBackToTrackApplied =>
      simp [CarCall.apply, RaceRuntimeStore.markBackToTrackApplied, RuntimePitState.track]
  | lastClientSeq => rfl
  | setControlsInput => rfl

/-- One call of the official build keeps the stops in step. -/
theorem Tracks.apply {identity : Option RuntimeCarIdentity} {calls : List CarCall}
    {s : RaceRuntimeStore} {carId : ℕ} (h : Tracks identity calls (s.pitState carId).track)
    (hslot : SlotTracks identity calls (s.carIdentity.lookup carId)) (c : CarCall) :
    Tracks identity (calls ++ [c]) ((c.apply .official s carId).pitState carId).track := by
  have hold : c.zone = none → c.isEmergency = false →
      ((s.pitState carId).track.emergencyIntentPending = true ↔
        EmergencyPending (calls ++ [c])) := by
    intro hzone hemergency
    simpa [emergencyPending_append, hemergency, Enters, hzone] using h.emergency
  have hsame : c.zone = none → c.pitRequest = none →
      ((s.pitState carId).track.pitRequestActive = true ↔ RequestPending (calls ++ [c])) := by
    intro hzone hrequest
    simpa [requestPending_append, hrequest, Enters, hzone] using h.request
  cases c with
  | updatePitStateFromRuntime state raceMetrics nowMs =>
      rw [CarCall.apply, updatePitStateFromRuntime_track, hslot.current]
      exact h.update state raceMetrics nowMs
  | markEmergencyPitstopRequested nowMs =>
      have hother := h.other rfl (e := true)
        (by simp [emergencyPending_append, CarCall.isEmergency]) (hsame rfl rfl)
      simpa [CarCall.apply, RaceRuntimeStore.markEmergencyPitstopRequested,
        RuntimePitState.track] using hother
  | setPitRequestActive active =>
      have hother := h.other rfl (p := active) (hold rfl rfl)
        (by simp [requestPending_append, CarCall.pitRequest])
      simpa [CarCall.apply, RaceRuntimeStore.setPitRequestActive,
        RuntimePitState.track] using hother
  | _ =>
      rw [track_of_other .official s carId rfl rfl rfl]
      exact h.other rfl (hold rfl rfl) (hsame rfl rfl)

/-- In the official build the stops kept for a car are the closed visits
of the calls made for it, newest first and at most thirty-two of them;
a visit is in progress exactly while the car is in the zone, and the last
stop is the newest one. -/
theorem official_pit_history (s : RaceRuntimeStore) (carId : ℕ)
    (hnew : s.carPitState.lookup carId = none) (calls : List (ℕ × CarCall)) :
    let own := callsFor carId calls
    let state := (runCalls .official s calls).pitState carId
    state.history.map some = ((completedVisits own).reverse.take pitHistoryMaxEntries).map
        (visitEntry (s.carIdentity.lookup carId) own) ∧
      state.wasInFixZone = lastZone own ∧
      (state.activeFixSession.isSome = true ↔ state.wasInFixZone = true) ∧
      ∀ newest ∈ state.history.head?,
        state.lastPitSource = newest.source ∧ state.lastPitLap = newest.lap := by
  have hrun : Tracks (s.carIdentity.lookup carId) (callsFor carId calls)
        ((runCalls .official s calls).pitState carId).track ∧
      SlotTracks (s.carIdentity.lookup carId) (callsFor carId calls)
        ((runCalls .official s calls).carIdentity.lookup carId) := by
    induction calls using List.reverseRecOn with
    | nil =>
        have hdefault : s.pitState carId = RuntimePitState.default := by
          rw [RaceRuntimeStore.pitState, hnew]
          rfl
        refine ⟨?_, by simp [SlotTracks, runCalls, callsFor]⟩
        rw [runCalls, List.foldl_nil, hdefault]
        exact tracks_nil _
    | append_singleton calls c ih =>
        obtain ⟨other, c⟩ := c
        rw [runCalls, List.foldl_append]
        by_cases heq : other = carId
        · subst heq
          have hcalls : callsFor other (calls ++ [(other, c)]) = callsFor other calls ++ [c] := by
            simp [callsFor]
          rw [hcalls]
          exact ⟨ih.1.apply ih.2 c, ih.2.apply .official c⟩
        · have hcalls : callsFor carId (calls ++ [(other, c)]) = callsFor carId calls := by
            simp [callsFor, heq]
          have hother := c.apply_other .official (runCalls .official s calls) (Ne.symm heq)
          rw [hcalls]
          exact ⟨hother.1 ▸ ih.1, hother.2 ▸ ih.2⟩
  have htracks := hrun.1
  refine ⟨htracks.history, htracks.zone, ?_, htracks.front⟩
  have hzone : ((runCalls .official s calls).pitState carId).wasInFixZone = _ := htracks.zone
  rw [hzone, lastZone_eq_true]
  constructor
  · intro hsome
    by_contra hnone
    have hlast : lastZone (callsFor carId calls) = false := by
      rwa [← lastZone_eq_true, Bool.not_eq_true] at hnone
    have hclosed : ((runCalls .official s calls).pitState carId).activeFixSession = none :=
      (htracks.closed hlast).1
    rw [hclosed] at hsome
    cases hsome
  · rintro ⟨i, hi⟩
    exact (htracks.opened i hi).2.1

/-- A requested stop in the zone at 5 ms, left at 9 ms. -/
def oneStop : List (ℕ × CarCall) :=
  [(1, .setPitRequestActive true), (1, .updatePitStateFromRuntime (restingCar 2) none 5),
    (1, .updatePitStateFromRuntime (restingCar 0) none 9)]

theorem one_stop_in_history :
    ((runCalls .official .new oneStop).pitState 1).history.map some =
      [visitEntry none (callsFor 1 oneStop) (1, 2)] ∧
    (visitEntry none (callsFor 1 oneStop) (1, 2)).map (fun entry => (entry.pitTimeMs,
      entry.source)) = some (5, .requested) := by
  have hvisits : completedVisits (callsFor 1 oneStop) = [(1, 2)] := by decide
  have hhistory := (official_pit_history .new 1 rfl oneStop).1
  rw [hvisits] at hhistory
  exact ⟨hhistory, by decide⟩

end HackArena.Services
