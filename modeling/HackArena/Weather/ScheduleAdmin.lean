import HackArena.Admin.System
import HackArena.Weather.Schedule

/-!
# Replacing the schedule

An admin replaces the whole schedule by the entries of a request.
-/

namespace HackArena.Weather

open Boink Domain HackArena.Admin HackArena.Services

/-- The weather type is `none` for a number that stands for no type. -/
structure ProtoScheduleEntry where
  «from» : Option Timestamp
  weatherType : Option WeatherType
  temperatureC : ℤ
  deriving DecidableEq

def scheduleEntryFromProto (entry : ProtoScheduleEntry) : Except Status ScheduleEntry :=
  match entry.from with
  | none => .error ⟨.invalidArgument, "entry.from is required"⟩
  | some «from» =>
      if isValidScheduleTemperatureC entry.temperatureC then
        match entry.weatherType with
        | none => .error ⟨.invalidArgument, "invalid weather type"⟩
        | some weatherType => do
            let startsAtMs ← timestampToMs «from»
            return ⟨startsAtMs, weatherType, entry.temperatureC⟩
      else .error ⟨.invalidArgument, "entry.temperature_c must be in range 1..=30"⟩

def mapDomainErrorToStatus (err : WeatherDomainError) : Status :=
  match err with
  | .unspecifiedPreset | .unspecifiedNotTail _ | .nonIncreasingTimestamp .. =>
      ⟨.invalidArgument, err.text⟩
  | .timestampOverflow => ⟨.outOfRange, err.text⟩

/-- The entries of a request, checked for the environment. -/
def draftSchedule (appEnv : AppEnv) (entries : List ProtoScheduleEntry) :
    Except Status (List ScheduleEntry) := do
  let entries ← entries.mapM scheduleEntryFromProto
  match validateSchedule entries (unspecifiedPolicyForEnv appEnv) with
  | .error err => .error (mapDomainErrorToStatus err)
  | .ok () => .ok entries

/-- The transaction of the repository, which may fail. -/
def replaceSchedule (fails : Option String) (table entries : List ScheduleEntry) :
    List ScheduleEntry × Except Status Unit :=
  match fails with
  | some message =>
      (table, .error ⟨.internal, "failed to replace weather schedule: " ++ message⟩)
  | none => (entries, .ok ())

def requireAdmin (isAdmin : Except Status Bool) : Except Status Unit := do
  if ← isAdmin then return () else .error ⟨.permissionDenied, "admin role required"⟩

/-- `isAdmin` is the answer of the token validator. -/
def replaceWeatherSchedule (appEnv : AppEnv) (isAdmin : Except Status Bool) (fails : Option String)
    (table : List ScheduleEntry) (entries : List ProtoScheduleEntry) :
    List ScheduleEntry × Except Status Unit :=
  match requireAdmin isAdmin with
  | .error status => (table, .error status)
  | .ok () =>
      match draftSchedule appEnv entries with
      | .error status => (table, .error status)
      | .ok schedule => replaceSchedule fails table schedule

variable {appEnv : AppEnv} {isAdmin : Except Status Bool} {fails : Option String}
variable {table schedule : List ScheduleEntry} {request : List ProtoScheduleEntry}

theorem scheduleEntryFromProto_valid {proto : ProtoScheduleEntry} {entry : ScheduleEntry}
    (h : scheduleEntryFromProto proto = .ok entry) :
    isValidScheduleTemperatureC entry.temperatureC = true := by
  unfold scheduleEntryFromProto at h
  split at h
  · cases h
  · split at h
    · rename_i hvalid
      split at h
      · cases h
      · rename_i timestamp _ _ _ _
        cases hms : timestampToMs timestamp with
        | error status =>
            rw [hms] at h
            cases h
        | ok startsAtMs =>
            rw [hms] at h
            obtain rfl := Except.ok.inj h
            exact hvalid
    · cases h

theorem mapM_valid {entries : List ProtoScheduleEntry}
    (h : entries.mapM scheduleEntryFromProto = .ok schedule) :
    ∀ entry ∈ schedule, isValidScheduleTemperatureC entry.temperatureC = true := by
  induction entries generalizing schedule with
  | nil =>
      obtain rfl := Except.ok.inj h
      simp
  | cons proto entries ih =>
      rw [List.mapM_cons] at h
      cases hentry : scheduleEntryFromProto proto with
      | error status =>
          rw [hentry] at h
          cases h
      | ok entry =>
          cases hrest : entries.mapM scheduleEntryFromProto with
          | error status =>
              rw [hentry, hrest] at h
              cases h
          | ok rest =>
              rw [hentry, hrest] at h
              obtain rfl := Except.ok.inj h
              exact List.forall_mem_cons.mpr ⟨scheduleEntryFromProto_valid hentry, ih hrest⟩

/-- A schedule that has been accepted. -/
structure Accepted (appEnv : AppEnv) (schedule : List ScheduleEntry) : Prop where
  increasing : Increasing schedule
  tailOnly : TailOnly (unspecifiedPolicyForEnv appEnv) schedule
  temperatures : ∀ entry ∈ schedule, isValidScheduleTemperatureC entry.temperatureC = true

theorem draftSchedule_accepted (h : draftSchedule appEnv request = .ok schedule) :
    Accepted appEnv schedule := by
  unfold draftSchedule at h
  cases hentries : request.mapM scheduleEntryFromProto with
  | error status =>
      rw [hentries] at h
      cases h
  | ok entries =>
      rw [hentries] at h
      change (match validateSchedule entries (unspecifiedPolicyForEnv appEnv) with
        | .error err => .error (mapDomainErrorToStatus err)
        | .ok () => .ok entries) = Except.ok schedule at h
      split at h
      · cases h
      · rename_i hvalid
        obtain rfl := Except.ok.inj h
        obtain ⟨hincreasing, htail⟩ := (validateSchedule_ok_iff _ _).mp hvalid
        exact ⟨hincreasing, htail, mapM_valid hentries⟩

/-- A request that succeeds has replaced the schedule by an accepted one; one
that fails has left it alone. -/
theorem replaceWeatherSchedule_cases (appEnv : AppEnv) (isAdmin : Except Status Bool)
    (fails : Option String) (table : List ScheduleEntry) (request : List ProtoScheduleEntry) :
    (∃ status, replaceWeatherSchedule appEnv isAdmin fails table request =
      (table, .error status)) ∨
    ∃ schedule, Accepted appEnv schedule ∧
      replaceWeatherSchedule appEnv isAdmin fails table request = (schedule, .ok ()) := by
  unfold replaceWeatherSchedule
  split
  · exact Or.inl ⟨_, rfl⟩
  · split
    · exact Or.inl ⟨_, rfl⟩
    · rename_i schedule hschedule
      cases fails with
      | some message => exact Or.inl ⟨_, rfl⟩
      | none => exact Or.inr ⟨schedule, draftSchedule_accepted hschedule, rfl⟩

theorem accepted_of_replaced
    (h : replaceWeatherSchedule appEnv isAdmin fails table request = (schedule, .ok ())) :
    Accepted appEnv schedule := by
  rcases replaceWeatherSchedule_cases appEnv isAdmin fails table request with
    ⟨status, hrefused⟩ | ⟨schedule', haccepted, hreplaced⟩
  · rw [hrefused] at h
    cases h
  · rw [hreplaced] at h
    cases h
    exact haccepted

end HackArena.Weather
