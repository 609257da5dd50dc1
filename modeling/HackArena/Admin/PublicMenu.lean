import HackArena.Admin.RaceConfigAdmin
import HackArena.Admin.SandboxAdmin

/-!
# The public menu

The lists of sandboxes and of upcoming races are served from caches, which
the changes of the administration invalidate.
-/

namespace HackArena.Admin

open HackArena.Services

def upcomingCacheTtlMs : ℤ := 60 * 1000
def sandboxConfigCacheTtlMs : ℤ := 60 * 1000

/-- The condition under which a cache is served. -/
def isServed {α : Type} (ttlMs : ℤ) (cache : MenuCache α) (nowMs : ℤ) (generation : ℕ) : Bool :=
  cache.generation = generation && nowMs - cache.cachedAtMs ≤ ttlMs

def loadSandboxConfigs (nowMs : ℤ) (generation : ℕ) : AdminCall AdminResponse := do
  let snapshot ← (AdminOp.sandboxes .getSnapshot).call.orFail fun err =>
    ⟨.internal, "failed to load sandbox configs: " ++ err.text⟩
  liftM (AdminOp.menu (.writeSandboxes ⟨generation, nowMs, snapshot.value⟩)).call
  return .menuSandboxes snapshot.value

def menuSandboxConfigs : AdminCall AdminResponse := do
  let nowMs ← liftM AdminOp.currentUnixMs.call
  let generation ← liftM (AdminOp.menu .sandboxGeneration).call
  let cache ← liftM (AdminOp.menu .readSandboxes).call
  if isServed sandboxConfigCacheTtlMs cache nowMs generation then
    return .menuSandboxes cache.value
  else loadSandboxConfigs nowMs generation

def buildUpcomingRaces (races : List RaceConfigRecord) (nowMs : ℤ) :
    List PublicUpcomingRaceSummary :=
  (races.filter fun race => isWithinUpcomingWindow race.config.startsAtMs nowMs).map fun race =>
    ⟨race.config.raceName, unixMsToTimestamp race.config.startsAtMs, race.config.raceDurationSec⟩

def loadUpcomingRaces (nowMs : ℤ) (generation : ℕ) : AdminCall AdminResponse := do
  let snapshot ← (AdminOp.races .getSnapshot).call.orFail fun err =>
    ⟨.internal, "failed to load race configs: " ++ err.text⟩
  let races := buildUpcomingRaces snapshot.value nowMs
  liftM (AdminOp.menu (.writeUpcoming ⟨generation, nowMs, races⟩)).call
  return .menuUpcomingRaces races

def menuUpcomingRaces : AdminCall AdminResponse := do
  let nowMs ← liftM AdminOp.currentUnixMs.call
  let generation ← liftM (AdminOp.menu .upcomingGeneration).call
  let cache ← liftM (AdminOp.menu .readUpcoming).call
  if isServed upcomingCacheTtlMs cache nowMs generation then return .menuUpcomingRaces cache.value
  else loadUpcomingRaces nowMs generation

/-- Everything that runs side by side. -/
inductive AdminTask where
  | raceConfigs (request : RaceConfigRequest)
  | sandboxConfigs (request : SandboxConfigRequest)
  | runtime (request : RuntimeAdminRequest)
  | menuSandboxConfigs
  | menuUpcomingRaces
  | tick

def AdminTask.handle : AdminTask → AdminRequest
  | .raceConfigs request => request.handle
  | .sandboxConfigs request => request.handle
  | .runtime request => request.handle
  | .menuSandboxConfigs => Admin.menuSandboxConfigs.run
  | .menuUpcomingRaces => Admin.menuUpcomingRaces.run
  | .tick => do
      AdminOp.engineTick.call
      return .ok .ticked

/-- The server as it comes up, with what the database holds. -/
def AdminState.boot (E : Type) (clockMs : ℤ) (calendar : RaceCalendar) (sandboxes : SandboxTable) :
    AdminState E :=
  { AdminState.initial E clockMs with calendar := calendar, sandboxes := sandboxes }

def adminStart {E : Type} (tasks : ℕ → AdminTask) (s : AdminState E) : AdminPool E :=
  Pool.start s fun i => (tasks i).handle

end HackArena.Admin
