import HackArena.Lib.GuardedRun
import HackArena.Boink
import HackArena.Lib.KeyedList
import HackArena.Lib.Text
import HackArena.Runtime.EngineState
import HackArena.Runtime.EngineWorker
import HackArena.Runtime.WorkerTransition
import HackArena.Runtime.PendingQueue
import HackArena.Runtime.WorkerInvariants
import HackArena.Runtime.CarWorld
import HackArena.Runtime.OrphanWorlds
import HackArena.Domain.Weather
import HackArena.Runtime.WeatherSync
import HackArena.Runtime.WorkerRevision
import HackArena.Runtime.EngineClient
import HackArena.Services.RuntimeStore
import HackArena.Services.FrameHub
import HackArena.Services.Status
import HackArena.Services.SandboxJoin
import HackArena.Runtime.EngineIds
import HackArena.Services.CarIdentity
import HackArena.Local.LocalRaceState
import HackArena.Services.LocalRaceAdmin
import HackArena.Services.LocalRaceControl
import HackArena.Services.LocalRacePhases
import HackArena.Services.ParticipantStream
import HackArena.Services.StreamProtocol
import HackArena.Services.CarCalls
import HackArena.Services.PitHistory
import HackArena.Services.PitTires
import HackArena.Lib.Programs
import HackArena.Services.ServiceCalls
import HackArena.Services.ServiceTasks
import HackArena.Services.JoinedCars
import HackArena.Services.CarRemoval
import HackArena.Services.StoreInvariant
import HackArena.Services.CommandCooldown
import HackArena.Services.LocalRaceParticipants
import HackArena.Services.RaceTable
import HackArena.Services.RaceRanking
import HackArena.Services.RaceSessions
import HackArena.Lib.ByteLines
import HackArena.Services.BotLogs
import HackArena.HashCache.Sidecar
import HackArena.HashCache.Cache
import HackArena.HashCache.CachePhases
import HackArena.HashCache.Soundness
import HackArena.Local.MapAssets
import HackArena.Local.MapSyncPhases
import HackArena.Local.MapCache
import HackArena.Official.BotRegistries
import HackArena.Official.SubmissionRepo
import HackArena.Official.BuildStreams
import HackArena.Official.RaceSession
import HackArena.Official.System
import HackArena.Official.BuildStreamPhases
import HackArena.Official.BuildStreamLife
import HackArena.Official.BuildStreamProtocol
import HackArena.Official.BuildStreamRuns
import HackArena.Official.RaceBots
import HackArena.Official.RaceLauncher
import HackArena.Official.LauncherCalls
import HackArena.Official.RaceStarted
import HackArena.Official.RaceWatch
import HackArena.Admin.RaceConfigRepo
import HackArena.Admin.SandboxConfigRepo
import HackArena.Admin.System
import HackArena.Admin.RaceConfigAdmin
import HackArena.Admin.RaceCalendarRuns
import HackArena.Lib.GenerationCache
import HackArena.Admin.PublicMenu
import HackArena.Admin.MenuCaches
import HackArena.Admin.PublicMenuRuns
import HackArena.Weather.Reported
import HackArena.Services.AchievementSources
import HackArena.Services.AchievementStream
import HackArena.Lib.FileWrite
import HackArena.Local.SandboxConfig
import HackArena.Local.SandboxConfigRuns
import HackArena.Weather.Forecast
import HackArena.Weather.Stochastic
import HackArena.Weather.ForecastCache
import HackArena.Weather.ForecastPhases
import HackArena.Weather.ForecastRuns
import HackArena.Local.AdminSystem
import HackArena.Local.AdminRequests
import HackArena.Local.QuietCalls
import HackArena.Local.SandboxLimit
import HackArena.Local.RacePolling
import HackArena.Runtime.DuePass
import HackArena.Services.LocalRaceFailures
import HackArena.Services.CleanupTargets
import HackArena.Services.EmergencyLock
import HackArena.Services.OpponentPrivacy
import HackArena.Services.SpectatorStream
import HackArena.Auth.Jwks
import HackArena.Auth.JwksPhases
import HackArena.Auth.JwksRuns
import HackArena.Local.WeatherStream
import HackArena.Local.WeatherStreamRuns
import HackArena.Services.Gameplay
import HackArena.Services.GameplayRuns
import HackArena.Services.JoinRollback
import HackArena.Services.GapInterpolation
import HackArena.Services.LapLengths
import HackArena.Services.RaceTableRows
import HackArena.Lib.Utf8Parts
import HackArena.Services.BotLogTail
import HackArena.Lib.Windows
import HackArena.Services.BotLogWindow
import HackArena.Official.SignalEdges
import HackArena.Official.Books
import HackArena.Official.LaunchAccounts
import HackArena.Official.SandboxBots
import HackArena.Official.SlotSwitches
import HackArena.Official.SandboxJoins
import HackArena.Lib.TextParts
import HackArena.Official.TeamStorage
import HackArena.Official.ImageRefs
import HackArena.Lib.ShellWords
import HackArena.Official.RemoteScripts
import HackArena.Weather.ForecastTiles
import HackArena.Weather.WindowTotals
import HackArena.Services.AssetStream
import HackArena.Local.SandboxConfigFailures
import HackArena.Admin.MapIds
import HackArena.Official.StaleJoins
import HackArena.Weather.StochasticRuns
import HackArena.Server.CorsPolicy
import HackArena.Standalone.RaceScenario
import HackArena.Standalone.RaceAutomation
import HackArena.Admin.TimeOfDayRuns
import HackArena.Lib.UnixPaths
import HackArena.Official.SubmissionArchives
import HackArena.Lib.Dockerfile
import HackArena.Official.SubmissionManifests
import HackArena.Official.SubmissionDockerfiles
import HackArena.Lib.ShellLists
import HackArena.Official.CsharpProjects
import HackArena.Official.WrapperCache
import HackArena.Official.WrapperCacheRuns
import HackArena.Services.SpectatorEnds
import HackArena.Runtime.LoadedMaps
import HackArena.Services.TrackDataTagRuns
import HackArena.Official.OrphanCleanup
import HackArena.Official.OrphanCleanupRuns
import HackArena.Lib.LogMoments
import HackArena.Official.ServiceTokens
import HackArena.Official.RaceLaps
import HackArena.Official.ServiceTokenRuns
import HackArena.Lib.RecordedCalls
import HackArena.Local.Broker
import HackArena.Local.BrokerRuns
import HackArena.Services.AssetCatalog
import HackArena.Services.AssetCatalogRuns
