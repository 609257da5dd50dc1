import HackArena.Lib.KeyedList
import HackArena.Lib.Programs
import HackArena.Lib.Text
import HackArena.Services.Status

/-!
# Service tokens and the team resolver

The server asks the platform for the team of a user, for the teams of the
event, for the game token of a team's bot and for an achievement. Each request
carries a service token of the server in a cookie. Tokens come from Keycloak
and are cached, and so are teams and team names. A request that is refused is
made once more, with a new token.
-/

namespace HackArena.Official.ServiceTokens

open Prog Services

def TEAM_EDITION : String := "3"

def teamCacheTtlMs : ℕ := 300000

def achievementTransientRetries : ℕ := 2

def achievementRetryBackoffBaseMs : ℕ := 200

def serviceTokenDefaultTtlSec : ℕ := 300

def serviceTokenTtlSafetySec : ℕ := 30

def serviceTokenMinTtlSec : ℕ := 10

/-! ## What the services answer -/

structure KeycloakTokenResponse where
  accessToken : String
  expiresIn : Option ℕ
  deriving DecidableEq, Repr

structure KeycloakErrorResponse where
  error : Option String
  errorDescription : Option String
  deriving DecidableEq, Repr

inductive KeycloakReply where
  | notSent
  | bodyUnread
  | received (status : ℕ) (body : String)
  deriving DecidableEq, Repr

/-- A client of Keycloak, with the secret that it presents. -/
structure KeycloakClient where
  tokenUrl : String
  clientId : String
  clientSecret : String
  deriving DecidableEq, Repr

/-- The team of a user; only its id is read. -/
structure Team where
  id : Option String
  deriving DecidableEq, Repr

structure TeamEvent where
  id : Option String
  name : String
  deriving DecidableEq, Repr

structure GrantLogsAchievementResponse where
  isGrantedSuccessfully : Bool
  reason : ℤ
  deriving DecidableEq, Repr

/-- The calls of the platform's services that need a service token. -/
inductive Rpc where
  | getTeamByUser (userId edition : String)
  | getEventTeams (edition : String)
  | issueGameToken (teamId : String)
  | grantLogsAchievement (teamId : String)
  deriving DecidableEq, Repr

abbrev Rpc.Response : Rpc → Type
  | .getTeamByUser .. => Option Team
  | .getEventTeams _ => List TeamEvent
  | .issueGameToken _ => Option String
  | .grantLogsAchievement _ => GrantLogsAchievementResponse

/-- How a call ends that is given five seconds. -/
inductive Outcome (α : Type) where
  | timedOut
  | failed (status : Status)
  | answered (response : α)
  deriving DecidableEq, Repr

/-- The JSON reader, the values that a header can have and the text of a
status. -/
structure Libraries where
  parseToken : String → Option KeycloakTokenResponse
  parseError : String → Option KeycloakErrorResponse
  metadataValue : String → Bool
  displayStatus : Status → String

variable (lib : Libraries)

/-- What an error reply of Keycloak says. -/
def keycloakDetails (body : String) : String :=
  match lib.parseError body with
  | none => "<empty>"
  | some value =>
      let details := match value.error, value.errorDescription with
        | some err, some desc =>
            if Text.isBlank desc then err else err ++ ": " ++ Text.trim desc
        | some err, none => err
        | none, _ => Text.trim body
      if Text.isBlank details then "<empty>" else details

/-- The texts in which the two readers of Keycloak's replies differ. -/
structure KeycloakTexts where
  label : String
  noToken : String

/-- The token of a reply, and the time it is said to last. -/
def readKeycloakReply (texts : KeycloakTexts) : KeycloakReply → Except String (String × Option ℕ)
  | .notSent => .error (texts.label ++ "Keycloak token request failed")
  | .bodyUnread => .error (texts.label ++ "failed to read Keycloak token response body")
  | .received status body =>
      if ¬(200 ≤ status ∧ status < 300) then
        .error (texts.label ++ "Keycloak token request returned " ++ toString status ++ ": " ++
          keycloakDetails lib body)
      else match lib.parseToken body with
        | none => .error (texts.label ++ "failed to parse Keycloak token response JSON")
        | some parsed =>
            let token := Text.trim parsed.accessToken
            if token = "" then .error texts.noToken else .ok (token, parsed.expiresIn)

def serviceTokenTexts : KeycloakTexts where
  label := ""
  noToken := "Keycloak token response did not include access_token"

def wrapperAuthTexts : KeycloakTexts where
  label := "wrapper-auth: "
  noToken := "wrapper-auth: Keycloak response did not include access_token"

/-- How long a token is kept, in seconds. -/
def ttlEffective (expiresIn : Option ℕ) : ℕ :=
  max (expiresIn.getD serviceTokenDefaultTtlSec - serviceTokenTtlSafetySec) serviceTokenMinTtlSec

def teamIdFromTeam (team : Option Team) : Except Status String :=
  match team with
  | none => .error ⟨.notFound, "team not found for user"⟩
  | some team =>
      match (team.id.map Text.trim).filter (· ≠ "") with
      | none => .error ⟨.failedPrecondition, "GetTeamByUser returned empty team id"⟩
      | some teamId => .ok teamId

def teamNameMapFromEvents (teams : List TeamEvent) : HashMap String String :=
  teams.foldl (fun teamNames team =>
    match (team.id.map Text.trim).filter (· ≠ "") with
    | none => teamNames
    | some teamId =>
        let teamName := Text.trim team.name
        if teamName = "" then teamNames else teamNames.insert teamId teamName) ∅

/-- The game token of a response. -/
def jwtFromResponse (token : Option String) : Except Status String :=
  let jwt := Text.trim (token.getD "")
  if jwt = "" then .error ⟨.failedPrecondition, "IssueGameToken returned empty token"⟩
  else .ok jwt

/-! ## The calls of a request -/

/-- What is cached until a time of the clock. -/
structure Cached (α : Type) where
  value : α
  expiresAt : ℕ

abbrev ServiceTokenCacheEntry := Cached String
abbrev TeamCacheEntry := Cached String
abbrev TeamNamesCacheEntry := Cached (HashMap String String)

inductive Op where
  | now
  | sleep (ms : ℕ)
  | readToken
  | writeToken (entry : ServiceTokenCacheEntry)
  | readTeam (userId : String)
  | writeTeam (userId : String) (entry : TeamCacheEntry)
  | readTeamNames
  | writeTeamNames (entry : TeamNamesCacheEntry)
  | keycloak (client : KeycloakClient)
  | send (rpc : Rpc) (cookie : String)

abbrev Op.Answer : Op → Type
  | .now => ℕ
  | .readToken => Option ServiceTokenCacheEntry
  | .readTeam _ => Option TeamCacheEntry
  | .readTeamNames => Option TeamNamesCacheEntry
  | .keycloak _ => KeycloakReply
  | .send rpc _ => Outcome rpc.Response
  | _ => Unit

/-- The resolver's caches, and the clock in milliseconds. -/
structure Resolver where
  now : ℕ
  authToken : Option ServiceTokenCacheEntry
  teamCache : HashMap String TeamCacheEntry
  teamNamesCache : Option TeamNamesCacheEntry

def Resolver.new : Resolver := ⟨0, none, ∅, none⟩

/-- How long a call takes and what the services answer. -/
structure Input where
  elapsed : ℕ
  keycloak : KeycloakReply
  outcome : (rpc : Rpc) → Outcome rpc.Response

def exec (s : Resolver) (op : Op) (input : Input) : Resolver × op.Answer :=
  let now := s.now + input.elapsed
  match op with
  | .now => ({ s with now }, now)
  | .sleep ms => ({ s with now := now + ms }, ())
  | .readToken => ({ s with now }, s.authToken)
  | .writeToken entry => ({ s with now, authToken := some entry }, ())
  | .readTeam userId => ({ s with now }, s.teamCache.lookup userId)
  | .writeTeam userId entry => ({ s with now, teamCache := s.teamCache.insert userId entry }, ())
  | .readTeamNames => ({ s with now }, s.teamNamesCache)
  | .writeTeamNames entry => ({ s with now, teamNamesCache := some entry }, ())
  | .keycloak _ => ({ s with now }, input.keycloak)
  | .send rpc _ => ({ s with now }, input.outcome rpc)

abbrev TokenProg := Prog Op Op.Answer

abbrev Op.call (op : Op) : TokenProg op.Answer := perform op

/-- The cached value, unless there is none or its time has come. -/
def unexpired {α : Type} : Option (Cached α) → TokenProg (Option α)
  | none => pure none
  | some entry => do
      let now ← Op.now.call
      pure (if now < entry.expiresAt then some entry.value else none)

/-! ## The service token -/

/-- The token service's clients: the resolver's own and that for the wrappers. -/
structure ServiceConfig where
  service : KeycloakClient
  wrapperAuth : KeycloakClient

variable (cfg : ServiceConfig)

def fetchServiceToken : ExceptT String TokenProg ServiceTokenCacheEntry := do
  let reply ← (Op.keycloak cfg.service).call
  let (token, expiresIn) ← ExceptT.mk (pure (readKeycloakReply lib serviceTokenTexts reply))
  let now ← Op.now.call
  pure ⟨token, now + 1000 * ttlEffective expiresIn⟩

def refreshToken : ExceptT Status TokenProg String := do
  let cached ← (fetchServiceToken lib cfg).run.orFail fun _ =>
    ⟨.unauthenticated, "failed to fetch service token from Keycloak"⟩
  (Op.writeToken cached).call
  pure cached.value

def currentOrFetchToken : ExceptT Status TokenProg String := do
  let cached ← Op.readToken.call
  match ← liftM (unexpired cached) with
  | some token => pure token
  | none => refreshToken lib cfg

/-- Refusals after which a new token is tried. -/
def isAuthError (code : Code) : Bool := code = .unauthenticated ∨ code = .permissionDenied

/-- The request with a token, and once more with a new one if it is refused. -/
def withServiceToken {α : Type} (request : String → ExceptT Status TokenProg α) :
    ExceptT Status TokenProg α := do
  let token ← currentOrFetchToken lib cfg
  ExceptT.mk do
    match ← (request token).run with
    | .ok value => pure (.ok value)
    | .error status =>
        if isAuthError status.code then
          (do request (← refreshToken lib cfg) : ExceptT Status TokenProg α).run
        else pure (.error status)

/-! ## Requests with a token -/

def cookieOf (token : String) : String := "auth_token=" ++ token

def attachAuthCookie (token : String) : Except Status String :=
  if lib.metadataValue (cookieOf token) then .ok (cookieOf token)
  else .error ⟨.unauthenticated, "invalid auth token cookie"⟩

def attachTeamIdHeader (teamId : String) : Except Status String :=
  let teamId := Text.trim teamId
  if teamId = "" then .error ⟨.failedPrecondition, "x-team-id cannot be empty"⟩
  else if lib.metadataValue teamId then .ok teamId
  else .error ⟨.failedPrecondition, "invalid x-team-id metadata"⟩

def Rpc.name : Rpc → String
  | .getTeamByUser .. => "HPS GetTeamByUser"
  | .getEventTeams _ => "HPS GetEventTeams"
  | .issueGameToken _ => "GameToken IssueGameToken"
  | .grantLogsAchievement _ => "Achievement GrantLogsAchievement"

/-- The response of a call, or its failure in other words. -/
def responseOf {rpc : Rpc} : Outcome rpc.Response → Except Status rpc.Response
  | .timedOut => .error ⟨.deadlineExceeded, rpc.name ++ " timed out"⟩
  | .failed status => .error ⟨status.code, rpc.name ++ " failed: " ++ lib.displayStatus status⟩
  | .answered response => .ok response

def callWithCookie (rpc : Rpc) (cookie : String) : ExceptT Status TokenProg rpc.Response :=
  ExceptT.mk do
    let outcome ← (Op.send rpc cookie).call
    pure (responseOf lib outcome)

def fetchTeamIdWithToken (userId token : String) : ExceptT Status TokenProg String := do
  let cookie ← ExceptT.mk (pure (attachAuthCookie lib token))
  let team ← callWithCookie lib (.getTeamByUser userId TEAM_EDITION) cookie
  ExceptT.mk (pure (teamIdFromTeam team))

def fetchTeamNamesWithToken (token : String) :
    ExceptT Status TokenProg (HashMap String String) := do
  let cookie ← ExceptT.mk (pure (attachAuthCookie lib token))
  let teams ← callWithCookie lib (.getEventTeams TEAM_EDITION) cookie
  pure (teamNameMapFromEvents teams)

def issueTeamBotTokenWithCookie (teamId serviceToken : String) :
    ExceptT Status TokenProg String := do
  let teamId := Text.trim teamId
  if teamId = "" then throw ⟨.failedPrecondition, "team_id is empty"⟩
  let cookie ← ExceptT.mk (pure (attachAuthCookie lib serviceToken))
  let header ← ExceptT.mk (pure (attachTeamIdHeader lib teamId))
  let token ← callWithCookie lib (.issueGameToken header) cookie
  ExceptT.mk (pure (jwtFromResponse token))

/-- Whatever is answered, the grant has been asked for; the answer is logged. -/
def grantLogsAchievementWithCookie (teamId serviceToken : String) :
    ExceptT Status TokenProg Unit := do
  let teamId := Text.trim teamId
  if teamId = "" then throw ⟨.failedPrecondition, "team_id is empty"⟩
  let cookie ← ExceptT.mk (pure (attachAuthCookie lib serviceToken))
  let _ ← callWithCookie lib (.grantLogsAchievement teamId) cookie
  pure ()

def isTransientAchievementError (code : Code) : Bool :=
  code = .unavailable ∨ code = .deadlineExceeded ∨ code = .internal ∨ code = .unknown

def achievementRetryBackoff (retryAttempt : ℕ) : ℕ :=
  achievementRetryBackoffBaseMs * 2 ^ min (retryAttempt - 1) 4

/-- With `retries` retries left. -/
def grantLogsAchievementAttempts (teamId serviceToken : String) :
    (retries : ℕ) → TokenProg (Except Status Unit)
  | 0 => (grantLogsAchievementWithCookie lib teamId serviceToken).run
  | retries + 1 => do
      match ← (grantLogsAchievementWithCookie lib teamId serviceToken).run with
      | .ok () => pure (.ok ())
      | .error status =>
          if isTransientAchievementError status.code then do
            (Op.sleep (achievementRetryBackoff (achievementTransientRetries - retries))).call
            grantLogsAchievementAttempts teamId serviceToken retries
          else pure (.error status)

def grantLogsAchievementWithRetry (teamId serviceToken : String) : ExceptT Status TokenProg Unit :=
  ExceptT.mk (grantLogsAchievementAttempts lib teamId serviceToken achievementTransientRetries)

/-! ## The requests -/

/-- What is cached, or else what is fetched, which is then kept for five
minutes. -/
def cachedOrFetched {α : Type} (entry : Option (Cached α)) (fetch : ExceptT Status TokenProg α)
    (keep : Cached α → TokenProg Unit) : ExceptT Status TokenProg α := do
  match ← liftM (unexpired entry) with
  | some value => pure value
  | none => do
      let resolved ← fetch
      let now ← Op.now.call
      keep ⟨resolved, now + teamCacheTtlMs⟩
      pure resolved

def fetchTeamIdWithRetry (userId : String) : ExceptT Status TokenProg String :=
  withServiceToken lib cfg (fetchTeamIdWithToken lib userId)

def resolveTeamId (userId : String) : ExceptT Status TokenProg String := do
  let userId := Text.trim userId
  if userId = "" then throw ⟨.unauthenticated, "missing user id"⟩
  let entry ← (Op.readTeam userId).call
  cachedOrFetched entry (fetchTeamIdWithRetry lib cfg userId) fun resolved =>
    (Op.writeTeam userId resolved).call

def fetchTeamNamesWithRetry : ExceptT Status TokenProg (HashMap String String) :=
  withServiceToken lib cfg (fetchTeamNamesWithToken lib)

def resolveTeamNamesMap : ExceptT Status TokenProg (HashMap String String) := do
  let entry ← Op.readTeamNames.call
  cachedOrFetched entry (fetchTeamNamesWithRetry lib cfg) fun teamNames =>
    (Op.writeTeamNames teamNames).call

def issueTeamBotToken (teamId : String) : ExceptT Status TokenProg String :=
  withServiceToken lib cfg (issueTeamBotTokenWithCookie lib teamId)

def grantLogsAchievement (teamId : String) : ExceptT Status TokenProg Unit :=
  withServiceToken lib cfg (grantLogsAchievementWithRetry lib teamId)

def issueWrapperAuthToken : ExceptT Status TokenProg String := do
  let reply ← (Op.keycloak cfg.wrapperAuth).call
  match readKeycloakReply lib wrapperAuthTexts reply with
  | .ok (token, _) => pure token
  | .error _ =>
      throw ⟨.unauthenticated, "wrapper-auth: failed to fetch auth token from Keycloak"⟩

inductive Request where
  | teamId (userId : String)
  | teamNames
  | botToken (teamId : String)
  | logsAchievement (teamId : String)
  | wrapperToken
  deriving DecidableEq, Repr

inductive Reply where
  | teamId (teamId : String)
  | teamNames (teamNames : HashMap String String)
  | botToken (jwt : String)
  | logsAchievement
  | wrapperToken (token : String)

def Request.prog : Request → TokenProg (Except Status Reply)
  | .teamId userId => (Reply.teamId <$> resolveTeamId lib cfg userId).run
  | .teamNames => (Reply.teamNames <$> resolveTeamNamesMap lib cfg).run
  | .botToken team => (Reply.botToken <$> issueTeamBotToken lib cfg team).run
  | .logsAchievement team => ((fun _ => Reply.logsAchievement) <$>
      grantLogsAchievement lib cfg team).run
  | .wrapperToken => (Reply.wrapperToken <$> issueWrapperAuthToken lib cfg).run

abbrev TokenPool := Pool Resolver Op Op.Answer (Except Status Reply)

/-- One thread for every request. -/
def startPool (requests : ℕ → Request) : TokenPool :=
  .start .new fun thread => (requests thread).prog lib cfg

end HackArena.Official.ServiceTokens
