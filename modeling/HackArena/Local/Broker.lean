import HackArena.Lib.Programs
import HackArena.Lib.Text
import HackArena.Lib.UnixPaths
import HackArena.Services.Status

/-!
# The registration with the broker

A local backend registers with the broker, which gives it an id. A manager
keeps the registration alive with heartbeats. It gets its tokens from a command,
takes a new one when it is refused, and registers anew when the broker does not
know it any more. Clients ask whether a backend is the one they mean.
-/

namespace HackArena.Local.Broker

open Prog Services

/-! ## Addresses -/

structure Ipv4Addr where
  a : UInt8
  b : UInt8
  c : UInt8
  d : UInt8
  deriving DecidableEq, Repr

namespace Ipv4Addr

def isLoopback (ip : Ipv4Addr) : Bool := ip.a = 127

def isUnspecified (ip : Ipv4Addr) : Bool := ip = ⟨0, 0, 0, 0⟩

def isLinkLocal (ip : Ipv4Addr) : Bool := ip.a = 169 ∧ ip.b = 254

def display (ip : Ipv4Addr) : String :=
  toString ip.a ++ "." ++ toString ip.b ++ "." ++ toString ip.c ++ "." ++ toString ip.d

end Ipv4Addr

abbrev Ipv6Addr := BitVec 128

def Ipv6Addr.isLoopback (ip : Ipv6Addr) : Bool := ip = 1

def Ipv6Addr.isUnspecified (ip : Ipv6Addr) : Bool := ip = 0

inductive IpAddr where
  | v4 (ip : Ipv4Addr)
  | v6 (ip : Ipv6Addr)
  deriving DecidableEq, Repr

/-- What the system says of the network: the local addresses of the two sockets,
if these can be connected, and the addresses of the interfaces. -/
structure Network where
  socketIpv4 : Option IpAddr
  socketIpv6 : Option IpAddr
  interfaces : List IpAddr

def specificIpv4 : IpAddr → Option Ipv4Addr
  | .v4 ip => if !ip.isLoopback && !ip.isUnspecified then some ip else none
  | .v6 _ => none

def specificIpv6 : IpAddr → Option Ipv6Addr
  | .v6 ip => if !ip.isLoopback && !ip.isUnspecified then some ip else none
  | .v4 _ => none

def discoverIpv4 (net : Network) : Option Ipv4Addr := net.socketIpv4.bind specificIpv4

def discoverIpv6 (net : Network) : Option Ipv6Addr := net.socketIpv6.bind specificIpv6

def discoverInterfaceIpv4s (net : Network) : List Ipv4Addr :=
  (net.interfaces.filterMap specificIpv4).filter fun ip => !ip.isLinkLocal

/-- The addresses that the endpoints are made of. -/
def localIpv4s (listenAddr : IpAddr) (net : Network) : List Ipv4Addr :=
  ((specificIpv4 listenAddr).toList ++ (discoverIpv4 net).toList ++
    discoverInterfaceIpv4s net).eraseDups

def resolveLocalIpv4Endpoints (listenAddr : IpAddr) (net : Network) : List String :=
  (localIpv4s listenAddr net).map Ipv4Addr.display

def resolveLocalIpv6 (listenAddr : IpAddr) (net : Network) : Option Ipv6Addr :=
  (specificIpv6 listenAddr).or (discoverIpv6 net)

/-! ## Requests and answers -/

structure RegisterBackendRequest where
  localIpv4Endpoints : List String
  localIpv6 : String
  localPort : ℕ
  backendSecret : List UInt8
  deriving DecidableEq, Repr

structure Timestamp where
  seconds : ℤ
  nanos : ℤ
  deriving DecidableEq, Repr

structure RegisterBackendResponse where
  backendId : String
  expiresAt : Option Timestamp
  deriving DecidableEq, Repr

/-- How a call of the broker ends that is given five seconds. -/
inductive Outcome (α : Type) where
  | timedOut
  | failed (status : Status)
  | answered (response : α)
  deriving DecidableEq, Repr

def Outcome.result {α : Type} (timeoutMessage : String) : Outcome α → Except Status α
  | .timedOut => .error ⟨.deadlineExceeded, timeoutMessage⟩
  | .failed status => .error status
  | .answered response => .ok response

/-- What a command that has run leaves behind. -/
structure CommandOutput where
  code : Option ℤ
  stdout : String
  stderr : String
  deriving DecidableEq, Repr

inductive SpawnError where
  | notFound
  | other (message : String)
  deriving DecidableEq, Repr

/-- The values that a header can have and the texts of a status and of an
address. -/
structure Libraries where
  metadataValue : String → Bool
  displayStatus : Status → String
  displayIpv6 : Ipv6Addr → String

/-! ## Calls -/

inductive BrokerOp where
  | haAuth (candidate : String)
  | registerBackend (token : String) (request : RegisterBackendRequest)
  | heartbeat (token backendId : String) (backendSecret : List UInt8)
  | unixNow
  | update (backendId : String)
  | current
  | sleep (delayNs : ℕ)
  deriving DecidableEq, Repr

/-- The clock may be before its epoch, and a sleep may be ended by the
shutdown. -/
abbrev BrokerOp.Answer : BrokerOp → Type
  | .haAuth _ => Except SpawnError CommandOutput
  | .registerBackend .. => Outcome RegisterBackendResponse
  | .heartbeat .. => Outcome Unit
  | .unixNow => Option ℕ
  | .update _ => Unit
  | .current => Option String
  | .sleep _ => Bool

structure BrokerInput where
  haAuth : Except SpawnError CommandOutput
  registration : Outcome RegisterBackendResponse
  heartbeat : Outcome Unit
  unixNow : Option ℕ
  shutdown : Bool

variable (lib : Libraries)

/-- The cookie that the interceptor adds to a request. -/
def authCookie (token : String) : String := "auth_token=" ++ token

/-- A request whose token cannot be sent is refused before it leaves. -/
def intercept {α : Type} (token : String) (outcome : Outcome α) : Outcome α :=
  if lib.metadataValue (authCookie token) then outcome
  else .failed ⟨.unauthenticated, "invalid broker auth token"⟩

/-- The id that is published, if there is one. -/
abbrev BrokerRegistrationState := Option String

def brokerExec (s : BrokerRegistrationState) (op : BrokerOp) (i : BrokerInput) :
    BrokerRegistrationState × op.Answer :=
  match op with
  | .haAuth _ => (s, i.haAuth)
  | .registerBackend token _ => (s, intercept lib token i.registration)
  | .heartbeat token _ _ => (s, intercept lib token i.heartbeat)
  | .unixNow => (s, i.unixNow)
  | .update backendId => (some backendId, ())
  | .current => (s, s)
  | .sleep _ => (s, i.shutdown)

abbrev BrokerProg := Prog BrokerOp BrokerOp.Answer

abbrev BrokerOp.call (op : BrokerOp) : BrokerProg op.Answer := perform op

/-! ## Tokens -/

/-- The variables that say where the command is. -/
structure AuthEnv where
  haAuthBin : Option String
  xdgDataHome : Option String
  home : Option String
  deriving DecidableEq, Repr

def pathIn (base : String) (parts : List String) : String :=
  String.ofList (parts.foldl (fun path part => UnixPath.join UnixPath.chars path part.toList)
    base.toList)

/-- The places where the command is looked for, on Linux. -/
def haAuthCandidates (env : AuthEnv) : List String :=
  let home := env.home.filter (· ≠ "")
  ((env.haAuthBin.filter (· ≠ "")).toList ++
    (env.xdgDataHome.map fun base => pathIn base ["hackarena", "bin", "ha-auth"]).toList ++
    (home.map fun base =>
      pathIn base [".local", "share", "hackarena", "bin", "ha-auth"]).toList ++
    (home.map fun base => pathIn base [".local", "bin", "ha-auth"]).toList ++
    ["./ha-auth", "ha-auth"]).eraseDups

def runHaAuth (tried : List String) : List String → BrokerProg (Except String CommandOutput)
  | [] => pure (.error ("failed to execute `ha-auth token --raw`; no command found (tried: " ++
      ", ".intercalate tried ++ ")"))
  | candidate :: rest => do
      match ← (BrokerOp.haAuth candidate).call with
      | .ok output => pure (.ok output)
      | .error .notFound => runHaAuth tried rest
      | .error (.other message) =>
          pure (.error ("failed to execute `ha-auth token --raw` via `" ++ candidate ++ "`: " ++
            message))

/-- The token that the command has printed. -/
def readToken (output : CommandOutput) : Except String String :=
  let stdout := Text.trim output.stdout
  let stderr := Text.trim output.stderr
  match output.code with
  | some 0 =>
      if stdout = "" then .error "`ha-auth token --raw` returned empty token" else .ok stdout
  | some 2 => .error "ha-auth login required; run `hackarena auth login`"
  | some 10 => .error ("ha-auth network/upstream error: " ++ stderr)
  | some 11 => .error ("ha-auth internal/local error: " ++ stderr)
  | some code => .error ("ha-auth failed with exit code " ++ toString code ++ ": " ++ stderr)
  | none => .error "ha-auth process terminated by signal"

variable (env : AuthEnv)

def fetchAuthToken : BrokerProg (Except String String) := do
  let output ← runHaAuth (haAuthCandidates env) (haAuthCandidates env)
  pure (output.bind readToken)

/-! ## Heartbeats -/

def second : ℕ := 1000000000

def heartbeatDefaultIntervalNs : ℕ := 20 * second

def heartbeatMinIntervalNs : ℕ := 5 * second

def heartbeatMaxIntervalNs : ℕ := 60 * second

def heartbeatSafetyMarginNs : ℕ := 10 * second

def heartbeatRetryBackoffNs : ℕ := 5 * second

/-- The time that a timestamp stands for, if it stands for one. -/
def Timestamp.sinceEpoch (ts : Timestamp) : Option ℕ :=
  if ts.seconds < 0 ∨ ts.nanos < 0 then none
  else if 1000000000 ≤ ts.nanos then none
  else some (ts.seconds.toNat * second + ts.nanos.toNat)

def durationUntilTimestamp (ts : Timestamp) : BrokerProg (Option ℕ) :=
  match ts.sinceEpoch with
  | none => pure none
  | some expiresAt => do
      let now ← BrokerOp.unixNow.call
      pure (now.map (expiresAt - ·))

def clampDuration (value min max : ℕ) : ℕ :=
  if value < min then min else if max < value then max else value

def intervalOf : Option ℕ → ℕ
  | none => heartbeatDefaultIntervalNs
  | some 0 => heartbeatMinIntervalNs
  | some ttl =>
      clampDuration (ttl - heartbeatSafetyMarginNs) heartbeatMinIntervalNs heartbeatMaxIntervalNs

def heartbeatIntervalFromExpiresAt : Option Timestamp → BrokerProg ℕ
  | none => pure (intervalOf none)
  | some ts => do pure (intervalOf (← durationUntilTimestamp ts))

structure BrokerSession where
  backendId : String
  heartbeatIntervalNs : ℕ
  deriving DecidableEq, Repr

/-- What the manager keeps between the heartbeats. -/
structure Manager where
  token : String
  session : BrokerSession
  deriving DecidableEq, Repr

def isAuthError (status : Status) : Bool :=
  status.code = .unauthenticated ∨ status.code = .permissionDenied

def registerBackend (token : String) (request : RegisterBackendRequest) :
    BrokerProg (Except Status RegisterBackendResponse) := do
  let outcome ← (BrokerOp.registerBackend token request).call
  pure (outcome.result "broker RegisterBackend timed out")

def heartbeat (m : Manager) (request : RegisterBackendRequest) :
    BrokerProg (Except Status Unit) := do
  let outcome ← (BrokerOp.heartbeat m.token m.session.backendId request.backendSecret).call
  pure (outcome.result "broker Heartbeat timed out")

/-- The session that a response begins. -/
def acceptResponse (response : RegisterBackendResponse) :
    BrokerProg (Except String BrokerSession) :=
  let backendId := Text.trim response.backendId
  if backendId = "" then pure (.error "broker RegisterBackend returned an empty backend_id")
  else do
    let heartbeatIntervalNs ← heartbeatIntervalFromExpiresAt response.expiresAt
    pure (.ok { backendId, heartbeatIntervalNs })

/-- The session, and the token that is used from then on. -/
def registerWithAuthRetry (token : String) (request : RegisterBackendRequest) :
    BrokerProg (String × Except String BrokerSession) := do
  match ← registerBackend token request with
  | .ok response => do pure (token, ← acceptResponse response)
  | .error status =>
      if isAuthError status then do
        match ← fetchAuthToken env with
        | .error err => pure (token, .error err)
        | .ok token => do
            match ← registerBackend token request with
            | .ok response => do pure (token, ← acceptResponse response)
            | .error err => pure (token, .error
                ("broker RegisterBackend failed after token refresh: " ++ lib.displayStatus err))
      else pure (token, .error ("broker RegisterBackend failed: " ++ lib.displayStatus status))

/-- What is done when a heartbeat has failed for good. -/
def recover (m : Manager) (request : RegisterBackendRequest) (status : Status) :
    BrokerProg (Manager × Except String Unit) :=
  if status.code = .notFound then do
    match ← registerWithAuthRetry lib env m.token request with
    | (token, .error err) => pure ({ m with token }, .error err)
    | (token, .ok session) => do
        (BrokerOp.update session.backendId).call
        pure ({ token, session }, .ok ())
  else pure (m, .error ("broker Heartbeat failed: " ++ lib.displayStatus status))

def heartbeatWithRecovery (m : Manager) (request : RegisterBackendRequest) :
    BrokerProg (Manager × Except String Unit) := do
  match ← heartbeat m request with
  | .ok () => pure (m, .ok ())
  | .error status =>
      if isAuthError status then do
        match ← fetchAuthToken env with
        | .error err => pure (m, .error err)
        | .ok token => do
            let m := { m with token }
            match ← heartbeat m request with
            | .ok () => pure (m, .ok ())
            | .error status => recover lib env m request status
      else recover lib env m request status

/-- The delay after a heartbeat and its recovery. -/
def delayAfter (m : Manager) (result : Except String Unit) : ℕ :=
  if result.isOk then m.session.heartbeatIntervalNs else heartbeatRetryBackoffNs

/-- The loop, for as many turns as are looked at. -/
def runHeartbeatLoop (request : RegisterBackendRequest) :
    (turns : ℕ) → Manager → (nextDelay : ℕ) → BrokerProg Unit
  | 0, _, _ => pure ()
  | turns + 1, m, nextDelay => do
      let shutdown ← (BrokerOp.sleep nextDelay).call
      if shutdown then pure ()
      else do
        let (m, result) ← heartbeatWithRecovery lib env m request
        runHeartbeatLoop request turns m (delayAfter m result)

/-! ## The manager -/

structure Config where
  listenIp : IpAddr
  listenPort : ℕ
  brokerEndpoint : String

def registrationRequest (cfg : Config) (net : Network) (backendSecret : List UInt8) :
    RegisterBackendRequest where
  localIpv4Endpoints := resolveLocalIpv4Endpoints cfg.listenIp net
  localIpv6 := ((resolveLocalIpv6 cfg.listenIp net).map lib.displayIpv6).getD ""
  localPort := cfg.listenPort
  backendSecret

/-- The manager from its first token on. -/
def manage (request : RegisterBackendRequest) (turns : ℕ) : BrokerProg Unit := do
  match ← fetchAuthToken env with
  | .error _ => pure ()
  | .ok token => do
      match ← registerWithAuthRetry lib env token request with
      | (_, .error _) => pure ()
      | (token, .ok session) => do
          (BrokerOp.update session.backendId).call
          runHeartbeatLoop lib env request turns { token, session } session.heartbeatIntervalNs

/-- A manager needs an address that others can reach. -/
def startRegistrationManager (cfg : Config) (net : Network) (backendSecret : List UInt8)
    (turns : ℕ) : BrokerProg Unit :=
  let request := registrationRequest lib cfg net backendSecret
  if request.localIpv4Endpoints = [] then pure () else manage lib env request turns

/-! ## Validation of connections -/

inductive ConnectStatus where
  | ok | invalidArgument | unsupportedProtocol | backendMismatch | internalError
  deriving DecidableEq, Repr

structure ValidateConnectionRequest where
  backendId : String
  protocolVersion : String
  nonce : List UInt8
  deriving DecidableEq, Repr

structure ValidateConnectionResponse where
  status : ConnectStatus
  backendId : String
  message : String
  nonceEcho : List UInt8
  deriving DecidableEq, Repr

def supportedProtocolVersion : String := "1"

/-- The answer to a request, at a registration. -/
def judge (req : ValidateConnectionRequest) (registration : BrokerRegistrationState) :
    ValidateConnectionResponse :=
  let currentBackendId := registration.getD ""
  let requestedBackendId := Text.trim req.backendId
  let protocolVersion := Text.trim req.protocolVersion
  if requestedBackendId = "" then
    ⟨.invalidArgument, currentBackendId, "backend_id is required", req.nonce⟩
  else if protocolVersion = "" then
    ⟨.invalidArgument, currentBackendId, "protocol_version is required", req.nonce⟩
  else if protocolVersion ≠ supportedProtocolVersion then
    ⟨.unsupportedProtocol, currentBackendId, "unsupported protocol_version `" ++ protocolVersion ++
      "`; expected `" ++ supportedProtocolVersion ++ "`", req.nonce⟩
  else match registration with
    | none => ⟨.internalError, "", "broker registration state is not ready", req.nonce⟩
    | some registered =>
        if requestedBackendId ≠ registered then
          ⟨.backendMismatch, registered, "requested backend_id does not match current backend",
            req.nonce⟩
        else ⟨.ok, registered, "connection validated", req.nonce⟩

def validateConnection (req : ValidateConnectionRequest) :
    BrokerProg ValidateConnectionResponse := do
  let registration ← BrokerOp.current.call
  pure (judge req registration)

end HackArena.Local.Broker
