import HackArena.Local.Broker

/-!
# What the registration keeps to

In every run the manager sends only what its command has printed last, and after
a refusal nothing in that turn before the next print. A heartbeat is for the id
that is published, and a backend registers anew only when the broker does not
know it. A client is told that it has found its backend exactly when it asked for
the id that was published at that moment.
-/

namespace HackArena.Local.Broker

open GuardedRun Prog Services

-- Goals are not to be evaluated down to the characters of an id.
attribute [local irreducible] Text.trim

abbrev BrokerEntry := Entry BrokerOp BrokerOp.Answer
abbrev BrokerLog := List BrokerEntry
abbrev BrokerWorld := World BrokerRegistrationState BrokerOp BrokerOp.Answer
abbrev BrokerPool :=
  Pool BrokerRegistrationState BrokerOp BrokerOp.Answer (Option ValidateConnectionResponse)

/-! ## Delays -/

/-- A delay that the broker can rely on. -/
def Regular (delayNs : ℕ) : Prop :=
  heartbeatMinIntervalNs ≤ delayNs ∧ delayNs ≤ heartbeatMaxIntervalNs

theorem regular_clampDuration (value : ℕ) :
    Regular (clampDuration value heartbeatMinIntervalNs heartbeatMaxIntervalNs) := by
  unfold Regular clampDuration heartbeatMinIntervalNs heartbeatMaxIntervalNs second
  split_ifs <;> omega

theorem regular_intervalOf (ttl : Option ℕ) : Regular (intervalOf ttl) := by
  unfold intervalOf
  split
  · exact ⟨by decide, by decide⟩
  · exact ⟨by decide, by decide⟩
  · exact regular_clampDuration _

theorem regular_delayAfter {m : Manager} (h : Regular m.session.heartbeatIntervalNs)
    (result : Except String Unit) : Regular (delayAfter m result) := by
  unfold delayAfter
  split
  · exact h
  · exact ⟨by decide, by decide⟩

/-! ## Histories -/

/-- The token that a run of the command has printed. -/
def printed : Except SpawnError CommandOutput → Option String
  | .ok output => (readToken output).toOption
  | .error _ => none

/-- The id that the broker has granted. -/
def grantedId : Outcome RegisterBackendResponse → Option String
  | .answered response => some (Text.trim response.backendId) |>.filter (· ≠ "")
  | _ => none

def Outcome.refused {α : Type} : Outcome α → Bool
  | .failed status => isAuthError status
  | _ => false

def Outcome.missing {α : Type} : Outcome α → Bool
  | .failed status => status.code = .notFound
  | _ => false

/-- What a thread's calls have come to. The last five are about the turn that
began with the last sleep. -/
structure History where
  token : Option String
  granted : Option String
  published : Option String
  seen : Option BrokerRegistrationState
  refused : Bool
  missing : Bool
  renewed : Bool
  heartbeats : ℕ
  registrations : ℕ

def History.empty : History where
  token := none
  granted := none
  published := none
  seen := none
  refused := false
  missing := false
  renewed := false
  heartbeats := 0
  registrations := 0

namespace History

def withToken (h : History) (token : String) : History :=
  { h with token := some token, refused := false, renewed := true }

def afterRegistration (h : History) (outcome : Outcome RegisterBackendResponse) : History :=
  { h with
    granted := (grantedId outcome).or h.granted
    refused := outcome.refused
    renewed := false
    registrations := h.registrations + 1 }

def afterHeartbeat (h : History) (outcome : Outcome Unit) : History :=
  { h with
    refused := outcome.refused
    missing := outcome.missing
    renewed := false
    heartbeats := h.heartbeats + 1 }

/-- A new turn. -/
def turn (h : History) : History :=
  { h with
    refused := false
    missing := false
    renewed := false
    heartbeats := 0
    registrations := 0 }

def next (h : History) : (op : BrokerOp) → op.Answer → History
  | .haAuth _, answer => ((printed answer).map h.withToken).getD h
  | .registerBackend .., outcome => h.afterRegistration outcome
  | .heartbeat .., outcome => h.afterHeartbeat outcome
  | .unixNow, _ => h
  | .update backendId, _ => { h with published := some backendId }
  | .current, registration => { h with seen := some registration }
  | .sleep _, _ => h.turn

end History

section Statements

variable (env : AuthEnv) (request : RegisterBackendRequest)

/-- What the manager may call. After a refusal nothing more is sent in the turn
until the command has printed a token, which can be the refused one. A turn has
two heartbeats and two registrations at most, with a print before the second. -/
def Permitted (h : History) : BrokerOp → Prop
  | .haAuth candidate => candidate ∈ haAuthCandidates env ∧ (h.token = none ∨ h.refused = true)
  | .registerBackend token r => r = request ∧ h.token = some token ∧ h.refused = false ∧
      (h.granted = none ∨ h.missing = true) ∧
      (h.registrations = 0 ∨ h.registrations = 1 ∧ h.renewed = true)
  | .heartbeat token backendId backendSecret => backendSecret = request.backendSecret ∧
      h.token = some token ∧ h.refused = false ∧ h.granted = some backendId ∧
      h.published = some backendId ∧ h.registrations = 0 ∧
      (h.heartbeats = 0 ∨ h.heartbeats = 1 ∧ h.renewed = true)
  | .unixNow => True
  | .update backendId => h.granted = some backendId
  | .current => False
  | .sleep delayNs => Regular delayNs ∧ h.granted.isSome = true ∧ h.published = h.granted

def managerProtocol : Protocol BrokerOp BrokerOp.Answer History where
  init := .empty
  next := History.next
  permits := Permitted env request

def clientProtocol : Protocol BrokerOp BrokerOp.Answer History where
  init := .empty
  next := History.next
  permits _ op := op = .current

def protocols : ℕ → Protocol BrokerOp BrokerOp.Answer History
  | 0 => managerProtocol env request
  | _ + 1 => clientProtocol

end Statements

/-! ## The manager's calls -/

theorem Outcome.of_error {α : Type} {outcome : Outcome α} {text : String} {status : Status}
    (h : outcome.result text = .error status) :
    outcome.refused = isAuthError status ∧ outcome.missing = decide (status.code = .notFound) := by
  cases outcome with
  | answered response => cases h
  | failed status' =>
      obtain rfl := Except.error.inj h
      exact ⟨rfl, rfl⟩
  | timedOut =>
      obtain rfl := Except.error.inj h
      exact ⟨rfl, rfl⟩

theorem Outcome.of_ok {α : Type} {outcome : Outcome α} {text : String} {response : α}
    (h : outcome.result text = .ok response) : outcome = .answered response := by
  cases outcome with
  | answered response' => exact congrArg _ (Except.ok.inj h)
  | _ => cases h

theorem grantedId_of_error {outcome : Outcome RegisterBackendResponse} {text : String}
    {status : Status} (h : outcome.result text = .error status) : grantedId outcome = none := by
  cases outcome with
  | answered response => cases h
  | _ => rfl

section Manager

variable {lib : Libraries} {env : AuthEnv} {request : RegisterBackendRequest} {h : History}
  {m : Manager} {token : String}

theorem runHaAuth_follows {tried candidates : List String}
    (hsub : candidates ⊆ haAuthCandidates env) (hh : h.token = none ∨ h.refused = true) :
    (runHaAuth tried candidates).Follows (managerProtocol env request)
      (Either (fun output h' => h' = ((readToken output).toOption.map h.withToken).getD h)
        fun _ h' => h' = h) h := by
  induction candidates with
  | nil => rfl
  | cons candidate rest ih =>
      obtain ⟨hcandidate, hrest⟩ := List.cons_subset.mp hsub
      refine .call ⟨hcandidate, hh⟩ fun answer => ?_
      cases answer with
      | ok output => rfl
      | error err =>
          cases err with
          | notFound => exact ih hrest
          | other message => rfl

/-- A print, or the old state. -/
theorem fetchAuthToken_follows (hh : h.token = none ∨ h.refused = true) :
    (fetchAuthToken env).Follows (managerProtocol env request)
      (Either (fun token h' => h' = h.withToken token) fun _ h' => h' = h) h := by
  refine Follows.andThen (runHaAuth_follows (List.Subset.refl _) hh) fun r h' hr => ?_
  cases r with
  | error err => exact hr
  | ok output =>
      change h' = _ at hr
      subst hr
      cases hread : readToken output <;> simp [Follows, Either, Except.bind, hread, Except.toOption]

theorem registerBackend_follows
    (hpermits : Permitted env request h (.registerBackend token request)) :
    (registerBackend token request).Follows (managerProtocol env request)
      (fun r h' => ∃ outcome : Outcome RegisterBackendResponse,
        h' = h.afterRegistration outcome ∧
          r = outcome.result "broker RegisterBackend timed out") h :=
  .call hpermits fun outcome => ⟨outcome, rfl, rfl⟩

theorem heartbeat_follows (hpermits : Permitted env request h
    (.heartbeat m.token m.session.backendId request.backendSecret)) :
    (heartbeat m request).Follows (managerProtocol env request)
      (fun r h' => ∃ outcome : Outcome Unit, h' = h.afterHeartbeat outcome ∧
        r = outcome.result "broker Heartbeat timed out") h :=
  .call hpermits fun outcome => ⟨outcome, rfl, rfl⟩

theorem heartbeatInterval_follows (expiresAt : Option Timestamp) :
    (heartbeatIntervalFromExpiresAt expiresAt).Follows (managerProtocol env request)
      (fun interval h' => h' = h ∧ Regular interval) h := by
  cases expiresAt with
  | none => exact ⟨rfl, regular_intervalOf none⟩
  | some ts =>
      have hduration : (durationUntilTimestamp ts).Follows (managerProtocol env request)
          (fun _ h' => h' = h) h := by
        unfold durationUntilTimestamp
        cases ts.sinceEpoch with
        | none => rfl
        | some expiresAt => exact .call trivial fun _ => rfl
      exact Follows.andThen hduration fun ttl h' hh' => ⟨hh', regular_intervalOf ttl⟩

/-- A session has the id that was granted. -/
theorem acceptResponse_follows (response : RegisterBackendResponse) :
    (acceptResponse response).Follows (managerProtocol env request)
      (Either (fun session h' => h' = h ∧ Regular session.heartbeatIntervalNs ∧
          grantedId (.answered response) = some session.backendId)
        fun _ h' => h' = h ∧ grantedId (.answered response) = none) h := by
  unfold acceptResponse grantedId
  by_cases hid : Text.trim response.backendId = ""
  · rw [if_pos hid]
    exact ⟨rfl, by simp [hid]⟩
  · rw [if_neg hid]
    refine Follows.andThen (heartbeatInterval_follows _) ?_
    rintro interval h' ⟨rfl, hregular⟩
    exact ⟨rfl, hregular, by simp [hid]⟩

/-- Where a registration leads to from `h`. -/
def Registered (h : History) : String × Except String BrokerSession → History → Prop
  | (token, .ok session), h' => h'.token = some token ∧ h'.published = h.published ∧
      h'.granted = some session.backendId ∧ Regular session.heartbeatIntervalNs
  | (token, .error _), h' => h'.token = some token ∧ h'.published = h.published ∧
      h'.granted = h.granted

theorem accepted_follows {g : History} (htoken : h.token = some token)
    (hpublished : h.published = g.published) (hgranted : h.granted = g.granted)
    (response : RegisterBackendResponse) :
    (do pure (token, ← acceptResponse response) : BrokerProg _).Follows
      (managerProtocol env request) (Registered g) (h.afterRegistration (.answered response)) := by
  refine Follows.andThen (acceptResponse_follows response) fun r h' hr => ?_
  cases r with
  | ok session =>
      obtain ⟨rfl, hregular, hid⟩ := hr
      refine ⟨htoken, hpublished, ?_, hregular⟩
      simp [History.afterRegistration, hid]
  | error err =>
      obtain ⟨rfl, hid⟩ := hr
      refine ⟨htoken, hpublished, ?_⟩
      simp [History.afterRegistration, hid, hgranted]

theorem registerWithAuthRetry_follows (htoken : h.token = some token)
    (hrefused : h.refused = false) (hmissing : h.granted = none ∨ h.missing = true)
    (hregistrations : h.registrations = 0) :
    (registerWithAuthRetry lib env token request).Follows (managerProtocol env request)
      (Registered h) h := by
  refine Follows.andThen (registerBackend_follows
    ⟨rfl, htoken, hrefused, hmissing, Or.inl hregistrations⟩) ?_
  rintro r h' ⟨outcome, rfl, rfl⟩
  cases hresult : outcome.result "broker RegisterBackend timed out" with
  | ok response =>
      obtain rfl := Outcome.of_ok hresult
      exact accepted_follows htoken rfl rfl response
  | error status =>
      have hrefuses := (Outcome.of_error hresult).1
      have hgranted : (h.afterRegistration outcome).granted = h.granted := by
        simp [History.afterRegistration, grantedId_of_error hresult]
      cases hauth : isAuthError status with
      | false => simpa [hauth] using ⟨htoken, rfl, hgranted⟩
      | true =>
          rw [hauth] at hrefuses
          dsimp only
          rw [if_pos hauth]
          refine Follows.andThen (fetchAuthToken_follows
            (h := h.afterRegistration outcome) (Or.inr hrefuses)) fun r h' hr => ?_
          cases r with
          | error err =>
              change h' = _ at hr
              subst hr
              exact ⟨htoken, rfl, hgranted⟩
          | ok token' =>
              change h' = _ at hr
              subst hr
              have hpermits : Permitted env request
                  ((h.afterRegistration outcome).withToken token')
                  (.registerBackend token' request) := by
                refine ⟨rfl, rfl, rfl, ?_, Or.inr ⟨?_, rfl⟩⟩
                · exact hmissing.imp_left hgranted.trans
                · change h.registrations + 1 = 1
                  omega
              refine Follows.andThen (registerBackend_follows hpermits) ?_
              rintro r h' ⟨outcome', rfl, rfl⟩
              cases hresult' : outcome'.result "broker RegisterBackend timed out" with
              | ok response =>
                  obtain rfl := Outcome.of_ok hresult'
                  exact accepted_follows (g := h)
                    (h := (h.afterRegistration outcome).withToken token') rfl rfl hgranted response
              | error status' =>
                  refine ⟨rfl, rfl, Eq.trans ?_ hgranted⟩
                  simp [History.afterRegistration, History.withToken, grantedId_of_error hresult']

/-- What the manager keeps is what has been granted and published. -/
structure Kept (m : Manager) (h : History) : Prop where
  token : h.token = some m.token
  granted : h.granted = some m.session.backendId
  published : h.published = some m.session.backendId
  regular : Regular m.session.heartbeatIntervalNs

theorem recover_follows (hkept : Kept m h) {status : Status}
    (hrefused : h.refused = isAuthError status)
    (hmissing : h.missing = decide (status.code = .notFound))
    (hregistrations : h.registrations = 0) :
    (recover lib env m request status).Follows (managerProtocol env request)
      (fun r h' => Kept r.1 h') h := by
  unfold recover
  by_cases hcode : status.code = .notFound
  · rw [if_pos hcode]
    have hauth : isAuthError status = false := by simp [isAuthError, hcode]
    refine Follows.andThen (registerWithAuthRetry_follows hkept.token (hrefused.trans hauth)
      (Or.inr (by simp [hmissing, hcode])) hregistrations) ?_
    rintro ⟨token, r⟩ h' hr
    cases r with
    | error err =>
        obtain ⟨htoken, hpublished, hgranted⟩ := hr
        exact ⟨htoken, hgranted.trans hkept.granted, hpublished.trans hkept.published,
          hkept.regular⟩
    | ok session =>
        obtain ⟨htoken, hpublished, hgranted, hregular⟩ := hr
        exact .call hgranted fun _ => ⟨htoken, hgranted, rfl, hregular⟩
  · rw [if_neg hcode]
    exact hkept

theorem heartbeatWithRecovery_follows (hkept : Kept m h) (hrefused : h.refused = false)
    (hheartbeats : h.heartbeats = 0) (hregistrations : h.registrations = 0) :
    (heartbeatWithRecovery lib env m request).Follows (managerProtocol env request)
      (fun r h' => Kept r.1 h') h := by
  refine Follows.andThen (heartbeat_follows ⟨rfl, hkept.token, hrefused, hkept.granted,
    hkept.published, hregistrations, Or.inl hheartbeats⟩) ?_
  rintro r h' ⟨outcome, rfl, rfl⟩
  have hafter : Kept m (h.afterHeartbeat outcome) :=
    ⟨hkept.token, hkept.granted, hkept.published, hkept.regular⟩
  cases hresult : outcome.result "broker Heartbeat timed out" with
  | ok _ => exact hafter
  | error status =>
      obtain ⟨hrefuses, hmisses⟩ := Outcome.of_error hresult
      cases hauth : isAuthError status with
      | false =>
          simpa [hauth] using recover_follows hafter hrefuses hmisses hregistrations
      | true =>
          rw [hauth] at hrefuses
          dsimp only
          rw [if_pos hauth]
          refine Follows.andThen (fetchAuthToken_follows
            (h := h.afterHeartbeat outcome) (Or.inr hrefuses)) fun r h' hr => ?_
          cases r with
          | error err =>
              change h' = _ at hr
              subst hr
              exact hafter
          | ok token =>
              change h' = _ at hr
              subst hr
              have hpermits : Permitted env request ((h.afterHeartbeat outcome).withToken token)
                  (.heartbeat token m.session.backendId request.backendSecret) := by
                refine ⟨rfl, rfl, rfl, hkept.granted, hkept.published, hregistrations,
                  Or.inr ⟨?_, rfl⟩⟩
                change h.heartbeats + 1 = 1
                omega
              refine Follows.andThen (heartbeat_follows (m := { m with token }) hpermits) ?_
              rintro r h' ⟨outcome', rfl, rfl⟩
              have hlast : Kept { m with token }
                  (((h.afterHeartbeat outcome).withToken token).afterHeartbeat outcome') :=
                ⟨rfl, hkept.granted, hkept.published, hkept.regular⟩
              cases hresult' : outcome'.result "broker Heartbeat timed out" with
              | ok _ => exact hlast
              | error status' =>
                  obtain ⟨hrefuses', hmisses'⟩ := Outcome.of_error hresult'
                  exact recover_follows hlast hrefuses' hmisses' hregistrations

theorem runHeartbeatLoop_follows (turns : ℕ) (hkept : Kept m h) {nextDelay : ℕ}
    (hdelay : Regular nextDelay) :
    (runHeartbeatLoop lib env request turns m nextDelay).Follows (managerProtocol env request)
      (fun _ _ => True) h := by
  induction turns generalizing m h nextDelay with
  | zero => trivial
  | succ turns ih =>
      have hpermits : Permitted env request h (.sleep nextDelay) :=
        ⟨hdelay, by rw [hkept.granted]; rfl, hkept.published.trans hkept.granted.symm⟩
      refine .call hpermits fun shutdown => ?_
      have hturn : Kept m h.turn :=
        ⟨hkept.token, hkept.granted, hkept.published, hkept.regular⟩
      cases shutdown with
      | true => trivial
      | false =>
          refine Follows.andThen (heartbeatWithRecovery_follows hturn rfl rfl rfl) ?_
          rintro ⟨m', result⟩ h' hkept'
          exact ih hkept' (regular_delayAfter hkept'.regular result)

theorem manage_follows (turns : ℕ) :
    (manage lib env request turns).Follows (managerProtocol env request) (fun _ _ => True)
      .empty := by
  refine Follows.andThen (fetchAuthToken_follows (Or.inl rfl)) fun r h hr => ?_
  cases r with
  | error err => trivial
  | ok token =>
      change h = _ at hr
      subst hr
      refine Follows.andThen (registerWithAuthRetry_follows rfl rfl (Or.inl rfl) rfl) ?_
      rintro ⟨token, r⟩ h' hr
      cases r with
      | error err => trivial
      | ok session =>
          obtain ⟨htoken, hpublished, hgranted, hregular⟩ := hr
          exact .call hgranted fun _ =>
            runHeartbeatLoop_follows turns ⟨htoken, hgranted, rfl, hregular⟩ hregular

end Manager

/-! ## Runs -/

/-- What the calls of a thread have come to. -/
def historyOf (thread : ℕ) : BrokerLog → History
  | [] => .empty
  | e :: log =>
      if e.thread = thread then (historyOf thread log).next e.op e.answer
      else historyOf thread log

/-- The broker has granted the id. -/
def Granted (backendId : String) (log : BrokerLog) : Prop :=
  ∃ thread token request outcome, ⟨thread, .registerBackend token request, outcome⟩ ∈ log ∧
    grantedId outcome = some backendId

/-- A backend with the clients that will ask for it, as far as some turns of its
manager's loop. -/
structure Backend where
  lib : Libraries
  env : AuthEnv
  cfg : Config
  net : Network
  backendSecret : List UInt8
  turns : ℕ
  requests : ℕ → ValidateConnectionRequest

namespace Backend

variable (b : Backend)

def request : RegisterBackendRequest := registrationRequest b.lib b.cfg b.net b.backendSecret

/-- The first thread is the manager, the others are clients. -/
def threads : ℕ → BrokerProg (Option ValidateConnectionResponse)
  | 0 => do
      startRegistrationManager b.lib b.env b.cfg b.net b.backendSecret b.turns
      pure none
  | i + 1 => do pure (some (← validateConnection (b.requests i)))

def start : BrokerPool := .start none b.threads

/-- The backend after the first steps of a run. -/
def running (events : List (ℕ × BrokerInput)) (n : ℕ) : BrokerPool :=
  stateAt (Pool.step (brokerExec b.lib)) b.start events n

end Backend

/-- A call of the manager is a permitted one, and what is published is what it
has published; the others only look at that. -/
def Backend.Proper (b : Backend) (w : BrokerWorld) (thread : ℕ) (op : BrokerOp) : Prop :=
  match thread with
  | 0 => Permitted b.env b.request (historyOf 0 w.log) op ∧ w.shared = (historyOf 0 w.log).published
  | _ + 1 => op = .current

/-- A client's answer is about the id that was published when it was asked. -/
def Judged (thread : ℕ) (req : ValidateConnectionRequest) (log : BrokerLog)
    (response : ValidateConnectionResponse) : Prop :=
  ∃ newer older registration, log = newer ++ ⟨thread, .current, registration⟩ :: older ∧
    registration = (historyOf 0 older).published ∧
    (∀ backendId, registration = some backendId → Granted backendId older) ∧
    (response.status = .ok ↔ registration = some (Text.trim req.backendId) ∧
      Text.trim req.protocolVersion = supportedProtocolVersion) ∧
    (registration.isSome = true → some response.backendId = registration) ∧
    response.nonceEcho = req.nonce

/-- What is published is what the broker has granted. -/
structure Consistent (w : BrokerWorld) : Prop where
  shared : w.shared = (historyOf 0 w.log).published
  granted : ∀ id, (historyOf 0 w.log).granted = some id → Granted id w.log
  published : ∀ id, (historyOf 0 w.log).published = some id → Granted id w.log

section Rules

variable {lib : Libraries} {env : AuthEnv} {request : RegisterBackendRequest} {w : BrokerWorld}
  {log log' : BrokerLog} {id : String}

theorem stageOf_eq (thread : ℕ) (log : BrokerLog) :
    (protocols env request thread).stageOf thread log = historyOf thread log := by
  induction log with
  | nil => cases thread <;> rfl
  | cons e log ih =>
      rw [Protocol.stageOf, historyOf, ih]
      cases thread <;> rfl

theorem Granted.mono (h : Granted id log) (hlog : log <:+ log') : Granted id log' := by
  obtain ⟨thread, token, r, outcome, he, hid⟩ := h
  exact ⟨thread, token, r, outcome, hlog.subset he, hid⟩

theorem Granted.ne_empty (h : Granted id log) : id ≠ "" := by
  obtain ⟨-, -, -, outcome, -, hid⟩ := h
  cases outcome with
  | answered response =>
      simp only [grantedId] at hid
      simpa using (Option.filter_eq_some_iff.mp hid).2
  | _ => cases hid

theorem historyOf_perform_self (w : BrokerWorld) (thread : ℕ) (op : BrokerOp) (i : BrokerInput) :
    historyOf thread (w.perform (brokerExec lib) thread op i).log =
      (historyOf thread w.log).next op (brokerExec lib w.shared op i).2 := by
  simp [World.perform, historyOf]

theorem historyOf_perform_ne (w : BrokerWorld) {thread other : ℕ} (hne : thread ≠ other)
    (op : BrokerOp) (i : BrokerInput) :
    historyOf other (w.perform (brokerExec lib) thread op i).log = historyOf other w.log := by
  simp [World.perform, historyOf, hne]

/-- A call that changes neither the id that was granted nor the one that is
published. -/
theorem Consistent.keep (h : Consistent w) {thread : ℕ} {op : BrokerOp} {i : BrokerInput}
    (hshared : (brokerExec lib w.shared op i).1 = w.shared)
    (hgranted : (historyOf 0 (w.perform (brokerExec lib) thread op i).log).granted =
      (historyOf 0 w.log).granted)
    (hpublished : (historyOf 0 (w.perform (brokerExec lib) thread op i).log).published =
      (historyOf 0 w.log).published) : Consistent (w.perform (brokerExec lib) thread op i) where
  shared := hshared.trans (h.shared.trans hpublished.symm)
  granted id hid := (h.granted id (hgranted.symm.trans hid)).mono (List.suffix_cons _ _)
  published id hid := (h.published id (hpublished.symm.trans hid)).mono (List.suffix_cons _ _)

theorem Consistent.register (h : Consistent w) (token : String) (r : RegisterBackendRequest)
    (i : BrokerInput) :
    Consistent (w.perform (brokerExec lib) 0 (.registerBackend token r) i) where
  shared := by
    rw [historyOf_perform_self]
    exact h.shared
  granted id hid := by
    rw [historyOf_perform_self] at hid
    rcases Option.or_eq_some_iff.mp hid with hnew | ⟨-, hold⟩
    · exact ⟨0, token, r, _, List.mem_cons_self, hnew⟩
    · exact (h.granted id hold).mono (List.suffix_cons _ _)
  published id hid := by
    rw [historyOf_perform_self] at hid
    exact (h.published id hid).mono (List.suffix_cons _ _)

theorem Consistent.update (h : Consistent w) {backendId : String}
    (hgranted : (historyOf 0 w.log).granted = some backendId) (i : BrokerInput) :
    Consistent (w.perform (brokerExec lib) 0 (.update backendId) i) where
  shared := by
    rw [historyOf_perform_self]
    rfl
  granted id hid := by
    rw [historyOf_perform_self] at hid
    exact (h.granted id hid).mono (List.suffix_cons _ _)
  published id hid := by
    rw [historyOf_perform_self] at hid
    obtain rfl := Option.some.inj hid
    exact (h.granted _ hgranted).mono (List.suffix_cons _ _)

theorem Consistent.perform (h : Consistent w) {thread : ℕ} {op : BrokerOp}
    (hpermits : (protocols env request thread).permits (historyOf thread w.log) op)
    (i : BrokerInput) : Consistent (w.perform (brokerExec lib) thread op i) := by
  cases thread with
  | succ thread =>
      obtain rfl : op = .current := hpermits
      have hsame : historyOf 0 (w.perform (brokerExec lib) (thread + 1) .current i).log =
          historyOf 0 w.log := historyOf_perform_ne w thread.succ_ne_zero .current i
      exact h.keep rfl (congrArg (·.granted) hsame) (congrArg (·.published) hsame)
  | zero =>
      have hnext : historyOf 0 (w.perform (brokerExec lib) 0 op i).log =
          (historyOf 0 w.log).next op (brokerExec lib w.shared op i).2 :=
        historyOf_perform_self w 0 op i
      cases op with
      | registerBackend token r => exact h.register token r i
      | update backendId => exact h.update hpermits i
      | current => exact False.elim hpermits
      | haAuth candidate =>
          refine h.keep rfl ?_ ?_
          all_goals
            rw [hnext, History.next]
            cases printed (brokerExec lib w.shared (.haAuth candidate) i).2 <;> rfl
      | _ => exact h.keep rfl (congrArg (·.granted) hnext) (congrArg (·.published) hnext)

end Rules

section Runs

/-- A client has looked at the registration once. -/
theorem validateConnection_follows (req : ValidateConnectionRequest) :
    (do pure (some (← validateConnection req)) : BrokerProg _).Follows clientProtocol
      (fun response h => ∃ registration, h.seen = some registration ∧
        response = some (judge req registration)) .empty :=
  .call rfl fun registration => ⟨registration, rfl, rfl⟩

theorem startRegistrationManager_follows (b : Backend) :
    (startRegistrationManager b.lib b.env b.cfg b.net b.backendSecret b.turns).Follows
      (managerProtocol b.env b.request) (fun _ _ => True) .empty := by
  unfold startRegistrationManager
  dsimp only
  split
  · trivial
  · exact manage_follows b.turns

theorem followedBy_start (b : Backend) :
    b.start.FollowedBy (protocols b.env b.request) fun _ _ => True := by
  intro i
  cases i with
  | zero => exact Follows.andThen (startRegistrationManager_follows b) fun _ _ _ => trivial
  | succ i => exact (validateConnection_follows (b.requests i)).mono fun _ _ _ => trivial

theorem consistent_start : Consistent ⟨none, []⟩ where
  shared := rfl
  granted id h := by cases h
  published id h := by cases h

theorem consistent_running (b : Backend) (events : List (ℕ × BrokerInput)) (n : ℕ) :
    Consistent (b.running events n).world :=
  (followedBy_start b).invariant (G := fun _ _ _ _ => True)
    (fun _ _ _ i hw _ hpermits => hw.perform (by rwa [stageOf_eq] at hpermits) i) consistent_start
    (Pool.along_free _ _ events) n

/-- Wherever a client is, it goes on to answer from what it sees. -/
theorem client_running (b : Backend) (events : List (ℕ × BrokerInput)) (n i : ℕ) :
    ((b.running events n).threads (i + 1)).Follows clientProtocol
      (fun response h => ∃ registration, h.seen = some registration ∧
        response = some (judge (b.requests i) registration))
      (historyOf (i + 1) (b.running events n).world.log) := by
  have hstage : (protocols b.env b.request (i + 1)).stageOf (i + 1)
      (b.running events n).world.log = _ := stageOf_eq _ _
  rw [← hstage]
  exact Pool.follows_stateAt (P := clientProtocol) (validateConnection_follows (b.requests i))
    events n

/-- What a client has seen was answered to its call. -/
theorem exists_current_of_seen {thread : ℕ} {log : BrokerLog}
    {registration : BrokerRegistrationState}
    (h : (historyOf thread log).seen = some registration) :
    ∃ newer older, log = newer ++ ⟨thread, .current, registration⟩ :: older := by
  induction log with
  | nil => cases h
  | cons e log ih =>
      have hearlier : (historyOf thread log).seen = some registration →
          ∃ newer older, e :: log = newer ++ ⟨thread, .current, registration⟩ :: older := by
        intro hold
        obtain ⟨newer, older, rfl⟩ := ih hold
        exact ⟨e :: newer, older, rfl⟩
      rw [historyOf] at h
      split at h
      · rename_i hthread
        obtain ⟨thread, op, answer⟩ := e
        subst hthread
        cases op with
        | current =>
            obtain rfl := Option.some.inj h
            exact ⟨[], log, rfl⟩
        | haAuth candidate =>
            refine hearlier ?_
            rw [History.next] at h
            revert h
            cases printed answer <;> exact id
        | _ => exact hearlier h
      · exact hearlier h

/-- Only the published id, in the version that is spoken, is the right one. -/
theorem judge_ok {req : ValidateConnectionRequest} {registration : BrokerRegistrationState}
    (hne : ∀ id, registration = some id → id ≠ "") :
    (judge req registration).status = .ok ↔ registration = some (Text.trim req.backendId) ∧
      Text.trim req.protocolVersion = supportedProtocolVersion := by
  unfold judge
  dsimp only
  by_cases hid : Text.trim req.backendId = ""
  · rw [if_pos hid]
    exact iff_of_false (by simp) fun h => hne _ h.1 hid
  rw [if_neg hid]
  by_cases hversion : Text.trim req.protocolVersion = supportedProtocolVersion
  · rw [if_neg (by rw [hversion]; decide), if_neg (not_not_intro hversion)]
    cases registration with
    | none => simp
    | some registered =>
        dsimp only
        by_cases hsame : Text.trim req.backendId = registered
        · simp [hsame, hversion]
        · simpa [hsame, hversion] using Ne.symm hsame
  · refine iff_of_false ?_ fun h => hversion h.2
    split_ifs <;> simp_all

theorem judge_nonceEcho (req : ValidateConnectionRequest) (registration : BrokerRegistrationState) :
    (judge req registration).nonceEcho = req.nonce := by
  unfold judge
  dsimp only
  split_ifs
  · rfl
  · rfl
  · rfl
  · cases registration with
    | none => rfl
    | some registered =>
        dsimp only
        split_ifs <;> rfl

theorem judge_backendId (req : ValidateConnectionRequest) (registered : String) :
    (judge req (some registered)).backendId = registered := by
  unfold judge
  dsimp only
  split_ifs <;> rfl

/-- Over every interleaving of the manager with clients, whatever the command,
the broker and the clock answer: each call of the manager is a permitted one, and
each answer to a client is about the id that was published when it was asked. -/
theorem registration_kept (b : Backend) (events : List (ℕ × BrokerInput)) :
    Along (Pool.Guarded fun w thread op _ => b.Proper w thread op)
      (Pool.step (brokerExec b.lib)) b.start events ∧
    ∀ n i response, (b.running events n).threads (i + 1) = .ret (some response) →
      Judged (i + 1) (b.requests i) (b.running events n).world.log response := by
  constructor
  · refine (followedBy_start b).along (G := fun _ _ _ _ => True)
      (fun _ _ _ i hw _ hpermits => hw.perform (by rwa [stageOf_eq] at hpermits) i)
      (fun w thread op i hw _ hpermits => ?_) consistent_start
      (Pool.along_free _ _ events)
    rw [stageOf_eq] at hpermits
    cases thread with
    | zero => exact ⟨hpermits, hw.shared⟩
    | succ thread => exact hpermits
  · intro n i response hret
    have hclient := client_running b events n i
    rw [hret] at hclient
    obtain ⟨registration, hseen, hresponse⟩ := hclient
    obtain rfl := Option.some.inj hresponse
    obtain ⟨newer, older, hlog⟩ := exists_current_of_seen hseen
    obtain ⟨m, -, holder, input, hanswer⟩ := Pool.exists_state_of_log (brokerExec b.lib) rfl hlog
    have hthen : Consistent (b.running events m).world := consistent_running b events m
    have hpublished := hthen.shared.symm.trans hanswer
    have hgranted := hthen.published
    unfold Backend.running at hpublished hgranted
    rw [holder] at hpublished hgranted
    refine ⟨newer, older, registration, hlog, hpublished.symm, fun id hid => ?_, ?_, ?_, ?_⟩
    · exact hgranted id (hpublished.trans hid)
    · exact judge_ok fun id hid => (hgranted id (hpublished.trans hid)).ne_empty
    · intro hsome
      obtain ⟨registered, rfl⟩ := Option.isSome_iff_exists.mp hsome
      exact congrArg some (judge_backendId _ _)
    · exact judge_nonceEcho _ _

end Runs

end HackArena.Local.Broker
