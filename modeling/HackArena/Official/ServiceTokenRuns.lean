import HackArena.Lib.LogMoments
import HackArena.Official.ServiceTokens

/-!
# What tokens and answers rest on

In every run, whatever the services answer and however requests overlap, a
request for the platform carries a token that Keycloak has granted to it, or to
the one that has stored the token. What is taken from a cache was stored with a
time at which it expires, and when its reader looks at the clock afterwards, this
time has not come. A request tries two tokens at most.
-/

namespace HackArena.Official.ServiceTokens

open GuardedRun LogMoments Prog Services

-- Goals are not to be evaluated down to the characters of an id.
attribute [local irreducible] Text.trim

abbrev TokenWorld := World Resolver Op Op.Answer
abbrev TokenEntry := Entry Op Op.Answer
abbrev TokenLog := List TokenEntry

section Statements

variable (lib : Libraries) (cfg : ServiceConfig)

/-- Keycloak has granted the token to the client, as the thread has asked. -/
def Granted (client : KeycloakClient) (texts : KeycloakTexts) (token : String)
    (expiresIn : Option ℕ) (thread : ℕ) (log : TokenLog) : Prop :=
  ∃ reply, ⟨thread, .keycloak client, reply⟩ ∈ log ∧
    readKeycloakReply lib texts reply = .ok (token, expiresIn)

/-- The platform has named the team to the thread as that of the user. -/
def AnsweredTeam (userId teamId : String) (thread : ℕ) (log : TokenLog) : Prop :=
  ∃ cookie team, ⟨thread, .send (.getTeamByUser userId TEAM_EDITION) cookie,
    .answered team⟩ ∈ log ∧ teamIdFromTeam team = .ok teamId

/-- The platform has listed the teams with these names to the thread. -/
def AnsweredTeamNames (teamNames : HashMap String String) (thread : ℕ) (log : TokenLog) : Prop :=
  ∃ cookie teams, ⟨thread, .send (.getEventTeams TEAM_EDITION) cookie,
    .answered teams⟩ ∈ log ∧ teamNameMapFromEvents teams = teamNames

/-- The game token is what the platform has issued to this request. -/
def AnsweredBotToken (thread : ℕ) (teamId jwt : String) (log : TokenLog) : Prop :=
  ∃ cookie token, ⟨thread, .send (.issueGameToken teamId) cookie, .answered token⟩ ∈ log ∧
    jwtFromResponse token = .ok jwt

def AnsweredGrant (thread : ℕ) (teamId : String) (log : TokenLog) : Prop :=
  ∃ cookie response, ⟨thread, .send (.grantLogsAchievement teamId) cookie,
    .answered response⟩ ∈ log

/-- The thread has looked at the clock when `P` held of it, and counts the
expiry time from there. -/
def Due (P : ℕ → TokenLog → Prop) (ttl expiresAt thread : ℕ) (log : TokenLog) : Prop :=
  ∃ s, When ⟨thread, .now, s⟩ (P thread) log ∧ expiresAt = s + ttl

/-- A cache: the call that takes an entry out of it, and the one that stores
it. -/
structure Shelf (α : Type) where
  read : ℕ → Cached α → TokenEntry
  write : ℕ → Cached α → TokenEntry

/-- Some thread has stored the entry, whose expiry time was due from a reading
of that thread. -/
def Shelf.Stored {α : Type} (c : Shelf α) (P : ℕ → TokenLog → Prop) (ttl : ℕ) (entry : Cached α)
    (log : TokenLog) : Prop :=
  ∃ writer, When (c.write writer entry) (Due P ttl entry.expiresAt writer) log

/-- The thread has taken the entry out of the cache, and looked at the clock
afterwards and before the expiry time. -/
def Shelf.Taken {α : Type} (c : Shelf α) (entry : Cached α) (thread : ℕ) (log : TokenLog) : Prop :=
  ∃ t, When ⟨thread, .now, t⟩ (fun older => c.read thread entry ∈ older) log ∧ t < entry.expiresAt

/-- What the thread goes by: `P` has come to hold of itself, or of the thread
that has stored the value in the cache from which this one has taken it. -/
def Shelf.Backed {α : Type} (c : Shelf α) (P : ℕ → TokenLog → Prop) (ttl : ℕ) (value : α)
    (thread : ℕ) (log : TokenLog) : Prop :=
  P thread log ∨ ∃ entry, entry.value = value ∧ c.Stored P ttl entry log ∧ c.Taken entry thread log

def tokenShelf : Shelf String where
  read thread entry := ⟨thread, .readToken, some entry⟩
  write thread entry := ⟨thread, .writeToken entry, ()⟩

def teamShelf (userId : String) : Shelf String where
  read thread entry := ⟨thread, .readTeam userId, some entry⟩
  write thread entry := ⟨thread, .writeTeam userId entry, ()⟩

def teamNamesShelf : Shelf (HashMap String String) where
  read thread entry := ⟨thread, .readTeamNames, some entry⟩
  write thread entry := ⟨thread, .writeTeamNames entry, ()⟩

/-- The token is one of the server's, granted to the thread or taken from the
cache before the end of its time. -/
def Current (thread : ℕ) (token : String) (log : TokenLog) : Prop :=
  ∃ expiresIn, tokenShelf.Backed (Granted lib cfg.service serviceTokenTexts token expiresIn)
    (1000 * ttlEffective expiresIn) token thread log

/-- What the request is for is what the platform is asked. -/
def Request.Asks : Request → Rpc → Prop
  | .teamId userId, rpc => rpc = .getTeamByUser (Text.trim userId) TEAM_EDITION
  | .teamNames, rpc => rpc = .getEventTeams TEAM_EDITION
  | .botToken team, rpc => rpc = .issueGameToken (Text.trim team)
  | .logsAchievement team, rpc => rpc = .grantLogsAchievement (Text.trim team)
  | .wrapperToken, _ => False

/-- What stands behind a reply. -/
def Vouched (thread : ℕ) (log : TokenLog) : Request → Reply → Prop
  | .teamId userId, .teamId teamId =>
      (teamShelf (Text.trim userId)).Backed (AnsweredTeam (Text.trim userId) teamId)
        teamCacheTtlMs teamId thread log
  | .teamNames, .teamNames teamNames =>
      teamNamesShelf.Backed (AnsweredTeamNames teamNames) teamCacheTtlMs teamNames thread log
  | .botToken team, .botToken jwt => AnsweredBotToken thread (Text.trim team) jwt log
  | .logsAchievement team, .logsAchievement => AnsweredGrant thread (Text.trim team) log
  | .wrapperToken, .wrapperToken token => ∃ expiresIn,
      Granted lib cfg.wrapperAuth wrapperAuthTexts token expiresIn thread log
  | _, _ => False

/-- What is stored is due; what is sent carries a current token. -/
def Proper (r : Request) (thread : ℕ) (log : TokenLog) : Op → Prop
  | .writeToken entry => ∃ expiresIn, Due
      (Granted lib cfg.service serviceTokenTexts entry.value expiresIn)
      (1000 * ttlEffective expiresIn) entry.expiresAt thread log
  | .writeTeam userId entry =>
      Due (AnsweredTeam userId entry.value) teamCacheTtlMs entry.expiresAt thread log
  | .writeTeamNames entry =>
      Due (AnsweredTeamNames entry.value) teamCacheTtlMs entry.expiresAt thread log
  | .keycloak client => client = if r = .wrapperToken then cfg.wrapperAuth else cfg.service
  | .send rpc cookie => r.Asks rpc ∧ ∃ token, cookie = cookieOf token ∧
      Current lib cfg thread token log
  | _ => True

/-- The caches hold what has been stored. -/
structure Sound (w : TokenWorld) : Prop where
  token : ∀ entry, w.shared.authToken = some entry → ∃ expiresIn, tokenShelf.Stored
    (Granted lib cfg.service serviceTokenTexts entry.value expiresIn)
    (1000 * ttlEffective expiresIn) entry w.log
  teams : ∀ userId entry, w.shared.teamCache.lookup userId = some entry →
    (teamShelf userId).Stored (AnsweredTeam userId entry.value) teamCacheTtlMs entry w.log
  teamNames : ∀ entry, w.shared.teamNamesCache = some entry →
    teamNamesShelf.Stored (AnsweredTeamNames entry.value) teamCacheTtlMs entry w.log

end Statements

section Rules

variable {lib : Libraries} {cfg : ServiceConfig} {thread : ℕ} {token : String}
  {log log' : TokenLog} {w : TokenWorld}

theorem Granted.mono {client : KeycloakClient} {texts : KeycloakTexts} {expiresIn : Option ℕ}
    (h : Granted lib client texts token expiresIn thread log) (hlog : log <:+ log') :
    Granted lib client texts token expiresIn thread log' := by
  obtain ⟨reply, he, hreply⟩ := h
  exact ⟨reply, hlog.subset he, hreply⟩

theorem AnsweredTeam.mono {userId teamId : String} (h : AnsweredTeam userId teamId thread log)
    (hlog : log <:+ log') : AnsweredTeam userId teamId thread log' := by
  obtain ⟨cookie, team, he, hteam⟩ := h
  exact ⟨cookie, team, hlog.subset he, hteam⟩

theorem AnsweredTeamNames.mono {teamNames : HashMap String String}
    (h : AnsweredTeamNames teamNames thread log) (hlog : log <:+ log') :
    AnsweredTeamNames teamNames thread log' := by
  obtain ⟨cookie, teams, he, hteams⟩ := h
  exact ⟨cookie, teams, hlog.subset he, hteams⟩

section Shelves

variable {α : Type} {c : Shelf α} {P : ℕ → TokenLog → Prop} {ttl expiresAt : ℕ} {value : α}
  {entry : Cached α}

theorem Due.mono (h : Due P ttl expiresAt thread log) (hlog : log <:+ log') :
    Due P ttl expiresAt thread log' := by
  obtain ⟨s, hread, hexpires⟩ := h
  exact ⟨s, hread.mono hlog, hexpires⟩

theorem Shelf.Stored.mono (h : c.Stored P ttl entry log) (hlog : log <:+ log') :
    c.Stored P ttl entry log' := by
  obtain ⟨writer, hwrite⟩ := h
  exact ⟨writer, hwrite.mono hlog⟩

theorem Shelf.Taken.mono (h : c.Taken entry thread log) (hlog : log <:+ log') :
    c.Taken entry thread log' := by
  obtain ⟨t, hread, hlt⟩ := h
  exact ⟨t, hread.mono hlog, hlt⟩

theorem Shelf.Backed.mono (hP : ∀ log log', log <:+ log' → P thread log → P thread log')
    (h : c.Backed P ttl value thread log) (hlog : log <:+ log') :
    c.Backed P ttl value thread log' := by
  rcases h with hown | ⟨entry, hvalue, hstored, htaken⟩
  · exact Or.inl (hP _ _ hlog hown)
  · exact Or.inr ⟨entry, hvalue, hstored.mono hlog, htaken.mono hlog⟩

end Shelves

theorem Current.mono (h : Current lib cfg thread token log) (hlog : log <:+ log') :
    Current lib cfg thread token log' := by
  obtain ⟨expiresIn, hbacked⟩ := h
  exact ⟨expiresIn, hbacked.mono (fun _ _ hlog h => h.mono hlog) hlog⟩

theorem AnsweredBotToken.mono {teamId jwt : String} (h : AnsweredBotToken thread teamId jwt log)
    (hlog : log <:+ log') : AnsweredBotToken thread teamId jwt log' := by
  obtain ⟨cookie, token, he, hjwt⟩ := h
  exact ⟨cookie, token, hlog.subset he, hjwt⟩

theorem AnsweredGrant.mono {teamId : String} (h : AnsweredGrant thread teamId log)
    (hlog : log <:+ log') : AnsweredGrant thread teamId log' := by
  obtain ⟨cookie, response, he⟩ := h
  exact ⟨cookie, response, hlog.subset he⟩

theorem sound_new : Sound lib cfg ⟨.new, []⟩ where
  token _ h := by cases h
  teams _ _ h := by cases h
  teamNames _ h := by cases h

/-- A proper call keeps the caches sound. -/
theorem Sound.perform {r : Request} {op : Op} (h : Sound lib cfg w)
    (hop : Proper lib cfg r thread w.log op) (input : Input) :
    Sound lib cfg (w.perform exec thread op input) := by
  have hsuffix : w.log <:+ (w.perform exec thread op input).log := List.suffix_cons _ _
  have htoken : ∀ entry, w.shared.authToken = some entry → _ := fun entry hentry =>
    (h.token entry hentry).imp fun _ hstored => hstored.mono hsuffix
  have hteams : ∀ userId entry, w.shared.teamCache.lookup userId = some entry → _ :=
    fun userId entry hentry => (h.teams userId entry hentry).mono hsuffix
  have hnames : ∀ entry, w.shared.teamNamesCache = some entry → _ := fun entry hentry =>
    (h.teamNames entry hentry).mono hsuffix
  cases op with
  | writeToken entry =>
      refine ⟨fun entry' hentry => ?_, hteams, hnames⟩
      obtain rfl := Option.some.inj hentry
      exact hop.imp fun _ hdue => ⟨thread, .here hdue⟩
  | writeTeam userId entry =>
      refine ⟨htoken, fun userId' entry' hentry => ?_, hnames⟩
      change (w.shared.teamCache.insert userId entry).lookup userId' = _ at hentry
      rw [HashMap.lookup_insert_eq] at hentry
      split at hentry
      · rename_i huser
        subst huser
        obtain rfl := Option.some.inj hentry
        exact ⟨thread, .here hop⟩
      · exact hteams userId' entry' hentry
  | writeTeamNames entry =>
      refine ⟨htoken, hteams, fun entry' hentry => ?_⟩
      obtain rfl := Option.some.inj hentry
      exact ⟨thread, .here hop⟩
  | _ => exact ⟨htoken, hteams, hnames⟩

end Rules

/-! ## Tokens and answers of a request -/

def discipline (lib : Libraries) (cfg : ServiceConfig) (requests : ℕ → Request) :
    Discipline Resolver Op Op.Answer Input exec where
  guard _ _ _ _ := True
  permits w thread op := Proper lib cfg (requests thread) thread w.log op
  inv := Sound lib cfg
  kept _ _ _ input hw _ hop := hw.perform hop input

section Programs

variable {lib : Libraries} {cfg : ServiceConfig} {requests : ℕ → Request} {thread : ℕ}
  {w : TokenWorld} {α β ε : Type}

/-- The program makes proper calls, and its value has `ok`. -/
abbrev Gives (lib : Libraries) (cfg : ServiceConfig) (requests : ℕ → Request) (thread : ℕ)
    (ok : α → TokenLog → Prop) (x : ExceptT ε TokenProg α) (w : TokenWorld) : Prop :=
  x.run.Obeys (discipline lib cfg requests) thread
    (Either (fun a w' => ok a w'.log) fun _ _ => True) w

theorem gives_pure {ok : α → TokenLog → Prop} {a : α}
    (h : ∀ log, w.log <:+ log → ok a log) :
    Gives lib cfg requests thread ok (pure a : ExceptT ε TokenProg α) w :=
  fun _ hothers _ => h _ hothers.suffix

theorem gives_call {ok : β → TokenLog → Prop} {op : Op}
    {f : op.Answer → ExceptT ε TokenProg β}
    (h : ∀ (w' : TokenWorld) input, w.log <:+ w'.log → Sound lib cfg w' →
      Proper lib cfg (requests thread) thread w'.log op ∧
        Gives lib cfg requests thread ok (f (exec w'.shared op input).2)
          (w'.perform exec thread op input)) :
    Gives lib cfg requests thread ok ((liftM op.call : ExceptT ε TokenProg op.Answer) >>= f) w :=
  fun w' input hothers hinv _ => h w' input hothers.suffix hinv

/-- What is found unexpired has been taken in time. -/
theorem unexpired_gives {I : Type} {entry : Option (Cached α)} {c : Shelf α}
    {P : α → I → ℕ → TokenLog → Prop} {ttl : I → ℕ}
    (hread : ∀ e, entry = some e → c.read thread e ∈ w.log)
    (hstored : ∀ e, entry = some e → ∃ i, c.Stored (P e.value i) (ttl i) e w.log) :
    Gives lib cfg requests thread (fun found log => ∀ a, found = some a →
      ∃ i, c.Backed (P a i) (ttl i) a thread log)
      (liftM (unexpired entry) : ExceptT ε TokenProg (Option α)) w := by
  apply Prog.Obeys.lift
  cases entry with
  | none =>
      intro _ _ _ a ha
      cases ha
  | some e =>
      obtain ⟨i, hi⟩ := hstored e rfl
      refine .call fun w1 input hothers _ _ => ⟨trivial, fun w2 hlater _ a ha => ?_⟩
      change (if _ then some e.value else none) = some a at ha
      split at ha
      · rename_i hlt
        obtain rfl := Option.some.inj ha
        have hlog : w.log <:+ w2.log :=
          hothers.suffix.trans ((List.suffix_cons _ _).trans hlater.suffix)
        refine ⟨i, Or.inr ⟨e, rfl, hi.mono hlog, Shelf.Taken.mono ⟨_, .here ?_, hlt⟩ hlater.suffix⟩⟩
        exact hothers.suffix.subset (hread e rfl)
      · cases ha

theorem fetchServiceToken_gives (hr : requests thread ≠ .wrapperToken) :
    Gives lib cfg requests thread (fun entry log => Current lib cfg thread entry.value log ∧
      Proper lib cfg (requests thread) thread log (.writeToken entry))
      (fetchServiceToken lib cfg) w := by
  refine gives_call fun w1 input _ hinv => ⟨(if_neg hr).symm, ?_⟩
  cases hreply : readKeycloakReply lib serviceTokenTexts (exec w1.shared
    (.keycloak cfg.service) input).2 with
  | error _ => exact fun _ _ _ => trivial
  | ok granted =>
      obtain ⟨token, expiresIn⟩ := granted
      refine gives_call fun w2 input hlog hinv => ⟨trivial, ?_⟩
      have hgranted : Granted lib cfg.service serviceTokenTexts token expiresIn thread w2.log :=
        ⟨_, hlog.subset List.mem_cons_self, hreply⟩
      refine gives_pure fun log hlater => ⟨⟨expiresIn, Or.inl ?_⟩, expiresIn, ?_⟩
      · exact hgranted.mono ((List.suffix_cons _ _).trans hlater)
      · exact Due.mono ⟨_, .here hgranted, rfl⟩ hlater

theorem refreshToken_gives (hr : requests thread ≠ .wrapperToken) (hinv : Sound lib cfg w) :
    Gives lib cfg requests thread (Current lib cfg thread) (refreshToken lib cfg) w := by
  refine .bindExcept (.orFail (fetchServiceToken_gives hr)) hinv fun cached w1 _ h => ?_
  refine gives_call fun w2 input hlog _ => ⟨?_, gives_pure fun log hlater => ?_⟩
  · exact h.2.imp fun _ hdue => hdue.mono hlog
  · exact h.1.mono (hlog.trans ((List.suffix_cons _ _).trans hlater))

theorem currentOrFetchToken_gives (hr : requests thread ≠ .wrapperToken) :
    Gives lib cfg requests thread (Current lib cfg thread) (currentOrFetchToken lib cfg) w := by
  refine gives_call fun w1 input _ hinv => ⟨trivial, ?_⟩
  have hproper : Proper lib cfg (requests thread) thread w1.log .readToken := trivial
  have hinv1 : Sound lib cfg (w1.perform exec thread .readToken input) := hinv.perform hproper input
  have hread : ∀ e, w1.shared.authToken = some e →
      tokenShelf.read thread e ∈ (w1.perform exec thread .readToken input).log := by
    intro e he
    change tokenShelf.read thread e ∈ ⟨thread, .readToken, w1.shared.authToken⟩ :: w1.log
    rw [he]
    exact List.mem_cons_self
  refine .bindExcept (unexpired_gives hread hinv1.token) hinv1 fun found w2 hinv2 hfound => ?_
  cases found with
  | none => exact refreshToken_gives hr hinv2
  | some token => exact gives_pure fun log hlog => Current.mono (hfound token rfl) hlog

/-- What a request gives with any current token, it gives with its first
token or with the second. -/
theorem withServiceToken_gives {ok : α → TokenLog → Prop}
    {request : String → ExceptT Status TokenProg α} (hr : requests thread ≠ .wrapperToken)
    (hrequest : ∀ token w', Sound lib cfg w' → Current lib cfg thread token w'.log →
      Gives lib cfg requests thread ok (request token) w')
    (hok : ∀ a log log', log <:+ log' → ok a log → ok a log') (hinv : Sound lib cfg w) :
    Gives lib cfg requests thread ok (withServiceToken lib cfg request) w := by
  refine .bindExcept (currentOrFetchToken_gives hr) hinv fun token w1 hinv1 htoken => ?_
  refine .bind (.mono (hrequest token w1 hinv1 htoken) fun r w2 hinv2 hresult => ?_) hinv1
  cases r with
  | ok a => exact fun w3 hothers _ => hok a _ _ hothers.suffix hresult
  | error status =>
      dsimp only
      split
      · exact .bindExcept (refreshToken_gives hr hinv2) hinv2 fun token w3 => hrequest token w3
      · exact fun _ _ _ => trivial

theorem callWithCookie_gives {rpc : Rpc} {token : String} (hrpc : (requests thread).Asks rpc)
    (htoken : Current lib cfg thread token w.log) :
    Gives lib cfg requests thread (fun response log =>
      ⟨thread, .send rpc (cookieOf token), .answered response⟩ ∈ log)
      (callWithCookie lib rpc (cookieOf token)) w := by
  intro w1 input hothers hinv _
  refine ⟨⟨hrpc, token, rfl, htoken.mono hothers.suffix⟩, fun w2 hlater _ => ?_⟩
  change Either _ _ (responseOf lib (input.outcome rpc)) _
  have hentry : (⟨thread, .send rpc (cookieOf token), input.outcome rpc⟩ : Entry Op Op.Answer) ∈
      w2.log := hlater.suffix.subset List.mem_cons_self
  cases houtcome : input.outcome rpc with
  | timedOut => trivial
  | failed status => trivial
  | answered response =>
      rw [houtcome] at hentry
      exact hentry

theorem gives_ite {ok : α → TokenLog → Prop} {c : Prop} [Decidable c] {x y : ExceptT ε TokenProg α}
    (hx : Gives lib cfg requests thread ok x w) (hy : Gives lib cfg requests thread ok y w) :
    Gives lib cfg requests thread ok (if c then x else y) w := by
  by_cases hc : c
  · rwa [if_pos hc]
  · rwa [if_neg hc]

/-- A part that makes no call. -/
theorem gives_ofExcept {ok : β → TokenLog → Prop} {x : Except ε α}
    {f : α → ExceptT ε TokenProg β}
    (h : ∀ a, x = .ok a → Gives lib cfg requests thread ok (f a) w) :
    Gives lib cfg requests thread ok (ExceptT.mk (pure x) >>= f) w := by
  cases x with
  | error e => exact fun _ _ _ => trivial
  | ok a => exact h a rfl

theorem attachAuthCookie_eq {token cookie : String} (h : attachAuthCookie lib token = .ok cookie) :
    cookie = cookieOf token := by
  unfold attachAuthCookie at h
  split at h
  · exact (Except.ok.inj h).symm
  · cases h

theorem attachTeamIdHeader_eq {teamId header : String}
    (h : attachTeamIdHeader lib teamId = .ok header) : header = Text.trim teamId := by
  unfold attachTeamIdHeader at h
  dsimp only at h
  split at h
  · cases h
  · split at h
    · exact (Except.ok.inj h).symm
    · cases h

/-- A call that the request asks for, with the cookie of its token. -/
theorem gives_withCookie {ok : β → TokenLog → Prop} {rpc : Rpc} {token cookie : String}
    {f : rpc.Response → ExceptT Status TokenProg β} (hrpc : (requests thread).Asks rpc)
    (hcookie : attachAuthCookie lib token = .ok cookie) (hinv : Sound lib cfg w)
    (htoken : Current lib cfg thread token w.log)
    (hf : ∀ response w', ⟨thread, .send rpc cookie, .answered response⟩ ∈ w'.log →
      Gives lib cfg requests thread ok (f response) w') :
    Gives lib cfg requests thread ok (callWithCookie lib rpc cookie >>= f) w := by
  obtain rfl := attachAuthCookie_eq hcookie
  exact .bindExcept (callWithCookie_gives hrpc htoken) hinv fun response w' _ => hf response w'

theorem fetchTeamIdWithToken_gives {userId token : String}
    (hrequest : requests thread = .teamId userId) (hinv : Sound lib cfg w)
    (htoken : Current lib cfg thread token w.log) :
    Gives lib cfg requests thread (fun teamId => AnsweredTeam (Text.trim userId) teamId thread)
      (fetchTeamIdWithToken lib (Text.trim userId) token) w := by
  have hasks : (requests thread).Asks (.getTeamByUser (Text.trim userId) TEAM_EDITION) := by
    rw [hrequest]
    rfl
  refine gives_ofExcept fun cookie hcookie => ?_
  refine gives_withCookie hasks hcookie hinv htoken fun team w' hentry => ?_
  refine .ofExcept fun teamId hteam w'' hothers => ?_
  exact ⟨_, team, hothers.suffix.subset hentry, hteam⟩

theorem fetchTeamNamesWithToken_gives {token : String} (hrequest : requests thread = .teamNames)
    (hinv : Sound lib cfg w) (htoken : Current lib cfg thread token w.log) :
    Gives lib cfg requests thread (fun teamNames => AnsweredTeamNames teamNames thread)
      (fetchTeamNamesWithToken lib token) w := by
  have hasks : (requests thread).Asks (.getEventTeams TEAM_EDITION) := by
    rw [hrequest]
    rfl
  refine gives_ofExcept fun cookie hcookie => ?_
  refine gives_withCookie hasks hcookie hinv htoken fun teams w' hentry => ?_
  exact gives_pure fun log hlog => ⟨_, teams, hlog.subset hentry, rfl⟩

/-- An answer is taken from the cache in time, or has been given to this
thread, which stores it. -/
theorem cachedOrFetched_gives {c : Shelf α} {P : α → ℕ → TokenLog → Prop}
    {entry : Option (Cached α)} {fetch : ExceptT Status TokenProg α}
    {keep : Cached α → TokenProg Unit}
    (hmono : ∀ a log log', log <:+ log' → P a thread log → P a thread log')
    (hread : ∀ e, entry = some e → c.read thread e ∈ w.log)
    (hstored : ∀ e, entry = some e → c.Stored (P e.value) teamCacheTtlMs e w.log)
    (hfetch : ∀ w', Sound lib cfg w' →
      Gives lib cfg requests thread (fun a => P a thread) fetch w')
    (hkeep : ∀ e w', Due (P e.value) teamCacheTtlMs e.expiresAt thread w'.log →
      (keep e).Obeys (discipline lib cfg requests) thread (fun _ _ => True) w')
    (hinv : Sound lib cfg w) :
    Gives lib cfg requests thread (fun a => c.Backed (P a) teamCacheTtlMs a thread)
      (cachedOrFetched entry fetch keep) w := by
  have hunexpired : Gives lib cfg requests thread (fun found log => ∀ a, found = some a →
      ∃ _ : Unit, c.Backed (P a) teamCacheTtlMs a thread log)
      (liftM (unexpired entry) : ExceptT Status TokenProg (Option α)) w :=
    unexpired_gives hread fun e he => ⟨(), hstored e he⟩
  refine .bindExcept hunexpired hinv fun found w1 hinv1 hfound => ?_
  cases found with
  | some value =>
      obtain ⟨-, hbacked⟩ := hfound value rfl
      exact gives_pure fun log hlog => hbacked.mono (hmono value) hlog
  | none =>
      refine .bindExcept (hfetch w1 hinv1) hinv1 fun resolved w2 _ hresolved => ?_
      refine gives_call fun w3 input hlog hinv3 => ⟨trivial, ?_⟩
      have hnow : Proper lib cfg (requests thread) thread w3.log .now := trivial
      have hP : P resolved thread w3.log := hmono _ _ _ hlog hresolved
      have hlater : P resolved thread (w3.perform exec thread .now input).log :=
        hmono _ _ _ (List.suffix_cons _ _) hP
      refine .bindExcept (.lift ((hkeep _ _ ⟨_, .here hP, rfl⟩).frame
        (fun _ _ hlog h => hmono _ _ _ hlog h) hlater)) (hinv3.perform hnow input)
        fun _ w4 _ hkept => ?_
      exact gives_pure fun log hlog => Or.inl (hmono _ _ _ hlog hkept.2)

theorem resolveTeamId_gives {userId : String} (hrequest : requests thread = .teamId userId) :
    Gives lib cfg requests thread (fun teamId => (teamShelf (Text.trim userId)).Backed
      (AnsweredTeam (Text.trim userId) teamId) teamCacheTtlMs teamId thread)
      (resolveTeamId lib cfg userId) w := by
  have hr : requests thread ≠ .wrapperToken := by simp [hrequest]
  unfold resolveTeamId
  dsimp only
  refine gives_ite (fun _ _ _ => trivial) ?_
  refine gives_call fun w1 input _ hinv => ⟨trivial, ?_⟩
  have hproper : Proper lib cfg (requests thread) thread w1.log
    (.readTeam (Text.trim userId)) := trivial
  have hinv1 := hinv.perform hproper input
  refine cachedOrFetched_gives (fun _ _ _ hlog h => AnsweredTeam.mono h hlog) (fun e he => ?_)
    (hinv1.teams _) (fun w2 hinv2 => ?_) (fun e w2 he => ?_) hinv1
  · change (teamShelf _).read thread e ∈ ⟨thread, .readTeam (Text.trim userId), _⟩ :: w1.log
    rw [he]
    exact List.mem_cons_self
  · exact withServiceToken_gives hr (fun token w' => fetchTeamIdWithToken_gives hrequest)
      (fun _ _ _ hlog h => AnsweredTeam.mono h hlog) hinv2
  · exact fun w3 input hothers _ _ => ⟨he.mono hothers.suffix, fun _ _ _ => trivial⟩

theorem resolveTeamNamesMap_gives (hrequest : requests thread = .teamNames) :
    Gives lib cfg requests thread (fun teamNames => teamNamesShelf.Backed
      (AnsweredTeamNames teamNames) teamCacheTtlMs teamNames thread)
      (resolveTeamNamesMap lib cfg) w := by
  have hr : requests thread ≠ .wrapperToken := by simp [hrequest]
  refine gives_call fun w1 input _ hinv => ⟨trivial, ?_⟩
  have hproper : Proper lib cfg (requests thread) thread w1.log .readTeamNames := trivial
  have hinv1 := hinv.perform hproper input
  refine cachedOrFetched_gives (fun _ _ _ hlog h => AnsweredTeamNames.mono h hlog)
    (fun e he => ?_) hinv1.teamNames (fun w2 hinv2 => ?_) (fun e w2 he => ?_) hinv1
  · change teamNamesShelf.read thread e ∈ ⟨thread, .readTeamNames, _⟩ :: w1.log
    rw [he]
    exact List.mem_cons_self
  · exact withServiceToken_gives hr (fun token w' => fetchTeamNamesWithToken_gives hrequest)
      (fun _ _ _ hlog h => AnsweredTeamNames.mono h hlog) hinv2
  · exact fun w3 input hothers _ _ => ⟨he.mono hothers.suffix, fun _ _ _ => trivial⟩

theorem issueTeamBotTokenWithCookie_gives {team token : String}
    (hrequest : requests thread = .botToken team) (hinv : Sound lib cfg w)
    (htoken : Current lib cfg thread token w.log) :
    Gives lib cfg requests thread (AnsweredBotToken thread (Text.trim team))
      (issueTeamBotTokenWithCookie lib team token) w := by
  have hasks : (requests thread).Asks (.issueGameToken (Text.trim team)) := by
    rw [hrequest]
    rfl
  unfold issueTeamBotTokenWithCookie
  dsimp only
  refine gives_ite (fun _ _ _ => trivial) ?_
  refine gives_ofExcept fun cookie hcookie => ?_
  refine gives_ofExcept fun header hheader => ?_
  obtain rfl := (attachTeamIdHeader_eq hheader).trans (Text.trim_trim team)
  refine gives_withCookie hasks hcookie hinv htoken fun response w' hentry => ?_
  refine .ofExcept fun jwt hjwt w'' hothers => ?_
  exact ⟨cookie, response, hothers.suffix.subset hentry, hjwt⟩

theorem grantLogsAchievementWithCookie_gives {team token : String}
    (hrequest : requests thread = .logsAchievement team) (hinv : Sound lib cfg w)
    (htoken : Current lib cfg thread token w.log) :
    Gives lib cfg requests thread (fun _ => AnsweredGrant thread (Text.trim team))
      (grantLogsAchievementWithCookie lib team token) w := by
  have hasks : (requests thread).Asks (.grantLogsAchievement (Text.trim team)) := by
    rw [hrequest]
    rfl
  unfold grantLogsAchievementWithCookie
  dsimp only
  refine gives_ite (fun _ _ _ => trivial) ?_
  refine gives_ofExcept fun cookie hcookie => ?_
  refine gives_withCookie hasks hcookie hinv htoken fun response w' hentry => ?_
  exact gives_pure fun log hlog => ⟨cookie, response, hlog.subset hentry⟩

/-- However often it is retried, the token is the same. -/
theorem grantLogsAchievementAttempts_gives {team token : String}
    (hrequest : requests thread = .logsAchievement team) (retries : ℕ) (hinv : Sound lib cfg w)
    (htoken : Current lib cfg thread token w.log) :
    (grantLogsAchievementAttempts lib team token retries).Obeys (discipline lib cfg requests) thread
      (Either (fun _ w' => AnsweredGrant thread (Text.trim team) w'.log) fun _ _ => True) w := by
  induction retries generalizing w with
  | zero => exact grantLogsAchievementWithCookie_gives hrequest hinv htoken
  | succ retries ih =>
      refine .bind (.mono ((grantLogsAchievementWithCookie_gives hrequest hinv htoken).frame
        (fun _ _ hlog h => Current.mono h hlog) htoken) fun r w1 hinv1 hr => ?_) hinv
      obtain ⟨hresult, htoken1⟩ := hr
      cases r with
      | ok _ =>
          intro w2 hothers _
          exact hresult.mono hothers.suffix
      | error status =>
          dsimp only
          split
          · intro w2 input hothers hinv2 _
            have hsleep : Proper lib cfg (requests thread) thread w2.log (.sleep
                (achievementRetryBackoff (achievementTransientRetries - retries))) := trivial
            exact ⟨hsleep, ih (hinv2.perform hsleep input)
              (htoken1.mono (hothers.suffix.trans (List.suffix_cons _ _)))⟩
          · exact fun _ _ _ => trivial

theorem issueTeamBotToken_gives {team : String} (hrequest : requests thread = .botToken team)
    (hinv : Sound lib cfg w) :
    Gives lib cfg requests thread (AnsweredBotToken thread (Text.trim team))
      (issueTeamBotToken lib cfg team) w :=
  withServiceToken_gives (by simp [hrequest])
    (fun _ _ => issueTeamBotTokenWithCookie_gives hrequest) (fun _ _ _ hlog h => h.mono hlog) hinv

theorem grantLogsAchievement_gives {team : String}
    (hrequest : requests thread = .logsAchievement team) (hinv : Sound lib cfg w) :
    Gives lib cfg requests thread (fun _ => AnsweredGrant thread (Text.trim team))
      (grantLogsAchievement lib cfg team) w :=
  withServiceToken_gives (by simp [hrequest])
    (fun _ _ => grantLogsAchievementAttempts_gives hrequest _) (fun _ _ _ hlog h => h.mono hlog)
    hinv

theorem issueWrapperAuthToken_gives (hrequest : requests thread = .wrapperToken) :
    Gives lib cfg requests thread (fun token log => ∃ expiresIn,
      Granted lib cfg.wrapperAuth wrapperAuthTexts token expiresIn thread log)
      (issueWrapperAuthToken lib cfg) w := by
  refine gives_call fun w1 input _ _ => ⟨(if_pos hrequest).symm, ?_⟩
  split
  · rename_i token expiresIn hreply
    exact gives_pure fun log hlog =>
      ⟨expiresIn, _, hlog.subset List.mem_cons_self, hreply⟩
  · exact fun _ _ _ => trivial

/-- A value under another name. -/
theorem gives_map {ok : α → TokenLog → Prop} {ok' : β → TokenLog → Prop}
    {x : ExceptT Status TokenProg α} {f : α → β} (hinv : Sound lib cfg w)
    (h : Gives lib cfg requests thread ok x w)
    (hok : ∀ a log log', log <:+ log' → ok a log → ok' (f a) log') :
    Gives lib cfg requests thread ok' (f <$> x) w :=
  .bindExcept h hinv fun a _ _ ha => gives_pure fun log hlog => hok a _ log hlog ha

theorem request_gives (hinv : Sound lib cfg w) :
    ((requests thread).prog lib cfg).Obeys (discipline lib cfg requests) thread
      (Either (fun reply w' => Vouched lib cfg thread w'.log (requests thread) reply)
        fun _ _ => True) w := by
  cases hrequest : requests thread with
  | teamId userId =>
      change Gives lib cfg requests thread (fun reply log => Vouched lib cfg thread log
        (.teamId userId) reply) (Reply.teamId <$> resolveTeamId lib cfg userId) w
      exact gives_map hinv (resolveTeamId_gives hrequest) fun _ _ _ hlog h =>
        h.mono (fun _ _ hlog h => h.mono hlog) hlog
  | teamNames =>
      change Gives lib cfg requests thread (fun reply log => Vouched lib cfg thread log
        .teamNames reply) (Reply.teamNames <$> resolveTeamNamesMap lib cfg) w
      exact gives_map hinv (resolveTeamNamesMap_gives hrequest) fun _ _ _ hlog h =>
        h.mono (fun _ _ hlog h => h.mono hlog) hlog
  | botToken team =>
      change Gives lib cfg requests thread (fun reply log => Vouched lib cfg thread log
        (.botToken team) reply) (Reply.botToken <$> issueTeamBotToken lib cfg team) w
      exact gives_map hinv (issueTeamBotToken_gives hrequest hinv) fun _ _ _ hlog h => h.mono hlog
  | logsAchievement team =>
      change Gives lib cfg requests thread (fun reply log => Vouched lib cfg thread log
        (.logsAchievement team) reply)
        ((fun _ => Reply.logsAchievement) <$> grantLogsAchievement lib cfg team) w
      exact gives_map hinv (grantLogsAchievement_gives hrequest hinv)
        fun _ _ _ hlog h => h.mono hlog
  | wrapperToken =>
      change Gives lib cfg requests thread (fun reply log => Vouched lib cfg thread log
        .wrapperToken reply) (Reply.wrapperToken <$> issueWrapperAuthToken lib cfg) w
      refine gives_map hinv (issueWrapperAuthToken_gives hrequest) ?_
      rintro token log log' hlog ⟨expiresIn, hgranted⟩
      exact ⟨expiresIn, hgranted.mono hlog⟩

end Programs

/-! ## How often a request is tried -/

/-- What a request has tried: how often it has asked Keycloak, how often it
has been refused, the token granted since, the retries of that token's request
and whether the request is settled. -/
structure Attempts where
  fetches : ℕ
  refusals : ℕ
  granted : Option String
  retries : ℕ
  settled : Bool

/-- The code of a failed call. -/
def Outcome.code? {α : Type} : Outcome α → Option Code
  | .timedOut => some .deadlineExceeded
  | .failed status => some status.code
  | .answered _ => none

def Attempts.after (a : Attempts) : Option Code → Attempts
  | none => { a with settled := true }
  | some code =>
      if isAuthError code then
        { a with refusals := a.refusals + 1, granted := none, retries := 0 }
      else if isTransientAchievementError code then { a with retries := a.retries + 1 }
      else { a with settled := true }

def Attempts.next (lib : Libraries) (a : Attempts) : (op : Op) → op.Answer → Attempts
  | .keycloak _, reply => { a with
      fetches := a.fetches + 1
      granted := (readKeycloakReply lib serviceTokenTexts reply).toOption.map Prod.fst }
  | .send _ _, outcome => a.after outcome.code?
  | _, _ => a

/-- Keycloak is asked twice at most. One token is refused at most, and then
only the token that has been granted since is sent; with each there are no
more retries than `limit`. -/
def attempts (lib : Libraries) (limit : ℕ) : Protocol Op Op.Answer Attempts where
  init := ⟨0, 0, none, 0, false⟩
  next a op answer := a.next lib op answer
  permits a op := match op with
    | .keycloak _ => a.fetches < 2 ∧ a.retries = 0 ∧ a.settled = false
    | .send _ cookie => a.settled = false ∧ a.refusals < 2 ∧ a.retries ≤ limit ∧
        (a.refusals = 0 ∨ ∃ token, a.granted = some token ∧ cookie = cookieOf token)
    | _ => True

/-- Only the grant of an achievement is retried. -/
def Request.limit : Request → ℕ
  | .logsAchievement _ => achievementTransientRetries
  | _ => 0

section Attempting

variable {lib : Libraries} {cfg : ServiceConfig} {limit : ℕ} {a : Attempts} {α β ε : Type}

/-- The token may be sent. -/
structure Attempts.Sendable (a : Attempts) (token : String) : Prop where
  unsettled : a.settled = false
  refusals : a.refusals < 2
  granted : a.refusals = 0 ∨ a.granted = some token

/-- A request with a token fails when it has been sent or before; it is
refused before only if the token cannot be sent. -/
def Attempts.Failed (lib : Libraries) (token : String) (a : Attempts) (status : Status)
    (a' : Attempts) : Prop :=
  (lib.metadataValue (cookieOf token) = true ∧ a' = a.after (some status.code)) ∨
    (a' = a ∧ isTransientAchievementError status.code = false ∧
      (isAuthError status.code = true → lib.metadataValue (cookieOf token) = false))

/-- What a request leaves open when it is refused. -/
def Attempts.Refused (a : Attempts) (status : Status) (a' : Attempts) : Prop :=
  isAuthError status.code = true → a'.fetches = a.fetches ∧ a'.refusals ≤ a.refusals + 1 ∧
    a'.retries = 0 ∧ a'.settled = false

/-- The protocol's programs that make no difference to it. -/
theorem unexpired_follows {entry : Option (Cached α)} :
    (unexpired entry).Follows (attempts lib limit) (fun _ a' => a' = a) a := by
  cases entry with
  | none => rfl
  | some e => exact ⟨trivial, fun _ => rfl⟩

theorem follows_ofExcept {ok : β → Attempts → Prop} {err : ε → Attempts → Prop} {x : Except ε α}
    {f : α → ExceptT ε TokenProg β} (herr : ∀ e, x = .error e → err e a)
    (h : ∀ b, x = .ok b → (f b).run.Follows (attempts lib limit) (Either ok err) a) :
    (ExceptT.mk (pure x) >>= f).run.Follows (attempts lib limit) (Either ok err) a := by
  cases x with
  | error e => exact herr e rfl
  | ok b => exact h b rfl

theorem follows_call {ok : β → Attempts → Prop} {err : ε → Attempts → Prop} {op : Op}
    {f : op.Answer → ExceptT ε TokenProg β} (hop : (attempts lib limit).permits a op)
    (h : ∀ answer, (f answer).run.Follows (attempts lib limit) (Either ok err)
      (a.next lib op answer)) :
    ((liftM op.call : ExceptT ε TokenProg op.Answer) >>= f).run.Follows (attempts lib limit)
      (Either ok err) a := ⟨hop, h⟩

theorem fetchServiceToken_follows (hfetches : a.fetches < 2) (hretries : a.retries = 0)
    (hopen : a.settled = false) :
    (fetchServiceToken lib cfg).run.Follows (attempts lib limit)
      (Either (fun entry a' => a' = { a with
        fetches := a.fetches + 1, granted := some entry.value }) fun _ _ => True) a := by
  refine follows_call ⟨hfetches, hretries, hopen⟩ fun reply => ?_
  refine follows_ofExcept (fun _ _ => trivial) fun granted hgranted => ?_
  refine follows_call trivial fun now => ?_
  change Attempts.mk _ _ ((readKeycloakReply lib serviceTokenTexts reply).toOption.map _) _ _ = _
  rw [hgranted]
  rfl

theorem refreshToken_follows (hfetches : a.fetches < 2) (hretries : a.retries = 0)
    (hopen : a.settled = false) :
    (refreshToken lib cfg).run.Follows (attempts lib limit)
      (Either (fun token a' => a' = { a with
        fetches := a.fetches + 1, granted := some token }) fun _ _ => True) a := by
  refine .bindExcept (.orFail (fetchServiceToken_follows hfetches hretries hopen))
    fun entry a' ha => ?_
  exact follows_call trivial fun _ => ha

/-- The first token comes from the cache or is fetched. -/
theorem currentOrFetchToken_follows :
    (currentOrFetchToken lib cfg).run.Follows (attempts lib limit)
      (Either (fun token a' => a'.Sendable token ∧ a'.fetches < 2 ∧ a'.refusals = 0 ∧
        a'.retries = 0)
        fun _ _ => True) (attempts lib limit).init := by
  refine follows_call trivial fun cached => ?_
  refine .bindExcept (.lift unexpired_follows) fun found a' ha => ?_
  subst ha
  cases found with
  | some token => exact ⟨⟨rfl, Nat.two_pos, Or.inl rfl⟩, Nat.two_pos, rfl, rfl⟩
  | none =>
      refine Prog.Follows.mono (refreshToken_follows Nat.two_pos rfl rfl) fun r a' hr => ?_
      cases r with
      | error _ => trivial
      | ok token =>
          obtain rfl := hr
          exact ⟨⟨rfl, Nat.two_pos, Or.inl rfl⟩, Nat.one_lt_two, rfl, rfl⟩

/-- After a refusal another token may be asked for. -/
theorem Attempts.Failed.refused {token : String} {status : Status} {a' : Attempts}
    (h : a.Failed lib token status a') (ha : a.settled = false)
    (hretries : a.retries = 0 ∨ lib.metadataValue (cookieOf token) = true) :
    a.Refused status a' := by
  intro hauth
  rcases h with ⟨-, rfl⟩ | ⟨rfl, -, hlocal⟩
  · rw [Attempts.after, if_pos hauth]
    exact ⟨rfl, le_rfl, rfl, ha⟩
  · rcases hretries with hretries | hsent
    · exact ⟨rfl, Nat.le_succ _, hretries, ha⟩
    · rw [hlocal hauth] at hsent
      cases hsent

theorem Attempts.after_of_plain {code : Code} (hauth : isAuthError code = false)
    (htransient : isTransientAchievementError code = false) :
    a.after (some code) = a.after none := by
  unfold Attempts.after
  dsimp only
  rw [hauth, htransient]
  rfl

theorem callWithCookie_follows {rpc : Rpc} {token : String}
    (hsend : lib.metadataValue (cookieOf token) = true) (ha : a.Sendable token)
    (hretries : a.retries ≤ limit) :
    (callWithCookie lib rpc (cookieOf token)).run.Follows (attempts lib limit)
      (Either (fun _ a' => a' = a.after none) (a.Failed lib token)) a := by
  refine ⟨⟨ha.unsettled, ha.refusals, hretries,
    ha.granted.imp_right fun hgranted => ⟨token, hgranted, rfl⟩⟩, fun outcome => ?_⟩
  cases outcome with
  | timedOut => exact Or.inl ⟨hsend, rfl⟩
  | failed status => exact Or.inl ⟨hsend, rfl⟩
  | answered response => rfl

/-- The header of the cookie, unless the token cannot be sent. -/
theorem follows_attach {token : String} {f : String → ExceptT Status TokenProg β}
    (h : lib.metadataValue (cookieOf token) = true → (f (cookieOf token)).run.Follows
      (attempts lib limit) (Either (fun _ _ => True) (a.Failed lib token)) a) :
    (ExceptT.mk (pure (attachAuthCookie lib token)) >>= f).run.Follows (attempts lib limit)
      (Either (fun _ _ => True) (a.Failed lib token)) a := by
  unfold attachAuthCookie
  split
  · rename_i hsend
    exact h hsend
  · rename_i hsend
    exact Or.inr ⟨rfl, rfl, fun _ => Bool.eq_false_iff.mpr hsend⟩

theorem attachTeamIdHeader_error {teamId : String} {status : Status}
    (h : attachTeamIdHeader lib teamId = .error status) :
    status.code = .failedPrecondition := by
  unfold attachTeamIdHeader at h
  dsimp only at h
  split at h
  · exact Except.error.inj h ▸ rfl
  · split at h
    · cases h
    · exact Except.error.inj h ▸ rfl

theorem teamIdFromTeam_error {team : Option Team} {status : Status}
    (h : teamIdFromTeam team = .error status) :
    isAuthError status.code = false ∧ isTransientAchievementError status.code = false := by
  unfold teamIdFromTeam at h
  cases team with
  | none => exact Except.error.inj h ▸ ⟨rfl, rfl⟩
  | some team =>
      dsimp only at h
      split at h
      · exact Except.error.inj h ▸ ⟨rfl, rfl⟩
      · cases h

theorem jwtFromResponse_error {token : Option String} {status : Status}
    (h : jwtFromResponse token = .error status) :
    isAuthError status.code = false ∧ isTransientAchievementError status.code = false := by
  unfold jwtFromResponse at h
  dsimp only at h
  split at h
  · exact Except.error.inj h ▸ ⟨rfl, rfl⟩
  · cases h

/-- A response is read without a further call. -/
theorem readResponse_follows {rpc : Rpc} {token : String}
    {f : rpc.Response → ExceptT Status TokenProg β} (read : rpc.Response → Except Status β)
    (hf : ∀ response, f response = ExceptT.mk (pure (read response)))
    (hread : ∀ response status, read response = .error status → isAuthError status.code = false ∧
      isTransientAchievementError status.code = false)
    (hsend : lib.metadataValue (cookieOf token) = true) (ha : a.Sendable token)
    (hretries : a.retries ≤ limit) :
    (callWithCookie lib rpc (cookieOf token) >>= f).run.Follows (attempts lib limit)
      (Either (fun _ _ => True) (a.Failed lib token)) a := by
  refine .bindExcept (callWithCookie_follows hsend ha hretries) fun response a' ha' => ?_
  rw [hf]
  refine .ofExcept (fun status hstatus => ?_) fun _ _ => trivial
  obtain ⟨hauth, htransient⟩ := hread response status hstatus
  subst ha'
  exact Or.inl ⟨hsend, (Attempts.after_of_plain hauth htransient).symm⟩

theorem fetchTeamIdWithToken_follows {userId token : String} (ha : a.Sendable token)
    (hretries : a.retries ≤ limit) :
    (fetchTeamIdWithToken lib userId token).run.Follows (attempts lib limit)
      (Either (fun _ _ => True) (a.Failed lib token)) a :=
  follows_attach fun hsend =>
    readResponse_follows teamIdFromTeam (fun _ => rfl) (fun _ _ => teamIdFromTeam_error) hsend ha
      hretries

theorem fetchTeamNamesWithToken_follows {token : String} (ha : a.Sendable token)
    (hretries : a.retries ≤ limit) :
    (fetchTeamNamesWithToken lib token).run.Follows (attempts lib limit)
      (Either (fun _ _ => True) (a.Failed lib token)) a :=
  follows_attach fun hsend =>
    readResponse_follows (fun teams => .ok (teamNameMapFromEvents teams)) (fun _ => rfl)
      (fun _ _ h => by cases h) hsend ha hretries

theorem issueTeamBotTokenWithCookie_follows {team token : String} (ha : a.Sendable token)
    (hretries : a.retries ≤ limit) :
    (issueTeamBotTokenWithCookie lib team token).run.Follows (attempts lib limit)
      (Either (fun _ _ => True) (a.Failed lib token)) a := by
  unfold issueTeamBotTokenWithCookie
  dsimp only
  split
  · exact Or.inr ⟨rfl, rfl, fun h => by cases h⟩
  refine follows_attach fun hsend => ?_
  refine follows_ofExcept (fun status hstatus => ?_) fun header _ => ?_
  · have hcode := attachTeamIdHeader_error hstatus
    exact Or.inr ⟨rfl, hcode ▸ rfl, fun h => by rw [hcode] at h; cases h⟩
  · exact readResponse_follows jwtFromResponse (fun _ => rfl) (fun _ _ => jwtFromResponse_error)
      hsend ha hretries

theorem grantLogsAchievementWithCookie_follows {team token : String} (ha : a.Sendable token)
    (hretries : a.retries ≤ limit) :
    (grantLogsAchievementWithCookie lib team token).run.Follows (attempts lib limit)
      (Either (fun _ _ => True) (a.Failed lib token)) a := by
  unfold grantLogsAchievementWithCookie
  dsimp only
  split
  · exact Or.inr ⟨rfl, rfl, fun h => by cases h⟩
  · exact follows_attach fun hsend =>
      readResponse_follows (fun _ => .ok ()) (fun _ => rfl) (fun _ _ h => by cases h) hsend ha
        hretries

theorem isAuthError_of_transient {code : Code} (h : isTransientAchievementError code = true) :
    isAuthError code = false := by
  cases code <;> first | rfl | cases h

/-- A transient failure is retried, a refusal is not. -/
theorem grantLogsAchievementAttempts_follows {team token : String} {retries : ℕ}
    (ha : a.Sendable token) (hlimit : a.retries + retries ≤ limit)
    (hsent : a.retries = 0 ∨ lib.metadataValue (cookieOf token) = true) :
    (grantLogsAchievementAttempts lib team token retries).Follows (attempts lib limit)
      (Either (fun _ _ => True) a.Refused) a := by
  induction retries generalizing a with
  | zero =>
      refine Prog.Follows.mono (grantLogsAchievementWithCookie_follows ha hlimit) fun r a' hr => ?_
      cases r with
      | ok _ => trivial
      | error status => exact hr.refused ha.unsettled hsent
  | succ retries ih =>
      refine Prog.Follows.andThen (grantLogsAchievementWithCookie_follows ha (by omega))
        fun r a' hr => ?_
      cases r with
      | ok _ => trivial
      | error status =>
          dsimp only
          split
          · rename_i htransient
            have hplain := isAuthError_of_transient htransient
            rcases hr with ⟨hsend, rfl⟩ | ⟨-, hnot, -⟩
            · have hafter : a.after (some status.code) = { a with retries := a.retries + 1 } := by
                unfold Attempts.after
                dsimp only
                rw [hplain, htransient]
                rfl
              rw [hafter]
              refine ⟨trivial, fun _ => ?_⟩
              have hagain := ih (a := { a with retries := a.retries + 1 })
                ⟨ha.unsettled, ha.refusals, ha.granted⟩ (by dsimp only; omega) (Or.inr hsend)
              exact hagain
            · rw [htransient] at hnot
              cases hnot
          · exact hr.refused ha.unsettled hsent

/-- A request that keeps to the limit with a token keeps to it with two. -/
theorem withServiceToken_follows {request : String → ExceptT Status TokenProg α}
    (hrequest : ∀ token (a : Attempts), a.Sendable token → a.retries = 0 →
      (request token).run.Follows (attempts lib limit) (Either (fun _ _ => True) a.Refused) a) :
    (withServiceToken lib cfg request).run.Follows (attempts lib limit)
      (Either (fun _ _ => True) fun _ _ => True) (attempts lib limit).init := by
  refine .bindExcept currentOrFetchToken_follows
    fun token a ⟨ha, hfetches, hrefusals, hretries⟩ => ?_
  refine Prog.Follows.andThen (hrequest token a ha hretries) fun r a' hr => ?_
  cases r with
  | ok _ => trivial
  | error status =>
      dsimp only
      split
      · rename_i hauth
        obtain ⟨hfetches', hrefusals', hretries', hopen⟩ := hr hauth
        rw [← hfetches'] at hfetches
        refine .bindExcept (refreshToken_follows hfetches hretries' hopen) fun token a'' ha'' => ?_
        subst ha''
        have hsendable : Attempts.Sendable { a' with
            fetches := a'.fetches + 1, granted := some token } token :=
          ⟨hopen, by dsimp only; omega, Or.inr rfl⟩
        refine Prog.Follows.mono (hrequest token _ hsendable hretries') fun r _ _ => ?_
        cases r <;> trivial
      · trivial

theorem cachedOrFetched_follows {entry : Option (Cached α)} {fetch : ExceptT Status TokenProg α}
    {keep : Cached α → TokenProg Unit} (hkeep : ∀ e a,
      (keep e).Follows (attempts lib limit) (fun _ _ => True) a)
    (hfetch : fetch.run.Follows (attempts lib limit)
      (Either (fun _ _ => True) fun _ _ => True) a) :
    (cachedOrFetched entry fetch keep).run.Follows (attempts lib limit)
      (Either (fun _ _ => True) fun _ _ => True) a := by
  refine .bindExcept (.lift unexpired_follows) fun found a' ha => ?_
  subst ha
  cases found with
  | some value => trivial
  | none =>
      refine .bindExcept hfetch fun resolved a' _ => follows_call trivial fun now => ?_
      exact .bindExcept (.lift (hkeep _ _)) fun _ _ _ => trivial

theorem follows_map {x : ExceptT Status TokenProg α} {f : α → β}
    (h : x.run.Follows (attempts lib limit) (Either (fun _ _ => True) fun _ _ => True) a) :
    (f <$> x).run.Follows (attempts lib limit) (fun _ _ => True) a := by
  refine Prog.Follows.andThen h fun r _ _ => ?_
  cases r <;> trivial

/-- A request that is made once with each token. -/
theorem withServiceToken_follows_once {request : String → ExceptT Status TokenProg α}
    (hrequest : ∀ token (a : Attempts), a.Sendable token → a.retries ≤ limit →
      (request token).run.Follows (attempts lib limit)
        (Either (fun _ _ => True) (a.Failed lib token)) a) :
    (withServiceToken lib cfg request).run.Follows (attempts lib limit)
      (Either (fun _ _ => True) fun _ _ => True) (attempts lib limit).init := by
  refine withServiceToken_follows fun token a ha hretries => ?_
  refine Prog.Follows.mono (hrequest token a ha (by omega)) fun r a' hr => ?_
  cases r with
  | ok _ => trivial
  | error status => exact hr.refused ha.unsettled (Or.inl hretries)

theorem request_follows (r : Request) : (r.prog lib cfg).Follows (attempts lib r.limit)
    (fun _ _ => True) (attempts lib r.limit).init := by
  cases r with
  | teamId userId =>
      apply follows_map
      unfold resolveTeamId
      dsimp only
      split
      · trivial
      · refine follows_call trivial fun entry => ?_
        exact cachedOrFetched_follows (fun _ _ => ⟨trivial, fun _ => trivial⟩)
          (withServiceToken_follows_once fun _ _ => fetchTeamIdWithToken_follows)
  | teamNames =>
      apply follows_map
      refine follows_call trivial fun entry => ?_
      exact cachedOrFetched_follows (fun _ _ => ⟨trivial, fun _ => trivial⟩)
        (withServiceToken_follows_once fun _ _ => fetchTeamNamesWithToken_follows)
  | botToken team =>
      exact follows_map
        (withServiceToken_follows_once fun _ _ => issueTeamBotTokenWithCookie_follows)
  | logsAchievement team =>
      refine follows_map (withServiceToken_follows fun token a ha hretries => ?_)
      exact grantLogsAchievementAttempts_follows ha (by rw [hretries, Nat.zero_add]; exact le_rfl)
        (Or.inl hretries)
  | wrapperToken =>
      apply follows_map
      refine follows_call ⟨Nat.two_pos, rfl, rfl⟩ fun reply => ?_
      split <;> trivial

end Attempting

/-! ## Runs -/

def Op.isKeycloak : Op → Bool
  | .keycloak _ => true
  | _ => false

def Op.isSend : Op → Bool
  | .send .. => true
  | _ => false

/-- How many calls of a kind a thread has made. -/
def made (kind : Op → Bool) (thread : ℕ) (log : TokenLog) : ℕ :=
  log.countP fun e => decide (e.thread = thread) && kind e.op

/-- What the attempts of a request say of its calls. -/
structure Attempts.Counts (a : Attempts) (limit fetched sent : ℕ) : Prop where
  fetched : fetched = a.fetches
  fetches : a.fetches ≤ 2
  sent : sent ≤ a.refusals * (limit + 1) + a.retries + if a.settled then 1 else 0
  refusals : a.refusals ≤ 2
  retries : a.retries ≤ limit + 1
  refused : a.refusals = 2 → a.retries = 0
  settled : a.settled = true → a.retries ≤ limit ∧ a.refusals < 2

section Counting

variable {lib : Libraries} {limit fetched sent : ℕ} {a : Attempts}

theorem Attempts.Counts.sent_le (h : a.Counts limit fetched sent) : sent ≤ 2 * (limit + 1) := by
  obtain ⟨-, -, hsent, hrefusals, hretries, hrefused, hsettled⟩ := h
  have hcases : a.refusals = 0 ∨ a.refusals = 1 ∨ a.refusals = 2 := by omega
  rcases hcases with h0 | h1 | h2
  · rw [h0, Nat.zero_mul] at hsent
    split at hsent <;> omega
  · rw [h1, Nat.one_mul] at hsent
    split at hsent
    · rename_i hs
      have := (hsettled hs).1
      omega
    · omega
  · rw [h2, hrefused h2] at hsent
    split at hsent
    · rename_i hs
      have := (hsettled hs).2
      omega
    · exact hsent

theorem Attempts.Counts.after (h : a.Counts limit fetched sent) (hopen : a.settled = false)
    (hrefusals : a.refusals < 2) (hretries : a.retries ≤ limit) (code : Option Code) :
    (a.after code).Counts limit fetched (sent + 1) := by
  have hsent := h.sent
  rw [hopen] at hsent
  cases code with
  | none =>
      exact ⟨h.fetched, h.fetches, Nat.succ_le_succ hsent, h.refusals, h.retries, h.refused,
        fun _ => ⟨hretries, hrefusals⟩⟩
  | some code =>
      unfold Attempts.after
      dsimp only
      split
      · refine ⟨h.fetched, h.fetches, ?_, hrefusals, Nat.zero_le _, fun _ => rfl, fun hs => ?_⟩
        · rw [Nat.succ_mul]
          dsimp only
          rw [hopen]
          simp only [Bool.false_eq_true, if_false] at hsent ⊢
          omega
        · rw [hopen] at hs
          cases hs
      · split
        · refine ⟨h.fetched, h.fetches, ?_, h.refusals, Nat.succ_le_succ hretries, fun h2 => ?_,
            fun hs => ?_⟩
          · dsimp only
            rw [hopen]
            simp only [Bool.false_eq_true, if_false] at hsent ⊢
            omega
          · dsimp only at h2
            omega
          · rw [hopen] at hs
            cases hs
        · exact ⟨h.fetched, h.fetches, Nat.succ_le_succ hsent, h.refusals, h.retries, h.refused,
            fun _ => ⟨hretries, hrefusals⟩⟩

/-- A permitted call is counted. -/
theorem Attempts.Counts.next {op : Op} (h : a.Counts limit fetched sent)
    (hop : (attempts lib limit).permits a op) (answer : op.Answer) :
    (a.next lib op answer).Counts limit (fetched + if op.isKeycloak then 1 else 0)
      (sent + if op.isSend then 1 else 0) := by
  cases op with
  | keycloak client =>
      obtain ⟨hfetches, -, -⟩ := hop
      exact ⟨congrArg Nat.succ h.fetched, hfetches, h.sent, h.refusals, h.retries, h.refused,
        h.settled⟩
  | send rpc cookie =>
      obtain ⟨hopen, hrefusals, hretries, -⟩ := hop
      exact h.after hopen hrefusals hretries _
  | _ => exact h

end Counting

theorem made_perform (kind : Op → Bool) (w : TokenWorld) (i thread : ℕ) (op : Op) (input : Input) :
    made kind thread (w.perform exec i op input).log =
      made kind thread w.log + if i = thread ∧ kind op = true then 1 else 0 := by
  unfold made World.perform
  rw [List.countP_cons]
  simp

section Main

variable (lib : Libraries) (cfg : ServiceConfig) (requests : ℕ → Request)

/-- Every request is within its attempts, and they count its calls. -/
def Counted (w : TokenWorld) : Prop :=
  ∀ thread, ((attempts lib (requests thread).limit).stageOf thread w.log).Counts
    (requests thread).limit (made Op.isKeycloak thread w.log) (made Op.isSend thread w.log)

theorem counted_perform {w : TokenWorld} {i : ℕ} {op : Op} (h : Counted lib requests w)
    (hop : (attempts lib (requests i).limit).permits
      ((attempts lib (requests i).limit).stageOf i w.log) op) (input : Input) :
    Counted lib requests (w.perform exec i op input) := by
  intro thread
  rw [made_perform, made_perform]
  by_cases hi : i = thread
  · subst hi
    rw [Protocol.stageOf_perform_self]
    have hnext := (h i).next hop (exec w.shared op input).2
    simp only [true_and]
    exact hnext
  · rw [Protocol.stageOf_perform_ne exec _ w (Ne.symm hi)]
    simpa [hi] using h thread

/-- The requests after `n` steps of a run. -/
abbrev tokenRun (events : List (ℕ × Input)) (n : ℕ) : TokenPool :=
  stateAt (Pool.step exec) (startPool lib cfg requests) events n

/-- However requests overlap and whatever they are answered, each sends what it
is for with a current token of the server, within its attempts, and what it
replies is what the services have answered, to it or to the one that stored the
answer less than five minutes before. -/
theorem requests_vouched (events : List (ℕ × Input)) :
    Along (Pool.Guarded fun w thread op _ => Proper lib cfg (requests thread) thread w.log op ∧
      (attempts lib (requests thread).limit).permits
        ((attempts lib (requests thread).limit).stageOf thread w.log) op)
      (Pool.step exec) (startPool lib cfg requests) events ∧
    ∀ n thread, made Op.isKeycloak thread (tokenRun lib cfg requests events n).world.log ≤ 2 ∧
      made Op.isSend thread (tokenRun lib cfg requests events n).world.log ≤
        2 * ((requests thread).limit + 1) ∧
      ∀ reply, (tokenRun lib cfg requests events n).threads thread = .ret (.ok reply) →
        Vouched lib cfg thread (tokenRun lib cfg requests events n).world.log (requests thread)
          reply := by
  have hfree : Along (Pool.Guarded fun _ _ _ _ => True) (Pool.step exec)
      (startPool lib cfg requests) events := Pool.along_free exec _ events
  have hdisciplined : (startPool lib cfg requests).Disciplined (discipline lib cfg requests)
      (fun thread => Either (fun reply w => Vouched lib cfg thread w.log (requests thread) reply)
        fun _ _ => True) := ⟨sound_new, fun thread => request_gives sound_new⟩
  have hfollowed : (startPool lib cfg requests).FollowedBy
      (fun thread => attempts lib (requests thread).limit) (fun _ _ => True) :=
    fun thread => request_follows (requests thread)
  have hcounted : Counted lib requests (startPool lib cfg requests).world := fun thread =>
    ⟨rfl, Nat.zero_le _, Nat.zero_le _, Nat.zero_le _, Nat.zero_le _, fun _ => rfl, fun h => by
      cases h⟩
  have hkept : ∀ (w : TokenWorld) i op input, Counted lib requests w → True →
      (attempts lib (requests i).limit).permits
        ((attempts lib (requests i).limit).stageOf i w.log) op →
      Counted lib requests (w.perform exec i op input) :=
    fun w i op input hw _ hop => counted_perform lib requests hw hop input
  refine ⟨?_, fun n thread => ?_⟩
  · have hproper := hdisciplined.along hfree
    have hpermitted := hfollowed.along hkept (Q := fun w thread op _ =>
      (attempts lib (requests thread).limit).permits
        ((attempts lib (requests thread).limit).stageOf thread w.log) op)
      (fun _ _ _ _ _ _ hop => hop) hcounted hfree
    exact (hproper.and hpermitted).mono fun q event h => Pool.guarded_and h.1 h.2
  · have hcounts := hfollowed.invariant hkept hcounted hfree n thread
    refine ⟨hcounts.fetched ▸ hcounts.fetches, hcounts.sent_le, fun reply hreply => ?_⟩
    exact (hdisciplined.stateAt hfree n).post hreply

end Main

end HackArena.Official.ServiceTokens
