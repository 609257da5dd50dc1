import HackArena.Local.MapAssets

/-!
# The phases of a map sync

A call first looks for the files without the lock, then with it, and then
copies them one by one. What it has received so far, what it has put in
place and whether it is through with the animation is its phase.
-/

namespace HackArena.Local.MapAssets

open FileStore HackArena.Services

/-- What a sync knows of the animation: nothing yet, that it belongs to a
model which the sync has put in place, or that it is in place or absent. -/
inductive Leg where
  | unknown | running | settled
  deriving DecidableEq, Repr

def Leg.after (leg : Leg) : AssetKind → Leg
  | .mainGlb => .running
  | .animationGlb => .settled
  | _ => leg

/-- What a sync has in hand. -/
inductive Doing where
  | nothing
  | opened (kind : AssetKind)
  | streaming (kind : AssetKind) (got : List UInt8)
  | received (kind : AssetKind) (got : List UInt8) (chunk : GlbChunk)
  | staged (kind : AssetKind) (bytes : List UInt8)
  deriving DecidableEq

structure Sync where
  mapId : String
  installed : List AssetKind
  leg : Leg
  syncMeta : Option RemoteMap
  doing : Doing
  deriving DecidableEq

/-- The file of the asset is in place now. -/
def Sync.install (s : Sync) (kind : AssetKind) : Sync :=
  { s with installed := kind :: s.installed, leg := s.leg.after kind, doing := .nothing }

/-- All files that a check looks for. -/
def AllFound (found : List AssetKind) : Prop := ∀ kind ∈ requiredKinds, kind ∈ found

instance (found : List AssetKind) : Decidable (AllFound found) :=
  inferInstanceAs (Decidable (∀ kind ∈ requiredKinds, kind ∈ found))

inductive MapPhase where
  | outside
  | checking (mapId : String) (found : List AssetKind)
  | inside (sync : Sync)
  | returned (mapId : String)
  deriving DecidableEq

namespace MapPhase

/-- The map and the files that the current check has found. -/
def found : MapPhase → Option (String × List AssetKind)
  | .checking mapId found => some (mapId, found)
  | .inside s => some (s.mapId, s.installed)
  | _ => none

def find (phase : MapPhase) (file : CacheFile) : MapPhase :=
  match phase with
  | .outside => .checking file.mapId [file.kind]
  | .checking mapId found =>
      if AllFound (file.kind :: found) then .returned mapId
      else .checking mapId (file.kind :: found)
  | .inside s =>
      let installed := file.kind :: s.installed
      .inside { s with
        installed := installed
        leg := if AllFound installed then .settled else s.leg }
  | phase => phase

/-- What a sync does with its own data. -/
def modify (phase : MapPhase) (f : Sync → Sync) : MapPhase :=
  match phase with
  | .inside s => .inside (f s)
  | phase => phase

end MapPhase

def Sync.streamOpened (s : Sync) (kind : AssetKind) : Reply Unit → Sync
  | .ok () => { s with doing := .opened kind }
  | .refused status =>
      if kind = .animationGlb ∧ status.code = .notFound then { s with leg := .settled } else s
  | .timedOut => s

def Sync.messageCame (s : Sync) : Except String (Option GlbChunk) → Sync
  | .ok message =>
      match s.doing, message with
      | .streaming kind got, none => { s with doing := .staged kind got }
      | .streaming kind got, some chunk => { s with doing := .received kind got chunk }
      | _, _ => s
  | .error _ => s

def Sync.chunkWritten (s : Sync) : Except String Unit → Sync
  | .ok () =>
      match s.doing with
      | .received kind got chunk =>
          if chunk.eof then { s with doing := .staged kind (got ++ chunk.data) }
          else { s with doing := .streaming kind (got ++ chunk.data) }
      | _ => s
  | .error _ => { s with doing := .nothing }

def Sync.fileWritten (s : Sync) (kind : AssetKind) (bytes : List UInt8) :
    Except String Unit → Sync
  | .ok () => { s with doing := .staged kind bytes }
  | .error _ => { s with doing := .nothing }

def Sync.renamed (s : Sync) : Except String Unit → Sync
  | .ok () =>
      match s.doing with
      | .staged kind _ => s.install kind
      | _ => s
  | .error _ => { s with doing := .nothing }

def MapPhase.next (phase : MapPhase) : (op : MapOp) → op.Answer → MapPhase
  | .lock mapId, _ => .inside ⟨mapId, [], .unknown, none, .nothing⟩
  | .unlock, _ => match phase with
      | .inside s =>
          if s.leg = .settled ∧ AllFound s.installed then .returned s.mapId else .outside
      | phase => phase
  | .exists file, true => phase.find file
  | .exists _, false => match phase with
      | .checking _ _ => .outside
      | phase => phase
  | .getSyncMeta _, .ok syncMeta => phase.modify fun s => { s with syncMeta := some syncMeta }
  | .openStream _ kind, reply => phase.modify (Sync.streamOpened · kind reply)
  | .message .., answer => phase.modify (Sync.messageCame · answer)
  | .create _, .ok () => phase.modify fun s => match s.doing with
      | .opened kind => { s with doing := .streaming kind [] }
      | _ => s
  | .writeAll .., answer => phase.modify (Sync.chunkWritten · answer)
  | .write file bytes, answer => phase.modify (Sync.fileWritten · file.kind bytes answer)
  | .removeFile file, _ => phase.modify fun s =>
      { s with installed := s.installed.filter (· ≠ file.kind) }
  | .rename .., answer => phase.modify (Sync.renamed · answer)
  | _, _ => phase

/-- What a call may do in a phase. The animation is replaced after the
model that it belongs to, by the same call. -/
def Permits (phase : MapPhase) : MapOp → Prop
  | .lock _ => phase = .outside
  | .unlock | .readToken | .fetchToken | .writeToken _ | .flush _ => ∃ s, phase = .inside s
  | .exists file => file.tmp = false ∧
      (phase = .outside ∨ ∃ found, phase.found = some (file.mapId, found))
  | .getSyncMeta mapId => ∃ s, phase = .inside s ∧ s.mapId = mapId
  | .openStream mapId _ => ∃ s, phase = .inside s ∧ s.mapId = mapId
  | .message mapId kind => ∃ s got, phase = .inside s ∧ s.mapId = mapId ∧
      s.doing = .streaming kind got
  | .write file bytes => ∃ s r kind, phase = .inside s ∧ file = tmpPathFor (asset s.mapId kind) ∧
      s.syncMeta = some r ∧ r.asset kind = some bytes
  | .create file => ∃ s kind, phase = .inside s ∧ file = tmpPathFor (asset s.mapId kind) ∧
      s.doing = .opened kind
  | .writeAll file bytes => ∃ s kind got chunk, phase = .inside s ∧
      file = tmpPathFor (asset s.mapId kind) ∧ s.doing = .received kind got chunk ∧
      bytes = chunk.data ∧ chunk.offset = got.length
  | .removeFile file => ∃ s kind bytes, phase = .inside s ∧ file = asset s.mapId kind ∧
      s.doing = .staged kind bytes ∧ (kind = .animationGlb → s.leg = .running)
  | .rename file target => ∃ s kind bytes, phase = .inside s ∧ target = asset s.mapId kind ∧
      file = tmpPathFor target ∧ s.doing = .staged kind bytes

/-- A call that has been answered well is over. -/
theorem Permits.ne_returned {phase : MapPhase} {op : MapOp} (h : Permits phase op)
    (mapId : String) : phase ≠ .returned mapId := by
  rintro rfl
  cases op with
  | lock => cases h
  | «exists» file =>
      obtain ⟨-, hout | ⟨found, hfound⟩⟩ := h
      · cases hout
      · cases hfound
  | unlock | readToken | fetchToken | writeToken | flush =>
      obtain ⟨s, hs⟩ := h
      cases hs
  | getSyncMeta | openStream | message | write | create | writeAll | removeFile | rename =>
      obtain ⟨s, hs⟩ := h
      grind

def mapProtocol : Protocol MapOp MapOp.Answer MapPhase where
  init := .outside
  next := MapPhase.next
  permits := Permits

/-! ## The functions keep to the protocol -/

/-- The sync is still under way, for the same map. -/
def Under (mapId : String) (phase : MapPhase) : Prop := ∃ s, phase = .inside s ∧ s.mapId = mapId

/-- The sync is through with an asset, which is now in place; of an
animation it may have learnt that there is none. -/
structure Through (kind : AssetKind) (s s' : Sync) : Prop where
  mapId : s'.mapId = s.mapId
  syncMeta : s'.syncMeta = s.syncMeta
  kept : ∀ k ∈ s.installed, k ∈ s'.installed
  present : kind ≠ .animationGlb → kind ∈ s'.installed
  leg : s'.leg = s.leg.after kind

/-- How a step of a sync ends that copies the asset. -/
def StepPost (kind : AssetKind) (s : Sync) (outcome : SyncOutcome) (phase : MapPhase) : Prop :=
  outcome = .unfinished ∨ Under s.mapId phase ∧
    (outcome = .ok → ∃ s', phase = .inside s' ∧ Through kind s s')

/-- A token error is not taken for an answer of the remote backend. -/
theorem refreshToken_error {s : Sync} : refreshToken.Follows mapProtocol
    (fun r phase => phase = .inside s ∧ ∀ status, r = .error status → status.code ≠ .notFound)
    (.inside s) := by
  refine .call ⟨s, rfl⟩ fun answer => ?_
  cases answer with
  | error message =>
      refine ⟨rfl, fun status hstatus => ?_⟩
      obtain rfl := Except.error.inj hstatus
      unfold mapTokenFetchError
      split
      · exact nofun
      · exact nofun
  | ok token => exact .call ⟨s, rfl⟩ fun _ => ⟨rfl, nofun⟩

theorem tokenOrFetch_error {s : Sync} : tokenOrFetch.Follows mapProtocol
    (fun r phase => phase = .inside s ∧ ∀ status, r = .error status → status.code ≠ .notFound)
    (.inside s) := by
  refine .call ⟨s, rfl⟩ fun answer => ?_
  cases answer with
  | none => exact refreshToken_error
  | some token => exact ⟨rfl, nofun⟩

theorem attachAuthCookie_error {token : String} {status : Status}
    (h : attachAuthCookie token = .error status) : status.code ≠ .notFound := by
  unfold attachAuthCookie at h
  split at h
  · cases h
  · obtain rfl := Except.error.inj h
    exact nofun

/-- How a single request ends, and how both together. -/
def ReplyPost {α : Type} (okPost : α → MapPhase → Prop) (errPost : Status → MapPhase → Prop)
    (phase : MapPhase) : Reply α → MapPhase → Prop
  | .timedOut, phase' => phase' = phase
  | .ok a, phase' => okPost a phase'
  | .refused status, phase' => (isAuthError status → phase' = phase) ∧ errPost status phase'

def RequestPost {α : Type} (okPost : α → MapPhase → Prop) (errPost : Status → MapPhase → Prop) :
    Except Status α → MapPhase → Prop
  | .ok a, phase => okPost a phase
  | .error status, phase => errPost status phase

theorem request_follows {α : Type} {send : MapProg (Reply α)} {s : Sync}
    {okPost : α → MapPhase → Prop} {errPost : Status → MapPhase → Prop}
    (hsend : send.Follows mapProtocol (ReplyPost okPost errPost (.inside s)) (.inside s))
    (hother : ∀ status, status.code ≠ .notFound → errPost status (.inside s))
    (timeoutMessage : String) :
    (request send timeoutMessage).Follows mapProtocol (RequestPost okPost errPost)
      (.inside s) := by
  refine .andThen tokenOrFetch_error ?_
  rintro token _ ⟨rfl, htoken⟩
  cases token with
  | error status => exact hother status (htoken status rfl)
  | ok token =>
      dsimp only
      cases hcookie : attachAuthCookie token with
      | error status => exact hother status (attachAuthCookie_error hcookie)
      | ok _ =>
          refine .andThen hsend ?_
          intro reply phase' hreply
          cases reply with
          | timedOut =>
              obtain rfl := hreply
              exact hother _ nofun
          | ok a => exact hreply
          | refused status =>
              dsimp only
              split
              · -- the second request, from the same phase
                rename_i hauth
                obtain rfl := hreply.1 hauth
                refine .andThen refreshToken_error ?_
                rintro token _ ⟨rfl, htoken⟩
                cases token with
                | error status => exact hother status (htoken status rfl)
                | ok token =>
                    dsimp only
                    cases hcookie : attachAuthCookie token with
                    | error status => exact hother status (attachAuthCookie_error hcookie)
                    | ok _ =>
                        refine .andThen hsend ?_
                        intro reply phase' hreply
                        cases reply with
                        | timedOut =>
                            obtain rfl := hreply
                            exact hother _ nofun
                        | ok a => exact hreply
                        | refused status => exact hreply.2
              · exact hreply.2

section Steps

variable {cacheDir mapId : String} {kind : AssetKind} {s : Sync}

theorem replaceFileAtomically_follows {bytes : List UInt8} (hdoing : s.doing = .staged kind bytes)
    (hleg : kind = .animationGlb → s.leg = .running) :
    (replaceFileAtomically cacheDir (asset s.mapId kind)).Follows mapProtocol (StepPost kind s)
      (.inside s) := by
  refine .call ⟨s, kind, bytes, rfl, rfl, hdoing, hleg⟩ fun _ => ?_
  refine .call ⟨_, kind, bytes, rfl, rfl, rfl, hdoing⟩ fun answer => ?_
  cases answer with
  | error e => exact Or.inr ⟨⟨_, rfl, rfl⟩, nofun⟩
  | ok _ =>
      let removed : Sync := { s with installed := s.installed.filter (· ≠ kind) }
      have hnext : removed.renamed (.ok ()) = removed.install kind := by
        simp only [Sync.renamed, removed, hdoing]
      have hmap : (removed.renamed (.ok ())).mapId = s.mapId := by
        rw [hnext]
        rfl
      refine Or.inr ⟨⟨removed.renamed (.ok ()), rfl, hmap⟩,
        fun _ => ⟨removed.renamed (.ok ()), rfl, ?_⟩⟩
      rw [hnext]
      refine ⟨rfl, rfl, fun k hk => ?_, fun _ => List.mem_cons_self, rfl⟩
      by_cases heq : k = kind
      · exact heq ▸ List.mem_cons_self
      · exact List.mem_cons_of_mem kind (List.mem_filter.mpr ⟨hk, by simpa using heq⟩)

theorem writeBytesAtomically_follows {r : RemoteMap} {bytes : List UInt8} (hmap : s.mapId = mapId)
    (hmeta : s.syncMeta = some r) (hbytes : r.asset kind = some bytes)
    (hkind : kind ≠ .animationGlb) :
    (writeBytesAtomically cacheDir (asset mapId kind) bytes).Follows mapProtocol
      (StepPost kind s) (.inside s) := by
  subst hmap
  refine .call ⟨s, r, kind, rfl, rfl, hmeta, hbytes⟩ fun answer => ?_
  cases answer with
  | error e => exact Or.inr ⟨⟨_, rfl, rfl⟩, nofun⟩
  | ok _ =>
      have hstaged : ({ s with doing := .staged kind bytes } : Sync).doing = .staged kind bytes := rfl
      refine Prog.Follows.mono (replaceFileAtomically_follows hstaged fun h => absurd h hkind)
        fun outcome phase h => ?_
      refine h.imp id (And.imp id fun hok heq => ?_)
      obtain ⟨s', hs', hthrough⟩ := hok heq
      exact ⟨s', hs', hthrough.mapId, hthrough.syncMeta, hthrough.kept, hthrough.present,
        hthrough.leg⟩

/-- When the loop ends well, the bytes received are the temporary file. -/
def ReceivePost (kind : AssetKind) (s : Sync) (outcome : SyncOutcome) (phase : MapPhase) : Prop :=
  outcome = .unfinished ∨ Under s.mapId phase ∧
    (outcome = .ok → ∃ bytes, phase = .inside { s with doing := .staged kind bytes })

theorem receiveChunks_follows (kind : AssetKind) (fuel : ℕ) (got : List UInt8) :
    (receiveChunks s.mapId kind fuel got.length).Follows mapProtocol (ReceivePost kind s)
      (.inside { s with doing := .streaming kind got }) := by
  induction fuel generalizing got with
  | zero => exact Or.inl rfl
  | succ fuel ih =>
      refine .call ⟨_, got, rfl, rfl, rfl⟩ fun answer => ?_
      cases answer with
      | error e => exact Or.inr ⟨⟨_, rfl, rfl⟩, nofun⟩
      | ok message =>
          cases message with
          | none => exact Or.inr ⟨⟨_, rfl, rfl⟩, fun _ => ⟨got, rfl⟩⟩
          | some chunk =>
              dsimp only
              split
              · exact Or.inr ⟨⟨_, rfl, rfl⟩, nofun⟩
              · rename_i hoffset
                refine .call ⟨_, kind, got, chunk, rfl, rfl, rfl, rfl, not_not.mp hoffset⟩
                  fun written => ?_
                cases written with
                | error e => exact Or.inr ⟨⟨_, rfl, rfl⟩, nofun⟩
                | ok _ =>
                    dsimp only
                    let received : Sync := { s with doing := .received kind got chunk }
                    change Prog.Follows mapProtocol (ReceivePost kind s) _
                      (.inside (received.chunkWritten (.ok ())))
                    cases heof : chunk.eof with
                    | true =>
                        have hnext : received.chunkWritten (.ok ()) =
                            { s with doing := .staged kind (got ++ chunk.data) } := by
                          simp [Sync.chunkWritten, received, heof]
                        rw [hnext]
                        exact Or.inr ⟨⟨_, rfl, rfl⟩, fun _ => ⟨_, rfl⟩⟩
                    | false =>
                        have hnext : received.chunkWritten (.ok ()) =
                            { s with doing := .streaming kind (got ++ chunk.data) } := by
                          simp [Sync.chunkWritten, received, heof]
                        rw [hnext, ← List.length_append]
                        exact ih (got ++ chunk.data)

theorem openStream_follows :
    (MapOp.openStream s.mapId kind).call.Follows mapProtocol
      (ReplyPost (fun _ phase => phase = .inside { s with doing := .opened kind })
        (fun status phase => phase = .inside
          (if kind = .animationGlb ∧ status.code = .notFound then { s with leg := .settled } else s))
        (.inside s)) (.inside s) := by
  refine ⟨⟨s, rfl, rfl⟩, fun reply => ?_⟩
  cases reply with
  | timedOut => rfl
  | ok _ => rfl
  | refused status =>
      refine ⟨fun hauth => ?_, rfl⟩
      have hcode : ¬ (kind = .animationGlb ∧ status.code = .notFound) := by
        rintro ⟨-, hcode⟩
        simp [isAuthError, hcode] at hauth
      change MapPhase.inside (s.streamOpened kind (.refused status)) = .inside s
      rw [Sync.streamOpened, if_neg hcode]

theorem streamGlbToCache_follows (kind : AssetKind) {required : Bool} (hmap : s.mapId = mapId)
    (hrequired : required = false ↔ kind = .animationGlb)
    (hleg : kind = .animationGlb → s.leg = .running) (fuel : ℕ) :
    (streamGlbToCache cacheDir mapId kind required fuel).Follows mapProtocol (StepPost kind s)
      (.inside s) := by
  subst hmap
  refine .andThen (request_follows openStream_follows ?_ _) ?_
  · intro status hstatus
    rw [if_neg fun h => hstatus h.2]
  · intro reply phase hreply
    cases reply with
    | error status =>
        obtain rfl := hreply
        dsimp only
        by_cases habsent : kind = .animationGlb ∧ status.code = .notFound
        · have hcode : (!required && status.code == .notFound) = true := by
            simp [hrequired.mpr habsent.1, habsent.2]
          rw [if_pos hcode, if_pos habsent]
          refine Or.inr ⟨⟨_, rfl, rfl⟩, fun _ => ⟨_, rfl, rfl, rfl, fun _ hk => hk, ?_, ?_⟩⟩
          · exact fun hne => absurd habsent.1 hne
          · rw [habsent.1]
            rfl
        · have hcode : (!required && status.code == .notFound) = false := by
            cases required with
            | true => rfl
            | false => simpa [hrequired.mp rfl] using habsent
          rw [hcode, if_neg habsent]
          exact Or.inr ⟨⟨s, rfl, rfl⟩, nofun⟩
    | ok _ =>
        obtain rfl := hreply
        refine .call ⟨_, kind, rfl, rfl, rfl⟩ fun created => ?_
        cases created with
        | error e => exact Or.inr ⟨⟨_, rfl, rfl⟩, nofun⟩
        | ok _ =>
            refine .andThen (receiveChunks_follows (s := s) kind fuel []) ?_
            intro outcome phase hreceived
            rcases hreceived with rfl | ⟨hunder, hok⟩
            · exact Or.inl rfl
            · cases outcome with
              | unfinished => exact Or.inl rfl
              | err status => exact Or.inr ⟨hunder, nofun⟩
              | ok =>
                  obtain ⟨bytes, rfl⟩ := hok rfl
                  refine .call ⟨_, rfl⟩ fun flushed => ?_
                  cases flushed with
                  | error e => exact Or.inr ⟨⟨_, rfl, rfl⟩, nofun⟩
                  | ok _ =>
                      have hstaged : ({ s with doing := .staged kind bytes } : Sync).doing =
                          .staged kind bytes := rfl
                      refine Prog.Follows.mono (replaceFileAtomically_follows hstaged hleg)
                        fun outcome phase h => ?_
                      refine h.imp id (And.imp id fun hok heq => ?_)
                      obtain ⟨s', hs', hthrough⟩ := hok heq
                      exact ⟨s', hs', hthrough.mapId, hthrough.syncMeta, hthrough.kept,
                        hthrough.present, hthrough.leg⟩

/-- A step, and the steps after it. -/
theorem inTurn_follows (kind : AssetKind) {post : SyncOutcome → MapPhase → Prop}
    {step : MapProg SyncOutcome} {steps : List (MapProg SyncOutcome)}
    (hstep : step.Follows mapProtocol (StepPost kind s) (.inside s))
    (hother : ∀ outcome phase, outcome ≠ .ok →
      outcome = .unfinished ∨ Under s.mapId phase → post outcome phase)
    (hsteps : ∀ s', Through kind s s' → (inTurn steps).Follows mapProtocol post (.inside s')) :
    (inTurn (step :: steps)).Follows mapProtocol post (.inside s) := by
  refine .andThen hstep ?_
  intro outcome phase h
  cases outcome with
  | unfinished => exact hother _ _ nofun (Or.inl rfl)
  | err status => exact hother _ _ nofun (h.imp id And.left)
  | ok =>
      obtain hunfinished | ⟨-, hok⟩ := h
      · cases hunfinished
      · obtain ⟨s', rfl, hthrough⟩ := hok rfl
        exact hsteps s' hthrough

/-- How a sync ends. -/
def SyncPost (mapId : String) (outcome : SyncOutcome) (phase : MapPhase) : Prop :=
  outcome = .unfinished ∨ ∃ s, phase = .inside s ∧ s.mapId = mapId ∧
    (outcome = .ok → s.leg = .settled ∧ AllFound s.installed)

theorem syncMap_follows (hmap : s.mapId = mapId) (fuel : ℕ) :
    (syncMap cacheDir mapId fuel).Follows mapProtocol (SyncPost mapId) (.inside s) := by
  subst hmap
  have hother : ∀ (s' : Sync) outcome phase, s'.mapId = s.mapId → outcome ≠ .ok →
      outcome = .unfinished ∨ Under s'.mapId phase → SyncPost s.mapId outcome phase := by
    intro s' outcome phase hmap hne h
    refine h.imp id ?_
    rintro ⟨s'', rfl, hmap'⟩
    exact ⟨s'', rfl, hmap'.trans hmap, fun hok => absurd hok hne⟩
  have hsend : (MapOp.getSyncMeta s.mapId).call.Follows mapProtocol
      (ReplyPost (fun r phase => phase = .inside { s with syncMeta := some r })
        (fun _ phase => phase = .inside s) (.inside s)) (.inside s) := by
    refine ⟨⟨s, rfl, rfl⟩, fun reply => ?_⟩
    cases reply with
    | timedOut => rfl
    | ok r => rfl
    | refused status => exact ⟨fun _ => rfl, rfl⟩
  refine .andThen (request_follows hsend (fun _ _ => rfl) _) ?_
  intro reply phase hreply
  cases reply with
  | error status =>
      obtain rfl := hreply
      exact Or.inr ⟨s, rfl, rfl, nofun⟩
  | ok r =>
      obtain rfl := hreply
      dsimp only
      split
      · exact Or.inr ⟨_, rfl, rfl, nofun⟩
      · let s0 : Sync := { s with syncMeta := some r }
        refine inTurn_follows (s := s0) .minimapSvg
          (writeBytesAtomically_follows (r := r) rfl rfl rfl nofun)
          (fun _ _ => hother s0 _ _ rfl) fun s1 t1 => ?_
        have h1 : s1.mapId = s.mapId := t1.mapId
        refine inTurn_follows .mapJson
          (writeBytesAtomically_follows (r := r) h1 t1.syncMeta rfl nofun)
          (fun _ _ => hother s1 _ _ h1) fun s2 t2 => ?_
        have h2 : s2.mapId = s.mapId := t2.mapId.trans h1
        refine inTurn_follows .minimapJson
          (writeBytesAtomically_follows (r := r) h2 (t2.syncMeta.trans t1.syncMeta) rfl nofun)
          (fun _ _ => hother s2 _ _ h2) fun s3 t3 => ?_
        have h3 : s3.mapId = s.mapId := t3.mapId.trans h2
        refine inTurn_follows .mainGlb
          (streamGlbToCache_follows .mainGlb h3 (by simp) nofun fuel)
          (fun _ _ => hother s3 _ _ h3) fun s4 t4 => ?_
        have h4 : s4.mapId = s.mapId := t4.mapId.trans h3
        refine inTurn_follows .animationGlb
          (streamGlbToCache_follows .animationGlb h4 (by simp) (fun _ => t4.leg) fuel)
          (fun _ _ => hother s4 _ _ h4) fun s5 t5 => ?_
        refine Or.inr ⟨s5, rfl, t5.mapId.trans h4, fun _ => ⟨t5.leg, fun kind hkind => ?_⟩⟩
        refine t5.kept kind ?_
        simp only [requiredKinds, List.mem_cons, List.not_mem_nil, or_false] at hkind
        rcases hkind with rfl | rfl | rfl | rfl
        · exact t4.present nofun
        · exact t4.kept _ (t3.kept _ (t2.present nofun))
        · exact t4.kept _ (t3.present nofun)
        · exact t4.kept _ (t3.kept _ (t2.kept _ (t1.present nofun)))

/-! ### The check for the files -/

theorem requiredFilesExist_outside (mapId : String) :
    (requiredFilesExist mapId).Follows mapProtocol
      (fun found phase => phase = if found then .returned mapId else .outside) .outside := by
  refine .call ⟨rfl, Or.inl rfl⟩ fun found => ?_
  cases found with
  | false => rfl
  | true =>
      refine .call ⟨rfl, Or.inr ⟨_, rfl⟩⟩ fun found => ?_
      cases found with
      | false => rfl
      | true =>
          refine .call ⟨rfl, Or.inr ⟨_, rfl⟩⟩ fun found => ?_
          cases found with
          | false => rfl
          | true =>
              refine .call ⟨rfl, Or.inr ⟨_, rfl⟩⟩ fun found => ?_
              cases found with
              | false => rfl
              | true => rfl

theorem filesExist_inside (kinds : List AssetKind) (s : Sync)
    (hrequired : ∀ kind ∈ requiredKinds, kind ∈ kinds ∨ kind ∈ s.installed)
    (hsettled : kinds = [] → s.leg = .settled) :
    (filesExist s.mapId kinds).Follows mapProtocol
      (fun found phase => ∃ s', phase = .inside s' ∧ s'.mapId = s.mapId ∧
        (found = true → s'.leg = .settled ∧ AllFound s'.installed)) (.inside s) := by
  induction kinds generalizing s with
  | nil =>
      refine ⟨s, rfl, rfl, fun _ => ⟨hsettled rfl, fun kind hkind => ?_⟩⟩
      simpa using hrequired kind hkind
  | cons kind kinds ih =>
      refine .call ⟨rfl, Or.inr ⟨s.installed, rfl⟩⟩ fun found => ?_
      cases found with
      | false => exact ⟨s, rfl, rfl, nofun⟩
      | true =>
          have hrequired' : ∀ k ∈ requiredKinds, k ∈ kinds ∨ k ∈ kind :: s.installed := by
            intro k hk
            have hk' := hrequired k hk
            simp only [List.mem_cons] at hk' ⊢
            tauto
          let s' : Sync := { s with
            installed := kind :: s.installed
            leg := if AllFound (kind :: s.installed) then .settled else s.leg }
          refine ih s' hrequired' fun hnil => ?_
          have hall : AllFound (kind :: s.installed) := fun k hk => by
            simpa [hnil] using hrequired' k hk
          exact if_pos hall

/-- A call that has been answered well. -/
def ReturnPost (r : String × SyncOutcome) (phase : MapPhase) : Prop :=
  r.2 = .ok → ∀ mapId, sanitizeMapId r.1 = .ok mapId → phase = .returned mapId

theorem ensureMapCached_follows (rawMapId : String) (fuel : ℕ) :
    (ensureMapCached cacheDir rawMapId fuel).Follows mapProtocol
      (fun outcome phase => ReturnPost (rawMapId, outcome) phase) .outside := by
  unfold ensureMapCached
  cases hmap : sanitizeMapId rawMapId with
  | error status => exact nofun
  | ok mapId =>
      have hreturned : ∀ outcome, ReturnPost (rawMapId, outcome) (.returned mapId) := by
        intro outcome _ other hother
        rw [Except.ok.inj (hmap.symm.trans hother)]
      refine .andThen (requiredFilesExist_outside mapId) ?_
      rintro found _ rfl
      cases found with
      | true => exact hreturned _
      | false =>
          refine .call rfl fun _ => ?_
          refine .andThen (filesExist_inside requiredKinds ⟨mapId, [], .unknown, none, .nothing⟩
            (fun _ hk => Or.inl hk) nofun) ?_
          rintro found _ ⟨s, rfl, hs, hfound⟩
          cases found with
          | true =>
              refine .call ⟨s, rfl⟩ fun _ => ?_
              have hnext : (if s.leg = .settled ∧ AllFound s.installed then MapPhase.returned s.mapId
                  else .outside) = .returned mapId := by rw [if_pos (hfound rfl), hs]
              change ReturnPost (rawMapId, .ok)
                (if s.leg = .settled ∧ AllFound s.installed then _ else _)
              rw [hnext]
              exact hreturned _
          | false =>
              refine .andThen (syncMap_follows hs fuel) ?_
              intro outcome phase h
              cases outcome with
              | unfinished => exact nofun
              | err status =>
                  obtain hunfinished | ⟨s', rfl, -, -⟩ := h
                  · cases hunfinished
                  · exact .call ⟨s', rfl⟩ fun _ => nofun
              | ok =>
                  obtain hunfinished | ⟨s', rfl, hs', hok⟩ := h
                  · cases hunfinished
                  · refine .call ⟨s', rfl⟩ fun _ => ?_
                    have hnext : (if s'.leg = .settled ∧ AllFound s'.installed then
                        MapPhase.returned s'.mapId else .outside) = .returned mapId := by
                      rw [if_pos (hok rfl), hs']
                    change ReturnPost (rawMapId, .ok)
                      (if s'.leg = .settled ∧ AllFound s'.installed then _ else _)
                    rw [hnext]
                    exact hreturned _

end Steps

end HackArena.Local.MapAssets
