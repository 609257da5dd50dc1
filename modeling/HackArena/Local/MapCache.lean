import HackArena.Local.MapSyncPhases

/-!
# Completeness of the map cache

A file that is in place is a whole copy of what the remote backend offers.
The check that makes a call answer at once looks for four of the five
files; it stands for all of them as long as every sync that puts the model
in place gets through with its animation.
-/

namespace HackArena.Local.MapAssets

open FileStore GuardedRun HackArena.Services

abbrev MapEntry := Entry MapOp MapOp.Answer

/-! ## What is kept -/

/-- Every file in place is a copy of the remote asset. -/
def FilesExact (remote : Remote) (d : Disk CacheFile) : Prop :=
  ∀ mapId kind f, d.current (asset mapId kind) = some f →
    remote.asset mapId kind = some f.content

/-- There is a copy of everything the remote backend offers for the map. -/
def Complete (remote : Remote) (d : Disk CacheFile) (mapId : String) : Prop :=
  ∀ kind content, remote.asset mapId kind = some content →
    (d.current (asset mapId kind)).map File.content = some content

/-- A model was put in place, and its animation has not been since; or an
animation was, or there is none. -/
def animationEvent (mapId : String) : MapEntry → Option Bool
  | ⟨_, .rename _ target, .ok ()⟩ =>
      if target = asset mapId .mainGlb then some true
      else if target = asset mapId .animationGlb then some false
      else none
  | ⟨_, .openStream other kind, .refused status⟩ =>
      if other = mapId ∧ kind = .animationGlb ∧ status.code = .notFound then some false else none
  | _ => none

/-- The model in place may lack its animation. -/
def pending (mapId : String) (log : List MapEntry) : Bool :=
  (log.findSome? (animationEvent mapId)).getD false

theorem pending_of_event {mapId : String} {e : MapEntry} {b : Bool} (log : List MapEntry)
    (h : animationEvent mapId e = some b) : pending mapId (e :: log) = b := by
  simp [pending, h]

theorem pending_of_none {mapId : String} {e : MapEntry} (log : List MapEntry)
    (h : animationEvent mapId e = none) : pending mapId (e :: log) = pending mapId log := by
  simp [pending, h]

/-- What a sync has in hand is what it should be. -/
def Holds (remote : Remote) (d : Disk CacheFile) (mapId : String) : Doing → Prop
  | .nothing => True
  | .opened kind => (remote.asset mapId kind).isSome
  | .streaming kind got =>
      (d.current (tmpPathFor (asset mapId kind))).map File.content = some got ∧
        ∃ content, remote.asset mapId kind = some content ∧ got = content.take got.length
  | .received kind got chunk =>
      (d.current (tmpPathFor (asset mapId kind))).map File.content = some got ∧
        ∃ content, remote.asset mapId kind = some content ∧
          (chunk.offset = got.length →
            got ++ chunk.data = content.take (got ++ chunk.data).length ∧
              (chunk.eof = true → got ++ chunk.data = content))
  | .staged kind bytes =>
      (d.current (tmpPathFor (asset mapId kind))).map File.content = some bytes ∧
        remote.asset mapId kind = some bytes

structure SyncInv (remote : Remote) (d : Disk CacheFile) (pendingNow : Bool) (s : Sync) :
    Prop where
  installed : ∀ kind ∈ s.installed, (d.current (asset s.mapId kind)).isSome
  running : s.leg = .running → pendingNow = true
  settled : s.leg = .settled → pendingNow = false
  syncMeta : ∀ r, s.syncMeta = some r → remote s.mapId = some r
  doing : Holds remote d s.mapId s.doing

structure MapInv (remote : Remote) (s : MapState) (pendingNow : String → Bool)
    (phases : ℕ → MapPhase) : Prop where
  locked : ∀ i sync, phases i = .inside sync → s.locked = true
  exclusive : ∀ i j sync sync', phases i = .inside sync → phases j = .inside sync' → i = j
  syncs : ∀ i sync, phases i = .inside sync →
    SyncInv remote s.disk (pendingNow sync.mapId) sync
  exact : FilesExact remote s.disk
  animation : ∀ mapId, pendingNow mapId = false →
    (s.disk.current (asset mapId .mainGlb)).isSome → (remote.asset mapId .animationGlb).isSome →
    (s.disk.current (asset mapId .animationGlb)).isSome

theorem FilesExact.complete {remote : Remote} {d : Disk CacheFile} (h : FilesExact remote d)
    {mapId : String} (hrequired : ∀ kind ∈ requiredKinds, (d.current (asset mapId kind)).isSome)
    (hanimation : (remote.asset mapId .animationGlb).isSome →
      (d.current (asset mapId .animationGlb)).isSome) : Complete remote d mapId := by
  intro kind content hcontent
  have hsome : (d.current (asset mapId kind)).isSome := by
    cases kind with
    | animationGlb => exact hanimation (by rw [hcontent]; rfl)
    | _ => exact hrequired _ (by decide)
  obtain ⟨f, hf⟩ := Option.isSome_iff_exists.mp hsome
  have hexact := h mapId kind f hf
  rw [hf, Option.map_some, ← hexact, hcontent]

theorem asset_ne_tmp (mapId mapId' : String) (kind kind' : AssetKind) :
    asset mapId kind ≠ tmpPathFor (asset mapId' kind') := by
  intro h
  exact absurd (congrArg CacheFile.tmp h) (by simp [asset, tmpPathFor])

theorem asset_injective {mapId mapId' : String} {kind kind' : AssetKind}
    (h : asset mapId kind = asset mapId' kind') : mapId = mapId' ∧ kind = kind' := by
  cases h
  exact ⟨rfl, rfl⟩

/-! ## Steps of a sync -/

section Steps

variable {remote : Remote} {s s' : MapState} {pendingNow pendingNext : String → Bool}
  {phases : ℕ → MapPhase} {i : ℕ} {sync sync' : Sync}

/-- The calls of a thread that does not hold the lock. -/
theorem MapInv.outside (h : MapInv remote s pendingNow phases) (hdisk : s'.disk = s.disk)
    (hlocked : (∃ j sync, j ≠ i ∧ phases j = .inside sync) → s'.locked = true)
    {phase : MapPhase} (hphase : ∀ sync, phase ≠ .inside sync) :
    MapInv remote s' pendingNow (Function.update phases i phase) := by
  have hinside : ∀ j sync, Function.update phases i phase j = .inside sync →
      j ≠ i ∧ phases j = .inside sync := by
    intro j sync hj
    by_cases hij : j = i
    · rw [hij, Function.update_self] at hj
      exact absurd hj (hphase sync)
    · rw [Function.update_of_ne hij] at hj
      exact ⟨hij, hj⟩
  refine ⟨fun j sync hj => hlocked ⟨j, sync, hinside j sync hj⟩, fun j k sync sync' hj hk => ?_,
    fun j sync hj => ?_, ?_, ?_⟩
  · exact h.exclusive j k sync sync' (hinside j sync hj).2 (hinside k sync' hk).2
  · rw [hdisk]
    exact h.syncs j sync (hinside j sync hj).2
  · rw [hdisk]
    exact h.exact
  · rw [hdisk]
    exact h.animation

/-- The calls of the thread that holds the lock. -/
theorem MapInv.inside (h : MapInv remote s pendingNow phases) (hphase : phases i = .inside sync)
    (hlocked : s'.locked = s.locked) (hmap : sync'.mapId = sync.mapId)
    (hother : ∀ mapId, mapId ≠ sync.mapId → pendingNext mapId = pendingNow mapId ∧
      ∀ kind, s'.disk.current (asset mapId kind) = s.disk.current (asset mapId kind))
    (hsync : SyncInv remote s'.disk (pendingNext sync.mapId) sync')
    (hexact : ∀ kind f, s'.disk.current (asset sync.mapId kind) = some f →
      remote.asset sync.mapId kind = some f.content)
    (hanimation : pendingNext sync.mapId = false →
      (s'.disk.current (asset sync.mapId .mainGlb)).isSome →
      (remote.asset sync.mapId .animationGlb).isSome →
      (s'.disk.current (asset sync.mapId .animationGlb)).isSome) :
    MapInv remote s' pendingNext (Function.update phases i (.inside sync')) := by
  have hsole : ∀ j sync'', Function.update phases i (.inside sync') j = .inside sync'' → j = i := by
    intro j sync'' hj
    by_cases hij : j = i
    · exact hij
    · rw [Function.update_of_ne hij] at hj
      exact h.exclusive j i _ _ hj hphase
  refine ⟨fun _ _ _ => hlocked ▸ h.locked i sync hphase, fun j k _ _ hj hk => ?_,
    fun j sync'' hj => ?_, fun mapId kind f hf => ?_, fun mapId hpending hmain hoffered => ?_⟩
  · rw [hsole j _ hj, hsole k _ hk]
  · obtain rfl := hsole j sync'' hj
    rw [Function.update_self] at hj
    obtain rfl := MapPhase.inside.inj hj
    rw [hmap]
    exact hsync
  · by_cases heq : mapId = sync.mapId
    · subst heq
      exact hexact kind f hf
    · rw [(hother mapId heq).2 kind] at hf
      exact h.exact mapId kind f hf
  · by_cases heq : mapId = sync.mapId
    · subst heq
      exact hanimation hpending hmain hoffered
    · obtain ⟨hsame, hcurrent⟩ := hother mapId heq
      rw [hcurrent] at hmain ⊢
      exact h.animation mapId (hsame ▸ hpending) hmain hoffered

/-- A call that changes no file in place and nothing about animations. -/
theorem MapInv.own (h : MapInv remote s pendingNow phases) (hphase : phases i = .inside sync)
    (hlocked : s'.locked = s.locked) (hmap : sync'.mapId = sync.mapId)
    (hfiles : ∀ mapId kind, s'.disk.current (asset mapId kind) = s.disk.current (asset mapId kind))
    (hsync : SyncInv remote s'.disk (pendingNow sync.mapId) sync') :
    MapInv remote s' pendingNow (Function.update phases i (.inside sync')) := by
  refine h.inside hphase hlocked hmap (fun mapId _ => ⟨rfl, hfiles mapId⟩) hsync ?_ ?_
  · intro kind f hf
    rw [hfiles] at hf
    exact h.exact sync.mapId kind f hf
  · intro hpending hmain
    rw [hfiles] at hmain ⊢
    exact h.animation sync.mapId hpending hmain

/-- What a sync knows, with something else in hand. -/
theorem SyncInv.doing_eq {d : Disk CacheFile} {pendingSync : Bool}
    (h : SyncInv remote s.disk pendingSync sync)
    (hfiles : ∀ kind, d.current (asset sync.mapId kind) = s.disk.current (asset sync.mapId kind))
    {doing : Doing} (hdoing : Holds remote d sync.mapId doing) :
    SyncInv remote d pendingSync { sync with doing := doing } where
  installed kind hkind := by
    rw [hfiles]
    exact h.installed kind hkind
  running := h.running
  settled := h.settled
  syncMeta := h.syncMeta
  doing := hdoing

end Steps

/-! ## What the calls answer -/

section Answers

variable {remote : Remote} {s : MapState} {input : MapInput}

theorem reply_eq_ok {α : Type} {offered : Option α} {a : α} (h : input.reply offered = .ok a) :
    offered = some a := by
  unfold MapInput.reply at h
  split at h
  · cases h
  · split at h
    · cases h
    · split at h
      · cases h
      · obtain rfl := Reply.ok.inj h
        rfl

theorem fails_of_ok (h : ioResult input = .ok ()) : input.fails = false := by
  unfold ioResult at h
  split at h
  · cases h
  · rename_i hfails
    simpa using hfails

/-- The bytes that a message adds at the right offset. -/
theorem chunkOf_spec {content got : List UInt8} (hgot : got = content.take got.length)
    (hoffset : (chunkOf content input).offset = got.length) :
    got ++ (chunkOf content input).data =
        content.take (got ++ (chunkOf content input).data).length ∧
      ((chunkOf content input).eof = true → got ++ (chunkOf content input).data = content) := by
  have hoffset' : input.offset = got.length := hoffset
  have hdata : (chunkOf content input).data = (content.drop got.length).take input.length := by
    rw [chunkOf, hoffset']
  have happend : got ++ (chunkOf content input).data =
      content.take (got.length + input.length) := by
    have hle : got.length ≤ content.length := by
      have hlength := congrArg List.length hgot
      rw [List.length_take] at hlength
      omega
    rw [hdata]
    conv_lhs => rw [hgot]
    rw [List.length_take, Nat.min_eq_left hle, List.take_add]
  constructor
  · rw [happend, List.length_take]
    exact List.take_eq_take_min
  · intro heof
    have hend : content.length ≤ input.offset + input.length := by
      simp only [chunkOf, Bool.and_eq_true, decide_eq_true_eq] at heof
      exact heof.2
    rw [happend, List.take_of_length_le (by omega)]

theorem message_eq_some {mapId : String} {kind : AssetKind} {chunk : GlbChunk}
    (h : (exec remote s (.message mapId kind) input).2 = .ok (some chunk)) :
    ∃ content, remote.asset mapId kind = some content ∧ chunk = chunkOf content input := by
  simp only [exec] at h
  split at h
  · cases h
  · split at h
    · cases h
    · obtain ⟨content, hcontent, rfl⟩ := Option.map_eq_some_iff.mp (Except.ok.inj h)
      exact ⟨content, hcontent, rfl⟩

/-- A stream comes to its end where the remote backend ends it, or has
nothing to send. -/
theorem message_eq_none {mapId : String} {kind : AssetKind}
    (h : (exec remote s (.message mapId kind) input).2 = .ok none) :
    input.fails = false ∧ (input.ends = true ∨ remote.asset mapId kind = none) := by
  simp only [exec] at h
  split at h
  · cases h
  · rename_i hfails
    refine ⟨by simpa using hfails, ?_⟩
    split at h
    · exact Or.inl ‹_›
    · exact Or.inr (Option.map_eq_none_iff.mp (Except.ok.inj h))

end Answers

/-! ## Every permitted call keeps it -/

/-- No stream ends well before the last byte of its asset. -/
def WholeStream (remote : Remote) (phase : MapPhase) (input : MapInput) : MapOp → Prop
  | .message mapId kind => input.fails = false → input.ends = true → ∀ s got content,
      phase = .inside s → s.doing = .streaming kind got → remote.asset mapId kind = some content →
      content.length ≤ got.length
  | _ => True

/-- The remote backend does not say of an animation that it has that there
is none. -/
def TrueNotFound (remote : Remote) (input : MapInput) : MapOp → Prop
  | .openStream mapId kind => input.timesOut = false → input.fails = true →
      kind = .animationGlb → input.status.code = .notFound → remote.asset mapId kind = none
  | _ => True

/-- When a check has found its last file, the others are still there, and
the model does not lack its animation. -/
def FoundWhole (s : MapState) (pendingNow : String → Bool) (phase : MapPhase) : MapOp → Prop
  | .exists file => (s.disk.current file).isSome → ∀ r ∈ phase.found,
      AllFound (file.kind :: r.2) →
      pendingNow r.1 = false ∧ ∀ kind ∈ r.2, (s.disk.current (asset r.1 kind)).isSome
  | _ => True

instance (s : MapState) (pendingNow : String → Bool) (phase : MapPhase) :
    (op : MapOp) → Decidable (FoundWhole s pendingNow phase op)
  | .exists file => inferInstanceAs (Decidable ((s.disk.current file).isSome → ∀ r ∈ phase.found,
      AllFound (file.kind :: r.2) →
      pendingNow r.1 = false ∧ ∀ kind ∈ r.2, (s.disk.current (asset r.1 kind)).isSome))
  | .lock _ | .unlock | .readToken | .fetchToken | .writeToken _ | .getSyncMeta _
  | .openStream .. | .message .. | .write .. | .create _ | .writeAll .. | .flush _
  | .removeFile _ | .rename .. => .isTrue trivial

def MapOp.isLock : MapOp → Bool
  | .lock _ => true
  | _ => false

/-- A lock is given to one thread at a time. -/
def LockFree (s : MapState) (op : MapOp) : Prop := op.isLock = true → s.locked = false

instance (s : MapState) (op : MapOp) : Decidable (LockFree s op) :=
  inferInstanceAs (Decidable (op.isLock = true → s.locked = false))

section Calls

variable {remote : Remote} {s : MapState} {pendingNow : String → Bool} {phases : ℕ → MapPhase}
  {i : ℕ} {input : MapInput}

theorem current_asset_put_tmp (d : Disk CacheFile) (mapId mapId' : String)
    (kind kind' : AssetKind) (v : Option File) :
    (d.put (tmpPathFor (asset mapId' kind')) v).current (asset mapId kind) =
      d.current (asset mapId kind) := Disk.current_put_ne (asset_ne_tmp mapId mapId' kind kind')

theorem current_remove_ne {d : Disk CacheFile} {file other : CacheFile} (hne : other ≠ file) :
    (d.remove file).current other = d.current other :=
  Disk.current_congr (Disk.versions_remove_ne hne)

variable (h : MapInv remote s pendingNow phases)

include h

theorem MapInv.exists {file : CacheFile} (hfile : file.tmp = false)
    (hphase : phases i = .outside ∨ ∃ found, (phases i).found = some (file.mapId, found))
    (hfound : FoundWhole s pendingNow (phases i) (.exists file)) :
    MapInv remote s pendingNow (Function.update phases i
      ((phases i).next (.exists file) (exec remote s (.exists file) input).2)) := by
  have hasset : file = asset file.mapId file.kind := by
    obtain ⟨mapId, kind, tmp⟩ := file
    obtain rfl := hfile
    rfl
  have hlocked : (∃ j sync, j ≠ i ∧ phases j = .inside sync) → s.locked = true := by
    rintro ⟨j, sync, -, hj⟩
    exact h.locked j sync hj
  cases hanswer : (exec remote s (.exists file) input).2 with
  | false =>
      cases hi : phases i with
      | inside sync => exact h.own hi rfl rfl (fun _ _ => rfl) (h.syncs i sync hi)
      | _ => exact h.outside rfl hlocked nofun
  | true =>
      have hsome : (s.disk.current file).isSome := by
        simp only [exec, Bool.and_eq_true] at hanswer
        exact hanswer.2
      cases hi : phases i with
      | outside => exact h.outside rfl hlocked nofun
      | returned mapId => exact h.outside rfl hlocked nofun
      | checking mapId found =>
          refine h.outside rfl hlocked fun sync => ?_
          simp only [MapPhase.next, MapPhase.find]
          split
          · exact nofun
          · exact nofun
      | inside sync =>
          have hmap : file.mapId = sync.mapId := by
            rw [hi] at hphase
            obtain hout | ⟨found, hfound'⟩ := hphase
            · cases hout
            · simp only [MapPhase.found, Option.some.injEq, Prod.mk.injEq] at hfound'
              exact hfound'.1.symm
          have hinv := h.syncs i sync hi
          refine h.own hi rfl rfl (fun _ _ => rfl) ⟨fun kind hkind => ?_, fun hleg => ?_,
            fun hleg => ?_, hinv.syncMeta, hinv.doing⟩
          · rcases List.mem_cons.mp hkind with rfl | hkind
            · rw [hasset, hmap] at hsome
              exact hsome
            · exact hinv.installed kind hkind
          · by_cases hall : AllFound (file.kind :: sync.installed)
            · simp [hall] at hleg
            · simp only [hall, if_false] at hleg
              exact hinv.running hleg
          · by_cases hall : AllFound (file.kind :: sync.installed)
            · exact (hfound hsome (sync.mapId, sync.installed) (by rw [hi]; rfl) hall).1
            · simp only [hall, if_false] at hleg
              exact hinv.settled hleg

theorem MapInv.message {mapId : String} {kind : AssetKind} {sync : Sync} {got : List UInt8}
    (hphase : phases i = .inside sync) (hmap : sync.mapId = mapId)
    (hdoing : sync.doing = .streaming kind got)
    (hwhole : WholeStream remote (phases i) input (.message mapId kind)) :
    MapInv remote s pendingNow (Function.update phases i
      ((phases i).next (.message mapId kind) (exec remote s (.message mapId kind) input).2)) := by
  have hinv := h.syncs i sync hphase
  have hhand := hinv.doing
  rw [hdoing] at hhand
  obtain ⟨htmp, content, hcontent, hgot⟩ := hhand
  cases hanswer : (exec remote s (.message mapId kind) input).2 with
  | error e =>
      rw [hphase]
      exact h.own hphase rfl rfl (fun _ _ => rfl) hinv
  | ok message =>
      cases message with
      | none =>
          have hnext : (phases i).next (.message mapId kind) (.ok none) =
              .inside { sync with doing := .staged kind got } := by
            simp [hphase, MapPhase.next, MapPhase.modify, Sync.messageCame, hdoing]
          rw [hnext]
          refine h.own hphase rfl rfl (fun _ _ => rfl) (hinv.doing_eq (fun _ => rfl) ⟨htmp, ?_⟩)
          obtain ⟨hfails, hends | hnone⟩ := message_eq_none hanswer
          · have hlength := hwhole hfails hends sync got content hphase hdoing (hmap ▸ hcontent)
            rw [hcontent, hgot, List.take_of_length_le hlength]
          · rw [← hmap, hcontent] at hnone
            cases hnone
      | some chunk =>
          have hnext : (phases i).next (.message mapId kind) (.ok (some chunk)) =
              .inside { sync with doing := .received kind got chunk } := by
            simp [hphase, MapPhase.next, MapPhase.modify, Sync.messageCame, hdoing]
          rw [hnext]
          obtain ⟨content', hcontent', rfl⟩ := message_eq_some hanswer
          obtain rfl : content = content' := by
            rw [← hmap, hcontent] at hcontent'
            exact Option.some.inj hcontent'
          exact h.own hphase rfl rfl (fun _ _ => rfl) (hinv.doing_eq (fun _ => rfl)
            ⟨htmp, content, hcontent, fun hoffset => chunkOf_spec hgot hoffset⟩)

theorem MapInv.writeAll {sync : Sync} {kind : AssetKind} {got : List UInt8} {chunk : GlbChunk}
    (hphase : phases i = .inside sync) (hdoing : sync.doing = .received kind got chunk)
    (hoffset : chunk.offset = got.length) :
    MapInv remote (exec remote s (.writeAll (tmpPathFor (asset sync.mapId kind)) chunk.data) input).1
      pendingNow (Function.update phases i
        ((phases i).next (.writeAll (tmpPathFor (asset sync.mapId kind)) chunk.data)
          (ioResult input))) := by
  have hinv := h.syncs i sync hphase
  have hhand := hinv.doing
  rw [hdoing] at hhand
  obtain ⟨htmp, content, hcontent, hchunk⟩ := hhand
  obtain ⟨hsofar, heof⟩ := hchunk hoffset
  obtain ⟨f, hf, hfcontent⟩ := Option.map_eq_some_iff.mp htmp
  have happend : ∀ bytes, s.disk.append (tmpPathFor (asset sync.mapId kind)) bytes input.now =
      s.disk.put (tmpPathFor (asset sync.mapId kind)) (some ⟨f.content ++ bytes, input.now⟩) := by
    intro bytes
    rw [Disk.append, hf]
  simp only [exec, happend]
  cases hresult : ioResult input with
  | error e =>
      rw [hphase]
      exact h.own hphase rfl rfl (fun _ _ => current_asset_put_tmp ..)
        (hinv.doing_eq (fun _ => current_asset_put_tmp ..) trivial)
  | ok _ =>
      have hfails := fails_of_ok hresult
      rw [hfails]
      have hfile : ((s.disk.put (tmpPathFor (asset sync.mapId kind))
          (some ⟨f.content ++ chunk.data, input.now⟩)).current
            (tmpPathFor (asset sync.mapId kind))).map File.content = some (got ++ chunk.data) := by
        rw [Disk.current_put_self, Option.map_some, hfcontent]
      cases hlast : chunk.eof with
      | true =>
          have hnext : (phases i).next (.writeAll (tmpPathFor (asset sync.mapId kind)) chunk.data)
              (.ok ()) = .inside { sync with doing := .staged kind (got ++ chunk.data) } := by
            simp [hphase, MapPhase.next, MapPhase.modify, Sync.chunkWritten, hdoing, hlast]
          rw [hnext]
          exact h.own hphase rfl rfl (fun _ _ => current_asset_put_tmp ..)
            (hinv.doing_eq (fun _ => current_asset_put_tmp ..)
              ⟨hfile, by rw [hcontent, heof hlast]⟩)
      | false =>
          have hnext : (phases i).next (.writeAll (tmpPathFor (asset sync.mapId kind)) chunk.data)
              (.ok ()) = .inside { sync with doing := .streaming kind (got ++ chunk.data) } := by
            simp [hphase, MapPhase.next, MapPhase.modify, Sync.chunkWritten, hdoing, hlast]
          rw [hnext]
          exact h.own hphase rfl rfl (fun _ _ => current_asset_put_tmp ..)
            (hinv.doing_eq (fun _ => current_asset_put_tmp ..) ⟨hfile, content, hcontent, hsofar⟩)

theorem MapInv.write {sync : Sync} {kind : AssetKind} {r : RemoteMap} {bytes : List UInt8}
    (hphase : phases i = .inside sync) (hmeta : sync.syncMeta = some r)
    (hbytes : r.asset kind = some bytes) :
    MapInv remote (exec remote s (.write (tmpPathFor (asset sync.mapId kind)) bytes) input).1
      pendingNow (Function.update phases i
        ((phases i).next (.write (tmpPathFor (asset sync.mapId kind)) bytes)
          (ioResult input))) := by
  have hinv := h.syncs i sync hphase
  have happend : ∀ written, Disk.append
      (s.disk.create (tmpPathFor (asset sync.mapId kind)) input.now)
        (tmpPathFor (asset sync.mapId kind)) written input.now =
      (s.disk.put (tmpPathFor (asset sync.mapId kind)) (some ⟨[], input.now⟩)).put
        (tmpPathFor (asset sync.mapId kind)) (some ⟨written, input.now⟩) := by
    intro written
    rw [Disk.create, Disk.append, Disk.current_put_self]
    rfl
  have hfiles : ∀ written mapId k, Disk.current
      ((s.disk.put (tmpPathFor (asset sync.mapId kind)) (some ⟨[], input.now⟩)).put
        (tmpPathFor (asset sync.mapId kind)) (some ⟨written, input.now⟩)) (asset mapId k) =
      s.disk.current (asset mapId k) := by
    intro written mapId k
    rw [current_asset_put_tmp, current_asset_put_tmp]
  simp only [exec, happend]
  cases hresult : ioResult input with
  | error e =>
      rw [hphase]
      exact h.own hphase rfl rfl (fun _ _ => hfiles _ _ _)
        (hinv.doing_eq (fun _ => hfiles _ _ _) trivial)
  | ok _ =>
      have hfails := fails_of_ok hresult
      rw [hfails, hphase]
      refine h.own hphase rfl rfl (fun _ _ => hfiles _ _ _)
        (hinv.doing_eq (fun _ => hfiles _ _ _) (?_ : Holds _ _ _ (Doing.staged kind bytes)))
      constructor
      · rw [Disk.current_put_self]
        rfl
      · rw [Remote.asset, hinv.syncMeta r hmeta]
        exact hbytes

theorem MapInv.openStream {mapId : String} {kind : AssetKind} {sync : Sync}
    (hphase : phases i = .inside sync) (hmap : sync.mapId = mapId)
    (hnotFound : TrueNotFound remote input (.openStream mapId kind))
    {pendingNext : String → Bool}
    (hpending : ∀ m, pendingNext m =
      ((animationEvent m ⟨i, .openStream mapId kind,
        (exec remote s (.openStream mapId kind) input).2⟩).getD (pendingNow m))) :
    MapInv remote s pendingNext (Function.update phases i
      ((phases i).next (.openStream mapId kind)
        (exec remote s (.openStream mapId kind) input).2)) := by
  subst hmap
  have hinv := h.syncs i sync hphase
  have hsame : ∀ reply : Reply Unit,
      (∀ m, pendingNext m = (animationEvent m ⟨i, .openStream sync.mapId kind, reply⟩).getD
        (pendingNow m)) →
      (∀ status, reply = .refused status → ¬ (kind = .animationGlb ∧ status.code = .notFound)) →
      pendingNext = pendingNow := by
    intro reply hreply hrefused
    funext m
    rw [hreply m]
    cases reply with
    | refused status =>
        have hne := hrefused status rfl
        have hevent : ¬ (sync.mapId = m ∧ kind = .animationGlb ∧ status.code = .notFound) :=
          fun hall => hne hall.2
        rw [animationEvent, if_neg hevent]
        rfl
    | _ => rfl
  cases hanswer : (exec remote s (.openStream sync.mapId kind) input).2 with
  | timedOut =>
      rw [hanswer] at hpending
      obtain rfl := hsame _ hpending fun _ h => by cases h
      rw [hphase]
      exact h.own hphase rfl rfl (fun _ _ => rfl) hinv
  | ok _ =>
      rw [hanswer] at hpending
      obtain rfl := hsame _ hpending fun _ h => by cases h
      rw [hphase]
      have hoffered := reply_eq_ok hanswer
      obtain ⟨content, hcontent, -⟩ := Option.map_eq_some_iff.mp hoffered
      refine h.own hphase rfl rfl (fun _ _ => rfl)
        (hinv.doing_eq (fun _ => rfl) (?_ : Holds _ _ _ (Doing.opened kind)))
      rw [Holds, hcontent]
      rfl
  | refused status =>
      rw [hanswer] at hpending
      by_cases habsent : kind = .animationGlb ∧ status.code = .notFound
      · -- there is no animation
        obtain ⟨rfl, hcode⟩ := habsent
        have hnone : remote.asset sync.mapId .animationGlb = none := by
          simp only [exec, MapInput.reply] at hanswer
          split at hanswer
          · cases hanswer
          · rename_i htimes
            split at hanswer
            · rename_i hfails
              obtain rfl := Reply.refused.inj hanswer
              exact hnotFound (by simpa using htimes) hfails rfl hcode
            · cases hasset : remote.asset sync.mapId .animationGlb with
              | none => rfl
              | some content =>
                  rw [hasset] at hanswer
                  cases hanswer
        have hnext : (phases i).next (.openStream sync.mapId .animationGlb) (.refused status) =
            .inside { sync with leg := .settled } := by
          simp [hphase, MapPhase.next, MapPhase.modify, Sync.streamOpened, hcode]
        rw [hnext]
        refine h.inside hphase rfl rfl (fun m hm => ⟨?_, fun _ => rfl⟩) ?_
          (fun kind f => h.exact sync.mapId kind f) fun _ _ hoffered => ?_
        · rw [hpending m, animationEvent, if_neg fun hall => hm hall.1.symm]
          rfl
        · have hsettled : pendingNext sync.mapId = false := by
            rw [hpending, animationEvent, if_pos ⟨rfl, rfl, hcode⟩]
            rfl
          exact ⟨hinv.installed, (fun h => by cases h), fun _ => hsettled, hinv.syncMeta, hinv.doing⟩
        · rw [hnone] at hoffered
          cases hoffered
      · obtain rfl := hsame _ hpending fun other hother => by
          obtain rfl := Reply.refused.inj hother
          exact habsent
        have hnext : (phases i).next (.openStream sync.mapId kind) (.refused status) =
            .inside sync := by
          simp [hphase, MapPhase.next, MapPhase.modify, Sync.streamOpened, habsent]
        rw [hnext]
        exact h.own hphase rfl rfl (fun _ _ => rfl) hinv

theorem MapInv.removeFile {sync : Sync} {kind : AssetKind} {bytes : List UInt8}
    (hphase : phases i = .inside sync) (hdoing : sync.doing = .staged kind bytes)
    (hleg : kind = .animationGlb → sync.leg = .running) :
    MapInv remote (exec remote s (.removeFile (asset sync.mapId kind)) input).1 pendingNow
      (Function.update phases i ((phases i).next (.removeFile (asset sync.mapId kind)) ())) := by
  have hinv := h.syncs i sync hphase
  have hhand := hinv.doing
  rw [hdoing] at hhand
  have hnext : (phases i).next (.removeFile (asset sync.mapId kind)) () =
      .inside { sync with installed := sync.installed.filter (· ≠ kind) } := by
    rw [hphase]
    rfl
  rw [hnext]
  simp only [exec]
  split
  · refine h.own hphase rfl rfl (fun _ _ => rfl) ⟨fun k hk => ?_, hinv.running, hinv.settled,
      hinv.syncMeta, hinv.doing⟩
    exact hinv.installed k (List.mem_filter.mp hk).1
  · have hfile : ∀ file, file ≠ asset sync.mapId kind →
        (s.disk.remove (asset sync.mapId kind)).current file = s.disk.current file :=
      fun _ hne => current_remove_ne hne
    have hgone : (s.disk.remove (asset sync.mapId kind)).current (asset sync.mapId kind) = none := by
      unfold Disk.remove
      split
      · exact Disk.current_put_self
      · simpa using ‹¬ (s.disk.current (asset sync.mapId kind)).isSome = true›
    refine h.inside hphase rfl rfl (fun m hm => ⟨rfl, fun k => hfile _ fun heq =>
      hm (asset_injective heq).1⟩) ?_ (fun k f hf => ?_) fun hpending hmain hoffered => ?_
    · refine ⟨fun k hk => ?_, hinv.running, hinv.settled, hinv.syncMeta, ?_⟩
      · obtain ⟨hk, hne⟩ := List.mem_filter.mp hk
        have hne' : k ≠ kind := by simpa using hne
        change ((s.disk.remove (asset sync.mapId kind)).current (asset sync.mapId k)).isSome
        rw [hfile _ fun heq => hne' (asset_injective heq).2]
        exact hinv.installed k hk
      · change Holds remote (s.disk.remove (asset sync.mapId kind)) sync.mapId sync.doing
        rw [hdoing]
        refine ⟨?_, hhand.2⟩
        rw [hfile _ (Ne.symm (asset_ne_tmp sync.mapId sync.mapId kind kind))]
        exact hhand.1
    · change (s.disk.remove (asset sync.mapId kind)).current (asset sync.mapId k) = some f at hf
      by_cases hk : k = kind
      · rw [hk, hgone] at hf
        cases hf
      · rw [hfile _ fun heq => hk (asset_injective heq).2] at hf
        exact h.exact sync.mapId k f hf
    · change ((s.disk.remove (asset sync.mapId kind)).current
        (asset sync.mapId .animationGlb)).isSome
      change ((s.disk.remove (asset sync.mapId kind)).current
        (asset sync.mapId .mainGlb)).isSome at hmain
      by_cases hanim : kind = .animationGlb
      · rw [hinv.running (hleg hanim)] at hpending
        cases hpending
      · rw [hfile _ fun heq => hanim (asset_injective heq).2.symm]
        by_cases hmainKind : kind = .mainGlb
        · rw [hmainKind] at hgone hmain
          rw [hgone] at hmain
          cases hmain
        · rw [hfile _ fun heq => hmainKind (asset_injective heq).2.symm] at hmain
          exact h.animation sync.mapId hpending hmain hoffered

theorem MapInv.rename {sync : Sync} {kind : AssetKind} {bytes : List UInt8}
    (hphase : phases i = .inside sync) (hdoing : sync.doing = .staged kind bytes)
    {pendingNext : String → Bool}
    (hpending : ∀ m, pendingNext m = ((animationEvent m
      ⟨i, .rename (tmpPathFor (asset sync.mapId kind)) (asset sync.mapId kind),
        ioResult input⟩).getD (pendingNow m))) :
    MapInv remote (exec remote s
        (.rename (tmpPathFor (asset sync.mapId kind)) (asset sync.mapId kind)) input).1 pendingNext
      (Function.update phases i ((phases i).next
        (.rename (tmpPathFor (asset sync.mapId kind)) (asset sync.mapId kind))
          (ioResult input))) := by
  have hinv := h.syncs i sync hphase
  have hhand := hinv.doing
  rw [hdoing] at hhand
  obtain ⟨f, hf, hcontent⟩ := Option.map_eq_some_iff.mp hhand.1
  cases hresult : ioResult input with
  | error e =>
      have hfails : input.fails = true := by
        unfold ioResult at hresult
        split at hresult
        · assumption
        · cases hresult
      rw [hresult] at hpending
      obtain rfl : pendingNext = pendingNow := funext fun m => hpending m
      simp only [exec, hfails, if_true]
      rw [hphase]
      exact h.own hphase rfl rfl (fun _ _ => rfl) (hinv.doing_eq (fun _ => rfl) trivial)
  | ok _ =>
      have hfails := fails_of_ok hresult
      rw [hresult] at hpending
      have hnext : (phases i).next
          (.rename (tmpPathFor (asset sync.mapId kind)) (asset sync.mapId kind)) (.ok ()) =
            .inside (sync.install kind) := by
        simp [hphase, MapPhase.next, MapPhase.modify, Sync.renamed, hdoing]
      rw [hnext]
      simp only [exec, hfails]
      have hfile : ∀ file, file ≠ asset sync.mapId kind → file.tmp = false →
          (s.disk.rename (tmpPathFor (asset sync.mapId kind)) (asset sync.mapId kind)).current
            file = s.disk.current file := by
        intro file hne htmp
        refine Disk.current_congr (Disk.versions_rename_ne ?_ hne)
        rintro rfl
        cases htmp
      have hplaced : (s.disk.rename (tmpPathFor (asset sync.mapId kind))
          (asset sync.mapId kind)).current (asset sync.mapId kind) = some f :=
        Disk.current_rename hf (Ne.symm (asset_ne_tmp sync.mapId sync.mapId kind kind))
      have hpendingSync : pendingNext sync.mapId =
          if kind = .mainGlb then true else if kind = .animationGlb then false
            else pendingNow sync.mapId := by
        rw [hpending]
        cases kind <;> simp [animationEvent, asset]
      refine h.inside hphase rfl rfl (fun m hm => ⟨?_, fun k => ?_⟩) ⟨fun k hk => ?_, fun hleg => ?_,
        fun hleg => ?_, hinv.syncMeta, trivial⟩ (fun k g hg => ?_) fun hpend hmain hoffered => ?_
      · have hne : ∀ k, asset sync.mapId kind ≠ asset m k := fun k heq =>
          hm (asset_injective heq).1.symm
        rw [hpending, animationEvent, if_neg (hne _), if_neg (hne _)]
        rfl
      · exact hfile _ (fun heq => hm (asset_injective heq).1) rfl
      · change ((s.disk.rename (tmpPathFor (asset sync.mapId kind))
          (asset sync.mapId kind)).current (asset sync.mapId k)).isSome
        by_cases hkind : k = kind
        · rw [hkind, hplaced]
          rfl
        · rw [hfile _ (fun heq => hkind (asset_injective heq).2) rfl]
          exact hinv.installed k ((List.mem_cons.mp hk).resolve_left hkind)
      · rw [hpendingSync]
        cases kind with
        | mainGlb => rfl
        | animationGlb => cases hleg
        | _ => exact hinv.running hleg
      · rw [hpendingSync]
        cases kind with
        | mainGlb => cases hleg
        | animationGlb => rfl
        | _ => exact hinv.settled hleg
      · change (s.disk.rename (tmpPathFor (asset sync.mapId kind))
          (asset sync.mapId kind)).current (asset sync.mapId k) = some g at hg
        by_cases hkind : k = kind
        · rw [hkind, hplaced] at hg
          obtain rfl := Option.some.inj hg
          rw [hkind, hhand.2, hcontent]
        · rw [hfile _ (fun heq => hkind (asset_injective heq).2) rfl] at hg
          exact h.exact sync.mapId k g hg
      · change ((s.disk.rename (tmpPathFor (asset sync.mapId kind))
          (asset sync.mapId kind)).current (asset sync.mapId .animationGlb)).isSome
        change ((s.disk.rename (tmpPathFor (asset sync.mapId kind))
          (asset sync.mapId kind)).current (asset sync.mapId .mainGlb)).isSome at hmain
        rw [hpendingSync] at hpend
        by_cases hmainKind : kind = .mainGlb
        · rw [if_pos hmainKind] at hpend
          cases hpend
        · by_cases hanim : kind = .animationGlb
          · rw [← hanim, hplaced]
            rfl
          · rw [if_neg hmainKind, if_neg hanim] at hpend
            rw [hfile _ (fun heq => hmainKind (asset_injective heq).2.symm) rfl] at hmain
            rw [hfile _ (fun heq => hanim (asset_injective heq).2.symm) rfl]
            exact h.animation sync.mapId hpend hmain hoffered

end Calls

section Runs

abbrev MapPool := Pool MapState MapOp MapOp.Answer (String × SyncOutcome)

def phases (w : MapWorld) (i : ℕ) : MapPhase := mapProtocol.stageOf i w.log

def Pending (w : MapWorld) (mapId : String) : Bool := pending mapId w.log

theorem phases_perform (remote : Remote) (w : MapWorld) (i : ℕ) (op : MapOp) (input : MapInput) :
    phases (w.perform (exec remote) i op input) = Function.update (phases w) i
      ((phases w i).next op (exec remote w.shared op input).2) := by
  funext j
  by_cases hj : j = i
  · subst hj
    rw [Function.update_self]
    exact Protocol.stageOf_perform_self (exec remote) _ w j op input
  · rw [Function.update_of_ne hj]
    exact Protocol.stageOf_perform_ne (exec remote) _ w hj op input

variable {remote : Remote} {w : MapWorld} {i : ℕ} {op : MapOp} {input : MapInput}

/-- The invariant of a world. -/
def WorldInv (remote : Remote) (w : MapWorld) : Prop :=
  MapInv remote w.shared (Pending w) (phases w)

/-- The calls that say nothing of animations. -/
theorem WorldInv.of_quiet
    (h : MapInv remote (exec remote w.shared op input).1 (Pending w)
      (Function.update (phases w) i
        ((phases w i).next op (exec remote w.shared op input).2)))
    (hevent : ∀ mapId, animationEvent mapId ⟨i, op, (exec remote w.shared op input).2⟩ = none) :
    WorldInv remote (w.perform (exec remote) i op input) := by
  have hpending : Pending (w.perform (exec remote) i op input) = Pending w :=
    funext fun mapId => pending_of_none w.log (hevent mapId)
  rw [WorldInv, hpending, phases_perform]
  exact h

theorem pending_perform (mapId : String) : Pending (w.perform (exec remote) i op input) mapId =
    (animationEvent mapId ⟨i, op, (exec remote w.shared op input).2⟩).getD (Pending w mapId) := by
  cases hevent : animationEvent mapId ⟨i, op, (exec remote w.shared op input).2⟩ with
  | none => exact pending_of_none w.log hevent
  | some b => exact pending_of_event w.log hevent

theorem WorldInv.step (h : WorldInv remote w) (hpermits : Permits (phases w i) op)
    (hfree : LockFree w.shared op) (hwhole : WholeStream remote (phases w i) input op)
    (hnotFound : TrueNotFound remote input op)
    (hfound : FoundWhole w.shared (Pending w) (phases w i) op) :
    WorldInv remote (w.perform (exec remote) i op input) := by
  have hlocked : ∀ s' : MapState, s'.locked = w.shared.locked →
      (∃ j sync, j ≠ i ∧ phases w j = .inside sync) → s'.locked = true := by
    rintro s' hs' ⟨j, sync, -, hj⟩
    rw [hs']
    exact h.locked j sync hj
  -- what neither the files nor the phase depend on
  have hstay : ∀ s' : MapState, s'.disk = w.shared.disk → s'.locked = w.shared.locked →
      MapInv remote s' (Pending w) (Function.update (phases w) i (phases w i)) := by
    intro s' hdisk hs'
    cases hi : phases w i with
    | inside sync =>
        exact h.own hi hs' rfl (fun _ _ => by rw [hdisk]) (hdisk ▸ h.syncs i sync hi)
    | _ => exact h.outside hdisk (hlocked s' hs') nofun
  cases op with
  | lock mapId =>
      refine .of_quiet ?_ fun _ => rfl
      have hnone : ∀ j sync, phases w j ≠ .inside sync := fun j sync hj =>
        absurd (h.locked j sync hj) (by simp [hfree rfl])
      have hupdate : ∀ j sync, Function.update (phases w) i
          (.inside ⟨mapId, [], .unknown, none, .nothing⟩) j = .inside sync →
          j = i ∧ sync = ⟨mapId, [], .unknown, none, .nothing⟩ := by
        intro j sync hj
        by_cases hij : j = i
        · rw [hij, Function.update_self] at hj
          exact ⟨hij, (MapPhase.inside.inj hj).symm⟩
        · rw [Function.update_of_ne hij] at hj
          exact absurd hj (hnone j sync)
      refine ⟨fun _ _ _ => rfl, fun j k sync sync' hj hk => ?_, fun j sync hj => ?_, h.exact,
        h.animation⟩
      · rw [(hupdate j sync hj).1, (hupdate k sync' hk).1]
      · obtain ⟨-, rfl⟩ := hupdate j sync hj
        exact ⟨nofun, nofun, nofun, nofun, trivial⟩
  | unlock =>
      obtain ⟨sync, hi⟩ := hpermits
      refine .of_quiet ?_ fun _ => rfl
      have hdisk : ({ w.shared with locked := false } : MapState).disk = w.shared.disk := rfl
      refine h.outside hdisk ?_ fun sync' => ?_
      · rintro ⟨j, sync', hne, hj⟩
        exact absurd (h.exclusive j i sync' sync hj hi) hne
      · simp only [hi, MapPhase.next]
        split
        · exact nofun
        · exact nofun
  | «exists» file => exact .of_quiet (h.exists hpermits.1 hpermits.2 hfound) fun _ => rfl
  | readToken => exact .of_quiet (hstay _ rfl rfl) fun _ => rfl
  | fetchToken => exact .of_quiet (hstay _ rfl rfl) fun _ => rfl
  | writeToken token => exact .of_quiet (hstay _ rfl rfl) fun _ => rfl
  | flush file => exact .of_quiet (hstay _ rfl rfl) fun _ => rfl
  | getSyncMeta mapId =>
      obtain ⟨sync, hi, rfl⟩ := hpermits
      refine .of_quiet ?_ fun _ => rfl
      have hinv := h.syncs i sync hi
      cases hanswer : (exec remote w.shared (.getSyncMeta sync.mapId) input).2 with
      | ok r =>
          rw [hi]
          refine h.own hi rfl rfl (fun _ _ => rfl) ⟨hinv.installed, hinv.running, hinv.settled,
            fun r' hr' => ?_, hinv.doing⟩
          obtain rfl := Option.some.inj hr'
          exact reply_eq_ok hanswer
      | _ => exact hstay _ rfl rfl
  | openStream mapId kind =>
      obtain ⟨sync, hi, hmap⟩ := hpermits
      rw [WorldInv, phases_perform]
      exact h.openStream hi hmap hnotFound fun m => pending_perform m
  | message mapId kind =>
      obtain ⟨sync, got, hi, hmap, hdoing⟩ := hpermits
      exact .of_quiet (h.message hi hmap hdoing hwhole) fun _ => rfl
  | write file bytes =>
      obtain ⟨sync, r, kind, hi, rfl, hmeta, hbytes⟩ := hpermits
      exact .of_quiet (h.write hi hmeta hbytes) fun _ => rfl
  | create file =>
      obtain ⟨sync, kind, hi, rfl, hdoing⟩ := hpermits
      refine .of_quiet ?_ fun _ => rfl
      have hinv := h.syncs i sync hi
      have hhand := hinv.doing
      rw [hdoing] at hhand
      cases hfails : input.fails with
      | true =>
          simp only [exec, hfails, if_true]
          have hresult : ioResult input = .error input.error := by rw [ioResult, if_pos hfails]
          rw [hresult]
          exact hstay _ rfl rfl
      | false =>
          have hresult : ioResult input = .ok () := by simp [ioResult, hfails]
          simp only [exec, hfails]
          rw [hresult]
          have hnext : (phases w i).next (.create (tmpPathFor (asset sync.mapId kind))) (.ok ()) =
              .inside { sync with doing := .streaming kind [] } := by
            simp [hi, MapPhase.next, MapPhase.modify, hdoing]
          rw [hnext]
          obtain ⟨content, hcontent⟩ := Option.isSome_iff_exists.mp hhand
          refine h.own hi rfl rfl (fun _ _ => current_asset_put_tmp ..)
            (hinv.doing_eq (fun _ => current_asset_put_tmp ..) ⟨?_, content, hcontent, rfl⟩)
          exact congrArg (Option.map File.content) Disk.current_put_self
  | writeAll file bytes =>
      obtain ⟨sync, kind, got, chunk, hi, rfl, hdoing, rfl, hoffset⟩ := hpermits
      exact .of_quiet (h.writeAll hi hdoing hoffset) fun _ => rfl
  | removeFile file =>
      obtain ⟨sync, kind, bytes, hi, rfl, hdoing, hleg⟩ := hpermits
      exact .of_quiet (h.removeFile hi hdoing hleg) fun _ => rfl
  | rename file target =>
      obtain ⟨sync, kind, bytes, hi, rfl, rfl, hdoing⟩ := hpermits
      rw [WorldInv, phases_perform]
      exact h.rename hi hdoing fun m => pending_perform m

/-! ## Runs -/

/-- The thread's request is answered well with this call, and then there is
a copy of everything the remote backend offers for the map. -/
def ReturnsComplete (remote : Remote) (p : MapPool) (event : ℕ × MapInput) : Prop :=
  ∀ op next rawMapId mapId, p.threads event.1 = .call op next →
    (p.step (exec remote) event).threads event.1 = .ret (rawMapId, .ok) →
    sanitizeMapId rawMapId = .ok mapId →
    Complete remote (p.step (exec remote) event).world.shared.disk mapId

/-- A cached model is replaced by a whole copy only. -/
def ReplacesWhole (remote : Remote) (s : MapState) : MapOp → Prop
  | .removeFile file | .rename _ file => ∃ content,
      remote.asset file.mapId file.kind = some content ∧
        (s.disk.current (tmpPathFor file)).map File.content = some content
  | _ => True

/-- A cache directory in which what is in place is a copy, and no model
lacks its animation. -/
structure Started (remote : Remote) (s : MapState) : Prop where
  unlocked : s.locked = false
  exact : FilesExact remote s.disk
  animation : ∀ mapId, (s.disk.current (asset mapId .mainGlb)).isSome →
    (remote.asset mapId .animationGlb).isSome →
    (s.disk.current (asset mapId .animationGlb)).isSome

/-- The calls of the threads, each with the request that it answers. -/
def mapThreads (cacheDir : String) (calls : ℕ → String × ℕ) : ℕ → MapProg (String × SyncOutcome) :=
  fun i => do
    let outcome ← ensureMapCached cacheDir (calls i).1 (calls i).2
    pure ((calls i).1, outcome)

theorem mapThreads_follows (cacheDir : String) (calls : ℕ → String × ℕ) (i : ℕ) :
    (mapThreads cacheDir calls i).Follows mapProtocol ReturnPost .outside :=
  .andThen (ensureMapCached_follows (calls i).1 (calls i).2) fun _ _ hpost => hpost

theorem Started.inv {s : MapState} (h : Started remote s) : WorldInv remote ⟨s, []⟩ where
  locked _ _ hi := by cases hi
  exclusive _ _ _ _ hi := by cases hi
  syncs _ _ hi := by cases hi
  exact := h.exact
  animation mapId _ := h.animation mapId

theorem MapPhase.returned_of_modify {phase : MapPhase} {f : Sync → Sync} {mapId : String}
    (h : phase.modify f = .returned mapId) : phase = .returned mapId := by
  cases phase with
  | inside sync => cases h
  | _ => exact h

/-- Only a check or the release of the lock ends a call well. -/
theorem MapPhase.returned_of_next {phase : MapPhase} {op : MapOp} {answer : op.Answer}
    {mapId : String} (hexists : ∀ file, op ≠ .exists file) (hunlock : op ≠ .unlock)
    (h : phase.next op answer = .returned mapId) : phase = .returned mapId := by
  cases op with
  | «exists» file => exact absurd rfl (hexists file)
  | unlock => exact absurd rfl hunlock
  | lock => cases h
  | getSyncMeta =>
      cases answer with
      | ok r => exact returned_of_modify h
      | _ => exact h
  | create =>
      cases answer with
      | ok _ => exact returned_of_modify h
      | error e => exact h
  | readToken | fetchToken | writeToken | flush => exact h
  | _ => exact returned_of_modify h

/-- The two calls after which a request is answered well. -/
theorem WorldInv.complete (h : WorldInv remote w) (hpermits : Permits (phases w i) op)
    (hfound : FoundWhole w.shared (Pending w) (phases w i) op)
    (hafter : WorldInv remote (w.perform (exec remote) i op input)) {mapId : String}
    (hreturned : phases (w.perform (exec remote) i op input) i = .returned mapId)
    (hbefore : phases w i ≠ .returned mapId) :
    Complete remote (w.perform (exec remote) i op input).shared.disk mapId := by
  have hcomplete (hdisk : (w.perform (exec remote) i op input).shared.disk = w.shared.disk)
      (hpending : Pending w mapId = false)
      (hrequired : ∀ kind ∈ requiredKinds, (w.shared.disk.current (asset mapId kind)).isSome) :
      Complete remote (w.perform (exec remote) i op input).shared.disk mapId := by
    rw [hdisk]
    exact h.exact.complete hrequired (h.animation mapId hpending (hrequired _ (by decide)))
  rw [phases_perform, Function.update_self] at hreturned
  cases op with
  | «exists» file =>
      cases hi : phases w i with
      | outside =>
          rw [hi] at hreturned
          cases hanswer : (exec remote w.shared (.exists file) input).2 <;>
            rw [hanswer] at hreturned <;> cases hreturned
      | inside sync =>
          rw [hi] at hreturned
          cases hanswer : (exec remote w.shared (.exists file) input).2 <;>
            rw [hanswer] at hreturned <;> cases hreturned
      | returned other =>
          obtain ⟨-, hout | ⟨found, hfound'⟩⟩ := hpermits
          · rw [hi] at hout
            cases hout
          · rw [hi] at hfound'
            cases hfound'
      | checking other found =>
          rw [hi] at hreturned
          cases hanswer : (exec remote w.shared (.exists file) input).2 with
          | false =>
              rw [hanswer] at hreturned
              cases hreturned
          | true =>
              rw [hanswer] at hreturned
              simp only [MapPhase.next, MapPhase.find] at hreturned
              split at hreturned
              · rename_i hall
                obtain rfl := MapPhase.returned.inj hreturned
                have hsome : (w.shared.disk.current file).isSome := by
                  simp only [exec, Bool.and_eq_true] at hanswer
                  exact hanswer.2
                obtain ⟨hpending, hfiles⟩ := hfound hsome (other, found) (by rw [hi]; rfl) hall
                refine hcomplete rfl hpending fun kind hkind => ?_
                obtain rfl | hmem := List.mem_cons.mp (hall kind hkind)
                · have hfile : file = asset other file.kind := by
                    obtain ⟨htmp, hout | ⟨found', hfound'⟩⟩ := hpermits
                    · rw [hi] at hout
                      cases hout
                    · rw [hi] at hfound'
                      simp only [MapPhase.found, Option.some.injEq, Prod.mk.injEq] at hfound'
                      obtain ⟨fileMap, fileKind, fileTmp⟩ := file
                      obtain rfl := htmp
                      obtain rfl := hfound'.1
                      rfl
                  rw [hfile] at hsome
                  exact hsome
                · exact hfiles kind hmem
              · cases hreturned
  | unlock =>
      obtain ⟨sync, hi⟩ := hpermits
      rw [hi] at hreturned
      simp only [MapPhase.next] at hreturned
      split at hreturned
      · rename_i hdone
        obtain rfl := MapPhase.returned.inj hreturned
        have hinv := h.syncs i sync hi
        exact hcomplete rfl (hinv.settled hdone.1) fun kind hkind =>
          hinv.installed kind (hdone.2 kind hkind)
      · cases hreturned
  | _ => exact absurd (MapPhase.returned_of_next (by simp) (by simp) hreturned) hbefore

theorem WorldInv.replacesWhole (h : WorldInv remote w) (hpermits : Permits (phases w i) op) :
    ReplacesWhole remote w.shared op := by
  cases op with
  | removeFile file =>
      obtain ⟨sync, kind, bytes, hi, rfl, hdoing, -⟩ := hpermits
      have hhand := (h.syncs i sync hi).doing
      rw [hdoing] at hhand
      exact ⟨bytes, hhand.2, hhand.1⟩
  | rename file target =>
      obtain ⟨sync, kind, bytes, hi, rfl, rfl, hdoing⟩ := hpermits
      have hhand := (h.syncs i sync hi).doing
      rw [hdoing] at hhand
      exact ⟨bytes, hhand.2, hhand.1⟩
  | _ => trivial

/-- In every run in which no stream ends early without an error, no
animation is denied, and no check succeeds on a map whose files are being
replaced or whose animation is pending, the files in place are copies, a
call that succeeds leaves a complete map, and only whole copies replace
what is there. -/
theorem mapCache_complete {s : MapState} (hstart : Started remote s) {cacheDir : String}
    {calls : ℕ → String × ℕ} {events : List (ℕ × MapInput)}
    (hfree : Along (Pool.Guarded fun w _ op _ => LockFree w.shared op) (Pool.step (exec remote))
      (Pool.start s (mapThreads cacheDir calls)) events)
    (hwhole : Along (Pool.Guarded fun w i op input => WholeStream remote (phases w i) input op)
      (Pool.step (exec remote)) (Pool.start s (mapThreads cacheDir calls)) events)
    (hnotFound : Along (Pool.Guarded fun _ _ op input => TrueNotFound remote input op)
      (Pool.step (exec remote)) (Pool.start s (mapThreads cacheDir calls)) events)
    (hfound : Along (Pool.Guarded fun w i op _ =>
        FoundWhole w.shared (Pending w) (phases w i) op)
      (Pool.step (exec remote)) (Pool.start s (mapThreads cacheDir calls)) events) :
    (∀ n, FilesExact remote (stateAt (Pool.step (exec remote))
      (Pool.start s (mapThreads cacheDir calls)) events n).world.shared.disk) ∧
    Along (ReturnsComplete remote) (Pool.step (exec remote))
      (Pool.start s (mapThreads cacheDir calls)) events ∧
    Along (Pool.Guarded fun w _ op _ => ReplacesWhole remote w.shared op)
      (Pool.step (exec remote)) (Pool.start s (mapThreads cacheDir calls)) events := by
  let I : MapPool → Prop := fun p => WorldInv remote p.world ∧ p.Followed mapProtocol ReturnPost
  have hinit : I (Pool.start s (mapThreads cacheDir calls)) :=
    ⟨hstart.inv, mapThreads_follows cacheDir calls⟩
  have hguard := (hfree.and hwhole).and (hnotFound.and hfound)
  have hstep : ∀ (p : MapPool) (event : ℕ × MapInput), I p →
      ((Pool.Guarded (fun w _ op _ => LockFree w.shared op) p event ∧
        Pool.Guarded (fun w i op input => WholeStream remote (phases w i) input op) p event) ∧
        Pool.Guarded (fun _ _ op input => TrueNotFound remote input op) p event ∧
        Pool.Guarded (fun w i op _ => FoundWhole w.shared (Pending w) (phases w i) op) p event) →
      I (p.step (exec remote) event) := by
    rintro p ⟨i, input⟩ ⟨hinv, hfollowed⟩ ⟨⟨hfree', hwhole'⟩, hnotFound', hfound'⟩
    refine ⟨?_, hfollowed.step _⟩
    have hi := hfollowed i
    rw [Pool.Guarded] at hfree' hwhole' hnotFound' hfound'
    rw [Pool.step]
    cases hprog : p.threads i with
    | ret r => exact hinv
    | call op next =>
        rw [hprog] at hi hfree' hwhole' hnotFound' hfound'
        exact hinv.step hi.1 hfree' hwhole' hnotFound' hfound'
  refine ⟨fun n => (hguard.invariant_at hstep hinit n).1.exact, ?_, ?_⟩
  · refine hguard.of_invariant hstep ?_ hinit
    rintro p ⟨i, input⟩ hp hg op next rawMapId mapId hprog hret hmap
    have hafter := hstep p (i, input) hp hg
    obtain ⟨hinv, hfollowed⟩ := hp
    have hi := hfollowed i
    have hpost := hafter.2 i
    have hfound' := hg.2.2
    have hstepped : p.step (exec remote) (i, input) =
        { world := p.world.perform (exec remote) i op input
          threads := Function.update p.threads i
            (next (exec remote p.world.shared op input).2) } := by
      simp only [Pool.step, hprog]
    dsimp only at hprog hret
    rw [Pool.Guarded, hprog] at hfound'
    rw [hprog] at hi
    rw [hret] at hpost
    rw [hstepped] at hpost hafter ⊢
    have hreturned : phases (p.world.perform (exec remote) i op input) i = .returned mapId :=
      hpost rfl mapId hmap
    exact hinv.complete hi.1 hfound' hafter.1 hreturned (Permits.ne_returned hi.1 mapId)
  · refine hguard.of_invariant hstep ?_ hinit
    rintro p ⟨i, input⟩ ⟨hinv, hfollowed⟩ -
    have hi := hfollowed i
    unfold Pool.Guarded
    cases hprog : p.threads i with
    | ret r => trivial
    | call op next =>
        rw [hprog] at hi
        exact hinv.replacesWhole hi.1

end Runs

/-! ### A map with an animation -/

namespace Forest

def forest : RemoteMap where
  mapId := "forest"
  minimapSvg := [1]
  mainMetadataJson := [2]
  minimapMetadataJson := [3]
  mainGlb := some [4, 4, 4, 4]
  animationGlb := some [5, 5]

def remote : Remote := fun mapId => if mapId = "forest" then some forest else none

def start : MapState := ⟨Disk.empty, none, false⟩

/-- Every request is answered, and every asset comes in one message. -/
def works : MapInput where
  fails := false
  timesOut := false
  status := ⟨.unavailable, ""⟩
  error := ""
  kept := 0
  ends := false
  offset := 0
  length := 8
  eof := true
  token := "token"
  now := 0

def calls : ℕ → String × ℕ := fun _ => ("forest", 4)

def threads : ℕ → MapProg (String × SyncOutcome) := mapThreads "maps" calls

/-- The first call copies the map, the second one finds it. -/
def inOrder : List (ℕ × MapInput) := List.replicate 33 (0, works) ++ List.replicate 4 (1, works)

def run (events : List (ℕ × MapInput)) : MapPool :=
  events.foldl (Pool.step (exec remote)) (Pool.start start threads)

theorem started : Started remote start where
  unlocked := rfl
  exact _ _ _ hf := by cases hf
  animation _ hmain := by cases hmain

/-- What holds of every event holds along the run. -/
theorem along_works {P : MapPool → ℕ × MapInput → Prop}
    (h : ∀ p event, event.2 = works → P p event) :
    Along P (Pool.step (exec remote)) (Pool.start start threads) inOrder := by
  have hworks : ∀ event ∈ inOrder, event.2 = works := by
    intro event hevent
    simp only [inOrder, List.mem_append, List.mem_replicate] at hevent
    rcases hevent with ⟨-, rfl⟩ | ⟨-, rfl⟩
    · rfl
    · rfl
  have htrue : Along (fun _ _ => True) (Pool.step (exec remote)) (Pool.start start threads)
      inOrder := along_of_forall fun _ _ => trivial
  exact (htrue.and_mem hworks).mono fun p event hevent => h p event hevent.1

theorem wholeStream : Along (Pool.Guarded fun w i op input =>
      WholeStream remote (phases w i) input op) (Pool.step (exec remote))
    (Pool.start start threads) inOrder := by
  refine along_works ?_
  rintro p ⟨i, input⟩ rfl
  unfold Pool.Guarded
  split
  · trivial
  · rename_i op next hprog
    cases op with
    | message mapId kind => exact fun _ hends => Bool.noConfusion hends
    | _ => trivial

theorem trueNotFound : Along (Pool.Guarded fun _ _ op input => TrueNotFound remote input op)
    (Pool.step (exec remote)) (Pool.start start threads) inOrder := by
  refine along_works ?_
  rintro p ⟨i, input⟩ rfl
  unfold Pool.Guarded
  split
  · trivial
  · rename_i op next hprog
    cases op with
    | openStream mapId kind => exact fun _ hfails => Bool.noConfusion hfails
    | _ => trivial

/-- Both calls succeed. -/
theorem inOrder_complete :
    (run inOrder).threads 0 = .ret ("forest", .ok) ∧
      (run inOrder).threads 1 = .ret ("forest", .ok) ∧
      (∀ n, FilesExact remote (stateAt (Pool.step (exec remote)) (Pool.start start threads)
        inOrder n).world.shared.disk) ∧
      Along (ReturnsComplete remote) (Pool.step (exec remote)) (Pool.start start threads) inOrder ∧
      Along (Pool.Guarded fun w _ op _ => ReplacesWhole remote w.shared op)
        (Pool.step (exec remote)) (Pool.start start threads) inOrder :=
  ⟨Prog.eq_ret_of_result? (by decide +kernel), Prog.eq_ret_of_result? (by decide +kernel),
    mapCache_complete started (by decide +kernel) wholeStream trueNotFound (by decide +kernel)⟩

/-- The stream of the model ends after two of its bytes. -/
def half : MapInput := { works with length := 2, eof := false }
def ended : MapInput := { works with ends := true }

def cutShort : List (ℕ × MapInput) :=
  List.replicate 19 (0, works) ++ [(0, half), (0, works), (0, ended)] ++
    List.replicate 12 (0, works)

/-- The stream of the animation is refused. -/
def refused : MapInput := { works with fails := true }

def withoutAnimation : List (ℕ × MapInput) :=
  List.replicate 25 (0, works) ++ [(0, refused), (0, works)] ++ List.replicate 4 (1, works)

/-- A call succeeds on half a model, and one without the animation that an
earlier call has not got. -/
theorem forest_not_complete :
    ((run cutShort).threads 0 = .ret ("forest", .ok) ∧
      ¬ FilesExact remote (run cutShort).world.shared.disk) ∧
    ((run withoutAnimation).threads 1 = .ret ("forest", .ok) ∧
      ¬ Complete remote (run withoutAnimation).world.shared.disk "forest") := by
  refine ⟨⟨Prog.eq_ret_of_result? (by decide +kernel), fun h => ?_⟩,
    ⟨Prog.eq_ret_of_result? (by decide +kernel), fun h => ?_⟩⟩
  · have hcut : (run cutShort).world.shared.disk.current (asset "forest" .mainGlb) =
        some ⟨[4, 4], 0⟩ := by decide +kernel
    exact absurd (h "forest" .mainGlb _ hcut) (by decide)
  · have hmissing : (run withoutAnimation).world.shared.disk.current
        (asset "forest" .animationGlb) = none := by decide +kernel
    have hcopy := h .animationGlb [5, 5] (by decide)
    rw [hmissing] at hcopy
    cases hcopy

end Forest

end HackArena.Local.MapAssets
