import HackArena.Local.SandboxConfigRuns

/-!
# Writes of sandbox configurations that do not come to their end

A change is in memory as soon as it is made. Its write comes afterwards and
begins with emptying the file. After a write that fails the change stays in
memory, and after a write that is stopped the file stays empty or cut off.
-/

namespace HackArena.Local.SandboxConfig

open Prog HackArena.Runtime

variable {env : StoreEnv} {me : ℕ}

/-! ## What a request asks for -/

def whenValid (x : Except ConfigStoreError Unit) (change : ℕ × ConfigChange) :
    Option (ℕ × ConfigChange) :=
  if x.isOk then some change else none

/-- The change that a request makes if it gets to it. -/
def StoreRequest.change? (env : StoreEnv) : StoreRequest → Option (ℕ × ConfigChange)
  | .create | .getSnapshot => none
  | .createConfig expectedRevision sandbox =>
      whenValid (validateLocalSandboxConfigInput env.build sandbox.config)
        (expectedRevision, .create sandbox)
  | .updateConfig expectedRevision sandbox =>
      whenValid (validateLocalSandboxConfigInput env.build sandbox.config)
        (expectedRevision, .replace sandbox)
  | .deleteConfig expectedRevision sandboxId => some (expectedRevision, .delete sandboxId)
  | .updateTimeOfDay expectedRevision sandboxId timeOfDay =>
      some (expectedRevision, .setTimeOfDay sandboxId timeOfDay)
  | .updateWeather expectedRevision sandboxId weather =>
      whenValid (validateLocalWeatherSettings weather)
        (expectedRevision, .setWeather sandboxId weather)
  | .updateSpawnMode expectedRevision sandboxId spawnMode =>
      some (expectedRevision, .setSpawnMode sandboxId spawnMode)

/-- The state that the request leaves in memory. -/
def StoreRequest.after (env : StoreEnv) (request : StoreRequest) (s : LocalSandboxConfigState) :
    LocalSandboxConfigState :=
  (request.change? env).elim s fun change => (s.change change.1 change.2).1

/-- The request is the commit of its change, or makes none: it writes the
state as it is, or writes nothing. -/
theorem request_cases (env : StoreEnv) (me : ℕ) (request : StoreRequest) :
    (∃ expectedRevision c, request.change? env = some (expectedRevision, c) ∧
      request.run env me = commit env me expectedRevision c) ∨
    (request.change? env = none ∧ request = .create) ∨
    (request.change? env = none ∧ (request.run env me).run.Uses (· = .getSnapshot)) := by
  have hcheck : ∀ (x : Except ConfigStoreError Unit) (expectedRevision : ℕ) (c : ConfigChange),
      (∃ expectedRevision' c', whenValid x (expectedRevision, c) = some (expectedRevision', c') ∧
        (do check x; commit env me expectedRevision c) = commit env me expectedRevision' c') ∨
      (whenValid x (expectedRevision, c) = none ∧
        (do check x; commit env me expectedRevision c : StoreCall StoreAnswer).run.Uses
          (· = .getSnapshot)) := by
    intro x expectedRevision c
    cases x with
    | ok u => exact .inl ⟨_, _, rfl, rfl⟩
    | error err => exact .inr ⟨rfl, trivial⟩
  cases request with
  | create => exact .inr (.inl ⟨rfl, rfl⟩)
  | getSnapshot => exact .inr (.inr ⟨rfl, rfl, fun _ => trivial⟩)
  | createConfig expectedRevision sandbox => exact (hcheck _ _ _).imp_right .inr
  | updateConfig expectedRevision sandbox => exact (hcheck _ _ _).imp_right .inr
  | deleteConfig expectedRevision sandboxId => exact .inl ⟨_, _, rfl, rfl⟩
  | updateTimeOfDay expectedRevision sandboxId timeOfDay => exact .inl ⟨_, _, rfl, rfl⟩
  | updateWeather expectedRevision sandboxId weather => exact (hcheck _ _ _).imp_right .inr
  | updateSpawnMode expectedRevision sandboxId spawnMode => exact .inl ⟨_, _, rfl, rfl⟩

theorem after_eq_change {request : StoreRequest} {expectedRevision : ℕ} {c : ConfigChange}
    (h : request.change? env = some (expectedRevision, c)) (s : LocalSandboxConfigState) :
    request.after env s = (s.change expectedRevision c).1 := by
  rw [StoreRequest.after, h]
  rfl

theorem after_eq_self {request : StoreRequest} (h : request.change? env = none)
    (s : LocalSandboxConfigState) : request.after env s = s := by
  rw [StoreRequest.after, h]
  rfl

/-! ## Writes that fail -/

/-- Everything but a change leaves the state in memory. -/
def StoreOp.Keeps (op : StoreOp) : Prop :=
  ∀ (s : StoreState) (input : StoreInput), (storeExec s op input).1.state = s.state

theorem keeps_getSnapshot : StoreOp.getSnapshot.Keeps := fun _ _ => rfl

theorem keeps_openFile : StoreOp.openFile.Keeps := by
  intro s input
  simp only [storeExec]
  split <;> rfl

theorem keeps_write (chunk : List UInt8) (offset : ℕ) : (StoreOp.write chunk offset).Keeps := by
  intro s input
  simp only [storeExec]
  split <;> rfl

theorem writeAll_keeps (raw : List UInt8) (calls offset : ℕ) :
    (writeAll raw calls offset).Uses StoreOp.Keeps := by
  induction calls generalizing offset with
  | zero => trivial
  | succ calls ih =>
      unfold writeAll
      split
      · trivial
      · refine .call (keeps_write _ _) fun answer => ?_
        cases answer with
        | error message => trivial
        | ok count =>
          cases count with
          | zero => trivial
          | succ count => exact ih _

theorem writeFile_keeps (raw : List UInt8) : (writeFile raw).run.Uses StoreOp.Keeps :=
  .bindExcept (.orFail ⟨keeps_openFile, fun _ => trivial⟩) fun _ =>
    .orFail (writeAll_keeps raw raw.length 0)

theorem persistState_keeps (s : LocalSandboxConfigState) :
    (persistState env s).run.Uses StoreOp.Keeps := by
  unfold persistState
  split
  · trivial
  · split
    · exact .bindExcept (.orFail ⟨fun _ _ => rfl, fun _ => trivial⟩) fun _ => writeFile_keeps _
    · exact writeFile_keeps _

theorem persist_keeps : (persist env me).run.Uses StoreOp.Keeps := by
  refine .bindExcept (.lift ⟨fun _ _ => rfl, fun _ => trivial⟩) fun s => ?_
  refine .bindExcept (.lift (persistState_keeps s)) fun result => ?_
  exact .bindExcept (.lift ⟨fun _ _ => rfl, fun _ => trivial⟩) fun _ => trivial

theorem persist_return_keeps (answer : StoreAnswer) :
    (do persist env me; return answer : StoreCall StoreAnswer).run.Uses StoreOp.Keeps :=
  .bindExcept persist_keeps fun _ => trivial

theorem Uses.state {α : Type} {p : StoreProg α} (h : p.Uses StoreOp.Keeps)
    {state : LocalSandboxConfigState} {s : StoreState} (hs : s.state = state) :
    p.Ensures storeExec (fun _ t => t.state = state) s :=
  h.ensures (fun _ hop t input ht => (hop t input).trans ht) hs

/-- However a request ends, its change stays. -/
theorem request_state (request : StoreRequest) (s : StoreState) :
    (request.run env me).run.Ensures storeExec
      (fun _ t => t.state = request.after env s.state) s := by
  obtain ⟨expectedRevision, c, hchange, hrun⟩ | ⟨hnone, rfl⟩ | ⟨hnone, huses⟩ :=
    request_cases env me request
  · rw [hrun, after_eq_change hchange]
    refine .bindExcept (.orFail fun input => ?_)
    simp only [storeExec]
    cases (s.state.change expectedRevision c).2 with
    | error err => exact rfl
    | ok revision => exact Uses.state (persist_return_keeps _) rfl
  · rw [after_eq_self hnone]
    exact Uses.state (persist_return_keeps _) rfl
  · rw [after_eq_self hnone]
    exact Uses.state (huses.mono fun op hop => hop ▸ keeps_getSnapshot) rfl

/-- The calls that can fail are those on the file. -/
def FileCallSucceeds (_ : StoreState) : StoreOp → StoreInput → Prop
  | .createDirAll, i | .openFile, i | .write .., i => i.fails = false
  | _, _ => True

section Succeeding

variable {G : StoreState → StoreOp → StoreInput → Prop} {s : LocalSandboxConfigState}
  {raw : List UInt8}

theorem createDirAll_decides (t : StoreState) :
    StoreOp.createDirAll.call.Decides storeExec G FileCallSucceeds Succeeds t := by
  refine decides_perform fun input _ => ?_
  simp only [storeExec, FileCallSucceeds]
  cases input.fails with
  | true => exact iff_of_false Bool.false_ne_true Bool.true_eq_false.mp
  | false => exact iff_of_true rfl rfl

theorem openFile_decides (t : StoreState) :
    StoreOp.openFile.call.Decides storeExec G FileCallSucceeds Succeeds t := by
  refine decides_perform fun input _ => ?_
  simp only [storeExec, FileCallSucceeds]
  cases input.fails with
  | true => exact iff_of_false Bool.false_ne_true Bool.true_eq_false.mp
  | false => exact iff_of_true rfl rfl

theorem writeAll_decides (calls offset : ℕ) (t : StoreState) :
    (writeAll raw calls offset).Decides storeExec G FileCallSucceeds Succeeds t := by
  induction calls generalizing offset t with
  | zero => exact rfl
  | succ calls ih =>
      unfold writeAll
      split
      · exact rfl
      · rename_i hmore
        refine fun input _ => ⟨fun hok => ?_, fun hfails => ?_⟩
        · have hinput : input.fails = false := hok
          have hlength : ∃ count, ((raw.drop offset).take (max 1 input.count)).length = count + 1 := by
            refine Nat.exists_eq_add_one.mpr ?_
            rw [List.length_take, List.length_drop]
            omega
          obtain ⟨count, hcount⟩ := hlength
          simp only [storeExec, hinput, Bool.false_eq_true, if_false, hcount]
          exact ih _ _
        · have hinput : input.fails = true := by simpa [FileCallSucceeds] using hfails
          simp only [storeExec, hinput]
          exact Bool.false_ne_true

theorem writeFile_decides (t : StoreState) :
    (writeFile raw).run.Decides storeExec G FileCallSucceeds Succeeds t :=
  .bindExcept (.orFail (openFile_decides t)) fun _ u => .orFail (writeAll_decides raw.length 0 u)

theorem persistState_decides (hraw : env.encode s = .ok raw) (t : StoreState) :
    (persistState env s).run.Decides storeExec G FileCallSucceeds Succeeds t := by
  simp only [persistState, hraw]
  split
  · exact .bindExcept (.orFail (createDirAll_decides t)) fun _ u => writeFile_decides u
  · exact writeFile_decides t

theorem persist_decides {t : StoreState} (hraw : env.encode t.state = .ok raw) :
    (persist env me).run.Decides storeExec G FileCallSucceeds Succeeds t := by
  rw [persist, run_lift_bind]
  refine .pass (fun _ => trivial) fun input _ => ?_
  rw [run_lift_bind]
  refine .bind (persistState_decides hraw _) (ensures_trivial _ _) ?_ ?_
  · intro result u _ hresult
    rw [run_lift_bind]
    exact .pass (fun _ => trivial) fun _ _ => hresult
  · intro result u hresult
    rw [run_lift_bind]
    exact .call fun _ _ => hresult

theorem persist_unencodable {t : StoreState} {message : String}
    (hraw : env.encode t.state = .error message) :
    (persist env me).run.Ensures storeExec (fun r u => ¬ Succeeds r u) t := by
  rw [persist, run_lift_bind]
  refine .call fun input => ?_
  rw [run_lift_bind]
  simp only [storeExec, persistState, hraw]
  exact fun _ => Bool.false_ne_true

/-- A request that has something to change succeeds when the changed state
can be encoded and no call on the file fails. -/
theorem request_succeeds_iff (request : StoreRequest) (s : StoreState)
    (hchanges : request.after env s.state ≠ s.state) (inputs : ℕ → StoreInput) :
    ((request.run env me).run.run storeExec inputs s).2.isOk = true ↔
      (env.encode (request.after env s.state)).isOk = true ∧
        (request.run env me).run.Meets storeExec FileCallSucceeds inputs s := by
  obtain ⟨expectedRevision, c, hchange, hrun⟩ | ⟨hnone, -⟩ | ⟨hnone, -⟩ :=
    request_cases env me request
  · rw [after_eq_change hchange] at hchanges ⊢
    rw [hrun]
    obtain ⟨err, hrefused⟩ | ⟨sandboxes, -, -, hchanged⟩ := change_cases s.state expectedRevision c
    · exact absurd (congrArg Prod.fst hrefused) hchanges
    · have hmeets : (commit env me expectedRevision c).run.Meets storeExec (fun _ _ _ => True)
          inputs s := meets_of_forall _ (fun _ _ _ => trivial) _ s
      rw [hchanged]
      cases hraw : env.encode (⟨saturatingAdd s.state.revision 1, sandboxes⟩) with
      | ok raw =>
          have hdecides : (commit env me expectedRevision c).run.Decides storeExec
              (fun _ _ _ => True) FileCallSucceeds Succeeds s := by
            refine fun input _ => ⟨fun _ => ?_, fun hno => absurd trivial hno⟩
            simp only [storeExec, hchanged]
            exact .bindExcept (persist_decides hraw) fun _ _ => rfl
          exact (hdecides.run hmeets).trans (and_iff_right rfl).symm
      | error message =>
          have hfails : (commit env me expectedRevision c).run.Ensures storeExec
              (fun r u => ¬ Succeeds r u) s := by
            refine fun input => ?_
            simp only [storeExec, hchanged]
            refine .bindExcept (.mono (persist_unencodable hraw) fun r u hr => ?_)
            cases r with
            | ok a => exact absurd rfl hr
            | error err => exact hr
          exact iff_of_false (hfails.run inputs) fun hok => Bool.false_ne_true hok.1
  · exact absurd (after_eq_self hnone s.state) hchanges
  · exact absurd (after_eq_self hnone s.state) hchanges

end Succeeding

/-- What a request that fails has done: the state in memory is as before
exactly if the request has nothing to change, or the changed state can be
encoded and every call on the file succeeds. -/
theorem failed_request_keeps_iff (env : StoreEnv) (me : ℕ) (request : StoreRequest)
    (inputs : ℕ → StoreInput) (s : StoreState) :
    let p := (request.run env me).run
    (∀ err, (p.run storeExec inputs s).2 = .error err →
        (p.run storeExec inputs s).1.state = s.state) ↔
      request.after env s.state = s.state ∨
        ((env.encode (request.after env s.state)).isOk = true ∧
          p.Meets storeExec FileCallSucceeds inputs s) := by
  intro p
  have hstate : (p.run storeExec inputs s).1.state = request.after env s.state :=
    (request_state request s).run inputs
  by_cases hsame : request.after env s.state = s.state
  · exact iff_of_true (fun err _ => hstate.trans hsame) (.inl hsame)
  · rw [or_iff_right hsame, ← request_succeeds_iff request s hsame inputs]
    change _ ↔ (p.run storeExec inputs s).2.isOk = true
    cases hanswer : (p.run storeExec inputs s).2 with
    | ok answer => exact iff_of_true (fun err herr => by cases herr) rfl
    | error err =>
        refine iff_of_false (fun hkept => hsame ?_) Bool.false_ne_true
        exact hstate.symm.trans (hkept err rfl)

/-- The fourth call of a request, which opens the file, fails. -/
def fullDisk (n : ℕ) : StoreInput := ⟨n == 3, "No space left on device (os error 28)", 4096⟩

/-- The sandbox that could not be written is there, and the revision with
which it was to be created is no longer the right one. -/
theorem failed_create_stays :
    let create := ((StoreRequest.createConfig 0 CreatedSandbox.sandbox).run
      CreatedSandbox.json 1).run
    let failed := create.run storeExec fullDisk ⟨.default, [], some CreatedSandbox.emptyFile⟩
    failed.2 = .error (.io "No space left on device (os error 28)") ∧
      failed.1.state = CreatedSandbox.created ∧
      (create.run storeExec (fun _ => ⟨false, "", 4096⟩) failed.1).2 =
        .error (.revisionMismatch 0 1) := by decide +kernel

/-! ## Writes that are stopped -/

/-- How much of the state has come to the file since the request opened it,
if it has. -/
def progress : List StoreEntry → Option ℕ
  | [] => none
  | ⟨_, .openFile, .ok ()⟩ :: _ => some 0
  | ⟨_, .write .., .ok count⟩ :: log => (progress log).map (· + count)
  | _ :: log => progress log

/-- Nothing can be read from a part of what has been encoded. -/
def StoreEnv.RefusesCuts (env : StoreEnv) : Prop :=
  ∀ s raw, env.encode s = .ok raw → ∀ part, part <+: raw → part ≠ [] → part ≠ raw →
    ∃ message, env.decode part = .error message

/-- The file as it was, or the beginning of what is written. -/
def Traced (env : StoreEnv) (s : StoreState) (target : LocalSandboxConfigState) (w : StoreWorld) :
    Prop :=
  (progress w.log = none ∧ w.shared.file = s.file) ∨
    ∃ raw n, env.encode target = .ok raw ∧ n ≤ raw.length ∧ progress w.log = some n ∧
      w.shared.file = some (raw.take n)

theorem load_eq_ok {s : LocalSandboxConfigState} {raw : List UInt8} (hraw : raw ≠ [])
    (hdecode : env.decode raw = .ok s) : load env (some raw) = .ok s := by
  rw [load, if_neg (by simpa using hraw), hdecode]

/-- What is on the file is one of the two states. -/
def Survives (env : StoreEnv) (before after : LocalSandboxConfigState)
    (file : Option (List UInt8)) : Prop :=
  load env file = .ok before ∨ load env file = .ok after

/-- Nothing has been done to the file, or all of the state has been written,
or nothing yet to a file that is read as the state before. -/
def WholeAt (env : StoreEnv) (s : StoreState) (target : LocalSandboxConfigState) :
    Option ℕ → Prop
  | none => Survives env s.state target s.file
  | some n => (encoded env target).length ≤ n ∨ (n = 0 ∧ s.state = .default)

theorem wholeAt_all (env : StoreEnv) (s : StoreState) (target : LocalSandboxConfigState) :
    WholeAt env s target (some (encoded env target).length) := Or.inl (Nat.le_refl _)

section Stopped

variable {s : StoreState} {target : LocalSandboxConfigState} {w : StoreWorld}

theorem Traced.survives_iff (h : Traced env s target w) (hjson : env.RoundTrips)
    (hcuts : env.RefusesCuts) (htarget : target = .default → s.state = .default) :
    Survives env s.state target w.shared.file ↔ WholeAt env s target (progress w.log) := by
  obtain ⟨hprogress, hfile⟩ | ⟨raw, n, hraw, hn, hprogress, hfile⟩ := h
  · rw [hprogress, hfile]
    exact Iff.rfl
  · have hencoded : encoded env target = raw := by
      rw [encoded, hraw]
      rfl
    rw [hprogress, hfile, WholeAt, hencoded]
    by_cases hall : raw.length ≤ n
    · have hload : load env (some (raw.take n)) = .ok target := by
        rw [List.take_of_length_le hall]
        exact load_eq_ok (hjson.nonempty target raw hraw) (hjson.decode_encode target raw hraw)
      exact iff_of_true (.inr hload) (.inl hall)
    · rw [or_iff_right hall]
      by_cases hzero : n = 0
      · subst hzero
        have hload : load env (some (raw.take 0)) = .ok .default := rfl
        rw [Survives, hload, and_iff_right rfl]
        refine ⟨?_, fun hdefault => .inl (by rw [hdefault])⟩
        rintro (hbefore | hafter)
        · exact (Except.ok.inj hbefore).symm
        · exact htarget (Except.ok.inj hafter).symm
      · have hne : raw.take n ≠ [] := by
          intro hnil
          have hlength := congrArg List.length hnil
          rw [List.length_take, List.length_nil] at hlength
          omega
        have hpart : raw.take n ≠ raw := by
          intro heq
          have hlength := congrArg List.length heq
          rw [List.length_take] at hlength
          omega
        obtain ⟨message, hmessage⟩ := hcuts target raw hraw _ (List.take_prefix n raw) hne hpart
        have hload : load env (some (raw.take n)) = .error (.serde message) := by
          rw [load, if_neg (by simpa using hne), hmessage]
        rw [Survives, hload]
        refine iff_of_false ?_ fun hwhole => hzero hwhole.1
        rintro (hbefore | hafter)
        · cases hbefore
        · cases hafter

/-- What is known at each stage of a write: the state has been changed, and
the file has as much of it as the request has written. -/
structure Tracks (env : StoreEnv) (s : StoreState) (target : LocalSandboxConfigState)
    (stage : WriteStage) (w : StoreWorld) : Prop where
  state : w.shared.state = target
  traced : Traced env s target w
  changes : stage ≠ .resting
  unopened : stage = .changed → progress w.log = none
  locked : ∀ s', stage = .locked s' → s' = target ∧ progress w.log = none
  writing : ∀ s' n, stage = .writing s' n → s' = target ∧ progress w.log = some n

theorem Tracks.ofWriting {n : ℕ} (hstate : w.shared.state = target)
    (htraced : Traced env s target w) (hprogress : progress w.log = some n) :
    Tracks env s target (.writing target n) w where
  state := hstate
  traced := htraced
  changes hstage := by cases hstage
  unopened hstage := by cases hstage
  locked s' hstage := by cases hstage
  writing s' m hstage := by
    cases hstage
    exact ⟨rfl, hprogress⟩

/-- A call that leaves the state, the file and the stage. -/
theorem Tracks.quiet {stage : WriteStage} (h : Tracks env s target stage w) {w' : StoreWorld}
    (hstate : w'.shared.state = w.shared.state) (hfile : w'.shared.file = w.shared.file)
    (hprogress : progress w'.log = progress w.log) : Tracks env s target stage w' where
  state := hstate.trans h.state
  traced := by
    rw [Traced, hfile, hprogress]
    exact h.traced
  changes := h.changes
  unopened := hprogress ▸ h.unopened
  locked := hprogress ▸ h.locked
  writing := hprogress ▸ h.writing

/-- The next piece of what is written. -/
theorem Tracks.wrote {offset : ℕ} (h : Tracks env s target (.writing target offset) w)
    {input : StoreInput} (hinput : input.fails = false) :
    Tracks env s target
      ((writeProtocol env me).next (.writing target offset)
        (.write ((encoded env target).drop offset) offset)
        (World.record storeExec w (.write ((encoded env target).drop offset) offset) input).2)
      (World.record storeExec w (.write ((encoded env target).drop offset) offset) input).1 := by
  obtain ⟨-, hprogress⟩ := h.writing target offset rfl
  obtain ⟨hnone, -⟩ | ⟨raw, n, hraw, hn, hsome, hfile⟩ := h.traced
  · rw [hprogress] at hnone
    cases hnone
  · rw [hprogress] at hsome
    obtain rfl := Option.some.inj hsome
    have hencoded : encoded env target = raw := by
      rw [encoded, hraw]
      rfl
    simp only [World.record, World.perform, storeExec, hinput, Bool.false_eq_true, if_false,
      hencoded]
    let written := FileWrite.piece raw offset (max 1 input.count)
    have hwritten : progress (⟨0, .write (raw.drop offset) offset, .ok written.length⟩ :: w.log) =
        some (offset + written.length) := by
      change (progress w.log).map (· + written.length) = _
      rw [hprogress]
      rfl
    have hlength : written.length = min (max 1 input.count) (raw.length - offset) :=
      FileWrite.length_piece
    have hcontent : w.shared.file.map (fun content =>
        FileWrite.overlay content written offset) = some (raw.take (offset + written.length)) := by
      rw [hfile, Option.map_some, FileWrite.overlay_take hn]
    exact .ofWriting h.state
      (.inr ⟨raw, offset + written.length, hraw, by omega, hwritten, hcontent⟩) hwritten

/-- After the lock has been released nothing more is done to the file. -/
theorem Tracks.released {stage : WriteStage} (h : Tracks env s target stage w) (b : Bool)
    (reader : ℕ) (input : StoreInput) :
    Tracks env s target (.done b) (World.record storeExec w (.release reader) input).1 where
  state := h.state
  traced := h.traced
  changes hstage := by cases hstage
  unopened hstage := by cases hstage
  locked s' hstage := by cases hstage
  writing s' n hstage := by cases hstage

theorem Tracks.step {stage : WriteStage} (h : Tracks env s target stage w) {op : StoreOp}
    (hpermits : (writeProtocol env me).permits stage op) (input : StoreInput) :
    Tracks env s target
      ((writeProtocol env me).next stage op (World.record storeExec w op input).2)
      (World.record storeExec w op input).1 := by
  cases op with
  | change expectedRevision c => exact absurd hpermits h.changes
  | getSnapshot => exact h.quiet rfl rfl rfl
  | lockRead reader =>
      obtain ⟨-, hresting | rfl⟩ := hpermits
      · exact absurd hresting h.changes
      · have hprogress : progress w.log = none := h.unopened rfl
        exact {
          state := h.state
          traced := h.traced
          changes := fun hstage => by cases hstage
          unopened := fun hstage => by cases hstage
          locked := fun s' hstage => ⟨(WriteStage.locked.inj hstage).symm.trans h.state, hprogress⟩
          writing := fun s' n hstage => by cases hstage }
  | createDirAll => exact h.quiet rfl rfl rfl
  | openFile =>
      obtain ⟨s', raw, rfl, hraw⟩ := hpermits
      obtain ⟨rfl, -⟩ := h.locked s' rfl
      cases hinput : input.fails with
      | true =>
          simp only [World.record, World.perform, storeExec, hinput, if_true]
          exact h.quiet rfl rfl rfl
      | false =>
          simp only [World.record, World.perform, storeExec, hinput, Bool.false_eq_true, if_false]
          exact .ofWriting h.state (.inr ⟨raw, 0, hraw, Nat.zero_le _, rfl, rfl⟩) rfl
  | write chunk offset =>
      obtain ⟨s', rfl, rfl⟩ := hpermits
      obtain ⟨rfl, -⟩ := h.writing s' offset rfl
      cases hinput : input.fails with
      | true =>
          simp only [World.record, World.perform, storeExec, hinput, if_true]
          exact h.quiet rfl rfl rfl
      | false => exact h.wrote hinput
  | release reader =>
      obtain ⟨-, ⟨s', rfl⟩ | ⟨s', n, rfl⟩⟩ := hpermits
      · exact h.released false reader input
      · exact h.released _ reader input

/-- A program that has made its change, and goes on as a write does. -/
theorem follows_traced {α : Type} {p : StoreProg α} {post : α → WriteStage → Prop}
    (h : p.Follows (writeProtocol env me) post .changed) (hstate : w.shared.state = target)
    (hprogress : progress w.log = none) (hfile : w.shared.file = s.file) :
    p.Along (World.record storeExec) (Traced env s target) w := by
  have hstep : ∀ stage w op input, Tracks env s target stage w →
      (writeProtocol env me).permits stage op →
      Tracks env s target
        ((writeProtocol env me).next stage op (World.record storeExec w op input).2)
        (World.record storeExec w op input).1 :=
    fun stage w op input htracks hpermits => htracks.step hpermits input
  refine h.along hstep (fun stage w htracks => htracks.traced) ?_
  exact {
    state := hstate
    traced := .inl ⟨hprogress, hfile⟩
    changes := fun hstage => by cases hstage
    unopened := fun _ => hprogress
    locked := fun s' hstage => by cases hstage
    writing := fun s' n hstage => by cases hstage }

theorem persist_traced (answer : StoreAnswer) (hstate : w.shared.state = target)
    (hprogress : progress w.log = none) (hfile : w.shared.file = s.file) :
    (do persist env me; return answer : StoreCall StoreAnswer).run.Along (World.record storeExec)
      (Traced env s target) w := by
  have hfollows : (do persist env me; return answer : StoreCall StoreAnswer).run.Follows
      (writeProtocol env me) Ended .changed :=
    .bindExcept (persist_follows (.inr rfl)) fun _ stage hdone => .inr hdone
  exact follows_traced hfollows hstate hprogress hfile

/-- Wherever a request is stopped, the file is as it was or has the
beginning of the changed state. -/
theorem request_traced (request : StoreRequest) (s : StoreState) :
    (request.run env me).run.Along (World.record storeExec)
      (Traced env s (request.after env s.state)) ⟨s, []⟩ := by
  obtain ⟨expectedRevision, c, hchange, hrun⟩ | ⟨hnone, rfl⟩ | ⟨hnone, huses⟩ :=
    request_cases env me request
  · rw [hrun, after_eq_change hchange]
    refine ⟨.inl ⟨rfl, rfl⟩, fun input => ?_⟩
    simp only [World.record, World.perform, storeExec]
    obtain ⟨err, hrefused⟩ | ⟨sandboxes, -, -, hchanged⟩ := change_cases s.state expectedRevision c
    · simp only [hrefused]
      exact .inl ⟨rfl, rfl⟩
    · simp only [hchanged]
      exact persist_traced _ rfl rfl rfl
  · rw [after_eq_self hnone]
    exact persist_traced _ rfl rfl rfl
  · rw [after_eq_self hnone]
    have hfollows := huses.follows (P := writeProtocol env me) (s := .changed)
      fun op hop => hop ▸ ⟨trivial, fun _ => rfl⟩
    exact follows_traced hfollows rfl rfl rfl

/-- A change raises the revision, so the default state is not its result. -/
theorem eq_default_of_after {request : StoreRequest} {s : LocalSandboxConfigState}
    (h : request.after env s = .default) : s = .default := by
  obtain ⟨expectedRevision, c, hchange, -⟩ | ⟨hnone, -⟩ | ⟨hnone, -⟩ := request_cases env 0 request
  · rw [after_eq_change hchange] at h
    obtain ⟨err, hrefused⟩ | ⟨sandboxes, -, -, hchanged⟩ := change_cases s expectedRevision c
    · rwa [hrefused] at h
    · rw [hchanged] at h
      have hrevision : min (s.revision + 1) u64Max = 0 := congrArg (·.revision) h
      have hmax : 0 < u64Max := by decide
      omega
  · rwa [after_eq_self hnone] at h
  · rwa [after_eq_self hnone] at h

end Stopped

/-- Wherever a request is stopped: one of its two states is on the file
exactly if the file has not been touched and had one of them, or all of the
changed state has been written, or the file has only been emptied and the
state before was the default one. -/
theorem stopped_survives_iff (env : StoreEnv) (hjson : env.RoundTrips) (hcuts : env.RefusesCuts)
    (me : ℕ) (request : StoreRequest) (s : StoreState) (calls : ℕ) (inputs : ℕ → StoreInput) :
    let w := (request.run env me).run.stopped (World.record storeExec) calls inputs ⟨s, []⟩
    Survives env s.state (request.after env s.state) w.shared.file ↔
      WholeAt env s (request.after env s.state) (progress w.log) :=
  ((request_traced request s).stopped calls inputs).survives_iff hjson hcuts eq_default_of_after

namespace MovedSpawn

/-- The sandbox with cars that start in the pit. -/
def moved : LocalSandboxConfigState :=
  ⟨2, [{ CreatedSandbox.sandbox with
    config := { CreatedSandbox.sandbox.config with spawnMode := .inPit } }]⟩

def movedFile : List UInt8 :=
  CreatedSandbox.bytes ["\x7b", "  \"revision\": 2,", "  \"sandboxes\": [", "    \x7b",
    "      \"sandbox_id\": \"id\",", "      \"config\": \x7b",
    "        \"sandbox_name\": \"box\",", "        \"map_id\": \"map\",",
    "        \"time_of_day\": \x7b", "          \"mode\": \"fixed_preset\",",
    "          \"fixed_preset\": \"noon\"", "        \x7d,", "        \"ghost_mode\": null,",
    "        \"weather\": \x7b", "          \"weather_type\": \"clear\",",
    "          \"temperature_c\": 20", "        \x7d,",
    "        \"spawn_mode\": \"in_pit\"", "      \x7d", "    \x7d", "  ]", "\x7d"]

def json : StoreEnv :=
  CreatedSandbox.twoFiles CreatedSandbox.created CreatedSandbox.createdFile moved movedFile

/-- Cars are to start in the pit; the process stops after some calls. -/
def stoppedAfter (calls : ℕ) : StoreWorld :=
  ((StoreRequest.updateSpawnMode 1 "id" .inPit).run json 1).run.stopped (World.record storeExec)
    calls (fun _ => ⟨false, "", 4096⟩)
    ⟨⟨CreatedSandbox.created, [], some CreatedSandbox.createdFile⟩, []⟩

theorem load_createdFile :
    load json (some CreatedSandbox.createdFile) = .ok CreatedSandbox.created := by
  have hnonempty : CreatedSandbox.createdFile ≠ [] := CreatedSandbox.bytes_ne_nil (by decide) _
  have hdecode : json.decode CreatedSandbox.createdFile = .ok CreatedSandbox.created := by
    simp only [json, CreatedSandbox.twoFiles, if_true]
  exact load_eq_ok hnonempty hdecode

end MovedSpawn

open MovedSpawn in
/-- Between the emptying of the file and its first byte the sandboxes are
gone, and the revision is back at zero. -/
theorem stopped_loses_sandboxes :
    load json (some CreatedSandbox.createdFile) = .ok CreatedSandbox.created ∧
      load json (stoppedAfter 4).shared.file = .ok .default ∧
      ¬ Survives json CreatedSandbox.created moved (stoppedAfter 4).shared.file := by
  have hload : load json (stoppedAfter 4).shared.file = .ok .default := by
    rw [stoppedAfter, json,
      show CreatedSandbox.createdFile = CreatedSandbox.joined _ from CreatedSandbox.bytes_eq_joined _,
      show movedFile = CreatedSandbox.joined _ from CreatedSandbox.bytes_eq_joined _]
    decide +kernel
  refine ⟨load_createdFile, hload, ?_⟩
  rw [Survives, hload]
  rintro (hcreated | hmoved)
  · exact absurd (congrArg (·.revision) (Except.ok.inj hcreated)) (by decide)
  · exact absurd (congrArg (·.revision) (Except.ok.inj hmoved)) (by decide)

namespace MovedSpawn

/-- Neither of the two files is the beginning of the other. -/
theorem files_apart : ¬ CreatedSandbox.createdFile <+: movedFile ∧
    ¬ movedFile <+: CreatedSandbox.createdFile := by
  rw [show CreatedSandbox.createdFile = CreatedSandbox.joined _ from CreatedSandbox.bytes_eq_joined _,
    show movedFile = CreatedSandbox.joined _ from CreatedSandbox.bytes_eq_joined _]
  decide +kernel

theorem roundTrips : json.RoundTrips := by
  have hne : movedFile ≠ CreatedSandbox.createdFile := fun heq =>
    files_apart.2 (heq ▸ List.prefix_refl _)
  exact CreatedSandbox.twoFiles_roundTrips (CreatedSandbox.bytes_ne_nil (by decide) _)
    (CreatedSandbox.bytes_ne_nil (by decide) _) hne

theorem refusesCuts : json.RefusesCuts := by
  intro s raw hraw part hpart _ hproper
  rw [json] at hraw
  rcases CreatedSandbox.encode_twoFiles hraw with ⟨-, hfile⟩ | ⟨-, hfile⟩
  · rw [hfile] at hpart hproper
    have hother : part ≠ movedFile := fun heq => files_apart.2 (heq ▸ hpart)
    exact ⟨_, CreatedSandbox.decode_twoFiles_of_ne hproper hother⟩
  · rw [hfile] at hpart hproper
    have hother : part ≠ CreatedSandbox.createdFile := fun heq => files_apart.1 (heq ▸ hpart)
    exact ⟨_, CreatedSandbox.decode_twoFiles_of_ne hother hproper⟩

theorem after_eq : (StoreRequest.updateSpawnMode 1 "id" .inPit).after json CreatedSandbox.created =
    moved := by decide

end MovedSpawn

open MovedSpawn in
/-- Stopped after the last byte, the request has moved the cars for good. -/
theorem stopped_survives_moved :
    Survives json CreatedSandbox.created moved (stoppedAfter 5).shared.file := by
  have hprogress : progress (stoppedAfter 5).log = some (encoded json moved).length := by
    rw [stoppedAfter, json,
      show CreatedSandbox.createdFile = CreatedSandbox.joined _ from CreatedSandbox.bytes_eq_joined _,
      show movedFile = CreatedSandbox.joined _ from CreatedSandbox.bytes_eq_joined _]
    decide +kernel
  have hiff := stopped_survives_iff json roundTrips refusesCuts 1 (.updateSpawnMode 1 "id" .inPit)
    ⟨CreatedSandbox.created, [], some CreatedSandbox.createdFile⟩ 5 (fun _ => ⟨false, "", 4096⟩)
  rw [stoppedAfter] at hprogress ⊢
  dsimp only at hiff
  rw [after_eq, hprogress] at hiff
  rw [hiff]
  exact wholeAt_all json ⟨CreatedSandbox.created, [], some CreatedSandbox.createdFile⟩ moved

end HackArena.Local.SandboxConfig
