import HackArena.Local.SandboxConfigStore

/-!
# Runs of the store of sandbox configurations

Nobody changes the state while somebody writes it. All who write at the
same time therefore write the same bytes, and who comes to the file last
leaves it with these bytes if it succeeds.
-/

namespace HackArena.Local.SandboxConfig

open GuardedRun HackArena.Runtime

variable {env : StoreEnv}

/-! ## What a request does -/

section Requests

open Prog

variable {me : ℕ} {s : LocalSandboxConfigState}

/-- A request that has not begun to write, or is over with it. -/
def WriteStage.Rests (stage : WriteStage) : Prop := stage = .resting ∨ ∃ b, stage = .done b

/-- The answer of a request that has come to its end. -/
abbrev Ended : Except ConfigStoreError StoreAnswer → WriteStage → Prop :=
  Either (fun _ stage => stage = .resting ∨ stage = .done true) fun _ stage => stage.Rests

theorem writeAll_follows (raw : List UInt8) (hraw : encoded env s = raw) (calls : ℕ) :
    ∀ offset, raw.length ≤ calls + offset →
      (writeAll raw calls offset).Follows (writeProtocol env me)
        (Either (fun _ stage => ∃ offset', stage = .writing s offset' ∧ raw.length ≤ offset')
          fun _ stage => ∃ offset', stage = .writing s offset')
        (.writing s offset) := by
  induction calls with
  | zero =>
      intro offset hoffset
      exact ⟨offset, rfl, by omega⟩
  | succ calls ih =>
      intro offset hoffset
      unfold writeAll
      split
      · rename_i hdone
        exact ⟨offset, rfl, hdone⟩
      · refine .call ⟨s, rfl, by rw [hraw]⟩ fun answer => ?_
        match answer with
        | .error message => exact ⟨offset, rfl⟩
        | .ok 0 => exact ⟨_, rfl⟩
        | .ok (count + 1) => exact ih (offset + (count + 1)) (by omega)

/-- The lock has been taken, and the file may have been opened. -/
def WriteStage.Held (s : LocalSandboxConfigState) (stage : WriteStage) : Prop :=
  stage = .locked s ∨ ∃ offset, stage = .writing s offset

theorem writeFile_follows {raw : List UInt8} (hraw : env.encode s = .ok raw) :
    (writeFile raw).run.Follows (writeProtocol env me)
      (Either (fun _ stage => ∃ offset, stage = .writing s offset ∧
        (encoded env s).length ≤ offset) fun _ stage => stage.Held s) (.locked s) := by
  have hencoded : encoded env s = raw := by
    rw [encoded, hraw]
    rfl
  have hopen : StoreOp.openFile.call.Follows (writeProtocol env me)
      (Either (fun _ stage => stage = .writing s 0) fun _ stage => stage.Held s) (.locked s) := by
    refine ⟨⟨s, raw, rfl, hraw⟩, fun answer => ?_⟩
    cases answer with
    | error message => exact Or.inl rfl
    | ok u => rfl
  refine .bindExcept (Follows.orFail hopen) fun _ stage hstage => ?_
  subst hstage
  refine Follows.orFail (Follows.mono (writeAll_follows raw hencoded raw.length 0 (Nat.le_refl _))
    fun result stage hresult => ?_)
  cases result with
  | ok u =>
      obtain ⟨offset, hstage, hdone⟩ := hresult
      exact ⟨offset, hstage, hencoded ▸ hdone⟩
  | error message => exact Or.inr hresult

theorem persistState_follows : (persistState env s).run.Follows (writeProtocol env me)
    (Either (fun _ stage => ∃ offset, stage = .writing s offset ∧ (encoded env s).length ≤ offset)
      fun _ stage => stage.Held s) (.locked s) := by
  unfold persistState
  split
  · exact Or.inl rfl
  · rename_i raw hraw
    split
    · have hcreate : StoreOp.createDirAll.call.Follows (writeProtocol env me)
          (Either (fun _ stage => stage = .locked s) fun _ stage => stage.Held s) (.locked s) := by
        refine ⟨trivial, fun answer => ?_⟩
        cases answer with
        | error message => exact Or.inl rfl
        | ok u => rfl
      refine .bindExcept (Follows.orFail hcreate) fun _ stage hstage => ?_
      subst hstage
      exact writeFile_follows hraw
    · exact writeFile_follows hraw

/-- Writing succeeds when everything has been written before the lock is
released. -/
theorem persist_follows {stage : WriteStage} (hstage : stage = .resting ∨ stage = .changed) :
    (persist env me).run.Follows (writeProtocol env me)
      (Either (fun _ stage => stage = .done true) fun _ stage => stage.Rests) stage := by
  have hlock : (StoreOp.lockRead me).call.Follows (writeProtocol env me)
      (fun s stage => stage = .locked s) stage := ⟨⟨rfl, hstage⟩, fun _ => rfl⟩
  refine .bindExcept (Follows.lift hlock) fun s stage hlocked => ?_
  subst hlocked
  refine .bindExcept (Follows.lift persistState_follows) fun result stage hresult => ?_
  cases result with
  | ok u =>
      obtain ⟨offset, rfl, hdone⟩ := hresult
      refine ⟨⟨rfl, Or.inr ⟨s, offset, rfl⟩⟩, fun _ => ?_⟩
      change WriteStage.done (decide ((encoded env s).length ≤ offset)) = .done true
      rw [decide_eq_true hdone]
  | error err =>
      rcases hresult with rfl | ⟨offset, rfl⟩
      · exact ⟨⟨rfl, Or.inl ⟨s, rfl⟩⟩, fun _ => Or.inr ⟨false, rfl⟩⟩
      · exact ⟨⟨rfl, Or.inr ⟨s, offset, rfl⟩⟩, fun _ => Or.inr ⟨_, rfl⟩⟩

theorem commit_follows (expectedRevision : ℕ) (c : ConfigChange) :
    (commit env me expectedRevision c).run.Follows (writeProtocol env me) Ended .resting := by
  have hchange : (StoreOp.change expectedRevision c).call.Follows (writeProtocol env me)
      (Either (fun _ stage => stage = .changed) fun _ stage => stage.Rests) .resting := by
    refine ⟨rfl, fun answer => ?_⟩
    cases answer with
    | error err => exact Or.inl rfl
    | ok revision => rfl
  refine .bindExcept (Follows.orFail hchange) fun revision stage hchanged => ?_
  subst hchanged
  refine .bindExcept (persist_follows (Or.inr rfl)) fun _ stage hdone => ?_
  exact Or.inr hdone

theorem check_follows {x : Except ConfigStoreError Unit} {p : StoreCall StoreAnswer}
    (h : p.run.Follows (writeProtocol env me) Ended .resting) :
    (check x >>= fun _ => p).run.Follows (writeProtocol env me) Ended .resting := by
  have hcheck : (check x).run.Follows (writeProtocol env me)
      (Either (fun _ stage => stage = .resting) fun _ stage => stage.Rests) .resting :=
    Follows.ofExcept (fun _ _ => Or.inl rfl) fun _ _ => rfl
  refine .bindExcept hcheck fun _ stage hstage => ?_
  subst hstage
  exact h

theorem request_follows (request : StoreRequest) :
    (request.run env me).run.Follows (writeProtocol env me) Ended .resting := by
  cases request with
  | create =>
      refine .bindExcept (persist_follows (Or.inl rfl)) fun _ stage hdone => ?_
      exact Or.inr hdone
  | getSnapshot => exact ⟨trivial, fun _ => Or.inl rfl⟩
  | createConfig expectedRevision sandbox =>
      apply check_follows
      exact commit_follows _ _
  | updateConfig expectedRevision sandbox =>
      apply check_follows
      exact commit_follows _ _
  | deleteConfig expectedRevision sandboxId => exact commit_follows _ _
  | updateTimeOfDay expectedRevision sandboxId timeOfDay => exact commit_follows _ _
  | updateWeather expectedRevision sandboxId weather => exact check_follows (commit_follows _ _)
  | updateSpawnMode expectedRevision sandboxId spawnMode => exact commit_follows _ _

end Requests

/-! ## What is known of the file -/

/-- A request that has to write and has not come to the file yet. -/
def WriteStage.Pending (stage : WriteStage) : Prop :=
  stage = .changed ∨ ∃ s, stage = .locked s

/-- The file holds a state. It is the present one, and whoever writes writes
the same bytes; or a request that has to write is on its way, and nobody
writes. -/
def FileKept (env : StoreEnv) (w : StoreWorld) : Prop :=
  ∃ s, load env w.shared.file = .ok s ∧
    ((w.shared.state = s ∧ ∀ i s' offset, writeStage env i w.log = .writing s' offset →
        w.shared.file = some (encoded env s')) ∨
      ((∃ i, (writeStage env i w.log).Pending) ∧
        ∀ i s' offset, writeStage env i w.log ≠ .writing s' offset))

/-- Nobody who holds the lock has anything but the present state. -/
structure LockKnown (env : StoreEnv) (w : StoreWorld) : Prop where
  held : ∀ i s, (writeStage env i w.log).Held s → i ∈ w.shared.readers ∧ w.shared.state = s
  encodes : ∀ i s offset, writeStage env i w.log = .writing s offset →
    env.encode s = .ok (encoded env s) ∧ offset ≤ (encoded env s).length

/-- What the last write has made of the file. -/
structure FileKnown (env : StoreEnv) (w : StoreWorld) : Prop where
  lock : LockKnown env w
  unwritten : lastWrite env w.log = none → FileKept env w
  succeeded : ∀ i, lastWrite env w.log = some i → writeStage env i w.log = .done true →
    FileKept env w
  written : ∀ i, lastWrite env w.log = some i → ∀ s offset,
    writeStage env i w.log = .writing s offset →
      ∃ content, w.shared.file = some content ∧ FileWrite.Covers (encoded env s) offset content
  came : ∀ i, lastWrite env w.log = some i →
    (∃ s offset, writeStage env i w.log = .writing s offset) ∨ ∃ b, writeStage env i w.log = .done b

section Steps

variable {w : StoreWorld} {t : ℕ} {op : StoreOp} {input : StoreInput}

theorem writeStage_self : writeStage env t (w.perform storeExec t op input).log =
    (writeStage env t w.log).next env op (storeExec w.shared op input).2 :=
  Protocol.stageOf_perform_self storeExec _ w t op input

theorem writeStage_other {i : ℕ} (hi : i ≠ t) :
    writeStage env i (w.perform storeExec t op input).log = writeStage env i w.log :=
  Protocol.stageOf_perform_ne storeExec _ w hi op input

theorem lastWrite_perform : lastWrite env (w.perform storeExec t op input).log =
    if (writeStage env t w.log).comes op (storeExec w.shared op input).2 then some t
    else lastWrite env w.log := rfl

/-- A call after which the request is where it was, and which changes
nothing. -/
theorem FileKnown.quiet (h : FileKnown env w) (hshared : (storeExec w.shared op input).1 = w.shared)
    (hnext : (writeStage env t w.log).next env op (storeExec w.shared op input).2 =
      writeStage env t w.log)
    (hcomes : (writeStage env t w.log).comes op (storeExec w.shared op input).2 = false) :
    FileKnown env (w.perform storeExec t op input) := by
  have hstage : ∀ i, writeStage env i (w.perform storeExec t op input).log =
      writeStage env i w.log := by
    intro i
    by_cases hi : i = t
    · subst hi
      rw [writeStage_self, hnext]
    · exact writeStage_other hi
  have hlast : lastWrite env (w.perform storeExec t op input).log = lastWrite env w.log := by
    rw [lastWrite_perform, hcomes]
    rfl
  have hsame : (w.perform storeExec t op input).shared = w.shared := hshared
  have hkept : FileKept env w → FileKept env (w.perform storeExec t op input) := by
    unfold FileKept
    simp only [hstage, hsame]
    exact id
  refine ⟨⟨?_, ?_⟩, ?_, ?_, ?_, ?_⟩
  · simp only [hstage, hsame]
    exact h.lock.held
  · simp only [hstage]
    exact h.lock.encodes
  · rw [hlast]
    exact fun hnone => hkept (h.unwritten hnone)
  · simp only [hlast, hstage]
    exact fun i hi hdone => hkept (h.succeeded i hi hdone)
  · simp only [hlast, hstage, hsame]
    exact h.written
  · simp only [hlast, hstage]
    exact h.came

/-- A request that has not come to the file did not come to it last. -/
theorem FileKnown.lastWrite_ne (h : FileKnown env w)
    (hstage : writeStage env t w.log = .resting ∨ (writeStage env t w.log).Pending) {i : ℕ}
    (hi : lastWrite env w.log = some i) : i ≠ t := by
  rintro rfl
  rcases h.came i hi with ⟨s, offset, hcame⟩ | ⟨b, hcame⟩
  · rcases hstage with hrest | hchanged | ⟨s', hlocked⟩ <;> simp_all
  · rcases hstage with hrest | hchanged | ⟨s', hlocked⟩ <;> simp_all

/-- The state changes: the request that has changed it has to write, and
nobody writes what was there before. -/
theorem FileKnown.changed {expectedRevision : ℕ} {c : ConfigChange} (h : FileKnown env w)
    (hreaders : w.shared.readers = []) (hresting : writeStage env t w.log = .resting)
    (hnext : writeStage env t (w.perform storeExec t (.change expectedRevision c) input).log =
      .changed)
    (hcomes : lastWrite env (w.perform storeExec t (.change expectedRevision c) input).log =
      lastWrite env w.log) :
    FileKnown env (w.perform storeExec t (.change expectedRevision c) input) := by
  have hnobody : ∀ i s, ¬(writeStage env i w.log).Held s := by
    intro i s hheld
    have hreads := (h.lock.held i s hheld).1
    rw [hreaders] at hreads
    cases hreads
  have hheld : ∀ i s, ¬(writeStage env i
      (w.perform storeExec t (.change expectedRevision c) input).log).Held s := by
    intro i s hheld
    by_cases hi : i = t
    · subst hi
      rw [hnext] at hheld
      rcases hheld with hlocked | ⟨offset, hwriting⟩ <;> contradiction
    · rw [writeStage_other hi] at hheld
      exact hnobody i s hheld
  have hkept : FileKept env w →
      FileKept env (w.perform storeExec t (.change expectedRevision c) input) := by
    rintro ⟨s, hload, -⟩
    refine ⟨s, hload, Or.inr ⟨⟨t, ?_⟩, fun i s' offset hwriting => ?_⟩⟩
    · rw [hnext]
      exact Or.inl rfl
    · exact hheld i s' (Or.inr ⟨offset, hwriting⟩)
  refine ⟨⟨fun i s hi => absurd hi (hheld i s), fun i s offset hi => ?_⟩, ?_, ?_, ?_, ?_⟩
  · exact absurd (Or.inr ⟨offset, hi⟩) (hheld i s)
  · rw [hcomes]
    exact fun hnone => hkept (h.unwritten hnone)
  · rw [hcomes]
    intro i hi hdone
    rw [writeStage_other (h.lastWrite_ne (Or.inl hresting) hi)] at hdone
    exact hkept (h.succeeded i hi hdone)
  · intro i hi s offset hwriting
    exact absurd (Or.inr ⟨offset, hwriting⟩) (hheld i s)
  · rw [hcomes]
    intro i hi
    rw [writeStage_other (h.lastWrite_ne (Or.inl hresting) hi)]
    exact h.came i hi

/-- The lock is taken, by a request that has come to the file in no way. -/
theorem FileKnown.locked (h : FileKnown env w)
    (hstage : writeStage env t w.log = .resting ∨ writeStage env t w.log = .changed) :
    FileKnown env (w.perform storeExec t (.lockRead t) input) := by
  have hself : writeStage env t (w.perform storeExec t (.lockRead t) input).log =
      .locked w.shared.state := writeStage_self
  have hnot : writeStage env t w.log = .resting ∨ (writeStage env t w.log).Pending :=
    hstage.imp_right Or.inl
  have hlast : lastWrite env (w.perform storeExec t (.lockRead t) input).log =
      lastWrite env w.log := by
    rw [lastWrite_perform]
    rfl
  have hwriting : ∀ i s offset,
      writeStage env i (w.perform storeExec t (.lockRead t) input).log = .writing s offset →
        writeStage env i w.log = .writing s offset := by
    intro i s offset hi
    by_cases hit : i = t
    · subst hit
      rw [hself] at hi
      cases hi
    · rwa [writeStage_other hit] at hi
  have hkept : FileKept env w → FileKept env (w.perform storeExec t (.lockRead t) input) := by
    rintro ⟨s, hload, ⟨hstate, hsame⟩ | ⟨⟨i, hpending⟩, hnobody⟩⟩
    · exact ⟨s, hload, Or.inl ⟨hstate, fun i s' offset hi => hsame i s' offset (hwriting i s' offset hi)⟩⟩
    · refine ⟨s, hload, Or.inr ⟨⟨i, ?_⟩, fun i s' offset hi => hnobody i s' offset (hwriting i s' offset hi)⟩⟩
      by_cases hit : i = t
      · subst hit
        rw [hself]
        exact Or.inr ⟨_, rfl⟩
      · rwa [writeStage_other hit]
  refine ⟨⟨fun i s hi => ?_, fun i s offset hi => ?_⟩, ?_, ?_, ?_, ?_⟩
  · by_cases hit : i = t
    · subst hit
      rw [hself] at hi
      rcases hi with hlocked | ⟨offset, hopened⟩
      · exact ⟨List.mem_cons_self, WriteStage.locked.inj hlocked⟩
      · cases hopened
    · rw [writeStage_other hit] at hi
      exact ⟨List.mem_cons_of_mem _ (h.lock.held i s hi).1, (h.lock.held i s hi).2⟩
  · exact h.lock.encodes i s offset (hwriting i s offset hi)
  · rw [hlast]
    exact fun hnone => hkept (h.unwritten hnone)
  · rw [hlast]
    intro i hi hdone
    rw [writeStage_other (h.lastWrite_ne hnot hi)] at hdone
    exact hkept (h.succeeded i hi hdone)
  · rw [hlast]
    exact fun i hi s offset hopened => h.written i hi s offset (hwriting i s offset hopened)
  · rw [hlast]
    intro i hi
    rw [writeStage_other (h.lastWrite_ne hnot hi)]
    exact h.came i hi

/-- The file is opened and is empty; what it was before does not matter any
more. -/
theorem FileKnown.opened {s : LocalSandboxConfigState} {raw : List UInt8} (h : FileKnown env w)
    (hstage : writeStage env t w.log = .locked s) (hraw : env.encode s = .ok raw)
    (hworks : input.fails = false) :
    FileKnown env (w.perform storeExec t .openFile input) := by
  have hexec : storeExec w.shared .openFile input = ({ w.shared with file := some [] }, .ok ()) := by
    simp [storeExec, hworks]
  have hself : writeStage env t (w.perform storeExec t .openFile input).log = .writing s 0 := by
    rw [writeStage_self, hexec, hstage]
    rfl
  have hlast : lastWrite env (w.perform storeExec t .openFile input).log = some t := by
    rw [lastWrite_perform, hexec]
    rfl
  have hfile : (w.perform storeExec t .openFile input).shared = { w.shared with file := some [] } :=
    congrArg Prod.fst hexec
  have hencoded : encoded env s = raw := by
    rw [encoded, hraw]
    rfl
  refine ⟨⟨fun i s' hi => ?_, fun i s' offset hi => ?_⟩, ?_, ?_, ?_, ?_⟩
  · rw [hfile]
    by_cases hit : i = t
    · subst hit
      rw [hself] at hi
      rcases hi with hlocked | ⟨offset, hopened⟩
      · cases hlocked
      · obtain ⟨rfl, -⟩ := WriteStage.writing.inj hopened
        exact h.lock.held i s (Or.inl hstage)
    · rw [writeStage_other hit] at hi
      exact h.lock.held i s' hi
  · by_cases hit : i = t
    · subst hit
      rw [hself] at hi
      obtain ⟨rfl, rfl⟩ := WriteStage.writing.inj hi
      exact ⟨by rw [hraw, hencoded], Nat.zero_le _⟩
    · rw [writeStage_other hit] at hi
      exact h.lock.encodes i s' offset hi
  · rw [hlast]
    exact fun hnone => absurd hnone (Option.some_ne_none t)
  · rw [hlast]
    intro i hi hdone
    obtain rfl := Option.some.inj hi
    rw [hself] at hdone
    cases hdone
  · rw [hlast]
    intro i hi s' offset hwriting
    obtain rfl := Option.some.inj hi
    rw [hself] at hwriting
    obtain ⟨rfl, rfl⟩ := WriteStage.writing.inj hwriting
    exact ⟨[], by rw [hfile], FileWrite.covers_empty _⟩
  · rw [hlast]
    intro i hi
    obtain rfl := Option.some.inj hi
    exact Or.inl ⟨s, 0, hself⟩

/-- A piece is written. It is a piece of what everybody writes. -/
theorem FileKnown.wrote {s : LocalSandboxConfigState} {offset : ℕ} (h : FileKnown env w)
    (hstage : writeStage env t w.log = .writing s offset) (hworks : input.fails = false) :
    FileKnown env
      (w.perform storeExec t (.write ((encoded env s).drop offset) offset) input) := by
  set op : StoreOp := .write ((encoded env s).drop offset) offset
  set count := max 1 input.count with hcount
  have hexec : storeExec w.shared op input =
      ({ w.shared with file := w.shared.file.map fun content =>
          FileWrite.overlay content (FileWrite.piece (encoded env s) offset count) offset },
        .ok (FileWrite.piece (encoded env s) offset count).length) := by
    change storeExec w.shared (.write ((encoded env s).drop offset) offset) input = _
    simp [storeExec, hworks, FileWrite.piece, hcount]
  have hself : writeStage env t (w.perform storeExec t op input).log =
      .writing s (offset + (FileWrite.piece (encoded env s) offset count).length) := by
    rw [writeStage_self, hexec, hstage]
    rfl
  have hlast : lastWrite env (w.perform storeExec t op input).log = lastWrite env w.log := by
    rw [lastWrite_perform, hexec]
    rfl
  have hshared : (w.perform storeExec t op input).shared =
      { w.shared with file := w.shared.file.map fun content =>
          FileWrite.overlay content (FileWrite.piece (encoded env s) offset count) offset } :=
    congrArg Prod.fst hexec
  have hstate := (h.lock.held t s (Or.inr ⟨offset, hstage⟩)).2
  obtain ⟨hencode, hoffset⟩ := h.lock.encodes t s offset hstage
  have hpiece : (FileWrite.piece (encoded env s) offset count).length =
      min count ((encoded env s).length - offset) := FileWrite.length_piece
  -- who writes writes this state, also after the step
  have hwriting : ∀ i s' offset', writeStage env i (w.perform storeExec t op input).log =
      .writing s' offset' → ∃ offset', writeStage env i w.log = .writing s' offset' := by
    intro i s' offset' hi
    by_cases hit : i = t
    · subst hit
      rw [hself] at hi
      obtain ⟨rfl, -⟩ := WriteStage.writing.inj hi
      exact ⟨offset, hstage⟩
    · rw [writeStage_other hit] at hi
      exact ⟨offset', hi⟩
  have hkept : FileKept env w → FileKept env (w.perform storeExec t op input) := by
    rintro ⟨s₀, hload, ⟨hstate₀, hsame⟩ | ⟨-, hnobody⟩⟩
    · have hfull := hsame t s offset hstage
      have hcovers : FileWrite.Covers (encoded env s) (encoded env s).length (encoded env s) :=
        ⟨Nat.le_refl _, Nat.le_refl _, fun _ _ => rfl⟩
      have hfile : (w.perform storeExec t op input).shared.file = w.shared.file := by
        rw [hshared, hfull]
        exact congrArg some (hcovers.overlay hoffset).eq_of_done
      refine ⟨s₀, by rw [hfile, hload], Or.inl ⟨by rw [hshared, hstate₀], fun i s' offset' hi => ?_⟩⟩
      obtain ⟨offset'', hi⟩ := hwriting i s' offset' hi
      rw [hfile]
      exact hsame i s' offset'' hi
    · exact absurd hstage (hnobody t s offset)
  refine ⟨⟨fun i s' hi => ?_, fun i s' offset' hi => ?_⟩, ?_, ?_, ?_, ?_⟩
  · rw [hshared]
    by_cases hit : i = t
    · subst hit
      rw [hself] at hi
      rcases hi with hlocked | ⟨offset', hopened⟩
      · cases hlocked
      · obtain ⟨rfl, -⟩ := WriteStage.writing.inj hopened
        exact h.lock.held i s (Or.inr ⟨offset, hstage⟩)
    · rw [writeStage_other hit] at hi
      exact h.lock.held i s' hi
  · by_cases hit : i = t
    · subst hit
      rw [hself] at hi
      obtain ⟨rfl, rfl⟩ := WriteStage.writing.inj hi
      exact ⟨hencode, by omega⟩
    · rw [writeStage_other hit] at hi
      exact h.lock.encodes i s' offset' hi
  · rw [hlast]
    exact fun hnone => hkept (h.unwritten hnone)
  · rw [hlast]
    intro i hi hdone
    by_cases hit : i = t
    · subst hit
      rw [hself] at hdone
      cases hdone
    · rw [writeStage_other hit] at hdone
      exact hkept (h.succeeded i hi hdone)
  · rw [hlast, hshared]
    intro i hi s' offset' hopened
    by_cases hit : i = t
    · subst hit
      rw [hself] at hopened
      obtain ⟨rfl, rfl⟩ := WriteStage.writing.inj hopened
      obtain ⟨content, hfile, hcovers⟩ := h.written i hi s offset hstage
      exact ⟨_, by rw [hfile]; rfl, hcovers.advance⟩
    · rw [writeStage_other hit] at hopened
      obtain ⟨content, hfile, hcovers⟩ := h.written i hi s' offset' hopened
      have hsame : s = s' :=
        hstate.symm.trans (h.lock.held i s' (Or.inr ⟨offset', hopened⟩)).2
      subst hsame
      exact ⟨_, by rw [hfile]; rfl, hcovers.overlay hoffset⟩
  · rw [hlast]
    intro i hi
    by_cases hit : i = t
    · subst hit
      exact Or.inl ⟨s, _, hself⟩
    · rw [writeStage_other hit]
      exact h.came i hi

/-- The lock is released: before the file has been opened, or after. -/
theorem FileKnown.released (h : FileKnown env w) (hjson : env.RoundTrips)
    (hstage : (∃ s, writeStage env t w.log = .locked s) ∨
      ∃ s offset, writeStage env t w.log = .writing s offset) :
    FileKnown env (w.perform storeExec t (.release t) input) := by
  have hself : ∃ b, writeStage env t (w.perform storeExec t (.release t) input).log = .done b := by
    rw [writeStage_self]
    rcases hstage with ⟨s, hs⟩ | ⟨s, offset, hs⟩ <;> rw [hs] <;> exact ⟨_, rfl⟩
  have hfile : (w.perform storeExec t (.release t) input).shared.file = w.shared.file := rfl
  have hlast : lastWrite env (w.perform storeExec t (.release t) input).log =
      if (writeStage env t w.log).isLocked then some t else lastWrite env w.log := lastWrite_perform
  have hheld : ∀ i s, (writeStage env i (w.perform storeExec t (.release t) input).log).Held s →
      i ≠ t ∧ (writeStage env i w.log).Held s := by
    intro i s hi
    by_cases hit : i = t
    · obtain ⟨b, hdone⟩ := hself
      rw [hit, hdone] at hi
      rcases hi with hlocked | ⟨offset, hopened⟩ <;> contradiction
    · rw [writeStage_other hit] at hi
      exact ⟨hit, hi⟩
  have hwriting : ∀ i s offset,
      writeStage env i (w.perform storeExec t (.release t) input).log = .writing s offset →
        i ≠ t ∧ writeStage env i w.log = .writing s offset := by
    intro i s offset hi
    obtain ⟨hit, -⟩ := hheld i s (Or.inr ⟨offset, hi⟩)
    rw [writeStage_other hit] at hi
    exact ⟨hit, hi⟩
  -- a writer leaves the file to those who write the same
  have hkept : (∃ s offset, writeStage env t w.log = .writing s offset) → FileKept env w →
      FileKept env (w.perform storeExec t (.release t) input) := by
    rintro ⟨s', offset', hopened⟩ ⟨s, hload, ⟨hstate, hsame⟩ | ⟨-, hnobody⟩⟩
    · exact ⟨s, hload, Or.inl ⟨hstate, fun i s₁ offset hi =>
        hsame i s₁ offset (hwriting i s₁ offset hi).2⟩⟩
    · exact absurd hopened (hnobody t s' offset')
  refine ⟨⟨fun i s hi => ?_, fun i s offset hi => ?_⟩, ?_, ?_, ?_, ?_⟩
  · obtain ⟨hit, hi⟩ := hheld i s hi
    obtain ⟨hreads, hstate⟩ := h.lock.held i s hi
    exact ⟨(List.mem_erase_of_ne hit).mpr hreads, hstate⟩
  · exact h.lock.encodes i s offset (hwriting i s offset hi).2
  · rw [hlast]
    rcases hstage with ⟨s, hs⟩ | hopened
    · rw [hs]
      exact fun hnone => absurd hnone (Option.some_ne_none t)
    · obtain ⟨s, offset, hs⟩ := hopened
      rw [hs]
      exact fun hnone => hkept ⟨s, offset, hs⟩ (h.unwritten hnone)
  · rw [hlast]
    intro i hi hdone
    rcases hstage with ⟨s, hs⟩ | ⟨s, offset, hs⟩
    · rw [hs] at hi
      obtain rfl := Option.some.inj hi
      rw [writeStage_self, hs] at hdone
      cases hdone
    · rw [hs] at hi
      by_cases hit : i = t
      · subst hit
        rw [writeStage_self, hs] at hdone
        have hfull : (encoded env s).length ≤ offset :=
          of_decide_eq_true (WriteStage.done.inj hdone)
        obtain ⟨hencode, hoffset⟩ := h.lock.encodes i s offset hs
        obtain ⟨content, hcontent, hcovers⟩ := h.written i hi s offset hs
        obtain rfl : offset = (encoded env s).length := Nat.le_antisymm hoffset hfull
        have hwhole := hcovers.eq_of_done
        subst hwhole
        have hstate := (h.lock.held i s (Or.inr ⟨_, hs⟩)).2
        refine ⟨s, ?_, Or.inl ⟨hstate, fun j s' offset' hj => ?_⟩⟩
        · rw [hfile, hcontent]
          simp [load, hjson.nonempty s _ hencode, hjson.decode_encode s _ hencode]
        · obtain ⟨hji, hj⟩ := hwriting j s' offset' hj
          have hsame : s = s' :=
            hstate.symm.trans (h.lock.held j s' (Or.inr ⟨offset', hj⟩)).2
          rw [hfile, hcontent, hsame]
      · rw [writeStage_other hit] at hdone
        exact hkept ⟨s, offset, hs⟩ (h.succeeded i hi hdone)
  · rw [hlast]
    intro i hi s offset hopened
    obtain ⟨hit, hopened⟩ := hwriting i s offset hopened
    split at hi
    · exact absurd (Option.some.inj hi).symm hit
    · exact h.written i hi s offset hopened
  · rw [hlast]
    intro i hi
    by_cases hit : i = t
    · subst hit
      exact Or.inr hself
    · rw [writeStage_other hit]
      split at hi
      · exact absurd (Option.some.inj hi).symm hit
      · exact h.came i hi

theorem FileKnown.step (h : FileKnown env w) (hjson : env.RoundTrips)
    (hfree : storeFree w.shared op = true)
    (hpermits : (writeStage env t w.log).Permits env t op) :
    FileKnown env (w.perform storeExec t op input) := by
  cases op with
  | change expectedRevision c =>
      rcases change_cases w.shared.state expectedRevision c with
        ⟨err, hrefused⟩ | ⟨sandboxes, -, -, hchanged⟩
      · have hexec : storeExec w.shared (.change expectedRevision c) input =
            (w.shared, .error err) := by
          rw [storeExec, hrefused]
        exact h.quiet (by rw [hexec]) (by rw [hexec]; rfl) (by rw [hexec]; rfl)
      · have hanswer : (storeExec w.shared (.change expectedRevision c) input).2 =
            .ok (saturatingAdd w.shared.state.revision 1) := by
          change (w.shared.state.change expectedRevision c).2 = _
          rw [hchanged]
        refine h.changed (List.isEmpty_iff.mp hfree) hpermits ?_ ?_
        · rw [writeStage_self, hanswer]
          rfl
        · rw [lastWrite_perform, hanswer]
          rfl
  | getSnapshot => exact h.quiet rfl rfl rfl
  | lockRead reader =>
      obtain ⟨rfl, hstage⟩ := hpermits
      exact h.locked hstage
  | createDirAll => exact h.quiet rfl rfl rfl
  | openFile =>
      obtain ⟨s, raw, hstage, hraw⟩ := hpermits
      cases hfails : input.fails with
      | true =>
          have hexec : storeExec w.shared .openFile input = (w.shared, .error input.message) := by
            simp [storeExec, hfails]
          exact h.quiet (by rw [hexec]) (by rw [hexec]; rfl) (by rw [hexec]; rfl)
      | false => exact h.opened hstage hraw hfails
  | write chunk offset =>
      obtain ⟨s, hstage, rfl⟩ := hpermits
      cases hfails : input.fails with
      | true =>
          have hexec : storeExec w.shared (.write ((encoded env s).drop offset) offset) input =
              (w.shared, .error input.message) := by
            simp [storeExec, hfails]
          exact h.quiet (by rw [hexec]) (by rw [hexec]; rfl) (by rw [hexec]; rfl)
      | false => exact h.wrote hstage hfails
  | release reader =>
      obtain ⟨rfl, hstage⟩ := hpermits
      exact h.released hjson hstage

end Steps

/-! ## Revisions -/

/-- The revision at which a call has changed the state. -/
def StoreEntry.changedAt? : StoreEntry → Option ℕ
  | ⟨_, .change expectedRevision _, .ok _⟩ => some expectedRevision
  | _ => none

/-- The revisions at which something was changed are past, and none of them
was changed twice; the largest revision is left out, since it stays. -/
structure RevisionsKnown (w : StoreWorld) : Prop where
  past : ∀ e ∈ w.log, ∀ r < u64Max, StoreEntry.changedAt? e = some r → r < w.shared.state.revision
  once : ∀ r < u64Max, w.log.countP (fun e => StoreEntry.changedAt? e = some r) ≤ 1

section Revisions

variable {w : StoreWorld} {t : ℕ} {input : StoreInput}

/-- The state is what it was, or a change has found its revision and has
raised it. -/
theorem storeExec_state (s : StoreState) (t : ℕ) (op : StoreOp) (input : StoreInput) :
    ((storeExec s op input).1.state = s.state ∧
        StoreEntry.changedAt? ⟨t, op, (storeExec s op input).2⟩ = none) ∨
      ((storeExec s op input).1.state.revision = saturatingAdd s.state.revision 1 ∧
        StoreEntry.changedAt? ⟨t, op, (storeExec s op input).2⟩ = some s.state.revision) := by
  cases op with
  | change expectedRevision c =>
      rcases change_cases s.state expectedRevision c with
        ⟨err, hrefused⟩ | ⟨sandboxes, rfl, -, hchanged⟩
      · refine Or.inl ⟨?_, ?_⟩
        · simp only [storeExec, hrefused]
        · simp only [storeExec, hrefused]
          rfl
      · refine Or.inr ⟨?_, ?_⟩
        · simp only [storeExec, hchanged]
        · simp only [storeExec, hchanged]
          rfl
  | openFile =>
      refine Or.inl ⟨?_, rfl⟩
      simp only [storeExec]
      split <;> rfl
  | write chunk offset =>
      refine Or.inl ⟨?_, rfl⟩
      simp only [storeExec]
      split <;> rfl
  | _ => exact Or.inl ⟨rfl, rfl⟩

theorem RevisionsKnown.step (h : RevisionsKnown w) (op : StoreOp) :
    RevisionsKnown (w.perform storeExec t op input) := by
  rcases storeExec_state w.shared t op input with ⟨hsame, hnone⟩ | ⟨hraised, hat⟩
  · refine ⟨fun e he r hr hchanged => ?_, fun r hr => ?_⟩
    · change r < (storeExec w.shared op input).1.state.revision
      rw [hsame]
      rcases List.mem_cons.mp he with rfl | he
      · rw [hnone] at hchanged
        cases hchanged
      · exact h.past e he r hr hchanged
    · change (_ :: w.log).countP _ ≤ 1
      rw [List.countP_cons_of_neg (by simp [hnone])]
      exact h.once r hr
  · refine ⟨fun e he r hr hchanged => ?_, fun r hr => ?_⟩
    · change r < (storeExec w.shared op input).1.state.revision
      rw [hraised, saturatingAdd]
      rcases List.mem_cons.mp he with rfl | he
      · rw [hat] at hchanged
        obtain rfl := Option.some.inj hchanged
        omega
      · have hpast := h.past e he r hr hchanged
        omega
    · change (_ :: w.log).countP _ ≤ 1
      by_cases hsame : w.shared.state.revision = r
      · -- all earlier changes were made at smaller revisions
        have hnever : w.log.countP (fun e => StoreEntry.changedAt? e = some r) = 0 := by
          rw [List.countP_eq_zero]
          intro e he heq
          exact absurd (h.past e he r hr (by simpa using heq)) (by omega)
        rw [List.countP_cons, hnever]
        split <;> omega
      · rw [List.countP_cons_of_neg (by simp [hat, hsame])]
        exact h.once r hr

theorem distinct_perform (h : Distinct w.shared.state.sandboxes) (op : StoreOp) :
    Distinct (w.perform storeExec t op input).shared.state.sandboxes := by
  cases op with
  | change expectedRevision c => exact change_distinct _ _ _ h
  | openFile =>
      simp only [World.perform, storeExec]
      split <;> exact h
  | write chunk offset =>
      simp only [World.perform, storeExec]
      split <;> exact h
  | _ => exact h

end Revisions

/-! ## Runs -/

/-- No request is under way: every one has been answered, or has not made a
call yet. -/
def Idle (p : StorePool) : Prop :=
  ∀ i, (∃ a, p.threads i = .ret a) ∨ ∀ e ∈ p.world.log, e.thread ≠ i

/-- The request that came to the file last has been answered, and not with
an error. -/
def LastWriteSucceeded (env : StoreEnv) (p : StorePool) : Prop :=
  ∀ i, lastWrite env p.world.log = some i → ∃ a, p.threads i = .ret (.ok a)

section Runs

variable {p : StorePool} {i : ℕ}

/-- Nobody who is idle is about to write, or writes. -/
theorem Idle.rests (h : Idle p) (hfollowed : p.FollowedBy (writeProtocol env) Ended) (i : ℕ) :
    (writeStage env i p.world.log).Rests := by
  have hends := hfollowed i
  rcases h i with ⟨a, hret⟩ | hunseen
  · rw [hret] at hends
    cases a with
    | ok answer =>
        rcases hends with hresting | hdone
        · exact Or.inl hresting
        · exact Or.inr ⟨true, hdone⟩
    | error err => exact hends
  · exact Or.inl (Protocol.stageOf_of_unseen (writeProtocol env i) hunseen)

/-- Once nothing is under way the file holds the state, if the last write has
succeeded. -/
theorem FileKnown.load_eq (h : FileKnown env p.world)
    (hfollowed : p.FollowedBy (writeProtocol env) Ended) (hidle : Idle p)
    (hlast : LastWriteSucceeded env p) :
    load env p.world.shared.file = .ok p.world.shared.state := by
  have hkept : FileKept env p.world := by
    cases hwho : lastWrite env p.world.log with
    | none => exact h.unwritten hwho
    | some i =>
        obtain ⟨answer, hret⟩ := hlast i hwho
        have hends := hfollowed i
        rw [hret] at hends
        rcases hends with hresting | hdone
        · exact absurd rfl (h.lastWrite_ne (Or.inl hresting) hwho)
        · exact h.succeeded i hwho hdone
  obtain ⟨s, hload, ⟨hstate, -⟩ | ⟨⟨i, hpending⟩, -⟩⟩ := hkept
  · rw [hload, hstate]
  · rcases hidle.rests hfollowed i with hresting | ⟨b, hdone⟩
    · rcases hpending with hchanged | ⟨s, hlocked⟩ <;> simp_all
    · rcases hpending with hchanged | ⟨s, hlocked⟩ <;> simp_all

/-- Whoever writes writes a piece of the present state. -/
theorem FileKnown.writes_present (h : FileKnown env p.world)
    (hfollowed : p.FollowedBy (writeProtocol env) Ended) {chunk : List UInt8} {offset : ℕ}
    (hnext : (p.threads i).next? = some (.write chunk offset)) :
    chunk = (encoded env p.world.shared.state).drop offset := by
  have hi := hfollowed i
  cases hprog : p.threads i with
  | ret a =>
      rw [hprog] at hnext
      cases hnext
  | call op next =>
      rw [hprog] at hnext hi
      obtain rfl := Option.some.inj hnext
      obtain ⟨⟨s, hstage, hchunk⟩, -⟩ := hi
      rw [hchunk, (h.lock.held i s (Or.inr ⟨offset, hstage⟩)).2]

end Runs

/-- In every run of the store, for any requests: the ids stay distinct; of
the changes that expect one revision, other than the largest, at most one is
made; whenever nothing is under way and the last write has succeeded the
file holds the state; and nobody ever writes anything but the present
state. -/
theorem configStore_persists (env : StoreEnv) (hjson : env.RoundTrips)
    (requests : ℕ → StoreRequest) (s : LocalSandboxConfigState) (file : Option (List UInt8))
    (hload : load env file = .ok s) (events : List (ℕ × StoreInput)) :
    let p := stateAt (Pool.waitStep storeExec storeFree) (storeStart env requests s file) events
    (Distinct s.sandboxes → ∀ n, Distinct (p n).world.shared.state.sandboxes) ∧
      (∀ n, ∀ r < u64Max,
        (p n).world.log.countP (fun e => StoreEntry.changedAt? e = some r) ≤ 1) ∧
      (∀ n, Idle (p n) → LastWriteSucceeded env (p n) →
        load env (p n).world.shared.file = .ok (p n).world.shared.state) ∧
      ∀ n i chunk offset, ((p n).threads i).next? = some (.write chunk offset) →
        chunk = (encoded env (p n).world.shared.state).drop offset := by
  intro p
  have hfollowed : (storeStart env requests s file).FollowedBy (writeProtocol env) Ended :=
    fun i => request_follows (requests i)
  have hfile : ∀ n, FileKnown env (p n).world ∧ (p n).FollowedBy (writeProtocol env) Ended := by
    refine fun n => hfollowed.invariant_waiting
      (fun w i op input hw hfree hpermits => hw.step hjson hfree hpermits) ?_ events n
    refine ⟨⟨fun i s' hi => ?_, fun i s' offset hi => ?_⟩, fun _ => ?_, fun i hi => ?_,
      fun i hi => ?_, fun i hi => ?_⟩
    · rcases hi with hlocked | ⟨offset, hopened⟩ <;> contradiction
    · cases hi
    · exact ⟨s, hload, Or.inl ⟨rfl, fun i s' offset hi => by cases hi⟩⟩
    · cases hi
    · cases hi
    · cases hi
  have hrevisions : ∀ n, RevisionsKnown (p n).world := fun n =>
    (hfollowed.invariant_waiting
      (fun w i op input (hw : RevisionsKnown w) (_ : storeFree w.shared op = true) _ => hw.step op)
      ⟨(fun e he => by cases he), fun r hr => Nat.zero_le _⟩ events n).1
  refine ⟨fun hdistinct n => ?_, fun n => (hrevisions n).once, fun n hidle hlast => ?_, ?_⟩
  · exact (hfollowed.invariant_waiting
      (fun w i op input (hw : Distinct w.shared.state.sandboxes)
        (_ : storeFree w.shared op = true) _ => distinct_perform hw op) hdistinct events n).1
  · exact (hfile n).1.load_eq (hfile n).2 hidle hlast
  · exact fun n i chunk offset hnext => (hfile n).1.writes_present (hfile n).2 hnext

namespace CreatedSandbox

def sandbox : LocalSandboxConfigRecord :=
  ⟨"id", "box", "map", ⟨.fixedPreset, .noon⟩, none, ⟨.clear, 20⟩, .startLine⟩

def created : LocalSandboxConfigState := ⟨1, [sandbox]⟩

def bytes (lines : List String) : List UInt8 :=
  (String.intercalate "\n" lines).toList.map fun c => UInt8.ofNat c.toNat

def emptyFile : List UInt8 :=
  bytes ["\x7b", "  \"revision\": 0,", "  \"sandboxes\": []", "\x7d"]

def createdFile : List UInt8 :=
  bytes ["\x7b", "  \"revision\": 1,", "  \"sandboxes\": [", "    \x7b",
    "      \"sandbox_id\": \"id\",", "      \"config\": \x7b",
    "        \"sandbox_name\": \"box\",", "        \"map_id\": \"map\",",
    "        \"time_of_day\": \x7b", "          \"mode\": \"fixed_preset\",",
    "          \"fixed_preset\": \"noon\"", "        \x7d,", "        \"ghost_mode\": null,",
    "        \"weather\": \x7b", "          \"weather_type\": \"clear\",",
    "          \"temperature_c\": 20", "        \x7d,",
    "        \"spawn_mode\": \"start_line\"", "      \x7d", "    \x7d", "  ]", "\x7d"]

/-- Two states and the files that they are written to. -/
def twoFiles (s : LocalSandboxConfigState) (file : List UInt8) (s' : LocalSandboxConfigState)
    (file' : List UInt8) : StoreEnv where
  build := .local
  hasParent := true
  encode t := if t = s then .ok file else if t = s' then .ok file' else .error "not written here"
  decode raw := if raw = file then .ok s else if raw = file' then .ok s' else .error "not read here"

section TwoFiles

variable {s s' t : LocalSandboxConfigState} {file file' raw : List UInt8}

theorem encode_twoFiles (h : (twoFiles s file s' file').encode t = .ok raw) :
    (t = s ∧ raw = file) ∨ (t = s' ∧ raw = file') := by
  simp only [twoFiles] at h
  split at h
  · rename_i ht
    exact Or.inl ⟨ht, (Except.ok.inj h).symm⟩
  · split at h
    · rename_i ht
      exact Or.inr ⟨ht, (Except.ok.inj h).symm⟩
    · cases h

theorem decode_twoFiles_of_ne (hne : raw ≠ file) (hne' : raw ≠ file') :
    (twoFiles s file s' file').decode raw = .error "not read here" := by
  simp [twoFiles, hne, hne']

theorem twoFiles_roundTrips (hfile : file ≠ []) (hfile' : file' ≠ []) (hne : file' ≠ file) :
    (twoFiles s file s' file').RoundTrips := by
  refine ⟨fun t raw hraw => ?_, fun t raw hraw => ?_⟩
  · obtain ⟨-, rfl⟩ | ⟨-, rfl⟩ := encode_twoFiles hraw
    · exact hfile
    · exact hfile'
  · obtain ⟨rfl, rfl⟩ | ⟨rfl, rfl⟩ := encode_twoFiles hraw
    · simp [twoFiles]
    · simp [twoFiles, hne]

end TwoFiles

/-- The two states that are written here, as they are written. -/
def json : StoreEnv := twoFiles .default emptyFile created createdFile

/-! The bytes of a long text are evaluated line by line. -/

def joined : List String → List UInt8
  | [] => []
  | [line] => bytes [line]
  | line :: next :: rest => bytes [line] ++ 10 :: joined (next :: rest)

theorem bytes_eq_joined (lines : List String) : bytes lines = joined lines := by
  induction lines with
  | nil => rfl
  | cons line rest ih =>
      cases rest with
      | nil => rfl
      | cons next rest =>
          rw [joined, ← ih]
          simp [bytes, String.intercalate_cons_cons]

theorem bytes_ne_nil {line : String} (hline : line ≠ "") (lines : List String) :
    bytes (line :: lines) ≠ [] := by
  intro hnil
  have htext := List.map_eq_nil_iff.mp hnil
  cases lines with
  | nil => exact hline (by simpa using htext)
  | cons next rest =>
      rw [String.intercalate_cons_cons] at htext
      exact hline (by simp_all)

theorem roundTrips : json.RoundTrips := by
  have hfiles : createdFile ≠ emptyFile := by
    rw [show createdFile = joined _ from bytes_eq_joined _,
      show emptyFile = joined _ from bytes_eq_joined _]
    decide +kernel
  exact twoFiles_roundTrips (bytes_ne_nil (by decide) _) (bytes_ne_nil (by decide) _) hfiles

/-- The store is created while a client creates a sandbox. -/
def requests : ℕ → StoreRequest
  | 0 => .create
  | 1 => .createConfig 0 sandbox
  | _ => .getSnapshot

/-- The sandbox is there before the lock is taken for the first file. -/
def events : List (ℕ × StoreInput) :=
  [1, 0, 1, 0, 1, 0, 1, 0, 1, 0, 1].map fun i => (i, ⟨false, "", 4096⟩)

theorem is_written :
    let p := stateAt (Pool.waitStep storeExec storeFree) (storeStart json requests .default none)
      events
    (p 11).world.shared.file = some createdFile ∧
      ∀ n, Idle (p n) → LastWriteSucceeded json (p n) →
        load json (p n).world.shared.file = .ok (p n).world.shared.state := by
  refine ⟨?_, (configStore_persists json roundTrips requests .default none rfl events).2.2.1⟩
  rw [json, show createdFile = joined _ from bytes_eq_joined _,
    show emptyFile = joined _ from bytes_eq_joined _]
  decide +kernel

end CreatedSandbox

end HackArena.Local.SandboxConfig
