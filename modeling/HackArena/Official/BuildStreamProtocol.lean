import HackArena.Official.BuildStreamLife
import HackArena.Official.BuildStreamPhases

/-!
# The build stream protocol

The phases of the tasks say at which stage each channel is. Every channel
begins with the announcement of its job and ends with the job's one final
event, and the worker never waits outside the time limit of a build, as
long as no event of a job overtakes its announcement and a build that ends
leaves room for the last events.
-/

namespace HackArena.Official

/-- The task `i` is the one that stands at the stage of its channel. -/
def BuildPhase.Stands (P : SubmissionBuildJob → Prop) (stages : ℕ → StreamStage) (i : ℕ) :
    BuildPhase → Prop
  | .idle | .pumping .. => True
  | .preparing tx => (stages tx).handler = .preparing ∧ (stages tx).handlerBy = i
  | .queued job => P job ∧ (stages job.eventsTx).handler = .queued ∧
      (stages job.eventsTx).handlerBy = i
  | .announced tx => (stages tx).handler = .announced ∧ (stages tx).handlerBy = i
  | .settling tx => (stages tx).job = .settling ∧ (stages tx).jobBy = i
  | .piping tx => (stages tx).job = .piping ∧ (stages tx).jobBy = i
  | .reported tx => (stages tx).job = .reported ∧ (stages tx).jobBy = i
  | .finished tx => (stages tx).job = .finished ∧ (stages tx).jobBy = i

/-- The handler's part of a stage changes only by the task that stands
there. -/
def StreamStage.HandlerMoves (i : ℕ) (old new : StreamStage) : Prop :=
  new.handler = old.handler ∧ new.handlerBy = old.handlerBy ∨ old.handlerBy = i ∨
    old.handler = .unborn

def StreamStage.JobMoves (i : ℕ) (old new : StreamStage) : Prop :=
  new.job = old.job ∧ new.jobBy = old.jobBy ∨ old.jobBy = i ∨ old.job = .absent ∨
    old.job = .queued

section Stands

variable {P Q : SubmissionBuildJob → Prop} {stages : ℕ → StreamStage} {new : StreamStage}
  {i j tx : ℕ}

theorem handler_of_moves (hmoves : (stages tx).HandlerMoves i new) (hne : j ≠ i) {other : ℕ}
    {stage : HandlerStage} (hborn : stage ≠ .unborn)
    (h : (stages other).handler = stage ∧ (stages other).handlerBy = j) :
    (Function.update stages tx new other).handler = stage ∧
      (Function.update stages tx new other).handlerBy = j := by
  rcases eq_or_ne other tx with rfl | hother
  · rw [Function.update_self]
    rcases hmoves with ⟨hhandler, hby⟩ | hby | hunborn
    · exact ⟨hhandler.trans h.1, hby.trans h.2⟩
    · exact absurd (h.2.symm.trans hby) hne
    · exact absurd (h.1.symm.trans hunborn) hborn
  · rwa [Function.update_of_ne hother]

theorem job_of_moves (hmoves : (stages tx).JobMoves i new) (hne : j ≠ i) {other : ℕ}
    {stage : JobStage} (habsent : stage ≠ .absent) (hqueued : stage ≠ .queued)
    (h : (stages other).job = stage ∧ (stages other).jobBy = j) :
    (Function.update stages tx new other).job = stage ∧
      (Function.update stages tx new other).jobBy = j := by
  rcases eq_or_ne other tx with rfl | hother
  · rw [Function.update_self]
    rcases hmoves with ⟨hjob, hby⟩ | hby | hold | hold
    · exact ⟨hjob.trans h.1, hby.trans h.2⟩
    · exact absurd (h.2.symm.trans hby) hne
    · exact absurd (h.1.symm.trans hold) habsent
    · exact absurd (h.1.symm.trans hold) hqueued
  · rwa [Function.update_of_ne hother]

theorem BuildPhase.Stands.others {phase : BuildPhase} (h : phase.Stands P stages j) (hne : j ≠ i)
    (himp : ∀ job, P job → Q job) (hhandler : (stages tx).HandlerMoves i new)
    (hjob : (stages tx).JobMoves i new) : phase.Stands Q (Function.update stages tx new) j := by
  cases phase with
  | idle | pumping => trivial
  | preparing | announced => exact handler_of_moves hhandler hne nofun h
  | queued job => exact ⟨himp job h.1, handler_of_moves hhandler hne nofun h.2⟩
  | settling | piping | reported | finished => exact job_of_moves hjob hne nofun nofun h

end Stands

/-- Every pump has one task at most, and holds a sender until it ends. -/
structure PumpsHeld (phases : ℕ → BuildPhase) (s : BuildState) : Prop where
  taken : ∀ i task tx, phases i = .pumping task tx →
    ∃ p, s.pumps[task]? = some p ∧ p.taken = true ∧ p.eventsTx = tx
  unique : ∀ i j task tx tx', phases i = .pumping task tx → phases j = .pumping task tx' → i = j
  held : ∀ task p, s.pumps[task]? = some p →
    p.taken = false ∨ (∃ i, phases i = .pumping task p.eventsTx) →
      ∃ c, s.channels[p.eventsTx]? = some c ∧ .pump task ∈ c.senders

/-- The channels, the queue and the tasks fit together. -/
structure StreamInv (P : SubmissionBuildJob → Prop) (phases : ℕ → BuildPhase)
    (stages : ℕ → StreamStage) (s : BuildState) : Prop where
  stands : ∀ i, (phases i).Stands P stages i
  unborn : ∀ tx, s.channels.length ≤ tx →
    (stages tx).handler = .unborn ∧ (stages tx).job = .absent
  queue : ∀ job ∈ s.queue, (stages job.eventsTx).job = .queued
  nodup : (s.queue.map (·.eventsTx)).Nodup
  good : ∀ tx c, s.channels[tx]? = some c → StreamGood P tx (stages tx) c
  pumps : PumpsHeld phases s

section Channels

variable (s : BuildState) (tx : ℕ) (f : EventChannel → EventChannel)

theorem modifyChannel_self : (s.modifyChannel tx f).channels[tx]? = (s.channels[tx]?).map f := by
  simp [BuildState.modifyChannel]

theorem modifyChannel_of_ne {other : ℕ} (hne : other ≠ tx) :
    (s.modifyChannel tx f).channels[other]? = s.channels[other]? := by
  simp [BuildState.modifyChannel, hne.symm]

@[simp] theorem modifyChannel_id : s.modifyChannel tx id = s := by
  simp [BuildState.modifyChannel]

@[simp] theorem modifyChannel_length :
    (s.modifyChannel tx f).channels.length = s.channels.length := by
  simp [BuildState.modifyChannel]

end Channels

theorem PumpsHeld.frame {phases phases' : ℕ → BuildPhase} {s s' : BuildState}
    (h : PumpsHeld phases s) (hpumps : s'.pumps = s.pumps)
    (hphases : ∀ i task tx, phases' i = .pumping task tx ↔ phases i = .pumping task tx)
    (hchannels : ∀ (tx : ℕ) (c : EventChannel), s.channels[tx]? = some c →
      ∃ c', s'.channels[tx]? = some c' ∧ ∀ task, .pump task ∈ c.senders → .pump task ∈ c'.senders) : PumpsHeld phases' s' where
  taken i task tx hi := by
    rw [hpumps]
    exact h.taken i task tx ((hphases i task tx).mp hi)
  unique i j task tx tx' hi hj :=
    h.unique i j task tx tx' ((hphases i task tx).mp hi) ((hphases j task tx').mp hj)
  held task p hp hrunning := by
    rw [hpumps] at hp
    obtain ⟨c, hc, hmem⟩ := h.held task p hp
      (hrunning.imp id fun ⟨i, hi⟩ => ⟨i, (hphases i _ _).mp hi⟩)
    obtain ⟨c', hc', hsenders⟩ := hchannels p.eventsTx c hc
    exact ⟨c', hc', hsenders task hmem⟩

/-- A phase that is not that of a pump. -/
def BuildPhase.NotPumping (phase : BuildPhase) : Prop := ∀ task tx, phase ≠ .pumping task tx

/-- A call that changes one channel, the stage of the channel and the
phase of the caller. -/
structure StreamMove (P Q : SubmissionBuildJob → Prop) (stages : ℕ → StreamStage) (s : BuildState)
    (i tx : ℕ) (old phase : BuildPhase) (new : StreamStage) (f : EventChannel → EventChannel)
    (queue : List SubmissionBuildJob) : Prop where
  imp : ∀ job, P job → Q job
  handler : (stages tx).HandlerMoves i new
  job : (stages tx).JobMoves i new
  stands : phase.Stands Q (Function.update stages tx new) i
  born : tx < s.channels.length
  queued : ∀ job ∈ queue, (Function.update stages tx new job.eventsTx).job = .queued
  nodup : (queue.map (·.eventsTx)).Nodup
  good : ∀ c, s.channels[tx]? = some c → StreamGood P tx (stages tx) c → StreamGood Q tx new (f c)
  senders : ∀ c task, .pump task ∈ c.senders → .pump task ∈ (f c).senders
  pumping : old = phase ∨ old.NotPumping ∧ phase.NotPumping

namespace StreamInv

variable {P Q : SubmissionBuildJob → Prop} {phases : ℕ → BuildPhase} {stages : ℕ → StreamStage}
  {s : BuildState} {i tx : ℕ}

theorem pumping_update {phase : BuildPhase}
    (h : phases i = phase ∨ (phases i).NotPumping ∧ phase.NotPumping) (j task tx : ℕ) :
    Function.update phases i phase j = .pumping task tx ↔ phases j = .pumping task tx := by
  rcases eq_or_ne j i with rfl | hne
  · rw [Function.update_self]
    rcases h with rfl | ⟨hold, hnew⟩
    · rfl
    · exact iff_of_false (hnew task tx) (hold task tx)
  · rw [Function.update_of_ne hne]

theorem move (h : StreamInv P phases stages s) {phase : BuildPhase} (new : StreamStage)
    {f : EventChannel → EventChannel} {queue : List SubmissionBuildJob} (gone : Bool)
    (m : StreamMove P Q stages s i tx (phases i) phase new f queue) :
    StreamInv Q (Function.update phases i phase) (Function.update stages tx new)
      { s.modifyChannel tx f with queue := queue, workerGone := gone } where
  stands j := by
    rcases eq_or_ne j i with rfl | hne
    · rw [Function.update_self]
      exact m.stands
    · rw [Function.update_of_ne hne]
      exact (h.stands j).others hne m.imp m.handler m.job
  unborn other hother := by
    have hlength : s.channels.length ≤ other := by simpa using hother
    rw [Function.update_of_ne (by have := m.born; omega)]
    exact h.unborn other hlength
  queue := m.queued
  nodup := m.nodup
  good other c hc := by
    rcases eq_or_ne other tx with rfl | hne
    · rw [Function.update_self]
      obtain ⟨c, hold, rfl⟩ := Option.map_eq_some_iff.mp
        ((modifyChannel_self s other f).symm.trans hc)
      exact m.good c hold (h.good other c hold)
    · rw [Function.update_of_ne hne]
      exact (h.good other c ((modifyChannel_of_ne s tx f hne).symm.trans hc)).mono m.imp
  pumps := by
    refine h.pumps.frame rfl (pumping_update m.pumping) fun other c hc => ?_
    rcases eq_or_ne other tx with rfl | hne
    · exact ⟨f c, (modifyChannel_self s other f).trans (by rw [hc]; rfl), m.senders c⟩
    · exact ⟨c, (modifyChannel_of_ne s tx f hne).trans hc, fun _ => id⟩

/-- A channel whose job is not in the queue does not disturb the queue. -/
theorem queued_update (h : StreamInv P phases stages s) {new : StreamStage}
    (hjob : (stages tx).job = .queued → new.job = .queued) :
    ∀ job ∈ s.queue, (Function.update stages tx new job.eventsTx).job = .queued := by
  intro job hmem
  rcases eq_or_ne job.eventsTx tx with heq | hne
  · rw [heq, Function.update_self]
    exact hjob (heq ▸ h.queue job hmem)
  · rw [Function.update_of_ne hne]
    exact h.queue job hmem

theorem stands_at (h : StreamInv P phases stages s) {phase : BuildPhase}
    (hphase : phases i = phase) : phase.Stands P stages i := hphase ▸ h.stands i

/-- A stage that is not the one of channels not yet made. -/
theorem born (h : StreamInv P phases stages s)
    (htx : (stages tx).handler ≠ .unborn ∨ (stages tx).job ≠ .absent) :
    tx < s.channels.length := by
  by_contra hlength
  obtain ⟨hhandler, hjob⟩ := h.unborn tx (not_lt.mp hlength)
  exact htx.elim (· hhandler) (· hjob)

theorem getElem?_of_born (hborn : tx < s.channels.length) : ∃ c, s.channels[tx]? = some c :=
  ⟨s.channels[tx], List.getElem?_eq_getElem hborn⟩

/-! ### The handler -/

theorem channel (h : StreamInv P phases stages s) (hphase : phases i = .idle) :
    StreamInv P (Function.update phases i (.preparing s.channels.length))
      (Function.update stages s.channels.length ⟨.preparing, i, .absent, i⟩)
      { s with channels := s.channels ++ [.new] } where
  stands j := by
    obtain ⟨hhandler, hjob⟩ := h.unborn s.channels.length le_rfl
    rcases eq_or_ne j i with rfl | hne
    · simp [BuildPhase.Stands]
    · rw [Function.update_of_ne hne]
      exact (h.stands j).others hne (fun _ => id) (Or.inr (Or.inr hhandler))
        (Or.inr (Or.inr (Or.inl hjob)))
  unborn tx htx := by
    have hlength : s.channels.length + 1 ≤ tx := by simpa using htx
    rw [Function.update_of_ne (by omega)]
    exact h.unborn tx (by omega)
  queue := h.queued_update fun hqueued => by
    rw [(h.unborn s.channels.length le_rfl).2] at hqueued
    cases hqueued
  nodup := h.nodup
  good tx c hc := by
    rcases lt_trichotomy tx s.channels.length with hlt | rfl | hgt
    · rw [List.getElem?_append_left hlt] at hc
      rw [Function.update_of_ne hlt.ne]
      exact h.good tx c hc
    · obtain rfl : EventChannel.new = c := by simpa using hc
      rw [Function.update_self]
      exact StreamGood.new i
    · rw [List.getElem?_eq_none (by simp; omega)] at hc
      cases hc
  pumps := by
    have hidle : (phases i).NotPumping := fun _ _ h => by
      rw [hphase] at h
      cases h
    refine h.pumps.frame rfl (pumping_update (Or.inr ⟨hidle, fun _ _ h => by cases h⟩))
      fun tx c hc => ⟨c, ?_, fun _ => id⟩
    rw [List.getElem?_append_left (List.getElem?_eq_some_iff.mp hc).1, hc]

theorem enqueue (h : StreamInv P phases stages s) {job : SubmissionBuildJob}
    (hphase : phases i = .preparing job.eventsTx) (himp : ∀ other, P other → Q other)
    (hjob : Q job) :
    StreamInv Q (Function.update phases i (.queued job))
      (Function.update stages job.eventsTx ⟨.queued, i, .queued, i⟩)
      { s.modifyChannel job.eventsTx (·.addSender .job) with queue := s.queue ++ [job] } := by
  obtain ⟨hhandler, hby⟩ : (stages job.eventsTx).handler = .preparing ∧
      (stages job.eventsTx).handlerBy = i := h.stands_at hphase
  have hborn : job.eventsTx < s.channels.length := h.born (Or.inl (by rw [hhandler]; nofun))
  obtain ⟨c, hc⟩ := getElem?_of_born hborn
  have habsent : (stages job.eventsTx).job = .absent := (h.good _ c hc).fresh hhandler
  have hnew : ∀ other ∈ s.queue, other.eventsTx ≠ job.eventsTx := by
    intro other hother heq
    have hqueued := h.queue other hother
    rw [heq, habsent] at hqueued
    cases hqueued
  refine h.move _ s.workerGone {
    imp := himp
    handler := Or.inr (Or.inl hby)
    job := Or.inr (Or.inr (Or.inl habsent))
    stands := ⟨hjob, by simp, by simp⟩
    born := hborn
    queued := ?_
    nodup := ?_
    good := fun c _ hgood => (hgood.enqueue hhandler i i).mono himp
    senders := fun c task hmem => List.mem_append_left _ hmem
    pumping := Or.inr ⟨by rw [hphase]; nofun, nofun⟩ }
  · intro other hother
    rcases List.mem_append.mp hother with hold | hlast
    · rw [Function.update_of_ne (hnew other hold)]
      exact h.queue other hold
    · rw [List.mem_singleton.mp hlast, Function.update_self]
  · rw [List.map_append, List.map_singleton, ← List.concat_eq_append, List.nodup_concat]
    refine ⟨?_, h.nodup⟩
    rintro hmem
    obtain ⟨other, hother, heq⟩ := List.mem_map.mp hmem
    exact hnew other hother heq

theorem announce (h : StreamInv P phases stages s) {job : SubmissionBuildJob}
    (hphase : phases i = .queued job) :
    ∃ stages', StreamInv P (Function.update phases i (.announced job.eventsTx)) stages'
      (s.modifyChannel job.eventsTx (·.push (.started job.submissionId))) := by
  obtain ⟨hjob, hhandler, hby⟩ : P job ∧ (stages job.eventsTx).handler = .queued ∧
      (stages job.eventsTx).handlerBy = i := h.stands_at hphase
  exact ⟨_, h.move { stages job.eventsTx with handler := .announced } s.workerGone {
    imp := fun _ => id
    handler := Or.inr (Or.inl hby)
    job := Or.inl ⟨rfl, rfl⟩
    stands := by simp [BuildPhase.Stands, hby]
    born := h.born (Or.inl (by rw [hhandler]; nofun))
    queued := h.queued_update id
    nodup := h.nodup
    good := fun c _ hgood => hgood.announce hhandler hjob rfl
    senders := fun c task hmem => by simpa using hmem
    pumping := Or.inr ⟨by rw [hphase]; nofun, nofun⟩ }⟩

/-- The handler lets the channel go. -/
theorem leave (h : StreamInv P phases stages s) {stage : HandlerStage}
    (hstage : (stages tx).handler = stage ∧ (stages tx).handlerBy = i) (hborn : stage ≠ .unborn)
    (hphase : (phases i).NotPumping) {f : EventChannel → EventChannel}
    (hgood : ∀ c, StreamGood P tx (stages tx) c →
      StreamGood P tx { stages tx with handler := .gone } (f c))
    (hsenders : ∀ c, (f c).senders = (c.dropSender .handler).senders) :
    ∃ stages', StreamInv P (Function.update phases i .idle) stages' (s.modifyChannel tx f) :=
  ⟨_, h.move { stages tx with handler := .gone } s.workerGone {
    imp := fun _ => id
    handler := Or.inr (Or.inl hstage.2)
    job := Or.inl ⟨rfl, rfl⟩
    stands := trivial
    born := h.born (Or.inl (by rw [hstage.1]; exact hborn))
    queued := h.queued_update id
    nodup := h.nodup
    good := fun c _ => hgood c
    senders := fun c task hmem => by
      rw [hsenders]
      exact StreamGood.mem_dropSender hmem nofun
    pumping := Or.inr ⟨hphase, nofun⟩ }⟩

/-! ### The worker -/

theorem take (h : StreamInv P phases stages s) {job : SubmissionBuildJob}
    {queue : List SubmissionBuildJob} (hqueue : s.queue = job :: queue)
    (hphase : phases i = .idle) :
    ∃ stages', StreamInv P (Function.update phases i (.settling job.eventsTx)) stages'
      { s with queue := queue } := by
  have hqueued : (stages job.eventsTx).job = .queued := h.queue job (by simp [hqueue])
  have hnodup := h.nodup
  rw [hqueue, List.map_cons, List.nodup_cons] at hnodup
  have hmove := h.move (f := id) { stages job.eventsTx with job := .settling, jobBy := i }
      s.workerGone {
    imp := fun _ => id
    handler := Or.inl ⟨rfl, rfl⟩
    job := Or.inr (Or.inr (Or.inr hqueued))
    stands := show BuildPhase.Stands P _ i (.settling job.eventsTx) by simp [BuildPhase.Stands]
    born := h.born (Or.inr (by rw [hqueued]; nofun))
    queued := fun other hother => by
      have hne : other.eventsTx ≠ job.eventsTx := fun heq =>
        hnodup.1 (heq ▸ List.mem_map_of_mem hother)
      rw [Function.update_of_ne hne]
      exact h.queue other (by simp [hqueue, hother])
    nodup := hnodup.2
    good := fun c _ hgood => hgood.take hqueued i
    senders := fun c task => id
    pumping := Or.inr ⟨by rw [hphase]; nofun, by nofun⟩ }
  rw [modifyChannel_id] at hmove
  exact ⟨_, hmove⟩

/-- The task that has the job goes on to the next stage of it. -/
theorem jobMove (h : StreamInv P phases stages s) (phase : BuildPhase) (next : JobStage)
    {stage : JobStage} (hstage : (stages tx).job = stage ∧ (stages tx).jobBy = i)
    (habsent : stage ≠ .absent)
    (hqueued : stage ≠ .queued) (hphase : (phases i).NotPumping) (hnext : phase.NotPumping)
    (hstands : phase.Stands P (Function.update stages tx { stages tx with job := next }) i)
    {f : EventChannel → EventChannel}
    (hgood : ∀ c, s.channels[tx]? = some c → StreamGood P tx (stages tx) c →
      StreamGood P tx { stages tx with job := next } (f c))
    (hsenders : ∀ c task, .pump task ∈ c.senders → .pump task ∈ (f c).senders) :
    ∃ stages', StreamInv P (Function.update phases i phase) stages' (s.modifyChannel tx f) :=
  ⟨_, h.move { stages tx with job := next } s.workerGone {
    imp := fun _ => id
    handler := Or.inl ⟨rfl, rfl⟩
    job := Or.inr (Or.inl hstage.2)
    stands := hstands
    born := h.born (Or.inr (by rw [hstage.1]; exact habsent))
    queued := h.queued_update fun hold => absurd (hstage.1.symm.trans hold) hqueued
    nodup := h.nodup
    good := hgood
    senders := hsenders
    pumping := Or.inr ⟨hphase, hnext⟩ }⟩

theorem startPipeline (h : StreamInv P phases stages s) :
    ∃ stages', StreamInv P (Function.update phases i (phases i).startPipeline) stages' s := by
  have hsame : StreamInv P (Function.update phases i (phases i)) stages s := by
    rwa [Function.update_eq_self]
  cases hphase : phases i with
  | settling tx =>
      have hstage := h.stands_at hphase
      have hmove := h.jobMove (f := id) (.piping tx) .piping hstage nofun nofun
        (by rw [hphase]; nofun) nofun (by simp [BuildPhase.Stands, hstage.2])
        (fun c _ hgood => hgood.startPipeline hstage.1) (fun _ _ => id)
      rwa [modifyChannel_id] at hmove
  | _ =>
      rw [hphase] at hsame
      exact ⟨stages, hsame⟩

theorem timeoutEnds (h : StreamInv P phases stages s) (hphase : phases i = .piping tx)
    (hsettleable : ∀ c, s.channels[tx]? = some c → c.Settleable) :
    ∃ stages', StreamInv P (Function.update phases i (.settling tx)) stages' s := by
  have hstage := h.stands_at hphase
  have hmove := h.jobMove (f := id) (.settling tx) .settling hstage nofun nofun
    (by rw [hphase]; nofun) nofun (by simp [BuildPhase.Stands, hstage.2])
    (fun c hc hgood => hgood.endTimeout hstage.1 (hsettleable c hc)) (fun _ _ => id)
  rwa [modifyChannel_id] at hmove

theorem report (h : StreamInv P phases stages s) (hphase : phases i = .settling tx)
    (hannounced : ∀ c, s.channels[tx]? = some c → c.Announced) (line : String) :
    ∃ stages', StreamInv P (Function.update phases i (.reported tx)) stages'
      (s.modifyChannel tx (·.push (.log line))) := by
  have hstage := h.stands_at hphase
  refine h.jobMove (.reported tx) .reported hstage nofun nofun (by rw [hphase]; nofun) nofun
    (by simp [BuildPhase.Stands, hstage.2]) (fun c hc hgood => ?_)
    (fun _ _ hmem => by simpa using hmem)
  exact hgood.push (hannounced c hc) (.log line) rfl (by rw [hstage.1]; rfl) .reported rfl nofun
    nofun (fun hpiping => by rw [hstage.1] at hpiping; cases hpiping) (fun _ => hstage.1)

theorem finish (h : StreamInv P phases stages s)
    (hphase : phases i = .settling tx ∨ phases i = .reported tx)
    (hannounced : ∀ c, s.channels[tx]? = some c → c.Announced) (success : Bool) :
    ∃ stages', StreamInv P (Function.update phases i (.finished tx)) stages'
      (s.modifyChannel tx (·.push (.finished success))) := by
  rcases hphase with hphase | hphase
  · have hstage := h.stands_at hphase
    exact h.jobMove (.finished tx) .finished hstage nofun nofun (by rw [hphase]; nofun) nofun
      (by simp [BuildPhase.Stands, hstage.2])
      (fun c hc hgood => hgood.finish (hannounced c hc) success (Or.inl hstage.1))
      (fun _ _ hmem => by simpa using hmem)
  · have hstage := h.stands_at hphase
    exact h.jobMove (.finished tx) .finished hstage nofun nofun (by rw [hphase]; nofun) nofun
      (by simp [BuildPhase.Stands, hstage.2])
      (fun c hc hgood => hgood.finish (hannounced c hc) success (Or.inr hstage.1))
      (fun _ _ hmem => by simpa using hmem)

theorem dropJob (h : StreamInv P phases stages s) (hphase : phases i = .finished tx) :
    ∃ stages', StreamInv P (Function.update phases i .idle) stages' (s.dropSender tx .job) := by
  have hstage := h.stands_at hphase
  exact h.jobMove .idle .gone hstage nofun nofun (by rw [hphase]; nofun) nofun trivial
    (fun c _ hgood => hgood.dropJob hstage.1)
    (fun _ _ hmem => StreamGood.mem_dropSender hmem nofun)

/-! ### Lines of output and clients -/

/-- A channel changes, but neither its stage nor anyone's phase. -/
theorem same (h : StreamInv P phases stages s) {f : EventChannel → EventChannel}
    (hgood : ∀ c, s.channels[tx]? = some c → StreamGood P tx (stages tx) c →
      StreamGood P tx (stages tx) (f c))
    (hsenders : ∀ c task, .pump task ∈ c.senders → .pump task ∈ (f c).senders) :
    StreamInv P phases stages (s.modifyChannel tx f) := by
  by_cases hborn : tx < s.channels.length
  · have hmove := h.move (i := 0) (stages tx) (f := f) s.workerGone {
      imp := fun _ => id
      handler := Or.inl ⟨rfl, rfl⟩
      job := Or.inl ⟨rfl, rfl⟩
      stands := by
        rw [Function.update_eq_self]
        exact h.stands 0
      born := hborn
      queued := h.queued_update id
      nodup := h.nodup
      good := hgood
      senders := hsenders
      pumping := Or.inl rfl }
    rwa [Function.update_eq_self, Function.update_eq_self] at hmove
  · have hnone : s.channels.modify tx f = s.channels :=
      List.modify_eq_self (not_lt.mp hborn)
    rwa [BuildState.modifyChannel, hnone]

theorem pipedLine (h : StreamInv P phases stages s) (hphase : phases i = .piping tx)
    (hannounced : ∀ c, s.channels[tx]? = some c → c.Announced) (line : String) :
    StreamInv P phases stages (s.modifyChannel tx (·.push (.log line))) :=
  h.same (fun c hc hgood => hgood.line (hannounced c hc) line (Or.inr (h.stands_at hphase).1))
    (fun _ _ hmem => by simpa using hmem)

theorem pumpedLine (h : StreamInv P phases stages s) {task : ℕ}
    (hphase : phases i = .pumping task tx)
    (hannounced : ∀ c, s.channels[tx]? = some c → c.Announced) (line : String) :
    StreamInv P phases stages (s.modifyChannel tx (·.push (.log line))) := by
  refine h.same (fun c hc hgood => hgood.line (hannounced c hc) line ?_)
    (fun _ _ hmem => by simpa using hmem)
  obtain ⟨p, hp, -, rfl⟩ := h.pumps.taken i task tx hphase
  obtain ⟨c', hc', hmem⟩ := h.pumps.held task p hp (Or.inr ⟨i, hphase⟩)
  rw [hc] at hc'
  obtain rfl := Option.some.inj hc'
  exact hgood.pumps task hmem

theorem recv (h : StreamInv P phases stages s)
    (hmore : ∀ c, s.channels[tx]? = some c → c.received < c.sent.length) :
    StreamInv P phases stages
      (s.modifyChannel tx fun c => { c with received := c.received + 1 }) :=
  h.same (fun c hc hgood => hgood.recv (hmore c hc)) fun _ _ => id

theorem close (h : StreamInv P phases stages s) :
    StreamInv P phases stages (s.modifyChannel tx fun c => { c with closed := true }) :=
  h.same (fun _ _ hgood => hgood.close) fun _ _ => id

/-! ### Pumps -/

/-- The stages stay, and with them what holds of the channels. -/
theorem repump (h : StreamInv P phases stages s) {phases' : ℕ → BuildPhase} {s' : BuildState}
    (hstands : ∀ j, (phases' j).Stands P stages j) (hqueue : s'.queue = s.queue)
    (hlength : s'.channels.length = s.channels.length)
    (hgood : ∀ tx c, s'.channels[tx]? = some c → StreamGood P tx (stages tx) c)
    (hpumps : PumpsHeld phases' s') : StreamInv P phases' stages s' where
  stands := hstands
  unborn tx htx := h.unborn tx (hlength ▸ htx)
  queue := by simpa only [hqueue] using h.queue
  nodup := by simpa only [hqueue] using h.nodup
  good := hgood
  pumps := hpumps

theorem stands_update (h : StreamInv P phases stages s) {phase : BuildPhase}
    (hphase : phase.Stands P stages i) (j : ℕ) :
    (Function.update phases i phase j).Stands P stages j := by
  rcases eq_or_ne j i with rfl | hne
  · rwa [Function.update_self]
  · rw [Function.update_of_ne hne]
    exact h.stands j

theorem spawnPump (h : StreamInv P phases stages s) (hphase : phases i = .piping tx)
    (label : String) :
    StreamInv P phases stages
      { s.modifyChannel tx (·.addSender (.pump s.pumps.length)) with
          pumps := s.pumps ++ [⟨tx, label, false, none⟩] } := by
  have hstage := h.stands_at hphase
  have hsame : StreamInv P phases stages
      (s.modifyChannel tx (·.addSender (.pump s.pumps.length))) :=
    h.same (fun c _ hgood => hgood.addPump hstage.1 s.pumps.length)
      fun _ _ hmem => List.mem_append_left _ hmem
  refine hsame.repump hsame.stands rfl rfl hsame.good {
    taken := fun j task other hj => ?_
    unique := h.pumps.unique
    held := fun task p hp hrunning => ?_ }
  · obtain ⟨p, hp, rest⟩ := h.pumps.taken j task other hj
    exact ⟨p, by rw [List.getElem?_append_left (List.getElem?_eq_some_iff.mp hp).1, hp], rest⟩
  · rcases lt_trichotomy task s.pumps.length with hlt | rfl | hgt
    · exact hsame.pumps.held task p (by rwa [List.getElem?_append_left hlt] at hp) hrunning
    · obtain rfl : PumpTask.mk tx label false none = p := by simpa using hp
      obtain ⟨c, hc⟩ := getElem?_of_born (h.born (Or.inr (by rw [hstage.1]; nofun)))
      refine ⟨c.addSender (.pump s.pumps.length), ?_, by simp [EventChannel.addSender]⟩
      exact (modifyChannel_self s tx _).trans (by rw [hc]; rfl)
    · rw [List.getElem?_eq_none (by simp; omega)] at hp
      cases hp

/-- The task of a pump that nobody has taken up yet. -/
theorem takePump (h : StreamInv P phases stages s) (hphase : phases i = .idle) {task : ℕ}
    {p : PumpTask} (hp : s.pumps[task]? = some p) (htaken : p.taken = false) :
    StreamInv P (Function.update phases i (.pumping task p.eventsTx)) stages
      { s with pumps := s.pumps.modify task fun p => { p with taken := true } } := by
  have hfree : ∀ j tx, phases j ≠ .pumping task tx := by
    intro j tx hj
    obtain ⟨q, hq, htrue, -⟩ := h.pumps.taken j task tx hj
    rw [hp] at hq
    obtain rfl := Option.some.inj hq
    rw [htaken] at htrue
    cases htrue
  refine h.repump (h.stands_update trivial) rfl rfl h.good {
    taken := fun j other tx hj => ?_
    unique := fun j k other tx tx' hj hk => ?_
    held := fun other q hq hrunning => ?_ }
  · rcases eq_or_ne j i with rfl | hne
    · rw [Function.update_self] at hj
      cases hj
      exact ⟨{ p with taken := true }, by simp [hp], rfl, rfl⟩
    · rw [Function.update_of_ne hne] at hj
      obtain ⟨q, hq, htrue, htx⟩ := h.pumps.taken j other tx hj
      have hother : other ≠ task := by
        rintro rfl
        exact hfree j tx hj
      exact ⟨q, by simpa [hother.symm] using hq, htrue, htx⟩
  · rcases eq_or_ne j i with rfl | hj'
    · rcases eq_or_ne k j with rfl | hk'
      · rfl
      · rw [Function.update_self] at hj
        cases hj
        rw [Function.update_of_ne hk'] at hk
        exact absurd hk (hfree k tx')
    · rw [Function.update_of_ne hj'] at hj
      rcases eq_or_ne k i with rfl | hk'
      · rw [Function.update_self] at hk
        cases hk
        exact absurd hj (hfree j tx)
      · rw [Function.update_of_ne hk'] at hk
        exact h.pumps.unique j k other tx tx' hj hk
  · rcases eq_or_ne other task with rfl | hother
    · obtain rfl : { p with taken := true } = q := by simpa [hp] using hq
      exact h.pumps.held other p hp (Or.inl htaken)
    · refine h.pumps.held other q (by simpa [hother.symm] using hq) (hrunning.imp id ?_)
      rintro ⟨j, hj⟩
      rcases eq_or_ne j i with rfl | hne
      · rw [Function.update_self] at hj
        exact absurd (BuildPhase.pumping.inj hj).1.symm hother
      · rw [Function.update_of_ne hne] at hj
        exact ⟨j, hj⟩

theorem endPump (h : StreamInv P phases stages s) {task : ℕ}
    (hphase : phases i = .pumping task tx) (result : Except String String) :
    StreamInv P (Function.update phases i .idle) stages
      { s.dropSender tx (.pump task) with
          pumps := s.pumps.modify task fun p => { p with result := some result } } := by
  obtain ⟨p, hp, htaken, htx⟩ := h.pumps.taken i task tx hphase
  have hold : ∀ j other tx', Function.update phases i .idle j = .pumping other tx' →
      phases j = .pumping other tx' ∧ other ≠ task := by
    intro j other tx' hj
    rcases eq_or_ne j i with rfl | hne
    · rw [Function.update_self] at hj
      cases hj
    · rw [Function.update_of_ne hne] at hj
      refine ⟨hj, ?_⟩
      rintro rfl
      exact hne (h.pumps.unique j i other tx' tx hj hphase)
  refine h.repump (h.stands_update trivial) rfl (modifyChannel_length s tx _)
    (fun other c hc => ?_) {
      taken := fun j other tx' hj => ?_
      unique := fun j k other tx' tx'' hj hk =>
        h.pumps.unique j k other tx' tx'' (hold j other tx' hj).1 (hold k other tx'' hk).1
      held := fun other q hq hrunning => ?_ }
  · rcases eq_or_ne other tx with rfl | hne
    · obtain ⟨c, hc', rfl⟩ := Option.map_eq_some_iff.mp
        ((modifyChannel_self s other _).symm.trans hc)
      exact (h.good other c hc').dropPump task
    · exact h.good other c ((modifyChannel_of_ne s tx _ hne).symm.trans hc)
  · obtain ⟨hj, hother⟩ := hold j other tx' hj
    obtain ⟨q, hq, rest⟩ := h.pumps.taken j other tx' hj
    exact ⟨q, by simpa [hother.symm] using hq, rest⟩
  · have hother : other ≠ task := by
      rintro rfl
      obtain rfl : { p with result := some result } = q := by simpa [hp] using hq
      rcases hrunning with huntaken | ⟨j, hj⟩
      · rw [htaken] at huntaken
        cases huntaken
      · exact (hold j other _ hj).2 rfl
    obtain ⟨c, hc, hmem⟩ := h.pumps.held other q (by simpa [hother.symm] using hq)
      (hrunning.imp id fun ⟨j, hj⟩ => ⟨j, (hold j other _ hj).1⟩)
    rcases eq_or_ne q.eventsTx tx with heq | hne
    · subst heq
      refine ⟨c.dropSender (.pump task), ?_, StreamGood.mem_dropSender hmem (by simpa using hother)⟩
      exact (modifyChannel_self s _ _).trans (by rw [hc]; rfl)
    · exact ⟨c, (modifyChannel_of_ne s tx _ hne).trans hc, hmem⟩

theorem mono (h : StreamInv P phases stages s) (himp : ∀ job, P job → Q job) :
    StreamInv Q phases stages s where
  __ := h
  stands i := by
    have hi := h.stands i
    cases hphase : phases i with
    | queued job =>
        rw [hphase] at hi
        exact ⟨himp job hi.1, hi.2⟩
    | _ => rwa [hphase] at hi
  good tx c hc := (h.good tx c hc).mono himp

end StreamInv

/-! ## Steps -/

namespace BuildState

/-- The call keeps the order and the room of the streams: no event of a
job overtakes its announcement, a build that ends leaves room for the last
two events and nobody to fill it, and the worker does not stop before the
queue is empty. -/
def InOrder (s : BuildState) (input : Input) : BuildOp → Prop
  | .send .worker tx _ | .send .pump tx _ => ∀ c ∈ s.channel? tx, c.Announced
  | .sendTimed tx _ => input.elapsed ∨ ∀ c ∈ s.channel? tx, c.Announced
  | .timeoutEnds tx => ∀ c ∈ s.channel? tx, c.Settleable
  | .nextJob => input.present → s.queue = []
  | _ => True

instance (s : BuildState) (input : Input) (op : BuildOp) : Decidable (s.InOrder input op) :=
  match op with
  | .send .worker tx _ | .send .pump tx _ =>
      inferInstanceAs (Decidable (∀ c ∈ s.channel? tx, c.Announced))
  | .sendTimed tx _ =>
      inferInstanceAs (Decidable (input.elapsed ∨ ∀ c ∈ s.channel? tx, c.Announced))
  | .timeoutEnds tx => inferInstanceAs (Decidable (∀ c ∈ s.channel? tx, c.Settleable))
  | .nextJob => inferInstanceAs (Decidable (input.present → s.queue = []))
  | .send .handler _ _ | .channel | .enqueue _ | .respond _ | .discard _ | .dropJob _
  | .spawnPump .. | .joinPump _ | .takePump | .endPump .. | .recv _ | .dropReceiver _ =>
      inferInstanceAs (Decidable True)

end BuildState

namespace StreamInv

variable {P Q : SubmissionBuildJob → Prop} {phases : ℕ → BuildPhase} {stages : ℕ → StreamStage}
  {s : BuildState} {i tx : ℕ}

/-- A call that leaves the phase of its task. -/
theorem keep (h : StreamInv P phases stages s) :
    ∃ stages', StreamInv P (Function.update phases i (phases i)) stages' s :=
  ⟨stages, by rwa [Function.update_eq_self]⟩

theorem nextJob (h : StreamInv P phases stages s) (hphase : phases i = .idle) {input : Input}
    (hstops : input.present → s.queue = []) :
    ∃ stages', StreamInv P (Function.update phases i
      (BuildPhase.next (phases i) (.build .nextJob) (s.nextJob input).2)) stages'
      (s.nextJob input).1 := by
  cases hqueue : s.queue with
  | nil =>
      have hstop : s.nextJob input = (s.stopWorker, none) := by simp [BuildState.nextJob, hqueue]
      have hstopped : s.stopWorker = { s with workerGone := true } := by
        simp [BuildState.stopWorker, hqueue]
      rw [hstop, hstopped]
      obtain ⟨stages', hkeep⟩ := h.keep (i := i)
      exact ⟨stages', { hkeep with
        pumps := hkeep.pumps.frame rfl (fun _ _ _ => Iff.rfl) fun _ c hc => ⟨c, hc, fun _ => id⟩ }⟩
  | cons job queue =>
      have hpresent : input.present = false := by
        cases hp : input.present with
        | false => rfl
        | true =>
            rw [hstops hp] at hqueue
            cases hqueue
      have hnext : s.nextJob input = ({ s with queue := queue }, some job) := by
        simp [BuildState.nextJob, hqueue, hpresent]
      rw [hnext]
      exact h.take hqueue hphase

theorem takePump_exec (h : StreamInv P phases stages s) (hphase : phases i = .idle) :
    ∃ stages', StreamInv P (Function.update phases i
      (BuildPhase.next (phases i) (.build .takePump) s.takePump.2)) stages' s.takePump.1 := by
  unfold BuildState.takePump
  cases hfind : s.pumps.zipIdx.find? fun p => !p.1.taken with
  | none => exact h.keep
  | some found =>
      obtain ⟨p, task⟩ := found
      have hp : s.pumps[task]? = some p := by
        simpa [List.mk_mem_zipIdx_iff_getElem?] using List.mem_of_find?_eq_some hfind
      have htaken : p.taken = false := by simpa using List.find?_some hfind
      exact ⟨stages, h.takePump hphase hp htaken⟩

/-- One call of the task `i` that its phase permits. -/
theorem exec (h : StreamInv P phases stages s) {op : BuildOp} {input : Input}
    (hpermits : (phases i).Permits (.build op)) (horder : s.InOrder input op)
    (himp : ∀ job, P job → Q job)
    (henqueue : ∀ job, op = .enqueue job → s.workerGone = false → Q job) :
    ∃ stages', StreamInv Q
      (Function.update phases i (BuildPhase.next (phases i) (.build op) (s.exec op input).2))
      stages' (s.exec op input).1 := by
  replace h := h.mono himp
  cases op with
  | channel => exact ⟨_, h.channel hpermits⟩
  | enqueue job =>
      cases hgone : s.workerGone with
      | true =>
          simp only [BuildState.exec, hgone, if_true]
          exact h.keep
      | false =>
          simp only [BuildState.exec, hgone, Bool.false_eq_true, if_false]
          exact ⟨_, h.enqueue hpermits (fun _ => id) (henqueue job rfl hgone)⟩
  | respond tx =>
      have hstage := h.stands_at hpermits
      exact h.leave hstage nofun (by rw [hpermits]; nofun) (fun c hgood => hgood.respond hstage.1)
        fun _ => rfl
  | discard tx =>
      have hstage := h.stands_at hpermits
      exact h.leave hstage nofun (by rw [hpermits]; nofun) (fun c hgood => hgood.discard hstage.1)
        fun _ => rfl
  | send task tx event =>
      cases task with
      | handler =>
          obtain ⟨job, hphase, rfl, rfl⟩ := hpermits
          exact h.announce hphase
      | worker =>
          cases event with
          | started id => exact hpermits.elim
          | log line => exact h.report hpermits horder line
          | finished success => exact h.finish hpermits horder success
      | pump =>
          obtain ⟨task, line, hphase, rfl⟩ := hpermits
          exact (h.pumpedLine hphase horder line).keep
  | sendTimed tx event =>
      obtain ⟨hphase, line, rfl⟩ := hpermits
      cases helapsed : input.elapsed with
      | true =>
          simp only [BuildState.exec, helapsed, if_true]
          exact h.keep
      | false =>
          simp only [BuildState.exec, helapsed, Bool.false_eq_true, if_false]
          exact (h.pipedLine hphase (horder.resolve_left (by simp [helapsed])) line).keep
  | nextJob => exact h.nextJob hpermits horder
  | timeoutEnds tx => exact h.timeoutEnds hpermits horder
  | dropJob tx => exact h.dropJob hpermits
  | spawnPump tx label =>
      exact (h.spawnPump hpermits label).keep
  | joinPump task => exact h.keep
  | takePump => exact h.takePump_exec hpermits
  | endPump task tx result => exact ⟨_, h.endPump hpermits result⟩
  | recv tx =>
      simp only [BuildState.exec]
      split
      · exact h.keep
      · rename_i event hevent
        refine (h.recv fun c hc => ?_).keep
        obtain ⟨c', hc', hsent⟩ := Option.bind_eq_some_iff.mp hevent
        obtain rfl := Option.some.inj (hc.symm.trans hc')
        exact (List.getElem?_eq_some_iff.mp hsent).1
  | dropReceiver tx => exact h.close.keep

end StreamInv

end HackArena.Official
