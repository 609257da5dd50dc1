import HackArena.Official.BuildStreams

/-!
# The life of a build stream

A channel goes through two lives at once. Its handler prepares it, queues
its job and announces it. The job waits in the queue, is settled or piped
by the worker, and is finished. What a channel may hold depends on the
stages of the two.
-/

namespace HackArena.Official

inductive HandlerStage where
  | unborn | preparing | queued | announced | gone
  deriving DecidableEq

inductive JobStage where
  | absent | queued | settling | piping | reported | finished | gone
  deriving DecidableEq

/-- A stage knows which task stands there. -/
structure StreamStage where
  handler : HandlerStage
  handlerBy : ℕ
  job : JobStage
  jobBy : ℕ

def HandlerStage.isEarly : HandlerStage → Bool
  | .preparing | .queued => true
  | _ => false

def HandlerStage.isHeld : HandlerStage → Bool
  | .preparing | .queued | .announced => true
  | _ => false

/-- The final event of the job is still to be sent. -/
def JobStage.isPending : JobStage → Bool
  | .queued | .settling | .piping | .reported => true
  | _ => false

def JobStage.isHeld : JobStage → Bool
  | .queued | .settling | .piping | .reported | .finished => true
  | _ => false

def BuildEvent.isFinished : BuildEvent → Bool
  | .finished _ => true
  | _ => false

def BuildEvent.isStarted : BuildEvent → Bool
  | .started _ => true
  | _ => false

namespace EventChannel

/-- The receiver is gone, or the handler has sent its event. -/
def Announced (c : EventChannel) : Prop := c.closed ∨ c.sent.any BuildEvent.isStarted

instance (c : EventChannel) : Decidable c.Announced :=
  inferInstanceAs (Decidable (c.closed ∨ c.sent.any BuildEvent.isStarted))

def EndsFinished (c : EventChannel) : Prop :=
  c.sent.getLast?.map BuildEvent.isFinished = some true

/-- A job can be settled without waiting: the receiver is gone, or no task
is left that could fill the two places that settling may need. -/
def Settleable (c : EventChannel) : Prop :=
  c.closed ∨ (∀ sender ∈ c.senders, sender = .handler ∨ sender = .job) ∧
    c.buffered + 2 ≤ buildEventChannelCapacity

instance (c : EventChannel) : Decidable c.Settleable :=
  inferInstanceAs (Decidable (c.closed ∨
    (∀ sender ∈ c.senders, sender = .handler ∨ sender = .job) ∧
      c.buffered + 2 ≤ buildEventChannelCapacity))

section Push

variable {c : EventChannel} {event : BuildEvent}

theorem push_of_closed (h : c.closed = true) : c.push event = c := if_pos h

theorem push_of_open (h : c.closed = false) :
    c.push event = { c with sent := c.sent ++ [event] } := if_neg (by simp [h])

theorem buffered_push_le : (c.push event).buffered ≤ c.buffered + 1 := by
  unfold push
  split
  · omega
  · simp only [buffered, List.length_append, List.length_singleton]
    omega

end Push

end EventChannel

/-- What holds of a channel whose handler and job are at the stages. The
first event is the announcement of a job with `P`. -/
structure StreamGood (P : SubmissionBuildJob → Prop) (eventsTx : ℕ) (stage : StreamStage)
    (c : EventChannel) : Prop where
  received : c.received ≤ c.sent.length
  first : ∀ event ∈ c.sent.head?, ∃ job, P job ∧ job.eventsTx = eventsTx ∧
    event = .started job.submissionId
  early : stage.handler.isEarly = true → c.sent = []
  announced : stage.handler.isEarly = true ∨ c.Announced
  last : ∀ event ∈ c.sent.dropLast, event.isFinished = false
  pending : stage.job.isPending = true ∨ stage.handler = .preparing →
    ∀ event ∈ c.sent, event.isFinished = false
  done : c.closed ∨ stage.job.isPending = true ∨ stage.handler = .preparing ∨ c.EndsFinished
  pumps : ∀ task, .pump task ∈ c.senders → c.closed ∨ stage.job = .piping
  queued : stage.job = .queued → c.closed ∨ c.sent.length ≤ 1
  settling : stage.job = .settling → c.closed ∨ c.buffered + 2 ≤ buildEventChannelCapacity
  reported : stage.job = .reported → c.closed ∨ c.buffered + 1 ≤ buildEventChannelCapacity
  handlerHeld : stage.handler.isHeld = true → .handler ∈ c.senders
  jobHeld : stage.job.isHeld = true → .job ∈ c.senders
  fresh : stage.handler = .preparing → stage.job = .absent

namespace StreamGood

variable {P : SubmissionBuildJob → Prop} {eventsTx : ℕ} {stage : StreamStage} {c : EventChannel}

/-- A stream that nobody sends to any more has ended as it should. -/
theorem ended (h : StreamGood P eventsTx stage c) (hsenders : c.senders = []) :
    c.closed ∨ c.EndsFinished := by
  have hhandler : stage.handler.isHeld ≠ true := by
    intro hheld
    simpa [hsenders] using h.handlerHeld hheld
  have hjob : stage.job.isHeld ≠ true := by
    intro hheld
    simpa [hsenders] using h.jobHeld hheld
  rcases h.done with hclosed | hpending | hpreparing | hfinished
  · exact Or.inl hclosed
  · exact absurd (by cases hs : stage.job <;> simp_all [JobStage.isPending, JobStage.isHeld]) hjob
  · exact absurd (by rw [hpreparing]; rfl) hhandler
  · exact Or.inr hfinished

theorem mono {Q : SubmissionBuildJob → Prop} (h : StreamGood P eventsTx stage c)
    (himp : ∀ job, P job → Q job) : StreamGood Q eventsTx stage c where
  __ := h
  first event hevent := by
    obtain ⟨job, hjob, rest⟩ := h.first event hevent
    exact ⟨job, himp job hjob, rest⟩

theorem new (i : ℕ) : StreamGood P eventsTx ⟨.preparing, i, .absent, i⟩ .new where
  received := by simp [EventChannel.new]
  first := by simp [EventChannel.new]
  early _ := rfl
  announced := Or.inl rfl
  last := by simp [EventChannel.new]
  pending := by simp [EventChannel.new]
  done := Or.inr (Or.inr (Or.inl rfl))
  pumps := by simp [EventChannel.new]
  queued := nofun
  settling := nofun
  reported := nofun
  handlerHeld _ := by simp [EventChannel.new]
  jobHeld := nofun
  fresh _ := rfl

/-! ### The handler -/

theorem enqueue (h : StreamGood P eventsTx stage c) (hstage : stage.handler = .preparing)
    (i j : ℕ) :
    StreamGood P eventsTx ⟨.queued, i, .queued, j⟩ (c.addSender .job) where
  received := h.received
  first := h.first
  early _ := h.early (by rw [hstage]; rfl)
  announced := Or.inl rfl
  last := h.last
  pending _ := h.pending (Or.inr hstage)
  done := Or.inr (Or.inl rfl)
  pumps task htask := by
    have hold : .pump task ∈ c.senders := by simpa [EventChannel.addSender] using htask
    refine (h.pumps task hold).imp id fun hpiping => ?_
    rw [h.fresh hstage] at hpiping
    cases hpiping
  queued _ := Or.inr (by simp [EventChannel.addSender, h.early (by rw [hstage]; rfl)])
  settling := nofun
  reported := nofun
  handlerHeld _ := List.mem_append_left _ (h.handlerHeld (by rw [hstage]; rfl))
  jobHeld _ := by simp [EventChannel.addSender]
  fresh := nofun

theorem announce (h : StreamGood P eventsTx stage c) (hstage : stage.handler = .queued)
    {job : SubmissionBuildJob} (hjob : P job) (htx : job.eventsTx = eventsTx) :
    StreamGood P eventsTx { stage with handler := .announced }
      (c.push (.started job.submissionId)) := by
  have hempty : c.sent = [] := h.early (by rw [hstage]; rfl)
  have hbuffered : (c.push (.started job.submissionId)).buffered ≤ 1 := by
    refine EventChannel.buffered_push_le.trans ?_
    simp [EventChannel.buffered, hempty]
  cases hclosed : c.closed with
  | true =>
      rw [EventChannel.push_of_closed hclosed]
      exact { h with
        early := nofun
        announced := Or.inr (Or.inl hclosed)
        pending := fun _ => by simp [hempty]
        done := Or.inl hclosed
        handlerHeld := fun _ => h.handlerHeld (by rw [hstage]; rfl)
        fresh := nofun }
  | false =>
      have hpush : c.push (.started job.submissionId) =
          { c with sent := c.sent ++ [.started job.submissionId] } :=
        EventChannel.push_of_open hclosed
      rw [hempty, List.nil_append] at hpush
      rw [hpush] at hbuffered ⊢
      exact {
        received := by have := h.received; simp only [hempty] at this ⊢; simp at this ⊢; omega
        first := by simpa using ⟨job, hjob, htx, rfl⟩
        early := nofun
        announced := Or.inr (Or.inr (by simp [BuildEvent.isStarted]))
        last := by simp
        pending := fun _ => by simp [BuildEvent.isFinished]
        done := by
          rcases h.done with hc | hpending | hpreparing | hfinished
          · rw [hclosed] at hc
            cases hc
          · exact Or.inr (Or.inl hpending)
          · rw [hstage] at hpreparing
            cases hpreparing
          · simp [EventChannel.EndsFinished, hempty] at hfinished
        pumps := h.pumps
        queued := fun _ => Or.inr (by simp)
        settling := fun _ => Or.inr (by simp only [buildEventChannelCapacity]; omega)
        reported := fun _ => Or.inr (by simp only [buildEventChannelCapacity]; omega)
        handlerHeld := fun _ => h.handlerHeld (by rw [hstage]; rfl)
        jobHeld := h.jobHeld
        fresh := nofun }

theorem mem_dropSender {sender other : Sender} (hmem : sender ∈ c.senders) (hne : sender ≠ other) :
    sender ∈ (c.dropSender other).senders := by
  simp [EventChannel.dropSender, hmem, hne]

theorem mem_of_dropSender {sender other : Sender} (hmem : sender ∈ (c.dropSender other).senders) :
    sender ∈ c.senders := (List.mem_filter.mp hmem).1

theorem respond (h : StreamGood P eventsTx stage c) (hstage : stage.handler = .announced) :
    StreamGood P eventsTx { stage with handler := .gone }
      { c.dropSender .handler with handedOut := true } :=
  { h with
    early := nofun
    announced := Or.inr (h.announced.resolve_left (by rw [hstage]; decide))
    pending := fun hpending => h.pending (hpending.imp id nofun)
    done := by
      refine h.done.imp id (Or.imp id (Or.imp (fun hpreparing => ?_) id))
      rw [hstage] at hpreparing
      cases hpreparing
    pumps := fun task htask => h.pumps task (mem_of_dropSender htask)
    handlerHeld := nofun
    jobHeld := fun hheld => mem_dropSender (h.jobHeld hheld) nofun
    fresh := nofun }

theorem discard (h : StreamGood P eventsTx stage c) (hstage : stage.handler = .preparing) :
    StreamGood P eventsTx { stage with handler := .gone }
      { c.dropSender .handler with closed := true } :=
  { h with
    early := nofun
    announced := Or.inr (Or.inl rfl)
    pending := fun _ => h.pending (Or.inr hstage)
    done := Or.inl rfl
    pumps := fun _ _ => Or.inl rfl
    queued := fun _ => Or.inl rfl
    settling := fun _ => Or.inl rfl
    reported := fun _ => Or.inl rfl
    handlerHeld := nofun
    jobHeld := fun hheld => mem_dropSender (h.jobHeld hheld) nofun
    fresh := nofun }

/-! ### The job -/

theorem take (h : StreamGood P eventsTx stage c) (hstage : stage.job = .queued) (i : ℕ) :
    StreamGood P eventsTx { stage with job := .settling, jobBy := i } c :=
  { h with
    pending := fun _ => h.pending (Or.inl (by rw [hstage]; rfl))
    done := Or.inr (Or.inl rfl)
    pumps := fun task htask => by
      refine (h.pumps task htask).imp id fun hpiping => ?_
      rw [hstage] at hpiping
      cases hpiping
    queued := nofun
    settling := fun _ => by
      refine (h.queued hstage).imp id fun hlength => ?_
      simp only [EventChannel.buffered, buildEventChannelCapacity]
      omega
    reported := nofun
    jobHeld := fun _ => h.jobHeld (by rw [hstage]; rfl)
    fresh := fun hpreparing => by
      have habsent := h.fresh hpreparing
      rw [hstage] at habsent
      cases habsent }

theorem startPipeline (h : StreamGood P eventsTx stage c) (hstage : stage.job = .settling) :
    StreamGood P eventsTx { stage with job := .piping } c :=
  { h with
    pending := fun _ => h.pending (Or.inl (by rw [hstage]; rfl))
    done := Or.inr (Or.inl rfl)
    pumps := fun _ _ => Or.inr rfl
    queued := nofun
    settling := nofun
    reported := nofun
    jobHeld := fun _ => h.jobHeld (by rw [hstage]; rfl)
    fresh := fun hpreparing => by
      have habsent := h.fresh hpreparing
      rw [hstage] at habsent
      cases habsent }

theorem endTimeout (h : StreamGood P eventsTx stage c) (hstage : stage.job = .piping)
    (hsettleable : c.Settleable) : StreamGood P eventsTx { stage with job := .settling } c :=
  { h with
    pending := fun _ => h.pending (Or.inl (by rw [hstage]; rfl))
    done := Or.inr (Or.inl rfl)
    pumps := fun task htask => by
      refine hsettleable.imp id fun hfree => ?_
      obtain hhandler | hjob := hfree.1 _ htask
      · cases hhandler
      · cases hjob
    queued := nofun
    settling := fun _ => hsettleable.imp id And.right
    reported := nofun
    jobHeld := fun _ => h.jobHeld (by rw [hstage]; rfl)
    fresh := fun hpreparing => by
      have habsent := h.fresh hpreparing
      rw [hstage] at habsent
      cases habsent }

theorem dropJob (h : StreamGood P eventsTx stage c) (hstage : stage.job = .finished) :
    StreamGood P eventsTx { stage with job := .gone } (c.dropSender .job) :=
  { h with
    pending := fun hpending => h.pending (hpending.imp nofun id)
    done := by
      refine h.done.imp id (Or.imp (fun hpending => ?_) id)
      rw [hstage] at hpending
      cases hpending
    pumps := fun task htask => by
      refine (h.pumps task (mem_of_dropSender htask)).imp id fun hpiping => ?_
      rw [hstage] at hpiping
      cases hpiping
    queued := nofun
    settling := nofun
    reported := nofun
    handlerHeld := fun hheld => mem_dropSender (h.handlerHeld hheld) nofun
    jobHeld := nofun
    fresh := fun hpreparing => by
      have habsent := h.fresh hpreparing
      rw [hstage] at habsent
      cases habsent }

/-! ### Events of the job -/

theorem first_push (h : StreamGood P eventsTx stage c) (hannounced : c.Announced)
    (event : BuildEvent) : ∀ e ∈ (c.push event).sent.head?, ∃ job, P job ∧
      job.eventsTx = eventsTx ∧ e = .started job.submissionId := by
  cases hclosed : c.closed with
  | true =>
      rw [EventChannel.push_of_closed hclosed]
      exact h.first
  | false =>
      have hne : c.sent ≠ [] := by
        rintro hnil
        simp [EventChannel.Announced, hclosed, hnil] at hannounced
      rw [EventChannel.push_of_open hclosed]
      simpa only [List.head?_append_of_ne_nil _ hne] using h.first

theorem announced_push (hannounced : c.Announced) (event : BuildEvent) :
    (c.push event).Announced := by
  cases hclosed : c.closed with
  | true =>
      rw [EventChannel.push_of_closed hclosed]
      exact hannounced
  | false =>
      rw [EventChannel.push_of_open hclosed]
      simp only [EventChannel.Announced, List.any_append, Bool.or_eq_true] at hannounced ⊢
      exact hannounced.imp id Or.inl

/-- A handler that is through with its own event. -/
theorem not_early (h : StreamGood P eventsTx stage c) (hopen : c.closed = false)
    (hannounced : c.Announced) : stage.handler.isEarly = false := by
  cases hearly : stage.handler.isEarly with
  | false => rfl
  | true => simp [EventChannel.Announced, hopen, h.early hearly] at hannounced

theorem received_push (h : StreamGood P eventsTx stage c) (event : BuildEvent) :
    (c.push event).received ≤ (c.push event).sent.length := by
  have hreceived := h.received
  unfold EventChannel.push
  split
  · exact hreceived
  · simp only [List.length_append, List.length_singleton]
    omega

@[simp] theorem push_closed (event : BuildEvent) : (c.push event).closed = c.closed := by
  unfold EventChannel.push
  split <;> rfl

@[simp] theorem push_senders (event : BuildEvent) : (c.push event).senders = c.senders := by
  unfold EventChannel.push
  split <;> rfl

theorem last_push (h : StreamGood P eventsTx stage c) (hpending : stage.job.isPending = true)
    (event : BuildEvent) : ∀ e ∈ (c.push event).sent.dropLast, e.isFinished = false := by
  unfold EventChannel.push
  split
  · exact h.last
  · simpa only [List.dropLast_concat] using h.pending (Or.inl hpending)

theorem pending_push (h : StreamGood P eventsTx stage c) (hpending : stage.job.isPending = true)
    {event : BuildEvent} (hevent : event.isFinished = false) :
    ∀ e ∈ (c.push event).sent, e.isFinished = false := by
  unfold EventChannel.push
  split
  · exact h.pending (Or.inl hpending)
  · intro e he
    rcases List.mem_append.mp he with hold | hnew
    · exact h.pending (Or.inl hpending) e hold
    · rw [List.mem_singleton.mp hnew, hevent]

theorem ends_push (hopen : c.closed = false) (success : Bool) :
    (c.push (.finished success)).EndsFinished := by
  rw [EventChannel.push_of_open hopen]
  simp [EventChannel.EndsFinished, BuildEvent.isFinished]

theorem early_push (h : StreamGood P eventsTx stage c) (hannounced : c.Announced)
    (event : BuildEvent) (hearly : stage.handler.isEarly = true) : (c.push event).sent = [] := by
  cases hclosed : c.closed with
  | true =>
      rw [EventChannel.push_of_closed hclosed]
      exact h.early hearly
  | false =>
      rw [h.not_early hclosed hannounced] at hearly
      cases hearly

/-- A handler that still prepares has no job yet. -/
theorem not_preparing (h : StreamGood P eventsTx stage c) (hjob : stage.job ≠ .absent) :
    stage.handler ≠ .preparing := fun hpreparing => hjob (h.fresh hpreparing)

/-- An event of a job that is not its last. -/
theorem push (h : StreamGood P eventsTx stage c) (hannounced : c.Announced) (event : BuildEvent)
    (hevent : event.isFinished = false) (hpending : stage.job.isPending = true) (job : JobStage)
    (hjob : job.isPending = true) (hqueued : job ≠ .queued) (hsettling : job ≠ .settling)
    (hpumps : stage.job = .piping → job = .piping)
    (hreported : job = .reported → stage.job = .settling) :
    StreamGood P eventsTx { stage with job := job } (c.push event) where
  received := h.received_push event
  first := h.first_push hannounced event
  early := h.early_push hannounced event
  announced := Or.inr (announced_push hannounced event)
  last := h.last_push hpending event
  pending _ := h.pending_push hpending hevent
  done := Or.inr (Or.inl hjob)
  pumps task htask := by
    rw [push_closed]
    exact (h.pumps task (by simpa using htask)).imp id hpumps
  queued hstage := absurd hstage hqueued
  settling hstage := absurd hstage hsettling
  reported hstage := by
    rw [push_closed]
    refine (h.settling (hreported hstage)).imp id fun hroom => ?_
    have hbuffered : (c.push event).buffered ≤ c.buffered + 1 := EventChannel.buffered_push_le
    omega
  handlerHeld hheld := by simpa using h.handlerHeld hheld
  jobHeld _ := by
    rw [push_senders]
    exact h.jobHeld (by cases hs : stage.job <;> simp_all [JobStage.isPending, JobStage.isHeld])
  fresh hpreparing := by
    rw [h.fresh hpreparing] at hpending
    cases hpending

theorem finish (h : StreamGood P eventsTx stage c) (hannounced : c.Announced) (success : Bool)
    (hstage : stage.job = .settling ∨ stage.job = .reported) :
    StreamGood P eventsTx { stage with job := .finished } (c.push (.finished success)) := by
  have hpending : stage.job.isPending = true := by
    rcases hstage with hstage | hstage
    · rw [hstage]; rfl
    · rw [hstage]; rfl
  have hpreparing : stage.handler ≠ .preparing := by
    refine h.not_preparing fun habsent => ?_
    rw [habsent] at hpending
    cases hpending
  exact {
    received := h.received_push _
    first := h.first_push hannounced _
    early := h.early_push hannounced _
    announced := Or.inr (announced_push hannounced _)
    last := h.last_push hpending _
    pending := by
      rintro (hcontra | hcontra)
      · cases hcontra
      · exact absurd hcontra hpreparing
    done := by
      cases hclosed : c.closed with
      | true => exact Or.inl (by rw [push_closed, hclosed])
      | false => exact Or.inr (Or.inr (Or.inr (ends_push hclosed success)))
    pumps := fun task htask => by
      rw [push_closed]
      refine (h.pumps task (by simpa using htask)).imp id fun hpiping => ?_
      rcases hstage with hstage | hstage
      · rw [hstage] at hpiping
        cases hpiping
      · rw [hstage] at hpiping
        cases hpiping
    queued := nofun
    settling := nofun
    reported := nofun
    handlerHeld := fun hheld => by simpa using h.handlerHeld hheld
    jobHeld := fun _ => by
      rw [push_senders]
      exact h.jobHeld (by cases hs : stage.job <;> simp_all [JobStage.isPending, JobStage.isHeld])
    fresh := fun hcontra => absurd hcontra hpreparing }

/-- A line of output while the job is piped, or to a client that is
gone. -/
theorem line (h : StreamGood P eventsTx stage c) (hannounced : c.Announced) (text : String)
    (hstage : c.closed = true ∨ stage.job = .piping) :
    StreamGood P eventsTx stage (c.push (.log text)) := by
  rcases hstage with hclosed | hpiping
  · rw [EventChannel.push_of_closed hclosed]
    exact h
  · have hpushed := h.push hannounced (.log text) rfl (by rw [hpiping]; rfl) .piping rfl nofun
      nofun (fun _ => rfl) nofun
    rwa [← hpiping] at hpushed

/-! ### Pumps and clients -/

theorem addPump (h : StreamGood P eventsTx stage c) (hstage : stage.job = .piping) (task : ℕ) :
    StreamGood P eventsTx stage (c.addSender (.pump task)) :=
  { h with
    pumps := fun _ _ => Or.inr hstage
    handlerHeld := fun hheld => List.mem_append_left _ (h.handlerHeld hheld)
    jobHeld := fun hheld => List.mem_append_left _ (h.jobHeld hheld) }

theorem dropPump (h : StreamGood P eventsTx stage c) (task : ℕ) :
    StreamGood P eventsTx stage (c.dropSender (.pump task)) :=
  { h with
    pumps := fun other hother => h.pumps other (mem_of_dropSender hother)
    handlerHeld := fun hheld => mem_dropSender (h.handlerHeld hheld) nofun
    jobHeld := fun hheld => mem_dropSender (h.jobHeld hheld) nofun }

theorem recv (h : StreamGood P eventsTx stage c) (hmore : c.received < c.sent.length) :
    StreamGood P eventsTx stage { c with received := c.received + 1 } :=
  { h with
    received := hmore
    settling := fun hstage => by
      refine (h.settling hstage).imp id fun hroom => ?_
      simp only [EventChannel.buffered] at hroom ⊢
      omega
    reported := fun hstage => by
      refine (h.reported hstage).imp id fun hroom => ?_
      simp only [EventChannel.buffered] at hroom ⊢
      omega }

theorem close (h : StreamGood P eventsTx stage c) :
    StreamGood P eventsTx stage { c with closed := true } :=
  { h with
    announced := Or.inr (Or.inl rfl)
    done := Or.inl rfl
    pumps := fun _ _ => Or.inl rfl
    queued := fun _ => Or.inl rfl
    settling := fun _ => Or.inl rfl
    reported := fun _ => Or.inl rfl }

end StreamGood

end HackArena.Official
