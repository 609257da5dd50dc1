import HackArena.Official.Input

/-!
# Build streams

Every request for a build has a bounded channel of its own. The handler
of the request, the queued job and the tasks that pump the output of its
commands hold senders of it; the receiver goes to the client with the
response. One queue leads to the one worker.
-/

namespace HackArena.Official

def submissionQueueCapacity : ℕ := 64
def buildEventChannelCapacity : ℕ := 128

inductive WrapperKind where
  | unspecified | python | csharp | cpp | jsTs
  deriving DecidableEq, Repr

/-- `eventsTx` is the number of the job's channel. -/
structure SubmissionBuildJob where
  submissionId : String
  teamId : String
  slotIndex : ℤ
  wrapperKind : WrapperKind
  wrapperVersion : String
  archivePath : String
  eventsTx : ℕ
  deriving DecidableEq, Repr

inductive BuildEvent where
  | started (submissionId : String)
  | log (line : String)
  | finished (success : Bool)
  deriving DecidableEq, Repr

/-- Who still holds a sender of a channel. -/
inductive Sender where
  | handler
  | job
  | pump (task : ℕ)
  deriving DecidableEq, Repr

/-- All events that the channel has taken, with the number of those that
the client has received; the others are in its buffer. -/
structure EventChannel where
  sent : List BuildEvent
  received : ℕ
  handedOut : Bool
  closed : Bool
  senders : List Sender
  deriving DecidableEq, Repr

def EventChannel.new : EventChannel := ⟨[], 0, false, false, [.handler]⟩

namespace EventChannel

def buffered (c : EventChannel) : ℕ := c.sent.length - c.received

/-- A send does not have to wait. -/
def HasRoom (c : EventChannel) : Prop := c.closed ∨ c.buffered < buildEventChannelCapacity

instance (c : EventChannel) : Decidable c.HasRoom :=
  inferInstanceAs (Decidable (c.closed ∨ c.buffered < buildEventChannelCapacity))

/-- What is sent to a receiver that is gone is lost. -/
def push (c : EventChannel) (event : BuildEvent) : EventChannel :=
  if c.closed then c else { c with sent := c.sent ++ [event] }

def addSender (c : EventChannel) (sender : Sender) : EventChannel :=
  { c with senders := c.senders ++ [sender] }

def dropSender (c : EventChannel) (sender : Sender) : EventChannel :=
  { c with senders := c.senders.filter (· ≠ sender) }

end EventChannel

/-- A task that pumps one output stream of a command. -/
structure PumpTask where
  eventsTx : ℕ
  label : String
  taken : Bool
  result : Option (Except String String)

structure BuildState where
  queue : List SubmissionBuildJob
  workerGone : Bool
  channels : List EventChannel
  pumps : List PumpTask

def BuildState.empty : BuildState := ⟨[], false, [], []⟩

/-- Who sends outside the time limit of the build. -/
inductive SendingTask where
  | handler | worker | pump
  deriving DecidableEq, Repr

inductive BuildOp where
  | channel
  | enqueue (job : SubmissionBuildJob)
  | respond (eventsTx : ℕ)
  | discard (eventsTx : ℕ)
  | send (task : SendingTask) (eventsTx : ℕ) (event : BuildEvent)
  | sendTimed (eventsTx : ℕ) (event : BuildEvent)
  | nextJob
  | timeoutEnds (eventsTx : ℕ)
  | dropJob (eventsTx : ℕ)
  | spawnPump (eventsTx : ℕ) (label : String)
  | joinPump (task : ℕ)
  | takePump
  | endPump (task eventsTx : ℕ) (result : Except String String)
  | recv (eventsTx : ℕ)
  | dropReceiver (eventsTx : ℕ)

abbrev BuildOp.Answer : BuildOp → Type
  | .channel | .spawnPump .. => ℕ
  | .enqueue _ => Bool
  | .sendTimed .. => Except PipelineError Unit
  | .nextJob => Option SubmissionBuildJob
  | .joinPump _ => Except PipelineError String
  | .takePump => Option (ℕ × PumpTask)
  | .recv _ => Option BuildEvent
  | .respond _ | .discard _ | .send .. | .timeoutEnds _ | .dropJob _ | .endPump ..
  | .dropReceiver _ => Unit

namespace BuildState

variable (s : BuildState)

def channel? (eventsTx : ℕ) : Option EventChannel := s.channels[eventsTx]?

def modifyChannel (eventsTx : ℕ) (f : EventChannel → EventChannel) : BuildState :=
  { s with channels := s.channels.modify eventsTx f }

def dropSender (eventsTx : ℕ) (sender : Sender) : BuildState :=
  s.modifyChannel eventsTx (·.dropSender sender)

/-- The worker stops, and its queue is dropped with it. -/
def stopWorker : BuildState :=
  let dropped := s.queue.foldl (fun t job => t.dropSender job.eventsTx .job) s
  { dropped with queue := [], workerGone := true }

def joinResult (task : ℕ) (i : Input) : Except PipelineError String :=
  if i.elapsed then .error .elapsed
  else match s.pumps[task]?.bind PumpTask.result with
    | some (.ok text) => .ok text
    | some (.error e) => .error (.failed e)
    | none => .error (.failed i.error)

/-- The worker's next job; without one it stops. A shutdown that comes
together with a job may be seen first. -/
def nextJob (i : Input) : BuildState × Option SubmissionBuildJob :=
  match s.queue with
  | job :: queue => if i.present then (s.stopWorker, none) else ({ s with queue := queue }, some job)
  | [] => (s.stopWorker, none)

def takePump : BuildState × Option (ℕ × PumpTask) :=
  match s.pumps.zipIdx.find? fun p => !p.1.taken with
  | none => (s, none)
  | some (pump, task) =>
      ({ s with pumps := s.pumps.modify task fun p => { p with taken := true } }, some (task, pump))

def exec : (op : BuildOp) → Input → BuildState × op.Answer
  | .channel, _ => ({ s with channels := s.channels ++ [.new] }, s.channels.length)
  | .enqueue job, _ =>
      if s.workerGone then (s, false)
      else
        ({ s.modifyChannel job.eventsTx (·.addSender .job) with queue := s.queue ++ [job] }, true)
  | .respond eventsTx, _ =>
      (s.modifyChannel eventsTx fun c => { c.dropSender .handler with handedOut := true }, ())
  | .discard eventsTx, _ =>
      (s.modifyChannel eventsTx fun c => { c.dropSender .handler with closed := true }, ())
  | .send _ eventsTx event, _ => (s.modifyChannel eventsTx (·.push event), ())
  | .sendTimed eventsTx event, i =>
      if i.elapsed then (s, .error .elapsed)
      else (s.modifyChannel eventsTx (·.push event), .ok ())
  | .nextJob, i => s.nextJob i
  | .timeoutEnds _, _ => (s, ())
  | .dropJob eventsTx, _ => (s.dropSender eventsTx .job, ())
  | .spawnPump eventsTx label, _ =>
      ({ s.modifyChannel eventsTx (·.addSender (.pump s.pumps.length)) with
          pumps := s.pumps ++ [⟨eventsTx, label, false, none⟩] }, s.pumps.length)
  | .joinPump task, i => (s, s.joinResult task i)
  | .takePump, _ => s.takePump
  | .endPump task eventsTx result, _ =>
      ({ s.dropSender eventsTx (.pump task) with
          pumps := s.pumps.modify task fun p => { p with result := some result } }, ())
  | .recv eventsTx, _ =>
      match (s.channel? eventsTx).bind fun c => c.sent[c.received]? with
      | none => (s, none)
      | some event =>
          (s.modifyChannel eventsTx fun c => { c with received := c.received + 1 }, some event)
  | .dropReceiver eventsTx, _ => (s.modifyChannel eventsTx fun c => { c with closed := true }, ())

/-- The call does not have to wait. A send waits for room in the channel,
the queue takes a bounded number of jobs, and a client waits for the next
event as long as there is somebody who can send it. -/
def Ready (i : Input) : BuildOp → Prop
  | .send _ eventsTx _ => ∀ c ∈ s.channel? eventsTx, c.HasRoom
  | .sendTimed eventsTx _ => i.elapsed ∨ ∀ c ∈ s.channel? eventsTx, c.HasRoom
  | .enqueue _ => s.workerGone ∨ s.queue.length < submissionQueueCapacity
  | .nextJob => i.present ∨ s.queue ≠ []
  | .joinPump task => i.elapsed ∨ ∃ p ∈ s.pumps[task]?, p.result.isSome
  | .recv eventsTx => ∀ c ∈ s.channel? eventsTx,
      c.handedOut ∧ ¬ c.closed ∧ (c.received < c.sent.length ∨ c.senders = [])
  | _ => True

instance (i : Input) (op : BuildOp) : Decidable (s.Ready i op) :=
  match op with
  | .send _ eventsTx _ => inferInstanceAs (Decidable (∀ c ∈ s.channel? eventsTx, c.HasRoom))
  | .sendTimed eventsTx _ =>
      inferInstanceAs (Decidable (i.elapsed ∨ ∀ c ∈ s.channel? eventsTx, c.HasRoom))
  | .enqueue _ =>
      inferInstanceAs (Decidable (s.workerGone ∨ s.queue.length < submissionQueueCapacity))
  | .nextJob => inferInstanceAs (Decidable (i.present ∨ s.queue ≠ []))
  | .joinPump task =>
      inferInstanceAs (Decidable (i.elapsed ∨ ∃ p ∈ s.pumps[task]?, p.result.isSome))
  | .recv eventsTx => inferInstanceAs (Decidable (∀ c ∈ s.channel? eventsTx,
      c.handedOut ∧ ¬ c.closed ∧ (c.received < c.sent.length ∨ c.senders = [])))
  | .channel | .respond _ | .discard _ | .timeoutEnds _ | .dropJob _ | .spawnPump .. | .takePump
  | .endPump .. | .dropReceiver _ => inferInstanceAs (Decidable True)

end BuildState

end HackArena.Official
