import HackArena.Services.ParticipantStream

/-!
# The protocol of the participant stream

What one turn may send is decided by its input and by whether the stream
has been initialized. From this follow the numbering of the events, the
opening, one acknowledgement per message, and the single clean-up at the
end of every run.
-/

namespace HackArena.Services

open Boink HackArena.Runtime HackArena.Local

/-! ## Reading a turn -/

def StreamEffect.event? : StreamEffect → Option (ℕ × ParticipantServerPayload)
  | .event serverSeq payload _ => some (serverSeq, payload)
  | .terminal _ | .engine _ | .store _ | .cleanup _ => none

def StreamEffect.isCleanup : StreamEffect → Bool
  | .cleanup _ => true
  | .event .. | .terminal _ | .engine _ | .store _ => false

/-- The events of a list of effects, with their numbers. -/
def eventsOf (effects : List StreamEffect) : List (ℕ × ParticipantServerPayload) :=
  effects.filterMap StreamEffect.event?

/-- Which message an acknowledgement is for: controls, or a command. -/
def ParticipantServerPayload.ack? :
    ParticipantServerPayload → Option (Option ParticipantCommandType × ℕ)
  | .ack value => some (none, value.clientSeq)
  | .commandAck value => some (some value.commandType, value.clientSeq)
  | .settings _ | .bootstrap _ | .snapshot _ => none

def Turn.payloads (t : Turn) : List ParticipantServerPayload := (eventsOf t.effects).map (·.2)

def Turn.acks (t : Turn) : List (Option ParticipantCommandType × ℕ) :=
  t.payloads.filterMap ParticipantServerPayload.ack?

def StreamInput.isInit : StreamInput → Bool
  | .message (.ok (some (some .init))) => true
  | _ => false

/-- The acknowledgement a message asks for. -/
def StreamInput.due : StreamInput → List (Option ParticipantCommandType × ℕ)
  | .message (.ok (some (some (.controls value)))) => [(none, value.clientSeq)]
  | .message (.ok (some (some (.backToTrack clientSeq)))) => [(some .backToTrack, clientSeq)]
  | .message (.ok (some (some (.emergencyPitstop clientSeq)))) =>
      [(some .emergencyPitstop, clientSeq)]
  | .message (.ok (some (some (.setNextPitTireType clientSeq _)))) =>
      [(some .setNextPitTireType, clientSeq)]
  | _ => []

def ParticipantServerPayload.isSettings : ParticipantServerPayload → Bool
  | .settings _ => true
  | _ => false

def ParticipantServerPayload.isBootstrap : ParticipantServerPayload → Bool
  | .bootstrap _ => true
  | _ => false

/-! ## The shape of a turn -/

/-- The payloads, numbered from the current number on. -/
def numbered : ℕ → List ParticipantServerPayload → List (ℕ × ParticipantServerPayload)
  | _, [] => []
  | serverSeq, payload :: rest => (serverSeq, payload) :: numbered (saturatingAdd serverSeq 1) rest

/-- The number after `n` more events. -/
def numberAfter (serverSeq : ℕ) : ℕ → ℕ
  | 0 => serverSeq
  | n + 1 => numberAfter (saturatingAdd serverSeq 1) n

/-- A turn sends exactly these payloads, numbered from the given number
on, and cleans up once, as its last effect, if it ends the loop. -/
structure Sends (serverSeq : ℕ) (payloads : List ParticipantServerPayload) (t : Turn) :
    Prop where
  events : eventsOf t.effects = numbered serverSeq payloads
  number : t.state.serverSeq = numberAfter serverSeq payloads.length
  kept : t.ended = false → ∀ e ∈ t.effects, e.isCleanup = false
  closing : t.ended = true → ∃ before reason, t.effects = before ++ [.cleanup reason] ∧
    ∀ e ∈ before, e.isCleanup = false

/-- Effects that neither send nor clean up. -/
def Silent (effects : List StreamEffect) : Prop :=
  ∀ e ∈ effects, e.event? = none ∧ e.isCleanup = false

section Shape

variable {serverSeq : ℕ} {payloads : List ParticipantServerPayload} {t : Turn}

theorem silent_terminal (status : Status) : Silent [.terminal status] := by
  simp [Silent, StreamEffect.event?, StreamEffect.isCleanup]

theorem silent_engine (op : SlotOp) : Silent [.engine op] := by
  simp [Silent, StreamEffect.event?, StreamEffect.isCleanup]

theorem silent_store (writes : List StreamWrite) : Silent (writes.map .store) := by
  simp [Silent, StreamEffect.event?, StreamEffect.isCleanup]

theorem sends_proceed (st : StreamState) : Sends st.serverSeq [] (.proceed st) :=
  ⟨rfl, rfl, by simp [Turn.proceed], by simp [Turn.proceed]⟩

theorem sends_stop (st : StreamState) (reason : String) :
    Sends st.serverSeq [] (.stop st reason) :=
  ⟨rfl, rfl, by simp [Turn.stop], fun _ => ⟨[], reason, rfl, by simp⟩⟩

theorem Sends.after (h : Sends serverSeq payloads t) {effects : List StreamEffect}
    (hsilent : Silent effects) : Sends serverSeq payloads (t.after effects) := by
  have hevents : eventsOf effects = [] := by
    rw [eventsOf, List.filterMap_eq_nil_iff]
    exact fun e he => (hsilent e he).1
  refine ⟨?_, h.number, fun hopen e he => ?_, fun hended => ?_⟩
  · rw [← h.events, Turn.after, eventsOf, List.filterMap_append]
    exact congrArg (· ++ _) hevents
  · rcases List.mem_append.mp he with he | he
    · exact (hsilent e he).2
    · exact h.kept hopen e he
  · obtain ⟨before, reason, heffects, hbefore⟩ := h.closing hended
    refine ⟨effects ++ before, reason, ?_, fun e he => ?_⟩
    · rw [Turn.after, heffects, List.append_assoc]
    · rcases List.mem_append.mp he with he | he
      · exact (hsilent e he).2
      · exact hbefore e he

theorem sends_reject (st : StreamState) (status : Status) (reason : String) :
    Sends st.serverSeq [] (rejectStream st status reason) :=
  (sends_stop st reason).after (silent_terminal status)

/-- One event, and what follows it. -/
theorem Sends.event (h : Sends (saturatingAdd serverSeq 1) payloads t)
    (payload : ParticipantServerPayload) (sent : Bool) :
    Sends serverSeq (payload :: payloads) (t.after [.event serverSeq payload sent]) := by
  refine ⟨?_, h.number, fun hopen e he => ?_, fun hended => ?_⟩
  · rw [numbered, ← h.events]
    rfl
  · rcases List.mem_cons.mp he with rfl | he
    · rfl
    · exact h.kept hopen e he
  · obtain ⟨before, reason, heffects, hbefore⟩ := h.closing hended
    refine ⟨.event serverSeq payload sent :: before, reason, ?_, fun e he => ?_⟩
    · rw [Turn.after, heffects]
      rfl
    · rcases List.mem_cons.mp he with rfl | he
      · rfl
      · exact hbefore e he

end Shape

/-! ## What a turn may send -/

/-- The payloads a turn may have, by whether the stream is initialized,
by its input, and by whether it ends the loop. -/
inductive Allowed : Bool → StreamInput → List ParticipantServerPayload → Bool → Prop
  | ended (initialized : Bool) (input : StreamInput) : Allowed initialized input [] true
  | quiet (initialized : Bool) (input : StreamInput) (hdue : input.due = [])
      (hinit : input.isInit = false) : Allowed initialized input [] false
  | broken (input : StreamInput) (settings : StreamSettings) (hinit : input.isInit = true) :
      Allowed false input [.settings settings] true
  | opened (input : StreamInput) (settings : StreamSettings) (dimensions : Option (F32 × F32))
      (ended : Bool) (hinit : input.isInit = true) :
      Allowed false input [.settings settings, .bootstrap dimensions] ended
  | observed (snapshot : ParticipantSnapshot) (ended : Bool) :
      Allowed true .tick [.snapshot snapshot] ended
  | answered (input : StreamInput) (payload : ParticipantServerPayload)
      (ack : Option ParticipantCommandType × ℕ) (hack : payload.ack? = some ack)
      (hdue : input.due = [ack]) (ended : Bool) : Allowed true input [payload] ended

/-- A turn sends what it may, and leaves the stream initialized if it was
or if this was the init. -/
def Shaped (st : StreamState) (input : StreamInput) (t : Turn) : Prop :=
  (∃ payloads, Sends st.serverSeq payloads t ∧ Allowed st.initialized input payloads t.ended) ∧
    (t.ended = false → t.state.initialized = (st.initialized || input.isInit))

section Turns

variable {st st' : StreamState} {input : StreamInput} {t : Turn}

theorem Shaped.after (h : Shaped st input t) {effects : List StreamEffect}
    (hsilent : Silent effects) : Shaped st input (t.after effects) := by
  obtain ⟨⟨payloads, hsends, hallowed⟩, hinit⟩ := h
  exact ⟨⟨payloads, hsends.after hsilent, hallowed⟩, hinit⟩

theorem shaped_reject (h : st'.serverSeq = st.serverSeq) (status : Status) (reason : String) :
    Shaped st input (rejectStream st' status reason) :=
  ⟨⟨[], h ▸ sends_reject st' status reason, .ended _ _⟩, fun hopen => by cases hopen⟩

/-- An event with nothing after it. -/
theorem sends_last (st : StreamState) (payload : ParticipantServerPayload) (sent : Bool)
    (reason : String) :
    Sends st.serverSeq [payload] (sendParticipantEvent st payload sent reason .proceed) ∧
      (sendParticipantEvent st payload sent reason .proceed).state.initialized =
        st.initialized := by
  cases sent with
  | true => exact ⟨Sends.event (sends_proceed st.numbered) payload true, rfl⟩
  | false => exact ⟨Sends.event (sends_stop st.numbered reason) payload false, rfl⟩

theorem shaped_answer (hinit : st.initialized = true) {payload : ParticipantServerPayload}
    {ack : Option ParticipantCommandType × ℕ} (hack : payload.ack? = some ack)
    (hdue : input.due = [ack]) (sent : Bool) (reason : String) :
    Shaped st input (sendParticipantEvent st payload sent reason .proceed) := by
  obtain ⟨hsends, hstate⟩ := sends_last st payload sent reason
  refine ⟨⟨[payload], hsends, ?_⟩, fun _ => ?_⟩
  · rw [hinit]
    exact .answered input payload ack hack hdue _
  · rw [hstate, hinit]
    rfl

variable (cfg : StreamConfig) (env : StreamEnv)

theorem onInit_shaped (hinput : input.isInit = true) : Shaped st input (onInit cfg env st) := by
  rw [onInit]
  split
  · exact shaped_reject rfl _ _
  · rename_i hfresh
    have hclosed : st.initialized = false := by simpa using hfresh
    let opened : StreamState := { st with initialized := true }
    cases hsent : env.sent 0 with
    | false =>
        refine ⟨⟨_, Sends.event (sends_stop opened.numbered _) _ false, ?_⟩,
          fun hopen => by cases hopen⟩
        rw [hclosed]
        exact .broken input _ hinput
    | true =>
        obtain ⟨hsends, hstate⟩ := sends_last opened.numbered
          (.bootstrap env.readCarDimensions.toOption) (env.sent 1) "bootstrap-send-failed"
        have hread := hsends.after (silent_engine (.readCarDimensions cfg.selfEngineCarId))
        refine ⟨⟨_, hread.event _ true, ?_⟩, fun _ => ?_⟩
        · rw [hclosed]
          exact .opened input _ _ _ hinput
        · rw [hinput, Bool.or_true]
          exact hstate

theorem onControls_shaped (value : ParticipantControls) :
    Shaped st (.message (.ok (some (some (.controls value))))) (onControls cfg env st value) := by
  rw [onControls]
  split
  · exact shaped_reject rfl _ _
  · rename_i hinit
    have hinit' : st.initialized = true := by simpa using hinit
    split
    · exact shaped_reject rfl _ _
    · split
      · exact Shaped.after (shaped_answer hinit' rfl rfl _ _) (silent_store [_, _])
      · refine Shaped.after ?_ (silent_engine _)
        split
        · exact shaped_reject rfl _ _
        · exact Shaped.after (shaped_answer hinit' rfl rfl _ _) (silent_store [_, _])

/-- A command is rejected at the gate, or its own turn is shaped. -/
theorem onCommand_shaped {clientSeq : ℕ} {commandType : ParticipantCommandType} {run : Turn}
    (hdue : input.due = [(some commandType, clientSeq)])
    (hrun : st.initialized = true → Shaped st input run) :
    Shaped st input (onCommand cfg env st clientSeq commandType run) := by
  rw [onCommand]
  split
  · exact shaped_reject rfl _ _
  · rename_i hinit
    have hinit' : st.initialized = true := by simpa using hinit
    split
    · exact shaped_answer hinit' rfl hdue _ _
    · exact hrun hinit'

theorem onBackToTrack_shaped (clientSeq : ℕ) :
    Shaped st (.message (.ok (some (some (.backToTrack clientSeq)))))
      (onBackToTrack cfg env st clientSeq) := by
  apply onCommand_shaped cfg env rfl
  intro hinit
  dsimp only
  split
  · exact shaped_answer hinit rfl rfl _ _
  · split
    · exact shaped_answer hinit rfl rfl _ _
    · refine Shaped.after ?_ (silent_engine _)
      split
      · exact Shaped.after (shaped_answer hinit rfl rfl _ _) (silent_store [_])
      · exact shaped_answer hinit rfl rfl _ _

theorem onEmergencyPitstop_shaped (clientSeq : ℕ) :
    Shaped st (.message (.ok (some (some (.emergencyPitstop clientSeq)))))
      (onEmergencyPitstop cfg env st clientSeq) := by
  apply onCommand_shaped cfg env rfl
  intro hinit
  dsimp only
  split
  · exact shaped_answer hinit rfl rfl _ _
  · split
    · exact shaped_answer hinit rfl rfl _ _
    · refine Shaped.after ?_ (silent_engine _)
      split
      · apply Shaped.after (shaped_answer hinit rfl rfl _ _)
        split
        · exact silent_store [_]
        · exact silent_store []
      · exact shaped_answer hinit rfl rfl _ _

theorem onSetNextPitTireType_shaped (clientSeq : ℕ) (nextTireType : Raw RuntimePitTireType) :
    Shaped st (.message (.ok (some (some (.setNextPitTireType clientSeq nextTireType)))))
      (onSetNextPitTireType cfg env st clientSeq nextTireType) := by
  apply onCommand_shaped cfg env rfl
  intro hinit
  split
  · exact Shaped.after (shaped_answer hinit rfl rfl _ _) (silent_store [_])
  · exact shaped_answer hinit rfl rfl _ _

theorem onTick_shaped : Shaped st .tick (onTick cfg env st) := by
  rw [onTick]
  split
  · exact ⟨⟨[], sends_proceed st, .quiet _ _ rfl rfl⟩, fun _ => (Bool.or_false _).symm⟩
  · rename_i hinit
    have hinit' : st.initialized = true := by simpa using hinit
    split
    · dsimp only
      split
      · exact ⟨⟨[], sends_proceed
          { st with selfMissingTicks := min (st.selfMissingTicks + 1) u32Max },
          .quiet _ _ rfl rfl⟩, fun _ => (Bool.or_false _).symm⟩
      · refine shaped_reject ?_ _ _
        rfl
    · rename_i car _
      dsimp only
      split
      · refine shaped_reject ?_ _ _
        rfl
      · split
        · refine shaped_reject ?_ _ _
          rfl
        · obtain ⟨hsends, hstate⟩ := sends_last
            { st with selfSeenOnce := true, selfMissingTicks := 0 }
            (.snapshot (participantSnapshot cfg env.frame car)) (env.sent 0) "snapshot-send-failed"
          refine ⟨⟨_, hsends, ?_⟩, fun _ => ?_⟩
          · rw [hinit']
            exact .observed _ _
          · rw [hstate]
            exact (Bool.or_false _).symm

theorem streamTurn_shaped (st : StreamState) (input : StreamInput) :
    Shaped st input (streamTurn cfg env st input) := by
  unfold streamTurn
  split
  · exact ⟨⟨[], sends_stop st _, .ended _ _⟩, fun hopen => by cases hopen⟩
  · exact shaped_reject rfl _ _
  · exact shaped_reject rfl _ _
  · rename_i payload
    cases payload with
    | init => exact onInit_shaped cfg env rfl
    | controls value => exact onControls_shaped cfg env value
    | backToTrack clientSeq => exact onBackToTrack_shaped cfg env clientSeq
    | emergencyPitstop clientSeq => exact onEmergencyPitstop_shaped cfg env clientSeq
    | setNextPitTireType clientSeq nextTireType =>
        exact onSetNextPitTireType_shaped cfg env clientSeq nextTireType
  · exact onTick_shaped cfg env

end Turns

/-! ## Whole runs -/

theorem numbered_append (serverSeq : ℕ) (ps qs : List ParticipantServerPayload) :
    numbered serverSeq (ps ++ qs) =
      numbered serverSeq ps ++ numbered (numberAfter serverSeq ps.length) qs := by
  induction ps generalizing serverSeq with
  | nil => rfl
  | cons p ps ih =>
      rw [List.cons_append, numbered, numbered, ih]
      rfl

theorem map_snd_numbered (serverSeq : ℕ) (ps : List ParticipantServerPayload) :
    (numbered serverSeq ps).map (·.2) = ps := by
  induction ps generalizing serverSeq with
  | nil => rfl
  | cons p ps ih => rw [numbered, List.map_cons, ih]

/-- Counting from `n + 1`, the `i`-th number is `n + i + 1` until it
reaches the largest one. -/
theorem numbered_getElem {ps : List ParticipantServerPayload} {n i : ℕ}
    {e : ℕ × ParticipantServerPayload} (h : (numbered (min (n + 1) u64Max) ps)[i]? = some e) :
    e.1 = min (n + i + 1) u64Max := by
  induction ps generalizing n i with
  | nil => simp [numbered] at h
  | cons p ps ih =>
      have hnext : saturatingAdd (min (n + 1) u64Max) 1 = min (n + 1 + 1) u64Max := by
        rw [saturatingAdd]
        omega
      cases i with
      | zero =>
          cases h
          rfl
      | succ i =>
          rw [numbered, hnext, List.getElem?_cons_succ] at h
          rw [ih h]
          congr 1
          omega

/-- The events of a turn are its payloads. -/
theorem Sends.payloads_eq {serverSeq : ℕ} {payloads : List ParticipantServerPayload} {t : Turn}
    (h : Sends serverSeq payloads t) : t.payloads = payloads := by
  rw [Turn.payloads, h.events, map_snd_numbered]

/-- All effects of a run, in order. -/
def effectsOf (turns : List Turn) : List StreamEffect := turns.flatMap (·.effects)

theorem effectsOf_cons (t : Turn) (turns : List Turn) :
    effectsOf (t :: turns) = t.effects ++ effectsOf turns := List.flatMap_cons

theorem eventsOf_append (xs ys : List StreamEffect) :
    eventsOf (xs ++ ys) = eventsOf xs ++ eventsOf ys := List.filterMap_append

section Runs

variable (cfg : StreamConfig)

/-- A run numbers all its events in one sequence. -/
theorem streamTurns_events (st : StreamState) (inputs : List (StreamEnv × StreamInput)) :
    eventsOf (effectsOf (streamTurns cfg st inputs)) =
      numbered st.serverSeq ((streamTurns cfg st inputs).flatMap Turn.payloads) := by
  induction inputs generalizing st with
  | nil => rfl
  | cons head rest ih =>
      obtain ⟨env, input⟩ := head
      obtain ⟨payloads, hsends, -⟩ := (streamTurn_shaped cfg env st input).1
      simp only [streamTurns, effectsOf, List.flatMap_cons, eventsOf_append, numbered_append]
      rw [hsends.payloads_eq, hsends.events, ← hsends.number]
      split
      · rfl
      · exact congrArg (_ ++ ·) (ih _)

/-- Every turn of a run is shaped after its input and the state it meets. -/
theorem streamTurns_shaped {st : StreamState} {inputs : List (StreamEnv × StreamInput)} {i : ℕ}
    {t : Turn} (h : (streamTurns cfg st inputs)[i]? = some t) :
    ∃ env input st', inputs[i]? = some (env, input) ∧ Shaped st' input t ∧
      (st'.initialized = true ↔ st.initialized = true ∨
        ∃ j env' input', j < i ∧ inputs[j]? = some (env', input') ∧ input'.isInit = true) := by
  induction inputs generalizing st i with
  | nil => simp [streamTurns] at h
  | cons head rest ih =>
      obtain ⟨env, input⟩ := head
      have hshaped := streamTurn_shaped cfg env st input
      simp only [streamTurns] at h
      cases i with
      | zero =>
          cases h
          exact ⟨env, input, st, rfl, hshaped, by simp⟩
      | succ i =>
          rw [List.getElem?_cons_succ] at h
          split at h
          · cases h
          · rename_i hopen
            obtain ⟨env', input', st', hinput, hshaped', hinit⟩ := ih h
            refine ⟨env', input', st', hinput, hshaped', hinit.trans ?_⟩
            rw [hshaped.2 (by simpa using hopen), Bool.or_eq_true, or_assoc]
            apply or_congr_right
            constructor
            · rintro (hfirst | ⟨j, env'', input'', hj, hget, hinit'⟩)
              · exact ⟨0, env, input, by omega, rfl, hfirst⟩
              · exact ⟨j + 1, env'', input'', by omega, hget, hinit'⟩
            · rintro ⟨j, env'', input'', hj, hget, hinit'⟩
              cases j with
              | zero =>
                  cases hget
                  exact Or.inl hinit'
              | succ j => exact Or.inr ⟨j, env'', input'', by omega, hget, hinit'⟩

/-- The first events of a stream that has not been initialized. -/
theorem streamTurns_opening {st : StreamState} (h : st.initialized = false)
    (inputs : List (StreamEnv × StreamInput)) :
    (∀ p, ((streamTurns cfg st inputs).flatMap Turn.payloads)[0]? = some p →
      p.isSettings = true) ∧
    (∀ p, ((streamTurns cfg st inputs).flatMap Turn.payloads)[1]? = some p →
      p.isBootstrap = true) := by
  induction inputs generalizing st with
  | nil => simp [streamTurns]
  | cons head rest ih =>
      obtain ⟨env, input⟩ := head
      obtain ⟨⟨payloads, hsends, hallowed⟩, hinit⟩ := streamTurn_shaped cfg env st input
      rw [h] at hallowed hinit
      simp only [streamTurns, List.flatMap_cons, hsends.payloads_eq]
      generalize hended : (streamTurn cfg env st input).ended = ended at hallowed hinit
      cases hallowed with
      | ended => simp
      | quiet _ _ hdue hnot =>
          have hstill := hinit rfl
          rw [hnot] at hstill
          exact ih hstill
      | broken _ settings hfirst =>
          simp only [if_true, List.flatMap_nil, List.append_nil]
          exact ⟨fun p hp => by cases hp; rfl, fun p hp => by cases hp⟩
      | opened _ settings dimensions _ hfirst =>
          exact ⟨fun p hp => by cases hp; rfl, fun p hp => by cases hp; rfl⟩

/-- A run goes through all its inputs without a clean-up, or it ends with
its only one. -/
theorem streamTurns_cleanup (st : StreamState) (inputs : List (StreamEnv × StreamInput)) :
    ((∀ t ∈ streamTurns cfg st inputs, t.ended = false) ∧
      (streamTurns cfg st inputs).length = inputs.length ∧
      ∀ e ∈ effectsOf (streamTurns cfg st inputs), e.isCleanup = false) ∨
    ((∃ t, (streamTurns cfg st inputs).getLast? = some t ∧ t.ended = true) ∧
      ∃ before reason, effectsOf (streamTurns cfg st inputs) = before ++ [.cleanup reason] ∧
        ∀ e ∈ before, e.isCleanup = false) := by
  induction inputs generalizing st with
  | nil => exact Or.inl (by simp [streamTurns, effectsOf])
  | cons head rest ih =>
      obtain ⟨env, input⟩ := head
      obtain ⟨payloads, hsends, -⟩ := (streamTurn_shaped cfg env st input).1
      simp only [streamTurns]
      generalize streamTurn cfg env st input = turn at hsends
      cases hended : turn.ended with
      | true =>
          obtain ⟨before, reason, heffects, hbefore⟩ := hsends.closing hended
          refine Or.inr ⟨⟨turn, rfl, hended⟩, before, reason, ?_, hbefore⟩
          simpa [effectsOf] using heffects
      | false =>
          have hkept := hsends.kept hended
          rcases ih turn.state with ⟨hopen, hlength, hclean⟩ | ⟨⟨t, hlast, ht⟩, before, reason,
            heffects, hbefore⟩
          · refine Or.inl ⟨fun t ht => ?_, ?_, fun e he => ?_⟩
            · rcases List.mem_cons.mp ht with rfl | ht
              · exact hended
              · exact hopen t ht
            · simpa using hlength
            · rw [effectsOf_cons] at he
              rcases List.mem_append.mp he with he | he
              · exact hkept e he
              · exact hclean e he
          · refine Or.inr ⟨⟨t, ?_, ht⟩, turn.effects ++ before, reason, ?_, fun e he => ?_⟩
            · simp [List.getLast?_cons, hlast]
            · rw [if_neg (by simp), effectsOf_cons, heffects, List.append_assoc]
            · rcases List.mem_append.mp he with he | he
              · exact hkept e he
              · exact hbefore e he

end Runs

/-- The protocol of a whole run, with `number i` on its `i`-th event. -/
structure StreamProtocol (number : ℕ → ℕ) (inputs : List (StreamEnv × StreamInput))
    (turns : List Turn) : Prop where
  numbering : ∀ i e, (eventsOf (effectsOf turns))[i]? = some e → e.1 = number i
  first : ∀ e, (eventsOf (effectsOf turns))[0]? = some e → e.2.isSettings = true
  second : ∀ e, (eventsOf (effectsOf turns))[1]? = some e → e.2.isBootstrap = true
  afterInit : ∀ (i : ℕ) (t : Turn), turns[i]? = some t → t.payloads ≠ [] →
    ∃ (j : ℕ) (env : StreamEnv) (input : StreamInput), j ≤ i ∧
      inputs[j]? = some (env, input) ∧ input.isInit = true
  oneInit : ∀ (i j : ℕ) (env env' : StreamEnv) (input input' : StreamInput) (t : Turn), j < i →
    inputs[j]? = some (env, input) → input.isInit = true →
      inputs[i]? = some (env', input') → input'.isInit = true →
        turns[i]? = some t → t.ended = true ∧ t.payloads = []
  acknowledged : ∀ (i : ℕ) (t : Turn) (env : StreamEnv) (input : StreamInput),
    turns[i]? = some t → inputs[i]? = some (env, input) →
      t.acks = input.due ∨ t.ended = true ∧ t.acks = []
  cleanup : ((∀ t ∈ turns, t.ended = false) ∧ turns.length = inputs.length ∧
      ∀ e ∈ effectsOf turns, e.isCleanup = false) ∨
    ((∃ t, turns.getLast? = some t ∧ t.ended = true) ∧
      ∃ before reason, effectsOf turns = before ++ [.cleanup reason] ∧
        ∀ e ∈ before, e.isCleanup = false)

theorem Allowed.acks {initialized : Bool} {input : StreamInput}
    {payloads : List ParticipantServerPayload} {ended : Bool}
    (h : Allowed initialized input payloads ended) :
    payloads.filterMap ParticipantServerPayload.ack? = input.due ∨
      ended = true ∧ payloads.filterMap ParticipantServerPayload.ack? = [] := by
  cases h with
  | ended => exact Or.inr ⟨rfl, rfl⟩
  | quiet _ _ hdue hinit => exact Or.inl hdue.symm
  | broken _ settings hinit => exact Or.inr ⟨rfl, rfl⟩
  | opened _ settings dimensions _ hinit =>
      apply Or.inl
      unfold StreamInput.isInit at hinit
      split at hinit
      · rfl
      · cases hinit
  | observed snapshot => exact Or.inl rfl
  | answered _ payload ack hack hdue =>
      apply Or.inl
      rw [hdue, List.filterMap_cons, hack]
      rfl

/-- Every run keeps to the protocol; the numbers count up from one and
stay at the largest once they have reached it. -/
theorem participant_stream_protocol (cfg : StreamConfig)
    (inputs : List (StreamEnv × StreamInput)) :
    StreamProtocol (fun i => min (i + 1) u64Max) inputs (runParticipantStream cfg inputs) := by
  have hevents := streamTurns_events cfg .start inputs
  have hopening := streamTurns_opening cfg (rfl : StreamState.start.initialized = false) inputs
  have hpayload {i : ℕ} {e : ℕ × ParticipantServerPayload}
      (he : (eventsOf (effectsOf (runParticipantStream cfg inputs)))[i]? = some e) :
      ((runParticipantStream cfg inputs).flatMap Turn.payloads)[i]? = some e.2 := by
    have hmap := map_snd_numbered StreamState.start.serverSeq
      ((runParticipantStream cfg inputs).flatMap Turn.payloads)
    rw [← hmap, List.getElem?_map, runParticipantStream, ← hevents]
    exact congrArg (Option.map (·.2)) he
  refine ⟨fun i e he => ?_, fun e he => hopening.1 _ (hpayload he),
    fun e he => hopening.2 _ (hpayload he), ?_, ?_, ?_, streamTurns_cleanup cfg .start inputs⟩
  · rw [runParticipantStream, hevents] at he
    simpa using numbered_getElem (n := 0) he
  · intro i t ht hsome
    obtain ⟨env, input, st, hinput, ⟨⟨payloads, hsends, hallowed⟩, -⟩, hinit⟩ :=
      streamTurns_shaped cfg ht
    rw [hsends.payloads_eq] at hsome
    by_cases hst : st.initialized = true
    · rcases hinit.mp hst with hstart | ⟨j, env', input', hj, hget, hinit'⟩
      · cases hstart
      · exact ⟨j, env', input', by omega, hget, hinit'⟩
    · rw [Bool.not_eq_true] at hst
      rw [hst] at hallowed
      refine ⟨i, env, input, le_rfl, hinput, ?_⟩
      generalize t.ended = ended at hallowed
      cases hallowed with
      | ended | quiet => exact absurd rfl hsome
      | broken _ _ hinit' => exact hinit'
      | opened _ _ _ _ hinit' => exact hinit'
  · intro i j env env' input input' t hj hget hinit hget' hinit' ht
    obtain ⟨env'', input'', st, hinput, ⟨⟨payloads, hsends, hallowed⟩, -⟩, hst⟩ :=
      streamTurns_shaped cfg ht
    rw [hget'] at hinput
    cases hinput
    rw [hst.mpr (Or.inr ⟨j, env, input, hj, hget, hinit⟩)] at hallowed
    rw [hsends.payloads_eq]
    generalize hended : t.ended = ended at hallowed
    cases hallowed with
    | ended => exact ⟨rfl, rfl⟩
    | quiet _ _ _ hnot => exact absurd (hinit'.symm.trans hnot) (by simp)
    | observed => cases hinit'
    | answered _ payload ack hack hdue =>
        unfold StreamInput.isInit at hinit'
        split at hinit'
        · cases hdue
        · cases hinit'
  · intro i t env input ht hget
    obtain ⟨env', input', st, hinput, ⟨⟨payloads, hsends, hallowed⟩, -⟩, -⟩ :=
      streamTurns_shaped cfg ht
    rw [hget] at hinput
    cases hinput
    rw [Turn.acks, hsends.payloads_eq]
    exact hallowed.acks

/-! ## A stream that runs out of numbers -/

/-- The car of the stream is in sight, and everything is delivered. -/
structure Steady (cfg : StreamConfig) (env : StreamEnv) : Prop where
  visible : ∃ car, env.frame.cars.lookup cfg.selfPublicCarId = some car ∧
    car.target = cfg.selfTarget ∧ car.engineCarId = cfg.selfEngineCarId
  sent : ∀ n, env.sent n = true

/-- A tick of a steady stream sends one snapshot. -/
theorem onTick_steady {cfg : StreamConfig} {env : StreamEnv} (h : Steady cfg env)
    {st : StreamState} (hinit : st.initialized = true) :
    (onTick cfg env st).payloads.length = 1 ∧ (onTick cfg env st).ended = false ∧
      (onTick cfg env st).state.initialized = true := by
  obtain ⟨car, hcar, htarget, hengine⟩ := h.visible
  simp [onTick, hinit, hcar, htarget, hengine, h.sent, sendParticipantEvent, Turn.after,
    Turn.proceed, Turn.payloads, eventsOf, StreamEffect.event?, StreamState.numbered]

theorem ticks_steady {cfg : StreamConfig} {env : StreamEnv} (h : Steady cfg env) (n : ℕ)
    {st : StreamState} (hinit : st.initialized = true) :
    ((streamTurns cfg st (List.replicate n (env, .tick))).flatMap Turn.payloads).length = n := by
  induction n generalizing st with
  | zero => rfl
  | succ n ih =>
      obtain ⟨hone, hopen, hstill⟩ := onTick_steady h hinit
      rw [List.replicate_succ]
      simp only [streamTurns, streamTurn, hopen, List.flatMap_cons, List.length_append, hone]
      rw [if_neg (by simp), ih hstill, Nat.add_comm]

def longInputs (env : StreamEnv) (n : ℕ) : List (StreamEnv × StreamInput) :=
  (env, .message (.ok (some (some .init)))) :: List.replicate n (env, .tick)

theorem longInputs_events {cfg : StreamConfig} {env : StreamEnv} (h : Steady cfg env) (n : ℕ) :
    (eventsOf (effectsOf (runParticipantStream cfg (longInputs env n)))).length = n + 2 := by
  have hfirst : (onInit cfg env .start).payloads.length = 2 ∧
      (onInit cfg env .start).ended = false ∧
      (onInit cfg env .start).state.initialized = true := by
    simp [onInit, h.sent, sendParticipantEvent, Turn.after, Turn.proceed, Turn.payloads, eventsOf,
      StreamEffect.event?, StreamState.numbered, StreamState.start]
    rfl
  obtain ⟨htwo, hopen, hinit⟩ := hfirst
  have hlength (serverSeq : ℕ) (ps : List ParticipantServerPayload) :
      (numbered serverSeq ps).length = ps.length := by
    rw [← List.length_map (·.2), map_snd_numbered]
  rw [runParticipantStream, streamTurns_events, hlength, longInputs]
  simp only [streamTurns, streamTurn, onPayload, hopen, List.flatMap_cons, List.length_append, htwo]
  rw [if_neg (by simp), ticks_steady h n hinit, Nat.add_comm]

/-- Enough ticks bring the number to its largest value, where it stays. -/
theorem numbers_repeat {cfg : StreamConfig} {env : StreamEnv} (h : Steady cfg env) {n : ℕ}
    (hn : u64Max < n + 2) :
    ¬ StreamProtocol (fun i => i + 1) (longInputs env n)
      (runParticipantStream cfg (longInputs env n)) := by
  intro hclaim
  rw [← longInputs_events h n] at hn
  obtain ⟨e, he⟩ : ∃ e, (eventsOf (effectsOf
      (runParticipantStream cfg (longInputs env n))))[u64Max]? = some e :=
    ⟨_, List.getElem?_eq_getElem hn⟩
  have hclaimed : e.1 = u64Max + 1 := hclaim.numbering u64Max e he
  rw [runParticipantStream, streamTurns_events] at he
  have hactual : e.1 = min (0 + u64Max + 1) u64Max := numbered_getElem he
  omega

/-- A car of sandbox "s" and a frame that shows it. -/
def steadyConfig : StreamConfig :=
  ⟨.standalone, 60, [], fun _ => 0, .default, 1, 1, .sandbox "s"⟩

def steadyCar : RuntimeCarFrame :=
  ⟨1, 1, .sandbox "s", CarWorld.parked 1, none, none, 0, none, .default, .default⟩

def steadyEnv : StreamEnv :=
  ⟨{ RuntimeFrame.default with cars := Finmap.singleton 1 steadyCar }, .new, .new, 0,
    .ok (2, 5), fun _ => .ok ⟨.none⟩, .ok (), .ok (), fun _ => true⟩

theorem steadyEnv_steady : Steady steadyConfig steadyEnv :=
  ⟨⟨steadyCar, Finmap.lookup_singleton_eq, rfl, rfl⟩, fun _ => rfl⟩

/-- After the init and `2 ^ 64` ticks, the last number has been used
twice. -/
theorem last_number_repeated :
    ¬ StreamProtocol (fun i => i + 1) (longInputs steadyEnv (2 ^ 64))
      (runParticipantStream steadyConfig (longInputs steadyEnv (2 ^ 64))) :=
  numbers_repeat steadyEnv_steady (by decide)

end HackArena.Services
