import HackArena.Admin.RaceConfigAdmin
import Mathlib

/-!
# The race calendar never overlaps

A request writes its change only at the revision of a snapshot with which
the change has been checked. As an old revision stands for one calendar,
the change was checked with the calendar it is written to.
-/

namespace HackArena.Admin

open Domain.RaceConfig GuardedRun HackArena.Runtime HackArena.Services

/-! ## Calendars -/

def RaceConfigRecord.endsAt (race : RaceConfigRecord) : ℤ :=
  race.config.startsAtMs + race.config.raceDurationSec * 1000

def RaceConfigRecord.window (race : RaceConfigRecord) : Set ℤ :=
  Set.Ico race.config.startsAtMs race.endsAt

structure CalendarOk (races : List RaceConfigRecord) : Prop where
  distinct : (races.map (·.raceId)).Nodup
  disjoint : races.Pairwise fun a b => Disjoint a.window b.window

theorem calendarOk_nil : CalendarOk [] := ⟨List.nodup_nil, .nil⟩

theorem CalendarOk.perm {races races' : List RaceConfigRecord} (h : CalendarOk races)
    (hperm : races.Perm races') : CalendarOk races' where
  distinct := (hperm.map _).nodup_iff.mp h.distinct
  disjoint := (hperm.pairwise_iff fun hab => hab.symm).mp h.disjoint

theorem CalendarOk.sublist {races races' : List RaceConfigRecord} (h : CalendarOk races)
    (hsub : races'.Sublist races) : CalendarOk races' where
  distinct := h.distinct.sublist (hsub.map _)
  disjoint := h.disjoint.sublist hsub

theorem perm_sortByStartTime (races : List RaceConfigRecord) :
    (sortByStartTime races).Perm races := List.perm_insertionSort _ _

theorem endsAtMs_ok {startsAtMs ends : ℤ} {raceDurationSec : ℕ}
    (h : endsAtMs startsAtMs raceDurationSec = .ok ends) :
    ends = startsAtMs + raceDurationSec * 1000 := by
  unfold endsAtMs at h
  split at h
  · cases h
  · rename_i durationMs hduration
    split at h
    · cases h
    · rename_i ends' hends
      cases h
      rw [eq_of_checkedI64 hends, eq_of_checkedI64 hduration]

/-- The id, the start and the end that are checked. -/
abbrev entrySpan (entry : ScheduleEntry) : String × ℤ × ℤ :=
  (entry.raceId, entry.config.startsAtMs, entry.config.endsAtMs)

abbrev raceSpan (race : RaceConfigRecord) : String × ℤ × ℤ :=
  (race.raceId, race.config.startsAtMs, race.endsAt)

theorem repoScheduleToDomain_ok {races : List RaceConfigRecord} {entries : List ScheduleEntry}
    (h : repoScheduleToDomain races = .ok entries) :
    entries.map entrySpan = races.map raceSpan := by
  induction races generalizing entries with
  | nil =>
      cases h
      rfl
  | cons race races ih =>
      rw [repoScheduleToDomain, repoScheduleEntryToDomain] at h
      cases hends : endsAtMs race.config.startsAtMs race.config.raceDurationSec with
      | error err =>
          rw [hends] at h
          cases h
      | ok ends =>
          rw [hends] at h
          cases hrest : repoScheduleToDomain races with
          | error err =>
              rw [hrest] at h
              cases h
          | ok rest =>
              rw [hrest] at h
              cases h
              simp only [List.map_cons, ih hrest, List.cons.injEq, and_true]
              simp only [entrySpan, raceSpan, RaceConfigRecord.endsAt,
                endsAtMs_ok hends]

/-- The neighbours of an accepted calendar do not overlap, hence no two of
its races do. -/
theorem calendarOk_of_validate {races : List RaceConfigRecord}
    (h : validateCandidateSchedule races = .ok ()) : CalendarOk races := by
  unfold validateCandidateSchedule at h
  split at h
  · cases h
  · rename_i entries hentries
    split at h
    · cases h
    · rename_i hvalid
      have haccepted := accepted_of_validateSchedule hvalid
      have hspans := repoScheduleToDomain_ok hentries
      constructor
      · have hids := congrArg (List.map Prod.fst) hspans
        rw [List.map_map, List.map_map] at hids
        exact hids ▸ haccepted.distinct
      · have hordered : (entries.map entrySpan).Pairwise fun a b => a.2.2 ≤ b.2.1 :=
          List.pairwise_map.mpr haccepted.ordered
        rw [hspans, List.pairwise_map] at hordered
        refine hordered.imp fun {a b} hab => ?_
        rw [RaceConfigRecord.window, RaceConfigRecord.window, Set.Ico_disjoint_Ico]
        exact (min_le_left _ _).trans (hab.trans (le_max_right _ _))

/-! ## Changes -/

/-- With distinct ids the first entry that is replaced is the only one. -/
theorem replaceConfig_eq_map {races : List RaceConfigRecord}
    (hdistinct : (races.map (·.raceId)).Nodup) (raceId : String) (config : RaceConfigInputRecord) :
    replaceConfig races raceId config =
      races.map fun entry => if entry.raceId = raceId then ⟨raceId, config⟩ else entry := by
  induction races with
  | nil => rfl
  | cons race races ih =>
      obtain ⟨hfresh, hrest⟩ := List.nodup_cons.mp hdistinct
      by_cases hid : race.raceId = raceId
      · have hothers : ∀ entry ∈ races, entry.raceId ≠ raceId := fun entry hentry heq =>
          hfresh (List.mem_map.mpr ⟨entry, hentry, heq.trans hid.symm⟩)
        have hsame : races.map (fun entry => if entry.raceId = raceId then
            (⟨raceId, config⟩ : RaceConfigRecord) else entry) = races := by
          rw [List.map_congr_left fun entry hentry => if_neg (hothers entry hentry), List.map_id']
        rw [List.map_cons, if_pos hid, hsame]
        simp [replaceConfig, List.replaceF, hid]
      · rw [List.map_cons, if_neg hid, ← ih hrest]
        simp [replaceConfig, List.replaceF, hid]

/-- What a request has checked when it writes its change: the calendar of
its snapshot with the change. -/
def RaceConfigOp.Checked (snapshot : RaceCalendar) : RaceConfigOp → Prop
  | .getSnapshot => True
  | .createConfig expectedRevision race =>
      snapshot.revision = expectedRevision ∧ CalendarOk (snapshot.value ++ [race])
  | .updateConfig expectedRevision race =>
      snapshot.revision = expectedRevision ∧
        CalendarOk (replaceConfig snapshot.value race.raceId race.config)
  | .deleteConfig expectedRevision _ => snapshot.revision = expectedRevision

/-- The revision that a change expects. -/
def RaceConfigOp.expectedRevision? : RaceConfigOp → Option ℕ
  | .getSnapshot => none
  | .createConfig expectedRevision _ | .updateConfig expectedRevision _
  | .deleteConfig expectedRevision _ => some expectedRevision

def RaceConfigOp.succeeds : (op : RaceConfigOp) → op.Answer → Bool
  | .getSnapshot, _ => false
  | .createConfig .., answer | .updateConfig .., answer | .deleteConfig .., answer =>
      answer.isOk

/-- The revision at which a call has committed a change. -/
def RaceConfigOp.committedAt? (op : RaceConfigOp) (answer : op.Answer) : Option ℕ :=
  if op.succeeds answer then op.expectedRevision? else none

variable {E : Type}

/-- An operation that has left the calendar alone. -/
def Spared (c : RaceCalendar) (op : RaceConfigOp) (r : RaceCalendar × op.Answer) : Prop :=
  r.1 = c ∧ op.committedAt? r.2 = none

/-- An operation that has committed. It was meant for this revision, and a
change that was checked with this calendar keeps it free of overlaps. -/
def Committed (c : RaceCalendar) (op : RaceConfigOp) (r : RaceCalendar × op.Answer) : Prop :=
  ∃ races, r.1 = c.put races ∧ op.committedAt? r.2 = some c.revision ∧
    (op.Checked c.getSnapshot → CalendarOk c.value → CalendarOk races)

theorem checkRow_map_ok {race : RaceConfigRecord} {races races' : List RaceConfigRecord}
    (h : ((checkRow race).map fun _ => races) = .ok races') : races' = races := by
  cases hrow : checkRow race with
  | error err =>
      rw [hrow] at h
      cases h
  | ok _ =>
      rw [hrow] at h
      exact (Except.ok.inj h).symm

theorem insertRow_ok {race : RaceConfigRecord} {races races' : List RaceConfigRecord}
    (h : insertRow race races = .ok races') : races' = races ++ [race] := by
  unfold insertRow at h
  split at h
  · cases h
  · exact checkRow_map_ok h

theorem replaceRow_ok {race : RaceConfigRecord} {races races' : List RaceConfigRecord}
    (h : replaceRow race races = .ok races') :
    races' = races.map fun entry => if entry.raceId = race.raceId then race else entry := by
  unfold replaceRow at h
  split at h
  · exact checkRow_map_ok h
  · cases h

theorem deleteRow_ok {raceId : String} {races races' : List RaceConfigRecord}
    (h : deleteRow raceId races = .ok races') :
    races' = races.filter fun entry => entry.raceId ≠ raceId := by
  unfold deleteRow at h
  split at h
  · exact (Except.ok.inj h).symm
  · cases h

theorem transact_cases (c : RaceCalendar) (expectedRevision : ℕ)
    (f : List RaceConfigRecord → RowsResult) :
    (∃ err, c.transact expectedRevision f = (c, .error err)) ∨
      ∃ races, expectedRevision = c.revision ∧ f c.value = .ok races ∧
        c.transact expectedRevision f = (c.put races, .ok (c.revision + 1)) :=
  Versioned.change_cases ..

theorem createConfig_cases (c : RaceCalendar) (expectedRevision : ℕ) (race : RaceConfigRecord) :
    Spared c (.createConfig expectedRevision race) (c.createConfig expectedRevision race) ∨
      Committed c (.createConfig expectedRevision race) (c.createConfig expectedRevision race) := by
  rw [RaceCalendar.createConfig]
  rcases transact_cases c expectedRevision (insertRow race) with
    ⟨err, hrefused⟩ | ⟨races, rfl, hraces, hchanged⟩
  · rw [hrefused]
    exact Or.inl ⟨rfl, rfl⟩
  · rw [hchanged]
    refine Or.inr ⟨races, rfl, rfl, fun hchecked _ => ?_⟩
    rw [insertRow_ok hraces]
    exact hchecked.2.perm ((perm_sortByStartTime c.value).append_right [race])

theorem updateConfig_cases (c : RaceCalendar) (expectedRevision : ℕ) (race : RaceConfigRecord) :
    Spared c (.updateConfig expectedRevision race) (c.updateConfig expectedRevision race) ∨
      Committed c (.updateConfig expectedRevision race) (c.updateConfig expectedRevision race) := by
  rw [RaceCalendar.updateConfig]
  rcases transact_cases c expectedRevision (replaceRow race) with
    ⟨err, hrefused⟩ | ⟨races, rfl, hraces, hchanged⟩
  · rw [hrefused]
    exact Or.inl ⟨rfl, rfl⟩
  · rw [hchanged]
    refine Or.inr ⟨races, rfl, rfl, fun hchecked hok => ?_⟩
    have hperm := perm_sortByStartTime c.value
    have hcandidate : CalendarOk (replaceConfig (sortByStartTime c.value) race.raceId
        race.config) := hchecked.2
    rw [replaceConfig_eq_map ((hperm.map _).nodup_iff.mpr hok.distinct)] at hcandidate
    rw [replaceRow_ok hraces]
    exact hcandidate.perm (hperm.map _)

theorem deleteConfig_cases (c : RaceCalendar) (expectedRevision : ℕ) (raceId : String) :
    Spared c (.deleteConfig expectedRevision raceId) (c.deleteConfig expectedRevision raceId) ∨
      Committed c (.deleteConfig expectedRevision raceId)
        (c.deleteConfig expectedRevision raceId) := by
  rw [RaceCalendar.deleteConfig]
  rcases transact_cases c expectedRevision (deleteRow raceId) with
    ⟨err, hrefused⟩ | ⟨races, rfl, hraces, hchanged⟩
  · rw [hrefused]
    exact Or.inl ⟨rfl, rfl⟩
  · rw [hchanged]
    refine Or.inr ⟨races, rfl, rfl, fun _ hok => ?_⟩
    rw [deleteRow_ok hraces]
    exact hok.sublist List.filter_sublist

theorem execRaces_cases (c : RaceCalendar) (i : AdminInput E) (op : RaceConfigOp) :
    Spared c op (execRaces c i op) ∨ Committed c op (execRaces c i op) := by
  cases op with
  | getSnapshot => exact Or.inl ⟨rfl, rfl⟩
  | createConfig expectedRevision race =>
      rw [execRaces]
      split
      · exact Or.inl ⟨rfl, rfl⟩
      · exact createConfig_cases c expectedRevision race
  | updateConfig expectedRevision race =>
      rw [execRaces]
      split
      · exact Or.inl ⟨rfl, rfl⟩
      · exact updateConfig_cases c expectedRevision race
  | deleteConfig expectedRevision raceId =>
      rw [execRaces]
      split
      · exact Or.inl ⟨rfl, rfl⟩
      · exact deleteConfig_cases c expectedRevision raceId

/-! ## Requests -/

/-- The snapshot that a request goes by, and whether it has changed the
calendar. -/
structure CalendarStage where
  seen : Option RaceCalendar
  committed : Bool

def AdminOp.committedAt? : (op : AdminOp) → op.Answer → Option ℕ
  | .races op, answer => op.committedAt? answer
  | _, _ => none

def calendarProtocol : Protocol AdminOp AdminOp.Answer CalendarStage where
  init := ⟨none, false⟩
  next
    | s, .races .getSnapshot, .ok snapshot => { s with seen := some snapshot }
    | s, op, answer => { s with committed := s.committed || (op.committedAt? answer).isSome }
  permits s op := ∀ change, op = .races change → change.expectedRevision?.isSome = true →
    s.committed = false ∧ ∃ snapshot ∈ s.seen, change.Checked snapshot

section Follows

open Prog

variable {α : Type} {s : CalendarStage}

def AdminOp.besideCalendar : AdminOp → Bool
  | .races _ => false
  | _ => true

theorem besideCalendar_follows {p : AdminProg α} (h : p.Uses (·.besideCalendar)) :
    p.Follows calendarProtocol (fun _ s' => s' = s) s := by
  refine h.follows fun op hop => ⟨?_, fun answer => ?_⟩
  · rintro change rfl
    cases hop
  · cases op with
    | races op => cases hop
    | _ => simp [calendarProtocol, AdminOp.committedAt?]

/-- A request that fails has not changed the calendar. -/
abbrev Atomic {ε : Type} (ok : α → CalendarStage → Prop) : Except ε α → CalendarStage → Prop :=
  Either ok fun _ s => s.committed = false

theorem beside_follows {p : AdminCall α} (h : p.run.Uses (·.besideCalendar))
    (hs : s.committed = false) :
    p.run.Follows calendarProtocol (Atomic fun _ s' => s' = s) s := by
  refine Prog.Follows.mono (besideCalendar_follows h) fun result s' hs' => ?_
  cases result with
  | error e => exact hs' ▸ hs
  | ok a => exact hs'

theorem requireAdmin_uses : requireAdmin.run.Uses (·.besideCalendar) := by
  refine .bindExcept (.orFail ⟨rfl, fun _ => trivial⟩) fun isAdmin => ?_
  split <;> trivial

theorem invalidateForChange_uses (oldStartMs newStartMs : Option ℤ) :
    (invalidateForChange oldStartMs newStartMs).Uses (·.besideCalendar) := by
  refine .call rfl fun nowMs => ?_
  unfold invalidateIf
  split
  · exact ⟨rfl, fun _ => trivial⟩
  · trivial

/-- The snapshot has the revision that the request expects. -/
def Snapped (expectedRevision : ℕ) (snapshot : RaceCalendar) (s : CalendarStage) : Prop :=
  s.committed = false ∧ s.seen = some snapshot ∧ snapshot.revision = expectedRevision

theorem snapshotAt_follows (expectedRevision : ℕ) (hs : s.committed = false) :
    (snapshotAt expectedRevision).run.Follows calendarProtocol
      (Atomic (Snapped expectedRevision)) s := by
  have hread : (AdminOp.races .getSnapshot).call.Follows calendarProtocol
      (Atomic fun snapshot s => s.committed = false ∧ s.seen = some snapshot) s := by
    refine ⟨?_, fun answer => ?_⟩
    · rintro change ⟨⟩ hsome
      cases hsome
    · cases answer with
      | error err =>
          change (s.committed || _) = false
          rw [hs]
          rfl
      | ok snapshot => exact ⟨hs, rfl⟩
  refine .bindExcept (Prog.Follows.orFail hread) fun snapshot s' hs' => ?_
  split
  · rename_i hrevision
    exact ⟨hs'.1, hs'.2, hrevision.symm⟩
  · exact hs'.1

theorem permits_of_checked {change : RaceConfigOp} {snapshot : RaceCalendar}
    (hs : s.committed = false) (hseen : s.seen = some snapshot)
    (hchecked : change.Checked snapshot) : calendarProtocol.permits s (.races change) := by
  rintro change' ⟨⟩ -
  exact ⟨hs, snapshot, hseen, hchecked⟩

/-- After the change nothing can fail. -/
theorem respond_follows (oldStartMs newStartMs : Option ℤ) (response : AdminResponse) :
    (liftM (invalidateForChange oldStartMs newStartMs) >>= fun _ =>
      (pure response : AdminCall AdminResponse)).run.Follows calendarProtocol
        (Atomic fun _ _ => True) s :=
  .bindExcept (Prog.Follows.lift (besideCalendar_follows (invalidateForChange_uses _ _)))
    fun _ _ _ => trivial

theorem not_committed_of_error {change : RaceConfigOp} (hs : s.committed = false)
    {answer : change.Answer} (h : change.succeeds answer = false) :
    (s.committed || (AdminOp.committedAt? (.races change) answer).isSome) = false := by
  simp [AdminOp.committedAt?, RaceConfigOp.committedAt?, h, hs]

/-- A check of the request that makes no call. -/
theorem check_follows {x : Except Status α} (hs : s.committed = false) :
    (ExceptT.mk (pure x) : AdminCall α).run.Follows calendarProtocol
      (Atomic fun a s' => s' = s ∧ x = .ok a) s :=
  Prog.Follows.ofExcept (fun _ _ => hs) fun _ hx => ⟨rfl, hx⟩

theorem createRaceConfig_follows (expectedRevision : ℕ) (config : Option ProtoRaceConfigInput) :
    (createRaceConfig expectedRevision config).run.Follows calendarProtocol
      (Atomic fun _ _ => True) calendarProtocol.init := by
  refine .bindExcept (beside_follows requireAdmin_uses rfl) fun _ s1 h1 => ?_
  subst h1
  refine .bindExcept (check_follows rfl) fun config s2 h2 => ?_
  obtain ⟨rfl, -⟩ := h2
  refine .bindExcept (beside_follows (.lift ⟨rfl, fun _ => trivial⟩) rfl) fun raceId s3 h3 => ?_
  subst h3
  refine .bindExcept (snapshotAt_follows expectedRevision rfl) fun snapshot s4 h4 => ?_
  obtain ⟨hs, hseen, hrevision⟩ := h4
  refine .bindExcept (check_follows hs) fun _ s5 h5 => ?_
  obtain ⟨rfl, hvalid⟩ := h5
  have hchecked : (RaceConfigOp.createConfig expectedRevision ⟨raceId, config⟩).Checked
      snapshot := ⟨hrevision, (calendarOk_of_validate hvalid).perm (perm_sortByStartTime _)⟩
  refine .bindExcept (Prog.Follows.orFail (?_ : Prog.Follows _ (Atomic fun _ _ => True) _ _))
    fun _ _ _ => respond_follows _ _ _
  refine ⟨permits_of_checked hs hseen hchecked, fun answer => ?_⟩
  cases answer with
  | error err => exact not_committed_of_error hs rfl
  | ok revision => trivial

theorem updateRaceConfig_follows (expectedRevision : ℕ) (raceId : String)
    (config : Option ProtoRaceConfigInput) :
    (updateRaceConfig expectedRevision raceId config).run.Follows calendarProtocol
      (Atomic fun _ _ => True) calendarProtocol.init := by
  refine .bindExcept (beside_follows requireAdmin_uses rfl) fun _ s1 h1 => ?_
  subst h1
  refine .bindExcept (check_follows rfl) fun _ s2 h2 => ?_
  obtain ⟨rfl, -⟩ := h2
  refine .bindExcept (check_follows rfl) fun config s3 h3 => ?_
  obtain ⟨rfl, -⟩ := h3
  refine .bindExcept (snapshotAt_follows expectedRevision rfl) fun snapshot s4 h4 => ?_
  obtain ⟨hs, hseen, hrevision⟩ := h4
  refine .bindExcept (check_follows hs) fun previous s5 h5 => ?_
  obtain ⟨rfl, -⟩ := h5
  refine .bindExcept (check_follows hs) fun _ s6 h6 => ?_
  obtain ⟨rfl, hvalid⟩ := h6
  have hchecked : (RaceConfigOp.updateConfig expectedRevision ⟨raceId, config⟩).Checked
      snapshot := ⟨hrevision, (calendarOk_of_validate hvalid).perm (perm_sortByStartTime _)⟩
  refine .bindExcept (Prog.Follows.orFail (?_ : Prog.Follows _ (Atomic fun _ _ => True) _ _))
    fun _ _ _ => respond_follows _ _ _
  refine ⟨permits_of_checked hs hseen hchecked, fun answer => ?_⟩
  cases answer with
  | error err => exact not_committed_of_error hs rfl
  | ok revision => trivial

/-- The calendar without a race needs no check. -/
theorem deleteRaceConfig_follows (expectedRevision : ℕ) (raceId : String) :
    (deleteRaceConfig expectedRevision raceId).run.Follows calendarProtocol
      (Atomic fun _ _ => True) calendarProtocol.init := by
  refine .bindExcept (beside_follows requireAdmin_uses rfl) fun _ s1 h1 => ?_
  subst h1
  refine .bindExcept (check_follows rfl) fun _ s2 h2 => ?_
  obtain ⟨rfl, -⟩ := h2
  refine .bindExcept (snapshotAt_follows expectedRevision rfl) fun snapshot s3 h3 => ?_
  obtain ⟨hs, hseen, hrevision⟩ := h3
  refine .bindExcept (check_follows hs) fun deleted s4 h4 => ?_
  obtain ⟨rfl, -⟩ := h4
  refine .bindExcept (Prog.Follows.orFail (?_ : Prog.Follows _ (Atomic fun _ _ => True) _ _))
    fun _ _ _ => respond_follows _ _ _
  refine ⟨permits_of_checked hs hseen hrevision, fun answer => ?_⟩
  cases answer with
  | error err => exact not_committed_of_error hs rfl
  | ok revision => trivial

theorem raceConfigRequest_follows (request : RaceConfigRequest) :
    request.handle.Follows calendarProtocol (Atomic fun _ _ => True) calendarProtocol.init := by
  cases request with
  | create expectedRevision config => exact createRaceConfig_follows expectedRevision config
  | update expectedRevision raceId config =>
      exact updateRaceConfig_follows expectedRevision raceId config
  | delete expectedRevision raceId => exact deleteRaceConfig_follows expectedRevision raceId

end Follows

/-! ## Runs -/

/-- The revision at which an entry of the log has committed a change. -/
def AdminEntry.committedAt? (e : AdminEntry) : Option ℕ := e.op.committedAt? e.answer

/-- The calendar that a call has read. -/
def AdminOp.snapshot? : (op : AdminOp) → op.Answer → Option RaceCalendar
  | .races .getSnapshot, .ok snapshot => some snapshot
  | _, _ => none

def AdminEntry.snapshot? (e : AdminEntry) : Option RaceCalendar := e.op.snapshot? e.answer

/-- What a call makes of the calendar. -/
def Settled (s s' : AdminState E) (committedAt : Option ℕ) : Prop :=
  s'.calendar = s.calendar ∧ committedAt = none ∨
    ∃ races, s'.calendar = s.calendar.put races ∧ committedAt = some s.calendar.revision

theorem adminExec_settled (s : AdminState E) (op : AdminOp) (input : AdminInput E) :
    Settled s (adminExec s op input).1 (op.committedAt? (adminExec s op input).2) := by
  cases op with
  | races change =>
      rcases execRaces_cases s.calendar input change with ⟨hsame, hnone⟩ | ⟨races, hput, hat, -⟩
      · exact Or.inl ⟨hsame, hnone⟩
      · exact Or.inr ⟨races, hput, hat⟩
  | menu op => cases op <;> exact Or.inl ⟨rfl, rfl⟩
  | _ => exact Or.inl ⟨rfl, rfl⟩

theorem adminExec_snapshot {s : AdminState E} {op : AdminOp} {input : AdminInput E}
    {snapshot : RaceCalendar} (h : op.snapshot? (adminExec s op input).2 = some snapshot) :
    snapshot = s.calendar.getSnapshot ∧ (adminExec s op input).1.calendar = s.calendar := by
  cases op with
  | races change =>
      cases change with
      | getSnapshot =>
          change AdminOp.snapshot? (.races .getSnapshot) (if input.fails then _ else _) = _ at h
          split at h
          · cases h
          · exact ⟨(Option.some.inj h).symm, rfl⟩
      | _ => cases h
  | _ => cases h

/-- Whoever has read the calendar has read a state of it. -/
def CalendarSeen (w : AdminWorld E) : Prop :=
  ∀ e ∈ w.log, ∀ snapshot, AdminEntry.snapshot? e = some snapshot →
    ∃ old : RaceCalendar, snapshot = old.getSnapshot ∧ w.shared.calendar.Seen old

theorem CalendarSeen.step {w : AdminWorld E} (h : CalendarSeen w) (i : ℕ) (op : AdminOp)
    (input : AdminInput E) : CalendarSeen (w.perform adminExec i op input) := by
  intro e he snapshot hsnapshot
  rcases List.mem_cons.mp he with rfl | he
  · obtain ⟨rfl, hsame⟩ := adminExec_snapshot hsnapshot
    refine ⟨w.shared.calendar, rfl, ?_⟩
    change (adminExec w.shared op input).1.calendar.Seen w.shared.calendar
    exact hsame ▸ Versioned.Seen.refl _
  · obtain ⟨old, rfl, hold⟩ := h e he snapshot hsnapshot
    refine ⟨old, rfl, ?_⟩
    change (adminExec w.shared op input).1.calendar.Seen old
    rcases adminExec_settled w.shared op input with ⟨hsame, -⟩ | ⟨races, hput, -⟩
    · exact hsame ▸ hold
    · exact hput ▸ hold.put races

/-- What a request goes by has been read. -/
theorem exists_entry_of_seen {j : ℕ} {log : List AdminEntry} {snapshot : RaceCalendar}
    (h : (calendarProtocol.stageOf j log).seen = some snapshot) :
    ∃ e ∈ log, AdminEntry.snapshot? e = some snapshot := by
  induction log with
  | nil => cases h
  | cons e log ih =>
      have hearlier : (calendarProtocol.stageOf j log).seen = some snapshot →
          ∃ e' ∈ e :: log, AdminEntry.snapshot? e' = some snapshot := fun h => by
        obtain ⟨e', he', hsnapshot⟩ := ih h
        exact ⟨e', List.mem_cons_of_mem e he', hsnapshot⟩
      rw [Protocol.stageOf] at h
      split at h
      · obtain ⟨i, op, answer⟩ := e
        cases op with
        | races change =>
            cases change with
            | getSnapshot =>
                cases answer with
                | error err => exact hearlier h
                | ok read =>
                    obtain rfl := Option.some.inj h
                    exact ⟨_, List.mem_cons_self, rfl⟩
            | _ => exact hearlier h
        | _ => exact hearlier h
      · exact hearlier h

structure CalendarKnown (w : AdminWorld E) : Prop where
  ok : CalendarOk w.shared.calendar.value
  seen : CalendarSeen w
  past : ∀ e ∈ w.log, ∀ r ∈ AdminEntry.committedAt? e, r < w.shared.calendar.revision
  once : ∀ r, w.log.countP (fun e => AdminEntry.committedAt? e = some r) ≤ 1

/-- The change was checked with the calendar that it is written to. -/
theorem CalendarKnown.ok_exec {w : AdminWorld E} {i : ℕ} {op : AdminOp} (h : CalendarKnown w)
    (hpermits : calendarProtocol.permits (calendarProtocol.stageOf i w.log) op)
    (input : AdminInput E) : CalendarOk (adminExec w.shared op input).1.calendar.value := by
  cases op with
  | races change =>
      rcases execRaces_cases w.shared.calendar input change with
        ⟨hsame, -⟩ | ⟨races, hput, hat, hkept⟩
      · change CalendarOk (execRaces w.shared.calendar input change).1.value
        rw [hsame]
        exact h.ok
      · change CalendarOk (execRaces w.shared.calendar input change).1.value
        rw [hput]
        refine hkept ?_ h.ok
        have hexpected : change.expectedRevision? = some w.shared.calendar.revision := by
          unfold RaceConfigOp.committedAt? at hat
          split at hat
          · exact hat
          · cases hat
        obtain ⟨-, snapshot, hsnapshot, hchecked⟩ := hpermits change rfl (by rw [hexpected]; rfl)
        obtain ⟨e, he, hread⟩ := exists_entry_of_seen hsnapshot
        obtain ⟨old, rfl, hold⟩ := h.seen e he snapshot hread
        have hrevision : old.revision = w.shared.calendar.revision := by
          cases change with
          | getSnapshot => cases hexpected
          | createConfig r race => exact hchecked.1.trans (Option.some.inj hexpected)
          | updateConfig r race => exact hchecked.1.trans (Option.some.inj hexpected)
          | deleteConfig r raceId => exact Eq.trans hchecked (Option.some.inj hexpected)
        rw [hold.eq_of_revision hrevision.symm]
        exact hchecked
  | menu op => cases op <;> exact h.ok
  | _ => exact h.ok

theorem CalendarKnown.step {w : AdminWorld E} {i : ℕ} {op : AdminOp} {input : AdminInput E}
    (h : CalendarKnown w)
    (hpermits : calendarProtocol.permits (calendarProtocol.stageOf i w.log) op) :
    CalendarKnown (w.perform adminExec i op input) := by
  refine ⟨h.ok_exec hpermits input, h.seen.step i op input, ?_, ?_⟩
  · rcases adminExec_settled w.shared op input with ⟨hsame, hnone⟩ | ⟨races, hput, hat⟩
    · intro e he r hr
      change r < (adminExec w.shared op input).1.calendar.revision
      rw [hsame]
      rcases List.mem_cons.mp he with rfl | he
      · rw [AdminEntry.committedAt?, hnone] at hr
        cases hr
      · exact h.past e he r hr
    · intro e he r hr
      change r < (adminExec w.shared op input).1.calendar.revision
      rw [hput, Versioned.put_revision]
      rcases List.mem_cons.mp he with rfl | he
      · rw [AdminEntry.committedAt?, hat] at hr
        obtain rfl := Option.some.inj hr
        exact Nat.lt_succ_self _
      · exact Nat.lt_succ_of_lt (h.past e he r hr)
  · intro r
    change (_ :: w.log).countP _ ≤ 1
    rcases adminExec_settled w.shared op input with ⟨hsame, hnone⟩ | ⟨races, hput, hat⟩
    · rw [List.countP_cons_of_neg (by simp [AdminEntry.committedAt?, hnone])]
      exact h.once r
    · by_cases hr : w.shared.calendar.revision = r
      · -- all earlier commits were made at smaller revisions
        have hnever : w.log.countP (fun e => AdminEntry.committedAt? e = some r) = 0 := by
          rw [List.countP_eq_zero]
          intro e he heq
          exact absurd (h.past e he r (by simpa using heq)) (by omega)
        rw [List.countP_cons, hnever]
        split <;> omega
      · rw [List.countP_cons_of_neg (by simp [AdminEntry.committedAt?, hat, hr])]
        exact h.once r

theorem committed_next (s : CalendarStage) (op : AdminOp) (answer : op.Answer) :
    (calendarProtocol.next s op answer).committed =
      (s.committed || (op.committedAt? answer).isSome) := by
  cases op with
  | races change =>
      cases change with
      | getSnapshot =>
          cases answer with
          | error err => rfl
          | ok snapshot => exact (Bool.or_false s.committed).symm
      | _ => rfl
  | _ => rfl

/-- A request that is not known to have committed has not. -/
theorem not_committed_of_stage {i : ℕ} {log : List AdminEntry}
    (h : (calendarProtocol.stageOf i log).committed = false) :
    ∀ e ∈ log, e.thread = i → AdminEntry.committedAt? e = none := by
  induction log with
  | nil => simp
  | cons e log ih =>
      rw [Protocol.stageOf] at h
      split at h
      · rw [committed_next, Bool.or_eq_false_iff] at h
        intro e' he' hthread
        rcases List.mem_cons.mp he' with rfl | he'
        · rw [AdminEntry.committedAt?]
          simpa using h.2
        · exact ih h.1 e' he' hthread
      · rename_i hother
        intro e' he' hthread
        rcases List.mem_cons.mp he' with rfl | he'
        · exact absurd hthread hother
        · exact ih h e' he' hthread

/-- One step of a run: a request that has ended does nothing, and a call
leaves the calendar alone or commits at its revision. -/
theorem settled_step (p : AdminPool E) (event : ℕ × AdminInput E) :
    p.step adminExec event = p ∨ ∃ e : AdminEntry,
      (p.step adminExec event).world.log = e :: p.world.log ∧
        Settled p.world.shared (p.step adminExec event).world.shared e.committedAt? := by
  unfold Pool.step
  split
  · exact Or.inl rfl
  · exact Or.inr ⟨_, rfl, adminExec_settled _ _ _⟩

def calendarStart (requests : ℕ → RaceConfigRequest) (s : AdminState E) : AdminPool E :=
  Pool.start s fun i => (requests i).handle

/-- In every run the calendar has distinct races that do not overlap; every
step leaves it alone or commits one change that raises the revision by one;
of the changes that expect one revision at most one is committed; and a
request that ends with an error has committed none. -/
theorem raceCalendar_never_overlaps (requests : ℕ → RaceConfigRequest) (s : AdminState E)
    (hs : CalendarOk s.calendar.value) (events : List (ℕ × AdminInput E)) :
    let p := stateAt (Pool.step adminExec) (calendarStart requests s) events
    (∀ n, CalendarOk (p n).world.shared.calendar.value) ∧
      (∀ n, p (n + 1) = p n ∨ ∃ e : AdminEntry, (p (n + 1)).world.log = e :: (p n).world.log ∧
        Settled (p n).world.shared (p (n + 1)).world.shared e.committedAt?) ∧
      (∀ n r, (p n).world.log.countP (fun e => AdminEntry.committedAt? e = some r) ≤ 1) ∧
      ∀ n i status, (p n).threads i = .ret (.error status) →
        ∀ e ∈ (p n).world.log, e.thread = i → AdminEntry.committedAt? e = none := by
  intro p
  have hfollowed : (calendarStart requests s).FollowedBy (fun _ => calendarProtocol)
      (Atomic fun _ _ => True) := fun i => raceConfigRequest_follows (requests i)
  have hknown : ∀ n, CalendarKnown (p n).world := by
    refine hfollowed.invariant (G := fun _ _ _ _ => True)
      (fun w i op input hw _ hpermits => hw.step hpermits) ?_
      (along_of_forall fun q event => ?_)
    · refine ⟨hs, fun e he => ?_, fun e he => ?_, fun r => Nat.zero_le _⟩
      · cases he
      · cases he
    · unfold Pool.Guarded
      split <;> trivial
  refine ⟨fun n => (hknown n).ok, fun n => ?_, fun n => (hknown n).once, fun n i status hret => ?_⟩
  · by_cases hn : n < events.length
    · have hsucc : p (n + 1) = (p n).step adminExec events[n] := stateAt_succ hn
      rw [hsucc]
      exact settled_step (p n) events[n]
    · refine Or.inl ?_
      change stateAt _ _ _ _ = stateAt _ _ _ _
      rw [stateAt_of_length_le (by omega), stateAt_of_length_le (by omega)]
  · have hends : ((p n).threads i).Follows calendarProtocol (Atomic fun _ _ => True)
        (calendarProtocol.stageOf i (p n).world.log) := hfollowed.stateAt events n i
    rw [hret] at hends
    exact not_committed_of_stage hends

namespace TwoCreations

/-- A race of one minute. -/
def config (startSec : ℤ) : ProtoRaceConfigInput :=
  ⟨"race", some ⟨startSec, 0⟩, 60, "map", some .random, some 1, some .noon⟩

/-- Two admins create overlapping races at the same revision. -/
def requests : ℕ → RaceConfigRequest
  | 0 => .create 0 (some (config 100))
  | 1 => .create 0 (some (config 130))
  | _ => .delete 0 "other"

/-- Both have checked their race before one of them writes it. -/
def events : List (ℕ × AdminInput CarWorld) :=
  List.replicate 3 (0, .works) ++ List.replicate 4 (1, .works) ++ List.replicate 3 (0, .works)

theorem one_is_created :
    (stateAt (Pool.step adminExec) (calendarStart requests (.initial CarWorld 0)) events
      10).world.shared.calendar =
        ⟨1, [⟨"id", "race", 130000, 60, "map", .random, some 1, .noon⟩]⟩ ∧
    ∀ n, CalendarOk (stateAt (Pool.step adminExec)
      (calendarStart requests (.initial CarWorld 0)) events n).world.shared.calendar.value :=
  ⟨by decide +kernel, (raceCalendar_never_overlaps requests _ calendarOk_nil events).1⟩

end TwoCreations

end HackArena.Admin
