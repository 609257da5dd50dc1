import HackArena.Admin.MenuCaches
import HackArena.Admin.RaceCalendarRuns

/-!
# How changes are made known to the menu

A request that changes a configuration commits the change and invalidates
the cache of the menu afterwards. A race that neither starts soon nor was
to start soon is not in the cache.
-/

namespace HackArena.Admin

open HackArena.Runtime HackArena.Services

/-! ## Changes of sandboxes -/

/-- The revision with which a change of a sandbox has been committed. -/
def AdminOp.sandboxRevision? : (op : AdminOp) → op.Answer → Option ℕ
  | .sandboxes (.createConfig ..), .ok revision => some revision
  | .sandboxes (.updateConfig ..), .ok revision => some revision
  | .sandboxes (.deleteConfig ..), .ok revision => some revision
  | _, _ => none

def AdminEntry.sandboxRevision? (e : AdminEntry) : Option ℕ := e.op.sandboxRevision? e.answer

def AdminResponse.sandboxRevision? : AdminResponse → Option ℕ
  | .sandboxConfig revision _ | .sandboxDeleted revision _
  | .sandboxTimeOfDay revision _ _ _ _ => some revision
  | _ => none

/-- A change is committed first and announced afterwards. -/
inductive Announcement where
  | nothing
  | committed (revision : ℕ)
  | announced (revision : ℕ)

def Announcement.announce : Announcement → Announcement
  | .committed revision => .announced revision
  | s => s

def Announcement.next (s : Announcement) : (op : AdminOp) → op.Answer → Announcement
  | .menu .invalidateSandboxes, _ => s.announce
  | op, answer => ((op.sandboxRevision? answer).map .committed).getD s

def announceProtocol : Protocol AdminOp AdminOp.Answer Announcement where
  init := .nothing
  next := Announcement.next
  permits _ _ := True

section Announcing

open Prog

variable {α : Type} {s : Announcement}

theorem next_of_quiet {op : AdminOp} (hop : op.quiet = true) (answer : op.Answer) :
    s.next op answer = s := by
  cases op with
  | sandboxes op => cases op <;> first | rfl | cases hop
  | menu op => cases op <;> first | rfl | cases hop
  | _ => rfl

theorem announce_quiet {p : AdminCall α} (h : Quiet p) :
    p.run.Follows announceProtocol (Either (fun _ s' => s' = s) fun _ _ => True) s := by
  refine Prog.Follows.mono (Uses.follows h fun op hop => ⟨trivial, next_of_quiet hop⟩)
    fun result s' hs' => ?_
  cases result with
  | ok a => exact hs'
  | error err => trivial

/-- The change of the revision has been committed and announced. -/
abbrev Over (revision : ℕ) (s : Announcement) : Prop := s = .announced revision

theorem writeSandboxes_follows {op : AdminProg (Except SandboxConfigRepoError ℕ)}
    (h : op.Follows announceProtocol
      (Either (fun revision s' => s' = .committed revision) fun _ _ => True) s) :
    (writeSandboxes op).run.Follows announceProtocol (Either Over fun _ _ => True) s := by
  refine .bindExcept (Prog.Follows.orFail h) fun revision s' hs' => ?_
  subst hs'
  refine .bindExcept (Prog.Follows.lift (?_ : Prog.Follows _ (fun _ => Over revision) _ _))
    fun _ _ hover => hover
  exact ⟨trivial, fun _ => rfl⟩

/-- The answer of a request that has changed a sandbox. -/
abbrev Answered : Except Status AdminResponse → Announcement → Prop :=
  Either (fun response s => ∀ revision, response.sandboxRevision? = some revision →
    Over revision s) fun _ _ => True

theorem sandboxConfigRequest_follows (request : SandboxConfigRequest) :
    request.handle.Follows announceProtocol Answered .nothing := by
  cases request with
  | create expectedRevision config =>
      refine .bindExcept (announce_quiet quiet_requireAdmin) fun _ s1 h1 =>
        .bindExcept (announce_quiet (quiet_check _)) fun config s2 h2 =>
        .bindExcept (announce_quiet (.lift (quiet_of_call rfl))) fun sandboxId s3 h3 =>
        .bindExcept (writeSandboxes_follows ⟨trivial, fun answer => ?_⟩) fun revision s4 h4 => ?_
      · cases answer with
        | ok revision => rfl
        | error err => trivial
      · rintro _ ⟨⟩
        exact h4
  | update expectedRevision sandboxId config =>
      refine .bindExcept (announce_quiet quiet_requireAdmin) fun _ s1 h1 =>
        .bindExcept (announce_quiet (quiet_check _)) fun _ s2 h2 =>
        .bindExcept (announce_quiet (quiet_requireSandboxNotActive _)) fun _ s3 h3 =>
        .bindExcept (announce_quiet (quiet_check _)) fun config s4 h4 =>
        .bindExcept (writeSandboxes_follows ⟨trivial, fun answer => ?_⟩) fun revision s5 h5 => ?_
      · cases answer with
        | ok revision => rfl
        | error err => trivial
      · rintro _ ⟨⟩
        exact h5
  | delete expectedRevision sandboxId =>
      refine .bindExcept (announce_quiet quiet_requireAdmin) fun _ s1 h1 =>
        .bindExcept (announce_quiet (quiet_check _)) fun _ s2 h2 =>
        .bindExcept (announce_quiet (quiet_requireSandboxNotActive _)) fun _ s3 h3 =>
        .bindExcept (writeSandboxes_follows ⟨trivial, fun answer => ?_⟩) fun revision s4 h4 => ?_
      · cases answer with
        | ok revision => rfl
        | error err => trivial
      · rintro _ ⟨⟩
        exact h4
  | updateTimeOfDay expectedRevision sandboxId preset =>
      refine .bindExcept (announce_quiet quiet_requireAdmin) fun _ s1 h1 =>
        .bindExcept (announce_quiet (quiet_check _)) fun _ s2 h2 =>
        .bindExcept (announce_quiet (quiet_check _)) fun preset s3 h3 =>
        .bindExcept (announce_quiet quiet_readSandboxes) fun snapshot s4 h4 =>
        .bindExcept (announce_quiet (quiet_check _)) fun sandbox s5 h5 =>
        .bindExcept (writeSandboxes_follows ⟨trivial, fun answer => ?_⟩) fun revision s6 h6 =>
        .bindExcept (announce_quiet (.lift (quiet_applyTimeOfDay _ _))) fun _ s7 h7 =>
        .bindExcept (announce_quiet quiet_utcNow) fun _ s8 h8 => ?_
      · cases answer with
        | ok revision => rfl
        | error err => trivial
      · rintro _ ⟨⟩
        exact h8.trans (h7.trans h6)

end Announcing

/-! ## Changes of races -/

/-- The start of a race in a calendar. -/
def raceStart (c : RaceCalendar) (raceId : String) : Option ℤ :=
  (c.value.find? fun entry => entry.raceId = raceId).map (·.config.startsAtMs)

namespace RaceConfigOp

def raceId? : RaceConfigOp → Option String
  | .getSnapshot => none
  | .createConfig _ race | .updateConfig _ race => some race.raceId
  | .deleteConfig _ raceId => some raceId

def newStart? : RaceConfigOp → Option ℤ
  | .createConfig _ race | .updateConfig _ race => some race.config.startsAtMs
  | .getSnapshot | .deleteConfig .. => none

/-- The start before the change, in the calendar that the request goes by. -/
def oldStart? (basis : RaceCalendar) : RaceConfigOp → Option ℤ
  | .updateConfig _ race => raceStart basis race.raceId
  | .deleteConfig _ raceId => raceStart basis raceId
  | .getSnapshot | .createConfig .. => none

/-- The revision with which a change has been committed. -/
def newRevision? : (op : RaceConfigOp) → op.Answer → Option ℕ
  | .createConfig .., .ok revision => some revision
  | .updateConfig .., .ok revision => some revision
  | .deleteConfig .., .ok revision => some revision
  | _, _ => none

end RaceConfigOp

structure RaceChange where
  op : RaceConfigOp
  revision : ℕ
  basis : Option RaceCalendar

/-- What a request has read and changed, and what it has done since its
change. -/
structure RaceNotice where
  seen : Option RaceCalendar
  change : Option RaceChange
  nowMs : Option ℤ
  invalidated : Bool

def RaceNotice.commit (s : RaceNotice) (op : RaceConfigOp) (revision : ℕ) : RaceNotice :=
  ⟨s.seen, some ⟨op, revision, s.seen⟩, none, false⟩

def RaceNotice.next (s : RaceNotice) : (op : AdminOp) → op.Answer → RaceNotice
  | .races .getSnapshot, .ok snapshot => { s with seen := some snapshot }
  | .races op, answer => ((op.newRevision? answer).map (s.commit op)).getD s
  | .currentUnixMs, nowMs => { s with nowMs := some nowMs }
  | .menu .invalidateUpcoming, _ => { s with invalidated := true }
  | _, _ => s

def noticeProtocol : Protocol AdminOp AdminOp.Answer RaceNotice where
  init := ⟨none, none, none, false⟩
  next := RaceNotice.next
  permits _ _ := True

/-- The change has been made known, unless that was not needed. -/
def RaceNotice.Over (raceId : String) (revision : ℕ) (s : RaceNotice) : Prop :=
  ∃ op basis nowMs, s.change = some ⟨op, revision, some basis⟩ ∧
    op.raceId? = some raceId ∧ op.expectedRevision? = some basis.revision ∧
    s.nowMs = some nowMs ∧
    (invalidatesUpcoming (op.oldStart? basis) op.newStart? nowMs = true → s.invalidated = true)

section Noticing

open Prog

variable {α : Type} {s : RaceNotice}

theorem notice_free {p : AdminCall α} : p.run.Follows noticeProtocol (fun _ _ => True) s := by
  have huses : p.run.Uses fun _ => True := by
    induction p.run with
    | ret a => trivial
    | call op next ih => exact ⟨trivial, ih⟩
  exact huses.follows_keeping (I := fun _ => True)
    (fun _ _ _ _ => ⟨trivial, fun _ => trivial⟩) trivial

/-- A part of a request of which nothing is kept. -/
theorem notice_any {p : AdminCall α} :
    p.run.Follows noticeProtocol (Either (fun _ _ => True) fun _ _ => True) s :=
  Prog.Follows.mono notice_free fun result _ _ => by cases result <;> trivial

theorem notice_check {x : Except Status α} :
    (ExceptT.mk (pure x) : AdminCall α).run.Follows noticeProtocol
      (Either (fun a s' => s' = s ∧ x = .ok a) fun _ _ => True) s :=
  Prog.Follows.ofExcept (fun _ _ => trivial) fun _ hx => ⟨rfl, hx⟩

theorem notice_snapshotAt (expectedRevision : ℕ) :
    (snapshotAt expectedRevision).run.Follows noticeProtocol
      (Either (fun snapshot s' => s'.seen = some snapshot ∧ snapshot.revision = expectedRevision)
        fun _ _ => True) s := by
  have hread : (AdminOp.races .getSnapshot).call.Follows noticeProtocol
      (Either (fun snapshot s' => s'.seen = some snapshot) fun _ _ => True) s := by
    refine ⟨trivial, fun answer => ?_⟩
    cases answer with
    | error err => trivial
    | ok snapshot => rfl
  refine .bindExcept (Prog.Follows.orFail hread) fun snapshot s' hs' => ?_
  split
  · rename_i hrevision
    exact ⟨hs', hrevision.symm⟩
  · trivial

/-- The answer of a request that has changed a race. -/
abbrev Noticed : Except Status AdminResponse → RaceNotice → Prop :=
  Either (fun response s => ∀ revision raceId, response = .raceConfig revision raceId →
    s.Over raceId revision) fun _ _ => True

theorem change_of_commit (op : RaceConfigOp) (answer : op.Answer) {basis : RaceCalendar}
    {revision : ℕ} (hseen : s.seen = some basis) (h : op.newRevision? answer = some revision) :
    (s.next (.races op) answer).change = some ⟨op, revision, some basis⟩ := by
  cases op with
  | getSnapshot => cases h
  | _ =>
      cases answer with
      | error err => cases h
      | ok committed =>
          obtain rfl := Option.some.inj h
          rw [← hseen]
          rfl

theorem notice_invalidate {op : RaceConfigOp} {basis : RaceCalendar} {revision : ℕ}
    {raceId : String} (hs : s.change = some ⟨op, revision, some basis⟩)
    (hraceId : op.raceId? = some raceId) (hexpected : op.expectedRevision? = some basis.revision)
    {oldStartMs newStartMs : Option ℤ} (hold : op.oldStart? basis = oldStartMs)
    (hnew : op.newStart? = newStartMs) :
    (liftM (invalidateForChange oldStartMs newStartMs) >>= fun _ =>
      (pure (.raceConfig revision raceId) : AdminCall AdminResponse)).run.Follows noticeProtocol
        Noticed s := by
  subst hold hnew
  refine .bindExcept (Prog.Follows.lift (?_ : Prog.Follows _
    (fun _ s' => s'.Over raceId revision) _ _)) fun _ s' hs' => ?_
  · refine .call trivial fun nowMs => ?_
    unfold invalidateIf
    split
    · exact ⟨trivial, fun _ => ⟨op, basis, nowMs, hs, hraceId, hexpected, rfl, fun _ => rfl⟩⟩
    · rename_i hnot
      exact ⟨op, basis, nowMs, hs, hraceId, hexpected, rfl, fun h => absurd h hnot⟩
  · rintro _ _ ⟨⟩
    exact hs'

theorem raceStart_of_findRace {races : RaceCalendar} {raceId : String} {race : RaceConfigRecord}
    (h : findRace races.value raceId = .ok race) :
    raceStart races raceId = some race.config.startsAtMs := by
  unfold findRace at h
  split at h
  · cases h
  · rename_i entry hentry
    obtain rfl := Except.ok.inj h
    rw [raceStart, hentry]
    rfl

theorem raceConfigRequest_noticed (request : RaceConfigRequest) :
    request.handle.Follows noticeProtocol Noticed noticeProtocol.init := by
  cases request with
  | create expectedRevision config =>
      refine .bindExcept notice_any fun _ s1 _ => .bindExcept notice_any fun config s2 _ =>
        .bindExcept notice_any fun raceId s3 _ =>
        .bindExcept (notice_snapshotAt expectedRevision) fun snapshot s4 h4 =>
        .bindExcept notice_check fun _ s5 h5 => ?_
      obtain ⟨hseen, hrevision⟩ := h4
      obtain ⟨rfl, -⟩ := h5
      refine .call trivial fun answer => ?_
      cases answer with
      | error err => trivial
      | ok revision =>
          have hchange := change_of_commit (.createConfig expectedRevision ⟨raceId, config⟩)
            (.ok revision) hseen rfl
          exact notice_invalidate hchange rfl (congrArg some hrevision.symm) rfl rfl
  | update expectedRevision raceId config =>
      refine .bindExcept notice_any fun _ s1 _ => .bindExcept notice_any fun _ s2 _ =>
        .bindExcept notice_any fun config s3 _ =>
        .bindExcept (notice_snapshotAt expectedRevision) fun snapshot s4 h4 =>
        .bindExcept notice_check fun previous s5 h5 =>
        .bindExcept notice_check fun _ s6 h6 => ?_
      obtain ⟨hseen, hrevision⟩ := h4
      obtain ⟨rfl, hprevious⟩ := h5
      obtain ⟨rfl, -⟩ := h6
      refine .call trivial fun answer => ?_
      cases answer with
      | error err => trivial
      | ok revision =>
          have hchange := change_of_commit (.updateConfig expectedRevision ⟨raceId, config⟩)
            (.ok revision) hseen rfl
          exact notice_invalidate hchange rfl (congrArg some hrevision.symm)
            (raceStart_of_findRace hprevious) rfl
  | delete expectedRevision raceId =>
      refine .bindExcept notice_any fun _ s1 _ => .bindExcept notice_any fun _ s2 _ =>
        .bindExcept (notice_snapshotAt expectedRevision) fun snapshot s3 h3 =>
        .bindExcept notice_check fun deleted s4 h4 => ?_
      obtain ⟨hseen, hrevision⟩ := h3
      obtain ⟨rfl, hdeleted⟩ := h4
      refine .call trivial fun answer => ?_
      cases answer with
      | error err => trivial
      | ok revision =>
          have hchange := change_of_commit (.deleteConfig expectedRevision raceId) (.ok revision)
            hseen rfl
          exact notice_invalidate hchange rfl (congrArg some hrevision.symm)
            (raceStart_of_findRace hdeleted) rfl

end Noticing

/-! ## What the log shows -/

def Announcement.Shows (log : List AdminEntry) (j : ℕ) : Announcement → Prop
  | .nothing => True
  | .committed revision => ∃ e ∈ log, AdminEntry.sandboxRevision? e = some revision
  | .announced revision => ∃ older, (⟨j, .menu .invalidateSandboxes, ()⟩ :: older) <:+ log ∧
      ∃ e ∈ older, AdminEntry.sandboxRevision? e = some revision

theorem Announcement.Shows.cons {log : List AdminEntry} {j : ℕ} {s : Announcement}
    (h : s.Shows log j) (e : AdminEntry) : s.Shows (e :: log) j := by
  cases s with
  | nothing => trivial
  | committed revision =>
      obtain ⟨e', he', hrevision⟩ := h
      exact ⟨e', List.mem_cons_of_mem e he', hrevision⟩
  | announced revision =>
      obtain ⟨older, hsuffix, hrest⟩ := h
      exact ⟨older, hsuffix.trans (List.suffix_cons e log), hrest⟩

theorem announcement_shows (log : List AdminEntry) (j : ℕ) :
    (announceProtocol.stageOf j log).Shows log j := by
  induction log with
  | nil => trivial
  | cons e log ih =>
      rw [Protocol.stageOf]
      split
      · rename_i hthread
        subst hthread
        change ((announceProtocol.stageOf e.thread log).next e.op e.answer).Shows _ _
        obtain ⟨i, op, answer⟩ := e
        have hcommit : ∀ revision, op.sandboxRevision? answer = some revision →
            (Announcement.committed revision).Shows (⟨i, op, answer⟩ :: log) i :=
          fun revision hrevision => ⟨_, List.mem_cons_self, hrevision⟩
        have hother : ((op.sandboxRevision? answer).map Announcement.committed).getD
            (announceProtocol.stageOf i log) |>.Shows (⟨i, op, answer⟩ :: log) i := by
          cases hrevision : op.sandboxRevision? answer with
          | none => exact ih.cons _
          | some revision => exact hcommit revision hrevision
        cases op with
        | menu op =>
            cases op with
            | invalidateSandboxes =>
                change (announceProtocol.stageOf i log).announce.Shows _ _
                cases hstage : announceProtocol.stageOf i log with
                | nothing => trivial
                | committed revision =>
                    rw [hstage] at ih
                    exact ⟨log, List.suffix_refl _, ih⟩
                | announced revision =>
                    rw [hstage] at ih
                    exact ih.cons _
            | _ => exact hother
        | _ => exact hother
      · exact ih.cons e

/-- What a request has done since its change. -/
structure RaceChange.Shows (change : RaceChange) (now : Option ℤ) (invalid : Bool)
    (log : List AdminEntry) (e : AdminEntry) (older : List AdminEntry) : Prop where
  committed : (e :: older) <:+ log
  basis : ∀ basis, change.basis = some basis →
    ∃ e' ∈ older, AdminEntry.snapshot? e' = some basis
  clock : ∀ nowMs, now = some nowMs → ∃ later,
    (⟨e.thread, .currentUnixMs, nowMs⟩ :: later) <:+ log ∧ (e :: older) <:+ later
  invalidated : invalid = true → ∃ later,
    (⟨e.thread, .menu .invalidateUpcoming, ()⟩ :: later) <:+ log ∧ (e :: older) <:+ later

structure RaceNotice.Shows (s : RaceNotice) (log : List AdminEntry) (j : ℕ) : Prop where
  seen : ∀ snapshot, s.seen = some snapshot → ∃ e ∈ log, AdminEntry.snapshot? e = some snapshot
  change : ∀ change, s.change = some change → ∃ answer older,
    change.op.newRevision? answer = some change.revision ∧
      change.Shows s.nowMs s.invalidated log ⟨j, .races change.op, answer⟩ older

variable {log : List AdminEntry} {j : ℕ} {s : RaceNotice} {now : Option ℤ} {invalid : Bool}

theorem RaceChange.Shows.cons {change : RaceChange} {e : AdminEntry} {older : List AdminEntry}
    (h : change.Shows now invalid log e older) (e' : AdminEntry) :
    change.Shows now invalid (e' :: log) e older where
  committed := h.committed.trans (List.suffix_cons e' log)
  basis := h.basis
  clock nowMs hnow := by
    obtain ⟨later, hsuffix, hlater⟩ := h.clock nowMs hnow
    exact ⟨later, hsuffix.trans (List.suffix_cons e' log), hlater⟩
  invalidated hinvalidated := by
    obtain ⟨later, hsuffix, hlater⟩ := h.invalidated hinvalidated
    exact ⟨later, hsuffix.trans (List.suffix_cons e' log), hlater⟩

theorem RaceNotice.Shows.cons (h : s.Shows log j) (e : AdminEntry) : s.Shows (e :: log) j where
  seen snapshot hsnapshot := by
    obtain ⟨e', he', hread⟩ := h.seen snapshot hsnapshot
    exact ⟨e', List.mem_cons_of_mem e he', hread⟩
  change change hchange := by
    obtain ⟨answer, older, hrevision, hshows⟩ := h.change change hchange
    exact ⟨answer, older, hrevision, hshows.cons e⟩

/-- The request has committed a change. -/
theorem RaceNotice.Shows.commit (h : s.Shows log j) {op : RaceConfigOp} {answer : op.Answer}
    {revision : ℕ} (hrevision : op.newRevision? answer = some revision) :
    (s.commit op revision).Shows (⟨j, .races op, answer⟩ :: log) j where
  seen snapshot hsnapshot := (h.cons _).seen snapshot hsnapshot
  change change hchange := by
    obtain rfl := Option.some.inj hchange
    exact ⟨answer, log, hrevision, List.suffix_refl _, h.seen, nofun, nofun⟩

theorem raceNotice_shows (log : List AdminEntry) (j : ℕ) :
    (noticeProtocol.stageOf j log).Shows log j := by
  induction log with
  | nil => exact ⟨nofun, nofun⟩
  | cons e log ih =>
      rw [Protocol.stageOf]
      split
      · rename_i hthread
        subst hthread
        change ((noticeProtocol.stageOf e.thread log).next e.op e.answer).Shows _ _
        obtain ⟨i, op, answer⟩ := e
        cases op with
        | races op =>
            have hchange : RaceNotice.Shows (((op.newRevision? answer).map
                ((noticeProtocol.stageOf i log).commit op)).getD (noticeProtocol.stageOf i log))
                (⟨i, .races op, answer⟩ :: log) i := by
              cases hrevision : op.newRevision? answer with
              | none => exact ih.cons _
              | some revision => exact ih.commit hrevision
            cases op with
            | getSnapshot =>
                cases answer with
                | error err => exact ih.cons _
                | ok snapshot =>
                    refine ⟨fun read hread => ?_, (ih.cons _).change⟩
                    exact ⟨_, List.mem_cons_self, hread⟩
            | _ => exact hchange
        | currentUnixMs =>
            refine ⟨(ih.cons _).seen, fun change hchange => ?_⟩
            obtain ⟨answer', older, hrevision, hshows⟩ := ih.change change hchange
            refine ⟨answer', older, hrevision, ?_⟩
            refine ⟨(hshows.cons _).committed, hshows.basis, fun nowMs hnow => ?_,
              (hshows.cons _).invalidated⟩
            obtain rfl := Option.some.inj hnow
            exact ⟨log, List.suffix_refl _, hshows.committed⟩
        | menu op =>
            cases op with
            | invalidateUpcoming =>
                refine ⟨(ih.cons _).seen, fun change hchange => ?_⟩
                obtain ⟨answer', older, hrevision, hshows⟩ := ih.change change hchange
                refine ⟨answer', older, hrevision, ?_⟩
                exact ⟨(hshows.cons _).committed, hshows.basis, (hshows.cons _).clock,
                  fun _ => ⟨log, List.suffix_refl _, hshows.committed⟩⟩
            | _ => exact ih.cons _
        | _ => exact ih.cons _
      · exact ih.cons e

/-! ## What a commit does to the starts -/

variable {E : Type} {c : RaceCalendar} {raceId : String}

theorem mem_getSnapshot {race : RaceConfigRecord} : race ∈ c.getSnapshot.value ↔ race ∈ c.value :=
  (perm_sortByStartTime c.value).mem_iff

theorem raceStart_eq_none (h : ∀ race ∈ c.value, race.raceId ≠ raceId) :
    raceStart c.getSnapshot raceId = none := by
  have hnone : c.getSnapshot.value.find? (fun race => race.raceId = raceId) = none := by
    rw [List.find?_eq_none]
    intro race hrace
    simpa using h race (mem_getSnapshot.mp hrace)
  rw [raceStart, hnone]
  rfl

theorem raceStart_eq_some {race : RaceConfigRecord} (hmem : race ∈ c.value)
    (h : ∀ other ∈ c.value, other.raceId = race.raceId → other = race) :
    raceStart c.getSnapshot race.raceId = some race.config.startsAtMs := by
  cases hfind : c.getSnapshot.value.find? (fun other => other.raceId = race.raceId) with
  | none =>
      rw [List.find?_eq_none] at hfind
      simpa using hfind race (mem_getSnapshot.mpr hmem)
  | some other =>
      have hid : other.raceId = race.raceId := by simpa using List.find?_some hfind
      have hother := mem_getSnapshot.mp (List.mem_of_find?_eq_some hfind)
      rw [raceStart, hfind, h other hother hid]
      rfl

/-- What a committed change has done. -/
structure Moves (c c' : RaceCalendar) (op : RaceConfigOp) (revision : ℕ) : Prop where
  expected : op.expectedRevision? = some c.revision
  revision : c'.revision = revision
  before : ∀ raceId, op.raceId? = some raceId →
    raceStart c.getSnapshot raceId = op.oldStart? c.getSnapshot
  after : ∀ raceId, op.raceId? = some raceId → raceStart c'.getSnapshot raceId = op.newStart?

theorem createConfig_moves {expectedRevision revision : ℕ} {race : RaceConfigRecord}
    (h : (c.createConfig expectedRevision race).2 = .ok revision) :
    Moves c (c.createConfig expectedRevision race).1 (.createConfig expectedRevision race)
      revision := by
  rw [RaceCalendar.createConfig] at h ⊢
  rcases transact_cases c expectedRevision (insertRow race) with
    ⟨err, hrefused⟩ | ⟨races, rfl, hraces, hchanged⟩
  · rw [hrefused] at h
    cases h
  · rw [hchanged] at h ⊢
    have hfresh : ∀ other ∈ c.value, other.raceId ≠ race.raceId := by
      unfold insertRow at hraces
      split at hraces
      · cases hraces
      · rename_i hany
        simpa using hany
    refine ⟨rfl, Except.ok.inj h, ?_, ?_⟩
    · rintro _ ⟨⟩
      exact raceStart_eq_none hfresh
    · rintro _ ⟨⟩
      have hvalue : (c.put races).value = c.value ++ [race] := insertRow_ok hraces
      have hmem : race ∈ (c.put races).value := by
        rw [hvalue]
        exact List.mem_append_right _ (List.mem_singleton_self race)
      refine raceStart_eq_some hmem fun other hother hid => ?_
      rw [hvalue, List.mem_append, List.mem_singleton] at hother
      exact hother.resolve_left fun hold => hfresh other hold hid

theorem updateConfig_moves {expectedRevision revision : ℕ} {race : RaceConfigRecord}
    (h : (c.updateConfig expectedRevision race).2 = .ok revision) :
    Moves c (c.updateConfig expectedRevision race).1 (.updateConfig expectedRevision race)
      revision := by
  rw [RaceCalendar.updateConfig] at h ⊢
  rcases transact_cases c expectedRevision (replaceRow race) with
    ⟨err, hrefused⟩ | ⟨races, rfl, hraces, hchanged⟩
  · rw [hrefused] at h
    cases h
  · rw [hchanged] at h ⊢
    have hexists : ∃ old ∈ c.value, old.raceId = race.raceId := by
      unfold replaceRow at hraces
      split at hraces
      · rename_i hany
        simpa using hany
      · cases hraces
    obtain ⟨old, hold, hid⟩ := hexists
    have hvalue : (c.put races).value =
        c.value.map fun entry => if entry.raceId = race.raceId then race else entry :=
      replaceRow_ok hraces
    refine ⟨rfl, Except.ok.inj h, ?_, ?_⟩
    · rintro _ ⟨⟩
      rfl
    · rintro _ ⟨⟩
      have hmem : race ∈ (c.put races).value := by
        rw [hvalue, List.mem_map]
        exact ⟨old, hold, if_pos hid⟩
      refine raceStart_eq_some hmem fun other hother hotherId => ?_
      rw [hvalue, List.mem_map] at hother
      obtain ⟨entry, -, rfl⟩ := hother
      split at hotherId
      · rw [if_pos ‹_›]
      · contradiction

theorem deleteConfig_moves {expectedRevision revision : ℕ} {raceId : String}
    (h : (c.deleteConfig expectedRevision raceId).2 = .ok revision) :
    Moves c (c.deleteConfig expectedRevision raceId).1 (.deleteConfig expectedRevision raceId)
      revision := by
  rw [RaceCalendar.deleteConfig] at h ⊢
  rcases transact_cases c expectedRevision (deleteRow raceId) with
    ⟨err, hrefused⟩ | ⟨races, rfl, hraces, hchanged⟩
  · rw [hrefused] at h
    cases h
  · rw [hchanged] at h ⊢
    refine ⟨rfl, Except.ok.inj h, ?_, ?_⟩
    · rintro _ ⟨⟩
      rfl
    · rintro _ ⟨⟩
      have hvalue : (c.put races).value = c.value.filter fun entry => entry.raceId ≠ raceId :=
        deleteRow_ok hraces
      refine raceStart_eq_none fun race hrace => ?_
      rw [hvalue] at hrace
      simpa using (List.mem_filter.mp hrace).2

theorem execRaces_moves {input : AdminInput E} {op : RaceConfigOp} {revision : ℕ}
    (h : op.newRevision? (execRaces c input op).2 = some revision) :
    Moves c (execRaces c input op).1 op revision := by
  cases op with
  | getSnapshot => cases h
  | createConfig expectedRevision race =>
      rw [execRaces] at h ⊢
      split at h
      · cases h
      · rename_i hfails
        rw [if_neg hfails]
        refine createConfig_moves ?_
        cases hanswer : (c.createConfig expectedRevision race).2 with
        | error err => rw [hanswer] at h; cases h
        | ok committed => rw [hanswer] at h; exact congrArg _ (Option.some.inj h)
  | updateConfig expectedRevision race =>
      rw [execRaces] at h ⊢
      split at h
      · cases h
      · rename_i hfails
        rw [if_neg hfails]
        refine updateConfig_moves ?_
        cases hanswer : (c.updateConfig expectedRevision race).2 with
        | error err => rw [hanswer] at h; cases h
        | ok committed => rw [hanswer] at h; exact congrArg _ (Option.some.inj h)
  | deleteConfig expectedRevision raceId =>
      rw [execRaces] at h ⊢
      split at h
      · cases h
      · rename_i hfails
        rw [if_neg hfails]
        refine deleteConfig_moves ?_
        cases hanswer : (c.deleteConfig expectedRevision raceId).2 with
        | error err => rw [hanswer] at h; cases h
        | ok committed => rw [hanswer] at h; exact congrArg _ (Option.some.inj h)

end HackArena.Admin
