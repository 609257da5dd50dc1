import HackArena.Admin.ChangeNotices

/-!
# The public menu is not served stale

A change is committed before the generation is advanced, and a call reads
the generation before it loads. A cache of the present generation has
therefore been loaded after every change that is over.
-/

namespace HackArena.Admin

open GuardedRun HackArena.Runtime HackArena.Services

variable {E : Type}

/-! ## The calls of the menu -/

section Readers

open Prog

theorem isServed_iff {α : Type} {ttlMs : ℤ} {cache : MenuCache α} {nowMs : ℤ} {generation : ℕ} :
    isServed ttlMs cache nowMs generation = true ↔ cache.Hits ttlMs nowMs generation := by
  simp [isServed, Stamped.Hits]

/-- A call whose answer is the list that its reading serves. -/
def ServesSandboxes : Except Status AdminResponse →
    Reading SandboxTable (List SandboxConfigRecord) → Prop
  | .ok (.menuSandboxes list), s =>
      ∀ s₀ : AdminState E, ((sandboxCaching E).rules s₀).Serves s list
  | _, _ => True

def ServesUpcoming : Except Status AdminResponse →
    Reading RaceCalendar (List PublicUpcomingRaceSummary) → Prop
  | .ok (.menuUpcomingRaces list), s =>
      ∀ s₀ : AdminState E, ((upcomingCaching E).rules s₀).Serves s list
  | _, _ => True

theorem permits_sandboxes {op : AdminOp} (hop : op.fills ≠ some .sandboxes)
    (s : Reading SandboxTable (List SandboxConfigRecord)) :
    (sandboxCaching E).reader.permits s op := by
  intro answer cache hevent
  cases op with
  | menu op =>
      cases op with
      | writeSandboxes written => exact absurd rfl hop
      | _ => cases hevent
  | sandboxes op => cases op <;> cases answer <;> cases hevent
  | _ => cases hevent

theorem permits_upcoming {op : AdminOp} (hop : op.fills ≠ some .upcoming)
    (s : Reading RaceCalendar (List PublicUpcomingRaceSummary)) :
    (upcomingCaching E).reader.permits s op := by
  intro answer cache hevent
  cases op with
  | menu op =>
      cases op with
      | writeUpcoming written => exact absurd rfl hop
      | _ => cases hevent
  | races op => cases op <;> cases answer <;> cases hevent
  | _ => cases hevent

theorem menuSandboxConfigs_follows :
    menuSandboxConfigs.run.Follows (sandboxCaching E).reader (ServesSandboxes (E := E)) .idle := by
  refine .call (permits_sandboxes (by decide) _) fun nowMs =>
    .call (permits_sandboxes (by decide) _) fun generation =>
    .call (permits_sandboxes (by decide) _) fun cache => ?_
  change Follows _ _ (ExceptT.run (if isServed _ _ _ _ then _ else _))
    (Reading.looked nowMs generation cache)
  split
  · rename_i hserved
    exact fun s₀ => ⟨isServed_iff.mp hserved, rfl⟩
  · refine .call (permits_sandboxes (by decide) _) fun answer => ?_
    cases answer with
    | error err => trivial
    | ok snapshot =>
        refine .call ?_ fun _ => fun s₀ => rfl
        rintro answer cache' ⟨⟩
        rfl

theorem menuUpcomingRaces_follows :
    menuUpcomingRaces.run.Follows (upcomingCaching E).reader (ServesUpcoming (E := E)) .idle := by
  refine .call (permits_upcoming (by decide) _) fun nowMs =>
    .call (permits_upcoming (by decide) _) fun generation =>
    .call (permits_upcoming (by decide) _) fun cache => ?_
  change Follows _ _ (ExceptT.run (if isServed _ _ _ _ then _ else _))
    (Reading.looked nowMs generation cache)
  split
  · rename_i hserved
    exact fun s₀ => ⟨isServed_iff.mp hserved, rfl⟩
  · refine .call (permits_upcoming (by decide) _) fun answer => ?_
    cases answer with
    | error err => trivial
    | ok snapshot =>
        refine .call ?_ fun _ => fun s₀ => rfl
        rintro answer cache' ⟨⟩
        rfl

theorem follows_of_uses_sandboxes {α : Type} {p : AdminProg α}
    (h : p.Uses (·.fills ≠ some .sandboxes)) (s : Reading SandboxTable (List SandboxConfigRecord)) :
    p.Follows (sandboxCaching E).reader (fun _ _ => True) s :=
  h.follows_keeping (I := fun _ => True)
    (fun _ s hop _ => ⟨permits_sandboxes hop s, fun _ => trivial⟩) trivial

theorem follows_of_uses_upcoming {α : Type} {p : AdminProg α}
    (h : p.Uses (·.fills ≠ some .upcoming))
    (s : Reading RaceCalendar (List PublicUpcomingRaceSummary)) :
    p.Follows (upcomingCaching E).reader (fun _ _ => True) s :=
  h.follows_keeping (I := fun _ => True)
    (fun _ s hop _ => ⟨permits_upcoming hop s, fun _ => trivial⟩) trivial

/-- The tasks that are not calls of the menu. -/
theorem adminTask_fillsNone {task : AdminTask} (hsandboxes : task ≠ .menuSandboxConfigs)
    (hupcoming : task ≠ .menuUpcomingRaces) : task.handle.Uses (·.fills = none) := by
  cases task with
  | raceConfigs request => exact raceConfigRequest_fillsNone request
  | sandboxConfigs request => exact sandboxConfigRequest_fillsNone request
  | runtime request => exact (runtimeAdminRequest_quiet request).mono fun _ => AdminOp.fills_of_quiet
  | menuSandboxConfigs => exact absurd rfl hsandboxes
  | menuUpcomingRaces => exact absurd rfl hupcoming
  | tick => exact .call rfl fun _ => trivial

theorem adminTask_follows_sandboxes (task : AdminTask) :
    task.handle.Follows (sandboxCaching E).reader (fun _ _ => True) .idle := by
  by_cases hsandboxes : task = .menuSandboxConfigs
  · subst hsandboxes
    exact Prog.Follows.mono menuSandboxConfigs_follows fun _ _ _ => trivial
  · by_cases hupcoming : task = .menuUpcomingRaces
    · subst hupcoming
      exact follows_of_uses_sandboxes menuUpcomingRaces_uses _
    · exact follows_of_uses_sandboxes ((adminTask_fillsNone hsandboxes hupcoming).mono
        fun _ hop => hop ▸ nofun) _

theorem adminTask_follows_upcoming (task : AdminTask) :
    task.handle.Follows (upcomingCaching E).reader (fun _ _ => True) .idle := by
  by_cases hupcoming : task = .menuUpcomingRaces
  · subst hupcoming
    exact Prog.Follows.mono menuUpcomingRaces_follows fun _ _ _ => trivial
  · by_cases hsandboxes : task = .menuSandboxConfigs
    · subst hsandboxes
      exact follows_of_uses_upcoming menuSandboxConfigs_uses _
    · exact follows_of_uses_upcoming ((adminTask_fillsNone hsandboxes hupcoming).mono
        fun _ hop => hop ▸ nofun) _

end Readers

/-! ## What is known in a run -/

/-- What has been read and committed lies in the past. -/
structure MenuKnown (w : AdminWorld E) : Prop where
  clock : ∀ i (nowMs : ℤ), (⟨i, .currentUnixMs, nowMs⟩ : AdminEntry) ∈ w.log →
    nowMs ≤ w.shared.clockMs
  sandboxes : ∀ e ∈ w.log, ∀ revision, AdminEntry.sandboxRevision? e = some revision →
    revision ≤ w.shared.sandboxes.revision
  races : ∀ i (op : RaceConfigOp) (answer : op.Answer) revision,
    (⟨i, .races op, answer⟩ : AdminEntry) ∈ w.log → op.newRevision? answer = some revision →
      revision ≤ w.shared.calendar.revision
  seen : CalendarSeen w

theorem clockMs_adminExec (s : AdminState E) (op : AdminOp) (input : AdminInput E) :
    (adminExec s op input).1.clockMs = s.clockMs + input.elapsedMs := by
  cases op with
  | menu op => cases op <;> rfl
  | _ => rfl

theorem calendarRevision_adminExec (s : AdminState E) (op : AdminOp) (input : AdminInput E) :
    s.calendar.revision ≤ (adminExec s op input).1.calendar.revision := by
  rcases adminExec_settled s op input with ⟨hsame, -⟩ | ⟨races, hput, -⟩
  · rw [hsame]
  · rw [hput]
    exact Nat.le_succ _

/-- A transaction that may fail. -/
theorem revision_transact (t : SandboxTable) (fails : Bool) (error : SandboxConfigRepoError)
    (expectedRevision : ℕ) (f : List SandboxConfigRecord → SandboxRows) :
    t.revision ≤
        (if fails then (t, .error error) else t.transact expectedRevision f).1.revision ∧
      ∀ revision, (if fails then (t, .error error) else t.transact expectedRevision f).2 =
          .ok revision →
        revision ≤
          (if fails then (t, .error error) else t.transact expectedRevision f).1.revision := by
  split
  · exact ⟨Nat.le_refl _, nofun⟩
  · rw [SandboxTable.transact]
    rcases Versioned.change_cases t (2 ^ 63 - 1) expectedRevision
        (SandboxConfigRepoError.revisionMismatch expectedRevision t.revision) .revisionOverflow f
      with ⟨err, hrefused⟩ | ⟨sandboxes, -, -, hchanged⟩
    · rw [hrefused]
      exact ⟨Nat.le_refl _, nofun⟩
    · rw [hchanged]
      exact ⟨Nat.le_succ _, fun revision h => (Except.ok.inj h).ge⟩

theorem eq_ok_of_sandboxRevision {op : SandboxConfigOp} (answer : op.Answer) {revision : ℕ}
    (h : AdminOp.sandboxRevision? (.sandboxes op) answer = some revision) :
    HEq answer (Except.ok revision : Except SandboxConfigRepoError ℕ) := by
  cases op with
  | getSnapshot => cases h
  | _ =>
      cases answer with
      | error err => cases h
      | ok committed => rw [Option.some.inj h]

theorem sandboxRevision_adminExec (s : AdminState E) (op : AdminOp) (input : AdminInput E) :
    s.sandboxes.revision ≤ (adminExec s op input).1.sandboxes.revision ∧
      ∀ revision, op.sandboxRevision? (adminExec s op input).2 = some revision →
        revision ≤ (adminExec s op input).1.sandboxes.revision := by
  cases op with
  | sandboxes op =>
      cases op with
      | getSnapshot => exact ⟨Nat.le_refl _, nofun⟩
      | createConfig expectedRevision sandbox =>
          obtain ⟨hle, hok⟩ := revision_transact s.sandboxes input.fails input.sandboxError
            expectedRevision (insertSandbox sandbox)
          exact ⟨hle, fun revision h => hok revision (eq_of_heq (eq_ok_of_sandboxRevision _ h))⟩
      | updateConfig expectedRevision sandbox =>
          obtain ⟨hle, hok⟩ := revision_transact s.sandboxes input.fails input.sandboxError
            expectedRevision (replaceSandbox sandbox)
          exact ⟨hle, fun revision h => hok revision (eq_of_heq (eq_ok_of_sandboxRevision _ h))⟩
      | deleteConfig expectedRevision sandboxId =>
          obtain ⟨hle, hok⟩ := revision_transact s.sandboxes input.fails input.sandboxError
            expectedRevision (deleteSandbox sandboxId)
          exact ⟨hle, fun revision h => hok revision (eq_of_heq (eq_ok_of_sandboxRevision _ h))⟩
  | menu op => cases op <;> exact ⟨Nat.le_refl _, nofun⟩
  | _ => exact ⟨Nat.le_refl _, nofun⟩

theorem newRevision_adminExec {s : AdminState E} {op : RaceConfigOp} {input : AdminInput E}
    {revision : ℕ} (h : op.newRevision? (adminExec s (.races op) input).2 = some revision) :
    Moves s.calendar (adminExec s (.races op) input).1.calendar op revision := execRaces_moves h

theorem MenuKnown.step {w : AdminWorld E} (h : MenuKnown w) (i : ℕ) (op : AdminOp)
    (input : AdminInput E) : MenuKnown (w.perform adminExec i op input) := by
  refine ⟨fun j nowMs hmem => ?_, fun e he revision hrevision => ?_,
    fun j change answer revision hmem hrevision => ?_, h.seen.step i op input⟩
  · rcases List.mem_cons.mp hmem with heq | hmem
    · cases heq
      exact Int.le_refl _
    · have hle := h.clock j nowMs hmem
      change nowMs ≤ (adminExec w.shared op input).1.clockMs
      rw [clockMs_adminExec]
      omega
  · obtain ⟨hle, hnew⟩ := sandboxRevision_adminExec w.shared op input
    rcases List.mem_cons.mp he with rfl | he
    · exact hnew revision hrevision
    · exact (h.sandboxes e he revision hrevision).trans hle
  · rcases List.mem_cons.mp hmem with heq | hmem
    · cases heq
      exact (newRevision_adminExec hrevision).revision.ge
    · exact (h.races j change answer revision hmem hrevision).trans
        (calendarRevision_adminExec w.shared op input)

/-! ## Entries -/

theorem entry_of_clock_sandboxes {e : AdminEntry} {nowMs : ℤ}
    (h : sandboxEvent e.op e.answer = some (.clock nowMs)) :
    e = ⟨e.thread, .currentUnixMs, nowMs⟩ := by
  obtain ⟨i, op, answer⟩ := e
  cases op with
  | currentUnixMs =>
      cases h
      rfl
  | sandboxes op => cases op <;> cases answer <;> cases h
  | menu op => cases op <;> cases h
  | _ => cases h

theorem entry_of_load_sandboxes {e : AdminEntry} {table : SandboxTable}
    (h : sandboxEvent e.op e.answer = some (.load table)) :
    e = ⟨e.thread, .sandboxes .getSnapshot, .ok table⟩ := by
  obtain ⟨i, op, answer⟩ := e
  cases op with
  | sandboxes op =>
      cases op with
      | getSnapshot =>
          cases answer with
          | error err => cases h
          | ok snapshot =>
              cases h
              rfl
      | _ => cases h
  | menu op => cases op <;> cases h
  | _ => cases h

theorem entry_of_clock_upcoming {e : AdminEntry} {nowMs : ℤ}
    (h : upcomingEvent e.op e.answer = some (.clock nowMs)) :
    e = ⟨e.thread, .currentUnixMs, nowMs⟩ := by
  obtain ⟨i, op, answer⟩ := e
  cases op with
  | currentUnixMs =>
      cases h
      rfl
  | races op => cases op <;> cases answer <;> cases h
  | menu op => cases op <;> cases h
  | _ => cases h

theorem entry_of_load_upcoming {e : AdminEntry} {table : RaceCalendar}
    (h : upcomingEvent e.op e.answer = some (.load table)) :
    e = ⟨e.thread, .races .getSnapshot, .ok table⟩ := by
  obtain ⟨i, op, answer⟩ := e
  cases op with
  | races op =>
      cases op with
      | getSnapshot =>
          cases answer with
          | error err => cases h
          | ok snapshot =>
              cases h
              rfl
      | _ => cases h
  | menu op => cases op <;> cases h
  | _ => cases h

/-! ## Runs -/

/-- The call has made no step yet. -/
def NotBegun (p : AdminPool E) (i : ℕ) : Prop := ∀ e ∈ p.world.log, e.thread ≠ i

/-- A call that looks at a cache which nobody has filled yet has not read
the generation and the time that such a cache carries. -/
def LooksAtFilled (w : AdminWorld E) (i : ℕ) : AdminOp → AdminInput E → Prop
  | .menu .readSandboxes, _ => ∀ nowMs ≤ sandboxConfigCacheTtlMs,
      (sandboxCaching E).reader.stageOf i w.log = .stamped nowMs 0 →
        ∃ e ∈ w.log, e.op.fills = some .sandboxes
  | .menu .readUpcoming, _ => ∀ nowMs ≤ upcomingCacheTtlMs,
      (upcomingCaching E).reader.stageOf i w.log = .stamped nowMs 0 →
        ∃ e ∈ w.log, e.op.fills = some .upcoming
  | _, _ => True

theorem warm_sandboxes {s₀ : AdminState E} (hcache : s₀.sandboxCache = .default _)
    {w : AdminWorld E} {i : ℕ} {op : AdminOp} {input : AdminInput E}
    (h : LooksAtFilled w i op input) : (sandboxCaching E).Warm s₀ w i op input := by
  rintro cache nowMs generation hlook hstage ⟨hzero, hage⟩
  change s₀.sandboxCache.generation = generation at hzero
  change nowMs - s₀.sandboxCache.cachedAtMs ≤ sandboxConfigCacheTtlMs at hage
  rw [hcache] at hzero hage
  obtain rfl : 0 = generation := hzero
  have hnow : nowMs ≤ sandboxConfigCacheTtlMs := Int.sub_zero nowMs ▸ hage
  cases op with
  | menu op =>
      cases op with
      | readSandboxes =>
          obtain ⟨e, he, hfills⟩ := h nowMs hnow hstage
          refine ⟨e, he, ?_⟩
          obtain ⟨j, op, answer⟩ := e
          cases op with
          | menu op =>
              cases op with
              | writeSandboxes written => exact ⟨written, rfl⟩
              | _ => cases hfills
          | _ => cases hfills
      | _ => cases hlook
  | sandboxes op => cases op <;> cases input with | mk _ fails => cases fails <;> cases hlook
  | _ => cases hlook

theorem warm_upcoming {s₀ : AdminState E} (hcache : s₀.upcomingCache = .default _)
    {w : AdminWorld E} {i : ℕ} {op : AdminOp} {input : AdminInput E}
    (h : LooksAtFilled w i op input) : (upcomingCaching E).Warm s₀ w i op input := by
  rintro cache nowMs generation hlook hstage ⟨hzero, hage⟩
  change s₀.upcomingCache.generation = generation at hzero
  change nowMs - s₀.upcomingCache.cachedAtMs ≤ upcomingCacheTtlMs at hage
  rw [hcache] at hzero hage
  obtain rfl : 0 = generation := hzero
  have hnow : nowMs ≤ upcomingCacheTtlMs := Int.sub_zero nowMs ▸ hage
  cases op with
  | menu op =>
      cases op with
      | readUpcoming =>
          obtain ⟨e, he, hfills⟩ := h nowMs hnow hstage
          refine ⟨e, he, ?_⟩
          obtain ⟨j, op, answer⟩ := e
          cases op with
          | menu op =>
              cases op with
              | writeUpcoming written => exact ⟨written, rfl⟩
              | _ => cases hfills
          | _ => cases hfills
      | _ => cases hlook
  | races op => cases op <;> cases input with | mk _ fails => cases fails <;> cases hlook
  | _ => cases hlook

section Runs

variable {tasks : ℕ → AdminTask} {s : AdminState E} {events : List (ℕ × AdminInput E)} {m n i : ℕ}
variable {nowMs : ℤ}

abbrev adminRun (tasks : ℕ → AdminTask) (s : AdminState E) (events : List (ℕ × AdminInput E)) :
    ℕ → AdminPool E := stateAt (Pool.step adminExec) (adminStart tasks s) events

theorem clockMs_mono (h : m ≤ n) : (adminRun tasks s events m).world.shared.clockMs ≤
    (adminRun tasks s events n).world.shared.clockMs := by
  refine stateAt_rel (R := fun q r : AdminPool E => q.world.shared.clockMs ≤ r.world.shared.clockMs)
    (I := fun _ => True) (fun _ => Int.le_refl _) (fun _ _ _ => Int.le_trans)
    (fun _ _ _ => trivial) (fun q event _ => ?_) trivial h
  unfold Pool.step
  split
  · exact Int.le_refl _
  · change q.world.shared.clockMs ≤ (adminExec _ _ _).1.clockMs
    rw [clockMs_adminExec]
    omega

theorem follows_adminRun {S : Type} {P : Protocol AdminOp AdminOp.Answer S}
    {post : Except Status AdminResponse → S → Prop}
    (h : ((adminStart tasks s).threads i).Follows P post P.init) (events : List (ℕ × AdminInput E))
    (n : ℕ) : ((adminRun tasks s events n).threads i).Follows P post
      (P.stageOf i (adminRun tasks s events n).world.log) := Pool.follows_stateAt h events n

/-- An entry of the log was made in a step. -/
theorem exists_step_adminRun {e : AdminEntry} {older : List AdminEntry}
    (h : (e :: older) <:+ (adminRun tasks s events n).world.log) :
    ∃ k < n, ∃ input, (adminRun tasks s events k).world.log = older ∧
      (adminRun tasks s events (k + 1)).world =
        (adminRun tasks s events k).world.perform adminExec e.thread e.op input ∧
      (adminExec (adminRun tasks s events k).world.shared e.op input).2 = e.answer := by
  obtain ⟨newer, hlog⟩ := h
  exact Pool.exists_step_of_log adminExec rfl hlog.symm

theorem log_adminRun (h : m ≤ n) :
    (adminRun tasks s events m).world.log <:+ (adminRun tasks s events n).world.log :=
  Pool.log_suffix_stateAt adminExec h

/-- Before a call has begun, the log is one on which it has not read the
clock, and the clock is not ahead of its reading. -/
theorem before_begin {start : List AdminEntry}
    (hstart : ((⟨i, .currentUnixMs, nowMs⟩ : AdminEntry) :: start) <:+
      (adminRun tasks s events n).world.log) (hm : NotBegun (adminRun tasks s events m) i) :
    (adminRun tasks s events m).world.log <:+ start ∧
      (adminRun tasks s events m).world.shared.clockMs ≤ nowMs := by
  obtain ⟨k, -, input, holder, hworld, hanswer⟩ := exists_step_adminRun hstart
  have hmk : m ≤ k := by
    by_contra hlater
    have hsuffix : (adminRun tasks s events (k + 1)).world.log <:+ _ :=
      log_adminRun (Nat.lt_of_not_le hlater)
    rw [hworld] at hsuffix
    exact hm _ (hsuffix.subset List.mem_cons_self) rfl
  have hclock : (adminRun tasks s events m).world.shared.clockMs ≤
      (adminRun tasks s events k).world.shared.clockMs := clockMs_mono hmk
  refine ⟨holder ▸ log_adminRun hmk, hclock.trans ?_⟩
  have hread : (adminRun tasks s events k).world.shared.clockMs + input.elapsedMs = nowMs := hanswer
  omega

theorem menuKnown_adminRun (n : ℕ) : MenuKnown (adminRun tasks s events n).world := by
  refine invariant_at (I := fun q : AdminPool E => MenuKnown q.world) (fun q event hq => ?_) ?_ n
  · unfold Pool.step
    split
    · exact hq
    · exact hq.step _ _ _
  · constructor <;> simp [adminStart, Pool.start, CalendarSeen]

end Runs

/-! ## Fresh lists -/

/-- A change of a sandbox that is over. -/
def SandboxChanged (tasks : ℕ → AdminTask) (q : AdminPool E) (revision : ℕ) : Prop :=
  ∃ j request response, tasks j = .sandboxConfigs request ∧
    q.threads j = .ret (.ok response) ∧ response.sandboxRevision? = some revision

/-- The list is that of a state of the database. As long as the call had not
begun, this state was not more than a minute old, and no change was over
that it does not include. -/
def SandboxesFresh (tasks : ℕ → AdminTask) (p : ℕ → AdminPool E) (n i : ℕ)
    (list : List SandboxConfigRecord) : Prop :=
  ∃ k < n, list = (p k).world.shared.sandboxes.getSnapshot.value ∧
    ∀ m, NotBegun (p m) i →
      (p m).world.shared.clockMs - 60000 ≤ (p k).world.shared.clockMs ∧
        ∀ revision, SandboxChanged tasks (p m) revision →
          revision ≤ (p k).world.shared.sandboxes.revision

/-- In step `c` the request `j` commits its change of a race. -/
def CommitsRace (p : ℕ → AdminPool E) (c j revision : ℕ) : Prop :=
  ∃ (op : RaceConfigOp) (answer : op.Answer), op.newRevision? answer = some revision ∧
    (p (c + 1)).world.log = ⟨j, .races op, answer⟩ :: (p c).world.log

/-- In step `d` the request `j` reads the clock, to see whether its change
matters. -/
def ReadsClock (p : ℕ → AdminPool E) (d j : ℕ) (nowMs : ℤ) : Prop :=
  (p (d + 1)).world.log = ⟨j, .currentUnixMs, nowMs⟩ :: (p d).world.log

/-- The race was to start within the hour before step `c`, or is to start
within the hour after it. -/
def StartsSoon (p : ℕ → AdminPool E) (c : ℕ) (raceId : String) (nowMs : ℤ) : Prop :=
  invalidatesUpcoming (raceStart (p c).world.shared.calendar.getSnapshot raceId)
    (raceStart (p (c + 1)).world.shared.calendar.getSnapshot raceId) nowMs = true

/-- The list is that of a state of the database at a time. As long as the
call had not begun, neither was more than a minute old, and no change was
over that concerns the next hour and that the state does not include. -/
def UpcomingFresh (tasks : ℕ → AdminTask) (p : ℕ → AdminPool E) (n i : ℕ)
    (list : List PublicUpcomingRaceSummary) : Prop :=
  ∃ k < n, ∃ builtMs ≤ (p k).world.shared.clockMs,
    list = buildUpcomingRaces (p k).world.shared.calendar.getSnapshot.value builtMs ∧
      ∀ m, NotBegun (p m) i → (p m).world.shared.clockMs - 60000 ≤ builtMs ∧
        ∀ j request revision raceId, tasks j = .raceConfigs request →
          (p m).threads j = .ret (.ok (.raceConfig revision raceId)) →
            ∃ c d nowMs, c < d ∧ d < m ∧ CommitsRace p c j revision ∧ ReadsClock p d j nowMs ∧
              (StartsSoon p c raceId nowMs → revision ≤ (p k).world.shared.calendar.revision)

section Fresh

variable {tasks : ℕ → AdminTask} {s : AdminState E} {events : List (ℕ × AdminInput E)} {m n i : ℕ}

/-- A change of a sandbox that is over has been announced. -/
theorem announced_of_sandboxChanged {revision : ℕ}
    (h : SandboxChanged tasks (adminRun tasks s events m) revision) :
    ∃ j older, (⟨j, .menu .invalidateSandboxes, ()⟩ :: older) <:+
        (adminRun tasks s events m).world.log ∧
      ∃ e ∈ older, AdminEntry.sandboxRevision? e = some revision := by
  obtain ⟨j, request, response, htask, hret, hrevision⟩ := h
  have hstart : ((adminStart tasks s).threads j).Follows announceProtocol Answered .nothing := by
    change (tasks j).handle.Follows _ _ _
    rw [htask]
    exact sandboxConfigRequest_follows request
  have hends := follows_adminRun hstart events m
  rw [hret] at hends
  have hshows := announcement_shows (adminRun tasks s events m).world.log j
  rw [hends revision hrevision] at hshows
  exact ⟨j, hshows⟩

theorem sandboxesFresh_adminRun (hcache : s.sandboxCache = .default _)
    (hguard : Along (Pool.Guarded LooksAtFilled) (Pool.step adminExec) (adminStart tasks s) events)
    {list : List SandboxConfigRecord} (htask : tasks i = .menuSandboxConfigs)
    (hret : (adminRun tasks s events n).threads i = .ret (.ok (.menuSandboxes list))) :
    SandboxesFresh tasks (adminRun tasks s events) n i list := by
  have hwarm : Along (Pool.Guarded ((sandboxCaching E).Warm s)) (Pool.step adminExec)
      (adminStart tasks s) events := by
    refine hguard.mono fun q event hq => ?_
    unfold Pool.Guarded at hq ⊢
    split
    · trivial
    · rename_i hcall
      rw [hcall] at hq
      exact warm_sandboxes hcache hq
  have hkept := CachedService.kept_stateAt (S := sandboxCaching E)
    (fun j => adminTask_follows_sandboxes (tasks j)) hwarm n
  have hstart : ((adminStart tasks s).threads i).Follows (sandboxCaching E).reader
      (ServesSandboxes (E := E)) .idle := by
    change (tasks i).handle.Follows _ _ _
    rw [htask]
    exact menuSandboxConfigs_follows
  have hends := follows_adminRun hstart events n
  rw [hret] at hends
  have hserves := hends s
  rw [← (sandboxCaching E).reading_eq_stageOf s] at hserves
  obtain ⟨nowMs, start, hclock, j, table, builtMs, l, before, hload, hbuilt, hvalue, hage, hover⟩ :=
    hkept.proper.fresh (show (0 : ℤ) ≤ 60 * 1000 by decide) hserves
  obtain ⟨x, hx, hwhat, hxlog⟩ := hload
  rw [entry_of_load_sandboxes hwhat] at hxlog
  obtain ⟨k, hk, input, hl, -, hanswer⟩ := exists_step_adminRun hxlog
  have htable : table = (adminRun tasks s events k).world.shared.sandboxes.getSnapshot := by
    change (if input.fails then _ else _) = Except.ok table at hanswer
    split at hanswer
    · cases hanswer
    · exact (Except.ok.inj hanswer).symm
  refine ⟨k, hk, by rw [hvalue, htable]; rfl, fun m hm => ?_⟩
  obtain ⟨y, hy, hywhat, hylog⟩ := hclock
  rw [entry_of_clock_sandboxes hywhat] at hylog
  obtain ⟨hsuffix, hearly⟩ := before_begin hylog (hy ▸ hm)
  constructor
  · obtain ⟨z, -, hzwhat, hzlog⟩ := hbuilt
    rw [entry_of_clock_sandboxes hzwhat, ← hl] at hzlog
    have hpast := (menuKnown_adminRun k).clock _ _ (hzlog.subset List.mem_cons_self)
    change nowMs - 60000 ≤ builtMs at hage
    omega
  · intro revision hchanged
    obtain ⟨j', older, hannounced, e, he, hrevision⟩ := announced_of_sandboxChanged hchanged
    have hdone := hover j' older ⟨_, rfl, rfl, hannounced.trans hsuffix⟩
    refine (menuKnown_adminRun k).sandboxes e ?_ revision hrevision
    rw [hl]
    exact hdone.suffix.subset he

/-- An entry of the log is what its step has added. -/
theorem exists_log_adminRun {e : AdminEntry} {older : List AdminEntry}
    (h : (e :: older) <:+ (adminRun tasks s events n).world.log) :
    ∃ k < n, (adminRun tasks s events k).world.log = older ∧
      (adminRun tasks s events (k + 1)).world.log = e :: older := by
  obtain ⟨k, hk, input, holder, hworld, hanswer⟩ := exists_step_adminRun h
  refine ⟨k, hk, holder, ?_⟩
  rw [hworld]
  change (⟨e.thread, e.op, _⟩ : AdminEntry) :: (adminRun tasks s events k).world.log = _
  rw [hanswer, holder]

/-- The commit of a change in the run of the calendar. -/
theorem moves_adminRun {c j revision : ℕ} {op : RaceConfigOp} {answer : op.Answer}
    (hrevision : op.newRevision? answer = some revision)
    (hlog : (adminRun tasks s events (c + 1)).world.log =
      ⟨j, .races op, answer⟩ :: (adminRun tasks s events c).world.log) :
    Moves (adminRun tasks s events c).world.shared.calendar
      (adminRun tasks s events (c + 1)).world.shared.calendar op revision := by
  have hsuffix : ((⟨j, .races op, answer⟩ : AdminEntry) ::
      (adminRun tasks s events c).world.log) <:+ (adminRun tasks s events (c + 1)).world.log :=
    hlog ▸ List.suffix_refl _
  obtain ⟨k, hk, input, holder, hworld, hanswer⟩ := exists_step_adminRun hsuffix
  obtain rfl : k = c := by
    by_contra hne
    have hlater : (adminRun tasks s events (k + 1)).world.log <:+
        (adminRun tasks s events c).world.log := log_adminRun (by omega)
    have hlength := hlater.length_le
    rw [hworld] at hlength
    change (adminRun tasks s events k).world.log.length + 1 ≤ _ at hlength
    rw [holder] at hlength
    omega
  rw [hworld]
  refine newRevision_adminExec ?_
  rw [hanswer]
  exact hrevision

/-- A change of a race that is over has been committed; if the race starts
soon or was to start soon, the change has been announced. -/
theorem announced_of_raceChanged {j revision : ℕ} {request : RaceConfigRequest} {raceId : String}
    (htask : tasks j = .raceConfigs request)
    (hret : (adminRun tasks s events m).threads j = .ret (.ok (.raceConfig revision raceId))) :
    ∃ c d nowMs, c < d ∧ d < m ∧ CommitsRace (adminRun tasks s events) c j revision ∧
      ReadsClock (adminRun tasks s events) d j nowMs ∧
      (StartsSoon (adminRun tasks s events) c raceId nowMs → ∃ older,
        (⟨j, .menu .invalidateUpcoming, ()⟩ :: older) <:+ (adminRun tasks s events m).world.log ∧
        (adminRun tasks s events (c + 1)).world.log <:+ older) := by
  have hstart : ((adminStart tasks s).threads j).Follows noticeProtocol Noticed
      noticeProtocol.init := by
    change (tasks j).handle.Follows _ _ _
    rw [htask]
    exact raceConfigRequest_noticed request
  have hends := follows_adminRun hstart events m
  rw [hret] at hends
  obtain ⟨op, basis, nowMs, hchange, hraceId, hexpected, hnow, hannounced⟩ :=
    hends revision raceId rfl
  have hshows := raceNotice_shows (adminRun tasks s events m).world.log j
  obtain ⟨answer, older, hrevision, hcommit⟩ := hshows.change _ hchange
  obtain ⟨later, hclock, hafter⟩ := hcommit.clock nowMs hnow
  obtain ⟨d, hd, rfl, hread⟩ := exists_log_adminRun hclock
  obtain ⟨c, hc, rfl, hcommitted⟩ := exists_log_adminRun hafter
  refine ⟨c, d, nowMs, hc, hd, ⟨op, answer, hrevision, hcommitted⟩, hread, fun hsoon => ?_⟩
  have hmoves := moves_adminRun hrevision hcommitted
  obtain ⟨e, he, hbasis⟩ := hcommit.basis basis rfl
  obtain ⟨old, rfl, hold⟩ := (menuKnown_adminRun c).seen e he basis hbasis
  have hseen : (adminRun tasks s events c).world.shared.calendar = old :=
    hold.eq_of_revision (Option.some.inj (hmoves.expected.symm.trans hexpected))
  rw [StartsSoon, hmoves.before raceId hraceId, hmoves.after raceId hraceId] at hsoon
  obtain ⟨announced, hinvalidate, hlater⟩ := hcommit.invalidated (hannounced (hseen ▸ hsoon))
  exact ⟨announced, hinvalidate, hcommitted ▸ hlater⟩

theorem upcomingFresh_adminRun (hcache : s.upcomingCache = .default _)
    (hguard : Along (Pool.Guarded LooksAtFilled) (Pool.step adminExec) (adminStart tasks s) events)
    {list : List PublicUpcomingRaceSummary} (htask : tasks i = .menuUpcomingRaces)
    (hret : (adminRun tasks s events n).threads i = .ret (.ok (.menuUpcomingRaces list))) :
    UpcomingFresh tasks (adminRun tasks s events) n i list := by
  have hwarm : Along (Pool.Guarded ((upcomingCaching E).Warm s)) (Pool.step adminExec)
      (adminStart tasks s) events := by
    refine hguard.mono fun q event hq => ?_
    unfold Pool.Guarded at hq ⊢
    split
    · trivial
    · rename_i hcall
      rw [hcall] at hq
      exact warm_upcoming hcache hq
  have hkept := CachedService.kept_stateAt (S := upcomingCaching E)
    (fun j => adminTask_follows_upcoming (tasks j)) hwarm n
  have hstart : ((adminStart tasks s).threads i).Follows (upcomingCaching E).reader
      (ServesUpcoming (E := E)) .idle := by
    change (tasks i).handle.Follows _ _ _
    rw [htask]
    exact menuUpcomingRaces_follows
  have hends := follows_adminRun hstart events n
  rw [hret] at hends
  have hserves := hends s
  rw [← (upcomingCaching E).reading_eq_stageOf s] at hserves
  obtain ⟨nowMs, start, hclock, j, table, builtMs, l, before, hload, hbuilt, hvalue, hage, hover⟩ :=
    hkept.proper.fresh (show (0 : ℤ) ≤ 60 * 1000 by decide) hserves
  obtain ⟨x, hx, hwhat, hxlog⟩ := hload
  rw [entry_of_load_upcoming hwhat] at hxlog
  obtain ⟨k, hk, input, hl, -, hanswer⟩ := exists_step_adminRun hxlog
  have htable : table = (adminRun tasks s events k).world.shared.calendar.getSnapshot := by
    change (if input.fails then _ else _) = Except.ok table at hanswer
    split at hanswer
    · cases hanswer
    · exact (Except.ok.inj hanswer).symm
  obtain ⟨z, -, hzwhat, hzlog⟩ := hbuilt
  rw [entry_of_clock_upcoming hzwhat, ← hl] at hzlog
  have hpast := (menuKnown_adminRun k).clock _ _ (hzlog.subset List.mem_cons_self)
  refine ⟨k, hk, builtMs, hpast, by rw [hvalue, htable]; rfl, fun m hm => ?_⟩
  obtain ⟨y, hy, hywhat, hylog⟩ := hclock
  rw [entry_of_clock_upcoming hywhat] at hylog
  obtain ⟨hsuffix, hearly⟩ := before_begin hylog (hy ▸ hm)
  constructor
  · change nowMs - 60000 ≤ builtMs at hage
    omega
  · intro j' request revision raceId htask' hret'
    obtain ⟨c, d, nowMs', hcd, hdm, ⟨op, answer, hrevision, hcommitted⟩, hread, hannounced⟩ :=
      announced_of_raceChanged htask' hret'
    refine ⟨c, d, nowMs', hcd, hdm, ⟨op, answer, hrevision, hcommitted⟩, hread, fun hsoon => ?_⟩
    obtain ⟨older, hinvalidate, hbefore⟩ := hannounced hsoon
    have hdone := hover j' older ⟨_, rfl, rfl, hinvalidate.trans hsuffix⟩
    refine (menuKnown_adminRun k).races j' op answer revision ?_ hrevision
    rw [hl]
    refine hdone.suffix.subset (hbefore.subset ?_)
    rw [hcommitted]
    exact List.mem_cons_self

end Fresh

/-- As long as the calls of the menu do not look at a cache that nobody has
filled at the generation and within the time to live that it was created
with, they answer with lists that are not stale. -/
theorem publicMenu_isFresh (tasks : ℕ → AdminTask) (clockMs : ℤ) (calendar : RaceCalendar)
    (sandboxes : SandboxTable) (events : List (ℕ × AdminInput E))
    (hguard : Along (Pool.Guarded LooksAtFilled) (Pool.step adminExec)
      (adminStart tasks (.boot E clockMs calendar sandboxes)) events) :
    let p := adminRun tasks (.boot E clockMs calendar sandboxes) events
    (∀ n i list, tasks i = .menuSandboxConfigs →
      (p n).threads i = .ret (.ok (.menuSandboxes list)) → SandboxesFresh tasks p n i list) ∧
    ∀ n i list, tasks i = .menuUpcomingRaces →
      (p n).threads i = .ret (.ok (.menuUpcomingRaces list)) → UpcomingFresh tasks p n i list :=
  ⟨fun _ _ _ htask hret => sandboxesFresh_adminRun rfl hguard htask hret,
    fun _ _ _ htask hret => upcomingFresh_adminRun rfl hguard htask hret⟩

namespace CreatedSandbox

def config : ProtoSandboxConfigInput := ⟨"sandbox", "map", some .noon, none⟩

/-- An admin creates a sandbox between two calls of the menu. -/
def tasks : ℕ → AdminTask
  | 1 => .sandboxConfigs (.create 0 (some config))
  | _ => .menuSandboxConfigs

/-- A server that has come up later than a minute after the epoch. -/
abbrev late : AdminState CarWorld := .boot CarWorld 100000 ⟨0, []⟩ ⟨0, []⟩

def events : List (ℕ × AdminInput CarWorld) :=
  List.replicate 5 (0, .works) ++ List.replicate 4 (1, .works) ++ List.replicate 5 (2, .works)

theorem is_listed :
    (adminRun tasks late events 14).threads 0 = .ret (.ok (.menuSandboxes [])) ∧
    (adminRun tasks late events 14).threads 2 =
      .ret (.ok (.menuSandboxes [⟨"id", ⟨"sandbox", "map", .noon, none⟩⟩])) ∧
    SandboxesFresh tasks (adminRun tasks late events) 14 2
      [⟨"id", ⟨"sandbox", "map", .noon, none⟩⟩] := by
  have hserved : (adminRun tasks late events 14).threads 2 =
      .ret (.ok (.menuSandboxes [⟨"id", ⟨"sandbox", "map", .noon, none⟩⟩])) := rfl
  refine ⟨rfl, hserved, (publicMenu_isFresh tasks 100000 ⟨0, []⟩ ⟨0, []⟩ events ?_).1 14 2 _ rfl
    hserved⟩
  refine ⟨trivial, trivial, fun nowMs hle hstage => ?_, trivial, trivial, trivial, trivial, trivial,
    trivial, trivial, trivial, fun nowMs hle hstage => ?_, trivial, trivial, trivial⟩
  · cases hstage
    contradiction
  · cases hstage

end CreatedSandbox

namespace EpochClock

def sandbox : SandboxConfigRecord := ⟨"id", ⟨"sandbox", "map", .noon, none⟩⟩

/-- A server whose clock reads the epoch, with one sandbox in the database. -/
abbrev early : AdminState CarWorld := .boot CarWorld 0 ⟨0, []⟩ ⟨1, [sandbox]⟩

abbrev events : List (ℕ × AdminInput CarWorld) := List.replicate 3 (0, .works)

/-- The first call is answered with the cache as it has been created. -/
theorem serves_the_empty_cache :
    (adminRun (fun _ => .menuSandboxConfigs) early events 3).threads 0 =
        .ret (.ok (.menuSandboxes [])) ∧
    ¬ SandboxesFresh (fun _ => .menuSandboxConfigs)
      (adminRun (fun _ => .menuSandboxConfigs) early events) 3 0 [] := by
  refine ⟨rfl, ?_⟩
  rintro ⟨k, hk, hlist, -⟩
  obtain rfl | rfl | rfl : k = 0 ∨ k = 1 ∨ k = 2 := by omega
  all_goals cases hlist

end EpochClock

end HackArena.Admin
