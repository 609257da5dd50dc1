import HackArena.Lib.LogMoments
import HackArena.Official.RaceResults

/-!
# Result files that are whole

Wherever the server is stopped and whatever file calls fail, a file of results
has never held anything but the results that a recorder had from all the frames it
had seen when it moved the file to its place. It is missing only if it could not
be moved there.
-/

namespace HackArena.Official.RaceResults

open Boink FileStore HackArena.Runtime HackArena.Services LogMoments Prog

/-! ## Recorded results -/

/-- The results of a session from the frames that its recorder has seen. -/
def Session.results (s : Session) (startedAt : ℕ) (frames : List RuntimeFrame)
    (finalizedAt : Option ℕ) : OfficialRaceResultsFile where
  sessionId := sessionIdOf startedAt s.raceConfig.raceId
  raceId := s.raceConfig.raceId
  raceName := s.raceConfig.raceName
  mapId := s.raceConfig.mapId
  startedAtUnixMs := startedAt
  finalizedAtUnixMs := finalizedAt
  status := if finalizedAt.isSome then "finalized" else "running"
  teams := s.teams.map fun entry => frames.foldl ResultEntry.refresh (.launched entry)

theorem refresh_results {r : Recorder} {s : Session} {startedAt : ℕ} {frames : List RuntimeFrame}
    (h : r.data = s.results startedAt frames none) (frame : RuntimeFrame) :
    (r.refreshFromRuntime frame).data = s.results startedAt (frames ++ [frame]) none := by
  unfold Recorder.refreshFromRuntime
  rw [h]
  simp [Session.results, List.foldl_append]

abbrev ResultsEntry := Entry ResultsOp ResultsOp.Answer
abbrev ResultsWorld := World ResultsDisk ResultsOp ResultsOp.Answer

/-- The frame that a call has read. -/
def frameOf : ResultsEntry → Option RuntimeFrame
  | ⟨_, .latestFrame, frame⟩ => some frame
  | _ => none

def timeOf : ResultsEntry → Option ℕ
  | ⟨_, .currentUnixMs, nowMs⟩ => some nowMs
  | _ => none

/-- The frames read so far, the first one first. -/
def shown (log : List ResultsEntry) : List RuntimeFrame := log.reverse.filterMap frameOf

/-- The times read so far, the first one first. -/
def times (log : List ResultsEntry) : List ℕ := log.reverse.filterMap timeOf

/-- The calls of the session with the number `k`. -/
def own (k : ℕ) (log : List ResultsEntry) : List ResultsEntry := log.filter (·.thread = k)

theorem filterMap_reverse_cons {α : Type} (f : ResultsEntry → Option α) (e : ResultsEntry)
    (log : List ResultsEntry) :
    (e :: log).reverse.filterMap f = log.reverse.filterMap f ++ (f e).toList := by
  rw [List.reverse_cons, List.filterMap_append]
  cases h : f e <;> simp [h]

theorem own_cons_self {e : ResultsEntry} {k : ℕ} (h : e.thread = k) (log : List ResultsEntry) :
    own k (e :: log) = e :: own k log := List.filter_cons_of_pos (by simpa using h)

/-- The file at the stem could not be moved to its place. -/
def MoveFailed (stem : String) (log : List ResultsEntry) : Prop :=
  ∃ thread source message,
    ⟨thread, .rename source (.json stem), .error message⟩ ∈ log

/-- A session that is stopped after some calls, or that comes to its end
before. -/
structure SessionRun where
  session : Session
  ticks : ℕ
  inputs : ℕ → ResultsInput
  calls : ℕ

section Statements

variable (env : ResultsEnv) (runs : List SessionRun)

/-- The bytes are those of the results from all the frames that the session has
read. It began at the first time it has read, and has ended at the last one, if
it has ended. -/
def Session.Writes (s : Session) (stem : String) (content : List UInt8)
    (log : List ResultsEntry) : Prop :=
  ∃ startedAt finalizedAt, (times log).head? = some startedAt ∧
    (finalizedAt = none ∨ finalizedAt = (times log).getLast?) ∧
    (stem = sessionIdOf startedAt s.raceConfig.raceId ∨ stem = "latest") ∧
    env.encode (s.results startedAt (shown log) finalizedAt) = .ok content

/-- A session has moved the file to its place, and the bytes are what it had to
write then. -/
def Recorded (stem : String) (content : List UInt8) (log : List ResultsEntry) : Prop :=
  ∃ k r, runs[k]? = some r ∧ When ⟨k, .rename ⟨stem, "tmp"⟩ (.json stem), .ok ()⟩
    (fun older => r.session.Writes env stem content (own k older)) log

/-- What every file of results has ever held. -/
structure Whole (w : ResultsWorld) : Prop where
  recorded : ∀ stem file, some file ∈ w.shared.versions (.json stem) →
    Recorded env runs stem file.content w.log
  missing : ∀ stem, none ∈ w.shared.versions (.json stem) → MoveFailed stem w.log

end Statements

section Rules

variable {env : ResultsEnv} {runs : List SessionRun} {log : List ResultsEntry}
  {w : ResultsWorld} {stem : String} {content : List UInt8}

theorem Recorded.mono (h : Recorded env runs stem content log) (e : ResultsEntry) :
    Recorded env runs stem content (e :: log) := by
  obtain ⟨k, r, hr, hwhen⟩ := h
  exact ⟨k, r, hr, hwhen.mono (List.suffix_cons e log)⟩

theorem MoveFailed.mono (h : MoveFailed stem log) (e : ResultsEntry) :
    MoveFailed stem (e :: log) := by
  obtain ⟨thread, source, message, he⟩ := h
  exact ⟨thread, source, message, List.mem_cons_of_mem e he⟩

theorem whole_empty : Whole env runs ⟨.empty, []⟩ where
  recorded _ _ h := by cases h
  missing _ h := by cases h

/-- A call that leaves the files of results as they are. -/
theorem Whole.keep (h : Whole env runs w) {d : ResultsDisk} (e : ResultsEntry)
    (hsame : ∀ stem, d.versions (.json stem) = w.shared.versions (.json stem)) :
    Whole env runs ⟨d, e :: w.log⟩ where
  recorded stem file hfile := (h.recorded stem file (hsame stem ▸ hfile)).mono e
  missing stem hnone := (h.missing stem (hsame stem ▸ hnone)).mono e

end Rules

/-! ## One session -/

/-- Where a recorder is: when it began, the last time and the frames it has
read, what it has written beside its place, and what could not be moved. -/
structure Progress where
  startedAt : Option ℕ
  clock : ℕ
  seen : List RuntimeFrame
  tmp : Option (String × List UInt8)
  refused : Option String

def Progress.next (p : Progress) : (op : ResultsOp) → op.Answer → Progress
  | .currentUnixMs, nowMs => { p with startedAt := p.startedAt <|> some nowMs, clock := nowMs }
  | .latestFrame, frame => { p with seen := p.seen ++ [frame] }
  | .create path, .ok () => { p with tmp := some (path.stem, []) }
  | .write _ chunk, .ok count => { p with
      tmp := p.tmp.map fun file => (file.1, file.2 ++ chunk.take count) }
  | .rename .., .ok () => { p with tmp := none, refused := none }
  | .rename _ target, .error _ => { p with refused := some target.stem }
  | .removeFile path, _ => if path.extension = "tmp" then { p with tmp := none } else p
  | _, _ => p

/-- The bytes are the results as the recorder has them. -/
def Progress.Due (env : ResultsEnv) (s : Session) (p : Progress) (stem : String)
    (content : List UInt8) : Prop :=
  ∃ startedAt finalizedAt, p.startedAt = some startedAt ∧
    (finalizedAt = none ∨ finalizedAt = some p.clock) ∧
    (stem = sessionIdOf startedAt s.raceConfig.raceId ∨ stem = "latest") ∧
    env.encode (s.results startedAt p.seen finalizedAt) = .ok content

/-- Only temporary files are written, and they are moved to their place when
they are due and complete. A file is removed from its place only if it could
not be replaced. -/
def recordProtocol (env : ResultsEnv) (s : Session) :
    Protocol ResultsOp ResultsOp.Answer Progress where
  init := ⟨none, 0, [], none, none⟩
  next p op answer := p.next op answer
  permits p op := match op with
    | .create path => path.extension = "tmp"
    | .write path _ => path.extension = "tmp" ∧ p.tmp.map Prod.fst = some path.stem
    | .rename source target => ∃ stem content, source = ⟨stem, "tmp"⟩ ∧ target = .json stem ∧
        p.tmp = some (stem, content) ∧ p.Due env s stem content
    | .removeFile path => path.extension = "tmp" ∨ p.refused = some path.stem
    | _ => True

/-- What the recorder of the session with the number `k` knows of the world. -/
structure Knows (env : ResultsEnv) (runs : List SessionRun) (k : ℕ) (p : Progress)
    (w : ResultsWorld) : Prop where
  whole : Whole env runs w
  threads : ∀ e ∈ w.log, e.thread ≤ k
  seen : p.seen = shown (own k w.log)
  started : p.startedAt = (times (own k w.log)).head?
  clock : ∀ startedAt, p.startedAt = some startedAt →
    (times (own k w.log)).getLast? = some p.clock
  tmp : ∀ stem content, p.tmp = some (stem, content) →
    ∃ modified, w.shared.current ⟨stem, "tmp"⟩ = some ⟨content, modified⟩
  refused : ∀ stem, p.refused = some stem → MoveFailed stem w.log

section Steps

variable {env : ResultsEnv} {runs : List SessionRun} {k : ℕ} {run : SessionRun} {p : Progress}
  {w : ResultsWorld}

/-- Due bytes are what the session has to write. -/
theorem Knows.writes (h : Knows env runs k p w) {s : Session} {stem : String}
    {content : List UInt8} (hdue : p.Due env s stem content) :
    s.Writes env stem content (own k w.log) := by
  obtain ⟨startedAt, finalizedAt, hstart, hfinal, hstem, hcontent⟩ := hdue
  rw [h.seen] at hcontent
  refine ⟨startedAt, finalizedAt, h.started ▸ hstart, ?_, hstem, hcontent⟩
  rwa [h.clock startedAt hstart]

theorem json_ne_tmp {stem stem' : String} : ResultPath.json stem ≠ ⟨stem', "tmp"⟩ := by
  simp [ResultPath.json]

theorem eq_tmp {path : ResultPath} (h : path.extension = "tmp") : path = ⟨path.stem, "tmp"⟩ := by
  rw [← h]

/-- A call that reads neither a frame nor the time. -/
theorem Knows.quiet (h : Knows env runs k p w) {w' : ResultsWorld} {e : ResultsEntry}
    (hlog : w'.log = e :: w.log) (he : e.thread = k) (hframe : frameOf e = none)
    (htime : timeOf e = none) (hwhole : Whole env runs w') {tmp : Option (String × List UInt8)}
    {refused : Option String} (htmp : ∀ stem content, tmp = some (stem, content) →
      ∃ modified, w'.shared.current ⟨stem, "tmp"⟩ = some ⟨content, modified⟩)
    (hrefused : ∀ stem, refused = some stem → MoveFailed stem w'.log) :
    Knows env runs k { p with tmp, refused } w' := by
  have hshown : shown (own k w'.log) = shown (own k w.log) := by
    rw [hlog, own_cons_self he, shown, filterMap_reverse_cons, hframe]
    exact List.append_nil _
  have htimes : times (own k w'.log) = times (own k w.log) := by
    rw [hlog, own_cons_self he, times, filterMap_reverse_cons, htime]
    exact List.append_nil _
  refine ⟨hwhole, ?_, hshown ▸ h.seen, htimes ▸ h.started, htimes ▸ h.clock, htmp, hrefused⟩
  rw [hlog]
  exact List.forall_mem_cons.mpr ⟨he.le, h.threads⟩

/-- Such a call, if it changes no file of results. -/
theorem Knows.keep (h : Knows env runs k p w) {d : ResultsDisk} {e : ResultsEntry}
    (he : e.thread = k) (hframe : frameOf e = none) (htime : timeOf e = none)
    (hsame : ∀ stem, d.versions (.json stem) = w.shared.versions (.json stem))
    {tmp : Option (String × List UInt8)} (htmp : ∀ stem content, tmp = some (stem, content) →
      ∃ modified, d.current ⟨stem, "tmp"⟩ = some ⟨content, modified⟩) :
    Knows env runs k { p with tmp } ⟨d, e :: w.log⟩ :=
  h.quiet rfl he hframe htime (h.whole.keep e hsame) htmp
    fun stem hrefused => (h.refused stem hrefused).mono e

theorem knows_create (h : Knows env runs k p w) {path : ResultPath}
    (hpath : path.extension = "tmp") (i : ResultsInput) :
    Knows env runs k (p.next (.create path) (resultsExec w.shared (.create path) i).2)
      (w.perform resultsExec k (.create path) i) := by
  unfold World.perform
  by_cases hfails : i.fails = true
  · have hexec : resultsExec w.shared (.create path) i = (w.shared, .error i.message) :=
      if_pos hfails
    rw [hexec]
    exact h.keep (e := ⟨k, .create path, .error i.message⟩) rfl rfl rfl (fun _ => rfl) h.tmp
  · have hexec : resultsExec w.shared (.create path) i =
        (w.shared.create path i.nowMs, .ok ()) := if_neg hfails
    rw [hexec]
    refine h.keep (e := ⟨k, .create path, .ok ()⟩) rfl rfl rfl (fun stem => ?_)
      fun stem content hc => ?_
    · rw [eq_tmp hpath]
      exact Disk.versions_put_ne json_ne_tmp
    · obtain ⟨rfl, rfl⟩ := Prod.mk.inj (Option.some.inj hc)
      refine ⟨i.nowMs, ?_⟩
      rw [← eq_tmp hpath]
      exact Disk.current_put_self

theorem knows_write (h : Knows env runs k p w) {path : ResultPath} {chunk : List UInt8}
    (hpath : path.extension = "tmp") (htmp : p.tmp.map Prod.fst = some path.stem)
    (i : ResultsInput) :
    Knows env runs k (p.next (.write path chunk) (resultsExec w.shared (.write path chunk) i).2)
      (w.perform resultsExec k (.write path chunk) i) := by
  unfold World.perform
  by_cases hfails : i.fails = true
  · have hexec : resultsExec w.shared (.write path chunk) i = (w.shared, .error i.message) :=
      if_pos hfails
    rw [hexec]
    exact h.keep (e := ⟨k, .write path chunk, .error i.message⟩) rfl rfl rfl (fun _ => rfl) h.tmp
  · have hexec : resultsExec w.shared (.write path chunk) i =
        (w.shared.append path (chunk.take (max 1 i.count)) i.nowMs,
          .ok (chunk.take (max 1 i.count)).length) := if_neg hfails
    rw [hexec]
    obtain ⟨⟨stem, content⟩, hp, hstem⟩ := Option.map_eq_some_iff.mp htmp
    obtain ⟨modified, hcurrent⟩ := h.tmp stem content hp
    have hpathEq : path = ⟨stem, "tmp"⟩ := by
      rw [eq_tmp hpath, ← hstem]
    have happend : w.shared.append path (chunk.take (max 1 i.count)) i.nowMs =
        w.shared.put path (some ⟨content ++ chunk.take (max 1 i.count), i.nowMs⟩) := by
      rw [Disk.append, hpathEq, hcurrent]
    have htake : chunk.take (chunk.take (max 1 i.count)).length = chunk.take (max 1 i.count) := by
      rw [List.length_take, ← List.take_take, List.take_length]
    refine h.keep (e := ⟨k, .write path chunk, .ok (chunk.take (max 1 i.count)).length⟩) rfl rfl
      rfl (fun stem => ?_) fun stem' content' hc => ?_
    · rw [happend, hpathEq]
      exact Disk.versions_put_ne json_ne_tmp
    · rw [hp] at hc
      obtain ⟨rfl, rfl⟩ := Prod.mk.inj (Option.some.inj hc)
      refine ⟨i.nowMs, ?_⟩
      rw [happend, hpathEq, Disk.current_put_self, htake]

/-- A file of results that is moved to its place is due and complete. -/
theorem knows_rename (h : Knows env runs k p w) (hrun : runs[k]? = some run) {stem : String}
    {content : List UInt8} (htmp : p.tmp = some (stem, content))
    (hdue : p.Due env run.session stem content) (i : ResultsInput) :
    Knows env runs k (p.next (.rename ⟨stem, "tmp"⟩ (.json stem))
      (resultsExec w.shared (.rename ⟨stem, "tmp"⟩ (.json stem)) i).2)
      (w.perform resultsExec k (.rename ⟨stem, "tmp"⟩ (.json stem)) i) := by
  unfold World.perform
  obtain ⟨modified, hcurrent⟩ := h.tmp stem content htmp
  by_cases hfails : i.fails = true
  · have hexec : resultsExec w.shared (.rename ⟨stem, "tmp"⟩ (.json stem)) i =
        (w.shared, .error i.message) := if_pos (by rw [hfails]; rfl)
    rw [hexec]
    refine h.quiet rfl rfl rfl rfl (h.whole.keep _ fun _ => rfl) h.tmp fun stem' hrefused => ?_
    obtain rfl := Option.some.inj hrefused
    exact ⟨k, _, i.message, List.mem_cons_self⟩
  · have hexec : resultsExec w.shared (.rename ⟨stem, "tmp"⟩ (.json stem)) i =
        (w.shared.rename ⟨stem, "tmp"⟩ (.json stem), .ok ()) :=
      if_neg (by simp [hfails, hcurrent])
    rw [hexec]
    have hrename : w.shared.rename ⟨stem, "tmp"⟩ (.json stem) =
        (w.shared.put (.json stem) (some ⟨content, modified⟩)).put ⟨stem, "tmp"⟩ none := by
      rw [Disk.rename, hcurrent]
      exact if_neg json_ne_tmp.symm
    have hversions : ∀ stem', (w.shared.rename ⟨stem, "tmp"⟩ (.json stem)).versions (.json stem') =
        if stem' = stem then some ⟨content, modified⟩ :: w.shared.versions (.json stem)
        else w.shared.versions (.json stem') := by
      intro stem'
      rw [hrename, Disk.versions_put_ne json_ne_tmp]
      split
      · rename_i hstem
        rw [hstem, Disk.versions_put_self]
      · rename_i hstem
        exact Disk.versions_put_ne (by simpa [ResultPath.json] using hstem)
    refine h.quiet rfl rfl rfl rfl ⟨fun stem' file hfile => ?_, fun stem' hnone => ?_⟩
      (fun _ _ hc => by cases hc) fun _ hc => by cases hc
    · rw [hversions] at hfile
      split at hfile
      · rename_i hstem
        rcases List.mem_cons.mp hfile with hnew | hold
        · obtain rfl := Option.some.inj hnew
          rw [hstem]
          exact ⟨k, run, hrun, .here (h.writes hdue)⟩
        · rw [hstem]
          exact (h.whole.recorded stem file hold).mono _
      · exact (h.whole.recorded stem' file hfile).mono _
    · rw [hversions] at hnone
      split at hnone
      · rename_i hstem
        rw [hstem]
        rcases List.mem_cons.mp hnone with hnew | hold
        · cases hnew
        · exact (h.whole.missing stem hold).mono _
      · exact (h.whole.missing stem' hnone).mono _

theorem knows_removeFile (h : Knows env runs k p w) {path : ResultPath}
    (hpath : path.extension = "tmp" ∨ p.refused = some path.stem) (i : ResultsInput) :
    Knows env runs k (p.next (.removeFile path) (resultsExec w.shared (.removeFile path) i).2)
      (w.perform resultsExec k (.removeFile path) i) := by
  have hdisk : (resultsExec w.shared (.removeFile path) i).1 = w.shared ∨
      (resultsExec w.shared (.removeFile path) i).1 = w.shared.remove path := by
    by_cases hfails : (i.fails || (w.shared.current path).isNone) = true
    · exact Or.inl (congrArg Prod.fst (if_pos hfails))
    · exact Or.inr (congrArg Prod.fst (if_neg hfails))
  have hne : ∀ q : ResultPath, q ≠ path →
      (resultsExec w.shared (.removeFile path) i).1.versions q = w.shared.versions q := by
    intro q hq
    rcases hdisk with hdisk | hdisk
    · rw [hdisk]
    · rw [hdisk]
      exact Disk.versions_remove_ne hq
  unfold World.perform Progress.next
  dsimp only
  split
  · rename_i htmp
    refine h.keep rfl rfl rfl (fun stem => hne _ ?_) fun _ _ hc => by cases hc
    rw [eq_tmp htmp]
    exact json_ne_tmp
  · rename_i htmp
    have hrefused := hpath.resolve_left htmp
    have hversions : ∀ stem file,
        file ∈ (resultsExec w.shared (.removeFile path) i).1.versions (.json stem) →
        file ∈ w.shared.versions (.json stem) ∨ (file = none ∧ path.stem = stem) := by
      intro stem file hfile
      by_cases hstem : ResultPath.json stem = path
      · rcases hdisk with hdisk | hdisk
        · exact Or.inl (hdisk ▸ hfile)
        · rw [hdisk, hstem, Disk.remove] at hfile
          split at hfile
          · rw [Disk.versions_put_self] at hfile
            rcases List.mem_cons.mp hfile with hnone | hold
            · exact Or.inr ⟨hnone, by rw [← hstem]; rfl⟩
            · exact Or.inl (hstem ▸ hold)
          · exact Or.inl (hstem ▸ hfile)
      · rw [hne _ hstem] at hfile
        exact Or.inl hfile
    refine h.quiet rfl rfl rfl rfl ⟨fun stem file hfile => ?_, fun stem hnone => ?_⟩
      (fun stem content hc => ?_) fun stem hr => (h.refused stem hr).mono _
    · rcases hversions stem _ hfile with hold | ⟨hnone, -⟩
      · exact (h.whole.recorded stem file hold).mono _
      · cases hnone
    · rcases hversions stem _ hnone with hold | ⟨-, rfl⟩
      · exact (h.whole.missing stem hold).mono _
      · exact (h.refused _ hrefused).mono _
    · have hpathNe : (⟨stem, "tmp"⟩ : ResultPath) ≠ path := fun heq => htmp (by rw [← heq])
      rw [Disk.current_congr (hne _ hpathNe)]
      exact h.tmp stem content hc

/-- A permitted call keeps what the recorder knows. -/
theorem Knows.perform (h : Knows env runs k p w) (hrun : runs[k]? = some run) {op : ResultsOp}
    (hop : (recordProtocol env run.session).permits p op) (i : ResultsInput) :
    Knows env runs k (p.next op (resultsExec w.shared op i).2)
      (w.perform resultsExec k op i) := by
  have hthreads : ∀ e ∈ (w.perform resultsExec k op i).log, e.thread ≤ k :=
    List.forall_mem_cons.mpr ⟨le_rfl, h.threads⟩
  have hrefused : ∀ stem, p.refused = some stem →
      MoveFailed stem (w.perform resultsExec k op i).log :=
    fun stem hr => (h.refused stem hr).mono _
  have hown : own k (w.perform resultsExec k op i).log =
      ⟨k, op, (resultsExec w.shared op i).2⟩ :: own k w.log := own_cons_self rfl w.log
  cases op with
  | currentUnixMs =>
      refine ⟨h.whole.keep _ fun _ => rfl, hthreads, ?_, ?_, fun _ _ => ?_, h.tmp, hrefused⟩
      · rw [hown, shown, filterMap_reverse_cons]
        exact h.seen.trans (List.append_nil _).symm
      · rw [hown, times, filterMap_reverse_cons]
        change (p.startedAt <|> some i.nowMs) = (times (own k w.log) ++ [i.nowMs]).head?
        rw [List.head?_append, ← h.started]
        cases p.startedAt <;> rfl
      · rw [hown, times, filterMap_reverse_cons]
        exact List.getLast?_concat
  | latestFrame =>
      refine ⟨h.whole.keep _ fun _ => rfl, hthreads, ?_, ?_, fun startedAt hstart => ?_, h.tmp,
        hrefused⟩
      · rw [hown, shown, filterMap_reverse_cons]
        exact congrArg (· ++ [i.frame]) h.seen
      · rw [hown, times, filterMap_reverse_cons]
        exact h.started.trans (congrArg List.head? (List.append_nil _).symm)
      · rw [hown, times, filterMap_reverse_cons]
        exact (congrArg List.getLast? (List.append_nil _)).trans (h.clock startedAt hstart)
  | createDirAll =>
      have hkeep := h.keep (e := ⟨k, .createDirAll, (resultsExec w.shared .createDirAll i).2⟩)
        (d := w.shared) rfl rfl rfl (fun _ => rfl) h.tmp
      exact hkeep
  | tryExists path =>
      have hkeep := h.keep (e := ⟨k, .tryExists path, (resultsExec w.shared (.tryExists path) i).2⟩)
        (d := w.shared) rfl rfl rfl (fun _ => rfl) h.tmp
      exact hkeep
  | create path => exact knows_create h hop i
  | write path chunk => exact knows_write h hop.1 hop.2 i
  | rename source target =>
      obtain ⟨stem, content, rfl, rfl, htmp, hdue⟩ := hop
      exact knows_rename h hrun htmp hdue i
  | removeFile path => exact knows_removeFile h hop i

end Steps

/-! ## The recorder keeps to the protocol -/

section Programs

variable {env : ResultsEnv} {s : Session} {p : Progress} {stem : String}

/-- What no write changes. -/
structure Progress.Same (p q : Progress) : Prop where
  startedAt : q.startedAt = p.startedAt
  clock : q.clock = p.clock
  seen : q.seen = p.seen

theorem Progress.Same.refl (p : Progress) : p.Same p := ⟨rfl, rfl, rfl⟩

theorem Progress.Same.trans {q r : Progress} (h : p.Same q) (h' : q.Same r) : p.Same r :=
  ⟨h'.1.trans h.1, h'.2.trans h.2, h'.3.trans h.3⟩

theorem Progress.Same.due {q : Progress} (h : p.Same q) {content : List UInt8}
    (hdue : p.Due env s stem content) : q.Due env s stem content := by
  unfold Progress.Due
  rw [h.startedAt, h.clock, h.seen]
  exact hdue

/-- A temporary file that has been written holds all of the bytes. -/
theorem writeAll_follows {raw : List UInt8} {calls offset : ℕ}
    (htmp : p.tmp = some (stem, raw.take offset)) (hcalls : raw.length ≤ offset + calls) :
    (writeAll ⟨stem, "tmp"⟩ raw calls offset).Follows (recordProtocol env s)
      (Either (fun _ q => p.Same q ∧ q.tmp = some (stem, raw)) fun _ q => p.Same q) p := by
  induction calls generalizing p offset with
  | zero =>
      refine ⟨.refl p, ?_⟩
      rw [htmp, List.take_of_length_le (by omega)]
  | succ calls ih =>
      unfold writeAll
      split
      · rename_i hdone
        refine ⟨.refl p, ?_⟩
        rw [htmp, List.take_of_length_le hdone]
      · refine ⟨⟨rfl, by rw [htmp]; rfl⟩, fun written => ?_⟩
        cases written with
        | error message => exact .refl p
        | ok count =>
            cases count with
            | zero => exact ⟨rfl, rfl, rfl⟩
            | succ count =>
                have hsame : p.Same (p.next (.write ⟨stem, "tmp"⟩ (raw.drop offset))
                    (.ok (count + 1))) := ⟨rfl, rfl, rfl⟩
                have hwritten : (p.next (.write ⟨stem, "tmp"⟩ (raw.drop offset))
                    (.ok (count + 1))).tmp = some (stem, raw.take (offset + (count + 1))) := by
                  rw [Progress.next, htmp, List.take_add (i := offset)]
                  rfl
                refine Prog.Follows.mono (ih hwritten (by omega)) fun r q hr => ?_
                cases r with
                | ok _ => exact ⟨hsame.trans hr.1, hr.2⟩
                | error _ => exact hsame.trans hr

theorem writeFile_follows (raw : List UInt8) :
    (writeFile ⟨stem, "tmp"⟩ raw).run.Follows (recordProtocol env s)
      (Either (fun _ q => p.Same q ∧ q.tmp = some (stem, raw)) fun _ q => p.Same q) p := by
  have hcreate : ((ResultsOp.create ⟨stem, "tmp"⟩).call.orFail id : ResultsCall Unit).run.Follows
      (recordProtocol env s) (Either (fun _ q => p.Same q ∧ q.tmp = some (stem, []))
        fun _ q => p.Same q) p := by
    refine .orFail ⟨rfl, fun created => ?_⟩
    cases created with
    | ok _ => exact ⟨⟨rfl, rfl, rfl⟩, rfl⟩
    | error _ => exact .refl p
  refine .bindExcept hcreate fun _ q hq => ?_
  obtain ⟨hsame, htmp⟩ := hq
  have hempty : q.tmp = some (stem, raw.take 0) := htmp
  refine .orFail (Prog.Follows.mono (writeAll_follows hempty (by omega)) fun r q' hr => ?_)
  cases r with
  | ok _ => exact ⟨hsame.trans hr.1, hr.2⟩
  | error _ => exact hsame.trans hr

/-- A file is moved only if it is due, and removed from its place only if it
could not be replaced. -/
theorem moveFile_follows {raw : List UInt8} (htmp : p.tmp = some (stem, raw))
    (hdue : p.Due env s stem raw) :
    (moveFile env (.json stem)).Follows (recordProtocol env s) (fun _ q => p.Same q) p := by
  have hpermits : ∀ q, q.tmp = some (stem, raw) → p.Same q →
      (recordProtocol env s).permits q (.rename ⟨stem, "tmp"⟩ (.json stem)) :=
    fun q hq hsame => ⟨stem, raw, rfl, rfl, hq, hsame.due hdue⟩
  refine ⟨hpermits p htmp (.refl p), fun moved => ?_⟩
  cases moved with
  | ok _ => exact ⟨rfl, rfl, rfl⟩
  | error initialErr =>
      refine ⟨trivial, fun found => ?_⟩
      rcases found with message | (_ | _)
      · exact ⟨Or.inl rfl, fun _ => ⟨rfl, rfl, rfl⟩⟩
      · exact ⟨Or.inl rfl, fun _ => ⟨rfl, rfl, rfl⟩⟩
      · refine ⟨Or.inr rfl, fun _ => ⟨hpermits _ htmp ⟨rfl, rfl, rfl⟩, fun replaced => ?_⟩⟩
        cases replaced <;> exact ⟨rfl, rfl, rfl⟩

theorem writeJsonAtomic_follows {raw : List UInt8} (hdue : p.Due env s stem raw) :
    (writeJsonAtomic env (.json stem) raw).run.Follows (recordProtocol env s)
      (fun _ q => p.Same q) p := by
  have hdir : (ResultsOp.createDirAll.call.orFail id : ResultsCall Unit).run.Follows
      (recordProtocol env s) (Either (fun _ q => q = p) fun _ q => p.Same q) p := by
    refine .orFail ⟨trivial, fun created => ?_⟩
    cases created with
    | ok _ => rfl
    | error _ => exact .refl p
  have hboth : (writeJsonAtomic env (.json stem) raw).run.Follows (recordProtocol env s)
      (Either (fun _ q => p.Same q) fun _ q => p.Same q) p := by
    refine .bindExcept hdir fun _ q hq => ?_
    subst hq
    refine .bindExcept (writeFile_follows raw) fun _ q' hq' => ?_
    refine Prog.Follows.mono (moveFile_follows hq'.2 (hq'.1.due hdue)) fun r q'' hr => ?_
    cases r <;> exact hq'.1.trans hr
  refine Prog.Follows.mono hboth fun r q hr => ?_
  cases r <;> exact hr

/-- The results of a recorder are due at both of their places. -/
theorem writeSnapshot_follows {r : Recorder} {startedAt : ℕ} {finalizedAt : Option ℕ}
    (hfile : r.sessionFile = .json (sessionIdOf startedAt s.raceConfig.raceId))
    (hdata : r.data = s.results startedAt p.seen finalizedAt)
    (hstart : p.startedAt = some startedAt)
    (hfinal : finalizedAt = none ∨ finalizedAt = some p.clock) :
    (writeSnapshot env r).run.Follows (recordProtocol env s) (fun _ q => p.Same q) p := by
  unfold writeSnapshot
  cases hencode : env.encode r.data with
  | error message => exact .refl p
  | ok payload =>
      rw [hdata] at hencode
      have hdue : ∀ stem, (stem = sessionIdOf startedAt s.raceConfig.raceId ∨ stem = "latest") →
          p.Due env s stem payload := fun stem hstem =>
        ⟨startedAt, finalizedAt, hstart, hfinal, hstem, hencode⟩
      rw [hfile]
      change Follows _ _ (writeJsonAtomic env (.json (sessionIdOf startedAt s.raceConfig.raceId))
        payload >>= fun _ => writeJsonAtomic env latestFile payload).run _
      refine Prog.Follows.andThen (writeJsonAtomic_follows (hdue _ (Or.inl rfl)))
        fun written q hq => ?_
      cases written with
      | error message => exact hq
      | ok _ =>
          exact Prog.Follows.mono (writeJsonAtomic_follows (hq.due (hdue _ (Or.inr rfl))))
            fun _ _ h => hq.trans h

/-- The recorder has the results of the frames that have been seen. -/
structure Recorder.At (s : Session) (startedAt : ℕ) (p : Progress) (r : Recorder) : Prop where
  start : p.startedAt = some startedAt
  file : r.sessionFile = .json (sessionIdOf startedAt s.raceConfig.raceId)
  data : r.data = s.results startedAt p.seen none

theorem Recorder.At.same {startedAt : ℕ} {q : Progress} {r : Recorder} (h : r.At s startedAt p)
    (hq : p.Same q) : r.At s startedAt q :=
  ⟨hq.startedAt.trans h.start, h.file, by rw [hq.seen]; exact h.data⟩

theorem Recorder.At.clock {startedAt : ℕ} {r : Recorder} (h : r.At s startedAt p) (nowMs : ℕ) :
    r.At s startedAt (p.next .currentUnixMs nowMs) :=
  ⟨by rw [Progress.next, h.start]; rfl, h.file, h.data⟩

theorem tick_follows {startedAt : ℕ} {r : Recorder} (h : r.At s startedAt p) :
    (tick env r).Follows (recordProtocol env s) (fun r' q => r'.At s startedAt q) p := by
  refine .call trivial fun frame => .call trivial fun nowMs => ?_
  have hseen : (r.refreshFromRuntime frame).At s startedAt (p.next .latestFrame frame) :=
    ⟨h.start, h.file, refresh_results h.data frame⟩
  have hnow := hseen.clock nowMs
  split
  · refine Prog.Follows.andThen (writeSnapshot_follows hnow.file hnow.data hnow.start (Or.inl rfl))
      fun _ q hq => ?_
    exact ⟨(hnow.same hq).start, hnow.file, (hnow.same hq).data⟩
  · exact hnow

theorem ticks_follows {startedAt n : ℕ} {r : Recorder} (h : r.At s startedAt p) :
    (ticks env r n).Follows (recordProtocol env s) (fun r' q => r'.At s startedAt q) p := by
  induction n generalizing p r with
  | zero => exact h
  | succ n ih => exact Prog.Follows.andThen (tick_follows h) fun _ _ => ih

theorem finalizeResults_follows {startedAt : ℕ} {r : Recorder} (h : r.At s startedAt p) :
    (finalizeResults env r).Follows (recordProtocol env s) (fun _ _ => True) p := by
  refine .call trivial fun nowMs => ?_
  have hnow := h.clock nowMs
  refine Prog.Follows.andThen (writeSnapshot_follows hnow.file ?_ hnow.start (Or.inr rfl))
    fun _ _ _ => trivial
  rw [hnow.data]
  rfl

theorem recordSession_follows (s : Session) (n : ℕ) :
    (recordSession env s n).Follows (recordProtocol env s) (fun _ _ => True)
      (recordProtocol env s).init := by
  refine .call trivial fun preparedAtMs => ?_
  have hnew : (Recorder.new s preparedAtMs).At s preparedAtMs
      ((recordProtocol env s).init.next .currentUnixMs preparedAtMs) := ⟨rfl, rfl, rfl⟩
  refine Prog.Follows.andThen (writeSnapshot_follows hnew.file hnew.data hnew.start (Or.inl rfl))
    fun written q hq => ?_
  cases written with
  | error _ => trivial
  | ok _ =>
      exact Prog.Follows.andThen (ticks_follows (hnew.same hq)) fun _ _ =>
        finalizeResults_follows

end Programs

/-! ## Runs -/

/-- A call of the session with the number `k`, with its record. -/
def recordAs (k : ℕ) (w : ResultsWorld) (op : ResultsOp) (i : ResultsInput) :
    ResultsWorld × op.Answer := (w.perform resultsExec k op i, (resultsExec w.shared op i).2)

def SessionRun.step (env : ResultsEnv) (w : ResultsWorld) (r : SessionRun × ℕ) : ResultsWorld :=
  (recordSession env r.1.session r.1.ticks).stopped (recordAs r.2) r.1.calls r.1.inputs w

/-- What holds before the session with the number `k`. -/
structure Before (env : ResultsEnv) (runs : List SessionRun) (k : ℕ) (w : ResultsWorld) : Prop where
  whole : Whole env runs w
  threads : ∀ e ∈ w.log, e.thread < k

/-- One session, wherever it is stopped. -/
theorem Before.session {env : ResultsEnv} {runs : List SessionRun} {k : ℕ} {w : ResultsWorld}
    (h : Before env runs k w) {r : SessionRun} (hr : runs[k]? = some r) :
    Before env runs (k + 1) (SessionRun.step env w (r, k)) := by
  have hnone : own k w.log = [] := by
    refine List.filter_eq_nil_iff.mpr fun e he => ?_
    have hlt := h.threads e he
    simp only [decide_eq_true_eq]
    omega
  have hknows : Knows env runs k (recordProtocol env r.session).init w := by
    refine ⟨h.whole, fun e he => (h.threads e he).le, ?_, ?_, fun _ hc => ?_, fun _ _ hc => ?_,
      fun _ hc => ?_⟩
    · rw [hnone]
      rfl
    · rw [hnone]
      rfl
    all_goals cases hc
  have halong : (recordSession env r.session r.ticks).Along (recordAs k)
      (Before env runs (k + 1)) w :=
    Prog.Follows.along (recordSession_follows r.session r.ticks)
      (fun _ _ _ input hk hop => hk.perform hr hop input)
      (fun _ _ hk => ⟨hk.whole, fun e he => Nat.lt_succ_of_le (hk.threads e he)⟩) hknows
  exact halong.stopped r.calls r.inputs

/-- Over any sequence of sessions, each stopped at any call or not at all, and
whatever calls fail: what a file of results has ever held are the results of a
session from all the frames that its recorder had read when it moved the file to
its place, and it is missing only if it could not be moved there. -/
theorem results_whole (env : ResultsEnv) (runs : List SessionRun) :
    Whole env runs (runs.zipIdx.foldl (SessionRun.step env) ⟨.empty, []⟩) := by
  have hrun : ∀ n ≤ runs.length, Before env runs n
      ((runs.zipIdx.take n).foldl (SessionRun.step env) ⟨.empty, []⟩) := by
    intro n hn
    induction n with
    | zero => exact ⟨whole_empty, fun e he => by cases he⟩
    | succ n ih =>
        have hget : runs.zipIdx[n]? = some (runs[n], n) := by
          simp [List.getElem?_zipIdx, List.getElem?_eq_getElem hn]
        rw [List.take_add_one, hget, List.foldl_append]
        exact (ih (Nat.le_of_succ_le hn)).session (List.getElem?_eq_getElem hn)
  have hall := (hrun runs.length le_rfl).whole
  rwa [List.take_of_length_le (List.length_zipIdx.le)] at hall

end HackArena.Official.RaceResults
