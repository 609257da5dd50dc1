import HackArena.Admin.ChangeNotices

/-!
# Changes of the time of day

The time of day is changed in two calls: the row is read with a snapshot,
and written back at the revision that the client expects. Only the second
call looks at that revision, so the row may have been edited meanwhile.
-/

namespace HackArena.Admin

open Boink GuardedRun HackArena.Runtime HackArena.Services

variable {E : Type}

/-! ## Rows -/

/-- What a change of the time of day is to leave alone. -/
def SandboxConfigRecord.besideTime (sandbox : SandboxConfigRecord) :
    String × String × String × Option GhostModeSettings :=
  (sandbox.sandboxId, sandbox.config.sandboxName, sandbox.config.mapId, sandbox.config.ghostMode)

theorem sandboxId_of_besideTime {a b : SandboxConfigRecord} (h : a.besideTime = b.besideTime) :
    a.sandboxId = b.sandboxId := congrArg Prod.fst h

/-- The ids are the primary key of the table. -/
def Keyed (t : SandboxTable) : Prop := (t.value.map (·.sandboxId)).Nodup

theorem Keyed.eq {t : SandboxTable} (h : Keyed t) {a b : SandboxConfigRecord} (ha : a ∈ t.value)
    (hb : b ∈ t.value) (hid : a.sandboxId = b.sandboxId) : a = b :=
  List.inj_on_of_nodup_map h ha hb hid

theorem mem_sandboxSnapshot {t : SandboxTable} {sandbox : SandboxConfigRecord} :
    sandbox ∈ t.getSnapshot.value ↔ sandbox ∈ t.value :=
  (List.perm_insertionSort (fun a b : SandboxConfigRecord => a.sandboxId ≤ b.sandboxId)
    t.value).mem_iff

/-- The row that is written over every row with its id. -/
def overwrite (row entry : SandboxConfigRecord) : SandboxConfigRecord :=
  if entry.sandboxId = row.sandboxId then row else entry

theorem overwrite_sandboxId (row entry : SandboxConfigRecord) :
    (overwrite row entry).sandboxId = entry.sandboxId := by
  unfold overwrite
  split
  · rename_i hid
    exact hid.symm
  · rfl

/-! ## Transactions -/

def SandboxConfigOp.Turns (rows rows' : List SandboxConfigRecord) : SandboxConfigOp → Prop
  | .getSnapshot => False
  | .createConfig _ sandbox =>
      (∀ row ∈ rows, row.sandboxId ≠ sandbox.sandboxId) ∧ rows' = rows ++ [sandbox]
  | .updateConfig _ sandbox => rows' = rows.map (overwrite sandbox)
  | .deleteConfig _ sandboxId => rows' = rows.filter fun entry => entry.sandboxId ≠ sandboxId

def SandboxConfigOp.expectedRevision? : SandboxConfigOp → Option ℕ
  | .getSnapshot => none
  | .createConfig expectedRevision _ | .updateConfig expectedRevision _
  | .deleteConfig expectedRevision _ => some expectedRevision

/-- A transaction leaves the table alone or commits at the revision that it
expects. -/
def TableStep (t : SandboxTable) (op : SandboxConfigOp) (r : SandboxTable × op.Answer) : Prop :=
  r.1 = t ∧ AdminOp.sandboxRevision? (.sandboxes op) r.2 = none ∨
    ∃ rows, r.1 = t.put rows ∧ op.Turns t.value rows ∧ op.expectedRevision? = some t.revision ∧
      (AdminOp.sandboxRevision? (.sandboxes op) r.2).isSome = true

theorem checkSandboxRow_map_ok {sandbox : SandboxConfigRecord}
    {rows rows' : List SandboxConfigRecord}
    (h : ((checkSandboxRow sandbox).map fun _ => rows) = .ok rows') : rows' = rows := by
  cases hrow : checkSandboxRow sandbox with
  | error err =>
      rw [hrow] at h
      cases h
  | ok _ =>
      rw [hrow] at h
      exact (Except.ok.inj h).symm

theorem insertSandbox_ok {sandbox : SandboxConfigRecord} {rows rows' : List SandboxConfigRecord}
    (h : insertSandbox sandbox rows = .ok rows') :
    (∀ row ∈ rows, row.sandboxId ≠ sandbox.sandboxId) ∧ rows' = rows ++ [sandbox] := by
  unfold insertSandbox at h
  split at h
  · cases h
  · rename_i hany
    refine ⟨?_, checkSandboxRow_map_ok h⟩
    simpa using hany

theorem replaceSandbox_ok {sandbox : SandboxConfigRecord} {rows rows' : List SandboxConfigRecord}
    (h : replaceSandbox sandbox rows = .ok rows') : rows' = rows.map (overwrite sandbox) := by
  unfold replaceSandbox at h
  split at h
  · exact checkSandboxRow_map_ok h
  · cases h

theorem deleteSandbox_ok {sandboxId : String} {rows rows' : List SandboxConfigRecord}
    (h : deleteSandbox sandboxId rows = .ok rows') :
    rows' = rows.filter fun entry => entry.sandboxId ≠ sandboxId := by
  unfold deleteSandbox at h
  split at h
  · exact (Except.ok.inj h).symm
  · cases h

theorem SandboxTable.transact_cases (t : SandboxTable) (expectedRevision : ℕ)
    (f : List SandboxConfigRecord → SandboxRows) :
    (∃ err, t.transact expectedRevision f = (t, .error err)) ∨
      ∃ rows, expectedRevision = t.revision ∧ f t.value = .ok rows ∧
        t.transact expectedRevision f = (t.put rows, .ok (t.revision + 1)) :=
  Versioned.change_cases ..

theorem execSandboxes_step (t : SandboxTable) (input : AdminInput E) (op : SandboxConfigOp) :
    TableStep t op (execSandboxes t input op) := by
  cases op with
  | getSnapshot => exact Or.inl ⟨rfl, rfl⟩
  | createConfig expectedRevision sandbox =>
      rw [execSandboxes]
      split
      · exact Or.inl ⟨rfl, rfl⟩
      · rw [SandboxTable.createConfig]
        rcases t.transact_cases expectedRevision (insertSandbox sandbox) with
          ⟨err, hrefused⟩ | ⟨rows, rfl, hrows, hchanged⟩
        · rw [hrefused]
          exact Or.inl ⟨rfl, rfl⟩
        · rw [hchanged]
          exact Or.inr ⟨rows, rfl, insertSandbox_ok hrows, rfl, rfl⟩
  | updateConfig expectedRevision sandbox =>
      rw [execSandboxes]
      split
      · exact Or.inl ⟨rfl, rfl⟩
      · rw [SandboxTable.updateConfig]
        rcases t.transact_cases expectedRevision (replaceSandbox sandbox) with
          ⟨err, hrefused⟩ | ⟨rows, rfl, hrows, hchanged⟩
        · rw [hrefused]
          exact Or.inl ⟨rfl, rfl⟩
        · rw [hchanged]
          exact Or.inr ⟨rows, rfl, replaceSandbox_ok hrows, rfl, rfl⟩
  | deleteConfig expectedRevision sandboxId =>
      rw [execSandboxes]
      split
      · exact Or.inl ⟨rfl, rfl⟩
      · rw [SandboxTable.deleteConfig]
        rcases t.transact_cases expectedRevision (deleteSandbox sandboxId) with
          ⟨err, hrefused⟩ | ⟨rows, rfl, hrows, hchanged⟩
        · rw [hrefused]
          exact Or.inl ⟨rfl, rfl⟩
        · rw [hchanged]
          exact Or.inr ⟨rows, rfl, deleteSandbox_ok hrows, rfl, rfl⟩

theorem SandboxConfigOp.Turns.keyed {t : SandboxTable} {op : SandboxConfigOp}
    {rows : List SandboxConfigRecord} (h : op.Turns t.value rows) (ht : Keyed t) :
    Keyed (t.put rows) := by
  cases op with
  | getSnapshot => exact h.elim
  | createConfig expectedRevision sandbox =>
      obtain ⟨hfresh, rfl⟩ := h
      unfold Keyed at ht ⊢
      rw [Versioned.put_value, List.map_append]
      refine List.nodup_append.mpr ⟨ht, List.nodup_singleton _, ?_⟩
      intro id hid id' hid'
      obtain ⟨row, hrow, rfl⟩ := List.mem_map.mp hid
      rw [List.map_singleton, List.mem_singleton] at hid'
      exact hid' ▸ hfresh row hrow
  | updateConfig expectedRevision sandbox =>
      obtain rfl := h
      have hids : (t.value.map (overwrite sandbox)).map (·.sandboxId) =
          t.value.map (·.sandboxId) := by
        rw [List.map_map]
        exact List.map_congr_left fun entry _ => overwrite_sandboxId sandbox entry
      unfold Keyed
      rw [Versioned.put_value, hids]
      exact ht
  | deleteConfig expectedRevision sandboxId =>
      obtain rfl := h
      exact ht.sublist (List.filter_sublist.map _)

/-! ## Requests -/

/-- The snapshot that a call has read. -/
def AdminOp.sandboxSnapshot? : (op : AdminOp) → op.Answer → Option SandboxTable
  | .sandboxes .getSnapshot, .ok snapshot => some snapshot
  | _, _ => none

def AdminEntry.sandboxSnapshot? (e : AdminEntry) : Option SandboxTable :=
  e.op.sandboxSnapshot? e.answer

/-- What a request writes. A new time of day is written with a row of the
snapshot that has been seen. -/
def SandboxConfigRequest.Writes (seen : Option SandboxTable) :
    SandboxConfigRequest → SandboxConfigOp → Prop
  | _, .getSnapshot => True
  | .create .., .createConfig .. => True
  | .update _ sandboxId _, .updateConfig _ row => row.sandboxId = sandboxId
  | .delete _ sandboxId, .deleteConfig _ deleted => deleted = sandboxId
  | .updateTimeOfDay _ sandboxId _, .updateConfig _ row => row.sandboxId = sandboxId ∧
      ∃ snapshot ∈ seen, ∃ old ∈ snapshot.value, old.besideTime = row.besideTime
  | _, _ => False

/-- A request goes by the last snapshot that it has read. -/
def tableProtocol (request : SandboxConfigRequest) :
    Protocol AdminOp AdminOp.Answer (Option SandboxTable) where
  init := none
  next seen op answer := (op.sandboxSnapshot? answer).or seen
  permits seen op := ∀ change, op = .sandboxes change → request.Writes seen change

section Follows

open Prog

variable {α : Type} {request : SandboxConfigRequest} {seen : Option SandboxTable}

theorem tablePermits_of_quiet {op : AdminOp} (hop : op.quiet = true) :
    (tableProtocol request).permits seen op := by
  rintro change rfl
  cases change with
  | getSnapshot => cases request <;> trivial
  | _ => cases hop

/-- A part of a request that changes no table. -/
theorem table_quiet {p : AdminCall α} (h : Quiet p) :
    p.run.Follows (tableProtocol request) (Either (fun _ _ => True) fun _ _ => True) seen := by
  refine Prog.Follows.mono (Uses.follows_keeping (I := fun _ => True) h
    (fun op s hop _ => ⟨tablePermits_of_quiet hop, fun _ => trivial⟩) trivial) fun result _ _ => ?_
  cases result <;> trivial

/-- A check of the request that makes no call. -/
theorem table_check {x : Except Status α} :
    (ExceptT.mk (pure x) : AdminCall α).run.Follows (tableProtocol request)
      (Either (fun a seen' => seen' = seen ∧ x = .ok a) fun _ _ => True) seen :=
  Prog.Follows.ofExcept (fun _ _ => trivial) fun _ hx => ⟨rfl, hx⟩

theorem table_readSandboxes :
    readSandboxes.run.Follows (tableProtocol request)
      (Either (fun snapshot seen' => seen' = some snapshot) fun _ _ => True) seen := by
  refine Prog.Follows.orFail ⟨tablePermits_of_quiet rfl, fun answer => ?_⟩
  cases answer with
  | error err => trivial
  | ok snapshot => rfl

theorem table_write {op : AdminProg (Except SandboxConfigRepoError ℕ)}
    (h : op.Follows (tableProtocol request) (fun _ _ => True) seen) :
    (writeSandboxes op).run.Follows (tableProtocol request)
      (Either (fun _ _ => True) fun _ _ => True) seen := by
  have hop : op.Follows (tableProtocol request) (Either (fun _ _ => True) fun _ _ => True)
      seen := by
    refine Prog.Follows.mono h fun result _ _ => ?_
    cases result <;> trivial
  have hinvalidate : ∀ seen, (AdminOp.menu .invalidateSandboxes).call.Follows
      (tableProtocol request) (fun _ _ => True) seen := by
    refine fun seen => ⟨?_, fun _ => trivial⟩
    intro change hchange
    cases hchange
  exact .bindExcept (Prog.Follows.orFail hop) fun revision s1 _ =>
    .bindExcept (Prog.Follows.lift (hinvalidate s1)) fun _ _ _ => trivial

theorem tablePermits_of_writes {change : SandboxConfigOp} (h : request.Writes seen change) :
    (tableProtocol request).permits seen (.sandboxes change) := by
  rintro change' ⟨⟩
  exact h

theorem mem_of_requireSandbox {rows : List SandboxConfigRecord} {sandboxId : String}
    {sandbox : SandboxConfigRecord} (h : requireSandbox rows sandboxId = .ok sandbox) :
    sandbox ∈ rows ∧ sandbox.sandboxId = sandboxId := by
  unfold requireSandbox at h
  split at h
  · cases h
  · rename_i found hfound
    obtain rfl := Except.ok.inj h
    exact ⟨List.mem_of_find?_eq_some hfound, by simpa using List.find?_some hfound⟩

theorem sandboxConfigRequest_writes (request : SandboxConfigRequest) :
    request.handle.Follows (tableProtocol request) (Either (fun _ _ => True) fun _ _ => True)
      none := by
  cases request with
  | create expectedRevision config =>
      refine .bindExcept (table_quiet quiet_requireAdmin) fun _ s1 _ =>
        .bindExcept (table_quiet (quiet_check _)) fun config s2 _ =>
        .bindExcept (table_quiet (.lift (quiet_of_call rfl))) fun sandboxId s3 _ =>
        .bindExcept (table_write ⟨?_, fun _ => trivial⟩) fun _ _ _ => trivial
      exact tablePermits_of_writes trivial
  | update expectedRevision sandboxId config =>
      refine .bindExcept (table_quiet quiet_requireAdmin) fun _ s1 _ =>
        .bindExcept (table_quiet (quiet_check _)) fun _ s2 _ =>
        .bindExcept (table_quiet (quiet_requireSandboxNotActive _)) fun _ s3 _ =>
        .bindExcept (table_quiet (quiet_check _)) fun config s4 _ =>
        .bindExcept (table_write ⟨?_, fun _ => trivial⟩) fun _ _ _ => trivial
      apply tablePermits_of_writes
      rfl
  | delete expectedRevision sandboxId =>
      refine .bindExcept (table_quiet quiet_requireAdmin) fun _ s1 _ =>
        .bindExcept (table_quiet (quiet_check _)) fun _ s2 _ =>
        .bindExcept (table_quiet (quiet_requireSandboxNotActive _)) fun _ s3 _ =>
        .bindExcept (table_write ⟨?_, fun _ => trivial⟩) fun _ _ _ => trivial
      apply tablePermits_of_writes
      rfl
  | updateTimeOfDay expectedRevision sandboxId preset =>
      refine .bindExcept (table_quiet quiet_requireAdmin) fun _ s1 _ =>
        .bindExcept (table_quiet (quiet_check _)) fun _ s2 _ =>
        .bindExcept (table_quiet (quiet_check _)) fun preset s3 _ =>
        .bindExcept table_readSandboxes fun snapshot s4 h4 =>
        .bindExcept table_check fun sandbox s5 h5 =>
        .bindExcept (table_write ⟨?_, fun _ => trivial⟩) fun revision s6 _ =>
        .bindExcept (table_quiet (.lift (quiet_applyTimeOfDay _ _))) fun _ s7 _ =>
        .bindExcept (table_quiet quiet_utcNow) fun _ _ _ => trivial
      obtain ⟨rfl, hsandbox⟩ := h5
      obtain ⟨hmem, hid⟩ := mem_of_requireSandbox hsandbox
      apply tablePermits_of_writes
      exact ⟨hid, snapshot, h4, sandbox, hmem, rfl⟩

end Follows

/-! ## Edits -/

/-- The sandbox whose row a request replaces or deletes as a whole. -/
def SandboxConfigRequest.edited? : SandboxConfigRequest → Option String
  | .update _ sandboxId _ | .delete _ sandboxId => some sandboxId
  | .create .. | .updateTimeOfDay .. => none

def SandboxConfigRequest.changesTimeOfDay : SandboxConfigRequest → Bool
  | .updateTimeOfDay .. => true
  | .create .. | .update .. | .delete .. => false

variable (requests : ℕ → SandboxConfigRequest)

/-- The call has committed an edit of the sandbox. -/
def Edits (sandboxId : String) (e : AdminEntry) : Prop :=
  (AdminEntry.sandboxRevision? e).isSome = true ∧ (requests e.thread).edited? = some sandboxId

instance (sandboxId : String) (e : AdminEntry) : Decidable (Edits requests sandboxId e) :=
  inferInstanceAs (Decidable (_ ∧ _))

/-- The calls since the last snapshot of a request. -/
def sinceSnapshot (i : ℕ) (log : List AdminEntry) : List AdminEntry :=
  log.takeWhile fun e => ¬ (e.thread = i ∧ (AdminEntry.sandboxSnapshot? e).isSome = true)

/-- The sandbox whose row is written back with another time of day, and the
revision at which it is. -/
def SandboxConfigRequest.writesBack? : SandboxConfigRequest → AdminOp → Option (ℕ × String)
  | .updateTimeOfDay _ sandboxId _, .sandboxes (.updateConfig expectedRevision _) =>
      some (expectedRevision, sandboxId)
  | _, _ => none

/-- When a row is written back at the revision of the table, nobody has
edited the sandbox since the snapshot. -/
def Unedited (w : AdminWorld E) (i : ℕ) (op : AdminOp) (_input : AdminInput E) : Prop :=
  ∀ back ∈ (requests i).writesBack? op, back.1 = w.shared.sandboxes.revision →
    ∀ e ∈ sinceSnapshot i w.log, ¬ Edits requests back.2 e

instance (w : AdminWorld E) (i : ℕ) (op : AdminOp) (input : AdminInput E) :
    Decidable (Unedited requests w i op input) :=
  inferInstanceAs (Decidable (∀ back ∈ (requests i).writesBack? op, _))

/-- A new time of day that is committed leaves the rest of the table as it
was. -/
def TimeOfDayOnly (w : AdminWorld E) (i : ℕ) (op : AdminOp) (input : AdminInput E) : Prop :=
  (requests i).changesTimeOfDay = true →
    (op.sandboxRevision? (adminExec w.shared op input).2).isSome = true →
      (adminExec w.shared op input).1.sandboxes.value.map (·.besideTime) =
        w.shared.sandboxes.value.map (·.besideTime)

instance (w : AdminWorld E) (i : ℕ) (op : AdminOp) (input : AdminInput E) :
    Decidable (TimeOfDayOnly requests w i op input) :=
  inferInstanceAs (Decidable (_ → _ → _))

def sandboxStart (s : AdminState E) : AdminPool E := Pool.start s fun i => (requests i).handle

/-! ## What a request knows of the table -/

/-- A request that changes the time of day has a row whose other columns are
still those of the table. -/
structure RowsKnown (w : AdminWorld E) : Prop where
  keyed : Keyed w.shared.sandboxes
  current : ∀ i expectedRevision sandboxId preset,
    requests i = .updateTimeOfDay expectedRevision sandboxId preset →
    (∀ e ∈ sinceSnapshot i w.log, ¬ Edits requests sandboxId e) →
    ∀ snapshot ∈ (tableProtocol (requests i)).stageOf i w.log, ∀ old ∈ snapshot.value,
      old.sandboxId = sandboxId →
        ∃ row ∈ w.shared.sandboxes.value, row.besideTime = old.besideTime

variable {requests} {w : AdminWorld E} {i : ℕ} {op : AdminOp} {input : AdminInput E}

theorem adminExec_table (s : AdminState E) (op : AdminOp) (input : AdminInput E) :
    (adminExec s op input).1.sandboxes = s.sandboxes ∧
        op.sandboxRevision? (adminExec s op input).2 = none ∨
      ∃ change rows, op = .sandboxes change ∧
        (adminExec s op input).1.sandboxes = s.sandboxes.put rows ∧
        change.Turns s.sandboxes.value rows ∧
        change.expectedRevision? = some s.sandboxes.revision ∧
        (op.sandboxRevision? (adminExec s op input).2).isSome = true := by
  cases op with
  | sandboxes change =>
      rcases execSandboxes_step s.sandboxes input change with ⟨hsame, hnone⟩ | ⟨rows, hput, hrest⟩
      · exact Or.inl ⟨hsame, hnone⟩
      · exact Or.inr ⟨change, rows, rfl, hput, hrest⟩
  | menu op => cases op <;> exact Or.inl ⟨rfl, rfl⟩
  | _ => exact Or.inl ⟨rfl, rfl⟩

/-- The row that is written has the columns of the row that it replaces. -/
theorem RowsKnown.timeOfDayOnly (h : RowsKnown requests w)
    (hguard : Unedited requests w i op input)
    (hpermits : (tableProtocol (requests i)).permits
      ((tableProtocol (requests i)).stageOf i w.log) op) :
    TimeOfDayOnly requests w i op input := by
  intro htime hcommitted
  rcases adminExec_table w.shared op input with
    ⟨-, hnone⟩ | ⟨change, rows, rfl, hput, hturns, hexpected, -⟩
  · rw [hnone] at hcommitted
    cases hcommitted
  rw [hput, Versioned.put_value]
  have hwrites := hpermits change rfl
  cases hrequest : requests i with
  | updateTimeOfDay expectedRevision sandboxId preset =>
      rw [hrequest] at hwrites
      cases change with
      | updateConfig revision row =>
          obtain ⟨hid, snapshot, hsnapshot, old, hold, hbeside⟩ := hwrites
          have hunedited : ∀ e ∈ sinceSnapshot i w.log, ¬ Edits requests sandboxId e :=
            hguard (revision, sandboxId) (by rw [hrequest]; rfl) (Option.some.inj hexpected)
          obtain ⟨current, hcurrent, hsame⟩ := h.current i expectedRevision sandboxId preset
            hrequest hunedited snapshot (by rw [hrequest]; exact hsnapshot) old hold
            ((sandboxId_of_besideTime hbeside).trans hid)
          obtain rfl := hturns
          rw [List.map_map]
          refine List.map_congr_left fun entry hentry => ?_
          change (overwrite row entry).besideTime = entry.besideTime
          unfold overwrite
          split
          · rename_i hentryId
            have hcolumns : current.besideTime = row.besideTime := hsame.trans hbeside
            rw [h.keyed.eq hentry hcurrent
              (hentryId.trans (sandboxId_of_besideTime hcolumns).symm)]
            exact hcolumns.symm
          · rfl
      | getSnapshot => exact hturns.elim
      | _ => exact hwrites.elim
  | _ =>
      rw [hrequest] at htime
      cases htime

/-- A row lasts as long as nobody edits it. -/
theorem RowsKnown.row_lasts (h : RowsKnown requests w)
    (hguard : Unedited requests w i op input)
    (hpermits : (tableProtocol (requests i)).permits
      ((tableProtocol (requests i)).stageOf i w.log) op) {row : SandboxConfigRecord}
    (hrow : row ∈ w.shared.sandboxes.value)
    (hunedited : ¬ Edits requests row.sandboxId ⟨i, op, (adminExec w.shared op input).2⟩) :
    ∃ row' ∈ (adminExec w.shared op input).1.sandboxes.value,
      row'.besideTime = row.besideTime := by
  have honly := h.timeOfDayOnly hguard hpermits
  rcases adminExec_table w.shared op input with
    ⟨hsame, -⟩ | ⟨change, rows, rfl, hput, hturns, -, hcommitted⟩
  · rw [hsame]
    exact ⟨row, hrow, rfl⟩
  have hwrites := hpermits change rfl
  have hother : ∀ sandboxId, (requests i).edited? = some sandboxId → row.sandboxId ≠ sandboxId := by
    rintro sandboxId hedited rfl
    exact hunedited ⟨hcommitted, hedited⟩
  cases hrequest : requests i with
  | create expectedRevision config =>
      rw [hrequest] at hwrites
      cases change with
      | createConfig revision sandbox =>
          rw [hput, Versioned.put_value, hturns.2]
          exact ⟨row, List.mem_append_left _ hrow, rfl⟩
      | getSnapshot => exact hturns.elim
      | _ => exact hwrites.elim
  | update expectedRevision sandboxId config =>
      rw [hrequest] at hwrites
      cases change with
      | updateConfig revision sandbox =>
          obtain rfl := hwrites
          obtain rfl := hturns
          rw [hput, Versioned.put_value]
          refine ⟨row, List.mem_map.mpr ⟨row, hrow, ?_⟩, rfl⟩
          exact if_neg (hother _ (by rw [hrequest]; rfl))
      | getSnapshot => exact hturns.elim
      | _ => exact hwrites.elim
  | delete expectedRevision sandboxId =>
      rw [hrequest] at hwrites
      cases change with
      | deleteConfig revision deleted =>
          obtain rfl := hwrites
          obtain rfl := hturns
          rw [hput, Versioned.put_value]
          refine ⟨row, List.mem_filter.mpr ⟨hrow, ?_⟩, rfl⟩
          simpa using hother _ (by rw [hrequest]; rfl)
      | getSnapshot => exact hturns.elim
      | _ => exact hwrites.elim
  | updateTimeOfDay expectedRevision sandboxId preset =>
      have hcolumns := honly (by rw [hrequest]; rfl) hcommitted
      have hmem : row.besideTime ∈
          (adminExec w.shared (.sandboxes change) input).1.sandboxes.value.map (·.besideTime) := by
        rw [hcolumns]
        exact List.mem_map_of_mem hrow
      obtain ⟨row', hrow', hbeside⟩ := List.mem_map.mp hmem
      exact ⟨row', hrow', hbeside⟩

theorem adminExec_sandboxSnapshot {s : AdminState E} {snapshot : SandboxTable}
    (h : op.sandboxSnapshot? (adminExec s op input).2 = some snapshot) :
    snapshot = s.sandboxes.getSnapshot ∧ (adminExec s op input).1.sandboxes = s.sandboxes := by
  cases op with
  | sandboxes change =>
      cases change with
      | getSnapshot =>
          change AdminOp.sandboxSnapshot? (.sandboxes .getSnapshot)
            (if input.fails then _ else _) = _ at h
          split at h
          · cases h
          · exact ⟨(Option.some.inj h).symm, rfl⟩
      | _ => cases h
  | _ => cases h

theorem RowsKnown.step (h : RowsKnown requests w) (hguard : Unedited requests w i op input)
    (hpermits : (tableProtocol (requests i)).permits
      ((tableProtocol (requests i)).stageOf i w.log) op) :
    RowsKnown requests (w.perform adminExec i op input) := by
  constructor
  · change Keyed (adminExec w.shared op input).1.sandboxes
    rcases adminExec_table w.shared op input with
      ⟨hsame, -⟩ | ⟨change, rows, -, hput, hturns, -⟩
    · rw [hsame]
      exact h.keyed
    · rw [hput]
      exact hturns.keyed h.keyed
  · intro j expectedRevision sandboxId preset hrequest hunedited snapshot hstage old hold hid
    change ∃ row ∈ (adminExec w.shared op input).1.sandboxes.value, _
    by_cases hread : i = j ∧ (op.sandboxSnapshot? (adminExec w.shared op input).2).isSome = true
    · obtain ⟨rfl, hsome⟩ := hread
      obtain ⟨read, hsnapshot⟩ := Option.isSome_iff_exists.mp hsome
      obtain ⟨rfl, hsame⟩ := adminExec_sandboxSnapshot hsnapshot
      rw [Protocol.stageOf_perform_self] at hstage
      change ((op.sandboxSnapshot? (adminExec w.shared op input).2).or _) = _ at hstage
      rw [hsnapshot] at hstage
      obtain rfl := Option.some.inj hstage
      rw [hsame]
      exact ⟨old, mem_sandboxSnapshot.mp hold, rfl⟩
    · have hsince : sinceSnapshot j (w.perform adminExec i op input).log =
          ⟨i, op, (adminExec w.shared op input).2⟩ :: sinceSnapshot j w.log :=
        List.takeWhile_cons_of_pos (decide_eq_true hread)
      rw [hsince] at hunedited
      obtain ⟨hnot, hearlier⟩ := List.forall_mem_cons.mp hunedited
      have hbefore : (tableProtocol (requests j)).stageOf j w.log = some snapshot := by
        by_cases hij : i = j
        · subst hij
          rw [Protocol.stageOf_perform_self] at hstage
          change ((op.sandboxSnapshot? (adminExec w.shared op input).2).or _) = _ at hstage
          cases hsnapshot : op.sandboxSnapshot? (adminExec w.shared op input).2 with
          | none =>
              rw [hsnapshot] at hstage
              exact hstage
          | some read => exact absurd ⟨rfl, by rw [hsnapshot]; rfl⟩ hread
        · rw [Protocol.stageOf_perform_ne _ _ _ (Ne.symm hij)] at hstage
          exact hstage
      obtain ⟨row, hrow, hbeside⟩ := h.current j expectedRevision sandboxId preset hrequest
        hearlier snapshot hbefore old hold hid
      have hrowId : row.sandboxId = sandboxId := (sandboxId_of_besideTime hbeside).trans hid
      rw [← hrowId] at hnot
      obtain ⟨row', hrow', hsame⟩ := h.row_lasts hguard hpermits hrow hnot
      exact ⟨row', hrow', hsame.trans hbeside⟩

/-- In every run in which nobody edits a sandbox between the snapshot and
the write of a request that changes its time of day, such a request changes
nothing but the time of day. -/
theorem timeOfDay_changed_alone (requests : ℕ → SandboxConfigRequest) (s : AdminState E)
    (hs : Keyed s.sandboxes) (events : List (ℕ × AdminInput E))
    (hguard : Along (Pool.Guarded (Unedited requests)) (Pool.step adminExec)
      (sandboxStart requests s) events) :
    Along (Pool.Guarded (TimeOfDayOnly requests)) (Pool.step adminExec)
      (sandboxStart requests s) events := by
  have hfollowed : (sandboxStart requests s).FollowedBy (fun i => tableProtocol (requests i))
      (Prog.Either (fun _ _ => True) fun _ _ => True) :=
    fun i => sandboxConfigRequest_writes (requests i)
  have hinit : RowsKnown requests (sandboxStart requests s).world := by
    refine ⟨hs, ?_⟩
    intro j expectedRevision sandboxId preset _ _ snapshot hstage
    cases hstage
  exact hfollowed.along (fun w i op input hw hg hp => hw.step hg hp)
    (fun w i op input hw hg hp => hw.timeOfDayOnly hg hp) hinit hguard

/-! ## Two admins -/

def hairpin : SandboxConfigInputRecord := ⟨"Hairpin", "ovalis", .noon, none⟩
def chicane : SandboxConfigInputRecord := ⟨"Chicane", "ovalis", .noon, none⟩

def oneSandbox : AdminState CarWorld :=
  { AdminState.initial CarWorld 0 with sandboxes := ⟨0, [⟨"s", hairpin⟩]⟩ }

/-- One admin renames the sandbox, the other changes its time of day at the
revision that follows. -/
def twoAdmins (expectedRevision : ℕ) : ℕ → SandboxConfigRequest
  | 0 => .updateTimeOfDay expectedRevision "s" (some .night)
  | _ => .update 0 "s" (some ⟨"Chicane", "ovalis", some .noon, none⟩)

def turns (threads : List ℕ) : List (ℕ × AdminInput CarWorld) :=
  threads.map fun i => (i, AdminInput.works)

theorem timeOfDay_changed_alone_unedited :
    Along (Pool.Guarded (TimeOfDayOnly (twoAdmins 1))) (Pool.step adminExec)
      (sandboxStart (twoAdmins 1) oneSandbox) (turns [1, 1, 1, 1, 0, 0, 0]) :=
  timeOfDay_changed_alone (twoAdmins 1) oneSandbox (List.nodup_singleton _)
    (turns [1, 1, 1, 1, 0, 0, 0]) (by decide +kernel)

/-- The snapshot is taken before the sandbox is renamed, and the old name is
written back. -/
theorem timeOfDay_restores_old_name :
    let p : ℕ → AdminPool CarWorld := stateAt (Pool.step adminExec)
      (sandboxStart (twoAdmins 1) oneSandbox) (turns [0, 0, 1, 1, 1, 0])
    (p 5).world.shared.sandboxes.value = [⟨"s", chicane⟩] ∧
      (p 6).world.shared.sandboxes.value = [⟨"s", { hairpin with timeOfDayPreset := .night }⟩] ∧
      ¬ Along (Pool.Guarded (TimeOfDayOnly (twoAdmins 1))) (Pool.step adminExec)
        (sandboxStart (twoAdmins 1) oneSandbox) (turns [0, 0, 1, 1, 1, 0]) := by
  decide +kernel

end HackArena.Admin
