import HackArena.Official.OrphanCleanup

/-!
# Runs with the clean-up of submissions

Handlers create submissions, the worker builds them and cleans up after each
of its builds, and the other tasks do what they like beside that. What the
clean-up has deleted belongs to a submission that is discarded: no slot is
assigned to it, and none ever will be.
-/

namespace HackArena.Official

open GuardedRun

/-- What is known of the submissions: where the tasks stand, the repository
and the queue. -/
structure Care where
  custody : ℕ → Custody
  repo : SubmissionRepo
  queue : List SubmissionBuildJob

namespace Care

variable {registry : String} {k k' : Care} {i : ℕ} {submissionId teamId : String}

/-- The submission is in the care of a task or of the queue. -/
def Awaits (k : Care) (submissionId teamId : String) : Prop :=
  (∃ i, (k.custody i).holds = some (submissionId, teamId)) ∨
    ∃ job ∈ k.queue, job.submissionId = submissionId ∧ job.teamId = teamId

structure Gone (k : Care) (submissionId : String) : Prop where
  row : submissionId ∈ k.repo.ids
  unused : ¬ k.repo.usedInSlot submissionId
  unawaited : ∀ teamId, ¬ k.Awaits submissionId teamId

/-- A submission is in one care at a time, and open as long as it is. -/
structure Sound (registry : String) (k : Care) : Prop where
  repo : k.repo.Sound registry
  named : ∀ i submissionId, k.custody i = .named submissionId →
    Text.trim submissionId = submissionId
  waiting : ∀ submissionId teamId, k.Awaits submissionId teamId → k.repo.Open submissionId teamId
  apart : ∀ i j submissionId teamId teamId', (k.custody i).holds = some (submissionId, teamId) →
    (k.custody j).holds = some (submissionId, teamId') → i = j
  unqueued : ∀ i submissionId teamId, (k.custody i).holds = some (submissionId, teamId) →
    ∀ job ∈ k.queue, job.submissionId ≠ submissionId
  nodup : (k.queue.map (·.submissionId)).Nodup

/-- Nothing that is gone comes back. -/
def Leads (k k' : Care) : Prop := ∀ submissionId, k.Gone submissionId → k'.Gone submissionId

/-- A step that keeps the submissions sound. -/
def Keeps (registry : String) (k k' : Care) : Prop := k'.Sound registry ∧ k.Leads k'

theorem Sound.keeps (h : k.Sound registry) : k.Keeps registry k := ⟨h, fun _ hgone => hgone⟩

theorem leads_of (hids : k.repo.ids ⊆ k'.repo.ids)
    (hused : ∀ submissionId, k'.repo.usedInSlot submissionId → k.repo.usedInSlot submissionId ∨
      ∃ teamId, k.Awaits submissionId teamId)
    (hawaits : ∀ submissionId teamId, k'.Awaits submissionId teamId →
      k.Awaits submissionId teamId ∨ submissionId ∉ k.repo.ids) : k.Leads k' := by
  intro submissionId h
  refine ⟨hids h.row, fun hnow => ?_, fun teamId hnow => ?_⟩
  · rcases hused submissionId hnow with hbefore | ⟨teamId, hbefore⟩
    · exact h.unused hbefore
    · exact h.unawaited teamId hbefore
  · rcases hawaits submissionId teamId hnow with hbefore | hnew
    · exact h.unawaited teamId hbefore
    · exact hnew h.row

/-! ### Cares that end -/

/-- Where the care of a task ends, or of some of the queue, and nothing else
changes. -/
structure Shrinks (k k' : Care) : Prop where
  repo : k'.repo = k.repo
  custody : ∀ i, (k'.custody i).holds = none ∨ (k'.custody i).holds = (k.custody i).holds
  queue : k'.queue.Sublist k.queue

theorem Shrinks.awaits (h : k.Shrinks k') (hnow : k'.Awaits submissionId teamId) :
    k.Awaits submissionId teamId := by
  rcases hnow with ⟨i, hi⟩ | ⟨job, hjob, hid⟩
  · refine Or.inl ⟨i, ?_⟩
    rcases h.custody i with hnone | hsame
    · rw [hnone] at hi
      cases hi
    · rwa [hsame] at hi
  · exact Or.inr ⟨job, h.queue.subset hjob, hid⟩

theorem Shrinks.held (h : k.Shrinks k') {pair : String × String}
    (hi : (k'.custody i).holds = some pair) : (k.custody i).holds = some pair := by
  rcases h.custody i with hnone | hsame
  · rw [hnone] at hi
    cases hi
  · rwa [hsame] at hi

theorem Shrinks.leads (h : k.Shrinks k') : k.Leads k' :=
  leads_of (by rw [h.repo]; exact List.Subset.refl _) (fun _ hused => Or.inl (by rwa [h.repo] at hused))
    fun _ _ hnow => Or.inl (h.awaits hnow)

theorem Sound.shrink (hk : k.Sound registry) (h : k.Shrinks k')
    (hnamed : ∀ i submissionId, k'.custody i = .named submissionId →
      Text.trim submissionId = submissionId) : k'.Sound registry where
  repo := by
    rw [h.repo]
    exact hk.repo
  named := hnamed
  waiting submissionId teamId hnow := by
    rw [h.repo]
    exact hk.waiting submissionId teamId (h.awaits hnow)
  apart i j submissionId teamId teamId' hi hj :=
    hk.apart i j submissionId teamId teamId' (h.held hi) (h.held hj)
  unqueued i submissionId teamId hi job hjob :=
    hk.unqueued i submissionId teamId (h.held hi) job (h.queue.subset hjob)
  nodup := hk.nodup.sublist (h.queue.map _)

/-- A task that is given up what it holds. -/
theorem shrinks_update {c : Custody} (hc : c.holds = none ∨ c = k.custody i) :
    k.Shrinks { k with custody := Function.update k.custody i c } where
  repo := rfl
  custody j := by
    by_cases hj : j = i
    · subst hj
      dsimp only
      rw [Function.update_self]
      rcases hc with hnone | rfl
      · exact Or.inl hnone
      · exact Or.inr rfl
    · dsimp only
      rw [Function.update_of_ne hj]
      exact Or.inr rfl
  queue := List.Sublist.refl _

theorem Sound.release (hk : k.Sound registry) {c : Custody}
    (hc : c.holds = none ∨ c = k.custody i)
    (hnamed : ∀ submissionId, c = .named submissionId → Text.trim submissionId = submissionId) :
    k.Keeps registry { k with custody := Function.update k.custody i c } := by
  refine ⟨hk.shrink (shrinks_update hc) fun j submissionId hj => ?_, (shrinks_update hc).leads⟩
  by_cases hji : j = i
  · subst hji
    dsimp only at hj
    rw [Function.update_self] at hj
    exact hnamed submissionId hj
  · dsimp only at hj
    rw [Function.update_of_ne hji] at hj
    exact hk.named j submissionId hj

/-- The worker stops, and its queue is dropped with it. -/
theorem Sound.stop (hk : k.Sound registry) :
    k.Keeps registry ⟨Function.update k.custody i .idle, k.repo, []⟩ := by
  have hshrinks : k.Shrinks ⟨Function.update k.custody i .idle, k.repo, []⟩ :=
    ⟨rfl, (shrinks_update (Or.inl rfl)).custody, List.nil_sublist _⟩
  refine ⟨hk.shrink hshrinks ?_, hshrinks.leads⟩
  exact (hk.release (c := .idle) (Or.inl rfl) (by simp)).1.named

/-! ### Repositories that change -/

/-- The repository changes, but no slot is assigned and none of the rows in
care is touched in earnest. -/
theorem Sound.rewrite (hk : k.Sound registry) {r : SubmissionRepo} (hsound : r.Sound registry)
    (hids : k.repo.ids ⊆ r.ids)
    (hused : ∀ submissionId, r.usedInSlot submissionId → k.repo.usedInSlot submissionId)
    (hopen : ∀ submissionId teamId, k.repo.Open submissionId teamId → r.Open submissionId teamId) :
    k.Keeps registry { k with repo := r } :=
  ⟨{ repo := hsound
     named := hk.named
     waiting := fun submissionId teamId hnow => hopen _ _ (hk.waiting submissionId teamId hnow)
     apart := hk.apart
     unqueued := hk.unqueued
     nodup := hk.nodup },
    leads_of hids (fun submissionId h => Or.inl (hused submissionId h)) fun _ _ hnow => Or.inl hnow⟩

/-! ### Care that is handed on -/

theorem holds_update {c : Custody} {j : ℕ} {pair : String × String}
    (h : (Function.update k.custody i c j).holds = some pair) :
    j = i ∧ c.holds = some pair ∨ j ≠ i ∧ (k.custody j).holds = some pair := by
  by_cases hj : j = i
  · subst hj
    rw [Function.update_self] at h
    exact Or.inl ⟨rfl, h⟩
  · rw [Function.update_of_ne hj] at h
    exact Or.inr ⟨hj, h⟩

theorem Sound.named_update (hk : k.Sound registry) {c : Custody}
    (hc : ∀ submissionId, c ≠ .named submissionId) (j : ℕ) (submissionId : String)
    (h : Function.update k.custody i c j = .named submissionId) :
    Text.trim submissionId = submissionId := by
  by_cases hj : j = i
  · subst hj
    rw [Function.update_self] at h
    exact absurd h (hc submissionId)
  · rw [Function.update_of_ne hj] at h
    exact hk.named j submissionId h

theorem awaits_update {c : Custody} {r : SubmissionRepo} {queue : List SubmissionBuildJob}
    (h : Awaits ⟨Function.update k.custody i c, r, queue⟩ submissionId teamId) :
    c.holds = some (submissionId, teamId) ∨
      (∃ j, j ≠ i ∧ (k.custody j).holds = some (submissionId, teamId)) ∨
      ∃ job ∈ queue, job.submissionId = submissionId ∧ job.teamId = teamId := by
  rcases h with ⟨j, hj⟩ | hqueue
  · rcases holds_update hj with ⟨-, hown⟩ | hother
    · exact Or.inl hown
    · exact Or.inr (Or.inl ⟨j, hother⟩)
  · exact Or.inr (Or.inr hqueue)

/-- The care of a task ends or is for another submission, which nobody else
has in care. -/
theorem Sound.handOn (hk : k.Sound registry) {c : Custody} {r : SubmissionRepo}
    {queue : List SubmissionBuildJob} (hr : r.Sound registry)
    (hc : ∀ submissionId, c ≠ .named submissionId)
    (hwaiting : ∀ submissionId teamId, Awaits ⟨Function.update k.custody i c, r, queue⟩
      submissionId teamId → r.Open submissionId teamId)
    (hown : ∀ submissionId teamId, c.holds = some (submissionId, teamId) →
      (∀ j teamId', (k.custody j).holds = some (submissionId, teamId') → j = i) ∧
        ∀ job ∈ queue, job.submissionId ≠ submissionId)
    (hothers : ∀ j submissionId teamId, j ≠ i →
      (k.custody j).holds = some (submissionId, teamId) →
        ∀ job ∈ queue, job.submissionId ≠ submissionId)
    (hnodup : (queue.map (·.submissionId)).Nodup) :
    Sound registry ⟨Function.update k.custody i c, r, queue⟩ where
  repo := hr
  named := hk.named_update hc
  waiting := hwaiting
  apart j l id team team' hj hl := by
    rcases holds_update hj with ⟨rfl, hheld⟩ | ⟨-, hother⟩
    · rcases holds_update hl with ⟨rfl, -⟩ | ⟨-, hother⟩
      · rfl
      · exact ((hown id team hheld).1 l team' hother).symm
    · rcases holds_update hl with ⟨rfl, hheld⟩ | ⟨-, hother'⟩
      · exact (hown id team' hheld).1 j team hother
      · exact hk.apart j l id team team' hother hother'
  unqueued j id team hj := by
    rcases holds_update hj with ⟨-, hj⟩ | ⟨hne, hj⟩
    · exact (hown id team hj).2
    · exact hothers j id team hne hj
  nodup := hnodup

/-- The row of a new submission. -/
def withRow (r : SubmissionRepo) (submissionId teamId : String) : SubmissionRepo :=
  { r with submissions := r.submissions ++ [⟨submissionId, teamId, .queued, none, submissionId⟩] }

theorem Sound.addRow (hk : k.Sound registry) (hid : Text.trim submissionId = submissionId)
    (hnew : submissionId ∉ k.repo.ids) :
    k.Keeps registry { k with repo := withRow k.repo submissionId teamId } := by
  have hids : (withRow k.repo submissionId teamId).ids = k.repo.ids ++ [submissionId] :=
    List.map_append
  refine hk.rewrite ⟨fun row hrow => ?_, ?_, fun id hused => ?_⟩ ?_ (fun _ hused => hused)
    fun id team hopen => ?_
  · rcases List.mem_append.mp hrow with hrow | hrow
    · exact hk.repo.rows row hrow
    · obtain rfl := List.mem_singleton.mp hrow
      exact ⟨hid, rfl, by simp⟩
  · rw [hids]
    refine hk.repo.nodup.append (List.nodup_singleton _) ?_
    simpa using hnew
  · rw [hids]
    exact List.mem_append_left _ (hk.repo.slots id hused)
  · rw [hids]
    exact List.subset_append_left _ _
  · obtain ⟨row, hrow, hrest⟩ := hopen.row
    exact ⟨⟨row, List.mem_append_left _ hrow, hrest⟩, hopen.unused⟩

/-- A handler writes the row of its submission. -/
theorem Sound.create (hk : k.Sound registry) (hi : k.custody i = .named submissionId)
    (hnew : submissionId ∉ k.repo.ids) :
    k.Keeps registry ⟨Function.update k.custody i (.created submissionId teamId),
      withRow k.repo submissionId teamId, k.queue⟩ := by
  have hadded : Sound registry { k with repo := withRow k.repo submissionId teamId } :=
    (hk.addRow (hk.named i submissionId hi) hnew).1
  have hfresh : ∀ teamId, ¬ k.Awaits submissionId teamId := fun teamId h =>
    hnew (hk.waiting submissionId teamId h).mem_ids
  have hawaits : ∀ id team, Awaits ⟨Function.update k.custody i (.created submissionId teamId),
      withRow k.repo submissionId teamId, k.queue⟩ id team →
      (id = submissionId ∧ team = teamId) ∨ k.Awaits id team := by
    intro id team h
    rcases awaits_update h with hown | ⟨j, -, hj⟩ | hqueue
    · obtain ⟨rfl, rfl⟩ := Prod.mk.inj (Option.some.inj hown)
      exact Or.inl ⟨rfl, rfl⟩
    · exact Or.inr (Or.inl ⟨j, hj⟩)
    · exact Or.inr (Or.inr hqueue)
  refine ⟨hk.handOn hadded.repo (by simp) (fun id team h => ?_) (fun id team hown => ?_)
    (fun j id team _ => hk.unqueued j id team) hk.nodup,
    leads_of (List.map_subset _ (List.subset_append_left _ _)) (fun _ hused => Or.inl hused)
      fun id team h => ?_⟩
  · rcases hawaits id team h with ⟨rfl, rfl⟩ | h
    · refine ⟨⟨_, List.mem_append_right _ (List.mem_singleton_self _), rfl, rfl, by simp⟩, ?_⟩
      exact fun hused => hnew (hk.repo.slots _ hused)
    · exact hadded.waiting id team h
  · obtain ⟨rfl, rfl⟩ := Prod.mk.inj (Option.some.inj hown)
    exact ⟨fun j team' hj => absurd (Or.inl ⟨j, hj⟩) (hfresh team'), fun job hjob hid =>
      hfresh job.teamId (Or.inr ⟨job, hjob, hid, rfl⟩)⟩
  · rcases hawaits id team h with ⟨rfl, -⟩ | h
    · exact Or.inr hnew
    · exact Or.inl h

/-- The queue takes the job from the handler. -/
theorem Sound.enqueue (hk : k.Sound registry) {job : SubmissionBuildJob}
    (hi : k.custody i = .created job.submissionId job.teamId) :
    k.Keeps registry ⟨Function.update k.custody i .idle, k.repo, k.queue ++ [job]⟩ := by
  have hheld : (k.custody i).holds = some (job.submissionId, job.teamId) := by
    rw [hi]
    rfl
  have hawaits : ∀ id team, Awaits ⟨Function.update k.custody i .idle, k.repo, k.queue ++ [job]⟩
      id team → k.Awaits id team := by
    intro id team h
    rcases awaits_update h with hidle | ⟨j, -, hj⟩ | ⟨job', hjob', hid, hteam⟩
    · cases hidle
    · exact Or.inl ⟨j, hj⟩
    · rcases List.mem_append.mp hjob' with hjob' | hjob'
      · exact Or.inr ⟨job', hjob', hid, hteam⟩
      · obtain rfl := List.mem_singleton.mp hjob'
        subst hid hteam
        exact Or.inl ⟨i, hheld⟩
  refine ⟨hk.handOn hk.repo (by simp) (fun id team h => hk.waiting id team (hawaits id team h))
    (fun _ _ hidle => by cases hidle) (fun j id team hne hj job' hjob' hid => ?_) ?_,
    leads_of (List.Subset.refl _) (fun _ hused => Or.inl hused) fun id team h =>
      Or.inl (hawaits id team h)⟩
  · rcases List.mem_append.mp hjob' with hjob' | hjob'
    · exact hk.unqueued j id team hj job' hjob' hid
    · obtain rfl := List.mem_singleton.mp hjob'
      subst hid
      exact hne (hk.apart j i _ _ _ hj hheld)
  · rw [List.map_append]
    refine hk.nodup.append (List.nodup_singleton _) ?_
    simpa using hk.unqueued i _ _ hheld

/-- The worker takes the first job of the queue. -/
theorem Sound.nextJob (hk : k.Sound registry) {job : SubmissionBuildJob}
    {rest : List SubmissionBuildJob} (hqueue : k.queue = job :: rest) :
    k.Keeps registry ⟨Function.update k.custody i (.building job), k.repo, rest⟩ := by
  have hjob : job ∈ k.queue := by simp [hqueue]
  have hrest : ∀ {job'}, job' ∈ rest → job' ∈ k.queue := fun h => by simp [hqueue, h]
  have hfirst : ∀ {j : ℕ} {team : String}, (k.custody j).holds ≠ some (job.submissionId, team) :=
    fun h => hk.unqueued _ _ _ h job hjob rfl
  have hawaits : ∀ id team, Awaits ⟨Function.update k.custody i (.building job), k.repo, rest⟩
      id team → k.Awaits id team := by
    intro id team h
    rcases awaits_update h with hown | ⟨j, -, hj⟩ | ⟨job', hjob', hid⟩
    · obtain ⟨rfl, rfl⟩ := Prod.mk.inj (Option.some.inj hown)
      exact Or.inr ⟨job, hjob, rfl, rfl⟩
    · exact Or.inl ⟨j, hj⟩
    · exact Or.inr ⟨job', hrest hjob', hid⟩
  have hnodup : (job.submissionId :: rest.map (·.submissionId)).Nodup := by
    have h := hk.nodup
    rwa [hqueue, List.map_cons] at h
  obtain ⟨hnotMem, hnodupRest⟩ := List.nodup_cons.mp hnodup
  refine ⟨hk.handOn hk.repo (by simp) (fun id team h => hk.waiting id team (hawaits id team h))
    (fun id team hown => ?_) (fun j id team _ hj job' hjob' =>
      hk.unqueued j id team hj job' (hrest hjob')) hnodupRest,
    leads_of (List.Subset.refl _) (fun _ hused => Or.inl hused) fun id team h =>
      Or.inl (hawaits id team h)⟩
  obtain ⟨rfl, rfl⟩ := Prod.mk.inj (Option.some.inj hown)
  exact ⟨fun j team' hj => absurd hj hfirst, fun job' hjob' hid =>
    hnotMem (List.mem_map.mpr ⟨job', hjob', hid⟩)⟩

def succeededWith (imageRef : String) (row : SubmissionRow) : SubmissionRow :=
  { row with status := .succeeded, imageRef := some imageRef }

/-- The worker's submission succeeds, and takes the place of another in the
slot. -/
theorem Sound.assign (hk : k.Sound registry) {job : SubmissionBuildJob} {slotIndex : ℤ}
    {imageRef : String} (hi : k.custody i = .building job)
    (hformat : formatImageRef registry job.teamId job.submissionId = .ok imageRef)
    {r : SubmissionRepo} (hr : k.repo.markSucceededAndAssignSlot job.submissionId job.teamId slotIndex
      imageRef = .ok r) :
    k.Keeps registry ⟨Function.update k.custody i .idle, r, k.queue⟩ := by
  have hheld : (k.custody i).holds = some (job.submissionId, job.teamId) := by
    rw [hi]
    rfl
  have hopen := hk.waiting _ _ (Or.inl ⟨i, hheld⟩)
  have hawaits : ∀ id team, Awaits ⟨Function.update k.custody i .idle, r, k.queue⟩ id team →
      k.Awaits id team ∧ id ≠ job.submissionId := by
    intro id team h
    rcases awaits_update h with hidle | ⟨j, hne, hj⟩ | ⟨job', hjob', hid, hteam⟩
    · cases hidle
    · refine ⟨Or.inl ⟨j, hj⟩, ?_⟩
      rintro rfl
      exact hne (hk.apart j i _ _ _ hj hheld)
    · refine ⟨Or.inr ⟨job', hjob', hid, hteam⟩, ?_⟩
      rintro rfl
      exact hk.unqueued i _ _ hheld job' hjob' hid
  unfold SubmissionRepo.markSucceededAndAssignSlot at hr
  split at hr
  · cases hr
  split at hr
  · cases hr
  obtain rfl := Except.ok.inj hr
  have hmarked : (k.repo.update job.submissionId (succeededWith imageRef)).Sound registry := by
    refine hk.repo.update (fun _ => rfl) fun row hrow hid hsound => ⟨hsound.id, hsound.archive, ?_⟩
    intro imageRef' himage
    obtain rfl := Option.some.inj himage
    obtain ⟨row', hrow', hid', hteam', -⟩ := hopen.row
    obtain rfl : row' = row :=
      List.inj_on_of_nodup_map hk.repo.nodup hrow' hrow (hid'.trans hid.symm)
    change formatImageRef registry row'.teamId row'.submissionId = _
    rw [hteam', hid']
    exact hformat
  have hids : k.repo.ids ⊆ (k.repo.update job.submissionId (succeededWith imageRef)).ids := by
    rw [SubmissionRepo.ids_update (f := succeededWith imageRef) fun _ => rfl]
    exact List.Subset.refl _
  refine ⟨hk.handOn ⟨hmarked.rows, hmarked.nodup, fun id hused => ?_⟩ (by simp)
    (fun id team h => ?_) (fun _ _ hidle => by cases hidle)
    (fun j id team _ => hk.unqueued j id team) hk.nodup,
    leads_of hids (fun id hused => ?_) fun id team h => Or.inl (hawaits id team h).1⟩
  · rcases SubmissionRepo.usedInSlot_insert hused with hid | hbefore
    · obtain rfl := Option.some.inj hid
      exact hids hopen.mem_ids
    · exact hmarked.slots id hbefore
  · obtain ⟨hbefore, hne⟩ := hawaits id team h
    have hsame : (k.repo.update job.submissionId (succeededWith imageRef)).Open id team :=
      (hk.waiting id team hbefore).update (fun _ => ⟨rfl, rfl⟩) fun _ _ => Or.inr hne
    refine ⟨hsame.row, fun hused => ?_⟩
    rcases SubmissionRepo.usedInSlot_insert hused with hid | hused
    · exact hne (Option.some.inj hid).symm
    · exact hsame.unused hused
  · rcases SubmissionRepo.usedInSlot_insert hused with hid | hbefore
    · obtain rfl := Option.some.inj hid
      exact Or.inr ⟨job.teamId, Or.inl ⟨i, hheld⟩⟩
    · exact Or.inl hbefore

/-! ### Slots that are made -/

theorem usedInSlot_ensureTeamSlots {r : SubmissionRepo} :
    (r.ensureTeamSlots teamId).submissions = r.submissions ∧
      ((r.ensureTeamSlots teamId).usedInSlot submissionId → r.usedInSlot submissionId) := by
  have hslot : ∀ (r : SubmissionRepo) slotIndex, (r.ensureSlot teamId slotIndex).submissions =
      r.submissions ∧ ((r.ensureSlot teamId slotIndex).usedInSlot submissionId →
        r.usedInSlot submissionId) := by
    intro r slotIndex
    unfold SubmissionRepo.ensureSlot
    split
    · exact ⟨rfl, id⟩
    · refine ⟨rfl, fun hused => ?_⟩
      rcases SubmissionRepo.usedInSlot_insert hused with hnone | hbefore
      · cases hnone
      · exact hbefore
  unfold SubmissionRepo.ensureTeamSlots
  induction SubmissionRepo.slotIndexes generalizing r with
  | nil => exact ⟨rfl, id⟩
  | cons slotIndex slotIndexes ih =>
      obtain ⟨hsame, hused⟩ := hslot r slotIndex
      obtain ⟨hsame', hused'⟩ := ih (r := r.ensureSlot teamId slotIndex)
      exact ⟨hsame'.trans hsame, hused ∘ hused'⟩

theorem Sound.ensureTeamSlots (hk : k.Sound registry) :
    k.Keeps registry { k with repo := k.repo.ensureTeamSlots teamId } := by
  have hsame : (k.repo.ensureTeamSlots teamId).submissions = k.repo.submissions :=
    (@usedInSlot_ensureTeamSlots "" teamId k.repo).1
  have hids : (k.repo.ensureTeamSlots teamId).ids = k.repo.ids := by
    rw [SubmissionRepo.ids, hsame]
    rfl
  have hused : ∀ id, (k.repo.ensureTeamSlots teamId).usedInSlot id → k.repo.usedInSlot id :=
    fun id => usedInSlot_ensureTeamSlots.2
  refine hk.rewrite ⟨?_, ?_, fun id h => ?_⟩ ?_ hused fun id team hopen => ?_
  · rw [hsame]
    exact hk.repo.rows
  · rw [hids]
    exact hk.repo.nodup
  · rw [hids]
    exact hk.repo.slots id (hused id h)
  · rw [hids]
    exact List.Subset.refl _
  · refine ⟨?_, fun h => hopen.unused (hused id h)⟩
    rw [hsame]
    exact hopen.row

/-- A row is marked, or its image forgotten. -/
theorem Sound.updateRow (hk : k.Sound registry) {f : SubmissionRow → SubmissionRow}
    (hf : ∀ row, (f row).submissionId = row.submissionId ∧ (f row).teamId = row.teamId ∧
      (f row).archivePath = row.archivePath)
    (himage : ∀ row, (f row).imageRef = row.imageRef ∨ (f row).imageRef = none)
    (hstatus : ∀ row, row.status ≠ .succeeded → (f row).status ≠ .succeeded) :
    k.Keeps registry { k with repo := k.repo.update submissionId f } := by
  have hids : (k.repo.update submissionId f).ids = k.repo.ids :=
    SubmissionRepo.ids_update fun row => (hf row).1
  refine hk.rewrite (hk.repo.update (fun row => (hf row).1) fun row _ _ hsound => ?_) ?_
    (fun _ hused => hused) fun id team hopen => hopen.update (fun row => ⟨(hf row).1, (hf row).2.1⟩)
      fun row h => Or.inl (hstatus row h)
  · obtain ⟨hid, hteam, harchive⟩ := hf row
    refine ⟨by rw [hid]; exact hsound.id, by rw [hid, harchive]; exact hsound.archive, ?_⟩
    intro imageRef hmem
    rw [hid, hteam]
    rcases himage row with hsame | hnone
    · rw [hsame] at hmem
      exact hsound.image imageRef hmem
    · rw [hnone] at hmem
      cases hmem
  · rw [hids]
    exact List.Subset.refl _

end Care

/-! ## The care in the world -/

def care (registry : String) (w : OfficialWorld) : Care where
  custody i := (custodyProtocol registry).stageOf i w.log
  repo := w.shared.repo
  queue := w.shared.builds.queue

/-- A new id has no blanks around it. -/
def NamesClean (input : Input) : Op → Prop
  | .outside .newUuid => Text.trim input.text = input.text
  | _ => True

instance (input : Input) (op : Op) : Decidable (NamesClean input op) := by
  unfold NamesClean
  split <;> infer_instance

section Steps

variable {registry : String} {w : OfficialWorld} {i : ℕ} {op : Op} {input : Input}

theorem care_perform (w : OfficialWorld) (i : ℕ) (op : Op) (input : Input) :
    care registry (w.perform exec i op input) =
      ⟨Function.update (care registry w).custody i
        (((care registry w).custody i).next op (exec w.shared op input).2),
        (exec w.shared op input).1.repo, (exec w.shared op input).1.builds.queue⟩ := by
  have hstages := Protocol.stages_perform exec (fun _ => custodyProtocol registry) w i op input
  unfold care
  rw [hstages]
  rfl

/-- The queue changes with the calls of handlers and of the worker only. -/
theorem queue_exec (s : BuildState) {op : BuildOp} (h : (Op.build op).besideSubmissions)
    (input : Input) : (s.exec op input).1.queue = s.queue := by
  cases op with
  | enqueue | nextJob => exact h.elim
  | sendTimed eventsTx event =>
      simp only [BuildState.exec]
      split <;> rfl
  | takePump =>
      simp only [BuildState.exec, BuildState.takePump]
      split <;> rfl
  | recv eventsTx =>
      simp only [BuildState.exec]
      split <;> rfl
  | _ => rfl

/-- A call that may fail with or without effect. -/
theorem keeps_written {k : Care} {r : SubmissionRepo} (hk : k.Sound registry) (input : Input)
    (h : k.Keeps registry { k with repo := r }) :
    k.Keeps registry { k with repo := input.written k.repo r } := by
  unfold Input.written
  split
  · exact hk.keeps
  · exact h

/-- The calls that list, create and assign no submission. -/
theorem keeps_beside (hw : (care registry w).Sound registry) (hop : op.besideSubmissions) :
    (care registry w).Keeps registry (care registry (w.perform exec i op input)) := by
  have hstage : ((care registry w).custody i).next op (exec w.shared op input).2 =
      (care registry w).custody i :=
    (@permits_of_besideSubmissions registry op hop _).2 _
  rw [care_perform, hstage, Function.update_eq_self]
  cases op with
  | build op =>
      change (care registry w).Keeps registry
        ⟨_, w.shared.repo, (w.shared.builds.exec op input).1.queue⟩
      rw [queue_exec _ hop]
      exact hw.keeps
  | repo op =>
      cases op with
      | createSubmission | markSucceededAndAssignSlot | listOrphanedSucceededSubmissions =>
          exact hop.elim
      | markBuilding id =>
          exact keeps_written hw input (hw.updateRow (fun _ => ⟨rfl, rfl, rfl⟩)
            (fun _ => Or.inl rfl) fun _ _ => by simp)
      | markFailed id message =>
          exact keeps_written hw input (hw.updateRow (fun _ => ⟨rfl, rfl, rfl⟩)
            (fun _ => Or.inl rfl) fun _ _ => by simp)
      | clearImageRef id =>
          exact keeps_written hw input (hw.updateRow (fun _ => ⟨rfl, rfl, rfl⟩)
            (fun _ => Or.inr rfl) fun _ h => h)
      | ensureTeamSlots teamId => exact keeps_written hw input hw.ensureTeamSlots
      | upsertSelectedSlotIndex teamId slotIndex =>
          refine keeps_written hw input (hw.rewrite ⟨hw.repo.rows, hw.repo.nodup, hw.repo.slots⟩
            (List.Subset.refl _) (fun _ h => h) fun _ _ h => ⟨h.row, h.unused⟩)
      | _ => exact hw.keeps
  | takeMonitor which =>
      have hsame : (exec w.shared (.takeMonitor which) input).1.repo = w.shared.repo ∧
          (exec w.shared (.takeMonitor which) input).1.builds = w.shared.builds := by
        simp only [exec]
        split
        · exact ⟨rfl, rfl⟩
        · exact ⟨rfl, rfl⟩
      rw [hsame.1, hsame.2]
      exact hw.keeps
  | _ => exact hw.keeps

theorem notMem_ids {r : SubmissionRepo} {submissionId : String}
    (h : ¬ (r.find submissionId).isSome = true) : submissionId ∉ r.ids := by
  intro hmem
  obtain ⟨row, hrow, rfl⟩ := List.mem_map.mp hmem
  exact h (List.find?_isSome.mpr ⟨row, hrow, by simp⟩)

theorem keeps_createSubmission {submissionId teamId : String}
    (hw : (care registry w).Sound registry)
    (hi : (care registry w).custody i = .named submissionId) :
    (care registry w).Keeps registry (care registry
      (w.perform exec i (.repo (.createSubmission submissionId teamId submissionId)) input)) := by
  rw [care_perform]
  change (care registry w).Keeps registry ⟨Function.update _ i (Custody.next _
    (.repo (.createSubmission submissionId teamId submissionId)) (w.shared.repo.exec (.createSubmission submissionId teamId submissionId) input).2),
    (w.shared.repo.exec (.createSubmission submissionId teamId submissionId) input).1, _⟩
  simp only [SubmissionRepo.exec]
  split
  · change (care registry w).Keeps registry ⟨Function.update _ i ((care registry w).custody i), _, _⟩
    rw [Function.update_eq_self]
    exact hw.keeps
  · rename_i hfind
    have hnew : submissionId ∉ (care registry w).repo.ids := notMem_ids hfind
    unfold Input.result
    split
    · change (care registry w).Keeps registry ⟨Function.update _ i ((care registry w).custody i), _, _⟩
      rw [Function.update_eq_self]
      exact keeps_written hw input (hw.addRow (hw.named i _ hi) hnew)
    · rename_i hfails
      rw [Input.written, if_neg (by simp [hfails])]
      exact hw.create hi hnew

theorem keeps_assign {job : SubmissionBuildJob} {slotIndex : ℤ} {imageRef : String}
    (hw : (care registry w).Sound registry) (hi : (care registry w).custody i = .building job)
    (hformat : formatImageRef registry job.teamId job.submissionId = .ok imageRef) :
    (care registry w).Keeps registry (care registry (w.perform exec i
      (.repo (.markSucceededAndAssignSlot job.submissionId job.teamId slotIndex imageRef)) input)) := by
  have hsame : (care registry w).Keeps registry
      ⟨Function.update (care registry w).custody i .idle, w.shared.repo, w.shared.builds.queue⟩ :=
    hw.release (Or.inl rfl) (by simp)
  rw [care_perform]
  change (care registry w).Keeps registry ⟨Function.update _ i .idle, (w.shared.repo.exec
    (.markSucceededAndAssignSlot job.submissionId job.teamId slotIndex imageRef) input).1, _⟩
  simp only [SubmissionRepo.exec]
  split
  · exact hsame
  · rename_i r hr
    unfold Input.written
    split
    · exact hsame
    · exact hw.assign hi hformat hr

theorem keeps_perform (hw : (care registry w).Sound registry)
    (hpermits : ((care registry w).custody i).Permits registry op) (hclean : NamesClean input op) :
    (care registry w).Keeps registry (care registry (w.perform exec i op input)) := by
  cases op with
  | outside op =>
      cases op with
      | newUuid =>
          rw [care_perform]
          refine hw.release (Or.inl rfl) fun id h => ?_
          obtain rfl := Custody.named.inj h
          exact hclean
      | deleteRegistryImage imageRef | deleteArtifacts archivePath =>
          rw [care_perform]
          exact hw.release (Or.inr rfl) (hw.named i)
      | _ => exact keeps_beside hw trivial
  | build op =>
      cases op with
      | enqueue job =>
          obtain ⟨hi, -⟩ := hpermits
          rw [care_perform]
          change (care registry w).Keeps registry
            ⟨Function.update _ i .idle, _, (w.shared.builds.exec (.enqueue job) input).1.queue⟩
          simp only [BuildState.exec]
          split
          · exact hw.release (Or.inl rfl) (by simp)
          · exact hw.enqueue hi
      | nextJob =>
          rw [care_perform]
          change (care registry w).Keeps registry ⟨Function.update _ i (Custody.next _ (.build .nextJob)
            (w.shared.builds.nextJob input).2), _, (w.shared.builds.nextJob input).1.queue⟩
          unfold BuildState.nextJob
          split
          · rename_i job queue hqueue
            split
            · exact hw.stop
            · exact hw.nextJob hqueue
          · exact hw.stop
      | _ => exact keeps_beside hw trivial
  | repo op =>
      cases op with
      | createSubmission id teamId archivePath =>
          obtain ⟨hi, rfl⟩ := hpermits
          exact keeps_createSubmission hw hi
      | markSucceededAndAssignSlot id teamId slotIndex imageRef =>
          obtain ⟨job, hi, rfl, rfl, hformat⟩ := hpermits
          exact keeps_assign hw hi hformat
      | listOrphanedSucceededSubmissions teamId keep =>
          rw [care_perform]
          generalize (exec w.shared (.repo (.listOrphanedSucceededSubmissions teamId keep))
            input).2 = answer
          cases answer with
          | error e => exact hw.release (Or.inr rfl) (hw.named i)
          | ok candidates => exact hw.release (Or.inl rfl) fun id h => by cases h
      | _ => exact keeps_beside hw trivial
  | _ => exact keeps_beside hw trivial

/-! ### What is listed and deleted -/

/-- A candidate of the clean-up belongs to a submission that is gone. -/
structure Disposable (registry : String) (k : Care) (candidate : OrphanedSubmissionRecord) :
    Prop where
  gone : k.Gone candidate.submissionId
  archive : candidate.archivePath = candidate.submissionId
  id : Text.trim candidate.submissionId = candidate.submissionId
  image : ∀ imageRef ∈ candidate.imageRef, ∃ teamId,
    formatImageRef registry teamId candidate.submissionId = .ok imageRef

theorem disposable_of_orphans {k : Care} (hk : k.Sound registry) {teamId keepSubmissionId : String}
    {candidate : OrphanedSubmissionRecord}
    (h : candidate ∈ k.repo.orphans teamId keepSubmissionId) : Disposable registry k candidate := by
  obtain ⟨row, hrow, rfl⟩ := List.mem_map.mp h
  obtain ⟨hmem, hrow⟩ := List.mem_filter.mp hrow
  obtain ⟨-, hsucceeded, -, hunused⟩ := of_decide_eq_true hrow
  have hsound := hk.repo.rows row hmem
  refine ⟨⟨List.mem_map_of_mem hmem, hunused, fun team hawaits => ?_⟩, hsound.archive, hsound.id,
    fun imageRef himage => ⟨row.teamId, hsound.image imageRef himage⟩⟩
  obtain ⟨row', hrow', hid, -, hopen⟩ := (hk.waiting _ _ hawaits).row
  obtain rfl : row' = row := List.inj_on_of_nodup_map hk.repo.nodup hrow' hmem hid
  exact hopen hsucceeded

/-- The call deletes what belongs to a submission that is gone, if it deletes
anything. -/
def Deletes (registry : String) (gone : String → Prop) : Op → Prop
  | .outside (.deleteArtifacts archivePath) => gone archivePath
  | .outside (.deleteRegistryImage imageRef) => ∃ submissionId teamId, gone submissionId ∧
      Text.trim submissionId = submissionId ∧
      formatImageRef registry teamId submissionId = .ok imageRef
  | _ => True

structure CleanedUp (registry : String) (w : OfficialWorld) : Prop where
  sound : (care registry w).Sound registry
  listed : ∀ i candidates, (care registry w).custody i = .cleaning candidates →
    ∀ candidate ∈ candidates, Disposable registry (care registry w) candidate
  deleted : ∀ e ∈ w.log, Deletes registry (care registry w).Gone e.op

theorem Deletes.mono {gone gone' : String → Prop} (h : Deletes registry gone op)
    (himp : ∀ id, gone id → gone' id) : Deletes registry gone' op := by
  unfold Deletes at h ⊢
  split
  · exact himp _ h
  · obtain ⟨id, team, hgone, hrest⟩ := h
    exact ⟨id, team, himp id hgone, hrest⟩
  · trivial

/-- Only the list of the orphans makes a task start to clean up. -/
theorem cleaning_next {candidates : List OrphanedSubmissionRecord}
    (h : ((care registry w).custody i).next op (exec w.shared op input).2 = .cleaning candidates) :
    (care registry w).custody i = .cleaning candidates ∨
      ∃ teamId keepSubmissionId, candidates = w.shared.repo.orphans teamId keepSubmissionId := by
  cases op with
  | outside op =>
      cases op with
      | newUuid => cases h
      | _ => exact Or.inl h
  | build op =>
      cases op with
      | enqueue => cases h
      | nextJob =>
          generalize (exec w.shared (.build .nextJob) input).2 = answer at h
          cases answer <;> cases h
      | _ => exact Or.inl h
  | repo op =>
      cases op with
      | createSubmission id teamId archivePath =>
          generalize (exec w.shared (.repo (.createSubmission id teamId archivePath)) input).2 =
            answer at h
          cases answer with
          | error e => exact Or.inl h
          | ok _ => cases h
      | markSucceededAndAssignSlot => cases h
      | listOrphanedSucceededSubmissions teamId keep =>
          change Custody.next _ (.repo (.listOrphanedSucceededSubmissions teamId keep))
            (input.result (w.shared.repo.orphans teamId keep)) = _ at h
          unfold Input.result at h
          split at h
          · exact Or.inl h
          · exact Or.inr ⟨teamId, keep, (Custody.cleaning.inj h).symm⟩
      | _ => exact Or.inl h
  | _ => exact Or.inl h

theorem Disposable.lead {k k' : Care} {candidate : OrphanedSubmissionRecord}
    (h : Disposable registry k candidate) (hleads : k.Leads k') :
    Disposable registry k' candidate :=
  ⟨hleads _ h.gone, h.archive, h.id, h.image⟩

/-- What is permitted to be deleted has been listed. -/
theorem CleanedUp.deletes (h : CleanedUp registry w)
    (hpermits : ((care registry w).custody i).Permits registry op) :
    Deletes registry (care registry w).Gone op := by
  cases op with
  | outside op =>
      cases op with
      | deleteRegistryImage imageRef =>
          obtain ⟨candidates, hi, candidate, hmem, himage⟩ := hpermits
          have hdisposable := h.listed i candidates hi candidate hmem
          obtain ⟨teamId, hformat⟩ := hdisposable.image imageRef himage
          exact ⟨_, teamId, hdisposable.gone, hdisposable.id, hformat⟩
      | deleteArtifacts archivePath =>
          obtain ⟨candidates, hi, candidate, hmem, rfl⟩ := hpermits
          have hdisposable := h.listed i candidates hi candidate hmem
          change (care registry w).Gone candidate.archivePath
          rw [hdisposable.archive]
          exact hdisposable.gone
      | _ => trivial
  | _ => trivial

theorem CleanedUp.step (h : CleanedUp registry w)
    (hpermits : ((care registry w).custody i).Permits registry op) (hclean : NamesClean input op) :
    CleanedUp registry (w.perform exec i op input) := by
  obtain ⟨hsound, hleads⟩ := keeps_perform h.sound hpermits hclean
  refine ⟨hsound, fun j candidates hj candidate hmem => ?_, fun e he => ?_⟩
  · refine Disposable.lead ?_ hleads
    rw [care_perform] at hj
    by_cases hji : j = i
    · subst hji
      dsimp only at hj
      rw [Function.update_self] at hj
      rcases cleaning_next hj with hbefore | ⟨teamId, keep, rfl⟩
      · exact h.listed j candidates hbefore candidate hmem
      · exact disposable_of_orphans h.sound hmem
    · dsimp only at hj
      rw [Function.update_of_ne hji] at hj
      exact h.listed j candidates hj candidate hmem
  · rcases List.mem_cons.mp he with rfl | he
    · exact (h.deletes hpermits).mono hleads
    · exact (h.deleted e he).mono hleads

end Steps

/-! ## Every run -/

/-- The call deletes the image or the archive of the submission. -/
def Op.Removes (registry : String) (row : SubmissionRow) : Op → Prop
  | .outside (.deleteRegistryImage imageRef) => row.imageRef = some imageRef ∨
      formatImageRef registry row.teamId row.submissionId = .ok imageRef
  | .outside (.deleteArtifacts archivePath) => row.archivePath = archivePath
  | _ => False

/-- No slot is assigned to the submission, and there is nobody who could
still build it. -/
structure Discarded (registry : String) (w : OfficialWorld) (submissionId : String) : Prop where
  unused : ¬ w.shared.repo.usedInSlot submissionId
  unqueued : ∀ job ∈ w.shared.builds.queue, job.submissionId ≠ submissionId
  unbuilt : ∀ i job, (custodyProtocol registry).stageOf i w.log = .building job →
    job.submissionId ≠ submissionId

theorem CleanedUp.discarded {registry : String} {w : OfficialWorld} (h : CleanedUp registry w)
    {e : OfficialEntry} (he : e ∈ w.log) {row : SubmissionRow}
    (hrow : row ∈ w.shared.repo.submissions) (hremoves : e.op.Removes registry row) :
    Discarded registry w row.submissionId := by
  have hsound := h.sound.repo.rows row hrow
  have hdeletes := h.deleted e he
  have hgone : (care registry w).Gone row.submissionId := by
    unfold Op.Removes at hremoves
    split at hremoves
    · rename_i imageRef hop
      rw [hop] at hdeletes
      obtain ⟨id, teamId, hgone, hid, hformat⟩ := hdeletes
      have hown : formatImageRef registry row.teamId row.submissionId = .ok imageRef :=
        hremoves.elim (hsound.image imageRef) fun h => h
      obtain rfl := formatImageRef_inj hid hsound.id hformat hown
      exact hgone
    · rename_i archivePath hop
      rw [hop] at hdeletes
      have hpath : row.submissionId = archivePath := hsound.archive.symm.trans hremoves
      rw [hpath]
      exact hdeletes
    · exact hremoves.elim
  refine ⟨hgone.unused, fun job hjob hid => ?_, fun i job hi hid => ?_⟩
  · exact hgone.unawaited job.teamId (Or.inr ⟨job, hjob, hid, rfl⟩)
  · refine hgone.unawaited job.teamId (Or.inl ⟨i, ?_⟩)
    change ((custodyProtocol registry).stageOf i w.log).holds = _
    rw [hi, ← hid]
    rfl

theorem CleanedUp.initial {registry : String} {s : OfficialState} (hbuilds : s.builds = .empty)
    (hrepo : s.repo.Sound registry) (threads : ℕ → OfficialProg Unit) :
    CleanedUp registry (Pool.start s threads).world where
  sound := {
    repo := hrepo
    named := fun _ _ h => by cases h
    waiting := fun id team h => by
      rcases h with ⟨i, hi⟩ | ⟨job, hjob, -⟩
      · cases hi
      · change job ∈ s.builds.queue at hjob
        rw [hbuilds] at hjob
        cases hjob
    apart := fun _ _ _ _ _ h => by cases h
    unqueued := fun _ _ _ h => by cases h
    nodup := by
      change (s.builds.queue.map _).Nodup
      rw [hbuilds]
      exact List.nodup_nil }
  listed _ _ h := by cases h
  deleted _ h := by cases h

theorem pumpCommandOutput_beside (fuel : ℕ) :
    (pumpCommandOutput fuel).Uses Op.besideSubmissions := by
  have hlines : ∀ eventsTx label fuel collected,
      (pumpLines eventsTx label fuel collected).Uses Op.besideSubmissions := by
    intro eventsTx label fuel
    induction fuel with
    | zero => exact fun _ => trivial
    | succ fuel ih =>
        intro collected
        refine .call trivial fun read => ?_
        rcases read with _ | (_ | raw)
        · trivial
        · trivial
        · dsimp only
          split
          · exact ih collected
          · exact .call trivial fun _ => ih _
  refine .call trivial fun taken => ?_
  cases taken with
  | none => trivial
  | some taken =>
      refine .bind (hlines _ _ _ _) fun result => ?_
      cases result with
      | none => trivial
      | some result => exact call_beside trivial

theorem streamClient_beside (eventsTx reads : ℕ) :
    (streamClient eventsTx reads).Uses Op.besideSubmissions := by
  induction reads with
  | zero => exact call_beside trivial
  | succ reads ih =>
      refine .call trivial fun event => ?_
      cases event with
      | none => trivial
      | some event => exact ih

theorem buildThreads_custody (cfg : BuildConfig) (fuel : ℕ) {tasks : ℕ → BuildTask}
    (hothers : ∀ i p, tasks i = .other p → p.1.Uses Op.besideSubmissions) (i : ℕ) :
    (buildThreads cfg fuel tasks i).Follows (custodyProtocol cfg.registry) (fun _ _ => True)
      .idle := by
  have hbeside : ∀ {p : OfficialProg Unit}, p.Uses Op.besideSubmissions →
      p.Follows (custodyProtocol cfg.registry) (fun _ _ => True) .idle := fun hp =>
    Prog.Follows.mono (besideSubmissions_follows hp) fun _ _ _ => trivial
  cases i with
  | zero => exact submissionWorker_custody cfg fuel
  | succ i =>
      change ((tasks i).prog cfg).Follows _ _ _
      cases htask : tasks i with
      | submit req =>
          exact Prog.Follows.andThen (submitBuildStream_custody cfg req) fun _ _ _ => trivial
      | pump fuel => exact hbeside (pumpCommandOutput_beside fuel)
      | client eventsTx reads => exact hbeside (streamClient_beside eventsTx reads)
      | other p => exact hbeside (hothers i p htask)

/-- The world after some events of a run. -/
def buildWorld (cfg : BuildConfig) (fuel : ℕ) (tasks : ℕ → BuildTask) (s : OfficialState)
    (events : List (ℕ × Input)) (n : ℕ) : OfficialWorld :=
  (stateAt (Pool.step exec) (Pool.start s (buildThreads cfg fuel tasks)) events n).world

/-- Whatever the clean-up has deleted in a run belongs to submissions that
are discarded, then and ever after. What a run leaves of the repository is
sound again for the next one. -/
theorem cleanUp_removes_discarded (cfg : BuildConfig) (fuel : ℕ) (tasks : ℕ → BuildTask)
    (hothers : ∀ i p, tasks i = .other p → p.1.Uses Op.besideSubmissions)
    {s : OfficialState} (hbuilds : s.builds = .empty) (hrepo : s.repo.Sound cfg.registry)
    {events : List (ℕ × Input)}
    (hclean : Along (Pool.Guarded fun _ _ op input => NamesClean input op) (Pool.step exec)
      (Pool.start s (buildThreads cfg fuel tasks)) events) (n : ℕ) :
    (buildWorld cfg fuel tasks s events n).shared.repo.Sound cfg.registry ∧
      ∀ e ∈ (buildWorld cfg fuel tasks s events n).log,
        ∀ row ∈ (buildWorld cfg fuel tasks s events n).shared.repo.submissions,
          e.op.Removes cfg.registry row →
            Discarded cfg.registry (buildWorld cfg fuel tasks s events n) row.submissionId := by
  have hfollowed : (Pool.start s (buildThreads cfg fuel tasks)).FollowedBy
      (fun _ => custodyProtocol cfg.registry) fun _ _ => True :=
    buildThreads_custody cfg fuel hothers
  have hstart : CleanedUp cfg.registry (Pool.start s (buildThreads cfg fuel tasks)).world :=
    CleanedUp.initial hbuilds hrepo _
  have hinv : CleanedUp cfg.registry (buildWorld cfg fuel tasks s events n) :=
    hfollowed.invariant (fun _ _ _ _ hw hclean hpermits => hw.step hpermits hclean) hstart hclean n
  exact ⟨hinv.sound.repo, fun e he row hrow hremoves => hinv.discarded he hrow hremoves⟩

/-! ### A slot that is built anew -/

namespace Rebuilt

open OneBuild

/-- The slot still has the submission of an earlier run. -/
def state : OfficialState :=
  { OfficialState.initial works.runtime with
    repo := ⟨[⟨"s0", "s1", .succeeded, some "registry/ha3/team-s1:submission-s0", "s0"⟩],
      (∅ : HashMap (String × ℤ) (Option String)).insert ("s1", 1) (some "s0"), ∅⟩ }

def tasks : ℕ → BuildTask
  | 0 => .submit req
  | _ => .pump 1

/-- A command writes nothing and succeeds. -/
def command (n : ℕ) : List (ℕ × Input) :=
  List.replicate 3 (0, works) ++ List.replicate 3 (2 * n + 2, works) ++
    List.replicate 3 (2 * n + 3, works) ++ [(0, { works with present := true })] ++
    List.replicate 2 (0, works)

def events : List (ℕ × Input) :=
  List.replicate 13 (1, works) ++ List.replicate 14 (0, works) ++
    (List.range 6).flatMap command ++ List.replicate 8 (0, works)

def world : OfficialWorld := buildWorld cfg 2 tasks state events events.length

theorem sound_state : state.repo.Sound cfg.registry where
  rows row hrow := by
    obtain rfl := List.mem_singleton.mp hrow
    refine ⟨by decide +kernel, rfl, fun imageRef himage => ?_⟩
    obtain rfl := Option.some.inj himage
    decide +kernel
  nodup := List.nodup_singleton _
  slots id hused := by
    obtain ⟨slot, hslot⟩ := SubmissionRepo.usedInSlot_iff.mp hused
    change (Finmap.insert ("s1", 1) (some "s0") (∅ : HashMap (String × ℤ) _)).lookup slot = _ at hslot
    rw [HashMap.lookup_insert_eq] at hslot
    split at hslot
    · obtain rfl := Option.some.inj (Option.some.inj hslot)
      exact List.mem_singleton_self _
    · simp at hslot

def deletions (w : OfficialWorld) : List OutsideOp :=
  w.log.filterMap fun e => match e.op with
    | .outside (.deleteArtifacts archivePath) => some (.deleteArtifacts archivePath)
    | .outside (.deleteRegistryImage imageRef) => some (.deleteRegistryImage imageRef)
    | _ => none

/-- The image and the archive of the submission that was in the slot are
deleted. -/
theorem removes_discarded :
    deletions world = [.deleteArtifacts "s0",
      .deleteRegistryImage "registry/ha3/team-s1:submission-s0"] ∧
    ∀ e ∈ world.log, ∀ row ∈ world.shared.repo.submissions, e.op.Removes cfg.registry row →
      Discarded cfg.registry world row.submissionId := by
  have hothers : ∀ i p, tasks i = .other p → p.1.Uses Op.besideSubmissions := fun i p h => by
    cases i <;> cases h
  have hclean : Along (Pool.Guarded fun _ _ op input => NamesClean input op) (Pool.step exec)
      (Pool.start state (buildThreads cfg 2 tasks)) events := by decide +kernel
  refine ⟨by decide +kernel, ?_⟩
  rw [world]
  exact (cleanUp_removes_discarded cfg 2 tasks hothers rfl sound_state hclean events.length).2

end Rebuilt

end HackArena.Official
