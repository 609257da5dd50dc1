import HackArena.Lib.Programs

/-!
# Threads that are known by their calls

The stage of a thread can be the record of all its calls. What a program has
found out by its calls is then a fact about the record, which stays a fact as
the record grows.
-/

section RecordedCalls

variable {Op : Type} {Ans : Op → Type} {α β ε ε' : Type}

/-- What is permitted may depend on all that the thread has called. -/
def Protocol.recording (thread : ℕ) (permits : List (Entry Op Ans) → Op → Prop) :
    Protocol Op Ans (List (Entry Op Ans)) where
  init := []
  next log op answer := ⟨thread, op, answer⟩ :: log
  permits

theorem Protocol.stageOf_recording (thread : ℕ) (permits : List (Entry Op Ans) → Op → Prop)
    (log : List (Entry Op Ans)) :
    (Protocol.recording thread permits).stageOf thread log = log.filter (·.thread = thread) := by
  induction log with
  | nil => rfl
  | cons e log ih =>
      rw [Protocol.stageOf, List.filter_cons, ih]
      by_cases he : e.thread = thread
      · obtain ⟨thread', op, answer⟩ := e
        obtain rfl : thread' = thread := he
        simp [Protocol.recording]
      · simp [he]

namespace Prog

variable {thread : ℕ} {permits : List (Entry Op Ans) → Op → Prop}

/-- The record only grows. -/
theorem Follows.grows {post : α → List (Entry Op Ans) → Prop} {p : Prog Op Ans α}
    {log : List (Entry Op Ans)} (h : p.Follows (Protocol.recording thread permits) post log) :
    p.Follows (Protocol.recording thread permits)
      (fun a log' => log <:+ log' ∧ post a log') log := by
  induction p generalizing log with
  | ret a => exact ⟨List.suffix_refl log, h⟩
  | call op next ih =>
      refine ⟨h.1, fun answer => Follows.mono (ih answer (h.2 answer)) fun a log' ha => ?_⟩
      exact ⟨(List.suffix_cons _ log).trans ha.1, ha.2⟩

/-- Whatever has been called before, the program makes permitted calls, and if it
comes to a value, then its record has grown to one with `post`. -/
def Finds (thread : ℕ) (permits : List (Entry Op Ans) → Op → Prop)
    (post : α → List (Entry Op Ans) → Prop) (x : ExceptT ε (Prog Op Ans) α) : Prop :=
  ∀ log, x.run.Follows (Protocol.recording thread permits)
    (Either (fun a log' => log <:+ log' ∧ post a log') fun _ _ => True) log

namespace Finds

variable {post : β → List (Entry Op Ans) → Prop} {mid : α → List (Entry Op Ans) → Prop}
  {x : ExceptT ε (Prog Op Ans) α}

/-- One part after the other: the second may use what the first has found. -/
theorem bind {f : α → ExceptT ε (Prog Op Ans) β} (h : Finds thread permits mid x)
    (hf : ∀ a log, mid a log → (f a).run.Follows (Protocol.recording thread permits)
      (Either (fun b log' => log <:+ log' ∧ post b log') fun _ _ => True) log) :
    Finds thread permits post (x >>= f) := by
  intro log
  refine Follows.bindExcept (h log) fun a log' ha => ?_
  refine Follows.mono (hf a log' ha.2) fun r log'' hr => ?_
  cases r with
  | ok b => exact ⟨ha.1.trans hr.1, hr.2⟩
  | error e => trivial

/-- What the first part has found lasts while the second goes on. -/
theorem keep {f : α → ExceptT ε (Prog Op Ans) β} (h : Finds thread permits mid x)
    (hmono : ∀ a log log', log <:+ log' → mid a log → mid a log')
    (hf : ∀ a log, mid a log → Finds thread permits (fun b log => mid a log → post b log) (f a)) :
    Finds thread permits post (x >>= f) := by
  refine h.bind fun a log ha => ?_
  refine Follows.mono (hf a log ha log) fun r log' hr => ?_
  cases r with
  | ok b => exact ⟨hr.1, hr.2 (hmono a log log' hr.1 ha)⟩
  | error e => trivial

/-- The first part finds out something that is not about the record. -/
theorem after {f : α → ExceptT ε (Prog Op Ans) β} {P : α → Prop}
    (h : Finds thread permits (fun a _ => P a) x)
    (hf : ∀ a, P a → Finds thread permits post (f a)) : Finds thread permits post (x >>= f) :=
  h.bind fun a log ha => hf a ha log

theorem mono {post' : α → List (Entry Op Ans) → Prop} (h : Finds thread permits mid x)
    (himp : ∀ a log, mid a log → post' a log) : Finds thread permits post' x := by
  intro log
  refine Follows.mono (h log) fun r log' hr => ?_
  cases r with
  | ok a => exact ⟨hr.1, himp a log' hr.2⟩
  | error e => trivial

/-- A value that is made of one that has been found. -/
theorem map {f : α → β} (h : Finds thread permits mid x)
    (hpost : ∀ a log, mid a log → post (f a) log) :
    Finds thread permits post (do Pure.pure (f (← x))) :=
  h.bind fun a log ha => ⟨List.suffix_refl log, hpost a log ha⟩

theorem pure {a : β} (h : ∀ log, post a log) :
    Finds thread permits post (Pure.pure a : ExceptT ε (Prog Op Ans) β) := by
  intro log
  exact ⟨List.suffix_refl log, h log⟩

/-- A part that makes no call. -/
theorem ofExcept {r : Except ε β} (h : ∀ b, r = .ok b → ∀ log, post b log) :
    Finds thread permits post (ExceptT.mk (Pure.pure r) : ExceptT ε (Prog Op Ans) β) := by
  intro log
  cases r with
  | error e => trivial
  | ok b => exact ⟨List.suffix_refl log, h b rfl log⟩

theorem throw {e : ε} :
    Finds thread permits post (MonadExcept.throw e : ExceptT ε (Prog Op Ans) β) :=
  fun _ => trivial

theorem orFail {p : Prog Op Ans (Except ε' β)} {f : ε' → ε}
    (h : Finds thread permits post (ExceptT.mk p)) : Finds thread permits post (p.orFail f) := by
  intro log
  refine Follows.orFail (Follows.mono (h log) fun r log' hr => ?_)
  cases r with
  | ok b => exact hr
  | error e => trivial

/-- A single call, whose error ends the program. -/
theorem asked {op : Op} {answer : Ans op → Except ε' β} {f : ε' → ε} (hop : ∀ log, permits log op)
    (hpost : ∀ r b log, answer r = .ok b → post b (⟨thread, op, r⟩ :: log)) :
    Finds thread permits post (Prog.orFail (Prog.call op fun r => .ret (answer r)) f) := by
  refine orFail fun log => ⟨hop log, fun r => ?_⟩
  change Either _ _ (answer r) (⟨thread, op, r⟩ :: log)
  cases hr : answer r with
  | ok b => exact ⟨List.suffix_cons _ _, hpost r b log hr⟩
  | error e => trivial

end Finds

end Prog

section Pools

variable {σ ι : Type} (exec : σ → (op : Op) → ι → σ × Ans op)
  {permits : ℕ → List (Entry Op Ans) → Op → Prop} {post : ℕ → α → List (Entry Op Ans) → Prop}
  {programs : ℕ → ExceptT ε (Prog Op Ans) α}

theorem Pool.start_recorded (h : ∀ i, Prog.Finds i (permits i) (post i) (programs i)) (s : σ) :
    (Pool.start s fun i => (programs i).run).FollowedBy
      (fun i => Protocol.recording i (permits i)) fun _ _ => True :=
  fun i => Prog.Follows.mono (h i []) fun _ _ _ => trivial

/-- What a thread has found when it comes to a value is a fact about its calls. -/
theorem Pool.found (h : ∀ i, Prog.Finds i (permits i) (post i) (programs i)) {s : σ}
    {events : List (ℕ × ι)} {n i : ℕ} {a : α} {p : Pool σ Op Ans (Except ε α)}
    (hp : p = GuardedRun.stateAt (Pool.step exec) (Pool.start s fun i => (programs i).run) events n)
    (hret : p.threads i = .ret (.ok a)) : post i a (p.world.log.filter (·.thread = i)) := by
  have hstart : ((Pool.start s fun i => (programs i).run).threads i).Follows
      (Protocol.recording i (permits i)) _ _ := h i []
  have hfollows := @Pool.follows_stateAt _ _ _ _ _ _ _ exec _ _ _ hstart events n
  rw [← hp, hret, Protocol.stageOf_recording] at hfollows
  exact hfollows.2

end Pools

end RecordedCalls
