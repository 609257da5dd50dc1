import HackArena.Lib.GuardedRun
import Mathlib.Logic.Function.Basic

/-!
# Programs that call a shared service

A program is a tree of calls: it makes a call, gets the answer and goes
on. Programs run alone, or as the threads of a pool in which every single
call is one step and the threads take turns in any order. A call is
executed on the shared state with an input from outside, which stands for
whatever the service itself does not determine.
-/

inductive Prog (Op : Type) (Ans : Op → Type) (α : Type) where
  | ret (a : α)
  | call (op : Op) (next : Ans op → Prog Op Ans α)

namespace Prog

variable {Op : Type} {Ans : Op → Type} {α β : Type}

def bind : Prog Op Ans α → (α → Prog Op Ans β) → Prog Op Ans β
  | ret a, f => f a
  | call op next, f => call op fun answer => (next answer).bind f

instance : Monad (Prog Op Ans) where
  pure := ret
  bind := bind

/-- The program that makes one call and returns its answer. -/
def perform (op : Op) : Prog Op Ans (Ans op) := call op ret

@[simp] theorem pure_eq (a : α) : (pure a : Prog Op Ans α) = ret a := rfl

@[simp] theorem ret_bind (a : α) (f : α → Prog Op Ans β) : ret a >>= f = f a := rfl

@[simp] theorem call_bind (op : Op) (next : Ans op → Prog Op Ans α) (f : α → Prog Op Ans β) :
    call op next >>= f = call op fun answer => next answer >>= f := rfl

@[simp] theorem perform_bind (op : Op) (f : Ans op → Prog Op Ans β) :
    perform op >>= f = call op f := rfl

/-- The value of a program that has ended. -/
def result? : Prog Op Ans α → Option α
  | ret a => some a
  | call .. => none

/-- The call that a program is about to make. -/
def next? : Prog Op Ans α → Option Op
  | ret _ => none
  | call op _ => some op

theorem eq_ret_of_result? {p : Prog Op Ans α} {a : α} (h : p.result? = some a) : p = ret a := by
  cases p with
  | ret a' =>
      obtain rfl := Option.some.inj h
      rfl
  | call op next => cases h

/-- Every call the program can make has `P`. -/
def Uses (P : Op → Prop) : Prog Op Ans α → Prop
  | ret _ => True
  | call op next => P op ∧ ∀ answer, (next answer).Uses P

theorem Uses.bind {P : Op → Prop} {p : Prog Op Ans α} {f : α → Prog Op Ans β}
    (hp : p.Uses P) (hf : ∀ a, (f a).Uses P) : (p >>= f).Uses P := by
  induction p with
  | ret a => exact hf a
  | call op next ih => exact ⟨hp.1, fun answer => ih answer (hp.2 answer)⟩

theorem Uses.call {P : Op → Prop} {op : Op} {f : Ans op → Prog Op Ans β} (hop : P op)
    (hf : ∀ answer, (f answer).Uses P) : (perform op >>= f).Uses P := ⟨hop, hf⟩

theorem Uses.mono {P Q : Op → Prop} {p : Prog Op Ans α} (h : p.Uses P)
    (himp : ∀ op, P op → Q op) : p.Uses Q := by
  induction p with
  | ret a => trivial
  | call op next ih => exact ⟨himp op h.1, fun answer => ih answer (h.2 answer)⟩

/-- The program with its calls among those of a larger service. -/
def embed {Op' : Type} {Ans' : Op' → Type} (f : Op → Op') (g : ∀ op, Ans' (f op) → Ans op) :
    Prog Op Ans α → Prog Op' Ans' α
  | ret a => ret a
  | call op next => call (f op) fun answer => (next (g op answer)).embed f g

/-! ## Programs that run alone -/

variable {σ ι : Type} (exec : σ → (op : Op) → ι → σ × Ans op)

/-- Run without interruption; the `n`-th call gets the `n`-th input. -/
def run : Prog Op Ans α → (ℕ → ι) → σ → σ × α
  | ret a, _, s => (s, a)
  | call op next, inputs, s =>
      let r := exec s op (inputs 0)
      (next r.2).run (fun n => inputs (n + 1)) r.1

/-- The second part of a program gets the inputs that the first has
left. -/
theorem run_bind (p : Prog Op Ans α) (f : α → Prog Op Ans β) (inputs : ℕ → ι) (s : σ) :
    ∃ k, (p >>= f).run exec inputs s =
      (f (p.run exec inputs s).2).run exec (fun n => inputs (n + k)) (p.run exec inputs s).1 := by
  induction p generalizing inputs s with
  | ret a => exact ⟨0, rfl⟩
  | call op next ih =>
      obtain ⟨k, hk⟩ := ih (exec s op (inputs 0)).2 (fun n => inputs (n + 1))
        (exec s op (inputs 0)).1
      exact ⟨k + 1, hk⟩

/-- The calls that the program makes when it runs. -/
def calls : Prog Op Ans α → (ℕ → ι) → σ → List Op
  | ret _, _, _ => []
  | call op next, inputs, s =>
      let r := exec s op (inputs 0)
      op :: (next r.2).calls (fun n => inputs (n + 1)) r.1

theorem calls_bind (p : Prog Op Ans α) (f : α → Prog Op Ans β) (inputs : ℕ → ι) (s : σ) :
    ∃ k, (p >>= f).calls exec inputs s = p.calls exec inputs s ++
      (f (p.run exec inputs s).2).calls exec (fun n => inputs (n + k))
        (p.run exec inputs s).1 := by
  induction p generalizing inputs s with
  | ret a => exact ⟨0, rfl⟩
  | call op next ih =>
      obtain ⟨k, hk⟩ := ih (exec s op (inputs 0)).2 (fun n => inputs (n + 1))
        (exec s op (inputs 0)).1
      exact ⟨k + 1, congrArg (List.cons op) hk⟩

theorem Uses.calls {P : Op → Prop} {p : Prog Op Ans α} (h : p.Uses P) (inputs : ℕ → ι) (s : σ) :
    ∀ op ∈ p.calls exec inputs s, P op := by
  induction p generalizing inputs s with
  | ret a => exact nofun
  | call op next ih => exact List.forall_mem_cons.mpr ⟨h.1, ih _ (h.2 _) _ _⟩

/-- Whatever the inputs, the program ends in a state with `post`. -/
def Ensures (post : α → σ → Prop) : Prog Op Ans α → σ → Prop
  | ret a, s => post a s
  | call op next, s => ∀ input,
      (next (exec s op input).2).Ensures post (exec s op input).1

/-- Whatever the inputs, the program makes only calls with `Q`. -/
def Makes (Q : Op → Prop) : Prog Op Ans α → σ → Prop
  | ret _, _ => True
  | call op next, s => Q op ∧ ∀ input,
      (next (exec s op input).2).Makes Q (exec s op input).1

variable {exec}

theorem Ensures.run {post : α → σ → Prop} {p : Prog Op Ans α} {s : σ}
    (h : p.Ensures exec post s) (inputs : ℕ → ι) :
    post (p.run exec inputs s).2 (p.run exec inputs s).1 := by
  induction p generalizing s inputs with
  | ret a => exact h
  | call op next ih => exact ih _ (h (inputs 0)) _

theorem ensures_trivial (p : Prog Op Ans α) (s : σ) : p.Ensures exec (fun _ _ => True) s := by
  induction p generalizing s with
  | ret a => trivial
  | call op next ih => exact fun input => ih _ _

theorem Ensures.call {post : β → σ → Prop} {op : Op} {f : Ans op → Prog Op Ans β} {s : σ}
    (h : ∀ input, (f (exec s op input).2).Ensures exec post (exec s op input).1) :
    (perform op >>= f).Ensures exec post s := h

/-- A call that keeps `I`, and of whose answer nothing is kept. -/
theorem Ensures.keep {post : β → σ → Prop} {I : σ → Prop} {op : Op} {f : Ans op → Prog Op Ans β}
    {s : σ} (hs : I s) (hop : ∀ input, I s → I (exec s op input).1)
    (h : ∀ answer t, I t → (f answer).Ensures exec post t) :
    (perform op >>= f).Ensures exec post s :=
  .call fun input => h _ _ (hop input hs)

/-- What every call of the program keeps. -/
theorem Uses.ensures {P : Op → Prop} {I : σ → Prop} {p : Prog Op Ans α} (h : p.Uses P)
    (hP : ∀ op, P op → ∀ s input, I s → I (exec s op input).1) {s : σ} (hs : I s) :
    p.Ensures exec (fun _ => I) s := by
  induction p generalizing s with
  | ret a => exact hs
  | call op next ih => exact fun input => ih _ (h.2 _) (hP op h.1 s input hs)

theorem Ensures.mono {post post' : α → σ → Prop} {p : Prog Op Ans α} {s : σ}
    (h : p.Ensures exec post s) (himp : ∀ a t, post a t → post' a t) :
    p.Ensures exec post' s := by
  induction p generalizing s with
  | ret a => exact himp a s h
  | call op next ih => exact fun input => ih _ (h input)

theorem Ensures.bind {post : β → σ → Prop} {p : Prog Op Ans α} {f : α → Prog Op Ans β} {s : σ}
    (h : p.Ensures exec (fun a t => (f a).Ensures exec post t) s) :
    (p >>= f).Ensures exec post s := by
  induction p generalizing s with
  | ret a => exact h
  | call op next ih => exact fun input => ih _ (h input)

/-- What every call keeps is still there at the end. -/
theorem Ensures.frame {post : α → σ → Prop} {I : σ → Prop} {p : Prog Op Ans α} {s : σ}
    (h : p.Ensures exec post s) (hI : ∀ s op input, I s → I (exec s op input).1) (hs : I s) :
    p.Ensures exec (fun a t => post a t ∧ I t) s := by
  induction p generalizing s with
  | ret a => exact ⟨h, hs⟩
  | call op next ih => exact fun input => ih _ (h input) (hI s op input hs)

/-- A first part that leaves some view of the state as it is. -/
theorem Ensures.same {post : β → σ → Prop} {V : Type} {view : σ → V} {P : Op → Prop}
    {p : Prog Op Ans α} {f : α → Prog Op Ans β} {s : σ}
    (hP : ∀ op, P op → ∀ s input, view (exec s op input).1 = view s) (hp : p.Uses P)
    (h : ∀ a t, view t = view s → (f a).Ensures exec post t) : (p >>= f).Ensures exec post s := by
  refine .bind (.mono (hp.ensures (I := fun t => view t = view s) ?_ rfl) h)
  intro op hop t input ht
  rw [hP op hop, ht]

section Makes

variable {Q : Op → Prop}

theorem Makes.calls {p : Prog Op Ans α} {s : σ} (h : p.Makes exec Q s) (inputs : ℕ → ι) :
    ∀ op ∈ p.calls exec inputs s, Q op := by
  induction p generalizing s inputs with
  | ret a => exact nofun
  | call op next ih => exact List.forall_mem_cons.mpr ⟨h.1, ih _ (h.2 (inputs 0)) _⟩

theorem Makes.call {op : Op} {f : Ans op → Prog Op Ans β} {s : σ} (hop : Q op)
    (h : ∀ input, (f (exec s op input).2).Makes exec Q (exec s op input).1) :
    (perform op >>= f).Makes exec Q s := ⟨hop, h⟩

theorem Uses.makes {p : Prog Op Ans α} (h : p.Uses Q) (s : σ) : p.Makes exec Q s := by
  induction p generalizing s with
  | ret a => trivial
  | call op next ih => exact ⟨h.1, fun input => ih _ (h.2 _) _⟩

/-- The second part of a program starts where the first ends. -/
theorem Makes.bind {post : α → σ → Prop} {p : Prog Op Ans α} {f : α → Prog Op Ans β} {s : σ}
    (hp : p.Makes exec Q s) (hpost : p.Ensures exec post s)
    (hf : ∀ a t, post a t → (f a).Makes exec Q t) : (p >>= f).Makes exec Q s := by
  induction p generalizing s with
  | ret a => exact hf a s hpost
  | call op next ih => exact ⟨hp.1, fun input => ih _ (hp.2 input) (hpost input)⟩

end Makes

/-! ### Runs that are stopped -/

variable (exec)

/-- The state when the program is stopped after some calls. -/
def stopped : Prog Op Ans α → (calls : ℕ) → (ℕ → ι) → σ → σ
  | ret _, _, _, s => s
  | call .., 0, _, s => s
  | call op next, calls + 1, inputs, s =>
      let r := exec s op (inputs 0)
      (next r.2).stopped calls (fun n => inputs (n + 1)) r.1

/-- Wherever the program is stopped, it is in a state with `I`. -/
def Along (I : σ → Prop) : Prog Op Ans α → σ → Prop
  | ret _, s => I s
  | call op next, s => I s ∧ ∀ input, (next (exec s op input).2).Along I (exec s op input).1

variable {exec}

theorem Along.stopped {I : σ → Prop} {p : Prog Op Ans α} {s : σ} (h : p.Along exec I s)
    (calls : ℕ) (inputs : ℕ → ι) : I (p.stopped exec calls inputs s) := by
  induction p generalizing s calls inputs with
  | ret a => exact h
  | call op next ih =>
      cases calls with
      | zero => exact h.1
      | succ calls => exact ih _ (h.2 (inputs 0)) calls _

/-! ### Runs whose calls go a certain way -/

variable (exec)

/-- Every call of the run has `G`, in its state and with its input. -/
def Meets (G : σ → Op → ι → Prop) : Prog Op Ans α → (ℕ → ι) → σ → Prop
  | ret _, _, _ => True
  | call op next, inputs, s =>
      let r := exec s op (inputs 0)
      G s op (inputs 0) ∧ (next r.2).Meets G (fun n => inputs (n + 1)) r.1

instance decidableMeets {G : σ → Op → ι → Prop} [∀ s op input, Decidable (G s op input)] :
    (p : Prog Op Ans α) → (inputs : ℕ → ι) → (s : σ) → Decidable (p.Meets exec G inputs s)
  | ret _, _, _ => .isTrue trivial
  | call op next, inputs, s =>
      @instDecidableAnd _ _ inferInstance
        (decidableMeets (next (exec s op (inputs 0)).2) (fun n => inputs (n + 1))
          (exec s op (inputs 0)).1)

theorem meets_of_forall {G : σ → Op → ι → Prop} {inputs : ℕ → ι}
    (h : ∀ s op n, G s op (inputs n)) (p : Prog Op Ans α) (s : σ) : p.Meets exec G inputs s := by
  induction p generalizing s inputs with
  | ret a => trivial
  | call op next ih => exact ⟨h s op 0, ih _ (fun s op n => h s op (n + 1)) _⟩

/-- What every call with `Q` and `G` keeps is kept by a run of them. -/
theorem Makes.keeps {G : σ → Op → ι → Prop} {Q : Op → Prop} {I : σ → Prop}
    (hI : ∀ s op input, Q op → G s op input → I s → I (exec s op input).1)
    {p : Prog Op Ans α} {s : σ} {inputs : ℕ → ι} (hp : p.Makes exec Q s)
    (hG : p.Meets exec G inputs s) (hs : I s) : I (p.run exec inputs s).1 := by
  induction p generalizing s inputs with
  | ret a => exact hs
  | call op next ih =>
      exact ih _ (hp.2 (inputs 0)) hG.2 (hI s op (inputs 0) hp.1 hG.1 hs)

/-- As long as every call has `G`, the program ends in a state with `post`. -/
def EnsuresGiven (G : σ → Op → ι → Prop) (post : α → σ → Prop) : Prog Op Ans α → σ → Prop
  | ret a, s => post a s
  | call op next, s => ∀ input, G s op input →
      (next (exec s op input).2).EnsuresGiven G post (exec s op input).1

/-- As long as every call has `G`, the program ends with `post` exactly when
every call has `H` too. -/
def Decides (G H : σ → Op → ι → Prop) (post : α → σ → Prop) : Prog Op Ans α → σ → Prop
  | ret a, s => post a s
  | call op next, s => ∀ input, G s op input →
      (H s op input → (next (exec s op input).2).Decides G H post (exec s op input).1) ∧
      (¬ H s op input → (next (exec s op input).2).EnsuresGiven exec G
        (fun a t => ¬ post a t) (exec s op input).1)

section Decides

variable {exec} {G H : σ → Op → ι → Prop} {post : α → σ → Prop}

theorem EnsuresGiven.run {p : Prog Op Ans α} {s : σ} (h : p.EnsuresGiven exec G post s)
    {inputs : ℕ → ι} (hG : p.Meets exec G inputs s) :
    post (p.run exec inputs s).2 (p.run exec inputs s).1 := by
  induction p generalizing s inputs with
  | ret a => exact h
  | call op next ih => exact ih _ (h (inputs 0) hG.1) hG.2

theorem EnsuresGiven.bind {f : α → Prog Op Ans β} {post : β → σ → Prop} {p : Prog Op Ans α}
    {s : σ} (h : p.EnsuresGiven exec G (fun a t => (f a).EnsuresGiven exec G post t) s) :
    (p >>= f).EnsuresGiven exec G post s := by
  induction p generalizing s with
  | ret a => exact h
  | call op next ih => exact fun input hG => ih _ (h input hG)

theorem EnsuresGiven.mono {post post' : α → σ → Prop} {p : Prog Op Ans α} {s : σ}
    (h : p.EnsuresGiven exec G post s) (himp : ∀ a t, post a t → post' a t) :
    p.EnsuresGiven exec G post' s := by
  induction p generalizing s with
  | ret a => exact himp a s h
  | call op next ih => exact fun input hG => ih _ (h input hG)

/-- A call that succeeds as far as `G` says so. -/
theorem EnsuresGiven.call {post : β → σ → Prop} {op : Op} {f : Ans op → Prog Op Ans β} {s : σ}
    (h : ∀ input, G s op input →
      (f (exec s op input).2).EnsuresGiven exec G post (exec s op input).1) :
    (perform op >>= f).EnsuresGiven exec G post s := h

theorem Decides.run {p : Prog Op Ans α} {s : σ} (h : p.Decides exec G H post s)
    {inputs : ℕ → ι} (hG : p.Meets exec G inputs s) :
    post (p.run exec inputs s).2 (p.run exec inputs s).1 ↔ p.Meets exec H inputs s := by
  induction p generalizing s inputs with
  | ret a => exact iff_of_true h trivial
  | call op next ih =>
      obtain ⟨hpassed, hfailed⟩ := h (inputs 0) hG.1
      by_cases hH : H s op (inputs 0)
      · exact (ih _ (hpassed hH) hG.2).trans (and_iff_right hH).symm
      · exact iff_of_false ((hfailed hH).run hG.2) fun hmeets => hH hmeets.1

/-- A single call. -/
theorem decides_perform {op : Op} {post : Ans op → σ → Prop} {s : σ} (h : ∀ input, G s op input →
      (post (exec s op input).2 (exec s op input).1 ↔ H s op input)) :
    (perform op).Decides exec G H post s :=
  fun input hG => ⟨(h input hG).mpr, fun hH hpost => hH ((h input hG).mp hpost)⟩

/-- A call that has `H` whatever its input. -/
theorem Decides.pass {op : Op} {f : Ans op → Prog Op Ans α} {s : σ}
    (hH : ∀ input, H s op input) (h : ∀ input, G s op input →
      (f (exec s op input).2).Decides exec G H post (exec s op input).1) :
    (perform op >>= f).Decides exec G H post s :=
  fun input hG => ⟨fun _ => h input hG, fun hfailed => absurd (hH input) hfailed⟩

/-- A first part that keeps `I` and of which every call has `H`. -/
theorem Decides.after {P : Op → Prop} {I : σ → Prop} {p : Prog Op Ans β}
    {f : β → Prog Op Ans α} (hp : p.Uses P)
    (hP : ∀ op, P op → ∀ s input, I s → H s op input ∧ I (exec s op input).1) {s : σ}
    (hs : I s) (hf : ∀ b t, I t → (f b).Decides exec G H post t) :
    (p >>= f).Decides exec G H post s := by
  induction p generalizing s with
  | ret b => exact hf b s hs
  | call op next ih =>
      exact .pass (fun input => (hP op hp.1 s input hs).1) fun input _ =>
        ih _ (hp.2 _) (hP op hp.1 s input hs).2

/-- A first part of which every call has `H` in any state, and which ends in
the right way as far as `G` says so. -/
theorem Decides.afterGiven {p : Prog Op Ans β} {f : β → Prog Op Ans α} {s : σ}
    (hp : p.Uses fun op => ∀ t input, H t op input)
    (h : p.EnsuresGiven exec G (fun b t => (f b).Decides exec G H post t) s) :
    (p >>= f).Decides exec G H post s := by
  induction p generalizing s with
  | ret b => exact h
  | call op next ih => exact .pass (hp.1 s) fun input hG => ih _ (hp.2 _) (h input hG)

/-- What a first part decides goes on to decide the whole. -/
theorem Decides.bind {mid : β → σ → Prop} {I : σ → Prop} {p : Prog Op Ans β}
    {f : β → Prog Op Ans α} {s : σ} (hp : p.Decides exec G H mid s)
    (hI : p.Ensures exec (fun _ => I) s)
    (hyes : ∀ b t, I t → mid b t → (f b).Decides exec G H post t)
    (hno : ∀ b t, ¬ mid b t → (f b).EnsuresGiven exec G (fun a t => ¬ post a t) t) :
    (p >>= f).Decides exec G H post s := by
  induction p generalizing s with
  | ret b => exact hyes b s hI hp
  | call op next ih =>
      intro input hG
      obtain ⟨hpassed, hfailed⟩ := hp input hG
      exact ⟨fun hH => ih _ (hpassed hH) (hI input), fun hH => .bind ((hfailed hH).mono hno)⟩

end Decides

end Prog

/-! ## Pools of threads -/

/-- A call that has been made. -/
structure Entry (Op : Type) (Ans : Op → Type) where
  thread : ℕ
  op : Op
  answer : Ans op

/-- The shared state, with the calls made so far, the latest first. -/
structure World (σ Op : Type) (Ans : Op → Type) where
  shared : σ
  log : List (Entry Op Ans)

structure Pool (σ Op : Type) (Ans : Op → Type) (α : Type) where
  world : World σ Op Ans
  threads : ℕ → Prog Op Ans α

section Pools

variable {Op : Type} {Ans : Op → Type} {α β σ ι : Type}
variable (exec : σ → (op : Op) → ι → σ × Ans op)

def World.perform (w : World σ Op Ans) (thread : ℕ) (op : Op) (input : ι) : World σ Op Ans :=
  ⟨(exec w.shared op input).1, ⟨thread, op, (exec w.shared op input).2⟩ :: w.log⟩

/-- A call of the only thread, with its record. -/
def World.record (w : World σ Op Ans) (op : Op) (input : ι) : World σ Op Ans × Ans op :=
  (w.perform exec 0 op input, (exec w.shared op input).2)

/-- A pool before its first step. -/
def Pool.start (s : σ) (threads : ℕ → Prog Op Ans α) : Pool σ Op Ans α := ⟨⟨s, []⟩, threads⟩

/-- One thread makes its next call; a finished thread does nothing. -/
def Pool.step (p : Pool σ Op Ans α) (event : ℕ × ι) : Pool σ Op Ans α :=
  match p.threads event.1 with
  | .ret _ => p
  | .call op next =>
      { world := p.world.perform exec event.1 op event.2
        threads := Function.update p.threads event.1
          (next (exec p.world.shared op event.2).2) }

/-- `G` holds of the call that the event lets its thread make. -/
def Pool.Guarded (G : World σ Op Ans → ℕ → Op → ι → Prop) (p : Pool σ Op Ans α)
    (event : ℕ × ι) : Prop :=
  match p.threads event.1 with
  | .ret _ => True
  | .call op _ => G p.world event.1 op event.2

instance Pool.decidableGuarded {G : World σ Op Ans → ℕ → Op → ι → Prop}
    [∀ w i op input, Decidable (G w i op input)] (p : Pool σ Op Ans α) (event : ℕ × ι) :
    Decidable (Pool.Guarded G p event) :=
  match h : p.threads event.1 with
  | .ret _ => .isTrue (by rw [Pool.Guarded, h]; trivial)
  | .call op _ => decidable_of_iff (G p.world event.1 op event.2) (by rw [Pool.Guarded, h])

theorem Pool.guarded_and {G H : World σ Op Ans → ℕ → Op → ι → Prop} {p : Pool σ Op Ans α}
    {event : ℕ × ι} (hG : Pool.Guarded G p event) (hH : Pool.Guarded H p event) :
    Pool.Guarded (fun w i op input => G w i op input ∧ H w i op input) p event := by
  unfold Pool.Guarded at hG hH ⊢
  split
  · trivial
  · rename_i hcall
    rw [hcall] at hG hH
    exact ⟨hG, hH⟩

theorem Pool.along_free (p : Pool σ Op Ans α) (events : List (ℕ × ι)) :
    GuardedRun.Along (Pool.Guarded fun _ _ _ _ => True) (Pool.step exec) p events :=
  GuardedRun.along_of_forall fun q event => by
    unfold Pool.Guarded
    split <;> trivial

/-- Every call in the log was made in an earlier step of the run, on the log
before it. -/
theorem Pool.exists_step_of_log {p : Pool σ Op Ans α} (hp : p.world.log = [])
    {events : List (ℕ × ι)} {n : ℕ} {newer older : List (Entry Op Ans)} {e : Entry Op Ans}
    (hlog : (GuardedRun.stateAt (Pool.step exec) p events n).world.log = newer ++ e :: older) :
    ∃ m < n, ∃ input, (GuardedRun.stateAt (Pool.step exec) p events m).world.log = older ∧
      (GuardedRun.stateAt (Pool.step exec) p events (m + 1)).world =
        (GuardedRun.stateAt (Pool.step exec) p events m).world.perform exec e.thread e.op input ∧
      (exec (GuardedRun.stateAt (Pool.step exec) p events m).world.shared e.op input).2 =
        e.answer := by
  induction n generalizing newer with
  | zero =>
      rw [GuardedRun.stateAt_zero, hp] at hlog
      simp at hlog
  | succ n ih =>
      have hearlier : (GuardedRun.stateAt (Pool.step exec) p events n).world.log =
          newer ++ e :: older → ∃ m < n + 1, _ := fun h => by
        obtain ⟨m, hm, hrest⟩ := ih h
        exact ⟨m, Nat.lt_succ_of_lt hm, hrest⟩
      by_cases hn : n < events.length
      · have hsucc : GuardedRun.stateAt (Pool.step exec) p events (n + 1) =
            (GuardedRun.stateAt (Pool.step exec) p events n).step exec events[n] :=
          GuardedRun.stateAt_succ hn
        rw [hsucc, Pool.step] at hlog
        split at hlog
        · exact hearlier hlog
        · rename_i op next hprog
          cases newer with
          | nil =>
              obtain ⟨rfl, rfl⟩ := List.cons.inj hlog
              refine ⟨n, n.lt_succ_self, _, rfl, ?_, rfl⟩
              rw [hsucc, Pool.step, hprog]
          | cons e' newer =>
              obtain ⟨m, hm, hrest⟩ := ih (List.cons.inj hlog).2
              exact ⟨m, Nat.lt_succ_of_lt hm, hrest⟩
      · rw [GuardedRun.stateAt_of_length_le (by omega),
          ← GuardedRun.stateAt_of_length_le (Nat.le_of_not_lt hn)] at hlog
        exact hearlier hlog

/-- Every call in the log was made in an earlier state of the run, on the
log before it. -/
theorem Pool.exists_state_of_log {p : Pool σ Op Ans α} (hp : p.world.log = [])
    {events : List (ℕ × ι)} {n : ℕ} {newer older : List (Entry Op Ans)} {e : Entry Op Ans}
    (hlog : (GuardedRun.stateAt (Pool.step exec) p events n).world.log = newer ++ e :: older) :
    ∃ m < n, (GuardedRun.stateAt (Pool.step exec) p events m).world.log = older ∧
      ∃ input, (exec (GuardedRun.stateAt (Pool.step exec) p events m).world.shared e.op input).2 =
        e.answer := by
  obtain ⟨m, hm, input, holder, -, hanswer⟩ := Pool.exists_step_of_log exec hp hlog
  exact ⟨m, hm, holder, input, hanswer⟩

/-- The later world has further calls only, none of them by the thread. -/
def World.Others (thread : ℕ) (w w' : World σ Op Ans) : Prop :=
  ∃ new, w'.log = new ++ w.log ∧ ∀ e ∈ new, e.thread ≠ thread

theorem World.Others.refl (thread : ℕ) (w : World σ Op Ans) : World.Others thread w w :=
  ⟨[], rfl, by simp⟩

theorem World.Others.trans {thread : ℕ} {w w' w'' : World σ Op Ans}
    (h : World.Others thread w w') (h' : World.Others thread w' w'') :
    World.Others thread w w'' := by
  obtain ⟨new, hlog, hnew⟩ := h
  obtain ⟨new', hlog', hnew'⟩ := h'
  refine ⟨new' ++ new, by rw [hlog', hlog, List.append_assoc], fun e he => ?_⟩
  rcases List.mem_append.mp he with he | he
  · exact hnew' e he
  · exact hnew e he

theorem World.Others.suffix {thread : ℕ} {w w' : World σ Op Ans}
    (h : World.Others thread w w') : w.log <:+ w'.log := by
  obtain ⟨new, hlog, -⟩ := h
  exact ⟨new, hlog.symm⟩

/-- The log has grown since before the thread's last call. -/
theorem World.Others.suffix_perform {thread caller : ℕ} {w w' : World σ Op Ans} {op : Op}
    {input : ι} (h : World.Others thread (w.perform exec caller op input) w') :
    w.log <:+ w'.log :=
  (List.suffix_cons _ _).trans h.suffix

theorem Pool.log_suffix_step (p : Pool σ Op Ans α) (event : ℕ × ι) :
    p.world.log <:+ (p.step exec event).world.log := by
  unfold Pool.step
  split
  · exact List.suffix_refl _
  · exact List.suffix_cons _ _

/-- The log only grows. -/
theorem Pool.log_suffix_stateAt {p : Pool σ Op Ans α} {events : List (ℕ × ι)} {m n : ℕ}
    (hmn : m ≤ n) : (GuardedRun.stateAt (Pool.step exec) p events m).world.log <:+
      (GuardedRun.stateAt (Pool.step exec) p events n).world.log :=
  GuardedRun.stateAt_rel (R := fun q r : Pool σ Op Ans α => q.world.log <:+ r.world.log)
    (I := fun _ => True) (fun _ => List.suffix_refl _) (fun _ _ _ => List.IsSuffix.trans)
    (fun _ _ _ => trivial) (fun q event _ => Pool.log_suffix_step exec q event) trivial hmn

theorem World.others_perform {thread other : ℕ} (hne : other ≠ thread) (w : World σ Op Ans)
    (op : Op) (input : ι) : World.Others thread w (w.perform exec other op input) := by
  refine ⟨[⟨other, op, (exec w.shared op input).2⟩], rfl, fun e he => ?_⟩
  obtain rfl := List.mem_singleton.mp he
  exact hne

/-! ## Threads that keep an invariant together -/

/-- An invariant of the shared world that every permitted call keeps. The
guard is what a run is known to respect; the permission is what each
thread has to show of its own calls. -/
structure Discipline (σ Op : Type) (Ans : Op → Type) (ι : Type)
    (exec : σ → (op : Op) → ι → σ × Ans op) where
  guard : World σ Op Ans → ℕ → Op → ι → Prop
  permits : World σ Op Ans → ℕ → Op → Prop
  inv : World σ Op Ans → Prop
  kept : ∀ w thread op input, inv w → guard w thread op input → permits w thread op →
    inv (w.perform exec thread op input)

variable {exec}

/-- Whatever the other threads do in between, the program makes permitted
calls only, and it ends with `post`. -/
def Prog.Obeys (d : Discipline σ Op Ans ι exec) (thread : ℕ)
    (post : α → World σ Op Ans → Prop) : Prog Op Ans α → World σ Op Ans → Prop
  | .ret a, w => ∀ w', World.Others thread w w' → d.inv w' → post a w'
  | .call op next, w => ∀ w' input, World.Others thread w w' → d.inv w' →
      d.guard w' thread op input → d.permits w' thread op ∧
        (next (exec w'.shared op input).2).Obeys d thread post
          (w'.perform exec thread op input)

variable {d : Discipline σ Op Ans ι exec} {thread : ℕ}

theorem Prog.Obeys.others {post : α → World σ Op Ans → Prop} {p : Prog Op Ans α}
    {w w' : World σ Op Ans} (h : p.Obeys d thread post w) (hw : World.Others thread w w') :
    p.Obeys d thread post w' := by
  cases p with
  | ret a => exact fun w'' hothers => h w'' (hw.trans hothers)
  | call op next => exact fun w'' input hothers => h w'' input (hw.trans hothers)

/-- The program is made of `p` and what follows its result. -/
theorem Prog.Obeys.bind {post : β → World σ Op Ans → Prop} {p : Prog Op Ans α}
    {f : α → Prog Op Ans β} {w : World σ Op Ans}
    (h : p.Obeys d thread (fun a w' => (f a).Obeys d thread post w') w)
    (hinv : d.inv w) : (p >>= f).Obeys d thread post w := by
  induction p generalizing w with
  | ret a => exact h w (World.Others.refl thread w) hinv
  | call op next ih =>
      intro w' input hothers hinv' hguard
      obtain ⟨hpermits, hnext⟩ := h w' input hothers hinv' hguard
      exact ⟨hpermits, ih _ hnext (d.kept _ _ _ _ hinv' hguard hpermits)⟩

theorem Prog.Obeys.mono {post post' : α → World σ Op Ans → Prop} {p : Prog Op Ans α}
    {w : World σ Op Ans} (h : p.Obeys d thread post w)
    (himp : ∀ a w', d.inv w' → post a w' → post' a w') : p.Obeys d thread post' w := by
  induction p generalizing w with
  | ret a => exact fun w' hothers hinv => himp a w' hinv (h w' hothers hinv)
  | call op next ih =>
      intro w' input hothers hinv hguard
      obtain ⟨hpermits, hnext⟩ := h w' input hothers hinv hguard
      exact ⟨hpermits, ih _ hnext⟩

theorem Prog.Obeys.call {post : β → World σ Op Ans → Prop} {op : Op} {f : Ans op → Prog Op Ans β}
    {w : World σ Op Ans} (h : ∀ w' input, World.Others thread w w' → d.inv w' →
      d.guard w' thread op input → d.permits w' thread op ∧
        (f (exec w'.shared op input).2).Obeys d thread post (w'.perform exec thread op input)) :
    (Prog.perform op >>= f).Obeys d thread post w := h

/-- A call that is always permitted, and of whose world nothing is kept. -/
theorem Prog.Obeys.free {post : β → World σ Op Ans → Prop} {op : Op} {f : Ans op → Prog Op Ans β}
    (hpermits : ∀ w, d.permits w thread op)
    (hnext : ∀ answer w, d.inv w → (f answer).Obeys d thread post w)
    (w : World σ Op Ans) : (Prog.perform op >>= f).Obeys d thread post w :=
  .call fun w' _ _ hinv hguard =>
    ⟨hpermits w', hnext _ _ (d.kept _ _ _ _ hinv hguard (hpermits w'))⟩

/-- A program all of whose calls are always permitted. -/
theorem Prog.Uses.obeys {P : Op → Prop} {p : Prog Op Ans α} (h : p.Uses P)
    (hP : ∀ op, P op → ∀ w, d.permits w thread op) (w : World σ Op Ans) :
    p.Obeys d thread (fun _ _ => True) w := by
  induction p generalizing w with
  | ret a => exact fun _ _ _ => trivial
  | call op next ih => exact fun w' input _ _ _ => ⟨hP op h.1 w', ih _ (h.2 _) _⟩

/-- What lasts as the log grows is still there at the end. -/
theorem Prog.Obeys.frame {post : α → World σ Op Ans → Prop} {p : Prog Op Ans α}
    {w : World σ Op Ans} {F : World σ Op Ans → Prop}
    (hF : ∀ w w' : World σ Op Ans, w.log <:+ w'.log → F w → F w')
    (h : p.Obeys d thread post w) (hw : F w) :
    p.Obeys d thread (fun a w' => post a w' ∧ F w') w := by
  induction p generalizing w with
  | ret a => exact fun w' ho hinv => ⟨h w' ho hinv, hF w w' ho.suffix hw⟩
  | call op next ih =>
      intro w' input ho hinv hguard
      obtain ⟨hpermits, hnext⟩ := h w' input ho hinv hguard
      exact ⟨hpermits, ih _ hnext (hF w _ (ho.suffix.trans (List.suffix_cons _ _)) hw)⟩

/-- A pool whose world has the invariant and whose threads obey. -/
structure Pool.Disciplined (d : Discipline σ Op Ans ι exec)
    (post : ℕ → α → World σ Op Ans → Prop) (p : Pool σ Op Ans α) : Prop where
  inv : d.inv p.world
  obeys : ∀ i, (p.threads i).Obeys d i (post i) p.world

theorem Pool.Disciplined.step {post : ℕ → α → World σ Op Ans → Prop} {p : Pool σ Op Ans α}
    (h : p.Disciplined d post) {event : ℕ × ι} (hguard : Pool.Guarded d.guard p event) :
    (p.step exec event).Disciplined d post := by
  obtain ⟨i, input⟩ := event
  rw [Pool.Guarded] at hguard
  rw [Pool.step]
  cases hprog : p.threads i with
  | ret a => exact h
  | call op next =>
      rw [hprog] at hguard
      have hobeys := h.obeys i
      rw [hprog] at hobeys
      obtain ⟨hpermits, hnext⟩ := hobeys p.world input (World.Others.refl i _) h.inv hguard
      refine ⟨d.kept _ _ _ _ h.inv hguard hpermits, fun j => ?_⟩
      by_cases hij : j = i
      · subst hij
        simpa using hnext
      · dsimp only
        rw [Function.update_of_ne hij]
        exact (h.obeys j).others (World.others_perform exec (Ne.symm hij) p.world op input)

/-- In a guarded run the pool stays disciplined. -/
theorem Pool.Disciplined.stateAt {post : ℕ → α → World σ Op Ans → Prop} {p : Pool σ Op Ans α}
    (h : p.Disciplined d post) {events : List (ℕ × ι)}
    (hguard : GuardedRun.Along (Pool.Guarded d.guard) (Pool.step exec) p events) (n : ℕ) :
    (GuardedRun.stateAt (Pool.step exec) p events n).Disciplined d post :=
  hguard.invariant_at (fun _ _ hp hg => hp.step hg) h n

/-- In a guarded run every call is a permitted one. -/
theorem Pool.Disciplined.along {post : ℕ → α → World σ Op Ans → Prop} {p : Pool σ Op Ans α}
    (h : p.Disciplined d post) {events : List (ℕ × ι)}
    (hguard : GuardedRun.Along (Pool.Guarded d.guard) (Pool.step exec) p events) :
    GuardedRun.Along (Pool.Guarded fun w thread op _ => d.permits w thread op) (Pool.step exec) p
      events := by
  refine hguard.of_invariant (I := fun q => q.Disciplined d post) (fun _ _ hq hg => hq.step hg)
    (fun q event hq hg => ?_) h
  have hobeys := hq.obeys event.1
  rw [Pool.Guarded] at hg ⊢
  cases hprog : q.threads event.1 with
  | ret a => trivial
  | call op next =>
      rw [hprog] at hg hobeys
      exact (hobeys q.world event.2 (World.Others.refl _ _) hq.inv hg).1

/-- What a finished thread has established. -/
theorem Pool.Disciplined.post {post : ℕ → α → World σ Op Ans → Prop} {p : Pool σ Op Ans α}
    (h : p.Disciplined d post) {i : ℕ} {a : α} (hret : p.threads i = .ret a) :
    post i a p.world := by
  have hobeys := h.obeys i
  rw [hret] at hobeys
  exact hobeys p.world (World.Others.refl i _) h.inv

end Pools

/-! ## Protocols

What a thread has called so far puts it into a stage, and the stage says
what it may call next. Whether a program keeps to a protocol can be seen
from the program alone. -/

structure Protocol (Op : Type) (Ans : Op → Type) (S : Type) where
  init : S
  next : S → (op : Op) → Ans op → S
  permits : S → Op → Prop

section Protocols

variable {Op : Type} {Ans : Op → Type} {α β σ ι S : Type}

/-- The stage that a thread's own calls have led to. -/
def Protocol.stageOf (P : Protocol Op Ans S) (thread : ℕ) : List (Entry Op Ans) → S
  | [] => P.init
  | e :: log =>
      if e.thread = thread then P.next (P.stageOf thread log) e.op e.answer
      else P.stageOf thread log

/-- A thread that has made no call is where it began. -/
theorem Protocol.stageOf_of_unseen (P : Protocol Op Ans S) {thread : ℕ}
    {log : List (Entry Op Ans)} (h : ∀ e ∈ log, e.thread ≠ thread) : P.stageOf thread log = P.init := by
  induction log with
  | nil => rfl
  | cons e log ih =>
      rw [Protocol.stageOf, if_neg (h e List.mem_cons_self)]
      exact ih fun e' he' => h e' (List.mem_cons_of_mem e he')

/-- From the stage on, the program makes permitted calls only and ends
with `post`. -/
def Prog.Follows (P : Protocol Op Ans S) (post : α → S → Prop) : Prog Op Ans α → S → Prop
  | .ret a, s => post a s
  | .call op next, s => P.permits s op ∧ ∀ answer, (next answer).Follows P post (P.next s op answer)

variable {P : Protocol Op Ans S}

theorem Prog.Follows.bind {post : β → S → Prop} {p : Prog Op Ans α} {f : α → Prog Op Ans β} {s : S}
    (h : p.Follows P (fun a s' => (f a).Follows P post s') s) : (p >>= f).Follows P post s := by
  induction p generalizing s with
  | ret a => exact h
  | call op next ih => exact ⟨h.1, fun answer => ih answer (h.2 answer)⟩

theorem Prog.Follows.mono {post post' : α → S → Prop} {p : Prog Op Ans α} {s : S}
    (h : p.Follows P post s) (himp : ∀ a s', post a s' → post' a s') : p.Follows P post' s := by
  induction p generalizing s with
  | ret a => exact himp a s h
  | call op next ih => exact ⟨h.1, fun answer => ih answer (h.2 answer)⟩

/-- What `p` ends with is where the rest of the program begins. -/
theorem Prog.Follows.andThen {post : α → S → Prop} {post' : β → S → Prop} {p : Prog Op Ans α}
    {f : α → Prog Op Ans β} {s : S} (h : p.Follows P post s)
    (hf : ∀ a s', post a s' → (f a).Follows P post' s') : (p >>= f).Follows P post' s :=
  .bind (Prog.Follows.mono h hf)

theorem Prog.Follows.call {post : β → S → Prop} {op : Op} {f : Ans op → Prog Op Ans β} {s : S}
    (hop : P.permits s op) (hf : ∀ answer, (f answer).Follows P post (P.next s op answer)) :
    (Prog.perform op >>= f).Follows P post s := ⟨hop, hf⟩

/-- A protocol of the larger service that grants what the protocol grants. -/
theorem Prog.Follows.embed {Op' : Type} {Ans' : Op' → Type} {P' : Protocol Op' Ans' S}
    {f : Op → Op'} {g : ∀ op, Ans' (f op) → Ans op} {post : α → S → Prop} {p : Prog Op Ans α} {s : S}
    (h : p.Follows P post s) (hpermits : ∀ s op, P.permits s op → P'.permits s (f op))
    (hnext : ∀ s op answer, P'.next s (f op) answer = P.next s op (g op answer)) :
    (p.embed f g).Follows P' post s := by
  induction p generalizing s with
  | ret a => exact h
  | call op next ih =>
      refine ⟨hpermits s op h.1, fun answer => ?_⟩
      rw [hnext]
      exact ih _ (h.2 _)

/-- What every permitted call keeps for the stage, wherever the program is
stopped. -/
theorem Prog.Follows.along {exec : σ → (op : Op) → ι → σ × Ans op} {I : S → σ → Prop}
    {J : σ → Prop} {post : α → S → Prop} {p : Prog Op Ans α} {stage : S}
    (h : p.Follows P post stage)
    (hstep : ∀ stage s op input, I stage s → P.permits stage op →
      I (P.next stage op (exec s op input).2) (exec s op input).1)
    (hI : ∀ stage s, I stage s → J s) {s : σ} (hs : I stage s) : p.Along exec J s := by
  induction p generalizing stage s with
  | ret a => exact hI stage s hs
  | call op next ih =>
      exact ⟨hI stage s hs, fun input => ih _ (h.2 _) (hstep stage s op input hs h.1)⟩

/-- A program none of whose calls leaves the stage. -/
theorem Prog.Uses.follows {Q : Op → Prop} {p : Prog Op Ans α} (h : p.Uses Q) {s : S}
    (hQ : ∀ op, Q op → P.permits s op ∧ ∀ answer, P.next s op answer = s) :
    p.Follows P (fun _ s' => s' = s) s := by
  induction p with
  | ret a => rfl
  | call op next ih =>
      refine ⟨(hQ op h.1).1, fun answer => ?_⟩
      rw [(hQ op h.1).2 answer]
      exact ih answer (h.2 answer)

/-- A program all of whose calls keep what holds of the stage. -/
theorem Prog.Uses.follows_keeping {Q : Op → Prop} {I : S → Prop} {p : Prog Op Ans α}
    (h : p.Uses Q) (hQ : ∀ op s, Q op → I s → P.permits s op ∧ ∀ answer, I (P.next s op answer))
    {s : S} (hs : I s) : p.Follows P (fun _ => I) s := by
  induction p generalizing s with
  | ret a => exact hs
  | call op next ih =>
      obtain ⟨hpermits, hnext⟩ := hQ op s h.1 hs
      exact ⟨hpermits, fun answer => ih answer (h.2 answer) (hnext answer)⟩

variable (exec : σ → (op : Op) → ι → σ × Ans op)

theorem Protocol.stageOf_perform_self (P : Protocol Op Ans S) (w : World σ Op Ans) (thread : ℕ)
    (op : Op) (input : ι) : P.stageOf thread (w.perform exec thread op input).log =
      P.next (P.stageOf thread w.log) op (exec w.shared op input).2 := by
  simp [World.perform, Protocol.stageOf]

theorem Protocol.stageOf_perform_ne (P : Protocol Op Ans S) (w : World σ Op Ans)
    {thread other : ℕ} (hne : other ≠ thread) (op : Op) (input : ι) :
    P.stageOf other (w.perform exec thread op input).log = P.stageOf other w.log := by
  simp [World.perform, Protocol.stageOf, hne.symm]

/-- A call changes the stage of its thread only. -/
theorem Protocol.stages_perform (P : ℕ → Protocol Op Ans S) (w : World σ Op Ans) (i : ℕ) (op : Op)
    (input : ι) : (fun j => (P j).stageOf j (w.perform exec i op input).log) =
      Function.update (fun j => (P j).stageOf j w.log) i
        ((P i).next ((P i).stageOf i w.log) op (exec w.shared op input).2) := by
  funext j
  by_cases hj : j = i
  · subst hj
    rw [Function.update_self]
    exact Protocol.stageOf_perform_self exec (P j) w j op input
  · rw [Function.update_of_ne hj]
    exact Protocol.stageOf_perform_ne exec (P j) w hj op input

/-- Every thread of the pool follows its protocol from its stage. -/
def Pool.FollowedBy (P : ℕ → Protocol Op Ans S) (post : α → S → Prop) (p : Pool σ Op Ans α) :
    Prop :=
  ∀ i, (p.threads i).Follows (P i) post ((P i).stageOf i p.world.log)

/-- Every thread of the pool follows the protocol from its stage. -/
def Pool.Followed (P : Protocol Op Ans S) (post : α → S → Prop) (p : Pool σ Op Ans α) : Prop :=
  ∀ i, (p.threads i).Follows P post (P.stageOf i p.world.log)

variable {exec}

/-- What a single thread does, whatever the others do. -/
theorem Pool.follows_step {post : α → S → Prop} {p : Pool σ Op Ans α} {j : ℕ}
    (h : (p.threads j).Follows P post (P.stageOf j p.world.log)) (event : ℕ × ι) :
    ((p.step exec event).threads j).Follows P post (P.stageOf j (p.step exec event).world.log) := by
  obtain ⟨i, input⟩ := event
  rw [Pool.step]
  cases hprog : p.threads i with
  | ret a => exact h
  | call op next =>
      by_cases hij : j = i
      · subst hij
        rw [hprog] at h
        dsimp only
        rw [Function.update_self, Protocol.stageOf_perform_self]
        exact h.2 _
      · dsimp only
        rw [Function.update_of_ne hij, Protocol.stageOf_perform_ne exec P p.world hij]
        exact h

theorem Pool.follows_stateAt {post : α → S → Prop} {p : Pool σ Op Ans α} {j : ℕ}
    (h : (p.threads j).Follows P post (P.stageOf j p.world.log)) (events : List (ℕ × ι)) (n : ℕ) :
    ((GuardedRun.stateAt (Pool.step exec) p events n).threads j).Follows P post
      (P.stageOf j (GuardedRun.stateAt (Pool.step exec) p events n).world.log) :=
  GuardedRun.invariant_at
    (I := fun q : Pool σ Op Ans α => (q.threads j).Follows P post (P.stageOf j q.world.log))
    (fun _ event hq => Pool.follows_step hq event) h n

theorem Pool.FollowedBy.step {P : ℕ → Protocol Op Ans S} {post : α → S → Prop}
    {p : Pool σ Op Ans α} (h : p.FollowedBy P post) (event : ℕ × ι) :
    (p.step exec event).FollowedBy P post := fun j => Pool.follows_step (h j) event

theorem Pool.FollowedBy.stateAt {P : ℕ → Protocol Op Ans S} {post : α → S → Prop}
    {p : Pool σ Op Ans α} (h : p.FollowedBy P post) (events : List (ℕ × ι)) (n : ℕ) :
    (GuardedRun.stateAt (Pool.step exec) p events n).FollowedBy P post :=
  GuardedRun.invariant_at (fun _ event hp => hp.step event) h n

/-- What every permitted call keeps, one step of the pool keeps. -/
theorem Pool.FollowedBy.kept {P : ℕ → Protocol Op Ans S} {post : α → S → Prop}
    {p : Pool σ Op Ans α} (h : p.FollowedBy P post) {inv : World σ Op Ans → Prop}
    {G : World σ Op Ans → ℕ → Op → ι → Prop}
    (hkept : ∀ w i op input, inv w → G w i op input → (P i).permits ((P i).stageOf i w.log) op →
      inv (w.perform exec i op input))
    (hinv : inv p.world) {event : ℕ × ι} (hguard : Pool.Guarded G p event) :
    inv (p.step exec event).world := by
  obtain ⟨i, input⟩ := event
  rw [Pool.Guarded] at hguard
  rw [Pool.step]
  have hi := h i
  cases hprog : p.threads i with
  | ret a => exact hinv
  | call op next =>
      rw [hprog] at hguard hi
      exact hkept _ _ _ _ hinv hguard hi.1

/-- What every permitted call keeps, in the runs that a guard admits. -/
theorem Pool.FollowedBy.invariant {P : ℕ → Protocol Op Ans S} {post : α → S → Prop}
    {p : Pool σ Op Ans α} (h : p.FollowedBy P post) {inv : World σ Op Ans → Prop}
    {G : World σ Op Ans → ℕ → Op → ι → Prop}
    (hkept : ∀ w i op input, inv w → G w i op input → (P i).permits ((P i).stageOf i w.log) op →
      inv (w.perform exec i op input))
    (hinv : inv p.world) {events : List (ℕ × ι)}
    (hguard : GuardedRun.Along (Pool.Guarded G) (Pool.step exec) p events) (n : ℕ) :
    inv (GuardedRun.stateAt (Pool.step exec) p events n).world :=
  (hguard.invariant_at (I := fun q => inv q.world ∧ q.FollowedBy P post)
    (fun _ event hq hg => ⟨hq.2.kept hkept hq.1 hg, hq.2.step event⟩) ⟨hinv, h⟩ n).1

/-- What the invariant makes of a permitted call holds along the run. -/
theorem Pool.FollowedBy.along {P : ℕ → Protocol Op Ans S} {post : α → S → Prop}
    {p : Pool σ Op Ans α} (h : p.FollowedBy P post) {inv : World σ Op Ans → Prop}
    {G Q : World σ Op Ans → ℕ → Op → ι → Prop}
    (hkept : ∀ w i op input, inv w → G w i op input → (P i).permits ((P i).stageOf i w.log) op →
      inv (w.perform exec i op input))
    (himp : ∀ w i op input, inv w → G w i op input → (P i).permits ((P i).stageOf i w.log) op →
      Q w i op input)
    (hinv : inv p.world) {events : List (ℕ × ι)}
    (hguard : GuardedRun.Along (Pool.Guarded G) (Pool.step exec) p events) :
    GuardedRun.Along (Pool.Guarded Q) (Pool.step exec) p events := by
  refine hguard.of_invariant (I := fun q => inv q.world ∧ q.FollowedBy P post)
    (fun _ event hq hg => ⟨hq.2.kept hkept hq.1 hg, hq.2.step event⟩) (fun q event hq hg => ?_)
    ⟨hinv, h⟩
  have hi := hq.2 event.1
  rw [Pool.Guarded] at hg ⊢
  cases hprog : q.threads event.1 with
  | ret a => trivial
  | call op next =>
      rw [hprog] at hg hi
      exact himp _ _ _ _ hq.1 hg hi.1

/-! ### Waiting -/

variable (exec) in
/-- One thread makes its next call, unless the call has to wait. -/
def Pool.waitStep (free : σ → Op → Bool) (p : Pool σ Op Ans α) (event : ℕ × ι) : Pool σ Op Ans α :=
  match (p.threads event.1).next? with
  | none => p
  | some op => if free p.world.shared op then p.step exec event else p

variable (exec) in
/-- A step is made when its call is free, or not at all. -/
theorem Pool.waitStep_cases (free : σ → Op → Bool) (p : Pool σ Op Ans α) (event : ℕ × ι) :
    p.waitStep exec free event = p ∨ (p.waitStep exec free event = p.step exec event ∧
      Pool.Guarded (fun w _ op _ => free w.shared op = true) p event) := by
  unfold Pool.waitStep Pool.Guarded
  cases hprog : p.threads event.1 with
  | ret a => exact Or.inl rfl
  | call op next =>
      by_cases hfree : free p.world.shared op = true
      · exact Or.inr ⟨if_pos hfree, hfree⟩
      · exact Or.inl (if_neg hfree)

/-- What a single thread does in a run in which calls wait. -/
theorem Pool.follows_waitStateAt {post : α → S → Prop} {p : Pool σ Op Ans α} {j : ℕ}
    (h : (p.threads j).Follows P post (P.stageOf j p.world.log)) (free : σ → Op → Bool)
    (events : List (ℕ × ι)) (n : ℕ) :
    ((GuardedRun.stateAt (Pool.waitStep exec free) p events n).threads j).Follows P post
      (P.stageOf j (GuardedRun.stateAt (Pool.waitStep exec free) p events n).world.log) := by
  refine GuardedRun.invariant_at
    (I := fun q : Pool σ Op Ans α => (q.threads j).Follows P post (P.stageOf j q.world.log))
    (fun q event hq => ?_) h n
  rcases Pool.waitStep_cases exec free q event with hsame | ⟨hstep, -⟩
  · rwa [hsame]
  · rw [hstep]
    exact Pool.follows_step hq event

theorem Pool.FollowedBy.waitStep {P : ℕ → Protocol Op Ans S} {post : α → S → Prop}
    {p : Pool σ Op Ans α} (h : p.FollowedBy P post) (free : σ → Op → Bool) (event : ℕ × ι) :
    (p.waitStep exec free event).FollowedBy P post := by
  rcases Pool.waitStep_cases exec free p event with hsame | ⟨hstep, -⟩
  · rwa [hsame]
  · rw [hstep]
    exact h.step event

/-- What every permitted call keeps when it is free, in the runs with waiting
calls that a guard admits. -/
theorem Pool.FollowedBy.invariant_guarded {P : ℕ → Protocol Op Ans S} {post : α → S → Prop}
    {p : Pool σ Op Ans α} (h : p.FollowedBy P post) {inv : World σ Op Ans → Prop}
    {G : World σ Op Ans → ℕ → Op → ι → Prop} {free : σ → Op → Bool}
    (hkept : ∀ w i op input, inv w → free w.shared op = true → G w i op input →
      (P i).permits ((P i).stageOf i w.log) op → inv (w.perform exec i op input))
    (hinv : inv p.world) {events : List (ℕ × ι)}
    (hguard : GuardedRun.Along (Pool.Guarded G) (Pool.waitStep exec free) p events) (n : ℕ) :
    inv (GuardedRun.stateAt (Pool.waitStep exec free) p events n).world ∧
      (GuardedRun.stateAt (Pool.waitStep exec free) p events n).FollowedBy P post := by
  refine hguard.invariant_at
    (I := fun q : Pool σ Op Ans α => inv q.world ∧ q.FollowedBy P post)
    (fun q event hq hg => ⟨?_, hq.2.waitStep free event⟩) ⟨hinv, h⟩ n
  rcases Pool.waitStep_cases exec free q event with hsame | ⟨hstep, hfree⟩
  · rw [hsame]
    exact hq.1
  · rw [hstep]
    exact hq.2.kept (fun w i op input hw hboth hpermits => hkept w i op input hw hboth.1 hboth.2
      hpermits) hq.1 (Pool.guarded_and hfree hg)

/-- What every permitted call keeps when it is free, in all runs in which
calls wait. -/
theorem Pool.FollowedBy.invariant_waiting {P : ℕ → Protocol Op Ans S} {post : α → S → Prop}
    {p : Pool σ Op Ans α} (h : p.FollowedBy P post) {inv : World σ Op Ans → Prop}
    {free : σ → Op → Bool}
    (hkept : ∀ w i op input, inv w → free w.shared op = true →
      (P i).permits ((P i).stageOf i w.log) op → inv (w.perform exec i op input))
    (hinv : inv p.world) (events : List (ℕ × ι)) (n : ℕ) :
    inv (GuardedRun.stateAt (Pool.waitStep exec free) p events n).world ∧
      (GuardedRun.stateAt (Pool.waitStep exec free) p events n).FollowedBy P post := by
  refine h.invariant_guarded (G := fun _ _ _ _ => True)
    (fun w i op input hw hfree _ hpermits => hkept w i op input hw hfree hpermits) hinv
    (GuardedRun.along_of_forall fun q event => ?_) n
  unfold Pool.Guarded
  split <;> trivial

theorem Pool.Followed.step {post : α → S → Prop} {p : Pool σ Op Ans α} (h : p.Followed P post)
    (event : ℕ × ι) : (p.step exec event).Followed P post :=
  Pool.FollowedBy.step (P := fun _ => P) h event

theorem Pool.Followed.stateAt {post : α → S → Prop} {p : Pool σ Op Ans α} (h : p.Followed P post)
    (events : List (ℕ × ι)) (n : ℕ) :
    (GuardedRun.stateAt (Pool.step exec) p events n).Followed P post :=
  Pool.FollowedBy.stateAt (P := fun _ => P) h events n

theorem Pool.Followed.invariant {post : α → S → Prop} {p : Pool σ Op Ans α}
    (h : p.Followed P post) {inv : World σ Op Ans → Prop}
    {G : World σ Op Ans → ℕ → Op → ι → Prop}
    (hkept : ∀ w i op input, inv w → G w i op input → P.permits (P.stageOf i w.log) op →
      inv (w.perform exec i op input))
    (hinv : inv p.world) {events : List (ℕ × ι)}
    (hguard : GuardedRun.Along (Pool.Guarded G) (Pool.step exec) p events) (n : ℕ) :
    inv (GuardedRun.stateAt (Pool.step exec) p events n).world :=
  Pool.FollowedBy.invariant (P := fun _ => P) h hkept hinv hguard n

/-- A protocol of one stage, with the calls that have `Q`. -/
def Protocol.only (Q : Op → Prop) (s : S) : Protocol Op Ans S where
  init := s
  next stage _ _ := stage
  permits _ := Q

theorem Prog.Uses.follows_only {Q : Op → Prop} {p : Prog Op Ans α} (h : p.Uses Q) (s : S) :
    p.Follows (Protocol.only Q s) (fun _ _ => True) s :=
  Prog.Follows.mono (h.follows fun _ hop => ⟨hop, fun _ => rfl⟩) fun _ _ _ => trivial

end Protocols

/-! ## Programs that can fail

The transformer `ExceptT` over programs ends a program at its first
error. -/

theorem Except.bind_eq_ok {ε α β : Type} {x : Except ε α} {f : α → Except ε β} {b : β} :
    (x >>= f) = .ok b ↔ ∃ a, x = .ok a ∧ f a = .ok b := by
  cases x with
  | error err => exact iff_of_false (fun h => by cases h) fun ⟨a, ha, _⟩ => by cases ha
  | ok a =>
      refine ⟨fun h => ⟨a, rfl, h⟩, fun ⟨a', ha, h⟩ => ?_⟩
      obtain rfl := Except.ok.inj ha
      exact h

section Failing

variable {Op : Type} {Ans : Op → Type} {α β ε ε' S : Type}

/-- One thing holds of a value, another of an error. -/
def Prog.Either (ok : α → S → Prop) (err : ε → S → Prop) : Except ε α → S → Prop
  | .ok a, s => ok a s
  | .error e, s => err e s

/-- The value of a call that can fail, or its error in other words. -/
def Prog.orFail (p : Prog Op Ans (Except ε α)) (f : ε → ε') : ExceptT ε' (Prog Op Ans) α :=
  ExceptT.mk do
    match ← p with
    | .ok a => pure (.ok a)
    | .error e => pure (.error (f e))

variable {P : Protocol Op Ans S} {ok : β → S → Prop} {err : ε → S → Prop} {s : S}

theorem Prog.Follows.bindExcept {x : ExceptT ε (Prog Op Ans) α}
    {f : α → ExceptT ε (Prog Op Ans) β} {mid : α → S → Prop}
    (h : x.run.Follows P (Prog.Either mid err) s)
    (hf : ∀ a s', mid a s' → (f a).run.Follows P (Prog.Either ok err) s') :
    (x >>= f).run.Follows P (Prog.Either ok err) s := by
  refine Prog.Follows.andThen h fun r s' hr => ?_
  cases r with
  | ok a => exact hf a s' hr
  | error e => exact hr

theorem Prog.Follows.pureExcept {a : β} (h : ok a s) :
    (pure a : ExceptT ε (Prog Op Ans) β).run.Follows P (Prog.Either ok err) s := h

/-- A part that makes no call. -/
theorem Prog.Follows.ofExcept {x : Except ε β} (herr : ∀ e, x = .error e → err e s)
    (hok : ∀ a, x = .ok a → ok a s) :
    (ExceptT.mk (pure x) : ExceptT ε (Prog Op Ans) β).run.Follows P (Prog.Either ok err) s := by
  cases x with
  | error e => exact herr e rfl
  | ok a => exact hok a rfl

/-- A program that cannot fail, as a part of one that can. -/
theorem Prog.Follows.lift {p : Prog Op Ans β} (h : p.Follows P ok s) :
    (liftM p : ExceptT ε (Prog Op Ans) β).run.Follows P (Prog.Either ok err) s :=
  Prog.Follows.andThen h fun _ _ ha => ha

theorem Prog.Follows.orFail {p : Prog Op Ans (Except ε' β)} {f : ε' → ε}
    (h : p.Follows P (Prog.Either ok fun e => err (f e)) s) :
    (p.orFail f).run.Follows P (Prog.Either ok err) s := by
  refine Prog.Follows.andThen h fun r s' hr => ?_
  cases r with
  | ok a => exact hr
  | error e => exact hr

section Ensuring

variable {σ ι : Type} {exec : σ → (op : Op) → ι → σ × Ans op} {post : Except ε β → σ → Prop}
  {t : σ}

theorem Prog.Ensures.bindExcept {x : ExceptT ε (Prog Op Ans) α}
    {f : α → ExceptT ε (Prog Op Ans) β}
    (h : x.run.Ensures exec
      (Prog.Either (fun a => (f a).run.Ensures exec post) fun e => post (.error e)) t) :
    (x >>= f).run.Ensures exec post t := by
  refine Prog.Ensures.bind (Prog.Ensures.mono h fun r u hr => ?_)
  cases r with
  | ok a => exact hr
  | error e => exact hr

theorem Prog.Ensures.orFail {p : Prog Op Ans (Except ε' β)} {f : ε' → ε}
    (h : p.Ensures exec (Prog.Either (fun a => post (.ok a)) fun e => post (.error (f e))) t) :
    (p.orFail f).run.Ensures exec post t := by
  refine Prog.Ensures.bind (Prog.Ensures.mono h fun r u hr => ?_)
  cases r with
  | ok a => exact hr
  | error e => exact hr

theorem Prog.Ensures.lift {p : Prog Op Ans β}
    (h : p.Ensures exec (fun a => post (.ok a)) t) :
    (liftM p : ExceptT ε (Prog Op Ans) β).run.Ensures exec post t :=
  Prog.Ensures.bind h

section Obeying

variable {d : Discipline σ Op Ans ι exec} {thread : ℕ} {w : World σ Op Ans}
  {ok : β → World σ Op Ans → Prop}

theorem Prog.Obeys.bindExcept {mid : α → World σ Op Ans → Prop} {x : ExceptT ε (Prog Op Ans) α}
    {f : α → ExceptT ε (Prog Op Ans) β}
    (h : x.run.Obeys d thread (Prog.Either mid fun _ _ => True) w) (hinv : d.inv w)
    (hf : ∀ a w', d.inv w' → mid a w' →
      (f a).run.Obeys d thread (Prog.Either ok fun _ _ => True) w') :
    (x >>= f).run.Obeys d thread (Prog.Either ok fun _ _ => True) w := by
  refine Prog.Obeys.bind (Prog.Obeys.mono h fun r w' hinv' hr => ?_) hinv
  cases r with
  | ok a => exact hf a w' hinv' hr
  | error e => exact fun _ _ _ => trivial

theorem Prog.Obeys.lift {p : Prog Op Ans β} (h : p.Obeys d thread ok w) :
    (liftM p : ExceptT ε (Prog Op Ans) β).run.Obeys d thread
      (Prog.Either ok fun _ _ => True) w := by
  induction p generalizing w with
  | ret a => exact h
  | call op next ih =>
      intro w' input hothers hinv hguard
      obtain ⟨hpermits, hnext⟩ := h w' input hothers hinv hguard
      exact ⟨hpermits, ih _ hnext⟩

/-- A part that makes no call. -/
theorem Prog.Obeys.ofExcept {x : Except ε β} (h : ∀ a, x = .ok a →
    ∀ w', World.Others thread w w' → ok a w') :
    (ExceptT.mk (pure x) : ExceptT ε (Prog Op Ans) β).run.Obeys d thread
      (Prog.Either ok fun _ _ => True) w := by
  intro w' hothers _
  cases x with
  | error e => trivial
  | ok a => exact h a rfl w' hothers

theorem Prog.Obeys.orFail {x : ExceptT ε' (Prog Op Ans) β} {f : ε' → ε}
    (h : x.run.Obeys d thread (Prog.Either ok fun _ _ => True) w) :
    (x.run.orFail f).run.Obeys d thread (Prog.Either ok fun _ _ => True) w := by
  generalize x.run = p at h
  induction p generalizing w with
  | ret r => cases r <;> exact h
  | call op next ih =>
      intro w' input hothers hinv hguard
      obtain ⟨hpermits, hnext⟩ := h w' input hothers hinv hguard
      exact ⟨hpermits, ih _ hnext⟩

end Obeying

theorem Prog.Makes.bindExcept {Q : Op → Prop} {x : ExceptT ε (Prog Op Ans) α}
    {f : α → ExceptT ε (Prog Op Ans) β} (mid : α → σ → Prop) (hx : x.run.Makes exec Q t)
    (hmid : x.run.Ensures exec (Prog.Either mid fun _ _ => True) t)
    (hf : ∀ a u, mid a u → (f a).run.Makes exec Q u) : (x >>= f).run.Makes exec Q t := by
  refine Prog.Makes.bind hx hmid fun r u hr => ?_
  cases r with
  | ok a => exact hf a u hr
  | error e => exact trivial

theorem Prog.Makes.afterExcept {Q : Op → Prop} {x : ExceptT ε (Prog Op Ans) α}
    {f : α → ExceptT ε (Prog Op Ans) β} (hx : x.run.Makes exec Q t)
    (hf : ∀ a u, (f a).run.Makes exec Q u) : (x >>= f).run.Makes exec Q t := by
  refine Prog.Makes.bind hx (Prog.ensures_trivial _ t) fun r u _ => ?_
  cases r with
  | ok a => exact hf a u
  | error e => exact trivial

/-- A first part that can fail and leaves some view of the state as it is. -/
theorem Prog.Ensures.sameExcept {V : Type} {view : σ → V} {P : Op → Prop}
    {x : ExceptT ε (Prog Op Ans) α} {f : α → ExceptT ε (Prog Op Ans) β}
    (hP : ∀ op, P op → ∀ s input, view (exec s op input).1 = view s) (hx : x.run.Uses P)
    (herror : ∀ e u, view u = view t → post (.error e) u)
    (h : ∀ a u, view u = view t → (f a).run.Ensures exec post u) :
    (x >>= f).run.Ensures exec post t := by
  refine Prog.Ensures.same hP hx fun r u hu => ?_
  cases r with
  | ok a => exact h a u hu
  | error e => exact herror e u hu

/-- A program that cannot fail, and what comes after it. -/
theorem Prog.run_lift_bind (p : Prog Op Ans α) (f : α → ExceptT ε (Prog Op Ans) β) :
    ((liftM p : ExceptT ε (Prog Op Ans) α) >>= f).run = p >>= fun a => (f a).run := by
  induction p with
  | ret a => rfl
  | call op next ih => exact congrArg (Prog.call op) (funext ih)

section Succeeding

variable {G H : σ → Op → ι → Prop}

/-- The program succeeds. -/
abbrev Prog.Succeeds (r : Except ε α) (_ : σ) : Prop := r.isOk = true

/-- One part after the other, the second of which is decided in any state. -/
theorem Prog.Decides.bindExcept {x : ExceptT ε (Prog Op Ans) α}
    {f : α → ExceptT ε (Prog Op Ans) β} (h : x.run.Decides exec G H Prog.Succeeds t)
    (hf : ∀ a u, (f a).run.Decides exec G H Prog.Succeeds u) :
    (x >>= f).run.Decides exec G H Prog.Succeeds t := by
  refine Prog.Decides.bind (I := fun _ => True) h (Prog.ensures_trivial _ _) ?_ ?_
  · intro r u _ hr
    cases r with
    | ok a => exact hf a u
    | error e => cases hr
  · intro r u hr
    cases r with
    | ok a => exact absurd rfl hr
    | error e => exact hr

theorem Prog.Decides.orFail {p : Prog Op Ans (Except ε' β)} {f : ε' → ε}
    (h : p.Decides exec G H Prog.Succeeds t) :
    (p.orFail f).run.Decides exec G H Prog.Succeeds t := by
  refine Prog.Decides.bind (I := fun _ => True) h (Prog.ensures_trivial _ _) ?_ ?_
  · intro r u _ hr
    cases r with
    | ok a => exact rfl
    | error e => cases hr
  · intro r u hr
    cases r with
    | ok a => exact absurd rfl hr
    | error e => exact hr

section Answering

variable {post : Except ε β → σ → Prop} {op : Op} {p : Prog Op Ans (Except ε' α)}
  {answer : Ans op → Except ε' α} {g : ε' → ε} {f : α → ExceptT ε (Prog Op Ans) β}

/-- A call that is answered by a value, as far as `G` says so. -/
theorem Prog.EnsuresGiven.callOk (hp : p = Prog.call op fun r => Prog.ret (answer r))
    (h : ∀ input, G t op input → ∃ a, answer (exec t op input).2 = .ok a ∧
      (f a).run.EnsuresGiven exec G post (exec t op input).1) :
    (p.orFail g >>= f).run.EnsuresGiven exec G post t := by
  subst hp
  intro input hG
  obtain ⟨a, hanswer, hrest⟩ := h input hG
  simp only [Prog.bind, hanswer]
  exact hrest

theorem Prog.Decides.callOk (hp : p = Prog.call op fun r => Prog.ret (answer r))
    (hH : ∀ input, H t op input)
    (h : ∀ input, G t op input → ∃ a, answer (exec t op input).2 = .ok a ∧
      (f a).run.Decides exec G H post (exec t op input).1) :
    (p.orFail g >>= f).run.Decides exec G H post t := by
  subst hp
  refine Prog.Decides.pass hH fun input hG => ?_
  obtain ⟨a, hanswer, hrest⟩ := h input hG
  simp only [Prog.bind, hanswer]
  exact hrest

/-- A first part that comes to a value as far as `G` says so. -/
theorem Prog.Decides.afterOk {x : ExceptT ε (Prog Op Ans) α}
    (hx : x.run.Uses fun op => ∀ u input, H u op input)
    (h : x.run.EnsuresGiven exec G (fun r u => ∃ a, r = .ok a ∧
      (f a).run.Decides exec G H post u) t) : (x >>= f).run.Decides exec G H post t := by
  refine Prog.Decides.afterGiven hx (h.mono ?_)
  rintro r u ⟨a, rfl, hrest⟩
  exact hrest

end Answering

end Succeeding

end Ensuring

theorem Prog.Uses.bindExcept {Q : Op → Prop} {x : ExceptT ε (Prog Op Ans) α}
    {f : α → ExceptT ε (Prog Op Ans) β} (h : x.run.Uses Q) (hf : ∀ a, (f a).run.Uses Q) :
    (x >>= f).run.Uses Q := by
  refine Prog.Uses.bind h fun r => ?_
  cases r with
  | ok a => exact hf a
  | error e => trivial

theorem Prog.Uses.lift {Q : Op → Prop} {p : Prog Op Ans α} (h : p.Uses Q) :
    (liftM p : ExceptT ε (Prog Op Ans) α).run.Uses Q :=
  Prog.Uses.bind h fun _ => trivial

theorem Prog.Uses.orFail {Q : Op → Prop} {p : Prog Op Ans (Except ε' α)} {f : ε' → ε}
    (h : p.Uses Q) : (p.orFail f).run.Uses Q := by
  refine Prog.Uses.bind h fun r => ?_
  cases r <;> trivial

end Failing
