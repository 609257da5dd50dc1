import HackArena.Lib.Programs
import Mathlib.Data.Int.Notation

/-!
# Caches with a generation

A cache holds what has been made of a table. Whoever changes the table
advances a generation afterwards. A call reads the clock and the
generation; it serves the cache if that has been made at the same
generation and not too long ago, and loads the table and fills the cache
otherwise. Calls may fill the cache in any order.
-/

/-- What a cache holds, with the generation and the clock of the call that
has filled it. -/
structure Stamped (V : Type) where
  generation : ℕ
  cachedAtMs : ℤ
  value : V
  deriving DecidableEq

inductive CacheEvent (T V : Type) where
  | clock (nowMs : ℤ)
  | generation (current : ℕ)
  | invalidate
  | look (cache : Stamped V)
  | load (table : T)
  | store (cache : Stamped V)

/-- How far a call has come. -/
inductive Reading (T V : Type) where
  | idle
  | timed (nowMs : ℤ)
  | stamped (nowMs : ℤ) (generation : ℕ)
  | looked (nowMs : ℤ) (generation : ℕ) (cache : Stamped V)
  | loaded (nowMs : ℤ) (generation : ℕ) (table : T)

def Reading.next {T V : Type} : Reading T V → CacheEvent T V → Reading T V
  | _, .clock nowMs => .timed nowMs
  | .timed nowMs, .generation current => .stamped nowMs current
  | .stamped nowMs generation, .look cache => .looked nowMs generation cache
  | .looked nowMs generation _, .load table => .loaded nowMs generation table
  | reading, _ => reading

def Reading.after {T V : Type} (reading : Reading T V) : Option (CacheEvent T V) → Reading T V
  | none => reading
  | some event => reading.next event

/-- What a call may fill the cache with. -/
def Reading.Allows {T V : Type} (build : T → ℤ → V) : Reading T V → Stamped V → Prop
  | .loaded nowMs generation table, cache => cache = ⟨generation, nowMs, build table nowMs⟩
  | _, _ => False

/-- The cache has been filled at the generation and is not too old. -/
def Stamped.Hits {V : Type} (ttlMs : ℤ) (cache : Stamped V) (nowMs : ℤ) (generation : ℕ) : Prop :=
  cache.generation = generation ∧ nowMs - cache.cachedAtMs ≤ ttlMs

/-- A log that tells what has been done to a cache, the latest first. -/
structure CacheRules (X T V : Type) where
  who : X → ℕ
  what : X → Option (CacheEvent T V)
  build : T → ℤ → V
  ttlMs : ℤ
  firstGeneration : ℕ
  first : Stamped V

namespace CacheRules

variable {X T V : Type} (R : CacheRules X T V)

def generation : List X → ℕ
  | [] => R.firstGeneration
  | x :: log =>
      match R.what x with
      | some .invalidate => generation log + 1
      | _ => generation log

def contents : List X → Stamped V
  | [] => R.first
  | x :: log =>
      match R.what x with
      | some (.store cache) => cache
      | _ => contents log

def reading (i : ℕ) : List X → Reading T V
  | [] => .idle
  | x :: log => if R.who x = i then (reading i log).after (R.what x) else reading i log

/-- The cache has been filled before. -/
def Filled (log : List X) : Prop := ∃ x ∈ log, ∃ cache, R.what x = some (.store cache)

/-- What is read is what is there; the cache is filled with what has been
loaded; and it is not hit before it has been filled. -/
def Truthful (x : X) (log : List X) : Prop :=
  match R.what x with
  | some (.generation current) => current = R.generation log
  | some (.look cache) => cache = R.contents log ∧
      ∀ nowMs generation, R.reading (R.who x) log = .stamped nowMs generation →
        R.first.Hits R.ttlMs nowMs generation → R.Filled log
  | some (.store cache) => (R.reading (R.who x) log).Allows R.build cache
  | _ => True

inductive Proper : List X → Prop
  | nil : Proper []
  | cons {x : X} {log : List X} (hx : R.Truthful x log) (hlog : Proper log) : Proper (x :: log)

/-! ## Positions in a log -/

/-- `i` has done this, on the log `older`. -/
def Done (log : List X) (i : ℕ) (event : CacheEvent T V) (older : List X) : Prop :=
  ∃ x, R.who x = i ∧ R.what x = some event ∧ (x :: older) <:+ log

/-- `i` has read the clock and then the generation. -/
def Stamp (log : List X) (i : ℕ) (nowMs : ℤ) (generation : ℕ) : Prop :=
  ∃ l start, R.Done log i (.generation generation) l ∧ R.Done l i (.clock nowMs) start ∧
    generation = R.generation l

/-- `i` has loaded the table since. -/
def Loaded (log : List X) (i : ℕ) (nowMs : ℤ) (generation : ℕ) (table : T) : Prop :=
  ∃ l, R.Done log i (.load table) l ∧ R.Stamp l i nowMs generation

/-- The cache is what some call has made of the table. -/
def Built (log : List X) (cache : Stamped V) : Prop :=
  ∃ i nowMs generation table, R.Loaded log i nowMs generation table ∧
    cache = ⟨generation, nowMs, R.build table nowMs⟩

variable {R} {log log' older : List X} {i : ℕ} {nowMs : ℤ} {g : ℕ} {event : CacheEvent T V}

theorem Done.mono (h : R.Done log i event older) (hlog : log <:+ log') :
    R.Done log' i event older := by
  obtain ⟨x, hwho, hwhat, hx⟩ := h
  exact ⟨x, hwho, hwhat, hx.trans hlog⟩

theorem Done.suffix (h : R.Done log i event older) : older <:+ log := by
  obtain ⟨x, -, -, hx⟩ := h
  exact (List.suffix_cons x older).trans hx

theorem Stamp.mono (h : R.Stamp log i nowMs g) (hlog : log <:+ log') :
    R.Stamp log' i nowMs g := by
  obtain ⟨l, start, hgeneration, hclock, heq⟩ := h
  exact ⟨l, start, hgeneration.mono hlog, hclock, heq⟩

theorem Loaded.mono {table : T} (h : R.Loaded log i nowMs g table) (hlog : log <:+ log') :
    R.Loaded log' i nowMs g table := by
  obtain ⟨l, hload, hstamp⟩ := h
  exact ⟨l, hload.mono hlog, hstamp⟩

theorem Built.mono {cache : Stamped V} (h : R.Built log cache) (hlog : log <:+ log') :
    R.Built log' cache := by
  obtain ⟨i, nowMs, g, table, hloaded, heq⟩ := h
  exact ⟨i, nowMs, g, table, hloaded.mono hlog, heq⟩

theorem generation_le_cons (x : X) (log : List X) : R.generation log ≤ R.generation (x :: log) := by
  rw [generation]
  split
  · exact Nat.le_succ _
  · exact Nat.le_refl _

theorem generation_mono (h : log <:+ log') : R.generation log ≤ R.generation log' := by
  obtain ⟨newer, rfl⟩ := h
  induction newer with
  | nil => exact Nat.le_refl _
  | cons x newer ih => exact Nat.le_trans ih (generation_le_cons x _)

theorem generation_lt_of_invalidate (h : R.Done log i .invalidate older) :
    R.generation older < R.generation log := by
  obtain ⟨x, -, hwhat, hx⟩ := h
  have hnext : R.generation (x :: older) = R.generation older + 1 := by rw [generation, hwhat]
  have hle := generation_mono (R := R) hx
  omega

/-! ## What the readings stand for -/

def ReadingOk (R : CacheRules X T V) (log : List X) (i : ℕ) : Reading T V → Prop
  | .idle => True
  | .timed nowMs => ∃ start, R.Done log i (.clock nowMs) start
  | .stamped nowMs generation => R.Stamp log i nowMs generation
  | .looked nowMs generation cache => R.Stamp log i nowMs generation ∧
      (cache.Hits R.ttlMs nowMs generation → R.Built log cache)
  | .loaded nowMs generation table => R.Loaded log i nowMs generation table

theorem ReadingOk.mono {reading : Reading T V} (h : R.ReadingOk log i reading)
    (hlog : log <:+ log') : R.ReadingOk log' i reading := by
  cases reading with
  | idle => trivial
  | timed nowMs =>
      obtain ⟨start, hclock⟩ := h
      exact ⟨start, hclock.mono hlog⟩
  | stamped nowMs generation => exact Stamp.mono h hlog
  | looked nowMs generation cache => exact ⟨h.1.mono hlog, fun hhits => (h.2 hhits).mono hlog⟩
  | loaded nowMs generation table => exact Loaded.mono h hlog

theorem ReadingOk.built {reading : Reading T V} {cache : Stamped V}
    (hreading : R.ReadingOk log i reading) (h : reading.Allows R.build cache) :
    R.Built log cache := by
  cases reading with
  | loaded nowMs generation table => exact ⟨i, nowMs, generation, table, hreading, h⟩
  | _ => exact h.elim

theorem filled_cons {x : X} (h : R.Filled (x :: log)) :
    (∃ cache, R.what x = some (.store cache)) ∨ R.Filled log := by
  obtain ⟨y, hy, cache, hwhat⟩ := h
  rcases List.mem_cons.mp hy with rfl | hy
  · exact Or.inl ⟨cache, hwhat⟩
  · exact Or.inr ⟨y, hy, cache, hwhat⟩

theorem contents_of_not_filled (h : ¬ R.Filled log) : R.contents log = R.first := by
  induction log with
  | nil => rfl
  | cons x log ih =>
      have hrest : ¬ R.Filled log := fun ⟨y, hy, cache, hwhat⟩ =>
        h ⟨y, List.mem_cons_of_mem x hy, cache, hwhat⟩
      rw [contents]
      split
      · rename_i cache hwhat
        exact absurd ⟨x, List.mem_cons_self, cache, hwhat⟩ h
      · exact ih hrest

/-- The event of the latest entry, on a log whose readings are understood. -/
theorem ReadingOk.next {x : X} {reading : Reading T V} (hx : R.Truthful x log)
    (hreading : R.reading (R.who x) log = reading) (h : R.ReadingOk log (R.who x) reading)
    (hbuilt : R.Filled log → R.Built log (R.contents log)) (hwhat : R.what x = some event) :
    R.ReadingOk (x :: log) (R.who x) (reading.next event) := by
  have hold : R.ReadingOk (x :: log) (R.who x) reading := h.mono (List.suffix_cons x log)
  have hdone : R.Done (x :: log) (R.who x) event log := ⟨x, rfl, hwhat, List.suffix_refl _⟩
  rw [Truthful, hwhat] at hx
  cases event with
  | clock nowMs => cases reading <;> exact ⟨log, hdone⟩
  | generation current =>
      cases reading with
      | timed nowMs =>
          obtain ⟨start, hclock⟩ := h
          exact ⟨log, start, hdone, hclock, hx⟩
      | _ => exact hold
  | look cache =>
      cases reading with
      | stamped nowMs generation =>
          obtain ⟨rfl, hfirst⟩ := hx
          refine ⟨hold, fun hhits => (hbuilt ?_).mono (List.suffix_cons x log)⟩
          by_contra hempty
          rw [contents_of_not_filled hempty] at hhits
          exact hempty (hfirst nowMs generation hreading hhits)
      | _ => exact hold
  | load table =>
      cases reading with
      | looked nowMs generation cache => exact ⟨log, hdone, h.1⟩
      | _ => exact hold
  | invalidate => cases reading <;> exact hold
  | store cache => cases reading <;> exact hold

theorem Proper.readings (h : R.Proper log) :
    (R.Filled log → R.Built log (R.contents log)) ∧
      ∀ i, R.ReadingOk log i (R.reading i log) := by
  induction h with
  | nil => exact ⟨fun ⟨x, hx, _⟩ => absurd hx (List.not_mem_nil), fun i => trivial⟩
  | @cons x log hx hlog ih =>
      obtain ⟨hbuilt, hreadings⟩ := ih
      have hsuffix := List.suffix_cons x log
      constructor
      · intro hfilled
        rw [contents]
        split
        · rename_i cache hwhat
          rw [Truthful, hwhat] at hx
          exact ((hreadings _).built hx).mono hsuffix
        · rename_i hother
          rcases filled_cons hfilled with ⟨cache, hwhat⟩ | hfilled
          · exact absurd hwhat (hother cache)
          · exact (hbuilt hfilled).mono hsuffix
      · intro i
        rw [reading]
        split
        · rename_i hwho
          subst hwho
          cases hwhat : R.what x with
          | none => exact (hreadings _).mono hsuffix
          | some event => exact (hreadings _).next hx rfl hbuilt hwhat
        · exact (hreadings i).mono hsuffix

/-! ## What is served -/

/-- The value that a call answers with. -/
def Serves (R : CacheRules X T V) : Reading T V → V → Prop
  | .looked nowMs generation cache, value => cache.Hits R.ttlMs nowMs generation ∧ value = cache.value
  | .loaded nowMs _ table, value => value = R.build table nowMs
  | _, _ => False

/-- The value has been made of a table that was loaded at most the time to
live before the clock of the call, and after every invalidation that came
before the call. -/
def Fresh (R : CacheRules X T V) (log : List X) (i : ℕ) (value : V) : Prop :=
  ∃ nowMs start, R.Done log i (.clock nowMs) start ∧
    ∃ j table builtMs l before, R.Done log j (.load table) l ∧ R.Done l j (.clock builtMs) before ∧
      value = R.build table builtMs ∧ nowMs - R.ttlMs ≤ builtMs ∧
      ∀ k older, R.Done start k .invalidate older → R.Done l k .invalidate older

/-- Logs that have an invalidation between them have not the same
generation. -/
theorem done_of_generation_eq {l l' start : List X} {k : ℕ} (hl : l <:+ log) (hl' : l' <:+ log)
    (hstart : start <:+ l) (heq : R.generation l' = R.generation l)
    (h : R.Done start k .invalidate older) : R.Done l' k .invalidate older := by
  obtain ⟨x, hwho, hwhat, hx⟩ := h
  have hxlog : (x :: older) <:+ log := hx.trans (hstart.trans hl)
  rcases List.suffix_or_suffix_of_suffix hxlog hl' with hbefore | hafter
  · exact ⟨x, hwho, hwhat, hbefore⟩
  · rcases List.suffix_cons_iff.mp hafter with rfl | hafter
    · exact ⟨x, hwho, hwhat, List.suffix_refl _⟩
    · have hlt := generation_lt_of_invalidate (R := R)
        ⟨x, hwho, hwhat, hx.trans hstart⟩
      have hle := generation_mono (R := R) hafter
      omega

theorem Proper.fresh (h : R.Proper log) (httl : 0 ≤ R.ttlMs) {value : V}
    (hserves : R.Serves (R.reading i log) value) : R.Fresh log i value := by
  have hreading := h.readings.2 i
  cases hcase : R.reading i log with
  | looked nowMs generation cache =>
      rw [hcase] at hreading hserves
      obtain ⟨⟨hgeneration, hage⟩, rfl⟩ := hserves
      obtain ⟨⟨l, start, hread, hclock, hg⟩, hbuilt⟩ := hreading
      obtain ⟨j, builtMs, g', table, ⟨lload, hload, lgen, before, hread', hclock', hg'⟩, rfl⟩ :=
        hbuilt ⟨hgeneration, hage⟩
      refine ⟨nowMs, start, hclock.mono hread.suffix, j, table, builtMs, lload, before, hload,
        hclock'.mono hread'.suffix, rfl, ?_, fun k older hinvalidate => ?_⟩
      · exact Int.sub_le_of_sub_le hage
      · have heq : R.generation lgen = R.generation l := by rw [← hg, ← hg', ← hgeneration]
        exact (done_of_generation_eq hread.suffix (hread'.suffix.trans hload.suffix) hclock.suffix
          heq hinvalidate).mono hread'.suffix
  | loaded nowMs generation table =>
      rw [hcase] at hreading hserves
      obtain ⟨l, hload, lgen, start, hread, hclock, -⟩ := hreading
      refine ⟨nowMs, start, hclock.mono (hread.suffix.trans hload.suffix), i, table, nowMs, l, start,
        hload, hclock.mono hread.suffix, hserves, ?_, fun k older hinvalidate => ?_⟩
      · omega
      · exact hinvalidate.mono (hclock.suffix.trans hread.suffix)
  | _ =>
      rw [hcase] at hserves
      exact hserves.elim

end CacheRules

/-! ## The cache of a service -/

section Services

variable {Op : Type} {Ans : Op → Type} {α σ ι : Type}

/-- A service part of whose calls concern a cache. -/
structure CachedService (exec : σ → (op : Op) → ι → σ × Ans op) (T V : Type) where
  event : (op : Op) → Ans op → Option (CacheEvent T V)
  generation : σ → ℕ
  cache : σ → Stamped V
  build : T → ℤ → V
  ttlMs : ℤ
  generation_exec : ∀ s op input, generation (exec s op input).1 =
    match event op (exec s op input).2 with
    | some .invalidate => generation s + 1
    | _ => generation s
  cache_exec : ∀ s op input, cache (exec s op input).1 =
    match event op (exec s op input).2 with
    | some (.store stored) => stored
    | _ => cache s
  read : ∀ s op input, match event op (exec s op input).2 with
    | some (.generation current) => current = generation s
    | some (.look seen) => seen = cache s
    | _ => True

namespace CachedService

variable {exec : σ → (op : Op) → ι → σ × Ans op} {T V : Type} (S : CachedService exec T V)

/-- The log of a run that begins with `s₀`. -/
def rules (s₀ : σ) : CacheRules (Entry Op Ans) T V where
  who := Entry.thread
  what e := S.event e.op e.answer
  build := S.build
  ttlMs := S.ttlMs
  firstGeneration := S.generation s₀
  first := S.cache s₀

def reader : Protocol Op Ans (Reading T V) where
  init := .idle
  next s op answer := s.after (S.event op answer)
  permits s op := ∀ answer cache, S.event op answer = some (.store cache) → s.Allows S.build cache

theorem reading_eq_stageOf (s₀ : σ) (i : ℕ) (log : List (Entry Op Ans)) :
    (S.rules s₀).reading i log = S.reader.stageOf i log := by
  induction log with
  | nil => rfl
  | cons e log ih =>
      rw [CacheRules.reading, Protocol.stageOf, ih]
      rfl

/-- What a cache and its generation have come to in the course of a run. -/
structure Kept (s₀ : σ) (w : World σ Op Ans) : Prop where
  generation : S.generation w.shared = (S.rules s₀).generation w.log
  cache : S.cache w.shared = (S.rules s₀).contents w.log
  proper : (S.rules s₀).Proper w.log

/-- A call that looks at the cache would not hit it as it has been created,
unless it has been filled. -/
def Warm (s₀ : σ) (w : World σ Op Ans) (i : ℕ) (op : Op) (input : ι) : Prop :=
  ∀ cache nowMs generation, S.event op (exec w.shared op input).2 = some (.look cache) →
    S.reader.stageOf i w.log = .stamped nowMs generation →
      (S.cache s₀).Hits S.ttlMs nowMs generation → (S.rules s₀).Filled w.log

variable {S} {s₀ : σ} {w : World σ Op Ans} {i : ℕ} {op : Op} {input : ι}

theorem Kept.perform (h : S.Kept s₀ w) (hpermits : S.reader.permits (S.reader.stageOf i w.log) op)
    (hwarm : S.Warm s₀ w i op input) : S.Kept s₀ (w.perform exec i op input) := by
  have hread := S.read w.shared op input
  refine ⟨?_, ?_, .cons ?_ h.proper⟩
  · change S.generation (exec w.shared op input).1 = _
    rw [S.generation_exec, h.generation]
    rfl
  · change S.cache (exec w.shared op input).1 = _
    rw [S.cache_exec, h.cache]
    rfl
  · change match S.event op (exec w.shared op input).2 with
      | some (.generation current) => current = (S.rules s₀).generation w.log
      | some (.look cache) => cache = (S.rules s₀).contents w.log ∧
          ∀ nowMs generation, (S.rules s₀).reading i w.log = .stamped nowMs generation →
            (S.cache s₀).Hits S.ttlMs nowMs generation → (S.rules s₀).Filled w.log
      | some (.store cache) => ((S.rules s₀).reading i w.log).Allows S.build cache
      | _ => True
    rw [S.reading_eq_stageOf]
    cases hevent : S.event op (exec w.shared op input).2 with
    | none => trivial
    | some event =>
        rw [hevent] at hread
        cases event with
        | generation current => exact hread.trans h.generation
        | look cache =>
            exact ⟨hread.trans h.cache, fun nowMs generation hstage hhits =>
              hwarm cache nowMs generation hevent hstage hhits⟩
        | store cache => exact hpermits _ cache hevent
        | _ => trivial

/-- The runs in which an empty cache is never hit. -/
theorem kept_stateAt {post : α → Reading T V → Prop} {threads : ℕ → Prog Op Ans α}
    (h : ∀ i, (threads i).Follows S.reader post .idle) {events : List (ℕ × ι)}
    (hwarm : GuardedRun.Along (Pool.Guarded (S.Warm s₀)) (Pool.step exec)
      (Pool.start s₀ threads) events) (n : ℕ) :
    S.Kept s₀ (GuardedRun.stateAt (Pool.step exec) (Pool.start s₀ threads) events n).world := by
  have hfollowed : (Pool.start s₀ threads).FollowedBy (fun _ => S.reader) post := h
  exact hfollowed.invariant (fun _ _ _ _ hkept hguard hpermits => hkept.perform hpermits hguard)
    ⟨rfl, rfl, .nil⟩ hwarm n

end CachedService

end Services
