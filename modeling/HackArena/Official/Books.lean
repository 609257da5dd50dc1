import HackArena.Official.LauncherCalls
import HackArena.Services.CarRecord

/-!
# The books of a run

A launch of the race and a join of a sandbox spawn cars, and take back those
whose bots cannot be started. The recorded calls of a run say which cars it
has spawned and not despawned, and whose logs it has begun to capture. These,
the cars of the store and the two registries are what the run has to keep
account of.
-/

namespace HackArena.Official

open Boink HackArena.Runtime HackArena.Services

abbrev OfficialLog := List (Entry Op Op.Answer)

/-- A car in one of the engine's worlds. -/
abbrev EngineCar := EngineCommandTarget × ℕ

def carsAfter (cars : List EngineCar) : (op : Op) → op.Answer → List EngineCar
  | .engine .spawnCar, .ok carId => (.officialRace, carId) :: cars
  | .engine (.spawnSandboxCar sandboxId), .ok carId => (.sandbox sandboxId, carId) :: cars
  | .engine (.despawnCar target carId), .ok () => cars.erase (target, carId)
  | .engine (.despawnCarWithin target carId), some (.ok ()) => cars.erase (target, carId)
  | _, _ => cars

/-- The cars that a run has spawned and not despawned, the latest first. -/
def carsLeft : OfficialLog → List EngineCar
  | [] => []
  | e :: log => carsAfter (carsLeft log) e.op e.answer

/-- The call does not fail to despawn one of the cars. -/
def Despawns (cars : List EngineCar) : (op : Op) → op.Answer → Prop
  | .engine (.despawnCar target carId), answer => (target, carId) ∈ cars → answer = .ok ()
  | .engine (.despawnCarWithin target carId), answer =>
      (target, carId) ∈ cars → answer = some (.ok ())
  | _, _ => True

/-- No despawn of a car that the run has spawned has failed. -/
def DespawnsSucceed : OfficialLog → Prop
  | [] => True
  | e :: log => Despawns (carsLeft log) e.op e.answer ∧ DespawnsSucceed log

def capturesAfter (captures : HashMap String ℕ) : (op : Op) → op.Answer → HashMap String ℕ
  | .outside (.startBotLogCapture teamId containerId), .ok () => captures.insert teamId containerId
  | .outside (.stopLogCapture teamId), _ => captures.erase teamId
  | _, _ => captures

/-- The log captures that a run has started and not stopped: the container
of each team. -/
def capturesLeft : OfficialLog → HashMap String ℕ
  | [] => ∅
  | e :: log => capturesAfter (capturesLeft log) e.op e.answer

structure Books where
  cars : RaceRuntimeStore
  bots : BotRegistry
  joins : JoinRegistry
  left : List EngineCar
  despawned : Prop
  captures : HashMap String ℕ

def books (w : OfficialWorld) : Books where
  cars := w.shared.store.cars
  bots := w.shared.bots
  joins := w.shared.joins
  left := carsLeft w.log
  despawned := DespawnsSucceed w.log
  captures := capturesLeft w.log

/-- A call that leaves the books as they are. -/
def Op.quiet : Op → Bool
  | .store (.insert ..) | .store (.car ..) | .store (.removeCar _) | .store .allocatePublicCarId
  | .engine .spawnCar | .engine (.spawnSandboxCar _) | .engine (.despawnCar ..)
  | .engine (.despawnCarWithin ..) | .outside (.startBotLogCapture ..)
  | .outside (.stopLogCapture _) => false
  | .join (.get _) | .join .teamIds | .bot (.get _) | .bot .entries => true
  | .join _ | .bot _ => false
  | _ => true

/-- A call that spawns and despawns no car. -/
theorem books_record {op : Op} {w : OfficialWorld} {input : Input}
    (hleft : carsAfter (carsLeft w.log) op (exec w.shared op input).2 = carsLeft w.log)
    (hdespawns : Despawns (carsLeft w.log) op (exec w.shared op input).2) :
    books (w.record exec op input).1 = { books w with
      cars := (exec w.shared op input).1.store.cars
      bots := (exec w.shared op input).1.bots
      joins := (exec w.shared op input).1.joins
      captures := capturesAfter (capturesLeft w.log) op (exec w.shared op input).2 } := by
  simp only [World.record, World.perform, books, carsLeft, DespawnsSucceed, capturesLeft, hleft,
    hdespawns, true_and]

theorem books_record_quiet {op : Op} (hop : op.quiet = true) (w : OfficialWorld) (input : Input) :
    books (w.record exec op input).1 = books w := by
  cases op with
  | outside op => cases op <;> first | exact books_record rfl trivial | cases hop
  | engine op => cases op <;> first | exact books_record rfl trivial | cases hop
  | store op => cases op <;> first | exact books_record rfl trivial | cases hop
  | bot op => cases op <;> first | exact books_record rfl trivial | cases hop
  | join op => cases op <;> first | exact books_record rfl trivial | cases hop
  | takeMonitor which =>
      refine (books_record (by rfl) (by trivial)).trans ?_
      simp only [exec]
      split <;> rfl
  | _ => exact books_record (by rfl) (by trivial)

/-! ## What the calls make of the books -/

section Calls

variable {α β : Type} {post : α → OfficialWorld → Prop} {w : OfficialWorld} {carId : ℕ}

theorem ensures_quiet {op : Op} {f : op.Answer → OfficialProg α} (hop : op.quiet = true)
    (h : ∀ answer w', books w' = books w → (f answer).Ensures (World.record exec) post w') :
    (op.call >>= f).Ensures (World.record exec) post w :=
  .call fun input => h _ _ (books_record_quiet hop w input)

/-- A part all of whose calls leave the books as they are. -/
theorem ensures_part {p : OfficialProg β} {f : β → OfficialProg α} (hp : p.Uses (·.quiet))
    (h : ∀ b w', books w' = books w → (f b).Ensures (World.record exec) post w') :
    (p >>= f).Ensures (World.record exec) post w :=
  .same (fun _ hop w input => books_record_quiet hop w input) hp h

/-- The same for a part that ends the program when it fails. -/
theorem ensures_try {ε : Type} {x : ExceptT ε OfficialProg β} {g : β → ExceptT ε OfficialProg α}
    {post : Except ε α → OfficialWorld → Prop} (hx : x.run.Uses (·.quiet))
    (herror : ∀ e w', books w' = books w → post (.error e) w')
    (h : ∀ b w', books w' = books w → (g b).run.Ensures (World.record exec) post w') :
    (x >>= g).run.Ensures (World.record exec) post w :=
  .sameExcept (fun _ hop w input => books_record_quiet hop w input) hx herror h

variable {f : Unit → OfficialProg α}

theorem ensures_insert {entry : CarEntry}
    (h : ∀ w', books w' = { books w with cars := entry.insert (books w).cars carId } →
      (f ()).Ensures (World.record exec) post w') :
    ((Op.store (.insert carId entry)).call >>= f).Ensures (World.record exec) post w :=
  .call fun _ => h _ (books_record rfl trivial)

theorem ensures_car {call : CarCall}
    (h : ∀ w', books w' = { books w with cars := call.apply .official (books w).cars carId } →
      (f ()).Ensures (World.record exec) post w') :
    ((Op.store (.car carId call)).call >>= f).Ensures (World.record exec) post w :=
  .call fun _ => h _ (books_record rfl trivial)

theorem ensures_removeCar
    (h : ∀ w', books w' = { books w with cars := (books w).cars.removeCar carId } →
      (f ()).Ensures (World.record exec) post w') :
    ((Op.store (.removeCar carId)).call >>= f).Ensures (World.record exec) post w :=
  .call fun _ => h _ (books_record rfl trivial)

theorem ensures_allocate {f : ℕ → OfficialProg α}
    (h : ∀ w', books w' = { books w with cars := (books w).cars.allocatePublicCarId.2 } →
      (f (books w).cars.nextPublicCarId).Ensures (World.record exec) post w') :
    ((Op.store .allocatePublicCarId).call >>= f).Ensures (World.record exec) post w :=
  .call fun _ => h _ (books_record rfl trivial)

theorem ensures_bot {op : BotOp} {f : op.Answer → OfficialProg α}
    (h : ∀ w', books w' = { books w with bots := ((books w).bots.exec op).1 } →
      (f ((books w).bots.exec op).2).Ensures (World.record exec) post w') :
    ((Op.bot op).call >>= f).Ensures (World.record exec) post w :=
  .call fun _ => h _ (books_record rfl trivial)

theorem ensures_join {op : JoinOp} {f : op.Answer → OfficialProg α}
    (h : ∀ w', books w' = { books w with joins := ((books w).joins.exec op).1 } →
      (f ((books w).joins.exec op).2).Ensures (World.record exec) post w') :
    ((Op.join op).call >>= f).Ensures (World.record exec) post w :=
  .call fun _ => h _ (books_record rfl trivial)

theorem ensures_startCapture {teamId : String} {containerId : ℕ}
    {f : Except String Unit → OfficialProg α}
    (hfailed : ∀ err w', books w' = books w →
      (f (.error err)).Ensures (World.record exec) post w')
    (hstarted : ∀ w',
      books w' = { books w with captures := (books w).captures.insert teamId containerId } →
      (f (.ok ())).Ensures (World.record exec) post w') :
    ((Op.outside (.startBotLogCapture teamId containerId)).call >>= f).Ensures
      (World.record exec) post w := by
  refine .call fun input => ?_
  have hbooks : books (w.record exec (.outside (.startBotLogCapture teamId containerId)) input).1 =
      { books w with
        captures := capturesAfter (books w).captures
          (.outside (.startBotLogCapture teamId containerId)) (input.result ()) } :=
    books_record rfl trivial
  rw [show (w.record exec (.outside (.startBotLogCapture teamId containerId)) input).2 =
    input.result () from rfl]
  cases hstart : input.result () with
  | error err =>
      rw [hstart] at hbooks
      exact hfailed err _ hbooks
  | ok _ =>
      rw [hstart] at hbooks
      exact hstarted _ hbooks

/-- The same when it does not matter whether the capture has started. -/
theorem ensures_capture {teamId : String} {containerId : ℕ}
    {f : Except String Unit → OfficialProg α}
    (h : ∀ answer w' captures, books w' = { books w with captures := captures } →
      (f answer).Ensures (World.record exec) post w') :
    ((Op.outside (.startBotLogCapture teamId containerId)).call >>= f).Ensures
      (World.record exec) post w :=
  ensures_startCapture (fun _ w' hw' => h _ w' _ hw') fun w' hw' => h _ w' _ hw'

theorem ensures_stopCapture {teamId : String}
    (h : ∀ w', books w' = { books w with captures := (books w).captures.erase teamId } →
      (f ()).Ensures (World.record exec) post w') :
    ((Op.outside (.stopLogCapture teamId)).call >>= f).Ensures (World.record exec) post w :=
  .call fun _ => h _ (books_record rfl trivial)

theorem ensures_engine {op : EngineOp} {f : op.Answer → OfficialProg α}
    (h : ∀ answer w', books w' = { books w with
        left := carsAfter (books w).left (.engine op) answer
        despawned := Despawns (books w).left (.engine op) answer ∧ (books w).despawned } →
      (f answer).Ensures (World.record exec) post w') :
    ((Op.engine op).call >>= f).Ensures (World.record exec) post w :=
  .call fun _ => h _ _ rfl

/-- The car that a call has spawned. -/
def EngineOp.spawned : (op : EngineOp) → op.Answer → Option EngineCar
  | .spawnCar, .ok carId => some (.officialRace, carId)
  | .spawnSandboxCar sandboxId, .ok carId => some (.sandbox sandboxId, carId)
  | _, _ => none

theorem ensures_spawn {op : EngineOp} {f : op.Answer → OfficialProg α}
    (hop : ∀ cars answer, Despawns cars (.engine op) answer ∧
      carsAfter cars (.engine op) answer = (op.spawned answer).toList ++ cars)
    (h : ∀ answer w', books w' = { books w with
        left := (op.spawned answer).toList ++ (books w).left } →
      (f answer).Ensures (World.record exec) post w') :
    ((Op.engine op).call >>= f).Ensures (World.record exec) post w :=
  ensures_engine fun answer w' hw' => h answer w' (by
    rw [hw', (hop _ answer).2]
    simp only [(hop (books w).left answer).1, true_and])

/-- The car that a call despawns. -/
def EngineOp.despawns : EngineOp → Option EngineCar
  | .despawnCar target carId | .despawnCarWithin target carId => some (target, carId)
  | _ => none

/-- The car that has been spawned last is despawned. -/
theorem ensures_despawn_last {op : EngineOp} {car : EngineCar} {cars : List EngineCar}
    {f : op.Answer → OfficialProg α} (hop : op.despawns = some car)
    (hlast : (books w).left = car :: cars)
    (h : ∀ answer w' despawned left, (despawned → (books w).despawned ∧ left = cars) →
      books w' = { books w with left := left, despawned := despawned } →
      (f answer).Ensures (World.record exec) post w') :
    ((Op.engine op).call >>= f).Ensures (World.record exec) post w := by
  refine ensures_engine fun answer w' hw' => h answer w' _ _ (fun hdone => ⟨hdone.2, ?_⟩) hw'
  have hanswer := hdone.1
  rw [hlast] at hanswer ⊢
  cases op with
  | despawnCar target carId =>
      obtain rfl := Option.some.inj hop
      obtain rfl := hanswer List.mem_cons_self
      exact List.erase_cons_head ..
  | despawnCarWithin target carId =>
      obtain rfl := Option.some.inj hop
      obtain rfl := hanswer List.mem_cons_self
      exact List.erase_cons_head ..
  | _ => cases hop

/-- A run that has no cars of its own has none to despawn. -/
theorem ensures_despawn_none {op : EngineOp} {car : EngineCar} {f : op.Answer → OfficialProg α}
    (hop : op.despawns = some car) (hnone : (books w).left = [])
    (h : ∀ answer w', books w' = books w → (f answer).Ensures (World.record exec) post w') :
    ((Op.engine op).call >>= f).Ensures (World.record exec) post w := by
  refine ensures_engine fun answer w' hw' => h answer w' ?_
  have hsame : carsAfter [] (.engine op) answer = [] ∧ Despawns [] (.engine op) answer := by
    cases op with
    | despawnCar target carId =>
        refine ⟨?_, fun hmem => by cases hmem⟩
        cases answer <;> rfl
    | despawnCarWithin target carId =>
        refine ⟨?_, fun hmem => by cases hmem⟩
        rcases answer with _ | (_ | _) <;> rfl
    | _ => cases hop
  rw [hw', hnone, hsame.1]
  simp only [hsame.2, true_and]
  rw [← hnone]

end Calls

end HackArena.Official
