import HackArena.Weather.Forecast
import Mathlib.Algebra.BigOperators.Ring.Finset
import Mathlib.Data.Int.ConditionallyCompleteOrder
import Mathlib.Data.Int.Interval

/-!
# What is said of a window

The three functions on a window go through the stretches of the schedule
that lie in it. Each of them gives the total over all milliseconds of the
window that its name says.
-/

namespace HackArena.Weather

open Boink Domain

/-! ## The loop -/

section Loop

variable {α σ : Type} (value : ScheduleEntry → α) (add : σ → α → ℤ → ℤ → σ)

/-- The loop with its index into the schedule. There is no result if an entry
is asked for that does not exist, or if the rounds do not suffice. -/
def windowLoop (entries : List ScheduleEntry) (endMs : ℤ) :
    (rounds nextIdx : ℕ) → (cursor : ℤ) → (current : α) → σ → Option σ
  | 0, _, _, _, _ => none
  | rounds + 1, nextIdx, cursor, current, acc =>
      if cursor < endMs then
        let nextChange := entries[nextIdx]?.elim endMs fun entry => min entry.startsAtMs endMs
        let acc := if cursor < nextChange then add acc current cursor nextChange else acc
        if endMs ≤ nextChange then some acc
        else match entries[nextIdx]? with
          | none => none
          | some entry =>
              windowLoop entries endMs rounds (nextIdx + 1) nextChange (value entry) acc
      else some acc

theorem windowLoop_eq_foldWindow {entries : List ScheduleEntry} {endMs : ℤ} {rounds nextIdx : ℕ}
    (h : entries.length ≤ nextIdx + rounds) (cursor : ℤ) (current : α) (acc : σ) :
    windowLoop value add entries endMs (rounds + 1) nextIdx cursor current acc =
      some (foldWindow value add endMs (entries.drop nextIdx) cursor current acc) := by
  induction rounds generalizing nextIdx cursor current acc with
  | zero =>
    rw [List.drop_eq_nil_of_le (by omega), windowLoop, List.getElem?_eq_none (by omega), foldWindow]
    by_cases hlt : cursor < endMs <;> simp [hlt]
  | succ rounds ih =>
    rw [windowLoop]
    by_cases hlt : cursor < endMs
    · rw [if_pos hlt]
      by_cases hidx : nextIdx < entries.length
      · rw [List.getElem?_eq_getElem hidx, List.drop_eq_getElem_cons hidx, foldWindow, if_pos hlt]
        dsimp only [Option.elim_some]
        split
        · split <;> rfl
        · rw [ih (by omega)]
      · rw [List.drop_eq_nil_of_le (by omega), List.getElem?_eq_none (by omega), foldWindow]
        simp [hlt]
    · rw [if_neg hlt]
      cases entries.drop nextIdx with
      | nil => rw [foldWindow, if_neg hlt]
      | cons entry rest => rw [foldWindow, if_neg hlt]

end Loop

/-! ## What is in force -/

section Follows

variable {α : Type} (value : ScheduleEntry → α) (default : α)

def inForce (entries : List ScheduleEntry) (timeMs : ℤ) : α :=
  ((weatherAt entries timeMs).map value).getD default

theorem weatherAt_append {pre rest : List ScheduleEntry} {timeMs : ℤ}
    (hpre : ∀ entry ∈ pre, entry.startsAtMs ≤ timeMs)
    (hrest : ∀ entry ∈ rest.head?, timeMs < entry.startsAtMs) :
    weatherAt (pre ++ rest) timeMs = pre.getLast? := by
  have hpoint : partitionPoint (fun entry => decide (entry.startsAtMs ≤ timeMs)) (pre ++ rest) =
      pre.length := by
    have hnone : rest.takeWhile (fun entry => decide (entry.startsAtMs ≤ timeMs)) = [] := by
      cases rest with
      | nil => rfl
      | cons entry rest => simp [hrest entry rfl]
    rw [partitionPoint, List.takeWhile_append_of_pos (by simpa using hpre), hnone, List.append_nil]
  rw [weatherAt, hpoint, List.getLast?_eq_getElem?]
  cases hlength : pre.length with
  | zero => simp [List.length_eq_zero_iff.mp hlength]
  | succ n => simp [List.getElem?_append_left (show n < pre.length by omega)]

/-- What the entries that are left say is what is in force from the cursor
on. -/
def Follows (f : ℤ → α) : List ScheduleEntry → ℤ → Prop
  | [], cursor => ∀ timeMs, cursor ≤ timeMs → f timeMs = f cursor
  | entry :: rest, cursor => cursor < entry.startsAtMs ∧
      (∀ timeMs, cursor ≤ timeMs → timeMs < entry.startsAtMs → f timeMs = f cursor) ∧
      f entry.startsAtMs = value entry ∧ Follows f rest entry.startsAtMs

theorem follows_append {pre rest : List ScheduleEntry} (h : Increasing (pre ++ rest)) (cursor : ℤ)
    (hpre : ∀ entry ∈ pre, entry.startsAtMs ≤ cursor)
    (hrest : ∀ entry ∈ rest.head?, cursor < entry.startsAtMs) :
    Follows value (inForce value default (pre ++ rest)) rest cursor := by
  have hsame : ∀ timeMs, cursor ≤ timeMs → (∀ entry ∈ rest.head?, timeMs < entry.startsAtMs) →
      inForce value default (pre ++ rest) timeMs = inForce value default (pre ++ rest) cursor := by
    intro timeMs hle hlt
    rw [inForce, inForce, weatherAt_append hpre hrest,
      weatherAt_append (fun entry hentry => (hpre entry hentry).trans hle) hlt]
  induction rest generalizing pre cursor with
  | nil => exact fun timeMs hle => hsame timeMs hle fun entry hentry => by cases hentry
  | cons entry rest ih =>
    have happend : pre ++ entry :: rest = pre ++ [entry] ++ rest := by simp
    have hstart := hrest entry rfl
    have hpre' : ∀ e ∈ pre ++ [entry], e.startsAtMs ≤ entry.startsAtMs := by
      intro e he
      rcases List.mem_append.mp he with he | he
      · exact (hpre e he).trans hstart.le
      · rw [List.mem_singleton.mp he]
    have hrest' : ∀ e ∈ rest.head?, entry.startsAtMs < e.startsAtMs := by
      have hchain : Increasing (entry :: rest) := (List.isChain_append.mp h).2.1
      exact (List.isChain_cons.mp hchain).1
    refine ⟨hstart, fun timeMs hle hlt => hsame timeMs hle fun e he => ?_, ?_, ?_⟩
    · rwa [← Option.some.inj he]
    · rw [inForce, happend, weatherAt_append hpre' hrest', List.getLast?_concat]
      rfl
    · rw [happend] at h ⊢
      refine ih h _ hpre' hrest' fun timeMs hle hlt => ?_
      rw [inForce, inForce, weatherAt_append hpre' hrest',
        weatherAt_append (fun e he => (hpre' e he).trans hle) hlt]

theorem follows_upcomingEntries {entries : List ScheduleEntry} (h : Increasing entries)
    (startMs : ℤ) :
    Follows value (inForce value default entries) (upcomingEntries entries startMs) startMs := by
  have htake : entries.take (partitionPoint (startedBy startMs) entries) =
      entries.takeWhile (startedBy startMs) := by
    rw [partitionPoint]
    exact (List.prefix_iff_eq_take.mp (List.takeWhile_prefix _)).symm
  have hdrop : upcomingEntries entries startMs = entries.dropWhile (startedBy startMs) := by
    have hparts := List.take_append_drop (partitionPoint (startedBy startMs) entries) entries
    rw [htake] at hparts
    conv_rhs at hparts => rw [← List.takeWhile_append_dropWhile (p := startedBy startMs) (l := entries)]
    exact List.append_cancel_left hparts
  have hparts : entries =
      entries.takeWhile (startedBy startMs) ++ entries.dropWhile (startedBy startMs) :=
    List.takeWhile_append_dropWhile.symm
  rw [hdrop]
  have hfollows := follows_append value default (hparts ▸ h) startMs ?_ ?_
  · rwa [← hparts] at hfollows
  · exact fun entry hentry => by simpa [startedBy] using List.mem_takeWhile_imp hentry
  · intro entry hentry
    have hne : entries.dropWhile (startedBy startMs) ≠ [] := fun hnil => by
      rw [hnil] at hentry
      cases hentry
    have hhead := List.head_dropWhile_not (startedBy startMs) hne
    rw [List.head?_eq_some_head hne] at hentry
    rw [Option.some.inj hentry] at hhead
    simpa [startedBy] using hhead

variable {σ : Type} (add : σ → α → ℤ → ℤ → σ) (I : ℤ → σ → Prop)

/-- What every stretch of the window preserves holds at its end. -/
theorem foldWindow_induction {f : ℤ → α} {endMs : ℤ}
    (hstep : ∀ fromMs toMs acc, fromMs < toMs → toMs ≤ endMs →
      (∀ timeMs, fromMs ≤ timeMs → timeMs < toMs → f timeMs = f fromMs) → I fromMs acc →
      I toMs (add acc (f fromMs) fromMs toMs))
    {rest : List ScheduleEntry} {cursor : ℤ} (hrest : Follows value f rest cursor)
    (hcursor : cursor < endMs) {acc : σ} (hacc : I cursor acc) :
    I endMs (foldWindow value add endMs rest cursor (f cursor) acc) := by
  induction rest generalizing cursor acc with
  | nil =>
    rw [foldWindow, if_pos hcursor]
    exact hstep _ _ _ hcursor le_rfl (fun timeMs hle _ => hrest timeMs hle) hacc
  | cons entry rest ih =>
    obtain ⟨hstart, hsame, hvalue, hrest⟩ := hrest
    have hnext : cursor < min entry.startsAtMs endMs := lt_min hstart hcursor
    have hacc' := hstep _ _ _ hnext (min_le_right _ _)
      (fun timeMs hle hlt => hsame timeMs hle (hlt.trans_le (min_le_left _ _))) hacc
    rw [foldWindow, if_pos hcursor]
    dsimp only
    rw [if_pos hnext]
    by_cases hend : endMs ≤ min entry.startsAtMs endMs
    · rw [if_pos hend]
      rwa [le_antisymm (min_le_right _ _) hend] at hacc' ⊢
    · have hlt : entry.startsAtMs < endMs := by
        by_contra hge
        exact hend (le_min (not_lt.mp hge) le_rfl)
      rw [if_neg hend, ← hvalue]
      rw [min_eq_left hlt.le] at hacc' ⊢
      exact ih hrest hlt hacc'

end Follows

/-! ## Totals -/

section Totals

variable {startMs fromMs toMs : ℤ} {g : ℤ → ℤ} {c : ℤ}

theorem sum_stretch (hstart : startMs ≤ fromMs) (hle : fromMs ≤ toMs)
    (hconst : ∀ timeMs, fromMs ≤ timeMs → timeMs < toMs → g timeMs = c) :
    ∑ timeMs ∈ Finset.Ico startMs toMs, g timeMs =
      ∑ timeMs ∈ Finset.Ico startMs fromMs, g timeMs + c * (toMs - fromMs) := by
  have hstretch : ∑ timeMs ∈ Finset.Ico fromMs toMs, g timeMs = c * (toMs - fromMs) := by
    have hcongr : ∀ timeMs ∈ Finset.Ico fromMs toMs, g timeMs = c := fun timeMs hmem =>
      hconst timeMs (Finset.mem_Ico.mp hmem).1 (Finset.mem_Ico.mp hmem).2
    rw [Finset.sum_congr rfl hcongr, Finset.sum_const, Int.card_Ico, nsmul_eq_mul,
      Int.toNat_of_nonneg (sub_nonneg.mpr hle), mul_comm]
  rw [← Finset.Ico_union_Ico_eq_Ico hstart hle,
    Finset.sum_union (Finset.Ico_disjoint_Ico_consecutive _ _ _), hstretch]

end Totals

section Windows

variable (entries : List ScheduleEntry) (startMs endMs : ℤ)

def typeAt (timeMs : ℤ) : WeatherType := inForce (·.weatherType) .unspecified entries timeMs

def temperatureAt (timeMs : ℤ) : ℤ := inForce (·.temperatureC) 0 entries timeMs

/-- The milliseconds of the window whose type is one of these. -/
noncomputable def msOf (p : WeatherType → Bool) : ℕ :=
  ((Finset.Ico startMs endMs).filter fun timeMs => p (typeAt entries timeMs)).card

end Windows

section Totals

variable {entries : List ScheduleEntry} {startMs endMs : ℤ}

theorem msOf_eq_sum (p : WeatherType → Bool) :
    (msOf entries startMs endMs p : ℤ) =
      ∑ timeMs ∈ Finset.Ico startMs endMs, if p (typeAt entries timeMs) then 1 else 0 := by
  rw [msOf, Finset.card_filter, Nat.cast_sum]
  exact Finset.sum_congr rfl fun _ _ => by split <;> rfl

theorem msOf_stretch {p : WeatherType → Bool} {fromMs toMs : ℤ} (hstart : startMs ≤ fromMs)
    (hle : fromMs ≤ toMs) (hconst : ∀ timeMs, fromMs ≤ timeMs → timeMs < toMs →
      typeAt entries timeMs = typeAt entries fromMs) :
    (msOf entries startMs toMs p : ℤ) = msOf entries startMs fromMs p +
      if p (typeAt entries fromMs) then toMs - fromMs else 0 := by
  rw [msOf_eq_sum, msOf_eq_sum, sum_stretch hstart hle fun timeMs hfrom hto => by
    rw [hconst timeMs hfrom hto]]
  split <;> ring

theorem foldWindow_rain (h : Increasing entries) (hlt : startMs < endMs) :
    foldWindow (·.weatherType) addRain endMs (upcomingEntries entries startMs) startMs
      (typeAt entries startMs) 0 = msOf entries startMs endMs isRainType := by
  have hstep : ∀ fromMs toMs rainMs : ℤ, fromMs < toMs → toMs ≤ endMs →
      (∀ timeMs, fromMs ≤ timeMs → timeMs < toMs →
        typeAt entries timeMs = typeAt entries fromMs) →
      startMs ≤ fromMs ∧ rainMs = msOf entries startMs fromMs isRainType →
      startMs ≤ toMs ∧ addRain rainMs (typeAt entries fromMs) fromMs toMs =
        msOf entries startMs toMs isRainType := by
    rintro fromMs toMs rainMs hfrom - hconst ⟨hstart, rfl⟩
    refine ⟨hstart.trans hfrom.le, ?_⟩
    rw [addRain, msOf_stretch hstart hfrom.le hconst]
    split <;> simp
  exact (foldWindow_induction _ addRain
    (fun toMs rainMs => startMs ≤ toMs ∧ rainMs = msOf entries startMs toMs isRainType) hstep
    (follows_upcomingEntries (·.weatherType) .unspecified h startMs) hlt
    ⟨le_rfl, by simp [msOf]⟩).2

/-- The weighted sum and the duration. -/
theorem foldWindow_temperature (h : Increasing entries) (hlt : startMs < endMs) :
    foldWindow (·.temperatureC) addTemperature endMs (upcomingEntries entries startMs) startMs
      (temperatureAt entries startMs) (0, 0) =
        (∑ timeMs ∈ Finset.Ico startMs endMs, temperatureAt entries timeMs, endMs - startMs) := by
  have hstep : ∀ (fromMs toMs : ℤ) (acc : ℤ × ℤ), fromMs < toMs → toMs ≤ endMs →
      (∀ timeMs, fromMs ≤ timeMs → timeMs < toMs →
        temperatureAt entries timeMs = temperatureAt entries fromMs) →
      startMs ≤ fromMs ∧ acc =
        (∑ timeMs ∈ Finset.Ico startMs fromMs, temperatureAt entries timeMs, fromMs - startMs) →
      startMs ≤ toMs ∧ addTemperature acc (temperatureAt entries fromMs) fromMs toMs =
        (∑ timeMs ∈ Finset.Ico startMs toMs, temperatureAt entries timeMs, toMs - startMs) := by
    rintro fromMs toMs acc hfrom - hconst ⟨hstart, rfl⟩
    refine ⟨hstart.trans hfrom.le, ?_⟩
    rw [addTemperature, sum_stretch hstart hfrom.le hconst]
    exact congrArg (Prod.mk _) (by omega)
  exact (foldWindow_induction _ addTemperature
    (fun toMs acc => startMs ≤ toMs ∧ acc =
      (∑ timeMs ∈ Finset.Ico startMs toMs, temperatureAt entries timeMs, toMs - startMs)) hstep
    (follows_upcomingEntries (·.temperatureC) 0 h startMs) hlt ⟨le_rfl, by simp⟩).2

/-! ## The type that lasts longest -/

/-- The slot holds the whole time of its type, and since when there has been
any. -/
structure SlotOf (entries : List ScheduleEntry) (startMs toMs : ℤ) (slot : TypeStats) : Prop where
  duration : slot.durationMs = msOf entries startMs toMs (· == slot.weatherType)
  seen : startMs ≤ slot.firstSeen ∧ slot.firstSeen < toMs
  first : typeAt entries slot.firstSeen = slot.weatherType
  before : ∀ timeMs, startMs ≤ timeMs → timeMs < slot.firstSeen →
    typeAt entries timeMs ≠ slot.weatherType

/-- Each type that has been in force has one slot. -/
structure StatsOf (entries : List ScheduleEntry) (startMs toMs : ℤ) (stats : List TypeStats) :
    Prop where
  slots : ∀ slot ∈ stats, SlotOf entries startMs toMs slot
  nodup : (stats.map (·.weatherType)).Nodup
  all : ∀ timeMs, startMs ≤ timeMs → timeMs < toMs →
    typeAt entries timeMs ∈ stats.map (·.weatherType)

variable {fromMs toMs : ℤ}

theorem SlotOf.other {slot : TypeStats} (h : SlotOf entries startMs fromMs slot)
    (hstart : startMs ≤ fromMs) (hle : fromMs ≤ toMs)
    (hconst : ∀ timeMs, fromMs ≤ timeMs → timeMs < toMs →
      typeAt entries timeMs = typeAt entries fromMs)
    (hne : slot.weatherType ≠ typeAt entries fromMs) : SlotOf entries startMs toMs slot := by
  refine ⟨?_, ⟨h.seen.1, h.seen.2.trans_le hle⟩, h.first, h.before⟩
  rw [msOf_stretch hstart hle hconst, h.duration, if_neg (by simpa using hne.symm), add_zero]

theorem SlotOf.longer {slot : TypeStats} (h : SlotOf entries startMs fromMs slot)
    (hstart : startMs ≤ fromMs) (hle : fromMs ≤ toMs)
    (hconst : ∀ timeMs, fromMs ≤ timeMs → timeMs < toMs →
      typeAt entries timeMs = typeAt entries fromMs)
    (heq : slot.weatherType = typeAt entries fromMs) :
    SlotOf entries startMs toMs
      { slot with durationMs := slot.durationMs + (toMs - fromMs) } := by
  refine ⟨?_, ⟨h.seen.1, h.seen.2.trans_le hle⟩, h.first, h.before⟩
  rw [msOf_stretch hstart hle hconst, h.duration, if_pos (by simpa using heq.symm)]

theorem slotOf_new (hstart : startMs ≤ fromMs) (hlt : fromMs < toMs)
    (hconst : ∀ timeMs, fromMs ≤ timeMs → timeMs < toMs →
      typeAt entries timeMs = typeAt entries fromMs)
    (hnone : ∀ timeMs, startMs ≤ timeMs → timeMs < fromMs →
      typeAt entries timeMs ≠ typeAt entries fromMs) :
    SlotOf entries startMs toMs ⟨typeAt entries fromMs, toMs - fromMs, fromMs⟩ := by
  refine ⟨?_, ⟨hstart, hlt⟩, rfl, hnone⟩
  have hzero : msOf entries startMs fromMs (· == typeAt entries fromMs) = 0 := by
    rw [msOf, Finset.card_eq_zero, Finset.filter_eq_empty_iff]
    intro timeMs hmem
    simpa using hnone timeMs (Finset.mem_Ico.mp hmem).1 (Finset.mem_Ico.mp hmem).2
  rw [msOf_stretch hstart hlt.le hconst, hzero, if_pos (by simp)]
  simp

theorem addType_types (stats : List TypeStats) (current : WeatherType) (fromMs toMs : ℤ) :
    (addType stats current fromMs toMs).map (·.weatherType) =
      if current ∈ stats.map (·.weatherType) then stats.map (·.weatherType)
      else stats.map (·.weatherType) ++ [current] := by
  induction stats with
  | nil => rfl
  | cons slot stats ih =>
    rw [addType]
    split
    · rename_i heq
      simp [heq]
    · rename_i hne
      rw [List.map_cons, ih, List.map_cons]
      simp only [List.mem_cons, Ne.symm hne, false_or]
      split <;> rfl

/-- The slot of the type has become longer, or it is new. -/
theorem mem_addType {stats : List TypeStats} (hnodup : (stats.map (·.weatherType)).Nodup)
    {current : WeatherType} {slot : TypeStats} (h : slot ∈ addType stats current fromMs toMs) :
    (slot ∈ stats ∧ slot.weatherType ≠ current) ∨
      (∃ old ∈ stats, old.weatherType = current ∧
        slot = { old with durationMs := old.durationMs + (toMs - fromMs) }) ∨
      (slot = ⟨current, toMs - fromMs, fromMs⟩ ∧ current ∉ stats.map (·.weatherType)) := by
  induction stats with
  | nil => exact .inr (.inr ⟨List.mem_singleton.mp h, List.not_mem_nil⟩)
  | cons head stats ih =>
    rw [List.map_cons, List.nodup_cons] at hnodup
    rw [addType] at h
    split at h
    · rename_i heq
      rcases List.mem_cons.mp h with rfl | h
      · exact .inr (.inl ⟨head, List.mem_cons_self, heq, rfl⟩)
      · refine .inl ⟨List.mem_cons_of_mem _ h, fun hsame => hnodup.1 ?_⟩
        rw [heq, ← hsame]
        exact List.mem_map_of_mem h
    · rename_i hne
      rcases List.mem_cons.mp h with rfl | h
      · exact .inl ⟨List.mem_cons_self, hne⟩
      · rcases ih hnodup.2 h with ⟨hmem, hother⟩ | ⟨old, hold, heq, hslot⟩ | ⟨hslot, hnone⟩
        · exact .inl ⟨List.mem_cons_of_mem _ hmem, hother⟩
        · exact .inr (.inl ⟨old, List.mem_cons_of_mem _ hold, heq, hslot⟩)
        · refine .inr (.inr ⟨hslot, ?_⟩)
          rw [List.map_cons, List.mem_cons, not_or]
          exact ⟨Ne.symm hne, hnone⟩

theorem StatsOf.addType {stats : List TypeStats} (h : StatsOf entries startMs fromMs stats)
    (hstart : startMs ≤ fromMs) (hlt : fromMs < toMs)
    (hconst : ∀ timeMs, fromMs ≤ timeMs → timeMs < toMs →
      typeAt entries timeMs = typeAt entries fromMs) :
    StatsOf entries startMs toMs (addType stats (typeAt entries fromMs) fromMs toMs) where
  slots slot hslot := by
    rcases mem_addType h.nodup hslot with ⟨hmem, hne⟩ | ⟨old, hold, heq, rfl⟩ | ⟨rfl, hnone⟩
    · exact (h.slots slot hmem).other hstart hlt.le hconst hne
    · exact (h.slots old hold).longer hstart hlt.le hconst heq
    · refine slotOf_new hstart hlt hconst fun timeMs hge hbefore heq => hnone ?_
      rw [← heq]
      exact h.all timeMs hge hbefore
  nodup := by
    rw [addType_types]
    split
    · exact h.nodup
    · rename_i hnone
      exact List.nodup_append.mpr ⟨h.nodup, List.nodup_singleton _, fun a ha b hb => by
        rintro rfl
        exact hnone (List.mem_singleton.mp hb ▸ ha)⟩
  all timeMs hge hbefore := by
    have hmem : timeMs < fromMs ∨ typeAt entries timeMs = typeAt entries fromMs := by
      by_cases hless : timeMs < fromMs
      · exact .inl hless
      · exact .inr (hconst timeMs (not_lt.mp hless) hbefore)
    rw [addType_types]
    rcases hmem with hless | heq
    · have hold := h.all timeMs hge hless
      split
      · exact hold
      · exact List.mem_append_left _ hold
    · rw [heq]
      split
      · assumption
      · exact List.mem_append_right _ List.mem_cons_self

theorem foldWindow_stats (h : Increasing entries) (hlt : startMs < endMs) :
    StatsOf entries startMs endMs (foldWindow (·.weatherType) Weather.addType endMs
      (upcomingEntries entries startMs) startMs (typeAt entries startMs) []) := by
  have hstep : ∀ (fromMs toMs : ℤ) (stats : List TypeStats), fromMs < toMs → toMs ≤ endMs →
      (∀ timeMs, fromMs ≤ timeMs → timeMs < toMs →
        typeAt entries timeMs = typeAt entries fromMs) →
      startMs ≤ fromMs ∧ StatsOf entries startMs fromMs stats →
      startMs ≤ toMs ∧ StatsOf entries startMs toMs
        (Weather.addType stats (typeAt entries fromMs) fromMs toMs) := by
    rintro fromMs toMs stats hfrom - hconst ⟨hstart, hstats⟩
    exact ⟨hstart.trans hfrom.le, hstats.addType hstart hfrom hconst⟩
  have hempty : StatsOf entries startMs startMs [] :=
    ⟨fun slot hslot => absurd hslot List.not_mem_nil, List.nodup_nil,
      fun timeMs hge hbefore => by omega⟩
  exact (foldWindow_induction _ Weather.addType
    (fun toMs stats => startMs ≤ toMs ∧ StatsOf entries startMs toMs stats) hstep
    (follows_upcomingEntries (·.weatherType) .unspecified h startMs) hlt ⟨le_rfl, hempty⟩).2

theorem TypeStats.le_iff (a b : TypeStats) : a.le b = true ↔
    a.durationMs < b.durationMs ∨ (a.durationMs = b.durationMs ∧ (b.firstSeen < a.firstSeen ∨
      (b.firstSeen = a.firstSeen ∧
        weatherTypeOrder b.weatherType ≤ weatherTypeOrder a.weatherType))) := by
  simp [TypeStats.le]

theorem TypeStats.le_refl (a : TypeStats) : a.le a = true :=
  (a.le_iff a).mpr (.inr ⟨rfl, .inr ⟨rfl, le_rfl⟩⟩)

theorem TypeStats.le_trans {a b c : TypeStats} (hab : a.le b = true) (hbc : b.le c = true) :
    a.le c = true := by
  rw [TypeStats.le_iff] at *
  omega

theorem TypeStats.le_of_not_le {a b : TypeStats} (h : ¬ a.le b = true) : b.le a = true := by
  rw [TypeStats.le_iff] at *
  omega

/-- The greatest slot is one of the slots. -/
theorem maxStats_spec {stats : List TypeStats} (hne : stats ≠ []) :
    ∃ best ∈ stats, maxStats stats = some best ∧ ∀ slot ∈ stats, slot.le best = true := by
  obtain ⟨first, rest, rfl⟩ := List.exists_cons_of_ne_nil hne
  suffices h : ∀ (rest : List TypeStats) (first : TypeStats),
      let best := rest.foldl (fun best next => if best.le next then next else best) first
      best ∈ first :: rest ∧ ∀ slot ∈ first :: rest, slot.le best = true from
    ⟨_, (h rest first).1, rfl, (h rest first).2⟩
  intro rest
  induction rest with
  | nil => exact fun first => ⟨List.mem_cons_self, fun slot hslot => by
      rw [List.mem_singleton.mp hslot]
      exact first.le_refl⟩
  | cons next rest ih =>
    intro first
    rw [List.foldl_cons]
    by_cases hle : first.le next = true
    · rw [if_pos hle]
      obtain ⟨hmem, hall⟩ := ih next
      refine ⟨List.mem_cons_of_mem _ hmem, fun slot hslot => ?_⟩
      rcases List.mem_cons.mp hslot with rfl | hslot
      · exact TypeStats.le_trans hle (hall next List.mem_cons_self)
      · exact hall slot hslot
    · rw [if_neg hle]
      obtain ⟨hmem, hall⟩ := ih first
      refine ⟨?_, fun slot hslot => ?_⟩
      · rcases List.mem_cons.mp hmem with hmem | hmem
        · rw [hmem]
          exact List.mem_cons_self
        · exact List.mem_cons_of_mem _ (List.mem_cons_of_mem _ hmem)
      · rcases List.mem_cons.mp hslot with rfl | hslot
        · exact hall slot List.mem_cons_self
        · rcases List.mem_cons.mp hslot with rfl | hslot
          · exact TypeStats.le_trans (TypeStats.le_of_not_le hle) (hall first List.mem_cons_self)
          · exact hall slot (List.mem_cons_of_mem _ hslot)

/-- No type lasts longer than this one, and of those that last as long it is
the one that comes first. -/
structure IsDominant (entries : List ScheduleEntry) (startMs endMs : ℤ) (dominant : WeatherType) :
    Prop where
  most : ∀ other, msOf entries startMs endMs (· == other) ≤
    msOf entries startMs endMs (· == dominant)
  first : ∃ timeMs, startMs ≤ timeMs ∧ timeMs < endMs ∧ typeAt entries timeMs = dominant ∧
    ∀ earlier, startMs ≤ earlier → earlier < timeMs →
      msOf entries startMs endMs (· == typeAt entries earlier) <
        msOf entries startMs endMs (· == dominant)

theorem StatsOf.isDominant {stats : List TypeStats} (h : StatsOf entries startMs endMs stats)
    {best : TypeStats} (hbest : best ∈ stats) (hmax : ∀ slot ∈ stats, slot.le best = true) :
    IsDominant entries startMs endMs best.weatherType where
  most other := by
    have hslot := h.slots best hbest
    by_cases hmem : other ∈ stats.map (·.weatherType)
    · obtain ⟨slot, hother, rfl⟩ := List.mem_map.mp hmem
      have hle := (slot.le_iff best).mp (hmax slot hother)
      have hduration := (h.slots slot hother).duration
      have hbestDuration := hslot.duration
      omega
    · have hzero : msOf entries startMs endMs (· == other) = 0 := by
        rw [msOf, Finset.card_eq_zero, Finset.filter_eq_empty_iff]
        intro timeMs htime hsame
        obtain ⟨hge, hbefore⟩ := Finset.mem_Ico.mp htime
        exact hmem (eq_of_beq hsame ▸ h.all timeMs hge hbefore)
      rw [hzero]
      exact Nat.zero_le _
  first := by
    have hslot := h.slots best hbest
    refine ⟨best.firstSeen, hslot.seen.1, hslot.seen.2, hslot.first, fun earlier hge hlt => ?_⟩
    obtain ⟨slot, hother, htype⟩ := List.mem_map.mp (h.all earlier hge (hlt.trans hslot.seen.2))
    have hle := (slot.le_iff best).mp (hmax slot hother)
    have hduration := (h.slots slot hother).duration
    have hbestDuration := hslot.duration
    have hseen : slot.firstSeen ≤ earlier := by
      by_contra hlater
      exact (h.slots slot hother).before earlier hge (not_le.mp hlater) htype.symm
    rw [htype] at hduration
    omega

end Totals

/-! ## The functions -/

/-- The loops of the three functions come to their end, and the functions
give what the schedule says of the milliseconds of the window. -/
structure AgreesWithSchedule (entries : List ScheduleEntry) (startMs endMs : ℤ) : Prop where
  index : partitionPoint (startedBy startMs) entries ≤ entries.length
  loops : ∀ {α σ : Type} (value : ScheduleEntry → α) (add : σ → α → ℤ → ℤ → σ) (current : α)
    (acc : σ),
    windowLoop value add entries endMs (entries.length + 1)
      (partitionPoint (startedBy startMs) entries) startMs current acc =
        some (foldWindow value add endMs (upcomingEntries entries startMs) startMs current acc)
  rain : rainProbabilityForWindow entries startMs endMs =
    (msOf entries startMs endMs isRainType : F32) / ((endMs - startMs : ℤ) : F32)
  dominant : entries ≠ [] →
    IsDominant entries startMs endMs (dominantWeatherTypeForWindow entries startMs endMs)
  average_none : averageTemperatureCForWindow entries startMs endMs = none ↔
    weatherAt entries startMs = none
  average_some : weatherAt entries startMs ≠ none →
    averageTemperatureCForWindow entries startMs endMs =
      some (clampScheduleTemperatureC (roundF32
        ((∑ timeMs ∈ Finset.Ico startMs endMs, temperatureAt entries timeMs : ℤ) /
          ((endMs - startMs : ℤ) : F32))))

section Functions

variable {entries : List ScheduleEntry} {startMs endMs : ℤ}

theorem msOf_le (p : WeatherType → Bool) (hlt : startMs < endMs) :
    (msOf entries startMs endMs p : ℤ) ≤ endMs - startMs := by
  have hle := Finset.card_filter_le (Finset.Ico startMs endMs) fun timeMs => p (typeAt entries timeMs)
  rw [Int.card_Ico] at hle
  rw [msOf]
  omega

theorem rainProbabilityForWindow_eq (h : Increasing entries) (hlt : startMs < endMs) :
    rainProbabilityForWindow entries startMs endMs =
      (msOf entries startMs endMs isRainType : F32) / ((endMs - startMs : ℤ) : F32) := by
  have hpos : (0 : F32) < ((endMs - startMs : ℤ) : F32) := by exact_mod_cast sub_pos.mpr hlt
  have hle : (msOf entries startMs endMs isRainType : F32) ≤ ((endMs - startMs : ℤ) : F32) := by
    exact_mod_cast msOf_le isRainType hlt
  have hclamp : clampF32 ((msOf entries startMs endMs isRainType : F32) /
      ((endMs - startMs : ℤ) : F32)) 0 1 =
      (msOf entries startMs endMs isRainType : F32) / ((endMs - startMs : ℤ) : F32) := by
    rw [clampF32, if_neg (not_lt.mpr (by positivity)),
      if_neg (not_lt.mpr ((div_le_one hpos).mpr hle))]
  rw [rainProbabilityForWindow, if_neg (not_le.mpr hlt)]
  split
  · rename_i hempty
    obtain rfl := List.isEmpty_iff.mp hempty
    have hzero : msOf [] startMs endMs isRainType = 0 := by
      rw [msOf, Finset.card_eq_zero, Finset.filter_eq_empty_iff]
      exact fun timeMs _ hrain => Bool.false_ne_true hrain
    rw [hzero, Nat.cast_zero, zero_div]
  · have hfold : foldWindow (·.weatherType) addRain endMs (upcomingEntries entries startMs) startMs
        (typeBefore entries startMs) 0 = msOf entries startMs endMs isRainType :=
      foldWindow_rain h hlt
    dsimp only
    rw [hfold, Int.cast_natCast, hclamp]

theorem dominantWeatherTypeForWindow_isDominant (h : Increasing entries) (hlt : startMs < endMs)
    (hne : entries ≠ []) :
    IsDominant entries startMs endMs (dominantWeatherTypeForWindow entries startMs endMs) := by
  have hstats : StatsOf entries startMs endMs (foldWindow (·.weatherType) addType endMs
      (upcomingEntries entries startMs) startMs (typeBefore entries startMs) []) :=
    foldWindow_stats h hlt
  rw [dominantWeatherTypeForWindow, if_neg (by simpa [hne] using hlt)]
  dsimp only
  generalize foldWindow (·.weatherType) addType endMs (upcomingEntries entries startMs) startMs
    (typeBefore entries startMs) [] = stats at hstats ⊢
  have hstatsNe : stats ≠ [] := by
    rintro rfl
    exact List.not_mem_nil (hstats.all startMs le_rfl hlt)
  obtain ⟨best, hbest, hmax, hall⟩ := maxStats_spec hstatsNe
  rw [hmax]
  exact hstats.isDominant hbest hall

theorem averageTemperatureCForWindow_eq (h : Increasing entries) (hlt : startMs < endMs)
    {entry : ScheduleEntry} (hentry : weatherAt entries startMs = some entry) :
    averageTemperatureCForWindow entries startMs endMs =
      some (clampScheduleTemperatureC (roundF32
        ((∑ timeMs ∈ Finset.Ico startMs endMs, temperatureAt entries timeMs : ℤ) /
          ((endMs - startMs : ℤ) : F32)))) := by
  have hne : entries ≠ [] := by
    rintro rfl
    cases hentry
  have hcurrent : temperatureAt entries startMs = entry.temperatureC := by
    rw [temperatureAt, inForce, hentry]
    rfl
  have hfold := foldWindow_temperature h hlt
  rw [hcurrent] at hfold
  rw [averageTemperatureCForWindow, if_neg (by simpa [hne] using hlt), hentry]
  dsimp only
  rw [hfold, if_neg (by simpa using hlt)]

theorem averageTemperatureCForWindow_none (hentry : weatherAt entries startMs = none) :
    averageTemperatureCForWindow entries startMs endMs = none := by
  rw [averageTemperatureCForWindow]
  split
  · rfl
  · rw [hentry]

/-- The functions on windows agree with the schedule. -/
theorem windows_agree (entries : List ScheduleEntry) (startMs endMs : ℤ)
    (h : Increasing entries) (hlt : startMs < endMs) : AgreesWithSchedule entries startMs endMs where
  index := (List.takeWhile_prefix _).length_le
  loops value add current acc :=
    windowLoop_eq_foldWindow value add (Nat.le_add_left _ _) startMs current acc
  rain := rainProbabilityForWindow_eq h hlt
  dominant := dominantWeatherTypeForWindow_isDominant h hlt
  average_none := by
    constructor
    · intro hnone
      by_contra hsome
      obtain ⟨entry, hentry⟩ := Option.ne_none_iff_exists'.mp hsome
      rw [averageTemperatureCForWindow_eq h hlt hentry] at hnone
      cases hnone
    · exact averageTemperatureCForWindow_none
  average_some hsome := by
    obtain ⟨entry, hentry⟩ := Option.ne_none_iff_exists'.mp hsome
    exact averageTemperatureCForWindow_eq h hlt hentry

/-- It rains in the second half of the window. -/
theorem windows_agree_rain :
    AgreesWithSchedule [⟨0, .clear, 20⟩, ⟨5, .lightRain, 15⟩, ⟨20, .clear, 18⟩] 0 10 :=
  windows_agree _ _ _ (by simp [Increasing]) (by decide)

end Functions

end HackArena.Weather
