import Mathlib.Data.Int.Order.Basic
import Mathlib.Data.List.Basic
import V2XHub.Lib.AssocList
import V2XHub.Lib.Throttle

/-!
# Frequency throttles

`Monitor` tells for each key whether it is time again to do something, at most once in a while.
`RemoveStaleKeys` drops the keys that have not been due for long. Both read the clock once. A
duration is measured in ticks of the clock and then cast to the units of the throttle, which rounds
it down; the throttle of a plugin counts milliseconds, its clock may tick faster.
-/

namespace V2XHub.Tmx

open V2XHub.Lib

/-- The ticks of the clock in a unit of `Duration`. -/
structure ClockUnits where
  ticks : Int
  pos : 0 < ticks

variable {κ : Type} [DecidableEq κ]

/-- The times are those of the last `true` of each key, in a map. -/
structure FrequencyThrottle (κ : Type) where
  frequency : Int
  lastTime : { entries : List (κ × Int) // (entries.map Prod.fst).Nodup }

namespace FrequencyThrottle

/-- A throttle with the frequency. `set_Frequency` leaves the map alone. -/
def ofFrequency (frequency : Int) : FrequencyThrottle κ := ⟨frequency, ⟨[], List.nodup_nil⟩⟩

def staleDuration (s : FrequencyThrottle κ) : Int := s.frequency + 5000

/-- `duration_cast<Duration>(now - last)`. -/
def elapsed (u : ClockUnits) (last now : Int) : Int := (now - last).tdiv u.ticks

def find (s : FrequencyThrottle κ) (key : κ) : Option Int := s.lastTime.val.lookup key

/-- `_mapLastTime.insert`, of a key that is not in the map. -/
def insert (s : FrequencyThrottle κ) (key : κ) (now : Int) (h : s.find key = none) :
    FrequencyThrottle κ :=
  { s with
    lastTime := ⟨(key, now) :: s.lastTime.val,
      List.nodup_cons.mpr ⟨lookup_eq_none_iff_not_mem.mp h, s.lastTime.property⟩⟩ }

/-- `it->second = now`. -/
def assign (s : FrequencyThrottle κ) (key : κ) (now : Int) : FrequencyThrottle κ :=
  { s with
    lastTime := ⟨s.lastTime.val.map fun e => (e.1, if e.1 = key then now else e.2), by
      rw [List.map_map]
      exact s.lastTime.property⟩ }

def monitor (u : ClockUnits) (s : FrequencyThrottle κ) (key : κ) (now : Int) :
    FrequencyThrottle κ × Bool :=
  match h : s.find key with
  | none => (s.insert key now h, true)
  | some last =>
      if elapsed u last now ≥ s.frequency then (s.assign key now, true) else (s, false)

def removeStaleKeys (u : ClockUnits) (s : FrequencyThrottle κ) (now : Int) :
    FrequencyThrottle κ :=
  { s with
    lastTime := ⟨s.lastTime.val.filter fun e => ¬ elapsed u e.2 now ≥ s.staleDuration,
      s.lastTime.property.sublist (List.filter_sublist.map _)⟩ }

inductive Call (κ : Type)
  | monitor (key : κ)
  | removeStaleKeys
  deriving DecidableEq, Repr

/-- The results of `Monitor` in a sequence of calls, each with the time that the clock shows. -/
def results (u : ClockUnits) (s : FrequencyThrottle κ) :
    List (Call κ × Int) → List (Admission κ Int)
  | [] => []
  | (.monitor key, now) :: calls =>
      ⟨key, now, (s.monitor u key now).2⟩ :: results u (s.monitor u key now).1 calls
  | (.removeStaleKeys, now) :: calls => results u (s.removeStaleKeys u now) calls

/-- The keys that are monitored, and when. -/
def monitored (calls : List (Call κ × Int)) : List (κ × Int) :=
  calls.filterMap fun c =>
    match c.1 with
    | .monitor key => some (key, c.2)
    | .removeStaleKeys => none

/-! ## The throttle and the one that forgets nothing -/

variable {u : ClockUnits} {s : FrequencyThrottle κ}

/-- The frequency has passed. -/
def passed (u : ClockUnits) (frequency last now : Int) : Bool := frequency ≤ elapsed u last now

/-- The cast rounds down, so it does not matter which side is cast. -/
theorem passed_iff {frequency last now : Int} (h : last ≤ now) :
    passed u frequency last now = true ↔ frequency * u.ticks ≤ now - last := by
  have hnonneg : 0 ≤ now - last := Int.sub_nonneg.mpr h
  rw [passed, decide_eq_true_eq, elapsed, Int.tdiv_eq_ediv_of_nonneg hnonneg]
  exact Int.le_ediv_iff_mul_le u.pos

theorem elapsed_mono {last now later : Int} (hlast : last ≤ now) (hle : now ≤ later) :
    elapsed u last now ≤ elapsed u last later := by
  unfold elapsed
  rw [Int.tdiv_eq_ediv_of_nonneg (by omega), Int.tdiv_eq_ediv_of_nonneg (by omega)]
  exact Int.ediv_le_ediv u.pos (by omega)

theorem find_insert (key : κ) (now : Int) (h : s.find key = none) :
    (s.insert key now h).find = Function.update s.find key (some now) := by
  funext k
  show List.lookup k ((key, now) :: s.lastTime.val) = _
  by_cases heq : k = key
  · rw [heq, List.lookup_cons_self, Function.update_self]
  · rw [Function.update_of_ne heq, List.lookup_cons, beq_eq_false_iff_ne.mpr heq]
    rfl

theorem find_assign {key : κ} {last : Int} (now : Int) (h : s.find key = some last) :
    (s.assign key now).find = Function.update s.find key (some now) := by
  funext k
  have hmap : (s.assign key now).find k =
      (s.find k).map fun t => if k = key then now else t :=
    lookup_map (fun k t => if k = key then now else t) s.lastTime.val k
  rw [hmap]
  by_cases heq : k = key
  · rw [heq, h, Function.update_self]
    simp
  · rw [Function.update_of_ne heq]
    simp [heq]

theorem find_removeStaleKeys (now : Int) (key : κ) :
    (s.removeStaleKeys u now).find key =
      (s.find key).filter fun last => ¬ elapsed u last now ≥ s.staleDuration :=
  lookup_filter s.lastTime.property _ key

/-- `Monitor` answers from the last time of the key, and remembers the time of a `true`. -/
theorem monitor_eq (key : κ) (now : Int) :
    (s.monitor u key now).2 = (s.find key).all (passed u s.frequency · now) ∧
      (s.monitor u key now).1.find = remember (passed u s.frequency) s.find key now ∧
      (s.monitor u key now).1.frequency = s.frequency := by
  unfold monitor remember
  split
  · next h =>
      have hall : (s.find key).all (passed u s.frequency · now) = true := by rw [h]; rfl
      rw [if_pos hall]
      exact ⟨hall.symm, find_insert key now h, rfl⟩
  · next last h =>
      rw [h]
      by_cases hpassed : elapsed u last now ≥ s.frequency
      · have hall : (some last).all (passed u s.frequency · now) = true := decide_eq_true hpassed
        rw [if_pos hpassed, if_pos hall]
        exact ⟨hall.symm, find_assign now h, rfl⟩
      · have hall : (some last).all (passed u s.frequency · now) = false := decide_eq_false hpassed
        rw [if_neg hpassed, hall, if_neg Bool.false_ne_true]
        exact ⟨rfl, rfl, rfl⟩

/-- What is dropped as stale has passed, and will have passed at every later time. -/
theorem removeStaleKeys_forgets {now : Int} (hpast : ∀ k t, s.find k = some t → t ≤ now) (key : κ) :
    (s.removeStaleKeys u now).find key = s.find key ∨
      (s.removeStaleKeys u now).find key = none ∧
        ∀ t, s.find key = some t → ∀ v, now ≤ v → passed u s.frequency t v = true := by
  rw [find_removeStaleKeys]
  cases hfind : s.find key with
  | none => exact .inl rfl
  | some t =>
      by_cases hstale : elapsed u t now ≥ s.staleDuration
      · right
        refine ⟨by simp [hstale], ?_⟩
        intro t' ht' v hv
        cases ht'
        have hmono := elapsed_mono (u := u) (hpast key t hfind) hv
        unfold staleDuration at hstale
        exact decide_eq_true (by omega)
      · left
        simpa using hstale

/-! ## Calls in a row -/

/-- The clock does not go back. -/
def ClockRuns (calls : List (Call κ × Int)) : Prop := (calls.map Prod.snd).Pairwise (· ≤ ·)

/-- The throttle and the one that forgets nothing at a time: what is kept of its times, and that
none of them lies ahead. -/
structure Follows (u : ClockUnits) (s : FrequencyThrottle κ) (last : κ → Option Int) (now : Int) :
    Prop where
  keeps : Keeps (passed u s.frequency) last s.find now
  past : ∀ k t, s.find k = some t → t ≤ now

namespace Follows

variable {last : κ → Option Int} {now later : Int}

theorem mono (h : Follows u s last now) (hle : now ≤ later) : Follows u s last later where
  keeps := h.keeps.mono hle
  past k t ht := (h.past k t ht).trans hle

theorem monitor (h : Follows u s last now) (hle : now ≤ later) (key : κ) :
    Follows u (s.monitor u key later).1 (remember (passed u s.frequency) last key later) later := by
  obtain ⟨-, hfind, hfrequency⟩ := s.monitor_eq (u := u) key later
  constructor
  · rw [hfrequency, hfind]
    exact h.keeps.remember hle key
  · intro k t ht
    rw [hfind, remember] at ht
    split_ifs at ht with hall
    · by_cases heq : k = key
      · rw [heq, Function.update_self] at ht
        cases ht
        exact Int.le_refl _
      · rw [Function.update_of_ne heq] at ht
        exact (h.past k t ht).trans hle
    · exact (h.past k t ht).trans hle

theorem removeStaleKeys (h : Follows u s last now) :
    Follows u (s.removeStaleKeys u now) last now := by
  constructor
  · exact h.keeps.forget (removeStaleKeys_forgets h.past)
  · intro k t ht
    rw [find_removeStaleKeys] at ht
    exact h.past k t (Option.filter_eq_some_iff.mp ht).1

end Follows

/-- **The throttle answers like the one that forgets nothing**, wherever keys are dropped. -/
theorem results_eq_throttle {last : κ → Option Int} {now : Int} {calls : List (Call κ × Int)}
    (h : Follows u s last now) (hnow : ∀ c ∈ calls, now ≤ c.2) (hclock : ClockRuns calls) :
    results u s calls = throttle (passed u s.frequency) last (monitored calls) := by
  induction calls generalizing s last now with
  | nil => rfl
  | cons c calls ih =>
      obtain ⟨call, time⟩ := c
      obtain ⟨htime, -⟩ := List.forall_mem_cons.mp hnow
      obtain ⟨hlater, hrest⟩ := List.pairwise_cons.mp hclock
      have hafter : ∀ c ∈ calls, time ≤ c.2 := fun c hc => hlater c.2 (List.mem_map_of_mem hc)
      cases call with
      | monitor key =>
          obtain ⟨hanswer, -, hfrequency⟩ := s.monitor_eq (u := u) key time
          have hcalls :
              monitored ((.monitor key, time) :: calls) = (key, time) :: monitored calls := rfl
          rw [results, hcalls, throttle, ih (h.monitor htime key) hafter hrest, hfrequency, hanswer,
            h.keeps.admits_eq htime]
      | removeStaleKeys =>
          have hcalls : monitored ((.removeStaleKeys, time) :: calls) = monitored calls := rfl
          rw [results, hcalls, ih (h.mono htime).removeStaleKeys hafter hrest]
          rfl

theorem results_ofFrequency (u : ClockUnits) (frequency : Int) {calls : List (Call κ × Int)}
    (hclock : ClockRuns calls) :
    results u (ofFrequency frequency) calls =
      throttle (passed u frequency) (fun _ => none) (monitored calls) := by
  cases calls with
  | nil => rfl
  | cons c calls =>
      have hnow : ∀ d ∈ c :: calls, c.2 ≤ d.2 := by
        have hlater := (List.pairwise_cons.mp hclock).1
        refine List.forall_mem_cons.mpr ⟨Int.le_refl _, fun d hd => ?_⟩
        exact hlater d.2 (List.mem_map_of_mem hd)
      exact results_eq_throttle ⟨.refl _ _, fun k t ht => nomatch ht⟩ hnow hclock

theorem map_time_throttle {due : Int → Int → Bool} (last : κ → Option Int)
    (calls : List (κ × Int)) :
    (throttle due last calls).map Admission.time = calls.map Prod.snd := by
  induction calls generalizing last with
  | nil => rfl
  | cons c calls ih => rw [throttle, List.map_cons, List.map_cons, ih]

omit [DecidableEq κ] in
theorem monitored_sublist (calls : List (Call κ × Int)) :
    ((monitored calls).map Prod.snd).Sublist (calls.map Prod.snd) := by
  induction calls with
  | nil => exact .slnil
  | cons c calls ih =>
      obtain ⟨call, time⟩ := c
      cases call with
      | monitor key => exact ih.cons_cons time
      | removeStaleKeys => exact ih.cons time

/-- What is asked of the results of `Monitor`: for each key, a `true` at once, not again before the
frequency has passed, and again when it has. -/
structure Throttled (u : ClockUnits) (frequency : Int) (l : List (Admission κ Int)) : Prop where
  apart : ∀ before a between b after, l = before ++ a :: (between ++ b :: after) →
    a.key = b.key → a.admitted = true → b.admitted = true →
      (∀ c ∈ between, c.key = b.key → c.admitted = false) →
        frequency * u.ticks ≤ b.time - a.time
  due : ∀ before a between b after, l = before ++ a :: (between ++ b :: after) →
    a.key = b.key → a.admitted = true → (∀ c ∈ between, c.key = b.key → c.admitted = false) →
      frequency * u.ticks ≤ b.time - a.time → b.admitted = true
  new : ∀ before b after, l = before ++ b :: after → (∀ a ∈ before, a.key ≠ b.key) →
    b.admitted = true

theorem Throttled.of_throttles {frequency : Int} {l : List (Admission κ Int)}
    (h : Throttles (passed u frequency) l) (hclock : (l.map Admission.time).Pairwise (· ≤ ·)) :
    Throttled u frequency l := by
  have hle : ∀ before a between b after, l = before ++ a :: (between ++ b :: after) →
      a.time ≤ b.time := by
    rintro before a between b after rfl
    have hafter := (List.pairwise_append.mp (List.pairwise_map.mp hclock)).2.1
    exact (List.pairwise_cons.mp hafter).1 b (by simp)
  constructor
  · intro before a between b after hl hkey ha hb hbetween
    exact (passed_iff (hle _ _ _ _ _ hl)).mp (h.due_of_successive hl hkey ha hb hbetween)
  · intro before a between b after hl hkey ha hbetween hpassed
    exact h.admitted_of_due hl hkey ha hbetween ((passed_iff (hle _ _ _ _ _ hl)).mpr hpassed)
  · intro before b after hl hnew
    exact h.admitted_of_new hl hnew

/-- **The throttle throttles**, and nobody can tell when stale keys are removed: calls that monitor
the same keys at the same times have the same results. -/
theorem monitor_throttled (u : ClockUnits) (frequency : Int) (calls : List (Call κ × Int))
    (hclock : ClockRuns calls) :
    Throttled u frequency (results u (ofFrequency frequency) calls) ∧
      ∀ calls' : List (Call κ × Int), ClockRuns calls' → monitored calls' = monitored calls →
        results u (ofFrequency frequency) calls' = results u (ofFrequency frequency) calls := by
  constructor
  · rw [results_ofFrequency u frequency hclock]
    refine .of_throttles (throttles_throttle _) ?_
    rw [map_time_throttle]
    exact hclock.sublist (monitored_sublist calls)
  · intro calls' hclock' hsame
    rw [results_ofFrequency u frequency hclock', results_ofFrequency u frequency hclock, hsame]

/-- A key that is asked for at 0, 1999 and 2000 ms and, just after it was removed, at 9 s. -/
theorem monitor_throttled_two_seconds :
    let u : ClockUnits := ⟨1000000, by decide⟩
    let calls : List (Call String × Int) :=
      [(.monitor "SPAT-P", 0), (.monitor "SPAT-P", 1999000000), (.monitor "SPAT-P", 2000000000),
        (.removeStaleKeys, 9000000000), (.monitor "SPAT-P", 9000000000)]
    Throttled u 2000 (results u (ofFrequency 2000) calls) ∧
      ∀ calls' : List (Call String × Int), ClockRuns calls' → monitored calls' = monitored calls →
        results u (ofFrequency 2000) calls' = results u (ofFrequency 2000) calls :=
  monitor_throttled ⟨1000000, by decide⟩ 2000 _ (by unfold ClockRuns; decide)

example :
    (results ⟨1000000, by decide⟩ (ofFrequency 2000)
      [(.monitor "SPAT-P", 0), (.monitor "SPAT-P", 1999000000), (.monitor "SPAT-P", 2000000000),
        (.removeStaleKeys, 9000000000), (.monitor "SPAT-P", 9000000000)]).map Admission.admitted =
      [true, false, true, true] := by
  decide

end FrequencyThrottle

end V2XHub.Tmx
