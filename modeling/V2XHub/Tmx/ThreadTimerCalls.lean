import V2XHub.Tmx.ThreadTimer
import V2XHub.Lib.Tables

/-!
# The steps of the timer and the period between calls

The laws are about the log of a timer: no call comes before the start delay is over, two calls are a
period apart unless the tick is triggered between them, and a triggered tick is called by the end of
the next pass. The second holds in all runs, since only the thread itself and `TriggerNow` write the
last time of a tick.
-/

namespace V2XHub.Tmx

open V2XHub.Lib

theorem PeriodicTickData.due_iff (t : PeriodicTickData) (now : Int) :
    t.due now = true ↔ 0 < t.frequency ∧ t.lastTickTime + ns t.frequency ≤ now := by
  unfold due ns
  rw [decide_eq_true_iff]
  apply and_congr_right
  intro hpos
  by_cases hnow : 0 ≤ now - t.lastTickTime
  · rw [Int.tdiv_eq_ediv_of_nonneg hnow]
    omega
  · have hneg : (now - t.lastTickTime).tdiv 1000000 ≤ 0 := by
      have hopp : 0 ≤ (-(now - t.lastTickTime)).tdiv 1000000 :=
        Int.tdiv_nonneg (by omega) (by decide)
      rw [Int.neg_tdiv] at hopp
      omega
    omega

/-! ## The laws -/

namespace TimerEntry

/-- The calls of a tick since it was last triggered. -/
@[grind =]
def untriggeredCalls (id : Nat) : List TimerEntry → List Int
  | [] => []
  | .called i time _ :: log =>
      if i = id then time :: untriggeredCalls id log else untriggeredCalls id log
  | .triggered i _ :: log => if i = id then [] else untriggeredCalls id log
  | .added _ _ _ :: log | .started _ :: log | .passBegun :: log | .passEnded :: log =>
      untriggeredCalls id log

/-- The tick was triggered with a positive frequency, and not called since. -/
@[grind =]
def pending (id : Nat) : List TimerEntry → Bool
  | [] => false
  | .called i _ _ :: log => i ≠ id ∧ pending id log
  | .triggered i frequency :: log => (i = id ∧ 0 < frequency) ∨ pending id log
  | .added _ _ _ :: log | .started _ :: log | .passBegun :: log | .passEnded :: log =>
      pending id log

/-- The tick was triggered before the pass, and not called in it. -/
@[grind =]
def missed (id : Nat) : List TimerEntry → Bool
  | [] => false
  | .passBegun :: log => pending id log
  | .called i _ _ :: log => i ≠ id ∧ missed id log
  | .added _ _ _ :: log | .started _ :: log | .triggered _ _ :: log | .passEnded :: log =>
      missed id log

/-- A call does not come before the start delay has passed, since the tick was added and since the
timer was started. -/
def AfterDelay (earlier : List TimerEntry) : TimerEntry → Prop
  | .called id now _ => ∀ time startDelay, .added id time startDelay ∈ earlier →
      time + ns startDelay ≤ now ∧ ∀ start, .started start ∈ earlier → start + ns startDelay ≤ now
  | _ => True

/-- A call comes a period after those since the last trigger. -/
def AfterPeriod (earlier : List TimerEntry) : TimerEntry → Prop
  | .called id now frequency => ∀ last ∈ untriggeredCalls id earlier, last + ns frequency ≤ now
  | _ => True

/-- A pass does not end before the ticks that were triggered before it have been called. -/
def AfterTriggered (earlier : List TimerEntry) : TimerEntry → Prop
  | .passEnded => ∀ id, missed id earlier = false
  | _ => True

/-- What is asked of an entry, given those before it, holds of every entry of a log. -/
def Throughout (P : List TimerEntry → TimerEntry → Prop) : List TimerEntry → Prop
  | [] => True
  | e :: earlier => P earlier e ∧ Throughout P earlier

end TimerEntry

/-- The initial times are set, and the thread is in its loop. -/
@[grind =]
def TimerPhase.looping : TimerPhase → Bool
  | .notStarted | .starting _ => false
  | .sleeping | .looking _ | .copied _ _ | .calling _ _ => true

namespace ThreadTimer

open TimerEntry

/-! ## What one step can do -/

section

variable {s s' : ThreadTimer}

/-- The steps, with the state each of them leads to. -/
inductive Moves (s : ThreadTimer) : Event → ThreadTimer → Prop
  | add {frequency startDelay now : Int} (hclock : s.clock ≤ now) :
      Moves s (.addPeriodicTick frequency startDelay now)
        { s with
          clock := now
          periodicTicks := s.periodicTicks ++ [⟨frequency, startDelay, 0, now⟩]
          log := .added s.periodicTicks.length now startDelay :: s.log }
  | change {id : Nat} {frequency : Int} :
      Moves s (.changeFrequency id frequency)
        { s with
          periodicTicks := s.periodicTicks.modify id fun t => { t with frequency := frequency } }
  | invalidTrigger {id : Nat} {now : Int} (hid : s.periodicTicks[id]? = none) :
      Moves s (.triggerNow id now) s
  | trigger {id : Nat} {now : Int} {t : PeriodicTickData} (hid : s.periodicTicks[id]? = some t)
      (hclock : s.clock ≤ now) :
      Moves s (.triggerNow id now)
        { s with
          clock := now
          periodicTicks := s.periodicTicks.modify id fun t =>
            { t with lastTickTime := now - ns t.frequency }
          log := .triggered id t.frequency :: s.log }
  | start {now : Int} (hphase : s.phase = .notStarted) (hclock : s.clock ≤ now) :
      Moves s (.start now)
        { s with
          clock := now
          phase := .starting now
          startTime := some now
          log := .started now :: s.log }
  | setInitialTimes {startTime : Int} (hphase : s.phase = .starting startTime) :
      Moves s .setInitialTimes
        { s with
          periodicTicks := s.periodicTicks.map (initialTick startTime)
          phase := .sleeping }
  | beginPass (hphase : s.phase = .sleeping) :
      Moves s .beginPass { s with phase := .looking 0, log := .passBegun :: s.log }
  | copyTick {index : Nat} {t : PeriodicTickData} (hphase : s.phase = .looking index)
      (hid : s.periodicTicks[index]? = some t) :
      Moves s .copyTick { s with phase := .copied index t }
  | endPass {index : Nat} (hphase : s.phase = .looking index)
      (hid : s.periodicTicks[index]? = none) :
      Moves s .copyTick { s with phase := .sleeping, log := .passEnded :: s.log }
  | call {index : Nat} {t : PeriodicTickData} {now : Int} (hphase : s.phase = .copied index t)
      (hclock : s.clock ≤ now) (hdue : t.due now = true) :
      Moves s (.check now)
        { s with
          clock := now
          phase := .calling index now
          log := .called index now t.frequency :: s.log }
  | skip {index : Nat} {t : PeriodicTickData} {now : Int} (hphase : s.phase = .copied index t)
      (hclock : s.clock ≤ now) (hdue : t.due now = false) :
      Moves s (.check now) { s with clock := now, phase := .looking (index + 1) }
  | writeBack {index : Nat} {now : Int} (hphase : s.phase = .calling index now) :
      Moves s .writeBack
        { s with
          periodicTicks := s.periodicTicks.modify index fun t => { t with lastTickTime := now }
          phase := .looking (index + 1) }

theorem moves_of_step {e : Event} (h : s.step e = some s') : Moves s e s' := by
  cases e with
  | addPeriodicTick frequency startDelay now =>
      unfold step at h
      dsimp only at h
      split at h
      · cases h
        exact .add ‹_›
      · cases h
  | changeFrequency id frequency =>
      cases h
      exact .change
  | triggerNow id now =>
      unfold step at h
      dsimp only at h
      split at h
      · obtain rfl := Option.some.inj h
        exact .invalidTrigger ‹_›
      · split at h
        · cases h
          exact .trigger ‹_› ‹_›
        · cases h
  | start now =>
      unfold step at h
      dsimp only at h
      split at h
      · next hguard =>
          cases h
          exact .start hguard.1 hguard.2
      · cases h
  | setInitialTimes =>
      unfold step at h
      dsimp only at h
      split at h
      · cases h
        exact .setInitialTimes ‹_›
      · cases h
  | beginPass =>
      unfold step at h
      dsimp only at h
      split at h
      · cases h
        exact .beginPass ‹_›
      · cases h
  | copyTick =>
      unfold step at h
      dsimp only at h
      split at h
      · split at h
        · cases h
          exact .copyTick ‹_› ‹_›
        · cases h
          exact .endPass ‹_› ‹_›
      · cases h
  | check now =>
      unfold step at h
      dsimp only at h
      split at h
      · split at h
        · split at h
          · cases h
            exact .call ‹_› ‹_› ‹_›
          · next hdue =>
              cases h
              exact .skip ‹_› ‹_› (by simpa using hdue)
        · cases h
      · cases h
  | writeBack =>
      unfold step at h
      dsimp only at h
      split at h
      · cases h
        exact .writeBack ‹_›
      · cases h

end

/-- What the log says of the start and of additions is in the state, and the thread is at a tick
that exists. -/
structure Recorded (s : ThreadTimer) : Prop where
  notStarted : s.phase = .notStarted → s.startTime = none
  starting : ∀ start, s.phase = .starting start → s.startTime = some start
  clock : ∀ start, s.startTime = some start → start ≤ s.clock
  started : ∀ start, .started start ∈ s.log → s.startTime = some start
  added : ∀ id time startDelay, .added id time startDelay ∈ s.log →
    id < s.periodicTicks.length ∧
      ∀ t, s.periodicTicks[id]? = some t → t.addedAt = time ∧ t.startDelay = startDelay
  copied : ∀ id t, s.phase = .copied id t → id < s.periodicTicks.length
  calling : ∀ id now, s.phase = .calling id now → id < s.periodicTicks.length

theorem recorded_step {e : Event} {s s' : ThreadTimer} (h : s.Recorded) (hmove : Moves s e s') :
    s'.Recorded := by
  have hadded := h.added
  have hcopied := h.copied
  have hcalling := h.calling
  -- no move changes when a tick was added or its delay, and none takes a tick away
  cases hmove with
  | add hle =>
      exact { h with
        clock := fun start hstart => Int.le_trans (h.clock start hstart) hle
        started := fun start hmem => h.started start ((List.mem_cons.mp hmem).resolve_left nofun)
        added := by grind
        copied := by grind
        calling := by grind }
  | change => exact { h with added := by grind, copied := by grind, calling := by grind }
  | invalidTrigger => exact h
  | trigger hid hle =>
      exact { h with
        clock := fun start hstart => Int.le_trans (h.clock start hstart) hle
        started := fun start hmem => h.started start ((List.mem_cons.mp hmem).resolve_left nofun)
        added := by grind
        copied := by grind
        calling := by grind }
  | start hphase hle =>
      have hnone := h.notStarted hphase
      have hstarted := h.started
      exact {
        notStarted := nofun
        starting := by grind
        clock := by grind
        started := by grind
        added := by grind
        copied := nofun
        calling := nofun }
  | setInitialTimes hphase =>
      exact { h with
        notStarted := nofun
        starting := nofun
        added := by grind [initialTick]
        copied := nofun
        calling := nofun }
  | beginPass hphase =>
      exact { h with
        notStarted := nofun
        starting := nofun
        started := fun start hmem => h.started start ((List.mem_cons.mp hmem).resolve_left nofun)
        added := by grind
        copied := nofun
        calling := nofun }
  | copyTick hphase hid =>
      exact { h with
        notStarted := nofun, starting := nofun, copied := by grind, calling := nofun }
  | endPass hphase hid =>
      exact { h with
        notStarted := nofun
        starting := nofun
        started := fun start hmem => h.started start ((List.mem_cons.mp hmem).resolve_left nofun)
        added := by grind
        copied := nofun
        calling := nofun }
  | call hphase hle hdue =>
      exact {
        notStarted := nofun
        starting := nofun
        clock := fun start hstart => Int.le_trans (h.clock start hstart) hle
        started := fun start hmem => h.started start ((List.mem_cons.mp hmem).resolve_left nofun)
        added := by grind
        copied := nofun
        calling := by grind }
  | skip hphase hle hdue =>
      exact { h with
        notStarted := nofun
        starting := nofun
        clock := fun start hstart => Int.le_trans (h.clock start hstart) hle
        copied := nofun
        calling := nofun }
  | writeBack hphase =>
      exact { h with
        notStarted := nofun, starting := nofun, added := by grind, copied := nofun
        calling := nofun }

/-! ## Calls are a period apart -/

/-- The calls since the last trigger are not later than what the next call is compared with. -/
structure Spaced (s : ThreadTimer) : Prop where
  clock : ∀ id, ∀ last ∈ untriggeredCalls id s.log, last ≤ s.clock
  looping : s.phase.looping = false → ∀ id, untriggeredCalls id s.log = []
  known : ∀ id, s.periodicTicks.length ≤ id → untriggeredCalls id s.log = []
  kept : ∀ id t, s.periodicTicks[id]? = some t → (∀ now, s.phase ≠ .calling id now) →
    ∀ last ∈ untriggeredCalls id s.log, last ≤ t.lastTickTime
  copied : ∀ id t, s.phase = .copied id t →
    ∀ last ∈ untriggeredCalls id s.log, last ≤ t.lastTickTime
  calling : ∀ id now, s.phase = .calling id now →
    ∀ last ∈ untriggeredCalls id s.log, last ≤ now

theorem spaced_step {e : Event} {s s' : ThreadTimer} (h : s.Spaced) (hrec : s.Recorded)
    (hmove : Moves s e s') : s'.Spaced := by
  have hknown := h.known
  have hkept := h.kept
  cases hmove with
  | add hle =>
      exact { h with
        clock := fun id last hlast => Int.le_trans (h.clock id last hlast) hle
        known := by grind
        kept := by grind }
  | change => exact { h with known := by grind, kept := by grind }
  | invalidTrigger => exact h
  | trigger hid hle =>
      -- of the triggered tick there are no calls to compare with
      have hclock := h.clock
      have hlooping := h.looping
      have hcopied := h.copied
      have hcalling := h.calling
      constructor <;> grind
  | start hphase hle =>
      have hnone : ∀ id, untriggeredCalls id s.log = [] :=
        h.looping (hphase ▸ rfl)
      exact {
        clock := fun id last hlast => Int.le_trans (h.clock id last hlast) hle
        looping := fun _ => hnone
        known := fun id _ => hnone id
        kept := by grind
        copied := nofun
        calling := nofun }
  | setInitialTimes hphase =>
      have hnone : ∀ id, untriggeredCalls id s.log = [] :=
        h.looping (hphase ▸ rfl)
      exact { h with
        looping := nofun
        known := fun id _ => hnone id
        kept := by grind
        copied := nofun
        calling := nofun }
  | beginPass hphase =>
      exact { h with
        looping := nofun
        kept := fun id t ht _ => h.kept id t ht (by rw [hphase]; nofun)
        copied := nofun
        calling := nofun }
  | copyTick hphase hid =>
      have hnotCalling : ∀ id now, s.phase ≠ .calling id now := by
        rw [hphase]
        nofun
      exact { h with
        looping := nofun
        kept := fun id t ht _ => h.kept id t ht (hnotCalling id)
        copied := by
          rintro _ _ ⟨⟩
          exact h.kept _ _ hid (hnotCalling _)
        calling := nofun }
  | endPass hphase hid =>
      exact { h with
        looping := nofun
        kept := fun id t ht _ => h.kept id t ht (by rw [hphase]; nofun)
        copied := nofun
        calling := nofun }
  | @call index t now hphase hle hdue =>
      have hclock := h.clock
      have hcopiedAt := hrec.copied
      exact {
        clock := by grind
        looping := nofun
        known := by grind
        kept := by
          intro id t' ht' hnot last hlast
          have hne : index ≠ id := by
            rintro rfl
            exact hnot now rfl
          rw [untriggeredCalls, if_neg hne] at hlast
          exact h.kept id t' ht' (by rw [hphase]; nofun) last hlast
        copied := nofun
        calling := by grind }
  | skip hphase hle hdue =>
      exact {
        clock := fun id last hlast => Int.le_trans (h.clock id last hlast) hle
        looping := nofun
        known := h.known
        kept := fun id t ht _ => h.kept id t ht (by rw [hphase]; nofun)
        copied := nofun
        calling := nofun }
  | writeBack hphase =>
      have hcalling := h.calling
      exact { h with
        looping := nofun
        known := by grind
        kept := by grind
        copied := nofun
        calling := nofun }

/-- A step that keeps the log lawful where the laws ask for something keeps it lawful. -/
theorem throughout_step {e : Event} {s s' : ThreadTimer}
    {P : List TimerEntry → TimerEntry → Prop} (hmove : Moves s e s')
    (h : Throughout P s.log)
    (hcall : ∀ index t now, s.phase = .copied index t → s.clock ≤ now → t.due now = true →
      P s.log (.called index now t.frequency))
    (hend : ∀ index : Nat, s.phase = .looking index → s.periodicTicks[index]? = none →
      P s.log .passEnded)
    (hother : ∀ e, (∀ id time frequency, e ≠ .called id time frequency) → e ≠ .passEnded →
      P s.log e) : Throughout P s'.log := by
  cases hmove with
  | call hphase hle hdue => exact ⟨hcall _ _ _ hphase hle hdue, h⟩
  | endPass hphase hid => exact ⟨hend _ hphase hid, h⟩
  | add | trigger | start | beginPass => exact ⟨hother _ nofun nofun, h⟩
  | change | invalidTrigger | setInitialTimes | copyTick | skip | writeBack => exact h

theorem afterPeriod_call {s : ThreadTimer} {index : Nat} {t : PeriodicTickData} {now : Int}
    (h : s.Spaced) (hphase : s.phase = .copied index t)
    (hdue : t.due now = true) : AfterPeriod s.log (.called index now t.frequency) := by
  intro last hmem
  obtain ⟨_, hlast⟩ := (t.due_iff now).mp hdue
  have hkept := h.copied index t hphase last hmem
  omega

/-- Before anything has happened. -/
theorem recorded_initial (clock : Int) : Recorded { clock := clock } :=
  ⟨fun _ => rfl, nofun, nofun, nofun, nofun, nofun, nofun⟩

/-- Calls are a period apart in every run. -/
theorem afterPeriod_of_run {clock : Int} {es : List Event} {s : ThreadTimer}
    (h : Run (Steps step) { clock := clock } es s) : Throughout AfterPeriod s.log := by
  have hinv : s.Recorded ∧ s.Spaced ∧ Throughout AfterPeriod s.log := by
    apply h.invariant (I := fun s => s.Recorded ∧ s.Spaced ∧ Throughout AfterPeriod s.log)
    · rintro s e s' ⟨hrec, hspaced, hlog⟩ hstep
      have hmove := moves_of_step hstep
      refine ⟨recorded_step hrec hmove, spaced_step hspaced hrec hmove, ?_⟩
      apply throughout_step hmove hlog
      · intro index t now hphase _ hdue
        exact afterPeriod_call hspaced hphase hdue
      · intro _ _ _
        trivial
      · intro e hcalled _
        cases e with
        | called id time frequency => exact absurd rfl (hcalled id time frequency)
        | _ => trivial
    · exact ⟨recorded_initial clock, ⟨nofun, fun _ _ => rfl, fun _ _ => rfl, nofun, nofun, nofun⟩,
        trivial⟩
  exact hinv.2.2

end ThreadTimer

end V2XHub.Tmx
