import V2XHub.Tmx.ThreadTimerCalls

/-!
# Start delays and triggers

Whether a call waits for the start delay, and whether a trigger is followed by a call, depends on
what the other threads do and when: a tick that is added late has no initial time, a frequency that
is lowered makes the first call come early, and a trigger is lost if the time of an earlier call is
written over it.
-/

namespace V2XHub.Tmx

open V2XHub.Lib

namespace ThreadTimer

open TimerEntry

/-! ## No call before the start delay -/

/-- The time before which the tick must not be called. -/
def readyTime (startTime : Option Int) (t : PeriodicTickData) : Int :=
  max t.addedAt (startTime.getD t.addedAt) + ns t.startDelay

theorem readyTime_of_le {startTime : Option Int} {t : PeriodicTickData}
    (h : ∀ start, startTime = some start → start ≤ t.addedAt) :
    readyTime startTime t = t.addedAt + ns t.startDelay := by
  unfold readyTime
  cases startTime with
  | none => rw [Option.getD_none, Int.max_self]
  | some start => rw [Option.getD_some, Int.max_eq_left (h start rfl)]

@[grind =]
theorem readyTime_frequency (startTime : Option Int) (t : PeriodicTickData) (frequency : Int) :
    readyTime startTime { t with frequency := frequency } = readyTime startTime t := rfl

@[grind =]
theorem readyTime_lastTickTime (startTime : Option Int) (t : PeriodicTickData) (last : Int) :
    readyTime startTime { t with lastTickTime := last } = readyTime startTime t := rfl

theorem readyTime_congr {startTime : Option Int} {t t' : PeriodicTickData}
    (hadded : t'.addedAt = t.addedAt) (hdelay : t'.startDelay = t.startDelay) :
    readyTime startTime t' = readyTime startTime t := by
  unfold readyTime
  rw [hadded, hdelay]

/-- The tick is not due before that time. -/
@[grind =]
def Waits (startTime : Option Int) (clock : Int) (t : PeriodicTickData) : Prop :=
  t.frequency ≤ 0 ∨ readyTime startTime t ≤ t.lastTickTime + ns t.frequency ∨
    readyTime startTime t ≤ clock

theorem Waits.mono {startTime : Option Int} {clock now : Int} {t : PeriodicTickData}
    (h : Waits startTime clock t) (hle : clock ≤ now) : Waits startTime now t := by
  rcases h with hfrequency | hlast | hclock
  · exact .inl hfrequency
  · exact .inr (.inl hlast)
  · exact .inr (.inr (Int.le_trans hclock hle))

theorem Waits.readyTime_le {startTime : Option Int} {clock now : Int} {t : PeriodicTickData}
    (h : Waits startTime clock t) (hle : clock ≤ now) (hdue : t.due now = true) :
    readyTime startTime t ≤ now := by
  obtain ⟨hpos, hlast⟩ := (t.due_iff now).mp hdue
  unfold Waits at h
  omega

/-- The step lets the start delay of a tick pass: while the thread loops, a tick is added without a
delay, its frequency does not become so low that the first call comes early, and it is triggered
only after the delay. When the initial times are set, every tick was added before the start. -/
def RespectsDelay (s : ThreadTimer) : Event → Prop
  | .addPeriodicTick frequency startDelay now => s.phase.looping →
      frequency ≤ 0 ∨ startDelay ≤ 0 ∨ now + ns startDelay ≤ ns frequency
  | .changeFrequency id frequency => s.phase.looping → ∀ t, s.periodicTicks[id]? = some t →
      frequency ≤ 0 ∨ readyTime s.startTime t ≤ t.lastTickTime + ns frequency ∨
        readyTime s.startTime t ≤ s.clock
  | .triggerNow id now => s.phase.looping → ∀ t, s.periodicTicks[id]? = some t →
      t.frequency ≤ 0 ∨ readyTime s.startTime t ≤ now
  | .setInitialTimes => ∀ start, s.startTime = some start → ∀ t ∈ s.periodicTicks,
      t.frequency ≤ 0 ∨ t.addedAt ≤ start ∨ readyTime s.startTime t ≤ s.clock
  | _ => True

/-- Every tick waits for its delay, the copy included, and the one that is called has waited. -/
structure Delayed (s : ThreadTimer) : Prop where
  waits : s.phase.looping → ∀ (id : Nat) t, s.periodicTicks[id]? = some t →
    Waits s.startTime s.clock t
  copied : ∀ id t, s.phase = .copied id t → Waits s.startTime s.clock t ∧
    ∀ t', s.periodicTicks[id]? = some t' → t'.addedAt = t.addedAt ∧ t'.startDelay = t.startDelay
  calling : ∀ id now, s.phase = .calling id now → ∀ t, s.periodicTicks[id]? = some t →
    readyTime s.startTime t ≤ now ∧ now ≤ s.clock

theorem delayed_step {e : Event} {s s' : ThreadTimer} (h : s.Delayed) (hrec : s.Recorded)
    (hrespects : s.RespectsDelay e) (hmove : Moves s e s') : s'.Delayed := by
  have hwaits := h.waits
  have hcopied := h.copied
  have hcalling := h.calling
  cases hmove with
  | @add frequency startDelay now hle =>
      have hcopiedAt := hrec.copied
      have hcallingAt := hrec.calling
      refine ⟨?_, by grind, by grind⟩
      intro hlooping id t ht
      rcases getElem?_concat_cases ht with hold | rfl
      · exact (h.waits hlooping id t hold).mono hle
      · -- a new tick counts as last called at time 0
        have hready := @readyTime_of_le s.startTime ⟨frequency, startDelay, 0, now⟩
          (fun start hstart => Int.le_trans (hrec.clock start hstart) hle)
        have hadd := hrespects hlooping
        unfold Waits ns at *
        dsimp only at *
        omega
  | change => constructor <;> grind [RespectsDelay]
  | invalidTrigger => exact h
  | trigger hid hle => constructor <;> grind [RespectsDelay]
  | start hphase hle => exact ⟨nofun, nofun, nofun⟩
  | @setInitialTimes start hphase =>
      refine ⟨?_, nofun, nofun⟩
      intro _ id t' ht'
      rw [List.getElem?_map] at ht'
      obtain ⟨t, ht, rfl⟩ := Option.map_eq_some_iff.mp ht'
      have hstart := hrec.starting start hphase
      have hready : readyTime s.startTime (initialTick start t) = readyTime s.startTime t := rfl
      rcases hrespects start hstart t (List.mem_of_getElem? ht) with hfrequency | hadded | hclock
      · exact .inl hfrequency
      · right
        left
        rw [hready]
        unfold readyTime initialTick
        rw [hstart, Option.getD_some, Int.max_eq_right hadded]
        dsimp only
        omega
      · exact .inr (.inr hclock)
  | beginPass hphase =>
      have hlooping : s.phase.looping = true := hphase ▸ rfl
      exact ⟨fun _ => h.waits hlooping, nofun, nofun⟩
  | copyTick hphase hid =>
      have hlooping : s.phase.looping = true := hphase ▸ rfl
      exact ⟨fun _ => h.waits hlooping, by grind, nofun⟩
  | endPass hphase hid =>
      have hlooping : s.phase.looping = true := hphase ▸ rfl
      exact ⟨fun _ => h.waits hlooping, nofun, nofun⟩
  | call hphase hle hdue =>
      have hlooping : s.phase.looping = true := hphase ▸ rfl
      refine ⟨fun _ id t ht => (h.waits hlooping id t ht).mono hle, nofun, ?_⟩
      rintro id _ ⟨⟩ t ht
      -- the copy that was due has the delay of the tick that is called
      obtain ⟨hwaiting, hsame⟩ := h.copied _ _ hphase
      obtain ⟨hadded, hdelay⟩ := hsame t ht
      refine ⟨?_, Int.le_refl _⟩
      rw [readyTime_congr hadded hdelay]
      exact hwaiting.readyTime_le hle hdue
  | skip hphase hle hdue =>
      have hlooping : s.phase.looping = true := hphase ▸ rfl
      exact ⟨fun _ id t ht => (h.waits hlooping id t ht).mono hle, nofun, nofun⟩
  | writeBack hphase => exact ⟨by grind, nofun, nofun⟩

/-! ## No trigger is missed -/

/-- The last time that the tick has once the thread is done with it. -/
@[grind =]
def comingTime (phase : TimerPhase) (id : Nat) (t : PeriodicTickData) : Int :=
  match phase with
  | .calling index now => if index = id then now else t.lastTickTime
  | .notStarted | .starting _ | .sleeping | .looking _ | .copied _ _ => t.lastTickTime

theorem comingTime_add_le {phase : TimerPhase} {id : Nat} {t : PeriodicTickData} {period now : Int}
    (hkept : t.lastTickTime + period ≤ now)
    (hcalling : ∀ last, phase = .calling id last → last + period ≤ now) :
    comingTime phase id t + period ≤ now := by
  cases phase with
  | calling index last =>
      unfold comingTime
      dsimp only
      split
      · next heq => exact hcalling last (heq ▸ rfl)
      · exact hkept
  | _ => exact hkept

/-- The tick will be due in the first pass. -/
@[grind =]
def DueAtStart (phase : TimerPhase) (clock : Int) (t : PeriodicTickData) : Prop :=
  match phase with
  | .notStarted => t.startDelay ≤ 0
  | .starting start => start + ns t.startDelay ≤ clock
  | .sleeping | .looking _ | .copied _ _ | .calling _ _ => True

/-- The tick will be called in the first pass, or in the next. -/
def Imminent (phase : TimerPhase) (clock : Int) (id : Nat) (t : PeriodicTickData) : Prop :=
  0 < t.frequency ∧ (phase.looping → comingTime phase id t + ns t.frequency ≤ clock) ∧
    DueAtStart phase clock t

theorem Imminent.mono {phase : TimerPhase} {clock now : Int} {id : Nat} {t : PeriodicTickData}
    (h : Imminent phase clock id t) (hle : clock ≤ now) : Imminent phase now id t := by
  obtain ⟨hpos, hcoming, hstart⟩ := h
  refine ⟨hpos, fun hlooping => Int.le_trans (hcoming hlooping) hle, ?_⟩
  cases phase with
  | notStarted => exact hstart
  | starting start => exact Int.le_trans hstart hle
  | _ => trivial

/-- The step does not lose a trigger: a tick is triggered before the start only if it has no delay
left, and while its function is called only if it is due again anyway; and the frequency of a
triggered tick is not raised before it is called. -/
def RespectsTrigger (s : ThreadTimer) : Event → Prop
  | .changeFrequency id frequency => pending id s.log → 0 < frequency ∧
      (s.phase.looping → ∀ t, s.periodicTicks[id]? = some t →
        comingTime s.phase id t + ns frequency ≤ s.clock)
  | .triggerNow id now => ∀ t, s.periodicTicks[id]? = some t → 0 < t.frequency →
      DueAtStart s.phase now t ∧ ∀ last, s.phase = .calling id last → last + ns t.frequency ≤ now
  | _ => True

/-- A tick that is triggered is due, or will be after the start, and if it was triggered before the
pass, the thread has not come past it. -/
structure Awaited (s : ThreadTimer) : Prop where
  known : ∀ id, pending id s.log → id < s.periodicTicks.length
  imminent : ∀ id, pending id s.log → ∀ t, s.periodicTicks[id]? = some t →
    Imminent s.phase s.clock id t
  looking : ∀ index, s.phase = .looking index → ∀ id, missed id s.log → index ≤ id
  copied : ∀ index t, s.phase = .copied index t → ∀ id, missed id s.log → index ≤ id ∧
    (index = id → 0 < t.frequency ∧ t.lastTickTime + ns t.frequency ≤ s.clock)
  calling : ∀ index now, s.phase = .calling index now → ∀ id, missed id s.log → index < id

theorem pending_of_missed {id : Nat} {log : List TimerEntry} (h : missed id log = true) :
    pending id log = true := by
  induction log with
  | nil => cases h
  | cons e log ih => cases e <;> grind

theorem Awaited.change {s : ThreadTimer} {id : Nat} {frequency : Int} (h : s.Awaited)
    (hrespects : s.RespectsTrigger (.changeFrequency id frequency)) :
    Awaited { s with
      periodicTicks := s.periodicTicks.modify id fun t => { t with frequency := frequency } } := by
  have hknown := h.known
  refine { h with known := by grind, imminent := ?_ }
  intro id hid t' ht'
  rcases getElem?_modify_cases ht' with ⟨rfl, t, ht, rfl⟩ | ⟨_, ht⟩
  · obtain ⟨hpos, hcoming⟩ := hrespects hid
    obtain ⟨_, _, hstart⟩ := h.imminent _ hid t ht
    exact ⟨hpos, fun hlooping => hcoming hlooping t ht, hstart⟩
  · exact h.imminent id hid t' ht

theorem Awaited.trigger {s : ThreadTimer} {id : Nat} {now : Int} {t : PeriodicTickData}
    (h : s.Awaited) (hrespects : s.RespectsTrigger (.triggerNow id now))
    (hid : s.periodicTicks[id]? = some t) (hle : s.clock ≤ now) :
    Awaited { s with
      clock := now
      periodicTicks := s.periodicTicks.modify id fun t =>
        { t with lastTickTime := now - ns t.frequency }
      log := .triggered id t.frequency :: s.log } := by
  have hknown := h.known
  have hcopied := h.copied
  refine { h with known := by grind, imminent := ?_, copied := by grind }
  intro id' hid' t' ht'
  rcases getElem?_modify_cases ht' with ⟨rfl, t₀, ht₀, rfl⟩ | ⟨hne, ht⟩
  · obtain rfl : t₀ = t := Option.some.inj (ht₀.symm.trans hid)
    have hpos : 0 < t₀.frequency := by
      rw [pending, decide_eq_true_iff] at hid'
      rcases hid' with ⟨_, hpos⟩ | hpending
      · exact hpos
      · exact (h.imminent id hpending t₀ hid).1
    obtain ⟨hstart, hcalling⟩ := hrespects t₀ hid hpos
    refine ⟨hpos, fun _ => comingTime_add_le ?_ hcalling, hstart⟩
    dsimp only
    omega
  · rw [pending, decide_eq_true_iff] at hid'
    have hpending := hid'.resolve_left (fun hsame => hne hsame.1)
    exact (h.imminent id' hpending t' ht).mono hle

theorem Awaited.initialTimes {s : ThreadTimer} {startTime : Int} (h : s.Awaited)
    (hphase : s.phase = .starting startTime) :
    Awaited { s with
      periodicTicks := s.periodicTicks.map (initialTick startTime)
      phase := .sleeping } := by
  have hknown := h.known
  refine ⟨by grind, ?_, nofun, nofun, nofun⟩
  intro id hid t' ht'
  rw [List.getElem?_map] at ht'
  obtain ⟨t, ht, rfl⟩ := Option.map_eq_some_iff.mp ht'
  obtain ⟨hpos, _, hdelay⟩ := h.imminent id hid t ht
  rw [hphase] at hdelay
  refine ⟨hpos, fun _ => ?_, trivial⟩
  unfold comingTime initialTick
  unfold DueAtStart at hdelay
  dsimp only at hdelay ⊢
  omega

theorem Awaited.skip {s : ThreadTimer} {index : Nat} {t : PeriodicTickData} {now : Int}
    (h : s.Awaited) (hphase : s.phase = .copied index t) (hle : s.clock ≤ now)
    (hdue : t.due now = false) :
    Awaited { s with clock := now, phase := .looking (index + 1) } := by
  have himminent := h.imminent
  rw [hphase] at himminent
  exact {
    known := h.known
    imminent := fun id hid t ht => (himminent id hid t ht).mono hle
    looking := by
      -- a tick that was missed so far is due, so it is not the one that is skipped
      rintro _ ⟨⟩ id hmissed
      obtain ⟨hindex, hsame⟩ := h.copied index t hphase id hmissed
      have hne : index ≠ id := by
        intro heq
        obtain ⟨hpos, hlast⟩ := hsame heq
        have hdueNow := (t.due_iff now).mpr ⟨hpos, Int.le_trans hlast hle⟩
        rw [hdue] at hdueNow
        cases hdueNow
      omega
    copied := nofun
    calling := nofun }

theorem awaited_step {e : Event} {s s' : ThreadTimer} (h : s.Awaited)
    (hrespects : s.RespectsTrigger e) (hmove : Moves s e s') : s'.Awaited := by
  have hknown := h.known
  have hcopied := h.copied
  cases hmove with
  | add hle =>
      -- the ids that are awaited stand before the new one
      exact { h with
        known := by grind
        imminent := by
          intro id hid t ht
          apply Imminent.mono _ hle
          apply h.imminent id hid t
          rw [List.getElem?_append_left (h.known id hid)] at ht
          exact ht
        copied := by grind }
  | change => exact h.change hrespects
  | invalidTrigger => exact h
  | trigger hid hle => exact h.trigger hrespects hid hle
  | @start now hphase hle =>
      exact {
        known := h.known
        imminent := by
          intro id hid t ht
          obtain ⟨hpos, _, hdelay⟩ := h.imminent id hid t ht
          rw [hphase] at hdelay
          refine ⟨hpos, nofun, ?_⟩
          unfold DueAtStart ns at *
          dsimp only at hdelay ⊢
          omega
        looking := nofun
        copied := nofun
        calling := nofun }
  | setInitialTimes hphase => exact h.initialTimes hphase
  | beginPass hphase =>
      have himminent := h.imminent
      rw [hphase] at himminent
      exact {
        known := h.known
        imminent := himminent
        looking := by
          -- a pass begins with the first tick
          rintro _ ⟨⟩ id _
          exact Nat.zero_le id
        copied := nofun
        calling := nofun }
  | copyTick hphase hid =>
      have himminent := h.imminent
      rw [hphase] at himminent
      exact {
        known := h.known
        imminent := himminent
        looking := nofun
        copied := by
          -- the copy of a missed tick is as due as the tick itself
          rintro _ _ ⟨⟩ id hmissed
          refine ⟨h.looking _ hphase id hmissed, ?_⟩
          rintro rfl
          obtain ⟨hpos, hlast, _⟩ := himminent _ (pending_of_missed hmissed) _ hid
          exact ⟨hpos, hlast rfl⟩
        calling := nofun }
  | endPass hphase hid =>
      have himminent := h.imminent
      rw [hphase] at himminent
      exact {
        known := h.known
        imminent := himminent
        looking := nofun
        copied := nofun
        calling := nofun }
  | @call index t now hphase hle hdue =>
      have himminent := h.imminent
      exact {
        known := by grind
        imminent := by grind [Imminent]
        looking := nofun
        copied := nofun
        calling := by grind }
  | skip hphase hle hdue => exact h.skip hphase hle hdue
  | writeBack hphase =>
      have himminent := h.imminent
      exact {
        known := by grind
        imminent := by grind [Imminent]
        looking := by
          -- a tick missed during the call stands behind the one that was called
          rintro _ ⟨⟩ id hmissed
          exact h.calling _ _ hphase id hmissed
        copied := nofun
        calling := nofun }

/-! ## Runs -/

section

variable {e : Event} {s s' : ThreadTimer} {index : Nat} {t : PeriodicTickData} {now : Int}

theorem afterDelay_call (h : s.Delayed) (hrec : s.Recorded) (hphase : s.phase = .copied index t)
    (hle : s.clock ≤ now) (hdue : t.due now = true) :
    AfterDelay s.log (.called index now t.frequency) := by
  intro time startDelay hmem
  obtain ⟨hwaits, hsame⟩ := h.copied index t hphase
  have hready := hwaits.readyTime_le hle hdue
  obtain ⟨hlt, hrecorded⟩ := hrec.added index time startDelay hmem
  have hget := List.getElem?_eq_getElem hlt
  obtain ⟨hadded, hdelay⟩ := hrecorded _ hget
  obtain ⟨hadded', hdelay'⟩ := hsame _ hget
  rw [← readyTime_congr hadded' hdelay'] at hready
  unfold readyTime at hready
  rw [hadded, hdelay] at hready
  refine ⟨by omega, ?_⟩
  intro start hstart
  rw [hrec.started start hstart, Option.getD_some] at hready
  omega

theorem afterTriggered_endPass (h : s.Awaited) (hphase : s.phase = .looking index)
    (hnone : s.periodicTicks[index]? = none) : AfterTriggered s.log .passEnded := by
  intro id
  by_contra hmissed
  rw [Bool.not_eq_false] at hmissed
  have hle := h.looking index hphase id hmissed
  have hlt := h.known id (pending_of_missed hmissed)
  rw [List.getElem?_eq_none_iff] at hnone
  omega

end

/-- No call comes before the delay in a run that respects delays. -/
theorem afterDelay_of_run {clock : Int} {es : List Event} {s : ThreadTimer}
    (h : Run (Guarded RespectsDelay (Steps step)) { clock := clock } es s) :
    Throughout AfterDelay s.log := by
  have hinv : s.Recorded ∧ s.Delayed ∧ Throughout AfterDelay s.log := by
    apply h.invariant (I := fun s => s.Recorded ∧ s.Delayed ∧ Throughout AfterDelay s.log)
    · rintro s e s' ⟨hrec, hdelayed, hlog⟩ ⟨hrespects, hstep⟩
      have hmove := moves_of_step hstep
      refine ⟨recorded_step hrec hmove, delayed_step hdelayed hrec hrespects hmove, ?_⟩
      apply throughout_step hmove hlog
      · intro index t now hphase hle hdue
        exact afterDelay_call hdelayed hrec hphase hle hdue
      · intro _ _ _
        trivial
      · intro e hcalled _
        cases e with
        | called id time frequency => exact absurd rfl (hcalled id time frequency)
        | _ => trivial
    · exact ⟨recorded_initial clock, ⟨nofun, nofun, nofun⟩, trivial⟩
  exact hinv.2.2

/-- No trigger is missed in a run that respects triggers. -/
theorem afterTriggered_of_run {clock : Int} {es : List Event} {s : ThreadTimer}
    (h : Run (Guarded RespectsTrigger (Steps step)) { clock := clock } es s) :
    Throughout AfterTriggered s.log := by
  have hinv : s.Awaited ∧ Throughout AfterTriggered s.log := by
    apply h.invariant (I := fun s => s.Awaited ∧ Throughout AfterTriggered s.log)
    · rintro s e s' ⟨hawaited, hlog⟩ ⟨hrespects, hstep⟩
      have hmove := moves_of_step hstep
      refine ⟨awaited_step hawaited hrespects hmove, ?_⟩
      apply throughout_step hmove hlog
      · intro _ _ _ _ _ _
        trivial
      · intro index hphase hnone
        exact afterTriggered_endPass hawaited hphase hnone
      · intro e _ hended
        cases e with
        | passEnded => exact absurd rfl hended
        | _ => trivial
    · exact ⟨⟨nofun, nofun, nofun, nofun, nofun⟩, trivial⟩
  exact hinv.2

/-- **The timer**: as long as delays are respected, no function is called before its delay; calls
are always a period apart; and as long as triggers are respected, a triggered function is called by
the end of the next pass. -/
theorem timely_of_run (clock : Int) :
    (∀ es s, Run (Guarded RespectsDelay (Steps step)) { clock := clock } es s →
        Throughout AfterDelay s.log) ∧
      (∀ es s, Run (Steps step) { clock := clock } es s → Throughout AfterPeriod s.log) ∧
      ∀ es s, Run (Guarded RespectsTrigger (Steps step)) { clock := clock } es s →
        Throughout AfterTriggered s.log :=
  ⟨fun _ _ h => afterDelay_of_run h, fun _ _ h => afterPeriod_of_run h,
    fun _ _ h => afterTriggered_of_run h⟩

/-- A tick with a delay is called when the delay is over, and again when it is triggered. -/
theorem timely_of_run_triggered :
    ∃ s, Run (Guarded (fun s e => s.RespectsDelay e ∧ s.RespectsTrigger e) (Steps step)) {}
        [.addPeriodicTick 1000 500 0, .start 0, .setInitialTimes, .beginPass, .copyTick,
          .check 500000000, .writeBack, .copyTick, .triggerNow 0 600000000, .beginPass, .copyTick,
          .check 600000000, .writeBack, .copyTick] s ∧
      .called 0 500000000 1000 ∈ s.log ∧ .called 0 600000000 1000 ∈ s.log ∧
      Throughout AfterDelay s.log ∧ Throughout AfterPeriod s.log ∧
      Throughout AfterTriggered s.log := by
  have hrun : ∃ s, Run (Guarded (fun s e => s.RespectsDelay e ∧ s.RespectsTrigger e) (Steps step))
        {}
        [.addPeriodicTick 1000 500 0, .start 0, .setInitialTimes, .beginPass, .copyTick,
          .check 500000000, .writeBack, .copyTick, .triggerNow 0 600000000, .beginPass, .copyTick,
          .check 600000000, .writeBack, .copyTick] s ∧
      .called 0 500000000 1000 ∈ s.log ∧ .called 0 600000000 1000 ∈ s.log := by
    refine ⟨_, .cons ⟨⟨nofun, trivial⟩, rfl⟩ (.cons ⟨⟨trivial, trivial⟩, rfl⟩
      (.cons ⟨⟨?_, trivial⟩, rfl⟩ (.cons ⟨⟨trivial, trivial⟩, rfl⟩
      (.cons ⟨⟨trivial, trivial⟩, rfl⟩ (.cons ⟨⟨trivial, trivial⟩, rfl⟩
      (.cons ⟨⟨trivial, trivial⟩, rfl⟩ (.cons ⟨⟨trivial, trivial⟩, rfl⟩
      (.cons ⟨⟨?_, ?_⟩, rfl⟩ (.cons ⟨⟨trivial, trivial⟩, rfl⟩
      (.cons ⟨⟨trivial, trivial⟩, rfl⟩ (.cons ⟨⟨trivial, trivial⟩, rfl⟩
      (.cons ⟨⟨trivial, trivial⟩, rfl⟩ (.cons ⟨⟨trivial, trivial⟩, rfl⟩
      .nil))))))))))))), by decide, by decide⟩
    · rintro _ ⟨⟩
      decide
    · rintro _ _ ⟨⟩
      decide
    · rintro _ ⟨⟩ _
      exact ⟨trivial, nofun⟩
  obtain ⟨s, h, hfirst, hsecond⟩ := hrun
  refine ⟨s, h, hfirst, hsecond, ?_, ?_, ?_⟩
  · exact (timely_of_run 0).1 _ s (h.mono fun _ _ _ hstep => ⟨hstep.1.1, hstep.2⟩)
  · exact (timely_of_run 0).2.1 _ s (h.mono fun _ _ _ hstep => hstep.2)
  · exact (timely_of_run 0).2.2 _ s (h.mono fun _ _ _ hstep => ⟨hstep.1.2, hstep.2⟩)

/-- A tick that is added late is called at once. A trigger while the function is called is lost when
the time of the call is written back. -/
theorem lateTick_not_timely :
    (¬ ∀ es s, Run (Steps step) {} es s → Throughout AfterDelay s.log) ∧
      ¬ ∀ es s, Run (Steps step) {} es s → Throughout AfterTriggered s.log := by
  constructor
  · intro hall
    have hlog := hall [.start 0, .setInitialTimes, .addPeriodicTick 1 1000 2000000, .beginPass,
      .copyTick, .check 2000000] _ (.of_foldlM rfl)
    have hdelay := (hlog.1 2000000 1000 (by decide)).1
    exact absurd hdelay (by decide)
  · intro hall
    have hlog := hall [.addPeriodicTick 1000 0 0, .start 0, .setInitialTimes, .beginPass, .copyTick,
      .check 0, .triggerNow 0 1, .writeBack, .copyTick, .beginPass, .copyTick, .check 2,
      .copyTick] _ (.of_foldlM rfl)
    exact absurd (hlog.1 0) (by decide)

end ThreadTimer

end V2XHub.Tmx
