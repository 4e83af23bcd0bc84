import V2XHub.CarmaCloud.Tracking
import V2XHub.Lib.Run

/-!
# What the TCM timer guarantees

Two laws of the timer thread, over every order of arrivals, acknowledgements and iterations: a bound
on the rebroadcasts of a payload, and a lower bound on how long an unacknowledged TCM is kept.

The counters are keyed by what they count, and the first law holds for every total that makes sense.
The time-out is keyed by the request id and not by the TCM, and the second holds as long as no TCM
joins a request id whose time-out is already running.
-/

namespace V2XHub.CarmaCloud

open V2XHub.Lib

/-! ## Counting rebroadcasts -/

/-- Every counter is the number of rebroadcasts it stands for, every rebroadcast has its counter,
and none exceeds the total. -/
structure Counted (total : Int) (times : List (String × TcmBroadcastMetadata))
    (rebroadcasts : List (String × String)) : Prop where
  num : ∀ e ∈ times, e.2.numOfTimes = rebroadcasts.count (e.1, e.2.tcmHex)
  entry : ∀ b ∈ rebroadcasts, ∃ e ∈ times, e.1 = b.1 ∧ e.2.tcmHex = b.2
  bound : ∀ b, (rebroadcasts.count b : Int) ≤ total

theorem counted_nil {total : Int} (h : 0 ≤ total) : Counted total [] [] where
  num e he := by cases he
  entry b hb := by cases hb
  bound b := by simpa using h

/-- Entries that have reached the total, or are of another payload, are left alone. -/
theorem map_countUp_of_forall {total : Int} {reqid payload : String}
    {times : List (String × TcmBroadcastMetadata)}
    (h : ∀ e ∈ times, e.1 = reqid → e.2.tcmHex = payload → total ≤ e.2.numOfTimes) :
    times.map (countUp total reqid payload) = times := by
  conv_rhs => rw [← List.map_id times]
  refine List.map_congr_left fun e he => if_neg ?_
  rintro ⟨hid, hhex, hlt⟩
  have := h e he hid hhex
  omega

/-- A rebroadcast of a payload that has its counters. -/
theorem Counted.again {total : Int} {times : List (String × TcmBroadcastMetadata)}
    {rebroadcasts : List (String × String)} (h : Counted total times rebroadcasts)
    {reqid payload : String} {e : String × TcmBroadcastMetadata} (he : e ∈ times)
    (hid : e.1 = reqid) (hhex : e.2.tcmHex = payload)
    (hlt : ∀ e ∈ times, e.1 = reqid → e.2.tcmHex = payload → e.2.numOfTimes < total) :
    Counted total (times.map (countUp total reqid payload)) ((reqid, payload) :: rebroadcasts) := by
  refine ⟨fun d hd => ?_, fun b hb => ?_, fun b => ?_⟩
  · obtain ⟨c, hc, rfl⟩ := List.mem_map.mp hd
    have hnum := h.num c hc
    -- the counters of the payload go up with the rebroadcast, the others stay
    by_cases hmatch : c.1 = reqid ∧ c.2.tcmHex = payload
    · obtain ⟨rfl, rfl⟩ := hmatch
      simp only [countUp, hlt c hc rfl rfl, and_self, if_true, List.count_cons_self]
      omega
    · have hne : (reqid, payload) ≠ (c.1, c.2.tcmHex) := by
        intro heq
        cases heq
        exact hmatch ⟨rfl, rfl⟩
      have hkeep : countUp total reqid payload c = c :=
        if_neg fun hall => hmatch ⟨hall.1, hall.2.1⟩
      rw [hkeep, List.count_cons_of_ne hne]
      exact hnum
  · have hkey : ∃ c ∈ times, c.1 = b.1 ∧ c.2.tcmHex = b.2 := by
      rcases List.mem_cons.mp hb with rfl | hb
      · exact ⟨e, he, hid, hhex⟩
      · exact h.entry b hb
    obtain ⟨c, hc, h1, h2⟩ := hkey
    refine ⟨countUp total reqid payload c, List.mem_map_of_mem hc, ?_⟩
    unfold countUp
    split
    · exact ⟨h1, h2⟩
    · exact ⟨h1, h2⟩
  · by_cases hb : (reqid, payload) = b
    · subst hb
      have hnum := h.num e he
      have hless := hlt e he hid hhex
      rw [hid, hhex] at hnum
      rw [List.count_cons_self]
      omega
    · rw [List.count_cons_of_ne hb]
      exact h.bound b

/-- The first rebroadcast of a payload. -/
theorem Counted.first {total : Int} {times : List (String × TcmBroadcastMetadata)}
    {rebroadcasts : List (String × String)} (h : Counted total times rebroadcasts)
    (htotal : 1 ≤ total) {reqid payload : String}
    (hnew : ∀ e ∈ times, ¬ (e.1 = reqid ∧ e.2.tcmHex = payload)) :
    Counted total (multimapInsert reqid ⟨payload, 1⟩ times) ((reqid, payload) :: rebroadcasts) := by
  have hzero : rebroadcasts.count (reqid, payload) = 0 := by
    rw [List.count_eq_zero]
    intro hb
    obtain ⟨e, he, hmatch⟩ := h.entry _ hb
    exact hnew e he hmatch
  refine ⟨fun d hd => ?_, fun b hb => ?_, fun b => ?_⟩
  · rcases mem_multimapInsert.mp hd with rfl | hold
    · simp [hzero]
    · have hne : (reqid, payload) ≠ (d.1, d.2.tcmHex) := by
        intro heq
        cases heq
        exact hnew d hold ⟨rfl, rfl⟩
      rw [List.count_cons_of_ne hne]
      exact h.num d hold
  · rcases List.mem_cons.mp hb with rfl | hb
    · exact ⟨_, mem_multimapInsert.mpr (.inl rfl), rfl, rfl⟩
    · obtain ⟨e, he, hmatch⟩ := h.entry b hb
      exact ⟨e, mem_multimapInsert.mpr (.inr he), hmatch⟩
  · by_cases hb : (reqid, payload) = b
    · subst hb
      rw [List.count_cons_self, hzero]
      simpa using htotal
    · rw [List.count_cons_of_ne hb]
      exact h.bound b

/-- The counters of a payload that has some, all with the same number. -/
theorem isSkipBroadcastCurTcm_of_mem {total : Int} {times : List (String × TcmBroadcastMetadata)}
    {reqid payload : String} {e : String × TcmBroadcastMetadata} (hzero : total ≠ 0)
    (he : e ∈ times) (hid : e.1 = reqid) (hhex : e.2.tcmHex = payload)
    (hsame : ∀ d ∈ times, d.1 = reqid → d.2.tcmHex = payload → d.2.numOfTimes = e.2.numOfTimes) :
    isSkipBroadcastCurTcm total times reqid payload =
      (decide (total ≤ e.2.numOfTimes), times.map (countUp total reqid payload)) := by
  have hfound : times.any (fun e => e.1 = reqid && e.2.tcmHex = payload) = true :=
    List.any_eq_true.mpr ⟨e, he, by simp [hid, hhex]⟩
  have hskip : times.any (fun e => e.1 = reqid && e.2.tcmHex = payload && total ≤ e.2.numOfTimes) =
      decide (total ≤ e.2.numOfTimes) := by
    rw [Bool.eq_iff_iff, List.any_eq_true, decide_eq_true_eq]
    constructor
    · rintro ⟨d, hd, hcond⟩
      simp only [Bool.and_eq_true, decide_eq_true_eq] at hcond
      rw [← hsame d hd hcond.1.1 hcond.1.2]
      exact hcond.2
    · intro hle
      exact ⟨e, he, by simp [hid, hhex, hle]⟩
  unfold isSkipBroadcastCurTcm
  rw [if_neg hzero, hfound, hskip]
  rfl

theorem isSkipBroadcastCurTcm_of_new {total : Int} {times : List (String × TcmBroadcastMetadata)}
    {reqid payload : String} (hzero : total ≠ 0)
    (hnew : ∀ e ∈ times, ¬ (e.1 = reqid ∧ e.2.tcmHex = payload)) :
    isSkipBroadcastCurTcm total times reqid payload =
      (false, multimapInsert reqid ⟨payload, 1⟩ times) := by
  have hfound : times.any (fun e => e.1 = reqid && e.2.tcmHex = payload) = false := by
    rw [List.any_eq_false]
    intro e he hcond
    exact hnew e he (by simpa using hcond)
  have hskip : times.any (fun e => e.1 = reqid && e.2.tcmHex = payload && total ≤ e.2.numOfTimes) =
      false := by
    rw [List.any_eq_false]
    intro e he hcond
    simp only [Bool.and_eq_true, decide_eq_true_eq] at hcond
    exact hnew e he hcond.1
  unfold isSkipBroadcastCurTcm
  rw [if_neg hzero, hfound, hskip,
    map_countUp_of_forall fun e he h1 h2 => absurd ⟨h1, h2⟩ (hnew e he)]
  rfl

/-- Clearing the counters of some request ids. -/
theorem Counted.clear {total : Int} {times : List (String × TcmBroadcastMetadata)}
    {rebroadcasts : List (String × String)} (h : Counted total times rebroadcasts)
    (ids : List String) :
    Counted total (times.filter (fun e => e.1 ∉ ids))
      (rebroadcasts.filter (fun b => b.1 ∉ ids)) := by
  refine ⟨fun e he => ?_, fun b hb => ?_, fun b => ?_⟩
  · obtain ⟨hmem, hid⟩ := List.mem_filter.mp he
    rw [List.count_filter (by simpa using hid)]
    exact h.num e hmem
  · obtain ⟨hmem, hid⟩ := List.mem_filter.mp hb
    obtain ⟨e, he, h1, h2⟩ := h.entry b hmem
    exact ⟨e, List.mem_filter.mpr ⟨he, by simpa [h1] using hid⟩, h1, h2⟩
  · have hle : (rebroadcasts.filter (fun b => b.1 ∉ ids)).count b ≤ rebroadcasts.count b :=
      List.filter_sublist.count_le b
    have := h.bound b
    omega

/-! ### Periods -/

/-- The entry clears the counters of the request id. -/
def Logged.Clears (reqid : String) : Logged → Prop
  | .rebroadcast _ _ => False
  | .cleared id => id = reqid
  | .clearedAll => True

/-- The rebroadcasts whose counters have not been cleared since. -/
def running : List Logged → List (String × String)
  | [] => []
  | .rebroadcast reqid payload :: log => (reqid, payload) :: running log
  | .cleared reqid :: log => (running log).filter (fun b => b.1 ≠ reqid)
  | .clearedAll :: _ => []

theorem running_foldl_cleared (ids : List String) (log : List Logged) :
    running (ids.foldl (fun log id => .cleared id :: log) log) =
      (running log).filter (fun b => b.1 ∉ ids) := by
  induction ids generalizing log with
  | nil => simp
  | cons id ids ih =>
      rw [List.foldl_cons, ih, running, List.filter_filter]
      congr 1
      funext b
      simp [Bool.and_comm]

/-- Where no entry clears the counters of an id, all its rebroadcasts are running. -/
theorem count_le_running {reqid : String} (payload : String) {period : List Logged}
    (older : List Logged) (h : ∀ e ∈ period, ¬ e.Clears reqid) :
    period.count (.rebroadcast reqid payload) ≤
      (running (period ++ older)).count (reqid, payload) := by
  induction period with
  | nil => exact Nat.zero_le _
  | cons e period ih =>
      have hrest := ih fun e he => h e (List.mem_cons_of_mem _ he)
      have hkeeps := h e List.mem_cons_self
      cases e with
      | rebroadcast id hex =>
          show _ ≤ ((id, hex) :: running (period ++ older)).count (reqid, payload)
          rw [List.count_cons, List.count_cons]
          simp only [beq_iff_eq, Logged.rebroadcast.injEq, Prod.mk.injEq]
          omega
      | cleared id =>
          have hne : id ≠ reqid := hkeeps
          show _ ≤ ((running (period ++ older)).filter (fun b => b.1 ≠ id)).count (reqid, payload)
          have hother : Logged.cleared id ≠ .rebroadcast reqid payload := nofun
          rw [List.count_filter (by simpa using hne.symm), List.count_cons_of_ne hother]
          exact hrest
      | clearedAll => exact absurd trivial hkeeps

/-- The counters say what is running, and no more than the total has been running at any time. -/
structure Kept (total : Int) (times : List (String × TcmBroadcastMetadata)) (log : List Logged) :
    Prop where
  counted : Counted total times (running log)
  bounded : ∀ earlier, earlier <:+ log → ∀ b, ((running earlier).count b : Int) ≤ total

variable {total : Int} {times times' : List (String × TcmBroadcastMetadata)} {log : List Logged}

theorem kept_nil (h : 0 ≤ total) : Kept total [] [] where
  counted := counted_nil h
  bounded earlier hearlier b := by
    rw [List.suffix_nil.mp hearlier]
    exact (counted_nil h).bound b

theorem Kept.cons (h : Kept total times log) {e : Logged}
    (hcounted : Counted total times' (running (e :: log))) : Kept total times' (e :: log) where
  counted := hcounted
  bounded earlier hearlier b := by
    rcases List.suffix_cons_iff.mp hearlier with rfl | hearlier
    · exact hcounted.bound b
    · exact h.bounded earlier hearlier b

theorem Kept.clear (h : Kept total times log) (ids : List String) :
    Kept total (times.filter (fun e => e.1 ∉ ids))
      (ids.foldl (fun log id => .cleared id :: log) log) := by
  have hbounded : ∀ earlier, earlier <:+ ids.foldl (fun log id => Logged.cleared id :: log) log →
      ∀ b, ((running earlier).count b : Int) ≤ total := by
    -- on the ids; each takes running rebroadcasts away
    replace h := h.bounded
    induction ids generalizing log with
    | nil => exact h
    | cons id ids ih =>
        apply ih
        intro earlier hearlier b
        rcases List.suffix_cons_iff.mp hearlier with rfl | hearlier
        · have hle : (running (.cleared id :: log)).count b ≤ (running log).count b :=
            List.filter_sublist.count_le b
          have := h log (List.suffix_refl log) b
          omega
        · exact h earlier hearlier b
  refine ⟨?_, hbounded⟩
  rw [running_foldl_cleared]
  exact h.counted.clear ids

theorem Counted.rebroadcast {cfg : Config} {p : Pass} (htotal : 0 ≤ cfg.totalTimes)
    (h : Counted cfg.totalTimes p.broadcastTimes (running p.log)) (reqid payload : String) :
    Counted cfg.totalTimes (p.rebroadcast cfg reqid payload).broadcastTimes
      (running (p.rebroadcast cfg reqid payload).log) := by
  unfold Pass.rebroadcast
  by_cases hzero : cfg.totalTimes = 0
  · simpa [isSkipBroadcastCurTcm, hzero] using h
  by_cases hfound : ∃ e ∈ p.broadcastTimes, e.1 = reqid ∧ e.2.tcmHex = payload
  · obtain ⟨e, he, hid, hhex⟩ := hfound
    -- all counters of the payload agree: they are the number of its rebroadcasts
    have hsame : ∀ d ∈ p.broadcastTimes, d.1 = reqid → d.2.tcmHex = payload →
        d.2.numOfTimes = e.2.numOfTimes := by
      intro d hd hd1 hd2
      rw [h.num d hd, h.num e he, hd1, hd2, hid, hhex]
    rw [isSkipBroadcastCurTcm_of_mem hzero he hid hhex hsame]
    by_cases hless : e.2.numOfTimes < cfg.totalTimes
    · simp only [Int.not_le.mpr hless, decide_false, Bool.false_eq_true, if_false]
      exact h.again he hid hhex fun d hd hd1 hd2 => by rw [hsame d hd hd1 hd2]; exact hless
    · have hkeep : p.broadcastTimes.map (countUp cfg.totalTimes reqid payload) =
          p.broadcastTimes :=
        map_countUp_of_forall fun d hd hd1 hd2 => by rw [hsame d hd hd1 hd2]; omega
      simp only [Int.not_lt.mp hless, decide_true, if_true, hkeep]
      exact h
  · have hnew : ∀ e ∈ p.broadcastTimes, ¬ (e.1 = reqid ∧ e.2.tcmHex = payload) :=
      fun e he hmatch => hfound ⟨e, he, hmatch⟩
    rw [isSkipBroadcastCurTcm_of_new hzero hnew]
    exact h.first (by omega) hnew

theorem Kept.rebroadcast {cfg : Config} {p : Pass} (htotal : 0 ≤ cfg.totalTimes)
    (h : Kept cfg.totalTimes p.broadcastTimes p.log) (reqid payload : String) :
    Kept cfg.totalTimes (p.rebroadcast cfg reqid payload).broadcastTimes
      (p.rebroadcast cfg reqid payload).log := by
  have hcounted := h.counted.rebroadcast htotal reqid payload
  unfold Pass.rebroadcast at hcounted ⊢
  cases hresult : isSkipBroadcastCurTcm cfg.totalTimes p.broadcastTimes reqid payload with
  | mk skip times =>
      rw [hresult] at hcounted
      cases skip with
      | true => exact ⟨hcounted, h.bounded⟩
      | false => exact h.cons hcounted

theorem Kept.visit {cfg : Config} {p : Pass} (htotal : 0 ≤ cfg.totalTimes)
    (h : Kept cfg.totalTimes p.broadcastTimes p.log) (reqid payload : String) (curTime : Int) :
    Kept cfg.totalTimes (p.visit cfg reqid payload curTime).broadcastTimes
      (p.visit cfg reqid payload curTime).log := by
  unfold Pass.visit
  split
  · exact Kept.rebroadcast (p := { p with startingTime := p.startingTime.insert reqid curTime })
      htotal h reqid payload
  · split
    · exact h
    · exact h.rebroadcast htotal reqid payload

theorem Kept.visitAll {cfg : Config} (htotal : 0 ≤ cfg.totalTimes) {clock : Nat → Int}
    {ts : List (String × Tracked)} {k : Nat} {p : Pass}
    (h : Kept cfg.totalTimes p.broadcastTimes p.log) :
    Kept cfg.totalTimes (p.visitAll cfg clock k ts).broadcastTimes
      (p.visitAll cfg clock k ts).log := by
  induction ts generalizing k p with
  | nil => exact h
  | cons t ts ih => exact ih (h.visit htotal t.1 t.2.tcm.payload (clock k))

/-- What a step can be. -/
inductive Moves (cfg : Config) (s : Plugin) : Event → Plugin → Prop
  | arrives (reqid tcm) : Moves cfg s (.arrive reqid tcm) (s.arrive reqid tcm)
  | unread (reqid) : Moves cfg s (.acknowledge reqid none) s
  | acknowledges (reqid msgnum) :
      Moves cfg s (.acknowledge reqid (some msgnum)) (s.acknowledge reqid msgnum)
  | wakes (timer) : Moves cfg s .wake { s with timer := timer }
  | iterates {clock} (hruns : s.clockRuns clock = true) :
      Moves cfg s (.iterate clock) (s.iterate cfg clock)
  | resets {clock} (hruns : s.clockRuns clock = true) :
      Moves cfg s (.iterate clock)
        { s with
          startingTime := ∅, broadcastTimes := [], log := .clearedAll :: s.log
          timer := .sleeping, now := clock 0 }

theorem moves_of_step {cfg : Config} {s t : Plugin} {e : Event} (h : s.step cfg e = some t) :
    Moves cfg s e t := by
  cases e with
  | arrive reqid tcm =>
      cases h
      exact .arrives reqid tcm
  | acknowledge reqid msgnum =>
      cases msgnum with
      | none =>
          cases h
          exact .unread reqid
      | some n =>
          cases h
          exact .acknowledges reqid n
  | wake =>
      simp only [Plugin.step] at h
      split at h
      · cases h
        exact .wakes _
      · cases h
  | iterate clock =>
      simp only [Plugin.step] at h
      split at h
      · next hruns =>
        split at h
        · cases h
        · cases h
          exact .iterates hruns
        · cases h
          exact .resets hruns
      · cases h

theorem Kept.moves {cfg : Config} (htotal : 0 ≤ cfg.totalTimes) {s t : Plugin} {e : Event}
    (h : Kept cfg.totalTimes s.broadcastTimes s.log) (hmoves : Moves cfg s e t) :
    Kept cfg.totalTimes t.broadcastTimes t.log := by
  cases hmoves with
  | arrives reqid tcm =>
      unfold Plugin.arrive
      split
      · exact h
      · exact h
  | unread reqid => exact h
  | acknowledges reqid msgnum => exact h
  | wakes timer => exact h
  | iterates hruns => exact (Kept.visitAll htotal (p := s.pass) h).clear _
  | resets hruns => exact h.cons (counted_nil htotal)

/-- One TCM, rebroadcast at the first opportunity: a total that is not zero does not skip it. -/
theorem rebroadcast_once (cfg : Config) (hne : cfg.totalTimes ≠ 0) :
    ∃ s, Run (Steps (Plugin.step cfg)) {}
      [.arrive "0a" ⟨"00f5", some 1⟩, .wake, .iterate (fun _ => 0)] s ∧
        s.log = [.rebroadcast "0a" "00f5"] := by
  have hlen : 0 < "0a".length := by decide
  refine ⟨_, .cons rfl (.cons rfl (.cons rfl .nil)), ?_⟩
  simp [hlen, Plugin.iterate, Plugin.arrive, Plugin.pass, multimapInsert, Pass.visitAll, Pass.visit,
    Pass.rebroadcast, isSkipBroadcastCurTcm, hne]

/-- In no part of the log in which the counters of a request id are not cleared is one of its
payloads rebroadcast more often than the total. -/
def WithinTotal (cfg : Config) (log : List Logged) : Prop :=
  ∀ reqid payload period, period <:+: log → (∀ e ∈ period, ¬ e.Clears reqid) →
    period.count (.rebroadcast reqid payload) ≤ cfg.totalTimes.toNat

theorem Kept.withinTotal {cfg : Config} (h : Kept cfg.totalTimes times log) :
    WithinTotal cfg log := by
  rintro reqid payload period ⟨newer, older, rfl⟩ hperiod
  have hearlier : period ++ older <:+ newer ++ period ++ older := by
    rw [List.append_assoc]
    exact List.suffix_append _ _
  have hle := count_le_running payload older hperiod
  have hbound := h.bounded _ hearlier (reqid, payload)
  omega

theorem not_withinTotal {cfg : Config} (hneg : cfg.totalTimes < 0) {reqid payload : String} :
    ¬ WithinTotal cfg [.rebroadcast reqid payload] := by
  intro h
  have hcount := h reqid payload _ (List.infix_refl _) (by simp [Logged.Clears])
  rw [List.count_singleton_self] at hcount
  omega

/-- **No payload is rebroadcast more often than configured**, between two points at which the
counters of its request id are cleared, exactly when the configured total is not negative: a
negative total passes the test for zero, and lets every payload through once. -/
theorem rebroadcast_bound_iff (cfg : Config) :
    (∀ es s, Run (Steps (Plugin.step cfg)) {} es s → WithinTotal cfg s.log) ↔
      0 ≤ cfg.totalTimes := by
  constructor
  · intro h
    by_contra hneg
    obtain ⟨s, hrun, hs⟩ := rebroadcast_once cfg (by omega)
    have hwithin := h _ s hrun
    rw [hs] at hwithin
    exact not_withinTotal (by omega) hwithin
  · intro htotal es s hrun
    have hkept := hrun.invariant (I := fun s => Kept cfg.totalTimes s.broadcastTimes s.log)
      (fun _ _ _ hs hstep => hs.moves htotal (moves_of_step hstep)) (kept_nil htotal)
    exact hkept.withinTotal

/-- With a total of -1 a TCM is rebroadcast once. -/
theorem rebroadcast_negative_total : ¬ ∀ (cfg : Config) es s,
    Run (Steps (Plugin.step cfg)) {} es s → WithinTotal cfg s.log := by
  intro h
  obtain ⟨s, hrun, hs⟩ := rebroadcast_once ⟨1000, -1⟩ (by decide)
  have hwithin := h _ _ s hrun
  rw [hs] at hwithin
  exact not_withinTotal (by decide) hwithin

/-! ## How long a TCM is kept -/

/-- A removal by its own acknowledgement, or after more than the time-out since the first iteration
that saw this TCM. -/
def Removal.Justified (cfg : Config) (r : Removal) : Prop :=
  match r.cause with
  | .acknowledged reqid msgnum => reqid = r.reqid ∧ r.tracked.tcm.msgnum = some msgnum
  | .timedOut time =>
      ∃ first, r.tracked.firstSeen = some first ∧ (cfg.timeOut.toNat : Int) < time - first

/-- No TCM arrives for a request id whose time-out is running. -/
def fresh (s : Plugin) : Event → Bool
  | .arrive reqid _ => (s.startingTime.lookup reqid).isNone
  | _ => true

/-- The time-out of a request id was started no earlier than any tracked TCM of it was first
seen. -/
structure Timely (cfg : Config) (s : Plugin) : Prop where
  seen : ∀ e ∈ s.notAckTcms, ∀ first, e.2.firstSeen = some first → first ≤ s.now
  started : ∀ e ∈ s.notAckTcms, ∀ start, s.startingTime.lookup e.1 = some start →
    ∃ first, e.2.firstSeen = some first ∧ first ≤ start
  justified : ∀ r ∈ s.removals, r.Justified cfg

theorem timely_init (cfg : Config) : Timely cfg {} where
  seen e he := by cases he
  started e he := by cases he
  justified r hr := by cases hr

/-! ### Acknowledgements -/

theorem takeOut_sublist (reqid : String) (msgnum : Int) (ts : List (String × Tracked)) :
    (Plugin.takeOut reqid msgnum ts).2.Sublist ts := by
  fun_induction Plugin.takeOut reqid msgnum ts with
  | case1 => exact .slnil
  | case2 => exact List.Sublist.refl _
  | case3 => exact List.sublist_cons_self _ _
  | case4 t ts n hn hne ih => exact ih.cons_cons _
  | case5 id t ts hid ih => exact ih.cons_cons _

theorem takeOut_msgnum {reqid : String} {msgnum : Int} {ts : List (String × Tracked)} {t : Tracked}
    (h : (Plugin.takeOut reqid msgnum ts).1 = some t) : t.tcm.msgnum = some msgnum := by
  fun_induction Plugin.takeOut reqid msgnum ts with
  | case1 => cases h
  | case2 => cases h
  | case3 t' ts hn =>
      cases h
      exact hn
  | case4 t' ts n hn hne ih => exact ih h
  | case5 id t' ts hid ih => exact ih h

theorem Timely.acknowledge {cfg : Config} {s : Plugin} (h : Timely cfg s) (reqid : String)
    (msgnum : Int) : Timely cfg (s.acknowledge reqid msgnum) where
  seen e he := h.seen e ((takeOut_sublist _ _ _).subset he)
  started e he := h.started e ((takeOut_sublist _ _ _).subset he)
  justified r hr := by
    rcases List.mem_append.mp hr with hr | hr
    · obtain ⟨t, ht, rfl⟩ := List.mem_map.mp hr
      exact ⟨rfl, takeOut_msgnum (Option.mem_toList.mp ht)⟩
    · exact h.justified r hr

theorem Timely.arrive {cfg : Config} {s : Plugin} (h : Timely cfg s) {reqid : String} {tcm : Tcm}
    (hfresh : s.startingTime.lookup reqid = none) : Timely cfg (s.arrive reqid tcm) := by
  unfold Plugin.arrive
  split
  · refine ⟨fun e he first hfirst => ?_, fun e he start hstart => ?_, h.justified⟩
    · rcases mem_multimapInsert.mp he with rfl | he
      · cases hfirst
      · exact h.seen e he first hfirst
    · rcases mem_multimapInsert.mp he with rfl | he
      · rw [hfresh] at hstart
        cases hstart
      · exact h.started e he start hstart
  · exact h

/-! ### Iterations -/

theorem lookup_foldl_erase (ids : List String) (m : AList (fun _ : String => Int)) (id : String) :
    (ids.foldl (fun m id => m.erase id) m).lookup id = if id ∈ ids then none else m.lookup id := by
  induction ids generalizing m with
  | nil => simp
  | cons d ids ih =>
      rw [List.foldl_cons, ih]
      by_cases hmem : id ∈ ids
      · simp [hmem]
      · by_cases hd : id = d
        · subst hd
          simp
        · simp [hmem, hd, AList.lookup_erase_ne hd]

/-- What the loop knows in the middle: the start times are those of before or at least `c0`, and an
expired id has exceeded the time-out by `time`. -/
structure Loops (cfg : Config) (s : Plugin) (c0 time : Int) (p : Pass) : Prop where
  starts : ∀ id start, p.startingTime.lookup id = some start →
    s.startingTime.lookup id = some start ∨ c0 ≤ start
  expired : ∀ id ∈ p.expired, ∃ start, p.startingTime.lookup id = some start ∧
    (cfg.timeOut.toNat : Int) < time - start

/-- A rebroadcast leaves the start times and the expired ids alone. -/
theorem Loops.rebroadcast {cfg : Config} {s : Plugin} {c0 time : Int} {p : Pass}
    (h : Loops cfg s c0 time p) (reqid payload : String) :
    Loops cfg s c0 time (p.rebroadcast cfg reqid payload) := by
  unfold Pass.rebroadcast
  simp only
  split
  · exact ⟨h.starts, h.expired⟩
  · exact ⟨h.starts, h.expired⟩

theorem Loops.start {cfg : Config} {s : Plugin} {c0 time curTime : Int} {p : Pass}
    (h : Loops cfg s c0 time p) (hc0 : c0 ≤ curTime) {reqid : String}
    (hnone : p.startingTime.lookup reqid = none) :
    Loops cfg s c0 time { p with startingTime := p.startingTime.insert reqid curTime } := by
  constructor
  · intro id start hstart
    by_cases hid : id = reqid
    · rw [hid, AList.lookup_insert] at hstart
      cases hstart
      exact .inr hc0
    · rw [AList.lookup_insert_ne hid] at hstart
      exact h.starts id start hstart
  · intro id hid
    obtain ⟨start, hstart, hlong⟩ := h.expired id hid
    have hne : id ≠ reqid := by
      rintro rfl
      rw [hnone] at hstart
      cases hstart
    exact ⟨start, by rw [AList.lookup_insert_ne hne, hstart], hlong⟩

theorem Loops.visit {cfg : Config} {s : Plugin} {c0 time curTime : Int} {p : Pass}
    (h : Loops cfg s c0 time p) (hc0 : c0 ≤ curTime) (htime : curTime ≤ time)
    (reqid payload : String) : Loops cfg s c0 time (p.visit cfg reqid payload curTime) := by
  unfold Pass.visit
  split
  · next hnone => exact (h.start hc0 hnone).rebroadcast reqid payload
  · next start hsome =>
    split
    · next hlong =>
      refine ⟨h.starts, ?_⟩
      intro id hid
      rcases List.mem_insert_iff.mp hid with rfl | hid
      · exact ⟨start, hsome, by omega⟩
      · exact h.expired id hid
    · exact h.rebroadcast reqid payload

theorem Loops.visitAll {cfg : Config} {s : Plugin} {c0 time : Int} {clock : Nat → Int}
    {ts : List (String × Tracked)} {k : Nat} {p : Pass} (h : Loops cfg s c0 time p)
    (hclock : ∀ j, k ≤ j → j < k + ts.length → c0 ≤ clock j ∧ clock j ≤ time) :
    Loops cfg s c0 time (p.visitAll cfg clock k ts) := by
  induction ts generalizing k p with
  | nil => exact h
  | cons t ts ih =>
      obtain ⟨hc0, htime⟩ := hclock k (Nat.le_refl k) (by simp)
      apply ih (h.visit hc0 htime t.1 t.2.tcm.payload)
      intro j hkj hj
      exact hclock j (by omega) (by simp only [List.length_cons]; omega)

/-- The clock readings of an iteration are in order. -/
theorem clock_le {n : Nat} {clock : Nat → Int} (h : ∀ k < n, clock k ≤ clock (k + 1)) {i j : Nat}
    (hij : i ≤ j) (hj : j ≤ n) : clock i ≤ clock j := by
  induction j with
  | zero =>
      obtain rfl : i = 0 := by omega
      exact Int.le_refl _
  | succ j ih =>
      rcases Nat.lt_or_ge i (j + 1) with hlt | hge
      · have h1 := ih (by omega) (by omega)
        have h2 := h j (by omega)
        omega
      · obtain rfl : i = j + 1 := by omega
        exact Int.le_refl _

/-- A TCM as an iteration leaves it was seen no later than the start time of its request id. -/
theorem Timely.see {cfg : Config} {s : Plugin} (h : Timely cfg s) {c0 start : Int}
    (hnow : s.now ≤ c0) {e : String × Tracked} (he : e ∈ s.notAckTcms)
    (hstart : s.startingTime.lookup e.1 = some start ∨ c0 ≤ start) :
    ∃ first, (Plugin.see c0 e).2.firstSeen = some first ∧ first ≤ start := by
  refine ⟨_, rfl, ?_⟩
  rcases hstart with hstart | hstart
  · obtain ⟨first, hfirst, hle⟩ := h.started e he start hstart
    simpa [hfirst] using hle
  · cases hfirst : e.2.firstSeen with
    | none => simpa using hstart
    | some first =>
        have := h.seen e he first hfirst
        simp only [Option.getD_some]
        omega

/-- The readings of one iteration: from the last one on, and in order. -/
theorem clock_of_clockRuns {s : Plugin} {clock : Nat → Int} (h : s.clockRuns clock = true) :
    s.now ≤ clock 0 ∧ ∀ i j, i ≤ j → j ≤ s.notAckTcms.length → clock i ≤ clock j := by
  simp only [Plugin.clockRuns, Bool.and_eq_true, decide_eq_true_eq, List.all_eq_true,
    List.mem_range] at h
  exact ⟨h.1, fun i j hij hj => clock_le h.2 hij hj⟩

theorem loops_iterate (cfg : Config) {s : Plugin} {clock : Nat → Int}
    (hruns : s.clockRuns clock = true) :
    Loops cfg s (clock 0) (clock s.notAckTcms.length)
      (s.pass.visitAll cfg clock 0 s.notAckTcms) := by
  have hclock := (clock_of_clockRuns hruns).2
  refine Loops.visitAll ⟨fun id start hstart => .inl hstart, fun id hid => by cases hid⟩ ?_
  intro j _ hj
  exact ⟨hclock 0 j (Nat.zero_le j) (by omega), hclock j _ (by omega) (Nat.le_refl _)⟩

/-- The clean-up only takes start times out. -/
theorem lookup_iterate {cfg : Config} {s : Plugin} {clock : Nat → Int} {id : String} {start : Int}
    (h : (s.iterate cfg clock).startingTime.lookup id = some start) :
    (s.pass.visitAll cfg clock 0 s.notAckTcms).startingTime.lookup id = some start := by
  have hlookup := lookup_foldl_erase (s.pass.visitAll cfg clock 0 s.notAckTcms).expired
    (s.pass.visitAll cfg clock 0 s.notAckTcms).startingTime id
  rw [show (s.iterate cfg clock).startingTime.lookup id = _ from hlookup] at h
  split at h
  · cases h
  · exact h

theorem Timely.iterate {cfg : Config} {s : Plugin} (h : Timely cfg s) {clock : Nat → Int}
    (hruns : s.clockRuns clock = true) : Timely cfg (s.iterate cfg clock) := by
  obtain ⟨hnow, hclock⟩ := clock_of_clockRuns hruns
  have hloops := loops_iterate cfg hruns
  have htime : clock 0 ≤ clock s.notAckTcms.length := hclock 0 _ (Nat.zero_le _) (Nat.le_refl _)
  refine ⟨fun e he first hfirst => ?_, fun e he start hstart => ?_, fun r hr => ?_⟩
  · obtain ⟨e, hmem, rfl⟩ := List.mem_map.mp (List.mem_filter.mp he).1
    show first ≤ clock s.notAckTcms.length
    obtain rfl := Option.some.inj hfirst
    cases hseen : e.2.firstSeen with
    | none => simpa using htime
    | some first =>
        have := h.seen e hmem first hseen
        simp only [Option.getD_some]
        omega
  · obtain ⟨e, hmem, rfl⟩ := List.mem_map.mp (List.mem_filter.mp he).1
    exact h.see hnow hmem (hloops.starts e.1 start (lookup_iterate hstart))
  · rcases List.mem_append.mp hr with hr | hr
    · obtain ⟨e', he', rfl⟩ := List.mem_map.mp hr
      obtain ⟨hmem, hexp⟩ := List.mem_filter.mp he'
      obtain ⟨e, he, rfl⟩ := List.mem_map.mp hmem
      obtain ⟨start, hstart, hlong⟩ := hloops.expired e.1 (of_decide_eq_true hexp)
      obtain ⟨first, hfirst, hle⟩ := h.see hnow he (hloops.starts e.1 start hstart)
      exact ⟨first, hfirst, by omega⟩
    · exact h.justified r hr

theorem Timely.moves {cfg : Config} {s t : Plugin} {e : Event} (h : Timely cfg s)
    (hfresh : fresh s e = true) (hmoves : Moves cfg s e t) : Timely cfg t := by
  cases hmoves with
  | arrives reqid tcm => exact h.arrive (Option.isNone_iff_eq_none.mp hfresh)
  | unread reqid => exact h
  | acknowledges reqid msgnum => exact h.acknowledge reqid msgnum
  | wakes timer => exact ⟨h.seen, h.started, h.justified⟩
  | iterates hruns => exact h.iterate hruns
  | resets hruns =>
      refine ⟨fun e he first hfirst => ?_, fun e he start hstart => ?_, h.justified⟩
      · exact Int.le_trans (h.seen e he first hfirst) (clock_of_clockRuns hruns).1
      · cases hstart

/-- **A TCM is given up no sooner than the time-out after it was first seen**, in every run in which
no TCM arrives for a request id whose time-out is running. -/
theorem tcm_removal_justified {cfg : Config} {es : List Event} {s : Plugin}
    (hrun : Run (Guarded (fun s e => fresh s e = true) (Steps (Plugin.step cfg))) {} es s) :
    ∀ r ∈ s.removals, r.Justified cfg :=
  (hrun.invariant (I := Timely cfg) (fun _ _ _ h hstep => h.moves hstep.1 (moves_of_step hstep.2))
    (timely_init cfg)).justified

/-- Two TCMs of one request id arrive together; one is acknowledged, the other times out. -/
theorem tcm_removal_justified_pair : ∃ s,
    Run (Guarded (fun s e => fresh s e = true) (Steps (Plugin.step ⟨1000, 1⟩))) {}
      [.arrive "0a" ⟨"00f5", some 1⟩, .arrive "0a" ⟨"00f6", some 2⟩, .wake, .iterate (fun _ => 0),
        .acknowledge "0a" (some 1), .wake, .iterate (fun _ => 1001)] s ∧
      s.removals.length = 2 ∧ ∀ r ∈ s.removals, r.Justified ⟨1000, 1⟩ := by
  have hsome : ([Event.arrive "0a" ⟨"00f5", some 1⟩, .arrive "0a" ⟨"00f6", some 2⟩, .wake,
      .iterate (fun _ => 0), .acknowledge "0a" (some 1), .wake, .iterate (fun _ => 1001)].foldlM
        (guardedStep fresh (Plugin.step ⟨1000, 1⟩)) {}).map (fun s => s.removals.length) =
      some 2 := by
    decide +kernel
  obtain ⟨s, hs, hlen⟩ := Option.map_eq_some_iff.mp hsome
  exact ⟨s, Run.guarded_of_foldlM hs, hlen, tcm_removal_justified (Run.guarded_of_foldlM hs)⟩

/-- A second TCM of a request id arrives 1001 ms after the first was first seen, and goes with it,
in the iteration that sees it for the first time. -/
theorem tcm_removed_at_once : ¬ ∀ (cfg : Config) es s, Run (Steps (Plugin.step cfg)) {} es s →
    ∀ r ∈ s.removals, r.Justified cfg := by
  intro h
  have hsome : ([Event.arrive "0a" ⟨"00f5", some 1⟩, .wake, .iterate (fun _ => 0),
      .arrive "0a" ⟨"00f6", some 2⟩, .wake, .iterate (fun _ => 1001)].foldlM
        (Plugin.step ⟨1000, 1⟩) {}).map (fun s => s.removals) =
      some [⟨"0a", ⟨⟨"00f5", some 1⟩, some 0⟩, .timedOut 1001⟩,
        ⟨"0a", ⟨⟨"00f6", some 2⟩, some 1001⟩, .timedOut 1001⟩] := by
    decide +kernel
  obtain ⟨s, hs, hremovals⟩ := Option.map_eq_some_iff.mp hsome
  obtain ⟨first, hfirst, hlong⟩ := h _ _ s (Run.of_foldlM hs)
    ⟨"0a", ⟨⟨"00f6", some 2⟩, some 1001⟩, .timedOut 1001⟩ (by rw [hremovals]; simp)
  cases hfirst
  revert hlong
  decide

end V2XHub.CarmaCloud
