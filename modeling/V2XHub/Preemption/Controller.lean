import V2XHub.Lib.Run
import V2XHub.Preemption.Worker

/-!
# The worker and the controller

A `Site` puts the worker's table beside what the controller has been told, and beside where the
vehicles really are. The two laws of the plugin compare them: the plan of an approach is on exactly
while a vehicle is on it, and the table does not claim what the controller has not acknowledged.

Both come down to one agreement, `Agrees`, between the table and the SETs that count: all of them
for the first law, the acknowledged ones for the second.
-/

namespace V2XHub.Preemption

open V2XHub.Lib

variable {Bsm : Type}

structure Site where
  preemptionMap : PreemptionMap := ∅
  /-- The SETs sent, the latest first, with what `SendOid` returned. -/
  sets : List (SetRequest × Int) := []
  /-- The plan of the approach the latest observation of a vehicle places it on. -/
  latest : Int → Option String := fun _ => none
  /-- The SET of the last observation, when it failed. -/
  failed : Option SetRequest := none

/-- A BSM, and what `SendOid` returns should it be called. -/
structure Observation (Bsm : Type) where
  vehicleId : Int
  bsm : Bsm
  response : Int := 0

/-! ## What the controller has been told -/

/-- The value last sent for an OID, of the SETs whose response counts. -/
def lastValue (counts : Int → Bool) (sets : List (SetRequest × Int)) (oid : String) :
    Option String :=
  (sets.find? (fun r => r.1.oid = oid && counts r.2)).map (·.1.value)

def lastSent : List (SetRequest × Int) → String → Option String := lastValue (fun _ => true)

def lastAcknowledged : List (SetRequest × Int) → String → Option String := lastValue (· = 0)

/-- A request appended to what was sent. -/
def record (request : Option SetRequest) (response : Int) (sets : List (SetRequest × Int)) :
    List (SetRequest × Int) :=
  match request with
  | some r => (r, response) :: sets
  | none => sets

theorem lastValue_record_self {counts : Int → Bool} {response : Int} (hc : counts response = true)
    (sets : List (SetRequest × Int)) (oid value : String) :
    lastValue counts (record (some ⟨oid, value⟩) response sets) oid = some value := by
  simp [lastValue, record, hc]

theorem lastValue_record_of_ne {counts : Int → Bool} {response : Int}
    {sets : List (SetRequest × Int)} {oid oid' value : String} (hne : oid' ≠ oid) :
    lastValue counts (record (some ⟨oid', value⟩) response sets) oid =
      lastValue counts sets oid := by
  simp [lastValue, record, hne]

/-- A SET whose response does not count changes nothing. -/
theorem lastValue_record_of_not {counts : Int → Bool} {response : Int}
    (hc : counts response = false) (sets : List (SetRequest × Int)) (request : SetRequest)
    (oid : String) :
    lastValue counts (record (some request) response sets) oid = lastValue counts sets oid := by
  simp [lastValue, record, hc]

/-! ## Agreement of the table with the SETs that count -/

/-- Some vehicle of the table has the plan `p`. -/
def Tracks (map : PreemptionMap) (p : String) : Prop :=
  ∃ v po, map.lookup v = some po ∧ po.preemptionPlan = p

def Agrees (counts : Int → Bool) (base : String) (map : PreemptionMap)
    (sets : List (SetRequest × Int)) : Prop :=
  ∀ p, lastValue counts sets (base ++ p) = some "1" ↔ Tracks map p

theorem tracks_insert {map : PreemptionMap} {v : Int} {po : PreemptionObject}
    (hv : map.lookup v = none) {p : String} :
    Tracks (map.insert v po) p ↔ po.preemptionPlan = p ∨ Tracks map p := by
  constructor
  · rintro ⟨w, po', hw, hp⟩
    by_cases hwv : w = v
    · subst hwv
      rw [AList.lookup_insert] at hw
      exact .inl (by rw [Option.some.inj hw, hp])
    · rw [AList.lookup_insert_ne hwv] at hw
      exact .inr ⟨w, po', hw, hp⟩
  · rintro (hp | ⟨w, po', hw, hp⟩)
    · exact ⟨v, po, AList.lookup_insert map, hp⟩
    · have hwv : w ≠ v := by
        rintro rfl
        rw [hv] at hw
        cases hw
      exact ⟨w, po', by rw [AList.lookup_insert_ne hwv, hw], hp⟩

/-- Erasing a vehicle whose plan is its own. -/
theorem tracks_erase {map : PreemptionMap} {v : Int} {po : PreemptionObject}
    (hv : map.lookup v = some po)
    (halone : ∀ w po', map.lookup w = some po' → po'.preemptionPlan = po.preemptionPlan → w = v)
    {p : String} : Tracks (map.erase v) p ↔ po.preemptionPlan ≠ p ∧ Tracks map p := by
  constructor
  · rintro ⟨w, po', hw, rfl⟩
    have hwv : w ≠ v := by
      rintro rfl
      rw [AList.lookup_erase] at hw
      cases hw
    rw [AList.lookup_erase_ne hwv] at hw
    exact ⟨fun heq => hwv (halone w po' hw heq.symm), w, po', hw, rfl⟩
  · rintro ⟨hne, w, po', hw, rfl⟩
    have hwv : w ≠ v := by
      rintro rfl
      rw [hv] at hw
      exact hne (by rw [Option.some.inj hw])
    exact ⟨w, po', by rw [AList.lookup_erase_ne hwv, hw], rfl⟩

/-- **The step lemma of both laws.** When the SET of an observation counts, and a vehicle that
leaves has its plan to itself, table and controller agree afterwards. -/
theorem Agrees.handles {counts : Int → Bool} {base : String} {map map' : PreemptionMap}
    {sets : List (SetRequest × Int)} {fences : List (GeofenceObject Bsm)} {v : Int} {bsm : Bsm}
    {request : Option SetRequest} {response : Int} (h : Agrees counts base map sets)
    (hh : Handles fences base map v bsm request map')
    (hcounts : request.isSome = true → counts response = true)
    (halone : planAt fences bsm = none → ∀ po, map.lookup v = some po → ∀ w po',
      map.lookup w = some po' → po'.preemptionPlan = po.preemptionPlan → w = v) :
    Agrees counts base map' (record request response sets) := by
  intro q
  cases hh with
  | @enters p hplan hv =>
      rw [tracks_insert hv]
      by_cases hpq : p = q
      · subst hpq
        simp [lastValue_record_self (hcounts rfl)]
      · rw [lastValue_record_of_ne (by simpa using hpq), h q]
        simp [hpq]
  | stays => exact h q
  | @leaves po hplan hne hv =>
      rw [tracks_erase hv (halone hplan po hv)]
      by_cases hpq : po.preemptionPlan = q
      · subst hpq
        simp [lastValue_record_self (hcounts rfl)]
      · rw [lastValue_record_of_ne (by simpa using hpq), h q]
        simp [hpq]
  | away => exact h q

/-! ## Observations -/

namespace Site

/-- The SET an observation leads to, if any, and the table after it. -/
def plan (fences : List (GeofenceObject Bsm)) (base : String) (s : Site) (o : Observation Bsm) :
    Option SetRequest × PreemptionMap :=
  preemptionPlaner base s.preemptionMap (vehicleLocatorWorker fences o.vehicleId o.bsm)

def observe (fences : List (GeofenceObject Bsm)) (base : String) (s : Site)
    (o : Observation Bsm) : Site where
  preemptionMap := (s.plan fences base o).2
  sets := record (s.plan fences base o).1 o.response s.sets
  latest := Function.update s.latest o.vehicleId (planAt fences o.bsm)
  failed := if o.response = 0 then none else (s.plan fences base o).1

def step (fences : List (GeofenceObject Bsm)) (base : String) (s : Site) (o : Observation Bsm) :
    Option Site :=
  some (s.observe fences base o)

variable {fences : List (GeofenceObject Bsm)} {base : String}

theorem handles_plan (fences : List (GeofenceObject Bsm)) (base : String) (s : Site)
    (o : Observation Bsm) :
    Handles fences base s.preemptionMap o.vehicleId o.bsm (s.plan fences base o).1
      (s.plan fences base o).2 :=
  handles fences base s.preemptionMap o.vehicleId o.bsm

/-! ## A plan is on while a vehicle is on its approach -/

/-- The last value sent for a plan is `"1"` exactly when some vehicle's latest observation places it
on an approach with that plan; otherwise it was never sent, or was last sent `"0"`. -/
def PlansLaw (base : String) (s : Site) : Prop :=
  ∀ p, (lastSent s.sets (base ++ p) = some "1" ↔ ∃ v, s.latest v = some p) ∧
    (lastSent s.sets (base ++ p) ≠ some "1" →
      lastSent s.sets (base ++ p) = none ∨ lastSent s.sets (base ++ p) = some "0")

/-- No vehicle of the table but `v` has the plan `p`. -/
def unshared (map : PreemptionMap) (v : Int) (p : String) : Bool :=
  map.entries.all (fun e => e.1 = v || e.2.preemptionPlan ≠ p)

theorem eq_of_unshared {map : PreemptionMap} {v w : Int} {p : String} {po : PreemptionObject}
    (h : unshared map v p = true) (hw : map.lookup w = some po) (hp : po.preemptionPlan = p) :
    w = v := by
  have hentry := List.all_eq_true.mp h ⟨w, po⟩ (AList.mem_lookup_iff.mp hw)
  simpa [hp] using hentry

/-- A vehicle of the table is either seen on the approach it was entered for, or leaves an approach
whose plan no other vehicle of the table has. -/
def orderly (fences : List (GeofenceObject Bsm)) (s : Site) (o : Observation Bsm) : Bool :=
  match s.preemptionMap.lookup o.vehicleId with
  | none => true
  | some po =>
      match planAt fences o.bsm with
      | some p => po.preemptionPlan = p
      | none => unshared s.preemptionMap o.vehicleId po.preemptionPlan

structure Orderly (fences : List (GeofenceObject Bsm)) (base : String) (s : Site) : Prop where
  agrees : Agrees (fun _ => true) base s.preemptionMap s.sets
  tracked : ∀ v, s.latest v = (s.preemptionMap.lookup v).map (·.preemptionPlan)
  values : ∀ r ∈ s.sets, r.1.value = "0" ∨ r.1.value = "1"
  blind : fences = [] → ∀ v, s.preemptionMap.lookup v = none

theorem orderly_init : Orderly fences base {} where
  agrees p := by simp [Tracks, lastValue]
  tracked v := by simp
  values r hr := by simp at hr
  blind _ v := by simp

/-- An observation changes the table for its own vehicle only. -/
theorem lookup_of_ne {map map' : PreemptionMap} {v w : Int} {bsm : Bsm}
    {request : Option SetRequest} (h : Handles fences base map v bsm request map') (hw : w ≠ v) :
    map'.lookup w = map.lookup w := by
  cases h with
  | enters => exact AList.lookup_insert_ne hw
  | stays => rfl
  | leaves => exact AList.lookup_erase_ne hw
  | away => rfl

theorem record_values {map map' : PreemptionMap} {v : Int} {bsm : Bsm} {response : Int}
    {request : Option SetRequest} {sets : List (SetRequest × Int)}
    (h : Handles fences base map v bsm request map')
    (hsets : ∀ r ∈ sets, r.1.value = "0" ∨ r.1.value = "1") :
    ∀ r ∈ record request response sets, r.1.value = "0" ∨ r.1.value = "1" := by
  intro r hr
  cases h with
  | enters =>
      rcases List.mem_cons.mp hr with rfl | hr
      · exact .inr rfl
      · exact hsets r hr
  | stays => exact hsets r hr
  | leaves =>
      rcases List.mem_cons.mp hr with rfl | hr
      · exact .inl rfl
      · exact hsets r hr
  | away => exact hsets r hr

/-- In an orderly observation the table ends up with the vehicle where it is. -/
theorem lookup_self {s : Site} {o : Observation Bsm} {map' : PreemptionMap}
    {request : Option SetRequest} (hs : Orderly fences base s) (ho : s.orderly fences o = true)
    (h : Handles fences base s.preemptionMap o.vehicleId o.bsm request map') :
    (map'.lookup o.vehicleId).map (·.preemptionPlan) = planAt fences o.bsm := by
  cases h with
  | @enters p hplan hv => rw [AList.lookup_insert, hplan, Option.map_some]
  | @stays p po hplan hv =>
      have hp : po.preemptionPlan = p := by simpa [orderly, hv, hplan] using ho
      rw [hv, hplan, Option.map_some, hp]
  | leaves hplan => rw [AList.lookup_erase, hplan, Option.map_none]
  | away hplan hgone =>
      rcases hgone with hempty | hv
      · rw [hs.blind hempty, hplan, Option.map_none]
      · rw [hv, hplan, Option.map_none]

theorem Orderly.observe {s : Site} {o : Observation Bsm} (hs : Orderly fences base s)
    (ho : s.orderly fences o = true) : Orderly fences base (s.observe fences base o) := by
  have hh := s.handles_plan fences base o
  refine ⟨hs.agrees.handles hh (fun _ => rfl) ?_, fun w => ?_, record_values hh hs.values, ?_⟩
  · intro hplan po hv w po' hw hp
    exact eq_of_unshared (by simpa [orderly, hv, hplan] using ho) hw hp
  · by_cases hw : w = o.vehicleId
    · subst hw
      simpa [Site.observe] using (lookup_self hs ho hh).symm
    · simpa [Site.observe, hw, lookup_of_ne hh hw] using hs.tracked w
  · intro hempty w
    by_cases hw : w = o.vehicleId
    · have hself := lookup_self hs ho hh
      subst hw hempty
      simpa [planAt, Site.observe] using hself
    · exact (lookup_of_ne hh hw).trans (hs.blind hempty w)

theorem Orderly.plansLaw {s : Site} (hs : Orderly fences base s) : PlansLaw base s := by
  intro p
  constructor
  · rw [show lastSent s.sets (base ++ p) = some "1" ↔ Tracks s.preemptionMap p from hs.agrees p]
    simp only [hs.tracked, Option.map_eq_some_iff, Tracks]
  · intro hne
    rw [lastSent, lastValue] at hne ⊢
    cases hfind : s.sets.find? (fun r => r.1.oid = base ++ p && true) with
    | none => exact .inl rfl
    | some r =>
        rcases hs.values r (List.mem_of_find?_eq_some hfind) with h0 | h1
        · exact .inr (by simp [h0])
        · exact absurd (by rw [hfind, Option.map_some, h1]) hne

/-- **The controller follows the vehicles**, as long as no vehicle passes from one approach directly
to another with a different plan, and none leaves an approach whose plan another vehicle still
has. -/
theorem preemption_plans_law {os : List (Observation Bsm)} {s : Site}
    (hrun : Run (Guarded (fun s o => o.response = 0 ∧ s.orderly fences o = true)
      (Steps (step fences base))) {} os s) : PlansLaw base s := by
  refine Orderly.plansLaw (hrun.invariant (I := Orderly fences base) ?_ orderly_init)
  intro s o t hs hstep
  obtain ⟨⟨-, ho⟩, ht⟩ := hstep
  cases ht
  exact hs.observe ho

/-- Two approaches, with plans 3 and 4; a BSM is the number of the approach it is on. -/
def twoApproaches : List (GeofenceObject Nat) := [⟨(· == 1), 3⟩, ⟨(· == 2), 4⟩]

/-- Vehicles 7 and 8 on approaches with different plans; 7 leaves, 8 stays. -/
theorem preemption_plans_law_two_vehicles : ∃ s,
    Run (Guarded (fun s o => o.response = 0 ∧ s.orderly twoApproaches o = true)
      (Steps (step twoApproaches "1.2."))) {} [⟨7, 1, 0⟩, ⟨8, 2, 0⟩, ⟨7, 0, 0⟩, ⟨8, 2, 0⟩] s ∧
      PlansLaw "1.2." s ∧ s.latest 8 = some "4" := by
  have hsome : ([⟨7, 1, 0⟩, ⟨8, 2, 0⟩, ⟨7, 0, 0⟩, ⟨8, 2, 0⟩].foldlM
      (guardedStep (fun s o => decide (o.response = 0) && s.orderly twoApproaches o)
        (step twoApproaches "1.2.")) {}).map (fun s => s.latest 8) = some (some "4") := by
    decide +kernel
  obtain ⟨s, hs, hlatest⟩ := Option.map_eq_some_iff.mp hsome
  have hrun : Run (Guarded (fun s o => o.response = 0 ∧ s.orderly twoApproaches o = true)
      (Steps (step twoApproaches "1.2."))) {} _ s :=
    (Run.guarded_of_foldlM hs).mono (fun s o t h => ⟨by simpa using h.1, h.2⟩)
  exact ⟨s, hrun, preemption_plans_law hrun, hlatest⟩

/-- Two vehicles on one approach: when the first leaves, the plan is switched off under the
second. -/
theorem preemption_plan_off_under_vehicle : ¬ ∀ (os : List (Observation Nat)) (s : Site),
    Run (Guarded (fun _ o => o.response = 0) (Steps (step twoApproaches "1.2."))) {} os s →
      PlansLaw "1.2." s := by
  intro h
  have hsome : ([⟨7, 1, 0⟩, ⟨8, 1, 0⟩, ⟨7, 0, 0⟩].foldlM
      (guardedStep (fun _ o => decide (o.response = 0)) (step twoApproaches "1.2.")) {}).map
        (fun s => (lastSent s.sets ("1.2." ++ "3"), s.latest 8)) = some (some "0", some "3") := by
    decide +kernel
  obtain ⟨s, hs, hobs⟩ := Option.map_eq_some_iff.mp hsome
  have hrun : Run (Guarded (fun _ o => o.response = 0) (Steps (step twoApproaches "1.2."))) {} _
      s :=
    (Run.guarded_of_foldlM hs).mono (fun s o t h => ⟨by simpa using h.1, h.2⟩)
  have hlaw := (h _ s hrun "3").1
  simp only [Prod.mk.injEq] at hobs
  rw [hobs.1] at hlaw
  have hon := hlaw.mpr ⟨8, hobs.2⟩
  simp at hon

/-! ## The table and what the controller acknowledged -/

/-- The observations `os`, from a worker that has seen none. -/
def run (fences : List (GeofenceObject Bsm)) (base : String) (os : List (Observation Bsm)) : Site :=
  os.foldl (observe fences base) {}

/-- A SET that failed is sent again on the next observation for which it is still right, and the
table has a plan exactly when the last value the controller acknowledged for it is `"1"`. -/
structure SurvivesLaw (fences : List (GeofenceObject Bsm)) (base : String) (v : Int) (s : Site) :
    Prop where
  resendsOn : ∀ (o : Observation Bsm) p, o.vehicleId = v → s.failed = some ⟨base ++ p, "1"⟩ →
    planAt fences o.bsm = some p → (s.plan fences base o).1 = some ⟨base ++ p, "1"⟩
  resendsOff : ∀ (o : Observation Bsm) p, o.vehicleId = v → s.failed = some ⟨base ++ p, "0"⟩ →
    planAt fences o.bsm = none → (s.plan fences base o).1 = some ⟨base ++ p, "0"⟩
  table : ∀ p, lastAcknowledged s.sets (base ++ p) = some "1" ↔ Tracks s.preemptionMap p

/-- Only the vehicle `v` is in the table. -/
def Only (v : Int) (map : PreemptionMap) : Prop := ∀ w, w ≠ v → map.lookup w = none

theorem only_run {v : Int} {os : List (Observation Bsm)} (hv : ∀ o ∈ os, o.vehicleId = v) :
    Only v (run fences base os).preemptionMap := by
  refine List.foldlRecOn (motive := fun s : Site => Only v s.preemptionMap) os _ ?_ ?_
  · intro w _
    simp
  · intro s hs o ho w hw
    exact (lookup_of_ne (s.handles_plan fences base o) (hv o ho ▸ hw)).trans (hs w hw)

theorem Only.alone {v : Int} {map : PreemptionMap} (h : Only v map) (w : Int)
    (po : PreemptionObject) (hw : map.lookup w = some po) : w = v := by
  by_contra hne
  rw [h w hne] at hw
  cases hw

/-- The table is changed whether or not the SET succeeds, so a SET that fails always leaves it at
odds with the controller. -/
theorem not_agrees_of_failed {counts : Int → Bool} {map map' : PreemptionMap} {v : Int} {bsm : Bsm}
    {sets : List (SetRequest × Int)} {request : Option SetRequest} {response : Int}
    (hagrees : Agrees counts base map sets) (honly : Only v map)
    (hh : Handles fences base map v bsm request map') (hsome : request.isSome = true)
    (hfail : counts response = false) :
    ¬ Agrees counts base map' (record request response sets) := by
  intro hafter
  cases hh with
  | @enters p hplan hv =>
      have hon := (hafter p).mpr ((tracks_insert hv).mpr (.inl rfl))
      rw [lastValue_record_of_not hfail] at hon
      obtain ⟨w, po, hw, -⟩ := (hagrees p).mp hon
      rw [honly.alone w po hw, hv] at hw
      cases hw
  | stays => cases hsome
  | @leaves po hplan hne hv =>
      have hon := (hagrees po.preemptionPlan).mpr ⟨v, po, hv, rfl⟩
      rw [← lastValue_record_of_not hfail sets ⟨base ++ po.preemptionPlan, "0"⟩] at hon
      have hstill := (hafter po.preemptionPlan).mp hon
      exact ((tracks_erase hv (fun w po' hw _ => honly.alone w po' hw)).mp hstill).1 rfl
  | away => cases hsome

/-- The SETs that are sent are acknowledged. -/
def Answered (fences : List (GeofenceObject Bsm)) (base : String) (os : List (Observation Bsm)) :
    Prop :=
  ∀ n o, os[n]? = some o → ((run fences base (os.take n)).plan fences base o).1.isSome = true →
    o.response = 0

theorem run_take_succ {os : List (Observation Bsm)} {n : Nat} {o : Observation Bsm}
    (h : os[n]? = some o) :
    run fences base (os.take (n + 1)) = (run fences base (os.take n)).observe fences base o := by
  simp [run, List.take_add_one, h]

/-- While every SET is acknowledged the table agrees with the controller, and there is nothing to
send again. -/
theorem agrees_of_answered {v : Int} {os : List (Observation Bsm)} (hv : ∀ o ∈ os, o.vehicleId = v)
    (hanswered : Answered fences base os) (n : Nat) :
    Agrees (· = 0) base (run fences base (os.take n)).preemptionMap
      (run fences base (os.take n)).sets ∧ (run fences base (os.take n)).failed = none := by
  induction n with
  | zero => exact ⟨fun p => by simp [run, Tracks, lastValue], rfl⟩
  | succ n ih =>
      cases ho : os[n]? with
      | none =>
          have hlen := List.getElem?_eq_none_iff.mp ho
          rw [List.take_of_length_le (by omega)]
          rwa [List.take_of_length_le hlen] at ih
      | some o =>
          rw [run_take_succ ho]
          have honly : Only v (run fences base (os.take n)).preemptionMap :=
            only_run (fun o ho => hv o (List.mem_of_mem_take ho))
          have hh := (run fences base (os.take n)).handles_plan fences base o
          have hresp := hanswered n o ho
          rw [hv o (List.mem_of_getElem? ho)] at hh
          refine ⟨ih.1.handles hh (fun hsome => by simpa using hresp hsome)
            (fun _ _ _ w po' hw _ => honly.alone w po' hw), ?_⟩
          show (if o.response = 0 then none else _) = none
          by_cases hzero : o.response = 0
          · rw [if_pos hzero]
          · rw [if_neg hzero]
            by_contra hne
            exact hzero (hresp (Option.isSome_iff_ne_none.mpr hne))

/-- **The table survives a run exactly when no SET of it fails.** -/
theorem preemption_survives_iff (fences : List (GeofenceObject Bsm)) (base : String) (v : Int)
    (os : List (Observation Bsm)) (hv : ∀ o ∈ os, o.vehicleId = v) :
    (∀ n, SurvivesLaw fences base v (run fences base (os.take n))) ↔ Answered fences base os := by
  constructor
  · intro hlaw n o ho hsome
    by_contra hfail
    have hafter := (hlaw (n + 1)).table
    rw [run_take_succ ho] at hafter
    have honly : Only v (run fences base (os.take n)).preemptionMap :=
      only_run (fun o ho => hv o (List.mem_of_mem_take ho))
    have hh := (run fences base (os.take n)).handles_plan fences base o
    rw [hv o (List.mem_of_getElem? ho)] at hh
    exact not_agrees_of_failed (hlaw n).table honly hh hsome (by simpa using hfail) hafter
  · intro hanswered n
    obtain ⟨hagrees, hfailed⟩ := agrees_of_answered hv hanswered n
    refine ⟨fun o p _ hf => ?_, fun o p _ hf => ?_, hagrees⟩
    · rw [hfailed] at hf
      cases hf
    · rw [hfailed] at hf
      cases hf

/-- Vehicle 7 comes and goes, and both SETs succeed. -/
theorem preemption_survives_one_pass :
    (run twoApproaches "1.2." [⟨7, 1, 0⟩, ⟨7, 0, 0⟩]).sets.length = 2 ∧
    ∀ n, SurvivesLaw twoApproaches "1.2." 7
      (run twoApproaches "1.2." (List.take n [⟨7, 1, 0⟩, ⟨7, 0, 0⟩])) := by
  refine ⟨by decide +kernel,
    (preemption_survives_iff twoApproaches "1.2." 7 _ (by simp)).mpr fun n o ho _ => ?_⟩
  have hmem := List.mem_of_getElem? ho
  simp only [List.mem_cons, List.not_mem_nil, or_false] at hmem
  rcases hmem with rfl | rfl
  · rfl
  · rfl

/-- The `"1"` of vehicle 7 is lost, and is not sent again while the vehicle stays. -/
theorem preemption_lost_on : ¬ ∀ (v : Int) (os : List (Observation Nat)),
    (∀ o ∈ os, o.vehicleId = v) →
      ∀ n, SurvivesLaw twoApproaches "1.2." v (run twoApproaches "1.2." (os.take n)) := by
  intro h
  have hlaw := h 7 [⟨7, 1, 1⟩] (by simp) 1
  have hfailed : (run twoApproaches "1.2." [⟨7, 1, 1⟩]).failed = some ⟨"1.2." ++ "3", "1"⟩ := by
    decide +kernel
  have hquiet : ((run twoApproaches "1.2." [⟨7, 1, 1⟩]).plan twoApproaches "1.2." ⟨7, 1, 0⟩).1 =
      none := by decide +kernel
  have hresend := hlaw.resendsOn ⟨7, 1, 0⟩ "3" rfl hfailed (by decide +kernel)
  exact Option.some_ne_none _ (hresend.symm.trans hquiet)

end Site

end V2XHub.Preemption
