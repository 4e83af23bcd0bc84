import Mathlib.Data.List.AList
import Mathlib.Logic.Function.Basic

/-!
# The preemption worker

Emergency vehicles announce themselves by BSM. `VehicleLocatorWorker` finds the approach geofence a
vehicle is in, and `PreemptionPlaner` switches the signal controller's preemption plan of that
approach on when the vehicle appears and off when it has gone, by SNMP SETs. What it remembers is
keyed by vehicle; the controller's state is per plan.

Whether a position and a heading lie in a geofence is floating point and no concern of the planer:
a geofence is a predicate on BSMs here. `SendOid` answers with an arbitrary response, zero when the
controller acknowledged the SET.
-/

namespace V2XHub.Preemption

variable {Bsm : Type}

structure GeofenceObject (Bsm : Type) where
  /-- `CarInGeofence`, and the heading strictly between `minHeading` and `maxHeading` -/
  approaches : Bsm → Bool
  preemptCall : Int

structure PreemptionObject where
  approach : String := ""
  preemptionPlan : String := ""
  vehicleId : Int := 0
  deriving DecidableEq, Repr

/-- What `SendOid` sends. -/
structure SetRequest where
  oid : String
  value : String
  deriving DecidableEq, Repr

/-- `preemption_map` -/
abbrev PreemptionMap := AList (fun _ : Int => PreemptionObject)

/-- The loop over `GeofenceSet`. -/
def locate (bsm : Bsm) : List (GeofenceObject Bsm) → PreemptionObject → PreemptionObject
  | [], po => po
  | it :: rest, po =>
      if it.approaches bsm then
        { po with approach := "1", preemptionPlan := toString it.preemptCall }
      else locate bsm rest { po with approach := "0" }

/-- `VehicleLocatorWorker`, up to its call of `PreemptionPlaner`. -/
def vehicleLocatorWorker (geofenceSet : List (GeofenceObject Bsm)) (vehicleId : Int) (bsm : Bsm) :
    PreemptionObject :=
  locate bsm geofenceSet { vehicleId := vehicleId }

/-! ## The planer

`base` is `base_preemption_oid`. Neither function looks at the response of its SET, so it is not an
argument: they return the request and the table afterwards. -/

def turnOnPreemption (base : String) (map : PreemptionMap) (po : PreemptionObject) :
    SetRequest × PreemptionMap :=
  (⟨base ++ po.preemptionPlan, "1"⟩, map.insert po.vehicleId po)

/-- `preemption_map[..]` of a vehicle that is not in the table is a default object. -/
def turnOffPreemption (base : String) (map : PreemptionMap) (po : PreemptionObject) :
    SetRequest × PreemptionMap :=
  let preemptionPlan := ((map.lookup po.vehicleId).getD {}).preemptionPlan
  (⟨base ++ preemptionPlan, "0"⟩, map.erase po.vehicleId)

def preemptionPlaner (base : String) (map : PreemptionMap) (po : PreemptionObject) :
    Option SetRequest × PreemptionMap :=
  if po.approach = "1" then
    if map.lookup po.vehicleId = none then
      let (request, map) := turnOnPreemption base map po
      (some request, map)
    else (none, map)
  else if po.approach = "0" then
    if map.lookup po.vehicleId = none then (none, map)
    else
      let (request, map) := turnOffPreemption base map po
      (some request, map)
  else (none, map)

/-! ## What one BSM does -/

/-- The plan of the approach a BSM lies on. -/
def planAt (geofenceSet : List (GeofenceObject Bsm)) (bsm : Bsm) : Option String :=
  (geofenceSet.find? (·.approaches bsm)).map (fun it => toString it.preemptCall)

theorem locate_of_some {bsm : Bsm} {fences : List (GeofenceObject Bsm)} {p : String}
    (h : planAt fences bsm = some p) (po : PreemptionObject) :
    locate bsm fences po = { po with approach := "1", preemptionPlan := p } := by
  induction fences generalizing po with
  | nil => simp [planAt] at h
  | cons it rest ih =>
      unfold locate
      by_cases hit : it.approaches bsm = true
      · simp only [planAt, List.find?_cons, hit, Option.map_some, Option.some.injEq] at h
        rw [if_pos hit, h]
      · rw [if_neg hit, ih (by simpa [planAt, List.find?_cons, hit] using h)]

/-- Outside every approach the object says so, unless there are no geofences at all. -/
theorem locate_of_none {bsm : Bsm} {fences : List (GeofenceObject Bsm)}
    (h : planAt fences bsm = none) (po : PreemptionObject) :
    locate bsm fences po = if fences = [] then po else { po with approach := "0" } := by
  induction fences generalizing po with
  | nil => rfl
  | cons it rest ih =>
      have hit : ¬ it.approaches bsm = true := by
        intro hit
        simp [planAt, hit] at h
      have hrest : planAt rest bsm = none := by
        simpa [planAt, List.find?_cons, hit] using h
      unfold locate
      rw [if_neg hit, ih hrest, if_neg (List.cons_ne_nil it rest)]
      split
      · rfl
      · rfl

/-- Everything the worker can do with a BSM of the vehicle `v`: the request it sends and the table
afterwards. -/
inductive Handles (fences : List (GeofenceObject Bsm)) (base : String) (map : PreemptionMap)
    (v : Int) (bsm : Bsm) : Option SetRequest → PreemptionMap → Prop
  | enters {p : String} : planAt fences bsm = some p → map.lookup v = none →
      Handles fences base map v bsm (some ⟨base ++ p, "1"⟩) (map.insert v ⟨"1", p, v⟩)
  | stays {p : String} {po : PreemptionObject} : planAt fences bsm = some p →
      map.lookup v = some po → Handles fences base map v bsm none map
  | leaves {po : PreemptionObject} : planAt fences bsm = none → fences ≠ [] →
      map.lookup v = some po →
      Handles fences base map v bsm (some ⟨base ++ po.preemptionPlan, "0"⟩) (map.erase v)
  | away : planAt fences bsm = none → fences = [] ∨ map.lookup v = none →
      Handles fences base map v bsm none map

theorem handles (fences : List (GeofenceObject Bsm)) (base : String) (map : PreemptionMap)
    (v : Int) (bsm : Bsm) :
    Handles fences base map v bsm
      (preemptionPlaner base map (vehicleLocatorWorker fences v bsm)).1
      (preemptionPlaner base map (vehicleLocatorWorker fences v bsm)).2 := by
  unfold vehicleLocatorWorker
  cases hplan : planAt fences bsm with
  | some p =>
      rw [locate_of_some hplan]
      cases hv : map.lookup v with
      | none => simpa [preemptionPlaner, turnOnPreemption, hv] using Handles.enters hplan hv
      | some po => simpa [preemptionPlaner, hv] using Handles.stays hplan hv
  | none =>
      rw [locate_of_none hplan]
      by_cases hempty : fences = []
      · rw [if_pos hempty]
        simpa [preemptionPlaner] using Handles.away hplan (.inl hempty)
      · rw [if_neg hempty]
        cases hv : map.lookup v with
        | none => simpa [preemptionPlaner, hv] using Handles.away hplan (.inr hv)
        | some po =>
            simpa [preemptionPlaner, turnOffPreemption, hv] using Handles.leaves hplan hempty hv

end V2XHub.Preemption
