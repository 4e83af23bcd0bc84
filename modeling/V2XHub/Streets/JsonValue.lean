import Mathlib.Data.List.Basic
import V2XHub.Lib.Sequence
import V2XHub.Lib.Trunc

/-!
# JSON values of the streets plugin

The converters build and read `Json::Value`s. A missing member reads as null, and null has no
members; to ask a value that is neither null nor an object for a member is an error, and so is to
ask for an integer where there is a string, an array or an object. Numbers that are not integers are
rational.
-/

namespace V2XHub.Streets

open V2XHub.Lib

/-- `Json::Value`. -/
inductive Value
  | null
  | bool (b : Bool)
  | int (z : Int)
  | real (q : ℚ)
  | str (s : String)
  | arr (elements : List Value)
  | obj (members : List (String × Value))

namespace Value

/-! ## Building -/

/-- The members with this one in place of one of the same name. -/
def assign (key : String) (w : Value) : List (String × Value) → List (String × Value)
  | [] => [(key, w)]
  | (k, v) :: members =>
      if k = key then (key, w) :: members else (k, v) :: assign key w members

/-- `v[key] = w`, for null or an object. -/
def set (v : Value) (key : String) (w : Value) : Value :=
  match v with
  | obj members => obj (assign key w members)
  | _ => obj [(key, w)]

/-- `v.append(w)`, for null or an array. -/
def append (v w : Value) : Value :=
  match v with
  | arr elements => arr (elements ++ [w])
  | _ => arr [w]

/-! ## Reading -/

/-- `v[key]`. -/
def get (key : String) : Value → Option Value
  | null => some null
  | obj members => some ((members.lookup key).getD null)
  | _ => none

def isMember (key : String) : Value → Option Bool
  | null => some false
  | obj members => some (members.lookup key).isSome
  | _ => none

def isArray : Value → Bool
  | arr _ => true
  | _ => false

/-- The elements that an iterator comes to. -/
def elements : Value → List Value
  | arr elements => elements
  | _ => []

/-- `asInt64`. Integers are those of 64 bits, as the converters write them. -/
def asInt64 : Value → Option Int
  | null => some 0
  | bool b => some b.toNat
  | int z => some z
  | real q => convert (-9223372036854775808) 9223372036854775807 q
  | _ => none

/-- `asString`, but for numbers that are not integers. -/
def asString : Value → Option String
  | null => some ""
  | bool b => some (toString b)
  | int z => some (toString z)
  | str s => some s
  | _ => none

/-- The number of a numeric value. -/
def number? : Value → Option ℚ
  | int z => some z
  | real q => some q
  | _ => none

/-- `v[key₁][key₂]…`. -/
def getPath : List String → Value → Option Value
  | [], v => some v
  | key :: path, v => (v.get key).bind (getPath path)

/-- The member that is read, `none` for a missing one. -/
def member? (key : String) : Value → Option Value
  | obj members => members.lookup key
  | _ => none

@[simp] theorem get_obj_cons (key k : String) (v : Value) (members : List (String × Value)) :
    get key (obj ((k, v) :: members)) = if key = k then some v else get key (obj members) := by
  by_cases h : key = k
  · simp [get, h]
  · simp [get, List.lookup_cons, beq_eq_false_iff_ne.mpr h, h]

@[simp] theorem isMember_obj_cons (key k : String) (v : Value) (members : List (String × Value)) :
    isMember key (obj ((k, v) :: members)) =
      if key = k then some true else isMember key (obj members) := by
  by_cases h : key = k
  · simp [isMember, h]
  · simp [isMember, List.lookup_cons, beq_eq_false_iff_ne.mpr h, h]

@[simp] theorem isMember_obj_nil (key : String) : isMember key (obj []) = some false := rfl

@[simp] theorem member?_null (key : String) : null.member? key = none := rfl

theorem lookup_assign (key k : String) (w : Value) (members : List (String × Value)) :
    (assign key w members).lookup k = if k = key then some w else members.lookup k := by
  induction members with
  | nil =>
      rw [assign, List.lookup_cons, List.lookup_nil]
      by_cases hk : k = key
      · simp [hk]
      · simp [hk, beq_eq_false_iff_ne.mpr hk]
  | cons m members ih =>
      obtain ⟨k', v⟩ := m
      rw [assign]
      by_cases hkey : k' = key
      · rw [if_pos hkey, List.lookup_cons, List.lookup_cons, hkey]
        by_cases hk : k = key
        · simp [hk]
        · simp [hk, beq_eq_false_iff_ne.mpr hk]
      · rw [if_neg hkey, List.lookup_cons, List.lookup_cons, ih]
        by_cases hk : k = key
        · rw [if_pos hk, if_pos hk, hk, beq_eq_false_iff_ne.mpr (Ne.symm hkey)]
        · rw [if_neg hk, if_neg hk]

/-- What is assigned is read back, and the other members stay. -/
@[simp] theorem member?_set (key k : String) (w v : Value) :
    (v.set key w).member? k = if k = key then some w else v.member? k := by
  cases v with
  | obj members => exact lookup_assign key k w members
  | _ =>
      show List.lookup k [(key, w)] = _
      rw [List.lookup_cons, List.lookup_nil]
      by_cases hk : k = key
      · simp [hk]
      · simp [hk, beq_eq_false_iff_ne.mpr hk, member?]

/-! ## Loops that append -/

/-- A loop that appends a value in each turn, unless it goes wrong. -/
def appendEach {α : Type} (f : α → Option Value) (as : List α) (v : Value) : Option Value :=
  as.foldlM (fun v a => (f a).map v.append) v

variable {α : Type} {f : α → Option Value} {as : List α} {v w : Value}

theorem elements_append (v w : Value) : (v.append w).elements = v.elements ++ [w] := by
  cases v <;> rfl

/-- A value for each turn, in order. -/
theorem appendEach_eq_some (h : appendEach f as v = some w) :
    ∃ ws, w.elements = v.elements ++ ws ∧ List.Forall₂ (fun a u => f a = some u) as ws := by
  induction as generalizing v with
  | nil =>
      cases h
      exact ⟨[], (List.append_nil _).symm, .nil⟩
  | cons a as ih =>
      unfold appendEach at h
      rw [List.foldlM_cons] at h
      obtain ⟨v', hv', hrest⟩ := Option.bind_eq_some_iff.mp h
      obtain ⟨u, hu, rfl⟩ := Option.map_eq_some_iff.mp hv'
      obtain ⟨ws, helements, hws⟩ := ih hrest
      refine ⟨u :: ws, ?_, .cons hu hws⟩
      rw [helements, elements_append, List.append_assoc]
      rfl

/-- The loop goes through exactly if no turn goes wrong. -/
theorem isSome_appendEach :
    (appendEach f as v).isSome = true ↔ ∀ a ∈ as, (f a).isSome = true := by
  apply isSome_foldlM
  intro v a
  rw [Option.isSome_map]

end Value

end V2XHub.Streets
