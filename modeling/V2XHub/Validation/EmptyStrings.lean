import V2XHub.Validation.Fields

/-!
# Taking the empty strings out

A member with an empty string is to be taken out of every object of a document, and nothing else.
`removeEmptyStrings` has a branch for arrays, but returns from whatever is not an object before it
gets there: objects in arrays are left as they are.

**Main result** `emptyStrings_removed_iff`: exactly which documents come out clean.
-/

namespace V2XHub.Validation

namespace Json

/-! ## Clean documents -/

/-- `Inside v w`: `w` is `v` or stands in it at some depth. -/
inductive Inside : Json → Json → Prop
  | refl (v : Json) : Inside v v
  | member {members : Members} {m : String × Json} {w : Json} :
      m ∈ members → Inside m.2 w → Inside (.obj members) w
  | element {elements : List Json} {v w : Json} :
      v ∈ elements → Inside v w → Inside (.arr elements) w

theorem Inside.trans {u v w : Json} (h : Inside u v) (h' : Inside v w) : Inside u w := by
  induction h with
  | refl v => exact h'
  | member hm _ ih => exact .member hm (ih h')
  | element hv _ ih => exact .element hv (ih h')

/-- No object inside has a member whose value is the empty string. -/
def Clean (v : Json) : Prop :=
  ∀ members, Inside v (.obj members) → ∀ m ∈ members, m.2.isEmptyString = false

/-- No object inside an array inside has one. -/
def ArraysClean (v : Json) : Prop :=
  ∀ elements, Inside v (.arr elements) → ∀ e ∈ elements, e.Clean

theorem clean_of_inside {v w : Json} (h : v.Clean) (hw : Inside v w) : w.Clean :=
  fun members hmembers => h members (hw.trans hmembers)

theorem clean_obj {members : Members} :
    (obj members).Clean ↔ ∀ m ∈ members, m.2.isEmptyString = false ∧ m.2.Clean := by
  constructor
  · intro h m hm
    exact ⟨h members (.refl _) m hm, clean_of_inside h (.member hm (.refl _))⟩
  · intro h inner hinside
    cases hinside with
    | refl => exact fun m hm => (h m hm).1
    | member hm hinner => exact (h _ hm).2 inner hinner

theorem clean_arr {elements : List Json} : (arr elements).Clean ↔ ∀ e ∈ elements, e.Clean := by
  constructor
  · intro h e he
    exact clean_of_inside h (.element he (.refl e))
  · intro h inner hinside
    cases hinside with
    | element he hinner => exact h _ he inner hinner

theorem arraysClean_obj {members : Members} :
    (obj members).ArraysClean ↔ ∀ m ∈ members, m.2.ArraysClean := by
  constructor
  · intro h m hm elements helements
    exact h elements (.member hm helements)
  · intro h elements hinside
    cases hinside with
    | member hm helements => exact h _ hm elements helements

theorem arraysClean_arr {elements : List Json} : (arr elements).ArraysClean ↔
    (arr elements).Clean := by
  rw [clean_arr]
  constructor
  · intro h
    exact h elements (.refl _)
  · intro h inner hinside
    cases hinside with
    | refl => exact h
    | element hv hinner =>
        intro e he
        exact clean_of_inside (h _ hv) (hinner.trans (.element he (.refl e)))

theorem isEmptyString_removeEmptyStrings (v : Json) :
    v.removeEmptyStrings.isEmptyString = v.isEmptyString := by
  cases v <;> rfl

mutual

theorem clean_removeEmptyStrings : (v : Json) → (v.removeEmptyStrings.Clean ↔ v.ArraysClean)
  | .obj members => by
      rw [removeEmptyStrings, clean_obj, arraysClean_obj]
      exact clean_removeEmptyMembers members
  | .arr _ => arraysClean_arr.symm
  | .null | .bool _ | .int _ | .double _ | .str _ =>
      iff_of_true (fun _ h => nomatch h) (fun _ h => nomatch h)

theorem clean_removeEmptyMembers : (members : Members) →
    ((∀ m ∈ removeEmptyMembers members, m.2.isEmptyString = false ∧ m.2.Clean) ↔
      ∀ m ∈ members, m.2.ArraysClean)
  | [] => iff_of_true (List.forall_mem_nil _) (List.forall_mem_nil _)
  | (name, value) :: members => by
      rw [List.forall_mem_cons, ← clean_removeEmptyMembers members, removeEmptyMembers]
      cases hempty : value.isEmptyString with
      | true =>
          -- an empty string has no arrays in it
          have hvalue : value.ArraysClean := by
            cases value with
            | str s => exact fun _ h => nomatch h
            | _ => exact nomatch hempty
          rw [if_pos rfl]
          exact ⟨fun h => ⟨hvalue, h⟩, fun h => h.2⟩
      | false =>
          rw [if_neg Bool.false_ne_true, List.forall_mem_cons]
          refine and_congr_left fun _ => ?_
          show value.removeEmptyStrings.isEmptyString = false ∧ _ ↔ _
          rw [isEmptyString_removeEmptyStrings, clean_removeEmptyStrings value]
          exact ⟨fun h => h.2, fun h => ⟨hempty, h⟩⟩

end

/-! ## Nothing else changes -/

mutual

/-- `Reduced v w`: `w` is `v` with members left out, all with empty strings, and the rest in
order. -/
inductive Reduced : Json → Json → Prop
  | refl (v : Json) : Reduced v v
  | obj {members members' : Members} :
      ReducedMembers members members' → Reduced (.obj members) (.obj members')
  | arr {elements elements' : List Json} :
      ReducedElements elements elements' → Reduced (.arr elements) (.arr elements')

inductive ReducedMembers : Members → Members → Prop
  | nil : ReducedMembers [] []
  | leave {name : String} {value : Json} {members members' : Members} :
      value.isEmptyString → ReducedMembers members members' →
        ReducedMembers ((name, value) :: members) members'
  | keep {name : String} {value value' : Json} {members members' : Members} :
      Reduced value value' → ReducedMembers members members' →
        ReducedMembers ((name, value) :: members) ((name, value') :: members')

inductive ReducedElements : List Json → List Json → Prop
  | nil : ReducedElements [] []
  | keep {v w : Json} {elements elements' : List Json} :
      Reduced v w → ReducedElements elements elements' →
        ReducedElements (v :: elements) (w :: elements')

end

mutual

theorem reduced_removeEmptyStrings : (v : Json) → Reduced v v.removeEmptyStrings
  | .obj members => .obj (reduced_removeEmptyMembers members)
  | .arr _ | .null | .bool _ | .int _ | .double _ | .str _ => .refl _

theorem reduced_removeEmptyMembers : (members : Members) →
    ReducedMembers members (removeEmptyMembers members)
  | [] => .nil
  | (name, value) :: members => by
      have ih := reduced_removeEmptyMembers members
      rw [removeEmptyMembers]
      split_ifs with hempty
      · exact .leave hempty ih
      · exact .keep (reduced_removeEmptyStrings value) ih

end

/-- After `removeEmptyStrings` no object at any depth has a member with an empty string, and nothing
else has changed, exactly when no array of the document has, at any depth, an object with such a
member. -/
theorem emptyStrings_removed_iff (v : Json) :
    v.removeEmptyStrings.Clean ∧ Reduced v v.removeEmptyStrings ↔ v.ArraysClean := by
  rw [clean_removeEmptyStrings]
  exact and_iff_left (reduced_removeEmptyStrings v)

/-- The name of an intersection is empty, and stays. -/
theorem intersection_name_stays :
    ¬ (removeEmptyStrings (.obj [("intersections", .arr [.obj [("name", .str "")]])])).Clean := by
  intro h
  have hname := h [("name", .str "")]
    (.member (.head _) (.element (.head _) (.refl _))) ("name", .str "") (.head _)
  exact absurd hname (by decide +kernel)

end Json

end V2XHub.Validation
