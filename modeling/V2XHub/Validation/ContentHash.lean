import Mathlib.Data.Set.Function
import V2XHub.Validation.RevisionCounter

/-!
# What the content text tells apart

`createContentHash` is to give the same text for two intersections exactly when these are the same
but for their timestamps and their revision. It does so as long as the revisions stand at the same
place: the revision is taken out with `RemoveMember`, which moves the last member into the gap, and
so an intersection is compared in an order that depends on where its revision stood. Timestamps are
found by their C string, which a longer name can share.

**Main result** `contentHash_tells_iff`: exactly when two texts tell what they should.
-/

namespace V2XHub.Validation

open Lib

namespace Json

variable {p q : String → Bool}

/-! ## Deleting members -/

mutual

/-- Without the members whose name satisfies `p`, at any depth. -/
def without (p : String → Bool) : Json → Json
  | .obj members => .obj (withoutMembers p members)
  | .arr elements => .arr (withoutElements p elements)
  | v => v

def withoutMembers (p : String → Bool) : Members → Members
  | [] => []
  | (name, value) :: members =>
      if p name then withoutMembers p members
      else (name, without p value) :: withoutMembers p members

def withoutElements (p : String → Bool) : List Json → List Json
  | [] => []
  | v :: elements => without p v :: withoutElements p elements

end

section

variable {name : String} {value : Json} {members : Members}

theorem withoutMembers_cons_of_pos (h : p name = true) :
    withoutMembers p ((name, value) :: members) = withoutMembers p members := by
  rw [withoutMembers, if_pos h]

theorem withoutMembers_cons_of_neg (h : ¬ p name = true) :
    withoutMembers p ((name, value) :: members) =
      (name, value.without p) :: withoutMembers p members := by
  rw [withoutMembers, if_neg h]

end

def isTimeStamp (name : String) : Bool := name = "timeStamp"

/-- What `stripTimestamps` takes for a timestamp. -/
def readsTimeStamp (name : String) : Bool := cString name = "timeStamp"

mutual

theorem stripTimestamps_eq : (v : Json) → v.stripTimestamps = v.without readsTimeStamp
  | .obj members => by rw [stripTimestamps, without, stripMembers_eq members]
  | .arr elements => by rw [stripTimestamps, without, stripElements_eq elements]
  | .null | .bool _ | .int _ | .double _ | .str _ => rfl

theorem stripMembers_eq : (members : Members) →
    stripMembers members = withoutMembers readsTimeStamp members
  | [] => rfl
  | (name, value) :: members => by
      rw [stripMembers, withoutMembers, stripTimestamps_eq value, stripMembers_eq members]
      simp only [readsTimeStamp, decide_eq_true_eq]

theorem stripElements_eq : (elements : List Json) →
    stripElements elements = withoutElements readsTimeStamp elements
  | [] => rfl
  | v :: elements => by
      rw [stripElements, withoutElements, stripTimestamps_eq v, stripElements_eq elements]

end

mutual

/-- Deleting more later is deleting it at once. -/
theorem without_without (h : ∀ name, p name → q name) :
    (v : Json) → (v.without p).without q = v.without q
  | .obj members => by
      rw [without, without, without, withoutMembers_withoutMembers h members]
  | .arr elements => by
      rw [without, without, without, withoutElements_withoutElements h elements]
  | .null | .bool _ | .int _ | .double _ | .str _ => rfl

theorem withoutMembers_withoutMembers (h : ∀ name, p name → q name) :
    (members : Members) → withoutMembers q (withoutMembers p members) = withoutMembers q members
  | [] => rfl
  | (name, value) :: members => by
      have ih := withoutMembers_withoutMembers h members
      by_cases hp : p name = true
      · rw [withoutMembers_cons_of_pos hp, withoutMembers_cons_of_pos (h name hp), ih]
      · rw [withoutMembers_cons_of_neg hp, withoutMembers, withoutMembers,
          without_without h value, ih]

theorem withoutElements_withoutElements (h : ∀ name, p name → q name) :
    (elements : List Json) →
      withoutElements q (withoutElements p elements) = withoutElements q elements
  | [] => rfl
  | v :: elements => by
      rw [withoutElements, withoutElements, withoutElements, without_without h v,
        withoutElements_withoutElements h elements]

end

/-- A member that stays can be taken out before or after. -/
theorem withoutMembers_eraseP {name : String} (hname : p name = false) (members : Members) :
    withoutMembers p (members.eraseP (named name)) =
      (withoutMembers p members).eraseP (named name) := by
  induction members with
  | nil => rfl
  | cons member members ih =>
      obtain ⟨other, value⟩ := member
      by_cases hother : other = name
      · have hnamed (v : Json) : named name (other, v) = true := decide_eq_true hother
        have hkeep : ¬ p other = true := by
          rw [hother, hname]
          exact Bool.false_ne_true
        rw [List.eraseP_cons_of_pos (hnamed value), withoutMembers_cons_of_neg hkeep,
          List.eraseP_cons_of_pos (hnamed _)]
      · have hnamed (v : Json) : ¬ named name (other, v) = true := by
          simpa only [named, decide_eq_true_eq] using hother
        rw [List.eraseP_cons_of_neg (hnamed value)]
        by_cases hp : p other = true
        · rw [withoutMembers_cons_of_pos hp, withoutMembers_cons_of_pos hp, ih]
        · rw [withoutMembers_cons_of_neg hp, withoutMembers_cons_of_neg hp, ih,
            List.eraseP_cons_of_neg (hnamed _)]

/-- The names that stay keep their order. -/
theorem names_withoutMembers (members : Members) :
    ((withoutMembers p members).map Prod.fst).Sublist (members.map Prod.fst) := by
  induction members with
  | nil => exact .slnil
  | cons member members ih =>
      obtain ⟨name, value⟩ := member
      by_cases hp : p name = true
      · rw [withoutMembers_cons_of_pos hp]
        exact ih.cons name
      · rw [withoutMembers_cons_of_neg hp]
        exact ih.cons_cons name

end Json

/-! ## Contents and texts -/

namespace Content

variable {a b : Json.Members}

/-- The intersection without the members called `timeStamp` and without its revision. -/
def deleted (members : Json.Members) : Json.Members :=
  (Json.withoutMembers Json.isTimeStamp members).eraseP (Json.named "revision")

/-- Without everything that is taken for a timestamp, and without the revision. -/
def kept (members : Json.Members) : Json.Members :=
  (Json.withoutMembers Json.readsTimeStamp members).eraseP (Json.named "revision")

/-- The index of the revision among the members that are no timestamps, if at least two of them
follow it. -/
def revisionPlace (members : Json.Members) : Option Nat :=
  swapPlace (Json.named "revision") (Json.withoutMembers Json.readsTimeStamp members)

/-- What the writer is given. -/
def compared (members : Json.Members) : Json :=
  .obj (lastTo (revisionPlace members) (kept members))

theorem createContentHash_eq (write : Json → String) (members : Json.Members) :
    createContentHash write members = write (compared members) := by
  unfold createContentHash Json.removeMember
  rw [Json.stripMembers_eq, swapErase_eq_lastTo]
  rfl

theorem kept_eq_of_deleted (members : Json.Members) :
    kept members = Json.withoutMembers Json.readsTimeStamp (deleted members) := by
  have hle : ∀ name, Json.isTimeStamp name → Json.readsTimeStamp name := by
    intro name hname
    rw [of_decide_eq_true hname]
    decide +kernel
  unfold kept deleted
  rw [Json.withoutMembers_eraseP (by decide +kernel), Json.withoutMembers_withoutMembers hle]

theorem nodup_kept (hdistinct : (a.map Prod.fst).Nodup) : (kept a).Nodup := by
  have hsub := (Json.names_withoutMembers (p := Json.readsTimeStamp) a).nodup hdistinct
  exact (List.Nodup.of_map _ hsub).sublist List.eraseP_sublist

/-- Two intersections whose texts tell what they should: their revisions stand at the same place,
and no difference is taken for a timestamp; or they stand at different places, the contents differ,
and they still differ with the last member of each where its revision stood. -/
def Told (a b : Json.Members) : Prop :=
  if revisionPlace a = revisionPlace b then kept a = kept b → deleted a = deleted b
  else deleted a ≠ deleted b ∧
    lastTo (revisionPlace a) (kept a) ≠ lastTo (revisionPlace b) (kept b)

theorem compared_eq_iff_iff (hdistinct : (a.map Prod.fst).Nodup) :
    (compared a = compared b ↔ deleted a = deleted b) ↔ Told a b := by
  have hkept : deleted a = deleted b → kept a = kept b := fun h => by
    rw [kept_eq_of_deleted, kept_eq_of_deleted, h]
  have hcompared : compared a = compared b ↔
      lastTo (revisionPlace a) (kept a) = lastTo (revisionPlace b) (kept b) :=
    Json.obj.injEq .. ▸ Iff.rfl
  rw [hcompared]
  unfold Told
  split_ifs with hplace
  · have hsame : lastTo (revisionPlace a) (kept a) = lastTo (revisionPlace b) (kept b) ↔
        kept a = kept b := by
      unfold kept revisionPlace
      rw [← swapErase_eq_lastTo, ← swapErase_eq_lastTo]
      exact swapErase_eq_iff fun _ => hplace
    rw [hsame]
    exact ⟨Iff.mp, fun h => ⟨h, hkept⟩⟩
  · constructor
    · intro h
      -- equal contents leave equal lists, in which another place is another order
      have hne : deleted a ≠ deleted b := fun heq => by
        have hmoved := h.mpr heq
        rw [← hkept heq] at hmoved
        refine hplace ((lastTo_inj_place (nodup_kept hdistinct) ?_ ?_).mp hmoved)
        · exact fun k hk => swapPlace_lt hk
        · intro k hk
          rw [hkept heq]
          exact swapPlace_lt hk
      exact ⟨hne, mt h.mp hne⟩
    · rintro ⟨hne, hmoved⟩
      exact iff_of_false hmoved hne

end Content

/-- With a writer that tells the two values it is given apart, the texts are equal exactly when the
contents are if and only if the intersections are `Told`. The names need to be distinct in the first
one, at its top level. -/
theorem contentHash_tells_iff {write : Json → String} {a b : Json.Members}
    (hwrite : Set.InjOn write {Content.compared a, Content.compared b})
    (hdistinct : (a.map Prod.fst).Nodup) :
    (createContentHash write a = createContentHash write b ↔
        Content.deleted a = Content.deleted b) ↔ Content.Told a b := by
  rw [Content.createContentHash_eq, Content.createContentHash_eq,
    hwrite.eq_iff (Set.mem_insert _ _) (Set.mem_insert_of_mem _ rfl)]
  exact Content.compared_eq_iff_iff hdistinct

def sampleIntersection (revision : Int) (timeStamp status : String) : Json.Members :=
  [("id", .obj [("id", .int 1)]), ("revision", .int revision), ("timeStamp", .str timeStamp),
    ("status", .str status), ("states", .arr [])]

theorem deleted_sampleIntersection (revision : Int) (timeStamp status : String) :
    Content.deleted (sampleIntersection revision timeStamp status) =
      [("id", .obj [("id", .int 1)]), ("status", .str status), ("states", .arr [])] := rfl

theorem kept_sampleIntersection (revision : Int) (timeStamp status : String) :
    Content.kept (sampleIntersection revision timeStamp status) =
      [("id", .obj [("id", .int 1)]), ("status", .str status), ("states", .arr [])] := rfl

theorem told_sampleIntersection (revision revision' : Int)
    (timeStamp timeStamp' status status' : String) :
    Content.Told (sampleIntersection revision timeStamp status)
      (sampleIntersection revision' timeStamp' status') := by
  unfold Content.Told
  rw [if_pos (by rfl), kept_sampleIntersection, kept_sampleIntersection,
    deleted_sampleIntersection, deleted_sampleIntersection]
  exact id

/-- Another revision and another time make no other text, another status does. -/
theorem contentHash_tells_iff_sample :
    createContentHash Json.compact (sampleIntersection 3 "a" "0000") =
        createContentHash Json.compact (sampleIntersection 4 "b" "0000") ∧
      createContentHash Json.compact (sampleIntersection 3 "a" "0000") ≠
        createContentHash Json.compact (sampleIntersection 4 "b" "0001") := by
  have hsame := (@contentHash_tells_iff Json.compact _ _
    (Set.injOn_pair.mpr fun _ => rfl) (by decide +kernel)).mpr
      (told_sampleIntersection 3 4 "a" "b" "0000" "0000")
  have hother := (@contentHash_tells_iff Json.compact _ _
    (Set.injOn_pair.mpr fun heq => absurd heq (by decide +kernel)) (by decide +kernel)).mpr
      (told_sampleIntersection 3 4 "a" "b" "0000" "0001")
  refine ⟨hsame.mpr rfl, ?_⟩
  intro heq
  have hdeleted := hother.mp heq
  rw [deleted_sampleIntersection, deleted_sampleIntersection] at hdeleted
  simp at hdeleted

/-- The same intersection with its revision in front and at the end. -/
theorem revision_place_told :
    ∃ a b : Json.Members, (a.map Prod.fst).Nodup ∧ (b.map Prod.fst).Nodup ∧
      Content.deleted a = Content.deleted b ∧
      ∀ write : Json → String, Function.Injective write →
        createContentHash write a ≠ createContentHash write b := by
  refine ⟨[("revision", .int 3), ("status", .str "0000"), ("states", .arr [])],
    [("status", .str "0000"), ("states", .arr []), ("revision", .int 3)],
    by decide +kernel, by decide +kernel, rfl, fun write hwrite heq => ?_⟩
  have hcompared := hwrite heq
  have hmembers := Json.obj.inj hcompared
  exact absurd (congrArg (List.map Prod.fst) hmembers) (by decide +kernel)

end V2XHub.Validation
