import V2XHub.Validation.RevisionHistory

/-!
# What the revision counter validator guarantees

The content of an intersection is its members without the timestamps and without its revision, in
order. Two laws say which messages the validator accepts: for SPaT messages, that the record of
every intersection follows from it and the latest earlier one of its id; for MAP messages, that
between consecutive messages the contents change exactly when `msgIssueRevision` does.

The code fails both in general. It takes the revision out with `RemoveMember`, which moves the last
member into the gap, and so compares the contents in another order, which depends on where the
revision stood. And it notices a changed MAP message by its intersections alone, so that it misses
an intersection that has gone, or has come back as it was.
-/

namespace V2XHub.Validation

open V2XHub.Lib

variable {write : Json → String} {past occs : List Occurrence} {e o : Occurrence}

/-! ## Contents and texts -/

namespace Occurrence

def contentMembers (o : Occurrence) : Json.Members :=
  (Json.stripMembers o.members).eraseP (Json.named "revision")

/-- Without timestamps and revision, the order kept. -/
def content (o : Occurrence) : Json := .obj o.contentMembers

/-- What the writer is given. -/
def hashed (o : Occurrence) : Json :=
  .obj (Json.removeMember "revision" (Json.stripMembers o.members))

/-- Where the revision stands, if at least two members follow it. Timestamps do not count. -/
def revisionPlace (o : Occurrence) : Option Nat :=
  swapPlace (Json.named "revision") (Json.stripMembers o.members)

end Occurrence

/-- If the members of an intersection are, but for their order, those of the earlier one, then its
revision stands at the same place. -/
def SamePlace (e o : Occurrence) : Prop :=
  e.contentMembers.Perm o.contentMembers → e.revisionPlace = o.revisionPlace

theorem SamePlace.hashed_eq_iff (h : SamePlace e o) :
    e.hashed = o.hashed ↔ e.content = o.content := by
  unfold Occurrence.hashed Occurrence.content
  rw [Json.obj.injEq, Json.obj.injEq]
  exact swapErase_eq_iff h

/-- The writer tells the values it is given apart. -/
def Separates (write : Json → String) (occs : List Occurrence) : Prop :=
  ∀ o ∈ occs, ∀ o' ∈ occs, write o.hashed = write o'.hashed → o.hashed = o'.hashed

theorem separates_pair {o' : Occurrence} (h : write o.hashed ≠ write o'.hashed) :
    Separates write [o, o'] := by
  simp only [Separates, List.forall_mem_cons, List.not_mem_nil, false_imp_iff, implies_true,
    and_true, true_and]
  exact ⟨fun heq => absurd heq h, fun heq => absurd heq.symm h⟩

/-- The texts of the intersections in a batch can stand for their contents. -/
def Faithful (write : Json → String) (past occs : List Occurrence) : Prop :=
  ∀ e o, (some e, o) ∈ withEarlier Occurrence.id past occs →
    (o.contentHash write = e.contentHash write ↔ o.content = e.content)

theorem faithful_of_samePlace (hwrite : Separates write (past ++ occs))
    (hplace : ∀ e o, (some e, o) ∈ withEarlier Occurrence.id past occs → SamePlace e o) :
    Faithful write past occs := by
  intro e o hmem
  obtain ⟨ho, he⟩ := mem_of_mem_withEarlier hmem
  rw [eq_comm, @eq_comm _ o.content, ← (hplace e o hmem).hashed_eq_iff]
  constructor
  · exact hwrite e (he e rfl) o (List.mem_append_right past ho)
  · intro heq
    show write e.hashed = write o.hashed
    rw [heq]

/-! ## SPaT -/

/-- The rule for an intersection: content and revision stay, or the content changes and the revision
counts up. -/
def Progressed (e o : Occurrence) : Prop :=
  o.content = e.content ∧ o.revision = e.revision ∨
    o.content ≠ e.content ∧ o.revision = (e.revision + 1).tmod 128

open Classical in
/-- The record of an occurrence, from it and the latest earlier one. -/
noncomputable def spatRecord (q : Option Occurrence × Occurrence) : IntersectionChangeInfo :=
  match q.1 with
  | none =>
      { id := q.2.id
        contentChanged := true
        currentRevision := q.2.revision
        timestampB := q.2.timestamp }
  | some e =>
      { id := q.2.id
        contentChanged := decide (q.2.content ≠ e.content)
        revisionChanged := decide (q.2.revision ≠ e.revision)
        currentRevision := q.2.revision
        timestampA := e.timestamp
        timestampB := q.2.timestamp
        progressionViolation := decide ¬ Progressed e q.2
        progressionCountA := if Progressed e q.2 then 0 else e.revision
        progressionCountB := if Progressed e q.2 then 0 else q.2.revision }

/-- The law for a SPaT document with the occurrences `occs`, after `past`. -/
structure SpatLaw (past occs : List Occurrence) (parsed : Bool) (result : RevisionCounterResult) :
    Prop where
  records : result.intersectionChanges = (withEarlier Occurrence.id past occs).map spatRecord
  valid : result.valid = true ↔ parsed = true ∧
    ∀ e o, (some e, o) ∈ withEarlier Occurrence.id past occs →
      (o.content ≠ e.content ↔ o.revision ≠ e.revision)

theorem changeRecord_eq_spatRecord
    (h : o.contentHash write = e.contentHash write ↔ o.content = e.content) :
    changeRecord write {} (some e, o) = spatRecord (some e, o) := by
  unfold changeRecord spatRecord evaluateProgression Progressed
  by_cases hcontent : o.content = e.content
  · have hhash := h.mpr hcontent
    by_cases hrevision : o.revision = e.revision
    · simp [hcontent, hhash, hrevision]
    · simp [hcontent, hhash, hrevision]
  · have hhash : ¬ o.contentHash write = e.contentHash write := mt h.mp hcontent
    by_cases hstep : o.revision = (e.revision + 1).tmod 128
    · simp [hcontent, hhash, hstep]
    · simp [hcontent, hhash, hstep, Ne.symm hstep]

theorem inStep_iff (h : o.contentHash write = e.contentHash write ↔ o.content = e.content) :
    inStep write (some e, o) = true ↔ (o.content ≠ e.content ↔ o.revision ≠ e.revision) := by
  simp only [inStep, beq_iff_eq, decide_eq_decide, ne_eq, h]

theorem Faithful.spatLaw {parsed : Bool} {s t : RevisionCounterValidator}
    {result : RevisionCounterResult} (h : Faithful write past occs)
    (hstep : RevisionCounterValidator.SpatStep write past occs parsed s result t) :
    SpatLaw past occs parsed result where
  records := by
    rw [hstep.changes]
    apply List.map_congr_left
    intro q hq
    match q, hq with
    | (none, o), _ => rfl
    | (some e, o), hq => exact changeRecord_eq_spatRecord (h e o hq)
  valid := by
    rw [hstep.valid, Bool.and_eq_true, List.all_eq_true]
    refine and_congr_right fun _ => ⟨fun hall e o hq => ?_, fun hall q hq => ?_⟩
    · exact (inStep_iff (h e o hq)).mp (hall _ hq)
    · match q, hq with
      | (none, o), _ => rfl
      | (some e, o), hq => exact (inStep_iff (h e o hq)).mpr (hall e o hq)

/-- **The SPaT monitor**: after any run, a document whose intersections have their revisions where
they had them before is reported as the law says. -/
theorem spat_revision_law {ms : List Message} {s t : Monitor} {doc : Document} {ts : String}
    (hrun : Run (Steps (Monitor.step write)) {} ms s)
    (hstep : s.step write (.spat doc ts) = some t)
    (hwrite : Separates write t.spatHistory)
    (hplace : ∀ e o, (some e, o) ∈ withEarlier Occurrence.id s.spatHistory
      (doc.spatOccurrences ts) → SamePlace e o) :
    SpatLaw s.spatHistory (doc.spatOccurrences ts) doc.parsed t.result := by
  obtain ⟨-, hhistory, hspec⟩ := (Monitor.recalls_of_run hrun).spatStep hstep
  rw [hhistory] at hwrite
  exact (faithful_of_samePlace hwrite hplace).spatLaw hspec

def spatDocument (intersections : List Json) : Document :=
  .root (.obj [("value", .obj [("SPAT", .obj [("intersections", .arr intersections)])])])

/-- Intersection 1 with a revision and a status, the members in the order of the message standard.
-/
def spatIntersection (revision : Int) (status : String) : Json :=
  .obj [("id", .obj [("id", .int 1)]), ("revision", .int revision), ("status", .str status),
    ("states", .arr [])]

theorem spat_revision_law_status_change :
    ∃ s t, Run (Steps (Monitor.step Json.compact)) {}
        [.spat (spatDocument [spatIntersection 3 "0000"]) "a"] s ∧
      s.step Json.compact (.spat (spatDocument [spatIntersection 4 "0008"]) "b") = some t ∧
      SpatLaw s.spatHistory ((spatDocument [spatIntersection 4 "0008"]).spatOccurrences "b") true
        t.result := by
  have hrun : Run (Steps (Monitor.step Json.compact)) {}
      [.spat (spatDocument [spatIntersection 3 "0000"]) "a"] _ := .cons rfl .nil
  refine ⟨_, _, hrun, rfl, spat_revision_law hrun rfl ?_ ?_⟩
  · exact separates_pair (by decide +kernel)
  · intro e o hq
    rcases List.mem_singleton.mp hq with ⟨⟩
    exact fun _ => rfl

/-- The same intersection twice, its revision the second member and then the last: the code sees a
change of content, and a revision that should have counted up. -/
theorem spat_revision_moved :
    ∃ s t moved, moved = spatDocument [.obj [("id", .obj [("id", .int 1)]), ("status", .str "0000"),
        ("states", .arr []), ("revision", .int 3)]] ∧
      Run (Steps (Monitor.step Json.compact)) {}
        [.spat (spatDocument [spatIntersection 3 "0000"]) "a"] s ∧
      s.step Json.compact (.spat moved "b") = some t ∧ Separates Json.compact t.spatHistory ∧
      ¬ SpatLaw s.spatHistory (moved.spatOccurrences "b") moved.parsed t.result := by
  refine ⟨_, _, _, rfl, .cons rfl .nil, rfl, ?_, fun hlaw => ?_⟩
  · exact separates_pair (by decide +kernel)
  · have hvalid := hlaw.valid.mpr ⟨rfl, fun e o hq => ?_⟩
    · exact absurd hvalid (by decide +kernel)
    · -- neither has changed
      rcases List.mem_singleton.mp hq with ⟨⟩
      exact iff_of_false (fun h => h rfl) (fun h => h rfl)

/-! ## MAP -/

namespace MapView

/-- Which intersections the message has, with which contents. -/
def content (view : MapView) : Set (Int × Json) :=
  { c | ∃ o ∈ view.intersections, c = (o.id, o.content) }

def ids (view : MapView) : Set Int := { x | ∃ o ∈ view.intersections, o.id = x }

end MapView

/-- The law for consecutive MAP documents. -/
structure MapLaw (prev cur : MapView) (result : RevisionCounterResult) : Prop where
  changed : cur.content ≠ prev.content → cur.msgIssueRevision = prev.msgIssueRevision →
    result.valid = false
  unchanged : cur.content = prev.content → cur.msgIssueRevision ≠ prev.msgIssueRevision →
    result.valid = false

/-- What the validator needs of consecutive MAP documents, the later one after `past`. -/
structure Comparable (past : List Occurrence) (prev cur : MapView) : Prop where
  samePlace : ∀ e o, (some e, o) ∈ withEarlier Occurrence.id past cur.intersections → SamePlace e o
  /-- a repeated intersection is repeated with its content -/
  repeats : ∀ o ∈ prev.intersections, ∀ o' ∈ prev.intersections, o.id = o'.id →
    o.content = o'.content
  /-- a message in which everything is as it was last seen has the intersections of the one
  before it -/
  sameIds : cur.msgIssueRevision = prev.msgIssueRevision →
    (∀ o ∈ cur.intersections, ∃ e, latest Occurrence.id o.id past = some e ∧
      (e.content, e.revision) = (o.content, o.revision)) →
    cur.ids = prev.ids

theorem latest_of_mem_ids {prev : MapView} {x : Int} (hsuffix : prev.intersections <:+ past)
    (hx : x ∈ prev.ids) :
    ∃ e ∈ prev.intersections, e.id = x ∧ latest Occurrence.id x past = some e := by
  obtain ⟨before, rfl⟩ := hsuffix
  obtain ⟨o, ho, rfl⟩ := hx
  obtain ⟨e, he⟩ := exists_latest Occurrence.id ho
  obtain ⟨hmem, hid⟩ := latest_eq_some he
  exact ⟨e, hmem, hid, by rw [latest_append, he]; rfl⟩

theorem Faithful.any_changed_eq_false_iff (h : Faithful write past occs) :
    (withEarlier Occurrence.id past occs).any (changed write) = false ↔
      ∀ o ∈ occs, ∃ e, latest Occurrence.id o.id past = some e ∧ e.content = o.content := by
  rw [← forall_withEarlier_iff Occurrence.content, List.any_eq_false]
  apply forall₂_congr
  intro q hq
  match q, hq with
  | (none, o), _ => simp [changed]
  | (some e, o), hq =>
      have hiff := h e o hq
      simp only [changed, ne_eq, decide_not, Bool.not_eq_true', decide_eq_false_iff_not, not_not,
        Option.some.injEq, exists_eq_left', hiff]
      exact eq_comm

/-- A message that is accepted and shows no change is as it was last seen, revisions included. -/
theorem Faithful.asLastSeen (h : Faithful write past occs)
    (hin : (withEarlier Occurrence.id past occs).all (inStep write) = true)
    (hany : (withEarlier Occurrence.id past occs).any (changed write) = false) :
    ∀ o ∈ occs, ∃ e, latest Occurrence.id o.id past = some e ∧
      (e.content, e.revision) = (o.content, o.revision) := by
  rw [← forall_withEarlier_iff fun o : Occurrence => (o.content, o.revision)]
  intro q hq
  have hq_in := List.all_eq_true.mp hin q hq
  have hq_changed := List.any_eq_false.mp hany q hq
  match q, hq with
  | (none, o), _ => exact absurd rfl hq_changed
  | (some e, o), hq =>
      have hhash : o.contentHash write = e.contentHash write := by
        simpa [changed] using hq_changed
      have hcontent := (h e o hq).mp hhash
      have hrevision : o.revision = e.revision := by
        by_contra hne
        exact ((inStep_iff (h e o hq)).mp hq_in).mpr hne hcontent
      exact ⟨e, rfl, by rw [hcontent, hrevision]⟩

/-- Two messages with the same intersections, all as last seen, have the same content. -/
theorem Comparable.content_eq {prev cur : MapView} (h : Comparable past prev cur)
    (hsuffix : prev.intersections <:+ past) (hids : cur.ids = prev.ids)
    (hseen : ∀ o ∈ cur.intersections, ∃ e, latest Occurrence.id o.id past = some e ∧
      e.content = o.content) :
    cur.content = prev.content := by
  -- what was last seen of an intersection was seen in the message before
  have hprev : ∀ o ∈ cur.intersections, ∃ e ∈ prev.intersections, e.id = o.id ∧
      e.content = o.content := by
    intro o ho
    have hmem : o.id ∈ prev.ids := hids ▸ ⟨o, ho, rfl⟩
    obtain ⟨e, he, hid, hlatest⟩ := latest_of_mem_ids hsuffix hmem
    obtain ⟨e', hlatest', hcontent⟩ := hseen o ho
    rw [hlatest, Option.some.injEq] at hlatest'
    exact ⟨e, he, hid, hlatest' ▸ hcontent⟩
  ext c
  constructor
  · rintro ⟨o, ho, rfl⟩
    obtain ⟨e, he, hid, hcontent⟩ := hprev o ho
    exact ⟨e, he, by rw [hid, hcontent]⟩
  · rintro ⟨p, hp, rfl⟩
    obtain ⟨o, ho, hid⟩ : p.id ∈ cur.ids := hids ▸ ⟨p, hp, rfl⟩
    obtain ⟨e, he, heid, hcontent⟩ := hprev o ho
    exact ⟨o, ho, by rw [hid, ← hcontent, h.repeats e he p hp (heid.trans hid)]⟩

/-- An intersection of a message with the content of the one before it is as it was last seen. -/
theorem Comparable.seen_of_content_eq {prev cur : MapView} (h : Comparable past prev cur)
    (hsuffix : prev.intersections <:+ past) (hcontent : cur.content = prev.content) :
    ∀ o ∈ cur.intersections, ∃ e, latest Occurrence.id o.id past = some e ∧
      e.content = o.content := by
  intro o ho
  obtain ⟨p, hp, heq⟩ : (o.id, o.content) ∈ prev.content := hcontent ▸ ⟨o, ho, rfl⟩
  obtain ⟨hid, hsame⟩ := Prod.mk.inj heq
  obtain ⟨e, he, heid, hlatest⟩ := latest_of_mem_ids hsuffix ⟨p, hp, hid.symm⟩
  exact ⟨e, hlatest, by rw [hsame, h.repeats e he p hp (heid.trans hid)]⟩

/-- **The MAP monitor**: after any run, a comparable document is reported as the law says. -/
theorem map_revision_law {ms : List Message} {s t : Monitor} {doc : Document} {ts : String}
    {prev cur : MapView} (hrun : Run (Steps (Monitor.step write)) {} ms s)
    (hstep : s.step write (.map doc ts) = some t)
    (hprev : s.previousMap = some prev) (hcur : doc.mapView ts = some cur)
    (hwrite : Separates write t.mapHistory)
    (hcomparable : Comparable s.mapHistory prev cur) :
    MapLaw prev cur t.result := by
  have hrecalls := Monitor.recalls_of_run hrun
  obtain ⟨hhistory, hspec⟩ := (hrecalls.mapStep hstep).2 cur hcur
  obtain ⟨hmsg, hsuffix⟩ := hrecalls.previous prev hprev
  rw [hhistory] at hwrite
  have hfaithful := faithful_of_samePlace hwrite hcomparable.samePlace
  have hvalid := hspec.valid
  rw [hrecalls.hasPrevious, hprev, hmsg] at hvalid
  simp only [Option.isSome_some, Bool.not_true, Bool.false_or] at hvalid
  refine ⟨fun hne hsame => ?_, fun heq hne => ?_⟩
  · -- accepted would mean as last seen, and then as in the message before
    rw [Bool.eq_false_iff]
    intro htrue
    rw [htrue, hsame, eq_comm, Bool.and_eq_true] at hvalid
    have hany : (withEarlier Occurrence.id s.mapHistory cur.intersections).any (changed write) =
        false := by simpa using hvalid.2
    have hids := hcomparable.sameIds hsame (hfaithful.asLastSeen hvalid.1 hany)
    exact hne (hcomparable.content_eq hsuffix hids (hfaithful.any_changed_eq_false_iff.mp hany))
  · have hany := hfaithful.any_changed_eq_false_iff.mpr
      (hcomparable.seen_of_content_eq hsuffix heq)
    rw [hvalid, hany]
    simp [hne]

def mapDocument (msgIssueRevision : Int) (intersections : List Json) : Document :=
  .root (.obj [("value", .obj [("MapData", .obj
    [("msgIssueRevision", .int msgIssueRevision), ("intersections", .arr intersections)])])])

def mapIntersection (id revision laneWidth : Int) : Json :=
  .obj [("id", .obj [("id", .int id)]), ("revision", .int revision), ("laneWidth", .int laneWidth),
    ("laneSet", .arr [])]

theorem map_revision_law_lane_width :
    ∃ s t prev cur, Run (Steps (Monitor.step Json.compact)) {}
        [.map (mapDocument 7 [mapIntersection 1 3 300]) "a"] s ∧
      s.step Json.compact (.map (mapDocument 7 [mapIntersection 1 4 320]) "b") = some t ∧
      s.previousMap = some prev ∧
      (mapDocument 7 [mapIntersection 1 4 320]).mapView "b" = some cur ∧
      MapLaw prev cur t.result := by
  have hrun : Run (Steps (Monitor.step Json.compact)) {}
      [.map (mapDocument 7 [mapIntersection 1 3 300]) "a"] _ := .cons rfl .nil
  refine ⟨_, _, _, _, hrun, rfl, rfl, rfl, @map_revision_law _ _ _ _
    (mapDocument 7 [mapIntersection 1 4 320]) "b" _ _ hrun rfl rfl rfl ?_ ⟨?_, ?_, ?_⟩⟩
  · exact separates_pair (by decide +kernel)
  · intro e o hq
    rcases List.mem_singleton.mp hq with ⟨⟩
    exact fun _ => rfl
  · intro o ho o' ho' _
    rw [List.mem_singleton.mp ho, List.mem_singleton.mp ho']
  · intro _ _
    ext x
    constructor
    · rintro ⟨o, ho, rfl⟩
      rw [List.mem_singleton.mp ho]
      exact ⟨_, .head _, rfl⟩
    · rintro ⟨o, ho, rfl⟩
      rw [List.mem_singleton.mp ho]
      exact ⟨_, .head _, rfl⟩

/-- Intersection 2 is gone, `msgIssueRevision` stays: accepted. -/
theorem map_intersection_gone :
    ∃ s t prev cur, Run (Steps (Monitor.step Json.compact)) {}
        [.map (mapDocument 7 [mapIntersection 1 3 300, mapIntersection 2 5 300]) "a"] s ∧
      s.step Json.compact (.map (mapDocument 7 [mapIntersection 1 3 300]) "b") = some t ∧
      s.previousMap = some prev ∧
      (mapDocument 7 [mapIntersection 1 3 300]).mapView "b" = some cur ∧
      ¬ MapLaw prev cur t.result := by
  refine ⟨_, _, _, _, .cons rfl .nil, rfl, rfl, rfl, ?_⟩
  intro hlaw
  have hinvalid := hlaw.changed ?_ rfl
  · exact absurd hinvalid (by decide +kernel)
  · intro heq
    -- the earlier message has an intersection 2, the later one does not
    obtain ⟨o, ho, hid⟩ := (Set.ext_iff.mp heq (2, _)).mpr ⟨_, .tail _ (.head _), rfl⟩
    rw [List.mem_singleton.mp ho] at hid
    exact absurd (congrArg Prod.fst hid) (by decide)

end V2XHub.Validation
