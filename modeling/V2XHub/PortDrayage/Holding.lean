import Mathlib.Data.List.Basic
import Mathlib.Data.List.Nodup
import Mathlib.Data.Rat.Defs

/-!
# Holding actions

The freight table chains the actions of a vehicle: every row names the next one by its id. After an
inspection `insert_holding_action_into_table` puts a `HOLDING_AREA` action behind the checkpoint:
the successor is looked up, a row is inserted under an id that the database makes up, that id is
asked for by the *other* columns of the row, and the checkpoint is pointed to it. Each statement may
fail, and there is no transaction around them.

A result comes in an order of the database's choice, of which the plugin takes the first row. Ids
are compared as the database compares them.
-/

namespace V2XHub.PortDrayage

/-- A row of the table `freight`. -/
structure FreightRow where
  cmvId : String
  cargoId : Option String
  destinationLat : ℚ
  destinationLong : ℚ
  operation : String
  actionId : String
  nextAction : String
  deriving DecidableEq

/-- `PortDrayage_Object`, as far as these functions read and write it. -/
structure PortDrayageObject where
  cmvId : String := ""
  cargoId : String := ""
  operation : String := ""
  actionId : String := ""
  destinationLat : ℚ := 0
  destinationLong : ℚ := 0
  nextAction : String := ""
  deriving DecidableEq

/-- What `getString` and `getDouble` read of a row. -/
def FreightRow.object (r : FreightRow) : PortDrayageObject where
  cmvId := r.cmvId
  cargoId := r.cargoId.getD ""
  operation := r.operation
  actionId := r.actionId
  destinationLat := r.destinationLat
  destinationLong := r.destinationLong
  nextAction := r.nextAction

/-- The prepared statements. -/
inductive Statement where
  | nextActionId
  | currentAction
  | insertAction
  | getActionIdForPreviousAction
  | updateCurrentAction
  deriving DecidableEq, Repr

/-- Which row of a result comes first. -/
structure ResultOrder where
  first : List FreightRow → Option FreightRow
  mem : ∀ {rows r}, first rows = some r → r ∈ rows
  isSome : ∀ {rows}, rows ≠ [] → (first rows).isSome

/-- `operation_to_string(Operation::HOLDING)` -/
def holdingArea : String := "HOLDING_AREA"

section

variable (order : ResultOrder) (fails : Statement → Bool)

/-- The exception of a statement that fails is caught here, and the object is empty. -/
def retrieveNextAction (rows : List FreightRow) (actionId : String) : PortDrayageObject :=
  if fails .nextActionId then {}
  else
    match order.first (rows.filter fun r => r.actionId = actionId) with
    | none => {}
    | some current =>
        if fails .currentAction then {}
        else
          match order.first (rows.filter fun r => r.actionId = current.nextAction) with
          | none => {}
          | some next => next.object

/-- The row that is inserted. -/
def holdingRow (holdingLat holdingLon : ℚ) (uuid : String) (current : PortDrayageObject)
    (nextActionId : String) : FreightRow where
  cmvId := current.cmvId
  cargoId := some current.cargoId
  destinationLat := holdingLat
  destinationLong := holdingLon
  operation := holdingArea
  actionId := uuid
  nextAction := nextActionId

/-- The action with this id is pointed to another. -/
def pointTo (actionId nextAction : String) (r : FreightRow) : FreightRow :=
  if r.actionId = actionId then { r with nextAction } else r

/-- The table after `insert_holding_action_into_table`. -/
def insertHoldingAction (holdingLat holdingLon : ℚ) (uuid : String) (current : PortDrayageObject)
    (rows : List FreightRow) : List FreightRow :=
  let next := retrieveNextAction order fails rows current.actionId
  if fails .insertAction then rows
  else
    let rows := rows ++ [holdingRow holdingLat holdingLon uuid current next.actionId]
    if fails .getActionIdForPreviousAction then rows
    else
      match order.first (rows.filter fun r =>
          r.nextAction = next.actionId ∧ r.operation = holdingArea) with
      | none => rows  -- `getString` throws
      | some previous =>
          if fails .updateCurrentAction then rows
          else rows.map (pointTo current.actionId previous.actionId)

end

/-- The actions that follow an id, as `retrieveNextAction` finds them. -/
def chain (order : ResultOrder) (rows : List FreightRow) (actionId : String) :
    Nat → PortDrayageObject
  | 0 => retrieveNextAction order (fun _ => false) rows actionId
  | k + 1 => retrieveNextAction order (fun _ => false) rows (chain order rows actionId k).actionId

/-! ## Tables, actions and ids -/

/-- A freight table with unique action ids. -/
structure FreightTable where
  rows : List FreightRow
  unique : (rows.map FreightRow.actionId).Nodup

/-- What `UUID()` makes: an id that is nowhere in the table. -/
structure FreshId (table : FreightTable) where
  id : String
  not_action : ∀ r ∈ table.rows, r.actionId ≠ id
  not_next : ∀ r ∈ table.rows, r.nextAction ≠ id
  ne_empty : "" ≠ id

/-- What a vehicle reports of an action of its own. -/
structure Report (a : FreightRow) where
  object : PortDrayageObject
  actionId_eq : object.actionId = a.actionId
  cmvId_eq : object.cmvId = a.cmvId

namespace FreightTable

variable {table : FreightTable} {a r : FreightRow}

theorem eq_of_actionId (table : FreightTable) (ha : a ∈ table.rows) (hr : r ∈ table.rows)
    (h : r.actionId = a.actionId) : r = a :=
  List.inj_on_of_nodup_map table.unique hr ha h

end FreightTable

/-- Where only one row fits, the order does not matter. -/
theorem ResultOrder.first_filter (order : ResultOrder) {rows : List FreightRow}
    {p : FreightRow → Bool} {r : FreightRow} (hr : r ∈ rows) (hp : p r = true)
    (honly : ∀ r' ∈ rows, p r' = true → r' = r) : order.first (rows.filter p) = some r := by
  have hne : rows.filter p ≠ [] := List.ne_nil_of_mem (List.mem_filter.mpr ⟨hr, hp⟩)
  obtain ⟨r', hr'⟩ := Option.isSome_iff_exists.mp (order.isSome hne)
  obtain ⟨hmem, hp'⟩ := List.mem_filter.mp (order.mem hr')
  rw [hr', honly r' hmem hp']

theorem ResultOrder.first_filter_eq_none (order : ResultOrder) {rows : List FreightRow}
    {p : FreightRow → Bool} (hnone : ∀ r ∈ rows, p r = false) :
    order.first (rows.filter p) = none := by
  cases h : order.first (rows.filter p) with
  | none => rfl
  | some r =>
      obtain ⟨hmem, hp⟩ := List.mem_filter.mp (order.mem h)
      rw [hnone r hmem] at hp
      cases hp

/-! ## What should come of it -/

/-- The action is followed by a new holding action of its vehicle, which is followed by what
followed it; nothing else has changed. -/
def Inserted (rows rows' : List FreightRow) (a : FreightRow) : Prop :=
  ∃ n : FreightRow, (∀ r ∈ rows, r.actionId ≠ n.actionId) ∧ n.operation = holdingArea ∧
    n.cmvId = a.cmvId ∧ n.nextAction = a.nextAction ∧
    ∀ r, r ∈ rows' ↔ r = n ∨ r = { a with nextAction := n.actionId } ∨
      r ∈ rows ∧ r.actionId ≠ a.actionId

/-- The chain from every action is as before. -/
def ChainsKept (order : ResultOrder) (rows rows' : List FreightRow) : Prop :=
  ∀ r ∈ rows, ∀ k, chain order rows' r.actionId k = chain order rows r.actionId k

/-- What is promised of a run, with failing statements and without. -/
def Promised (order : ResultOrder) (fails : Statement → Bool) (rows rows' : List FreightRow)
    (a : FreightRow) : Prop :=
  ((∀ s, fails s = false) → Inserted rows rows' a) ∧
    ((∃ s, fails s = true) → ChainsKept order rows rows')

/-- One of the statements after the look-up of the successor fails. -/
def Stopped (fails : Statement → Bool) : Prop :=
  fails .insertAction = true ∨ fails .getActionIdForPreviousAction = true ∨
    fails .updateCurrentAction = true

/-- When the promise is kept: the change is not made at all, or the look-up does not fail, finds the
successor that is named, and no other holding action comes before that successor. -/
def Keeps (fails : Statement → Bool) (rows : List FreightRow) (a : FreightRow) : Prop :=
  Stopped fails ∨
    fails .nextActionId = false ∧ fails .currentAction = false ∧
    (a.nextAction = "" ∨ ∃ r ∈ rows, r.actionId = a.nextAction) ∧
    ∀ r ∈ rows, r.operation = holdingArea → r.nextAction ≠ a.nextAction

/-! ## Chains that are kept -/

section Chains

variable {order : ResultOrder} {fails : Statement → Bool} {table : FreightTable}
  {uuid : FreshId table} {n : FreightRow}

/-- What is found has an id of the table, or none. -/
theorem retrieveNextAction_actionId_ne (actionId : String) :
    (retrieveNextAction order fails table.rows actionId).actionId ≠ uuid.id := by
  rw [retrieveNextAction]
  split
  · exact uuid.ne_empty
  · split
    · exact uuid.ne_empty
    · split
      · exact uuid.ne_empty
      · split
        · exact uuid.ne_empty
        · rename_i next hnext
          exact uuid.not_action next (List.mem_filter.mp (order.mem hnext)).1

theorem filter_append_of_ne (hn : n.actionId = uuid.id) {actionId : String}
    (hne : actionId ≠ uuid.id) : (table.rows ++ [n]).filter (fun r => r.actionId = actionId) =
      table.rows.filter fun r => r.actionId = actionId := by
  have hrow : ¬ n.actionId = actionId := fun h => hne (h.symm.trans hn)
  rw [List.filter_append, List.filter_cons_of_neg (by simpa using hrow), List.filter_nil,
    List.append_nil]

/-- A new row under a new id is never come to. -/
theorem retrieveNextAction_append (hn : n.actionId = uuid.id) {actionId : String}
    (hne : actionId ≠ uuid.id) : retrieveNextAction order fails (table.rows ++ [n]) actionId =
      retrieveNextAction order fails table.rows actionId := by
  rw [retrieveNextAction, retrieveNextAction, filter_append_of_ne hn hne]
  cases hcurrent : order.first (table.rows.filter fun r => r.actionId = actionId) with
  | none => rfl
  | some current =>
      have hmem := (List.mem_filter.mp (order.mem hcurrent)).1
      simp only [filter_append_of_ne hn (uuid.not_next current hmem)]

theorem chain_append (hn : n.actionId = uuid.id) {actionId : String} (hne : actionId ≠ uuid.id)
    (k : Nat) :
    chain order (table.rows ++ [n]) actionId k = chain order table.rows actionId k := by
  induction k with
  | zero => exact retrieveNextAction_append hn hne
  | succ k ih =>
      have hid : (chain order table.rows actionId k).actionId ≠ uuid.id := by
        cases k <;> exact retrieveNextAction_actionId_ne _
      rw [chain, chain, ih, retrieveNextAction_append hn hid]

variable (uuid) in
theorem chainsKept_append (hn : n.actionId = uuid.id) :
    ChainsKept order table.rows (table.rows ++ [n]) :=
  fun r hr => chain_append hn (uuid.not_action r hr)

end Chains

/-! ## Runs that are stopped -/

section Runs

variable {order : ResultOrder} {fails : Statement → Bool} {table : FreightTable} {a : FreightRow}
  (uuid : FreshId table) (report : Report a) (holdingLat holdingLon : ℚ)

theorem insertHoldingAction_stopped (hstopped : Stopped fails) :
    ChainsKept order table.rows
      (insertHoldingAction order fails holdingLat holdingLon uuid.id report.object table.rows) := by
  simp only [insertHoldingAction]
  split
  · exact fun _ _ _ => rfl
  · rename_i hinsert
    split
    · exact chainsKept_append uuid rfl
    · rename_i hselect
      split
      · exact chainsKept_append uuid rfl
      · split
        · exact chainsKept_append uuid rfl
        · rename_i hupdate
          rcases hstopped with h | h | h
          · exact absurd h hinsert
          · exact absurd h hselect
          · exact absurd h hupdate

/-- The row that the database says was inserted. -/
def previousAction (order : ResultOrder) (rows : List FreightRow) (nextActionId : String) :
    Option FreightRow :=
  order.first (rows.filter fun r => r.nextAction = nextActionId ∧ r.operation = holdingArea)

variable (order) in
/-- Otherwise the row is inserted, and the action pointed to one that fits. -/
theorem insertHoldingAction_of_not_stopped (hstopped : ¬ Stopped fails) :
    let next := retrieveNextAction order fails table.rows report.object.actionId
    let rows := table.rows ++
      [holdingRow holdingLat holdingLon uuid.id report.object next.actionId]
    ∃ previous, previousAction order rows next.actionId = some previous ∧
      insertHoldingAction order fails holdingLat holdingLon uuid.id report.object table.rows =
        rows.map (pointTo a.actionId previous.actionId) := by
  intro next rows
  obtain ⟨hinsert, hrest⟩ := not_or.mp hstopped
  obtain ⟨hselect, hupdate⟩ := not_or.mp hrest
  have hfits : rows.filter (fun r => decide (r.nextAction = next.actionId ∧
      r.operation = holdingArea)) ≠ [] := by
    apply List.ne_nil_of_mem (a := holdingRow holdingLat holdingLon uuid.id report.object
      next.actionId)
    rw [List.mem_filter]
    exact ⟨by simp [rows], by simp [holdingRow]⟩
  obtain ⟨previous, hprevious⟩ := Option.isSome_iff_exists.mp (order.isSome hfits)
  refine ⟨previous, hprevious, ?_⟩
  rw [insertHoldingAction, if_neg hinsert]
  simp only
  rw [if_neg hselect, hprevious]
  simp only
  rw [if_neg hupdate]
  show rows.map (pointTo report.object.actionId previous.actionId) = _
  rw [report.actionId_eq]

/-! ## The look-up of the successor -/

theorem first_actionId (ha : a ∈ table.rows) :
    order.first (table.rows.filter fun r => r.actionId = a.actionId) = some a :=
  order.first_filter ha (by simp) fun r hr h => table.eq_of_actionId ha hr (by simpa using h)

variable (order) in
/-- The successor is found under its id if it has a row, and is nothing otherwise. -/
theorem retrieveNextAction_actionId (ha : a ∈ table.rows) (hnext : fails .nextActionId = false)
    (hcurrent : fails .currentAction = false) :
    (retrieveNextAction order fails table.rows a.actionId).actionId = a.nextAction ↔
      a.nextAction = "" ∨ ∃ r ∈ table.rows, r.actionId = a.nextAction := by
  rw [retrieveNextAction, first_actionId ha, hnext]
  simp only [Bool.false_eq_true, if_false, hcurrent]
  by_cases hrow : ∃ r ∈ table.rows, r.actionId = a.nextAction
  · obtain ⟨s, hs, hid⟩ := hrow
    have hfirst : order.first (table.rows.filter fun r => r.actionId = a.nextAction) = some s := by
      rw [← hid]
      exact first_actionId hs
    rw [hfirst]
    simp only [FreightRow.object, hid, true_iff]
    exact Or.inr ⟨s, hs, hid⟩
  · have hfirst : order.first (table.rows.filter fun r => r.actionId = a.nextAction) = none := by
      apply order.first_filter_eq_none
      intro r hr
      rw [decide_eq_false_iff_not]
      exact fun hid => hrow ⟨r, hr, hid⟩
    rw [hfirst]
    constructor
    · intro h
      exact Or.inl h.symm
    · rintro (h | h)
      · exact h.symm
      · exact absurd h hrow

end Runs

/-! ## The table afterwards -/

theorem pointTo_of_ne {id : String} {r : FreightRow} (h : r.actionId ≠ id) (next : String) :
    pointTo id next r = r := if_neg h

theorem pointTo_self (a : FreightRow) (next : String) :
    pointTo a.actionId next a = { a with nextAction := next } := if_pos rfl

section Table

variable {table : FreightTable} {a n : FreightRow} {uuid : FreshId table} {next : String}

/-- A row of the table afterwards, by its id. -/
theorem mem_map_pointTo (ha : a ∈ table.rows) (hn : n.actionId = uuid.id) {r : FreightRow} :
    r ∈ (table.rows ++ [n]).map (pointTo a.actionId next) ↔
      r = n ∨ r = { a with nextAction := next } ∨ r ∈ table.rows ∧ r.actionId ≠ a.actionId := by
  have hne : n.actionId ≠ a.actionId := fun h => uuid.not_action a ha (h.symm.trans hn)
  rw [List.map_append, List.mem_append, List.map_singleton, List.mem_singleton,
    pointTo_of_ne hne, List.mem_map]
  constructor
  · rintro (⟨r', hr', rfl⟩ | h)
    · right
      by_cases hid : r'.actionId = a.actionId
      · left
        rw [table.eq_of_actionId ha hr' hid, pointTo_self]
      · right
        rw [pointTo_of_ne hid]
        exact ⟨hr', hid⟩
    · exact Or.inl h
  · rintro (h | h | ⟨hr, hid⟩)
    · exact Or.inr h
    · left
      exact ⟨a, ha, by rw [pointTo_self, h]⟩
    · left
      exact ⟨r, hr, pointTo_of_ne hid _⟩

variable (uuid) in
/-- The change is the one that is meant when the action is pointed to the new row and the new row
to the old successor. -/
theorem inserted_iff (ha : a ∈ table.rows) (hn : n.actionId = uuid.id)
    (hoperation : n.operation = holdingArea) (hcmv : n.cmvId = a.cmvId) :
    Inserted table.rows ((table.rows ++ [n]).map (pointTo a.actionId next)) a ↔
      next = uuid.id ∧ n.nextAction = a.nextAction := by
  constructor
  · rintro ⟨m, hnew, -, -, hnext, hrows⟩
    -- a row with a new id is the new row
    have hm : m = n := by
      have hmem := (hrows m).mpr (Or.inl rfl)
      rcases (mem_map_pointTo ha hn).mp hmem with h | h | ⟨hm, -⟩
      · exact h
      · exact absurd (by rw [h]) (hnew a ha)
      · exact absurd rfl (hnew m hm)
    subst hm
    refine ⟨?_, hnext⟩
    have hmem := (hrows { a with nextAction := m.actionId }).mpr (Or.inr (Or.inl rfl))
    rcases (mem_map_pointTo ha hn).mp hmem with h | h | ⟨-, hid⟩
    · exact absurd (by rw [← h]) (hnew a ha)
    · have hpointed := congrArg FreightRow.nextAction h
      exact hpointed.symm.trans hn
    · exact absurd rfl hid
  · rintro ⟨rfl, hnext⟩
    refine ⟨n, fun r hr => ?_, hoperation, hcmv, hnext, fun r => ?_⟩
    · rw [hn]
      exact uuid.not_action r hr
    · rw [mem_map_pointTo ha hn, hn]

variable (uuid) in
/-- An action that is pointed to the new row leads to it. -/
theorem chain_pointed (ha : a ∈ table.rows) (hn : n.actionId = uuid.id) (order : ResultOrder) :
    chain order ((table.rows ++ [n]).map (pointTo a.actionId uuid.id)) a.actionId 0 = n.object := by
  have haction : order.first (((table.rows ++ [n]).map (pointTo a.actionId uuid.id)).filter
      fun r => r.actionId = a.actionId) = some { a with nextAction := uuid.id } := by
    apply order.first_filter
    · exact (mem_map_pointTo ha hn).mpr (Or.inr (Or.inl rfl))
    · simp
    · intro r hr hid
      rcases (mem_map_pointTo ha hn).mp hr with rfl | h | ⟨-, hne⟩
      · exact absurd ((of_decide_eq_true hid).symm.trans hn) (uuid.not_action a ha)
      · exact h
      · exact absurd (of_decide_eq_true hid) hne
  have hnew : order.first (((table.rows ++ [n]).map (pointTo a.actionId uuid.id)).filter
      fun r => r.actionId = uuid.id) = some n := by
    apply order.first_filter
    · exact (mem_map_pointTo ha hn).mpr (Or.inl rfl)
    · exact decide_eq_true hn
    · intro r hr hid
      rcases (mem_map_pointTo ha hn).mp hr with h | rfl | ⟨hr, -⟩
      · exact h
      · exact absurd (of_decide_eq_true hid) (uuid.not_action a ha)
      · exact absurd (of_decide_eq_true hid) (uuid.not_action r hr)
  rw [chain, retrieveNextAction, haction]
  simp only [Bool.false_eq_true, if_false, hnew]

end Table

/-! ## When the promise is kept -/

/-- An order that puts a row of some kind first. -/
def preferring (p : FreightRow → Bool) : ResultOrder where
  first rows := (rows.find? p).or rows.head?
  mem := by
    intro rows r h
    rcases Option.or_eq_some_iff.mp h with h | ⟨-, h⟩
    · exact List.mem_of_find?_eq_some h
    · exact List.mem_of_head? h
  isSome := by
    intro rows hne
    cases rows with
    | nil => exact absurd rfl hne
    | cons r rows => simp

theorem preferring_first {p : FreightRow → Bool} {rows : List FreightRow} {r r' : FreightRow}
    (hr : r ∈ rows) (hp : p r = true) (h : (preferring p).first rows = some r') : p r' = true := by
  rcases Option.or_eq_some_iff.mp h with h | ⟨hnone, -⟩
  · exact List.find?_some h
  · exact absurd hp (List.find?_eq_none.mp hnone r hr)

section Promise

variable {table : FreightTable} {a : FreightRow} (report : Report a) (uuid : FreshId table)
  (holdingLat holdingLon : ℚ) {fails : Statement → Bool}

/-- The inserted row is the only one that fits where no earlier holding action does. -/
theorem previousAction_eq (order : ResultOrder) {nextActionId : String}
    (hothers : ∀ r ∈ table.rows, r.operation = holdingArea → r.nextAction ≠ nextActionId) :
    previousAction order (table.rows ++
        [holdingRow holdingLat holdingLon uuid.id report.object nextActionId]) nextActionId =
      some (holdingRow holdingLat holdingLon uuid.id report.object nextActionId) := by
  apply order.first_filter (by simp) (by simp [holdingRow])
  intro r hr hfits
  obtain ⟨hnext, hoperation⟩ := of_decide_eq_true hfits
  rcases List.mem_append.mp hr with hr | hr
  · exact absurd hnext (hothers r hr hoperation)
  · exact List.mem_singleton.mp hr

theorem promised_of_keeps (ha : a ∈ table.rows) (order : ResultOrder)
    (hkeeps : Keeps fails table.rows a) :
    Promised order fails table.rows (insertHoldingAction order fails holdingLat holdingLon uuid.id
      report.object table.rows) a := by
  by_cases hstopped : Stopped fails
  · refine ⟨fun hall => ?_, fun _ => ?_⟩
    · rcases hstopped with h | h | h <;>
      · rw [hall] at h
        cases h
    · exact insertHoldingAction_stopped uuid report holdingLat holdingLon hstopped
  · obtain ⟨hnext, hcurrent, hfound, hothers⟩ := hkeeps.resolve_left hstopped
    refine ⟨fun _ => ?_, fun ⟨s, hs⟩ => ?_⟩
    · obtain ⟨previous, hprevious, hrows⟩ :=
        insertHoldingAction_of_not_stopped order uuid report holdingLat holdingLon hstopped
      have hid := (retrieveNextAction_actionId order ha hnext hcurrent).mpr hfound
      rw [← report.actionId_eq] at hid
      rw [hrows, inserted_iff uuid ha rfl rfl report.cmvId_eq]
      refine ⟨?_, hid⟩
      rw [hid, previousAction_eq report uuid holdingLat holdingLon order hothers] at hprevious
      cases hprevious
      rfl
    · exfalso
      apply hstopped
      cases s with
      | nextActionId =>
          rw [hnext] at hs
          cases hs
      | currentAction =>
          rw [hcurrent] at hs
          cases hs
      | insertAction => exact Or.inl hs
      | getActionIdForPreviousAction => exact Or.inr (Or.inl hs)
      | updateCurrentAction => exact Or.inr (Or.inr hs)

/-- The database may answer with the inserted row. -/
theorem insertHoldingAction_new (hstopped : ¬ Stopped fails) {order : ResultOrder}
    (horder : order = preferring fun r => r.actionId = uuid.id) :
    insertHoldingAction order fails holdingLat holdingLon uuid.id report.object table.rows =
      (table.rows ++ [holdingRow holdingLat holdingLon uuid.id report.object
        (retrieveNextAction order fails table.rows report.object.actionId).actionId]).map
          (pointTo a.actionId uuid.id) := by
  obtain ⟨previous, hprevious, hrows⟩ :=
    insertHoldingAction_of_not_stopped order uuid report holdingLat holdingLon hstopped
  have hid : decide (previous.actionId = uuid.id) = true := by
    rw [previousAction, horder] at hprevious
    apply preferring_first
      (List.mem_filter.mpr ⟨List.mem_append_right _ (List.mem_singleton_self _), ?_⟩) ?_ hprevious
    · simp [holdingRow]
    · simp [holdingRow]
  rw [hrows, of_decide_eq_true hid]

/-- When only the look-up fails, the chain leads from the action to the new row. -/
theorem not_chainsKept (ha : a ∈ table.rows) (hstopped : ¬ Stopped fails) {order : ResultOrder}
    (horder : order = preferring fun r => r.actionId = uuid.id) :
    ¬ ChainsKept order table.rows (insertHoldingAction order fails holdingLat holdingLon uuid.id
      report.object table.rows) := by
  intro hkept
  have hfirst := hkept a ha 0
  rw [insertHoldingAction_new report uuid holdingLat holdingLon hstopped horder,
    chain_pointed uuid ha rfl] at hfirst
  have hid : (chain order table.rows a.actionId 0).actionId ≠ uuid.id :=
    retrieveNextAction_actionId_ne a.actionId
  exact hid (congrArg PortDrayageObject.actionId hfirst).symm

/-- An earlier holding action before the same successor may be taken for the new one. -/
theorem not_inserted (ha : a ∈ table.rows) (hstopped : ¬ Stopped fails) {h : FreightRow}
    (hh : h ∈ table.rows) (hoperation : h.operation = holdingArea) {order : ResultOrder}
    (horder : order = preferring fun r => r.actionId = h.actionId)
    (hnext : h.nextAction =
      (retrieveNextAction order fails table.rows report.object.actionId).actionId) :
    ¬ Inserted table.rows (insertHoldingAction order fails holdingLat holdingLon uuid.id
      report.object table.rows) a := by
  obtain ⟨previous, hprevious, hrows⟩ :=
    insertHoldingAction_of_not_stopped order uuid report holdingLat holdingLon hstopped
  rw [hrows, inserted_iff uuid ha rfl rfl report.cmvId_eq]
  rintro ⟨hid, -⟩
  have hsame : decide (previous.actionId = h.actionId) = true := by
    rw [previousAction] at hprevious
    rw [horder] at hprevious hnext
    apply preferring_first (List.mem_filter.mpr ⟨List.mem_append_left _ hh, ?_⟩) ?_ hprevious
    · simp [hoperation, hnext]
    · simp
  exact uuid.not_action h hh ((of_decide_eq_true hsame).symm.trans hid)

/-- **Holding actions**: whatever order the database answers in, the promise is kept exactly when
one of the writing statements fails before the action is changed, or the look-up succeeds, finds the
successor that is named, and no earlier holding action comes before it. -/
theorem promised_iff_keeps (table : FreightTable) (a : { a // a ∈ table.rows })
    (report : Report a.val) (uuid : FreshId table) (holdingLat holdingLon : ℚ)
    (fails : Statement → Bool) :
    (∀ order, Promised order fails table.rows (insertHoldingAction order fails holdingLat
      holdingLon uuid.id report.object table.rows) a.val) ↔ Keeps fails table.rows a.val := by
  obtain ⟨a, ha⟩ := a
  constructor
  · intro h
    by_cases hstopped : Stopped fails
    · exact Or.inl hstopped
    · by_cases hfailed : fails .nextActionId = true ∨ fails .currentAction = true
      · -- the look-up has failed, and the rest goes on
        have hsome : ∃ s, fails s = true := hfailed.elim (fun hf => ⟨_, hf⟩) fun hf => ⟨_, hf⟩
        exact absurd ((h (preferring fun r => r.actionId = uuid.id)).2 hsome)
          (not_chainsKept report uuid holdingLat holdingLon ha hstopped rfl)
      · obtain ⟨hnext, hcurrent⟩ := not_or.mp hfailed
        rw [Bool.not_eq_true] at hnext hcurrent
        obtain ⟨hinsert, hrest⟩ := not_or.mp hstopped
        obtain ⟨hselect, hupdate⟩ := not_or.mp hrest
        have hall : ∀ s, fails s = false := by
          intro s
          cases s with
          | nextActionId => exact hnext
          | currentAction => exact hcurrent
          | insertAction => simpa using hinsert
          | getActionIdForPreviousAction => simpa using hselect
          | updateCurrentAction => simpa using hupdate
        have hinserted := fun order => (h order).1 hall
        have hfound : a.nextAction = "" ∨ ∃ r ∈ table.rows, r.actionId = a.nextAction := by
          have hnew := hinserted (preferring fun r => r.actionId = uuid.id)
          rw [insertHoldingAction_new report uuid holdingLat holdingLon hstopped rfl,
            inserted_iff uuid ha rfl rfl report.cmvId_eq, report.actionId_eq] at hnew
          exact (retrieveNextAction_actionId _ ha hnext hcurrent).mp hnew.2
        refine Or.inr ⟨hnext, hcurrent, hfound, fun r hr hoperation hsame => ?_⟩
        apply not_inserted report uuid holdingLat holdingLon ha hstopped hr hoperation rfl ?_
          (hinserted _)
        rw [report.actionId_eq, (retrieveNextAction_actionId _ ha hnext hcurrent).mpr hfound, hsame]
  · intro hkeeps order
    exact promised_of_keeps report uuid holdingLat holdingLon ha order hkeeps

end Promise

/-! ### A holding action before the same exit -/

/-- Two vehicles leave the port by the same action; the second already has a holding action. -/
def sharedExit : FreightTable where
  rows := [⟨"V1", some "A", 0, 0, "PORT_CHECKPOINT", "check", "exit"⟩,
    ⟨"V2", some "B", 1, 1, "HOLDING_AREA", "hold", "exit"⟩,
    ⟨"V1", some "A", 2, 2, "EXIT_PORT", "exit", "end"⟩]
  unique := by decide

/-- The rows as they were inserted. -/
def insertionOrder : ResultOrder where
  first := List.head?
  mem := List.mem_of_head?
  isSome := by
    intro rows hne
    simpa using hne

/-- The checkpoint of the first vehicle is pointed to the holding action of the second. -/
theorem sharedExit_not_inserted :
    insertHoldingAction insertionOrder (fun _ => false) 3 3 "new"
        { cmvId := "V1", cargoId := "A", actionId := "check" } sharedExit.rows =
      [⟨"V1", some "A", 0, 0, "PORT_CHECKPOINT", "check", "hold"⟩,
        ⟨"V2", some "B", 1, 1, "HOLDING_AREA", "hold", "exit"⟩,
        ⟨"V1", some "A", 2, 2, "EXIT_PORT", "exit", "end"⟩,
        ⟨"V1", some "A", 3, 3, "HOLDING_AREA", "new", "exit"⟩] ∧
    ¬ Inserted sharedExit.rows (insertHoldingAction insertionOrder (fun _ => false) 3 3 "new"
        { cmvId := "V1", cargoId := "A", actionId := "check" } sharedExit.rows)
      ⟨"V1", some "A", 0, 0, "PORT_CHECKPOINT", "check", "exit"⟩ := by
  have hrows : insertHoldingAction insertionOrder (fun _ => false) 3 3 "new"
      { cmvId := "V1", cargoId := "A", actionId := "check" } sharedExit.rows =
      [⟨"V1", some "A", 0, 0, "PORT_CHECKPOINT", "check", "hold"⟩,
        ⟨"V2", some "B", 1, 1, "HOLDING_AREA", "hold", "exit"⟩,
        ⟨"V1", some "A", 2, 2, "EXIT_PORT", "exit", "end"⟩,
        ⟨"V1", some "A", 3, 3, "HOLDING_AREA", "new", "exit"⟩] := by decide +kernel
  refine ⟨hrows, ?_⟩
  rintro ⟨n, hnew, -, -, -, hmem⟩
  rw [hrows] at hmem
  -- the checkpoint would be followed by a row that was not there
  have hpointed := (hmem _).mpr (Or.inr (Or.inl rfl))
  have hnext : n.actionId = "hold" := by simpa using hpointed
  exact hnew ⟨"V2", some "B", 1, 1, "HOLDING_AREA", "hold", "exit"⟩ (by decide) hnext.symm

/-- Each vehicle leaves the port by an action of its own. -/
def ownExits : FreightTable where
  rows := [⟨"V1", some "A", 0, 0, "PORT_CHECKPOINT", "check", "exit"⟩,
    ⟨"V2", some "B", 1, 1, "HOLDING_AREA", "hold", "leave"⟩,
    ⟨"V1", some "A", 2, 2, "EXIT_PORT", "exit", ""⟩,
    ⟨"V2", some "B", 2, 2, "EXIT_PORT", "leave", ""⟩]
  unique := by decide

/-- With exits of their own the holding action is inserted; with a shared exit it is not always, and
where its row cannot be inserted the chains are kept. -/
theorem promised_iff_keeps_exits :
    (∀ order, Inserted ownExits.rows (insertHoldingAction order (fun _ => false) 3 3 "new"
        { cmvId := "V1", cargoId := "A", actionId := "check" } ownExits.rows)
      ⟨"V1", some "A", 0, 0, "PORT_CHECKPOINT", "check", "exit"⟩) ∧
    (¬ ∀ order, Promised order (fun _ => false) sharedExit.rows
      (insertHoldingAction order (fun _ => false) 3 3 "new"
        { cmvId := "V1", cargoId := "A", actionId := "check" } sharedExit.rows)
      ⟨"V1", some "A", 0, 0, "PORT_CHECKPOINT", "check", "exit"⟩) ∧
    ∀ order, ChainsKept order sharedExit.rows
      (insertHoldingAction order (· = .insertAction) 3 3 "new"
        { cmvId := "V1", cargoId := "A", actionId := "check" } sharedExit.rows) := by
  let check : FreightRow := ⟨"V1", some "A", 0, 0, "PORT_CHECKPOINT", "check", "exit"⟩
  let report : Report check := ⟨{ cmvId := "V1", cargoId := "A", actionId := "check" }, rfl, rfl⟩
  let newInOwn : FreshId ownExits := ⟨"new", by decide, by decide, by decide⟩
  let newInShared : FreshId sharedExit := ⟨"new", by decide, by decide, by decide⟩
  refine ⟨?_, ?_, ?_⟩
  · -- both operations of the second vehicle name another successor
    have hkeeps : Keeps (fun _ => false) ownExits.rows check :=
      Or.inr ⟨rfl, rfl, Or.inr ⟨⟨"V1", some "A", 2, 2, "EXIT_PORT", "exit", ""⟩, by decide, rfl⟩,
        by decide⟩
    have hall := (promised_iff_keeps ownExits ⟨check, by decide⟩ report newInOwn 3 3 _).mpr hkeeps
    exact fun order => (hall order).1 fun _ => rfl
  · intro hall
    have hkeeps :=
      (promised_iff_keeps sharedExit ⟨check, by decide⟩ report newInShared 3 3 _).mp hall
    rcases hkeeps with hstopped | ⟨-, -, -, hnone⟩
    · exact absurd hstopped (by unfold Stopped; decide)
    · exact hnone ⟨"V2", some "B", 1, 1, "HOLDING_AREA", "hold", "exit"⟩ (by decide) rfl rfl
  · have hkeeps : Keeps (· = .insertAction) sharedExit.rows check := Or.inl (Or.inl rfl)
    have hall := (promised_iff_keeps sharedExit ⟨check, by decide⟩ report newInShared 3 3 _).mpr
      hkeeps
    exact fun order => (hall order).2 ⟨.insertAction, rfl⟩

end V2XHub.PortDrayage
