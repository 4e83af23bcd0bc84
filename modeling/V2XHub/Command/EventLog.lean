import Mathlib.Data.List.Infix
import V2XHub.Command.WriteJson
import V2XHub.Lib.Run

/-!
# The event log of the portal

`GetEventTelemetry` asks `TmxControl` for the events after the last one it has seen and keeps their
texts for the sessions that connect later. The text must not grow forever: from `EventRowLimit`
events on, new ones are also gathered in a second text, and from twice as many on the second takes
the place of the first.

What is kept is to be the end of what was received since the log was cleared, by `clearlog` or
because the last session has gone, and at least the last `EventRowLimit` of it. Neither reset
touches the second text, so events from before can come back. And a large answer can bring the
counter over both limits at once, so that the second text is taken before it has enough.
-/

namespace V2XHub.Command

open V2XHub.Lib
open V2XHub.Lib.JsonText (commaSeparated commaSeparated_append commaSeparated_ne_nil)

/-! ## What the database returns -/

/-- A row of the event log. The time is a text of digits and separators. -/
structure EventRow where
  id : String
  level : String
  source : String
  description : String
  timestamp : String
  timestamp_ne_nil : timestamp.toList ≠ [] := by decide
  quote_not_mem_timestamp : '"' ∉ timestamp.toList := by decide
  deriving DecidableEq

namespace EventRow

def tree (row : EventRow) : Ptree :=
  .node ""
    [("id", .node row.id []), ("level", .node row.level []), ("source", .node row.source []),
     ("description", .node row.description []), ("timestamp", .node row.timestamp [])]

/-- The text of the row in the JSON output. -/
def text (row : EventRow) : List Char := writeValue row.tree

end EventRow

/-- The output of `TmxControl::events`. -/
def eventTree : List EventRow → Ptree
  | [] => .node "" []
  | row :: rows => .node "" [("EventLog", .node "" ((row :: rows).map fun r => ("", r.tree)))]

/-- The texts of the rows, with commas between them. -/
def rowsText (rows : List EventRow) : List Char := commaSeparated (rows.map EventRow.text)

/-! ## Searching texts -/

/-- The text between the last two quotes, if it is not empty. -/
def lastQuoted (text : List Char) : Option (List Char) :=
  match findLastOf '"' text with
  | none => none
  | some lastIndex =>
      match findLastOf '"' (text.take lastIndex) with
      | none => none
      | some firstIndex =>
          if lastIndex - firstIndex < 2 then none
          else some (substr text (firstIndex + 1) (lastIndex - firstIndex - 1))

/-- How often `},{` is found, each time after the last. -/
def separators : List Char → Nat
  | '\x7d' :: ',' :: '\x7b' :: rest => separators rest + 1
  | _ :: rest => separators rest
  | [] => 0

/-! ## The log -/

/-- What the plugin keeps of the events. Beside it, what was received since the log was cleared, and
the rows whose texts were added to the second text since it was emptied. -/
structure EventLog where
  haveEvents : Bool := false
  eventsJSON : List Char := []
  lastEventTime : List Char := []
  eventsUpdatesJSON : List Char := []
  eventsNextFullJSON : List Char := []
  eventsFullCount : UInt64 := 0
  eventsNextFullCount : UInt64 := 0
  received : List EventRow := []
  nextRows : List EventRow := []

/-- A call of `GetEventTelemetry` with the rows `TmxControl` returns unless it fails, the command
`clearlog` with its result, or the last session closes. -/
inductive LogEvent where
  | getEventTelemetry (rows : Option (List EventRow))
  | clearlog (rc : Bool)
  | lastClosed
  deriving DecidableEq

namespace EventLog

/-- `append`, after a comma if there is something. -/
def appendText (text new : List Char) : List Char :=
  (if text.length > 0 then text ++ [','] else text) ++ new

/-- The new text is added to the second text, from `EventRowLimit` events on. -/
def addNext (limit : UInt64) (s : EventLog) (text : List Char) (eventCount : UInt64)
    (rows : List EventRow) : EventLog :=
  if s.eventsFullCount ≥ limit then
    { s with
      eventsNextFullJSON := appendText s.eventsNextFullJSON text
      eventsNextFullCount := s.eventsNextFullCount + eventCount
      nextRows := s.nextRows ++ rows }
  else s

/-- The second text is taken, or the new text is added to the first. `limit * 2` may overflow. -/
def addFull (limit : UInt64) (s : EventLog) (text : List Char) (eventCount : UInt64) : EventLog :=
  if s.eventsFullCount ≥ limit * 2 then
    { s with
      eventsJSON := s.eventsNextFullJSON
      eventsNextFullJSON := []
      eventsFullCount := s.eventsNextFullCount
      eventsNextFullCount := 0
      nextRows := [] }
  else
    { s with
      eventsJSON := appendText s.eventsJSON text
      eventsFullCount := s.eventsFullCount + eventCount }

def getEventTelemetry (ending : Bool) (limit : UInt64) (s : EventLog) :
    Option (List EventRow) → EventLog
  | none => { s with haveEvents := false }
  | some rows =>
      let eJSON := getOutput ending (eventTree rows)
      let s := { s with haveEvents := true, received := s.received ++ rows }
      if eJSON = [] then
        { s with eventsUpdatesJSON := [] }
      else
        match lastQuoted eJSON with
        | none => { s with eventsUpdatesJSON := [] }
        | some time =>
            let s := { s with lastEventTime := time }
            match between '[' ']' eJSON with
            | none => { s with eventsUpdatesJSON := [] }
            | some (firstIndex, text) =>
                let eventCount := UInt64.ofNat (1 + separators (eJSON.drop firstIndex))
                ({ s with eventsUpdatesJSON := text }.addNext limit text eventCount rows).addFull
                  limit text eventCount

/-- `clearlog` that has succeeded. -/
def clear (s : EventLog) : EventLog :=
  { s with eventsJSON := [], eventsUpdatesJSON := [], received := [] }

def step (ending : Bool) (limit : UInt64) (s : EventLog) : LogEvent → EventLog
  | .getEventTelemetry rows => s.getEventTelemetry ending limit rows
  | .clearlog rc => if rc then s.clear else s
  | .lastClosed => { s.clear with haveEvents := false, lastEventTime := [] }

/-- The events that were received since the log was cleared: what is kept is a well-formed list of
the last of them, at least `EventRowLimit` if there are so many. -/
def View (limit : UInt64) (s : EventLog) : Prop :=
  ∃ kept, s.eventsJSON = rowsText kept ∧ kept <:+ s.received ∧
    min s.received.length limit.toNat ≤ kept.length

end EventLog

/-! ## What the searches find -/

theorem lastQuoted_append (before : List Char) {middle after : List Char} (hmiddle : middle ≠ [])
    (hquote : '"' ∉ middle) (hafter : '"' ∉ after) :
    lastQuoted (before ++ '"' :: middle ++ '"' :: after) = some middle := by
  have hfirst : ((before ++ '"' :: middle) ++ '"' :: after).take (before ++ '"' :: middle).length =
      before ++ '"' :: middle := List.take_left
  have hlong : ¬ (before ++ '"' :: middle).length - before.length < 2 := by
    have := List.length_pos_iff.mpr hmiddle
    simp only [List.length_append, List.length_cons]
    omega
  unfold lastQuoted
  rw [findLastOf_append _ hafter]
  simp only
  rw [hfirst, findLastOf_append _ hquote]
  simp only
  rw [if_neg hlong]
  have hlength : (before ++ '"' :: middle).length - before.length - 1 = middle.length := by
    simp only [List.length_append, List.length_cons]
    omega
  have hsplit : before ++ '"' :: middle ++ '"' :: after =
      (before ++ ['"']) ++ middle ++ '"' :: after := by simp
  have hstart : before.length + 1 = (before ++ ['"']).length := by simp
  rw [hlength, hsplit, hstart, substr_append]

/-! ## The text of the rows -/

section Rows

variable {rows : List EventRow}

theorem EventRow.text_eq (row : EventRow) :
    ∃ before, row.text = before ++ '"' :: escapes row.timestamp ++ '"' :: ['\x7d'] := by
  refine ⟨'\x7b' :: commaSeparated (writeMembers
    [("id", .node row.id []), ("level", .node row.level []), ("source", .node row.source []),
     ("description", .node row.description [])]) ++ ',' :: quoted "timestamp" ++ [':'], ?_⟩
  simp [text, tree, writeValue, writeMembers, commaSeparated, quoted]

theorem rowsText_append {rows' : List EventRow} (h : rows ≠ []) (h' : rows' ≠ []) :
    rowsText (rows ++ rows') = rowsText rows ++ ',' :: rowsText rows' := by
  unfold rowsText
  rw [List.map_append]
  refine commaSeparated_append ?_ ?_
  · exact fun hnil => h (List.map_eq_nil_iff.mp hnil)
  · exact fun hnil => h' (List.map_eq_nil_iff.mp hnil)

theorem rowsText_ne_nil (h : rows ≠ []) : rowsText rows ≠ [] := by
  refine commaSeparated_ne_nil (fun hnil => h (List.map_eq_nil_iff.mp hnil)) fun text htext => ?_
  obtain ⟨row, _, rfl⟩ := List.mem_map.mp htext
  obtain ⟨before, hbefore⟩ := row.text_eq
  simp [hbefore]

/-- The text ends in that of the last row. -/
theorem rowsText_eq (h : rows ≠ []) :
    ∃ row before, rowsText rows = before ++ EventRow.text row := by
  obtain ⟨init, row, rfl⟩ := (List.eq_nil_or_concat' rows).resolve_left h
  refine ⟨row, ?_⟩
  by_cases hinit : init = []
  · exact ⟨[], by rw [hinit]; rfl⟩
  · refine ⟨rowsText init ++ [','], ?_⟩
    rw [rowsText_append hinit (List.cons_ne_nil _ _), List.append_assoc]
    rfl

theorem eventTree_eq (h : rows ≠ []) :
    eventTree rows =
      .node "" [("EventLog", .node "" ((rows.map EventRow.tree).map fun row => ("", row)))] := by
  obtain ⟨row, rest, rfl⟩ := List.exists_cons_of_ne_nil h
  rw [eventTree, List.map_map]
  rfl

theorem rowsText_eq_map (rows : List EventRow) :
    commaSeparated ((rows.map EventRow.tree).map writeValue) = rowsText rows := by
  rw [List.map_map]
  rfl

theorem map_tree_ne_nil (h : rows ≠ []) : rows.map EventRow.tree ≠ [] :=
  fun hnil => h (List.map_eq_nil_iff.mp hnil)

theorem getOutput_eventTree (ending : Bool) (h : rows ≠ []) :
    getOutput ending (eventTree rows) =
      "\x7b\"EventLog\":".toList ++ '[' :: rowsText rows ++ ']' :: outputEnd ending := by
  have hquoted : quoted "EventLog" = "\"EventLog\"".toList := by decide
  rw [eventTree_eq h, getOutput_array ending _ (map_tree_ne_nil h), rowsText_eq_map, hquoted]
  rfl

theorem lastQuoted_output (ending : Bool) (h : rows ≠ []) :
    ∃ time, lastQuoted (getOutput ending (eventTree rows)) = some time := by
  obtain ⟨row, before, hrow⟩ := rowsText_eq h
  obtain ⟨before', htext⟩ := row.text_eq
  refine ⟨escapes row.timestamp, ?_⟩
  rw [getOutput_eventTree ending h, hrow, htext]
  have hsplit : "\x7b\"EventLog\":".toList ++
      '[' :: (before ++ (before' ++ '"' :: escapes row.timestamp ++ '"' :: ['\x7d'])) ++
        ']' :: outputEnd ending =
      ("\x7b\"EventLog\":".toList ++ '[' :: (before ++ before')) ++ '"' :: escapes row.timestamp ++
        '"' :: '\x7d' :: ']' :: outputEnd ending := by simp
  rw [hsplit]
  refine lastQuoted_append _ (escapes_ne_nil row.timestamp_ne_nil)
    (quote_not_mem_escapes row.quote_not_mem_timestamp) ?_
  cases ending with
  | true => decide
  | false => decide

theorem between_output (ending : Bool) (h : rows ≠ []) :
    ∃ firstIndex,
      between '[' ']' (getOutput ending (eventTree rows)) = some (firstIndex, rowsText rows) := by
  have hname : '[' ∉ quoted "EventLog" := by decide
  have hbetween := between_array ending hname (map_tree_ne_nil h)
  rw [rowsText_eq_map, ← eventTree_eq h] at hbetween
  exact hbetween

end Rows

/-! ## The law -/

namespace EventLog

variable {ending : Bool} {limit : UInt64} {s s' : EventLog} {rows : List EventRow}

/-- When the second text is taken, it has got the new events too, all its events were received since
the log was cleared, and they are enough. -/
def Enough (limit : UInt64) (s : EventLog) : LogEvent → Prop
  | .getEventTelemetry (some rows) =>
      rows ≠ [] → limit * 2 ≤ s.eventsFullCount →
        limit ≤ s.eventsFullCount ∧ s.nextRows <:+ s.received ∧
          min (s.received.length + rows.length) limit.toNat ≤ s.nextRows.length + rows.length
  | _ => True

instance decidableEnough (limit : UInt64) (s : EventLog) :
    (e : LogEvent) → Decidable (s.Enough limit e)
  | .getEventTelemetry (some _) => inferInstanceAs (Decidable (_ → _ → _ ∧ _ ∧ _))
  | .getEventTelemetry none | .clearlog _ | .lastClosed => inferInstanceAs (Decidable True)

/-- What holds of both texts. -/
structure Kept (limit : UInt64) (s : EventLog) : Prop where
  view : s.View limit
  next : s.eventsNextFullJSON = rowsText s.nextRows

theorem appendText_rowsText {kept : List EventRow} (h : rows ≠ []) :
    appendText (rowsText kept) (rowsText rows) = rowsText (kept ++ rows) := by
  unfold appendText
  by_cases hkept : kept = []
  · rw [hkept]
    rfl
  · rw [if_pos (List.length_pos_iff.mpr (rowsText_ne_nil hkept)), rowsText_append hkept h,
      List.append_assoc]
    rfl

/-- A call that has got rows. -/
theorem getEventTelemetry_some (ending : Bool) (limit : UInt64) (s : EventLog) (h : rows ≠ []) :
    ∃ time eventCount, s.getEventTelemetry ending limit (some rows) =
      ({ s with
          haveEvents := true
          received := s.received ++ rows
          lastEventTime := time
          eventsUpdatesJSON := rowsText rows }.addNext limit (rowsText rows) eventCount
        rows).addFull limit (rowsText rows) eventCount := by
  obtain ⟨time, htime⟩ := lastQuoted_output ending h
  obtain ⟨firstIndex, htext⟩ := between_output ending h
  have houtput : getOutput ending (eventTree rows) ≠ [] := by
    rw [getOutput_eventTree ending h]
    simp
  refine ⟨time,
    .ofNat (1 + separators ((getOutput ending (eventTree rows)).drop firstIndex)), ?_⟩
  unfold getEventTelemetry
  simp only
  rw [if_neg houtput, htime]
  simp only
  rw [htext]

theorem getEventTelemetry_nil :
    s.getEventTelemetry ending limit (some []) =
      { s with haveEvents := true, eventsUpdatesJSON := [] } := by
  simp [getEventTelemetry, getOutput, eventTree, Ptree.children]

theorem addNext_next (h : rows ≠ []) (hs : s.eventsNextFullJSON = rowsText s.nextRows)
    (eventCount : UInt64) :
    (s.addNext limit (rowsText rows) eventCount rows).eventsNextFullJSON =
      rowsText (s.addNext limit (rowsText rows) eventCount rows).nextRows := by
  unfold addNext
  split
  · show appendText s.eventsNextFullJSON (rowsText rows) = _
    rw [hs]
    exact appendText_rowsText h
  · exact hs

theorem addNext_full (limit : UInt64) (s : EventLog) (text : List Char) (eventCount : UInt64)
    (rows : List EventRow) :
    (s.addNext limit text eventCount rows).eventsJSON = s.eventsJSON ∧
      (s.addNext limit text eventCount rows).eventsFullCount = s.eventsFullCount ∧
      (s.addNext limit text eventCount rows).received = s.received := by
  unfold addNext
  split
  · exact ⟨rfl, rfl, rfl⟩
  · exact ⟨rfl, rfl, rfl⟩

theorem addNext_rows (h : limit ≤ s.eventsFullCount) (text : List Char) (eventCount : UInt64) :
    (s.addNext limit text eventCount rows).nextRows = s.nextRows ++ rows := by
  unfold addNext
  rw [if_pos h]

/-- The first text goes on, or the second takes its place. The rows are already among those that
were received. -/
theorem addFull_kept {old : List EventRow} (h : rows ≠ []) (hreceived : s.received = old ++ rows)
    (hnext : s.eventsNextFullJSON = rowsText s.nextRows)
    (hfull : ∃ kept, s.eventsJSON = rowsText kept ∧ kept <:+ old ∧
      min old.length limit.toNat ≤ kept.length)
    (htake : limit * 2 ≤ s.eventsFullCount → s.nextRows <:+ s.received ∧
      min s.received.length limit.toNat ≤ s.nextRows.length)
    (eventCount : UInt64) : Kept limit (s.addFull limit (rowsText rows) eventCount) := by
  unfold addFull
  split
  · next hover =>
      obtain ⟨hsuffix, henough⟩ := htake hover
      exact ⟨⟨s.nextRows, hnext, hsuffix, henough⟩, rfl⟩
  · obtain ⟨kept, htext, hsuffix, henough⟩ := hfull
    refine ⟨⟨kept ++ rows, ?_, ?_, ?_⟩, hnext⟩
    · show appendText s.eventsJSON (rowsText rows) = _
      rw [htext]
      exact appendText_rowsText h
    · show kept ++ rows <:+ s.received
      rw [hreceived]
      obtain ⟨before, hbefore⟩ := hsuffix
      exact ⟨before, by rw [← List.append_assoc, hbefore]⟩
    · show min s.received.length limit.toNat ≤ _
      rw [hreceived, List.length_append, List.length_append]
      omega

theorem Kept.getEventTelemetry (hs : s.Kept limit)
    (henough : s.Enough limit (.getEventTelemetry (some rows))) :
    (s.getEventTelemetry ending limit (some rows)).Kept limit := by
  obtain ⟨hview, hnext⟩ := hs
  by_cases h : rows = []
  · subst h
    rw [getEventTelemetry_nil]
    exact ⟨hview, hnext⟩
  · obtain ⟨time, eventCount, heq⟩ := getEventTelemetry_some ending limit s h
    rw [heq]
    generalize hr : ({ s with
      haveEvents := true
      received := s.received ++ rows
      lastEventTime := time
      eventsUpdatesJSON := rowsText rows } : EventLog) = r
    have hrnext : r.eventsNextFullJSON = rowsText r.nextRows := by
      rw [← hr]
      exact hnext
    obtain ⟨hjson, hcount, hreceived⟩ :=
      addNext_full limit r (rowsText rows) eventCount rows
    have hrows : (r.addNext limit (rowsText rows) eventCount rows).received =
        s.received ++ rows := by
      rw [hreceived, ← hr]
    refine addFull_kept h hrows (addNext_next h hrnext eventCount) ?_ ?_ eventCount
    · rw [hjson, ← hr]
      exact hview
    · rw [hcount, hreceived]
      intro hover
      have hcounts : r.eventsFullCount = s.eventsFullCount := by rw [← hr]
      rw [hcounts] at hover
      obtain ⟨hlimit, hsuffix, hmin⟩ := henough h hover
      rw [addNext_rows (hcounts ▸ hlimit), ← hr]
      refine ⟨?_, ?_⟩
      · obtain ⟨before, hbefore⟩ := hsuffix
        exact ⟨before, by rw [← List.append_assoc, hbefore]⟩
      · rw [List.length_append, List.length_append]
        exact hmin

theorem Kept.clear (hs : s.Kept limit) : s.clear.Kept limit :=
  ⟨⟨[], rfl, List.suffix_refl _, Nat.min_le_left _ _⟩, hs.next⟩

theorem Kept.step {e : LogEvent} (hs : s.Kept limit) (henough : s.Enough limit e) :
    (s.step ending limit e).Kept limit := by
  cases e with
  | getEventTelemetry rows =>
      cases rows with
      | none => exact ⟨hs.view, hs.next⟩
      | some rows => exact hs.getEventTelemetry henough
  | clearlog rc =>
      cases rc with
      | true => exact hs.clear
      | false => exact hs
  | lastClosed => exact ⟨hs.clear.view, hs.clear.next⟩

/-- **The event log**: as long as the second text is taken only when it has enough of the events
since the log was cleared and no others, what is kept is the end of what was received. -/
theorem view_of_enough (ending : Bool) (limit : UInt64) {es : List LogEvent} {s : EventLog}
    (run : Run (Guarded (Enough limit) (Steps fun s e => some (step ending limit s e))) {} es s) :
    s.View limit := by
  have hkept : s.Kept limit := by
    refine run.invariant (I := Kept limit) ?_
      ⟨⟨[], rfl, List.suffix_refl _, Nat.min_le_left _ _⟩, rfl⟩
    rintro s e s' hs ⟨henough, hstep⟩
    cases hstep
    exact hs.step henough
  exact hkept.view

/-- An event as the log has many. -/
def loggedRow (id : String) : EventRow where
  id := id
  level := "Info"
  source := "MAP"
  description := "d"
  timestamp := "2024-01-01 00:00:00"

/-- With a limit of two, five events come one by one and the second text is taken at the fifth. Then
the log is cleared, and two others come. -/
theorem view_of_enough_taken :
    ∃ (es : List LogEvent) (s : EventLog),
      Run (Guarded (Enough 2) (Steps fun s e => some (step true 2 s e))) {} es s ∧
        s.received = ["6", "7"].map loggedRow ∧
        s.eventsJSON = rowsText (["6", "7"].map loggedRow) ∧ s.View 2 := by
  let ask := fun ids : List String => LogEvent.getEventTelemetry (some (ids.map loggedRow))
  let es : List LogEvent :=
    [ask ["1"], ask ["2"], ask ["3"], ask [], ask ["4"], ask ["5"], .clearlog true, ask ["6"],
      ask ["7"]]
  have heval : (es.foldlM (guardedStep (fun s e => decide (s.Enough 2 e))
      fun s e => some (step true 2 s e)) {}).map (fun s => (s.received, s.eventsJSON)) =
        some (["6", "7"].map loggedRow, rowsText (["6", "7"].map loggedRow)) := by
    decide +kernel
  obtain ⟨s, hs, hobs⟩ := Option.map_eq_some_iff.mp heval
  obtain ⟨hreceived, hjson⟩ := Prod.mk.inj hobs
  have run : Run (Guarded (Enough 2) (Steps fun s e => some (step true 2 s e))) {} es s :=
    (Run.guarded_of_foldlM hs).mono fun s e t hstep => ⟨of_decide_eq_true hstep.1, hstep.2⟩
  exact ⟨es, s, run, hreceived, hjson, view_of_enough true 2 run⟩

/-- With a limit of one, an event from before the log was cleared comes back. -/
theorem cleared_event_returns :
    ¬ ∀ (ending : Bool) (limit : UInt64) (es : List LogEvent) (s : EventLog),
      Run (Steps fun s e => some (step ending limit s e)) {} es s → s.View limit := by
  intro h
  let ask := fun id : String => LogEvent.getEventTelemetry (some [loggedRow id])
  let es : List LogEvent := [ask "1", ask "2", .clearlog true, ask "3"]
  have heval : (es.foldlM (fun s e => some (step true 1 s e)) {}).map
      (fun s => (s.received, s.eventsJSON.length)) =
        some ([loggedRow "3"], (rowsText (["2", "3"].map loggedRow)).length) := by
    decide +kernel
  obtain ⟨s, hs, hobs⟩ := Option.map_eq_some_iff.mp heval
  obtain ⟨hreceived, hlength⟩ := Prod.mk.inj hobs
  obtain ⟨kept, hkept, hsuffix, _⟩ := h true 1 es s (Run.of_foldlM hs)
  rw [hreceived] at hsuffix
  rw [hkept] at hlength
  rcases List.suffix_cons_iff.mp hsuffix with heq | hnil
  · rw [heq] at hlength
    revert hlength
    decide +kernel
  · rw [List.suffix_nil.mp hnil] at hlength
    revert hlength
    decide +kernel

end EventLog

end V2XHub.Command
