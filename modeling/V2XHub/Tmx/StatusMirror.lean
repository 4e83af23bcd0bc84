import Mathlib.Logic.Function.Basic
import V2XHub.Lib.Run
import V2XHub.Tmx.ApiMessages

/-!
# The status of a plugin on both sides

A `PluginClient` remembers the text of each status that it has set and does not send a text that it
remembers. The core keeps the items in the database, where a collation decides which keys are the
same, and deletes them after the connection has ended.

**Main result** `mirrors_of_run`: the core has what was set last as long as a text that the client
remembers is set again only where its sending still counts.
-/

namespace V2XHub.Tmx

open V2XHub.Lib

/-- A status item that is sent, with no value if it is to be removed. -/
structure StatusItem where
  key : String
  value : Option String
  deriving DecidableEq

structure StatusWorld where
  state : IvpPluginState := .disconnected
  /-- `_statusMap` -/
  statusMap : String → Option String := fun _ => none
  /-- `mRegistered` of the connection in the core -/
  registered : Bool := false
  /-- items under way and in the queue of the slow processor, oldest first -/
  toCore : List StatusItem := []
  /-- the rows of `pluginStatus`, by collated key -/
  stored : String → Option String := fun _ => none
  /-- ended connections whose status items are yet to be deleted -/
  cleanups : Nat := 0
  /-- by collated key, what the last call while registered has asked for -/
  expected : String → Option (Option String) := fun _ => none
  /-- the remembered text was sent to this connection while registered, and its row is not
  overwritten or removed since -/
  confirmed : String → Bool := fun _ => false

namespace StatusWorld

variable (collate : String → String)

inductive Event where
  | setStatus (key text : String) (sent : Bool)
  | removeStatus (key : String) (sent : Bool)
  | connect
  /-- the core registers the plugin -/
  | register
  /-- the plugin has the reply -/
  | reply
  | disconnect
  /-- the slow processor takes an item -/
  | process (taken : Bool)
  /-- the queue of the slow processor is full -/
  | drop
  /-- the end of `~Plugin` for an old connection -/
  | removeAllPluginStatusItems
  deriving DecidableEq

/-- The connection is lost. -/
def lose (s : StatusWorld) : StatusWorld :=
  { s with
    state := .disconnected
    registered := false
    toCore := []
    cleanups := if s.registered then s.cleanups + 1 else s.cleanups
    expected := fun _ => none
    confirmed := fun _ => false }

/-- `ivp_broadcastMessage` with a status message. -/
def broadcast (s : StatusWorld) (item : StatusItem) (sent : Bool) : StatusWorld :=
  if s.state = .connected ∨ s.state = .registered then
    if sent then { s with toCore := s.toCore ++ [item] } else s.lose
  else s

/-- What the application has asked for. -/
def ask (s : StatusWorld) (item : StatusItem) : StatusWorld :=
  if s.state = .registered then
    { s with expected := Function.update s.expected (collate item.key) (some item.value) }
  else s

/-- An item for a row makes the earlier ones for it void. -/
def confirm (s : StatusWorld) (item : StatusItem) : StatusWorld :=
  if s.state = .registered then
    { s with
      confirmed := fun key =>
        if collate key = collate item.key then key = item.key ∧ item.value.isSome
        else s.confirmed key }
  else s

/-- `SetStatus`. -/
def setStatus (s : StatusWorld) (key text : String) (sent : Bool) : StatusWorld :=
  if s.statusMap key = some text then s.ask collate ⟨key, some text⟩
  else
    let s := { s with statusMap := Function.update s.statusMap key (some text) }
    ((s.ask collate ⟨key, some text⟩).confirm collate ⟨key, some text⟩).broadcast
      ⟨key, some text⟩ sent

/-- `RemoveStatus`. -/
def removeStatus (s : StatusWorld) (key : String) (sent : Bool) : StatusWorld :=
  ((s.ask collate ⟨key, none⟩).confirm collate ⟨key, none⟩).broadcast ⟨key, none⟩ sent

/-- `setStatusItems` and `removeStatusItems` for the item of a message. -/
def processItem (stored : String → Option String) (item : StatusItem) : String → Option String :=
  Function.update stored (collate item.key) item.value

def step (s : StatusWorld) : Event → Option StatusWorld
  | .setStatus key text sent =>
      -- the API asserts a key
      if key = "" then none else some (s.setStatus collate key text sent)
  | .removeStatus key sent =>
      if key = "" then none else some (s.removeStatus collate key sent)
  | .connect => if s.state = .disconnected then some { s with state := .connected } else none
  | .register => if s.state ≠ .disconnected then some { s with registered := true } else none
  | .reply =>
      if s.state = .connected ∧ s.registered then some { s with state := .registered } else none
  | .disconnect => if s.state = .disconnected then none else some s.lose
  | .process taken =>
      match s.toCore with
      | [] => none
      | item :: rest =>
          some { s with
            toCore := rest
            stored := if s.registered ∧ taken then processItem collate s.stored item else s.stored }
  | .drop =>
      match s.toCore with
      | [] => none
      | _ :: rest => some { s with toCore := rest }
  | .removeAllPluginStatusItems =>
      if 0 < s.cleanups then some { s with cleanups := s.cleanups - 1, stored := fun _ => none }
      else none

/-- The claim on a state: what was asked for a key is stored once no item for its row is under
way. -/
def Mirrors (s : StatusWorld) : Prop :=
  s.state = .registered → ∀ key value, s.expected (collate key) = some value →
    (∀ item ∈ s.toCore, collate item.key ≠ collate key) → s.stored (collate key) = value

/-- The steps after which the memory of the client is right. -/
def Proper (s : StatusWorld) : Event → Prop
  | .setStatus key text _ =>
      s.state = .registered → s.statusMap key = some text → s.confirmed key = true
  | .process taken => s.state = .registered → taken = true
  | .drop => s.state ≠ .registered
  | .removeAllPluginStatusItems => s.state ≠ .registered
  | _ => True

instance (s : StatusWorld) : DecidablePred s.Proper
  | .setStatus _ _ _ => inferInstanceAs (Decidable (_ → _))
  | .process _ => inferInstanceAs (Decidable (_ → _))
  | .drop | .removeAllPluginStatusItems => inferInstanceAs (Decidable (_ ≠ _))
  | .removeStatus _ _ | .connect | .register | .reply | .disconnect =>
      inferInstanceAs (Decidable True)

/-! ## The invariant -/

/-- The rows after the items that are under way. -/
def storedAfter (s : StatusWorld) : String → Option String :=
  s.toCore.foldl (processItem collate) s.stored

structure Inv (s : StatusWorld) : Prop where
  registered : s.state = .registered → s.registered = true
  expected : ∀ row value, s.expected row = some value → s.storedAfter collate row = value
  confirmed : ∀ key, s.confirmed key = true →
    s.expected (collate key) = some (s.statusMap key)
  unasked : s.state ≠ .registered →
    (∀ row, s.expected row = none) ∧ ∀ key, s.confirmed key = false

variable {collate} {s t : StatusWorld}

/-- Items leave the other rows alone. -/
theorem foldl_processItem_of_ne {row : String} {items : List StatusItem}
    (h : ∀ item ∈ items, collate item.key ≠ row) (stored : String → Option String) :
    items.foldl (processItem collate) stored row = stored row := by
  induction items generalizing stored with
  | nil => rfl
  | cons item items ih =>
      obtain ⟨hitem, hitems⟩ := List.forall_mem_cons.mp h
      rw [List.foldl_cons, ih hitems]
      exact Function.update_of_ne (Ne.symm hitem) _ _

theorem Inv.mirrors (h : s.Inv collate) : s.Mirrors collate := by
  intro _ key value hexpected hdelivered
  have hafter := h.expected (collate key) value hexpected
  rwa [storedAfter, foldl_processItem_of_ne hdelivered] at hafter

theorem inv_initial : ({} : StatusWorld).Inv collate where
  registered := nofun
  expected := nofun
  confirmed := nofun
  unasked _ := ⟨fun _ => rfl, fun _ => rfl⟩

theorem Inv.of_unregistered (hstate : s.state ≠ .registered)
    (hexpected : ∀ row, s.expected row = none)
    (hconfirmed : ∀ key, s.confirmed key = false) : s.Inv collate where
  registered h := absurd h hstate
  expected row value h := by
    rw [hexpected row] at h
    cases h
  confirmed key h := by
    rw [hconfirmed key] at h
    cases h
  unasked _ := ⟨hexpected, hconfirmed⟩

theorem lose_inv (s : StatusWorld) : s.lose.Inv collate :=
  .of_unregistered nofun (fun _ => rfl) fun _ => rfl

theorem storedAfter_append (stored : String → Option String) (items : List StatusItem)
    (item : StatusItem) :
    (items ++ [item]).foldl (processItem collate) stored =
      processItem collate (items.foldl (processItem collate) stored) item := by
  rw [List.foldl_append]
  rfl

/-- Nothing is asked for without a registration. -/
theorem Inv.broadcast_of_unregistered (hstate : s.state ≠ .registered)
    (hexpected : ∀ row, s.expected row = none) (hconfirmed : ∀ key, s.confirmed key = false)
    (item : StatusItem) (sent : Bool) : (s.broadcast item sent).Inv collate := by
  unfold broadcast
  split
  · split
    · exact .of_unregistered hstate hexpected hconfirmed
    · exact lose_inv s
  · exact .of_unregistered hstate hexpected hconfirmed

/-- An item is asked for and sent. `memory` is what the client remembers then. -/
theorem Inv.send (h : s.Inv collate) (item : StatusItem) (sent : Bool)
    {memory : String → Option String} (hself : item.value.isSome → memory item.key = item.value)
    (hother : ∀ key, collate key ≠ collate item.key → memory key = s.statusMap key) :
    (((({ s with statusMap := memory } : StatusWorld).ask collate item).confirm collate
      item).broadcast item sent).Inv collate := by
  by_cases hstate : s.state = .registered
  · rw [ask, if_pos hstate, confirm, if_pos hstate, broadcast, if_pos (.inr hstate)]
    split
    · refine ⟨fun _ => h.registered hstate, ?_, ?_, fun hne => absurd hstate hne⟩
      · intro row value hexpected
        dsimp only at hexpected
        rw [storedAfter, storedAfter_append, processItem]
        -- the item is the last that was asked of its row, the other rows wait for what they did
        by_cases hrow : row = collate item.key
        · subst hrow
          rw [Function.update_self] at hexpected
          cases hexpected
          exact Function.update_self _ _ _
        · rw [Function.update_of_ne hrow] at hexpected
          rw [Function.update_of_ne hrow]
          exact h.expected row value hexpected
      · intro key hconfirmed
        dsimp only at hconfirmed
        show Function.update s.expected (collate item.key) (some item.value) (collate key) =
          some (memory key)
        -- of the keys with this row only the one just sent stays confirmed
        by_cases hrow : collate key = collate item.key
        · rw [if_pos hrow] at hconfirmed
          obtain ⟨rfl, hsome⟩ := of_decide_eq_true hconfirmed
          rw [Function.update_self, hself hsome]
        · rw [if_neg hrow] at hconfirmed
          rw [Function.update_of_ne hrow, hother key hrow]
          exact h.confirmed key hconfirmed
    · exact lose_inv _
  · obtain ⟨hexpected, hconfirmed⟩ := h.unasked hstate
    rw [ask, if_neg hstate, confirm, if_neg hstate]
    exact Inv.broadcast_of_unregistered (s := { s with statusMap := memory }) hstate hexpected
      hconfirmed item sent

theorem Inv.removeStatus (h : s.Inv collate) (key : String) (sent : Bool) :
    (s.removeStatus collate key sent).Inv collate :=
  h.send ⟨key, none⟩ sent nofun fun _ _ => rfl

theorem Inv.setStatus (h : s.Inv collate) {key text : String} {sent : Bool}
    (hproper : s.Proper (.setStatus key text sent)) :
    (s.setStatus collate key text sent).Inv collate := by
  unfold StatusWorld.setStatus
  split
  · rename_i hremembered
    -- what is not sent was confirmed, so nothing new is asked for
    have hsame : s.ask collate ⟨key, some text⟩ = s := by
      unfold ask
      split
      · rename_i hstate
        have hexpected := h.confirmed key (hproper hstate hremembered)
        rw [hremembered] at hexpected
        dsimp only
        rw [← hexpected, Function.update_eq_self]
      · rfl
    rw [hsame]
    exact h
  · apply h.send ⟨key, some text⟩ sent
    · exact fun _ => Function.update_self _ _ _
    · intro key' hne
      exact Function.update_of_ne (fun heq => hne (congrArg collate heq)) _ _

theorem Inv.process (h : s.Inv collate) {item : StatusItem} {rest : List StatusItem} {taken : Bool}
    (htoCore : s.toCore = item :: rest) (htaken : s.state = .registered → taken = true) :
    ({ s with
      toCore := rest
      stored := if s.registered ∧ taken then processItem collate s.stored item else s.stored } :
      StatusWorld).Inv collate := by
  by_cases hstate : s.state = .registered
  · refine { h with expected := ?_ }
    intro row value hexpected
    have hafter := h.expected row value hexpected
    rw [storedAfter, htoCore, List.foldl_cons] at hafter
    rw [storedAfter, if_pos ⟨h.registered hstate, htaken hstate⟩]
    exact hafter
  · exact .of_unregistered hstate (h.unasked hstate).1 (h.unasked hstate).2

theorem Inv.step {e : Event} (h : s.Inv collate) (hproper : s.Proper e)
    (hstep : s.step collate e = some t) : t.Inv collate := by
  cases e with
  | setStatus key text sent =>
      rw [StatusWorld.step] at hstep
      split at hstep
      · cases hstep
      · cases hstep
        exact h.setStatus hproper
  | removeStatus key sent =>
      rw [StatusWorld.step] at hstep
      split at hstep
      · cases hstep
      · cases hstep
        exact h.removeStatus key sent
  | connect =>
      rw [StatusWorld.step] at hstep
      split at hstep
      · rename_i hstate
        cases hstep
        -- nothing is asked for without a registration
        have hunasked := h.unasked (by rw [hstate]; nofun)
        exact .of_unregistered nofun hunasked.1 hunasked.2
      · cases hstep
  | register =>
      rw [StatusWorld.step] at hstep
      split at hstep
      · cases hstep
        exact { h with registered := fun _ => rfl }
      · cases hstep
  | reply =>
      rw [StatusWorld.step] at hstep
      split at hstep
      · rename_i hconnected
        cases hstep
        exact
          { h with
            registered := fun _ => hconnected.2
            unasked := fun hne => absurd rfl hne }
      · cases hstep
  | disconnect =>
      rw [StatusWorld.step] at hstep
      split at hstep
      · cases hstep
      · cases hstep
        exact lose_inv s
  | process taken =>
      rw [StatusWorld.step] at hstep
      split at hstep
      · cases hstep
      · rename_i htoCore
        cases hstep
        exact h.process htoCore hproper
  | drop =>
      have hunasked := h.unasked hproper
      rw [StatusWorld.step] at hstep
      split at hstep
      · cases hstep
      · cases hstep
        exact .of_unregistered hproper hunasked.1 hunasked.2
  | removeAllPluginStatusItems =>
      have hunasked := h.unasked hproper
      rw [StatusWorld.step] at hstep
      split at hstep
      · cases hstep
        exact .of_unregistered hproper hunasked.1 hunasked.2
      · cases hstep

/-! ## Whole runs -/

theorem mirrors_of_run {es : List Event}
    (h : Run (Guarded Proper (Steps (step collate))) {} es s) : s.Mirrors collate := by
  refine Inv.mirrors (h.invariant ?_ inv_initial)
  rintro s e t hinv ⟨hproper, hstep⟩
  exact hinv.step hproper hstep

/-- A status is set, lost with the connection, and set to another text on the next one; another
status is still under way. -/
theorem mirrors_of_run_reconnected :
    ∃ es s, Run (Guarded Proper (Steps (step id))) {} es s ∧ s.state = .registered ∧
      s.toCore = [⟨"Packets", some "7"⟩] ∧
      s.expected "RSU at 10.0.0.1" = some (some "DISCONNECTED") ∧
      s.stored "RSU at 10.0.0.1" = some "DISCONNECTED" ∧ s.Mirrors id := by
  let es : List Event :=
    [.connect, .register, .reply, .setStatus "RSU at 10.0.0.1" "CONNECTED" true, .process true,
      .disconnect, .removeAllPluginStatusItems, .connect, .register, .reply,
      .setStatus "RSU at 10.0.0.1" "DISCONNECTED" true, .process true,
      .setStatus "RSU at 10.0.0.1" "DISCONNECTED" true, .setStatus "Packets" "7" true]
  obtain ⟨s, hs, hstate, htoCore, hexpected, hstored⟩ :
      ∃ s, es.foldlM (guardedStep (fun s e => decide (Proper s e)) (step id)) {} = some s ∧
        s.state = .registered ∧ s.toCore = [⟨"Packets", some "7"⟩] ∧
        s.expected "RSU at 10.0.0.1" = some (some "DISCONNECTED") ∧
        s.stored "RSU at 10.0.0.1" = some "DISCONNECTED" :=
    ⟨_, by rfl, by rfl, by rfl, by rfl, by rfl⟩
  have hrun : Run (Guarded Proper (Steps (step id))) {} es s :=
    (Run.guarded_of_foldlM hs).mono fun s e t hstep => ⟨of_decide_eq_true hstep.1, hstep.2⟩
  exact ⟨es, s, hrun, hstate, htoCore, hexpected, hstored, mirrors_of_run hrun⟩

/-- A status that was removed is set again to the same text, as the RSU monitor does after a change
of its configuration: the client does not send it. -/
theorem removed_status_lost :
    ¬ ∀ collate es s, Run (Steps (step collate)) {} es s → s.Mirrors collate := by
  intro hclaim
  let es : List Event :=
    [.connect, .register, .reply, .setStatus "RSU at 10.0.0.1" "CONNECTED" true, .process true,
      .removeStatus "RSU at 10.0.0.1" true, .process true,
      .setStatus "RSU at 10.0.0.1" "CONNECTED" true]
  obtain ⟨s, hs, hstate, htoCore, hexpected, hstored⟩ :
      ∃ s, es.foldlM (step id) {} = some s ∧ s.state = .registered ∧ s.toCore = [] ∧
        s.expected "RSU at 10.0.0.1" = some (some "CONNECTED") ∧
        s.stored "RSU at 10.0.0.1" = none :=
    ⟨_, by rfl, by rfl, by rfl, by rfl, by rfl⟩
  have hmirrors := hclaim id es s (Run.of_foldlM hs) hstate "RSU at 10.0.0.1" _ hexpected
    (by rw [htoCore]; nofun)
  cases hstored.symm.trans hmirrors

end StatusWorld

end V2XHub.Tmx
