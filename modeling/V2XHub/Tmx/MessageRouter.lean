import Mathlib.Data.List.AList
import Mathlib.Data.List.Induction

/-!
# Message routing in the TMX core

`MessageRouterBasic` keeps, for each receiver, the filter list it last subscribed with, and hands a
broadcast message to every receiver with a filter that lets it through. Receivers subscribe again
at any time (the new list replaces the old one) and are unregistered when their connection ends.

Receivers are pointers in the source and only ever compared, so they are an arbitrary type `ρ`
here. A broadcast is modelled by the list of receivers whose `receiveMessage` it calls, one
occurrence for each call.

**Main result** `count_broadcastMessage`: after any history of calls a message reaches exactly the
receivers that should have it, each of them once.
-/

namespace V2XHub.Tmx

/-- The parts of an `IvpMessage` that routing reads. `IvpMsgFlags` is an `unsigned int`; the type
and subtype may be `NULL`. -/
structure IvpMessage where
  type : Option String
  subtype : Option String
  flags : UInt32
  deriving DecidableEq, Repr

structure MessageFilterEntry where
  type : String := ""
  subtype : String := ""
  flagmask : UInt32 := 0
  deriving DecidableEq, Repr

/-- `mReceiverMessageFilterEntryMap`. -/
abbrev MessageRouterBasic (ρ : Type) := AList fun _ : ρ => List MessageFilterEntry

namespace MessageRouterBasic

/-! ## The filters -/

/-- `!flagmask || (flagmask & msg->flags) > 0`. -/
def flagsPass (filter : MessageFilterEntry) (msg : IvpMessage) : Bool :=
  filter.flagmask == 0 || decide (filter.flagmask &&& msg.flags > 0)

/-- The loop over one receiver's filters: whether it gets to `receiveMessage`, after which it
breaks. A filter that matches only half way falls through to the next one. -/
def delivers (msg : IvpMessage) : List MessageFilterEntry → Bool
  | [] => false
  | filter :: filters =>
      if filter.type = "*" then
        if flagsPass filter msg then true else delivers msg filters
      else if msg.type = some filter.type then
        if filter.subtype = "*" ∨ msg.subtype = some filter.subtype then
          if flagsPass filter msg then true else delivers msg filters
        else delivers msg filters
      else delivers msg filters

variable {ρ : Type} [DecidableEq ρ]

/-- The loop over the map: the receivers called, in the order of the map. -/
def deliveries (sender : Option ρ) (msg : IvpMessage) :
    List (Sigma fun _ : ρ => List MessageFilterEntry) → List ρ
  | [] => []
  | ⟨receiver, filters⟩ :: rest =>
      -- do not send to self
      if sender = some receiver then deliveries sender msg rest
      else if delivers msg filters then receiver :: deliveries sender msg rest
      else deliveries sender msg rest

def broadcastMessage (router : MessageRouterBasic ρ) (sender : Option ρ) (msg : IvpMessage) :
    List ρ :=
  deliveries sender msg router.entries

def registerReceiver (router : MessageRouterBasic ρ) (receiver : ρ)
    (filters : List MessageFilterEntry) : MessageRouterBasic ρ :=
  router.insert receiver filters

def unregisterReceiver (router : MessageRouterBasic ρ) (receiver : ρ) : MessageRouterBasic ρ :=
  router.erase receiver

end MessageRouterBasic

/-! ## What the core calls -/

inductive RouterCall (ρ : Type) where
  | registerReceiver (receiver : ρ) (filters : List MessageFilterEntry)
  | unregisterReceiver (receiver : ρ)
  deriving DecidableEq, Repr

namespace RouterCall

variable {ρ : Type} [DecidableEq ρ]

def apply (router : MessageRouterBasic ρ) : RouterCall ρ → MessageRouterBasic ρ
  | registerReceiver receiver filters => router.registerReceiver receiver filters
  | unregisterReceiver receiver => router.unregisterReceiver receiver

/-- The router after a history of calls, oldest first. -/
def history (calls : List (RouterCall ρ)) : MessageRouterBasic ρ :=
  calls.foldl apply ∅

end RouterCall

/-- One element of a subscribe message's payload, as `ivpSubscribe_getFilterEntry` reads it: the
`type` and `subtype` are `NULL` unless they are JSON strings, the flag mask defaults to none. -/
structure SubscribeEntry where
  type : Option String
  subtype : Option String
  flagmask : UInt32
  deriving DecidableEq, Repr

namespace PluginConnection

variable {ρ : Type}

/-- The loop of `processSubscribeMessage`: entries without a type are skipped. -/
def filterEntries (entries : List SubscribeEntry) : List MessageFilterEntry :=
  entries.filterMap fun entry => entry.type.map fun type =>
    { type := type, subtype := entry.subtype.getD "", flagmask := entry.flagmask }

/-- `Plugin::subscribeForMessages` throws before it reaches the router when the plugin has not
registered. -/
def subscribeForMessages (registered : Bool) (receiver : ρ) (filters : List MessageFilterEntry) :
    List (RouterCall ρ) :=
  if registered then [.registerReceiver receiver filters] else []

def processSubscribeMessage (registered : Bool) (receiver : ρ) (entries : List SubscribeEntry) :
    List (RouterCall ρ) :=
  subscribeForMessages registered receiver (filterEntries entries)

/-- The destructors of a connection: `~Plugin` subscribes to nothing, `~MessageRouterClient`
unregisters. -/
def disconnect (registered : Bool) (receiver : ρ) : List (RouterCall ρ) :=
  subscribeForMessages registered receiver [] ++ [.unregisterReceiver receiver]

end PluginConnection

/-! ## What routing is for

The specification speaks of the history alone: the last call about a receiver decides whether it is
registered and with which filters. -/

namespace RouterCall

variable {ρ : Type} [DecidableEq ρ]

/-- The receiver a call is about. -/
def about : RouterCall ρ → ρ
  | registerReceiver receiver _ => receiver
  | unregisterReceiver receiver => receiver

/-- What a call leaves its receiver registered with. -/
def leaves : RouterCall ρ → Option (List MessageFilterEntry)
  | registerReceiver _ filters => some filters
  | unregisterReceiver _ => none

/-- The filters a receiver is currently registered with, if it is registered at all: what the last
call about it left. -/
def currentFilters (calls : List (RouterCall ρ)) (receiver : ρ) :
    Option (List MessageFilterEntry) :=
  (calls.reverse.find? fun call => call.about = receiver).bind leaves

end RouterCall

/-- A filter lets a message through: type `*`, or equal type with subtype `*` or equal; and the
flag mask is 0 or shares a bit with the message's flags. -/
def MessageFilterEntry.Matches (filter : MessageFilterEntry) (msg : IvpMessage) : Prop :=
  (filter.type = "*" ∨
    msg.type = some filter.type ∧ (filter.subtype = "*" ∨ msg.subtype = some filter.subtype)) ∧
  (filter.flagmask = 0 ∨ filter.flagmask &&& msg.flags ≠ 0)

instance (filter : MessageFilterEntry) (msg : IvpMessage) : Decidable (filter.Matches msg) :=
  inferInstanceAs (Decidable (_ ∧ _))

/-- The receiver should have the message: it is registered, is not the sender, and one of its
filters lets the message through. -/
def Receives {ρ : Type} [DecidableEq ρ] (calls : List (RouterCall ρ)) (sender : Option ρ)
    (msg : IvpMessage) (receiver : ρ) : Prop :=
  sender ≠ some receiver ∧
    ∃ filters, RouterCall.currentFilters calls receiver = some filters ∧
      ∃ filter ∈ filters, filter.Matches msg

/-! ## The map holds what the history says -/

namespace RouterCall

variable {ρ : Type} [DecidableEq ρ]

/-- One call changes the entry of its receiver and no other. -/
theorem lookup_apply (router : MessageRouterBasic ρ) (call : RouterCall ρ) (receiver : ρ) :
    (apply router call).lookup receiver =
      if call.about = receiver then call.leaves else router.lookup receiver := by
  cases call with
  | registerReceiver r filters =>
      by_cases h : r = receiver
      · subst h
        simp [apply, about, leaves, MessageRouterBasic.registerReceiver]
      · simp [apply, about, h, MessageRouterBasic.registerReceiver,
          AList.lookup_insert_ne (Ne.symm h)]
  | unregisterReceiver r =>
      by_cases h : r = receiver
      · subst h
        simp [apply, about, leaves, MessageRouterBasic.unregisterReceiver]
      · simp [apply, about, h, MessageRouterBasic.unregisterReceiver,
          AList.lookup_erase_ne (Ne.symm h)]

/-- After any history, the map holds the filters of the last call about each receiver. -/
theorem lookup_history (calls : List (RouterCall ρ)) (receiver : ρ) :
    (history calls).lookup receiver = currentFilters calls receiver := by
  -- from the last call backwards, the order in which `currentFilters` searches
  induction calls using List.reverseRecOn with
  | nil => rfl
  | append_singleton calls call ih =>
      have hsnoc : history (calls ++ [call]) = apply (history calls) call := by
        simp [history]
      rw [hsnoc, lookup_apply, ih]
      by_cases h : call.about = receiver
      · simp [currentFilters, h]
      · simp [currentFilters, h]

end RouterCall

/-- A processed subscribe message replaces the receiver's filters by the message's. -/
theorem PluginConnection.currentFilters_processSubscribeMessage {ρ : Type} [DecidableEq ρ]
    (calls : List (RouterCall ρ)) (receiver : ρ) (entries : List SubscribeEntry) :
    RouterCall.currentFilters (calls ++ processSubscribeMessage true receiver entries) receiver =
      some (filterEntries entries) := by
  simp [RouterCall.currentFilters, processSubscribeMessage, subscribeForMessages,
    RouterCall.about, RouterCall.leaves]

/-- A connection that ends leaves nothing behind, whether or not it had registered. -/
theorem PluginConnection.currentFilters_disconnect {ρ : Type} [DecidableEq ρ]
    (calls : List (RouterCall ρ)) (registered : Bool) (receiver : ρ) :
    RouterCall.currentFilters (calls ++ disconnect registered receiver) receiver = none := by
  simp [RouterCall.currentFilters, disconnect, RouterCall.about, RouterCall.leaves]

/-! ## The loops compute the specification -/

namespace MessageRouterBasic

theorem flagsPass_iff (filter : MessageFilterEntry) (msg : IvpMessage) :
    flagsPass filter msg = true ↔
      filter.flagmask = 0 ∨ filter.flagmask &&& msg.flags ≠ 0 := by
  have hpos : filter.flagmask &&& msg.flags > 0 ↔ filter.flagmask &&& msg.flags ≠ 0 := by
    simp only [gt_iff_lt, UInt32.lt_iff_toNat_lt, ne_eq, ← UInt32.toNat_inj, UInt32.toNat_zero]
    omega
  simp [flagsPass, hpos]

/-- The inner loop finds a matching filter wherever it stands in the list, past any number of
filters that match only in part. -/
theorem delivers_iff_exists (msg : IvpMessage) (filters : List MessageFilterEntry) :
    delivers msg filters = true ↔ ∃ filter ∈ filters, filter.Matches msg := by
  induction filters with
  | nil => simp [delivers]
  | cons filter filters ih =>
      rw [List.exists_mem_cons_iff, ← ih, MessageFilterEntry.Matches, ← flagsPass_iff]
      simp only [delivers]
      split_ifs <;> simp_all

variable {ρ : Type} [DecidableEq ρ]

theorem mem_deliveries (sender : Option ρ) (msg : IvpMessage) (receiver : ρ)
    (entries : List (Sigma fun _ : ρ => List MessageFilterEntry)) :
    receiver ∈ deliveries sender msg entries ↔
      sender ≠ some receiver ∧
        ∃ filters, ⟨receiver, filters⟩ ∈ entries ∧ delivers msg filters = true := by
  induction entries with
  | nil => simp [deliveries]
  | cons entry rest ih =>
      obtain ⟨r, filters⟩ := entry
      simp only [deliveries]
      split_ifs with hs hd
      · rw [ih]
        aesop
      · rw [List.mem_cons, ih]
        aesop
      · rw [ih]
        aesop

/-- The outer loop calls receivers in the order of the map, so distinct keys are called at most
once. -/
theorem deliveries_sublist (sender : Option ρ) (msg : IvpMessage)
    (entries : List (Sigma fun _ : ρ => List MessageFilterEntry)) :
    (deliveries sender msg entries).Sublist entries.keys := by
  induction entries with
  | nil => simp [deliveries]
  | cons entry rest ih =>
      obtain ⟨r, filters⟩ := entry
      simp only [deliveries, List.keys_cons]
      split_ifs
      · exact ih.cons _
      · exact ih.cons_cons _
      · exact ih.cons _

theorem nodup_broadcastMessage (router : MessageRouterBasic ρ) (sender : Option ρ)
    (msg : IvpMessage) : (broadcastMessage router sender msg).Nodup :=
  (deliveries_sublist sender msg router.entries).nodup router.keys_nodup

theorem mem_broadcastMessage (calls : List (RouterCall ρ)) (sender : Option ρ) (msg : IvpMessage)
    (receiver : ρ) :
    receiver ∈ broadcastMessage (RouterCall.history calls) sender msg ↔
      Receives calls sender msg receiver := by
  rw [broadcastMessage, mem_deliveries, Receives]
  refine and_congr_right fun _ => exists_congr fun filters => ?_
  rw [delivers_iff_exists, ← RouterCall.lookup_history, ← AList.mem_lookup_iff, Option.mem_def]

open Classical in
/-- **Routing is exact**: after any history of calls, a broadcast calls `receiveMessage` exactly
once on each receiver that should have the message, however many of its filters match, and never on
any other receiver. -/
theorem count_broadcastMessage (calls : List (RouterCall ρ)) (sender : Option ρ)
    (msg : IvpMessage) (receiver : ρ) :
    (broadcastMessage (RouterCall.history calls) sender msg).count receiver =
      if Receives calls sender msg receiver then 1 else 0 := by
  split_ifs with h
  · exact List.count_eq_one_of_mem (nodup_broadcastMessage _ _ _)
      ((mem_broadcastMessage calls sender msg receiver).mpr h)
  · exact List.count_eq_zero.mpr fun hmem =>
      h ((mem_broadcastMessage calls sender msg receiver).mp hmem)

-- Receiver 1 has two matching filters, 2 is the sender, 3 has since unsubscribed, and the filters
-- of 4 match only in part.
example :
    broadcastMessage
      (RouterCall.history (ρ := Nat)
        [.registerReceiver 1 [{ type := "J2735", subtype := "*" }, { type := "*" }],
         .registerReceiver 2 [{ type := "*" }],
         .registerReceiver 3 [{ type := "*" }],
         .registerReceiver 3 [],
         .registerReceiver 4
           [{ type := "J2735", subtype := "BSM" }, { type := "*", flagmask := 2 }]])
      (some 2) { type := some "J2735", subtype := some "SRM", flags := 1 } = [1] := by
  decide

end MessageRouterBasic

end V2XHub.Tmx
