import V2XHub.Lib.Run
import V2XHub.Tmx.PluginConnection

/-!
# The subscription of a plugin on both sides

A plugin has the filter of its last `ivp_subscribe`. Each call sends the filter, and when the plugin
becomes registered the receive thread sends it once more, for a core that has refused it or was not
connected. Both happen under the lock of the plugin, but the receive thread reads `plugin->filter`
before.

Each locked section and each access outside of one is a step.

**Main result** `agrees_of_run`: the core holds the last filter if the receive thread finds
`plugin->filter` as it has read it.
-/

namespace V2XHub.Tmx

open V2XHub.Lib

/-- A filter in the memory of the plugin. -/
structure FilterCell where
  address : Nat
  filter : CJson

/-- Where the receive thread is. -/
inductive ReceiveThread where
  /-- without a connection -/
  | connecting
  /-- about to send the registration -/
  | opened
  /-- in the loop over `recv` -/
  | receiving
  /-- has handled the items of a configuration message -/
  | configured
  /-- has seen that the state is connected -/
  | tested
  /-- has set the state to registered -/
  | marked
  /-- has read `plugin->filter` -/
  | read (address : Option Nat)
  deriving DecidableEq

/-- What the plugin sends. -/
inductive PluginRequest where
  | register
  | subscribe (filter : Option CJson)

/-- The connection in the core. -/
structure SubscribedConnection where
  registered : Bool := false
  filters : List MessageFilterEntry := []

/-- What becomes of a registration. -/
inductive RegistrationOutcome where
  /-- the manifest is not valid -/
  | ignored
  | refused
  /-- registered, but the status could not be set -/
  | statusFails
  | accepted (items : List (String × String))

structure SubscriptionWorld where
  state : IvpPluginState := .disconnected
  filter : Option FilterCell := none
  receiver : ReceiveThread := .connecting
  core : Option SubscribedConnection := none
  /-- messages under way, oldest first -/
  toCore : List PluginRequest := []
  toPlugin : List CoreReply := []
  /-- the filter of the application's last completed `ivp_subscribe` -/
  last : Option CJson := none

namespace SubscriptionWorld

/-! ## The plugin -/

/-- The states in which messages are sent and received. -/
def isOpen (s : SubscriptionWorld) : Bool := s.state = .connected ∨ s.state = .registered

/-- `ivp_broadcastMessage`. -/
def ivp_broadcastMessage (s : SubscriptionWorld) (msg : PluginRequest) (sent : Bool) :
    SubscriptionWorld :=
  if s.isOpen then
    if sent then { s with toCore := s.toCore ++ [msg] } else { s with state := .disconnected }
  else s

/-- `ivp_subscribe`, where `address` is that of the copy. -/
def ivp_subscribe (s : SubscriptionWorld) (filter : Option FilterCell) (address : Nat)
    (sent : Bool) : SubscriptionWorld :=
  let s :=
    if s.filter.map FilterCell.address ≠ filter.map FilterCell.address then
      { s with filter := filter.map fun cell => ⟨address, cell.filter⟩ }
    else s
  s.ivp_broadcastMessage (.subscribe (s.filter.map FilterCell.filter)) sent

/-- `ivp_onMessageReceived`, up to the test of the state. The errors of the core have a level but
the number `IvpError_none`, for which `ivp_onError` returns at once. -/
def ivp_onMessageReceived (s : SubscriptionWorld) : CoreReply → SubscriptionWorld
  | .error _ => s
  | .config _ => { s with receiver := .configured }

/-! ## The core -/

def processRegistrationMessage (core : SubscribedConnection) :
    RegistrationOutcome → SubscribedConnection × List CoreReply
  | .ignored => (core, [])
  | .refused => (core, [.error .fatal])
  | .statusFails => ({ core with registered := true }, [.error .fatal])
  | .accepted items => ({ core with registered := true }, [.config items])

def processSubscribeMessage (core : SubscribedConnection) (filter : Option CJson) :
    SubscribedConnection × List CoreReply :=
  if core.registered then
    ({ core with
      filters := PluginConnection.filterEntries (ivpSubscribe_getFilterEntries filter) }, [])
  else (core, [.error .error])

/-! ## Steps -/

inductive Event where
  /-- an application thread -/
  | subscribe (filter : Option FilterCell) (address : Nat) (sent : Bool)
  /-- another message of an application thread cannot be sent -/
  | broadcastFails
  | connect
  | sendRegistration (sent : Bool)
  | receive
  | testState
  | setRegistered
  | readFilter
  /-- the receive thread; `freed` is what it finds where a filter was -/
  | resubscribe (freed : CJson) (address : Nat) (sent : Bool)
  | recvFails
  | close
  | coreProcess (outcome : RegistrationOutcome)
  /-- the configuration monitor -/
  | coreMonitor (items : List (String × String))
  | coreEnds

def step (s : SubscriptionWorld) : Event → Option SubscriptionWorld
  | .subscribe filter address sent =>
      -- the filter of an application is its own
      if filter.isSome ∧ filter.map FilterCell.address = s.filter.map FilterCell.address then none
      else
        some { s.ivp_subscribe filter address sent with last := filter.map FilterCell.filter }
  | .broadcastFails => if s.isOpen then some { s with state := .disconnected } else none
  | .connect =>
      if s.receiver = .connecting ∧ s.state ≠ .error then
        some { s with
          state := .connected
          receiver := .opened
          core := some {}
          toCore := []
          toPlugin := [] }
      else none
  | .sendRegistration sent =>
      if s.receiver = .opened then
        some ({ s with receiver := .receiving }.ivp_broadcastMessage .register sent)
      else none
  | .receive =>
      match s.receiver, s.toPlugin with
      | .receiving, msg :: rest => some ({ s with toPlugin := rest }.ivp_onMessageReceived msg)
      | _, _ => none
  | .testState =>
      if s.receiver = .configured then
        some { s with receiver := if s.state = .connected then .tested else .receiving }
      else none
  | .setRegistered =>
      if s.receiver = .tested then some { s with state := .registered, receiver := .marked }
      else none
  | .readFilter =>
      if s.receiver = .marked then
        some { s with receiver := .read (s.filter.map FilterCell.address) }
      else none
  | .resubscribe freed address sent =>
      match s.receiver with
      | .read pointer =>
          some ({ s with receiver := .receiving }.ivp_subscribe
            (pointer.map fun pointer => ⟨pointer, freed⟩) address sent)
      | _ => none
  | .recvFails =>
      if s.receiver = .receiving ∧ s.isOpen then some { s with state := .disconnected } else none
  | .close =>
      if s.receiver = .receiving ∧ !s.isOpen then
        some { s with receiver := .connecting, core := none, toCore := [], toPlugin := [] }
      else none
  | .coreProcess outcome =>
      match s.core, s.toCore with
      | some core, msg :: rest =>
          let (core, replies) :=
            match msg with
            | .register => processRegistrationMessage core outcome
            | .subscribe filter => processSubscribeMessage core filter
          some { s with core := some core, toCore := rest, toPlugin := s.toPlugin ++ replies }
      | _, _ => none
  | .coreMonitor items =>
      match s.core with
      | some core =>
          if core.registered then some { s with toPlugin := s.toPlugin ++ [.config items] }
          else none
      | none => none
  | .coreEnds => some { s with core := none, toCore := [] }

/-- The claim on a state. A message is processed by the plugin when the receive thread is back in
its loop. -/
def Agrees (s : SubscriptionWorld) : Prop :=
  s.state = .registered → s.receiver = .receiving → s.toCore = [] → s.toPlugin = [] →
    ∀ core, s.core = some core →
      core.filters = PluginConnection.filterEntries (ivpSubscribe_getFilterEntries s.last)

/-! ## The invariant -/

/-- The receive thread is handling a configuration message. -/
def configuring (s : SubscriptionWorld) : Prop :=
  s.receiver ≠ .connecting ∧ s.receiver ≠ .opened ∧ s.receiver ≠ .receiving

/-- The receive thread is going to send the filter once more. -/
def resubscribing (s : SubscriptionWorld) : Prop :=
  s.receiver = .marked ∨ ∃ pointer, s.receiver = .read pointer

/-- What a registered connection holds after messages. -/
def heldAfter (filters : List MessageFilterEntry) (msgs : List PluginRequest) :
    List MessageFilterEntry :=
  msgs.foldl
    (fun filters msg =>
      match msg with
      | .register => filters
      | .subscribe filter =>
          PluginConnection.filterEntries (ivpSubscribe_getFilterEntries filter))
    filters

theorem heldAfter_append_subscribe (filters : List MessageFilterEntry) (msgs : List PluginRequest)
    (filter : Option CJson) :
    heldAfter filters (msgs ++ [.subscribe filter]) =
      PluginConnection.filterEntries (ivpSubscribe_getFilterEntries filter) := by
  rw [heldAfter, List.foldl_append]
  rfl

/-- The part of the invariant that holds also between a change of the filter and its sending. -/
structure Base (s : SubscriptionWorld) : Prop where
  last : s.last = s.filter.map FilterCell.filter
  /-- only a registered connection sends configurations -/
  known : (s.configuring ∨ ∃ items, .config items ∈ s.toPlugin) →
    ∀ core, s.core = some core → core.registered = true
  unregistered : s.receiver = .connecting ∨ s.receiver = .opened ∨ s.receiver = .tested →
    s.state ≠ .registered

structure Inv (s : SubscriptionWorld) : Prop extends Base s where
  held : s.state = .registered → ¬ s.resubscribing → ∀ core, s.core = some core →
    core.registered = true ∧
      heldAfter core.filters s.toCore =
        PluginConnection.filterEntries (ivpSubscribe_getFilterEntries s.last)

variable {s t : SubscriptionWorld}

theorem Inv.agrees (h : s.Inv) : s.Agrees := by
  intro hstate hreceiver htoCore _ core hcore
  have hnot : ¬ s.resubscribing := by
    rintro (hmarked | ⟨pointer, hread⟩)
    · rw [hreceiver] at hmarked
      cases hmarked
    · rw [hreceiver] at hread
      cases hread
  have hheld := (h.held hstate hnot core hcore).2
  rw [htoCore] at hheld
  exact hheld

theorem inv_initial : ({} : SubscriptionWorld).Inv where
  last := rfl
  known := by
    rintro _ _ ⟨⟩
  unregistered _ := nofun
  held := nofun

theorem resubscribing.configuring (h : s.resubscribing) : s.configuring := by
  unfold SubscriptionWorld.configuring
  rcases h with hmarked | ⟨pointer, hread⟩
  · rw [hmarked]
    exact ⟨nofun, nofun, nofun⟩
  · rw [hread]
    exact ⟨nofun, nofun, nofun⟩

theorem Inv.core_registered (h : s.Inv) (hstate : s.state = .registered) :
    ∀ core, s.core = some core → core.registered = true := by
  intro core hcore
  by_cases hresubscribing : s.resubscribing
  · exact h.known (.inl hresubscribing.configuring) core hcore
  · exact (h.held hstate hresubscribing core hcore).1

/-! ### Sending -/

theorem ivp_broadcastMessage_cases (s : SubscriptionWorld) (msg : PluginRequest) (sent : Bool) :
    s.ivp_broadcastMessage msg sent = { s with toCore := s.toCore ++ [msg] } ∨
      s.ivp_broadcastMessage msg sent = { s with state := .disconnected } ∨
      (s.isOpen = false ∧ s.ivp_broadcastMessage msg sent = s) := by
  unfold ivp_broadcastMessage
  cases hopen : s.isOpen with
  | false => exact .inr (.inr ⟨rfl, rfl⟩)
  | true =>
      cases sent with
      | true => exact .inl rfl
      | false => exact .inr (.inl rfl)

theorem state_ne_registered (h : s.isOpen = false) : s.state ≠ .registered := by
  intro hstate
  unfold isOpen at h
  rw [hstate] at h
  cases h

/-- Without a connection there is nothing to keep. -/
theorem Base.disconnected (h : s.Base) :
    ({ s with state := .disconnected } : SubscriptionWorld).Inv :=
  { h with
    unregistered := fun _ => nofun
    held := nofun }

/-- Back in the loop over `recv`. -/
theorem Base.receiving (h : s.Base) :
    ({ s with receiver := .receiving } : SubscriptionWorld).Base where
  last := h.last
  known := by
    rintro (hconfiguring | hconfig)
    · exact absurd rfl hconfiguring.2.2
    · exact h.known (.inr hconfig)
  unregistered := by simp

/-- The filter is sent as it is. -/
theorem Base.subscribe (h : s.Base) {sent : Bool}
    (hregistered : s.state = .registered → ∀ core, s.core = some core → core.registered = true) :
    (s.ivp_broadcastMessage (.subscribe (s.filter.map FilterCell.filter)) sent).Inv := by
  obtain hsent | hfails | ⟨hclosed, hsame⟩ :=
    s.ivp_broadcastMessage_cases (.subscribe (s.filter.map FilterCell.filter)) sent
  · rw [hsent]
    exact
      { h with
        held := by
          intro hstate _ core hcore
          refine ⟨hregistered hstate core hcore, ?_⟩
          rw [heldAfter_append_subscribe]
          exact congrArg (fun f => PluginConnection.filterEntries (ivpSubscribe_getFilterEntries f))
            h.last.symm }
  · rw [hfails]
    exact h.disconnected
  · rw [hsame]
    exact { h with held := fun hstate => absurd hstate (state_ne_registered hclosed) }

/-! ### What each step keeps -/

/-- `plugin->filter` is still what the receive thread has read. -/
def Proper (s : SubscriptionWorld) : Event → Prop
  | .resubscribe _ _ _ => s.receiver = .read (s.filter.map FilterCell.address)
  | _ => True

instance (s : SubscriptionWorld) : DecidablePred s.Proper
  | .resubscribe _ _ _ => inferInstanceAs (Decidable (s.receiver = _))
  | .subscribe _ _ _ | .broadcastFails | .connect | .sendRegistration _ | .receive | .testState
  | .setRegistered | .readFilter | .recvFails | .close | .coreProcess _ | .coreMonitor _
  | .coreEnds => inferInstanceAs (Decidable True)

theorem ivp_broadcastMessage_last (msg : PluginRequest) (sent : Bool) (last : Option CJson) :
    { s.ivp_broadcastMessage msg sent with last := last } =
      ({ s with last := last } : SubscriptionWorld).ivp_broadcastMessage msg sent := by
  unfold ivp_broadcastMessage isOpen
  dsimp only
  split
  · split
    · rfl
    · rfl
  · rfl

/-- The application replaces the filter. -/
theorem Inv.subscribe (h : s.Inv) {filter : Option FilterCell} {address : Nat} {sent : Bool}
    (howned : ¬ (filter.isSome ∧
      filter.map FilterCell.address = s.filter.map FilterCell.address)) :
    { s.ivp_subscribe filter address sent with last := filter.map FilterCell.filter }.Inv := by
  have hfilter : (if s.filter.map FilterCell.address ≠ filter.map FilterCell.address then
        { s with filter := filter.map fun cell => ⟨address, cell.filter⟩ }
      else s) = { s with filter := filter.map fun cell => ⟨address, cell.filter⟩ } := by
    split
    · rfl
    · rename_i heq
      rw [not_not] at heq
      -- both are null
      cases filter with
      | some cell => exact absurd ⟨rfl, heq.symm⟩ howned
      | none =>
          have hnone : s.filter = none := Option.map_eq_none_iff.mp heq
          rw [Option.map_none, ← hnone]
  rw [ivp_subscribe, hfilter]
  dsimp only
  rw [ivp_broadcastMessage_last]
  refine Base.subscribe
    (s := { s with
      filter := filter.map fun cell => ⟨address, cell.filter⟩
      last := filter.map FilterCell.filter })
    { h.toBase with last := ?_ } h.core_registered
  cases filter with
  | none => rfl
  | some cell => rfl

/-- The receive thread sends the filter once more. -/
theorem Inv.resubscribe (h : s.Inv) {freed : CJson} {address : Nat} {sent : Bool}
    (hread : s.receiver = .read (s.filter.map FilterCell.address)) :
    (({ s with receiver := .receiving } : SubscriptionWorld).ivp_subscribe
      ((s.filter.map FilterCell.address).map fun pointer => ⟨pointer, freed⟩) address sent).Inv := by
  have hsame : s.filter.map FilterCell.address =
      ((s.filter.map FilterCell.address).map fun pointer => FilterCell.mk pointer freed).map
        FilterCell.address := by
    rw [Option.map_map]
    exact (congrFun Option.map_id _).symm
  have hregistered : ∀ core, s.core = some core → core.registered = true :=
    h.known (.inl (resubscribing.configuring (.inr ⟨_, hread⟩)))
  rw [ivp_subscribe, if_neg (not_not.mpr hsame)]
  exact h.receiving.subscribe fun _ => hregistered

theorem Inv.sendRegistration (h : s.Inv) {sent : Bool} (hopened : s.receiver = .opened) :
    (({ s with receiver := .receiving } : SubscriptionWorld).ivp_broadcastMessage .register
      sent).Inv := by
  have hstate := h.unregistered (.inr (.inl hopened))
  have hbase := h.receiving
  obtain hsent | hfails | ⟨-, hsame⟩ :=
    ({ s with receiver := .receiving } : SubscriptionWorld).ivp_broadcastMessage_cases .register
      sent
  · rw [hsent]
    exact { hbase with held := fun h => absurd h hstate }
  · rw [hfails]
    exact hbase.disconnected
  · rw [hsame]
    exact { hbase with held := fun h => absurd h hstate }

theorem Inv.connect (h : s.Inv) :
    ({ s with
      state := .connected
      receiver := .opened
      core := some {}
      toCore := []
      toPlugin := [] } : SubscriptionWorld).Inv where
  last := h.last
  known := by
    rintro (hconfiguring | ⟨items, hitems⟩)
    · exact absurd rfl hconfiguring.2.1
    · cases hitems
  unregistered _ := nofun
  held := nofun

theorem Inv.receive (h : s.Inv) {msg : CoreReply} {rest : List CoreReply}
    (hreceiver : s.receiver = .receiving) (htoPlugin : s.toPlugin = msg :: rest) :
    (({ s with toPlugin := rest } : SubscriptionWorld).ivp_onMessageReceived msg).Inv := by
  have hnot : ¬ s.resubscribing := by
    intro hresubscribing
    exact hresubscribing.configuring.2.2 hreceiver
  have hrest : ∀ items, .config items ∈ rest → .config items ∈ s.toPlugin := by
    intro items hitems
    rw [htoPlugin]
    exact List.mem_cons_of_mem _ hitems
  have hinv : ({ s with toPlugin := rest } : SubscriptionWorld).Inv :=
    { h with
      known := fun hor => h.known (hor.imp id fun ⟨items, hitems⟩ => ⟨items, hrest items hitems⟩) }
  cases msg with
  | config items =>
      refine ⟨⟨h.last, ?_, ?_⟩, ?_⟩
      · exact fun _ => h.known (.inr ⟨items, by rw [htoPlugin]; exact List.mem_cons_self⟩)
      · simp [ivp_onMessageReceived]
      · exact fun hstate _ => h.held hstate hnot
  | error level => exact hinv

theorem Inv.testState (h : s.Inv) (hreceiver : s.receiver = .configured) :
    ({ s with receiver := if s.state = .connected then .tested else .receiving } :
      SubscriptionWorld).Inv := by
  have hconfiguring : s.configuring := by
    unfold SubscriptionWorld.configuring
    rw [hreceiver]
    exact ⟨nofun, nofun, nofun⟩
  have hnot : ¬ s.resubscribing := by
    rintro (hmarked | ⟨pointer, hread⟩)
    · rw [hreceiver] at hmarked
      cases hmarked
    · rw [hreceiver] at hread
      cases hread
  split
  · rename_i hconnected
    have hstate : s.state ≠ .registered := by
      rw [hconnected]
      nofun
    exact
      { last := h.last
        known := fun _ => h.known (.inl hconfiguring)
        unregistered := fun _ => hstate
        held := fun hregistered => absurd hregistered hstate }
  · exact { h.receiving with held := fun hstate _ => h.held hstate hnot }

theorem Inv.setRegistered (h : s.Inv) (hreceiver : s.receiver = .tested) :
    ({ s with state := .registered, receiver := .marked } : SubscriptionWorld).Inv where
  last := h.last
  known _ := by
    apply h.known
    unfold SubscriptionWorld.configuring
    rw [hreceiver]
    exact .inl ⟨nofun, nofun, nofun⟩
  unregistered := by simp
  held _ hnot := absurd (.inl rfl) hnot

theorem Inv.readFilter (h : s.Inv) (hreceiver : s.receiver = .marked) {pointer : Option Nat} :
    ({ s with receiver := .read pointer } : SubscriptionWorld).Inv where
  last := h.last
  known _ := h.known (.inl (resubscribing.configuring (.inl hreceiver)))
  unregistered := by simp
  held _ hnot := absurd (.inr ⟨pointer, rfl⟩) hnot

theorem Inv.close (h : s.Inv) (hclosed : s.isOpen = false) :
    ({ s with receiver := .connecting, core := none, toCore := [], toPlugin := [] } :
      SubscriptionWorld).Inv where
  last := h.last
  known _ := nofun
  unregistered _ := state_ne_registered hclosed
  held _ _ := nofun

/-- The core handles a message. -/
theorem Inv.coreProcess (h : s.Inv) {core core' : SubscribedConnection} {msg : PluginRequest}
    {rest : List PluginRequest} {replies : List CoreReply} (hcore : s.core = some core)
    (htoCore : s.toCore = msg :: rest)
    (hkept : core.registered = true → core'.registered = true)
    (hconfig : ∀ items, .config items ∈ replies → core'.registered = true)
    (hfilters : core.registered = true → heldAfter core'.filters rest =
      heldAfter core.filters (msg :: rest)) :
    ({ s with core := some core', toCore := rest, toPlugin := s.toPlugin ++ replies } :
      SubscriptionWorld).Inv where
  last := h.last
  known := by
    rintro hor _ ⟨⟩
    rcases hor with hconfiguring | ⟨items, hitems⟩
    · exact hkept (h.known (.inl hconfiguring) core hcore)
    · rcases List.mem_append.mp hitems with hitems | hitems
      · exact hkept (h.known (.inr ⟨items, hitems⟩) core hcore)
      · exact hconfig items hitems
  unregistered := h.unregistered
  held := by
    rintro hstate hnot _ ⟨⟩
    obtain ⟨hregistered, hheld⟩ := h.held hstate hnot core hcore
    rw [htoCore] at hheld
    exact ⟨hkept hregistered, (hfilters hregistered).trans hheld⟩

theorem Inv.coreMonitor (h : s.Inv) {core : SubscribedConnection}
    {items : List (String × String)} (hcore : s.core = some core)
    (hregistered : core.registered = true) :
    ({ s with toPlugin := s.toPlugin ++ [.config items] } : SubscriptionWorld).Inv :=
  { h with
    known := by
      intro _ core' hcore'
      rw [hcore] at hcore'
      cases hcore'
      exact hregistered }

theorem Inv.coreEnds (h : s.Inv) :
    ({ s with core := none, toCore := [] } : SubscriptionWorld).Inv :=
  { h with
    known := fun _ => nofun
    held := fun _ _ => nofun }

theorem Inv.step {e : Event} (h : s.Inv) (hproper : s.Proper e) (hstep : s.step e = some t) :
    t.Inv := by
  cases e with
  | subscribe filter address sent =>
      rw [SubscriptionWorld.step] at hstep
      split at hstep
      · cases hstep
      · rename_i howned
        cases hstep
        exact h.subscribe howned
  | broadcastFails =>
      rw [SubscriptionWorld.step] at hstep
      split at hstep
      · cases hstep
        exact h.disconnected
      · cases hstep
  | connect =>
      rw [SubscriptionWorld.step] at hstep
      split at hstep
      · cases hstep
        exact h.connect
      · cases hstep
  | sendRegistration sent =>
      rw [SubscriptionWorld.step] at hstep
      split at hstep
      · rename_i hopened
        cases hstep
        exact h.sendRegistration hopened
      · cases hstep
  | receive =>
      rw [SubscriptionWorld.step] at hstep
      split at hstep
      · rename_i hreceiver htoPlugin
        cases hstep
        exact h.receive hreceiver htoPlugin
      · cases hstep
  | testState =>
      rw [SubscriptionWorld.step] at hstep
      split at hstep
      · rename_i hreceiver
        cases hstep
        exact h.testState hreceiver
      · cases hstep
  | setRegistered =>
      rw [SubscriptionWorld.step] at hstep
      split at hstep
      · rename_i hreceiver
        cases hstep
        exact h.setRegistered hreceiver
      · cases hstep
  | readFilter =>
      rw [SubscriptionWorld.step] at hstep
      split at hstep
      · rename_i hreceiver
        cases hstep
        exact h.readFilter hreceiver
      · cases hstep
  | resubscribe freed address sent =>
      -- proper: the filter that was read is still the one that is kept
      have hread : s.receiver = .read (s.filter.map FilterCell.address) := hproper
      rw [SubscriptionWorld.step, hread] at hstep
      cases hstep
      exact h.resubscribe hread
  | recvFails =>
      rw [SubscriptionWorld.step] at hstep
      split at hstep
      · cases hstep
        exact h.disconnected
      · cases hstep
  | close =>
      rw [SubscriptionWorld.step] at hstep
      split at hstep
      · rename_i hclosed
        cases hstep
        exact h.close (by simpa using hclosed.2)
      · cases hstep
  | coreProcess outcome =>
      rw [SubscriptionWorld.step] at hstep
      split at hstep
      · rename_i core msg rest hcore htoCore
        cases hstep
        -- the configuration is sent with the reply to an accepted registration
        cases msg with
        | register =>
            cases outcome with
            | ignored => exact h.coreProcess hcore htoCore id nofun fun _ => rfl
            | refused =>
                refine h.coreProcess hcore htoCore id ?_ fun _ => rfl
                simp [processRegistrationMessage]
            | statusFails =>
                exact h.coreProcess hcore htoCore (fun _ => rfl) (fun _ _ => rfl) fun _ => rfl
            | accepted items =>
                exact h.coreProcess hcore htoCore (fun _ => rfl) (fun _ _ => rfl) fun _ => rfl
        | subscribe filter =>
            dsimp only
            unfold processSubscribeMessage
            cases hregistered : core.registered with
            | true => exact h.coreProcess hcore htoCore (fun _ => rfl) nofun fun _ => rfl
            | false =>
                -- without a registration the core does not keep the filter
                refine h.coreProcess hcore htoCore id (by simp) fun htrue => ?_
                rw [hregistered] at htrue
                cases htrue
      · cases hstep
  | coreMonitor items =>
      rw [SubscriptionWorld.step] at hstep
      split at hstep
      · rename_i core hcore
        split at hstep
        · rename_i hregistered
          cases hstep
          exact h.coreMonitor hcore hregistered
        · cases hstep
      · cases hstep
  | coreEnds =>
      cases hstep
      exact h.coreEnds

/-! ### Whole runs -/

theorem agrees_of_run {es : List Event} (h : Run (Guarded Proper (Steps step)) {} es s) :
    s.Agrees := by
  refine Inv.agrees (h.invariant ?_ inv_initial)
  rintro s e t hinv ⟨hproper, hstep⟩
  exact hinv.step hproper hstep

/-- A filter with one entry, and what the core reads in it. -/
def mapFilter : CJson := .array [.object [("type", .string "J2735"), ("subtype", .string "MAP-P")]]

def mapEntry : MessageFilterEntry where
  type := "J2735"
  subtype := "MAP-P"

/-- The filter is refused before the registration and sent again, on each of two connections. -/
theorem agrees_of_run_reconnected :
    ∃ es s core, Run (Guarded Proper (Steps step)) {} es s ∧ s.state = .registered ∧
      s.receiver = .receiving ∧ s.toCore = [] ∧ s.toPlugin = [] ∧ s.core = some core ∧
      core.filters = [mapEntry] ∧ s.Agrees := by
  let es : List Event :=
    [.connect, .subscribe (some ⟨1, mapFilter⟩) 2 true, .sendRegistration true,
      .coreProcess .ignored, .coreProcess (.accepted []), .receive, .receive, .testState,
      .setRegistered, .readFilter, .resubscribe .null 3 true, .coreProcess .ignored,
      .recvFails, .close, .connect, .sendRegistration true, .coreProcess (.accepted []),
      .receive, .testState, .setRegistered, .readFilter, .resubscribe .null 3 true,
      .coreProcess .ignored]
  obtain ⟨s, core, hs, hfacts⟩ :
      ∃ s core, es.foldlM (guardedStep (fun s e => decide (Proper s e)) step) {} = some s ∧
        s.state = .registered ∧ s.receiver = .receiving ∧ s.toCore = [] ∧ s.toPlugin = [] ∧
        s.core = some core ∧ core.filters = [mapEntry] :=
    ⟨_, _, by rfl, by rfl, by rfl, by rfl, by rfl, by rfl, by decide +kernel⟩
  have hrun : Run (Guarded Proper (Steps step)) {} es s :=
    (Run.guarded_of_foldlM hs).mono fun s e t hstep => ⟨of_decide_eq_true hstep.1, hstep.2⟩
  obtain ⟨hstate, hreceiver, htoCore, htoPlugin, hcore, hfilters⟩ := hfacts
  exact ⟨es, s, core, hrun, hstate, hreceiver, htoCore, htoPlugin, hcore, hfilters,
    agrees_of_run hrun⟩

/-- The application subscribes between the receive thread's reading of `plugin->filter` and its
lock: the filter is deleted, and the core holds none. -/
theorem subscription_lost : ¬ ∀ es s, Run (Steps step) {} es s → s.Agrees := by
  intro hclaim
  let es : List Event :=
    [.connect, .sendRegistration true, .coreProcess (.accepted []), .receive, .testState,
      .setRegistered, .readFilter, .subscribe (some ⟨1, mapFilter⟩) 2 true, .coreProcess .ignored,
      .resubscribe .null 3 true, .coreProcess .ignored]
  obtain ⟨s, core, hs, hstate, hreceiver, htoCore, htoPlugin, hcore, hfilters, hlast⟩ :
      ∃ s core, es.foldlM step {} = some s ∧ s.state = .registered ∧ s.receiver = .receiving ∧
        s.toCore = [] ∧ s.toPlugin = [] ∧ s.core = some core ∧ core.filters = [] ∧
        s.last = some mapFilter :=
    ⟨_, _, by rfl, by rfl, by rfl, by rfl, by rfl, by rfl, by rfl, by rfl⟩
  have hagrees := hclaim es s (Run.of_foldlM hs) hstate hreceiver htoCore htoPlugin core hcore
  rw [hfilters, hlast] at hagrees
  cases hagrees

end SubscriptionWorld

end V2XHub.Tmx
