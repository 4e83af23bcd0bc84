import V2XHub.Priority.ExchangeLaws

/-!
# One service exchange, from call to return

`DoOneServiceExchange` sends the table to a controller if the cache says the controller has another
one, polls until the controller is no longer busy, applies its answer, prioritizes, and sends the
table again if that changed it. This module has the whole call as one function of what the outside
world decides, beside the transition system of its locked sections.

**Main results**

* `atomic_session`: a call that ends before the answer leaves the table and the reservice timers
  alone, and the cache is the last payload a controller accepted, over any sequence of calls.
* `doOneServiceExchange_run`: each call is a run of the exchange system.
-/

namespace V2XHub.Priority

open RequestStatus Lib

/-! ## The call -/

/-- What `DoOneServiceExchange` works on, besides the lock. -/
structure ServiceExchangeContext where
  processor : PriorityRequestProcessor := {}
  prsBusy : Bool := false
  lastSentServiceRequest : List UInt8 := []

/-- What the outside world decides during one call: the outcome of each SET, for every turn of the
poll whether `running` is still set and what the GET returns, and the clock. A missing client fails
every operation. -/
structure ExchangeOutcomes where
  firstSetOk : Bool
  running : Nat → Bool
  reply : Nat → Option (List UInt8)
  now : UInt32
  secondSetOk : Bool

/-- The two places of the call that SET `prsServiceRequest`. -/
inductive SetSite where
  | beforePolling
  | afterPrioritization
  deriving DecidableEq, Repr

/-- One SET that went out. -/
structure SetAttempt where
  site : SetSite
  payload : List UInt8
  accepted : Bool
  deriving DecidableEq, Repr

/-- The last payload that was successfully SET. -/
def lastAccepted (sets : List SetAttempt) : Option (List UInt8) :=
  ((sets.filter fun attempt => attempt.accepted).map (·.payload)).getLast?

/-- A SET of `payload`, left out when the cache says the controller has it. -/
structure SendResult where
  sent : Bool
  context : ServiceExchangeContext
  sets : List SetAttempt

def sendIfChanged (ctx : ServiceExchangeContext) (site : SetSite) (setOk : Bool)
    (payload : List UInt8) : SendResult :=
  if payload ≠ ctx.lastSentServiceRequest then
    { sent := setOk
      context := if setOk then { ctx with lastSentServiceRequest := payload } else ctx
      sets := [{ site := site, payload := payload, accepted := setOk }] }
  else { sent := true, context := ctx, sets := [] }

inductive PollResult where
  | coError
  | coStillBusy
  | answered (coRows : List CoServiceResponseRow)
  deriving DecidableEq, Repr

/-- The poll from turn `i` on. The loop also ends when `running` is cleared, with the controller
taken for busy. -/
def pollCo (outcomes : ExchangeOutcomes) : (maxRetries i : Nat) → PollResult
  | 0, _ => .coStillBusy
  | maxRetries + 1, i =>
      if outcomes.running i then
        match (outcomes.reply i).bind decodeCoServiceResponse with
        | none => .coError
        | some (coRows, coBusy) =>
            if coBusy then pollCo outcomes maxRetries (i + 1) else .answered coRows
      else .coStillBusy

/-- Steps i) and j): the answer is applied and the table prioritized, with `prsBusy` raised in
between and lowered again. -/
def ServiceExchangeContext.applyAnswer (ctx : ServiceExchangeContext)
    (coRows : List CoServiceResponseRow) (now : UInt32) : ServiceExchangeContext :=
  { ctx with
    processor := (ctx.processor.applyCoStatusUpdates coRows now).runPrioritizationProcessing now
    prsBusy := false }

/-- What the table looks like to the controller. -/
def ServiceExchangeContext.encode (ctx : ServiceExchangeContext) : List UInt8 :=
  ctx.processor.table.encodeServiceRequest ctx.prsBusy

structure ExchangeReturn where
  result : ExchangeResult
  context : ServiceExchangeContext
  sets : List SetAttempt

def doOneServiceExchange (ctx : ServiceExchangeContext) (outcomes : ExchangeOutcomes) :
    ExchangeReturn :=
  let first := sendIfChanged ctx .beforePolling outcomes.firstSetOk ctx.encode
  if first.sent then
    match pollCo outcomes maxPollRetries 0 with
    | .coError => { result := .coError, context := first.context, sets := first.sets }
    | .coStillBusy => { result := .coStillBusy, context := first.context, sets := first.sets }
    | .answered coRows =>
        let updated := first.context.applyAnswer coRows outcomes.now
        let second :=
          sendIfChanged updated .afterPrioritization outcomes.secondSetOk updated.encode
        { result := if second.sent then .ok else .snmpSetFailed
          context := second.context
          sets := first.sets ++ second.sets }
  else { result := .snmpSetFailed, context := first.context, sets := first.sets }

/-! ## What a SET can do -/

theorem lastAccepted_append (earlier later : List SetAttempt) :
    lastAccepted (earlier ++ later) = (lastAccepted later).or (lastAccepted earlier) := by
  unfold lastAccepted
  rw [List.filter_append, List.map_append, List.getLast?_append]

section

variable (ctx : ServiceExchangeContext) (site : SetSite) (setOk : Bool) (payload : List UInt8)

theorem sendIfChanged_of_ne {ctx : ServiceExchangeContext} {payload : List UInt8}
    (h : payload ≠ ctx.lastSentServiceRequest) :
    sendIfChanged ctx site setOk payload =
      { sent := setOk
        context := if setOk then { ctx with lastSentServiceRequest := payload } else ctx
        sets := [{ site := site, payload := payload, accepted := setOk }] } :=
  if_pos h

theorem sendIfChanged_of_eq {ctx : ServiceExchangeContext} {payload : List UInt8}
    (h : payload = ctx.lastSentServiceRequest) :
    sendIfChanged ctx site setOk payload = { sent := true, context := ctx, sets := [] } :=
  if_neg (not_not.mpr h)

/-- A SET changes nothing but the cache. -/
@[simp] theorem processor_sendIfChanged :
    (sendIfChanged ctx site setOk payload).context.processor = ctx.processor := by
  unfold sendIfChanged
  split
  · cases setOk <;> rfl
  · rfl

@[simp] theorem prsBusy_sendIfChanged :
    (sendIfChanged ctx site setOk payload).context.prsBusy = ctx.prsBusy := by
  unfold sendIfChanged
  split
  · cases setOk <;> rfl
  · rfl

/-- The cache follows the accepted payloads. -/
theorem cache_sendIfChanged :
    (sendIfChanged ctx site setOk payload).context.lastSentServiceRequest =
      (lastAccepted (sendIfChanged ctx site setOk payload).sets).getD
        ctx.lastSentServiceRequest := by
  unfold sendIfChanged
  split
  · cases setOk <;> rfl
  · rfl

/-- Every SET of the call site carries its name, and was accepted unless the site gives up. -/
theorem sets_sendIfChanged {attempt : SetAttempt}
    (h : attempt ∈ (sendIfChanged ctx site setOk payload).sets) :
    attempt.site = site ∧
      attempt.accepted = (sendIfChanged ctx site setOk payload).sent := by
  by_cases heq : payload = ctx.lastSentServiceRequest
  · rw [sendIfChanged_of_eq _ _ heq] at h
    cases h
  · rw [sendIfChanged_of_ne _ _ heq] at h ⊢
    obtain rfl := List.mem_singleton.mp h
    exact ⟨rfl, rfl⟩

end

/-! ## Atomicity -/

/-- The call returned because its first SET failed. -/
def FailedAtFirstSet (r : ExchangeReturn) : Prop :=
  r.result = .snmpSetFailed ∧
    ∃ attempt ∈ r.sets, attempt.site = .beforePolling ∧ attempt.accepted = false

/-- A call that ends before the controller's answer leaves the table and the reservice timers as
they were. -/
def Intact (ctx : ServiceExchangeContext) (r : ExchangeReturn) : Prop :=
  r.result = .coError ∨ r.result = .coStillBusy ∨ FailedAtFirstSet r →
    r.context.processor.table = ctx.processor.table ∧
      r.context.processor.reserviceLastCompletedTime = ctx.processor.reserviceLastCompletedTime

theorem intact_of_processor_eq {ctx : ServiceExchangeContext} {r : ExchangeReturn}
    (h : r.context.processor = ctx.processor) : Intact ctx r := by
  intro _
  rw [h]
  exact ⟨rfl, rfl⟩

theorem intact_doOneServiceExchange (ctx : ServiceExchangeContext) (outcomes : ExchangeOutcomes) :
    Intact ctx (doOneServiceExchange ctx outcomes) := by
  unfold doOneServiceExchange
  simp only []
  split_ifs with hfirst
  · split
    · exact intact_of_processor_eq (processor_sendIfChanged ..)
    · exact intact_of_processor_eq (processor_sendIfChanged ..)
    next coRows hpoll =>
      -- the answer was applied: the call can only end at its second SET
      rintro (hresult | hresult | ⟨-, attempt, hattempt, hsite, hrefused⟩)
      · split_ifs at hresult
      · split_ifs at hresult
      · rcases List.mem_append.mp hattempt with hmem | hmem
        · rw [(sets_sendIfChanged _ _ _ _ hmem).2, hfirst] at hrefused
          cases hrefused
        · rw [(sets_sendIfChanged _ _ _ _ hmem).1] at hsite
          cases hsite
  · exact intact_of_processor_eq (processor_sendIfChanged ..)

/-- On every return the cache is the last payload accepted during the call, or what it was. -/
theorem cache_doOneServiceExchange (ctx : ServiceExchangeContext) (outcomes : ExchangeOutcomes) :
    (doOneServiceExchange ctx outcomes).context.lastSentServiceRequest =
      (lastAccepted (doOneServiceExchange ctx outcomes).sets).getD
        ctx.lastSentServiceRequest := by
  unfold doOneServiceExchange
  simp only []
  split_ifs with hfirst
  · split
    · exact cache_sendIfChanged ..
    · exact cache_sendIfChanged ..
    next coRows hpoll =>
      simp only [lastAccepted_append, cache_sendIfChanged, Option.getD_or,
        ServiceExchangeContext.applyAnswer]
  · exact cache_sendIfChanged ..

/-! ## Sessions

The loop makes one call after the other. Between two calls the SRM handler, the configuration and
the SSM broadcast change the processor; the cache belongs to the calls. -/

structure Session where
  context : ServiceExchangeContext
  sets : List SetAttempt := []

inductive SessionEvent where
  | exchange (outcomes : ExchangeOutcomes)
  | changed (processor : PriorityRequestProcessor)

namespace Session

def step (s : Session) : SessionEvent → Session
  | .exchange outcomes =>
      let r := doOneServiceExchange s.context outcomes
      { context := r.context, sets := s.sets ++ r.sets }
  | .changed processor => { s with context := { s.context with processor := processor } }

/-- The loop starts with an empty cache. -/
def run (processor : PriorityRequestProcessor) (events : List SessionEvent) : Session :=
  events.foldl step { context := { processor := processor } }

/-- The cache is the last payload accepted so far; empty when there is none. -/
def CacheTracks (s : Session) : Prop :=
  s.context.lastSentServiceRequest = (lastAccepted s.sets).getD []

theorem CacheTracks.step {s : Session} (h : s.CacheTracks) (e : SessionEvent) :
    (s.step e).CacheTracks := by
  cases e with
  | exchange outcomes =>
      show (doOneServiceExchange s.context outcomes).context.lastSentServiceRequest = _
      rw [cache_doOneServiceExchange, h]
      simp only [Session.step, lastAccepted_append, Option.getD_or]
  | changed processor => exact h

theorem cacheTracks_foldl {s : Session} (h : s.CacheTracks) (events : List SessionEvent) :
    (events.foldl Session.step s).CacheTracks := by
  induction events generalizing s with
  | nil => exact h
  | cons e events ih => exact ih (h.step e)

theorem cacheTracks_run (processor : PriorityRequestProcessor) (events : List SessionEvent) :
    (run processor events).CacheTracks := by
  apply cacheTracks_foldl
  rfl

end Session

/-- **Exchange atomicity**: after any sequence of calls, a further call that ends before the
controller's answer leaves the table and the reservice timers alone, and on every return the cache
is the last payload that was successfully SET. -/
theorem atomic_session (processor : PriorityRequestProcessor) (events : List SessionEvent)
    (outcomes : ExchangeOutcomes) :
    Intact (Session.run processor events).context
        (doOneServiceExchange (Session.run processor events).context outcomes) ∧
      (doOneServiceExchange (Session.run processor events).context
          outcomes).context.lastSentServiceRequest =
        (lastAccepted ((Session.run processor events).sets ++
          (doOneServiceExchange (Session.run processor events).context outcomes).sets)).getD [] :=
  ⟨intact_doOneServiceExchange _ _,
    (Session.cacheTracks_run processor events).step (.exchange outcomes)⟩

/-! ## A call is a run of the exchange system

The locked sections of the call, with nobody in between, are labels of the exchange system taken in
the order of the code. -/

/-- The part of the state the call works on. -/
def contextOf (s : ExchangeState) : ServiceExchangeContext where
  processor := s.prs.processor
  prsBusy := s.prsBusy
  lastSentServiceRequest := s.lastSentServiceRequest

/-- Some run leads from `s` to `phase` with `ctx` as the call's part of the state. -/
def Reaches (s : ExchangeState) (phase : Phase) (ctx : ServiceExchangeContext) : Prop :=
  ∃ es t, Run Exchange s es t ∧ t.phase = phase ∧ contextOf t = ctx

theorem Reaches.step {s t : ExchangeState} {e : ExchangeLabel} {phase : Phase}
    {ctx : ServiceExchangeContext} (hstep : exchangeStep s e = some t) (h : Reaches t phase ctx) :
    Reaches s phase ctx := by
  obtain ⟨es, u, hrun, hphase, hctx⟩ := h
  exact ⟨e :: es, u, .cons hstep hrun, hphase, hctx⟩

theorem Reaches.refl (s : ExchangeState) : Reaches s s.phase (contextOf s) :=
  ⟨[], s, .nil, rfl, rfl⟩

/-- Where a poll leaves the loop. -/
def PollResult.phase (target : Target) : PollResult → Phase
  | .coError => .returned target .coError
  | .coStillBusy => .returned target .coStillBusy
  | .answered coRows => .replied target coRows

theorem reaches_pollCo (outcomes : ExchangeOutcomes) {target : Target} {s : ExchangeState}
    {retries : Nat} (i : Nat) (hphase : s.phase = .polling target retries) :
    Reaches s ((pollCo outcomes retries i).phase target) (contextOf s) := by
  have hstop : exchangeStep s .stopPolling =
      some { s with phase := .returned target .coStillBusy } := by
    simp only [exchangeStep, hphase]
  induction retries generalizing s i with
  | zero => exact .step hstop (.refl _)
  | succ retries ih =>
      unfold pollCo
      split_ifs with hrunning
      · split
        next hreply =>
          have hget : exchangeStep s (.get (outcomes.reply i)) =
              some { s with phase := .returned target .coError } := by
            simp only [exchangeStep, hphase, hreply]
          exact .step hget (.refl _)
        next coRows coBusy hreply =>
          cases coBusy with
          | true =>
              have hget : exchangeStep s (.get (outcomes.reply i)) =
                  some { s with phase := .polling target retries } := by
                simp only [exchangeStep, hphase, hreply, if_true]
              refine .step hget (ih (s := { s with phase := .polling target retries }) _ rfl ?_)
              rfl
          | false =>
              have hget : exchangeStep s (.get (outcomes.reply i)) =
                  some { s with phase := .replied target coRows } := by
                simp only [exchangeStep, hphase, hreply, Bool.false_eq_true, if_false]
              exact .step hget (.refl _)
      · exact .step hstop (.refl _)

/-- A run to `phase`, and from there on. -/
theorem Reaches.trans {s : ExchangeState} {phase phase' : Phase}
    {ctx ctx' : ServiceExchangeContext} (h : Reaches s phase ctx)
    (hnext : ∀ t, t.phase = phase → contextOf t = ctx → Reaches t phase' ctx') :
    Reaches s phase' ctx' := by
  obtain ⟨es, t, hrun, hphase, hctx⟩ := h
  obtain ⟨es', u, hrun', hphase', hctx'⟩ := hnext t hphase hctx
  exact ⟨es ++ es', u, hrun.append hrun', hphase', hctx'⟩

theorem reaches_firstSet (outcomes : ExchangeOutcomes) {target : Target} {s : ExchangeState}
    (hphase : s.phase = .selected target) :
    let first := sendIfChanged (contextOf s) .beforePolling outcomes.firstSetOk
      (contextOf s).encode
    Reaches s
      (if first.sent then .polling target maxPollRetries else .returned target .snmpSetFailed)
      first.context := by
  have hencode : exchangeStep s .encode = some { s with
      phase := .encoded target (s.table.encodeServiceRequest s.prsBusy) s.table } := by
    simp only [exchangeStep, hphase]
  refine .step hencode ?_
  by_cases heq : (contextOf s).encode = (contextOf s).lastSentServiceRequest
  · rw [sendIfChanged_of_eq _ _ heq]
    exact .step (e := .firstSet true) (if_neg (not_not.mpr heq)) (.refl _)
  · rw [sendIfChanged_of_ne _ _ heq]
    cases houtcome : outcomes.firstSetOk with
    | true => exact .step (e := .firstSet true) (if_pos heq) (.refl _)
    | false => exact .step (e := .firstSet false) (if_pos heq) (.refl _)

theorem reaches_secondSet (outcomes : ExchangeOutcomes) {target : Target} {s : ExchangeState}
    {coRows : List CoServiceResponseRow} (hphase : s.phase = .replied target coRows) :
    let updated := (contextOf s).applyAnswer coRows outcomes.now
    let second := sendIfChanged updated .afterPrioritization outcomes.secondSetOk updated.encode
    Reaches s (.returned target (if second.sent then .ok else .snmpSetFailed)) second.context := by
  have happly : exchangeStep s (.apply outcomes.now) = some { s with
      prs := applyReply s.prs coRows outcomes.now
      prsBusy := false
      left := (applyReply s.prs coRows outcomes.now).table
      phase := .updated target
        ((applyReply s.prs coRows outcomes.now).table.encodeServiceRequest false)
        (applyReply s.prs coRows outcomes.now).table } := by
    simp only [exchangeStep, hphase]
  refine .step happly ?_
  by_cases heq : ((contextOf s).applyAnswer coRows outcomes.now).encode =
      ((contextOf s).applyAnswer coRows outcomes.now).lastSentServiceRequest
  · rw [sendIfChanged_of_eq _ _ heq]
    exact .step (e := .secondSet true) (if_neg (not_not.mpr heq)) (.refl _)
  · rw [sendIfChanged_of_ne _ _ heq]
    cases houtcome : outcomes.secondSetOk with
    | true => exact .step (e := .secondSet true) (if_pos heq) (.refl _)
    | false => exact .step (e := .secondSet false) (if_pos heq) (.refl _)

/-- **The call refines the exchange system**: with the target chosen, some run of the system ends
where the call returns, with the call's result and the call's effect on the state. -/
theorem doOneServiceExchange_run (outcomes : ExchangeOutcomes) {target : Target}
    {s : ExchangeState} (hphase : s.phase = .selected target) :
    Reaches s (.returned target (doOneServiceExchange (contextOf s) outcomes).result)
      (doOneServiceExchange (contextOf s) outcomes).context := by
  have hfirst := reaches_firstSet outcomes hphase
  unfold doOneServiceExchange
  simp only [] at hfirst ⊢
  generalize sendIfChanged (contextOf s) .beforePolling outcomes.firstSetOk
    (contextOf s).encode = first at hfirst ⊢
  split_ifs at hfirst ⊢
  · refine hfirst.trans fun t ht hctx => ?_
    have hpoll := reaches_pollCo outcomes 0 ht
    rw [hctx] at hpoll
    split
    next hresult =>
      rw [hresult] at hpoll
      exact hpoll
    next hresult =>
      rw [hresult] at hpoll
      exact hpoll
    next coRows hresult =>
      rw [hresult] at hpoll
      refine hpoll.trans fun u hu hctx' => ?_
      have hsecond := reaches_secondSet outcomes hu
      rw [hctx'] at hsecond
      simp only [] at hsecond ⊢
      exact hsecond
  · exact hfirst

/-- Two requests for one controller, the later of the higher priority. -/
def twoRequests : List ExchangeLabel :=
  [.setControllers (demoControllers [1]), .setLaneStrategy 1 1 5,
    .applyPrsPackage (demoPkg 1) (demoInput 3),
    .applyPrsPackage { demoPkg 1 with requestID := 2 } (demoInput 1), .selectTarget (some 1)]

/-- The controller is busy at first, and then serves the request of the first row. -/
def servingOutcomes : ExchangeOutcomes where
  firstSetOk := true
  running := fun _ => true
  reply := fun i =>
    if i = 0 then some (quietReply.set serviceRequestBusyOffset 1)
    else some (quietReply.set 9 activeProcessing.toByte)
  now := 1001
  secondSetOk := true

/-- The call runs to its end: the table is sent, the second answer is applied, and the table, in
which the request being served is overridden now, is sent again. -/
theorem doOneServiceExchange_run_serving :
    ∃ s ctx, Run Exchange {} twoRequests s ∧ Reaches s (.returned (demoTarget 1) .ok) ctx ∧
      (doOneServiceExchange (contextOf s) servingOutcomes).sets.map (·.site) =
        [.beforePolling, .afterPrioritization] ∧
      ctx.lastSentServiceRequest = ctx.encode ∧
      (ctx.processor.table.rows.take 2).map (fun e => (e.statusInPRS, e.statusInCO)) =
        [(activeOverride, activeProcessing), (readyQueued, idleNotValid)] := by
  have hcall : ∃ s, twoRequests.foldlM exchangeStep {} = some s ∧
      s.phase = .selected (demoTarget 1) ∧
      (doOneServiceExchange (contextOf s) servingOutcomes).result = .ok ∧
      (doOneServiceExchange (contextOf s) servingOutcomes).sets.map (·.site) =
        [.beforePolling, .afterPrioritization] ∧
      (doOneServiceExchange (contextOf s) servingOutcomes).context.lastSentServiceRequest =
        (doOneServiceExchange (contextOf s) servingOutcomes).context.encode ∧
      ((doOneServiceExchange (contextOf s) servingOutcomes).context.processor.table.rows.take
          2).map (fun e => (e.statusInPRS, e.statusInCO)) =
        [(activeOverride, activeProcessing), (readyQueued, idleNotValid)] :=
    ⟨_, rfl, by decide +kernel⟩
  obtain ⟨s, hs, hphase, hresult, hsets, hcache, hrows⟩ := hcall
  have hreaches := doOneServiceExchange_run servingOutcomes hphase
  rw [hresult] at hreaches
  exact ⟨s, _, Run.of_foldlM hs, hreaches, hsets, hcache, hrows⟩

end V2XHub.Priority
