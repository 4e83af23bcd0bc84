import V2XHub.Lib.Run

/-!
# The SNMP client

`snmp_client` has one session, which its constructor opens, and one buffer for OIDs with a length
field. `snmp_parse_oid` takes the capacity of the buffer from this field and leaves the length of
the OID there, so that the field has to be set back before the next OID. The two functions that send
a request do so at their end only, and not on every way out.
-/

namespace V2XHub.Tmx

open V2XHub.Lib

/-! ## Requests and responses -/

/-- `MAX_OID_LEN` of `net-snmp`. -/
def maxOidLen : Nat := 128

/-- An OID that can be parsed, by its number of sub-identifiers. -/
structure Oid where
  length : Nat
  length_le : length ≤ maxOidLen

inductive RequestType where
  | get
  | set
  | other
  deriving DecidableEq

/-- `snmp_request`. -/
structure SnmpRequest where
  oid : Oid
  /-- `snmp_add_var` takes the value for its type -/
  added : Bool := true

inductive ResponseType where
  | integer
  | string
  deriving DecidableEq

/-- `snmp_response_obj`. -/
structure SnmpResponseObj where
  valInt : Int := 0
  valString : List UInt8 := []
  type : ResponseType := .integer
  deriving DecidableEq

/-- The value of a variable in a response. -/
inductive Variable where
  | integer (value : Int)
  | octets (bytes : List UInt8)
  | other
  deriving DecidableEq

structure Response where
  errstat : Nat := 0
  varBinds : List Variable := []

inductive Status where
  | success
  | error
  | timeout
  deriving DecidableEq

/-- What `snmp_synch_response` gives. -/
structure Answer where
  status : Status
  response : Option Response

/-- The response that counts as success. -/
def Answer.accepted (answer : Answer) : Option Response :=
  if answer.status = .success then answer.response.filter (·.errstat = 0) else none

namespace SnmpResponseObj

/-- A variable is taken into the object: octets after those that are there. -/
def take (val : SnmpResponseObj) : Variable → SnmpResponseObj
  | .integer value => { val with type := .integer, valInt := value }
  | .octets bytes => { val with type := .string, valString := val.valString ++ bytes }
  | .other => val

/-- `process_snmp_get_response`. -/
def processSnmpGetResponse (val : SnmpResponseObj) (response : Response) : SnmpResponseObj :=
  response.varBinds.foldl take val

/-- The object has just the value of a variable. -/
def Holds (val : SnmpResponseObj) : Variable → Prop
  | .integer value => val.type = .integer ∧ val.valInt = value
  | .octets bytes => val.type = .string ∧ val.valString = bytes
  | .other => True

end SnmpResponseObj

/-! ## The client -/

/-- `snmp_client`, and what it has done. -/
structure SnmpClient where
  oidLen : Nat := maxOidLen
  sessionOpen : Bool := true
  destroyed : Bool := false
  /-- the capacities that OIDs were parsed with -/
  capacities : List Nat := []
  /-- whether the session was open, at each use -/
  uses : List Bool := []
  /-- the responses to successful GETs, and the objects that they were returned in -/
  gets : List (Response × SnmpResponseObj) := []
  /-- the last call that parsed an OID has seen it through: it was answered, or the OID was of full
  length -/
  settled : Bool := true

namespace SnmpClient

section

-- the length field after an OID that did not fit
variable (unfitLen : Nat → Nat → Nat)

/-- `snmp_parse_oid`, and whether it succeeds. -/
def snmpParseOid (s : SnmpClient) (oid : Oid) : SnmpClient × Bool :=
  let fits := oid.length ≤ s.oidLen
  ({ s with
      oidLen := if fits then oid.length else unfitLen oid.length s.oidLen
      capacities := s.capacities ++ [s.oidLen] }, fits)

/-- The session is handed to `net-snmp`. -/
def useSession (s : SnmpClient) : SnmpClient :=
  { s with uses := s.uses ++ [s.sessionOpen] }

def snmpClose (s : SnmpClient) : SnmpClient :=
  { s.useSession with sessionOpen := false }

/-- The loop of `process_snmp_set_requests`, which counts the failures. -/
def addRequests (s : SnmpClient) : List SnmpRequest → SnmpClient × Nat
  | [] => (s, 0)
  | request :: requests =>
      let (s, parsed) := s.snmpParseOid unfitLen request.oid
      let (s, failures) := s.addRequests requests
      (s, failures + (if parsed then 0 else 1) + (if request.added then 0 else 1))

/-- `process_snmp_set_requests`, with the exception's text. -/
def processSnmpSetRequests (s : SnmpClient) (requests : List SnmpRequest) (answer : Answer) :
    SnmpClient × Except String Bool :=
  let (s, failures) := s.addRequests unfitLen requests
  if failures > 0 then
    (s.snmpClose,
      .error ("Encountered " ++ toString failures ++ " failures while creating PDU"))
  else
    let s := s.useSession
    let s := if answer.response.isSome then { s with oidLen := maxOidLen } else s
    (s, .ok answer.accepted.isSome)

/-- `process_snmp_request` with its result and the object. -/
def processSnmpRequest (s : SnmpClient) (oid : Oid) (type : RequestType) (val : SnmpResponseObj)
    (answer : Answer) : SnmpClient × Bool × SnmpResponseObj :=
  if type = .other then (s, false, val)
  else
    match s.snmpParseOid unfitLen oid with
    | (s, false) => (s.snmpClose, false, val)
    | (s, true) =>
        let s := s.useSession
        match answer.accepted with
        | none => (s, false, val)
        | some response =>
            let val := if type = .get then val.processSnmpGetResponse response else val
            ({ s with oidLen := maxOidLen }, true, val)

/-- `~snmp_client`. The pointer to the session is never set to null. -/
def destroy (s : SnmpClient) : SnmpClient :=
  { s.snmpClose with destroyed := true }

/-! ## Calls -/

inductive Call where
  | setRequests (requests : List SnmpRequest) (answer : Answer)
  | request (oid : Oid) (type : RequestType) (val : SnmpResponseObj) (answer : Answer)
  | destroy

/-- A successful GET goes to the record. -/
def recordGet (s : SnmpClient) (type : RequestType) (answer : Answer)
    (result : Bool × SnmpResponseObj) : SnmpClient :=
  match answer.accepted with
  | some response =>
      if type = .get ∧ result.1 = true then { s with gets := s.gets ++ [(response, result.2)] }
      else s
  | none => s

def step (s : SnmpClient) (call : Call) : Option SnmpClient :=
  if s.destroyed then none
  else
    match call with
    | .setRequests requests answer =>
        let s' := (s.processSnmpSetRequests unfitLen requests answer).1
        some { s' with settled := answer.response.isSome ||
                (requests.getLast?.map fun r => r.oid.length == maxOidLen).getD s.settled }
    | .request oid type val answer =>
        let (s', result) := s.processSnmpRequest unfitLen oid type val answer
        some { s'.recordGet type answer result with settled :=
                if type = .other then s.settled
                else answer.accepted.isSome || oid.length == maxOidLen }
    | .destroy => some s.destroy

end

/-- Every OID has had the whole buffer, the session was open at each use, and every GET has returned
its own value. -/
structure Survives (s : SnmpClient) : Prop where
  capacities : ∀ capacity ∈ s.capacities, capacity = maxOidLen
  session : ∀ sessionOpen ∈ s.uses, sessionOpen = true
  gets : ∀ response val, (response, val) ∈ s.gets → ∀ var,
    response.varBinds = [var] → val.Holds var

variable {unfitLen : Nat → Nat → Nat} {s s' : SnmpClient}

/-! ## Runs -/

/-- The call before it has been seen through; only the last OID of a list is shorter than the
buffer, and all values of the list are taken; and octets are returned in an object without any. -/
def Proper (s : SnmpClient) : Call → Prop
  | .setRequests requests _ =>
      (requests ≠ [] → s.settled = true) ∧
        (∀ request ∈ requests.dropLast, request.oid.length = maxOidLen) ∧
        ∀ request ∈ requests, request.added = true
  | .request _ type val answer =>
      type ≠ .other → s.settled = true ∧
        (type = .get → ∀ response bytes, answer.accepted = some response →
          response.varBinds = [.octets bytes] → val.valString = [])
  | .destroy => True

/-- The invariant. -/
structure Ready (s : SnmpClient) : Prop where
  survives : s.Survives
  opened : s.destroyed = false → s.sessionOpen = true
  oidLen : s.settled = true → s.oidLen = maxOidLen

/-- An OID fits into the whole buffer. -/
theorem snmpParseOid_eq (oid : Oid) (hlen : s.oidLen = maxOidLen) :
    s.snmpParseOid unfitLen oid =
      ({ s with oidLen := oid.length, capacities := s.capacities ++ [maxOidLen] }, true) := by
  have hfits : oid.length ≤ s.oidLen := by
    rw [hlen]
    exact oid.length_le
  rw [snmpParseOid, if_pos hfits, decide_eq_true hfits, hlen]

/-- The list of a proper call is taken as a whole. -/
theorem addRequests_eq {requests : List SnmpRequest}
    (hlen : requests ≠ [] → s.oidLen = maxOidLen)
    (hlens : ∀ request ∈ requests.dropLast, request.oid.length = maxOidLen)
    (hadded : ∀ request ∈ requests, request.added = true) :
    s.addRequests unfitLen requests =
      ({ s with
          oidLen := (requests.getLast?.map fun request => request.oid.length).getD s.oidLen
          capacities := s.capacities ++ List.replicate requests.length maxOidLen }, 0) := by
  induction requests generalizing s with
  | nil => simp [addRequests]
  | cons request rest ih =>
      rw [addRequests, snmpParseOid_eq request.oid (hlen (by simp))]
      dsimp only
      cases rest with
      | nil => simp [addRequests, hadded]
      | cons next rest =>
          -- this is not the last one, so it is of full length
          have hfull : request.oid.length = maxOidLen := hlens request (by simp)
          obtain ⟨last, hlast⟩ : ∃ last, (next :: rest).getLast? = some last :=
            ⟨_, List.getLast?_eq_some_getLast (List.cons_ne_nil _ _)⟩
          rw [ih]
          · rw [List.getLast?_cons_cons, hlast]
            simp [hadded, List.replicate_succ]
          · exact fun _ => hfull
          · intro r hr
            exact hlens r (by simp [List.dropLast_cons_cons, hr])
          · intro r hr
            exact hadded r (List.mem_cons_of_mem _ hr)

/-- The answer to a GET is returned in the object. -/
theorem holds_processSnmpGetResponse {val : SnmpResponseObj} {response : Response} {var : Variable}
    (hvar : response.varBinds = [var])
    (hval : ∀ bytes, response.varBinds = [.octets bytes] → val.valString = []) :
    (val.processSnmpGetResponse response).Holds var := by
  rw [SnmpResponseObj.processSnmpGetResponse, hvar]
  cases var with
  | integer value => exact ⟨rfl, rfl⟩
  | octets bytes =>
      refine ⟨rfl, ?_⟩
      show val.valString ++ bytes = bytes
      rw [hval bytes hvar, List.nil_append]
  | other => trivial

theorem Survives.parse (h : s.Survives) (n k : Nat) :
    { s with oidLen := n, capacities := s.capacities ++ List.replicate k maxOidLen }.Survives :=
  { h with
    capacities := by
      intro capacity hmem
      rcases List.mem_append.mp hmem with hmem | hmem
      · exact h.capacities capacity hmem
      · exact (List.mem_replicate.mp hmem).2 }

theorem Survives.useSession (h : s.Survives) (hopen : s.sessionOpen = true) :
    s.useSession.Survives :=
  { h with
    session := by
      intro sessionOpen hmem
      rcases List.mem_append.mp hmem with hmem | hmem
      · exact h.session sessionOpen hmem
      · rw [List.mem_singleton.mp hmem]
        exact hopen }

theorem Survives.returnGet (h : s.Survives) {response : Response} {val : SnmpResponseObj}
    (hval : ∀ var, response.varBinds = [var] → val.Holds var) :
    { s with gets := s.gets ++ [(response, val)] }.Survives :=
  { h with
    gets := by
      intro response' val' hmem
      rcases List.mem_append.mp hmem with hmem | hmem
      · exact h.gets response' val' hmem
      · cases List.mem_singleton.mp hmem
        exact hval }

theorem Survives.with_state (h : s.Survives) (hcap : s'.capacities = s.capacities)
    (huses : s'.uses = s.uses) (hgets : s'.gets = s.gets) : s'.Survives where
  capacities := by
    rw [hcap]
    exact h.capacities
  session := by
    rw [huses]
    exact h.session
  gets := by
    rw [hgets]
    exact h.gets

theorem recordGet_of_other {type : RequestType} (htype : type = .other) (answer : Answer)
    (result : Bool × SnmpResponseObj) : s.recordGet type answer result = s := by
  rw [recordGet]
  split
  · rw [if_neg]
    intro hand
    rw [htype] at hand
    cases hand.1
  · rfl

/-- A step is ready again if it survives, keeps the session and sets the length field back when it
says so. -/
theorem ready_of_survives (hs : s.Survives) (hopen : s.sessionOpen = true)
    (hlen : s.settled = true → s.oidLen = maxOidLen) : s.Ready :=
  ⟨hs, fun _ => hopen, hlen⟩

theorem Ready.setRequests (h : s.Ready) (hopen : s.sessionOpen = true)
    {requests : List SnmpRequest} {answer : Answer}
    (hproper : s.Proper (.setRequests requests answer))
    (hst : s.step unfitLen (.setRequests requests answer) = some s') : s'.Ready := by
  obtain ⟨hsettled, hlens, hadded⟩ := hproper
  have hlen : requests ≠ [] → s.oidLen = maxOidLen := fun hne => h.oidLen (hsettled hne)
  have hparsed := h.survives.parse
    ((requests.getLast?.map fun request => request.oid.length).getD s.oidLen) requests.length
  have hused := hparsed.useSession hopen
  rw [step, processSnmpSetRequests, addRequests_eq hlen hlens hadded] at hst
  dsimp only at hst
  rw [if_neg (Nat.lt_irrefl 0)] at hst
  split at hst
  · cases hst
  · by_cases hresponse : answer.response.isSome = true
    · rw [if_pos hresponse] at hst
      cases hst
      exact ready_of_survives (hused.with_state rfl rfl rfl) hopen fun _ => rfl
    · rw [if_neg hresponse] at hst
      cases hst
      refine ready_of_survives (hused.with_state rfl rfl rfl) hopen ?_
      intro hlast
      dsimp only at hlast
      rw [eq_false_of_ne_true hresponse, Bool.false_or] at hlast
      show (requests.getLast?.map fun request => request.oid.length).getD s.oidLen = maxOidLen
      cases hl : requests.getLast? with
      | none =>
          rw [hl] at hlast
          exact h.oidLen hlast
      | some last =>
          rw [hl] at hlast
          exact beq_iff_eq.mp hlast

theorem Ready.request (h : s.Ready) (hopen : s.sessionOpen = true) {oid : Oid} {type : RequestType}
    {val : SnmpResponseObj} {answer : Answer} (hproper : s.Proper (.request oid type val answer))
    (hst : s.step unfitLen (.request oid type val answer) = some s') : s'.Ready := by
  rw [step] at hst
  split at hst
  · cases hst
  · -- an unknown type of request is refused before the session is used
    by_cases htype : type = .other
    · rw [processSnmpRequest, if_pos htype] at hst
      dsimp only at hst
      rw [recordGet_of_other htype, if_pos htype] at hst
      cases hst
      exact h
    · obtain ⟨hsettled, hval⟩ := hproper htype
      have hparsed := h.survives.parse oid.length 1
      have hused := hparsed.useSession hopen
      rw [processSnmpRequest, if_neg htype, snmpParseOid_eq oid (h.oidLen hsettled)] at hst
      dsimp only at hst
      rw [if_neg htype] at hst
      -- only an accepted answer to a get request writes to the value
      cases haccepted : answer.accepted with
      | none =>
          rw [haccepted] at hst
          dsimp only at hst
          rw [recordGet, haccepted] at hst
          cases hst
          refine ready_of_survives (hused.with_state rfl rfl rfl) hopen ?_
          intro hlen
          exact beq_iff_eq.mp hlen
      | some response =>
          rw [haccepted] at hst
          dsimp only at hst
          rw [recordGet, haccepted] at hst
          by_cases hget : type = .get
          · rw [if_pos hget] at hst
            dsimp only at hst
            rw [if_pos ⟨hget, rfl⟩] at hst
            cases hst
            refine ready_of_survives ?_ hopen fun _ => rfl
            have hholds : ∀ var, response.varBinds = [var] →
                (val.processSnmpGetResponse response).Holds var := by
              intro var hvar
              apply holds_processSnmpGetResponse hvar
              intro bytes hbytes
              exact hval hget response bytes haccepted hbytes
            exact (hused.returnGet hholds).with_state rfl rfl rfl
          · rw [if_neg hget] at hst
            dsimp only at hst
            rw [if_neg fun hand => hget hand.1] at hst
            cases hst
            exact ready_of_survives (hused.with_state rfl rfl rfl) hopen fun _ => rfl

theorem Ready.step {call : Call} (h : s.Ready) (hproper : s.Proper call)
    (hst : s.step unfitLen call = some s') : s'.Ready := by
  have hopen : s.sessionOpen = true := by
    apply h.opened
    unfold SnmpClient.step at hst
    split at hst
    · cases hst
    · rename_i hnot
      exact eq_false_of_ne_true hnot
  cases call with
  | setRequests requests answer => exact h.setRequests hopen hproper hst
  | request oid type val answer => exact h.request hopen hproper hst
  | destroy =>
      rw [SnmpClient.step] at hst
      split at hst
      · cases hst
      · cases hst
        refine ⟨(h.survives.useSession hopen).with_state rfl rfl rfl, ?_, h.oidLen⟩
        intro hnot
        cases hnot

theorem ready_init : ({} : SnmpClient).Ready where
  survives :=
    { capacities := by
        intro _ hmem
        cases hmem
      session := by
        intro _ hmem
        cases hmem
      gets := by
        intro _ _ hmem
        cases hmem }
  opened := fun _ => rfl
  oidLen := fun _ => rfl

/-- **The client survives.** In every run of proper calls, every OID is parsed with the whole
buffer, the session is not used once it was closed, and a GET returns its own value. -/
theorem survives_of_run {calls : List Call} {s : SnmpClient}
    (h : Run (Guarded Proper (Steps (step unfitLen))) {} calls s) : s.Survives := by
  have hready : s.Ready := by
    apply Run.invariant _ h ready_init
    intro s call s' hs ⟨hproper, hst⟩
    exact hs.step hproper hst
  exact hready.survives

/-- An OID of five sub-identifiers, and one of seven. -/
def shortOid : Oid := ⟨5, by decide⟩

def longOid : Oid := ⟨7, by decide⟩

def octetsAnswer : Answer := ⟨.success, some { varBinds := [.octets [1, 2]] }⟩

theorem survives_of_run_get :
    ∃ s, Run (Guarded Proper (Steps (step fun _ capacity => capacity))) {}
        [.setRequests [⟨shortOid, true⟩] ⟨.success, some {}⟩, .request longOid .get {} octetsAnswer,
          .destroy] s ∧
      s.Survives ∧ s.gets.length = 1 := by
  have hrun : Run (Guarded Proper (Steps (step fun _ capacity => capacity))) {}
      [.setRequests [⟨shortOid, true⟩] ⟨.success, some {}⟩, .request longOid .get {} octetsAnswer,
        .destroy]
      { oidLen := 128, sessionOpen := false, destroyed := true, capacities := [128, 128],
        uses := [true, true, true],
        gets := [({ varBinds := [.octets [1, 2]] }, ⟨0, [1, 2], .string⟩)] } := by
    refine .cons ⟨⟨fun _ => rfl, ?_, ?_⟩, rfl⟩ (.cons ⟨fun _ => ⟨rfl, ?_⟩, rfl⟩
      (.cons ⟨trivial, rfl⟩ .nil))
    · intro request hmem
      cases hmem
    · exact List.forall_mem_singleton.mpr rfl
    · intro _ _ _ _ _
      rfl
  exact ⟨_, hrun, survives_of_run hrun, rfl⟩

/-- After a request that times out, a longer OID does not fit, and the session is closed; the next
request uses it all the same. -/
theorem timeout_not_survives :
    ¬ ∀ (unfitLen : Nat → Nat → Nat) (calls : List Call) (s : SnmpClient),
      Run (Steps (step unfitLen)) {} calls s → s.Survives := by
  intro hall
  have hsurvives := hall (fun _ capacity => capacity)
    [.request shortOid .get {} ⟨.timeout, none⟩, .request longOid .get {} octetsAnswer,
      .request shortOid .get {} octetsAnswer] _ (.cons rfl (.cons rfl (.cons rfl .nil)))
  exact absurd (hsurvives.session false (by decide)) (by decide)

end SnmpClient

end V2XHub.Tmx
