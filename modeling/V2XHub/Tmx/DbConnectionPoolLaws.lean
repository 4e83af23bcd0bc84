import V2XHub.Tmx.DbConnectionPool
import V2XHub.Lib.Tables

/-!
# What a client of the pool can rely on

A client's session is its own, and nothing that happens to other sessions matters to it. Every
constructor opens a session that no one else has, so the calls never give one session to two
clients, and `Release` spares what is in use. Two things can go wrong. A call that takes an element
logs in with what the element was made for, whatever the arguments are. And a full vector that grows
destroys its elements, which closes the sessions that clients share with them.
-/

namespace V2XHub.Tmx

open V2XHub.Lib SqlConnection

/-! ## Sessions that are kept -/

/-- The session that a login as `info` opens. -/
def DbConnectionInformation.session (info : DbConnectionInformation) : SqlConnection where
  url := info.url
  username := info.username
  password := info.password
  schema := if info.db = "" then none else some info.db

/-- What is known of a constructor: the old sessions are as they were, and the object, if there is
one, has a new session to itself. -/
structure Constructed (before : List SqlConnection) (info : DbConnectionInformation)
    (out : List SqlConnection × Option DbConnection) : Prop where
  kept : before <+: out.1
  connInfo : ∀ o, out.2 = some o → o.connInfo = info
  pointer : ∀ o, out.2 = some o → o.connection = some before.length
  session : ∀ o, out.2 = some o → out.1[before.length]? = some info.session

namespace DbConnection

variable {sessions : List SqlConnection}

theorem getElem?_destroy {o : DbConnection} {p : Nat} (h : o.connection ≠ some p) :
    (o.destroy sessions)[p]? = sessions[p]? := by
  unfold destroy
  split
  · rfl
  · next q hq =>
      have hne : q ≠ p := by
        rintro rfl
        exact h hq
      split
      · rfl
      · exact List.getElem?_modify_ne _ _ hne

theorem prefix_destroy {before : List SqlConnection} {o : DbConnection} {p : Nat}
    (ho : o.connection = some p) (hp : before.length ≤ p) (h : before <+: sessions) :
    before <+: o.destroy sessions := by
  unfold destroy
  rw [ho]
  dsimp only
  split
  · exact h
  · exact prefix_modify _ h hp

section

variable (env : Environment) (sessions : List SqlConnection)

/-- In a session just opened `SetDatabase` asks for the database, if there is one. -/
theorem setDatabase_opened {o : DbConnection} (hptr : o.connection = some sessions.length)
    (hold : o.oldInfo.db = "") {opened : List SqlConnection}
    (hopened : opened = sessions ++
      [⟨o.connInfo.url, o.connInfo.username, o.connInfo.password, none, false⟩]) :
    (∃ sessions', setDatabase env opened o o.connInfo.db = (sessions', none) ∧
        sessions <+: sessions') ∨
      setDatabase env opened o o.connInfo.db =
        (sessions ++ [o.connInfo.session], some { o with oldInfo.db := o.connInfo.db }) := by
  have hopen : isClosed opened sessions.length = false := by
    simp [isClosed, hopened]
  unfold setDatabase
  rw [hptr, hold]
  dsimp only
  by_cases hdb : o.connInfo.db = ""
  · right
    rw [if_neg (fun h => h.2.1 hdb), hopened, DbConnectionInformation.session, if_pos hdb]
  · rw [if_pos ⟨hopen, hdb, hdb⟩]
    split
    · right
      simp [DbConnectionInformation.session, hdb, hopened, List.modify_eq_take_drop]
    · left
      exact ⟨opened, rfl, hopened ▸ List.prefix_append _ _⟩

/-- An object that was never logged in, with a user, logs in. -/
theorem reconnect_constructed {o : DbConnection} (hold : o.oldInfo = {})
    (huser : o.connInfo.username ≠ "") :
    Constructed sessions o.connInfo (reconnect env sessions o) := by
  unfold reconnect
  dsimp only
  rw [if_neg]
  swap
  · rintro ⟨_, _, hsame, _⟩
    rw [hold] at hsame
    exact huser hsame.symm
  split
  · obtain ⟨sessions', hset, hkept⟩ | hset := 
      @setDatabase_opened env sessions { o with connection := some sessions.length } rfl
        (by rw [hold]) _ rfl
    · dsimp only at hset
      rw [hset]
      exact ⟨hkept, by simp, by simp, by simp⟩
    · dsimp only at hset
      rw [hset]
      refine ⟨List.prefix_append _ _, ?_, ?_, ?_⟩
      · rintro _ ⟨⟩
        rfl
      · rintro _ ⟨⟩
        rfl
      · intro _ _
        exact List.getElem?_concat_length
  · exact ⟨List.prefix_append _ _, by simp, by simp, by simp⟩

theorem init_constructed (connection : Option Nat) (url username password db : String) :
    Constructed sessions
      { url := url
        username := if username = "" then "IVP" else username
        password := if password = "" then "" else password
        db := db }
      (init env sessions connection url username password db) := by
  unfold init
  apply @reconnect_constructed env sessions ⟨_, connection, {}⟩ rfl
  dsimp only
  split
  · decide
  · assumption

theorem copy_constructed {o : DbConnection} (huser : o.connInfo.username ≠ "") :
    Constructed sessions o.connInfo (o.copy env sessions) := by
  have hinit := init_constructed env sessions o.connection o.connInfo.url
    o.connInfo.username o.connInfo.password o.connInfo.db
  rw [if_neg huser] at hinit
  have hpassword : (if o.connInfo.password = "" then "" else o.connInfo.password) =
      o.connInfo.password := by
    split
    · exact Eq.symm ‹_›
    · rfl
  rw [hpassword] at hinit
  exact hinit

end

end DbConnection

/-! ## Calls -/

/-- What the arguments of a call ask for. -/
def Request.info (r : Request) : DbConnectionInformation where
  url := r.url
  username := r.user
  password := if r.password = "" then "" else r.password
  db := r.db

theorem Request.user_ne_empty (r : Request) : r.user ≠ "" := by
  unfold Request.user
  split
  · decide
  · assumption

namespace DbConnectionPool

variable {env : Environment} {s : DbConnectionPool}

/-- What is known of a call that logs in as `info`: clients and their sessions are as they were, and
the object, if there is one, has a new session. -/
structure Answered (s : DbConnectionPool) (info : DbConnectionInformation)
    (out : DbConnectionPool × Option DbConnection) : Prop where
  clients : out.1.clients = s.clients
  kept : s.sessions <+: out.1.sessions
  session : ∀ o, out.2 = some o → ∃ p, s.sessions.length ≤ p ∧ o.connection = some p ∧
    out.1.sessions[p]? = some info.session

theorem take_answered {i : Nat} {o : DbConnection} (huser : o.connInfo.username ≠ "") :
    Answered s o.connInfo (s.take env i o) := by
  have hcopy := DbConnection.copy_constructed env s.sessions huser
  unfold take
  split
  · next sessions hout =>
      rw [hout] at hcopy
      exact ⟨rfl, hcopy.kept, by simp⟩
  · next sessions newConn hout =>
      rw [hout] at hcopy
      have hinfo := hcopy.connInfo newConn rfl
      have hptr := hcopy.pointer newConn rfl
      have hsession := hcopy.session newConn rfl
      dsimp only at hsession
      split
      · refine ⟨rfl, hcopy.kept, ?_⟩
        rintro _ ⟨⟩
        exact ⟨_, Nat.le_refl _, hptr, hsession⟩
      · have hagain := DbConnection.copy_constructed env sessions (hinfo ▸ huser)
        split
        next sessions' result hout' =>
        rw [hout', hinfo] at hagain
        have hlt : s.sessions.length < sessions.length :=
          (List.getElem?_eq_some_iff.mp hsession).1
        refine ⟨rfl, ?_, ?_⟩
        · exact DbConnection.prefix_destroy hptr (Nat.le_refl _) (hcopy.kept.trans hagain.kept)
        · intro o' ho'
          refine ⟨_, Nat.le_of_lt hlt, hagain.pointer o' ho', ?_⟩
          have hne : newConn.connection ≠ some sessions.length := by
            rw [hptr]
            intro h
            exact Nat.ne_of_lt hlt (Option.some.inj h)
          rw [DbConnection.getElem?_destroy hne]
          exact hagain.session o' ho'

/-- The new element of a vector with room, or of an empty one. -/
theorem emplaceBack_answered (env : Environment) (r : Request)
    (hroom : s.pool = [] ∨ s.pool.length < s.capacity) :
    Answered s r.info (s.emplaceBack env r) ∧
      ∀ added, (s.emplaceBack env r).2 = some added → added.connInfo = r.info := by
  have hnew := DbConnection.init_constructed env s.sessions none r.url r.username r.password r.db
  unfold emplaceBack DbConnection.create
  split
  · next sessions hout =>
      rw [hout] at hnew
      exact ⟨⟨rfl, hnew.kept, by simp⟩, by simp⟩
  · next sessions added hout =>
      rw [hout] at hnew
      have hsession : ∃ p, s.sessions.length ≤ p ∧ added.connection = some p ∧
          sessions[p]? = some r.info.session :=
        ⟨_, Nat.le_refl _, hnew.pointer added rfl, hnew.session added rfl⟩
      have hinfo : added.connInfo = r.info := hnew.connInfo added rfl
      by_cases hlt : s.pool.length < s.capacity
      · rw [if_pos hlt]
        refine ⟨⟨rfl, hnew.kept, ?_⟩, ?_⟩
        · rintro _ ⟨⟩
          exact hsession
        · rintro _ ⟨⟩
          exact hinfo
      · rw [if_neg hlt, hroom.resolve_right hlt]
        refine ⟨⟨rfl, hnew.kept, ?_⟩, ?_⟩
        · rintro _ ⟨⟩
          exact hsession
        · rintro _ ⟨⟩
          exact hinfo

theorem add_answered {r : Request} (hroom : s.pool = [] ∨ s.pool.length < s.capacity) :
    Answered s r.info (s.add env r) := by
  unfold add
  split
  · exact ⟨rfl, List.prefix_rfl, by simp⟩
  · obtain ⟨hans, hinfo⟩ := emplaceBack_answered env r hroom
    split
    · next s' hout =>
        rw [hout] at hans
        exact ⟨hans.clients, hans.kept, by simp⟩
    · next s' added hout =>
        rw [hout] at hans hinfo
        have huser : added.connInfo.username ≠ "" := by
          rw [hinfo added rfl]
          exact r.user_ne_empty
        have hcopy := DbConnection.copy_constructed env s'.sessions huser
        split
        next sessions result hout' =>
        rw [hout', hinfo added rfl] at hcopy
        refine ⟨hans.clients, hans.kept.trans hcopy.kept, ?_⟩
        intro o ho
        exact ⟨_, hans.kept.length_le, hcopy.pointer o ho, hcopy.session o ho⟩

/-! ## Clients -/

/-- The client's session is open, and logged in as it was asked for. -/
def Served (sessions : List SqlConnection) (c : Client) : Prop :=
  ∃ p session, c.object.connection = some p ∧ sessions[p]? = some session ∧
    session.closed = false ∧ session.url = c.request.url ∧ session.username = c.request.user ∧
    session.schema = c.request.schema

/-- Every client is served, by a session that no other client holds. -/
structure ClientsSound (s : DbConnectionPool) : Prop where
  served : ∀ c ∈ s.clients, Served s.sessions c
  distinct : (s.clients.map fun c => c.object.connection).Nodup

/-- The element that a call takes was made for the same URL, user and database. If it can take none,
the vector has room for one more, or is empty. -/
def Fits (s : DbConnectionPool) : Event → Prop
  | .connection r =>
      match s.unused with
      | none => s.pool = [] ∨ s.pool.length < s.capacity
      | some i => ∀ o, s.pool[i]? = some o →
          o.connInfo.url = r.url ∧ o.connInfo.username = r.user ∧ o.connInfo.db = r.db
  | _ => True

theorem Served.mono {sessions sessions' : List SqlConnection} {c : Client}
    (h : sessions <+: sessions') (hc : Served sessions c) : Served sessions' c := by
  obtain ⟨p, session, hptr, hsession, hrest⟩ := hc
  exact ⟨p, session, hptr, getElem?_of_isPrefix h hsession, hrest⟩

/-- A call logs in as asked, if the element that it takes fits. -/
theorem connection_answered (env : Environment) {r : Request} (hfits : s.Fits (.connection r)) :
    ∃ info : DbConnectionInformation, info.url = r.url ∧ info.username = r.user ∧
      info.db = r.db ∧ Answered s info (s.connection env r) := by
  unfold Fits at hfits
  unfold connection
  split
  · next hunused =>
      rw [hunused] at hfits
      exact ⟨r.info, rfl, rfl, rfl, add_answered hfits⟩
  · next i hunused =>
      rw [hunused] at hfits
      dsimp only at hfits
      split
      · exact ⟨r.info, rfl, rfl, rfl, rfl, List.prefix_rfl, by simp⟩
      · next o ho =>
          obtain ⟨hurl, huser, hdb⟩ := hfits o ho
          exact ⟨o.connInfo, hurl, huser, hdb, take_answered (huser ▸ r.user_ne_empty)⟩

/-! ## Calls that do not fit -/

/-- The client of a call that takes an element is served exactly if the element fits. -/
theorem served_take_iff {i : Nat} {o o' : DbConnection} {r : Request}
    (huser : o.connInfo.username ≠ "") (hout : (s.take env i o).2 = some o') :
    Served (s.take env i o).1.sessions ⟨o', r⟩ ↔
      o.connInfo.url = r.url ∧ o.connInfo.username = r.user ∧ o.connInfo.db = r.db := by
  obtain ⟨p, _, hptr, hsession⟩ :=
    (take_answered huser : Answered s o.connInfo (s.take env i o)).session o' hout
  constructor
  · rintro ⟨q, session, hq, hgot, _, hurl, hname, hschema⟩
    obtain rfl : p = q := Option.some.inj (hptr.symm.trans hq)
    obtain rfl := Option.some.inj (hsession.symm.trans hgot)
    refine ⟨hurl, hname, ?_⟩
    unfold DbConnectionInformation.session Request.schema at hschema
    grind
  · rintro ⟨hurl, hname, hdb⟩
    refine ⟨p, _, hptr, hsession, rfl, hurl, hname, ?_⟩
    unfold DbConnectionInformation.session Request.schema
    rw [hdb]

theorem isClosed_destroy {sessions : List SqlConnection} {p : Nat} (o : DbConnection)
    (h : o.connection = some p ∨ isClosed sessions p = true) :
    isClosed (o.destroy sessions) p = true := by
  unfold DbConnection.destroy
  cases hptr : o.connection with
  | none =>
      apply h.resolve_left
      simp [hptr]
  | some q =>
      dsimp only
      split
      · next hclosed =>
          rcases h with hp | hp
          · obtain rfl : q = p := Option.some.inj (hptr.symm.trans hp)
            exact hclosed
          · exact hp
      · unfold isClosed close at *
        rw [List.getElem?_modify]
        grind

theorem isClosed_foldl_destroy {o : DbConnection} {p : Nat} (hptr : o.connection = some p)
    (l : List DbConnection) (sessions : List SqlConnection)
    (h : o ∈ l ∨ isClosed sessions p = true) :
    isClosed (l.foldl DbConnection.destroy sessions) p = true := by
  induction l generalizing sessions with
  | nil => exact h.resolve_left (by simp)
  | cons e rest ih =>
      rw [List.foldl_cons]
      apply ih
      rcases h with hmem | hclosed
      · rcases List.mem_cons.mp hmem with rfl | hmem
        · exact .inr (isClosed_destroy o (.inl hptr))
        · exact .inl hmem
      · exact .inr (isClosed_destroy e (.inr hclosed))

/-- The vector that grows by reallocation closes the session of each of its elements. -/
theorem isClosed_of_reallocated {r : Request} {added o : DbConnection} {p : Nat}
    (hfull : s.capacity ≤ s.pool.length) (hout : (s.emplaceBack env r).2 = some added)
    (ho : o ∈ s.pool) (hptr : o.connection = some p) :
    isClosed (s.emplaceBack env r).1.sessions p = true := by
  unfold emplaceBack at hout ⊢
  cases hnew : DbConnection.create env s.sessions r.url r.username r.password r.db with
  | mk sessions result =>
      rw [hnew] at hout
      cases result with
      | none => cases hout
      | some added' =>
          dsimp only at hout ⊢
          rw [if_neg (Nat.not_lt.mpr hfull)] at hout ⊢
          cases hcopies : DbConnection.copyAll env sessions s.pool with
          | mk sessions' copies =>
              rw [hcopies] at hout
              cases copies with
              | none => cases hout
              | some copies => exact isClosed_foldl_destroy hptr s.pool sessions' (.inl ho)

/-! ## Runs -/

/-- An element whose session a client holds is in use. -/
theorem one_lt_useCount {o : DbConnection} {c : Client} {p : Nat} (ho : o ∈ s.pool)
    (hc : c ∈ s.clients) (hop : o.connection = some p) (hcp : c.object.connection = some p) :
    1 < s.useCount o := by
  unfold useCount
  rw [hop]
  dsimp only
  have hpool : 0 < s.pool.countP fun e => e.connection = some p :=
    List.countP_pos_iff.mpr ⟨o, ho, by simpa using hop⟩
  have hclients : 0 < s.clients.countP fun c => c.object.connection = some p :=
    List.countP_pos_iff.mpr ⟨c, hc, by simpa using hcp⟩
  omega

/-- `Release` spares the sessions of clients. -/
theorem getElem?_release {c : Client} {p : Nat} (hc : c ∈ s.clients)
    (hcp : c.object.connection = some p) : s.release.sessions[p]? = s.sessions[p]? := by
  unfold release
  dsimp only
  -- on the elements the loop has passed
  refine List.foldlRecOn s.pool _ (motive := fun sessions => sessions[p]? = s.sessions[p]?) rfl ?_
  intro sessions hsessions o ho
  split
  · exact hsessions
  · next q hq =>
      split
      · next hunused =>
          have hne : q ≠ p := by
            rintro rfl
            exact absurd (one_lt_useCount ho hc hq hcp) (Nat.not_lt.mpr hunused)
          unfold close
          rw [List.getElem?_modify_ne _ _ hne]
          exact hsessions
      · exact hsessions

theorem ClientsSound.connection {r : Request} (h : s.ClientsSound)
    (hfits : s.Fits (.connection r)) {s' : DbConnectionPool}
    (hstep : s.step env (.connection r) = some s') : s'.ClientsSound := by
  obtain ⟨info, hurl, huser, hdb, hans⟩ := connection_answered env hfits
  unfold step at hstep
  dsimp only at hstep
  have hold : ∀ c ∈ s.clients, Served (s.connection env r).1.sessions c := by
    intro c hc
    exact (h.served c hc).mono hans.kept
  split at hstep
  · next t hout =>
      rw [hout] at hans hold
      obtain rfl := Option.some.inj hstep
      have hclients : t.clients = s.clients := hans.clients
      exact ⟨hclients ▸ hold, hclients ▸ h.distinct⟩
  · next t o hout =>
      rw [hout] at hans hold
      cases hstep
      have hclients : t.clients = s.clients := hans.clients
      obtain ⟨p, hle, hptr, hsession⟩ := hans.session o rfl
      constructor
      · intro c hc
        dsimp only at hc ⊢
        rw [hclients] at hc
        rcases List.mem_append.mp hc with hc | hc
        · exact hold c hc
        · rw [List.mem_singleton.mp hc]
          refine ⟨p, info.session, hptr, hsession, rfl, hurl, huser, ?_⟩
          show (if info.db = "" then none else some info.db) = r.schema
          rw [hdb]
          rfl
      · dsimp only
        rw [hclients, List.map_append, List.map_singleton, List.nodup_append]
        refine ⟨h.distinct, by simp, ?_⟩
        -- the sessions of the others were there before
        intro a ha b hb hab
        obtain ⟨c, hc, rfl⟩ := List.mem_map.mp ha
        obtain ⟨q, session, hq, hlt, _⟩ := h.served c hc
        rw [List.mem_singleton.mp hb, hptr, hq] at hab
        have hqlt := (List.getElem?_eq_some_iff.mp hlt).1
        have hqp := Option.some.inj hab
        omega

theorem ClientsSound.destroy {i : Nat} (h : s.ClientsSound) {s' : DbConnectionPool}
    (hstep : s.step env (.destroy i) = some s') : s'.ClientsSound := by
  unfold step at hstep
  dsimp only at hstep
  split at hstep
  · cases hstep
  · next c hc =>
      cases hstep
      constructor
      · intro c' hc'
        obtain ⟨p, session, hptr, hsession, hrest⟩ :=
          h.served c' (List.mem_of_mem_eraseIdx hc')
        have hother := key_ne_of_mem_eraseIdx h.distinct hc hc'
        have hne : c.object.connection ≠ some p := by
          rw [← hptr]
          exact hother
        refine ⟨p, session, hptr, ?_, hrest⟩
        rw [DbConnection.getElem?_destroy hne]
        exact hsession
      · exact h.distinct.sublist ((List.eraseIdx_sublist _ _).map _)

theorem ClientsSound.release (h : s.ClientsSound) : s.release.ClientsSound := by
  constructor
  · intro c hc
    obtain ⟨p, session, hptr, hsession, hrest⟩ := h.served c hc
    refine ⟨p, session, hptr, ?_, hrest⟩
    exact (getElem?_release (s := s) hc hptr).trans hsession
  · exact h.distinct

theorem clientsSound_step {e : Event} {s' : DbConnectionPool} (h : s.ClientsSound)
    (hstep : Guarded Fits (Steps (step env)) s e s') : s'.ClientsSound := by
  obtain ⟨hfits, hstep⟩ := hstep
  cases e with
  | connection r => exact h.connection hfits hstep
  | destroy i => exact h.destroy hstep
  | release =>
      cases hstep
      exact h.release

/-- **Clients of the pool**: as long as every call finds an element that fits, or room for a new
one, every live client has an open session to itself, logged in as it asked. -/
theorem clientsSound_of_run (env : Environment) {es : List Event} {s : DbConnectionPool}
    (h : Run (Guarded Fits (Steps (step env))) {} es s) : s.ClientsSound := by
  apply h.invariant
  · intro s e t hs hstep
    exact clientsSound_step hs hstep
  · exact ⟨by simp, by simp⟩

/-- A server that refuses nothing. -/
def accepting (elides : Bool) : Environment where
  elides := elides
  maxSize := 10
  connects := fun _ _ _ _ => true
  executes := fun _ _ => true

/-- Two calls for the same, a release and the end of the first client. -/
theorem clientsSound_of_run_sameRequest :
    ∃ s, Run (Guarded Fits (Steps (step (accepting true)))) {}
        [.connection ⟨"tcp://a", "", "", "", "IVP"⟩, .connection ⟨"tcp://a", "", "", "", "IVP"⟩,
          .release, .destroy 0] s ∧
      s.clients.length = 1 ∧ s.ClientsSound := by
  have hrun : ∃ s, Run (Guarded Fits (Steps (step (accepting true)))) {}
      [.connection ⟨"tcp://a", "", "", "", "IVP"⟩, .connection ⟨"tcp://a", "", "", "", "IVP"⟩,
        .release, .destroy 0] s ∧ s.clients.length = 1 := by
    refine ⟨_, .cons ⟨.inl rfl, rfl⟩ (.cons ⟨?_, rfl⟩ (.cons ⟨trivial, rfl⟩
      (.cons ⟨trivial, rfl⟩ .nil))), rfl⟩
    rintro _ ⟨⟩
    exact ⟨rfl, rfl, rfl⟩
  obtain ⟨s, h, hlength⟩ := hrun
  exact ⟨s, h, hlength, clientsSound_of_run (accepting true) h⟩

/-- Where the elements are not what the second call asks for, its client is logged in to something
else. Where a third call makes the vector grow, the client of the second is disconnected, if what it
was returned is what the pool has. -/
theorem unfit_not_clientsSound :
    (¬ ∀ es s, Run (Steps (step (accepting false))) {} es s → s.ClientsSound) ∧
      ¬ ∀ es s, Run (Steps (step (accepting true))) {} es s → s.ClientsSound := by
  constructor
  · intro hall
    have hsound := hall
      [.connection ⟨"tcp://a", "", "", "", ""⟩, .connection ⟨"tcp://b", "", "", "", ""⟩] _
      (.cons rfl (.cons rfl .nil))
    obtain ⟨p, session, hptr, hsession, _, hurl, _⟩ := hsound.served
      ⟨⟨⟨"tcp://a", "IVP", "", ""⟩, some 3, ⟨"tcp://a", "IVP", "", ""⟩⟩,
        ⟨"tcp://b", "", "", "", ""⟩⟩
      (by decide)
    cases hptr
    cases hsession
    exact absurd hurl (by decide)
  · intro hall
    have hsound := hall
      [.connection ⟨"tcp://a", "", "", "", ""⟩, .connection ⟨"tcp://a", "", "", "", ""⟩,
        .connection ⟨"tcp://a", "", "", "", ""⟩] _
      (.cons rfl (.cons rfl (.cons rfl .nil)))
    obtain ⟨p, session, hptr, hsession, hopen, _⟩ := hsound.served
      ⟨⟨⟨"tcp://a", "IVP", "", ""⟩, some 2, ⟨"tcp://a", "IVP", "", ""⟩⟩,
        ⟨"tcp://a", "", "", "", ""⟩⟩
      (by decide)
    cases hptr
    cases hsession
    exact absurd hopen (by decide)

end DbConnectionPool

end V2XHub.Tmx
