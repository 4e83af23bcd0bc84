import V2XHub.Command.FileCallbacks
import V2XHub.Command.Handling

/-!
# Who may give which command

Of everything that has happened so far, a command that changes something is to be there only if
before it the same session has logged in: with the name of a user in the user table of that moment,
with a password whose hash is the one stored for that user, at a level that the command demands, and
without a logout or a new connection since. What other sessions do, and logins that fail, do not
count.

The history is kept with the latest first. That no text the hash function returns is equal to the
empty one is what the code relies on when a user name is not found exactly.
-/

namespace V2XHub.Command

open V2XHub.Lib

/-- The state-changing command that has reached `TmxControl` or the map of upload requests, and the
session it came from. -/
def Act.effect : Act → Option (Nat × CommandName)
  | .call key c => c.changes.map fun command => (key, command)
  | .uploadfile key => some (key, .uploadfile)
  | _ => none

/-- The session has logged in at the level, with nothing since that ends it. -/
def Entitled (o : Outside) (key : Nat) (level : Int) : List Act → Prop
  | [] => False
  | .connect k :: past => k ≠ key ∧ Entitled o key level past
  | .logout k :: past => k ≠ key ∧ Entitled o key level past
  | .login k user password users :: past =>
      (k = key ∧ ∃ u, Turn.Matches o users user password u ∧ level ≤ u.accessLevel) ∨
        Entitled o key level past
  | _ :: past => Entitled o key level past

/-- Every effect in the history comes from a session that was entitled to it. -/
def Authorised (o : Outside) : List Act → Prop
  | [] => True
  | a :: past =>
      (∀ key c, a.effect = some (key, c) → Entitled o key c.demands past) ∧ Authorised o past

/-! ## Histories -/

section History

variable {o : Outside} {key : Nat} {level : Int} {past : List Act}

theorem Entitled.of_le {level' : Int} (h : Entitled o key level past) (hle : level' ≤ level) :
    Entitled o key level' past := by
  -- on the history; only a login of the session speaks of the level
  induction past with
  | nil => exact h
  | cons a past ih =>
      cases a with
      | connect k => exact ⟨h.1, ih h.2⟩
      | logout k => exact ⟨h.1, ih h.2⟩
      | login k user password users =>
          rcases h with ⟨hk, u, hmatches, hlevel⟩ | h
          · exact .inl ⟨hk, u, hmatches, Int.le_trans hle hlevel⟩
          · exact .inr (ih h)
      | call => exact ih h
      | uploadfile => exact ih h
      | accepted => exact ih h
      | erased => exact ih h
      | refused => exact ih h
      | opened => exact ih h
      | wrote => exact ih h

/-- The act leaves what the session is entitled to. -/
def Act.leaves (key : Nat) : Act → Prop
  | .connect k => k ≠ key
  | .logout k => k ≠ key
  | _ => True

theorem Act.effect_of_ofFiles {a : Act} (ha : a.ofFiles = true) : a.effect = none := by
  cases a with
  | erased | refused | opened | wrote => rfl
  | _ => cases ha

theorem Act.leaves_of_ofFiles {a : Act} (ha : a.ofFiles = true) (key : Nat) : a.leaves key := by
  cases a with
  | erased | refused | opened | wrote => trivial
  | _ => cases ha

theorem Entitled.cons {a : Act} (h : Entitled o key level past) (ha : a.leaves key) :
    Entitled o key level (a :: past) := by
  cases a with
  | connect k => exact ⟨ha, h⟩
  | logout k => exact ⟨ha, h⟩
  | login k user password users => exact .inr h
  | call => exact h
  | uploadfile => exact h
  | accepted => exact h
  | erased => exact h
  | refused => exact h
  | opened => exact h
  | wrote => exact h

theorem Entitled.append {new : List Act} (h : Entitled o key level past)
    (hnew : ∀ a ∈ new, a.leaves key) : Entitled o key level (new ++ past) := by
  induction new with
  | nil => exact h
  | cons a new ih =>
      obtain ⟨ha, hrest⟩ := List.forall_mem_cons.mp hnew
      exact (ih hrest).cons ha

theorem Authorised.cons {a : Act} (h : Authorised o past) (ha : a.effect = none) :
    Authorised o (a :: past) := by
  refine ⟨fun k c hc => ?_, h⟩
  rw [ha] at hc
  cases hc

theorem Authorised.append {new : List Act} (h : Authorised o past)
    (hnew : ∀ a ∈ new, a.effect = none) : Authorised o (new ++ past) := by
  induction new with
  | nil => exact h
  | cons a new ih =>
      obtain ⟨ha, hrest⟩ := List.forall_mem_cons.mp hnew
      exact (ih hrest).cons ha

/-- Calls of a session for a command it is entitled to. -/
theorem Authorised.append_calls {c : CommandName} {calls : List ControlCall}
    (h : Authorised o past) (hentitled : Entitled o key c.demands past)
    (hcalls : ∀ x ∈ calls, x.changes = none ∨ x.changes = some c) :
    Authorised o (calls.map (.call key) ++ past) := by
  induction calls with
  | nil => exact h
  | cons x calls ih =>
      obtain ⟨hx, hrest⟩ := List.forall_mem_cons.mp hcalls
      refine ⟨fun k c' hc => ?_, ih hrest⟩
      have hcall : Entitled o key c.demands (calls.map (.call key) ++ past) := by
        apply hentitled.append
        intro a ha
        obtain ⟨y, _, rfl⟩ := List.mem_map.mp ha
        trivial
      rcases hx with hx | hx
      · simp [Act.effect, hx] at hc
      · simp only [Act.effect, hx, Option.map_some, Option.some.injEq, Prod.mk.injEq] at hc
        obtain ⟨rfl, rfl⟩ := hc
        exact hcall

theorem leaves_of_mem_calls {calls : List ControlCall} {a : Act} {k : Nat}
    (ha : a ∈ calls.map (.call k)) : a.leaves key := by
  obtain ⟨x, _, rfl⟩ := List.mem_map.mp ha
  trivial

end History

/-! ## Messages -/

namespace Turn

variable {o : Outside} {t t' : Turn} {r : Request} {w : World}

/-- The session is authorised only at a level it is entitled to, and so is every effect. -/
structure Sound (o : Outside) (t : Turn) : Prop where
  history : Authorised o t.history
  session : t.session.authorized = true →
    Entitled o t.key t.session.authorizationLevel t.history

/-- What a session does neither entitles another one nor ends what that is entitled to. -/
structure Confined (o : Outside) (t t' : Turn) : Prop where
  key : t'.key = t.key
  others : ∀ k level, k ≠ t.key → Entitled o k level t.history → Entitled o k level t'.history

theorem Confined.refl (t : Turn) : Confined o t t := ⟨rfl, fun _ _ _ h => h⟩

theorem Confined.trans {t'' : Turn} (h : Confined o t t') (h' : Confined o t' t'') :
    Confined o t t'' where
  key := h'.key.trans h.key
  others := fun k level hk hentitled =>
    h'.others k level (h.key ▸ hk) (h.others k level hk hentitled)

/-- A step that adds these acts, none of which ends what another session is entitled to. -/
theorem Confined.of_history {new : List Act} (hkey : t'.key = t.key)
    (hhistory : t'.history = new ++ t.history)
    (hnew : ∀ k, k ≠ t.key → ∀ a ∈ new, a.leaves k) : Confined o t t' where
  key := hkey
  others := by
    intro k level hk h
    rw [hhistory]
    exact h.append (hnew k hk)

theorem Calls.sound {c : CommandName} (h : Calls c t t') (hs : Sound o t)
    (hentitled : Entitled o t.key c.demands t.history) : Sound o t' := by
  obtain ⟨calls, hhistory, hcalls⟩ := h.history
  obtain ⟨out, hsession⟩ := h.session
  constructor
  · rw [hhistory]
    exact hs.history.append_calls hentitled hcalls
  · rw [hhistory, hsession, h.key]
    intro hauthorized
    exact (hs.session hauthorized).append fun a ha => leaves_of_mem_calls ha

theorem Calls.confined {c : CommandName} (h : Calls c t t') : Confined o t t' := by
  obtain ⟨calls, hhistory, _⟩ := h.history
  exact .of_history h.key hhistory fun k _ a ha => leaves_of_mem_calls ha

theorem LogsIn.sound (hsha : ∀ password, o.sqlEq "" (o.sha2 password) = false)
    {user password : String} {users : List User} (h : LogsIn o t user password users t')
    (hs : Sound o t) : Sound o t' := by
  obtain ⟨calls, hqueries, hhistory⟩ := h.history
  constructor
  · rw [hhistory]
    apply ((hs.history.cons rfl).cons rfl).append
    intro a ha
    obtain ⟨x, hx, rfl⟩ := List.mem_map.mp ha
    simp [Act.effect, hqueries x hx]
  · rw [hhistory, h.key]
    intro hauthorized
    refine Entitled.append ?_ fun a ha => leaves_of_mem_calls ha
    rcases h.session with ⟨out, hsession⟩ | ⟨u, out, hmatches, hsession⟩ | ⟨hempty, _⟩
    · rw [hsession] at hauthorized ⊢
      exact .inr (hs.session hauthorized)
    · rw [hsession]
      exact .inl ⟨rfl, u, hmatches, Int.le_refl _⟩
    · rw [hsha] at hempty
      cases hempty

theorem LogsIn.confined {user password : String} {users : List User}
    (h : LogsIn o t user password users t') : Confined o t t' := by
  obtain ⟨calls, _, hhistory⟩ := h.history
  refine ⟨h.key, ?_⟩
  intro k level _ hentitled
  rw [hhistory]
  exact Entitled.append (.inr hentitled) fun a ha => leaves_of_mem_calls ha

theorem logout_sound (hs : Sound o t) : Sound o (t.logout r) where
  history := hs.history.cons rfl
  session := fun hauthorized => by cases hauthorized

theorem logout_confined : Confined o t (t.logout r) := by
  have hhistory : (t.logout r).history = [.logout t.key] ++ t.history := rfl
  refine .of_history rfl hhistory ?_
  intro k hk a ha
  rw [List.mem_singleton.mp ha]
  exact Ne.symm hk

theorem eraseOwned_sound (hs : Sound o t)
    (hentitled : Entitled o t.key systemAdministrator t.history) : Sound o t.eraseOwned where
  history := by
    refine Authorised.cons ⟨fun k c hc => ?_, hs.history⟩ rfl
    cases hc
    exact hentitled
  session := fun hauthorized => hs.session hauthorized

theorem uploadfile_sound (hs : Sound o t) (hauthorized : t.session.authorized = true)
    (hlevel : systemAdministrator ≤ t.session.authorizationLevel) : Sound o (t.uploadfile r) := by
  have hentitled := (hs.session hauthorized).of_le hlevel
  rcases t.uploadfile_cases r with ⟨_, hcalls | herased, _⟩ | ⟨_, ⟨name, request, haccepts⟩, _⟩
  · exact hcalls.sound hs hentitled
  · rw [herased]
    exact eraseOwned_sound hs hentitled
  · have herased := eraseOwned_sound hs hentitled
    obtain ⟨out, hsession⟩ := haccepts.session
    constructor
    · rw [haccepts.history]
      exact herased.history.cons rfl
    · rw [haccepts.history, haccepts.key, hsession]
      exact herased.session

theorem uploadfile_confined : Confined o t (t.uploadfile r) := by
  rcases t.uploadfile_cases r with ⟨_, hcalls | herased, _⟩ | ⟨_, ⟨name, request, haccepts⟩, _⟩
  · exact hcalls.confined
  · rw [herased]
    exact ⟨rfl, fun k level _ h => h⟩
  · refine ⟨haccepts.key, ?_⟩
    intro k level _ h
    rw [haccepts.history]
    exact h

theorem Handles.sound (hsha : ∀ password, o.sqlEq "" (o.sha2 password) = false)
    (h : Handles o t r w t') (hs : Sound o t) : Sound o t' := by
  cases h with
  | ignored heq => exact heq ▸ hs
  | logsIn user password _ hlogs => exact hlogs.sound hsha hs
  | logsOut _ heq => exact heq ▸ logout_sound hs
  | uploads hauthorized hlevel heq => exact heq ▸ uploadfile_sound hs hauthorized hlevel
  | executes c hauthorized hlevel hlogout hupload heq =>
      rw [heq]
      exact (execute_calls hlogout hupload).sound hs ((hs.session hauthorized).of_le hlevel)

theorem Handles.confined (h : Handles o t r w t') : Confined o t t' := by
  cases h with
  | ignored heq =>
      rw [heq]
      exact .refl t
  | logsIn user password _ hlogs => exact hlogs.confined
  | logsOut _ heq => exact heq ▸ logout_confined
  | uploads _ _ heq => exact heq ▸ uploadfile_confined
  | executes c _ _ hlogout hupload heq =>
      rw [heq]
      exact (execute_calls hlogout hupload).confined

theorem handleMessage_confined : Confined o t (t.handleMessage o w) := by
  unfold handleMessage
  simp only
  split
  · exact ⟨rfl, fun _ _ _ h => h⟩
  · have h := (handleRequest_handles o
      { t with session := { t.session with
        parsed := t.session.parsed ++ [messageText t.session.buffer] } } ‹Request› w).confined
    exact ⟨h.key, h.others⟩

section Receive

variable (hsha : ∀ password, o.sqlEq "" (o.sha2 password) = false)
include hsha

theorem handleMessage_sound (hs : Sound o t) : Sound o (t.handleMessage o w) := by
  unfold handleMessage
  simp only
  split
  · exact ⟨hs.history, hs.session⟩
  · exact (handleRequest_handles o _ _ _).sound hsha ⟨hs.history, hs.session⟩

theorem receiveByte_sound {b : UInt8} (hs : Sound o t) :
    Sound o (t.receiveByte o w b) ∧ Confined o t (t.receiveByte o w b) := by
  have hsame : ∀ buffer, Sound o { t with session := { t.session with buffer } } ∧
      Confined o t { t with session := { t.session with buffer } } :=
    fun _ => ⟨⟨hs.history, hs.session⟩, ⟨rfl, fun _ _ _ h => h⟩⟩
  unfold receiveByte
  split
  · exact hsame []
  · split
    · split
      · split
        · exact ⟨hs, .refl t⟩
        · exact ⟨handleMessage_sound hsha hs, handleMessage_confined⟩
      · exact ⟨hs, .refl t⟩
    · split
      · exact ⟨hs, .refl t⟩
      · exact hsame _

theorem receiveBytes_sound (worlds : Nat → World) (message : List UInt8) (hs : Sound o t) :
    Sound o (t.receiveBytes o worlds message) ∧
      Confined o t (t.receiveBytes o worlds message) := by
  induction message generalizing t worlds with
  | nil => exact ⟨hs, .refl t⟩
  | cons b rest ih =>
      unfold receiveBytes
      split
      · exact ⟨hs, .refl t⟩
      · obtain ⟨hsound, hconfined⟩ := receiveByte_sound hsha (b := b) (w := worlds 0) hs
        obtain ⟨hrest, hconfined'⟩ := ih _ hsound
        exact ⟨hrest, hconfined.trans hconfined'⟩

end Receive

end Turn

namespace CommandPlugin

variable {o : Outside} {s s' : CommandPlugin}

/-! ## The law -/

/-- Every session is authorised only at a level it is entitled to, and so is every effect. -/
structure Secure (o : Outside) (s : CommandPlugin) : Prop where
  history : Authorised o s.history
  sessions : ∀ k session, s.sessions k = some session → session.authorized = true →
    Entitled o k session.authorizationLevel s.history

theorem Quiet.secure (h : Quiet s s') (hs : Secure o s) : Secure o s' := by
  obtain ⟨new, hnew, hall⟩ := h.history
  constructor
  · rw [hnew]
    exact hs.history.append fun a ha => Act.effect_of_ofFiles (hall a ha)
  · intro k session hsession hauthorized
    obtain ⟨out, hsession'⟩ := h.session hsession
    have hentitled : Entitled o k session.authorizationLevel s.history :=
      hs.sessions k { session with outputbuffer := out } hsession' hauthorized
    rw [hnew]
    exact hentitled.append fun a ha => Act.leaves_of_ofFiles (hall a ha) k

theorem Secure.established (hs : Secure o s) (key : Nat) : Secure o (s.established key) where
  history := hs.history.cons rfl
  sessions := by
    intro k session hsession hauthorized
    by_cases hk : k = key
    · subst hk
      simp only [CommandPlugin.established, act, Function.update_self, Option.some.injEq]
        at hsession
      subst hsession
      cases hauthorized
    · simp only [CommandPlugin.established, act, Function.update_of_ne hk] at hsession
      exact (hs.sessions k session hsession hauthorized).cons (Ne.symm hk)

theorem Secure.closed (hs : Secure o s) (key : Nat) : Secure o (s.closed key) where
  history := hs.history.cons rfl
  sessions := by
    intro k session hsession hauthorized
    by_cases hk : k = key
    · subst hk
      simp [CommandPlugin.closed, act] at hsession
    · simp only [CommandPlugin.closed, act, Function.update_of_ne hk] at hsession
      exact (hs.sessions k session hsession hauthorized).cons trivial

theorem Secure.receive (hsha : ∀ password, o.sqlEq "" (o.sha2 password) = false)
    (hs : Secure o s) {key : Nat} {session : Session} (hsession : s.sessions key = some session)
    (message : List UInt8) (worlds : Nat → World) :
    Secure o (s.receive o key session message worlds) := by
  have hturn : Turn.Sound o
      { key, session, uploads := s.uploadRequests, history := s.history } :=
    ⟨hs.history, hs.sessions key session hsession⟩
  obtain ⟨hsound, hconfined⟩ :=
    Turn.receiveBytes_sound hsha worlds message hturn
  constructor
  · exact hsound.history
  · intro k session' hsession' hauthorized
    by_cases hk : k = key
    · subst hk
      simp only [CommandPlugin.receive, Function.update_self, Option.some.injEq] at hsession'
      subst hsession'
      have hentitled := hsound.session hauthorized
      rw [hconfined.key] at hentitled
      exact hentitled
    · simp only [CommandPlugin.receive, Function.update_of_ne hk] at hsession'
      exact hconfined.others k _ hk (hs.sessions k session' hsession' hauthorized)

theorem Secure.step (hsha : ∀ password, o.sqlEq "" (o.sha2 password) = false) (hs : Secure o s)
    {e : Event} (hstep : s.step o e = some s') : Secure o s' := by
  cases e with
  | established key =>
      simp only [CommandPlugin.step] at hstep
      split at hstep
      · cases hstep
        exact hs.established key
      · cases hstep
  | closed key =>
      simp only [CommandPlugin.step] at hstep
      split at hstep
      · cases hstep
      · cases hstep
        exact hs.closed key
  | receive key message worlds =>
      simp only [CommandPlugin.step] at hstep
      split at hstep
      · cases hstep
      · next session hsession =>
          cases hstep
          exact hs.receive hsha hsession message worlds
  | httpBody c created =>
      cases hstep
      exact (httpBody_quiet created).secure hs
  | fileUpload c call disk =>
      simp only [CommandPlugin.step] at hstep
      split at hstep
      · cases hstep
        exact (fileUpload_quiet call disk).secure hs
      · cases hstep
  | dropProtocol c =>
      cases hstep
      exact dropProtocol_quiet.secure hs

/-- **Command authorization**: whatever the sessions send, in any order and any pieces, every
state-changing command has come from a session that was entitled to it. -/
theorem commands_authorised (o : Outside)
    (hsha : ∀ password, o.sqlEq "" (o.sha2 password) = false) {es : List Event}
    {s : CommandPlugin} (run : Run (Steps (step o)) {} es s) : Authorised o s.history := by
  have hsecure : Secure o s := by
    refine run.invariant (I := Secure o) ?_ ⟨trivial, fun k session hsession => by cases hsession⟩
    intro s e s' hs hstep
    exact hs.step hsha hstep
  exact hsecure.history

/-- The administrator logs in, in two pieces, and enables a plugin. -/
theorem commands_authorised_enable :
    ∃ (o : Outside) (es : List Event) (s : CommandPlugin),
      (∀ password, o.sqlEq "" (o.sha2 password) = false) ∧ Run (Steps (step o)) {} es s ∧
        s.history.head?.bind Act.effect = some (7, .enable) ∧ Authorised o s.history := by
  let enable : Request := ⟨"enable", "2", [("plugin", "MAP")]⟩
  let o := portal [loginRequest, enable]
  let es : List Event :=
    [.established 7, .receive 7 (loginRequest.framed.take 40) fun _ => administered,
      .receive 7 (loginRequest.framed.drop 40 ++ enable.framed) fun _ => administered]
  have heval : (es.foldlM (step o) {}).map (fun s => s.history.head?.bind Act.effect) =
      some (some (7, .enable)) := by
    decide +kernel
  obtain ⟨s, hs, heffect⟩ := Option.map_eq_some_iff.mp heval
  have run := Run.of_foldlM hs
  exact ⟨o, es, s, portal_sha2 _, run, heffect, commands_authorised o (portal_sha2 _) run⟩

end CommandPlugin

end V2XHub.Command
