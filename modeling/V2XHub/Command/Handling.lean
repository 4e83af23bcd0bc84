import Mathlib.Logic.Basic
import V2XHub.Command.Session

/-!
# What the handling of a message does

One lemma for each command. Most of them only make calls and respond (`Calls`); `logout`, `login`
and `uploadfile` change the session or the upload requests.
-/

namespace V2XHub.Command

namespace Turn

variable {c : CommandName} {t t' t'' : Turn} {r : Request} {w : World} {o : Outside}

/-- Nothing but calls for the command, queries and responses. -/
structure Calls (c : CommandName) (t t' : Turn) : Prop where
  key : t'.key = t.key
  session : ∃ outputbuffer, t'.session = { t.session with outputbuffer }
  uploads : t'.uploads = t.uploads
  history : ∃ calls : List ControlCall, t'.history = calls.map (.call t.key) ++ t.history ∧
    ∀ x ∈ calls, x.changes = none ∨ x.changes = some c
  ended : c ≠ .savestate → c ≠ .uploadstate → t'.ended = t.ended

namespace Calls

theorem refl (c : CommandName) (t : Turn) : Calls c t t where
  key := rfl
  session := ⟨_, rfl⟩
  uploads := rfl
  history := ⟨[], rfl, fun _ hx => absurd hx List.not_mem_nil⟩
  ended := fun _ _ => rfl

theorem trans (h : Calls c t t') (h' : Calls c t' t'') : Calls c t t'' where
  key := h'.key.trans h.key
  session := by
    obtain ⟨out, hout⟩ := h.session
    obtain ⟨out', hout'⟩ := h'.session
    exact ⟨out', by rw [hout', hout]⟩
  uploads := h'.uploads.trans h.uploads
  history := by
    obtain ⟨calls, hcalls, hall⟩ := h.history
    obtain ⟨calls', hcalls', hall'⟩ := h'.history
    refine ⟨calls' ++ calls, ?_, fun x hx => ?_⟩
    · rw [hcalls', hcalls, h.key, List.map_append, List.append_assoc]
    · rcases List.mem_append.mp hx with hx | hx
      · exact hall' x hx
      · exact hall x hx
  ended := fun hsave hupload => (h'.ended hsave hupload).trans (h.ended hsave hupload)

theorem call {x : ControlCall} (hx : x.changes = none ∨ x.changes = some c) :
    Calls c t (t.call x) where
  key := rfl
  session := ⟨_, rfl⟩
  uploads := rfl
  history := by
    refine ⟨[x], rfl, ?_⟩
    intro y hy
    rw [List.mem_singleton.mp hy]
    exact hx
  ended := fun _ _ => rfl

theorem respond (h : Calls c t t') (r : Request) (status reason : String)
    (data arrayData : List (String × String)) :
    Calls c t (t'.respond r status reason data arrayData) := by
  refine h.trans ⟨rfl, ⟨_, rfl⟩, rfl, ⟨[], rfl, ?_⟩, fun _ _ => rfl⟩
  intro x hx
  cases hx

theorem report (h : Calls c t t') (r : Request) (rc : Bool) (failed : String) :
    Calls c t (t'.report r rc failed) := by
  unfold Turn.report
  split
  · exact h.respond ..
  · exact h.respond ..

theorem leave (h : Calls c t t') (hc : c = .savestate ∨ c = .uploadstate) :
    Calls c t t'.leave := by
  refine h.trans ⟨rfl, ⟨_, rfl⟩, rfl, ⟨[], rfl, ?_⟩, fun hsave hupload => ?_⟩
  · intro x hx
    cases hx
  · exact absurd hc (not_or.mpr ⟨hsave, hupload⟩)

end Calls

theorem enable_calls : Calls .enable t (t.enable r) := by
  unfold enable
  split
  · exact .call (.inr rfl)
  · exact .refl _ t

theorem disable_calls : Calls .disable t (t.disable r) := by
  unfold disable
  split
  · exact .call (.inr rfl)
  · exact .refl _ t

theorem set_calls : Calls .set t (t.set r) := by
  unfold set
  split
  · split
    · exact .call (.inr rfl)
    · simp only
      split
      · exact .call (.inr rfl)
      · exact .call (.inr rfl)
  · exact .refl _ t

theorem clearlog_calls : Calls .clearlog t (t.clearlog r w) :=
  (Calls.call (.inr rfl)).report ..

theorem userlist_calls : Calls .userlist t (t.userlist r w) := by
  unfold userlist
  have hcall : Calls .userlist t (t.call .allUsersInfo) := .call (.inl rfl)
  simp only
  split
  · exact hcall.respond ..
  · exact hcall.respond ..

theorem useradd_calls : Calls .useradd t (t.useradd r w) := by
  unfold useradd
  split
  · split
    · exact (Calls.call (.inr rfl)).report ..
    · exact (Calls.refl _ t).respond ..
  · exact (Calls.refl _ t).respond ..

theorem userupdate_calls : Calls .userupdate t (t.userupdate r w) := by
  unfold userupdate
  split
  · split
    · exact (Calls.call (.inr rfl)).report ..
    · exact (Calls.refl _ t).respond ..
  · exact (Calls.call (.inr rfl)).report ..
  · exact (Calls.refl _ t).respond ..

theorem userdelete_calls : Calls .userdelete t (t.userdelete r w) := by
  unfold userdelete
  split
  · exact (Calls.call (.inr rfl)).report ..
  · exact (Calls.refl _ t).respond ..

theorem plugininstall_calls : Calls .plugininstall t (t.plugininstall r w) := by
  unfold plugininstall
  split
  · exact (Calls.call (.inr rfl)).report ..
  · exact .refl _ t

theorem pluginuninstall_calls : Calls .pluginuninstall t (t.pluginuninstall r w) := by
  unfold pluginuninstall
  split
  · exact (Calls.call (.inr rfl)).report ..
  · exact .refl _ t

theorem savestate_calls : Calls .savestate t (t.savestate r w) := by
  unfold savestate
  have hcall : Calls .savestate t (t.call (.saveState (r.argD "passphrase"))) := .call (.inr rfl)
  simp only
  split
  · exact ((Calls.refl _ t).respond ..).leave (.inl rfl)
  · split
    · split
      · exact hcall
      · exact hcall.respond ..
      · exact hcall.respond ..
    · exact hcall.respond ..

theorem uploadstate_calls : Calls .uploadstate t (t.uploadstate r w) := by
  have hleave : ∀ reason, Calls .uploadstate t (t.respond r "failed" reason [] []).leave :=
    fun reason => ((Calls.refl _ t).respond ..).leave (.inr rfl)
  unfold uploadstate
  split
  · exact hleave _
  · simp only
    split
    · exact hleave _
    · split
      · exact hleave _
      · have hcall : ∀ path passphrase,
            Calls .uploadstate t (t.call (.uploadState path passphrase)) :=
          fun _ _ => .call (.inr rfl)
        split
        · exact (hcall _ _).respond ..
        · exact (hcall _ _).respond ..

/-- All commands but three. -/
theorem execute_calls (hlogout : c ≠ .logout) (hupload : c ≠ .uploadfile) :
    Calls c t (t.execute r w c) := by
  cases c with
  | enable => exact enable_calls
  | disable => exact disable_calls
  | set => exact set_calls
  | logout => exact absurd rfl hlogout
  | clearlog => exact clearlog_calls
  | userlist => exact userlist_calls
  | useradd => exact useradd_calls
  | userupdate => exact userupdate_calls
  | userdelete => exact userdelete_calls
  | uploadfile => exact absurd rfl hupload
  | plugininstall => exact plugininstall_calls
  | pluginuninstall => exact pluginuninstall_calls
  | savestate => exact savestate_calls
  | uploadstate => exact uploadstate_calls
  | login => exact .refl _ t

/-! ## Uploads -/

/-- The old requests of the session are erased. -/
def eraseOwned (t : Turn) : Turn :=
  { t with
    uploads := eraseAll t.uploads (ownedIdle t.key t.uploads)
    history := .erased (ownedIdle t.key t.uploads) :: .uploadfile t.key :: t.history }

/-- What an accepted `uploadfile` leaves. -/
structure Accepts (t : Turn) (name : List UInt8) (request : UploadData) (t' : Turn) : Prop where
  key : t'.key = t.key
  owner : request.outputbuffer = some t.key
  session : ∃ outputbuffer, t'.session = { t.session with outputbuffer }
  uploads : t'.uploads = fun n => if n = name then some request else t.eraseOwned.uploads n
  history : t'.history =
    .accepted t.key name t.session.authorized t.session.authorizationLevel :: t.eraseOwned.history

/-- The request is one that `uploadfile` accepts. -/
def acceptable (r : Request) : Bool :=
  (r.arg "uploadfilename").isSome && (r.arg "destinationfilename").isSome &&
    (r.arg "destinationpath").isSome &&
    match r.arg "filesize" with
    | some filesize => isNumber filesize && (stol filesize).isSome
    | none => false

theorem uploadfile_cases (t : Turn) (r : Request) :
    acceptable r = false ∧ (Calls .uploadfile t (t.uploadfile r) ∨ t.uploadfile r = t.eraseOwned) ∧
      (t.uploadfile r).ended = t.ended ∨
    acceptable r = true ∧ (∃ name request, Accepts t name request (t.uploadfile r)) ∧
      (t.uploadfile r).ended = true := by
  unfold uploadfile
  split
  · next name destinationFileName destinationPath filesize hname hfile hpath hsize =>
      split
      · next hnumber =>
          cases hstol : stol filesize with
          | none =>
              left
              refine ⟨?_, .inr rfl, rfl⟩
              simp [acceptable, hname, hfile, hpath, hsize, hstol]
          | some fileSize =>
              right
              let request : UploadData :=
                ⟨r.id, some t.key, destinationFileName, destinationPath, UInt64.ofNat fileSize,
                  false, ""⟩
              refine ⟨?_, ⟨bytesOf name, request, ?_⟩, rfl⟩
              · simp [acceptable, hname, hfile, hpath, hsize, hstol, hnumber]
              · exact ⟨rfl, rfl, ⟨_, rfl⟩, rfl, rfl⟩
      · next hnumber =>
          left
          refine ⟨?_, .inl ((Calls.refl _ t).respond ..), rfl⟩
          simp [acceptable, hname, hfile, hpath, hsize, hnumber]
  · next hmissing =>
      left
      refine ⟨?_, .inl ((Calls.refl _ t).respond ..), rfl⟩
      cases hname : r.arg "uploadfilename" with
      | none => simp [acceptable, hname]
      | some name =>
          cases hfile : r.arg "destinationfilename" with
          | none => simp [acceptable, hfile]
          | some file =>
              cases hpath : r.arg "destinationpath" with
              | none => simp [acceptable, hpath]
              | some path =>
                  cases hsize : r.arg "filesize" with
                  | none => simp [acceptable, hsize]
                  | some size => exact absurd hsize (hmissing name file path size hname hfile hpath)

/-! ## Login -/

/-- The user table has a user of that name whose stored hash is the one of the password. -/
def Matches (o : Outside) (users : List User) (user password : String) (u : User) : Prop :=
  u ∈ users ∧ u.username = user ∧ o.sqlEq u.password (o.sha2 password) = true

/-- What a `login` leaves. It authorises the session at the level of a user that matches, unless the
hash is equal to the empty text. -/
structure LogsIn (o : Outside) (t : Turn) (user password : String) (users : List User) (t' : Turn) :
    Prop where
  key : t'.key = t.key
  uploads : t'.uploads = t.uploads
  ended : t'.ended = t.ended
  history : ∃ calls : List ControlCall, (∀ x ∈ calls, x.changes = none) ∧
    t'.history = calls.map (.call t.key) ++
      .login t.key user password users :: .call t.key (.userInfo user) :: t.history
  session : (∃ outputbuffer, t'.session = { t.session with outputbuffer }) ∨
    (∃ u outputbuffer, Matches o users user password u ∧
      t'.session = { t.session with
        outputbuffer, authorized := true, authorizationLevel := u.accessLevel }) ∨
    o.sqlEq "" (o.sha2 password) = true ∧
      ∃ outputbuffer, t'.session = { t.session with outputbuffer, authorized := true }

theorem authorize_some (t : Turn) (r : Request) (u : User) (row : User) (rows : List User) :
    ∃ outputbuffer, t.authorize r (some u) (row :: rows) = { t with
      session := { t.session with
        outputbuffer, authorized := true, authorizationLevel := u.accessLevel } } := by
  -- on the rows; each but the first sets again what is set already
  induction rows generalizing t row with
  | nil => exact ⟨_, rfl⟩
  | cons row' rows ih =>
      unfold authorize
      obtain ⟨out, hout⟩ := ih _ row'
      exact ⟨out, hout⟩

theorem namedUser_eq_some {users : List User} {user : String} {u : User}
    (h : namedUser o users user = some u) : u ∈ users ∧ u.username = user := by
  obtain ⟨hmem, hname⟩ := List.mem_filter.mp (List.mem_of_getLast? h)
  exact ⟨(List.mem_filter.mp hmem).1, of_decide_eq_true hname⟩

theorem sqlEq_of_mem_matchingRows {password stored : String} {row : User}
    (h : row ∈ matchingRows o w password stored) : o.sqlEq stored (o.sha2 password) = true := by
  unfold matchingRows at h
  split at h
  · obtain ⟨hrow, hstored⟩ := List.mem_filter.mp h
    rw [← of_decide_eq_true hstored]
    exact (List.mem_filter.mp hrow).2
  · cases h

theorem login_cases (t : Turn) (r : Request) (w : World) :
    t.login o r w = t ∨ ∃ user password, LogsIn o t user password w.users (t.login o r w) := by
  unfold login
  split
  · next user password _ _ =>
      refine .inr ⟨user, password, ?_⟩
      have hnone : ∀ x ∈ ([] : List ControlCall), x.changes = none :=
        fun _ hx => absurd hx List.not_mem_nil
      have hhash : ∀ x ∈ [ControlCall.hashedInfo password], x.changes = none := by
        intro x hx
        rw [List.mem_singleton.mp hx]
        rfl
      simp only
      split
      · split
        · exact ⟨rfl, rfl, rfl, ⟨[], hnone, rfl⟩, .inl ⟨_, rfl⟩⟩
        · cases hrows : matchingRows o w password
              (((namedUser o w.users user).map User.password).getD "") with
          | nil => exact ⟨rfl, rfl, rfl, ⟨[_], hhash, rfl⟩, .inl ⟨_, rfl⟩⟩
          | cons row rows =>
              have hstored := sqlEq_of_mem_matchingRows (hrows ▸ List.mem_cons_self)
              cases hown : namedUser o w.users user with
              | none =>
                  rw [hown] at hstored
                  exact ⟨rfl, rfl, rfl, ⟨[_], hhash, rfl⟩, .inr (.inr ⟨hstored, _, rfl⟩)⟩
              | some u =>
                  rw [hown] at hstored
                  obtain ⟨hmem, hname⟩ := namedUser_eq_some hown
                  obtain ⟨out, hout⟩ := authorize_some
                    (((t.call (.userInfo user)).act (.login t.key user password w.users)).call
                      (.hashedInfo password)) r u row rows
                  show LogsIn o t user password w.users (Turn.authorize _ r (some u) (row :: rows))
                  rw [hout]
                  exact ⟨rfl, rfl, rfl, ⟨[_], hhash, rfl⟩,
                    .inr (.inl ⟨u, out, ⟨hmem, hname, hstored⟩, rfl⟩)⟩
      · exact ⟨rfl, rfl, rfl, ⟨[], hnone, rfl⟩, .inl ⟨_, rfl⟩⟩
  · exact .inl rfl

/-! ## Requests -/

/-- What a request does: nothing, a login, a logout, an upload or another command, each only in a
session that may. -/
inductive Handles (o : Outside) (t : Turn) (r : Request) (w : World) (t' : Turn) : Prop
  | ignored : t' = t → Handles o t r w t'
  | logsIn (user password : String) : t.session.authorized = false →
      LogsIn o t user password w.users t' → Handles o t r w t'
  | logsOut : t.session.authorized = true → t' = t.logout r → Handles o t r w t'
  | uploads : t.session.authorized = true → systemAdministrator ≤ t.session.authorizationLevel →
      t' = t.uploadfile r → Handles o t r w t'
  | executes (c : CommandName) : t.session.authorized = true →
      c.demands ≤ t.session.authorizationLevel → c ≠ .logout → c ≠ .uploadfile →
      t' = t.execute r w c → Handles o t r w t'

theorem handleRequest_handles (o : Outside) (t : Turn) (r : Request) (w : World) :
    Handles o t r w (t.handleRequest o r w) := by
  unfold handleRequest
  split
  · exact .ignored rfl
  · next c _ =>
      split
      · next hauthorized =>
          by_cases hlogout : c = .logout
          · subst hlogout
            rw [if_pos (.inr rfl)]
            exact .logsOut hauthorized rfl
          · split
            · next hlevel =>
                have hdemands := hlevel.resolve_right hlogout
                by_cases hupload : c = .uploadfile
                · subst hupload
                  exact .uploads hauthorized hdemands rfl
                · exact .executes c hauthorized hdemands hlogout hupload rfl
            · exact .ignored rfl
      · next hauthorized =>
          split
          · rcases login_cases (o := o) t r w with heq | ⟨user, password, hlogs⟩
            · exact .ignored heq
            · exact .logsIn user password (Bool.eq_false_iff.mpr hauthorized) hlogs
          · exact .ignored rfl

end Turn

end V2XHub.Command
