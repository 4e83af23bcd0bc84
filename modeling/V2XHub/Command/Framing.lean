import Mathlib.Data.List.TakeWhile
import V2XHub.Command.FileCallbacks
import V2XHub.Command.Handling
import V2XHub.Lib.Restarting

/-!
# The messages in what a session has received

The messages are the frames of the stream, however it is cut into websocket texts: what stands
between a start byte and the next end byte, with no start byte in between, if it is neither empty
nor too long for the buffer. They are to be handled, each once and in order, and nothing else.

The loop over the bytes breaks this in three ways. The buffer is not emptied at an end byte, so
another end byte handles it again, with whatever stands in between at its end. A message is read up
to its first zero only. And three commands leave the loop with bytes still to come.
-/

namespace V2XHub.Command

open V2XHub.Lib
open V2XHub.Lib.Restarting (frames openBody next completed Stands)

/-- Neither empty nor too long for the buffer. -/
def fits (body : List UInt8) : Bool := 0 < body.length ∧ body.length < readBufferSize

/-- The messages in a stream. -/
def messages (stream : List UInt8) : List (List UInt8) := (frames 0x02 0x03 none stream).filter fits

/-! ## When the loop is left -/

/-- The loop over the bytes is left after the command. -/
def Request.endsLoop (r : Request) : CommandName → Bool
  | .uploadfile => Turn.acceptable r
  | .savestate => r.argD "passphrase" = ""
  | .uploadstate =>
      match r.arg "statefile" with
      | none => true
      | some fileName => fileName = "" || r.argD "passphrase" = ""
  | _ => false

/-- The loop over the bytes is left after the request of the session. -/
def Session.endsLoop (session : Session) (r : Request) : Bool :=
  match CommandName.ofText r.command with
  | none => false
  | some c => session.authorized && c.demands ≤ session.authorizationLevel && r.endsLoop c

/-- The loop over the bytes is left after the message of the session. -/
def Session.endsLoopAt (o : Outside) (session : Session) (text : List UInt8) : Bool :=
  match (o.readJson text).bind Request.ofPtree with
  | none => false
  | some r => session.endsLoop r

namespace Turn

variable {o : Outside} {t : Turn} {r : Request} {w : World}

theorem uploadfile_ended : (t.uploadfile r).ended = (t.ended || acceptable r) := by
  rcases t.uploadfile_cases r with ⟨hno, _, hended⟩ | ⟨hyes, _, hended⟩
  · rw [hended, hno, Bool.or_false]
  · rw [hended, hyes, Bool.or_true]

theorem savestate_ended : (t.savestate r w).ended = (t.ended || r.endsLoop .savestate) := by
  unfold savestate Request.endsLoop
  simp only
  split
  · next hempty => simp [leave, hempty]
  · next hgiven =>
      rw [decide_eq_false hgiven, Bool.or_false]
      split
      · split
        · rfl
        · rfl
        · rfl
      · rfl

theorem uploadstate_ended :
    (t.uploadstate r w).ended = (t.ended || r.endsLoop .uploadstate) := by
  unfold uploadstate Request.endsLoop
  cases r.arg "statefile" with
  | none => simp [leave]
  | some fileName =>
      simp only
      split
      · next hempty => simp [leave, hempty]
      · next hfile =>
          split
          · next hempty => simp [leave, hempty]
          · next hgiven =>
              rw [decide_eq_false hfile, decide_eq_false hgiven, Bool.or_false, Bool.or_false]
              split
              · rfl
              · rfl

theorem execute_ended (c : CommandName) :
    (t.execute r w c).ended = (t.ended || r.endsLoop c) := by
  have hother : c ≠ .logout → c ≠ .uploadfile → c ≠ .savestate → c ≠ .uploadstate →
      (t.execute r w c).ended = t.ended :=
    fun hlogout hfile hsave hstate => (execute_calls hlogout hfile).ended hsave hstate
  cases c with
  | uploadfile => exact uploadfile_ended
  | savestate => exact savestate_ended
  | uploadstate => exact uploadstate_ended
  | logout => exact (Bool.or_false _).symm
  | _ =>
      rw [hother (by decide) (by decide) (by decide) (by decide)]
      exact (Bool.or_false _).symm

theorem login_ended : (t.login o r w).ended = t.ended := by
  rcases login_cases (o := o) t r w with heq | ⟨user, password, hlogs⟩
  · rw [heq]
  · exact hlogs.ended

theorem handleRequest_ended :
    (t.handleRequest o r w).ended = (t.ended || t.session.endsLoop r) := by
  unfold handleRequest Session.endsLoop
  cases hname : CommandName.ofText r.command with
  | none => simp
  | some c =>
      cases hauthorized : t.session.authorized with
      | true =>
          by_cases hlevel : c.demands ≤ t.session.authorizationLevel
          · simp [hlevel, execute_ended]
          · by_cases hlogout : c = .logout
            · subst hlogout
              simp [hlevel, execute_ended, Request.endsLoop]
            · simp [hlevel, hlogout]
      | false =>
          by_cases hlogin : c = .login
          · simp [hlogin, login_ended]
          · simp [hlogin]

/-- A request leaves what the session has received, and the messages it was given. -/
theorem handleRequest_stream :
    (t.handleRequest o r w).session.received = t.session.received ∧
      (t.handleRequest o r w).session.parsed = t.session.parsed := by
  have hcalls : ∀ {t' : Turn}, (∃ outputbuffer, t'.session = { t.session with outputbuffer }) →
      t'.session.received = t.session.received ∧ t'.session.parsed = t.session.parsed := by
    rintro t' ⟨out, hout⟩
    rw [hout]
    exact ⟨rfl, rfl⟩
  cases handleRequest_handles o t r w with
  | ignored heq =>
      rw [heq]
      exact ⟨rfl, rfl⟩
  | logsIn user password _ hlogs =>
      rcases hlogs.session with hout | ⟨u, out, _, hout⟩ | ⟨_, out, hout⟩
      · exact hcalls hout
      · rw [hout]
        exact ⟨rfl, rfl⟩
      · rw [hout]
        exact ⟨rfl, rfl⟩
  | logsOut _ heq =>
      rw [heq]
      exact ⟨rfl, rfl⟩
  | uploads _ _ heq =>
      rw [heq]
      rcases t.uploadfile_cases r with ⟨_, hcase | herased, _⟩ | ⟨_, ⟨name, request, hcase⟩, _⟩
      · exact hcalls hcase.session
      · rw [herased]
        exact ⟨rfl, rfl⟩
      · exact hcalls hcase.session
  | executes c _ _ hlogout hupload heq =>
      rw [heq]
      exact hcalls (execute_calls hlogout hupload).session

theorem handleMessage_stream :
    (t.handleMessage o w).session.received = t.session.received ∧
      (t.handleMessage o w).session.parsed =
        t.session.parsed ++ [messageText t.session.buffer] := by
  unfold handleMessage
  simp only
  split
  · exact ⟨rfl, rfl⟩
  · exact handleRequest_stream

theorem handleMessage_ended :
    (t.handleMessage o w).ended =
      (t.ended || t.session.endsLoopAt o (messageText t.session.buffer)) := by
  unfold handleMessage Session.endsLoopAt
  simp only
  cases (o.readJson (messageText t.session.buffer)).bind Request.ofPtree with
  | none => exact (Bool.or_false _).symm
  | some r => exact handleRequest_ended

/-! ## The loop -/

/-- The bytes complete no message and begin none. -/
def Idle (rest : List UInt8) : Prop :=
  messages rest = [] ∧ openBody 0x02 0x03 none rest = none

/-- What the loop needs at an end byte. Outside a frame the buffer is empty or full. A message it
handles has no zero in it, and if the loop is left after it, then the rest can be dropped. -/
def CleanByte (o : Outside) (session : Session) (st : Option (List UInt8)) (b : UInt8)
    (rest : List UInt8) : Prop :=
  b = 0x03 →
    (st = none → session.buffer = [] ∨ readBufferSize ≤ session.buffer.length) ∧
    ∀ body ∈ st, fits body = true → 0 ∉ body ∧ (session.endsLoopAt o body = true → Idle rest)

/-- What the loop needs at each of the bytes it gets to, with the frame that is open before the
first. -/
def CleanBytes (o : Outside) (worlds : Nat → World) :
    Turn → Option (List UInt8) → List UInt8 → Prop
  | _, _, [] => True
  | t, st, b :: rest =>
      CleanByte o t.session st b rest ∧
        ((t.receiveByte o (worlds 0) b).ended = false →
          CleanBytes o (fun i => worlds (i + 1)) (t.receiveByte o (worlds 0) b)
            (next 0x02 0x03 st b) rest)

instance decidableCleanByte (o : Outside) (session : Session) (st : Option (List UInt8)) (b : UInt8)
    (rest : List UInt8) : Decidable (CleanByte o session st b rest) :=
  have : Decidable (Idle rest) := inferInstanceAs (Decidable (_ ∧ _))
  inferInstanceAs (Decidable (_ → _ ∧ _))

instance decidableCleanBytes (o : Outside) :
    (worlds : Nat → World) → (t : Turn) → (st : Option (List UInt8)) → (message : List UInt8) →
      Decidable (CleanBytes o worlds t st message)
  | _, _, _, [] => inferInstanceAs (Decidable True)
  | worlds, t, st, b :: rest =>
      have := decidableCleanBytes o (fun i => worlds (i + 1)) (t.receiveByte o (worlds 0) b)
        (next 0x02 0x03 st b) rest
      inferInstanceAs (Decidable (_ ∧ (_ → _)))

/-- The buffer holds the open frame, as far as it fits. -/
def InSync (st : Option (List UInt8)) (session : Session) : Prop :=
  ∀ body, st = some body → session.buffer = body.take readBufferSize

theorem inSync_none (session : Session) : InSync none session := by
  intro body hbody
  cases hbody

/-- The session has gone through a piece of the stream that completes these bodies and leaves that
frame open. -/
structure Advances (t : Turn) (bodies : List (List UInt8)) (st : Option (List UInt8))
    (t' : Turn) : Prop where
  received : t'.session.received = t.session.received
  parsed : t'.session.parsed = t.session.parsed ++ bodies.filter fits
  sync : InSync st t'.session

theorem fits_iff {body : List UInt8} :
    fits body = true ↔ 0 < body.length ∧ body.length < readBufferSize := by
  simp [fits]

theorem messageText_of_not_mem {body : List UInt8} (h : 0 ∉ body) : messageText body = body := by
  apply List.takeWhile_eq_self_iff.mpr
  intro b hb
  exact decide_eq_true fun heq => h (heq ▸ hb)

/-- An end byte. -/
theorem receiveByte_end {st : Option (List UInt8)} {rest : List UInt8}
    (hsync : InSync st t.session) (hclean : CleanByte o t.session st 0x03 rest)
    (hended : t.ended = false) :
    Advances t (completed 0x02 0x03 st 0x03) none (t.receiveByte o w 0x03) ∧
      ((t.receiveByte o w 0x03).ended = true → Idle rest) := by
  obtain ⟨houtside, hinside⟩ := hclean rfl
  -- nothing is handled
  have hsame : (completed 0x02 0x03 st 0x03).filter fits = [] → t.receiveByte o w 0x03 = t →
      Advances t (completed 0x02 0x03 st 0x03) none (t.receiveByte o w 0x03) ∧
        ((t.receiveByte o w 0x03).ended = true → Idle rest) := by
    intro hbodies heq
    rw [heq]
    refine ⟨⟨rfl, ?_, inSync_none _⟩, fun h => ?_⟩
    · rw [hbodies, List.append_nil]
    · rw [hended] at h
      cases h
  have hempty : t.session.buffer = [] → t.receiveByte o w 0x03 = t := by
    intro hbuffer
    simp [receiveByte, hbuffer]
  have hfull : readBufferSize ≤ t.session.buffer.length → t.receiveByte o w 0x03 = t := by
    intro hbuffer
    simp [receiveByte, hbuffer]
  cases st with
  | none =>
      refine hsame rfl ?_
      rcases houtside rfl with hbuffer | hbuffer
      · exact hempty hbuffer
      · exact hfull hbuffer
  | some body =>
      have hbuffer := hsync body rfl
      cases hfits : fits body with
      | false =>
          refine hsame (by simp [completed, hfits]) ?_
          rw [Bool.eq_false_iff, ne_eq, fits_iff, not_and, Nat.not_lt] at hfits
          rcases Nat.eq_zero_or_pos body.length with hzero | hpos
          · refine hempty ?_
            rw [hbuffer, List.length_eq_zero_iff.mp hzero, List.take_nil]
          · refine hfull ?_
            rw [hbuffer, List.length_take]
            exact Nat.le_min.mpr ⟨Nat.le_refl _, hfits hpos⟩
      | true =>
          obtain ⟨hzero, hidle⟩ := hinside body rfl hfits
          obtain ⟨hpos, hlt⟩ := fits_iff.mp hfits
          rw [List.take_of_length_le (Nat.le_of_lt hlt)] at hbuffer
          have hhandle : t.receiveByte o w 0x03 = t.handleMessage o w := by
            simp [receiveByte, hbuffer, List.length_pos_iff.mp hpos, Nat.not_le.mpr hlt]
          obtain ⟨hreceived, hparsed⟩ := handleMessage_stream (o := o) (t := t) (w := w)
          rw [hhandle]
          rw [hbuffer, messageText_of_not_mem hzero] at hparsed
          refine ⟨⟨hreceived, ?_, inSync_none _⟩, ?_⟩
          · rw [hparsed]
            simp [completed, hfits]
          · rw [handleMessage_ended, hended, Bool.false_or, hbuffer, messageText_of_not_mem hzero]
            exact hidle

/-- A byte of a message, or of nothing. -/
theorem receiveByte_other {st : Option (List UInt8)} {b : UInt8} (hsync : InSync st t.session)
    (hstart : b ≠ 0x02) (hend : b ≠ 0x03) :
    Advances t [] (st.map (· ++ [b])) (t.receiveByte o w b) ∧
      (t.receiveByte o w b).ended = t.ended := by
  unfold receiveByte
  rw [if_neg hstart, if_neg hend]
  split
  · next hfull =>
      refine ⟨⟨rfl, by simp, fun body' hbody' => ?_⟩, rfl⟩
      obtain ⟨body, hbody, rfl⟩ := Option.map_eq_some_iff.mp hbody'
      have hbuffer := hsync body hbody
      have hlength : readBufferSize ≤ body.length := by
        rw [hbuffer, List.length_take] at hfull
        exact (Nat.le_min.mp hfull).2
      rw [hbuffer, List.take_append_of_le_length hlength]
  · next hroom =>
      refine ⟨⟨rfl, by simp, fun body' hbody' => ?_⟩, rfl⟩
      obtain ⟨body, hbody, rfl⟩ := Option.map_eq_some_iff.mp hbody'
      have hbuffer := hsync body hbody
      have hlength : body.length < readBufferSize := by
        rw [hbuffer, List.length_take] at hroom
        omega
      rw [List.take_of_length_le (Nat.le_of_lt hlength)] at hbuffer
      show t.session.buffer ++ [b] = _
      rw [hbuffer, List.take_of_length_le]
      rw [List.length_append]
      exact hlength

theorem receiveByte_advances {st : Option (List UInt8)} {b : UInt8} {rest : List UInt8}
    (hsync : InSync st t.session) (hclean : CleanByte o t.session st b rest)
    (hended : t.ended = false) :
    Advances t (completed 0x02 0x03 st b) (next 0x02 0x03 st b) (t.receiveByte o w b) ∧
      ((t.receiveByte o w b).ended = true → b = 0x03 ∧ Idle rest) := by
  have hrunning : t.ended = true → b = 0x03 ∧ Idle rest := by
    intro h
    rw [hended] at h
    cases h
  by_cases hstart : b = 0x02
  · subst hstart
    refine ⟨⟨rfl, (List.append_nil _).symm, fun body hbody => ?_⟩, hrunning⟩
    obtain rfl := Option.some.inj hbody
    rfl
  · by_cases hend : b = 0x03
    · subst hend
      obtain ⟨hadvances, hidle⟩ := receiveByte_end (w := w) hsync hclean hended
      exact ⟨hadvances, fun h => ⟨rfl, hidle h⟩⟩
    · obtain ⟨hadvances, hsame⟩ := receiveByte_other (o := o) (w := w) hsync hstart hend
      rw [completed, next, if_neg hstart, if_neg hend, if_neg hstart, if_neg hend, hsame]
      exact ⟨hadvances, hrunning⟩

theorem receiveBytes_of_ended {worlds : Nat → World} {message : List UInt8}
    (hended : t.ended = true) : t.receiveBytes o worlds message = t := by
  cases message with
  | nil => rfl
  | cons b rest => rw [receiveBytes, if_pos hended]

theorem receiveBytes_advances {worlds : Nat → World} {st : Option (List UInt8)}
    {message : List UInt8} (hsync : InSync st t.session)
    (hclean : CleanBytes o worlds t st message) (hended : t.ended = false) :
    Advances t (frames 0x02 0x03 st message) (openBody 0x02 0x03 st message)
      (t.receiveBytes o worlds message) := by
  -- on the bytes; when the loop is left, what is still to come can be dropped
  induction message generalizing t worlds st with
  | nil => exact ⟨rfl, (List.append_nil _).symm, hsync⟩
  | cons b rest ih =>
      obtain ⟨hbyte, hrest⟩ := hclean
      obtain ⟨hadvances, hleft⟩ := receiveByte_advances (w := worlds 0) hsync hbyte hended
      have hlater : Advances (t.receiveByte o (worlds 0) b)
          (frames 0x02 0x03 (next 0x02 0x03 st b) rest)
          (openBody 0x02 0x03 (next 0x02 0x03 st b) rest)
          ((t.receiveByte o (worlds 0) b).receiveBytes o (fun i => worlds (i + 1)) rest) := by
        cases hcase : (t.receiveByte o (worlds 0) b).ended with
        | false => exact ih hadvances.sync (hrest hcase) hcase
        | true =>
            obtain ⟨rfl, hmessages, hopen⟩ := hleft hcase
            rw [receiveBytes_of_ended hcase]
            refine ⟨rfl, ?_, ?_⟩
            · show _ = _ ++ messages rest
              rw [hmessages, List.append_nil]
            · show InSync (openBody 0x02 0x03 none rest) _
              rw [hopen]
              exact inSync_none _
      rw [receiveBytes, if_neg (Bool.eq_false_iff.mp hended)]
      refine ⟨hlater.received.trans hadvances.received, ?_, hlater.sync⟩
      rw [hlater.parsed, hadvances.parsed, List.append_assoc, ← List.filter_append]
      rfl

end Turn

/-! ## All sessions -/

namespace CommandPlugin

variable {o : Outside} {s s' : CommandPlugin}

/-- The turn in which the bytes are received. -/
def turn (s : CommandPlugin) (key : Nat) (session : Session) : Turn :=
  { key, session, uploads := s.uploadRequests, history := s.history }

/-- What the loop needs of the bytes that a session receives. -/
def Clean (o : Outside) (s : CommandPlugin) : Event → Prop
  | .receive key message worlds =>
      ∀ session ∈ s.sessions key, Turn.CleanBytes o worlds (s.turn key session)
        (openBody 0x02 0x03 none session.received) message
  | _ => True

instance decidableClean (o : Outside) (s : CommandPlugin) : (e : Event) → Decidable (s.Clean o e)
  | .receive key message worlds => inferInstanceAs (Decidable (∀ session ∈ s.sessions key,
      Turn.CleanBytes o worlds (s.turn key session) (openBody 0x02 0x03 none session.received)
        message))
  | .established _ | .closed _ | .httpBody .. | .fileUpload .. | .dropProtocol _ =>
      inferInstanceAs (Decidable True)

/-- The session was given the messages in what it has received, and its buffer holds the frame that
is still open. -/
structure Follows (session : Session) : Prop where
  parsed : session.parsed = messages session.received
  sync : Turn.InSync (openBody 0x02 0x03 none session.received) session

def Following (s : CommandPlugin) : Prop :=
  ∀ key session, s.sessions key = some session → Follows session

theorem follows_new : Follows {} where
  parsed := rfl
  sync := fun body hbody => by cases hbody

theorem Quiet.following (h : Quiet s s') (hs : s.Following) : s'.Following := by
  intro key session hsession
  obtain ⟨out, hold⟩ := h.session hsession
  obtain ⟨hparsed, hsync⟩ := hs key _ hold
  exact ⟨hparsed, hsync⟩

theorem Following.update (hs : s.Following) {key : Nat} {session : Session}
    (hnew : Follows session) (hsessions : s'.sessions = Function.update s.sessions key session) :
    s'.Following := by
  intro k session' hsession'
  rw [hsessions] at hsession'
  by_cases hk : k = key
  · subst hk
    rw [Function.update_self] at hsession'
    cases hsession'
    exact hnew
  · rw [Function.update_of_ne hk] at hsession'
    exact hs k session' hsession'

theorem Following.closed (hs : s.Following) (key : Nat) : (s.closed key).Following := by
  intro k session hsession
  by_cases hk : k = key
  · subst hk
    simp [CommandPlugin.closed, act] at hsession
  · simp only [CommandPlugin.closed, act, Function.update_of_ne hk] at hsession
    exact hs k session hsession

/-- A session that has received one more piece. -/
theorem Follows.receive {session : Session} (h : Follows session) {key : Nat}
    {message : List UInt8} {worlds : Nat → World}
    (hclean : Turn.CleanBytes o worlds (s.turn key session)
      (openBody 0x02 0x03 none session.received) message) :
    Follows { ((s.turn key session).receiveBytes o worlds message).session with
      received := ((s.turn key session).receiveBytes o worlds message).session.received ++
        message } := by
  obtain ⟨hreceived, hparsed, hsync⟩ := Turn.receiveBytes_advances h.sync hclean rfl
  constructor
  · show Session.parsed _ = messages (Session.received _ ++ message)
    rw [hparsed, hreceived, messages, Restarting.frames_append, List.filter_append]
    exact congrArg (· ++ _) h.parsed
  · show Turn.InSync (openBody 0x02 0x03 none (Session.received _ ++ message)) _
    rw [hreceived, Restarting.openBody_append]
    exact hsync

theorem Following.step (hs : s.Following) {e : Event} (hclean : s.Clean o e)
    (hstep : s.step o e = some s') : s'.Following := by
  cases e with
  | established key =>
      simp only [CommandPlugin.step] at hstep
      split at hstep
      · cases hstep
        exact hs.update follows_new rfl
      · cases hstep
  | closed key =>
      simp only [CommandPlugin.step] at hstep
      split at hstep
      · cases hstep
      · cases hstep
        exact hs.closed key
  | receive key message worlds =>
      simp only [CommandPlugin.step] at hstep
      split at hstep
      · cases hstep
      · next session hsession =>
          cases hstep
          exact hs.update ((hs key session hsession).receive (hclean session hsession)) rfl
  | httpBody c created =>
      cases hstep
      exact (httpBody_quiet created).following hs
  | fileUpload c call disk =>
      simp only [CommandPlugin.step] at hstep
      split at hstep
      · cases hstep
        exact (fileUpload_quiet call disk).following hs
      · cases hstep
  | dropProtocol c =>
      cases hstep
      exact dropProtocol_quiet.following hs

/-- **Framing of messages**: with bytes that the loop can take, every session has been given exactly
the messages in what it has received, each once and in order. -/
theorem parsed_eq_messages_of_clean (o : Outside) {es : List Event} {s : CommandPlugin}
    (run : Run (Guarded (Clean o) (Steps (step o))) {} es s) {key : Nat} {session : Session}
    (hsession : s.sessions key = some session) :
    session.parsed = messages session.received ∧
      ∀ body, body ∈ session.parsed ↔
        fits body = true ∧ Stands 0x02 0x03 session.received body := by
  have hfollowing : s.Following := by
    refine run.invariant (I := Following) ?_ fun key session hsession => by cases hsession
    rintro s e s' hs ⟨hclean, hstep⟩
    exact hs.step hclean hstep
  have hparsed := (hfollowing key session hsession).parsed
  refine ⟨hparsed, ?_⟩
  intro body
  rw [hparsed, messages, List.mem_filter, Restarting.mem_frames_none_iff (by decide), and_comm]

/-- Three messages in four texts, with bytes between the frames that no message is made of. -/
theorem parsed_eq_messages_upload :
    ∃ (o : Outside) (es : List Event) (s : CommandPlugin) (session : Session),
      Run (Guarded (Clean o) (Steps (step o))) {} es s ∧ s.sessions 7 = some session ∧
        session.parsed = [loginRequest.bytes, uploadRequest.bytes, logoutRequest.bytes] ∧
        session.parsed = messages session.received ∧
        ∀ body, body ∈ session.parsed ↔
          fits body = true ∧ Stands 0x02 0x03 session.received body := by
  let o := portal [loginRequest, uploadRequest, logoutRequest]
  let worlds : Nat → World := fun _ => administered
  let es : List Event :=
    [.established 7, .receive 7 (0x0a :: loginRequest.framed.take 40) worlds,
      .receive 7 (loginRequest.framed.drop 40 ++ [0x0a]) worlds,
      .receive 7 (uploadRequest.framed ++ [0x0a, 0x0a]) worlds,
      .receive 7 (0x02 :: 0x58 :: logoutRequest.framed) worlds]
  have heval : ((es.foldlM (guardedStep (fun s e => decide (s.Clean o e)) (step o)) {}).bind
      (·.sessions 7)).map Session.parsed =
        some [loginRequest.bytes, uploadRequest.bytes, logoutRequest.bytes] := by
    decide +kernel
  obtain ⟨session, hbind, hparsed⟩ := Option.map_eq_some_iff.mp heval
  obtain ⟨s, hs, hsession⟩ := Option.bind_eq_some_iff.mp hbind
  have run : Run (Guarded (Clean o) (Steps (step o))) {} es s :=
    (Run.guarded_of_foldlM hs).mono fun s e t hstep => ⟨of_decide_eq_true hstep.1, hstep.2⟩
  exact ⟨o, es, s, session, run, hsession, hparsed, parsed_eq_messages_of_clean o run hsession⟩

/-- A second end byte handles the message again, with the byte that stands between them. -/
theorem parsed_twice_at_stray_end :
    ¬ ∀ (o : Outside) (es : List Event) (s : CommandPlugin) (key : Nat) (session : Session),
      Run (Steps (step o)) {} es s → s.sessions key = some session →
        session.parsed = messages session.received := by
  intro h
  let es : List Event := [.established 7, .receive 7 [0x02, 0x61, 0x03, 0x62, 0x03] fun _ => {}]
  have hparsed := h (portal []) es _ 7 _ (.cons rfl (.cons rfl .nil)) rfl
  have hfalse : [[0x61], [0x61, 0x62]] = [([0x61] : List UInt8)] := hparsed
  cases hfalse

end CommandPlugin

end V2XHub.Command
