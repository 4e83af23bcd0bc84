import V2XHub.Command.FileCallbacks
import V2XHub.Command.Handling

/-!
# Who may upload which file

A file is to be opened, or written to, only under a name for which a session authorised as system
administrator has had an `uploadfile` command accepted, and whose request is still there. And a
session that goes is to leave the requests of the others alone.

The upload callback breaks the first: when it refuses a file it leaves a request with the reason in
the map, and the next call takes it for a permission. Closing a session breaks the second: every
request that is not erased loses its buffer, whosoever it is.
-/

namespace V2XHub.Command

open V2XHub.Lib

/-! ## Histories -/

/-- A request for the name was accepted, from a session authorised for it, and not erased since. -/
def Granted (name : List UInt8) : List Act → Prop
  | [] => False
  | .accepted _ n authorized level :: past =>
      (n = name ∧ authorized = true ∧ systemAdministrator ≤ level) ∨ Granted name past
  | .erased names :: past => names name = false ∧ Granted name past
  | _ :: past => Granted name past

/-- The name under which a file was opened or written to. -/
def Act.fileName : Act → Option (List UInt8)
  | .opened name _ => some name
  | .wrote name => some name
  | _ => none

/-- Files were opened and written to only under names that were granted then. -/
def FilesGranted : List Act → Prop
  | [] => True
  | a :: past => (∀ name, a.fileName = some name → Granted name past) ∧ FilesGranted past

theorem FilesGranted.cons {a : Act} {past : List Act} (h : FilesGranted past)
    (ha : a.fileName = none) : FilesGranted (a :: past) := by
  refine ⟨fun name hname => ?_, h⟩
  rw [ha] at hname
  cases hname

/-- A request of that name was left by a callback that refused a file, and neither erased nor
accepted since. -/
def Leftover (name : List UInt8) : List Act → Prop
  | [] => False
  | .refused n :: past => n = name ∨ Leftover name past
  | .accepted _ n _ _ :: past => n ≠ name ∧ Leftover name past
  | .erased names :: past => names name = false ∧ Leftover name past
  | _ :: past => Leftover name past

instance decidableLeftover (name : List UInt8) :
    (history : List Act) → Decidable (Leftover name history)
  | [] => inferInstanceAs (Decidable False)
  | a :: past =>
      have := decidableLeftover name past
      match a with
      | .refused n => inferInstanceAs (Decidable (n = name ∨ Leftover name past))
      | .accepted _ n _ _ => inferInstanceAs (Decidable (n ≠ name ∧ Leftover name past))
      | .erased names => inferInstanceAs (Decidable (names name = false ∧ Leftover name past))
      | .connect _ | .login .. | .logout _ | .call .. | .uploadfile _ | .opened .. | .wrote _ =>
          this

/-- The act has nothing to do with uploads. -/
def Act.unrelated : Act → Bool
  | .connect _ | .login .. | .logout _ | .call .. | .uploadfile _ => true
  | _ => false

/-- What holds of the requests and the history: a request was granted, or it is a leftover and has
no buffer. -/
structure Grants (uploads : List UInt8 → Option UploadData) (history : List Act) : Prop where
  files : FilesGranted history
  requests : ∀ name request, uploads name = some request →
    Granted name history ∨ Leftover name history ∧ request.outputbuffer = none

/-- Assign a request to a name. -/
def assign (uploads : List UInt8 → Option UploadData) (name : List UInt8) (request : UploadData) :
    List UInt8 → Option UploadData :=
  fun n => if n = name then some request else uploads n

namespace Grants

variable {uploads : List UInt8 → Option UploadData} {history : List Act}

theorem unrelated {a : Act} (h : Grants uploads history) (ha : a.unrelated = true) :
    Grants uploads (a :: history) := by
  obtain ⟨hfiles, hrequests⟩ := h
  cases a with
  | connect k => exact ⟨hfiles.cons rfl, hrequests⟩
  | login => exact ⟨hfiles.cons rfl, hrequests⟩
  | logout k => exact ⟨hfiles.cons rfl, hrequests⟩
  | call => exact ⟨hfiles.cons rfl, hrequests⟩
  | uploadfile k => exact ⟨hfiles.cons rfl, hrequests⟩
  | accepted => cases ha
  | erased => cases ha
  | refused => cases ha
  | opened => cases ha
  | wrote => cases ha

theorem append_unrelated {new : List Act} (h : Grants uploads history)
    (hnew : ∀ a ∈ new, a.unrelated = true) : Grants uploads (new ++ history) := by
  induction new with
  | nil => exact h
  | cons a new ih =>
      obtain ⟨ha, hrest⟩ := List.forall_mem_cons.mp hnew
      exact (ih hrest).unrelated ha

/-- Requests are erased, and of the others some may lose their buffer. -/
theorem erase {uploads' : List UInt8 → Option UploadData} (h : Grants uploads history)
    (names : List UInt8 → Bool)
    (huploads : ∀ name request', uploads' name = some request' → names name = false ∧
      ∃ request, uploads name = some request ∧
        (request.outputbuffer = none → request'.outputbuffer = none)) :
    Grants uploads' (.erased names :: history) where
  files := h.files.cons rfl
  requests := by
    intro name request' hrequest'
    obtain ⟨hnames, request, hrequest, hbuffer⟩ := huploads name request' hrequest'
    rcases h.requests name request hrequest with hgranted | ⟨hleft, hnone⟩
    · exact .inl ⟨hnames, hgranted⟩
    · exact .inr ⟨⟨hnames, hleft⟩, hbuffer hnone⟩

theorem accept (h : Grants uploads history) (key : Nat) (name : List UInt8) {level : Int}
    (hlevel : systemAdministrator ≤ level) (request : UploadData) :
    Grants (assign uploads name request) (.accepted key name true level :: history) where
  files := h.files.cons rfl
  requests := by
    intro n request' hrequest'
    by_cases hn : n = name
    · subst hn
      exact .inl (.inl ⟨rfl, rfl, hlevel⟩)
    · rw [assign, if_neg hn] at hrequest'
      rcases h.requests n request' hrequest' with hgranted | ⟨hleft, hnone⟩
      · exact .inl (.inr hgranted)
      · exact .inr ⟨⟨Ne.symm hn, hleft⟩, hnone⟩

/-- A callback leaves a request without a buffer. -/
theorem refuse (h : Grants uploads history) (name : List UInt8) {request : UploadData}
    (hbuffer : request.outputbuffer = none) :
    Grants (assign uploads name request) (.refused name :: history) where
  files := h.files.cons rfl
  requests := by
    intro n request' hrequest'
    by_cases hn : n = name
    · subst hn
      rw [assign, if_pos rfl] at hrequest'
      cases hrequest'
      exact .inr ⟨.inl rfl, hbuffer⟩
    · rw [assign, if_neg hn] at hrequest'
      rcases h.requests n request' hrequest' with hgranted | ⟨hleft, hnone⟩
      · exact .inl hgranted
      · exact .inr ⟨.inr hleft, hnone⟩

/-- A request that is there changes, but for its buffer. -/
theorem modify (h : Grants uploads history) {name : List UInt8} {request request' : UploadData}
    (hrequest : uploads name = some request)
    (hbuffer : request'.outputbuffer = request.outputbuffer) :
    Grants (assign uploads name request') history where
  files := h.files
  requests := by
    intro n request'' hrequest''
    by_cases hn : n = name
    · subst hn
      rw [assign, if_pos rfl] at hrequest''
      cases hrequest''
      rw [hbuffer]
      exact h.requests n request hrequest
    · rw [assign, if_neg hn] at hrequest''
      exact h.requests n request'' hrequest''

/-- A file is opened or written to under a name that is granted. -/
theorem file (h : Grants uploads history) {a : Act} {name : List UInt8}
    (ha : a.fileName = some name) (hgranted : Granted name history) :
    Grants uploads (a :: history) := by
  obtain ⟨hfiles, hrequests⟩ := h
  have hname : ∀ n, a.fileName = some n → Granted n history := by
    intro n hn
    rw [ha] at hn
    cases hn
    exact hgranted
  cases a with
  | opened n path => exact ⟨⟨hname, hfiles⟩, hrequests⟩
  | wrote n => exact ⟨⟨hname, hfiles⟩, hrequests⟩
  | _ => cases ha

/-- A request with a buffer was granted. -/
theorem granted_of_buffer (h : Grants uploads history) {name : List UInt8} {request : UploadData}
    (hrequest : uploads name = some request) (hbuffer : request.outputbuffer ≠ none) :
    Granted name history := by
  rcases h.requests name request hrequest with hgranted | ⟨_, hnone⟩
  · exact hgranted
  · exact absurd hnone hbuffer

end Grants

/-! ## Messages -/

namespace Turn

variable {o : Outside} {t t' : Turn} {r : Request} {w : World}

theorem unrelated_of_mem_calls {calls : List ControlCall} {k : Nat} {a : Act}
    (ha : a ∈ calls.map (.call k)) : a.unrelated = true := by
  obtain ⟨x, _, rfl⟩ := List.mem_map.mp ha
  rfl

theorem Calls.grants {c : CommandName} (h : Calls c t t') (hs : Grants t.uploads t.history) :
    Grants t'.uploads t'.history := by
  obtain ⟨calls, hhistory, _⟩ := h.history
  rw [h.uploads, hhistory]
  exact hs.append_unrelated fun a ha => unrelated_of_mem_calls ha

theorem LogsIn.grants {user password : String} {users : List User}
    (h : LogsIn o t user password users t') (hs : Grants t.uploads t.history) :
    Grants t'.uploads t'.history := by
  obtain ⟨calls, _, hhistory⟩ := h.history
  rw [h.uploads, hhistory]
  have hlogin : Grants t.uploads
      (.login t.key user password users :: .call t.key (.userInfo user) :: t.history) :=
    (hs.unrelated rfl).unrelated rfl
  exact hlogin.append_unrelated fun a ha => unrelated_of_mem_calls ha

theorem eraseOwned_grants (hs : Grants t.uploads t.history) :
    Grants t.eraseOwned.uploads t.eraseOwned.history := by
  have hacted : Grants t.uploads (.uploadfile t.key :: t.history) := hs.unrelated rfl
  apply hacted.erase _
  intro name request hrequest
  unfold eraseOwned eraseAll at hrequest
  simp only at hrequest
  split at hrequest
  · cases hrequest
  · next hnames => exact ⟨Bool.eq_false_iff.mpr hnames, request, hrequest, id⟩

theorem uploadfile_grants (hs : Grants t.uploads t.history)
    (hauthorized : t.session.authorized = true)
    (hlevel : systemAdministrator ≤ t.session.authorizationLevel) :
    Grants (t.uploadfile r).uploads (t.uploadfile r).history := by
  rcases t.uploadfile_cases r with ⟨_, hcalls | herased, _⟩ | ⟨_, ⟨name, request, haccepts⟩, _⟩
  · exact hcalls.grants hs
  · rw [herased]
    exact eraseOwned_grants hs
  · rw [haccepts.uploads, haccepts.history, hauthorized]
    exact (eraseOwned_grants hs).accept t.key name hlevel request

theorem handleRequest_grants (hs : Grants t.uploads t.history) :
    Grants (t.handleRequest o r w).uploads (t.handleRequest o r w).history := by
  cases handleRequest_handles o t r w with
  | ignored heq => rwa [heq]
  | logsIn user password _ hlogs => exact hlogs.grants hs
  | logsOut _ heq =>
      rw [heq]
      exact hs.unrelated (a := .logout t.key) rfl
  | uploads hauthorized hlevel heq =>
      rw [heq]
      exact uploadfile_grants hs hauthorized hlevel
  | executes c _ _ hlogout hupload heq =>
      rw [heq]
      exact (execute_calls hlogout hupload).grants hs

theorem handleMessage_grants (hs : Grants t.uploads t.history) :
    Grants (t.handleMessage o w).uploads (t.handleMessage o w).history := by
  unfold handleMessage
  simp only
  split
  · exact hs
  · exact handleRequest_grants (t := { t with session := _ }) hs

theorem receiveByte_grants {b : UInt8} (hs : Grants t.uploads t.history) :
    Grants (t.receiveByte o w b).uploads (t.receiveByte o w b).history := by
  unfold receiveByte
  split
  · exact hs
  · split
    · split
      · split
        · exact hs
        · exact handleMessage_grants hs
      · exact hs
    · split
      · exact hs
      · exact hs

theorem receiveBytes_grants {worlds : Nat → World} {message : List UInt8}
    (hs : Grants t.uploads t.history) :
    Grants (t.receiveBytes o worlds message).uploads (t.receiveBytes o worlds message).history := by
  induction message generalizing t worlds with
  | nil => exact hs
  | cons b rest ih =>
      unfold receiveBytes
      split
      · exact hs
      · exact ih (receiveByte_grants hs)

end Turn

/-! ## The callbacks -/

namespace CommandPlugin

variable {o : Outside} {s s' : CommandPlugin} {c : Nat}

def Granting (s : CommandPlugin) : Prop := Grants s.uploadRequests s.history

theorem setRequest_granting (hs : s.Granting) {name : List UInt8} {request : UploadData}
    (hfound : s.uploadRequests name ≠ none)
    (hbuffer : request.outputbuffer = (s.request name).outputbuffer) :
    (s.setRequest name request).Granting := by
  obtain ⟨old, hold⟩ := Option.ne_none_iff_exists'.mp hfound
  refine Grants.modify hs hold ?_
  rw [hbuffer, CommandPlugin.request, hold]
  rfl

theorem setMessage_granting (hs : s.Granting) {name : List UInt8} (message : String)
    (hfound : s.uploadRequests name ≠ none) : (s.setMessage name message).Granting :=
  setRequest_granting hs hfound rfl

/-- A callback that finds no request makes one. -/
theorem refused_granting (hs : s.Granting) {name : List UInt8} (message : String)
    (hnone : s.uploadRequests name = none) :
    ((s.setMessage name message).act (.refused name)).Granting := by
  refine Grants.refuse hs name ?_
  show (s.request name).outputbuffer = none
  rw [CommandPlugin.request, hnone]
  rfl

theorem respondTo_granting (hs : s.Granting) (request : UploadData) (status reason : String)
    (data : List (String × String)) : (s.respondTo request status reason data).Granting := by
  unfold respondTo
  split
  · exact hs
  · exact hs

theorem openFile_granting (hs : s.Granting) {filename : List UInt8} (disk : Disk)
    (hclean : ¬ Leftover (filenameOf filename) s.history) :
    (s.openFile c filename disk).Granting := by
  have hhttp : ∀ connection, (s.setHttp c connection).Granting := fun _ => hs
  unfold openFile
  simp only
  split
  · next hnone => exact refused_granting (hhttp _) _ hnone
  · next request hrequest =>
      have hfound : s.uploadRequests (filenameOf filename) ≠ none := by
        intro hnone
        exact absurd (hrequest.symm.trans hnone) (Option.some_ne_none request)
      split
      · exact setMessage_granting (hhttp _) _ hfound
      · split
        · exact setMessage_granting (hhttp _) _ hfound
        · have hgranted : Granted (filenameOf filename) s.history := by
            rcases hs.requests _ request hrequest with hgranted | ⟨hleft, _⟩
            · exact hgranted
            · exact absurd hleft hclean
          have hopened := fun path => Grants.file hs (a := .opened (filenameOf filename) path) rfl
            hgranted
          split
          · exact setMessage_granting (s := CommandPlugin.act _ _) (hopened _) _ hfound
          · exact setRequest_granting (s := CommandPlugin.act _ _) (hopened _) hfound rfl

theorem skipContent_granting (hs : s.Granting) (final : Bool) :
    (s.skipContent c final).Granting := by
  have hmessage : ((if s.uploadRequests (s.http c).filename = none then
      s.act (.refused (s.http c).filename) else s).setMessage (s.http c).filename
        "Connection dropped").Granting := by
    split
    · next hnone => exact refused_granting hs _ hnone
    · next hfound => exact setMessage_granting hs _ hfound
  unfold skipContent
  cases final with
  | true =>
      refine setRequest_granting (s := setMessage _ _ _) hmessage ?_ rfl
      simp [setMessage, setRequest]
  | false => exact hmessage

theorem countContent_granting (hs : s.Granting) (len : Nat) : (s.countContent c len).Granting := by
  unfold countContent
  simp only
  split
  · exact hs
  · exact respondTo_granting (s := s.setHttp c _) hs ..

theorem finishFile_granting (hs : s.Granting) (disk : Disk)
    (hfound : s.uploadRequests (s.http c).filename ≠ none) : (s.finishFile c disk).Granting := by
  unfold finishFile
  simp only
  split
  · exact setMessage_granting hs _ hfound
  · exact hs

theorem writeContent_granting (hs : s.Granting) (len : Nat) (final : Bool) (disk : Disk) :
    (s.writeContent c len final disk).Granting := by
  unfold writeContent
  simp only
  split
  · exact skipContent_granting hs final
  · next hbuffer =>
      have hfound : s.uploadRequests (s.http c).filename ≠ none := by
        intro hnone
        apply hbuffer
        rw [CommandPlugin.request, hnone]
        rfl
      split
      · have hcount := countContent_granting (c := c) hs len
        have hfound' : (s.countContent c len).uploadRequests (s.http c).filename ≠ none := by
          rw [countContent_uploadRequests]
          exact hfound
        split
        · exact setMessage_granting hcount _ hfound'
        · -- there is a buffer only for a request that was granted
          have hgranted : Granted (s.http c).filename (s.countContent c len).history := by
            obtain ⟨request, hrequest⟩ := Option.ne_none_iff_exists'.mp hfound
            have hrequest' : (s.countContent c len).uploadRequests (s.http c).filename =
                some request := by
              rw [countContent_uploadRequests]
              exact hrequest
            rw [CommandPlugin.request, hrequest] at hbuffer
            exact hcount.granted_of_buffer hrequest' hbuffer
          have hwrote : ((s.countContent c len).act (.wrote (s.http c).filename)).Granting :=
            Grants.file hcount rfl hgranted
          split
          · refine finishFile_granting hwrote disk ?_
            show (s.countContent c len).uploadRequests ((s.countContent c len).http c).filename ≠
              none
            rw [countContent_filename]
            exact hfound'
          · exact hwrote
      · split
        · exact finishFile_granting hs disk hfound
        · exact hs

theorem dropProtocol_granting (hs : s.Granting) : (s.dropProtocol c).Granting := by
  have herase : ∀ name, ∀ s : CommandPlugin, s.Granting →
      ({ s with uploadRequests := eraseAll s.uploadRequests fun n => n = name }.act
        (.erased fun n => n = name)).Granting := by
    intro name s hs
    apply Grants.erase hs _
    intro n request hrequest
    simp only [act, eraseAll] at hrequest
    split at hrequest
    · cases hrequest
    · next hne => exact ⟨Bool.eq_false_iff.mpr hne, request, hrequest, id⟩
  unfold dropProtocol
  split
  · simp only
    split
    · exact hs
    · refine herase _ _ ?_
      split
      · exact respondTo_granting (s := s.setHttp c {}) hs ..
      · exact respondTo_granting (s := s.setHttp c {}) hs ..
  · exact hs

theorem closed_granting (hs : s.Granting) (key : Nat) : (s.closed key).Granting := by
  apply Grants.erase hs _
  intro name request' hrequest'
  simp only [closed, act, detachAll] at hrequest'
  split at hrequest'
  · cases hrequest'
  · next hnames =>
      obtain ⟨request, hrequest, rfl⟩ := Option.map_eq_some_iff.mp hrequest'
      exact ⟨Bool.eq_false_iff.mpr hnames, request, hrequest, fun _ => rfl⟩

/-! ## The laws -/

/-- No file is opened under a name for which a refused one has left a request. -/
def Proper (s : CommandPlugin) : Event → Prop
  | .fileUpload _ (.open filename) _ => ¬ Leftover (filenameOf filename) s.history
  | _ => True

instance decidableProper (s : CommandPlugin) : (e : Event) → Decidable (s.Proper e)
  | .fileUpload _ (.open filename) _ =>
      inferInstanceAs (Decidable (¬ Leftover (filenameOf filename) s.history))
  | .fileUpload _ (.content _) _ | .fileUpload _ (.finalContent _) _ | .established _ | .closed _
  | .receive .. | .httpBody .. | .dropProtocol _ => inferInstanceAs (Decidable True)

theorem granting_step (hs : s.Granting) {e : Event} (hproper : s.Proper e)
    (hstep : s.step o e = some s') : s'.Granting := by
  cases e with
  | established key =>
      simp only [step] at hstep
      split at hstep
      · cases hstep
        exact Grants.unrelated hs rfl
      · cases hstep
  | closed key =>
      simp only [step] at hstep
      split at hstep
      · cases hstep
      · cases hstep
        exact closed_granting hs key
  | receive key message worlds =>
      simp only [step] at hstep
      split at hstep
      · cases hstep
      · cases hstep
        exact Turn.receiveBytes_grants (t := { key, session := _, uploads := s.uploadRequests
                                               history := s.history }) hs
  | httpBody c created =>
      cases hstep
      unfold httpBody
      split
      · exact hs
      · exact hs
  | fileUpload c call disk =>
      simp only [step] at hstep
      split at hstep
      · cases hstep
        cases call with
        | «open» filename => exact openFile_granting hs disk hproper
        | content len => exact writeContent_granting hs len false disk
        | finalContent len => exact writeContent_granting hs len true disk
      · cases hstep
  | dropProtocol c =>
      cases hstep
      exact dropProtocol_granting hs

/-- **Upload authorization**: as long as no file is opened under a name for which a refused one has
left a request, files are opened and written to only under granted names. -/
theorem files_granted_of_proper (o : Outside) {es : List Event} {s : CommandPlugin}
    (run : Run (Guarded Proper (Steps (step o))) {} es s) : FilesGranted s.history := by
  have hgranting : s.Granting := by
    refine run.invariant (I := Granting) ?_
      ⟨trivial, fun name request hrequest => by cases hrequest⟩
    rintro s e s' hs ⟨hproper, hstep⟩
    exact granting_step hs hproper hstep
  exact hgranting.files

/-- The administrator asks for an upload, and the file is posted. -/
theorem files_granted_upload :
    ∃ (o : Outside) (es : List Event) (s : CommandPlugin),
      Run (Guarded Proper (Steps (step o))) {} es s ∧
        s.history.filterMap Act.fileName = [bytesOf "f", bytesOf "f"] ∧ FilesGranted s.history := by
  let o := portal [loginRequest, uploadRequest]
  let disk : Disk := { downloadPath := "/d" }
  let es : List Event :=
    [.established 7, .receive 7 (loginRequest.framed ++ uploadRequest.framed) fun _ => administered,
      .httpBody 1 true, .fileUpload 1 (.open (bytesOf "f")) disk,
      .fileUpload 1 (.finalContent 9) disk, .dropProtocol 1]
  have heval : (es.foldlM (guardedStep (fun s e => decide (s.Proper e)) (step o)) {}).map
      (fun s => s.history.filterMap Act.fileName) = some [bytesOf "f", bytesOf "f"] := by
    decide +kernel
  obtain ⟨s, hs, hnames⟩ := Option.map_eq_some_iff.mp heval
  have run : Run (Guarded Proper (Steps (step o))) {} es s :=
    (Run.guarded_of_foldlM hs).mono fun s e t hstep => ⟨of_decide_eq_true hstep.1, hstep.2⟩
  exact ⟨o, es, s, run, hnames, files_granted_of_proper o run⟩

/-- A file that was refused is opened when it is posted again, with no session at all. -/
theorem file_opened_after_refusal :
    ¬ ∀ (o : Outside) (es : List Event) (s : CommandPlugin), Run (Steps (step o)) {} es s →
      FilesGranted s.history := by
  intro h
  let disk : Disk := { downloadPath := "/d" }
  let es : List Event :=
    [.httpBody 1 true, .fileUpload 1 (.open (bytesOf "f")) disk,
      .fileUpload 1 (.open (bytesOf "f")) disk]
  have hgranted := h (portal []) es _ (.cons rfl (.cons rfl (.cons rfl .nil)))
  exact hgranted.1 (bytesOf "f") rfl

/-- What closing a session does to a request that is not its own. -/
theorem closed_uploadRequests (s : CommandPlugin) {key : Nat} {name : List UInt8}
    {request : UploadData} (hrequest : s.uploadRequests name = some request)
    (hbuffer : request.outputbuffer ≠ some key) :
    (s.closed key).uploadRequests name = some { request with outputbuffer := none } := by
  have howned : ownedIdle key s.uploadRequests name = false := by
    simp [ownedIdle, hrequest, hbuffer]
  simp [closed, act, detachAll, howned, hrequest]

/-- Closing a session leaves all requests that are not its own as they are. -/
def OthersKept (s : CommandPlugin) (key : Nat) : Prop :=
  ∀ name request, s.uploadRequests name = some request → request.outputbuffer ≠ some key →
    (s.closed key).uploadRequests name = some request

/-- **Session isolation**: it does so exactly if there is no request of another session. -/
theorem othersKept_iff (s : CommandPlugin) (key : Nat) :
    s.OthersKept key ↔ ∀ name request k, s.uploadRequests name = some request →
      request.outputbuffer = some k → k = key := by
  constructor
  · intro h name request k hrequest hk
    by_contra hne
    have hbuffer : request.outputbuffer ≠ some key := by
      rw [hk]
      exact fun heq => hne (Option.some.inj heq)
    have hkept := h name request hrequest hbuffer
    rw [s.closed_uploadRequests hrequest hbuffer] at hkept
    have hnone := congrArg UploadData.outputbuffer (Option.some.inj hkept)
    rw [hk] at hnone
    cases hnone
  · intro h name request hrequest hbuffer
    rw [s.closed_uploadRequests hrequest hbuffer]
    cases hcase : request.outputbuffer with
    | none => rw [← hcase]
    | some k =>
        rw [h name request k hrequest hcase] at hcase
        exact absurd hcase hbuffer

/-- A session that has asked for nothing closes, and the request of another loses its buffer. -/
theorem othersKept_of_run_false :
    ¬ ∀ (o : Outside) (es : List Event) (s : CommandPlugin) (key : Nat),
      Run (Steps (step o)) {} es s → s.sessions key ≠ none → s.OthersKept key := by
  intro h
  let o := portal [loginRequest, uploadRequest]
  let es : List Event :=
    [.established 7, .established 8,
      .receive 7 (loginRequest.framed ++ uploadRequest.framed) fun _ => administered]
  have heval : (es.foldlM (step o) {}).map (fun s => ((s.sessions 8).isSome,
      (s.uploadRequests (bytesOf "f")).map UploadData.outputbuffer)) =
        some (true, some (some 7)) := by
    decide +kernel
  obtain ⟨s, hs, hobs⟩ := Option.map_eq_some_iff.mp heval
  obtain ⟨hsession, hrequest⟩ := Prod.mk.inj hobs
  obtain ⟨request, hrequest, hbuffer⟩ := Option.map_eq_some_iff.mp hrequest
  have hother : request.outputbuffer ≠ some 8 := by
    rw [hbuffer]
    decide
  have hkept := h o es s 8 (Run.of_foldlM hs) (Option.isSome_iff_ne_none.mp hsession)
    (bytesOf "f") request hrequest hother
  rw [s.closed_uploadRequests hrequest hother] at hkept
  have hnone := congrArg UploadData.outputbuffer (Option.some.inj hkept)
  rw [hbuffer] at hnone
  cases hnone

end CommandPlugin

end V2XHub.Command
