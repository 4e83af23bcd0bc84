import V2XHub.Command.Plugin

/-!
# What the callbacks for files leave alone

`FileUploadCB` and the two HTTP callbacks work on the map of upload requests and the connections.
Of the sessions they change nothing but the output buffers.
-/

namespace V2XHub.Command

/-- The act is one of the callbacks for files. -/
def Act.ofFiles : Act → Bool
  | .erased _ | .refused _ | .opened .. | .wrote _ => true
  | _ => false

namespace CommandPlugin

variable {s s' s'' : CommandPlugin} {c : Nat}

/-- A session without its output buffer. -/
def inward (session : Session) : Session := { session with outputbuffer := [] }

/-- The sessions are as before but for their output buffers, and nothing has happened but to
files. -/
structure Quiet (s s' : CommandPlugin) : Prop where
  sessions : ∀ k, (s'.sessions k).map inward = (s.sessions k).map inward
  history : ∃ new, s'.history = new ++ s.history ∧ ∀ a ∈ new, a.ofFiles = true

namespace Quiet

theorem of_eq (hsessions : s'.sessions = s.sessions) (hhistory : s'.history = s.history) :
    Quiet s s' where
  sessions := fun k => by rw [hsessions]
  history := ⟨[], hhistory, fun _ ha => absurd ha List.not_mem_nil⟩

theorem trans (h : Quiet s s') (h' : Quiet s' s'') : Quiet s s'' where
  sessions := fun k => (h'.sessions k).trans (h.sessions k)
  history := by
    obtain ⟨new, hnew, hall⟩ := h.history
    obtain ⟨new', hnew', hall'⟩ := h'.history
    refine ⟨new' ++ new, by rw [hnew', hnew, List.append_assoc], ?_⟩
    intro a ha
    rcases List.mem_append.mp ha with ha | ha
    · exact hall' a ha
    · exact hall a ha

theorem act (h : Quiet s s') {a : Act} (ha : a.ofFiles = true) : Quiet s (s'.act a) := by
  refine h.trans ⟨fun k => rfl, [a], rfl, fun b hb => ?_⟩
  rw [List.mem_singleton.mp hb]
  exact ha

theorem setHttp (h : Quiet s s') (c : Nat) (connection : HttpConnection) :
    Quiet s (s'.setHttp c connection) := h.trans (.of_eq rfl rfl)

theorem setRequest (h : Quiet s s') (name : List UInt8) (request : UploadData) :
    Quiet s (s'.setRequest name request) := h.trans (.of_eq rfl rfl)

theorem setMessage (h : Quiet s s') (name : List UInt8) (message : String) :
    Quiet s (s'.setMessage name message) := h.trans (.of_eq rfl rfl)

theorem respondTo (h : Quiet s s') (request : UploadData) (status reason : String)
    (data : List (String × String)) : Quiet s (s'.respondTo request status reason data) := by
  unfold CommandPlugin.respondTo
  split
  · exact h
  · next key _ =>
      refine h.trans ⟨fun k => ?_, [], rfl, fun _ ha => absurd ha List.not_mem_nil⟩
      by_cases hk : k = key
      · subst hk
        simp only [Function.update_self, Option.map_map]
        rfl
      · simp only [Function.update_of_ne hk]

/-- A session afterwards is one from before with another output buffer. -/
theorem session (h : Quiet s s') {k : Nat} {session' : Session}
    (hsession' : s'.sessions k = some session') :
    ∃ outputbuffer, s.sessions k = some { session' with outputbuffer } := by
  have hmap := h.sessions k
  rw [hsession', Option.map_some, eq_comm, Option.map_eq_some_iff] at hmap
  obtain ⟨session, hsession, hinward⟩ := hmap
  refine ⟨session.outputbuffer, ?_⟩
  rw [hsession]
  unfold inward at hinward
  rw [Session.mk.injEq] at hinward
  obtain ⟨hbuffer, hauthorized, hlevel, _, hreceived, hparsed⟩ := hinward
  rw [← hbuffer, ← hauthorized, ← hlevel, ← hreceived, ← hparsed]

end Quiet

theorem openFile_quiet (filename : List UInt8) (disk : Disk) :
    Quiet s (s.openFile c filename disk) := by
  have hname : Quiet s (s.setHttp c { s.http c with filename := filenameOf filename }) :=
    .of_eq rfl rfl
  unfold openFile
  simp only
  split
  · exact (hname.setMessage ..).act rfl
  · split
    · exact hname.setMessage ..
    · split
      · exact hname.setMessage ..
      · have hopened := (hname.setHttp c { s.http c with
          filename := filenameOf filename, fd := disk.fd }).act
            (a := .opened (filenameOf filename)
              (openPath disk.downloadPath (filenameOf filename))) rfl
        split
        · exact hopened.trans (.of_eq rfl rfl)
        · exact hopened.trans (.of_eq rfl rfl)

theorem skipContent_quiet (final : Bool) : Quiet s (s.skipContent c final) := by
  have hmade : Quiet s (if s.uploadRequests (s.http c).filename = none then
      s.act (.refused (s.http c).filename) else s) := by
    split
    · exact (Quiet.of_eq rfl rfl).act (a := .refused _) rfl
    · exact .of_eq rfl rfl
  have hmessage := hmade.setMessage (s.http c).filename "Connection dropped"
  unfold skipContent
  refine Quiet.setHttp ?_ ..
  cases final with
  | true => exact hmessage.setRequest ..
  | false => exact hmessage

theorem countContent_quiet (len : Nat) : Quiet s (s.countContent c len) := by
  unfold countContent
  simp only
  split
  · exact .of_eq rfl rfl
  · exact ((Quiet.of_eq rfl rfl).setHttp ..).respondTo ..

theorem countContent_uploadRequests (s : CommandPlugin) (c len : Nat) :
    (s.countContent c len).uploadRequests = s.uploadRequests := by
  unfold countContent
  simp only
  split
  · rfl
  · unfold respondTo
    split
    · rfl
    · rfl

/-- Of the connection only the count and the percentage change. -/
theorem countContent_http (s : CommandPlugin) (c len : Nat) :
    ∃ lastPercentSent, (s.countContent c len).http c =
      { s.http c with fileLength := (s.http c).fileLength + len, lastPercentSent } := by
  unfold countContent
  simp only
  split
  · exact ⟨(s.http c).lastPercentSent, by simp [setHttp]⟩
  · next percent _ =>
      refine ⟨percent, ?_⟩
      unfold respondTo
      split
      · simp [setHttp]
      · simp [setHttp]

theorem countContent_filename (s : CommandPlugin) (c len : Nat) :
    ((s.countContent c len).http c).filename = (s.http c).filename := by
  obtain ⟨lastPercentSent, h⟩ := countContent_http s c len
  rw [h]

theorem finishFile_quiet (disk : Disk) : Quiet s (s.finishFile c disk) := by
  unfold finishFile
  simp only
  split
  · exact .of_eq rfl rfl
  · exact .of_eq rfl rfl

theorem writeContent_quiet (len : Nat) (final : Bool) (disk : Disk) :
    Quiet s (s.writeContent c len final disk) := by
  unfold writeContent
  simp only
  split
  · exact skipContent_quiet final
  · split
    · have hcount : Quiet s (s.countContent c len) := countContent_quiet len
      split
      · exact (hcount.setMessage ..).setHttp ..
      · have hwrote := hcount.act (a := .wrote (s.http c).filename) rfl
        split
        · exact hwrote.trans (finishFile_quiet disk)
        · exact hwrote
    · split
      · exact finishFile_quiet disk
      · exact .of_eq rfl rfl

theorem fileUpload_quiet (call : UploadCall) (disk : Disk) :
    Quiet s (s.fileUpload c call disk) := by
  cases call with
  | «open» filename => exact openFile_quiet filename disk
  | content len => exact writeContent_quiet len false disk
  | finalContent len => exact writeContent_quiet len true disk

theorem httpBody_quiet (created : Bool) : Quiet s (s.httpBody c created) := by
  unfold httpBody
  split
  · exact .of_eq rfl rfl
  · exact .of_eq rfl rfl

theorem dropProtocol_quiet : Quiet s (s.dropProtocol c) := by
  unfold dropProtocol
  split
  · have hhttp : Quiet s (s.setHttp c {}) := .of_eq rfl rfl
    simp only
    split
    · exact hhttp
    · next request _ =>
        have hrespond : Quiet s (if request.message = "" then
            (s.setHttp c {}).respondTo request "success" "" [("state", "upload")]
            else (s.setHttp c {}).respondTo request "failed" request.message
              [("state", "upload")]) := by
          split
          · exact hhttp.respondTo ..
          · exact hhttp.respondTo ..
        refine Quiet.act (a := .erased _) (hrespond.trans ?_) rfl
        exact .of_eq rfl rfl
  · exact .of_eq rfl rfl

end CommandPlugin

end V2XHub.Command
