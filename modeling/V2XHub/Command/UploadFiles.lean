import V2XHub.Command.FileCallbacks

/-!
# What becomes of an uploaded file

`FileUploadCB` puts a path together in three places: where it opens the file, where the file is
copied from, and where it is copied to. The first takes a download path that ends in a slash for the
path of the file itself. The copy is made also where it goes to the file it comes from, and then
that file is removed.

Files are told apart by `locate`, which says what file a path leads to. The calls of the file system
do what they are for, or fail as the outside says.
-/

namespace V2XHub.Command

open CommandPlugin (openPath filenameOf)

/-- A call of `FileUploadCB` with the bytes it brings. -/
inductive Posted where
  | «open» (filename : List UInt8)
  | content (buf : List UInt8)
  | finalContent (buf : List UInt8)

def Posted.call : Posted → UploadCall
  | .open filename => .open filename
  | .content buf => .content buf.length
  | .finalContent buf => .finalContent buf.length

/-- A folder, a slash if it does not end in one, and a name. -/
def joinPath (folder name : List UInt8) : List UInt8 :=
  if folder.getLast? = some slash then folder ++ name else folder ++ slash :: name

/-- `toFile`. -/
def toFile (outdir : String) (request : UploadData) : List UInt8 :=
  joinPath (bytesOf (if request.destinationPath = "" then outdir else request.destinationPath))
    (bytesOf request.destinationFileName)

/-- The file that the request names. -/
def namedPath (downloadPath : String) (name : List UInt8) (request : UploadData) : List UInt8 :=
  if request.destinationFileName = "" then joinPath (bytesOf downloadPath) name
  else toFile downloadPath request

/-- The plugin and the files. `opened`: the file behind the descriptor of each connection. -/
structure Uploading (Loc : Type) where
  plugin : CommandPlugin
  files : Loc → Option (List UInt8)
  opened : Nat → Option Loc

namespace Uploading

variable {Loc : Type} [DecidableEq Loc] (locate : List UInt8 → Loc)

/-- `open` with `O_CREAT | O_TRUNC`. -/
def openAt (u : Uploading Loc) (c : Nat) (path : List UInt8) : Uploading Loc :=
  { u with
    files := Function.update u.files (locate path) (some [])
    opened := Function.update u.opened c (some (locate path)) }

/-- `write`. -/
def write (u : Uploading Loc) (c : Nat) (buf : List UInt8) : Uploading Loc :=
  match u.opened c with
  | none => u
  | some file => { u with files := Function.update u.files file ((u.files file).map (· ++ buf)) }

/-- `copy_file`. -/
def copyFile (u : Uploading Loc) (fromFile toFile : List UInt8) : Uploading Loc :=
  { u with files := Function.update u.files (locate toFile) (u.files (locate fromFile)) }

/-- `remove`. -/
def remove (u : Uploading Loc) (path : List UInt8) : Uploading Loc :=
  { u with files := Function.update u.files (locate path) none }

/-- The files in `moveFile`. After a copy that failed the file is removed too. -/
def move (u : Uploading Loc) (request : UploadData) (name : List UInt8) (disk : Disk) :
    Uploading Loc :=
  let fromFile := joinPath (bytesOf disk.downloadPath) name
  if request.destinationFileName = "" then u
  else if request.destinationPath ≠ "" ∧ disk.destinationOk = false then u
  else
    let u :=
      if disk.copyOk then u.copyFile locate fromFile (toFile disk.downloadPath request) else u
    if disk.removeOk then u.remove locate fromFile else u

/-- The files in `openFile`. -/
def openFiles (u : Uploading Loc) (c : Nat) (filename : List UInt8) (disk : Disk) : Uploading Loc :=
  let name := filenameOf filename
  if u.plugin.uploadRequests name = none then u
  else if disk.downloadPath = "" then u
  else if disk.folderOk = false then u
  else if disk.fd < 0 then u
  else u.openAt locate c (openPath disk.downloadPath name)

/-- The files in `finishFile`. -/
def finishFiles (u : Uploading Loc) (c : Nat) (disk : Disk) : Uploading Loc :=
  let name := (u.plugin.http c).filename
  if (u.plugin.http c).fd ≥ 0 then u.move locate (u.plugin.request name) name disk else u

/-- The files in `writeContent`. -/
def writeFiles (u : Uploading Loc) (c : Nat) (buf : List UInt8) (final : Bool) (disk : Disk) :
    Uploading Loc :=
  let name := (u.plugin.http c).filename
  if (u.plugin.request name).outputbuffer = none then u
  else if buf.length > 0 ∧ (u.plugin.http c).fd ≥ 0 then
    if ((u.plugin.countContent c buf.length).http c).fileLength > 100000000 then u
    else
      let u := u.write c buf
      if final then u.finishFiles locate c disk else u
  else if final then u.finishFiles locate c disk
  else u

/-- A call, in the plugin and among the files. -/
def step (u : Uploading Loc) (c : Nat) (disk : Disk) (posted : Posted) : Uploading Loc :=
  let v :=
    match posted with
    | .open filename => u.openFiles locate c filename disk
    | .content buf => u.writeFiles locate c buf false disk
    | .finalContent buf => u.writeFiles locate c buf true disk
  { v with plugin := u.plugin.fileUpload c posted.call disk }

def steps (u : Uploading Loc) (c : Nat) (disk : Disk) (calls : List Posted) : Uploading Loc :=
  calls.foldl (fun u posted => u.step locate c disk posted) u

/-- A file: it is opened, and its content comes in pieces. -/
def upload (u : Uploading Loc) (c : Nat) (disk : Disk) (name : List UInt8)
    (chunks : List (List UInt8)) (last : List UInt8) : Uploading Loc :=
  u.steps locate c disk (.open name :: (chunks.map .content ++ [.finalContent last]))

/-- A connection whose parser has just been made. -/
def fresh : HttpConnection := { spa := true }

/-- What is to hold of a request: the content ends up in the file that it names, whatever files
there were. -/
def Delivers (disk : Disk) (name : List UInt8) (request : UploadData)
    (chunks : List (List UInt8)) (last : List UInt8) : Prop :=
  ∀ (u : Uploading Loc) (c : Nat), u.plugin.uploadRequests name = some request →
    u.plugin.http c = fresh →
      (u.upload locate c disk name chunks last).files
          (locate (namedPath disk.downloadPath name request)) =
        some (chunks.flatten ++ last)

/-- The condition: the name fits, the file is opened where it is looked for, and it is not copied
onto itself. -/
def Consistent (downloadPath : String) (name : List UInt8) (request : UploadData) : Prop :=
  filenameOf name = name ∧
    locate (openPath downloadPath name) = locate (joinPath (bytesOf downloadPath) name) ∧
      (request.destinationFileName = "" ∨
        locate (toFile downloadPath request) ≠ locate (joinPath (bytesOf downloadPath) name))

end Uploading

/-- No call of the file system fails. -/
structure Disk.Works (disk : Disk) : Prop where
  folderOk : disk.folderOk = true
  fd : 0 ≤ disk.fd
  destinationOk : disk.destinationOk = true
  copyOk : disk.copyOk = true
  removeOk : disk.removeOk = true

namespace Uploading

variable {Loc : Type} [DecidableEq Loc] {locate : List UInt8 → Loc}

/-- A path that does not end in a slash is opened where the file is looked for. -/
theorem openPath_eq {downloadPath : String} (h : (bytesOf downloadPath).getLast? ≠ some slash)
    (name : List UInt8) : openPath downloadPath name = joinPath (bytesOf downloadPath) name := by
  unfold openPath joinPath
  rw [if_neg h, if_neg h]

/-! ## While the content comes -/

/-- The file has been opened at `file`, and this much of it has come. -/
structure Receiving (files : Loc → Option (List UInt8)) (c : Nat) (name : List UInt8)
    (request : UploadData) (file : Loc) (content : List UInt8) (u : Uploading Loc) : Prop where
  request : u.plugin.uploadRequests name = some request
  filename : (u.plugin.http c).filename = name
  fd : 0 ≤ (u.plugin.http c).fd
  fileLength : (u.plugin.http c).fileLength = content.length
  opened : u.opened c = some file
  files : u.files = Function.update files file (some content)

variable {files : Loc → Option (List UInt8)} {u : Uploading Loc} {c : Nat} {name : List UInt8}
  {request : UploadData} {file : Loc} {content buf : List UInt8} {disk : Disk}

theorem receiving_open (locate : List UInt8 → Loc) (hdisk : disk.Works)
    (hpath : disk.downloadPath ≠ "") (hname : filenameOf name = name)
    (hrequest : u.plugin.uploadRequests name = some request) (hfresh : u.plugin.http c = fresh) :
    Receiving u.files c name { request with uploading := true }
      (locate (openPath disk.downloadPath name)) [] (u.step locate c disk (.open name)) := by
  have hfd := hdisk.fd
  have hfolder : ¬ disk.folderOk = false := by simp [hdisk.folderOk]
  have hfiles : u.openFiles locate c name disk =
      u.openAt locate c (openPath disk.downloadPath name) := by
    unfold openFiles
    simp only [hname, hrequest]
    rw [if_neg (by simp), if_neg hpath, if_neg hfolder, if_neg (by omega)]
  have hplugin : ∃ history, u.plugin.fileUpload c (.open name) disk =
      { (u.plugin.setHttp c { fresh with filename := name, fd := disk.fd }).setRequest name
          { request with uploading := true } with history } := by
    show ∃ history, u.plugin.openFile c name disk = _
    unfold CommandPlugin.openFile
    simp only [hname, CommandPlugin.setHttp, hrequest, hfresh]
    rw [if_neg hpath, if_neg hfolder, if_neg (by omega)]
    simp only [CommandPlugin.act, CommandPlugin.request, CommandPlugin.setRequest, hrequest,
      Function.update_self, Function.update_idem, Option.getD_some]
    exact ⟨_, rfl⟩
  obtain ⟨history, hplugin⟩ := hplugin
  have hstep : u.step locate c disk (.open name) =
      { u.openAt locate c (openPath disk.downloadPath name) with
        plugin := u.plugin.fileUpload c (.open name) disk } := by
    show { u.openFiles locate c name disk with
      plugin := u.plugin.fileUpload c (.open name) disk } = _
    rw [hfiles]
  rw [hstep, hplugin]
  exact
    { request := if_pos rfl
      filename := by simp [CommandPlugin.setRequest, CommandPlugin.setHttp]
      fd := by simpa [CommandPlugin.setRequest, CommandPlugin.setHttp] using hfd
      fileLength := by simp [CommandPlugin.setRequest, CommandPlugin.setHttp, fresh]
      opened := Function.update_self ..
      files := rfl }

theorem Receiving.request_eq (h : Receiving files c name request file content u) :
    u.plugin.request name = request := by
  unfold CommandPlugin.request
  rw [h.request]
  rfl

theorem Receiving.not_too_large (h : Receiving files c name request file content u)
    (hsize : content.length + buf.length ≤ 100000000) :
    ¬ ((u.plugin.countContent c buf.length).http c).fileLength > 100000000 := by
  obtain ⟨lastPercentSent, hhttp⟩ := CommandPlugin.countContent_http u.plugin c buf.length
  rw [hhttp]
  show ¬ (u.plugin.http c).fileLength + buf.length > 100000000
  rw [h.fileLength]
  omega

/-- What a piece of content does to the files. -/
theorem Receiving.writeFiles_eq (h : Receiving files c name request file content u)
    (hbuffer : request.outputbuffer ≠ none) (hsize : content.length + buf.length ≤ 100000000) :
    u.writeFiles locate c buf false disk =
      { u with files := Function.update files file (some (content ++ buf)) } := by
  have hlength := h.not_too_large hsize
  unfold writeFiles
  simp only [h.filename, h.request_eq]
  rw [if_neg hbuffer]
  by_cases hempty : buf = []
  · subst hempty
    rw [if_neg (by simp), if_neg Bool.false_ne_true, List.append_nil, ← h.files]
  · have hpos : buf.length > 0 := List.length_pos_iff.mpr hempty
    rw [if_pos ⟨hpos, h.fd⟩, if_neg hlength, if_neg Bool.false_ne_true]
    unfold write
    simp only [h.opened, h.files, Function.update_self, Function.update_idem]
    rfl

/-- The last piece finishes the file besides. -/
theorem Receiving.writeFiles_final (h : Receiving files c name request file content u)
    (hbuffer : request.outputbuffer ≠ none) (hsize : content.length + buf.length ≤ 100000000) :
    u.writeFiles locate c buf true disk =
      (u.writeFiles locate c buf false disk).finishFiles locate c disk := by
  have hlength := h.not_too_large hsize
  unfold writeFiles
  simp only [h.filename, h.request_eq]
  rw [if_neg hbuffer, if_neg hbuffer]
  by_cases hpos : buf.length > 0 ∧ (u.plugin.http c).fd ≥ 0
  · rw [if_pos hpos, if_pos hpos, if_neg hlength, if_neg hlength]
    rfl
  · rw [if_neg hpos, if_neg hpos]
    rfl

/-- What it does to the plugin: the bytes are counted. -/
theorem Receiving.writeContent_eq (h : Receiving files c name request file content u)
    (hbuffer : request.outputbuffer ≠ none) (hsize : content.length + buf.length ≤ 100000000) :
    u.plugin.writeContent c buf.length false disk =
      if buf.length > 0 then (u.plugin.countContent c buf.length).act (.wrote name)
      else u.plugin := by
  unfold CommandPlugin.writeContent
  simp only [h.filename, h.request_eq]
  rw [if_neg hbuffer]
  by_cases hpos : buf.length > 0
  · rw [if_pos ⟨hpos, h.fd⟩, if_neg (h.not_too_large hsize), if_pos hpos]
    rfl
  · rw [if_neg fun hboth => hpos hboth.1, if_neg hpos]
    rfl

theorem Receiving.writeContent_http (disk : Disk)
    (h : Receiving files c name request file content u)
    (hbuffer : request.outputbuffer ≠ none) (hsize : content.length + buf.length ≤ 100000000) :
    (u.plugin.writeContent c buf.length false disk).uploadRequests = u.plugin.uploadRequests ∧
      ∃ lastPercentSent, (u.plugin.writeContent c buf.length false disk).http c =
        { u.plugin.http c with
          fileLength := (u.plugin.http c).fileLength + buf.length, lastPercentSent } := by
  rw [h.writeContent_eq hbuffer hsize]
  split
  · exact ⟨CommandPlugin.countContent_uploadRequests u.plugin c buf.length,
      CommandPlugin.countContent_http u.plugin c buf.length⟩
  · next hempty =>
      have hzero : buf.length = 0 := by omega
      rw [hzero]
      exact ⟨rfl, (u.plugin.http c).lastPercentSent, rfl⟩

theorem Receiving.more (h : Receiving files c name request file content u)
    (hbuffer : request.outputbuffer ≠ none) (hsize : content.length + buf.length ≤ 100000000) :
    Receiving files c name request file (content ++ buf)
      (u.step locate c disk (.content buf)) := by
  obtain ⟨hrequests, lastPercentSent, hhttp⟩ := h.writeContent_http disk hbuffer hsize
  have hstep : u.step locate c disk (.content buf) =
      { u with
        plugin := u.plugin.writeContent c buf.length false disk
        files := Function.update files file (some (content ++ buf)) } := by
    show { u.writeFiles locate c buf false disk with
      plugin := u.plugin.writeContent c buf.length false disk } = _
    rw [h.writeFiles_eq hbuffer hsize]
  rw [hstep]
  refine ⟨?_, ?_, ?_, ?_, h.opened, rfl⟩
  · show (u.plugin.writeContent c buf.length false disk).uploadRequests name = some request
    rw [hrequests]
    exact h.request
  · show ((u.plugin.writeContent c buf.length false disk).http c).filename = name
    rw [hhttp]
    exact h.filename
  · show 0 ≤ ((u.plugin.writeContent c buf.length false disk).http c).fd
    rw [hhttp]
    exact h.fd
  · show ((u.plugin.writeContent c buf.length false disk).http c).fileLength = _
    rw [hhttp, List.length_append, ← h.fileLength]

theorem Receiving.chunks (locate : List UInt8 → Loc) (disk : Disk)
    (h : Receiving files c name request file content u)
    (hbuffer : request.outputbuffer ≠ none) (chunks : List (List UInt8))
    (hsize : content.length + chunks.flatten.length ≤ 100000000) :
    Receiving files c name request file (content ++ chunks.flatten)
      (u.steps locate c disk (chunks.map .content)) := by
  induction chunks generalizing u content with
  | nil =>
      rw [List.flatten_nil, List.append_nil]
      exact h
  | cons buf chunks ih =>
      rw [List.flatten_cons, List.length_append] at hsize
      have hmore : Receiving files c name request file (content ++ buf)
          (u.step locate c disk (.content buf)) := h.more hbuffer (by omega)
      rw [List.flatten_cons, ← List.append_assoc]
      exact ih hmore (by rw [List.length_append]; omega)

/-! ## The whole file -/

/-- The files after an upload: the content is where it was opened, and then moved. -/
def filesAfter (locate : List UInt8 → Loc) (files : Loc → Option (List UInt8))
    (downloadPath : String) (name : List UInt8) (request : UploadData) (content : List UInt8) :
    Loc → Option (List UInt8) :=
  let files := Function.update files (locate (openPath downloadPath name)) (some content)
  if request.destinationFileName = "" then files
  else
    let source := locate (joinPath (bytesOf downloadPath) name)
    Function.update
      (Function.update files (locate (toFile downloadPath request)) (files source)) source none

theorem move_files (hdisk : disk.Works) (u : Uploading Loc) (request : UploadData)
    (name : List UInt8) :
    (u.move locate request name disk).files =
      if request.destinationFileName = "" then u.files
      else
        Function.update (Function.update u.files (locate (toFile disk.downloadPath request))
          (u.files (locate (joinPath (bytesOf disk.downloadPath) name))))
            (locate (joinPath (bytesOf disk.downloadPath) name)) none := by
  have hdestination : ¬ (request.destinationPath ≠ "" ∧ disk.destinationOk = false) := by
    simp [hdisk.destinationOk]
  unfold move
  by_cases hsame : request.destinationFileName = ""
  · rw [if_pos hsame, if_pos hsame]
  · rw [if_neg hsame, if_neg hdestination, if_neg hsame, hdisk.copyOk, hdisk.removeOk]
    rfl

theorem upload_files (hdisk : disk.Works) (hpath : disk.downloadPath ≠ "")
    (hname : filenameOf name = name) (hbuffer : request.outputbuffer ≠ none)
    (hrequest : u.plugin.uploadRequests name = some request) (hfresh : u.plugin.http c = fresh)
    (chunks : List (List UInt8)) (last : List UInt8)
    (hsize : (chunks.flatten ++ last).length ≤ 100000000) :
    (u.upload locate c disk name chunks last).files =
      filesAfter locate u.files disk.downloadPath name request (chunks.flatten ++ last) := by
  rw [List.length_append] at hsize
  have hopen := receiving_open locate hdisk hpath hname hrequest hfresh
  have hflat : ([] : List UInt8).length + chunks.flatten.length ≤ 100000000 := by
    rw [List.length_nil]
    omega
  have hreceived := hopen.chunks locate disk hbuffer chunks hflat
  rw [List.nil_append] at hreceived
  generalize hv : (u.step locate c disk (.open name)).steps locate c disk (chunks.map .content) = v
    at hreceived
  have hupload : (u.upload locate c disk name chunks last).files =
      (v.writeFiles locate c last true disk).files := by
    rw [← hv]
    unfold upload steps
    rw [List.foldl_cons, List.foldl_append]
    rfl
  rw [hupload, hreceived.writeFiles_final hbuffer hsize, hreceived.writeFiles_eq hbuffer hsize]
  unfold finishFiles
  simp only [hreceived.filename, hreceived.request_eq]
  rw [if_pos hreceived.fd, move_files hdisk]
  rfl

/-! ## A file that is refused -/

/-- The request of the connection has no session. -/
def Refused (c : Nat) (plugin : CommandPlugin) : Prop :=
  (plugin.request (plugin.http c).filename).outputbuffer = none

theorem request_setRequest (plugin : CommandPlugin) (name : List UInt8) (request : UploadData) :
    (plugin.setRequest name request).request name = request := by
  unfold CommandPlugin.setRequest CommandPlugin.request
  simp

theorem refused_open {plugin : CommandPlugin} {filename : List UInt8}
    (hnone : plugin.uploadRequests (filenameOf filename) = none) :
    Refused c (plugin.openFile c filename disk) := by
  unfold CommandPlugin.openFile
  simp only [CommandPlugin.setHttp, hnone]
  unfold Refused CommandPlugin.setMessage
  simp only [CommandPlugin.act, CommandPlugin.setRequest, Function.update_self]
  simp [CommandPlugin.request, hnone]

theorem Refused.setMessage {plugin : CommandPlugin} (h : Refused c plugin) (message : String) :
    Refused c (plugin.setMessage (plugin.http c).filename message) := by
  show ((plugin.setMessage (plugin.http c).filename message).request
    (plugin.http c).filename).outputbuffer = none
  unfold CommandPlugin.setMessage
  rw [request_setRequest]
  exact h

theorem Refused.skipContent {plugin : CommandPlugin} (h : Refused c plugin) (final : Bool) :
    Refused c (plugin.skipContent c final) := by
  have hmade : ∀ p : CommandPlugin, p.http = plugin.http → Refused c p →
      Refused c ((if final then p.setRequest (plugin.http c).filename
          { p.request (plugin.http c).filename with uploading := false } else p).setHttp c
            { plugin.http c with fd := CommandPlugin.invalidFile }) := by
    intro p hhttp hp
    unfold Refused at hp ⊢
    rw [hhttp] at hp
    simp only [CommandPlugin.setHttp, Function.update_self]
    split
    · show ((p.setRequest (plugin.http c).filename _).request _).outputbuffer = none
      rw [request_setRequest]
      exact hp
    · exact hp
  have hfound : Refused c ((if plugin.uploadRequests (plugin.http c).filename = none then
      plugin.act (.refused (plugin.http c).filename) else plugin).setMessage
        (plugin.http c).filename "Connection dropped") := by
    split
    · have hact : Refused c (plugin.act (.refused (plugin.http c).filename)) := h
      exact hact.setMessage "Connection dropped"
    · exact h.setMessage "Connection dropped"
  unfold CommandPlugin.skipContent
  simp only
  have hhttp : ((if plugin.uploadRequests (plugin.http c).filename = none then
      plugin.act (.refused (plugin.http c).filename) else plugin).setMessage
        (plugin.http c).filename "Connection dropped").http = plugin.http := by
    split <;> rfl
  have hsame : ∀ p : CommandPlugin, p.http = plugin.http →
      (if final then p.setRequest (plugin.http c).filename
        { p.request (plugin.http c).filename with uploading := false } else p).http c =
          plugin.http c := by
    intro p hp
    split <;> exact congrFun hp c
  rw [hsame _ hhttp]
  exact hmade _ hhttp hfound

theorem Refused.writeContent {plugin : CommandPlugin} (h : Refused c plugin) (len : Nat)
    (final : Bool) : Refused c (plugin.writeContent c len final disk) := by
  have hskip : plugin.writeContent c len final disk = plugin.skipContent c final := by
    unfold CommandPlugin.writeContent
    exact if_pos h
  rw [hskip]
  exact h.skipContent final

/-- Nothing is written. -/
theorem Refused.writeFiles_eq (h : Refused c u.plugin) (buf : List UInt8) (final : Bool) :
    u.writeFiles locate c buf final disk = u := by
  unfold writeFiles
  exact if_pos h

theorem refused_steps (h : Refused c u.plugin) (chunks : List (List UInt8)) (last : List UInt8) :
    (u.steps locate c disk (chunks.map .content ++ [.finalContent last])).files = u.files := by
  induction chunks generalizing u with
  | nil =>
      show (u.writeFiles locate c last true disk).files = u.files
      rw [h.writeFiles_eq]
  | cons buf chunks ih =>
      have hnext : Refused c (u.step locate c disk (.content buf)).plugin :=
        h.writeContent buf.length false
      have hfiles : (u.step locate c disk (.content buf)).files = u.files := by
        show (u.writeFiles locate c buf false disk).files = u.files
        rw [h.writeFiles_eq]
      rw [← hfiles]
      exact ih hnext

/-- Without a request of that name the files stay as they are. -/
theorem upload_refused (hnone : u.plugin.uploadRequests (filenameOf name) = none)
    (chunks : List (List UInt8)) (last : List UInt8) :
    (u.upload locate c disk name chunks last).files = u.files := by
  have hopen : Refused c (u.step locate c disk (.open name)).plugin := refused_open hnone
  have hfiles : (u.step locate c disk (.open name)).files = u.files := by
    show (u.openFiles locate c name disk).files = u.files
    unfold openFiles
    rw [if_pos hnone]
  rw [← hfiles]
  exact refused_steps hopen chunks last

/-! ## The law -/

/-- A plugin with this request and these files only. -/
def only (name : List UInt8) (request : UploadData) (files : Loc → Option (List UInt8)) :
    Uploading Loc where
  plugin :=
    { uploadRequests := fun n => if n = name then some request else none
      http := fun _ => fresh }
  files := files
  opened := fun _ => none

omit [DecidableEq Loc] in
theorem only_request (name : List UInt8) (request : UploadData)
    (files : Loc → Option (List UInt8)) :
    (only name request files).plugin.uploadRequests name = some request := if_pos rfl

/-- **Uploads**: the content ends up in the file that the request names, whatever files there were,
exactly if the paths fit together. -/
theorem delivers_iff (locate : List UInt8 → Loc) {disk : Disk} (hdisk : disk.Works)
    (hpath : disk.downloadPath ≠ "") (name : List UInt8) {request : UploadData}
    (hbuffer : request.outputbuffer ≠ none) (chunks : List (List UInt8)) (last : List UInt8)
    (hsize : (chunks.flatten ++ last).length ≤ 100000000) :
    Delivers locate disk name request chunks last ↔
      Consistent locate disk.downloadPath name request := by
  constructor
  · intro hdelivers
    have hfits : filenameOf name = name := by
      by_contra hlong
      have hlost := hdelivers (only name request fun _ => none) 0 (only_request ..) rfl
      rw [upload_refused (if_neg hlong)] at hlost
      cases hlost
    -- other content where the file is looked for
    have hfiles := hdelivers
      (only name request fun _ => some (0 :: (chunks.flatten ++ last))) 0 (only_request ..) rfl
    rw [upload_files hdisk hpath hfits hbuffer (only_request ..) rfl chunks last hsize] at hfiles
    have hother : (some (0 :: (chunks.flatten ++ last)) : Option (List UInt8)) ≠
        some (chunks.flatten ++ last) := by
      intro heq
      have hlength := congrArg List.length (Option.some.inj heq)
      rw [List.length_cons] at hlength
      omega
    unfold filesAfter namedPath only at hfiles
    by_cases hsame : request.destinationFileName = ""
    · rw [if_pos hsame, if_pos hsame] at hfiles
      refine ⟨hfits, ?_, .inl hsame⟩
      by_contra hopened
      rw [Function.update_of_ne (Ne.symm hopened)] at hfiles
      exact hother hfiles
    · rw [if_neg hsame, if_neg hsame] at hfiles
      have hmoved : locate (toFile disk.downloadPath request) ≠
          locate (joinPath (bytesOf disk.downloadPath) name) := by
        intro hsource
        rw [hsource, Function.update_self] at hfiles
        cases hfiles
      refine ⟨hfits, ?_, .inr hmoved⟩
      rw [Function.update_of_ne hmoved, Function.update_self] at hfiles
      by_contra hopened
      rw [Function.update_of_ne (Ne.symm hopened)] at hfiles
      exact hother hfiles
  · rintro ⟨hfits, hopened, hmoved⟩ u c hrequest hfresh
    rw [upload_files hdisk hpath hfits hbuffer hrequest hfresh chunks last hsize]
    unfold filesAfter namedPath
    by_cases hsame : request.destinationFileName = ""
    · rw [if_pos hsame, if_pos hsame, hopened, Function.update_self]
    · have hother := hmoved.resolve_left hsame
      rw [if_neg hsame, if_neg hsame, Function.update_of_ne hother, Function.update_self, hopened,
        Function.update_self]

/-- A download path without a slash at its end. -/
def downloads : Disk where
  downloadPath := "/var/www/download"

theorem downloads_works : downloads.Works := ⟨rfl, by decide, rfl, rfl, rfl⟩

/-- A request for the first session. -/
def requestOf (destinationPath destinationFileName : String) : UploadData where
  outputbuffer := some 0
  destinationFileName
  destinationPath

theorem delivers_iff_elsewhere :
    Delivers (id : List UInt8 → List UInt8) downloads (bytesOf "a.zip") (requestOf "/srv/" "b.zip")
      [[1, 2], [], [3]] [4] :=
  (delivers_iff id downloads_works (by decide) (bytesOf "a.zip") (by decide) [[1, 2], [], [3]] [4]
    (by decide)).mpr
    ⟨by decide +kernel, openPath_eq (by decide +kernel) _, .inr (by decide +kernel)⟩

/-- A name of 32 characters that are two bytes each does not fit. -/
example (request : UploadData) :
    ¬ Consistent (id : List UInt8 → List UInt8) "/d"
      (bytesOf (String.ofList (List.replicate 32 'é'))) request :=
  fun h => absurd h.1 (by decide +kernel)

/-- A destination of the same name in the download path: the file is gone. -/
theorem moved_onto_itself :
    ¬ ∀ (disk : Disk) (name : List UInt8) (request : UploadData) (chunks : List (List UInt8))
      (last : List UInt8), disk.Works → disk.downloadPath ≠ "" → request.outputbuffer ≠ none →
        (chunks.flatten ++ last).length ≤ 100000000 →
          Delivers (id : List UInt8 → List UInt8) disk name request chunks last := by
  intro h
  have hbuffer : (requestOf "" "a.zip").outputbuffer ≠ none := by decide
  have hrequest := only_request (bytesOf "a.zip") (requestOf "" "a.zip")
    fun _ : List UInt8 => none
  have hdelivers := h downloads (bytesOf "a.zip") (requestOf "" "a.zip") [] [1] downloads_works
    (by decide) hbuffer (by decide) _ 0 hrequest rfl
  rw [upload_files downloads_works (by decide) (by decide +kernel) hbuffer hrequest rfl [] [1]
    (by decide)] at hdelivers
  exact absurd hdelivers (by decide +kernel)

end Uploading

end V2XHub.Command
