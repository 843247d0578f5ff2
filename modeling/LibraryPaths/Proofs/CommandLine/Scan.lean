import LibraryPaths.CommandLine.Run
import LibraryPaths.Proofs.Resolution.Frozen
import LibraryPaths.Proofs.Session.Serving
import LibraryPaths.Proofs.Uri.Directory

/-!
# What a scan prints

A scan answers for a whole workspace at once, and nothing of the way there shows in the answer: not the
buffers, not what was remembered from file to file, not the pass at the end.  What it prints can be read off
the files (`Workspace.listed`).

* `scope?_client`, `admits?_eq`: which list a file feeds;
* `Scanned`: what the session knows when some files have been attached, kept by each further one
  (`Scanned.after`) and so by all (`scanned_attachFiles`);
* `ServesAlone.answer_reconcile`: what a pass leaves the client with, or the empty list if it sends nothing;
* `answer_scan_eq`: so the scan prints what it should.
-/

set_option autoImplicit false

namespace LibraryPaths

/-- A workspace to be scanned: the configuration has been read and the root was found. -/
structure Workspace where
  files : FileSystem
  request : ScanRequest
  config : Config
  root : Path

namespace Workspace

/-! ## What a scan should print -/

section

variable (w : Workspace)

/-- Where modules are looked for. -/
def places : Places := ⟨w.files, [], .ofRoots w.request.packages, w.config.sourceDir⟩

/-- The files to scan, each with its canonical path and its text. -/
def opened : List (Path × String) :=
  (w.request.filesToScan w.files w.root).map fun file =>
    ((w.files.canonical file).toOption.getD file, (w.files.readText file).toOption.getD "")

/-- Whether a directory holds no marker. -/
def isEnabled (directory : Path) : Bool := rootEnabled w.files w.config.markers directory

/-- The files below the root. -/
def inside (files : List (Path × String)) : List (Path × String) :=
  files.filter fun file => file.1.startsWith w.root

/-- The files outside the root whose directory holds no marker. -/
def outside (files : List (Path × String)) : List (Path × String) :=
  files.filter fun file => !file.1.startsWith w.root && file.1.parent?.any w.isEnabled

/-- The library roots that some files refer to, by file, line and column. -/
def rootsOf (files : List (Path × String)) : List Path :=
  files.flatMap fun file => w.places.roots (textLines file.2)

/-- What the outside world has for a scan before there is a client. -/
def environment : Environment :=
  { files := w.files
    loaded := []
    packages := .ofRoots w.request.packages
    buffers := .empty
    clients := .ofList [] }

/-- The global list: the runtime and the configured entries that stand for a path, then what files outside the
root refer to. -/
def globalList : List Path :=
  (Library.empty.addAll w.files
    (w.environment.seeds w.config ++ w.rootsOf (w.outside w.opened))).paths

/-- The root's own list: what files below it refer to. -/
def ownList : List Path :=
  (Library.empty.addAll w.files (w.rootsOf (w.inside w.opened))).paths

/-- What a scan should print: nothing for a root with a marker, otherwise the global list and what the own one
adds to it. -/
def listed : List Path :=
  if w.isEnabled w.root then
    w.globalList ++ w.ownList.filter fun p => !holdsPath w.globalList p
  else []

end

end Workspace

/-! ## Attaching an open buffer -/

namespace Picture

variable {picture : Picture} {client : Client} {buffer subscription : Nat} {scope : Scope}

theorem after_attached_of_none (h : picture.admits? client buffer = none) :
    picture.after (.attached client buffer) = picture := by
  unfold after reads? place
  simp only [h]

/-- A buffer that is admitted and granted a subscription is attached and read as a whole. -/
theorem after_attached (hadmits : picture.admits? client buffer = some scope)
    (hgranted : (picture.buffers.subscribe buffer).2 = .ok subscription) :
    picture.after (.attached client buffer) =
      fill
        { picture with
          buffers := (picture.buffers.subscribe buffer).1
          attachments := picture.attachments.attach buffer ⟨scope, subscription⟩ }
        scope (picture.buffers.text buffer) := by
  unfold after reads? place
  simp only [hadmits, hgranted]

end Picture

namespace Workspace

open ScanRequest (client)

variable {w : Workspace} {folder : Folder} {file : Path × String} {files : List (Path × String)}
  {number : Nat} {picture : Picture}

/-! ## Which list a file feeds -/

/-- The key of the folder that is scanned. -/
def ownKey (folder : Folder) : FolderKey := ⟨1, folder.name⟩

/-- The library of the folder that is scanned. -/
def ownScope (folder : Folder) : Scope := .folder (ownKey folder)

/-- The library that a file feeds, if it feeds one. -/
def scope? (w : Workspace) (folder : Folder) (file : Path) : Option Scope :=
  if file.startsWith w.root then
    if w.isEnabled w.root then some (ownScope folder) else none
  else if file.parent?.any w.isEnabled then some .global else none

/-- A file below the root belongs to the folder, any other file to no folder. -/
theorem scope?_client (huri : folder.uri.toPath? = some w.root) (file : Path) :
    (client w.config folder).scope? file =
      if file.startsWith w.root then some (ownScope folder, w.root)
      else file.parent?.map fun directory => (.global, directory) := by
  have hcontaining : folder.containing? file =
      if file.startsWith w.root then some (folder, w.root) else none := by
    unfold Folder.containing?
    rw [huri]
  unfold Client.scope? Client.foldersContaining client
  rw [Option.getD_some, List.filterMap_cons, List.filterMap_nil, hcontaining]
  cases file.startsWith w.root <;> rfl

/-- **A buffer that is not attached is admitted for the library that its file feeds.** -/
theorem admits?_eq (huri : folder.uri.toPath? = some w.root) (hplaces : picture.places = w.places)
    (hconfig : picture.config = w.config) (hfree : picture.attachments.find? number = none)
    (hpath : picture.buffers.path? number = some file.1) :
    picture.admits? (client w.config folder) number = w.scope? folder file.1 := by
  have hfiles : picture.files = w.files := congrArg Places.files hplaces
  have hname : (client w.config folder).name = picture.config.clientName := by rw [hconfig]; rfl
  have hattached : picture.attachments.isAttached number = false := by
    unfold Attachments.isAttached
    rw [hfree]
    rfl
  unfold Picture.admits? scope?
  simp only [hname, bne_self_eq_false, hattached, hpath, hfiles, hconfig, Option.bind_eq_bind,
    Option.bind_some, scope?_client huri, Bool.false_eq_true, if_false]
  cases file.1.startsWith w.root with
  | true => rfl
  | false => cases file.1.parent? <;> rfl

/-! ## What is known when some files have been attached -/

/-- What a library holds before the first file. -/
def start (w : Workspace) : Scope → Library
  | .global => Library.empty.addAll w.files (w.environment.seeds w.config)
  | .folder _ => .empty

/-- The roots that some files bring to a library. -/
def fed (w : Workspace) (folder : Folder) (files : List (Path × String)) (scope : Scope) : List Path :=
  w.rootsOf (files.filter fun file => w.scope? folder file.1 = some scope)

/-- **What is known when some files have been attached**: each library is what these files feed it, in order,
and everything remembered is what the places would answer now.  The buffers from a number on are free. -/
structure Scanned (w : Workspace) (folder : Folder) (number : Nat) (files : List (Path × String))
    (picture : Picture) : Prop where
  places : picture.places = w.places
  config : picture.config = w.config
  willing : ∀ k, picture.buffers.refuses k = false
  free : ∀ b, number ≤ b → picture.attachments.find? b = none
  answered : picture.resolutions.AnsweredBy w.places
  library : ∀ scope, picture.library scope = (w.start scope).addAll w.files (w.fed folder files scope)

theorem rootsOf_append (w : Workspace) (files more : List (Path × String)) :
    w.rootsOf (files ++ more) = w.rootsOf files ++ w.rootsOf more :=
  List.flatMap_append

theorem fed_concat (w : Workspace) (folder : Folder) (files : List (Path × String))
    (file : Path × String) (scope : Scope) :
    w.fed folder (files ++ [file]) scope =
      w.fed folder files scope ++
        if w.scope? folder file.1 = some scope then w.places.roots (textLines file.2) else [] := by
  unfold fed
  rw [List.filter_append, rootsOf_append]
  by_cases h : w.scope? folder file.1 = some scope <;> simp [h, rootsOf]

/-- The picture with a file opened as a buffer. -/
def load (picture : Picture) (number : Nat) (file : Path × String) : Picture :=
  { picture with buffers := picture.buffers.load number (some file.1) file.2 }

/-- **One more file feeds its library.** -/
theorem Scanned.after (h : w.Scanned folder number files picture)
    (huri : folder.uri.toPath? = some w.root) (file : Path × String) :
    w.Scanned folder (number + 1) (files ++ [file])
      ((load picture number file).after (.attached (client w.config folder) number)) := by
  have hfind : (load picture number file).buffers.find? number = some ⟨some file.1, textLines file.2⟩ :=
    Buffers.find?_load _ _ _ _
  have hwilling : ∀ k, (load picture number file).buffers.refuses k = false := by
    intro k
    rw [load, Buffers.refuses_load]
    exact h.willing k
  have hadmits : (load picture number file).admits? (client w.config folder) number =
      w.scope? folder file.1 :=
    admits?_eq huri h.places h.config (h.free number le_rfl) (by rw [Buffers.path?, hfind]; rfl)
  cases hscope : w.scope? folder file.1 with
  | none =>
    rw [Picture.after_attached_of_none (hadmits.trans hscope)]
    refine ⟨h.places, h.config, hwilling, fun b hb => h.free b (by omega), h.answered, fun scope => ?_⟩
    rw [fed_concat, hscope, if_neg (by simp), List.append_nil]
    exact h.library scope
  | some scope =>
    have hgranted := Buffers.subscribe_of_isSome hwilling (Option.isSome_iff_exists.2 ⟨_, hfind⟩)
    have htext : (load picture number file).buffers.text number = textLines file.2 := by
      rw [Buffers.text, hfind]
    have hscan : (Scan.run picture.places picture.resolutions (picture.library scope)
        (textLines file.2)).library =
          (picture.library scope).addAll w.files (w.places.roots (textLines file.2)) := by
      rw [h.places]
      exact Scan.library_run h.answered _ _
    have hanswered : (Scan.run picture.places picture.resolutions (picture.library scope)
        (textLines file.2)).resolutions.AnsweredBy w.places := by
      rw [h.places]
      exact Scan.answeredBy_run h.answered _ _
    rw [Picture.after_attached (hadmits.trans hscope) hgranted, htext]
    refine ⟨h.places, h.config, fun k => ?_, fun b hb => ?_, hanswered, fun s => ?_⟩
    · exact (congrFun (Buffers.refuses_subscribe _ _) k).trans (hwilling k)
    · refine (Attachments.find?_attach _ _ _ _).trans ?_
      rw [if_neg (by omega)]
      exact h.free b (by omega)
    · rw [Picture.library_fill, fed_concat, hscope, Library.addAll_append, ← h.library]
      by_cases hs : s = scope
      · rw [if_pos hs, if_pos (by rw [hs]), hs]
        exact hscan
      · rw [if_neg hs, if_neg fun heq => hs (Option.some.inj heq).symm]
        rfl

/-! ## Attaching all files -/

variable {session : Session}

theorem picture_attachFile (client : Client) (session : Session) (number : Nat)
    (file : Path × String) :
    (ScanRequest.attachFile client session number file).picture =
      (load session.picture number file).after (.attached client number) :=
  Session.picture_handle 0
    { session with
      env :=
        { session.env with
          buffers := session.env.buffers.load number (some file.1) file.2 } }
    (.attached client number)

/-- **All files feed their libraries**, in the order in which they are attached. -/
theorem scanned_attachFiles (huri : folder.uri.toPath? = some w.root) (more : List (Path × String))
    (h : w.Scanned folder number files session.picture) :
    w.Scanned folder (number + more.length) (files ++ more)
      (ScanRequest.attachFiles (client w.config folder) session number more).picture := by
  induction more generalizing session number files with
  | nil =>
    rw [List.append_nil]
    exact h
  | cons file more ih =>
    have hnext := ih (picture_attachFile _ session number file ▸ h.after huri file)
    rw [List.append_assoc, List.singleton_append] at hnext
    rw [List.length_cons, ← Nat.add_assoc, Nat.add_right_comm]
    exact hnext

/-- Attaching files delivers nothing. -/
theorem delivered_attachFiles (client : Client) (session : Session) (number : Nat)
    (files : List (Path × String)) (key : FolderKey) :
    (ScanRequest.attachFiles client session number files).tracker.libraries.delivered key =
      session.tracker.libraries.delivered key := by
  induction files generalizing session number with
  | nil => rfl
  | cons file files ih =>
    rw [ScanRequest.attachFiles, ih]
    exact Session.delivered_handle 0 _ (.attached client number) key

theorem clients_attachFiles (client : Client) (session : Session) (number : Nat)
    (files : List (Path × String)) :
    (ScanRequest.attachFiles client session number files).env.clients = session.env.clients := by
  induction files generalizing session number with
  | nil => rfl
  | cons file files ih =>
    rw [ScanRequest.attachFiles, ih]
    exact Session.clients_handle 0 _ (.attached client number)

/-! ## The pass at the end -/

/-- A session that serves the folder alone and has delivered nothing. -/
structure ServesAlone (w : Workspace) (folder : Folder) (session : Session) : Prop where
  files : session.env.files = w.files
  config : session.tracker.config = w.config
  clients : session.env.clients = .ofList [client w.config folder]
  delivered : ∀ key, session.tracker.libraries.delivered key = []

theorem ServesAlone.beginPass (h : w.ServesAlone folder session) :
    w.ServesAlone folder session.beginPass := by
  have hpicture := Session.picture_beginPass session
  refine ⟨?_, ?_, ?_, fun key => ?_⟩
  · exact (congrArg Picture.files hpicture).trans h.files
  · exact (congrArg Picture.config hpicture).trans h.config
  · rw [Session.clients_beginPass, h.clients]
  · rw [Session.libraries_beginPass, h.delivered]

/-- A pass looks at the folder unless a marker switches it off. -/
theorem ServesAlone.enabled_eq (h : w.ServesAlone folder session)
    (huri : folder.uri.toPath? = some w.root) :
    session.enabled (client w.config folder) = if w.isEnabled w.root then [folder] else [] := by
  have hroot : session.isEnabled w.root = w.isEnabled w.root := by
    unfold Session.isEnabled isEnabled
    rw [h.files, h.config]
  unfold Session.enabled Session.enabledFolders client
  rw [Option.getD_some, List.filter_cons, huri, ← hroot]
  rfl

/-- A list is due unless it is empty, for nothing was delivered. -/
theorem ServesAlone.wants_eq (h : w.ServesAlone folder session) (huri : folder.uri.toPath? = some w.root) :
    session.wants (client w.config folder) =
      (w.isEnabled w.root && !(session.tracker.libraries.offered (ownKey folder)).isEmpty) := by
  have hdue : (session.tracker.libraries.due? (ownKey folder)).isSome =
      !(session.tracker.libraries.offered (ownKey folder)).isEmpty := by
    have hnone : (session.tracker.libraries.get (ownKey folder)).delivered = [] := h.delivered _
    unfold Libraries.due?
    rw [hnone]
    cases session.tracker.libraries.offered (ownKey folder) <;> rfl
  unfold Session.wants Session.enabledKeys
  rw [h.enabled_eq huri]
  cases w.isEnabled w.root with
  | false => rfl
  | true => exact (Bool.or_false _).trans hdue

/-- A parcel for the folder has the list that it is offered. -/
theorem ServesAlone.parcel_eq (h : w.ServesAlone folder session) (huri : folder.uri.toPath? = some w.root)
    (henabled : w.isEnabled w.root = true) :
    session.parcel (client w.config folder) =
      ⟨w.config.sectionName,
        [⟨folder, session.tracker.libraries.offered (ownKey folder)⟩]⟩ := by
  unfold Session.parcel Session.updateFor
  rw [h.enabled_eq huri, if_pos henabled, h.config]
  rfl

/-- The client is sent what its folder is offered, or nothing. -/
theorem ServesAlone.last?_reconcile (h : w.ServesAlone folder session)
    (huri : folder.uri.toPath? = some w.root) :
    (session.reconcile 0).1.env.clients.last? 1 =
      if w.isEnabled w.root && !(session.tracker.libraries.offered (ownKey folder)).isEmpty then
        some ⟨w.config.sectionName,
          [⟨folder, session.tracker.libraries.offered (ownKey folder)⟩]⟩
      else none := by
  have hnamed : session.env.clients.named session.tracker.config.clientName =
      [client w.config folder] := by
    rw [h.clients, h.config]
    simp [Clients.named, Clients.ofList, client]
  have hbegun := h.beginPass
  have hdeliveries := Session.deliveries_visit 0 session.beginPass (client w.config folder)
  have haccepts : session.beginPass.env.clients.accepts (client w.config folder).id = true := by
    rw [hbegun.clients]
    exact Clients.accepts_of_mem (fun _ => rfl) List.mem_cons_self
  rw [hbegun.clients, Session.snd_reconcileClient, haccepts, Bool.and_true, hbegun.wants_eq huri,
    Session.libraries_beginPass] at hdeliveries
  rw [Session.reconcile_fst, hnamed, List.foldl_cons, List.foldl_nil, Clients.last?, hdeliveries]
  cases henabled : w.isEnabled w.root with
  | false => rfl
  | true =>
    rw [hbegun.parcel_eq huri henabled, Session.libraries_beginPass]
    cases (session.tracker.libraries.offered (ownKey folder)).isEmpty <;> rfl

/-- **The answer of a scan is what the folder is offered**, and empty if a marker switches it off: where the
client is sent nothing, there is nothing to send. -/
theorem ServesAlone.answer_reconcile (h : w.ServesAlone folder session)
    (huri : folder.uri.toPath? = some w.root) :
    ScanRequest.answer (session.reconcile 0).1 (client w.config folder) folder =
      ⟨w.config.sectionName,
        (if w.isEnabled w.root then session.tracker.libraries.offered (ownKey folder) else []).map
          Path.toText⟩ := by
  have hconfig : (session.reconcile 0).1.tracker.config = w.config :=
    (congrArg Picture.config (Session.picture_reconcile 0 session)).trans h.config
  have hlast : (session.reconcile 0).1.env.clients.last? (client w.config folder).id = _ :=
    h.last?_reconcile huri
  unfold ScanRequest.answer
  rw [hlast, hconfig]
  cases w.isEnabled w.root with
  | false => rfl
  | true =>
    cases hoffered : session.tracker.libraries.offered (ownKey folder) with
    | nil => rfl
    | cons p ps => simp [Update.scoped?, Update.settings]

/-! ## A whole scan -/

/-- A fresh session has attached nothing. -/
theorem scanned_session (w : Workspace) (folder : Folder) (client : Client) :
    w.Scanned folder 1 [] (w.request.session w.files w.config client).picture where
  places := rfl
  config := rfl
  willing := fun _ => rfl
  free := fun _ _ => rfl
  answered := Resolutions.answeredBy_empty w.places
  library := fun scope => by cases scope <;> rfl

/-- The session in which all files have been attached. -/
def attached (w : Workspace) (folder : Folder) : Session :=
  ScanRequest.attachFiles (client w.config folder)
    (w.request.session w.files w.config (client w.config folder)) 1 w.opened

theorem scanned_attached (huri : folder.uri.toPath? = some w.root) :
    w.Scanned folder (1 + w.opened.length) w.opened (w.attached folder).picture :=
  scanned_attachFiles huri w.opened (w.scanned_session folder (client w.config folder))

theorem serves_attached (huri : folder.uri.toPath? = some w.root) :
    w.ServesAlone folder (w.attached folder) where
  files := congrArg Places.files (scanned_attached huri).places
  config := (scanned_attached huri).config
  clients := clients_attachFiles _ _ _ _
  delivered := delivered_attachFiles _ _ _ _

theorem fed_global (w : Workspace) (folder : Folder) (files : List (Path × String)) :
    w.fed folder files .global = w.rootsOf (w.outside files) := by
  unfold fed outside
  congr 1
  refine List.filter_congr fun file _ => ?_
  unfold scope?
  cases file.1.startsWith w.root with
  | true => cases w.isEnabled w.root <;> rfl
  | false => cases file.1.parent?.any w.isEnabled <;> rfl

theorem fed_ownScope (henabled : w.isEnabled w.root = true) (folder : Folder)
    (files : List (Path × String)) :
    w.fed folder files (ownScope folder) = w.rootsOf (w.inside files) := by
  unfold fed inside
  congr 1
  refine List.filter_congr fun file _ => ?_
  unfold scope?
  rw [henabled]
  cases file.1.startsWith w.root with
  | true => simp
  | false => cases file.1.parent?.any w.isEnabled <;> rfl

/-- **What the folder is offered when all files have been attached.** -/
theorem offered_attached (huri : folder.uri.toPath? = some w.root)
    (henabled : w.isEnabled w.root = true) :
    (w.attached folder).tracker.libraries.offered (ownKey folder) =
      w.globalList ++ w.ownList.filter fun p => !holdsPath w.globalList p := by
  have hlibrary := (scanned_attached huri).library
  have hglobal : ((w.attached folder).tracker.libraries.library .global).paths = w.globalList := by
    have h := hlibrary .global
    rw [fed_global, start, ← Library.addAll_append] at h
    exact congrArg Library.paths h
  have hown : ((w.attached folder).tracker.libraries.library (.folder (ownKey folder))).paths =
      w.ownList := by
    have h := hlibrary (ownScope folder)
    rw [fed_ownScope henabled] at h
    exact congrArg Library.paths h
  rw [Libraries.offered_eq, hglobal, hown]
  exact distinctPaths_append (Library.apart_addAll _ List.Pairwise.nil)
    (Library.apart_addAll _ List.Pairwise.nil)

/-- The client is left with what the scan should print. -/
theorem answer_attached (huri : folder.uri.toPath? = some w.root) :
    ScanRequest.answer ((w.attached folder).reconcile 0).1 (client w.config folder) folder =
      ⟨w.config.sectionName, w.listed.map Path.toText⟩ := by
  rw [(serves_attached huri).answer_reconcile huri, listed]
  cases henabled : w.isEnabled w.root with
  | false => rfl
  | true => rw [if_pos rfl, if_pos rfl, offered_attached huri henabled]

/-- Readable files are opened. -/
theorem mapM_openFile {fs : FileSystem} {files : List Path}
    (h : ∀ file ∈ files, ∃ text, fs.readText file = .ok text) :
    files.mapM (ScanRequest.openFile fs) =
      .ok (files.map fun file =>
        ((fs.canonical file).toOption.getD file, (fs.readText file).toOption.getD "")) := by
  induction files with
  | nil => rfl
  | cons file files ih =>
    obtain ⟨text, htext⟩ := h file List.mem_cons_self
    rw [List.mapM_cons, ih fun f hf => h f (List.mem_cons_of_mem _ hf), ScanRequest.openFile,
      List.map_cons, htext]
    rfl

/-- The root of a scan is a canonical path. -/
theorem canonical_of_locateRoot {fs : FileSystem} {request : ScanRequest} {root : Path}
    (h : request.locateRoot fs = .ok root) : fs.canonical request.givenRoot = .ok root := by
  unfold ScanRequest.locateRoot at h
  cases hfound : fs.canonical request.givenRoot with
  | error fault => simp [hfound, Except.mapError] at h
  | ok found =>
    rw [hfound] at h
    exact congrArg Except.ok (Except.ok.inj h)

/-- **What a scan prints can be read off the files.**  The configuration loads, the root exists and all files
are readable text; the address of the root leads back to it, as it does wherever the working directory has
plain names (`Uri.toPath?_of_canonical`).  Then the scan succeeds and prints a settings object with nothing
in it if a marker switches the root off.  Otherwise it has the global list, then what the own list adds: the
global list comes from adding, in order, the runtime, the configured entries that stand for a path and the
roots of the modules referred to in files outside the root whose directory holds no marker; the own list from
adding those referred to in files below the root, by file, line and column. -/
theorem answer_scan_eq {fs : FileSystem} {request : ScanRequest} {config : Config} {root : Path}
    (hconfig : request.loadConfig fs = .ok config) (hroot : request.locateRoot fs = .ok root)
    (huri : ∀ uri, Uri.ofDirectory? root = some uri → uri.toPath? = some root)
    (hfiles : ∀ file ∈ request.filesToScan fs root, ∃ text, fs.readText file = .ok text) :
    CommandLine.answer fs (.scan request) =
      ⟨0, Settings.render ⟨config.sectionName,
        (Workspace.mk fs request config root).listed.map Path.toText⟩ ++ "\n", ""⟩ := by
  let w : Workspace := ⟨fs, request, config, root⟩
  obtain ⟨uri, haddress⟩ := Uri.exists_ofDirectory? (canonical_of_locateRoot hroot)
  let folder : Folder := ⟨ScanRequest.folderName root, uri⟩
  have hfolder : ScanRequest.workspaceFolder root = .ok folder := by
    unfold ScanRequest.workspaceFolder
    rw [haddress]
  have hopened : (request.filesToScan fs root).mapM (ScanRequest.openFile fs) = .ok w.opened :=
    mapM_openFile hfiles
  have hanswer : ScanRequest.answer ((w.attached folder).reconcile 0).1 (client config folder) folder =
      ⟨config.sectionName, w.listed.map Path.toText⟩ := answer_attached (huri uri haddress)
  have hrun : request.run fs = .ok ⟨config.sectionName, w.listed.map Path.toText⟩ := by
    unfold ScanRequest.run
    rw [hconfig, hroot, ← hanswer]
    simp only [bind, Except.bind, hfolder, hopened]
    rfl
  simp only [CommandLine.answer, hrun]
  rfl

/-- A file in a directory. -/
def smallFile (name text : String) : Name × Node :=
  ((Path.ofString name).bytes, .file (Utf8.encode text.toList))

/-- A directory in a directory. -/
def smallDirectory (name : String) (members : List (Name × Node)) : Name × Node :=
  ((Path.ofString name).bytes, .directory members)

/-- A plugin with one module of its name. -/
def smallPlugin (name : String) : Name × Node :=
  smallDirectory name [smallDirectory "lua" [smallFile (name ++ ".lua") ""]]

/-- Files in three directories that refer to three plugins; the last directory holds a marker. -/
def smallFiles : FileSystem :=
  ⟨[smallDirectory "ws" [smallFile "a.lua" "require \"n\"\nrequire \"m\""],
    smallDirectory "out" [smallFile "b.lua" "require \"n\""],
    smallDirectory "off" [smallFile ".luarc.json" "", smallFile "c.lua" "require \"k\""],
    smallDirectory "k" [smallPlugin "k"],
    smallDirectory "m" [smallPlugin "m"],
    smallDirectory "n" [smallPlugin "n"]], []⟩

/-- A request to scan the files of all three directories for the first one. -/
def smallRequest : ScanRequest :=
  { root := some (.ofString "/ws")
    packages := [.ofString "/k", .ofString "/m", .ofString "/n"]
    files := [.ofString "/ws/a.lua", .ofString "/off/c.lua", .ofString "/out/b.lua"] }

/-- The module that both lists have is printed with the global one, and what the directory with a marker
refers to is not printed. -/
theorem answer_scan_eq_small :
    CommandLine.answer smallFiles (.scan smallRequest) =
      ⟨0, "\x7b\n  \"Lua\": \x7b\n    \"workspace\": \x7b\n      \"library\": [\n" ++
        "        \"/n/n/lua\",\n        \"/m/m/lua\"\n      ]\n    \x7d\n  \x7d\n\x7d\n", ""⟩ := by
  have hroot : smallRequest.locateRoot smallFiles = .ok (.ofString "/ws") := by decide +kernel
  have hlisted : (Workspace.mk smallFiles smallRequest {} (.ofString "/ws")).listed.map Path.toText =
      ["/n/n/lua", "/m/m/lua"] := by decide +kernel
  have hread : ∀ file ∈ smallRequest.filesToScan smallFiles (.ofString "/ws"),
      ∃ text, smallFiles.readText file = .ok text := by
    have hall : (smallRequest.filesToScan smallFiles (.ofString "/ws")).all
        fun file => (smallFiles.readText file).isOk := by decide +kernel
    intro file hfile
    have hok := List.all_eq_true.1 hall file hfile
    cases h : smallFiles.readText file with
    | ok text => exact ⟨text, rfl⟩
    | error fault => simp [h, Except.isOk, Except.toBool] at hok
  have huri : ∀ uri, Uri.ofDirectory? (.ofString "/ws") = some uri →
      uri.toPath? = some (.ofString "/ws") :=
    fun _ => Uri.toPath?_of_canonical (fun _ hn => absurd hn List.not_mem_nil) (canonical_of_locateRoot hroot)
  have hanswer := answer_scan_eq (rfl : smallRequest.loadConfig smallFiles = .ok {}) hroot huri hread
  rw [hlisted] at hanswer
  exact hanswer.trans (by decide +kernel)

end Workspace

end LibraryPaths
