import LibraryPaths.Proofs.Session.Received
import LibraryPaths.Proofs.Session.Serving
import LibraryPaths.Proofs.Session.Undelivered

/-!
# References arrive at the client

What an event reads for an attached buffer is in the settings of the folder the buffer serves after the next
pass, whether or not that pass pushes anything: a reference stays tracked, nothing is due after a pass, and
the last parcel of a client mirrors what counts as delivered.

* `answers_of_tracks`: after a pass, the roots of tracked names are in the settings of every folder that is
  offered their library;
* `answers_of_reads`: the same from the event that read the reference.
-/

set_option autoImplicit false

namespace LibraryPaths.Session

variable {start session : Session} {acts : List Act} {client : Client} {folder : Folder} {scope : Scope}
  {name : String} {root : Path} {now : Nat}

/-- Asked for a folder, the last update of a client lists the path that is stored for a root. -/
def Answers (session : Session) (client : Client) (folder : Folder) (root : Path) : Prop :=
  ∃ update settings p,
    session.env.clients.last? client.id = some update ∧
    update.scoped? folder.uri = some settings ∧
    (p ∈ session.stored .global ∨ p ∈ session.stored (.folder (keyOf client folder))) ∧
    (p.same root = true ∨ p.same (session.env.files.normalize root) = true) ∧
    p.toText ∈ settings.library

/-! ## After a pass -/

/-- The parcel entry that answers for a folder is that folder's own, as no other has its address. -/
theorem exists_entry {update : Update} (hmirrors : session.Mirrors client update)
    (huris : ((client.folders.getD []).map (·.uri)).Nodup) (hfolder : folder ∈ session.enabled client) :
    ∃ entry ∈ update.folders, entry.folder = folder ∧
      update.scoped? folder.uri = some (update.settings entry.library) := by
  have hmem : folder ∈ update.folders.map (·.folder) := by
    rw [hmirrors.folders]
    exact hfolder
  obtain ⟨own, hown, rfl⟩ := List.mem_map.1 hmem
  cases hfind : update.folders.find? (·.folder.uri == own.folder.uri) with
  | none => exact absurd (List.find?_eq_none.1 hfind own hown) (by simp)
  | some entry =>
    have hentry : entry ∈ update.folders := List.mem_of_find?_eq_some hfind
    have huri : entry.folder.uri = own.folder.uri := by simpa using List.find?_some hfind
    have henabled : entry.folder ∈ session.enabled client := by
      rw [← hmirrors.folders]
      exact List.mem_map_of_mem hentry
    refine ⟨entry, hentry, ?_, by simp [Update.scoped?, hfind]⟩
    exact List.inj_on_of_nodup_map huris (List.mem_filter.1 henabled).1 (List.mem_filter.1 hfolder).1
      huri

/-- A folder is offered every path of its library and of the global one, in some spelling. -/
theorem exists_offered {q : Path}
    (hq : q ∈ session.stored .global ++ session.stored (.folder (keyOf client folder))) :
    ∃ o ∈ session.tracker.libraries.offered (keyOf client folder), o.components = q.components := by
  obtain ⟨o, ho, hoq⟩ := exists_same_mem_distinctPaths hq
  refine ⟨o, ?_, Path.same_iff.1 hoq⟩
  rw [Libraries.offered_eq]
  exact ho

/-- Where nothing is due, the last update lists a stored path for every path that is offered. -/
theorem Mirrors.exists_listed {update : Update} (hmirrors : session.Mirrors client update)
    (huris : ((client.folders.getD []).map (·.uri)).Nodup) (hfolder : folder ∈ session.enabled client)
    (hdue : session.tracker.libraries.due? (keyOf client folder) = none) {o : Path}
    (ho : o ∈ session.tracker.libraries.offered (keyOf client folder)) :
    ∃ settings p, update.scoped? folder.uri = some settings ∧
      (p ∈ session.stored .global ∨ p ∈ session.stored (.folder (keyOf client folder))) ∧
      p.components = o.components ∧ p.toText ∈ settings.library := by
  obtain ⟨entry, hentry, rfl, hsettings⟩ := exists_entry hmirrors huris hfolder
  rw [Libraries.due?_eq_none_iff, sameList_iff] at hdue
  have hsame : o.components ∈ entry.library.map Path.components := by
    rw [sameList_iff.1 (hmirrors.delivered entry hentry), hdue]
    exact List.mem_map_of_mem ho
  obtain ⟨p, hp, hpo⟩ := List.mem_map.1 hsame
  refine ⟨_, p, hsettings, ?_, hpo, List.mem_map_of_mem hp⟩
  obtain ⟨g, l, hg, hl, hlibrary⟩ := hmirrors.offered entry hentry
  rw [hlibrary] at hp
  rcases List.mem_append.1 (mem_of_mem_distinctPaths hp) with h | h
  · exact .inl (hg.subset h)
  · exact .inr (hl.subset h)

/-- **Where nothing is due, the client answers for every tracked root.** -/
theorem answers_of_tracks (hreceived : Received start session client)
    (hfresh : ∀ key, start.tracker.libraries.delivered key = [])
    (huris : ((client.folders.getD []).map (·.uri)).Nodup) (hfolder : folder ∈ session.enabled client)
    (hdue : session.tracker.libraries.due? (keyOf client folder) = none)
    (hscope : scope = .global ∨ scope = .folder (keyOf client folder))
    (htracks : session.picture.Tracks scope name)
    (hroot : (session.tracker.resolutions.find? name).bind Resolution.root? = some root) :
    session.Answers client folder root := by
  obtain ⟨answer, hfind, hgrows⟩ := htracks
  have hanswer : answer.root? = some root := by
    have hfind' : session.tracker.resolutions.find? name = some answer := hfind
    rw [hfind'] at hroot
    exact hroot
  obtain ⟨q, hq, hqroot⟩ := Library.not_grows_iff.1 (hgrows root hanswer)
  have hstored : q ∈ session.stored .global ++ session.stored (.folder (keyOf client folder)) := by
    rcases hscope with rfl | rfl
    · exact List.mem_append_left _ hq
    · exact List.mem_append_right _ hq
  obtain ⟨o, ho, hoq⟩ := exists_offered hstored
  cases hreceived with
  | nothing hsent hdelivered =>
    -- nothing was delivered, so nothing is offered
    rw [Libraries.due?_eq_none_iff, sameList_iff, hdelivered _ rfl, hfresh, List.map_nil] at hdue
    rw [List.map_eq_nil_iff.1 hdue.symm] at ho
    cases ho
  | parcels earlier update _ _ hsent hmirrors =>
    obtain ⟨settings, p, hsettings, hp, hpo, htext⟩ := hmirrors.exists_listed huris hfolder hdue ho
    refine ⟨update, settings, p, ?_, hsettings, hp, ?_, htext⟩
    · rw [Clients.last?_eq_getLast?, hsent]
      simp
    · simp only [Path.same_iff, hpo.trans hoq] at hqroot ⊢
      exact hqroot

theorem editsBuffers_concat (now : Nat) (hacts : ∀ a ∈ acts, a.EditsBuffers) :
    ∀ a ∈ acts ++ [Act.pass now], a.EditsBuffers := by
  intro a ha
  rcases List.mem_append.1 ha with h | h
  · exact hacts a h
  · rw [List.mem_singleton.1 h]
    trivial

/-- What an event has read is tracked for ever after. -/
theorem tracks_of_reads {time : Nat} {event : Event} {lines : List String} {rest : List Act}
    (hrest : ∀ a ∈ rest, a.EditsBuffers)
    (hreads : (session.run acts).picture.reads? event = some (scope, lines))
    (hname : name ∈ Reference.namesInLines lines) :
    (session.run (acts ++ .event time event :: rest)).picture.Tracks scope name := by
  rw [run_append, run_cons]
  apply tracks_run hrest
  show ((session.run acts).handle time event).picture.Tracks scope name
  rw [picture_handle]
  exact Picture.tracks_after_of_reads hreads hname

/-- After a pass that ends a run in which no push was refused, nothing is due. -/
theorem due?_after_pass (now : Nat) (hacts : ∀ a ∈ acts, a.EditsBuffers)
    (hrefuses : ∀ k, start.env.clients.refuses k = false)
    (hclient : client ∈ start.env.clients.named start.tracker.config.clientName)
    (hfolder : folder ∈ start.enabled client) :
    (start.run (acts ++ [.pass now])).tracker.libraries.due? (keyOf client folder) = none := by
  obtain ⟨-, hconnected, hrefuses'⟩ := world_run start hacts
  rw [run_append]
  refine due?_eq_none_of_unarmed [] ?_ (by simp) ?_ ?_ ?_
  · intro k
    rw [hrefuses']
    exact hrefuses k
  · rw [run_nil, timer_reconcile]
    rfl
  · unfold Clients.named
    rw [hconnected, config_run]
    exact hclient
  · rw [enabled_run start hacts]
    exact hfolder

/-- Nor does anything keep the roots of tracked names from the client. -/
theorem answers_after_pass (hacts : ∀ a ∈ acts, a.EditsBuffers)
    (hfresh : ∀ key, start.tracker.libraries.delivered key = [])
    (hrefuses : ∀ k, start.env.clients.refuses k = false)
    (hids : (start.env.clients.connected.map (·.id)).Nodup)
    (huris : ((client.folders.getD []).map (·.uri)).Nodup)
    (hclient : client ∈ start.env.clients.named start.tracker.config.clientName)
    (hfolder : folder ∈ start.enabled client)
    (hscope : scope = .global ∨ scope = .folder (keyOf client folder))
    (htracks : (start.run (acts ++ [.pass now])).picture.Tracks scope name)
    (hroot : ((start.run (acts ++ [.pass now])).tracker.resolutions.find? name).bind Resolution.root? =
      some root) :
    (start.run (acts ++ [.pass now])).Answers client folder root := by
  have hall := editsBuffers_concat now hacts
  have hreceived : Received start (start.run (acts ++ [.pass now])) client :=
    (Received.refl start client).run hall (fun _ => List.prefix_rfl) hrefuses hids
      (List.mem_filter.1 hclient).1
  have hdue := due?_after_pass now hacts hrefuses hclient hfolder
  refine answers_of_tracks hreceived hfresh huris ?_ hdue hscope htracks hroot
  rw [enabled_run start hall]
  exact hfolder

/-- The scope an event reads for is that of the folder its buffer serves afterwards. -/
theorem Serves.scope_eq {time buffer : Nat} {event : Event} {served : Option Folder}
    {lines : List String}
    (hserves : Serves start (acts ++ [.event time event]) buffer client served)
    (hacts : ∀ a ∈ acts ++ [.event time event], a.EditsBuffers)
    (hbuffer : event.buffer? = some buffer)
    (hreads : (start.run acts).picture.reads? event = some (scope, lines)) :
    scope = client.scopeOf served := by
  obtain ⟨-, ⟨subscription, hfind⟩, -⟩ := hserves.find? hacts
  have hpicture : (start.run (acts ++ [.event time event])).picture =
      (start.run acts).picture.after event := by
    rw [run_append]
    exact picture_handle time _ event
  have hscope := Picture.scope_after_of_reads hbuffer hreads
  rw [← hpicture, picture_attachments, hfind] at hscope
  exact (Option.some.inj hscope).symm

/-- **What is read for an attached buffer reaches the client.**  A session that has delivered nothing runs
while no push is refused; ids are distinct, addresses are distinct within each client, buffers are attached
only for listed clients, and the outside world changes only the buffers.  An event reads some lines for a
buffer that serves a folder of a client, or no folder.  After any later pass the client answers, for that
folder, with the stored path of every root that a name in those lines was resolved to; if the buffer serves
no folder, all listed clients do for all their enabled folders. -/
theorem answers_of_reads {config : Config} {env : Environment} {libraries : Libraries}
    {start last : Session} {acts rest : List Act} {time now buffer : Nat} {event : Event}
    {client : Client} {served : Option Folder} {scope : Scope} {lines : List String} {name : String}
    {root : Path}
    (hstart : start = startWith config env libraries)
    (hfresh : ∀ key, libraries.delivered key = [])
    (hrefuses : ∀ k, env.clients.refuses k = false)
    (hids : (env.clients.connected.map (·.id)).Nodup)
    (huris : ∀ c ∈ env.clients.connected, ((c.folders.getD []).map (·.uri)).Nodup)
    (hlast : last = start.run (acts ++ .event time event :: rest ++ [.pass now]))
    (hedits : ∀ a ∈ acts ++ .event time event :: rest, a.EditsBuffers)
    (hlisted : ∀ t c b, Act.event t (.attached c b) ∈ acts ++ .event time event :: rest →
      c ∈ env.clients.connected)
    (hserves : Serves start (acts ++ [.event time event]) buffer client served)
    (hbuffer : event.buffer? = some buffer)
    (hreads : (start.run acts).picture.reads? event = some (scope, lines))
    (hname : name ∈ Reference.namesInLines lines)
    (hroot : (last.tracker.resolutions.find? name).bind Resolution.root? = some root) :
    (∀ folder, served = some folder → last.Answers client folder root) ∧
      (served = none → ∀ c ∈ env.clients.named config.clientName, ∀ folder ∈ last.enabled c,
        last.Answers c folder root) := by
  have henv : start.env = env := congrArg Session.env hstart
  have hconfig : start.tracker.config = config := congrArg (·.tracker.config) hstart
  rw [← henv] at hrefuses hids huris hlisted ⊢
  rw [← hconfig]
  have hdelivered : ∀ key, start.tracker.libraries.delivered key = [] := by
    intro key
    rw [hstart]
    exact hfresh key
  have hsplit : acts ++ .event time event :: rest ++ [.pass now] =
      acts ++ .event time event :: (rest ++ [.pass now]) := by simp
  have hrest : ∀ a ∈ rest, a.EditsBuffers := by
    intro a ha
    exact hedits a (by simp [ha])
  have hsub : ∀ a ∈ acts ++ [Act.event time event], a ∈ acts ++ .event time event :: rest := by
    intro a ha
    rcases List.mem_append.1 ha with h | h
    · exact List.mem_append_left _ h
    · rw [List.mem_singleton.1 h]
      simp
  -- the lines were read, so the name is tracked from then on
  have htracks : (start.run (acts ++ .event time event :: rest ++ [.pass now])).picture.Tracks scope
      name := by
    rw [hsplit]
    exact tracks_of_reads (editsBuffers_concat now hrest) hreads hname
  rw [hlast] at hroot ⊢
  have hanswers : ∀ c ∈ start.env.clients.named start.tracker.config.clientName,
      ∀ folder ∈ start.enabled c, scope = .global ∨ scope = .folder (keyOf c folder) →
      (start.run (acts ++ .event time event :: rest ++ [.pass now])).Answers c folder root := by
    intro c hc folder hfolder hscope
    exact answers_after_pass hedits hdelivered hrefuses hids (huris c (List.mem_filter.1 hc).1) hc hfolder
      hscope htracks hroot
  have hscope := hserves.scope_eq (fun a ha => hedits a (hsub a ha)) hbuffer hreads
  constructor
  · rintro folder rfl
    obtain ⟨hclient, -, henabled⟩ := hserves.find? fun a ha => hedits a (hsub a ha)
    obtain ⟨t, hattached⟩ := hserves.exists_mem
    have hlisted' : client ∈ start.env.clients.connected :=
      hlisted t client buffer (hsub _ hattached)
    refine hanswers client ?_ folder (henabled folder rfl) (.inr hscope)
    refine List.mem_filter.2 ⟨hlisted', ?_⟩
    rw [hclient]
    exact beq_self_eq_true start.tracker.config.clientName
  · rintro rfl c hc folder hfolder
    rw [enabled_run start (editsBuffers_concat now hedits)] at hfolder
    exact hanswers c hc folder hfolder (.inl hscope)

/-- The module a buffer names when it is attached is in its folder's settings after the pass. -/
theorem answers_of_reads_small :
    ((small 0 "require \"m\"").run [.event 0 (.attached smallClient 1), .pass 100]).Answers
      smallClient smallFolder (.ofString "/plugins/m/lua") := by
  have hfolder : smallClient.folderOf? (.ofString "/work/app/a.lua") = some smallFolder := by
    decide +kernel
  have hserves : Serves (small 0 "require \"m\"") ([] ++ [.event 0 (.attached smallClient 1)]) 1
      smallClient (some smallFolder) := by
    rw [← hfolder]
    exact .attach (by decide +kernel) (by decide +kernel)
  have hreads : ((small 0 "require \"m\"").run []).picture.reads? (.attached smallClient 1) =
      some (.folder ⟨1, "app"⟩, ["require \"m\""]) := by decide +kernel
  have hname : "m" ∈ Reference.namesInLines ["require \"m\""] := by decide +kernel
  have hlast : (small 0 "require \"m\"").run [.event 0 (.attached smallClient 1), .pass 100] =
      (small 0 "require \"m\"").run ([] ++ .event 0 (.attached smallClient 1) :: [] ++ [.pass 100]) := rfl
  have hfresh : ∀ key, Libraries.empty.delivered key = [] := fun _ => rfl
  refine (answers_of_reads rfl hfresh (refuses_small "require \"m\"") ?_ ?_ hlast
    (by simp [Act.EditsBuffers]) ?_ hserves rfl hreads hname (by decide +kernel)).1 smallFolder rfl
  · decide
  · decide
  · intro t c b hmem
    obtain ⟨-, rfl, -⟩ : t = 0 ∧ c = smallClient ∧ b = 1 := by simpa using hmem
    exact List.mem_singleton.2 rfl

end LibraryPaths.Session
