import LibraryPaths.Proofs.Session.Replaced
import LibraryPaths.Proofs.Session.Retry
import LibraryPaths.Proofs.Session.Views

/-!
# The merged list of an update

A client that does not ask about a folder is shown the lists of all folders merged.  Each of these lists
begins with the global library, and own paths may be shared by folders or be global too; merged, every path
comes where it comes first: the global paths in their order, then of each folder what no earlier list had
(`Session.brought`).

* `distinctPaths_append_of_apart`: what a list adds behind others, each path once;
* `countP_same_eq_one`: where a path is kept once;
* `distinctPaths_flatMap_offered`: the offers of some folders, merged;
* `merged_parcel_eq`: the settings that a pass makes of them.
-/

set_option autoImplicit false

namespace LibraryPaths

/-! ## Lists of paths -/

section Lists

variable {ps qs : List Path} {p : Path}

/-- To go through a list again that was gone through already changes nothing. -/
theorem distinctPaths_distinctPaths_append (ps qs : List Path) :
    distinctPaths (distinctPaths ps ++ qs) = distinctPaths (ps ++ qs) := by
  induction qs using List.reverseRecOn with
  | nil => rw [List.append_nil, List.append_nil, distinctPaths_of_apart (apart_distinctPaths ps)]
  | append_singleton qs q ih =>
    rw [← List.append_assoc, distinctPaths_concat, ih, ← List.append_assoc, distinctPaths_concat]

/-- Behind others a list without repetitions adds what they do not hold. -/
theorem distinctPaths_append_of_apart (ps : List Path) (hqs : Apart qs) :
    distinctPaths (ps ++ qs) =
      distinctPaths ps ++ qs.filter fun q => !holdsPath (distinctPaths ps) q := by
  rw [← distinctPaths_distinctPaths_append, distinctPaths_append (apart_distinctPaths ps) hqs]

theorem holdsPath_distinctPaths (ps : List Path) (p : Path) :
    holdsPath (distinctPaths ps) p = holdsPath ps p := by
  rw [Bool.eq_iff_iff, holdsPath_iff, holdsPath_iff, map_components_distinctPaths, List.mem_eraseDups]

/-- A list without repetitions holds a path once, if at all. -/
theorem countP_same_eq_one (hps : Apart ps) (h : holdsPath ps p = true) : ps.countP (·.same p) = 1 := by
  have hcount : ps.countP (·.same p) = (ps.map Path.components).count p.components := by
    rw [List.count, List.countP_map]
    rfl
  rw [hcount, hps.nodup_components.count, if_pos (holdsPath_iff.1 h)]

end Lists

/-- The address of a folder of an update is answered with the list of the first folder that has it. -/
theorem Update.exists_scoped? {update : Update} {entry : FolderUpdate} (h : entry ∈ update.folders) :
    ∃ before first after, update.folders = before ++ first :: after ∧
      (∀ e ∈ before, e.folder.uri ≠ entry.folder.uri) ∧ first.folder.uri = entry.folder.uri ∧
      update.scoped? entry.folder.uri = some (update.settings first.library) := by
  unfold scoped?
  cases hfind : update.folders.find? (·.folder.uri == entry.folder.uri) with
  | none => exact absurd (beq_self_eq_true entry.folder.uri) (List.find?_eq_none.1 hfind entry h)
  | some first =>
    obtain ⟨hfirst, before, after, hsplit, hbefore⟩ := List.find?_eq_some_iff_append.1 hfind
    refine ⟨before, first, after, hsplit, fun e he => ?_, eq_of_beq hfirst, rfl⟩
    simpa using hbefore e he

namespace Session

variable {session : Session} {now : Nat} {client : Client} {key : FolderKey} {keys : List FolderKey}

/-! ## The offers of some folders -/

/-- What some folders bring beside the global library: each in turn its own paths that are neither global nor
own paths of an earlier folder. -/
def brought (session : Session) : List FolderKey → List FolderKey → List Path
  | _, [] => []
  | earlier, key :: keys =>
    (session.stored (.folder key)).filter (fun p =>
        !holdsPath (session.stored .global) p &&
          !earlier.any fun k => holdsPath (session.stored (.folder k)) p) ++
      session.brought (earlier ++ [key]) keys

theorem brought_append (session : Session) (earlier keys more : List FolderKey) :
    session.brought earlier (keys ++ more) =
      session.brought earlier keys ++ session.brought (earlier ++ keys) more := by
  induction keys generalizing earlier with
  | nil => simp [brought]
  | cons key keys ih => simp [brought, ih]

theorem apart_offered (session : Session) (key : FolderKey) :
    Apart (session.tracker.libraries.offered key) := by
  rw [Libraries.offered_eq]
  exact apart_distinctPaths _

/-- A folder is offered the global paths and its own. -/
theorem holdsPath_offered_eq (session : Session) (key : FolderKey) (p : Path) :
    holdsPath (session.tracker.libraries.offered key) p =
      (holdsPath (session.stored .global) p || holdsPath (session.stored (.folder key)) p) := by
  rw [Libraries.offered_eq, holdsPath_distinctPaths]
  exact List.any_append

/-- What the merged offers of some folders hold. -/
theorem holdsPath_flatMap_offered (session : Session) (keys : List FolderKey) (p : Path) :
    holdsPath (distinctPaths (keys.flatMap session.tracker.libraries.offered)) p =
      keys.any fun key =>
        holdsPath (session.stored .global) p || holdsPath (session.stored (.folder key)) p := by
  rw [holdsPath_distinctPaths]
  unfold holdsPath
  rw [List.any_flatMap]
  exact congrArg keys.any (funext fun key => holdsPath_offered_eq session key p)

/-- Behind the merged offers of other folders the offer of one more adds what that folder brings. -/
theorem filter_offered (happart : ∀ scope, Apart (session.stored scope)) (hkeys : keys ≠ [])
    (key : FolderKey) :
    (session.tracker.libraries.offered key).filter (fun p =>
        !holdsPath (distinctPaths (keys.flatMap session.tracker.libraries.offered)) p) =
      session.brought keys [key] := by
  -- the global paths come with any of the other folders already
  have hglobal : (session.stored .global).filter (fun p =>
      !holdsPath (distinctPaths (keys.flatMap session.tracker.libraries.offered)) p) = [] := by
    refine List.filter_eq_nil_iff.2 fun p hp => ?_
    have hheld : holdsPath (session.stored .global) p = true :=
      holdsPath_iff.2 (List.mem_map_of_mem hp)
    obtain ⟨k, hk⟩ := List.exists_mem_of_ne_nil keys hkeys
    rw [holdsPath_flatMap_offered, List.any_eq_true.2 ⟨k, hk, by rw [hheld, Bool.true_or]⟩]
    exact Bool.false_ne_true
  rw [offered_eq_append happart, List.filter_append, hglobal, List.nil_append, List.filter_filter]
  simp only [brought, List.append_nil]
  refine List.filter_congr fun p _ => ?_
  rw [holdsPath_flatMap_offered]
  cases holdsPath (session.stored .global) p with
  | true => exact Bool.and_false _
  | false => simp

/-- **The offers of some folders, merged**: the whole global library, and then what the folders bring. -/
theorem distinctPaths_flatMap_offered (happart : ∀ scope, Apart (session.stored scope))
    (key : FolderKey) (keys : List FolderKey) :
    distinctPaths ((key :: keys).flatMap session.tracker.libraries.offered) =
      session.stored .global ++ session.brought [] (key :: keys) := by
  induction keys using List.reverseRecOn with
  | nil =>
    rw [List.flatMap_singleton, distinctPaths_of_apart (apart_offered session key),
      offered_eq_append happart]
    simp [brought]
  | append_singleton keys k ih =>
    rw [← List.cons_append, List.flatMap_append, List.flatMap_singleton,
      distinctPaths_append_of_apart _ (apart_offered session k),
      filter_offered happart (List.cons_ne_nil key keys), ih, brought_append, List.append_assoc,
      List.nil_append]

/-! ## Updates -/

theorem mergedPaths_parcel (session : Session) (client : Client) :
    (session.parcel client).mergedPaths =
      distinctPaths ((session.enabledKeys client).flatMap session.tracker.libraries.offered) := by
  unfold Update.mergedPaths parcel updateFor enabledKeys
  rw [List.flatMap_map, List.flatMap_map]

/-- What is put to the connection while clients are visited are parcels. -/
theorem eq_parcel_of_mem_pushesTo {push : Client × Update} (clients : List Client) (session : Session)
    (hconnected : ∀ client ∈ clients, client ∈ session.env.clients.connected)
    (h : push ∈ session.pushesTo now clients) : push.2 = session.parcel push.1 := by
  induction clients generalizing session with
  | nil => cases h
  | cons first clients ih =>
    rw [pushesTo, puts_eq now (hconnected first List.mem_cons_self)] at h
    rcases List.mem_append.1 h with h | h
    · split at h
      · rw [List.mem_singleton.1 h]
      · cases h
    · have hkept := connected_visit now session first
      rw [ih _ (fun c hc => hkept ▸ hconnected c (List.mem_cons_of_mem _ hc)) h,
        parcel_congr (picture_visit now session first)]

/-- **The merged list of an update puts the global paths first.**  In a session whose libraries have no path
twice, as they have none after any additions (`Library.apart_addAll`, `apart_run`), the pushes of a pass are
the parcels of their clients.  The settings of a parcel with folders are the text, path by path, of the global
library followed by what the folders bring: of each in turn the own paths that are neither global nor own paths
of an earlier folder.  In that list every path of every folder stands once, and whoever asks for the address of
a folder is answered with the list of the first folder that has the address, all of whose paths are among the
merged ones. -/
theorem merged_parcel_eq {session : Session} (happart : ∀ scope, Apart (session.stored scope)) :
    (∀ now, ∀ push ∈ session.pushes now, push.2 = session.parcel push.1) ∧
    ∀ client, session.enabled client ≠ [] →
      ∃ paths,
        paths = session.stored .global ++ session.brought [] (session.enabledKeys client) ∧
        (session.parcel client).merged =
          ⟨session.tracker.config.sectionName, paths.map Path.toText⟩ ∧
        ∀ entry ∈ (session.parcel client).folders,
          (∀ p ∈ entry.library, paths.countP (·.same p) = 1) ∧
          ∃ before first after, (session.parcel client).folders = before ++ first :: after ∧
            (∀ e ∈ before, e.folder.uri ≠ entry.folder.uri) ∧
            first.folder.uri = entry.folder.uri ∧
            (session.parcel client).scoped? entry.folder.uri =
              some ⟨session.tracker.config.sectionName, first.library.map Path.toText⟩ ∧
            ∀ p ∈ first.library, holdsPath paths p = true := by
  constructor
  · intro now push hpush
    have hparcel := eq_parcel_of_mem_pushesTo _ _ connected_beginPass_of_named hpush
    rwa [parcel_congr (picture_beginPass session)] at hparcel
  · intro client hne
    have hmerged : (session.parcel client).mergedPaths =
        session.stored .global ++ session.brought [] (session.enabledKeys client) := by
      rw [mergedPaths_parcel]
      unfold enabledKeys
      cases henabled : session.enabled client with
      | nil => exact absurd henabled hne
      | cons folder folders => exact distinctPaths_flatMap_offered happart _ _
    have hholds : ∀ entry ∈ (session.parcel client).folders, ∀ p ∈ entry.library,
        holdsPath (session.parcel client).mergedPaths p = true := by
      intro entry hentry p hp
      unfold Update.mergedPaths
      rw [holdsPath_distinctPaths]
      exact holdsPath_iff.2 (List.mem_map_of_mem (List.mem_flatMap.2 ⟨entry, hentry, hp⟩))
    refine ⟨(session.parcel client).mergedPaths, hmerged, rfl,
      fun entry hentry => ⟨fun p hp => ?_, ?_⟩⟩
    · exact countP_same_eq_one (apart_distinctPaths _) (hholds entry hentry p hp)
    · obtain ⟨before, first, after, hsplit, hbefore, hfirst, hscoped⟩ := Update.exists_scoped? hentry
      have hmem : first ∈ (session.parcel client).folders := by
        rw [hsplit]
        exact List.mem_append_right _ List.mem_cons_self
      exact ⟨before, first, after, hsplit, hbefore, hfirst, hscoped, hholds first hmem⟩

/-- Two folders that need one module both, one of them another module too, and a global path. -/
def overlapping : Session :=
  pair.run
    [.edit fun env => { env with
        buffers := env.buffers.load 2 (some (.ofString "/work/lib/b.lua")) "require \"m\" require \"n\"" },
      .event 0 (.attached pairClient 1), .event 0 (.attached pairClient 2),
      .event 0 (.library (.ofString "/x"))]

/-- What both folders need stands where the first one has it. -/
theorem merged_parcel_eq_overlapping :
    (overlapping.parcel pairClient).folders =
      [⟨pairApp, [.ofString "/x", .ofString "/plugins/m/lua"]⟩,
       ⟨pairLib, [.ofString "/x", .ofString "/plugins/m/lua", .ofString "/plugins/n/lua"]⟩] ∧
    (overlapping.parcel pairClient).merged =
      ⟨"Lua", ["/x", "/plugins/m/lua", "/plugins/n/lua"]⟩ := by
  have happart : ∀ scope, Apart (overlapping.stored scope) := by
    refine apart_run (fun scope => ?_) _
    exact apart_startWith _ _ (fun s => by cases s <;> exact List.Pairwise.nil) scope
  have hpaths : overlapping.stored .global ++
      overlapping.brought [] (overlapping.enabledKeys pairClient) =
        [.ofString "/x", .ofString "/plugins/m/lua", .ofString "/plugins/n/lua"] := by decide +kernel
  obtain ⟨-, hparcels⟩ := merged_parcel_eq happart
  obtain ⟨paths, hlist, hmerged, -⟩ := hparcels pairClient (by decide +kernel)
  refine ⟨by decide +kernel, ?_⟩
  rw [hmerged, hlist, hpaths]
  decide +kernel

end Session

end LibraryPaths
