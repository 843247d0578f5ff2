import LibraryPaths.Proofs.Library.Distinct
import LibraryPaths.Proofs.Resolution.Tracked

/-!
# Answers are given once

A module name is resolved by the places it is first looked up in.  What the host has loaded, the packages and
the files may be others at every later call; the answer stays, and nothing is asked for a name that is known.

* `lookUp_eq`: what a new name adds to what is known, asked and searched;
* `resolve_of_unasked`, `resolve_of_unsearched`: a call that asks nothing is not answered by it;
* `Frozen.resolve`: what one call keeps;
* `frozen_after`: what any calls leave behind;
* `AnsweredBy.resolve`, `Scan.library_run`: while the places stay, every call gives their answer, and a scan
  adds the roots of the modules that they answer with (`Places.roots`).
-/

set_option autoImplicit false

namespace LibraryPaths

namespace Places

/-- The file of a module: where the host has loaded it from, or else the first existing one of those it may
be in. -/
def file? (places : Places) (name : String) : Option Path :=
  if ModuleName.isSearchable name then
    match places.loaded.lookup name with
    | some file => some file
    | none =>
      search places.files places.sourceDir
        (places.packages.candidates places.files places.sourceDir name) name
  else none

/-- The resolution of a module that nothing is known about. -/
def answer (places : Places) (name : String) : Resolution := places.resolutionOf (places.file? name)

/-- Whether a module that nothing is known about is searched for in the packages. -/
def searches (places : Places) (name : String) : Bool :=
  ModuleName.isSearchable name && (places.loaded.lookup name).isNone

/-- An answer is a file with its root, or it is neither. -/
theorem answer_cases (places : Places) (name : String) :
    (∃ file, places.file? name = some file ∧
      places.answer name = .found file (places.files.normalize (libraryRoot places.sourceDir file))) ∨
    (places.file? name = none ∧ places.answer name = .missing) := by
  unfold answer
  cases places.file? name with
  | some file => exact .inl ⟨file, rfl, rfl⟩
  | none => exact .inr ⟨rfl, rfl⟩

end Places

namespace Resolutions

variable {places first : Places} {resolutions : Resolutions} {name n : String} {answer : Resolution}
  {calls before : List (Places × String)}

/-! ## One call -/

/-- **What a new name adds**: its answer, the name itself if the host is asked for it, and once more if it is
searched for. -/
theorem lookUp_eq (places : Places) (resolutions : Resolutions) (name : String) :
    resolutions.lookUp places name =
      (⟨resolutions.known ++ [(name, places.answer name)],
        resolutions.asked ++ [name].filter ModuleName.isSearchable,
        resolutions.searched ++ [name].filter places.searches⟩, places.answer name) := by
  unfold lookUp Places.answer Places.file? Places.searches
  cases hsearchable : ModuleName.isSearchable name with
  | false => simp [hsearchable, Places.resolutionOf]
  | true => cases hloaded : places.loaded.lookup name <;> simp [hsearchable, hloaded]

theorem resolve_of_find?_none (places : Places) (h : resolutions.find? name = none) :
    resolutions.resolve places name = resolutions.lookUp places name := by
  unfold resolve
  rw [h]

theorem filter_eq_nil_of_append {xs : List String} {p : String → Bool}
    (h : xs ++ [name].filter p = xs) : p name = false := by
  simpa using h

/-- A call that asks for nothing the host has loaded is answered without. -/
theorem resolve_of_unasked (h : (resolutions.resolve places name).1.asked = resolutions.asked)
    (loaded : List (String × Path)) (packages : Packages) :
    resolutions.resolve { places with loaded, packages } name = resolutions.resolve places name := by
  cases hfind : resolutions.find? name with
  | some answer => rw [resolve_of_find? _ hfind, resolve_of_find? _ hfind]
  | none =>
    rw [resolve_of_find?_none _ hfind, lookUp_eq] at h
    rw [resolve_of_find?_none _ hfind, resolve_of_find?_none _ hfind]
    have hnot : ModuleName.isSearchable name = false := filter_eq_nil_of_append h
    unfold lookUp
    simp [hnot]

/-- A call that searches no packages is answered without. -/
theorem resolve_of_unsearched (h : (resolutions.resolve places name).1.searched = resolutions.searched)
    (packages : Packages) :
    resolutions.resolve { places with packages } name = resolutions.resolve places name := by
  cases hfind : resolutions.find? name with
  | some answer => rw [resolve_of_find? _ hfind, resolve_of_find? _ hfind]
  | none =>
    rw [resolve_of_find?_none _ hfind, lookUp_eq] at h
    rw [resolve_of_find?_none _ hfind, resolve_of_find?_none _ hfind]
    have hnot : places.searches name = false := filter_eq_nil_of_append h
    unfold lookUp
    cases hsearchable : ModuleName.isSearchable name with
    | false => rfl
    | true =>
      cases hloaded : places.loaded.lookup name with
      | some file => rfl
      | none => simp [Places.searches, hsearchable, hloaded] at hnot

/-! ## Calls in a row -/

/-- What is known after some calls. -/
def after (resolutions : Resolutions) (calls : List (Places × String)) : Resolutions :=
  calls.foldl (fun r call => (r.resolve call.1 call.2).1) resolutions

theorem after_concat (resolutions : Resolutions) (calls : List (Places × String)) (places : Places)
    (name : String) : resolutions.after (calls ++ [(places, name)]) =
      ((resolutions.after calls).resolve places name).1 := by
  unfold after
  rw [List.foldl_append]
  rfl

/-- The places of the first call for a name. -/
def firstPlaces? (calls : List (Places × String)) (name : String) : Option Places :=
  (calls.find? (·.2 == name)).map (·.1)

theorem firstPlaces?_concat (calls : List (Places × String)) (places : Places) (name n : String) :
    firstPlaces? (calls ++ [(places, name)]) n =
      (firstPlaces? calls n).or (if n = name then some places else none) := by
  unfold firstPlaces?
  rw [List.find?_append]
  by_cases h : n = name
  · subst h
    cases calls.find? (·.2 == n) <;> simp
  · have hne : (name == n) = false := beq_false_of_ne (Ne.symm h)
    cases calls.find? (·.2 == n) <;> simp [h, hne]

theorem firstPlaces?_append_of_some (h : firstPlaces? before n = some first)
    (calls : List (Places × String)) : firstPlaces? (before ++ calls) n = some first := by
  unfold firstPlaces? at h ⊢
  obtain ⟨call, hcall, hfirst⟩ := Option.map_eq_some_iff.1 h
  rw [List.find?_append, hcall]
  exact congrArg some hfirst

theorem firstPlaces?_eq_none_iff :
    firstPlaces? calls n = none ↔ n ∉ calls.map Prod.snd := by
  unfold firstPlaces?
  rw [Option.map_eq_none_iff, List.find?_eq_none, List.mem_map]
  constructor
  · rintro hnone ⟨call, hcall, rfl⟩
    exact hnone call hcall (beq_self_eq_true _)
  · exact fun hnone call hcall hn => hnone ⟨call, hcall, eq_of_beq hn⟩

/-- What is known after some calls, if nothing was known before: every name that was asked for, with the
answer of the places it was first asked for in. -/
structure Frozen (calls : List (Places × String)) (resolutions : Resolutions) : Prop where
  find : ∀ name, resolutions.find? name = (firstPlaces? calls name).map (·.answer name)
  names : resolutions.known.map Prod.fst = (calls.map Prod.snd).eraseDups
  asked : resolutions.asked = (calls.map Prod.snd).eraseDups.filter ModuleName.isSearchable
  searched : resolutions.searched = (calls.map Prod.snd).eraseDups.filter fun name =>
    (firstPlaces? calls name).any (·.searches name)

namespace Frozen

theorem find?_eq_none_iff (h : Frozen calls resolutions) :
    resolutions.find? name = none ↔ name ∉ calls.map Prod.snd := by
  rw [h.find, Option.map_eq_none_iff, firstPlaces?_eq_none_iff]

/-- A call gives the answer of the first call for the name, which may be itself. -/
theorem resolve_eq (h : Frozen calls resolutions) (places : Places) (name : String) :
    (resolutions.resolve places name).2 = ((firstPlaces? calls name).getD places).answer name := by
  cases hfirst : firstPlaces? calls name with
  | some first =>
    have hfind : resolutions.find? name = some (first.answer name) := by rw [h.find, hfirst]; rfl
    rw [resolve_of_find? places hfind]
    rfl
  | none =>
    have hfind : resolutions.find? name = none := by rw [h.find, hfirst]; rfl
    rw [resolve_of_find?_none places hfind, lookUp_eq]
    rfl

/-- The names searched for among those asked for before are the same after one more call. -/
theorem filter_searches_concat (calls : List (Places × String)) (places : Places) (name : String) :
    ((calls.map Prod.snd).eraseDups.filter fun n =>
        (firstPlaces? (calls ++ [(places, name)]) n).any (·.searches n)) =
      (calls.map Prod.snd).eraseDups.filter fun n => (firstPlaces? calls n).any (·.searches n) := by
  refine List.filter_congr fun n hn => ?_
  cases hfirst : firstPlaces? calls n with
  | none => exact absurd (List.mem_eraseDups.1 hn) (firstPlaces?_eq_none_iff.1 hfirst)
  | some first => rw [firstPlaces?_append_of_some hfirst]

/-- **One more call keeps every answer**; a new name adds its own. -/
theorem resolve (h : Frozen calls resolutions) (places : Places) (name : String) :
    Frozen (calls ++ [(places, name)]) (resolutions.resolve places name).1 := by
  have hfind : ∀ n, (resolutions.resolve places name).1.find? n =
      (firstPlaces? (calls ++ [(places, name)]) n).map (·.answer n) := by
    intro n
    rw [find?_resolve, firstPlaces?_concat, h.resolve_eq]
    by_cases hn : n = name
    · subst hn
      rw [if_pos rfl, if_pos rfl]
      cases firstPlaces? calls n <;> rfl
    · rw [if_neg hn, if_neg hn, Option.or_none, h.find]
  have hnames : (calls ++ [(places, name)]).map Prod.snd = calls.map Prod.snd ++ [name] := by simp
  by_cases hknown : name ∈ calls.map Prod.snd
  -- a name that was asked for before adds nothing, neither to the names nor to what is kept
  · obtain ⟨answer, hanswer⟩ :=
      Option.ne_none_iff_exists'.1 (mt h.find?_eq_none_iff.1 (not_not.2 hknown))
    have hsame : (calls.map Prod.snd ++ [name]).eraseDups = (calls.map Prod.snd).eraseDups := by
      rw [eraseDups_concat, if_pos hknown]
    rw [resolve_of_find? places hanswer] at hfind ⊢
    refine ⟨hfind, ?_, ?_, ?_⟩
    · rw [hnames, hsame, h.names]
    · rw [hnames, hsame, h.asked]
    · rw [hnames, hsame, filter_searches_concat, h.searched]
  · have hnew : (calls.map Prod.snd ++ [name]).eraseDups = (calls.map Prod.snd).eraseDups ++ [name] := by
      rw [eraseDups_concat, if_neg hknown]
    have hfirst : firstPlaces? (calls ++ [(places, name)]) name = some places := by
      rw [firstPlaces?_concat, firstPlaces?_eq_none_iff.2 hknown, if_pos rfl]
      rfl
    rw [resolve_of_find?_none places (h.find?_eq_none_iff.2 hknown), lookUp_eq] at hfind ⊢
    refine ⟨hfind, ?_, ?_, ?_⟩
    · rw [hnames, hnew, ← h.names]
      exact List.map_append
    · rw [hnames, hnew, List.filter_append, ← h.asked]
    · rw [hnames, hnew, List.filter_append, filter_searches_concat, ← h.searched]
      simp [List.filter_cons, hfirst]

theorem after (calls : List (Places × String)) : Frozen calls (empty.after calls) := by
  induction calls using List.reverseRecOn with
  | nil => exact ⟨fun _ => rfl, rfl, rfl, rfl⟩
  | append_singleton calls call ih =>
    rw [after_concat]
    exact ih.resolve call.1 call.2

end Frozen

/-- What is known is only added to. -/
theorem prefix_resolve (places : Places) (resolutions : Resolutions) (name : String) :
    resolutions.known <+: (resolutions.resolve places name).1.known := by
  cases hfind : resolutions.find? name with
  | some answer => rw [resolve_of_find? places hfind]
  | none =>
    rw [resolve_of_find?_none places hfind, lookUp_eq]
    exact List.prefix_append _ _

theorem prefix_after (resolutions : Resolutions) (calls : List (Places × String)) :
    resolutions.known <+: (resolutions.after calls).known := by
  induction calls generalizing resolutions with
  | nil => exact List.prefix_rfl
  | cons call calls ih => exact (prefix_resolve call.1 resolutions call.2).trans (ih _)

theorem after_append (resolutions : Resolutions) (before after : List (Places × String)) :
    resolutions.after (before ++ after) = (resolutions.after before).after after :=
  List.foldl_append

/-- **Every name keeps its first answer.**  Nothing is known at first; then names are resolved one after the
other, each call finding the loaded modules, the packages and the files as they are by then.  Every call for a
name returns what an earlier call for it has returned; what is known is only added to.  The names known are
those that were asked for, each once, in the order of their first calls.  The host has been asked once for
each of them whose segments are all non-empty, the packages have been searched once for each of these that
was not loaded at its first call; a call that adds to neither list would be answered alike by any host.  What
is known about a name is the answer of its first call: a file and its library root, or neither. -/
theorem frozen_after (calls : List (Places × String)) :
    (∀ before places name between places' after,
      calls = before ++ (places, name) :: (between ++ (places', name) :: after) →
      ((empty.after (before ++ (places, name) :: between)).resolve places' name).2 =
        ((empty.after before).resolve places name).2) ∧
    (∀ before after, calls = before ++ after →
      (empty.after before).known <+: (empty.after calls).known) ∧
    (empty.after calls).known.map Prod.fst = (calls.map Prod.snd).eraseDups ∧
    (empty.after calls).asked =
      (calls.map Prod.snd).eraseDups.filter ModuleName.isSearchable ∧
    (empty.after calls).searched = ((calls.map Prod.snd).eraseDups.filter fun name =>
      (firstPlaces? calls name).any (·.searches name)) ∧
    (∀ before places name after loaded packages, calls = before ++ (places, name) :: after →
      (((empty.after before).resolve places name).1.asked = (empty.after before).asked →
        (empty.after before).resolve { places with loaded, packages } name =
          (empty.after before).resolve places name) ∧
      (((empty.after before).resolve places name).1.searched = (empty.after before).searched →
        (empty.after before).resolve { places with packages } name =
          (empty.after before).resolve places name)) ∧
    ∀ name answer, (empty.after calls).find? name = some answer →
      ∃ places, firstPlaces? calls name = some places ∧
        ((∃ file, places.file? name = some file ∧
            answer = .found file (places.files.normalize (libraryRoot places.sourceDir file))) ∨
          (places.file? name = none ∧ answer = .missing)) := by
  have hcalls := Frozen.after calls
  refine ⟨?_, ?_, hcalls.names, hcalls.asked, hcalls.searched, ?_, ?_⟩
  · intro before places name between places' after _
    have hfirst : firstPlaces? (before ++ [(places, name)]) name =
        some ((firstPlaces? before name).getD places) := by
      rw [firstPlaces?_concat, if_pos rfl]
      cases firstPlaces? before name <;> rfl
    have hlater : firstPlaces? (before ++ (places, name) :: between) name =
        some ((firstPlaces? before name).getD places) := by
      rw [← List.singleton_append, ← List.append_assoc]
      exact firstPlaces?_append_of_some hfirst between
    rw [(Frozen.after _).resolve_eq, hlater, (Frozen.after before).resolve_eq]
    rfl
  · intro before after hsplit
    rw [hsplit, after_append]
    exact prefix_after _ _
  · intro before places name after loaded packages _
    exact ⟨fun hasked => resolve_of_unasked hasked loaded packages,
      fun hsearched => resolve_of_unsearched hsearched packages⟩
  · intro name answer hanswer
    rw [hcalls.find] at hanswer
    obtain ⟨places, hplaces, rfl⟩ := Option.map_eq_some_iff.1 hanswer
    exact ⟨places, hplaces, places.answer_cases name⟩

/-- Places without packages. -/
def smallPlaces (loaded : List (String × Path)) : Places := ⟨.empty, loaded, .ofRoots [], "lua"⟩

/-- The same places after a module has been loaded. -/
def smallLoaded : Places := smallPlaces [("m", .ofString "/plugins/m/lua/m.lua")]

/-- A module that is loaded after it has been looked for stays missing; the host is asked no more for it, and
never for a name with an empty segment. -/
theorem frozen_after_small :
    ((empty.after [(smallPlaces [], "m"), (smallLoaded, ".m")]).resolve smallLoaded "m").2 = .missing ∧
      (empty.after [(smallPlaces [], "m"), (smallLoaded, ".m"), (smallLoaded, "m")]).asked = ["m"] ∧
      (empty.after [(smallPlaces [], "m"), (smallLoaded, ".m"), (smallLoaded, "m")]).searched = ["m"] := by
  obtain ⟨hsame, -, -, hasked, hsearched, -, -⟩ :=
    frozen_after [(smallPlaces [], "m"), (smallLoaded, ".m"), (smallLoaded, "m")]
  exact ⟨(hsame [] _ _ [_] _ [] rfl).trans (by decide +kernel), hasked.trans (by decide +kernel),
    hsearched.trans (by decide +kernel)⟩

/-! ## Places that stay -/

/-- Everything known is what some places answer. -/
def AnsweredBy (resolutions : Resolutions) (places : Places) : Prop :=
  ∀ name answer, resolutions.find? name = some answer → answer = places.answer name

theorem answeredBy_empty (places : Places) : empty.AnsweredBy places :=
  fun _ _ hfind => nomatch hfind

/-- A call gives the answer of the places, remembered or new. -/
theorem AnsweredBy.snd_resolve (h : resolutions.AnsweredBy places) (name : String) :
    (resolutions.resolve places name).2 = places.answer name := by
  cases hfind : resolutions.find? name with
  | some answer =>
    rw [resolve_of_find? places hfind]
    exact h name answer hfind
  | none => rw [resolve_of_find?_none places hfind, lookUp_eq]

theorem AnsweredBy.resolve (h : resolutions.AnsweredBy places) (name : String) :
    (resolutions.resolve places name).1.AnsweredBy places := by
  intro n answer hfind
  rw [find?_resolve] at hfind
  split at hfind
  · rename_i hn
    rw [← Option.some.inj hfind, hn]
    exact h.snd_resolve name
  · exact h n answer hfind

end Resolutions

/-- The library roots of the modules that some lines refer to, by line and column. -/
def Places.roots (places : Places) (lines : List String) : List Path :=
  (Reference.namesInLines lines).filterMap fun name => (places.answer name).root?

namespace Scan

variable {places : Places} {scan : Scan} {resolutions : Resolutions}

theorem answeredBy_foldl (names : List String) (h : scan.resolutions.AnsweredBy places) :
    (names.foldl (note places) scan).resolutions.AnsweredBy places := by
  induction names generalizing scan with
  | nil => exact h
  | cons name names ih =>
    refine ih ?_
    rw [resolutions_note]
    exact h.resolve name

theorem library_foldl (names : List String) (h : scan.resolutions.AnsweredBy places) :
    (names.foldl (note places) scan).library =
      scan.library.addAll places.files (names.filterMap fun name => (places.answer name).root?) := by
  induction names generalizing scan with
  | nil => rfl
  | cons name names ih =>
    have hnext : (scan.note places name).resolutions.AnsweredBy places := by
      rw [resolutions_note]
      exact h.resolve name
    rw [List.foldl_cons, ih hnext, filled_note, h.snd_resolve, List.filterMap_cons]
    cases (places.answer name).root? <;> rfl

theorem answeredBy_run (h : resolutions.AnsweredBy places) (library : Library) (lines : List String) :
    (run places resolutions library lines).resolutions.AnsweredBy places :=
  answeredBy_foldl _ h

/-- **A scan adds the roots of what its lines refer to**, whatever was remembered. -/
theorem library_run (h : resolutions.AnsweredBy places) (library : Library) (lines : List String) :
    (run places resolutions library lines).library =
      library.addAll places.files (places.roots lines) :=
  library_foldl _ h

end Scan

end LibraryPaths
