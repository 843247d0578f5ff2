import LibraryPaths.Config.Reader
import LibraryPaths.Proofs.Config.Fields
import LibraryPaths.Proofs.Json.Skipped

/-!
# The members of a configuration object

A member of an object belongs to the field whose key its name spells, if there is one, whatever escapes the name
is written with (`ConfigField.Names`).  Reading the members of an object overrides the fields that have members
(`Overrides`), which determines the result (`Overrides.unique`).

* `ReadAs.cons`: what reading one member does;
* `readAs_enclosed`: all members between two brackets, in any order and with any white space, are read unless one of
  the names spells no text; then reading fails.
-/

set_option autoImplicit false

namespace LibraryPaths

open Json

/-- The name of a member spells a text. -/
def Json.Member.IsLegible (member : Member) : Prop := ∃ name, Spells member.name name

/-- The name of a member spells the key of a field. -/
def ConfigField.Names (field : ConfigField) (member : Member) : Prop := Spells member.name field.key.toList

instance (field : ConfigField) (member : Member) : Decidable (field.Names member) :=
  inferInstanceAs (Decidable (Spells _ _))

namespace Config

variable {field other : ConfigField} {member : Member} {members : List Member} {config config₁ config' : Config}
  {given : List ConfigField} {isFirst : Bool} {text rest after behind name : List Char}
  {result : Except Stop (Config × List Char)}

/-- What is asked of the members of a configuration: the member of a field has a value of its type, the others have
any value, and no field has two members. -/
structure Admissible (members : List Member) : Prop where
  typed : ∀ member ∈ members, ∀ field : ConfigField, field.Names member →
    ∃ value, field.Writes member.value.value value
  valid : ∀ member ∈ members, (∀ field : ConfigField, ¬ field.Names member) → IsValue member.value.value
  once : members.Pairwise fun member other => ∀ field : ConfigField, field.Names member → ¬ field.Names other

/-- A configuration holds what members give to their fields, and in the other fields what another configuration
holds. -/
structure Overrides (members : List Member) (config config' : Config) : Prop where
  named : ∀ member ∈ members, ∀ field : ConfigField, field.Names member →
    field.Writes member.value.value (field.get config')
  unnamed : ∀ field : ConfigField, (∀ member ∈ members, ¬ field.Names member) →
    field.get config' = field.get config

theorem Admissible.tail (h : Admissible (member :: members)) : Admissible members where
  typed other hother := h.typed other (List.mem_cons_of_mem member hother)
  valid other hother := h.valid other (List.mem_cons_of_mem member hother)
  once := h.once.tail

/-! ## Fields and their members -/

theorem isLegible_of_names (h : field.Names member) : member.IsLegible := ⟨_, h⟩

theorem ofKey?_eq_some_iff_names (hname : Spells member.name name) :
    ConfigField.ofKey? (String.ofList name) = some field ↔ field.Names member := by
  rw [ConfigField.ofKey?_eq_some_iff]
  constructor
  · intro h
    unfold ConfigField.Names
    rw [← h, String.toList_ofList]
    exact hname
  · intro h
    rw [hname.unique h, String.ofList_toList]

/-- A member belongs to one field. -/
theorem eq_of_names (h : field.Names member) (h' : other.Names member) : field = other :=
  Option.some.inj (((ofKey?_eq_some_iff_names h).2 h).symm.trans ((ofKey?_eq_some_iff_names h).2 h'))

theorem Admissible.nil : Admissible [] := ⟨by simp, by simp, .nil⟩

theorem Admissible.cons_named {value : field.Value} (hname : field.Names member)
    (hvalue : field.Writes member.value.value value) (honce : ∀ other ∈ members, ¬ field.Names other)
    (h : Admissible members) : Admissible (member :: members) where
  typed := by
    refine List.forall_mem_cons.2 ⟨fun field' hname' => ?_, h.typed⟩
    obtain rfl := eq_of_names hname hname'
    exact ⟨value, hvalue⟩
  valid := List.forall_mem_cons.2 ⟨fun hnone => absurd hname (hnone field), h.valid⟩
  once := by
    refine .cons (fun other hother field' hname' => ?_) h.once
    obtain rfl := eq_of_names hname hname'
    exact honce other hother

theorem Admissible.cons_unnamed (hname : ∀ field : ConfigField, ¬ field.Names member)
    (hvalue : IsValue member.value.value) (h : Admissible members) : Admissible (member :: members) where
  typed := List.forall_mem_cons.2 ⟨fun field hname' => absurd hname' (hname field), h.typed⟩
  valid := List.forall_mem_cons.2 ⟨fun _ => hvalue, h.valid⟩
  once := .cons (fun _ _ field hname' => absurd hname' (hname field)) h.once

/-! ## Overridden fields -/

namespace Overrides

theorem refl (config : Config) : Overrides [] config config where
  named := by simp
  unnamed _ _ := rfl

/-- A member of a field sets this field before the others do. -/
theorem cons_named {value : field.Value} (hname : field.Names member)
    (hvalue : field.Writes member.value.value value) (honce : ∀ other ∈ members, ¬ field.Names other)
    (h : Overrides members (field.set value config) config') : Overrides (member :: members) config config' where
  named := by
    refine List.forall_mem_cons.2 ⟨fun field' hname' => ?_, h.named⟩
    obtain rfl := eq_of_names hname hname'
    rw [h.unnamed field honce, ConfigField.get_set]
    exact hvalue
  unnamed field' hfield' := by
    have hne : field' ≠ field := by
      rintro rfl
      exact hfield' member List.mem_cons_self hname
    rw [h.unnamed field' fun other hother => hfield' other (List.mem_cons_of_mem member hother),
      ConfigField.get_set_of_ne hne]

/-- A member of no field sets nothing. -/
theorem cons_unnamed (hname : ∀ field : ConfigField, ¬ field.Names member) (h : Overrides members config config') :
    Overrides (member :: members) config config' where
  named := List.forall_mem_cons.2 ⟨fun field hname' => absurd hname' (hname field), h.named⟩
  unnamed field hfield := h.unnamed field fun other hother => hfield other (List.mem_cons_of_mem member hother)

/-- **The members determine the configuration**, where fields are left as they were. -/
theorem unique (h : Overrides members config config₁) (h' : Overrides members config config') :
    config₁ = config' := by
  refine ConfigField.ext fun field => ?_
  by_cases hfield : ∃ member ∈ members, field.Names member
  · obtain ⟨member, hmember, hname⟩ := hfield
    exact (h.named member hmember field hname).unique (h'.named member hmember field hname)
  · have hunnamed : ∀ member ∈ members, ¬ field.Names member := fun member hmember hname =>
      hfield ⟨member, hmember, hname⟩
    rw [h.unnamed field hunnamed, h'.unnamed field hunnamed]

end Overrides

/-! ## Steps -/

theorem nextMember_closed (h : skipBlank text = '\x7d' :: rest) (isFirst : Bool) :
    ∃ hrest, nextMember isFirst text = .ok (.closed ⟨rest, hrest⟩) := by
  unfold nextMember
  split <;> rename_i heq <;> cases h.symm.trans heq
  exact ⟨length_lt_of_skipBlank h, if_pos rfl⟩

theorem nextMember_first (h : skipBlank text = '"' :: rest) :
    ∃ hrest, nextMember true text = .ok (.key ⟨rest, hrest⟩) := by
  unfold nextMember
  split <;> rename_i heq <;> cases h.symm.trans heq
  rw [if_neg (by decide), if_pos rfl, if_pos rfl]
  exact ⟨length_lt_of_skipBlank h, rfl⟩

theorem nextMember_other (h : skipBlank text = ',' :: behind) (hbehind : skipBlank behind = '"' :: rest) :
    ∃ hrest, nextMember false text = .ok (.key ⟨rest, hrest⟩) := by
  unfold nextMember
  split <;> rename_i heq <;> cases h.symm.trans heq
  rw [if_neg (by decide), if_neg (by decide), if_pos rfl]
  split <;> rename_i heq' <;> cases hbehind.symm.trans heq'
  rw [if_pos rfl]
  exact ⟨length_lt_trans (length_lt_of_skipBlank hbehind) (length_lt_of_skipBlank h), rfl⟩

theorem leaves_readColon (between : Blank) (rest : List Char) :
    leaves (readColon (between.1 ++ ':' :: rest)) = .ok rest := by
  have hcolon := skipBlank_blank_cons between (c := ':') rfl rest
  unfold readColon
  split <;> rename_i heq <;> cases hcolon.symm.trans heq
  rw [if_pos rfl]
  rfl

/-- The value of a field is read. -/
theorem gives_readMember_some {value : field.Value} (hvalue : field.Writes member.value.value value)
    (config : Config) (hbehind : EndsNumber behind) :
    gives (readMember (some field) config (member.between.1 ++ ':' :: (member.value.text ++ behind))) =
      .ok (field.set value config, member.value.after.1 ++ behind) := by
  obtain ⟨_, hcolon⟩ := leaves_eq_ok (leaves_readColon member.between (member.value.text ++ behind))
  have hread := ConfigField.gives_read hvalue config member.value.before
    (endsNumber_blank_append member.value.after hbehind)
  rw [← List.append_assoc member.value.value, ← List.append_assoc] at hread
  obtain ⟨_, hread⟩ := gives_eq_ok hread
  unfold readMember
  rw [hcolon]
  simp only [Padded.text]
  rw [hread]
  rfl

/-- Every other value is skipped. -/
theorem gives_readMember_none (hvalue : IsValue member.value.value) (config : Config)
    (hbehind : EndsNumber behind) :
    gives (readMember none config (member.between.1 ++ ':' :: (member.value.text ++ behind))) =
      .ok (config, member.value.after.1 ++ behind) := by
  obtain ⟨_, hcolon⟩ := leaves_eq_ok (leaves_readColon member.between (member.value.text ++ behind))
  have hskip := leaves_skipValue hvalue member.value.before [] _
    (endsNumber_blank_append member.value.after hbehind)
  rw [skipRest, ← List.append_assoc member.value.value, ← List.append_assoc] at hskip
  obtain ⟨_, hskip⟩ := leaves_eq_ok hskip
  unfold readMember
  rw [hcolon]
  simp only [Padded.text]
  rw [hskip]
  rfl

theorem gives_readMembers_closed (h : skipBlank text = '\x7d' :: rest) (isFirst : Bool)
    (given : List ConfigField) (config : Config) :
    gives (readMembers isFirst given config text) = .ok (config, rest) := by
  obtain ⟨_, hnext⟩ := nextMember_closed h isFirst
  rw [readMembers, hnext]
  rfl

theorem gives_readMembers_key {start : Shorter text} {found : Option ConfigField}
    (hnext : nextMember isFirst text = .ok (.key start))
    (hstring : gives (readString start.1) = .ok (name, after))
    (hfound : ConfigField.ofKey? (String.ofList name) = found) (hfresh : found.filter given.contains = none)
    (hmember : gives (readMember found config after) = .ok (config', behind)) :
    gives (readMembers isFirst given config text) =
      gives (readMembers false (found.toList ++ given) config' behind) := by
  subst hfound
  obtain ⟨_, hstring⟩ := gives_eq_ok hstring
  obtain ⟨_, hmember⟩ := gives_eq_ok hmember
  rw [readMembers, hnext]
  simp only
  rw [hstring]
  simp only [hfresh]
  rw [hmember]
  simp only
  cases readMembers false _ config' behind <;> rfl

theorem readMembers_key_error {start : Shorter text} {stop : Stop}
    (hnext : nextMember isFirst text = .ok (.key start)) (hstring : readString start.1 = .error stop) :
    readMembers isFirst given config text = .error stop := by
  rw [readMembers, hnext]
  simp only
  rw [hstring]

/-! ## All members -/

/-- What becomes of the members of an object: if all names are legible, the fields that have members are
overridden; otherwise there is an error. -/
inductive ReadAs (members : List Member) (config : Config) (rest : List Char) :
    Except Stop (Config × List Char) → Prop
  | ok {config' : Config} (hlegible : ∀ member ∈ members, member.IsLegible)
      (hoverrides : Overrides members config config') : ReadAs members config rest (.ok (config', rest))
  | error {stop : Stop} (hillegible : ∃ member ∈ members, ¬ member.IsLegible) :
      ReadAs members config rest (.error stop)

/-- None of the fields given before has a member. -/
def Fresh (given : List ConfigField) (members : List Member) : Prop :=
  ∀ member ∈ members, ∀ field : ConfigField, field.Names member → field ∉ given

theorem ReadAs.cons_legible (hmember : member.IsLegible)
    (hoverrides : ∀ config', Overrides members config₁ config' → Overrides (member :: members) config config')
    (h : ReadAs members config₁ rest result) : ReadAs (member :: members) config rest result := by
  cases h with
  | ok hlegible h => exact .ok (List.forall_mem_cons.2 ⟨hmember, hlegible⟩) (hoverrides _ h)
  | error hillegible =>
    obtain ⟨other, hother, hillegible⟩ := hillegible
    exact .error ⟨other, List.mem_cons_of_mem member hother, hillegible⟩

/-- **One member is read**, and what stands behind it goes on with the others. -/
theorem ReadAs.cons {start : Shorter text} (hadmissible : Admissible (member :: members))
    (hgiven : Fresh given (member :: members)) (hbehind : EndsNumber behind)
    (hnext : nextMember isFirst text = .ok (.key start))
    (hstart : start.1 = written member.name ++ '"' :: (member.between.1 ++ ':' :: (member.value.text ++ behind)))
    (hothers : ∀ given config, Fresh given members →
      ReadAs members config rest (gives (readMembers false given config (member.value.after.1 ++ behind)))) :
    ReadAs (member :: members) config rest (gives (readMembers isFirst given config text)) := by
  have honce := (List.pairwise_cons.1 hadmissible.once).1
  by_cases hlegible : member.IsLegible
  · obtain ⟨name, hname⟩ := hlegible
    have hstring := gives_readString hname (member.between.1 ++ ':' :: (member.value.text ++ behind))
    rw [← hstart] at hstring
    cases hfound : ConfigField.ofKey? (String.ofList name) with
    | some field =>
      have hfield := (ofKey?_eq_some_iff_names hname).1 hfound
      obtain ⟨value, hvalue⟩ := hadmissible.typed member List.mem_cons_self field hfield
      have hnew : field ∉ given := hgiven member List.mem_cons_self field hfield
      have honly : ∀ other ∈ members, ¬ field.Names other := fun other hother => honce other hother field hfield
      rw [gives_readMembers_key hnext hstring hfound (by simp [Option.filter, hnew])
        (gives_readMember_some hvalue config hbehind)]
      -- the field now counts as given; no later member belongs to it
      refine (hothers _ _ fun other hother field' hfield' => ?_).cons_legible (isLegible_of_names hfield) fun _ =>
        Overrides.cons_named hfield hvalue honly
      have hne : field' ≠ field := by
        rintro rfl
        exact honly other hother hfield'
      simpa [hne] using hgiven other (List.mem_cons_of_mem member hother) field' hfield'
    | none =>
      have hunknown : ∀ field : ConfigField, ¬ field.Names member := fun field hfield => by
        rw [(ofKey?_eq_some_iff_names hname).2 hfield] at hfound
        cases hfound
      rw [gives_readMembers_key hnext hstring hfound rfl
        (gives_readMember_none (hadmissible.valid member List.mem_cons_self hunknown) config hbehind)]
      exact (hothers _ _ fun other hother => hgiven other (List.mem_cons_of_mem member hother)).cons_legible
        ⟨name, hname⟩ fun _ => Overrides.cons_unnamed hunknown
  · obtain ⟨stop, hstring⟩ := exists_readString_error (fun name hname => hlegible ⟨name, hname⟩)
      (member.between.1 ++ ':' :: (member.value.text ++ behind))
    rw [← hstart] at hstring
    rw [readMembers_key_error hnext hstring]
    exact .error ⟨member, List.mem_cons_self, hlegible⟩

theorem skipBlank_member (member : Member) (behind : List Char) :
    skipBlank (member.text ++ behind) =
      '"' :: (written member.name ++ '"' :: (member.between.1 ++ ':' :: (member.value.text ++ behind))) := by
  rw [Member.text, List.append_assoc, List.append_assoc, List.append_assoc, List.cons_append, inQuotes_append]
  exact skipBlank_blank_cons member.before rfl _

/-- Members behind the first one are read, up to and with the closing bracket.  Induction on the members; the fields
given so far grow by those that have been read. -/
theorem readAs_others (hadmissible : Admissible members) (before : Blank) (rest : List Char) :
    ∀ given config, Fresh given members →
      ReadAs members config rest (gives (readMembers false given config
        (before.1 ++ ((members.map Member.text).flatMap (',' :: ·) ++ '\x7d' :: rest)))) := by
  induction members generalizing before with
  | nil =>
    intro given config _
    rw [List.map_nil, List.flatMap_nil, List.nil_append,
      gives_readMembers_closed (skipBlank_blank_cons before rfl rest)]
    exact .ok (by simp) (.refl config)
  | cons member members ih =>
    intro given config hgiven
    rw [List.map_cons, List.flatMap_cons, List.append_assoc, List.cons_append]
    obtain ⟨_, hnext⟩ := nextMember_other (skipBlank_blank_cons before rfl _) (skipBlank_member member _)
    exact .cons hadmissible hgiven (endsItem_items .object _ rest).endsNumber hnext rfl
      (ih hadmissible.tail member.value.after)

/-- **All members of an object are read**, up to and with the closing bracket. -/
theorem readAs_enclosed (hadmissible : Admissible members) (gap : Blank) (config : Config) (rest : List Char) :
    ReadAs members config rest
      (gives (readMembers true [] config (enclosed gap (members.map Member.text) ++ '\x7d' :: rest))) := by
  cases members with
  | nil =>
    rw [List.map_nil, enclosed, gives_readMembers_closed (skipBlank_blank_cons gap rfl rest)]
    exact .ok (by simp) (.refl config)
  | cons member members =>
    rw [List.map_cons, enclosed, List.append_assoc]
    obtain ⟨_, hnext⟩ := nextMember_first (skipBlank_member member _)
    exact .cons hadmissible (fun _ _ _ _ => List.not_mem_nil) (endsItem_items .object _ rest).endsNumber hnext rfl
      (readAs_others hadmissible.tail member.value.after rest)

end Config

end LibraryPaths
