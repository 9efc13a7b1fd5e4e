import Mathlib.Data.List.Induction
import Mathlib.Data.List.Perm.Subperm
import RepoSurvey.Graph.Render

/-!
# Members of objects

The entries of an object are set one after the other: a key keeps its place, and its last value counts.
The same is done to the parts of a tree and to the members of a document.
-/

namespace RepoSurvey.Graph

section Members

variable {α β : Type}

/-- Members with the value of a key replaced where it stands, or appended. -/
def setMember (key : String) (value : α) : List (String × α) → List (String × α)
  | [] => [(key, value)]
  | member :: rest =>
      if member.1 == key then (key, value) :: rest else member :: setMember key value rest

/-- Members with several values set one after the other. -/
def setMembers (start members : List (String × α)) : List (String × α) :=
  members.foldl (fun members member => setMember member.1 member.2 members) start

theorem setMember_of_new {key : String} {members : List (String × α)}
    (isNew : key ∉ members.map (·.1)) (value : α) :
    setMember key value members = members ++ [(key, value)] := by
  induction members with
  | nil => rfl
  | cons member rest ih =>
      rw [List.map_cons, List.mem_cons, not_or] at isNew
      have differs : (member.1 == key) = false := beq_eq_false_iff_ne.mpr (Ne.symm isNew.1)
      rw [setMember, differs, List.cons_append, ih isNew.2]
      rfl

/-- Different keys are appended in the order in which they are set. -/
theorem setMembers_of_nodup {start members : List (String × α)}
    (areNew : ((start ++ members).map (·.1)).Nodup) : setMembers start members = start ++ members := by
  induction members generalizing start with
  | nil =>
      rw [List.append_nil]
      rfl
  | cons member rest ih =>
      have isNew : member.1 ∉ start.map (·.1) := by
        rw [List.map_append, List.nodup_append] at areNew
        intro isOld
        exact areNew.2.2 member.1 isOld member.1 List.mem_cons_self rfl
      rw [List.append_cons] at areNew ⊢
      rw [setMembers, List.foldl_cons, setMember_of_new isNew]
      exact ih areNew

theorem setMember_append_of_new {key : String} {start : List (String × α)}
    (isNew : key ∉ start.map (·.1)) (value : α) (members : List (String × α)) :
    setMember key value (start ++ members) = start ++ setMember key value members := by
  induction start with
  | nil => rfl
  | cons member rest ih =>
      rw [List.map_cons, List.mem_cons, not_or] at isNew
      have differs : (member.1 == key) = false := beq_eq_false_iff_ne.mpr (Ne.symm isNew.1)
      rw [List.cons_append, setMember, differs, ih isNew.2]
      rfl

/-- Members with other keys are set behind those that are there. -/
theorem setMembers_of_new {start members : List (String × α)}
    (areNew : ∀ member ∈ members, member.1 ∉ start.map (·.1)) :
    setMembers start members = start ++ setMembers [] members := by
  have general : ∀ behind, setMembers (start ++ behind) members =
      start ++ setMembers behind members := by
    induction members with
    | nil => exact fun behind => rfl
    | cons member rest ih =>
        rw [List.forall_mem_cons] at areNew
        intro behind
        rw [setMembers, List.foldl_cons, setMember_append_of_new areNew.1]
        exact ih areNew.2 _
  have all := general []
  rwa [List.append_nil] at all

/-- A key that is there keeps its place. -/
theorem keys_setMember {key : String} {members : List (String × α)}
    (isOld : key ∈ members.map (·.1)) (value : α) :
    (setMember key value members).map (·.1) = members.map (·.1) := by
  induction members with
  | nil => cases isOld
  | cons member rest ih =>
      rw [setMember]
      by_cases isKey : member.1 == key
      · rw [if_pos isKey, List.map_cons, List.map_cons, eq_of_beq isKey]
      · rw [if_neg isKey, List.map_cons, List.map_cons, ih]
        exact (List.mem_cons.mp isOld).resolve_left fun same => isKey (beq_iff_eq.mpr same.symm)

/-- No key comes twice. -/
theorem nodup_setMembers {start : List (String × α)} (areDifferent : (start.map (·.1)).Nodup)
    (members : List (String × α)) : ((setMembers start members).map (·.1)).Nodup := by
  induction members generalizing start with
  | nil => exact areDifferent
  | cons member rest ih =>
      refine @ih (setMember member.1 member.2 start) ?_
      by_cases isOld : member.1 ∈ start.map (·.1)
      · rwa [keys_setMember isOld]
      · rw [setMember_of_new isOld, List.map_append]
        refine List.nodup_append.mpr ⟨areDifferent, List.pairwise_singleton _ _, ?_⟩
        rintro key isKey other isOther rfl
        rw [List.map_singleton, List.mem_singleton] at isOther
        exact isOld (isOther ▸ isKey)

/-- Setting a member is seen as if it stood in front. -/
theorem lookup_setMember (key : String) (value : α) (members : List (String × α))
    (other : String) :
    (setMember key value members).lookup other = ((key, value) :: members).lookup other := by
  induction members with
  | nil => rfl
  | cons member rest ih =>
      obtain ⟨name, old⟩ := member
      rw [setMember]
      by_cases isKey : name == key
      · obtain rfl := eq_of_beq isKey
        rw [if_pos isKey, List.lookup_cons, List.lookup_cons, List.lookup_cons]
        cases other == name <;> rfl
      · rw [if_neg isKey, List.lookup_cons, ih, List.lookup_cons, List.lookup_cons,
          List.lookup_cons]
        by_cases isName : other == name
        · obtain rfl := eq_of_beq isName
          simp [isKey]
        · simp [isName]

/-- The last of the values that are set for a key counts. -/
theorem lookup_setMembers (start members : List (String × α)) (key : String) :
    (setMembers start members).lookup key = (members.reverse ++ start).lookup key := by
  induction members generalizing start with
  | nil => rfl
  | cons member rest ih =>
      change (setMembers (setMember member.1 member.2 start) rest).lookup key = _
      rw [ih, List.lookup_append, lookup_setMember, List.reverse_cons, List.append_assoc,
        List.lookup_append, List.singleton_append]

theorem setMembers_append (start members others : List (String × α)) :
    setMembers start (members ++ others) = setMembers (setMembers start members) others :=
  List.foldl_append

/-- The keys stand in the order in which they are set first. -/
theorem keys_setMembers (members : List (String × α)) :
    (setMembers [] members).map (·.1) = (members.map (·.1)).eraseDups := by
  induction members using List.reverseRecOn with
  | nil => rfl
  | append_singleton others member ih =>
      have last_eq : setMembers [] (others ++ [member]) =
          setMember member.1 member.2 (setMembers [] others) := setMembers_append [] others [member]
      rw [last_eq, List.map_append, List.eraseDups_append, ← ih]
      by_cases isOld : member.1 ∈ (setMembers [] others).map (·.1)
      · have isKnown : member.1 ∈ others.map (·.1) := by rwa [ih, List.mem_eraseDups] at isOld
        rw [keys_setMember isOld]
        simp [List.removeAll, isKnown]
      · have isNew : member.1 ∉ others.map (·.1) := by rwa [ih, List.mem_eraseDups] at isOld
        rw [setMember_of_new isOld, List.map_append]
        simp [List.removeAll, isNew, List.eraseDups_cons]

/-- Setting a member brings in no other member, and each of the others once at most. -/
theorem setMember_subperm (key : String) (value : α) (members : List (String × α)) :
    (setMember key value members).Subperm ((key, value) :: members) := by
  induction members with
  | nil => exact List.Subperm.refl _
  | cons member rest ih =>
      rw [setMember]
      split
      · exact (List.subperm_cons _).mpr (List.sublist_cons_self member rest).subperm
      · exact ((List.subperm_cons member).mpr ih).trans (List.Perm.swap _ _ _).subperm

theorem setMembers_subperm (start members : List (String × α)) :
    (setMembers start members).Subperm (start ++ members) := by
  induction members generalizing start with
  | nil =>
      rw [List.append_nil]
      exact List.Subperm.refl _
  | cons member rest ih =>
      refine (ih (setMember member.1 member.2 start)).trans ?_
      refine ((List.subperm_append_right rest).mpr
        (setMember_subperm member.1 member.2 start)).trans ?_
      exact List.perm_middle.symm.subperm

theorem map_setMember (change : α → β) (key : String) (value : α) (members : List (String × α)) :
    (setMember key value members).map (Prod.map id change) =
      setMember key (change value) (members.map (Prod.map id change)) := by
  induction members with
  | nil => rfl
  | cons member rest ih =>
      rw [setMember, List.map_cons, setMember]
      change _ = if member.1 == key then _ else _
      split
      · rfl
      · rw [List.map_cons, ih]

theorem map_setMembers (change : α → β) (start members : List (String × α)) :
    (setMembers start members).map (Prod.map id change) =
      setMembers (start.map (Prod.map id change)) (members.map (Prod.map id change)) := by
  induction members generalizing start with
  | nil => rfl
  | cons member rest ih =>
      refine (ih (setMember member.1 member.2 start)).trans ?_
      rw [map_setMember]
      rfl

theorem lookup_map (change : α → β) (key : String) (members : List (String × α)) :
    (members.map (Prod.map id change)).lookup key = (members.lookup key).map change := by
  induction members with
  | nil => rfl
  | cons member rest ih =>
      obtain ⟨name, value⟩ := member
      rw [List.map_cons, Prod.map_apply, id_eq, List.lookup_cons, List.lookup_cons, ih]
      cases key == name <;> rfl

theorem lookup_eq_none_of_notMem {key : String} {members : List (String × α)}
    (isAbsent : key ∉ members.map (·.1)) : members.lookup key = none := by
  rw [List.lookup_eq_none_iff]
  intro member isMember
  rw [bne_iff_ne]
  rintro rfl
  exact isAbsent (List.mem_map_of_mem isMember)

/-- Each member is found by its key, if no key comes twice. -/
theorem lookup_of_mem {members : List (String × α)} {member : String × α}
    (areDifferent : (members.map (·.1)).Nodup) (isMember : member ∈ members) :
    members.lookup member.1 = some member.2 := by
  obtain ⟨before, after, rfl⟩ := List.append_of_mem isMember
  rw [List.map_append, List.nodup_append] at areDifferent
  refine List.lookup_eq_some_iff.mpr ⟨before, after, rfl, fun other isOther => ?_⟩
  exact bne_iff_ne.mpr
    (areDifferent.2.2 _ (List.mem_map_of_mem isOther) _ List.mem_cons_self).symm

/-- If no key comes twice, members are told by their keys and by what is found there. -/
theorem filterMap_lookup {members : List (String × α)} (areDifferent : (members.map (·.1)).Nodup) :
    ((members.map (·.1)).filterMap fun key => (members.lookup key).map (key, ·)) = members := by
  rw [List.filterMap_map]
  refine (List.filterMap_congr fun member isMember => ?_).trans List.filterMap_some
  rw [Function.comp_apply, lookup_of_mem areDifferent isMember]
  rfl

/-- Each key comes once, where it is set first, with the value that is set last. -/
theorem setMembers_eq_filterMap (members : List (String × α)) :
    setMembers [] members = (members.map (·.1)).eraseDups.filterMap fun key =>
      (members.reverse.lookup key).map (key, ·) := by
  have isEmpty : (([] : List (String × α)).map (·.1)).Nodup := List.nodup_nil
  have areDifferent := nodup_setMembers isEmpty members
  have told := filterMap_lookup areDifferent
  simp only [lookup_setMembers, List.append_nil] at told
  rw [← keys_setMembers, told]

theorem lookup_map_eq_find? {γ : Type} (name : γ → String) (value : γ → α) (parts : List γ)
    (key : String) :
    (parts.map fun part => (name part, value part)).lookup key =
      (parts.find? (key == name ·)).map value := by
  induction parts with
  | nil => rfl
  | cons part rest ih =>
      rw [List.map_cons, List.lookup_cons, List.find?_cons, ih]
      cases key == name part <;> rfl

end Members

/-! ## Entries of objects -/

theorem setMember_eq_modify (key : String) (value : Value) (entries : List (String × Value)) :
    setMember key value entries =
      match entries.findIdx? (·.1 == key) with
      | some index => entries.modify index fun _ => (key, value)
      | none => entries ++ [(key, value)] := by
  induction entries with
  | nil => rfl
  | cons entry rest ih =>
      rw [setMember, List.findIdx?_cons]
      split
      · rfl
      · rw [ih]
        cases rest.findIdx? (·.1 == key) <;> rfl

theorem Container.setEntry_object (key : String) (value : Value) (entries : List (String × Value)) :
    (Container.object entries.toArray).setEntry key value =
      .object (setMember key value entries).toArray := by
  rw [setEntry, setMember_eq_modify, List.findIdx?_toArray]
  cases entries.findIdx? (·.1 == key) <;> simp

theorem Container.foldl_setEntry (start entries : List (String × Value)) :
    entries.foldl (fun container entry => container.setEntry entry.1 entry.2)
        (Container.object start.toArray) =
      .object (setMembers start entries).toArray := by
  induction entries generalizing start with
  | nil => rfl
  | cons entry rest ih =>
      rw [List.foldl_cons, setEntry_object, ih]
      rfl

end RepoSurvey.Graph
