import RepoSurvey.Yaml.Decoding

/-!
# What structures keep

A structure that is read from a document starts with the values of the fields that are left out, and each
field that is there changes it.  What every field keeps therefore holds of all that can be read, whatever
the document says.  Fields that nobody knows change nothing.
-/

namespace RepoSurvey.Yaml.Decoder

variable {α β : Type} {accepts : α → Prop}

/-- Whatever a document says, what a decoder reads is accepted. -/
def Gives (decoder : Decoder α) (accepts : α → Prop) : Prop :=
  ∀ document path node value, decoder document path node = .ok value → accepts value

theorem Gives.map {decoder : Decoder α} (gives : decoder.Gives accepts) {change : α → β}
    {acceptsChanged : β → Prop} (keeps : ∀ value, accepts value → acceptsChanged (change value)) :
    (decoder.map change).Gives acceptsChanged := by
  intro document path node value isRead
  rw [Decoder.map] at isRead
  cases before : decoder document path node with
  | error error =>
      rw [before] at isRead
      cases isRead
  | ok unchanged =>
      rw [before] at isRead
      cases isRead
      exact keeps unchanged (gives document path node unchanged before)

theorem gives_map (decoder : Decoder α) {change : α → β} {acceptsChanged : β → Prop}
    (always : ∀ value, acceptsChanged (change value)) :
    (decoder.map change).Gives acceptsChanged := by
  have gives : decoder.Gives fun _ => True := fun _ _ _ _ _ => trivial
  exact gives.map fun value _ => always value

/-- Each field of a structure changes it in a way that keeps a condition. -/
def Keep (fields : List (String × Decoder (α → α))) (accepts : α → Prop) : Prop :=
  ∀ field ∈ fields, field.2.Gives fun change => ∀ value, accepts value → accepts (change value)

theorem unlessFailed_eq_ok {failure : Option Failure} {value result : α}
    (isRead : unlessFailed failure value = .ok result) : value = result := by
  cases failure with
  | none => exact Except.ok.inj isRead
  | some failure => cases isRead

theorem Keep.entries {fields : List (String × Decoder (α → α))} (keep : Keep fields accepts)
    {document : Document} {path : NodePath} {mark : Mark} {failure : Option Failure}
    {seen : List String} {value result : α} {members : List (Node × Option Node)}
    (isRead : entries fields document path mark failure seen value members = .ok result)
    (isAccepted : accepts value) : accepts result := by
  induction members generalizing seen value with
  | nil =>
      rw [Decoder.entries] at isRead
      exact unlessFailed_eq_ok isRead ▸ isAccepted
  | cons member rest ih =>
      obtain ⟨key, entry⟩ := member
      rw [Decoder.entries] at isRead
      cases named : text "field identifier" document path key with
      | error error =>
          rw [named] at isRead
          cases isRead
      | ok name =>
          rw [named] at isRead
          simp only [bind, Except.bind] at isRead
          cases known : fields.lookup name with
          | none =>
              simp only [known] at isRead
              split at isRead
              · cases isRead
              · exact ih isRead isAccepted
          | some field =>
              simp only [known] at isRead
              split at isRead
              · cases isRead
              · obtain ⟨before, behind, rfl, _⟩ := List.lookup_eq_some_iff.mp known
                have gives := keep (name, field) (by simp)
                cases entry with
                | none => exact unlessFailed_eq_ok isRead ▸ isAccepted
                | some entry =>
                    cases changed : field document (valuePath path key) entry with
                    | error error =>
                        simp only [changed] at isRead
                        cases isRead
                    | ok change =>
                        simp only [changed] at isRead
                        exact ih isRead (gives _ _ _ change changed value isAccepted)

theorem Keep.fields {fields : List (String × Decoder (α → α))} (keep : Keep fields accepts)
    {name : String} {initial : α} (isAccepted : accepts initial) :
    (Decoder.fields name fields initial).Gives accepts := by
  intro document path node value isRead
  unfold Decoder.fields at isRead
  dsimp only at isRead
  split at isRead
  · exact keep.entries isRead isAccepted
  · split at isRead
    · cases isRead
      exact isAccepted
    · cases isRead

theorem Gives.decode {decoder : Decoder α} (gives : decoder.Gives accepts) {initial value : α}
    (isAccepted : accepts initial) {document : Document}
    (isRead : document.decode decoder initial = .ok value) : accepts value := by
  obtain ⟨root, failure, isFollowed⟩ := document
  cases root with
  | none =>
      cases failure with
      | none =>
          cases isRead
          exact isAccepted
      | some failure => cases isRead
  | some root =>
      simp only [Document.decode, bind, Except.bind] at isRead
      split at isRead
      · cases isRead
      · rename_i given isGiven
        have givenAccepted := gives _ _ _ given isGiven
        cases failure with
        | some failure => cases isRead
        | none =>
            dsimp only at isRead
            split at isRead
            · cases isRead
            · cases isRead
              exact givenAccepted

end RepoSurvey.Yaml.Decoder
