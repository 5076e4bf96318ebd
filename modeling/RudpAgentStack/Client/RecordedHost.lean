import RudpAgentStack.Client.FileAnswers

/-!
# A host with a record of JSON values

A host in memory that writes the JSON values it has on record, and no others.
So what it writes it also reads back, which a host with an incomplete table of
texts does not.
-/

namespace RudpAgentStack

open Foundation

/-! ## Equality of JSON values -/

mutual

/-- The values are the same. -/
def sameJson : Json → Json → Bool
  | .null, .null => true
  | .bool left, .bool right => left = right
  | .int left, .int right => left = right
  | .float left value, .float right other => left = right ∧ value = other
  | .string left, .string right => left = right
  | .array left, .array right => sameElements left right
  | .object left, .object right => sameMembers left right
  | _, _ => false

def sameElements : List Json → List Json → Bool
  | [], [] => true
  | left :: lefts, right :: rights =>
      sameJson left right && sameElements lefts rights
  | _, _ => false

def sameMembers : List (Text × Json) → List (Text × Json) → Bool
  | [], [] => true
  | (key, left) :: lefts, (other, right) :: rights =>
      key = other && sameJson left right && sameMembers lefts rights
  | _, _ => false

end

mutual

theorem eq_of_sameJson : ∀ {left right : Json},
    sameJson left right = true → left = right
  | .null, right, same => by
      cases right <;> simp_all [sameJson]
  | .bool _, right, same => by
      cases right <;> simp_all [sameJson]
  | .int _, right, same => by
      cases right <;> simp_all [sameJson]
  | .float _ _, right, same => by
      cases right <;> simp_all [sameJson]
  | .string _, right, same => by
      cases right <;> simp_all [sameJson]
  | .array _, right, same => by
      cases right with
      | array others =>
          rw [sameJson] at same
          rw [eq_of_sameElements same]
      | _ => simp [sameJson] at same
  | .object _, right, same => by
      cases right with
      | object others =>
          rw [sameJson] at same
          rw [eq_of_sameMembers same]
      | _ => simp [sameJson] at same

theorem eq_of_sameElements : ∀ {lefts rights : List Json},
    sameElements lefts rights = true → lefts = rights
  | [], rights, same => by
      cases rights <;> simp_all [sameElements]
  | left :: lefts, rights, same => by
      cases rights with
      | nil => simp [sameElements] at same
      | cons right rights =>
          rw [sameElements, Bool.and_eq_true] at same
          rw [eq_of_sameJson same.1, eq_of_sameElements same.2]

theorem eq_of_sameMembers : ∀ {lefts rights : List (Text × Json)},
    sameMembers lefts rights = true → lefts = rights
  | [], rights, same => by
      cases rights <;> simp_all [sameMembers]
  | (key, left) :: lefts, rights, same => by
      cases rights with
      | nil => simp [sameMembers] at same
      | cons member rights =>
          rw [sameMembers, Bool.and_eq_true, Bool.and_eq_true,
            decide_eq_true_eq] at same
          obtain ⟨⟨sameKey, sameValue⟩, sameRest⟩ := same
          rw [sameKey, eq_of_sameJson sameValue, eq_of_sameMembers sameRest]

end

/-! ## The host -/

open MemoryHost

/-- The JSON texts of a record. -/
def recordedTexts (record : List Json) : List (Text × Json) :=
  record.map fun value => (value.write false, value)

/-- A host in memory that writes and reads the values on record. -/
def recordedHost (record : List Json) (digests : List (Bytes × Text)) :
    Host Files :=
  { memoryHost (recordedTexts record) digests with
    jsonDumps := fun style value =>
      match (recordedTexts record).lookup (value.write false) with
      | some recorded =>
          if sameJson recorded value then dumps style value
          else .error ⟨.typeError, "not on record"⟩
      | none => .error ⟨.typeError, "not on record"⟩ }

theorem recordedHost_roundTrips
    (record : List Json) (digests : List (Bytes × Text)) :
    (recordedHost record digests).JsonRoundTrips where
  readsBack := by
    intro value text written
    simp only [recordedHost] at written ⊢
    split at written
    · next recorded found =>
        split at written
        · next same =>
            have text_eq : text = value.write false :=
              (Except.ok.inj written).symm
            rw [← eq_of_sameJson same, text_eq]
            simp only [memoryHost, found]
        · cases written
    · cases written
  braces := by
    intro members text written
    simp only [recordedHost] at written
    split at written
    · split at written
      · exact Sample.memoryHost_bracesObjects [] [] members text written
      · cases written
    · cases written

/-- Its files are those of the host in memory. -/
def recordedFiles
    (record : List Json) (digests : List (Bytes × Text)) :
    FileSystem (recordedHost record digests) :=
  { memoryFiles (recordedTexts record) digests with }

end RudpAgentStack
