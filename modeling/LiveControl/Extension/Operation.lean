import LiveControl.Mode

namespace LiveControl

/-- One operation. With no mode listed it may be used in every mode. -/
structure Operation where
  id : String
  isMutation : Bool
  allowedModes : List Mode
  deriving DecidableEq, Repr

namespace Operation

def allows (o : Operation) (mode : Mode) : Bool :=
  o.allowedModes.isEmpty || o.allowedModes.contains mode

/-- All operations, in the order of listings. -/
def catalog : List Operation := [
  ⟨"list_selected", false, []⟩,
  ⟨"list_nearby", false, []⟩,
  ⟨"spawn", true, [.tactical]⟩,
  ⟨"kill", true, [.tactical]⟩,
  ⟨"set_owner", true, [.tactical]⟩,
  ⟨"set_hp", true, [.tactical]⟩,
  ⟨"set_shield", true, [.tactical]⟩,
  ⟨"set_cooldown", true, [.tactical]⟩,
  ⟨"freeze_timer", true, [.tactical, .galactic]⟩,
  ⟨"toggle_fog", true, [.tactical, .galactic]⟩,
  ⟨"toggle_ai", true, [.tactical, .galactic]⟩,
  ⟨"set_credits", true, [.galactic, .tactical]⟩,
  ⟨"set_unit_cap", true, [.galactic]⟩]

/-- The operation that a caller's spelling means. -/
def find? (text : String) : Option Operation :=
  catalog.find? fun o => Text.eqIgnoringCase o.id (Text.trim text)

theorem asciiLower_id : ∀ o ∈ catalog, Text.asciiLower o.id = o.id := by decide

theorem eq_of_id_eq : ∀ o ∈ catalog, ∀ o' ∈ catalog, o.id = o'.id → o = o' := by decide

/-- No two operations are spelled alike, so the first that is found is the only one. -/
theorem find?_eq_some_iff {text : String} {o : Operation} :
    find? text = some o ↔ o ∈ catalog ∧ Text.eqIgnoringCase o.id (Text.trim text) = true := by
  constructor
  · intro found
    exact ⟨List.mem_of_find?_eq_some found, by simpa using List.find?_some found⟩
  · rintro ⟨member, spelled⟩
    cases found : find? text with
    | none => exact absurd spelled (List.find?_eq_none.1 found o member)
    | some o' =>
      have member' := List.mem_of_find?_eq_some found
      have spelled' : Text.eqIgnoringCase o'.id (Text.trim text) = true := by simpa using List.find?_some found
      rw [Text.eqIgnoringCase_iff, asciiLower_id _ member] at spelled
      rw [Text.eqIgnoringCase_iff, asciiLower_id _ member'] at spelled'
      rw [eq_of_id_eq o' member' o member (spelled'.trans spelled.symm)]

def toJson (o : Operation) : Json := .obj [
  ("id", .str o.id),
  ("is_mutation", .bool o.isMutation),
  ("allowed_modes", .ofNames (o.allowedModes.map Mode.text))]

end Operation
end LiveControl
