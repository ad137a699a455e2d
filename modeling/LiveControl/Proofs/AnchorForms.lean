import LiveControl.Extension.Anchors
import LiveControl.Proofs.NameListText
import LiveControl.Proofs.TextPieces

namespace LiveControl.Anchors

/-- The form in which a name stands in a set of anchors. -/
structure Normal (name : String) : Prop where
  filled : name ≠ ""
  trimmed : Text.trim name = name
  small : ∀ c ∈ name.toList, c.isUpper = false

variable {name n : String}

theorem normalName?_eq_some_iff :
    normalName? name = some n ↔ Text.trim name ≠ "" ∧ Text.asciiLower (Text.trim name) = n := by
  simp only [normalName?, Option.map_eq_some_iff, Text.trimmed?_eq_some_iff]
  constructor
  · rintro ⟨_, ⟨rfl, filled⟩, small⟩
    exact ⟨filled, small⟩
  · rintro ⟨filled, small⟩
    exact ⟨_, ⟨rfl, filled⟩, small⟩

theorem normal_of_normalName? (found : normalName? name = some n) : Normal n := by
  obtain ⟨filled, rfl⟩ := normalName?_eq_some_iff.1 found
  refine ⟨mt Text.asciiLower_eq_empty_iff.1 filled, ?_, Text.asciiLower_eq_self_iff.1 (Text.asciiLower_asciiLower _)⟩
  rw [← Text.asciiLower_trim, Text.trim_trim]

theorem normalName?_eq_self_iff : normalName? n = some n ↔ Normal n := by
  constructor
  · exact normal_of_normalName?
  · intro normal
    rw [normalName?_eq_some_iff, normal.trimmed]
    exact ⟨normal.filled, Text.asciiLower_eq_self_iff.2 normal.small⟩

/-- Blanks around a name change nothing about its normal form. -/
theorem normalName?_trimChars (cs : List Char) :
    normalName? (String.ofList (Text.trimChars cs)) = normalName? (String.ofList cs) := by
  have trimmed := Text.trimmed?_trim (String.ofList cs)
  rw [Text.trim, String.toList_ofList] at trimmed
  rw [normalName?, normalName?, trimmed]

/-- The first character of a text that is no blank opens a list. -/
def OpensList (text : String) : Prop := text.toList.find? (fun c => !Text.isBlank c) = some '['

theorem opensList_iff {text : String} : OpensList text ↔ (Text.trim text).toList.head? = some '[' := by
  rw [OpensList, Text.toList_trim, Text.head?_trimChars]

/-- A value spells out a name, with the blanks and capitals that it gives it. -/
inductive Spells : Json → String → Prop
  | item {items name} (listed : .str name ∈ items) : Spells (.arr items) name
  | document {text items name} (opens : OpensList text) (reads : Json.parse? (Text.trim text) = some (.arr items))
      (listed : .str name ∈ items) : Spells (.str text) name
  | piece {text piece} (plain : ¬OpensList text) (cut : piece ∈ Text.pieces ',' text.toList) :
      Spells (.str text) (String.ofList piece)
  | key {fields name value} (entry : (name, value) ∈ fields) (given : value ≠ .null)
      (filled : ∀ text, value = .str text → Text.trim text ≠ "") : Spells (.obj fields) name

theorem mem_ofNames {names : List String} : n ∈ ofNames names ↔ ∃ name ∈ names, normalName? name = some n := by
  simp [ofNames]

theorem mem_ofItems {items : List Json} :
    n ∈ ofItems items ↔ ∃ name, .str name ∈ items ∧ normalName? name = some n := by
  have text_iff (item : Json) (name : String) : item.str? = some name ↔ item = .str name := by
    cases item <;> simp [Json.str?]
  simp [ofItems, mem_ofNames, text_iff]

theorem isFilled_iff {value : Json} :
    isFilled value = true ↔ value ≠ .null ∧ ∀ text, value = .str text → Text.trim text ≠ "" := by
  cases value with
  | str text => simp [isFilled, ← Text.isBlankText_iff]
  | null | bool | int | float | arr | obj => simp [isFilled]

/-- Blanks around a text change nothing about the names between its commas. -/
theorem ofNames_pieces_trim (cs : List Char) :
    ofNames ((Text.pieces ',' (Text.trimChars cs)).map String.ofList) =
      ofNames ((Text.pieces ',' cs).map String.ofList) := by
  have names (parts : List (List Char)) : (parts.map String.ofList).filterMap normalName? =
      (parts.map Text.trimChars).filterMap fun part => normalName? (String.ofList part) := by
    simp only [List.filterMap_map, Function.comp_def, normalName?_trimChars]
  rw [ofNames, ofNames, names, names, Text.map_trimChars_pieces (by decide)]

/-- A text that opens a list spells out the names in the list that it reads as. -/
theorem spells_of_reads {text : String} {items : List Json} (opens : OpensList text)
    (reads : Json.parse? (Text.trim text) = some (.arr items)) : Spells (.str text) name ↔ .str name ∈ items := by
  constructor
  · intro spells
    cases spells with
    | document _ reads' listed =>
      rw [reads] at reads'
      cases reads'
      exact listed
    | piece plain => exact absurd opens plain
  · exact .document opens reads

theorem mem_ofText {text : String} :
    n ∈ ofText text ↔ ∃ name, Spells (.str text) name ∧ normalName? name = some n := by
  rw [ofText]
  by_cases opens : OpensList text
  · rw [if_pos (opensList_iff.1 opens)]
    split
    · rename_i reads
      simp only [mem_ofItems, spells_of_reads opens reads]
    · rename_i other
      have none : ∀ name, ¬Spells (.str text) name := fun name spells => by
        cases spells with
        | document _ reads => exact other _ reads
        | piece plain => exact plain opens
      simp [none]
  · rw [if_neg (mt opensList_iff.2 opens), Text.toList_trim, ofNames_pieces_trim, mem_ofNames]
    constructor
    · rintro ⟨name, member, normal⟩
      obtain ⟨piece, cut, rfl⟩ := List.mem_map.1 member
      exact ⟨_, .piece opens cut, normal⟩
    · rintro ⟨name, spells, normal⟩
      cases spells with
      | document opens' => exact absurd opens' opens
      | piece _ cut => exact ⟨_, List.mem_map_of_mem cut, normal⟩

/-- The anchors of a value are the normal forms of what it spells out. -/
theorem mem_ofLoose_iff {value : Json} :
    n ∈ ofLoose value ↔ ∃ name, Spells value name ∧ normalName? name = some n := by
  cases value with
  | arr items =>
    rw [ofLoose, mem_ofItems]
    refine exists_congr fun name => and_congr_left fun _ => ⟨.item, fun spells => ?_⟩
    cases spells with
    | item listed => exact listed
  | str text =>
    rw [ofLoose]
    exact mem_ofText
  | obj fields =>
    rw [ofLoose, mem_ofNames]
    refine exists_congr fun name => and_congr_left fun _ => ?_
    simp only [List.mem_map, List.mem_filter, Prod.exists, exists_and_right, exists_eq_right]
    constructor
    · rintro ⟨value, entry, filled⟩
      obtain ⟨given, filled⟩ := isFilled_iff.1 filled
      exact .key entry given filled
    · rintro ⟨⟩
      rename_i value given filled entry
      exact ⟨value, entry, isFilled_iff.2 ⟨given, filled⟩⟩
  | null | bool | int | float =>
    constructor
    · intro member
      simp [ofLoose] at member
    · rintro ⟨_, ⟨⟩, _⟩

theorem normal_of_mem_ofLoose {value : Json} (member : n ∈ ofLoose value) : Normal n := by
  obtain ⟨name, -, found⟩ := mem_ofLoose_iff.1 member
  exact normal_of_normalName? found

theorem normal_of_mem_ofEntry {value : Option Json} (member : n ∈ ofEntry value) : Normal n := by
  cases value with
  | none => exact absurd member NameSet.not_mem_empty
  | some value => exact normal_of_mem_ofLoose member

theorem ofLoose_eq_of_spells {value other : Json} (same : ∀ name, Spells value name ↔ Spells other name) :
    ofLoose value = ofLoose other :=
  NameSet.ext fun n => by simp only [mem_ofLoose_iff, same]

variable {names : List String}

theorem spells_ofNames : Spells (.ofNames names) name ↔ name ∈ names := by
  have listed : .str name ∈ names.map Json.str ↔ name ∈ names := by simp
  rw [← listed]
  constructor
  · rintro ⟨listed⟩
    exact listed
  · exact .item

theorem mem_ofLoose_ofNames :
    n ∈ ofLoose (.ofNames names) ↔
      ∃ name ∈ names, Text.trim name ≠ "" ∧ Text.asciiLower (Text.trim name) = n := by
  simp only [mem_ofLoose_iff, spells_ofNames, normalName?_eq_some_iff]

/-- Names in normal form stand for themselves. -/
theorem ofLoose_ofNames_toList {s : NameSet} (normal : ∀ n ∈ s, Normal n) : ofLoose (.ofNames s.toList) = s := by
  refine NameSet.ext fun n => ?_
  simp only [mem_ofLoose_iff, spells_ofNames, NameSet.mem_toList]
  constructor
  · rintro ⟨name, member, found⟩
    have kept := normalName?_eq_self_iff.2 (normal name member)
    rw [kept] at found
    cases found
    exact member
  · intro member
    exact ⟨n, member, normalName?_eq_self_iff.2 (normal n member)⟩

/-- The document of a list starts and ends with a bracket, so only blanks around it are trimmed away. -/
theorem trim_document {before after : String} (leading : ∀ c ∈ before.toList, Text.isBlank c = true)
    (trailing : ∀ c ∈ after.toList, Text.isBlank c = true) (names : List String) :
    Text.trim (before ++ Json.compact (.ofNames names) ++ after) = Json.compact (.ofNames names) := by
  apply String.toList_injective
  have snug : Text.Snug (Json.compact (.ofNames names)).toList := by
    rw [Json.toList_compact_ofNames]
    constructor
    · rintro c ⟨⟩
      decide
    · rw [← List.cons_append, List.getLast?_concat]
      rintro c ⟨⟩
      decide
  rw [Text.toList_trim]
  exact Text.Within.trimChars_eq ⟨by simp, leading, trailing⟩ snug

theorem spells_document {before after : String} (leading : ∀ c ∈ before.toList, Text.isBlank c = true)
    (trailing : ∀ c ∈ after.toList, Text.isBlank c = true) :
    Spells (.str (before ++ Json.compact (.ofNames names) ++ after)) name ↔ Spells (.ofNames names) name := by
  have trimmed := trim_document leading trailing names
  have reads : Json.parse? (Text.trim (before ++ Json.compact (.ofNames names) ++ after)) = some (.ofNames names) := by
    rw [trimmed, Json.parse?_compact_ofNames]
  have opens : OpensList (before ++ Json.compact (.ofNames names) ++ after) := by
    rw [opensList_iff, trimmed, Json.toList_compact_ofNames]
    rfl
  rw [spells_of_reads opens reads]
  constructor
  · exact .item
  · rintro ⟨listed⟩
    exact listed

theorem spells_object {fields : List (String × Json)}
    (filled : ∀ field ∈ fields, field.2 ≠ .null ∧ ∀ text, field.2 = .str text → Text.trim text ≠ "") :
    Spells (.obj fields) name ↔ name ∈ fields.map Prod.fst := by
  constructor
  · rintro ⟨⟩
    rename_i entry
    exact List.mem_map_of_mem entry
  · intro member
    obtain ⟨⟨_, value⟩, entry, rfl⟩ := List.mem_map.1 member
    exact .key entry (filled _ entry).1 (filled _ entry).2

theorem spells_joined (filled : names ≠ []) (free : ∀ name ∈ names, ',' ∉ name.toList)
    (plain : ¬OpensList (String.intercalate "," names)) :
    Spells (.str (String.intercalate "," names)) name ↔ Spells (.ofNames names) name := by
  have cut := Text.pieces_join filled free
  rw [spells_ofNames]
  constructor
  · intro spells
    cases spells with
    | document opens => exact absurd opens plain
    | piece _ member =>
      rw [cut] at member
      obtain ⟨name, listed, rfl⟩ := List.mem_map.1 member
      rwa [String.ofList_toList]
  · intro listed
    have member : name.toList ∈ Text.pieces ',' (String.intercalate "," names).toList :=
      cut ▸ List.mem_map_of_mem listed
    have spells := Spells.piece plain member
    rwa [String.ofList_toList] at spells

theorem ofLoose_joined (free : ∀ name ∈ names, ',' ∉ name.toList)
    (plain : ¬OpensList (String.intercalate "," names)) :
    ofLoose (.str (String.intercalate "," names)) = ofLoose (.ofNames names) := by
  cases names with
  | nil => rfl
  | cons first others => exact ofLoose_eq_of_spells fun _ => spells_joined (List.cons_ne_nil _ _) free plain

/-- Anchors are in normal form, and as a list they are read as they are. A list of names, its document between
any blanks, an object with these names over values that say something, and the names between commas all have
the same anchors: of each name that is not blank the trimmed form in lowercase. -/
theorem encodings_agree :
    (∀ value : Option Json, (∀ n ∈ ofEntry value, Normal n) ∧
      ofLoose (.ofNames (ofEntry value).toList) = ofEntry value) ∧
    ∀ names : List String,
      (∀ n, n ∈ ofLoose (.ofNames names) ↔
        ∃ name ∈ names, Text.trim name ≠ "" ∧ Text.asciiLower (Text.trim name) = n) ∧
      (∀ before after : String, (∀ c ∈ before.toList, Text.isBlank c = true) →
        (∀ c ∈ after.toList, Text.isBlank c = true) →
        ofLoose (.str (before ++ Json.compact (.ofNames names) ++ after)) = ofLoose (.ofNames names)) ∧
      (∀ fields : List (String × Json), (∀ name, name ∈ fields.map Prod.fst ↔ name ∈ names) →
        (∀ field ∈ fields, field.2 ≠ .null ∧ ∀ text, field.2 = .str text → Text.trim text ≠ "") →
        ofLoose (.obj fields) = ofLoose (.ofNames names)) ∧
      ((∀ name ∈ names, ',' ∉ name.toList) → ¬OpensList (String.intercalate "," names) →
        ofLoose (.str (String.intercalate "," names)) = ofLoose (.ofNames names)) := by
  refine ⟨fun value => ?_, fun names => ⟨fun n => mem_ofLoose_ofNames, ?_, ?_, ofLoose_joined⟩⟩
  · have normal : ∀ n ∈ ofEntry value, Normal n := fun n => normal_of_mem_ofEntry
    exact ⟨normal, ofLoose_ofNames_toList normal⟩
  · intro before after leading trailing
    exact ofLoose_eq_of_spells fun name => spells_document leading trailing
  · intro fields same filled
    refine ofLoose_eq_of_spells fun name => ?_
    rw [spells_object filled, same, spells_ofNames]

/-- Names with blanks, capitals and quotes, two of them for one anchor. -/
def looseNames : List String := [" Unit_Cap", "say \x22AI\x22", "unit_cap"]

theorem encodings_agree_loose :
    ofLoose (.str ("\n " ++ Json.compact (.ofNames looseNames) ++ "\t")) = ofLoose (.ofNames looseNames) ∧
      ofLoose (.obj (looseNames.map fun name => (name, .str "0x7f00"))) = ofLoose (.ofNames looseNames) ∧
      ofLoose (.str (String.intercalate "," looseNames)) = ofLoose (.ofNames looseNames) ∧
      "say \x22ai\x22" ∈ ofLoose (.ofNames looseNames) := by
  obtain ⟨anchors, document, object, joined⟩ := encodings_agree.2 looseNames
  have leading : "\n ".toList.all Text.isBlank = true := by decide
  have trailing : "\t".toList.all Text.isBlank = true := by decide
  have filled : Text.trim "0x7f00" ≠ "" := by decide
  refine ⟨document "\n " "\t" (List.all_eq_true.1 leading) (List.all_eq_true.1 trailing),
    object _ (by simp) (by simp [filled]), joined (by decide) ?_,
    (anchors _).2 ⟨"say \x22AI\x22", by decide, by decide, by decide⟩⟩
  rw [OpensList]
  decide

end LiveControl.Anchors
