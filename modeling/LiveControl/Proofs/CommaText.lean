import LiveControl.Profile
import LiveControl.Session
import LiveControl.Proofs.TextPieces
import Mathlib.Data.List.Forall2

namespace LiveControl

namespace NameSet

/-- A name that a comma-separated text can list. -/
structure Listable (name : String) : Prop where
  filled : name ≠ ""
  trimmed : Text.trim name = name
  whole : ',' ∉ name.toList

/-- The piece of a text is a name with blanks around it. -/
def Padded (name piece : String) : Prop := ∃ before after, Text.Within name.toList piece.toList before after

/-- The text joins names by commas, with any blanks around the names. -/
def Joins (names : List String) (text : String) : Prop :=
  ∃ pieces, List.Forall₂ Padded names pieces ∧ text = String.intercalate "," pieces

variable {name piece text : String} {names pieces : List String} {s : NameSet}

theorem joins_intercalate (names : List String) : Joins names (String.intercalate "," names) := by
  have bare (name : String) : Padded name name := ⟨[], [], by simp, nofun, nofun⟩
  exact ⟨names, List.forall₂_same.2 fun name _ => bare name, rfl⟩

theorem mem_ofCommaText :
    name ∈ ofCommaText text ↔ name ≠ "" ∧ ∃ piece ∈ Text.pieces ',' text.toList, Text.trimChars piece = name.toList := by
  have trimmed (piece : List Char) : Text.trimmed? (String.ofList piece) = some name ↔
      Text.trimChars piece = name.toList ∧ name ≠ "" := by
    rw [Text.trimmed?_eq_some_iff, ← String.toList_inj, Text.toList_trim, String.toList_ofList, eq_comm]
  simp only [ofCommaText, mem_ofList, List.mem_filterMap, trimmed]
  constructor
  · rintro ⟨piece, cut, same, filled⟩
    exact ⟨filled, piece, cut, same⟩
  · rintro ⟨filled, piece, cut, same⟩
    exact ⟨piece, cut, same, filled⟩

theorem listable_of_mem_ofCommaText (member : name ∈ ofCommaText text) : Listable name := by
  obtain ⟨filled, piece, cut, same⟩ := mem_ofCommaText.1 member
  refine ⟨filled, ?_, fun comma => ?_⟩
  · rw [← String.toList_inj, Text.toList_trim, ← same, Text.trimChars_trimChars]
  · obtain ⟨-, before, after, split, -, -⟩ := Text.exists_within_trimChars piece
    refine Text.not_mem_of_mem_pieces cut ?_
    rw [split, same]
    simp [comma]

theorem Padded.trimmed?_eq (padded : Padded name piece) (listable : Listable name) : Text.trimmed? piece = some name := by
  obtain ⟨before, after, within⟩ := padded
  have kept : Text.trimChars name.toList = name.toList := by rw [← Text.toList_trim, listable.trimmed]
  have snug : Text.Snug name.toList := kept ▸ (Text.exists_within_trimChars name.toList).1
  rw [Text.trimmed?_eq_some_iff, ← String.toList_inj, Text.toList_trim, within.trimChars_eq snug]
  exact ⟨rfl, listable.filled⟩

theorem Padded.whole (padded : Padded name piece) (listable : Listable name) : ',' ∉ piece.toList := by
  obtain ⟨before, after, split, leading, trailing⟩ := padded
  have solid : Text.isBlank ',' = false := by decide
  rw [split]
  simp [Text.not_mem_blanks solid leading, Text.not_mem_blanks solid trailing, listable.whole]

/-- Padded names hold no comma, and trimmed they are the names again. -/
theorem whole_and_trimmed (padded : List.Forall₂ Padded names pieces) (listable : ∀ name ∈ names, Listable name) :
    (∀ piece ∈ pieces, ',' ∉ piece.toList) ∧ pieces.filterMap Text.trimmed? = names := by
  induction padded with
  | nil => exact ⟨nofun, rfl⟩
  | cons first rest ih =>
    obtain ⟨here, later⟩ := List.forall_mem_cons.1 listable
    obtain ⟨whole, trimmed⟩ := ih later
    refine ⟨List.forall_mem_cons.2 ⟨first.whole here, whole⟩, ?_⟩
    rw [List.filterMap_cons_some (first.trimmed?_eq here), trimmed]

/-- A join lists the names that it joins. -/
theorem Joins.ofCommaText_eq (joins : Joins names text) (listable : ∀ name ∈ names, Listable name) :
    ofCommaText text = ofList names := by
  obtain ⟨pieces, padded, rfl⟩ := joins
  obtain ⟨whole, trimmed⟩ := whole_and_trimmed padded listable
  cases pieces with
  | nil =>
    cases padded
    rfl
  | cons first rest =>
    have cut := Text.pieces_join (List.cons_ne_nil first rest) whole
    rw [ofCommaText, cut, List.filterMap_map, ← trimmed]
    simp

theorem ofCommaText_eq_self_of_joins (joins : Joins s.toList text) (listable : ∀ name ∈ s, Listable name) :
    ofCommaText text = s :=
  (joins.ofCommaText_eq listable).trans (ofList_toList s)

/-- The sets that are listed by some text are those that are listed by their own join. -/
theorem listable_iff_ofCommaText_join :
    (∀ name ∈ s, Listable name) ↔ ofCommaText (String.intercalate "," s.toList) = s := by
  constructor
  · exact ofCommaText_eq_self_of_joins (joins_intercalate s.toList)
  · intro same name member
    rw [← same] at member
    exact listable_of_mem_ofCommaText member

end NameSet

open NameSet

variable {names : List String} {text : String} {policy : Policy}

theorem Session.mem_disabledActions_iff {session : Session} (joins : Joins names text)
    (listable : ∀ name ∈ names, Listable name) (written : session.metadata.get? policy.disabledKey = some text)
    (action : String) : action ∈ session.disabledActions policy ↔ action ∈ names := by
  rw [disabledActions, written, ofCommaText?, Option.getD_some, joins.ofCommaText_eq listable, mem_ofList]

theorem Profile.mem_criticalSymbols_iff {profile : Profile} (joins : Joins names text)
    (listable : ∀ name ∈ names, Listable name) (written : profile.metadata.get? policy.criticalKey = some text)
    (symbol : String) : symbol ∈ profile.criticalSymbols policy ↔ symbol ∈ names := by
  rw [criticalSymbols, written, ofCommaText?, Option.getD_some, joins.ofCommaText_eq listable, mem_ofList]

/-- A comma-separated text, if there is one, lists names that are filled, trimmed and free of commas, and a join of
these names lists the same set; the sets of such names are those that their own join lists. So where metadata
joins such names, with any blanks around them, just these actions are disabled and just these symbols critical. -/
theorem comma_texts_normalize :
    (∀ text : Option String, (∀ name ∈ ofCommaText? text, Listable name) ∧
      ∀ joined, Joins (ofCommaText? text).toList joined → ofCommaText joined = ofCommaText? text) ∧
    (∀ s : NameSet, (∀ name ∈ s, Listable name) ↔ ofCommaText (String.intercalate "," s.toList) = s) ∧
    ∀ (names : List String) (text : String) (policy : Policy), Joins names text → (∀ name ∈ names, Listable name) →
      (∀ session : Session, session.metadata.get? policy.disabledKey = some text →
        ∀ action, action ∈ session.disabledActions policy ↔ action ∈ names) ∧
      ∀ profile : Profile, profile.metadata.get? policy.criticalKey = some text →
        ∀ symbol, symbol ∈ profile.criticalSymbols policy ↔ symbol ∈ names := by
  refine ⟨fun text => ?_, fun s => listable_iff_ofCommaText_join, fun names text policy joins listable => ?_⟩
  · have listable : ∀ name ∈ ofCommaText? text, Listable name := fun name => listable_of_mem_ofCommaText
    exact ⟨listable, fun joined joins => ofCommaText_eq_self_of_joins joins listable⟩
  · exact ⟨fun session => Session.mem_disabledActions_iff joins listable,
      fun profile => Profile.mem_criticalSymbols_iff joins listable⟩

/-- Names with blanks around the comma. -/
def spacedNames : String := "set_credits \t,  toggle_ai"

theorem joins_spacedNames : Joins ["set_credits", "toggle_ai"] spacedNames := by
  have trailing : ∀ c ∈ [' ', '\t'], Text.isBlank c = true := List.all_eq_true.1 (by decide)
  have leading : ∀ c ∈ [' ', ' '], Text.isBlank c = true := List.all_eq_true.1 (by decide)
  have first : Padded "set_credits" "set_credits \t" := ⟨[], _, by decide, nofun, trailing⟩
  have second : Padded "toggle_ai" "  toggle_ai" := ⟨_, [], by decide, leading, nofun⟩
  exact ⟨_, .cons first (.cons second .nil), by decide⟩

theorem comma_texts_normalize_spaced :
    ofCommaText spacedNames = ofCommaText? (some ",set_credits,, toggle_ai") ∧
      "set_credits" ∈ ((Session.bare 7 .tactical).addMetadata "dependencyDisabledActions" spacedNames).disabledActions
        .standard ∧
      "credits" ∉ ((Profile.bare "drill").addMetadata "criticalSymbols" spacedNames).criticalSymbols .standard := by
  obtain ⟨texts, -, metadata⟩ := comma_texts_normalize
  obtain ⟨listable, again⟩ := texts (some ",set_credits,, toggle_ai")
  have listed : (ofCommaText? (some ",set_credits,, toggle_ai")).toList = ["set_credits", "toggle_ai"] := by decide
  have listable : ∀ name ∈ ["set_credits", "toggle_ai"], Listable name := listed ▸ listable
  obtain ⟨disabled, critical⟩ := metadata _ _ .standard joins_spacedNames listable
  refine ⟨again _ (listed ▸ joins_spacedNames), (disabled _ (by decide) _).2 (by decide), fun member => ?_⟩
  exact absurd ((critical _ (by decide) _).1 member) (by decide)

end LiveControl
