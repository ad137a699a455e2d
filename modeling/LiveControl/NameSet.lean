import LiveControl.Text.Blank

namespace LiveControl

/-- A finite set of names. The ascending list is its only representation. -/
structure NameSet where
  names : List String
  ascending : names.Pairwise (· < ·)

namespace NameSet

/-- Puts a name at its place in an ascending list that may hold it already. -/
def place (name : String) : List String → List String
  | [] => [name]
  | head :: tail =>
    if name < head then name :: head :: tail
    else if name = head then head :: tail
    else head :: place name tail

theorem mem_place {name x : String} {xs : List String} : x ∈ place name xs ↔ x = name ∨ x ∈ xs := by
  induction xs with
  | nil => simp [place]
  | cons head tail ih => grind [place]

theorem ascending_place (name : String) {xs : List String} (h : xs.Pairwise (· < ·)) :
    (place name xs).Pairwise (· < ·) := by
  induction xs with
  | nil => simp [place]
  | cons head tail ih =>
    have below := (List.pairwise_cons.1 h).1
    have rest := ih h.of_cons
    unfold place
    split
    · rename_i first
      exact .cons (by grind [String.lt_trans]) h
    · split
      · exact h
      · exact .cons (fun x member => by grind [mem_place]) rest

instance : Membership String NameSet := ⟨fun s name => name ∈ s.names⟩

instance (name : String) (s : NameSet) : Decidable (name ∈ s) :=
  inferInstanceAs (Decidable (name ∈ s.names))

theorem mem_def {name : String} {s : NameSet} : name ∈ s ↔ name ∈ s.names := Iff.rfl

/-- Equal members make equal sets: an ascending list is determined by what it lists. -/
theorem ext {s t : NameSet} (h : ∀ name, name ∈ s ↔ name ∈ t) : s = t := by
  obtain ⟨xs, hx⟩ := s
  obtain ⟨ys, hy⟩ := t
  simp only [mem_def] at h
  congr
  induction xs generalizing ys with
  | nil =>
    cases ys with
    | nil => rfl
    | cons y ys => exact absurd ((h y).2 (by simp)) (by simp)
  | cons x xs ih =>
    cases ys with
    | nil => exact absurd ((h x).1 (by simp)) (by simp)
    | cons y ys =>
      have hx' := (List.pairwise_cons.1 hx).1
      have hy' := (List.pairwise_cons.1 hy).1
      have equal : x = y := by
        have inY := (h x).1 (by simp)
        have inX := (h y).2 (by simp)
        grind [String.lt_asymm]
      subst equal
      have tails := ih hx.of_cons ys hy.of_cons (by grind [String.lt_irrefl])
      rw [tails]

theorem ext_iff {s t : NameSet} : s = t ↔ ∀ name, name ∈ s ↔ name ∈ t :=
  ⟨fun h _ => h ▸ Iff.rfl, ext⟩

instance : DecidableEq NameSet := fun s t =>
  if h : s.names = t.names then
    isTrue (by cases s; cases t; cases h; rfl)
  else isFalse (fun equal => h (equal ▸ rfl))

theorem ascending_nil : ([] : List String).Pairwise (· < ·) := .nil

def empty : NameSet := ⟨[], ascending_nil⟩

instance : Inhabited NameSet := ⟨empty⟩

@[simp] theorem not_mem_empty {name : String} : name ∉ empty := by simp [mem_def, empty]

def insert (s : NameSet) (name : String) : NameSet :=
  ⟨place name s.names, ascending_place name s.ascending⟩

@[simp] theorem mem_insert {s : NameSet} {name x : String} : x ∈ s.insert name ↔ x = name ∨ x ∈ s :=
  mem_place

/-- The set of the names that a list mentions. -/
def ofList (names : List String) : NameSet :=
  names.foldr (fun name s => s.insert name) empty

@[simp] theorem mem_ofList {names : List String} {x : String} : x ∈ ofList names ↔ x ∈ names := by
  induction names with
  | nil => simp [ofList]
  | cons name names ih => simp [ofList] at ih ⊢; rw [ih]

def toList (s : NameSet) : List String := s.names

@[simp] theorem mem_toList {s : NameSet} {x : String} : x ∈ s.toList ↔ x ∈ s := Iff.rfl

@[simp] theorem ofList_toList (s : NameSet) : ofList s.toList = s := ext (by simp)

def contains (s : NameSet) (name : String) : Bool := decide (name ∈ s)

@[simp] theorem contains_iff {s : NameSet} {name : String} : s.contains name = true ↔ name ∈ s := by
  simp [contains]

def size (s : NameSet) : Nat := s.names.length

theorem size_eq_zero_iff {s : NameSet} : s.size = 0 ↔ ∀ name, name ∉ s :=
  List.length_eq_zero_iff.trans List.eq_nil_iff_forall_not_mem

/-- The members that satisfy `p`. -/
def filter (p : String → Bool) (s : NameSet) : NameSet :=
  ⟨s.names.filter p, s.ascending.filter p⟩

@[simp] theorem mem_filter {s : NameSet} {p : String → Bool} {x : String} :
    x ∈ s.filter p ↔ x ∈ s ∧ p x = true := by
  simp [mem_def, filter]

/-- The set listed by a comma-separated text: its trimmed pieces, without the empty ones. -/
def ofCommaText (text : String) : NameSet :=
  ofList ((Text.pieces ',' text.toList).filterMap fun piece => Text.trimmed? (String.ofList piece))

/-- The set listed by a comma-separated text that may be missing. -/
def ofCommaText? (text : Option String) : NameSet :=
  ofCommaText (text.getD "")

end NameSet
end LiveControl
