namespace LiveControl

/-- A finite map from texts. The list of entries with ascending keys is its only representation. -/
structure Table (V : Type) where
  entries : List (String × V)
  ascending : (entries.map Prod.fst).Pairwise (· < ·)

namespace Table

variable {V W : Type}

/-- Puts an entry at its place in a list with ascending keys, in place of an entry with the same key. -/
def place (key : String) (value : V) : List (String × V) → List (String × V)
  | [] => [(key, value)]
  | head :: tail =>
    if key < head.1 then (key, value) :: head :: tail
    else if key = head.1 then (key, value) :: tail
    else head :: place key value tail

theorem mem_keys_place {key x : String} {value : V} {es : List (String × V)} :
    x ∈ (place key value es).map Prod.fst ↔ x = key ∨ x ∈ es.map Prod.fst := by
  induction es with
  | nil => simp [place]
  | cons head tail ih => grind [place]

theorem ascending_place (key : String) (value : V) {es : List (String × V)}
    (h : (es.map Prod.fst).Pairwise (· < ·)) :
    ((place key value es).map Prod.fst).Pairwise (· < ·) := by
  induction es with
  | nil => simp [place]
  | cons head tail ih =>
    have below := (List.pairwise_cons.1 h).1
    have rest := ih h.of_cons
    unfold place
    split
    · rename_i first
      exact .cons (by grind [String.lt_trans]) h
    · split
      · rename_i equal
        simpa [equal] using h
      · exact .cons (fun x member => by
          have := mem_keys_place.1 member
          grind) rest

/-- The value under `key` in a list of entries. -/
def seek (key : String) : List (String × V) → Option V
  | [] => none
  | head :: tail => if key = head.1 then some head.2 else seek key tail

def get? (t : Table V) (key : String) : Option V := seek key t.entries

theorem seek_place {key x : String} {value : V} {es : List (String × V)} :
    seek x (place key value es) = if x = key then some value else seek x es := by
  induction es with
  | nil => simp [place, seek]
  | cons head tail ih => grind [place, seek]

theorem seek_eq_none {key : String} {es : List (String × V)} :
    seek key es = none ↔ key ∉ es.map Prod.fst := by
  induction es with
  | nil => simp [seek]
  | cons head tail ih => grind [seek]

theorem seek_eq_some {key : String} {value : V} {es : List (String × V)}
    (distinct : (es.map Prod.fst).Pairwise (· < ·)) :
    seek key es = some value ↔ (key, value) ∈ es := by
  induction es with
  | nil => simp [seek]
  | cons head tail ih =>
    have below := (List.pairwise_cons.1 distinct).1
    have later := ih distinct.of_cons
    by_cases here : key = head.1
    · subst here
      have absent : (head.1, value) ∉ tail := fun member =>
        String.lt_irrefl _ (below _ (List.mem_map.2 ⟨_, member, rfl⟩))
      simp [seek, Prod.ext_iff, absent, eq_comm]
    · simp [seek, here, Prod.ext_iff, later]

theorem ascending_keys_nil : (([] : List (String × V)).map Prod.fst).Pairwise (· < ·) := .nil

def empty : Table V := ⟨[], ascending_keys_nil⟩

instance : Inhabited (Table V) := ⟨empty⟩

@[simp] theorem get?_empty {key : String} : (empty : Table V).get? key = none := rfl

/-- The table with `value` under `key`, whatever was there. -/
def insert (t : Table V) (key : String) (value : V) : Table V :=
  ⟨place key value t.entries, ascending_place key value t.ascending⟩

@[simp] theorem get?_insert {t : Table V} {key x : String} {value : V} :
    (t.insert key value).get? x = if x = key then some value else t.get? x :=
  seek_place

/-- Equal look-ups make equal tables: the entries are determined by the answers. -/
theorem ext {s t : Table V} (h : ∀ key, s.get? key = t.get? key) : s = t := by
  obtain ⟨xs, hx⟩ := s
  obtain ⟨ys, hy⟩ := t
  simp only [get?] at h
  congr
  induction xs generalizing ys with
  | nil =>
    cases ys with
    | nil => rfl
    | cons y ys => simpa [seek] using h y.1
  | cons x xs ih =>
    cases ys with
    | nil => simpa [seek] using h x.1
    | cons y ys =>
      have hx' := (List.pairwise_cons.1 hx).1
      have hy' := (List.pairwise_cons.1 hy).1
      have keys : x.1 = y.1 := by
        have atX := h x.1
        have atY := h y.1
        have inY : x.1 ∈ (y :: ys).map Prod.fst := by
          refine Classical.not_not.1 fun out => ?_
          rw [seek_eq_none.2 out] at atX
          simp [seek] at atX
        have inX : y.1 ∈ (x :: xs).map Prod.fst := by
          refine Classical.not_not.1 fun out => ?_
          rw [seek_eq_none.2 out] at atY
          simp [seek] at atY
        grind [String.lt_asymm]
      have values : x = y := by
        have atX := h x.1
        simp only [seek, keys, if_true, Option.some.injEq] at atX
        exact Prod.ext keys atX
      subst values
      have tails := ih hx.of_cons ys hy.of_cons fun key => by
        by_cases same : key = x.1
        · subst same
          rw [seek_eq_none.2 fun m => String.lt_irrefl _ (hx' _ m),
            seek_eq_none.2 fun m => String.lt_irrefl _ (hy' _ m)]
        · simpa [seek, same] using h key
      rw [tails]

theorem ext_iff {s t : Table V} : s = t ↔ ∀ key, s.get? key = t.get? key :=
  ⟨fun h _ => h ▸ rfl, ext⟩

instance [DecidableEq V] : DecidableEq (Table V) := fun s t =>
  if h : s.entries = t.entries then
    isTrue (by cases s; cases t; cases h; rfl)
  else isFalse (fun equal => h (equal ▸ rfl))

/-- The table of a list of entries; of entries with one key the last counts. -/
def ofList (entries : List (String × V)) : Table V :=
  entries.foldl (fun t e => t.insert e.1 e.2) empty

def toList (t : Table V) : List (String × V) := t.entries

theorem mem_toList {t : Table V} {key : String} {value : V} :
    (key, value) ∈ t.toList ↔ t.get? key = some value :=
  (seek_eq_some t.ascending).symm

def keys (t : Table V) : List String := t.entries.map Prod.fst

theorem mem_keys {t : Table V} {key : String} : key ∈ t.keys ↔ ∃ value, t.get? key = some value := by
  simp only [keys, List.mem_map, Prod.exists, exists_and_right, exists_eq_right, ← mem_toList, toList]

def values (t : Table V) : List V := t.entries.map Prod.snd

theorem mem_values {t : Table V} {value : V} : value ∈ t.values ↔ ∃ key, t.get? key = some value := by
  simp only [values, List.mem_map, Prod.exists, exists_eq_right, ← mem_toList, toList]

def size (t : Table V) : Nat := t.entries.length

def contains (t : Table V) (key : String) : Bool := (t.get? key).isSome

/-- The table without the entry under `key`. -/
def erase (t : Table V) (key : String) : Table V :=
  ⟨t.entries.filter fun e => e.1 ≠ key, by
    have sub : ((t.entries.filter fun e => e.1 ≠ key).map Prod.fst).Sublist (t.entries.map Prod.fst) :=
      List.Sublist.map _ List.filter_sublist
    exact t.ascending.sublist sub⟩

theorem seek_filter_ne {key x : String} {es : List (String × V)} :
    seek x (es.filter fun e => e.1 ≠ key) = if x = key then none else seek x es := by
  induction es with
  | nil => simp [seek]
  | cons head tail ih => grind [seek]

@[simp] theorem get?_erase {t : Table V} {key x : String} :
    (t.erase key).get? x = if x = key then none else t.get? x :=
  seek_filter_ne

/-- The entries of both tables; under a common key the entry of `top`. -/
def overlay (base top : Table V) : Table V :=
  top.entries.foldl (fun t e => t.insert e.1 e.2) base

theorem get?_foldl_insert {es : List (String × V)} {t : Table V} {x : String}
    (distinct : (es.map Prod.fst).Pairwise (· < ·)) :
    (es.foldl (fun t e => t.insert e.1 e.2) t).get? x = (seek x es).or (t.get? x) := by
  induction es generalizing t with
  | nil => simp [seek]
  | cons head tail ih =>
    have below := (List.pairwise_cons.1 distinct).1
    rw [List.foldl_cons, ih distinct.of_cons, get?_insert]
    simp only [seek]
    split
    · rename_i equal
      have absent : seek x tail = none :=
        seek_eq_none.2 fun m => String.lt_irrefl _ (equal ▸ below _ m)
      simp [absent]
    · rfl

@[simp] theorem get?_overlay {base top : Table V} {x : String} :
    (base.overlay top).get? x = (top.get? x).or (base.get? x) :=
  get?_foldl_insert top.ascending

@[simp] theorem ofList_toList (t : Table V) : ofList t.toList = t :=
  ext fun key => by
    simp only [ofList, toList]
    rw [get?_foldl_insert t.ascending]
    simp [get?, empty, seek]

/-- The table with every value replaced by its image. -/
def map (f : V → W) (t : Table V) : Table W :=
  ⟨t.entries.map fun e => (e.1, f e.2), by
    rw [List.map_map]
    exact t.ascending⟩

@[simp] theorem get?_map {f : V → W} {t : Table V} {x : String} :
    (t.map f).get? x = (t.get? x).map f := by
  obtain ⟨es, h⟩ := t
  simp only [get?, map]
  clear h
  induction es with
  | nil => rfl
  | cons head tail ih => grind [seek]

end Table
end LiveControl
