import LiveControl.Proofs.DocumentRoundTrip
import LiveControl.Proofs.FreezePayload
import LiveControl.Proofs.UnitWrite

namespace LiveControl.Payload

/-- The one scalar of a bag. It stands under the key of its type, and nothing stands under the two others; a
double may be written as a whole number. -/
inductive Supplies (raw : Bag) : Scalar → Prop
  | int {n : Int64} (given : raw.get? "intValue" = some (.int n.toInt)) (noFloat : Lacks raw "floatValue")
      (noBool : Lacks raw "boolValue") : Supplies raw (.int n)
  | float {x : Float} (given : raw.get? "floatValue" = some (.float x)) (noInt : Lacks raw "intValue")
      (noBool : Lacks raw "boolValue") : Supplies raw (.float x)
  | whole {n : Int} (given : raw.get? "floatValue" = some (.int n)) (noInt : Lacks raw "intValue")
      (noBool : Lacks raw "boolValue") : Supplies raw (.float (Float.ofInt n))
  | bool {b : Bool} (given : raw.get? "boolValue" = some (.bool b)) (noInt : Lacks raw "intValue")
      (noFloat : Lacks raw "floatValue") : Supplies raw (.bool b)

/-- The symbol is a text and not blank. -/
def Named (raw : Bag) : Prop := ∃ text, raw.get? "symbol" = some (.str text) ∧ Text.trim text ≠ ""

/-- The entry is absent, null, or a truth value. -/
def Switch (raw : Bag) (key : String) : Prop := Lacks raw key ∨ ∃ b, raw.get? key = some (.bool b)

/-- A freezing action is to pin. Where the bag does not say, every action but `unfreeze_symbol` is. -/
def Pins (a : ActionSpec) (raw : Bag) : Prop :=
  raw.get? "freeze" = some (.bool true) ∨ Lacks raw "freeze" ∧ a.id ≠ "unfreeze_symbol"

/-- The bags that an action accepts. -/
def Accepts (a : ActionSpec) (raw : Bag) : Prop :=
  match a.kind with
  | .memory => Named raw ∧ ∃ value, Supplies raw value
  | .freeze => Named raw ∧ Switch raw "freeze" ∧ (Pins a raw → ∃ value, Supplies raw value)
  | .codePatch => Named raw ∧ Switch raw "enable"
  | .helper | .sdk => True

/-- What an action reads out of a bag that it accepts. -/
inductive Reads (a : ActionSpec) (raw : Bag) : Payload → Prop
  | memory {symbol value} (kind : a.kind = .memory) (aims : Aims raw symbol) (filled : symbol ≠ "")
      (supplies : Supplies raw value) : Reads a raw (.memory symbol value)
  | pin {symbol value} (kind : a.kind = .freeze) (aims : Aims raw symbol) (filled : symbol ≠ "")
      (pins : Pins a raw) (supplies : Supplies raw value) : Reads a raw (.freeze symbol (.pin value))
  | release {symbol} (kind : a.kind = .freeze) (aims : Aims raw symbol) (filled : symbol ≠ "")
      (switch : Switch raw "freeze") (off : ¬Pins a raw) : Reads a raw (.freeze symbol .release)
  | codePatch {symbol enable} (kind : a.kind = .codePatch) (aims : Aims raw symbol) (filled : symbol ≠ "")
      (switch : raw.get? "enable" = some (.bool enable) ∨ Lacks raw "enable" ∧ enable = true) :
      Reads a raw (.codePatch symbol enable)
  | helper (kind : a.kind = .helper) :
      Reads a raw (.helper (raw.text? "helperHookId") (raw.text? "unitId") raw)
  | sdk (kind : a.kind = .sdk) : Reads a raw (.sdk raw)

variable {a : ActionSpec} {raw : Bag} {p : Payload}

theorem number?_eq_some_iff {j : Json} {x : Float} :
    j.number? = some x ↔ j = .float x ∨ ∃ n, j = .int n ∧ Float.ofInt n = x := by
  cases j <;> simp [Json.number?]

theorem supplies_iff_gives {value : Scalar} : Supplies raw value ↔ Gives raw value := by
  have others {key : String} : (∀ other ∈ valueKeys, other ≠ key → Lacks raw other) ↔
      ("intValue" ≠ key → Lacks raw "intValue") ∧ ("floatValue" ≠ key → Lacks raw "floatValue") ∧
        ("boolValue" ≠ key → Lacks raw "boolValue") := by
    simp [valueKeys]
  rw [Gives, others]
  constructor
  · intro supplies
    cases supplies with
    | int given noFloat noBool =>
      exact ⟨⟨_, given, congrArg (Option.map Scalar.int) (Json.int64?_eq_some_iff.2 rfl)⟩,
        fun own => absurd rfl own, fun _ => noFloat, fun _ => noBool⟩
    | float given noInt noBool =>
      exact ⟨⟨_, given, rfl⟩, fun _ => noInt, fun own => absurd rfl own, fun _ => noBool⟩
    | whole given noInt noBool =>
      exact ⟨⟨_, given, rfl⟩, fun _ => noInt, fun own => absurd rfl own, fun _ => noBool⟩
    | bool given noInt noFloat =>
      exact ⟨⟨_, given, rfl⟩, fun _ => noInt, fun _ => noFloat, fun own => absurd rfl own⟩
  · rintro ⟨⟨loose, given, reads⟩, noInt, noFloat, noBool⟩
    cases value with
    | int n =>
      have reads : loose.int64?.map Scalar.int = some (.int n) := reads
      obtain ⟨_, typed, ⟨⟩⟩ := Option.map_eq_some_iff.1 reads
      obtain rfl := Json.int64?_eq_some_iff.1 typed
      exact .int given (noFloat (by simp [Scalar.payloadKey])) (noBool (by simp [Scalar.payloadKey]))
    | float x =>
      have reads : loose.number?.map Scalar.float = some (.float x) := reads
      obtain ⟨_, typed, ⟨⟩⟩ := Option.map_eq_some_iff.1 reads
      have lacksInt := noInt (by simp [Scalar.payloadKey])
      have lacksBool := noBool (by simp [Scalar.payloadKey])
      rcases number?_eq_some_iff.1 typed with rfl | ⟨n, rfl, rfl⟩
      · exact .float given lacksInt lacksBool
      · exact .whole given lacksInt lacksBool
    | bool b =>
      have reads : loose.bool?.map Scalar.bool = some (.bool b) := reads
      obtain ⟨_, typed, ⟨⟩⟩ := Option.map_eq_some_iff.1 reads
      obtain rfl := Json.bool?_eq_some_iff.1 typed
      exact .bool given (noInt (by simp [Scalar.payloadKey])) (noFloat (by simp [Scalar.payloadKey]))

theorem readScalar_eq_ok_iff_supplies {value : Scalar} : readScalar raw = .ok value ↔ Supplies raw value :=
  readScalar_eq_ok_iff.trans supplies_iff_gives.symm

theorem Supplies.eq {value value' : Scalar} (supplies : Supplies raw value) (supplies' : Supplies raw value') :
    value = value' := by
  have scalar := readScalar_eq_ok_iff_supplies.2 supplies
  rw [readScalar_eq_ok_iff_supplies.2 supplies'] at scalar
  exact (Except.ok.inj scalar).symm

theorem named_iff : Named raw ↔ ∃ symbol, Aims raw symbol ∧ symbol ≠ "" := by
  constructor
  · rintro ⟨text, entry, filled⟩
    exact ⟨Text.trim text, ⟨text, entry, rfl⟩, filled⟩
  · rintro ⟨_, ⟨text, entry, rfl⟩, filled⟩
    exact ⟨text, entry, filled⟩

theorem not_pins_iff (switch : Switch raw "freeze") :
    ¬Pins a raw ↔ raw.get? "freeze" = some (.bool false) ∨ Lacks raw "freeze" ∧ a.id = "unfreeze_symbol" := by
  rcases switch with lacks | ⟨b, given⟩
  · have absent (b : Bool) : raw.get? "freeze" ≠ some (.bool b) := by
      rcases lacks with none | null
      · simp [none]
      · simp [null]
    simp [Pins, absent, lacks]
  · have present : ¬Lacks raw "freeze" := by simp [Lacks, given]
    cases b <;> simp [Pins, given, present]

theorem freezes_pin_iff {value : Scalar} : Freezes a raw (.pin value) ↔ Pins a raw ∧ Supplies raw value := by
  constructor
  · intro freezes
    cases freezes with
    | pin on gives => exact ⟨on, supplies_iff_gives.2 gives⟩
  · rintro ⟨pins, supplies⟩
    exact .pin pins (supplies_iff_gives.1 supplies)

theorem freezes_release_iff : Freezes a raw .release ↔ Switch raw "freeze" ∧ ¬Pins a raw := by
  constructor
  · intro freezes
    cases freezes with
    | release off =>
      have switch : Switch raw "freeze" := by
        rcases off with given | ⟨lacks, -⟩
        · exact .inr ⟨false, given⟩
        · exact .inl lacks
      exact ⟨switch, (not_pins_iff switch).2 off⟩
  · rintro ⟨switch, off⟩
    exact .release ((not_pins_iff switch).1 off)

theorem reads_of_read (run : read a raw = .ok p) : Reads a raw p := by
  cases kind : a.kind with
  | memory =>
    rw [read, kind] at run
    obtain ⟨symbol, named, run⟩ := bind_eq_ok_iff.1 run
    obtain ⟨value, scalar, run⟩ := bind_eq_ok_iff.1 run
    cases run
    obtain ⟨aims, filled⟩ := readSymbol_eq_ok_iff.1 named
    exact .memory kind aims filled (readScalar_eq_ok_iff_supplies.1 scalar)
  | freeze =>
    have form : ∃ symbol directive, p = .freeze symbol directive := by
      have same : p.kind = .freeze := (kind_of_read run).trans kind
      cases p with
      | freeze symbol directive => exact ⟨symbol, directive, rfl⟩
      | memory | helper | sdk | codePatch => cases same
    obtain ⟨symbol, directive, rfl⟩ := form
    obtain ⟨-, ⟨aims, filled⟩, freezes⟩ := read_eq_freeze_iff.1 run
    cases directive with
    | pin value =>
      obtain ⟨pins, supplies⟩ := freezes_pin_iff.1 freezes
      exact .pin kind aims filled pins supplies
    | release =>
      obtain ⟨switch, off⟩ := freezes_release_iff.1 freezes
      exact .release kind aims filled switch off
  | helper =>
    rw [read, kind] at run
    cases run
    exact .helper kind
  | sdk =>
    rw [read, kind] at run
    cases run
    exact .sdk kind
  | codePatch =>
    rw [read, kind] at run
    obtain ⟨enable, switch, run⟩ := bind_eq_ok_iff.1 run
    obtain ⟨symbol, named, run⟩ := bind_eq_ok_iff.1 run
    cases run
    obtain ⟨aims, filled⟩ := readSymbol_eq_ok_iff.1 named
    exact .codePatch kind aims filled (readSwitch_eq_ok_iff.1 switch)

theorem Reads.read_eq (reads : Reads a raw p) : read a raw = .ok p := by
  cases reads with
  | memory kind aims filled supplies =>
    have named := readSymbol_eq_ok_iff.2 ⟨aims, filled⟩
    rw [read, kind]
    exact bind_eq_ok_iff.2 ⟨_, named, bind_eq_ok_iff.2 ⟨_, readScalar_eq_ok_iff_supplies.2 supplies, rfl⟩⟩
  | pin kind aims filled pins supplies =>
    exact read_eq_freeze_iff.2 ⟨kind, ⟨aims, filled⟩, freezes_pin_iff.2 ⟨pins, supplies⟩⟩
  | release kind aims filled switch off =>
    exact read_eq_freeze_iff.2 ⟨kind, ⟨aims, filled⟩, freezes_release_iff.2 ⟨switch, off⟩⟩
  | codePatch kind aims filled switch =>
    have named := readSymbol_eq_ok_iff.2 ⟨aims, filled⟩
    rw [read, kind]
    exact bind_eq_ok_iff.2 ⟨_, readSwitch_eq_ok_iff.2 switch, bind_eq_ok_iff.2 ⟨_, named, rfl⟩⟩
  | helper kind => rw [read, kind]
  | sdk kind => rw [read, kind]

theorem read_eq_ok_iff : read a raw = .ok p ↔ Reads a raw p := ⟨reads_of_read, Reads.read_eq⟩

theorem Reads.accepts (reads : Reads a raw p) : Accepts a raw := by
  rw [Accepts]
  cases reads with
  | memory kind aims filled supplies =>
    rw [kind]
    exact ⟨named_iff.2 ⟨_, aims, filled⟩, _, supplies⟩
  | pin kind aims filled pins supplies =>
    have switch : Switch raw "freeze" := by
      rcases pins with given | ⟨lacks, -⟩
      · exact .inr ⟨true, given⟩
      · exact .inl lacks
    rw [kind]
    exact ⟨named_iff.2 ⟨_, aims, filled⟩, switch, fun _ => ⟨_, supplies⟩⟩
  | release kind aims filled switch off =>
    rw [kind]
    exact ⟨named_iff.2 ⟨_, aims, filled⟩, switch, fun pins => absurd pins off⟩
  | codePatch kind aims filled switch =>
    have switch : Switch raw "enable" := by
      rcases switch with given | ⟨lacks, -⟩
      · exact .inr ⟨_, given⟩
      · exact .inl lacks
    rw [kind]
    exact ⟨named_iff.2 ⟨_, aims, filled⟩, switch⟩
  | helper kind =>
    rw [kind]
    trivial
  | sdk kind =>
    rw [kind]
    trivial

theorem exists_reads (accepts : Accepts a raw) : ∃ p, Reads a raw p := by
  -- Only where a freezing action is to pin is a scalar at hand.
  rw [Accepts] at accepts
  cases kind : a.kind with
  | memory =>
    rw [kind] at accepts
    obtain ⟨named, value, supplies⟩ := accepts
    obtain ⟨symbol, aims, filled⟩ := named_iff.1 named
    exact ⟨_, .memory kind aims filled supplies⟩
  | freeze =>
    rw [kind] at accepts
    obtain ⟨named, switch, gives⟩ := accepts
    obtain ⟨symbol, aims, filled⟩ := named_iff.1 named
    by_cases pins : Pins a raw
    · obtain ⟨value, supplies⟩ := gives pins
      exact ⟨_, .pin kind aims filled pins supplies⟩
    · exact ⟨_, .release kind aims filled switch pins⟩
  | codePatch =>
    rw [kind] at accepts
    obtain ⟨named, switch⟩ := accepts
    obtain ⟨symbol, aims, filled⟩ := named_iff.1 named
    rcases switch with lacks | ⟨enable, given⟩
    · exact ⟨_, .codePatch kind aims filled (.inr ⟨lacks, rfl⟩)⟩
    · exact ⟨_, .codePatch kind aims filled (.inl given)⟩
  | helper => exact ⟨_, .helper kind⟩
  | sdk => exact ⟨_, .sdk kind⟩

theorem exists_read_iff : (∃ p, read a raw = .ok p) ↔ Accepts a raw := by
  constructor
  · rintro ⟨p, run⟩
    exact (reads_of_read run).accepts
  · intro accepts
    obtain ⟨p, reads⟩ := exists_reads accepts
    exact ⟨p, reads.read_eq⟩

theorem Reads.kind_eq (reads : Reads a raw p) : p.kind = a.kind := kind_of_read reads.read_eq

theorem Reads.aims {symbol : String} (reads : Reads a raw p) (names : p.symbol? = some symbol) :
    Aims raw symbol ∧ symbol ≠ "" := by
  cases reads with
  | memory _ aims filled | pin _ aims filled | release _ aims filled | codePatch _ aims filled =>
    cases names
    exact ⟨aims, filled⟩
  | helper | sdk => cases names

theorem Reads.supplies {value : Scalar} (reads : Reads a raw p) (carries : p.scalar? = some value) :
    Supplies raw value := by
  cases reads with
  | memory _ _ _ supplies | pin _ _ _ _ supplies =>
    cases carries
    exact supplies
  | release | codePatch | helper | sdk => cases carries

theorem read_bagOf_freeze (symbol : String) (value : Scalar) (freeze : a.kind = .freeze)
    (pins : a.id ≠ "unfreeze_symbol") :
    read a (bagOf symbol value) =
      match Text.trimmed? symbol with
      | none => .error .symbolMissing
      | some target => if value.isFinite then .ok (.freeze target (.pin value)) else .error .valueMissing := by
  have unsaid : given? (bagOf symbol value) "freeze" = none := by
    rw [given?_bagOf symbol value (by decide)]
    cases value <;> rfl
  have on : pinsByDefault a = true := by simpa [pinsByDefault] using pins
  rw [read, freeze, readSymbol, text?_bagOf_symbol, readSwitch, unsaid, on, readScalar_bagOf]
  cases Text.trimmed? symbol <;> cases value.isFinite <;> rfl

/-- An action reads a payload exactly out of the bags that it accepts, of its own kind, aimed at the trimmed
symbol of the bag and with the one scalar that the bag supplies. The bag of a write to a symbol that is not
blank is read back as this symbol and the same value, and refused if the value is a double that is not
finite. -/
theorem accepts_exactly (a : ActionSpec) (raw : Bag) :
    ((∃ p, read a raw = .ok p) ↔ Accepts a raw) ∧
    (∀ p, read a raw = .ok p ↔ Reads a raw p) ∧
    (∀ p, read a raw = .ok p → p.kind = a.kind ∧
      (∀ symbol, p.symbol? = some symbol → ∀ other, Aims raw other ↔ other = symbol) ∧
      ∀ value, p.scalar? = some value → ∀ other, Supplies raw other ↔ other = value) ∧
    ∀ symbol value, Text.trim symbol ≠ "" →
      (a.kind = .memory → read a (bagOf symbol value) =
        if value.isFinite then .ok (.memory (Text.trim symbol) value) else .error .valueMissing) ∧
      (a.kind = .freeze → a.id ≠ "unfreeze_symbol" → read a (bagOf symbol value) =
        if value.isFinite then .ok (.freeze (Text.trim symbol) (.pin value)) else .error .valueMissing) := by
  refine ⟨exists_read_iff, fun p => read_eq_ok_iff, fun p run => ?_, fun symbol value filled => ?_⟩
  · have reads := reads_of_read run
    refine ⟨reads.kind_eq, fun symbol names other => ?_, fun value carries other => ?_⟩
    · have aims := (reads.aims names).1
      constructor
      · exact fun aims' => aims'.eq aims
      · rintro rfl
        exact aims
    · have supplies := reads.supplies carries
      constructor
      · exact fun supplies' => supplies'.eq supplies
      · rintro rfl
        exact supplies
  · have target : Text.trimmed? symbol = some (Text.trim symbol) := Text.trimmed?_eq_some_iff.2 ⟨rfl, filled⟩
    constructor
    · intro memory
      rw [read_bagOf_memory symbol value memory, target]
    · intro freeze pins
      rw [read_bagOf_freeze symbol value freeze pins, target]

/-- An action that sets credits in memory. -/
def setCredits : ActionSpec := .plain "set_credits" .memory

theorem accepts_exactly_credits :
    read setCredits (bagOf " credits " (.int 5)) = .ok (.memory "credits" (.int 5)) ∧
      (∃ p, read setCredits (.ofList [("symbol", .str "credits"), ("intValue", .null), ("boolValue", .bool true)]) =
        .ok p) ∧
      ¬∃ p, read setCredits (.ofList [("symbol", .str "credits"), ("intValue", .int 5), ("boolValue", .bool true)]) =
        .ok p := by
  obtain ⟨-, -, -, written⟩ := accepts_exactly setCredits .empty
  refine ⟨(written " credits " (.int 5) (by decide)).1 rfl, ?_, ?_⟩
  · refine (accepts_exactly setCredits _).1.2 ⟨⟨"credits", rfl, by decide⟩, .bool true, ?_⟩
    exact .bool rfl (.inr rfl) (.inl rfl)
  · intro run
    obtain ⟨-, value, supplies⟩ := (accepts_exactly setCredits _).1.1 run
    cases supplies with
    | int _ _ noBool => rcases noBool with none | null <;> contradiction
    | float given | whole given => cases given
    | bool _ noInt => rcases noInt with none | null <;> contradiction

end LiveControl.Payload
