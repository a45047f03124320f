import LiveConfig.Proofs.ConfigRecords

/-!
# The text of a configuration reads back

A configuration without doubles and with durations of whole milliseconds is what the parser
and the readers make of the text that it is written as (`Config.wire_roundtrip`).  Its JSON
has integers of 64 bits only (`Config.numbers_toJson`) and denotes the configuration
(`Config.ofDocument?_toJson`); that it is not nested too deeply is assumed.

For a configuration that was read from some text nothing has to be assumed but that it
has no doubles.  It is `Config.Valid`, its durations are whole, and its JSON is nested no
deeper than the text was, up to the empty lists that are written where the text had nothing
(`Config.valid_of_ofDocument?`).  Both are shown for each reader along with the level at
which the document stands.
-/

namespace LiveConfig

/-! ## Configurations without doubles -/

theorem Json.numbers_getD {p : Json → Prop} {write : α → Json} {x : Option α}
    (h : ∀ y ∈ x, (write y).Numbers p) : ((x.map write).getD .null).Numbers p := by
  cases x with
  | none => exact .null
  | some y => exact h y rfl

theorem Json.numbers_arr_map {p : Json → Prop} {write : α → Json} {xs : List α}
    (h : ∀ x ∈ xs, (write x).Numbers p) : (Json.arr (xs.map write)).Numbers p := by
  rw [numbers_arr_iff]
  intro y hy
  obtain ⟨x, hx, rfl⟩ := List.mem_map.mp hy
  exact h x hx

theorem Json.numbers_exact_int {i : Int} (hlow : -0x8000000000000000 ≤ i)
    (hhigh : i < 0x10000000000000000) : (Json.int i).Numbers IsExact :=
  .int ⟨⟨hlow, hhigh⟩, trivial⟩

theorem Json.numbers_of_isInt64 {i : Int} (h : isInt64 i = true) :
    (Json.int i).Numbers IsExact := by
  simp only [isInt64, Bool.and_eq_true, decide_eq_true_eq] at h
  exact numbers_exact_int h.1 (by omega)

section Numbers

open Json (IsExact numbers_obj_iff numbers_obj_cons numbers_obj_nil numbers_arr_map numbers_getD)

theorem Value.numbers_toJson {v : Value} (h : v.Portable) (hfree : v.DoubleFree) :
    v.toJson.Numbers IsExact := by
  cases v with
  | double d => exact hfree.elim
  | int i =>
      rw [toJson, numbers_obj_iff, List.forall_mem_singleton]
      exact Json.numbers_of_isInt64 (isInt64_toInt i)
  | duration d =>
      obtain ⟨ms, rfl⟩ := h.whole
      have hlt : ms.toNat < 0x10000000000000000 := ms.toNat_lt
      rw [toJson, Duration.wireMillis_ofMillis, numbers_obj_iff, List.forall_mem_singleton]
      exact Json.numbers_exact_int (by omega) (by omega)
  | stringList items =>
      rw [toJson, numbers_obj_iff, List.forall_mem_singleton]
      exact numbers_arr_map fun _ _ => .str _
  | json value =>
      rw [toJson, numbers_obj_iff, List.forall_mem_singleton]
      exact h.valid.1.and hfree
  | bool b | string s | logLevel level =>
      rw [toJson, numbers_obj_iff, List.forall_mem_singleton]
      constructor

theorem Criterion.numbers_toJson {criterion : Criterion}
    (h : ∀ v ∈ criterion.target, v.toJson.Numbers IsExact) :
    criterion.toJson.Numbers IsExact := by
  simp only [toJson, numbers_obj_cons, numbers_obj_nil, and_true]
  exact ⟨numbers_getD fun _ _ => .str _, .str _, numbers_getD h⟩

theorem WeightedValues.numbers_toJson {values : WeightedValues}
    (h : ∀ choice ∈ values.choices, choice.value.toJson.Numbers IsExact) :
    values.toJson.Numbers IsExact := by
  have hchoice : ∀ choice ∈ values.choices, (choiceToJson choice).Numbers IsExact := by
    intro choice hchoice
    have hlt : choice.weight.toNat < 0x100000000 := choice.weight.toNat_lt
    simp only [choiceToJson, numbers_obj_cons, numbers_obj_nil, and_true]
    exact ⟨Json.numbers_exact_int (by omega) (by omega), h choice hchoice⟩
  simp only [toJson, numbers_obj_cons, numbers_obj_nil, and_true]
  exact ⟨numbers_arr_map hchoice, numbers_getD fun _ _ => .str _⟩

theorem ValueSource.numbers_toJson {source : ValueSource}
    (h : ∀ v ∈ source.literals, v.toJson.Numbers IsExact) : source.toJson.Numbers IsExact := by
  cases source with
  | value v => exact h v (List.mem_singleton_self v)
  | weighted values =>
      rw [toJson, numbers_obj_iff, List.forall_mem_singleton]
      exact WeightedValues.numbers_toJson fun choice hchoice =>
        h choice.value (List.mem_map_of_mem hchoice)
  | provided envVar =>
      rw [toJson, numbers_obj_iff, List.forall_mem_singleton, numbers_obj_iff,
        List.forall_mem_singleton]
      exact .str envVar

theorem ConditionalValue.numbers_toJson {value : ConditionalValue}
    (h : ∀ v ∈ value.literals, v.toJson.Numbers IsExact) : value.toJson.Numbers IsExact := by
  simp only [toJson, numbers_obj_cons, numbers_obj_nil, and_true]
  constructor
  · apply numbers_arr_map
    intro criterion hcriterion
    apply Criterion.numbers_toJson
    intro v hv
    exact h v (List.mem_append_left _ (List.mem_filterMap.mpr ⟨criterion, hcriterion, hv⟩))
  · exact ValueSource.numbers_toJson fun v hv => h v (List.mem_append_right _ hv)

theorem Row.numbers_toJson {row : Row} (henvironment : ∀ e ∈ row.environment, isInt64 e = true)
    (h : ∀ v ∈ row.literals, v.toJson.Numbers IsExact) : row.toJson.Numbers IsExact := by
  simp only [toJson, numbers_obj_cons, numbers_obj_nil, and_true]
  constructor
  · exact numbers_getD fun e he => Json.numbers_of_isInt64 (henvironment e he)
  · apply numbers_arr_map
    intro value hvalue
    apply ConditionalValue.numbers_toJson
    intro v hv
    exact h v (List.mem_flatMap.mpr ⟨value, hvalue, hv⟩)

namespace Config

/-- Whether no double is in the configuration, as a value or inside of JSON. -/
def DoubleFree (config : Config) : Prop := ∀ v ∈ config.literals, v.DoubleFree

theorem numbers_toJson {config : Config} (hvalid : config.Valid) (hwhole : config.IsWhole)
    (hfree : config.DoubleFree) : config.toJson.Numbers IsExact := by
  simp only [toJson, numbers_obj_cons, numbers_obj_nil, and_true]
  refine ⟨Json.numbers_of_isInt64 hvalid.id, .str _, ?_, .str _, numbers_getD fun _ _ => .str _⟩
  apply numbers_arr_map
  intro row hrow
  apply Row.numbers_toJson (hvalid.environments row hrow)
  intro v hv
  have hliteral : v ∈ config.literals := List.mem_flatMap.mpr ⟨row, hrow, hv⟩
  exact Value.numbers_toJson (hvalid.portable hwhole v hliteral) (hfree v hliteral)

end Config

end Numbers

/-! ## Configurations that were read -/

namespace Document.Nested

variable {level : Nat} {document : Document}

theorem field {names : List String} {fields : List (Option Document)} (h : Nested level document)
    (hfields : document.fields? names = some fields) :
    level + 1 < depthLimit ∧ ∀ field ∈ fields, ∀ d ∈ field, Nested (level + 1) d := by
  refine ⟨?_, fun field hfield d hd => h.part (part_of_field hfields field hfield d hd)⟩
  cases h.fits with
  | arr hlevel => exact hlevel
  | obj hlevel => exact hlevel
  | _ => simp [fields?] at hfields

theorem list {read : Document → Option α} (write : α → Json) {p : α → Prop} {xs : List α}
    (hread : ∀ {d x}, Nested (level + 1) d → read d = some x →
      p x ∧ (write x).Under (level + 1))
    (h : Nested level document) (hlist : document.list? read = some xs) :
    (∀ x ∈ xs, p x) ∧ (Json.arr (xs.map write)).Under level := by
  have hparts := of_list (fun _ => h.part) hread hlist
  have hlevel : level + 1 < depthLimit := by
    cases h.fits with
    | arr hlevel => exact hlevel
    | _ => simp [list?] at hlist
  rw [Json.under_arr_iff]
  refine ⟨fun x hx => (hparts x hx).1, hlevel, fun y hy => ?_⟩
  obtain ⟨x, hx, rfl⟩ := List.mem_map.mp hy
  exact (hparts x hx).2

end Document.Nested

theorem Json.under_getD {level : Nat} {write : α → Json} {x : Option α}
    (hlevel : level < Document.depthLimit) (h : ∀ y ∈ x, (write y).Under level) :
    ((x.map write).getD .null).Under level := by
  cases x with
  | none => exact hlevel
  | some y => exact h y rfl

section Reading

open Document (Nested part_of_choice part_of_member of_required of_defaulted of_optional)

variable {level : Nat} {document : Document}

theorem Value.portable_of_ofDocument? {v : Value} (h : Nested level document)
    (hv : ofDocument? document = some v) : v.Portable ∧ v.toJson.Under level := by
  have hcontent : ∀ {name content}, document.choice? = some (name, some content) →
      Nested (level + 1) content := fun hchoice => h.part (part_of_choice hchoice)
  have hscalar : ∀ {name : String} {value : Json}, level + 1 < Document.depthLimit →
      value.depth = 0 → (Json.obj [(name, value)]).Under level := by
    intro name value hlevel hdepth
    rw [Json.under_obj_iff, List.forall_mem_singleton]
    refine ⟨hlevel, ?_⟩
    rw [Json.Under, hdepth]
    exact hlevel
  unfold ofDocument? at hv
  split at hv
  case h_5 content hchoice =>
    obtain ⟨items, hitems, rfl⟩ := Option.map_eq_some_iff.mp hv
    have hnested := hcontent hchoice
    have hlist := Nested.list Json.str (p := fun _ => True)
      (fun hd _ => ⟨trivial, hd.level_lt⟩) hnested hitems
    rw [toJson, Json.under_obj_iff, List.forall_mem_singleton]
    exact ⟨⟨trivial, trivial⟩, hnested.level_lt, hlist.2⟩
  case h_8 content hchoice =>
    obtain ⟨value, hvalue, rfl⟩ := Option.map_eq_some_iff.mp hv
    have hnested := hcontent hchoice
    obtain ⟨hvalid, hunder⟩ := hnested.value hvalue
    rw [toJson, Json.under_obj_iff, List.forall_mem_singleton]
    exact ⟨⟨hvalid, trivial⟩, hnested.level_lt, hunder⟩
  case h_6 content hchoice =>
    obtain ⟨n, _, rfl⟩ := Option.map_eq_some_iff.mp hv
    exact ⟨⟨trivial, _, rfl⟩, hscalar (hcontent hchoice).level_lt rfl⟩
  case h_9 => simp at hv
  all_goals
    rename_i content hchoice
    obtain ⟨x, _, rfl⟩ := Option.map_eq_some_iff.mp hv
    exact ⟨⟨trivial, trivial⟩, hscalar (hcontent hchoice).level_lt rfl⟩

theorem Criterion.valid_of_ofDocument? {criterion : Criterion} (h : Nested level document)
    (hcriterion : ofDocument? document = some criterion) :
    (∀ v ∈ criterion.target, v.Portable) ∧ criterion.toJson.Under level := by
  simp only [ofDocument?, Option.bind_eq_bind, Option.bind_eq_some_iff] at hcriterion
  obtain ⟨fields, hfields, hread⟩ := hcriterion
  obtain ⟨hlevel, hnested⟩ := h.field hfields
  split at hread
  · rename_i property operator target
    simp only [Option.bind_eq_some_iff, Option.pure_def, Option.some.injEq] at hread
    obtain ⟨_, _, _, _, v, hv, rfl⟩ := hread
    have htarget := of_optional (hnested target (by simp)) Value.portable_of_ofDocument? hv
    refine ⟨fun v hv => (htarget v hv).1, ?_⟩
    simp only [toJson, Json.under_obj_cons, Json.under_obj_nil]
    exact ⟨Json.under_getD hlevel fun _ _ => hlevel, hlevel,
      Json.under_getD hlevel fun v hv => (htarget v hv).2, hlevel⟩
  · simp at hread

theorem WeightedValues.valid_choice {choice : WeightedValue} (h : Nested level document)
    (hchoice : choiceOfDocument? document = some choice) :
    choice.value.Portable ∧ (choiceToJson choice).Under level := by
  simp only [choiceOfDocument?, Option.bind_eq_bind, Option.bind_eq_some_iff] at hchoice
  obtain ⟨fields, hfields, hread⟩ := hchoice
  obtain ⟨hlevel, hnested⟩ := h.field hfields
  split at hread
  · rename_i weight value
    simp only [Option.bind_eq_some_iff, Option.pure_def, Option.some.injEq] at hread
    obtain ⟨_, _, v, hv, rfl⟩ := hread
    obtain ⟨hvalid, hunder⟩ :=
      of_required (hnested value (by simp)) Value.portable_of_ofDocument? hv
    refine ⟨hvalid, ?_⟩
    simp only [choiceToJson, Json.under_obj_cons, Json.under_obj_nil]
    exact ⟨hlevel, hunder, hlevel⟩
  · simp at hread

theorem WeightedValues.valid_of_ofDocument? {values : WeightedValues} (h : Nested level document)
    (hvalues : ofDocument? document = some values) :
    (∀ choice ∈ values.choices, choice.value.Portable) ∧ values.toJson.Under level := by
  simp only [ofDocument?, Option.bind_eq_bind, Option.bind_eq_some_iff] at hvalues
  obtain ⟨fields, hfields, hread⟩ := hvalues
  obtain ⟨hlevel, hnested⟩ := h.field hfields
  split at hread
  · rename_i choices hashBy
    simp only [Option.bind_eq_some_iff, Option.pure_def, Option.some.injEq] at hread
    obtain ⟨read, hread, _, _, rfl⟩ := hread
    obtain ⟨hvalid, hunder⟩ := of_required (hnested choices (by simp))
      (fun hd => Nested.list choiceToJson valid_choice hd) hread
    refine ⟨hvalid, ?_⟩
    simp only [toJson, Json.under_obj_cons, Json.under_obj_nil]
    exact ⟨hunder, Json.under_getD hlevel fun _ _ => hlevel, hlevel⟩
  · simp at hread

theorem ValueSource.valid_of_ofDocument? {source : ValueSource} (h : Nested level document)
    (hsource : ofDocument? document = some source) :
    (∀ v ∈ source.literals, v.Portable) ∧ source.toJson.Under level := by
  unfold ofDocument? at hsource
  split at hsource
  · rename_i values hvalues
    simp only [Option.some.injEq] at hsource
    obtain ⟨content, hmember, hread⟩ := Option.bind_eq_some_iff.mp hvalues
    have hnested := h.part (part_of_member hmember)
    obtain ⟨hvalid, hunder⟩ := WeightedValues.valid_of_ofDocument? hnested hread
    rw [← hsource]
    constructor
    · intro v hv
      obtain ⟨choice, hchoice, rfl⟩ := List.mem_map.mp hv
      exact hvalid choice hchoice
    · rw [toJson, Json.under_obj_iff, List.forall_mem_singleton]
      exact ⟨hnested.level_lt, hunder⟩
  · split at hsource
    · rename_i envVar henvVar
      simp only [Option.some.injEq] at hsource
      obtain ⟨content, hmember, hread⟩ := Option.bind_eq_some_iff.mp henvVar
      have hnested := h.part (part_of_member hmember)
      simp only [envVarOfDocument?, Option.bind_eq_bind, Option.bind_eq_some_iff] at hread
      obtain ⟨fields, hfields, -⟩ := hread
      have hlevel := (hnested.field hfields).1
      rw [← hsource]
      refine ⟨by simp [literals], ?_⟩
      rw [toJson, Json.under_obj_iff, List.forall_mem_singleton, Json.under_obj_iff,
        List.forall_mem_singleton]
      exact ⟨hnested.level_lt, hlevel, hlevel⟩
    · obtain ⟨v, hv, rfl⟩ := Option.map_eq_some_iff.mp hsource
      obtain ⟨hvalid, hunder⟩ := Value.portable_of_ofDocument? h hv
      refine ⟨?_, hunder⟩
      rw [literals, List.forall_mem_singleton]
      exact hvalid

/-- A source takes a level, so there is room for the list of criteria beside it also where
the document has none. -/
theorem ConditionalValue.portable_of_ofDocument? {value : ConditionalValue}
    (h : Nested level document) (hvalue : ofDocument? document = some value) :
    (∀ v ∈ value.literals, v.Portable) ∧ value.toJson.Under level := by
  simp only [ofDocument?, Option.bind_eq_bind, Option.bind_eq_some_iff] at hvalue
  obtain ⟨fields, hfields, hread⟩ := hvalue
  obtain ⟨hlevel, hnested⟩ := h.field hfields
  split at hread
  · rename_i criteria source
    simp only [Option.bind_eq_some_iff, Option.pure_def, Option.some.injEq] at hread
    obtain ⟨cs, hcs, s, hs, rfl⟩ := hread
    obtain ⟨hsource, hsourceUnder⟩ :=
      of_required (hnested source (by simp)) ValueSource.valid_of_ofDocument? hs
    have hroom : level + 2 < Document.depthLimit := by
      cases s with
      | value v => cases v <;> exact (Json.under_obj_iff.mp hsourceUnder).1
      | weighted values => exact (Json.under_obj_iff.mp hsourceUnder).1
      | provided envVar => exact (Json.under_obj_iff.mp hsourceUnder).1
    have hempty : (Json.arr []).Under (level + 1) := hroom
    obtain ⟨hcriteria, hcriteriaUnder⟩ := of_defaulted
      (p := fun cs => (∀ c ∈ cs, ∀ v ∈ c.target, v.Portable) ∧
        (Json.arr (cs.map Criterion.toJson)).Under (level + 1))
      (hnested criteria (by simp)) ⟨by simp, hempty⟩
      (fun hd => Nested.list Criterion.toJson Criterion.valid_of_ofDocument? hd) hcs
    constructor
    · intro v hv
      rcases List.mem_append.mp hv with hv | hv
      · obtain ⟨criterion, hcriterion, hv⟩ := List.mem_filterMap.mp hv
        exact hcriteria criterion hcriterion v hv
      · exact hsource v hv
    · simp only [toJson, Json.under_obj_cons, Json.under_obj_nil]
      exact ⟨hcriteriaUnder, hsourceUnder, hlevel⟩
  · simp at hread

theorem Row.valid_of_ofDocument? {row : Row} (hroom : level + 2 < Document.depthLimit)
    (h : Nested level document) (hrow : ofDocument? document = some row) :
    ((∀ e ∈ row.environment, isInt64 e = true) ∧ ∀ v ∈ row.literals, v.Portable) ∧
      row.toJson.Under level := by
  simp only [ofDocument?, Option.bind_eq_bind, Option.bind_eq_some_iff] at hrow
  obtain ⟨fields, hfields, hread⟩ := hrow
  obtain ⟨hlevel, hnested⟩ := h.field hfields
  split at hread
  · rename_i environment values
    simp only [Option.bind_eq_some_iff, Option.pure_def, Option.some.injEq] at hread
    obtain ⟨e, he, vs, hvs, rfl⟩ := hread
    have henvironment := of_optional (C := fun _ => True) (p := fun i => isInt64 i = true)
      (fun _ _ => trivial) (fun _ hi => Document.isInt64_of_int? hi) he
    have hempty : (Json.arr []).Under (level + 1) := hroom
    obtain ⟨hvalues, hunder⟩ := of_defaulted
      (p := fun vs => (∀ value ∈ vs, ∀ v ∈ value.literals, v.Portable) ∧
        (Json.arr (vs.map ConditionalValue.toJson)).Under (level + 1))
      (hnested values (by simp)) ⟨by simp, hempty⟩
      (fun hd => Nested.list ConditionalValue.toJson ConditionalValue.portable_of_ofDocument? hd)
      hvs
    refine ⟨⟨henvironment, fun v hv => ?_⟩, ?_⟩
    · obtain ⟨value, hvalue, hv⟩ := List.mem_flatMap.mp hv
      exact hvalues value hvalue v hv
    · simp only [toJson, Json.under_obj_cons, Json.under_obj_nil]
      exact ⟨Json.under_getD hlevel fun _ _ => hlevel, hunder, hlevel⟩
  · simp at hread

theorem Config.valid_of_ofDocument? {config : Config} (h : Nested 0 document)
    (hconfig : ofDocument? document = some config) :
    config.Valid ∧ config.IsWhole ∧ config.toJson.Under 0 := by
  simp only [ofDocument?, Option.bind_eq_bind, Option.bind_eq_some_iff] at hconfig
  obtain ⟨fields, hfields, hread⟩ := hconfig
  obtain ⟨hlevel, hnested⟩ := h.field hfields
  split at hread
  · rename_i id key rows kind valueType
    simp only [Option.bind_eq_some_iff, Option.pure_def, Option.some.injEq] at hread
    obtain ⟨i, hi, _, _, rs, hrs, _, _, _, _, rfl⟩ := hread
    have hid := of_defaulted (C := fun _ => True) (p := fun i => isInt64 i = true)
      (fun _ _ => trivial) (by decide) (fun _ hi => Document.isInt64_of_int? hi) hi
    have hempty : (Json.arr []).Under 1 := by
      change 1 + 1 < Document.depthLimit
      decide
    obtain ⟨hrows, hunder⟩ := of_defaulted
      (p := fun rs => (∀ row ∈ rs, (∀ e ∈ row.environment, isInt64 e = true) ∧
        ∀ v ∈ row.literals, v.Portable) ∧ (Json.arr (rs.map Row.toJson)).Under 1)
      (hnested rows (by simp)) ⟨by simp, hempty⟩
      (fun hd => Nested.list Row.toJson (Row.valid_of_ofDocument? (by decide)) hd) hrs
    have hportable : ∀ v ∈ rs.flatMap Row.literals, v.Portable := by
      intro v hv
      obtain ⟨row, hrow, hv⟩ := List.mem_flatMap.mp hv
      exact (hrows row hrow).2 v hv
    refine ⟨⟨hid, fun row hrow => (hrows row hrow).1, fun v hv => (hportable v hv).valid⟩,
      fun v hv => (hportable v hv).whole, ?_⟩
    simp only [toJson, Json.under_obj_cons, Json.under_obj_nil]
    exact ⟨hlevel, hlevel, hunder, hlevel, Json.under_getD hlevel fun _ _ => hlevel, hlevel⟩
  · simp at hread

end Reading

namespace Config

/-- The configuration of a JSON text in bytes. -/
def parse? (bytes : List UInt8) : Option Config := (Document.parse? bytes).bind ofDocument?

theorem valid_of_parse? {bytes : List UInt8} {config : Config} (h : parse? bytes = some config) :
    config.Valid ∧ config.IsWhole ∧ config.toJson.depth < Document.depthLimit := by
  obtain ⟨document, hdocument, hconfig⟩ := Option.bind_eq_some_iff.mp h
  obtain ⟨hvalid, hwhole, hunder⟩ :=
    valid_of_ofDocument? (Document.nested_of_parse? hdocument) hconfig
  exact ⟨hvalid, hwhole, Json.under_zero_iff.mp hunder⟩

theorem write?_of_isWhole {config : Config} (hwhole : config.IsWhole) :
    config.write? = some config.toJson.render := by
  have hwritable : config.literals.all Value.isWritable = true := by
    rw [List.all_eq_true]
    exact fun v hv => Value.isWritable_of_isWhole (hwhole v hv)
  rw [write?, if_pos hwritable]

theorem parse?_of_valid {config : Config} (hvalid : config.Valid) (hwhole : config.IsWhole)
    (hfree : config.DoubleFree) (hdepth : config.toJson.depth < Document.depthLimit) :
    parse? (Utf8.encode config.toJson.render) = some config := by
  rw [parse?, Document.parse?_render (numbers_toJson hvalid hwhole hfree) hdepth,
    Option.bind_some, ofDocument?_toJson hvalid hwhole]

/-- A configuration without doubles, with durations of whole milliseconds, has a text and
reads back from it, and so does every configuration without doubles that was read from any
text, whichever of its two names an operator had there. -/
theorem wire_roundtrip :
    (∀ config : Config, config.Valid → config.IsWhole → config.DoubleFree →
      config.toJson.depth < Document.depthLimit →
        config.write? = some config.toJson.render ∧
          parse? (Utf8.encode config.toJson.render) = some config) ∧
    (∀ (bytes : List UInt8) (config : Config), parse? bytes = some config → config.DoubleFree →
      config.write? = some config.toJson.render ∧
        parse? (Utf8.encode config.toJson.render) = some config) ∧
    ∀ (op : Operator) (spelling : String),
      spelling = op.name ∨ op.longName? = some spelling →
        Operator.ofName? spelling = some op := by
  refine ⟨fun config hvalid hwhole hfree hdepth => ?_, fun bytes config hparse hfree => ?_,
    fun op spelling hspelling => ?_⟩
  · exact ⟨write?_of_isWhole hwhole, parse?_of_valid hvalid hwhole hfree hdepth⟩
  · obtain ⟨hvalid, hwhole, hdepth⟩ := valid_of_parse? hparse
    exact ⟨write?_of_isWhole hwhole, parse?_of_valid hvalid hwhole hfree hdepth⟩
  · rcases hspelling with rfl | hlong
    · exact op.ofName?_name
    · exact Operator.ofName?_longName hlong

/-- A configuration with a value from each source. -/
def checkout : Config where
  id := 7
  key := "checkout"
  rows := [⟨some 3, [⟨[⟨some "plan", .propIsOneOf, some (.stringList ["pro"])⟩],
      .value (.duration (.ofMillis 1500))⟩]⟩,
    ⟨none, [⟨[], .weighted ⟨[⟨1, .json (.obj [("a", .arr [.int 1]), ("b", .null)])⟩], none⟩⟩,
      ⟨[], .provided "CHECKOUT"⟩]⟩]
  kind := .config
  valueType := none

theorem valid_checkout : checkout.Valid where
  id := by decide
  environments := by simp [checkout, isInt64]
  literals := by
    have hnumbers : (Json.obj [("a", .arr [.int 1]), ("b", .null)]).Numbers Json.InRange := by
      simp [Json.numbers_obj_iff, Json.numbers_arr_iff, Json.numbers_int_iff, Json.Numbers.null,
        Json.InRange]
    have hnormal : (Json.obj [("a", .arr [.int 1]), ("b", .null)]).normalize =
        Json.obj [("a", .arr [.int 1]), ("b", .null)] := rfl
    simpa [checkout, literals, Row.literals, ConditionalValue.literals, ValueSource.literals,
      Value.Valid] using ⟨hnumbers, hnormal⟩

theorem isWhole_checkout : checkout.IsWhole := by
  simp [IsWhole, checkout, literals, Row.literals, ConditionalValue.literals,
    ValueSource.literals, Value.IsWhole, Duration.isWhole_ofMillis]

theorem doubleFree_checkout : checkout.DoubleFree := by
  simp [DoubleFree, checkout, literals, Row.literals, ConditionalValue.literals,
    ValueSource.literals, Value.DoubleFree, Json.numbers_obj_iff, Json.numbers_arr_iff,
    Json.numbers_int_iff, Json.Numbers.null, Json.IsInteger]

theorem wire_roundtrip_checkout :
    (checkout.write? = some checkout.toJson.render ∧
      parse? (Utf8.encode checkout.toJson.render) = some checkout) ∧
    parse? (Utf8.encode (tombstone "checkout" 0).toJson.render) = some (tombstone "checkout" 0) ∧
    Operator.ofName? "PROPERTY_IS_ONE_OF" = some .propIsOneOf := by
  obtain ⟨hwritten, hread, hoperator⟩ := wire_roundtrip
  have htext : parse? (Utf8.encode "\x7b\"key\":\"checkout\"\x7d") =
      some (tombstone "checkout" 0) := rfl
  have hlong : Operator.propIsOneOf.longName? = some "PROPERTY_IS_ONE_OF" := by decide +kernel
  refine ⟨hwritten checkout valid_checkout isWhole_checkout doubleFree_checkout (by decide), ?_,
    hoperator .propIsOneOf "PROPERTY_IS_ONE_OF" (.inr hlong)⟩
  exact (hread _ _ htext (by simp [DoubleFree, tombstone, literals])).2

end Config
end LiveConfig
