import LiveConfig.Config.Wire
import LiveConfig.Proofs.JsonValues

/-!
# Configurations as documents

Each reader of the wire form gives back what the writer was given, if integers have 64
bits, JSON is normal and durations are whole milliseconds (`Config.ofDocument?_toJson`).  A
record that is written has each
of its members once and in order, so its fields are the members
(`Document.fields?_toDocument`).  The sources of a value are told apart by their members:
no value is written with the member of another source
(`ValueSource.ofDocument?_toJson`).
-/

namespace LiveConfig

/-! ## Records -/

namespace Document

theorem countP_le_one_of_nodup {members : List (String × Document)}
    (h : (members.map (·.1)).Nodup) (name : String) :
    members.countP (·.1 == name) ≤ 1 := by
  have hcount := List.nodup_iff_count.mp h name
  rwa [List.count, List.countP_map] at hcount

theorem fields?_of_nodup {members : List (String × Document)}
    (h : (members.map (·.1)).Nodup) (names : List String) :
    (obj members).fields? names = some (names.map fun name => members.lookup name) := by
  have honce : names.all fun name => members.countP (·.1 == name) ≤ 1 := by
    rw [List.all_eq_true]
    intro name _
    exact decide_eq_true (countP_le_one_of_nodup h name)
  rw [fields?, if_pos honce]

/-- The fields of an object whose members are those of the record, in order. -/
theorem fields?_toDocument {members : List (String × Json)} {names : List String}
    (hnames : members.map (·.1) = names) (hnodup : names.Nodup) :
    (Json.obj members).toDocument.fields? names =
      some (members.map fun e => some e.2.toDocument) := by
  have hkeys : (Json.toDocumentMembers members).map (·.1) = names := by
    rw [Json.toDocumentMembers_eq_map, List.map_map]
    exact hnames
  have hlookup := List.map_congr_left (KeyMap.lookup_of_nodup (hkeys ▸ hnodup))
  rw [Json.toDocument, fields?_of_nodup (hkeys ▸ hnodup), ← hkeys, List.map_map]
  refine congrArg some (hlookup.trans ?_)
  rw [Json.toDocumentMembers_eq_map, List.map_map]
  rfl

theorem member?_singleton (name : String) (content : Document) :
    (obj [(name, content)]).member? name = some content := by
  simp [member?]

theorem member?_other {name other : String} (h : name ≠ other) (content : Document) :
    (obj [(name, content)]).member? other = none := by
  simp [member?, List.lookup_cons, h, beq_eq_false_iff_ne.mpr (Ne.symm h)]

theorem optional_toDocument (read : Document → Option α) (write : α → Json) (x : Option α)
    (hread : ∀ y ∈ x, read (write y).toDocument = some y)
    (hnull : ∀ y, (write y).toDocument ≠ null) :
    optional read (some ((x.map write).getD .null).toDocument) = some x := by
  cases x with
  | none => rfl
  | some y =>
      have hy := hread y rfl
      rw [Option.map_some, Option.getD_some]
      unfold optional
      split
      · rename_i heq
        exact absurd (Option.some.inj heq) (hnull y)
      · rename_i heq
        rw [← Option.some.inj heq, hy]
        rfl
      · rename_i heq
        simp at heq

theorem list?_toDocument {read : Document → Option α} {write : α → Json} (xs : List α)
    (hread : ∀ x ∈ xs, read (write x).toDocument = some x) :
    (Json.arr (xs.map write)).toDocument.list? read = some xs := by
  rw [Json.toDocument, Json.toDocumentItems_eq_map, list?, List.map_map]
  exact mapM_map_eq_some hread

theorem int?_of_isInt64 {i : Int} (h : isInt64 i = true) : (int i).int? = some i := by
  rw [int?, if_pos h]

theorem isInt64_of_int? {document : Document} {i : Int} (h : document.int? = some i) :
    isInt64 i = true := by
  unfold int? at h
  split at h
  · split at h
    · rename_i hrange
      exact Option.some.inj h ▸ hrange
    · simp at h
  · simp at h

theorem natBelow?_natCast {n bound : Nat} (h : n < bound) :
    (int n).natBelow? bound = some n := by
  have hrange : (0 : Int) ≤ n ∧ (n : Int) < bound := by omega
  rw [natBelow?, if_pos hrange, Int.toNat_natCast]

end Document

theorem isInt64_toInt (i : Int64) : isInt64 i.toInt = true := by
  have hlow := i.le_toInt
  have hhigh := i.toInt_lt
  simp only [isInt64, Bool.and_eq_true, decide_eq_true_eq]
  exact ⟨hlow, hhigh⟩

/-! ## Names -/

theorem LogLevel.ofName?_name (level : LogLevel) : ofName? level.name = some level := by
  cases level <;> decide

theorem ValueType.ofName?_name (type : ValueType) : ofName? type.name = some type := by
  cases type <;> decide

theorem ConfigKind.ofName?_name (kind : ConfigKind) : ofName? kind.name = some kind := by
  cases kind <;> decide

namespace Operator

theorem mem_all (op : Operator) : op ∈ all := by
  cases op <;> decide

theorem ofName?_of_mem_all : ∀ op ∈ all,
    ofName? op.name = some op ∧ ∀ long ∈ op.longName?, ofName? long = some op := by
  decide +kernel

theorem ofName?_name (op : Operator) : ofName? op.name = some op :=
  (ofName?_of_mem_all op op.mem_all).1

theorem ofName?_longName {op : Operator} {long : String} (h : op.longName? = some long) :
    ofName? long = some op :=
  (ofName?_of_mem_all op op.mem_all).2 long h

end Operator

/-! ## Values -/

namespace Value

/-- Whether JSON in the value is as the program holds it: normal, with integers of 64
bits. -/
def Valid : Value → Prop
  | json value => value.Numbers Json.InRange ∧ value.normalize = value
  | _ => True

/-- Whether the wire form tells all of the value. -/
structure Portable (v : Value) : Prop where
  valid : v.Valid
  whole : v.IsWhole

/-- Whether no double is in the value. -/
def DoubleFree : Value → Prop
  | double _ => False
  | json value => value.Numbers Json.IsInteger
  | _ => True

theorem isWritable_of_isWhole {v : Value} (h : v.IsWhole) : v.isWritable = true := by
  cases v with
  | duration d =>
      obtain ⟨ms, rfl⟩ := h
      exact Duration.isWritable_ofMillis ms
  | _ => rfl

theorem ofDocument?_toJson {v : Value} (h : v.Portable) :
    ofDocument? v.toJson.toDocument = some v := by
  cases v with
  | bool b => rfl
  | int i =>
      change ((Document.int i.toInt).int?.map _) = _
      rw [Document.int?_of_isInt64 (isInt64_toInt i), Option.map_some, Int64.ofInt_toInt]
  | double d => rfl
  | string s => rfl
  | stringList items =>
      change ((Json.arr (items.map .str)).toDocument.list? Document.text?).map stringList = _
      rw [Document.list?_toDocument items fun _ _ => rfl]
      rfl
  | duration d =>
      obtain ⟨ms, rfl⟩ := h.whole
      have hread := Document.natBelow?_natCast ms.toNat_lt
      have hduration : ofDocument? (.obj [("duration", .int ms.toNat)]) =
          ((Document.int ms.toNat).natBelow? (2 ^ 64)).map fun n =>
            duration (.ofMillis (UInt64.ofNat n)) :=
        rfl
      rw [hread, Option.map_some, UInt64.ofNat_toNat] at hduration
      rw [toJson, Duration.wireMillis_ofMillis]
      exact hduration
  | logLevel level =>
      change (LogLevel.ofDocument? (.str level.name)).map logLevel = _
      change (LogLevel.ofName? level.name).map logLevel = _
      rw [LogLevel.ofName?_name]
      rfl
  | json value =>
      change value.toDocument.value?.map json = _
      rw [Json.value?_toDocument h.valid.2]
      rfl

theorem toDocument_ne_null (v : Value) : v.toJson.toDocument ≠ .null := by
  cases v <;> nofun

end Value

/-! ## Configurations as documents -/

theorem Criterion.ofDocument?_toJson {criterion : Criterion}
    (h : ∀ v ∈ criterion.target, v.Portable) :
    ofDocument? criterion.toJson.toDocument = some criterion := by
  have hoperator : (Json.str criterion.operator.name).toDocument.plainChoice?.bind
      Operator.ofName? = some criterion.operator := criterion.operator.ofName?_name
  have hproperty := Document.optional_toDocument Document.text? Json.str criterion.property
    (fun _ _ => rfl) (fun _ => by simp [Json.toDocument])
  have htarget := Document.optional_toDocument Value.ofDocument? Value.toJson
    criterion.target (fun v hv => Value.ofDocument?_toJson (h v hv)) Value.toDocument_ne_null
  rw [toJson, ofDocument?, Document.fields?_toDocument]
  · simp only [List.map_cons, List.map_nil, Option.bind_eq_bind, Option.bind_some,
      Document.required, hproperty, hoperator, htarget]
    rfl
  · rfl
  · decide

theorem WeightedValues.choiceOfDocument?_choiceToJson {choice : WeightedValue}
    (h : choice.value.Portable) :
    choiceOfDocument? (choiceToJson choice).toDocument = some choice := by
  have hlt : choice.weight.toNat < 0x100000000 := choice.weight.toNat_lt
  have hweight : (Json.int choice.weight.toNat).toDocument.natBelow? 0x100000000 =
      some choice.weight.toNat := by
    rw [Json.toDocument, Document.natBelow?_natCast hlt]
  rw [choiceToJson, choiceOfDocument?, Document.fields?_toDocument, Option.bind_eq_bind,
    Option.bind_some]
  · -- step by step, since the kernel would count up to the bound to compute the match
    change (Document.required _ (some _)).bind _ = _
    rw [Document.required, hweight, Option.bind_some, Document.required,
      Value.ofDocument?_toJson h, Option.bind_eq_bind, Option.bind_some, UInt32.ofNat_toNat]
    rfl
  · rfl
  · decide

theorem WeightedValues.ofDocument?_toJson {values : WeightedValues}
    (h : ∀ choice ∈ values.choices, choice.value.Portable) :
    ofDocument? values.toJson.toDocument = some values := by
  have hchoices := Document.list?_toDocument values.choices
    fun choice hchoice => choiceOfDocument?_choiceToJson (h choice hchoice)
  have hhashBy := Document.optional_toDocument Document.text? Json.str values.hashBy
    (fun _ _ => rfl) (fun _ => by simp [Json.toDocument])
  rw [toJson, ofDocument?, Document.fields?_toDocument]
  · simp only [List.map_cons, List.map_nil, Option.bind_eq_bind, Option.bind_some,
      Document.required, hchoices, hhashBy]
    rfl
  · rfl
  · decide

/-- The three sources are told apart: the members of one are missing from the others. -/
theorem ValueSource.ofDocument?_toJson {source : ValueSource}
    (h : ∀ v ∈ source.literals, v.Portable) :
    ofDocument? source.toJson.toDocument = some source := by
  cases source with
  | value v =>
      have hweighted : v.toJson.toDocument.member? "weightedValues" = none := by
        cases v <;> exact Document.member?_other (by decide) _
      have hprovided : v.toJson.toDocument.member? "provided" = none := by
        cases v <;> exact Document.member?_other (by decide) _
      have hvalue := Value.ofDocument?_toJson (h v (List.mem_singleton_self v))
      rw [toJson, ofDocument?, hweighted, hprovided, hvalue]
      rfl
  | weighted values =>
      have hmember : (toJson (.weighted values)).toDocument.member? "weightedValues" =
          some values.toJson.toDocument := Document.member?_singleton _ _
      have hvalues : WeightedValues.ofDocument? values.toJson.toDocument = some values :=
        WeightedValues.ofDocument?_toJson fun choice hchoice =>
          h choice.value (List.mem_map_of_mem hchoice)
      rw [ofDocument?, hmember, Option.bind_some, hvalues]
  | provided envVar =>
      have hweighted : (toJson (.provided envVar)).toDocument.member? "weightedValues" = none :=
        Document.member?_other (by decide) _
      have hprovided : (toJson (.provided envVar)).toDocument.member? "provided" =
          some (.obj [("envVar", .str envVar)]) := Document.member?_singleton _ _
      have henvVar : envVarOfDocument? (.obj [("envVar", .str envVar)]) = some envVar := rfl
      rw [ofDocument?, hweighted, hprovided, Option.bind_none, Option.bind_some, henvVar]

theorem ConditionalValue.ofDocument?_toJson {value : ConditionalValue}
    (h : ∀ v ∈ value.literals, v.Portable) :
    ofDocument? value.toJson.toDocument = some value := by
  have hcriteria := Document.list?_toDocument value.criteria fun criterion hcriterion =>
    Criterion.ofDocument?_toJson fun v hv =>
      h v (List.mem_append_left _ (List.mem_filterMap.mpr ⟨criterion, hcriterion, hv⟩))
  have hsource := ValueSource.ofDocument?_toJson fun v hv => h v (List.mem_append_right _ hv)
  rw [toJson, ofDocument?, Document.fields?_toDocument]
  · simp only [List.map_cons, List.map_nil, Option.bind_eq_bind, Option.bind_some,
      Document.required, Document.defaulted, hcriteria, hsource]
    rfl
  · rfl
  · decide

theorem Row.ofDocument?_toJson {row : Row} (henvironment : ∀ e ∈ row.environment, isInt64 e = true)
    (h : ∀ v ∈ row.literals, v.Portable) : ofDocument? row.toJson.toDocument = some row := by
  have henv := Document.optional_toDocument Document.int? Json.int row.environment
    (fun e he => Document.int?_of_isInt64 (henvironment e he))
    (fun _ => by simp [Json.toDocument])
  have hvalues := Document.list?_toDocument row.values fun value hvalue =>
    ConditionalValue.ofDocument?_toJson fun v hv =>
      h v (List.mem_flatMap.mpr ⟨value, hvalue, hv⟩)
  rw [toJson, ofDocument?, Document.fields?_toDocument]
  · simp only [List.map_cons, List.map_nil, Option.bind_eq_bind, Option.bind_some,
      Document.defaulted, henv, hvalues]
    rfl
  · rfl
  · decide

namespace Config

/-- What the types of the program say of a configuration: its numbers are integers of 64
bits and its JSON is normal. -/
structure Valid (config : Config) : Prop where
  id : isInt64 config.id = true
  environments : ∀ row ∈ config.rows, ∀ e ∈ row.environment, isInt64 e = true
  literals : ∀ v ∈ config.literals, v.Valid

/-- Whether all durations in the configuration are whole milliseconds. -/
def IsWhole (config : Config) : Prop := ∀ v ∈ config.literals, v.IsWhole

theorem Valid.portable {config : Config} (h : config.Valid) (hwhole : config.IsWhole) :
    ∀ v ∈ config.literals, v.Portable :=
  fun v hv => ⟨h.literals v hv, hwhole v hv⟩

theorem ofDocument?_toJson {config : Config} (h : config.Valid) (hwhole : config.IsWhole) :
    ofDocument? config.toJson.toDocument = some config := by
  have hrows := Document.list?_toDocument config.rows fun row hrow =>
    Row.ofDocument?_toJson (h.environments row hrow) fun v hv =>
      h.portable hwhole v (List.mem_flatMap.mpr ⟨row, hrow, hv⟩)
  have hid : (Json.int config.id).toDocument.int? = some config.id :=
    Document.int?_of_isInt64 h.id
  have hkind : kindOfDocument? (Json.str config.kind.name).toDocument = some config.kind :=
    config.kind.ofName?_name
  have htype := Document.optional_toDocument ValueType.ofDocument?
    (fun type => Json.str type.name) config.valueType
    (fun type _ => type.ofName?_name) (fun _ => by simp [Json.toDocument])
  rw [toJson, ofDocument?, Document.fields?_toDocument]
  · simp only [List.map_cons, List.map_nil, Option.bind_eq_bind, Option.bind_some,
      Document.required, Document.defaulted, hid, hrows, hkind, htype]
    rfl
  · rfl
  · decide

end Config

end LiveConfig
