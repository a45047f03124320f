import LiveConfig.Proofs.Equality
import LiveConfig.Proofs.KeyMap
import LiveConfig.Proofs.Readers
import LiveConfig.Loader

/-!
# No numeral denotes a NaN

Every arithmetic result is a rounded ratio, so it may be infinite but is a number.
Hence the documents that a parser makes of bytes hold no NaN, and whatever is read
from them equals itself: values, configurations and whole batches
(`Batch.comparable_of_parse?`).
-/

namespace LiveConfig

namespace Double

theorem isNaN_ofMagnitude (negative : Bool) {m : Nat} (h : m ≤ infinityWord) :
    (ofMagnitude negative m).isNaN = false := by
  have hm : m < signBit := by
    simp only [infinityWord, exponentUnit, signBit] at *
    omega
  have hmagnitude : (ofMagnitude negative m).magnitude = m := by
    simp only [ofMagnitude, magnitude, signBit] at *
    rw [UInt64.toNat_ofNat']
    cases negative <;> simp <;> omega
  simp only [isNaN, hmagnitude, decide_eq_false_iff_not]
  omega

theorem isNaN_zero (negative : Bool) : (zero negative).isNaN = false :=
  isNaN_ofMagnitude (m := 0) negative (Nat.zero_le _)

theorem isNaN_clamped (negative : Bool) (m : Nat) :
    (if infinityWord ≤ m then infinity negative else ofMagnitude negative m).isNaN = false := by
  split
  · exact isNaN_ofMagnitude (m := infinityWord) negative (Nat.le_refl _)
  · rename_i hfinite
    exact isNaN_ofMagnitude negative (Nat.le_of_not_le hfinite)

theorem isNaN_ofRatio (negative : Bool) (num den : Nat) :
    (ofRatio negative num den).isNaN = false := by
  unfold ofRatio
  by_cases hnum : num = 0
  · rw [if_pos hnum]
    exact isNaN_zero negative
  · rw [if_neg hnum]
    exact isNaN_clamped negative _

theorem isNaN_ofInt (i : Int) : (ofInt i).isNaN = false := isNaN_ofRatio _ _ _

theorem isNaN_mul (a b : Double) : (a.mul b).isNaN = false := isNaN_ofRatio _ _ _

theorem isNaN_div (a b : Double) : (a.div b).isNaN = false := isNaN_ofRatio _ _ _

theorem isNaN_neg {d : Double} (h : d.isNaN = false) : d.neg.isNaN = false := by
  simp only [isNaN, decide_eq_false_iff_not, Nat.not_lt] at h
  exact isNaN_ofMagnitude _ h

end Double

namespace Document

/-- Whether no number in the document is a NaN. -/
inductive Numeric : Document → Prop
  | null : Numeric null
  | bool (value : Bool) : Numeric (bool value)
  | int (value : Int) : Numeric (int value)
  | float {value : Double} (h : value.isNaN = false) : Numeric (float value)
  | str (value : String) : Numeric (str value)
  | arr {items : List Document} (h : ∀ x ∈ items, Numeric x) : Numeric (arr items)
  | obj {members : List (String × Document)} (h : ∀ e ∈ members, Numeric e.2) :
      Numeric (obj members)
  | unreadable : Numeric unreadable

/-! ## The parser -/

theorem isNaN_shrink (power : Nat → Double) (fuel : Nat) {d : Double} (n : Nat)
    (h : d.isNaN = false) : (scaleDouble.shrink power fuel d n).isNaN = false := by
  induction fuel generalizing d n with
  | zero => exact h
  | succ fuel ih =>
      unfold scaleDouble.shrink
      split
      · exact Double.isNaN_div _ _
      · split
        · exact h
        · exact ih _ (Double.isNaN_div _ _)

theorem isNaN_of_scaleDouble {negative : Bool} {significand : Nat} {exponent : Int} {d : Double}
    (h : scaleDouble negative significand exponent = some d) : d.isNaN = false := by
  have hsigned : ∀ {e : Double}, e.isNaN = false →
      (if negative then e.neg else e).isNaN = false := by
    intro e he
    cases negative with
    | false => exact he
    | true => exact Double.isNaN_neg he
  unfold scaleDouble at h
  dsimp only at h
  split at h
  · simp only [Option.some.injEq] at h
    rw [← h]
    exact hsigned (isNaN_shrink _ _ _ (Double.isNaN_ofInt _))
  · split at h
    · split at h
      · simp at h
      · simp only [Option.some.injEq] at h
        rw [← h]
        exact hsigned (Double.isNaN_mul _ _)
    · split at h
      · simp only [Option.some.injEq] at h
        rw [← h]
        exact hsigned (Double.isNaN_ofInt _)
      · simp at h

theorem numeric_scaled (negative : Bool) (significand : Nat) (exponent : Int) :
    Numeric (((scaleDouble negative significand exponent).map float).getD unreadable) := by
  cases h : scaleDouble negative significand exponent with
  | none => exact .unreadable
  | some d => exact .float (isNaN_of_scaleDouble h)

theorem numeric_number (negative : Bool) (whole : List Char) (places : Option (List Char))
    (exponent : Option Int) : Numeric (number negative whole places exponent) := by
  unfold number
  dsimp only
  split
  · split
    · exact .int _
    · split
      · exact .float (Double.isNaN_neg (Double.isNaN_ofInt _))
      · exact .int _
  · split
    · exact numeric_scaled _ _ _
    · split
      · exact .unreadable
      · split
        · exact .float (Double.isNaN_zero _)
        · exact numeric_scaled _ _ _

theorem kept_numeric : Kept fun _ => Numeric where
  null _ := .null
  bool _ := .bool
  str _ := .str
  unreadable _ := .unreadable
  number _ := numeric_number
  arr _ := .arr
  obj _ := .obj

theorem numeric_of_parse? {input : List UInt8} {document : Document}
    (h : parse? input = some document) : Numeric document :=
  kept_numeric.of_parse? h

theorem Numeric.part {part document : Document} (h : Numeric document)
    (hpart : Part part document) : Numeric part := by
  cases hpart with
  | item hitem =>
      cases h with
      | arr h => exact h _ hitem
  | member hmember =>
      cases h with
      | obj h => exact h _ hmember

theorem Numeric.field {names : List String} {document : Document}
    {fields : List (Option Document)} (h : Numeric document)
    (hfields : document.fields? names = some fields) :
    ∀ field ∈ fields, ∀ d ∈ field, Numeric d :=
  fun field hfield d hd => h.part (part_of_field hfields field hfield d hd)

/-! ## Values of documents -/

theorem Numeric.comparable_asWritten {document : Document} {json : Json} (h : Numeric document)
    (hjson : document.asWritten? = some json) : Comparable json := by
  induction h generalizing json with
  | float hnumber =>
      simp only [asWritten?, Option.some.injEq] at hjson
      rw [← hjson, Json.comparable_float_iff]
      exact hnumber
  | arr h ih =>
      simp only [asWritten?, Option.map_eq_some_iff] at hjson
      obtain ⟨values, hvalues, rfl⟩ := hjson
      rw [Json.comparable_arr_iff]
      intro v hv
      obtain ⟨x, hx, hread⟩ := exists_of_mem_itemsAsWritten? hvalues hv
      exact ih x hx hread
  | obj h ih =>
      simp only [asWritten?, Option.map_eq_some_iff] at hjson
      obtain ⟨values, hvalues, rfl⟩ := hjson
      rw [Json.comparable_obj_iff]
      intro v hv
      obtain ⟨e, he, hread⟩ := exists_of_mem_membersAsWritten? hvalues hv
      exact ih e he hread
  | unreadable => simp [asWritten?] at hjson
  | _ =>
      simp only [asWritten?, Option.some.injEq] at hjson
      simp [← hjson, Comparable, BEq.beq, Json.beq]

end Document

namespace Json

mutual

theorem comparable_normalize : ∀ json : Json, Comparable json → Comparable json.normalize
  | arr items, h => by
      rw [normalize, comparable_arr_iff]
      exact comparable_normalizeItems items ((comparable_arr_iff items).mp h)
  | obj members, h => by
      rw [normalize, comparable_obj_iff]
      intro e he
      apply comparable_normalizeMembers members ((comparable_obj_iff members).mp h) e
      exact KeyMap.mem_of_get?_ofList ((KeyMap.mem_entries_iff _ e.1 e.2).mp he)
  | null, h | bool _, h | int _, h | float _, h | str _, h => h

theorem comparable_normalizeItems : ∀ items : List Json, (∀ x ∈ items, Comparable x) →
    ∀ x ∈ normalizeItems items, Comparable x
  | [], h => h
  | x :: xs, h => by
      rw [normalizeItems, List.forall_mem_cons]
      rw [List.forall_mem_cons] at h
      exact ⟨comparable_normalize x h.1, comparable_normalizeItems xs h.2⟩

theorem comparable_normalizeMembers : ∀ members : List (String × Json),
    (∀ e ∈ members, Comparable e.2) → ∀ e ∈ normalizeMembers members, Comparable e.2
  | [], h => h
  | (k, x) :: rest, h => by
      rw [normalizeMembers, List.forall_mem_cons]
      rw [List.forall_mem_cons] at h
      exact ⟨comparable_normalize x h.1, comparable_normalizeMembers rest h.2⟩

end

end Json

namespace Document.Numeric

theorem comparable_value {document : Document} {json : Json} (h : Numeric document)
    (hjson : document.value? = some json) : Comparable json := by
  obtain ⟨written, hwritten, rfl⟩ := Option.map_eq_some_iff.mp hjson
  exact Json.comparable_normalize written (h.comparable_asWritten hwritten)

theorem isNaN_double {document : Document} {d : Double} (h : Numeric document)
    (hd : document.double? = some d) : d.isNaN = false := by
  cases h with
  | int i =>
      simp only [double?, Option.some.injEq] at hd
      exact hd ▸ Double.isNaN_ofInt i
  | float hnumber =>
      simp only [double?, Option.some.injEq] at hd
      exact hd ▸ hnumber
  | _ => simp [double?] at hd

end Document.Numeric

/-! ## Configurations and batches -/

open Document (Numeric part_of_choice part_of_member of_list of_required of_defaulted of_optional)

theorem Value.comparable_of_ofDocument? {document : Document} {v : Value}
    (h : Numeric document) (hv : Value.ofDocument? document = some v) : Comparable v := by
  unfold Value.ofDocument? at hv
  split at hv
  case h_3 content hchoice =>
    obtain ⟨d, hd, rfl⟩ := Option.map_eq_some_iff.mp hv
    rw [Value.comparable_double_iff]
    exact (h.part (part_of_choice hchoice)).isNaN_double hd
  case h_8 content hchoice =>
    obtain ⟨json, hjson, rfl⟩ := Option.map_eq_some_iff.mp hv
    rw [Value.comparable_json_iff]
    exact (h.part (part_of_choice hchoice)).comparable_value hjson
  case h_9 => simp at hv
  all_goals
    obtain ⟨x, _, rfl⟩ := Option.map_eq_some_iff.mp hv
    show Value.beq _ _ = true
    simp only [Value.beq, beq_self_eq_true]

theorem Criterion.comparable_of_ofDocument? {document : Document} {criterion : Criterion}
    (h : Numeric document) (hcriterion : Criterion.ofDocument? document = some criterion) :
    Comparable criterion := by
  simp only [Criterion.ofDocument?, Option.bind_eq_bind, Option.bind_eq_some_iff] at hcriterion
  obtain ⟨fields, hfields, hread⟩ := hcriterion
  have hnumeric := h.field hfields
  split at hread
  · rename_i property operator target
    simp only [Option.bind_eq_some_iff, Option.pure_def, Option.some.injEq] at hread
    obtain ⟨_, _, _, _, v, hv, rfl⟩ := hread
    rw [Criterion.comparable_iff]
    exact of_optional (hnumeric target (by simp)) Value.comparable_of_ofDocument? hv
  · simp at hread

theorem WeightedValues.comparable_choice {document : Document} {choice : WeightedValue}
    (h : Numeric document) (hchoice : WeightedValues.choiceOfDocument? document = some choice) :
    Comparable choice.value := by
  simp only [WeightedValues.choiceOfDocument?, Option.bind_eq_bind,
    Option.bind_eq_some_iff] at hchoice
  obtain ⟨fields, hfields, hread⟩ := hchoice
  have hnumeric := h.field hfields
  split at hread
  · rename_i weight value
    simp only [Option.bind_eq_some_iff, Option.pure_def, Option.some.injEq] at hread
    obtain ⟨_, _, v, hv, rfl⟩ := hread
    exact of_required (hnumeric value (by simp)) Value.comparable_of_ofDocument? hv
  · simp at hread

theorem WeightedValues.comparable_of_ofDocument? {document : Document} {values : WeightedValues}
    (h : Numeric document) (hvalues : WeightedValues.ofDocument? document = some values) :
    Comparable values := by
  simp only [WeightedValues.ofDocument?, Option.bind_eq_bind, Option.bind_eq_some_iff] at hvalues
  obtain ⟨fields, hfields, hread⟩ := hvalues
  have hnumeric := h.field hfields
  split at hread
  · rename_i choices hashBy
    simp only [Option.bind_eq_some_iff, Option.pure_def, Option.some.injEq] at hread
    obtain ⟨read, hread, _, _, rfl⟩ := hread
    rw [WeightedValues.comparable_iff]
    exact of_required (p := fun xs => ∀ x ∈ xs, Comparable x.value)
      (hnumeric choices (by simp))
      (fun hd => of_list (fun _ => hd.part) WeightedValues.comparable_choice) hread
  · simp at hread

theorem ValueSource.comparable_of_ofDocument? {document : Document} {source : ValueSource}
    (h : Numeric document) (hsource : ValueSource.ofDocument? document = some source) :
    Comparable source := by
  unfold ValueSource.ofDocument? at hsource
  split at hsource
  · rename_i values hvalues
    simp only [Option.some.injEq] at hsource
    obtain ⟨content, hmember, hread⟩ := Option.bind_eq_some_iff.mp hvalues
    rw [← hsource]
    exact WeightedValues.comparable_of_ofDocument? (h.part (part_of_member hmember)) hread
  · split at hsource
    · simp only [Option.some.injEq] at hsource
      rw [← hsource]
      exact comparable_of_refl (α := String) _
    · obtain ⟨v, hv, rfl⟩ := Option.map_eq_some_iff.mp hsource
      exact Value.comparable_of_ofDocument? h hv

theorem ConditionalValue.comparable_of_ofDocument? {document : Document}
    {value : ConditionalValue} (h : Numeric document)
    (hvalue : ConditionalValue.ofDocument? document = some value) : Comparable value := by
  simp only [ConditionalValue.ofDocument?, Option.bind_eq_bind, Option.bind_eq_some_iff] at hvalue
  obtain ⟨fields, hfields, hread⟩ := hvalue
  have hnumeric := h.field hfields
  split at hread
  · rename_i criteria source
    simp only [Option.bind_eq_some_iff, Option.pure_def, Option.some.injEq] at hread
    obtain ⟨cs, hcs, s, hs, rfl⟩ := hread
    rw [ConditionalValue.comparable_iff]
    constructor
    · exact of_defaulted (p := fun xs => ∀ x ∈ xs, Comparable x)
        (hnumeric criteria (by simp)) (by simp)
        (fun hd => of_list (fun _ => hd.part) Criterion.comparable_of_ofDocument?) hcs
    · exact of_required (hnumeric source (by simp)) ValueSource.comparable_of_ofDocument? hs
  · simp at hread

theorem Row.comparable_of_ofDocument? {document : Document} {row : Row}
    (h : Numeric document) (hrow : Row.ofDocument? document = some row) : Comparable row := by
  simp only [Row.ofDocument?, Option.bind_eq_bind, Option.bind_eq_some_iff] at hrow
  obtain ⟨fields, hfields, hread⟩ := hrow
  have hnumeric := h.field hfields
  split at hread
  · rename_i environment values
    simp only [Option.bind_eq_some_iff, Option.pure_def, Option.some.injEq] at hread
    obtain ⟨_, _, vs, hvs, rfl⟩ := hread
    rw [Row.comparable_iff]
    exact of_defaulted (p := fun xs => ∀ x ∈ xs, Comparable x)
      (hnumeric values (by simp)) (by simp)
      (fun hd => of_list (fun _ => hd.part) ConditionalValue.comparable_of_ofDocument?) hvs
  · simp at hread

theorem Config.comparable_of_ofDocument? {document : Document} {config : Config}
    (h : Numeric document) (hconfig : Config.ofDocument? document = some config) :
    Comparable config := by
  simp only [Config.ofDocument?, Option.bind_eq_bind, Option.bind_eq_some_iff] at hconfig
  obtain ⟨fields, hfields, hread⟩ := hconfig
  have hnumeric := h.field hfields
  split at hread
  · rename_i id key rows kind valueType
    simp only [Option.bind_eq_some_iff, Option.pure_def, Option.some.injEq] at hread
    obtain ⟨_, _, _, _, rs, hrs, _, _, _, _, rfl⟩ := hread
    rw [Config.comparable_iff]
    exact of_defaulted (p := fun xs => ∀ x ∈ xs, Comparable x)
      (hnumeric rows (by simp)) (by simp)
      (fun hd => of_list (fun _ => hd.part) Row.comparable_of_ofDocument?) hrs
  · simp at hread

namespace Batch

theorem comparable_config {document : Document} {result : Except Json Config}
    (h : Numeric document) (hresult : configOfDocument? document = some result) :
    ∀ config, result = .ok config → Comparable config := by
  simp only [configOfDocument?, Option.bind_eq_bind, Option.bind_eq_some_iff] at hresult
  obtain ⟨_, _, hread⟩ := hresult
  intro config hok
  subst hok
  split at hread
  · rename_i read hconfig
    simp only [Option.some.injEq, Except.ok.injEq] at hread
    exact hread ▸ Config.comparable_of_ofDocument? h hconfig
  · simp at hread

theorem mem_readable_iff (batch : Batch) (config : Config) :
    config ∈ batch.readable ↔ .ok config ∈ batch.configs := by
  simp only [readable, List.mem_filterMap]
  constructor
  · rintro ⟨result, hmem, hresult⟩
    cases result with
    | error json => simp [Except.toOption] at hresult
    | ok c =>
        simp only [Except.toOption, Option.some.injEq] at hresult
        exact hresult ▸ hmem
  · intro hmem
    exact ⟨.ok config, hmem, rfl⟩

/-- The configurations of a batch that was read from bytes equal themselves. -/
theorem comparable_of_parse? {bytes : List UInt8} {batch : Batch}
    (h : Batch.parse? bytes = some batch) : ∀ config ∈ batch.readable, Comparable config := by
  obtain ⟨document, hdocument, hbatch⟩ := Option.bind_eq_some_iff.mp h
  have hnumeric := Document.numeric_of_parse? hdocument
  simp only [ofDocument?, Option.bind_eq_bind, Option.bind_eq_some_iff] at hbatch
  obtain ⟨fields, hfields, hread⟩ := hbatch
  have hfield := hnumeric.field hfields
  split at hread
  · rename_i pointer configs defaultContext
    simp only [Option.bind_eq_some_iff, Option.pure_def, Option.some.injEq] at hread
    obtain ⟨_, _, results, hresults, _, _, rfl⟩ := hread
    have hall := of_defaulted
      (p := fun xs : List (Except Json Config) =>
        ∀ x ∈ xs, ∀ config, x = .ok config → Comparable config)
      (hfield configs (by simp)) (by simp)
      (fun hd => of_list (fun _ => hd.part) comparable_config) hresults
    intro config hconfig
    exact hall (.ok config) ((mem_readable_iff _ config).mp hconfig) config rfl
  · simp at hread

end Batch
end LiveConfig
