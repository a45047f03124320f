import LiveConfig.Proofs.JsonLiterals
import LiveConfig.Value

/-!
# Values read back from their texts

Coercion reads what a value is rendered as (`ValueType.coerce?_inverts_matchText?`).  The
numeral of an integer of 64 bits reads back as that integer, and a list of texts as itself
when it is joined with commas.  Neither a sign nor white space gets in the way: a numeral
begins with a digit or a minus sign, and the items of such a list are tight
(`Text.Tight`).  Doubles are not among these types, since all NaNs share one text.
-/

namespace LiveConfig

/-! ## Trimming and splitting -/

namespace Text

/-- Whether no white space stands at either end. -/
def Tight (text : List Char) : Prop :=
  (∀ c ∈ text.head?, isBlank c = false) ∧ ∀ c ∈ text.getLast?, isBlank c = false

-- by name, since a search may find the instance that goes through all characters
instance (text : List Char) : Decidable (Tight text) :=
  @instDecidableAnd _ _ (Option.decidableForallMem _) (Option.decidableForallMem _)

theorem dropWhile_isBlank {text : List Char} (h : ∀ c ∈ text.head?, isBlank c = false) :
    text.dropWhile isBlank = text := by
  cases text with
  | nil => rfl
  | cons c rest => exact List.dropWhile_cons_of_neg (by simp [h c rfl])

theorem trimChars_of_tight {text : List Char} (h : Tight text) : trimChars text = text := by
  have hend : ∀ c ∈ text.reverse.head?, isBlank c = false := by
    rw [List.head?_reverse]
    exact h.2
  rw [trimChars, trimStart, dropWhile_isBlank h.1, trimEnd, dropWhile_isBlank hend,
    List.reverse_reverse]

theorem tight_of_forall {text : List Char} (h : ∀ c ∈ text, isBlank c = false) : Tight text :=
  ⟨fun c hc => h c (List.mem_of_mem_head? hc), fun c hc => h c (List.mem_of_mem_getLast? hc)⟩

theorem splitChars_eq_splitOn (separator : Char) (text : List Char) :
    splitChars separator text = text.splitOn separator := by
  induction text with
  | nil => rfl
  | cons c rest ih =>
      rw [splitChars, ih, List.splitOn, List.splitOn, List.splitOnP_cons_eq_if_modifyHead]
      by_cases hc : c = separator
      · simp [hc]
      · rw [if_neg hc, if_neg (by simpa using hc)]
        cases hpieces : rest.splitOnP (· == separator) with
        | nil => exact absurd hpieces (List.splitOnP_ne_nil _ _)
        | cons piece pieces => rfl

/-- Items without commas are the pieces of their joined text; without any item the text is
empty and has one empty piece. -/
theorem splitChars_joined {items : List String} (h : ∀ item ∈ items, ',' ∉ item.toList) :
    splitChars ',' (",".intercalate items).toList =
      if items = [] then [[]] else items.map String.toList := by
  rw [String.toList_intercalate]
  by_cases hitems : items = []
  · rw [hitems]
    rfl
  · rw [if_neg hitems, splitChars_eq_splitOn]
    apply List.splitOn_intercalate
    · simpa using h
    · simpa using hitems

end Text

/-! ## Numerals -/

theorem isDigit_of_mem_toDigits {c : Char} {n : Nat} (h : c ∈ Nat.toDigits 10 n) :
    isDigit c = true := by
  obtain ⟨hlow, hhigh⟩ := Document.toNat_of_mem_toDigits h
  simp only [isDigit, Bool.and_eq_true, decide_eq_true_eq]
  exact ⟨hlow, hhigh⟩

theorem toNat_of_isDigit {c : Char} (h : isDigit c = true) : 0x30 ≤ c.toNat ∧ c.toNat ≤ 0x39 := by
  simp only [isDigit, Bool.and_eq_true, decide_eq_true_eq] at h
  exact h

theorem isBlank_of_isDigit {c : Char} (h : isDigit c = true) : isBlank c = false := by
  obtain ⟨hlow, hhigh⟩ := toNat_of_isDigit h
  simp only [isBlank, Bool.or_eq_false_iff, Bool.and_eq_false_iff, decide_eq_false_iff_not,
    beq_eq_false_iff_ne]
  omega

theorem natOfDigits_toDigits (n : Nat) : natOfDigits (Nat.toDigits 10 n) = n :=
  Nat.ofDigitChars_ten_toDigits

theorem readable_toDigits (n : Nat) :
    Nat.toDigits 10 n ≠ [] ∧ (Nat.toDigits 10 n).all isDigit = true :=
  ⟨Nat.toDigits_ne_nil, List.all_eq_true.mpr fun _ => isDigit_of_mem_toDigits⟩

theorem intOfText?_toDigits (n : Nat) : intOfText? (Nat.toDigits 10 n) = some (n : Int) := by
  have hdigits : ∀ c ∈ Nat.toDigits 10 n, isDigit c = true := fun c => isDigit_of_mem_toDigits
  -- a digit is no sign
  unfold intOfText?
  split
  · rename_i rest heq
    exact absurd (hdigits '-' (by simp [heq])) (by decide)
  · rename_i rest heq
    exact absurd (hdigits '+' (by simp [heq])) (by decide)
  · dsimp only
    rw [if_pos (readable_toDigits n), natOfDigits_toDigits]
    rfl

theorem intOfText?_neg_toDigits (n : Nat) :
    intOfText? ('-' :: Nat.toDigits 10 n) = some (-(n : Int)) := by
  simp only [intOfText?, if_pos (readable_toDigits n), natOfDigits_toDigits]
  rfl

theorem toList_toString_nat (n : Nat) : (toString n).toList = Nat.toDigits 10 n := by
  have hrepr : toString n = n.repr := rfl
  rw [hrepr, Nat.repr_eq_ofList_toDigits, String.toList_ofList]

theorem toList_toString_int (i : Int) :
    (toString i).toList =
      if 0 ≤ i then Nat.toDigits 10 i.toNat else '-' :: Nat.toDigits 10 (-i).toNat := by
  rw [Int.toString_eq_repr, Int.repr_eq_if]
  split
  · rw [Nat.repr_eq_ofList_toDigits, String.toList_ofList]
  · rw [Nat.repr_eq_ofList_toDigits, String.toList_append, String.toList_ofList,
      String.toList_ofList]
    rfl

theorem intOfText?_toString (i : Int) : intOfText? (toString i).toList = some i := by
  rw [toList_toString_int]
  split
  · rename_i hi
    rw [intOfText?_toDigits, Int.toNat_of_nonneg hi]
  · rename_i hi
    rw [intOfText?_neg_toDigits, Int.toNat_of_nonneg (by omega), Int.neg_neg]

theorem tight_toString_int (i : Int) : Text.Tight (toString i).toList := by
  apply Text.tight_of_forall
  intro c hc
  rw [toList_toString_int] at hc
  split at hc
  · exact isBlank_of_isDigit (isDigit_of_mem_toDigits hc)
  · rcases List.mem_cons.mp hc with rfl | hc
    · rfl
    · exact isBlank_of_isDigit (isDigit_of_mem_toDigits hc)

theorem int64OfText?_toString (i : Int64) : int64OfText? (toString i.toInt).toList = some i := by
  have hlow : -0x8000000000000000 ≤ i.toInt := i.le_toInt
  have hhigh : i.toInt < 0x8000000000000000 := i.toInt_lt
  have hrange : isInt64 i.toInt = true := by
    simp only [isInt64, Bool.and_eq_true, decide_eq_true_eq]
    exact ⟨hlow, hhigh⟩
  simp only [int64OfText?, intOfText?_toString, hrange, if_true, Int64.ofInt_toInt]

theorem uint64OfText?_toString (n : UInt64) :
    uint64OfText? (toString n.toNat).toList = some n := by
  have hread : intOfText? (toString n.toNat).toList = some (n.toNat : Int) :=
    intOfText?_toString (n.toNat : Int)
  have hrange : (n.toNat : Int) < 0x10000000000000000 := by
    have hlt : n.toNat < 0x10000000000000000 := n.toNat_lt
    omega
  unfold uint64OfText?
  split
  · rename_i rest heq
    rw [toList_toString_nat] at heq
    have hsign : isDigit '-' = true := isDigit_of_mem_toDigits (n := n.toNat) (by simp [heq])
    exact absurd hsign (by decide)
  · simp only [hread, if_pos hrange, Int.toNat_natCast, UInt64.ofNat_toNat]

/-! ## Values -/

theorem LogLevel.ofText?_name (level : LogLevel) : LogLevel.ofText? level.name = some level := by
  cases level <;> decide +kernel

namespace ValueType

/-- The types whose values are told by their texts. -/
def IsTextual : ValueType → Prop
  | bool | int | string | duration | logLevel => True
  | double | stringList | json => False

theorem coerce?_bool_of_lower {raw : String} {b : Bool}
    (h : Text.asciiLower (Text.trim raw) = if b then "true" else "false") :
    coerce? .bool raw = some (.bool b) := by
  unfold Text.trim at h
  cases b with
  | false => simp only [coerce?, h, Bool.false_eq_true, if_false]
  | true => simp only [coerce?, h, if_true]

theorem coerce?_bool (b : Bool) :
    coerce? .bool (if b then "true" else "false") = some (.bool b) := by
  apply coerce?_bool_of_lower
  cases b <;> decide +kernel

theorem coerce?_int (i : Int64) : coerce? .int (toString i.toInt) = some (.int i) := by
  simp only [coerce?, Text.trimChars_of_tight (tight_toString_int i.toInt),
    int64OfText?_toString, Option.map_some]

theorem coerce?_duration (ms : UInt64) :
    coerce? .duration (toString ms.toNat) = some (.duration (.ofMillis ms)) := by
  have htight : Text.Tight (toString ms.toNat).toList := tight_toString_int (ms.toNat : Int)
  simp only [coerce?, Text.trimChars_of_tight htight, uint64OfText?_toString, Option.map_some]

theorem coerce?_logLevel (level : LogLevel) :
    coerce? .logLevel level.name = some (.logLevel level) := by
  simp only [coerce?, level.ofText?_name, Option.map_some]

/-- A value of a type that is told by its text has one, and coercion reads it back. -/
theorem exists_text_of_isTextual {value : Value} (h : value.type.IsTextual)
    (hwhole : value.IsWhole) :
    ∃ text, value.matchText? = some text ∧ value.type.coerce? text = some value := by
  cases value with
  | bool b => exact ⟨_, rfl, coerce?_bool b⟩
  | int i => exact ⟨_, rfl, coerce?_int i⟩
  | string s => exact ⟨_, rfl, rfl⟩
  | duration d =>
      obtain ⟨ms, rfl⟩ := hwhole
      refine ⟨toString ms.toNat, ?_, coerce?_duration ms⟩
      rw [Value.matchText?, Duration.millis_ofMillis]
  | logLevel level => exact ⟨_, rfl, coerce?_logLevel level⟩
  | double d => exact h.elim
  | stringList items => exact h.elim
  | json value => exact h.elim

theorem coerce?_joined {items : List String}
    (h : ∀ item ∈ items, item ≠ "" ∧ ',' ∉ item.toList ∧ Text.Tight item.toList) :
    coerce? .stringList (",".intercalate items) = some (.stringList items) := by
  have htrimmed : (items.map String.toList).map Text.trimChars = items.map String.toList := by
    rw [List.map_map]
    apply List.map_congr_left
    intro item hitem
    exact Text.trimChars_of_tight (h item hitem).2.2
  have hkept : (items.map String.toList).filter (· ≠ []) = items.map String.toList := by
    rw [List.filter_eq_self]
    intro piece hpiece
    obtain ⟨item, hitem, rfl⟩ := List.mem_map.mp hpiece
    simpa using (h item hitem).1
  have hback : (items.map String.toList).map String.ofList = items := by
    rw [List.map_map]
    exact (List.map_congr_left fun item _ => String.ofList_toList).trans (List.map_id _)
  simp only [coerce?, Text.splitChars_joined fun item hitem => (h item hitem).2.1]
  by_cases hitems : items = []
  · rw [hitems]
    rfl
  · rw [if_neg hitems, htrimmed, hkept, hback]

theorem type_of_coerce? {type : ValueType} {raw : String} {value : Value}
    (h : type.coerce? raw = some value) : value.type = type := by
  have hmap : ∀ {β : Type} {make : β → Value} {read : Option β},
      (∀ x, (make x).type = type) → read.map make = some value → value.type = type := by
    intro β make read hmake hread
    obtain ⟨x, -, rfl⟩ := Option.map_eq_some_iff.mp hread
    exact hmake x
  cases type with
  | bool =>
      simp only [coerce?] at h
      split at h
      · cases h
        rfl
      · cases h
        rfl
      · cases h
  | int => exact hmap (fun _ => rfl) h
  | double => exact hmap (fun _ => rfl) h
  | string =>
      cases h
      rfl
  | stringList =>
      cases h
      rfl
  | duration => exact hmap (fun _ => rfl) h
  | logLevel => exact hmap (fun _ => rfl) h
  | json => exact hmap (fun _ => rfl) h

/-- Coercion inverts rendering for the types that are told by their texts, so that no two
values of one of them share a text, durations being whole milliseconds.  It also inverts
joining with commas, and yields only values of the type that is asked for. -/
theorem coerce?_inverts_matchText? :
    (∀ value : Value, value.type.IsTextual → value.IsWhole →
      ∃ text, value.matchText? = some text ∧ value.type.coerce? text = some value) ∧
    (∀ value other : Value, value.type.IsTextual → value.IsWhole → other.IsWhole →
      value.type = other.type → value.matchText? = other.matchText? → value = other) ∧
    (∀ items : List String,
      (∀ item ∈ items, item ≠ "" ∧ ',' ∉ item.toList ∧ Text.Tight item.toList) →
      coerce? .stringList (",".intercalate items) = some (.stringList items)) ∧
    ∀ (type : ValueType) (raw : String) (value : Value),
      type.coerce? raw = some value → value.type = type := by
  refine ⟨fun value => exists_text_of_isTextual, ?_, fun items => coerce?_joined,
    fun type raw value => type_of_coerce?⟩
  intro value other htextual hwhole hwhole' htype htext
  obtain ⟨text, hvalue, hread⟩ := exists_text_of_isTextual htextual hwhole
  obtain ⟨text', hother, hread'⟩ := exists_text_of_isTextual (htype ▸ htextual) hwhole'
  have hsame : text = text' := Option.some.inj (hvalue.symm.trans (htext.trans hother))
  rw [hsame, htype] at hread
  exact Option.some.inj (hread.symm.trans hread')

/-- The least integer, a duration beyond `2 ^ 64` that wraps around, and a list whose items
have white space within them. -/
theorem coerce?_inverts_matchText?_extremes :
    (∃ text, (Value.int Int64.minValue).matchText? = some text ∧
      coerce? .int text = some (.int Int64.minValue)) ∧
    Value.duration (.ofMillis (UInt64.ofNat 0x10000000000000005)) =
      .duration (.ofMillis 5) ∧
    coerce? .stringList (",".intercalate ["a b", "ü"]) = some (.stringList ["a b", "ü"]) ∧
    (coerce? .bool " TRUE\n" = some (.bool true) ∧ (Value.bool true).type = .bool) := by
  obtain ⟨hread, hinjective, hjoined, htype⟩ := coerce?_inverts_matchText?
  have hshout : coerce? .bool " TRUE\n" = some (.bool true) :=
    coerce?_bool_of_lower (by decide +kernel)
  refine ⟨hread (.int Int64.minValue) trivial trivial,
    hinjective _ _ trivial ⟨_, rfl⟩ ⟨_, rfl⟩ rfl rfl, hjoined _ ?_, hshout, htype _ _ _ hshout⟩
  decide +kernel

end ValueType
end LiveConfig
