import LiveConfig.Proofs.JsonText
import LiveConfig.Proofs.KeyMap
import LiveConfig.Proofs.Readers

/-!
# JSON values of documents

A normal value that is written as a document is the value of that document
(`Json.value?_toDocument`), and the value of every document is normal
(`Json.normalize_normalize`).  A parsed document has integers of 64 bits only and is
nested within the parser's limit (`Document.Fits`), and so is its value.
-/

namespace LiveConfig

namespace Json

/-! ## Induction on values -/

/-- Induction whose hypotheses are about the items of a list and the contents of an
object. -/
theorem parts_induction {P : Json → Prop} (null : P null) (bool : ∀ b, P (bool b))
    (int : ∀ i, P (int i)) (float : ∀ d, P (float d)) (str : ∀ s, P (str s))
    (arr : ∀ items, (∀ x ∈ items, P x) → P (arr items))
    (obj : ∀ members, (∀ e ∈ members, P e.2) → P (obj members)) (value : Json) : P value := by
  refine @Json.rec P (fun items => ∀ x ∈ items, P x) (fun members => ∀ e ∈ members, P e.2)
    (fun e => P e.2) null bool int float str arr obj ?_ ?_ ?_ ?_ ?_ value
  · simp
  · intro x xs hx hxs
    exact List.forall_mem_cons.mpr ⟨hx, hxs⟩
  · simp
  · intro e es he hes
    exact List.forall_mem_cons.mpr ⟨he, hes⟩
  · intro name x hx
    exact hx

theorem normalizeItems_eq_map (items : List Json) :
    normalizeItems items = items.map normalize := by
  induction items with
  | nil => rfl
  | cons x xs ih => rw [normalizeItems, ih, List.map_cons]

theorem normalizeMembers_eq_map (members : List (String × Json)) :
    normalizeMembers members = members.map fun e => (e.1, e.2.normalize) := by
  induction members with
  | nil => rfl
  | cons e xs ih => rw [normalizeMembers, ih, List.map_cons]

theorem itemsDepth_le_iff {items : List Json} {n : Nat} :
    itemsDepth items ≤ n ↔ ∀ x ∈ items, x.depth ≤ n := by
  induction items with
  | nil => simp [itemsDepth]
  | cons x xs ih => rw [itemsDepth, Nat.max_le, ih, List.forall_mem_cons]

theorem membersDepth_le_iff {members : List (String × Json)} {n : Nat} :
    membersDepth members ≤ n ↔ ∀ e ∈ members, e.2.depth ≤ n := by
  induction members with
  | nil => simp [membersDepth]
  | cons e xs ih => rw [membersDepth, Nat.max_le, ih, List.forall_mem_cons]

theorem numbers_int_iff {p : Json → Prop} {i : Int} : (int i).Numbers p ↔ p (int i) := by
  constructor
  · intro h
    cases h with
    | int h => exact h
  · exact .int

theorem numbers_arr_iff {p : Json → Prop} {items : List Json} :
    (arr items).Numbers p ↔ ∀ x ∈ items, x.Numbers p := by
  constructor
  · intro h
    cases h with
    | arr h => exact h
  · exact .arr

theorem numbers_obj_iff {p : Json → Prop} {members : List (String × Json)} :
    (obj members).Numbers p ↔ ∀ e ∈ members, e.2.Numbers p := by
  constructor
  · intro h
    cases h with
    | obj h => exact h
  · exact .obj

theorem numbers_obj_nil {p : Json → Prop} : (obj []).Numbers p := .obj (by simp)

theorem numbers_obj_cons {p : Json → Prop} {name : String} {value : Json}
    {members : List (String × Json)} :
    (obj ((name, value) :: members)).Numbers p ↔ value.Numbers p ∧ (obj members).Numbers p := by
  rw [numbers_obj_iff, numbers_obj_iff, List.forall_mem_cons]

theorem Numbers.and {p q : Json → Prop} {value : Json} (hp : value.Numbers p)
    (hq : value.Numbers q) : value.Numbers fun n => p n ∧ q n := by
  induction hp with
  | null => exact .null
  | bool b => exact .bool b
  | int h =>
      cases hq with
      | int h' => exact .int ⟨h, h'⟩
  | float h =>
      cases hq with
      | float h' => exact .float ⟨h, h'⟩
  | str s => exact .str s
  | arr _ ih =>
      cases hq with
      | arr h' => exact .arr fun x hx => ih x hx (h' x hx)
  | obj _ ih =>
      cases hq with
      | obj h' => exact .obj fun e he => ih e he (h' e he)

/-- Whether no list or object in the value is as deep as the limit, if the value itself is
at that level. -/
def Under (level : Nat) (value : Json) : Prop := level + value.depth < Document.depthLimit

theorem under_zero_iff {value : Json} : value.Under 0 ↔ value.depth < Document.depthLimit := by
  rw [Under, Nat.zero_add]

theorem under_arr_iff {level : Nat} {items : List Json} : (arr items).Under level ↔
    level + 1 < Document.depthLimit ∧ ∀ x ∈ items, x.Under (level + 1) := by
  have hitems := @itemsDepth_le_iff items (Document.depthLimit - 1 - (level + 1))
  simp only [Under, depth]
  constructor
  · intro h
    have hparts := hitems.mp (by omega)
    refine ⟨by omega, fun x hx => ?_⟩
    have := hparts x hx
    omega
  · rintro ⟨hlevel, hparts⟩
    have := hitems.mpr fun x hx => by
      have := hparts x hx
      omega
    omega

theorem under_obj_iff {level : Nat} {members : List (String × Json)} : (obj members).Under level ↔
    level + 1 < Document.depthLimit ∧ ∀ e ∈ members, e.2.Under (level + 1) := by
  have hmembers := @membersDepth_le_iff members (Document.depthLimit - 1 - (level + 1))
  simp only [Under, depth]
  constructor
  · intro h
    have hparts := hmembers.mp (by omega)
    refine ⟨by omega, fun e he => ?_⟩
    have := hparts e he
    omega
  · rintro ⟨hlevel, hparts⟩
    have := hmembers.mpr fun e he => by
      have := hparts e he
      omega
    omega

theorem under_obj_nil {level : Nat} :
    (obj []).Under level ↔ level + 1 < Document.depthLimit := by
  rw [under_obj_iff]
  simp

theorem under_obj_cons {level : Nat} {name : String} {value : Json}
    {members : List (String × Json)} : (obj ((name, value) :: members)).Under level ↔
      value.Under (level + 1) ∧ (obj members).Under level := by
  rw [under_obj_iff, under_obj_iff, List.forall_mem_cons]
  exact and_left_comm

/-! ## Normal values -/

theorem mem_of_mem_sortMembers {members : List (String × Json)} {e : String × Json}
    (h : e ∈ sortMembers members) : e ∈ members :=
  KeyMap.mem_of_get?_ofList ((KeyMap.mem_entries_iff _ e.1 e.2).mp h)

theorem sortMembers_of_increasing {members : List (String × Json)}
    (h : members.Pairwise fun a b => a.1 < b.1) : sortMembers members = members := by
  have hmap : KeyMap.ofList members = ⟨members, h⟩ := KeyMap.ofList_entries ⟨members, h⟩
  rw [sortMembers, hmap]

theorem normalize_normalize (value : Json) : value.normalize.normalize = value.normalize := by
  induction value using parts_induction with
  | arr items ih =>
      simp only [normalize, normalizeItems_eq_map, List.map_map]
      congr 1
      exact List.map_congr_left ih
  | obj members ih =>
      simp only [normalize, normalizeMembers_eq_map]
      congr 1
      have hparts : ∀ e ∈ sortMembers (members.map fun e => (e.1, e.2.normalize)),
          (e.1, e.2.normalize) = e := by
        intro e he
        obtain ⟨m, hm, rfl⟩ := List.mem_map.mp (mem_of_mem_sortMembers he)
        rw [ih m hm]
      rw [(List.map_congr_left hparts).trans (List.map_id _)]
      exact sortMembers_of_increasing (KeyMap.ofList _).increasing
  | _ => rfl

theorem numbers_normalize {p : Json → Prop} {value : Json} (h : value.Numbers p) :
    value.normalize.Numbers p := by
  induction h with
  | arr _ ih =>
      rw [normalize, normalizeItems_eq_map]
      apply Numbers.arr
      intro x hx
      obtain ⟨y, hy, rfl⟩ := List.mem_map.mp hx
      exact ih y hy
  | obj _ ih =>
      rw [normalize, normalizeMembers_eq_map]
      apply Numbers.obj
      intro e he
      obtain ⟨m, hm, rfl⟩ := List.mem_map.mp (mem_of_mem_sortMembers he)
      exact ih m hm
  | null => exact .null
  | bool b => exact .bool b
  | int h => exact .int h
  | float h => exact .float h
  | str s => exact .str s

theorem depth_normalize (value : Json) : value.normalize.depth ≤ value.depth := by
  induction value using parts_induction with
  | arr items ih =>
      rw [normalize, normalizeItems_eq_map, depth, depth, Nat.add_le_add_iff_right,
        itemsDepth_le_iff]
      intro x hx
      obtain ⟨y, hy, rfl⟩ := List.mem_map.mp hx
      exact Nat.le_trans (ih y hy) (itemsDepth_le_iff.mp (Nat.le_refl _) y hy)
  | obj members ih =>
      rw [normalize, normalizeMembers_eq_map, depth, depth, Nat.add_le_add_iff_right,
        membersDepth_le_iff]
      intro e he
      obtain ⟨m, hm, rfl⟩ := List.mem_map.mp (mem_of_mem_sortMembers he)
      exact Nat.le_trans (ih m hm) (membersDepth_le_iff.mp (Nat.le_refl _) m hm)
  | _ => exact Nat.le_refl _

/-! ## Values as documents -/

theorem toDocumentItems_eq_map (items : List Json) :
    toDocumentItems items = items.map toDocument := by
  induction items with
  | nil => rfl
  | cons x xs ih => rw [toDocumentItems, ih, List.map_cons]

theorem toDocumentMembers_eq_map (members : List (String × Json)) :
    toDocumentMembers members = members.map fun e => (e.1, e.2.toDocument) := by
  induction members with
  | nil => rfl
  | cons e xs ih => rw [toDocumentMembers, ih, List.map_cons]

theorem asWritten?_toDocument (value : Json) : value.toDocument.asWritten? = some value := by
  induction value using parts_induction with
  | arr items ih =>
      rw [toDocument, toDocumentItems_eq_map, Document.asWritten?,
        Document.itemsAsWritten?_eq_mapM, Document.mapM_map_eq_some ih]
      rfl
  | obj members ih =>
      have hmembers : (members.map fun e => (e.1, e.2.toDocument)).mapM
          (fun e => e.2.asWritten?.map fun value => (e.1, value)) = some members := by
        apply Document.mapM_map_eq_some
        intro e he
        rw [ih e he]
        rfl
      rw [toDocument, toDocumentMembers_eq_map, Document.asWritten?,
        Document.membersAsWritten?_eq_mapM, hmembers]
      rfl
  | _ => rfl

theorem value?_toDocument {value : Json} (h : value.normalize = value) :
    value.toDocument.value? = some value := by
  rw [Document.value?, asWritten?_toDocument, Option.map_some, h]

end Json

/-! ## Values of parsed documents -/

namespace Document

/-- What a document at a level of nesting is like that was parsed: its integers have 64
bits, and no list or object in it is as deep as the limit. -/
inductive Fits : Nat → Document → Prop
  | null (level : Nat) : Fits level null
  | bool (level : Nat) (value : Bool) : Fits level (bool value)
  | int (level : Nat) {value : Int} (h : (Json.int value).InRange) : Fits level (int value)
  | float (level : Nat) (value : Double) : Fits level (float value)
  | str (level : Nat) (value : String) : Fits level (str value)
  | arr {level : Nat} {items : List Document} (hlevel : level + 1 < depthLimit)
    (hitems : ∀ x ∈ items, Fits (level + 1) x) : Fits level (arr items)
  | obj {level : Nat} {members : List (String × Document)} (hlevel : level + 1 < depthLimit)
    (hmembers : ∀ e ∈ members, Fits (level + 1) e.2) : Fits level (obj members)
  | unreadable (level : Nat) : Fits level unreadable

theorem significand_lt (count : Nat) (digits : List Char) {n : Nat}
    (h : n < 0x10000000000000000) : (significand n count digits).1 < 0x10000000000000000 := by
  induction digits generalizing n count with
  | nil => exact h
  | cons c rest ih =>
      rw [significand]
      split
      · rename_i hnext
        exact ih (count + 1) hnext
      · exact h

theorem fits_scaled (level : Nat) (negative : Bool) (significand : Nat) (exponent : Int) :
    Fits level (((scaleDouble negative significand exponent).map .float).getD .unreadable) := by
  cases scaleDouble negative significand exponent with
  | none => exact .unreadable level
  | some d => exact .float level d

theorem fits_number (level : Nat) (negative : Bool) (whole : List Char)
    (places : Option (List Char)) (exponent : Option Int) :
    Fits level (number negative whole places exponent) := by
  have hlt := significand_lt 0 whole (n := 0) (by decide)
  unfold number
  dsimp only
  split
  · split
    · apply Fits.int
      exact ⟨by omega, by omega⟩
    · split
      · exact .float _ _
      · apply Fits.int
        exact ⟨by omega, by omega⟩
  · split
    · exact fits_scaled _ _ _ _
    · split
      · exact .unreadable _
      · split
        · exact .float _ _
        · exact fits_scaled _ _ _ _

theorem kept_fits : Kept Fits where
  null := .null
  bool := .bool
  str := .str
  unreadable := .unreadable
  number := fits_number
  arr := .arr
  obj := .obj

theorem Fits.part {level : Nat} {part document : Document} (h : Fits level document)
    (hpart : Part part document) : level + 1 < depthLimit ∧ Fits (level + 1) part := by
  cases hpart with
  | item hitem =>
      cases h with
      | arr hlevel hitems => exact ⟨hlevel, hitems _ hitem⟩
  | member hmember =>
      cases h with
      | obj hlevel hmembers => exact ⟨hlevel, hmembers _ hmember⟩

/-- A parsed document that is not too deep itself. -/
structure Nested (level : Nat) (document : Document) : Prop where
  level_lt : level < depthLimit
  fits : Fits level document

theorem nested_of_parse? {bytes : List UInt8} {document : Document}
    (h : parse? bytes = some document) : Nested 0 document :=
  ⟨by decide, kept_fits.of_parse? h⟩

namespace Nested

variable {level : Nat} {document : Document}

theorem part {part : Document} (h : Nested level document) (hpart : Part part document) :
    Nested (level + 1) part :=
  ⟨(h.fits.part hpart).1, (h.fits.part hpart).2⟩

theorem asWritten {value : Json} (h : Nested level document)
    (hvalue : document.asWritten? = some value) :
    value.Numbers Json.InRange ∧ value.Under level := by
  obtain ⟨hlevel, hfits⟩ := h
  induction hfits generalizing value with
  | arr hnext _ ih =>
      simp only [asWritten?, Option.map_eq_some_iff] at hvalue
      obtain ⟨values, hvalues, rfl⟩ := hvalue
      rw [Json.numbers_arr_iff, Json.under_arr_iff]
      refine ⟨fun v hv => ?_, hnext, fun v hv => ?_⟩
      all_goals
        obtain ⟨x, hx, hread⟩ := exists_of_mem_itemsAsWritten? hvalues hv
      · exact (ih x hx hread hnext).1
      · exact (ih x hx hread hnext).2
  | obj hnext _ ih =>
      simp only [asWritten?, Option.map_eq_some_iff] at hvalue
      obtain ⟨values, hvalues, rfl⟩ := hvalue
      rw [Json.numbers_obj_iff, Json.under_obj_iff]
      refine ⟨fun v hv => ?_, hnext, fun v hv => ?_⟩
      all_goals
        obtain ⟨e, he, hread⟩ := exists_of_mem_membersAsWritten? hvalues hv
      · exact (ih e he hread hnext).1
      · exact (ih e he hread hnext).2
  | unreadable => simp [asWritten?] at hvalue
  | int _ hrange =>
      simp only [asWritten?, Option.some.injEq] at hvalue
      rw [← hvalue]
      exact ⟨.int hrange, hlevel⟩
  | float =>
      simp only [asWritten?, Option.some.injEq] at hvalue
      rw [← hvalue]
      exact ⟨.float trivial, hlevel⟩
  | null | bool | str =>
      simp only [asWritten?, Option.some.injEq] at hvalue
      rw [← hvalue]
      exact ⟨by constructor, hlevel⟩

theorem value {value : Json} (h : Nested level document)
    (hvalue : document.value? = some value) :
    (value.Numbers Json.InRange ∧ value.normalize = value) ∧ value.Under level := by
  obtain ⟨written, hwritten, rfl⟩ := Option.map_eq_some_iff.mp hvalue
  obtain ⟨hnumbers, hunder⟩ := h.asWritten hwritten
  refine ⟨⟨Json.numbers_normalize hnumbers, Json.normalize_normalize written⟩, ?_⟩
  exact Nat.lt_of_le_of_lt (Nat.add_le_add_left (Json.depth_normalize written) level) hunder

end Nested

end Document
end LiveConfig
