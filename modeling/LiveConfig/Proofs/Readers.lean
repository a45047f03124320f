import LiveConfig.Wire.Record

/-!
# What the parser and the readers of records keep

A property of documents that holds of everything the parser makes directly, and of lists
and objects whose parts have it one level further down, holds of every parsed document
(`Document.Kept.of_parse?`).  The readers of records read fields, members and items, which
are parts of the document (`Document.Part`), so what is true of the parts and carried over
by the reader of a field is true of what is read.
-/

namespace LiveConfig
namespace Document

/-! ## The parser -/

/-- The property of documents by their level of nesting that every parsed document has,
if the parser makes no document without it. -/
structure Kept (P : Nat → Document → Prop) : Prop where
  null (level : Nat) : P level null
  bool (level : Nat) (value : Bool) : P level (bool value)
  str (level : Nat) (value : String) : P level (str value)
  unreadable (level : Nat) : P level unreadable
  number (level : Nat) (negative : Bool) (whole : List Char) (places : Option (List Char))
    (exponent : Option Int) : P level (number negative whole places exponent)
  arr {level : Nat} {items : List Document} (hlevel : level + 1 < depthLimit)
    (hitems : ∀ x ∈ items, P (level + 1) x) : P level (arr items)
  obj {level : Nat} {members : List (String × Document)} (hlevel : level + 1 < depthLimit)
    (hmembers : ∀ e ∈ members, P (level + 1) e.2) : P level (obj members)

namespace Kept

variable {P : Nat → Document → Prop}

theorem of_parseNumber (hP : Kept P) {negative : Bool} {input rest : List UInt8}
    {document : Document} (h : parseNumber negative input = some (document, rest)) (level : Nat) :
    P level document := by
  have hnumber : ∀ {whole places exponent left},
      some (Document.number negative whole places exponent, left) = some (document, rest) →
        P level document := by
    intro whole places exponent left heq
    simp only [Option.some.injEq, Prod.mk.injEq] at heq
    rw [← heq.1]
    exact hP.number _ _ _ _ _
  unfold parseNumber at h
  dsimp only at h
  repeat' split at h
  -- every branch either fails or answers one `number`
  all_goals first | exact hnumber h | simp at h

theorem of_word {text : String} {document result : Document} {input rest : List UInt8}
    {level : Nat} (hdocument : P level document)
    (h : word text document input = some (result, rest)) : P level result := by
  unfold word at h
  dsimp only at h
  split at h
  · simp only [Option.some.injEq, Prod.mk.injEq] at h
    exact h.1 ▸ hdocument
  · simp at h

/-- What is read with some fuel has the property, if what was read before has it. -/
structure Within (P : Nat → Document → Prop) (fuel : Nat) : Prop where
  value : ∀ {level input document rest},
    parseValue fuel level input = some (document, rest) → P level document
  items : ∀ {level done input items rest}, (∀ x ∈ done, P level x) →
    parseItems fuel level done input = some (items, rest) → ∀ x ∈ items, P level x
  members : ∀ {level done readable input members readable' rest},
    (∀ e ∈ done, P level e.2) →
    parseMembers fuel level done readable input = some (members, readable', rest) →
    ∀ e ∈ members, P level e.2

section Fuel

variable {fuel level : Nat} {input rest : List UInt8}

theorem value_succ (hP : Kept P) (hfuel : Within P fuel) {document : Document}
    (h : parseValue (fuel + 1) level input = some (document, rest)) : P level document := by
  unfold parseValue at h
  split at h
  · exact of_word (hP.null _) h
  · exact of_word (hP.bool _ true) h
  · exact of_word (hP.bool _ false) h
  · obtain ⟨⟨text, after⟩, _, heq⟩ := Option.map_eq_some_iff.mp h
    simp only [Prod.mk.injEq] at heq
    rw [← heq.1]
    cases text with
    | none => exact hP.unreadable _
    | some text => exact hP.str _ text
  · exact hP.of_parseNumber h _
  · split at h
    · simp only [Option.some.injEq, Prod.mk.injEq] at h
      rw [← h.1]
      split
      · rename_i hlevel
        exact hP.arr hlevel (by simp)
      · exact hP.unreadable _
    · split at h
      · simp at h
      · rename_i items after hitems
        simp only [Option.some.injEq, Prod.mk.injEq] at h
        rw [← h.1]
        split
        · rename_i hlevel
          exact hP.arr hlevel (hfuel.items (by simp) hitems)
        · exact hP.unreadable _
  · split at h
    · simp only [Option.some.injEq, Prod.mk.injEq] at h
      rw [← h.1]
      split
      · rename_i hlevel
        exact hP.obj hlevel (by simp)
      · exact hP.unreadable _
    · split at h
      · simp at h
      · rename_i members readable after hmembers
        simp only [Option.some.injEq, Prod.mk.injEq] at h
        rw [← h.1]
        split
        · rename_i hlevel
          exact hP.obj hlevel.1 (hfuel.members (by simp) hmembers)
        · exact hP.unreadable _
  · split at h
    · exact hP.of_parseNumber h _
    · simp at h
  · simp at h

theorem items_succ (hfuel : Within P fuel) {done items : List Document}
    (hdone : ∀ x ∈ done, P level x)
    (h : parseItems (fuel + 1) level done input = some (items, rest)) :
    ∀ x ∈ items, P level x := by
  unfold parseItems at h
  split at h
  · simp at h
  · rename_i item after hitem
    have hall : ∀ x ∈ item :: done, P level x :=
      List.forall_mem_cons.mpr ⟨hfuel.value hitem, hdone⟩
    split at h
    · exact hfuel.items hall h
    · simp only [Option.some.injEq, Prod.mk.injEq] at h
      rw [← h.1]
      intro x hx
      exact hall x (List.mem_reverse.mp hx)
    · simp at h

theorem members_succ (hfuel : Within P fuel) {done members : List (String × Document)}
    {readable readable' : Bool} (hdone : ∀ e ∈ done, P level e.2)
    (h : parseMembers (fuel + 1) level done readable input = some (members, readable', rest)) :
    ∀ e ∈ members, P level e.2 := by
  unfold parseMembers at h
  split at h
  · split at h
    · simp at h
    · split at h
      · split at h
        · simp at h
        · rename_i item after hitem
          have hall : ∀ key, ∀ e ∈ (key, item) :: done, P level e.2 := fun key =>
            List.forall_mem_cons.mpr ⟨hfuel.value hitem, hdone⟩
          dsimp only at h
          split at h
          · exact hfuel.members (hall _) h
          · simp only [Option.some.injEq, Prod.mk.injEq] at h
            rw [← h.1]
            intro e he
            exact hall _ e (List.mem_reverse.mp he)
          · simp at h
      · simp at h
  · simp at h

end Fuel

theorem within (hP : Kept P) (fuel : Nat) : Within P fuel := by
  induction fuel with
  | zero =>
      constructor
      · intro level input document rest h
        simp [parseValue] at h
      · intro level done input items rest _ h
        simp [parseItems] at h
      · intro level done readable input members readable' rest _ h
        simp [parseMembers] at h
  | succ fuel ih => exact ⟨hP.value_succ ih, items_succ ih, members_succ ih⟩

theorem of_parse? (hP : Kept P) {input : List UInt8} {document : Document}
    (h : parse? input = some document) : P 0 document := by
  unfold parse? at h
  split at h
  · simp at h
  · rename_i result rest hvalue
    split at h
    · simp only [Option.some.injEq] at h
      rw [← h]
      exact (hP.within _).value hvalue
    · simp at h

end Kept

/-! ## The readers of records -/

/-- The first document is an item of the second one or the content of a member of it. -/
inductive Part : Document → Document → Prop
  | item {items : List Document} {x : Document} (h : x ∈ items) : Part x (arr items)
  | member {members : List (String × Document)} {name : String} {x : Document}
      (h : (name, x) ∈ members) : Part x (obj members)

theorem part_of_lookup {members : List (String × Document)} {name : String}
    {content : Document} (h : members.lookup name = some content) : Part content (obj members) := by
  obtain ⟨before, after, hsplit, -⟩ := List.lookup_eq_some_iff.mp h
  have hmem : (name, content) ∈ members := by simp [hsplit]
  exact .member hmem

theorem part_of_field {names : List String} {document : Document}
    {fields : List (Option Document)} (hfields : document.fields? names = some fields) :
    ∀ field ∈ fields, ∀ d ∈ field, Part d document := by
  unfold fields? at hfields
  split at hfields
  · split at hfields
    · simp only [Option.some.injEq] at hfields
      rw [← hfields]
      intro field hfield d hd
      obtain ⟨name, _, rfl⟩ := List.mem_map.mp hfield
      exact part_of_lookup hd
    · simp at hfields
  · split at hfields
    · simp only [Option.some.injEq] at hfields
      rw [← hfields]
      intro field hfield d hd
      rcases List.mem_append.mp hfield with hitem | hmissing
      · obtain ⟨item, hmem, rfl⟩ := List.mem_map.mp hitem
        simp only [Option.mem_some_iff] at hd
        exact hd ▸ .item hmem
      · rw [List.eq_of_mem_replicate hmissing] at hd
        simp at hd
    · simp at hfields
  · simp at hfields

theorem part_of_member {name : String} {document content : Document}
    (hmember : document.member? name = some content) : Part content document := by
  unfold member? at hmember
  split at hmember
  · split at hmember
    · exact part_of_lookup hmember
    · simp at hmember
  · simp at hmember

theorem part_of_choice {name : String} {document content : Document}
    (hchoice : document.choice? = some (name, some content)) : Part content document := by
  unfold choice? at hchoice
  split at hchoice
  · simp at hchoice
  · simp only [Option.some.injEq, Prod.mk.injEq] at hchoice
    rw [← hchoice.2]
    exact .member (List.mem_singleton_self _)
  · simp at hchoice

theorem exists_of_mem_mapM {read : α → Option β} {xs : List α} {ys : List β} {y : β}
    (h : xs.mapM read = some ys) (hy : y ∈ ys) : ∃ x ∈ xs, read x = some y := by
  induction xs generalizing ys with
  | nil =>
      simp only [List.mapM_nil, Option.pure_def, Option.some.injEq] at h
      simp [← h] at hy
  | cons x xs ih =>
      simp only [List.mapM_cons, Option.bind_eq_bind, Option.pure_def, Option.bind_eq_some_iff,
        Option.some.injEq] at h
      obtain ⟨first, hfirst, rest, hrest, rfl⟩ := h
      rcases List.mem_cons.mp hy with rfl | hy
      · exact ⟨x, by simp, hfirst⟩
      · obtain ⟨x', hx', hread⟩ := ih hrest hy
        exact ⟨x', by simp [hx'], hread⟩

theorem exists_of_mapM {read : α → Option β} {xs : List α} {ys : List β} {x : α}
    (h : xs.mapM read = some ys) (hx : x ∈ xs) : ∃ y ∈ ys, read x = some y := by
  induction xs generalizing ys with
  | nil => simp at hx
  | cons first xs ih =>
      simp only [List.mapM_cons, Option.bind_eq_bind, Option.pure_def, Option.bind_eq_some_iff,
        Option.some.injEq] at h
      obtain ⟨y, hfirst, rest, hrest, rfl⟩ := h
      rcases List.mem_cons.mp hx with rfl | hx
      · exact ⟨y, by simp, hfirst⟩
      · obtain ⟨z, hz, hread⟩ := ih hrest hx
        exact ⟨z, by simp [hz], hread⟩

theorem map_eq_of_mapM {read : α → Option β} {f : β → γ} {g : α → γ} {xs : List α} {ys : List β}
    (h : xs.mapM read = some ys) (hread : ∀ x ∈ xs, ∀ {y}, read x = some y → f y = g x) :
    ys.map f = xs.map g := by
  induction xs generalizing ys with
  | nil =>
      simp only [List.mapM_nil, Option.pure_def, Option.some.injEq] at h
      rw [← h, List.map_nil, List.map_nil]
  | cons x xs ih =>
      simp only [List.mapM_cons, Option.bind_eq_bind, Option.pure_def, Option.bind_eq_some_iff,
        Option.some.injEq] at h
      obtain ⟨y, hfirst, rest, hrest, rfl⟩ := h
      rw [List.forall_mem_cons] at hread
      rw [List.map_cons, List.map_cons, hread.1 hfirst, ih hrest hread.2]

theorem mapM_map_eq_some {read : β → Option α} {write : α → β} {xs : List α}
    (h : ∀ x ∈ xs, read (write x) = some x) : (xs.map write).mapM read = some xs := by
  induction xs with
  | nil => rfl
  | cons x xs ih =>
      rw [List.forall_mem_cons] at h
      rw [List.map_cons, List.mapM_cons, h.1, ih h.2]
      rfl

theorem mapM_map_congr {f : α → α} {read : α → Option β} {xs : List α}
    (h : ∀ x ∈ xs, read (f x) = read x) : (xs.map f).mapM read = xs.mapM read := by
  induction xs with
  | nil => rfl
  | cons x xs ih =>
      rw [List.forall_mem_cons] at h
      rw [List.map_cons, List.mapM_cons, List.mapM_cons, h.1, ih h.2]

section Carried

/- A reader that carries a property of documents over to what it reads. -/
variable {C : Document → Prop} {read : Document → Option α} {p : α → Prop}

theorem of_list {document : Document} {xs : List α} (hparts : ∀ part, Part part document → C part)
    (hread : ∀ {d x}, C d → read d = some x → p x) (h : document.list? read = some xs) :
    ∀ x ∈ xs, p x := by
  unfold list? at h
  split at h
  · intro x hx
    obtain ⟨item, hitem, hx⟩ := exists_of_mem_mapM h hx
    exact hread (hparts item (.item hitem)) hx
  · simp at h

variable {field : Option Document}

theorem of_required {x : α} (hfield : ∀ d ∈ field, C d)
    (hread : ∀ {d x}, C d → read d = some x → p x) (h : required read field = some x) : p x := by
  cases field with
  | none => simp [required] at h
  | some d => exact hread (hfield d rfl) h

theorem of_defaulted {default x : α} (hfield : ∀ d ∈ field, C d) (hdefault : p default)
    (hread : ∀ {d x}, C d → read d = some x → p x)
    (h : defaulted default read field = some x) : p x := by
  cases field with
  | none =>
      simp only [defaulted, Option.some.injEq] at h
      exact h ▸ hdefault
  | some d => exact hread (hfield d rfl) h

theorem of_optional {x : Option α} (hfield : ∀ d ∈ field, C d)
    (hread : ∀ {d x}, C d → read d = some x → p x) (h : optional read field = some x) :
    ∀ y ∈ x, p y := by
  unfold optional at h
  split at h
  · simp only [Option.some.injEq] at h
    simp [← h]
  · rename_i d _
    obtain ⟨y, hy, rfl⟩ := Option.map_eq_some_iff.mp h
    intro z hz
    simp only [Option.mem_some_iff] at hz
    exact hz ▸ hread (hfield d rfl) hy
  · simp only [Option.some.injEq] at h
    simp [← h]

end Carried

/-! ## Values of documents -/

theorem itemsAsWritten?_eq_mapM (items : List Document) :
    itemsAsWritten? items = items.mapM asWritten? := by
  induction items with
  | nil => rfl
  | cons x xs ih => rw [itemsAsWritten?, ih, List.mapM_cons]

theorem membersAsWritten?_eq_mapM (members : List (String × Document)) :
    membersAsWritten? members =
      members.mapM fun e => e.2.asWritten?.map fun value => (e.1, value) := by
  induction members with
  | nil => rfl
  | cons e members ih =>
      rw [membersAsWritten?, ih, List.mapM_cons]
      cases e.2.asWritten? <;> rfl

theorem exists_of_mem_itemsAsWritten? {items : List Document} {values : List Json} {v : Json}
    (h : itemsAsWritten? items = some values) (hv : v ∈ values) :
    ∃ x ∈ items, x.asWritten? = some v := by
  rw [itemsAsWritten?_eq_mapM] at h
  exact exists_of_mem_mapM h hv

theorem exists_of_mem_membersAsWritten? {members : List (String × Document)}
    {values : List (String × Json)} {v : String × Json}
    (h : membersAsWritten? members = some values) (hv : v ∈ values) :
    ∃ e ∈ members, e.2.asWritten? = some v.2 := by
  rw [membersAsWritten?_eq_mapM] at h
  obtain ⟨e, he, hread⟩ := exists_of_mem_mapM h hv
  obtain ⟨value, hvalue, rfl⟩ := Option.map_eq_some_iff.mp hread
  exact ⟨e, he, hvalue⟩

end Document
end LiveConfig
