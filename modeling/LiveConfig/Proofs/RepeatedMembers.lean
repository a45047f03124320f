import LiveConfig.Proofs.ConfigRecords

/-!
# Documents with repeated members

What could not be read in a batch is kept as JSON, in which each object has the last of
its members of a name, in key order.  As a document again that is the settled form of what
was written (`Document.toDocument_of_value?`).  Where no object repeats a member, the
settled form differs in the order of members only, and a configuration is read from it as
from the document itself (`Config.settles_ofDocument?`).  A reader of records refuses a
repeated member, so with one the two can differ.
-/

namespace LiveConfig
namespace Document

/-- Induction whose hypotheses are about the items of a list and the contents of an
object. -/
theorem parts_induction {P : Document → Prop} (null : P null) (bool : ∀ b, P (bool b))
    (int : ∀ i, P (int i)) (float : ∀ d, P (float d)) (str : ∀ s, P (str s))
    (arr : ∀ items, (∀ x ∈ items, P x) → P (arr items))
    (obj : ∀ members, (∀ e ∈ members, P e.2) → P (obj members)) (unreadable : P unreadable)
    (document : Document) : P document := by
  refine @Document.rec P (fun items => ∀ x ∈ items, P x) (fun members => ∀ e ∈ members, P e.2)
    (fun e => P e.2) null bool int float str arr obj unreadable ?_ ?_ ?_ ?_ ?_ document
  · simp
  · intro x xs hx hxs
    exact List.forall_mem_cons.mpr ⟨hx, hxs⟩
  · simp
  · intro e es he hes
    exact List.forall_mem_cons.mpr ⟨he, hes⟩
  · intro name x hx
    exact hx

/-! ## The settled form -/

mutual

/-- The document with the members of each object in key order, the last of each name. -/
def settled : Document → Document
  | arr items => arr (settledItems items)
  | obj members => obj (KeyMap.ofList (settledMembers members)).entries
  | document => document

def settledItems : List Document → List Document
  | [] => []
  | x :: xs => settled x :: settledItems xs

def settledMembers : List (String × Document) → List (String × Document)
  | [] => []
  | (k, x) :: xs => (k, settled x) :: settledMembers xs

end

theorem settledItems_eq_map (items : List Document) : settledItems items = items.map settled := by
  induction items with
  | nil => rfl
  | cons x xs ih => rw [settledItems, ih, List.map_cons]

theorem settledMembers_eq_map (members : List (String × Document)) :
    settledMembers members = members.map fun e => (e.1, e.2.settled) := by
  induction members with
  | nil => rfl
  | cons e xs ih => rw [settledMembers, ih, List.map_cons]

/-- What a document is kept as is its settled form. -/
theorem toDocument_of_asWritten? {document : Document} {written : Json}
    (h : document.asWritten? = some written) :
    written.normalize.toDocument = document.settled := by
  induction document using parts_induction generalizing written with
  | arr items ih =>
      simp only [asWritten?, Option.map_eq_some_iff] at h
      obtain ⟨values, hvalues, rfl⟩ := h
      rw [itemsAsWritten?_eq_mapM] at hvalues
      have hparts : values.map (fun v => v.normalize.toDocument) = items.map settled :=
        map_eq_of_mapM hvalues ih
      rw [Json.normalize, Json.normalizeItems_eq_map, Json.toDocument,
        Json.toDocumentItems_eq_map, List.map_map, settled, settledItems_eq_map, ← hparts]
      rfl
  | obj members ih =>
      simp only [asWritten?, Option.map_eq_some_iff] at h
      obtain ⟨values, hvalues, rfl⟩ := h
      rw [membersAsWritten?_eq_mapM] at hvalues
      have hparts : values.map (fun e => (e.1, e.2.normalize.toDocument)) =
          members.map fun e => (e.1, e.2.settled) := by
        apply map_eq_of_mapM hvalues
        intro e he v hv
        obtain ⟨value, hvalue, rfl⟩ := Option.map_eq_some_iff.mp hv
        rw [ih e he hvalue]
      have hentries := congrArg KeyMap.entries (KeyMap.mapValues_ofList
        (values.map fun e => (e.1, e.2.normalize)) Json.toDocument)
      rw [List.map_map] at hentries
      rw [Json.normalize, Json.normalizeMembers_eq_map, Json.toDocument,
        Json.toDocumentMembers_eq_map, settled, settledMembers_eq_map, ← hparts]
      exact congrArg obj hentries
  | unreadable => simp [asWritten?] at h
  | _ =>
      simp only [asWritten?, Option.some.injEq] at h
      rw [← h]
      rfl

theorem toDocument_of_value? {document : Document} {json : Json}
    (h : document.value? = some json) : json.toDocument = document.settled := by
  obtain ⟨written, hwritten, rfl⟩ := Option.map_eq_some_iff.mp h
  exact toDocument_of_asWritten? hwritten

/-! ## Documents without repeated members -/

/-- Whether no object in the document names a member twice. -/
inductive Distinct : Document → Prop
  | null : Distinct null
  | bool (value : Bool) : Distinct (bool value)
  | int (value : Int) : Distinct (int value)
  | float (value : Double) : Distinct (float value)
  | str (value : String) : Distinct (str value)
  | arr {items : List Document} (hitems : ∀ x ∈ items, Distinct x) : Distinct (arr items)
  | obj {members : List (String × Document)} (hnames : (members.map (·.1)).Nodup)
    (hmembers : ∀ e ∈ members, Distinct e.2) : Distinct (obj members)
  | unreadable : Distinct unreadable

/-- Whether every part of the document can be read and no object names a member twice. -/
structure Plain (document : Document) : Prop where
  distinct : document.Distinct
  readable : ∃ written, document.asWritten? = some written

theorem Plain.part {part document : Document} (h : document.Plain) (hpart : Part part document) :
    part.Plain := by
  obtain ⟨hdistinct, written, hwritten⟩ := h
  cases hpart with
  | item hitem =>
      simp only [asWritten?, Option.map_eq_some_iff, itemsAsWritten?_eq_mapM] at hwritten
      obtain ⟨values, hvalues, -⟩ := hwritten
      cases hdistinct with
      | arr hitems =>
          obtain ⟨value, -, hvalue⟩ := exists_of_mapM hvalues hitem
          exact ⟨hitems _ hitem, value, hvalue⟩
  | member hmember =>
      simp only [asWritten?, Option.map_eq_some_iff, membersAsWritten?_eq_mapM] at hwritten
      obtain ⟨values, hvalues, -⟩ := hwritten
      obtain ⟨e, -, he⟩ := exists_of_mapM hvalues hmember
      obtain ⟨value, hvalue, -⟩ := Option.map_eq_some_iff.mp he
      cases hdistinct with
      | obj _ hmembers => exact ⟨hmembers _ hmember, value, hvalue⟩

section Members

variable {members : List (String × Document)}

theorem get?_settledMembers (h : (members.map (·.1)).Nodup) (name : String) :
    (KeyMap.ofList (settledMembers members)).get? name =
      (members.lookup name).map settled := by
  apply KeyMap.get?_ofList_of_mem_iff
  intro content
  rw [settledMembers_eq_map, List.mem_map, Option.map_eq_some_iff]
  constructor
  · rintro ⟨e, he, heq⟩
    obtain ⟨rfl, rfl⟩ := Prod.mk.inj heq
    exact ⟨e.2, KeyMap.lookup_of_nodup h e he, rfl⟩
  · rintro ⟨part, hlookup, rfl⟩
    exact ⟨(name, part), (KeyMap.mem_iff_lookup_of_nodup h).mpr hlookup, rfl⟩

end Members

/-! ## Readers of settled documents -/

section Readers

variable {document : Document}

theorem fields?_settled (h : document.Plain) (names : List String) :
    document.settled.fields? names = (document.fields? names).map (·.map (·.map settled)) := by
  cases h.distinct with
  | obj hnames _ =>
      rw [settled, fields?_of_nodup (KeyMap.keys_nodup _), fields?_of_nodup hnames,
        Option.map_some, List.map_map]
      exact congrArg some (List.map_congr_left fun name _ => get?_settledMembers hnames name)
  | @arr items _ =>
      rw [settled, settledItems_eq_map]
      simp only [fields?, List.length_map]
      split
      · simp [Function.comp_def]
      · rfl
  | _ => rfl

theorem member?_settled (h : document.Plain) (name : String) :
    document.settled.member? name = (document.member? name).map settled := by
  cases h.distinct with
  | obj hnames _ =>
      rw [settled, member?, member?, if_pos (countP_le_one_of_nodup (KeyMap.keys_nodup _) name),
        if_pos (countP_le_one_of_nodup hnames name)]
      exact get?_settledMembers hnames name
  | _ => rfl

theorem choice?_settled (h : document.Plain) : document.settled.choice? =
    document.choice?.map fun choice => (choice.1, choice.2.map settled) := by
  cases h.distinct with
  | @obj members hnames _ =>
      match members, hnames with
      | [], _ => rfl
      | [(name, content)], _ => rfl
      | first :: second :: rest, hnames =>
          -- the two names are still there, so no single member is left
          rw [settled]
          unfold choice?
          split
          · rename_i heq
            cases heq
          · rename_i name content heq
            have hname : ∀ e ∈ first :: second :: rest, e.1 = name := by
              intro e he
              have hget := get?_settledMembers hnames e.1
              rw [KeyMap.lookup_of_nodup hnames e he, Option.map_some, ← KeyMap.mem_entries_iff,
                Document.obj.inj heq, List.mem_singleton] at hget
              exact (Prod.mk.inj hget).1
            have hsame := (hname first (by simp)).trans (hname second (by simp)).symm
            simp [hsame] at hnames
          · rfl
  | _ => rfl

/-- Whether the reader takes a document and its settled form for the same. -/
def Settles (read : Document → Option α) : Prop :=
  ∀ document : Document, document.Plain → read document.settled = read document

theorem settles_text? : Settles text? := by
  intro document _
  cases document <;> rfl

theorem settles_int? : Settles int? := by
  intro document _
  cases document <;> rfl

theorem settles_bool? : Settles bool? := by
  intro document _
  cases document <;> rfl

theorem settles_double? : Settles double? := by
  intro document _
  cases document <;> rfl

theorem settles_natBelow? (bound : Nat) : Settles (natBelow? bound) := by
  intro document _
  cases document <;> rfl

theorem settles_plainChoice? : Settles plainChoice? := by
  intro document h
  unfold plainChoice?
  rw [choice?_settled h]
  rcases document.choice? with _ | ⟨name, _ | content⟩
  · rfl
  · rfl
  · rw [Option.map_some, Option.map_some]
    cases content <;> rfl

theorem settles_value? : Settles value? := by
  intro document h
  obtain ⟨written, hwritten⟩ := h.readable
  rw [value?, value?, ← toDocument_of_asWritten? hwritten, Json.asWritten?_toDocument, hwritten,
    Option.map_some, Option.map_some, Json.normalize_normalize]

variable {read : Document → Option α}

theorem Settles.list (hread : Settles read) : Settles (list? read) := by
  intro document h
  cases document with
  | arr items =>
      have hitems : ∀ x ∈ items, read x.settled = read x := fun x hx => hread x (h.part (.item hx))
      rw [settled, settledItems_eq_map, list?, list?, mapM_map_congr hitems]
  | _ => rfl

section Field

variable {field : Option Document}

theorem Settles.required (hread : Settles read) (hfield : ∀ d ∈ field, d.Plain) :
    Document.required read (field.map settled) = Document.required read field := by
  cases field with
  | none => rfl
  | some d => exact hread d (hfield d rfl)

theorem Settles.defaulted (hread : Settles read) (default : α) (hfield : ∀ d ∈ field, d.Plain) :
    Document.defaulted default read (field.map settled) =
      Document.defaulted default read field := by
  cases field with
  | none => rfl
  | some d => exact hread d (hfield d rfl)

theorem Settles.optional (hread : Settles read) (hfield : ∀ d ∈ field, d.Plain) :
    Document.optional read (field.map settled) = Document.optional read field := by
  cases field with
  | none => rfl
  | some d =>
      have hd := hread d (hfield d rfl)
      cases d with
      | null => rfl
      | _ => exact congrArg (Option.map some) hd

end Field

/-- A reader of a record settles if what is made of its fields does. -/
theorem Settles.record {names : List String} {build : List (Option Document) → Option α}
    (hread : ∀ d, read d = (d.fields? names).bind build)
    (hbuild : ∀ fields : List (Option Document), (∀ field ∈ fields, ∀ d ∈ field, d.Plain) →
      build (fields.map (·.map settled)) = build fields) : Settles read := by
  intro document h
  rw [hread, hread, fields?_settled h]
  cases hfields : document.fields? names with
  | none => rfl
  | some fields =>
      exact hbuild fields fun field hfield d hd => h.part (part_of_field hfields field hfield d hd)

end Readers

end Document

/-! ## Configurations -/

open Document

theorem LogLevel.settles_ofDocument? : Settles LogLevel.ofDocument? := fun _ h =>
  congrArg (Option.bind · LogLevel.ofName?) (settles_plainChoice? _ h)

theorem ValueType.settles_ofDocument? : Settles ValueType.ofDocument? := fun _ h =>
  congrArg (Option.bind · ValueType.ofName?) (settles_plainChoice? _ h)

theorem Operator.settles_ofName? : Settles fun d => d.plainChoice?.bind Operator.ofName? :=
  fun _ h => congrArg (Option.bind · Operator.ofName?) (settles_plainChoice? _ h)

theorem Config.settles_kindOfDocument? : Settles kindOfDocument? := fun _ h =>
  congrArg (Option.bind · ConfigKind.ofName?) (settles_plainChoice? _ h)

theorem Value.settles_ofDocument? : Settles Value.ofDocument? := by
  intro document h
  unfold ofDocument?
  rw [choice?_settled h]
  rcases hchoice : document.choice? with _ | ⟨name, _ | content⟩
  · rfl
  · rfl
  · have hcontent : content.Plain := h.part (part_of_choice hchoice)
    dsimp only [Option.map_some]
    split
    case h_9 =>
      split
      case h_9 => rfl
      all_goals simp_all
    all_goals
      rename_i heq
      cases heq
    · exact congrArg (Option.map _) (settles_bool? _ hcontent)
    · exact congrArg (Option.map _) (settles_int? _ hcontent)
    · exact congrArg (Option.map _) (settles_double? _ hcontent)
    · exact congrArg (Option.map _) (settles_text? _ hcontent)
    · exact congrArg (Option.map _) (settles_text?.list _ hcontent)
    · exact congrArg (Option.map _) (settles_natBelow? _ _ hcontent)
    · exact congrArg (Option.map _) (LogLevel.settles_ofDocument? _ hcontent)
    · exact congrArg (Option.map _) (settles_value? _ hcontent)

theorem Criterion.settles_ofDocument? : Settles Criterion.ofDocument? := by
  refine Settles.record (fun _ => rfl) fun fields hparts => ?_
  match fields, hparts with
  | [property, operator, target], hparts =>
      simp only [List.forall_mem_cons] at hparts
      obtain ⟨hproperty, hoperator, htarget, -⟩ := hparts
      simp only [List.map_cons, List.map_nil, settles_text?.optional hproperty,
        Operator.settles_ofName?.required hoperator, Value.settles_ofDocument?.optional htarget]
  | [], _ | [_], _ | [_, _], _ | _ :: _ :: _ :: _ :: _, _ => rfl

theorem WeightedValues.settles_choiceOfDocument? : Settles choiceOfDocument? := by
  refine Settles.record (fun _ => rfl) fun fields hparts => ?_
  match fields, hparts with
  | [weight, value], hparts =>
      simp only [List.forall_mem_cons] at hparts
      obtain ⟨hweight, hvalue, -⟩ := hparts
      simp only [List.map_cons, List.map_nil, (settles_natBelow? _).required hweight,
        Value.settles_ofDocument?.required hvalue]
  | [], _ | [_], _ | _ :: _ :: _ :: _, _ => rfl

theorem WeightedValues.settles_ofDocument? : Settles WeightedValues.ofDocument? := by
  refine Settles.record (fun _ => rfl) fun fields hparts => ?_
  match fields, hparts with
  | [choices, hashBy], hparts =>
      simp only [List.forall_mem_cons] at hparts
      obtain ⟨hchoices, hhashBy, -⟩ := hparts
      simp only [List.map_cons, List.map_nil, settles_choiceOfDocument?.list.required hchoices,
        settles_text?.optional hhashBy]
  | [], _ | [_], _ | _ :: _ :: _ :: _, _ => rfl

theorem ValueSource.settles_envVarOfDocument? : Settles envVarOfDocument? := by
  refine Settles.record (fun _ => rfl) fun fields hparts => ?_
  match fields, hparts with
  | [envVar], hparts =>
      simp only [List.forall_mem_cons] at hparts
      simp only [List.map_cons, List.map_nil, settles_text?.required hparts.1]
  | [], _ | _ :: _ :: _, _ => rfl

theorem ValueSource.settles_ofDocument? : Settles ValueSource.ofDocument? := by
  intro document h
  have hmember : ∀ {α : Type} (name : String) (read : Document → Option α), Settles read →
      (document.settled.member? name).bind read = (document.member? name).bind read := by
    intro α name read hread
    rw [member?_settled h]
    cases hcontent : document.member? name with
    | none => rfl
    | some content => exact hread content (h.part (part_of_member hcontent))
  unfold ofDocument?
  rw [hmember _ _ WeightedValues.settles_ofDocument?, hmember _ _ settles_envVarOfDocument?,
    Value.settles_ofDocument? document h]

theorem ConditionalValue.settles_ofDocument? : Settles ConditionalValue.ofDocument? := by
  refine Settles.record (fun _ => rfl) fun fields hparts => ?_
  match fields, hparts with
  | [criteria, source], hparts =>
      simp only [List.forall_mem_cons] at hparts
      obtain ⟨hcriteria, hsource, -⟩ := hparts
      simp only [List.map_cons, List.map_nil,
        Criterion.settles_ofDocument?.list.defaulted _ hcriteria,
        ValueSource.settles_ofDocument?.required hsource]
  | [], _ | [_], _ | _ :: _ :: _ :: _, _ => rfl

theorem Row.settles_ofDocument? : Settles Row.ofDocument? := by
  refine Settles.record (fun _ => rfl) fun fields hparts => ?_
  match fields, hparts with
  | [environment, values], hparts =>
      simp only [List.forall_mem_cons] at hparts
      obtain ⟨henvironment, hvalues, -⟩ := hparts
      simp only [List.map_cons, List.map_nil, settles_int?.optional henvironment,
        ConditionalValue.settles_ofDocument?.list.defaulted _ hvalues]
  | [], _ | [_], _ | _ :: _ :: _ :: _, _ => rfl

/-- A configuration without repeated members is read alike from what it is kept as. -/
theorem Config.settles_ofDocument? : Settles Config.ofDocument? := by
  refine Settles.record (fun _ => rfl) fun fields hparts => ?_
  match fields, hparts with
  | [id, key, rows, kind, valueType], hparts =>
      simp only [List.forall_mem_cons] at hparts
      obtain ⟨hid, hkey, hrows, hkind, hvalueType, -⟩ := hparts
      simp only [List.map_cons, List.map_nil, settles_int?.defaulted _ hid,
        settles_text?.required hkey, Row.settles_ofDocument?.list.defaulted _ hrows,
        settles_kindOfDocument?.defaulted _ hkind,
        ValueType.settles_ofDocument?.optional hvalueType]
  | [], _ | [_], _ | [_, _], _ | [_, _, _], _ | [_, _, _, _], _
  | _ :: _ :: _ :: _ :: _ :: _ :: _, _ => rfl
end LiveConfig
