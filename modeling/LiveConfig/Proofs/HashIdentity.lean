import LiveConfig.Proofs.ContextMerge
import LiveConfig.Rollout

/-!
# What a weighted choice sees of a context

A choice by weight hangs on one text of the context.  It is the text of the hash property,
or, in a context in which that property has no text, the fingerprint of the set
(`WeightedValues.selects_by_hash_identity`).  The fingerprint is written from the subjects
of the set, which are the key properties under lower-cased names, in the order of the names
(`ContextSet.fingerprint_eq`).  So sets with the same subjects have the same fingerprint,
however their contexts are spelled and whatever else is in them
(`ContextSet.Keyed.fingerprint_eq_of_identifies`).
-/

namespace LiveConfig

namespace ContextSet

/-! ## Fingerprints -/

/-- Whether a context of the set, by its lower-cased name, has this value as its key. -/
def Identifies (set : ContextSet) (name : String) (value : Value) : Prop :=
  ∃ context ∈ set.toList, Unicode.lower context.name = name ∧
    context.get? Context.keyProperty = some value

/-- The key properties of the contexts that have one, in the order of lower-cased names. -/
def subjects (set : ContextSet) : List (String × Value) :=
  set.contexts.entries.filterMap fun e =>
    (e.2.get? Context.keyProperty).map fun value => (e.1, value)

theorem fingerprint_eq (set : ContextSet) :
    set.fingerprint =
      String.join (set.subjects.map fun e => e.1 ++ "--" ++ e.2.fingerprint) := by
  unfold fingerprint subjects
  dsimp only
  induction set.contexts.entries with
  | nil => rfl
  | cons e rest ih =>
      rw [List.map_cons, String.join_cons, ih, List.filterMap_cons]
      cases e.2.get? Context.keyProperty with
      | none => simp
      | some value => simp

theorem subjects_increasing (set : ContextSet) :
    set.subjects.Pairwise fun a b => a.1 < b.1 := by
  apply set.contexts.increasing.filterMap
  intro e e' hlt subject hsubject subject' hsubject'
  obtain ⟨value, -, rfl⟩ := Option.map_eq_some_iff.mp hsubject
  obtain ⟨value', -, rfl⟩ := Option.map_eq_some_iff.mp hsubject'
  exact hlt

theorem mem_subjects_iff (set : ContextSet) (name : String) (value : Value) :
    (name, value) ∈ set.subjects ↔ ∃ context, set.contexts.get? name = some context ∧
      context.get? Context.keyProperty = some value := by
  simp only [subjects, List.mem_filterMap, Option.map_eq_some_iff, Prod.exists, Prod.mk.injEq,
    KeyMap.mem_entries_iff]
  constructor
  · rintro ⟨key, context, hget, found, hkey, rfl, rfl⟩
    exact ⟨context, hget, hkey⟩
  · rintro ⟨context, hget, hkey⟩
    exact ⟨name, context, hget, value, hkey, rfl, rfl⟩

theorem Keyed.mem_subjects_iff {set : ContextSet} (h : set.Keyed) (name : String)
    (value : Value) : (name, value) ∈ set.subjects ↔ set.Identifies name value := by
  rw [ContextSet.mem_subjects_iff]
  constructor
  · rintro ⟨context, hget, hkey⟩
    exact ⟨context, (mem_toList_iff set context).mpr ⟨name, hget⟩, (h name context hget).symm, hkey⟩
  · rintro ⟨context, hmem, rfl, hkey⟩
    exact ⟨context, (h.get?_eq_some_iff context).mpr hmem, hkey⟩

theorem Keyed.fingerprint_eq_of_identifies {a b : ContextSet} (ha : a.Keyed) (hb : b.Keyed)
    (h : ∀ name value, a.Identifies name value ↔ b.Identifies name value) :
    a.fingerprint = b.fingerprint := by
  have hsubjects : a.subjects = b.subjects := by
    apply KeyMap.eq_of_mem_iff a.subjects_increasing b.subjects_increasing
    intro name value
    rw [ha.mem_subjects_iff, hb.mem_subjects_iff]
    exact h name value
  rw [fingerprint_eq, fingerprint_eq, hsubjects]

end ContextSet

theorem Value.matchText?_eq_none_iff (value : Value) :
    value.matchText? = none ↔ value.type = .stringList ∨ value.type = .json := by
  cases value <;> simp [matchText?, type]

namespace WeightedValues

variable {values : WeightedValues} {context a b : ContextSet} {text : String}

/-! ## The text that a choice hangs on -/

/-- Whether the hash property has this text in a context. -/
def HashText (values : WeightedValues) (context : ContextSet) (text : String) : Prop :=
  ∃ property value, values.hashBy = some property ∧ context.lookup? property = some value ∧
    value.matchText? = some text

/-- Why the hash property has no text in a context. -/
inductive Unhashed (values : WeightedValues) (context : ContextSet) : Prop
  | unconfigured (h : values.hashBy = none)
  | absent {property : String} (hproperty : values.hashBy = some property)
      (h : context.lookup? property = none)
  | notScalar {property : String} {value : Value} (hproperty : values.hashBy = some property)
      (hvalue : context.lookup? property = some value)
      (h : value.type = .stringList ∨ value.type = .json)

theorem hashText_iff : values.HashText context text ↔
    (values.hashBy.bind context.lookup?).bind Value.matchText? = some text := by
  simp only [HashText, Option.bind_eq_some_iff]
  constructor
  · rintro ⟨property, value, hproperty, hvalue, htext⟩
    exact ⟨value, ⟨property, hproperty, hvalue⟩, htext⟩
  · rintro ⟨value, ⟨property, hproperty, hvalue⟩, htext⟩
    exact ⟨property, value, hproperty, hvalue, htext⟩

theorem unhashed_iff : values.Unhashed context ↔
    (values.hashBy.bind context.lookup?).bind Value.matchText? = none := by
  constructor
  · intro h
    cases h with
    | unconfigured h => simp [h]
    | absent hproperty h => simp [hproperty, h]
    | notScalar hproperty hvalue h =>
        simpa [hproperty, hvalue] using (Value.matchText?_eq_none_iff _).mpr h
  · intro h
    cases hproperty : values.hashBy with
    | none => exact .unconfigured hproperty
    | some property =>
        cases hvalue : context.lookup? property with
        | none => exact .absent hproperty hvalue
        | some value =>
            rw [hproperty, Option.bind_some, hvalue, Option.bind_some,
              Value.matchText?_eq_none_iff] at h
            exact .notScalar hproperty hvalue h

theorem hashIdentity_of_hashText (h : values.HashText context text) :
    values.hashIdentity context = text := by
  rw [hashIdentity, hashText_iff.mp h]

theorem hashIdentity_of_unhashed (h : values.Unhashed context) :
    values.hashIdentity context = context.fingerprint := by
  rw [hashIdentity, unhashed_iff.mp h]

theorem unhashed_iff_forall_not_hashText :
    values.Unhashed context ↔ ∀ text, ¬ values.HashText context text := by
  simp only [unhashed_iff, hashText_iff, Option.eq_none_iff_forall_ne_some]

theorem select?_congr (h : values.hashIdentity a = values.hashIdentity b) (key : String) :
    values.select? key a = values.select? key b := by
  rw [select?, select?, h]

/-- Two contexts in which the hash property has the same text have the same choice, and so
have two contexts in which it has none, if their fingerprints are the same.  These are all
contexts.  Sets that can be built have the same fingerprint if the same names up to case
have the same keys in them. -/
theorem selects_by_hash_identity :
    (∀ (values : WeightedValues) (key text : String) (a b : ContextSet),
      values.HashText a text → values.HashText b text →
        values.select? key a = values.select? key b) ∧
    (∀ (values : WeightedValues) (key : String) (a b : ContextSet),
      values.Unhashed a → values.Unhashed b → a.fingerprint = b.fingerprint →
        values.select? key a = values.select? key b) ∧
    (∀ (values : WeightedValues) (context : ContextSet),
      values.Unhashed context ↔ ∀ text, ¬ values.HashText context text) ∧
    ∀ a b : ContextSet, a.Built → b.Built →
      (∀ name value, a.Identifies name value ↔ b.Identifies name value) →
        a.fingerprint = b.fingerprint := by
  refine ⟨?_, ?_, fun values context => unhashed_iff_forall_not_hashText, ?_⟩
  · intro values key text a b ha hb
    apply select?_congr
    rw [hashIdentity_of_hashText ha, hashIdentity_of_hashText hb]
  · intro values key a b ha hb hfingerprint
    apply select?_congr
    rw [hashIdentity_of_unhashed ha, hashIdentity_of_unhashed hb, hfingerprint]
  · intro a b ha hb h
    exact ha.keyed.fingerprint_eq_of_identifies hb.keyed h

/-- Two values that are drawn by a property. -/
def drawnBy (property : String) : WeightedValues :=
  ⟨[⟨1, .bool true⟩, ⟨1, .bool false⟩], some property⟩

def numbered (name : String) : Context := (Context.empty name).set "key" (.int 42)

/-- A user with a number for a key. -/
def byNumber : ContextSet := .add .empty (numbered "user")

/-- A user with the digits of that number for a key, and with a plan. -/
def byDigits : ContextSet :=
  .add .empty (((Context.empty "user").set "key" (.string "42")).set "plan" (.string "pro"))

/-- The first user, spelled in another way, on a device that has no key. -/
def onDevice : ContextSet :=
  (ContextSet.empty.add (numbered "USER")).add
    ((Context.empty "device").set "os" (.string "linux"))

theorem built_byNumber : byNumber.Built :=
  .add .empty ((Context.all_empty "user").set trivial)

theorem built_onDevice : onDevice.Built := by
  apply ContextSet.Built.add
  · exact .add .empty ((Context.all_empty "USER").set trivial)
  · exact (Context.all_empty "device").set trivial

theorem identifies_onDevice_iff (name : String) (value : Value) :
    byNumber.Identifies name value ↔ onDevice.Identifies name value := by
  have hnumber : byNumber.toList = [numbered "user"] := rfl
  have hdevice : onDevice.toList =
      [(Context.empty "device").set "os" (.string "linux"), numbered "USER"] := rfl
  have huser : Unicode.lower "user" = "user" := by decide +kernel
  have hupper : Unicode.lower "USER" = "user" := by decide +kernel
  have hkeyless : ((Context.empty "device").set "os" (.string "linux")).get?
      Context.keyProperty = none := rfl
  have hkeys : (numbered "user").get? Context.keyProperty =
      (numbered "USER").get? Context.keyProperty := rfl
  have hnames : (numbered "user").name = "user" ∧ (numbered "USER").name = "USER" := ⟨rfl, rfl⟩
  simp [ContextSet.Identifies, hnumber, hdevice, hkeyless, hnames, huser, hupper, hkeys]

theorem selects_by_hash_identity_users :
    (drawnBy "user.key").HashText byNumber "42" ∧ (drawnBy "user.key").HashText byDigits "42" ∧
    (drawnBy "user.key").select? "flag" byNumber = (drawnBy "user.key").select? "flag" byDigits ∧
    (drawnBy "user.plan").Unhashed byNumber ∧ (drawnBy "user.plan").Unhashed onDevice ∧
    byNumber.fingerprint = onDevice.fingerprint ∧
    (drawnBy "user.plan").select? "flag" byNumber =
      (drawnBy "user.plan").select? "flag" onDevice := by
  obtain ⟨hsame, hunhashed, -, hfingerprints⟩ := selects_by_hash_identity
  have hnumber : (drawnBy "user.key").HashText byNumber "42" :=
    ⟨"user.key", .int 42, rfl, rfl, rfl⟩
  have hdigits : (drawnBy "user.key").HashText byDigits "42" :=
    ⟨"user.key", .string "42", rfl, rfl, rfl⟩
  have habsent : (drawnBy "user.plan").Unhashed byNumber := .absent rfl rfl
  have habsent' : (drawnBy "user.plan").Unhashed onDevice := .absent rfl rfl
  have hfingerprint :=
    hfingerprints byNumber onDevice built_byNumber built_onDevice identifies_onDevice_iff
  exact ⟨hnumber, hdigits, hsame _ "flag" "42" _ _ hnumber hdigits, habsent, habsent',
    hfingerprint, hunhashed _ "flag" _ _ habsent habsent' hfingerprint⟩

end WeightedValues
end LiveConfig
