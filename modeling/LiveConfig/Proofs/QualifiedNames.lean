import LiveConfig.Proofs.ContextMerge
import Mathlib.Algebra.Ring.Nat
import Mathlib.Data.List.Nodup
import Mathlib.Data.List.Pairwise
import Mathlib.Data.List.TakeWhile

/-!
# Qualified names that several contexts give

A context gives each of its properties a qualified name, and in one context no two
properties have the same (`Context.Gives.unique`).  Names of different contexts may meet,
as a dot may stand in the name of a context as well as in that of a property, and a blank
name is not written at all.  Then the context counts that comes last in the order of the
lower-cased names.  Where no names meet, every property is found under its own name
(`ContextSet.lookup?_last_given`).
-/

namespace LiveConfig

/-- Blank text is what trimming leaves nothing of. -/
theorem Text.trimChars_eq_nil_iff {text : List Char} :
    trimChars text = [] ↔ ∀ c ∈ text, isBlank c = true := by
  unfold trimChars trimEnd trimStart
  rw [List.reverse_eq_nil_iff, List.dropWhile_eq_nil_iff]
  constructor
  · intro h
    cases hrest : text.dropWhile isBlank with
    | nil => exact List.dropWhile_eq_nil_iff.mp hrest
    | cons first rest =>
        have hblank := h first (by simp [hrest])
        have hfirst := List.head?_dropWhile_not isBlank text
        simp [hrest, hblank] at hfirst
  · intro h c hc
    exact h c ((List.dropWhile_sublist isBlank).subset (List.mem_reverse.mp hc))

namespace Context

/-- The name of a property outside its context: behind the name of the context as written
and a dot, or as it is where that name is blank. -/
inductive QualifiedAs (context : Context) (property : String) : String → Prop
  | bare (hblank : ∀ c ∈ context.name.toList, isBlank c = true) :
      QualifiedAs context property property
  | dotted (hname : ∃ c ∈ context.name.toList, isBlank c = false) :
      QualifiedAs context property (context.name ++ "." ++ property)

variable {context : Context} {property name : String} {value : Value}

theorem qualifiedAs_iff : context.QualifiedAs property name ↔ context.qualify property = name := by
  unfold qualify
  by_cases hblank : ∀ c ∈ context.name.toList, isBlank c = true
  · rw [if_pos (Text.trimChars_eq_nil_iff.mpr hblank)]
    constructor
    · intro h
      cases h with
      | bare => rfl
      | dotted hname =>
          obtain ⟨c, hc, hother⟩ := hname
          simp [hblank c hc] at hother
    · rintro rfl
      exact .bare hblank
  · rw [if_neg fun hnil => hblank (Text.trimChars_eq_nil_iff.mp hnil)]
    constructor
    · intro h
      cases h with
      | bare hall => exact absurd hall hblank
      | dotted => rfl
    · rintro rfl
      exact .dotted (by simpa using hblank)

theorem qualify_injective (context : Context) : Function.Injective context.qualify := by
  intro a b h
  unfold qualify at h
  split at h
  · exact h
  · have hchars := congrArg String.toList h
    simp only [String.toList_append, List.append_cancel_left_eq] at hchars
    exact String.toList_inj.mp hchars

/-- Whether a context has a property of that value which is so named. -/
def Gives (context : Context) (name : String) (value : Value) : Prop :=
  ∃ property, context.get? property = some value ∧ context.QualifiedAs property name

theorem Gives.unique {other : Value} (h : context.Gives name value)
    (hother : context.Gives name other) : value = other := by
  obtain ⟨property, hget, hname⟩ := h
  obtain ⟨property', hget', hname'⟩ := hother
  rw [qualifiedAs_iff] at hname hname'
  have hsame : property = property' := context.qualify_injective (hname.trans hname'.symm)
  rw [hsame, hget'] at hget
  exact (Option.some.inj hget).symm

/-- The properties of a context under their qualified names. -/
def qualifiedProperties (context : Context) : List (String × Value) :=
  context.properties.entries.map fun entry => (context.qualify entry.1, entry.2)

theorem mem_qualifiedProperties_iff :
    (name, value) ∈ context.qualifiedProperties ↔ context.Gives name value := by
  simp only [qualifiedProperties, List.mem_map, Prod.exists, Prod.mk.injEq,
    KeyMap.mem_entries_iff, Gives, qualifiedAs_iff]
  constructor
  · rintro ⟨property, other, hget, hname, rfl⟩
    exact ⟨property, hget, hname⟩
  · rintro ⟨property, hget, hname⟩
    exact ⟨property, value, hget, hname, rfl⟩

theorem nodup_qualifiedProperties (context : Context) :
    (context.qualifiedProperties.map (·.1)).Nodup := by
  have hkeys := context.properties.keys_nodup.map context.qualify_injective
  rw [KeyMap.keys, List.map_map] at hkeys
  rwa [qualifiedProperties, List.map_map]

/-- The value that a context gives to a qualified name. -/
def given? (context : Context) (name : String) : Option Value :=
  (KeyMap.ofList context.qualifiedProperties).get? name

theorem given?_eq_some_iff : context.given? name = some value ↔ context.Gives name value := by
  rw [given?, KeyMap.get?_ofList_of_nodup context.nodup_qualifiedProperties,
    mem_qualifiedProperties_iff]

theorem given?_eq_none_iff : context.given? name = none ↔ ∀ value, ¬ context.Gives name value := by
  simp only [Option.eq_none_iff_forall_ne_some, ne_eq, given?_eq_some_iff]

end Context

namespace ContextSet

variable {set : ContextSet} {name : String} {value : Value}

theorem Keyed.increasing_toList (h : set.Keyed) :
    set.toList.Pairwise fun a b => Unicode.lower a.name < Unicode.lower b.name := by
  rw [toList, KeyMap.values, List.pairwise_map]
  refine set.contexts.increasing.imp_of_mem ?_
  intro a b ha hb hlt
  rw [KeyMap.mem_entries_iff] at ha hb
  rw [← h a.1 a.2 ha, ← h b.1 b.2 hb]
  exact hlt

theorem qualifiedEntries_eq (set : ContextSet) :
    set.qualifiedEntries = set.toList.flatMap Context.qualifiedProperties := rfl

theorem lookup?_eq_findSome? (set : ContextSet) (name : String) :
    set.lookup? name = set.toList.reverse.findSome? (·.given? name) :=
  KeyMap.get?_ofList_flatMap Context.qualifiedProperties name set.toList

/-- A name has the value that the last context gives it. -/
theorem lookup?_eq_some_iff : set.lookup? name = some value ↔ ∃ before context after,
    set.toList = before ++ context :: after ∧ context.Gives name value ∧
      ∀ later ∈ after, ∀ other, ¬ later.Gives name other := by
  rw [lookup?_eq_findSome?, List.findSome?_eq_some_iff]
  constructor
  · rintro ⟨later, context, earlier, hsplit, hgives, hlater⟩
    refine ⟨earlier.reverse, context, later.reverse, ?_, ?_, ?_⟩
    · simpa using congrArg List.reverse hsplit
    · exact Context.given?_eq_some_iff.mp hgives
    · intro other hother
      exact Context.given?_eq_none_iff.mp (hlater other (List.mem_reverse.mp hother))
  · rintro ⟨before, context, after, hsplit, hgives, hlast⟩
    refine ⟨after.reverse, context, before.reverse, by simp [hsplit], ?_, ?_⟩
    · exact Context.given?_eq_some_iff.mpr hgives
    · intro other hother
      exact Context.given?_eq_none_iff.mpr (hlast other (List.mem_reverse.mp hother))

theorem lookup?_eq_none_iff : set.lookup? name = none ↔
    ∀ context ∈ set.toList, ∀ value, ¬ context.Gives name value := by
  simp only [lookup?_eq_findSome?, List.findSome?_eq_none_iff, List.mem_reverse,
    Context.given?_eq_none_iff]

/-- Whether no two properties of the set have the same qualified name. -/
def DistinctNames (set : ContextSet) : Prop :=
  ∀ a ∈ set.toList, ∀ b ∈ set.toList, ∀ p q name,
    (a.get? p).isSome → a.QualifiedAs p name → (b.get? q).isSome → b.QualifiedAs q name →
      a = b ∧ p = q

theorem nodup_qualifiedEntries (hkeyed : set.Keyed) (h : set.DistinctNames) :
    (set.qualifiedEntries.map (·.1)).Nodup := by
  rw [qualifiedEntries_eq, List.map_flatMap]
  apply List.pairwise_flatMap.mpr
  constructor
  · intro context _
    exact context.nodup_qualifiedProperties
  · refine hkeyed.increasing_toList.imp_of_mem ?_
    intro a b ha hb hlt name hname other hother hsame
    obtain ⟨entry, hentry, rfl⟩ := List.mem_map.mp hname
    obtain ⟨entry', hentry', rfl⟩ := List.mem_map.mp hother
    obtain ⟨p, hp, hqualified⟩ := Context.mem_qualifiedProperties_iff.mp hentry
    obtain ⟨q, hq, hqualified'⟩ := Context.mem_qualifiedProperties_iff.mp hentry'
    have hcontext := (h a ha b hb p q entry.1 (by simp [hp]) hqualified (by simp [hq])
      (hsame ▸ hqualified')).1
    rw [hcontext] at hlt
    exact String.lt_irrefl _ hlt

theorem distinctNames_of_nodup (h : (set.qualifiedEntries.map (·.1)).Nodup) :
    set.DistinctNames := by
  rw [qualifiedEntries_eq, List.map_flatMap] at h
  have happart := (List.pairwise_flatMap.mp h).2
  have hsymm : Std.Symm fun a b : Context => ∀ n ∈ a.qualifiedProperties.map (·.1),
      ∀ m ∈ b.qualifiedProperties.map (·.1), n ≠ m :=
    ⟨fun a b hab m hm n hn => (hab n hn m hm).symm⟩
  intro a ha b hb p q name hp hap hq hbq
  obtain ⟨value, hvalue⟩ := Option.isSome_iff_exists.mp hp
  obtain ⟨value', hvalue'⟩ := Option.isSome_iff_exists.mp hq
  have hname := List.mem_map_of_mem (f := (·.1))
    (Context.mem_qualifiedProperties_iff.mpr ⟨p, hvalue, hap⟩)
  have hname' := List.mem_map_of_mem (f := (·.1))
    (Context.mem_qualifiedProperties_iff.mpr ⟨q, hvalue', hbq⟩)
  have hsame : a = b := by
    by_contra hother
    exact happart.forall ha hb hother name hname name hname' rfl
  subst hsame
  rw [Context.qualifiedAs_iff] at hap hbq
  exact ⟨rfl, a.qualify_injective (hap.trans hbq.symm)⟩

/-- Where no names meet, the set has one qualified name for each property. -/
theorem size_qualified (hkeyed : set.Keyed) (h : set.DistinctNames) :
    set.qualified.size = (set.toList.map (·.properties.size)).sum := by
  have hperm := KeyMap.entries_ofList_perm (nodup_qualifiedEntries hkeyed h)
  rw [KeyMap.size, qualified, hperm.length_eq, qualifiedEntries, List.length_flatMap]
  simp [KeyMap.size]

theorem lookup?_of_distinctNames (hkeyed : set.Keyed) (h : set.DistinctNames) {context : Context}
    (hcontext : context ∈ set.toList) (hgives : context.Gives name value) :
    set.lookup? name = some value := by
  rw [lookup?, qualified, KeyMap.get?_ofList_of_nodup (nodup_qualifiedEntries hkeyed h)]
  have hmem := Context.mem_qualifiedProperties_iff.mpr hgives
  exact List.mem_flatMap.mpr ⟨context, hcontext, hmem⟩

/-- A qualified name has the value that the last context gives it, in the order of the
lower-cased names, and none if no context gives it any.  Where no names meet, each property
is found under its own name, and there are no other names. -/
theorem lookup?_last_given (hkeyed : set.Keyed) :
    set.toList.Pairwise (fun a b => Unicode.lower a.name < Unicode.lower b.name) ∧
    (∀ name value, set.lookup? name = some value ↔ ∃ before context after,
      set.toList = before ++ context :: after ∧ context.Gives name value ∧
        ∀ later ∈ after, ∀ other, ¬ later.Gives name other) ∧
    (∀ name, set.lookup? name = none ↔
      ∀ context ∈ set.toList, ∀ value, ¬ context.Gives name value) ∧
    (set.DistinctNames →
      (∀ context ∈ set.toList, ∀ property value name, context.get? property = some value →
        context.QualifiedAs property name → set.lookup? name = some value) ∧
      set.qualified.size = (set.toList.map (·.properties.size)).sum) := by
  refine ⟨hkeyed.increasing_toList, fun _ _ => lookup?_eq_some_iff, fun _ => lookup?_eq_none_iff,
    ?_⟩
  intro hdistinct
  constructor
  · intro context hcontext property value name hget hqualified
    exact lookup?_of_distinctNames hkeyed hdistinct hcontext ⟨property, hget, hqualified⟩
  · exact size_qualified hkeyed hdistinct

def lead : Context := (Context.empty "Team.Lead").set "name" (.string "Ada")

def team : Context := (Context.empty "Team").set "Lead.name" (.string "Bob")

def region : Context := (Context.empty "\t").set "region" (.string "eu")

theorem lookup?_last_given_teams :
    (ofList [lead, team]).Keyed ∧
      (ofList [lead, team]).lookup? "Team.Lead.name" = some (.string "Ada") ∧
    (ofList [lead, region]).DistinctNames ∧ (ofList [lead, region]).qualified.size = 2 := by
  have hlead : lead.Gives "Team.Lead.name" (.string "Ada") :=
    ⟨"name", rfl, .dotted ⟨'T', by decide, rfl⟩⟩
  obtain ⟨-, hlast, -, -⟩ := lookup?_last_given (keyed_ofList [lead, team])
  obtain ⟨-, -, -, hdistinct⟩ := lookup?_last_given (keyed_ofList [lead, region])
  have hnames : (ofList [lead, region]).DistinctNames := distinctNames_of_nodup (by decide)
  refine ⟨keyed_ofList _, (hlast _ _).mpr ⟨[team], lead, [], rfl, hlead, by simp⟩, hnames, ?_⟩
  rw [(hdistinct hnames).2]
  rfl

end ContextSet
end LiveConfig
