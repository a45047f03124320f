import LiveConfig.Proofs.ConfigWire
import LiveConfig.Proofs.ContextMerge
import LiveConfig.Proofs.Equality
import Mathlib.Data.List.Induction
import Mathlib.Data.List.Nodup

/-!
# Context sets are canonical

Of the contexts that a set is collected from, the last one of each name up to case counts
(`ContextSet.get?_ofList_eq_some_iff`), and where each name occurs once the order does not
(`ContextSet.ofList_perm`).  So a set whose contexts stand under their own names is what is
collected from its list (`ContextSet.Keyed.ofList_toList`), and this is what its wire form
reads back as (`ContextSet.Keyed.ofDocument?_toJson`).

The text of a set reads back too if the set holds no double, its durations are whole
milliseconds, and it is not nested deeper than the parser goes
(`ContextSet.Built.parse?_render`).  A fraction of a millisecond is lost on the wire
(`ContextSet.fraction_lost_on_wire`).  A set that was read from a text is
never nested too deeply, since a context takes no more levels than it had there
(`ContextSet.built_of_parse?`).
-/

namespace LiveConfig

namespace ContextSet

/-! ## Collecting contexts -/

theorem add_comm {a b : Context} (h : Unicode.lower a.name ≠ Unicode.lower b.name)
    (set : ContextSet) : (set.add a).add b = (set.add b).add a := by
  apply ext_get?
  intro key
  simp only [add, KeyMap.get?_insert]
  by_cases ha : key = Unicode.lower a.name
  · simp [ha, h]
  · simp [ha]

theorem ofList_concat (contexts : List Context) (context : Context) :
    ofList (contexts ++ [context]) = (ofList contexts).add context := by
  rw [ofList, List.foldl_append]
  rfl

/-- Contexts with different names up to case are the same set in any order. -/
theorem ofList_perm {contexts others : List Context} (hperm : contexts.Perm others)
    (hnames : (contexts.map fun context => Unicode.lower context.name).Nodup) :
    ofList contexts = ofList others := by
  apply hperm.foldl_eq'
  intro a ha b hb set
  by_cases hsame : Unicode.lower a.name = Unicode.lower b.name
  · have heq : a = b := List.inj_on_of_nodup_map hnames ha hb hsame
    rw [heq]
  · exact add_comm hsame set

theorem get?_ofList (contexts : List Context) (key : String) :
    (ofList contexts).contexts.get? key =
      contexts.reverse.find? fun context => Unicode.lower context.name == key := by
  induction contexts using List.reverseRecOn with
  | nil => rfl
  | append_singleton contexts last ih =>
      rw [ofList_concat, add, KeyMap.get?_insert, ih, List.reverse_concat, List.find?_cons]
      by_cases hkey : key = Unicode.lower last.name
      · simp [hkey]
      · have hother : (Unicode.lower last.name == key) = false := by simp [Ne.symm hkey]
        simp [hkey, hother]

/-- The context of a name is the last one of that name up to case. -/
theorem get?_ofList_eq_some_iff {contexts : List Context} {key : String} {context : Context} :
    (ofList contexts).contexts.get? key = some context ↔
      ∃ before after, contexts = before ++ context :: after ∧
        Unicode.lower context.name = key ∧ ∀ later ∈ after, Unicode.lower later.name ≠ key := by
  rw [get?_ofList, List.find?_eq_some_iff_append]
  constructor
  · rintro ⟨hname, after, before, hsplit, hafter⟩
    refine ⟨before.reverse, after.reverse, ?_, by simpa using hname, by simpa using hafter⟩
    simpa using congrArg List.reverse hsplit
  · rintro ⟨before, after, rfl, hname, hafter⟩
    exact ⟨by simpa using hname, after.reverse, before.reverse, by simp, by simpa using hafter⟩

theorem contexts_ofList (contexts : List Context) :
    (ofList contexts).contexts =
      KeyMap.ofList (contexts.map fun context => (Unicode.lower context.name, context)) := by
  have hfold : ∀ set : ContextSet, (contexts.foldl add set).contexts =
      (contexts.map fun context => (Unicode.lower context.name, context)).foldl
        (fun map e => map.insert e.1 e.2) set.contexts := by
    induction contexts with
    | nil => exact fun set => rfl
    | cons context rest ih => exact fun set => ih (set.add context)
  exact hfold empty

theorem Keyed.ofList_toList {set : ContextSet} (h : set.Keyed) : ofList set.toList = set := by
  have hentries : set.toList.map (fun context => (Unicode.lower context.name, context)) =
      set.contexts.entries := by
    rw [toList, KeyMap.values, List.map_map]
    apply (List.map_congr_left _).trans (List.map_id _)
    intro e he
    rw [Function.comp_apply, ← h e.1 e.2 ((KeyMap.mem_entries_iff _ _ _).mp he)]
    rfl
  have hcontexts : (ofList set.toList).contexts = set.contexts := by
    rw [contexts_ofList, hentries, KeyMap.ofList_entries]
  apply ext_get?
  intro key
  rw [hcontexts]

end ContextSet

/-! ## The values of a set -/

namespace ContextSet

/-- Whether all values in the contexts of the set satisfy a condition. -/
def All (p : Value → Prop) (set : ContextSet) : Prop :=
  ∀ key context, set.contexts.get? key = some context → context.All p

variable {p : Value → Prop}

theorem all_empty : empty.All p := by
  intro key context hget
  cases hget

theorem All.add {set : ContextSet} {context : Context} (hset : set.All p)
    (hcontext : context.All p) : (set.add context).All p := by
  intro key other hget
  rw [ContextSet.add, KeyMap.get?_insert] at hget
  split at hget
  · cases hget
    exact hcontext
  · exact hset key other hget

theorem All.merge {set upper : ContextSet} (hset : set.All p) (hupper : upper.All p) :
    (set.merge upper).All p := by
  intro key context hget
  rw [get?_merge, Option.merge_eq_some_iff] at hget
  rcases hget with ⟨hlower, -⟩ | ⟨-, hother⟩ | ⟨lower, other, hlower, hother, rfl⟩
  · exact hset key context hlower
  · exact hupper key context hother
  · exact (hset key lower hlower).overlay (hupper key other hother)

theorem mem_of_mem_toList_ofList {contexts : List Context} {context : Context}
    (h : context ∈ (ofList contexts).toList) : context ∈ contexts := by
  obtain ⟨key, hget⟩ := (mem_toList_iff _ _).mp h
  obtain ⟨before, after, rfl, -⟩ := get?_ofList_eq_some_iff.mp hget
  exact List.mem_append_right before List.mem_cons_self

theorem all_iff {set : ContextSet} : set.All p ↔ ∀ context ∈ set.toList, context.All p := by
  simp only [All, mem_toList_iff]
  constructor
  · rintro h context ⟨key, hget⟩
    exact h key context hget
  · intro h key context hget
    exact h context ⟨key, hget⟩

theorem all_ofList {contexts : List Context} (h : ∀ context ∈ contexts, context.All p) :
    (ofList contexts).All p := by
  rw [all_iff]
  intro context hcontext
  exact h context (mem_of_mem_toList_ofList hcontext)

end ContextSet

/-! ## Contexts as documents -/

namespace Document

variable {read : Document → Option α}

theorem map?_obj (members : List (String × Document)) :
    (obj members).map? read =
      (members.mapM fun e => (read e.2).map fun item => (e.1, item)).map KeyMap.ofList := by
  have hmember : (fun e : String × Document => (do return (e.1, ← read e.2) :
      Option (String × α))) = fun e => (read e.2).map fun item => (e.1, item) := by
    funext e
    cases read e.2 <;> rfl
  have hmap : (obj members).map? read =
      (members.mapM fun e => (do return (e.1, ← read e.2) : Option (String × α))).bind
        fun entries => some (KeyMap.ofList entries) := rfl
  rw [hmap, hmember, Option.map_eq_bind]
  rfl

theorem map?_toDocument (write : α → Json) {map : KeyMap α}
    (hread : ∀ e ∈ map.entries, read (write e.2).toDocument = some e.2) :
    (Json.obj (map.entries.map fun e => (e.1, write e.2))).toDocument.map? read = some map := by
  have hentries : (map.entries.map fun e => (e.1, (write e.2).toDocument)).mapM
      (fun e => (read e.2).map fun item => (e.1, item)) = some map.entries := by
    apply mapM_map_eq_some
    intro e he
    rw [hread e he]
    rfl
  rw [Json.toDocument, Json.toDocumentMembers_eq_map, List.map_map, map?_obj]
  exact (congrArg _ hentries).trans (congrArg some map.ofList_entries)

theorem of_map {C : Document → Prop} {p : α → Prop} {document : Document} {map : KeyMap α}
    (hparts : ∀ part, Part part document → C part)
    (hread : ∀ {d x}, C d → read d = some x → p x) (h : document.map? read = some map) :
    ∀ e ∈ map.entries, p e.2 := by
  cases document with
  | obj members =>
      rw [map?_obj, Option.map_eq_some_iff] at h
      obtain ⟨entries, hentries, rfl⟩ := h
      intro e he
      have hmem := KeyMap.mem_of_get?_ofList ((KeyMap.mem_entries_iff _ e.1 e.2).mp he)
      obtain ⟨member, hmember, hitem⟩ := exists_of_mem_mapM hentries hmem
      obtain ⟨x, hx, heq⟩ := Option.map_eq_some_iff.mp hitem
      rw [← (Prod.mk.inj heq).2]
      exact hread (hparts member.2 (.member hmember)) hx
  | _ => cases h

end Document

namespace Context

theorem all_iff {p : Value → Prop} {context : Context} :
    context.All p ↔ ∀ e ∈ context.properties.entries, p e.2 :=
  (KeyMap.forall_mem_entries_iff (p := fun _ value => p value)).symm

theorem ofDocument?_toJson {context : Context} (h : context.All Value.Portable) :
    ofDocument? context.toJson.toDocument = some context := by
  have hproperties := Document.map?_toDocument Value.toJson fun e he =>
    Value.ofDocument?_toJson (all_iff.mp h e he)
  rw [toJson, ofDocument?, Document.fields?_toDocument]
  · simp only [List.map_cons, List.map_nil, Option.bind_eq_bind, Option.bind_some,
      Document.required, Document.defaulted, hproperties]
    rfl
  · rfl
  · decide

/-- A context that is read has values that the wire form tells and, with two levels of room,
is written no deeper than it stood. -/
theorem portable_of_ofDocument? {level : Nat} {document : Document} {context : Context}
    (h : Document.Nested level document) (hcontext : ofDocument? document = some context) :
    context.All Value.Portable ∧
      (level + 2 < Document.depthLimit → context.toJson.Under level) := by
  simp only [ofDocument?, Option.bind_eq_bind, Option.bind_eq_some_iff] at hcontext
  obtain ⟨fields, hfields, hread⟩ := hcontext
  obtain ⟨hlevel, hnested⟩ := h.field hfields
  split at hread
  · rename_i name values
    simp only [Option.bind_eq_some_iff, Option.pure_def, Option.some.injEq] at hread
    obtain ⟨name, _, properties, hproperties, rfl⟩ := hread
    have hvalues : ∀ e ∈ properties.entries,
        e.2.Portable ∧ e.2.toJson.Under (level + 2) :=
      Document.of_defaulted (p := fun map : KeyMap Value =>
          ∀ e ∈ map.entries, e.2.Portable ∧ e.2.toJson.Under (level + 2))
        (hnested values (by simp)) (by simp [KeyMap.empty])
        (fun hd => Document.of_map (fun _ => hd.part) Value.portable_of_ofDocument?) hproperties
    refine ⟨all_iff.mpr fun e he => (hvalues e he).1, fun hroom => ?_⟩
    simp only [toJson, Json.under_obj_cons, Json.under_obj_nil]
    refine ⟨hlevel, ?_, hlevel⟩
    rw [Json.under_obj_iff, List.forall_mem_map]
    exact ⟨hroom, fun e he => (hvalues e he).2⟩
  · cases hread

theorem numbers_toJson {context : Context} (h : context.All Value.Portable)
    (hfree : context.All Value.DoubleFree) : context.toJson.Numbers Json.IsExact := by
  simp only [toJson, Json.numbers_obj_cons, Json.numbers_obj_nil, and_true]
  refine ⟨.str _, ?_⟩
  rw [Json.numbers_obj_iff, List.forall_mem_map]
  intro e he
  exact Value.numbers_toJson (all_iff.mp h e he) (all_iff.mp hfree e he)

end Context

namespace ContextSet

theorem Keyed.ofDocument?_toJson {set : ContextSet} (h : set.Keyed)
    (hportable : set.All Value.Portable) : ofDocument? set.toJson.toDocument = some set := by
  have hcontexts := Document.list?_toDocument set.toList fun context hcontext =>
    Context.ofDocument?_toJson (all_iff.mp hportable context hcontext)
  rw [toJson, ofDocument?, Document.fields?_toDocument]
  · simp only [List.map_cons, List.map_nil, Option.bind_eq_bind, Option.bind_some,
      Document.defaulted, hcontexts, h.ofList_toList]
    rfl
  · rfl
  · decide

theorem numbers_toJson {set : ContextSet} (h : set.All Value.Portable)
    (hfree : set.All Value.DoubleFree) : set.toJson.Numbers Json.IsExact := by
  simp only [toJson, Json.numbers_obj_cons, Json.numbers_obj_nil, and_true]
  apply Json.numbers_arr_map
  intro context hcontext
  exact Context.numbers_toJson (all_iff.mp h context hcontext)
    (all_iff.mp hfree context hcontext)

theorem portable_of_ofDocument? {level : Nat} {document : Document} {set : ContextSet}
    (h : Document.Nested level document) (hset : ofDocument? document = some set) :
    set.All Value.Portable ∧ (level + 4 < Document.depthLimit → set.toJson.Under level) := by
  simp only [ofDocument?, Option.bind_eq_bind, Option.bind_eq_some_iff] at hset
  obtain ⟨fields, hfields, hread⟩ := hset
  obtain ⟨hlevel, hnested⟩ := h.field hfields
  split at hread
  · rename_i contexts
    simp only [Option.bind_eq_some_iff, Option.pure_def, Option.some.injEq] at hread
    obtain ⟨contexts, hcontexts, rfl⟩ := hread
    have hparts : ∀ context ∈ contexts, context.All Value.Portable ∧
        (level + 2 + 2 < Document.depthLimit → context.toJson.Under (level + 2)) :=
      Document.of_defaulted (p := fun contexts : List Context => ∀ context ∈ contexts,
          context.All Value.Portable ∧
            (level + 2 + 2 < Document.depthLimit → context.toJson.Under (level + 2)))
        (hnested _ (by simp)) (by simp)
        (fun hd => Document.of_list (fun _ => hd.part) Context.portable_of_ofDocument?) hcontexts
    constructor
    · exact all_ofList fun context hcontext => (hparts context hcontext).1
    · intro hroom
      simp only [toJson, Json.under_obj_cons, Json.under_obj_nil]
      refine ⟨?_, hlevel⟩
      rw [Json.under_arr_iff, List.forall_mem_map]
      refine ⟨by omega, fun context hcontext => ?_⟩
      exact (hparts context (mem_of_mem_toList_ofList hcontext)).2 hroom
  · cases hread

theorem Built.valid {set : ContextSet} (h : set.Built) : set.All Value.Valid := by
  induction h with
  | empty => exact all_empty
  | add _ hcontext ih => exact ih.add hcontext
  | merge _ _ hset hupper => exact hset.merge hupper
  | read hnested hread =>
      have hportable := (portable_of_ofDocument? hnested hread).1
      exact fun key context hget property value hvalue =>
        (hportable key context hget property value hvalue).valid

theorem Built.portable {set : ContextSet} (h : set.Built) (hwhole : set.All Value.IsWhole) :
    set.All Value.Portable :=
  fun key context hget property value hvalue =>
    ⟨h.valid key context hget property value hvalue,
      hwhole key context hget property value hvalue⟩

/-! ## The text of a set -/

/-- The set of a JSON text in bytes. -/
def parse? (bytes : List UInt8) : Option ContextSet := (Document.parse? bytes).bind ofDocument?

theorem write?_of_isWhole {set : ContextSet} (hwhole : set.All Value.IsWhole) :
    set.write? = some set.toJson.render := by
  have hwritable : set.toList.all Context.isWritable = true := by
    rw [List.all_eq_true]
    intro context hcontext
    rw [Context.isWritable, List.all_eq_true]
    exact fun e he => Value.isWritable_of_isWhole
      (Context.all_iff.mp (all_iff.mp hwhole context hcontext) e he)
  rw [write?, if_pos hwritable]

theorem Built.parse?_render {set : ContextSet} (h : set.Built) (hwhole : set.All Value.IsWhole)
    (hfree : set.All Value.DoubleFree) (hdepth : set.toJson.depth < Document.depthLimit) :
    parse? (Utf8.encode set.toJson.render) = some set := by
  have hportable := h.portable hwhole
  rw [parse?, Document.parse?_render (numbers_toJson hportable hfree) hdepth, Option.bind_some,
    h.keyed.ofDocument?_toJson hportable]

theorem built_of_parse? {bytes : List UInt8} {set : ContextSet} (h : parse? bytes = some set) :
    set.Built ∧ set.All Value.IsWhole ∧ set.toJson.depth < Document.depthLimit := by
  obtain ⟨document, hdocument, hset⟩ := Option.bind_eq_some_iff.mp h
  have hnested := Document.nested_of_parse? hdocument
  obtain ⟨hportable, hunder⟩ := portable_of_ofDocument? hnested hset
  refine ⟨.read hnested hset, ?_, Json.under_zero_iff.mp (hunder (by decide))⟩
  exact fun key context hget property value hvalue =>
    (hportable key context hget property value hvalue).whole

end ContextSet

/-! ## Equality -/

theorem KeyMap.comparable_iff [BEq α] (map : KeyMap α) :
    Comparable map ↔ ∀ e ∈ map.entries, Comparable e.2 := by
  have hentries : Comparable map ↔ Comparable map.entries := Iff.rfl
  rw [hentries, comparable_list_iff]
  simp only [comparable_pair_iff, comparable_of_refl, true_and]

theorem Context.comparable_iff (context : Context) :
    Comparable context ↔ context.All fun value => Comparable value := by
  have hproperties : Comparable context ↔
      (context.name == context.name && context.properties == context.properties) = true := Iff.rfl
  rw [hproperties, beq_self_eq_true, Bool.true_and, Context.all_iff]
  exact context.properties.comparable_iff

theorem ContextSet.comparable_iff (set : ContextSet) :
    Comparable set ↔ set.All fun value => Comparable value := by
  have hcontexts : Comparable set ↔ Comparable set.contexts := Iff.rfl
  rw [hcontexts, KeyMap.comparable_iff]
  simp only [Context.comparable_iff]
  exact KeyMap.forall_mem_entries_iff
    (p := fun _ (context : Context) => context.All fun value => Comparable value)

theorem Json.comparable_of_integers {value : Json} (h : value.Numbers IsInteger) :
    Comparable value := by
  induction h with
  | arr _ ih => exact (comparable_arr_iff _).mpr ih
  | obj _ ih => exact (comparable_obj_iff _).mpr ih
  | float h => exact h.elim
  | null => rfl
  | bool b => exact beq_self_eq_true b
  | int _ => exact beq_self_eq_true (α := Int) _
  | str s => exact beq_self_eq_true s

theorem Value.comparable_of_doubleFree {value : Value} (h : value.DoubleFree) :
    Comparable value := by
  cases value with
  | double d => exact h.elim
  | json value => exact (comparable_json_iff value).mpr (Json.comparable_of_integers h)
  | bool x => exact beq_self_eq_true x
  | int x => exact beq_self_eq_true x
  | string x => exact beq_self_eq_true x
  | stringList x => exact beq_self_eq_true x
  | duration x => exact beq_self_eq_true x
  | logLevel x => exact beq_self_eq_true x

namespace ContextSet

/-- Contexts with different names up to case are collected into the same set in any order,
so that its text, its properties by qualified name and its fingerprint are the same; of the
contexts of one name the last one counts.  A set without doubles that can be built, with
durations of whole milliseconds, is equal to the one that its wire form reads back as, and
its text reads back if it is nested within the limit of the parser, as that of every set
read from a text is. -/
theorem collects_canonically :
    (∀ contexts others : List Context, contexts.Perm others →
      (contexts.map fun context => Unicode.lower context.name).Nodup →
        ofList contexts = ofList others ∧
        (ofList contexts).toJson.render = (ofList others).toJson.render ∧
        (ofList contexts).qualified = (ofList others).qualified ∧
        (ofList contexts).fingerprint = (ofList others).fingerprint ∧
        ((∀ context ∈ contexts, context.All fun value => Comparable value) →
          (ofList contexts == ofList others) = true)) ∧
    (∀ (contexts : List Context) (key : String) (context : Context),
      (ofList contexts).contexts.get? key = some context ↔
        ∃ before after, contexts = before ++ context :: after ∧
          Unicode.lower context.name = key ∧
          ∀ later ∈ after, Unicode.lower later.name ≠ key) ∧
    (∀ set : ContextSet, set.Built → set.All Value.IsWhole → set.All Value.DoubleFree →
      ofDocument? set.toJson.toDocument = some set ∧ (set == set) = true ∧
      set.write? = some set.toJson.render ∧
      (set.toJson.depth < Document.depthLimit →
        parse? (Utf8.encode set.toJson.render) = some set)) ∧
    ∀ (bytes : List UInt8) (set : ContextSet), parse? bytes = some set →
      set.All Value.DoubleFree → set.write? = some set.toJson.render ∧
        parse? (Utf8.encode set.toJson.render) = some set := by
  refine ⟨?_, ?_, ?_, ?_⟩
  · intro contexts others hperm hnames
    have hsame : ofList contexts = ofList others := ofList_perm hperm hnames
    rw [hsame]
    refine ⟨rfl, rfl, rfl, rfl, fun hcomparable => ?_⟩
    rw [← hsame]
    exact (comparable_iff _).mpr (all_ofList hcomparable)
  · intro contexts key context
    exact get?_ofList_eq_some_iff
  · intro set hbuilt hwhole hfree
    refine ⟨hbuilt.keyed.ofDocument?_toJson (hbuilt.portable hwhole), ?_,
      write?_of_isWhole hwhole, hbuilt.parse?_render hwhole hfree⟩
    apply (comparable_iff set).mpr
    intro key context hget property value hvalue
    exact Value.comparable_of_doubleFree (hfree key context hget property value hvalue)
  · intro bytes set hparse hfree
    obtain ⟨hbuilt, hwhole, hdepth⟩ := built_of_parse? hparse
    exact ⟨write?_of_isWhole hwhole, hbuilt.parse?_render hwhole hfree hdepth⟩

/-- A user with a key. -/
def user (name key : String) : Context := (Context.empty name).set "key" (.string key)

/-- A device with a list of modes, merged with a user. -/
def visitor : ContextSet :=
  (empty.add ((Context.empty "Device").set "modes" (.stringList ["dark", "wide"]))).merge
    (empty.add (user "user" "u1"))

theorem built_visitor : visitor.Built := by
  apply Built.merge
  · exact .add .empty ((Context.all_empty "Device").set trivial)
  · exact .add .empty ((Context.all_empty "user").set trivial)

theorem isWhole_visitor : visitor.All Value.IsWhole := by
  apply All.merge
  · exact all_empty.add (Context.All.set (Context.all_empty "Device") trivial)
  · exact all_empty.add (Context.All.set (Context.all_empty "user") trivial)

theorem doubleFree_visitor : visitor.All Value.DoubleFree := by
  apply All.merge
  · exact all_empty.add (Context.All.set (Context.all_empty "Device") trivial)
  · exact all_empty.add (Context.All.set (Context.all_empty "user") trivial)

theorem collects_canonically_visitors :
    ofList [user "User" "u1", user "team" "t1"] = ofList [user "team" "t1", user "User" "u1"] ∧
    (ofList [user "User" "u1", user "team" "t1"] ==
      ofList [user "team" "t1", user "User" "u1"]) = true ∧
    (ofList [user "User" "u1", user "USER" "u2"]).contexts.get? "user" =
      some (user "USER" "u2") ∧
    parse? (Utf8.encode visitor.toJson.render) = some visitor ∧
    parse? (Utf8.encode empty.toJson.render) = some empty := by
  obtain ⟨hcollected, hlast, hwritten, hread⟩ := collects_canonically
  have hlower : Unicode.lower "USER" = "user" := by decide +kernel
  have hnames : ([user "User" "u1", user "team" "t1"].map fun context =>
      Unicode.lower context.name).Nodup := by decide +kernel
  have hcomparable : ∀ name key : String,
      (user name key).All fun value => Comparable value :=
    fun name _ => (Context.all_empty name).set (Value.comparable_of_doubleFree trivial)
  have htext : parse? (Utf8.encode "\x7b\x7d") = some empty := rfl
  obtain ⟨hequal, -, -, -, hbeq⟩ := hcollected _ _ (.swap _ _ _) hnames
  refine ⟨hequal, hbeq (by simp [hcomparable]), ?_, ?_, ?_⟩
  · exact (hlast _ _ _).mpr ⟨[user "User" "u1"], [], rfl, hlower, by simp⟩
  · exact (hwritten visitor built_visitor isWhole_visitor doubleFree_visitor).2.2.2
      (by decide +kernel)
  · exact (hread _ _ htext all_empty).2

/-- A user with a time to live. -/
def userFor (ttl : Duration) : ContextSet :=
  empty.add ((Context.empty "user").set "ttl" (.duration ttl))

theorem built_userFor (ttl : Duration) : (userFor ttl).Built :=
  .add .empty ((Context.all_empty "user").set trivial)

/-- A duration of one and a half milliseconds is written as two, and reads back so. -/
theorem fraction_lost_on_wire :
    ∃ set other : ContextSet, set.Built ∧ set.All Value.DoubleFree ∧
      set.write? = some set.toJson.render ∧
      parse? (Utf8.encode set.toJson.render) = some other ∧ (other == set) = false := by
  have hwhole : (userFor (.ofMillis 2)).All Value.IsWhole :=
    all_empty.add ((Context.all_empty "user").set (Duration.isWhole_ofMillis 2))
  have hfree : ∀ ttl, (userFor ttl).All Value.DoubleFree :=
    fun ttl => all_empty.add ((Context.all_empty "user").set trivial)
  have hread := (built_userFor (.ofMillis 2)).parse?_render hwhole (hfree _) (by decide +kernel)
  have hsame : (userFor ⟨1500000, by decide⟩).toJson = (userFor (.ofMillis 2)).toJson := rfl
  refine ⟨userFor ⟨1500000, by decide⟩, userFor (.ofMillis 2), built_userFor _, hfree _, ?_, ?_, ?_⟩
  · rfl
  · rw [hsame]
    exact hread
  · decide +kernel

end ContextSet
end LiveConfig
