import LiveConfig.Client
import LiveConfig.Proofs.KeyMap

/-!
# Reading one key and reading all

A client resolves all keys by the step by which it resolves one.  So the values of all keys
are those that the keys have one by one, also where an evaluation fails, and what is
reported of a key is what decides whether it has a value (`Client.ReadsAgree`).  A read that
the gate turns away reports nothing (`Client.reads_agree`).
-/

namespace LiveConfig

def Resolution.value? (resolution : Resolution) : Option Value :=
  resolution.found.map (·.value)

/-- Whether a call ends with an error and reports nothing. -/
def Call.Rejected (call : Call α (Except Error β)) (e : Error) : Prop :=
  call.result = .error e ∧ call.resolutions = []

theorem Call.Rejected.map {call : Call α (Except Error β)} {e : Error} (h : call.Rejected e)
    (f : β → γ) : Rejected { call with result := call.result.map f } e := by
  refine ⟨?_, h.2⟩
  dsimp only
  rw [h.1]
  rfl

namespace Client

variable {α β : Type} {client : Client α}

/-! ## Reads and the gate -/

theorem resolutions_awaitReady (client : Client α) : client.awaitReady.resolutions = [] := by
  unfold awaitReady
  split
  · rfl
  · split <;> rfl

theorem read_of_ready (h : client.awaitReady.result = .ok ())
    (run : Client α → List Resolution × β) :
    (client.read run).resolutions = (run client.awaitReady.client).1 ∧
      (client.read run).result = .ok (run client.awaitReady.client).2 := by
  dsimp only [read]
  rw [h]
  exact ⟨rfl, rfl⟩

theorem rejected_read {e : Error} (h : client.awaitReady.result = .error e)
    (run : Client α → List Resolution × β) : (client.read run).Rejected e := by
  dsimp only [Call.Rejected, read]
  rw [h]
  exact ⟨rfl, client.resolutions_awaitReady⟩

/-! ## The step that all reads share -/

/-- What a key resolves to under the contexts of the client and of a call. -/
def resolve (client : Client α) (explicit : ContextSet) (key : String) : Resolution :=
  client.resolution (client.contextFor explicit) key

/-- The values of resolutions by their keys. -/
def valuesOf (resolutions : List Resolution) : KeyMap Value :=
  KeyMap.ofList (resolutions.filterMap fun resolution =>
    resolution.found.map fun found => (resolution.key, found.value))

theorem match?_of_ready (h : client.awaitReady.result = .ok ()) (explicit : ContextSet)
    (key : String) :
    (client.match? key explicit).resolutions = [client.awaitReady.client.resolve explicit key] ∧
      (client.match? key explicit).result =
        .ok (client.awaitReady.client.resolve explicit key).found :=
  read_of_ready h _

theorem get?_of_ready (h : client.awaitReady.result = .ok ()) (explicit : ContextSet)
    (key : String) :
    (client.get? key explicit).resolutions = [client.awaitReady.client.resolve explicit key] ∧
      (client.get? key explicit).result =
        .ok (client.awaitReady.client.resolve explicit key).value? := by
  obtain ⟨hreported, hresult⟩ := match?_of_ready h explicit key
  refine ⟨hreported, ?_⟩
  unfold get?
  simp only [hresult]
  rfl

theorem getAll_of_ready (h : client.awaitReady.result = .ok ()) (explicit : ContextSet) :
    (client.getAll explicit).resolutions =
        client.awaitReady.client.resolver.keys.map (client.awaitReady.client.resolve explicit) ∧
      (client.getAll explicit).result = .ok (valuesOf
        (client.awaitReady.client.resolver.keys.map
          (client.awaitReady.client.resolve explicit))) :=
  read_of_ready h _

/-- The values of the resolutions of some keys are what each key resolves to. -/
theorem get?_valuesOf (client : Client α) (explicit : ContextSet) (keys : List String)
    (key : String) :
    (valuesOf (keys.map (client.resolve explicit))).get? key =
      if key ∈ keys then (client.resolve explicit key).value? else none := by
  apply KeyMap.get?_ofList_of_mem_iff
  intro value
  constructor
  · intro hmem
    obtain ⟨resolution, hresolution, hpair⟩ := List.mem_filterMap.mp hmem
    obtain ⟨other, hother, rfl⟩ := List.mem_map.mp hresolution
    obtain ⟨found, hfound, heq⟩ := Option.map_eq_some_iff.mp hpair
    obtain ⟨rfl, rfl⟩ := Prod.mk.inj heq
    have hkey : (client.resolve explicit other).key = other := rfl
    rw [hkey, if_pos hother, Resolution.value?, hfound]
    rfl
  · intro hvalue
    split at hvalue
    · rename_i hkey
      obtain ⟨found, hfound, rfl⟩ := Option.map_eq_some_iff.mp hvalue
      refine List.mem_filterMap.mpr ⟨_, List.mem_map_of_mem hkey, ?_⟩
      rw [hfound]
      rfl
    · cases hvalue

/-! ## Bulk and single reads -/

/-- What the reads of a client that passes its gate have in common. -/
structure ReadsAgree (client : Client α) (explicit : ContextSet) (keys : List String)
    (values : KeyMap Value) : Prop where
  told_keys : client.keys.result = .ok keys ∧ client.keys.resolutions = []
  increasing : keys.Pairwise (· < ·)
  told_values : (client.getAll explicit).result = .ok values
  /-- All values are those of the keys one by one. -/
  get?_iff : ∀ key value, values.get? key = some value ↔
    key ∈ keys ∧ (client.get? key explicit).result = .ok (some value)
  /-- Each key is reported once and in order, with what decides whether it has a value. -/
  reported_keys : (client.getAll explicit).resolutions.map (·.key) = keys
  reported : ∀ resolution ∈ (client.getAll explicit).resolutions,
    (client.match? resolution.key explicit).resolutions = [resolution] ∧
      values.get? resolution.key = resolution.value?
  /-- A read of one key reports it once, whether it is known or not. -/
  single : ∀ key, ∃ resolution : Resolution, resolution.key = key ∧
    (client.match? key explicit).resolutions = [resolution] ∧
    (client.get? key explicit).resolutions = [resolution] ∧
    (client.isOn key explicit).resolutions = [resolution] ∧
    (client.match? key explicit).result = .ok resolution.found ∧
    (client.get? key explicit).result = .ok resolution.value?

theorem readsAgree_of_ready (h : client.awaitReady.result = .ok ()) (explicit : ContextSet) :
    ∃ keys values, client.ReadsAgree explicit keys values := by
  obtain ⟨hreported, hvalues⟩ := getAll_of_ready h explicit
  obtain ⟨hsilent, hkeys⟩ := read_of_ready h fun client => ([], client.resolver.keys)
  refine ⟨client.awaitReady.client.resolver.keys, _, ⟨hkeys, hsilent⟩,
    KeyMap.keys_increasing _, hvalues, ?values, ?keys, ?presence, ?single⟩
  case values =>
    intro key value
    rw [get?_valuesOf, (get?_of_ready h explicit key).2, Except.ok.injEq]
    split <;> simp [*]
  case keys =>
    rw [hreported, List.map_map]
    exact List.map_id _
  case presence =>
    intro resolution hresolution
    rw [hreported] at hresolution
    obtain ⟨key, hkey, rfl⟩ := List.mem_map.mp hresolution
    refine ⟨(match?_of_ready h explicit key).1, ?_⟩
    rw [get?_valuesOf]
    exact if_pos hkey
  case single =>
    intro key
    obtain ⟨hmatched, hmatch⟩ := match?_of_ready h explicit key
    obtain ⟨hgot, hget⟩ := get?_of_ready h explicit key
    exact ⟨client.awaitReady.client.resolve explicit key, rfl, hmatched, hgot, hgot, hmatch, hget⟩

/-- The reads of a client that passes its gate agree, and one that the gate turns away
reports nothing. -/
theorem reads_agree (client : Client α) (explicit : ContextSet) :
    (client.awaitReady.result = .ok () →
      ∃ keys values, client.ReadsAgree explicit keys values) ∧
    ∀ e, client.awaitReady.result = .error e →
      (client.getAll explicit).Rejected e ∧ client.keys.Rejected e ∧
        ∀ key, (client.match? key explicit).Rejected e ∧ (client.get? key explicit).Rejected e ∧
          (client.isOn key explicit).Rejected e := by
  refine ⟨fun h => readsAgree_of_ready h explicit, ?_⟩
  intro e h
  refine ⟨rejected_read h _, rejected_read h _, fun key => ?_⟩
  have hmatch : (client.match? key explicit).Rejected e := rejected_read h _
  have hget : (client.get? key explicit).Rejected e := hmatch.map _
  exact ⟨hmatch, hget, hget.map _⟩

/-- A client without configurations that does not wait for them. -/
def impatient : Client Unit where
  resolver := { loader := ⟨.empty, .empty, .empty, {}⟩ }
  listeners := {}
  onTimeout := .raise
  initializationTimeout := .zero
  ambient := .empty
  environment := fun _ => none

/-- A limit, and a host that is taken from a variable. -/
def limitAndHost : Batch :=
  ⟨none, [.ok (.constant "limit" 5 (.int 5)),
    .ok { id := 6, key := "host", kind := .config, valueType := some .string
          rows := [⟨none, [⟨[], .provided "HOST"⟩]⟩] }], none⟩

/-- Without the variable the evaluation of the host fails. -/
theorem reads_agree_limit_and_host :
    (∃ keys values,
      (impatient.apply limitAndHost ⟨.streaming, none⟩).client.ReadsAgree .empty keys values ∧
        keys = ["host", "limit"] ∧ values.get? "limit" = some (.int 5) ∧
        values.get? "host" = none) ∧
    (impatient.getAll .empty).Rejected (.initializationTimeout .zero) := by
  constructor
  · obtain ⟨keys, values, hagree⟩ :=
      (reads_agree (impatient.apply limitAndHost ⟨.streaming, none⟩).client .empty).1 rfl
    have hkeys : keys = ["host", "limit"] := Except.ok.inj (hagree.told_keys.1.symm.trans rfl)
    refine ⟨keys, values, hagree, hkeys, ?_, ?_⟩
    · rw [hagree.get?_iff, hkeys]
      exact ⟨by simp, rfl⟩
    · rw [Option.eq_none_iff_forall_ne_some]
      intro value hvalue
      obtain ⟨-, hresult⟩ := (hagree.get?_iff "host" value).mp hvalue
      cases hresult
  · exact ((reads_agree impatient .empty).2 _ rfl).1

end Client
end LiveConfig
