import LiveConfig.Config

/-!
# Changes between snapshots

A change names a key whose configuration is added, removed or replaced by one that
is not equal to it.
-/

namespace LiveConfig

structure Change where
  key : String
  old : Option Config
  new : Option Config
  deriving Inhabited

namespace Change

/-- Whether a configuration before and one after are the same. -/
def unchanged : Option Config → Option Config → Bool
  | none, none => true
  | some old, some new => new == old
  | _, _ => false

/-- The change of one key, if there is any. -/
def ofKey? (before after : KeyMap Config) (key : String) : Option Change :=
  let old := before.get? key
  let new := after.get? key
  if unchanged old new then none else some ⟨key, old, new⟩

/-- The changes from one map to another, in key order. -/
def between (before after : KeyMap Config) : List Change :=
  (before.mapValues fun _ => ()).overlay (after.mapValues fun _ => ()) |>.keys.filterMap
    (ofKey? before after)

/-- Carries the change out on a map. -/
def apply (map : KeyMap Config) (change : Change) : KeyMap Config :=
  match change.new with
  | some config => map.insert change.key config
  | none => map.erase change.key

end Change
end LiveConfig
