import LiveConfig.Config
import LiveConfig.Sharding

/-!
# Choice among weighted values

The choices divide the shards from zero to the total weight into consecutive
buckets, each as long as its weight.  The shard of a configuration key and a hash
identity of the context decides the bucket, so that a context stays with its choice.
-/

namespace LiveConfig
namespace WeightedValues

def weights (values : WeightedValues) : List Nat := values.choices.map (·.weight.toNat)

def totalWeight (values : WeightedValues) : Nat := values.weights.foldr (· + ·) 0

/-- The position of the bucket that a shard falls into. -/
def bucket? : List Nat → Nat → Option Nat
  | [], _ => none
  | w :: rest, shard => if shard < w then some 0 else (bucket? rest (shard - w)).map (· + 1)

/-- What the choice hangs on: the text of the hash property, else the fingerprint of
the context. -/
def hashIdentity (values : WeightedValues) (context : ContextSet) : String :=
  match (values.hashBy.bind context.lookup?).bind Value.matchText? with
  | some text => text
  | none => context.fingerprint

/-- The chosen position and value; there is none if no weight is positive. -/
def select? (values : WeightedValues) (key : String) (context : ContextSet) :
    Option (Nat × Value) := do
  let seed := Utf8.encode (key ++ values.hashIdentity context)
  let shard ← Sharding.shard? seed values.totalWeight
  let index ← bucket? values.weights shard
  let choice ← values.choices[index]?
  return (index, choice.value)

end WeightedValues
end LiveConfig
