import LiveConfig.Md5
import LiveConfig.Text.Utf8

/-!
# Sharding

A text is assigned to one of `total` shards by the first four bytes of its digest.
-/

namespace LiveConfig
namespace Sharding

/-- The first four bytes of a digest as a big-endian number. -/
def leadingWord (digest : List UInt8) : Nat :=
  (digest.take 4).foldl (fun n b => 256 * n + b.toNat) 0

/-- The shard of a seed among `total`; there is none among zero. -/
def shard? (seed : List UInt8) (total : Nat) : Option Nat :=
  if total = 0 then none else some (leadingWord (Md5.digest seed) % total)

end Sharding
end LiveConfig
