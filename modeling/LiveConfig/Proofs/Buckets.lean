import LiveConfig.Rollout
import Mathlib.Algebra.BigOperators.Group.List.Basic
import Mathlib.Algebra.Ring.Nat

/-!
# Buckets of weighted values

The bucket of a position begins at the sum of the weights before it, and is as long as
its weight (`WeightedValues.bucket?_eq_some_iff`).  The shard is taken from a word of 32
bits, so a bucket that begins past the largest word is never chosen, and every other one
that is not empty is chosen for some word (`WeightedValues.reached_iff`).
-/

namespace LiveConfig

/-! ## Words of digests -/

/-- One more than the largest word that a digest can begin with. -/
def Sharding.wordBound : Nat := 2 ^ 32

theorem Sharding.foldl_bytes_lt (bytes : List UInt8) (n : Nat) :
    bytes.foldl (fun n b => 256 * n + b.toNat) n < (n + 1) * 256 ^ bytes.length := by
  induction bytes generalizing n with
  | nil => simp
  | cons b rest ih =>
      have hbyte : b.toNat < 256 := b.toNat_lt
      have hnext : 256 * n + b.toNat + 1 ≤ (n + 1) * 256 := by omega
      calc
        (b :: rest).foldl (fun n b => 256 * n + b.toNat) n =
            rest.foldl (fun n b => 256 * n + b.toNat) (256 * n + b.toNat) := rfl
        _ < (256 * n + b.toNat + 1) * 256 ^ rest.length := ih _
        _ ≤ (n + 1) * 256 * 256 ^ rest.length := Nat.mul_le_mul_right _ hnext
        _ = (n + 1) * 256 ^ (b :: rest).length := by
          rw [List.length_cons, Nat.pow_succ', Nat.mul_assoc]

theorem Sharding.leadingWord_lt (digest : List UInt8) : leadingWord digest < wordBound := by
  have hlength : (digest.take 4).length ≤ 4 := List.length_take_le 4 digest
  calc
    leadingWord digest < (0 + 1) * 256 ^ (digest.take 4).length := foldl_bytes_lt _ 0
    _ ≤ (0 + 1) * 256 ^ 4 := Nat.mul_le_mul_left _ (Nat.pow_le_pow_right (by decide) hlength)
    _ = wordBound := by decide

namespace WeightedValues

/-! ## Where buckets lie -/

def bucketStart (values : WeightedValues) (index : Nat) : Nat := (values.weights.take index).sum

theorem bucket?_eq_some_iff {weights : List Nat} {shard index : Nat} :
    bucket? weights shard = some index ↔
      ∃ weight, weights[index]? = some weight ∧ (weights.take index).sum ≤ shard ∧
        shard < (weights.take index).sum + weight := by
  induction weights generalizing shard index with
  | nil => simp [bucket?]
  | cons first rest ih =>
      unfold bucket?
      by_cases hfirst : shard < first
      · cases index with
        | zero => simp [hfirst]
        | succ index =>
            -- a later bucket begins past the first weight
            have hlater : ¬ first + (rest.take index).sum ≤ shard := by omega
            simp [hfirst, hlater]
      · cases index with
        | zero => simp [hfirst]
        | succ index =>
            have hshift : ∀ n : Nat, (n ≤ shard - first ↔ first + n ≤ shard) ∧
                (shard - first < n ↔ shard < first + n) := by
              intro n
              omega
            simp only [hfirst, if_false, Option.map_eq_some_iff, Nat.add_right_cancel_iff,
              exists_eq_right, ih, List.getElem?_cons_succ, List.take_succ_cons, List.sum_cons,
              Nat.add_assoc, (hshift _).1, (hshift _).2]

theorem totalWeight_eq_sum (values : WeightedValues) :
    values.totalWeight = values.weights.sum := rfl

variable {values : WeightedValues} {index weight : Nat}

theorem bucketEnd_le_totalWeight (hweight : values.weights[index]? = some weight) :
    values.bucketStart index + weight ≤ values.totalWeight := by
  have hbound : index < values.weights.length := (List.getElem?_eq_some_iff.mp hweight).1
  have hget : values.weights[index] = weight := (List.getElem?_eq_some_iff.mp hweight).2
  have hsplit : values.weights.sum =
      (values.weights.take index).sum + (weight + (values.weights.drop (index + 1)).sum) := by
    rw [← hget, ← List.sum_cons, ← List.drop_eq_getElem_cons hbound, List.sum_take_add_sum_drop]
  rw [totalWeight_eq_sum, bucketStart]
  omega

/-! ## Which buckets are reached -/

/-- Whether some word leads to a position. -/
def Reached (values : WeightedValues) (index : Nat) : Prop :=
  ∃ word < Sharding.wordBound,
    bucket? values.weights (word % values.totalWeight) = some index

/-- A position with a weight is reached exactly if its bucket begins within the words. -/
theorem reached_iff (hweight : values.weights[index]? = some weight) (hpositive : 0 < weight) :
    values.Reached index ↔ values.bucketStart index < Sharding.wordBound := by
  constructor
  · rintro ⟨word, hword, hbucket⟩
    obtain ⟨_, _, hstart, _⟩ := bucket?_eq_some_iff.mp hbucket
    calc
      values.bucketStart index ≤ word % values.totalWeight := hstart
      _ ≤ word := Nat.mod_le _ _
      _ < Sharding.wordBound := hword
  · intro hstart
    have hend : values.bucketStart index + weight ≤ values.totalWeight :=
      bucketEnd_le_totalWeight hweight
    have hshard : values.bucketStart index % values.totalWeight = values.bucketStart index :=
      Nat.mod_eq_of_lt (by omega)
    -- the start of the bucket is itself a word that leads there
    refine ⟨values.bucketStart index, hstart, ?_⟩
    rw [hshard, bucket?_eq_some_iff]
    exact ⟨weight, hweight, Nat.le_refl _, by rw [bucketStart]; omega⟩

theorem reached_of_select? {key : String} {context : ContextSet} {value : Value}
    (h : values.select? key context = some (index, value)) : values.Reached index := by
  simp only [select?, Option.bind_eq_bind, Option.bind_eq_some_iff, Option.pure_def,
    Option.some.injEq, Prod.mk.injEq] at h
  obtain ⟨shard, hshard, found, hbucket, _, _, rfl, _⟩ := h
  unfold Sharding.shard? at hshard
  split at hshard
  · cases hshard
  · rw [Option.some.injEq] at hshard
    exact ⟨_, Sharding.leadingWord_lt _, hshard ▸ hbucket⟩

/-- A position with a weight is reached exactly if the weights before it sum to less than
the number of words, so that each one is if all weights together are no more than that.
A position that is not reached is not chosen for any key and context. -/
theorem positive_weight_reached_iff (hweight : values.weights[index]? = some weight)
    (hpositive : 0 < weight) :
    (values.Reached index ↔ values.bucketStart index < Sharding.wordBound) ∧
      (values.totalWeight ≤ Sharding.wordBound → values.Reached index) ∧
      (Sharding.wordBound ≤ values.bucketStart index →
        ∀ (key : String) (context : ContextSet) (value : Value),
          values.select? key context ≠ some (index, value)) := by
  have hreached := reached_iff hweight hpositive
  have hend : values.bucketStart index + weight ≤ values.totalWeight :=
    bucketEnd_le_totalWeight hweight
  refine ⟨hreached, ?_, ?_⟩
  · intro htotal
    apply hreached.mpr
    omega
  · intro hpast key context value hselect
    have hstart := hreached.mp (reached_of_select? hselect)
    omega

/-- Three values of which the first one takes up all words but one. -/
def lopsided : WeightedValues :=
  ⟨[⟨4294967295, .string "a"⟩, ⟨1, .string "b"⟩, ⟨1, .string "c"⟩], some "user.key"⟩

theorem lopsided_reaches_second_not_third :
    lopsided.Reached 1 ∧ ∀ (key : String) (context : ContextSet) (value : Value),
      lopsided.select? key context ≠ some (2, value) := by
  have hsecond : lopsided.weights[1]? = some 1 := by decide
  have hthird : lopsided.weights[2]? = some 1 := by decide
  constructor
  · exact (positive_weight_reached_iff hsecond (by decide)).1.mpr (by decide)
  · exact (positive_weight_reached_iff hthird (by decide)).2.2 (by decide)

theorem last_weight_of_lopsided_unreached :
    0 < lopsided.totalWeight ∧ lopsided.weights[2]? = some 1 ∧ ¬ lopsided.Reached 2 := by
  have hthird : lopsided.weights[2]? = some 1 := by decide
  have hpast : ¬ lopsided.bucketStart 2 < Sharding.wordBound := by decide
  exact ⟨by decide, hthird, fun hreached => hpast ((reached_iff hthird (by decide)).mp hreached)⟩

end WeightedValues
end LiveConfig
