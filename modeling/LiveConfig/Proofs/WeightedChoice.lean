import LiveConfig.Proofs.Alike
import LiveConfig.Proofs.Buckets
import Mathlib.Order.Interval.Finset.Nat

/-!
# Choices among weighted values

The shard of a key and a context is a word of the digest modulo the total weight, so there
is one if the total is positive, and it lies below the total.  The buckets are consecutive
intervals of shards that end where the next one begins (`WeightedValues.bucketStart_succ`),
and a shard is in one of them only: this is the bucket that is chosen
(`WeightedValues.bucket?_eq_some_iff_between`).

Two choices over the same hash property and the same total give a context the same shard
(`WeightedValues.SameShards.shard_eq`).  So what changes with the weights is only where the
buckets end, and a context moves to an earlier value if ends move up.
-/

namespace LiveConfig

theorem Md5.exists_bytes_digest (message : List UInt8) :
    ∃ b₀ b₁ b₂ b₃ rest, Md5.digest message = b₀ :: b₁ :: b₂ :: b₃ :: rest :=
  ⟨_, _, _, _, _, rfl⟩

theorem Sharding.leadingWord_cons (b₀ b₁ b₂ b₃ : UInt8) (rest : List UInt8) :
    leadingWord (b₀ :: b₁ :: b₂ :: b₃ :: rest) =
      b₀.toNat * 2 ^ 24 + b₁.toNat * 2 ^ 16 + b₂.toNat * 2 ^ 8 + b₃.toNat := by
  have hword : leadingWord (b₀ :: b₁ :: b₂ :: b₃ :: rest) =
      256 * (256 * (256 * (256 * 0 + b₀.toNat) + b₁.toNat) + b₂.toNat) + b₃.toNat := rfl
  omega

namespace WeightedValues

/-! ## Shards and their buckets -/

/-- The shard of a key and a context, if the total weight is positive. -/
def shard (values : WeightedValues) (key : String) (context : ContextSet) : Nat :=
  Sharding.leadingWord (Md5.digest (Utf8.encode (key ++ values.hashIdentity context))) %
    values.totalWeight

theorem shard_lt (values : WeightedValues) (key : String) (context : ContextSet)
    (htotal : 0 < values.totalWeight) : values.shard key context < values.totalWeight :=
  Nat.mod_lt _ htotal

theorem bucketStart_succ {values : WeightedValues} {index weight : Nat}
    (hweight : values.weights[index]? = some weight) :
    values.bucketStart (index + 1) = values.bucketStart index + weight := by
  rw [bucketStart, bucketStart, List.take_add_one, hweight, Option.toList_some, List.sum_append,
    List.sum_singleton]

theorem bucketStart_succ_of_none {values : WeightedValues} {index : Nat}
    (hindex : values.weights[index]? = none) :
    values.bucketStart (index + 1) = values.bucketStart index := by
  rw [bucketStart, bucketStart, List.take_add_one, hindex, Option.toList_none, List.append_nil]

theorem bucketStart_mono (values : WeightedValues) : Monotone values.bucketStart := by
  apply monotone_nat_of_le_succ
  intro index
  cases hweight : values.weights[index]? with
  | none => rw [bucketStart_succ_of_none hweight]
  | some weight =>
      rw [bucketStart_succ hweight]
      exact Nat.le_add_right _ _

/-- The bucket of a shard is the one that begins at or before it and ends after it. -/
theorem bucket?_eq_some_iff_between {values : WeightedValues} {shard index : Nat} :
    bucket? values.weights shard = some index ↔
      values.bucketStart index ≤ shard ∧ shard < values.bucketStart (index + 1) := by
  rw [bucket?_eq_some_iff]
  cases hweight : values.weights[index]? with
  | none =>
      rw [bucketStart_succ_of_none hweight]
      constructor
      · rintro ⟨weight, hsome, -⟩
        cases hsome
      · rintro ⟨hstart, hend⟩
        omega
  | some weight =>
      rw [bucketStart_succ hweight]
      simp [bucketStart]

theorem select?_of_pos (values : WeightedValues) (key : String) (context : ContextSet)
    (htotal : 0 < values.totalWeight) :
    ∃ index choice, values.choices[index]? = some choice ∧
      values.select? key context = some (index, choice.value) ∧
      bucket? values.weights (values.shard key context) = some index := by
  obtain ⟨index, hbucket, hlt⟩ := bucket?_of_lt (values.shard_lt key context htotal)
  have hbound : index < values.choices.length := by simpa [weights] using hlt
  have hchoice : values.choices[index]? = some values.choices[index] :=
    List.getElem?_eq_getElem hbound
  refine ⟨index, values.choices[index], hchoice, ?_, hbucket⟩
  have hshard : Sharding.shard? (Utf8.encode (key ++ values.hashIdentity context))
      values.totalWeight = some (values.shard key context) :=
    if_neg (Nat.pos_iff_ne_zero.mp htotal)
  simp [select?, hshard, hbucket, hchoice]

theorem weights_getElem? {values : WeightedValues} {index : Nat} {choice : WeightedValue}
    (hchoice : values.choices[index]? = some choice) :
    values.weights[index]? = some choice.weight.toNat := by
  rw [weights, List.getElem?_map, hchoice, Option.map_some]

/-- Of the shards below the total weight as many are in a bucket as its weight says. -/
theorem card_bucket {values : WeightedValues} {index : Nat} {choice : WeightedValue}
    (hchoice : values.choices[index]? = some choice) :
    ((Finset.range values.totalWeight).filter fun shard =>
      bucket? values.weights shard = some index).card = choice.weight.toNat := by
  have hweight := weights_getElem? hchoice
  have hnext := bucketStart_succ hweight
  have hend := bucketEnd_le_totalWeight hweight
  have hbucket : ((Finset.range values.totalWeight).filter fun shard =>
      bucket? values.weights shard = some index) =
        Finset.Ico (values.bucketStart index) (values.bucketStart (index + 1)) := by
    ext shard
    rw [Finset.mem_filter, Finset.mem_range, Finset.mem_Ico, bucket?_eq_some_iff_between]
    omega
  rw [hbucket, Nat.card_Ico, hnext, Nat.add_sub_cancel_left]

theorem resolve_weighted_eq_error_iff (values : WeightedValues) (env : Environment)
    (context : ContextSet) (config : Config) (error : EvaluationError) :
    (ValueSource.weighted values).resolve env context config = .error error ↔
      values.totalWeight = 0 ∧ error = .invalidWeights := by
  rw [← select?_eq_none_iff values config.key context, ValueSource.resolve]
  cases values.select? config.key context with
  | none => simp [eq_comm]
  | some found => simp

/-- A choice fails exactly if the total weight is zero.  Otherwise it is the one whose bucket
holds the shard, which is the first word of the digest of the key and the hash identity,
modulo the total; so its weight is positive.  Every shard below the total is in a bucket, and
a position has as many of these shards as its weight says. -/
theorem selects_bucket_of_shard (values : WeightedValues) (key : String) (context : ContextSet) :
    (values.select? key context = none ↔ values.totalWeight = 0) ∧
    (∀ (env : Environment) (config : Config) (error : EvaluationError),
      (ValueSource.weighted values).resolve env context config = .error error ↔
        values.totalWeight = 0 ∧ error = .invalidWeights) ∧
    (0 < values.totalWeight → ∃ b₀ b₁ b₂ b₃ rest shard index choice,
      Md5.digest (Utf8.encode (key ++ values.hashIdentity context)) =
        b₀ :: b₁ :: b₂ :: b₃ :: rest ∧
      shard = (b₀.toNat * 2 ^ 24 + b₁.toNat * 2 ^ 16 + b₂.toNat * 2 ^ 8 + b₃.toNat) %
        values.totalWeight ∧
      values.choices[index]? = some choice ∧
      values.select? key context = some (index, choice.value) ∧
      0 < choice.weight.toNat ∧
      ∀ position, values.bucketStart position ≤ shard ∧
        shard < values.bucketStart (position + 1) ↔ position = index) ∧
    (∀ shard < values.totalWeight, ∃ index, bucket? values.weights shard = some index) ∧
    ∀ index choice, values.choices[index]? = some choice →
      ((Finset.range values.totalWeight).filter fun shard =>
        bucket? values.weights shard = some index).card = choice.weight.toNat := by
  refine ⟨values.select?_eq_none_iff key context,
    fun env config error => values.resolve_weighted_eq_error_iff env context config error,
    ?_, ?_, fun index choice hchoice => card_bucket hchoice⟩
  · intro htotal
    obtain ⟨b₀, b₁, b₂, b₃, rest, hdigest⟩ :=
      Md5.exists_bytes_digest (Utf8.encode (key ++ values.hashIdentity context))
    obtain ⟨index, choice, hchoice, hselect, hbucket⟩ := values.select?_of_pos key context htotal
    have hbetween := bucket?_eq_some_iff_between.mp hbucket
    have hnext := bucketStart_succ (weights_getElem? hchoice)
    refine ⟨b₀, b₁, b₂, b₃, rest, values.shard key context, index, choice, hdigest, ?_, hchoice,
      hselect, by omega, ?_⟩
    · rw [shard, hdigest, Sharding.leadingWord_cons]
    · intro position
      rw [← bucket?_eq_some_iff_between, hbucket, Option.some.injEq, eq_comm]
  · intro shard hshard
    obtain ⟨index, hindex, -⟩ := bucket?_of_lt hshard
    exact ⟨index, hindex⟩

/-- A flag that is on for a share of the users in a hundred. -/
def flagFor (share : UInt32) : WeightedValues :=
  ⟨[⟨share, .bool true⟩, ⟨100 - share, .bool false⟩], some "user.key"⟩

def userSet (key : String) : ContextSet :=
  .ofList [(Context.empty "user").set "key" (.string key)]

/-- The digest of the flag's key and this user's begins with a word that leaves 44. -/
theorem selects_bucket_of_shard_flag :
    0 < (flagFor 10).totalWeight ∧
    (flagFor 10).select? "flag" (userSet "u9") = some (1, .bool false) ∧
    (∃ index, bucket? (flagFor 10).weights 99 = some index) ∧
    ((Finset.range 100).filter fun shard =>
      bucket? (flagFor 10).weights shard = some 0).card = 10 := by
  obtain ⟨-, -, hselect, hcovered, hcard⟩ :=
    selects_bucket_of_shard (flagFor 10) "flag" (userSet "u9")
  have hpositive : 0 < (flagFor 10).totalWeight := by decide
  have hword : (Md5.digest (Utf8.encode
      ("flag" ++ (flagFor 10).hashIdentity (userSet "u9")))).take 4 = [93, 24, 103, 224] := by
    decide +kernel
  obtain ⟨b₀, b₁, b₂, b₃, rest, shard, index, choice, hdigest, hshard, hchoice, hselected, -,
    hunique⟩ := hselect hpositive
  rw [hdigest] at hword
  obtain ⟨rfl, rfl, rfl, rfl⟩ : b₀ = 93 ∧ b₁ = 24 ∧ b₂ = 103 ∧ b₃ = 224 := by simpa using hword
  have hvalue : shard = 44 := hshard
  obtain rfl : 1 = index := (hunique 1).mp (by rw [hvalue]; decide)
  cases hchoice
  exact ⟨hpositive, hselected, hcovered 99 (by decide), hcard 0 ⟨10, .bool true⟩ rfl⟩

/-! ## Other weights -/

/-- Two choices that give every key and context the same shard. -/
structure SameShards (a b : WeightedValues) : Prop where
  hashBy : a.hashBy = b.hashBy
  totalWeight : a.totalWeight = b.totalWeight

theorem SameShards.shard_eq {a b : WeightedValues} (h : SameShards a b) (key : String)
    (context : ContextSet) : a.shard key context = b.shard key context := by
  rw [shard, shard, hashIdentity, hashIdentity, h.hashBy, h.totalWeight]

/-- Where no bucket ends earlier in `b`, a shard is in no later bucket of `b`. -/
theorem bucket_le_of_ends_le {a b : WeightedValues} {shard i j : Nat}
    (hends : a.bucketStart (i + 1) ≤ b.bucketStart (i + 1))
    (hi : bucket? a.weights shard = some i) (hj : bucket? b.weights shard = some j) : j ≤ i := by
  rw [bucket?_eq_some_iff_between] at hi hj
  by_contra hlater
  have hstart : b.bucketStart (i + 1) ≤ b.bucketStart j := b.bucketStart_mono (by omega)
  omega

theorem bucketStart_one {values : WeightedValues} {choice : WeightedValue}
    (hchoice : values.choices[0]? = some choice) :
    values.bucketStart 1 = choice.weight.toNat := by
  have hzero : values.bucketStart 0 = 0 := rfl
  rw [bucketStart_succ (weights_getElem? hchoice), hzero, Nat.zero_add]

theorem SameShards.select?_le {a b : WeightedValues} (h : SameShards a b) {key : String}
    {context : ContextSet} {i : Nat} {v : Value} (hchosen : a.select? key context = some (i, v))
    (hends : a.bucketStart (i + 1) ≤ b.bucketStart (i + 1)) :
    ∃ j choice, b.choices[j]? = some choice ∧
      b.select? key context = some (j, choice.value) ∧ j ≤ i := by
  have hpositive : 0 < a.totalWeight := by
    rw [Nat.pos_iff_ne_zero]
    intro hzero
    rw [(a.select?_eq_none_iff key context).mpr hzero] at hchosen
    cases hchosen
  obtain ⟨index, _, _, hselect, hi⟩ := a.select?_of_pos key context hpositive
  obtain ⟨j, choice, hchoice, hselect', hj⟩ :=
    b.select?_of_pos key context (h.totalWeight ▸ hpositive)
  rw [hselect, Option.some.injEq, Prod.mk.injEq] at hchosen
  obtain ⟨rfl, -⟩ := hchosen
  rw [← h.shard_eq] at hj
  exact ⟨j, choice, hchoice, hselect', bucket_le_of_ends_le hends hi hj⟩

/-- If the weights change, with the total kept, so that no bucket ends earlier, every
context stays with its choice or moves to an earlier one.  So a context with the first
choice stays with it where the first weight is raised at the expense of others. -/
theorem select?_sticky :
    (∀ a b : WeightedValues, a.hashBy = b.hashBy → a.totalWeight = b.totalWeight →
      0 < a.totalWeight →
      (∀ index < a.choices.length, a.bucketStart (index + 1) ≤ b.bucketStart (index + 1)) →
      ∀ (key : String) (context : ContextSet), ∃ i v j w,
        a.select? key context = some (i, v) ∧ b.select? key context = some (j, w) ∧ j ≤ i) ∧
    ∀ (a b : WeightedValues) (first raised : WeightedValue), a.hashBy = b.hashBy →
      a.totalWeight = b.totalWeight → a.choices[0]? = some first →
      b.choices[0]? = some raised → first.weight ≤ raised.weight →
      ∀ (key : String) (context : ContextSet) (v : Value),
        a.select? key context = some (0, v) → b.select? key context = some (0, raised.value) := by
  constructor
  · intro a b hhash htotal hpositive hends key context
    obtain ⟨i, v, hv, hselect, -⟩ := a.select?_of_pos key context hpositive
    have hlength : i < a.choices.length := (List.getElem?_eq_some_iff.mp hv).1
    obtain ⟨j, w, -, hselect', hle⟩ :=
      SameShards.select?_le ⟨hhash, htotal⟩ hselect (hends i hlength)
    exact ⟨i, v.value, j, w.value, hselect, hselect', hle⟩
  · intro a b first raised hhash htotal hfirst hraised hweight key context v hchosen
    have hends : a.bucketStart (0 + 1) ≤ b.bucketStart (0 + 1) := by
      rw [bucketStart_one hfirst, bucketStart_one hraised]
      exact hweight
    obtain ⟨j, w, hw, hselect, hle⟩ := SameShards.select?_le ⟨hhash, htotal⟩ hchosen hends
    obtain rfl : j = 0 := Nat.le_zero.mp hle
    rw [hraised, Option.some.injEq] at hw
    rw [hselect, hw]

theorem select?_sticky_flag :
    (∃ i v j w, (flagFor 10).select? "flag" (userSet "u9") = some (i, v) ∧
      (flagFor 50).select? "flag" (userSet "u9") = some (j, w) ∧ j ≤ i) ∧
    (flagFor 50).select? "flag" (userSet "u2") = some (0, .bool true) := by
  obtain ⟨hmoved, hkept⟩ := select?_sticky
  have hends : ∀ index < (flagFor 10).choices.length,
      (flagFor 10).bucketStart (index + 1) ≤ (flagFor 50).bucketStart (index + 1) := by decide
  have hfirst : ((flagFor 10).select? "flag" (userSet "u2")).map (·.1) = some 0 := by
    decide +kernel
  obtain ⟨⟨_, v⟩, hchosen, rfl⟩ := Option.map_eq_some_iff.mp hfirst
  constructor
  · exact hmoved (flagFor 10) (flagFor 50) rfl (by decide) (by decide) hends "flag" (userSet "u9")
  · exact hkept (flagFor 10) (flagFor 50) ⟨10, .bool true⟩ ⟨50, .bool true⟩ rfl (by decide) rfl rfl
      (by decide) "flag" (userSet "u2") v hchosen

end WeightedValues
end LiveConfig
