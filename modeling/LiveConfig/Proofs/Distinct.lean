import Mathlib.Data.List.Basic
import Mathlib.Data.List.Nodup

/-!
# Elements that occur once

Pairs whose keys are distinct, without the pair of a key (`filter_fst_ne_of_split`); and the
distinct elements of a list in the order of their first occurrences, of which the first few
are those before which few others occur (`mem_take_eraseDups_iff`).
-/

namespace LiveConfig

variable {α : Type} [BEq α] [LawfulBEq α]

theorem bne_of_notMem {a : α} {list : List α} (h : a ∉ list) : ∀ b ∈ list, (b != a) = true := by
  intro b hb
  rw [bne_iff_ne]
  rintro rfl
  exact h hb

/-! ## Pairs by their keys -/

section Pairs

variable {β : Type u} {key : α}

theorem filter_fst_ne_eq_self {pairs : List (α × β)} (h : key ∉ pairs.map (·.1)) :
    pairs.filter (·.1 != key) = pairs := by
  rw [List.filter_eq_self]
  intro pair hpair
  exact bne_of_notMem h pair.1 (List.mem_map_of_mem hpair)

/-- Without the pair of a key, if the keys are distinct. -/
theorem filter_fst_ne_of_split {before after : List (α × β)} {value : β}
    (h : ((before ++ (key, value) :: after).map (·.1)).Nodup) :
    (before ++ (key, value) :: after).filter (·.1 != key) = before ++ after := by
  rw [List.map_append, List.map_cons, List.nodup_middle, List.nodup_cons] at h
  have hother : key ∉ (before ++ after).map (·.1) := by
    rw [List.map_append]
    exact h.1
  calc (before ++ (key, value) :: after).filter (·.1 != key)
      = (before ++ after).filter (·.1 != key) := by
        rw [List.filter_append, List.filter_cons_of_neg (by simp), List.filter_append]
    _ = before ++ after := filter_fst_ne_eq_self hother

end Pairs

/-! ## Distinct elements in the order of their first occurrences -/

theorem eraseDups_filter (p : α → Bool) (list : List α) :
    (list.filter p).eraseDups = list.eraseDups.filter p := by
  induction hlength : list.length using Nat.strongRecOn generalizing list with
  | ind n ih =>
      subst hlength
      cases list with
      | nil => rfl
      | cons a rest =>
          have hshorter : (rest.filter fun b => !b == a).length < (a :: rest).length :=
            Nat.lt_succ_of_le (List.length_filter_le _ _)
          have hrest := ih _ hshorter (rest.filter fun b => !b == a) rfl
          rw [List.eraseDups_cons]
          by_cases ha : p a = true
          · rw [List.filter_cons_of_pos ha, List.eraseDups_cons, List.filter_cons_of_pos ha,
              ← hrest, List.filter_filter, List.filter_filter]
            simp only [Bool.and_comm]
          · have hsame : (rest.filter fun b => !b == a).filter p = rest.filter p := by
              rw [List.filter_filter]
              apply List.filter_congr
              intro b _
              by_cases hb : b = a
              · simp [hb, ha]
              · simp [hb]
            rw [List.filter_cons_of_neg ha, List.filter_cons_of_neg ha, ← hrest, hsame]

theorem eraseDups_cons_eq (a : α) (list : List α) :
    (a :: list).eraseDups = a :: list.eraseDups.filter (· != a) := by
  rw [List.eraseDups_cons, eraseDups_filter]
  rfl

theorem nodup_eraseDups (list : List α) : list.eraseDups.Nodup := by
  induction list with
  | nil => exact List.nodup_nil
  | cons a rest ih =>
      rw [eraseDups_cons_eq, List.nodup_cons]
      exact ⟨by simp, ih.filter _⟩

/-- Dropping an element before or after the list is cut off makes no difference to a front
that is shorter by one. -/
theorem take_filter_take {list : List α} (h : list.Nodup) (a : α) (n : Nat) :
    ((list.take (n + 1)).filter (· != a)).take n = (list.filter (· != a)).take n := by
  induction list generalizing n with
  | nil => rfl
  | cons b rest ih =>
      obtain ⟨hb, hrest⟩ := List.nodup_cons.mp h
      rw [List.take_succ_cons]
      by_cases hba : b = a
      · have hfree : ∀ c ∈ rest, (c != a) = true := by
          intro c hc
          simp only [bne_iff_ne]
          rintro rfl
          exact hb (hba ▸ hc)
        have hfront : ∀ c ∈ rest.take n, (c != a) = true :=
          fun c hc => hfree c (List.mem_of_mem_take hc)
        rw [List.filter_cons_of_neg (by simp [hba]), List.filter_cons_of_neg (by simp [hba]),
          List.filter_eq_self.mpr hfree, List.filter_eq_self.mpr hfront, List.take_take,
          Nat.min_self]
      · rw [List.filter_cons_of_pos (by simp [hba]), List.filter_cons_of_pos (by simp [hba])]
        cases n with
        | zero => rfl
        | succ n => rw [List.take_succ_cons, List.take_succ_cons, ih hrest]

/-- An element is among the first `n` distinct ones if fewer than `n` occur before it. -/
theorem mem_take_eraseDups_iff {list : List α} {a : α} (h : a ∈ list) (n : Nat) :
    a ∈ list.eraseDups.take n ↔ (list.takeWhile (· != a)).eraseDups.length < n := by
  have hmem : a ∈ list.eraseDups := List.mem_eraseDups.mpr h
  obtain ⟨front, back, rfl, hfront⟩ := List.eq_append_cons_of_mem h
  have htake : (front ++ a :: back).takeWhile (· != a) = front := by
    rw [List.takeWhile_append_of_pos (bne_of_notMem hfront),
      List.takeWhile_cons_of_neg (by simp), List.append_nil]
  have hindex : (front ++ a :: back).eraseDups.idxOf a = front.eraseDups.length := by
    have hfree : a ∉ front.eraseDups := fun hmem => hfront (List.mem_eraseDups.mp hmem)
    rw [List.eraseDups_append, List.cons_removeAll, if_pos (by simpa using hfront),
      eraseDups_cons_eq, List.idxOf_append_of_notMem hfree, List.idxOf_cons_self, Nat.add_zero]
  rw [List.mem_take_iff_idxOf_lt hmem, hindex, htake]

end LiveConfig
