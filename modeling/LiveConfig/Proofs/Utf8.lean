import LiveConfig.Text.Utf8

/-!
# Reading UTF-8 that was written

The bytes of a text are those of its characters one after another
(`Utf8.encode_eq_flatMap`), and the reader gives the text back (`Utf8.decode?_encode`).
For a character the reader makes one step on the first byte, which fixes how many bytes
are due and the range of the next one, and one step of six bits on each byte after it.
-/

namespace LiveConfig
namespace Utf8

/-! ## Bytes of a text -/

theorem encode_eq_flatMap (text : String) :
    encode text = text.toList.flatMap String.utf8EncodeChar := by
  have hbytes : text.toUTF8 = text.toList.utf8Encode := by
    rw [← String.toByteArray_ofList, String.ofList_toList]
    rfl
  rw [encode, hbytes, List.utf8Encode, List.data_toByteArray]

theorem encode_ofList (chars : List Char) :
    encode (String.ofList chars) = chars.flatMap String.utf8EncodeChar := by
  rw [encode_eq_flatMap, String.toList_ofList]

theorem encode_append (s t : String) : encode (s ++ t) = encode s ++ encode t := by
  simp only [encode_eq_flatMap, String.toList_append, List.flatMap_append]

theorem encode_join (texts : List String) :
    encode (String.join texts) = texts.flatMap encode := by
  have heach : texts.flatMap encode =
      texts.flatMap fun text => text.toList.flatMap String.utf8EncodeChar :=
    congrArg (texts.flatMap ·) (funext encode_eq_flatMap)
  rw [heach, encode_eq_flatMap, String.toList_join, List.flatMap_assoc]

theorem utf8EncodeChar_ascii {c : Char} (h : c.toNat < 0x80) :
    String.utf8EncodeChar c = [UInt8.ofNat c.toNat] :=
  if_pos (Nat.le_of_lt_succ h)

/-! ## Steps of the reader -/

theorem units_cons (pending : Option Pending) (b : UInt8) (rest : List UInt8) :
    units pending (b :: rest) =
      (step pending b.toNat).1 ++ units (step pending b.toNat).2 rest := by
  cases pending <;> rfl

section Bytes

variable {code low high n : Nat} (hbyte : n < 0x100)

include hbyte

theorem units_ofNat (pending : Option Pending) (rest : List UInt8) :
    units pending (UInt8.ofNat n :: rest) =
      (step pending n).1 ++ units (step pending n).2 rest := by
  rw [units_cons, UInt8.toNat_ofNat_of_lt' hbyte]

theorem units_start {next : Option Pending} (h : start n = ([], next)) (rest : List UInt8) :
    units none (UInt8.ofNat n :: rest) = units next rest := by
  rw [units_ofNat hbyte]
  simp [step, h]

theorem units_within (hlow : low ≤ n) (hhigh : n ≤ high) (due : Nat) (rest : List UInt8) :
    units (some ⟨code, due + 2, low, high⟩) (UInt8.ofNat n :: rest) =
      units (some ⟨code * 64 + n % 64, due + 1, 0x80, 0xBF⟩) rest := by
  rw [units_ofNat hbyte]
  simp [step, hlow, hhigh]

theorem units_last (hlow : low ≤ n) (hhigh : n ≤ high) (rest : List UInt8) :
    units (some ⟨code, 1, low, high⟩) (UInt8.ofNat n :: rest) =
      some (Char.ofNat (code * 64 + n % 64)) :: units none rest := by
  rw [units_ofNat hbyte]
  simp [step, hlow, hhigh]

end Bytes

/-! ## First bytes -/

theorem start_two {lead : Nat} (hlow : 2 ≤ lead) (hhigh : lead < 32) :
    start (lead + 0xC0) = ([], some ⟨lead, 1, 0x80, 0xBF⟩) := by
  have hascii : ¬ lead + 0xC0 < 0x80 := by omega
  have hrange : 0xC2 ≤ lead + 0xC0 ∧ lead + 0xC0 ≤ 0xDF := by omega
  simp [start, hascii, hrange]

/-- The range of the byte after the first of three leaves out what two bytes can say and
the surrogates. -/
theorem start_three {v : Nat} (hlow : 0x800 ≤ v) (hhigh : v ≤ 0xFFFF)
    (hscalar : v < 0xD800 ∨ 0xDFFF < v) :
    ∃ low high, start (v / 4096 + 0xE0) = ([], some ⟨v / 4096, 2, low, high⟩) ∧
      low ≤ v / 64 % 64 + 0x80 ∧ v / 64 % 64 + 0x80 ≤ high := by
  have hascii : ¬ v / 4096 + 0xE0 < 0x80 := by omega
  have htwo : ¬ (0xC2 ≤ v / 4096 + 0xE0 ∧ v / 4096 + 0xE0 ≤ 0xDF) := by omega
  by_cases hfirst : v / 4096 = 0
  · refine ⟨0xA0, 0xBF, ?_, by omega, by omega⟩
    simp [start, hfirst]
  by_cases hsurrogates : v / 4096 = 0xD
  · refine ⟨0x80, 0x9F, ?_, by omega, by omega⟩
    simp [start, hsurrogates]
  · refine ⟨0x80, 0xBF, ?_, by omega, by omega⟩
    have hE0 : ¬ v / 4096 + 0xE0 = 0xE0 := by omega
    have hED : ¬ v / 4096 + 0xE0 = 0xED := by omega
    have hrange : 0xE1 ≤ v / 4096 + 0xE0 ∧ v / 4096 + 0xE0 ≤ 0xEF := by omega
    rw [start, if_neg hascii, if_neg htwo, if_neg hE0, if_neg hED, if_pos hrange,
      Nat.add_sub_cancel]

theorem start_four {v : Nat} (hlow : 0x10000 ≤ v) (hhigh : v < 0x110000) :
    ∃ low high, start (v / 262144 + 0xF0) = ([], some ⟨v / 262144, 3, low, high⟩) ∧
      low ≤ v / 4096 % 64 + 0x80 ∧ v / 4096 % 64 + 0x80 ≤ high := by
  obtain hlead | hlead | hlead :
      v / 262144 = 0 ∨ v / 262144 = 4 ∨ (1 ≤ v / 262144 ∧ v / 262144 ≤ 3) := by omega
  · refine ⟨0x90, 0xBF, ?_, by omega, by omega⟩
    simp [start, hlead]
  · refine ⟨0x80, 0x8F, ?_, by omega, by omega⟩
    simp [start, hlead]
  · refine ⟨0x80, 0xBF, ?_, by omega, by omega⟩
    obtain h | h | h : v / 262144 = 1 ∨ v / 262144 = 2 ∨ v / 262144 = 3 := by omega
    all_goals simp [start, h]

/-! ## Characters -/

theorem toNat_lt_scalar (c : Char) :
    c.toNat < 0xD800 ∨ (0xDFFF < c.toNat ∧ c.toNat < 0x110000) := c.valid

theorem units_utf8EncodeChar (c : Char) (rest : List UInt8) :
    units none (String.utf8EncodeChar c ++ rest) = some c :: units none rest := by
  have hscalar := toNat_lt_scalar c
  unfold String.utf8EncodeChar
  rw [show c.val.toNat = c.toNat from rfl]
  generalize hv : c.toNat = v at hscalar
  have hc : c = Char.ofNat v := by rw [← hv, Char.ofNat_toNat]
  by_cases hone : v ≤ 0x7F
  · simp only [if_pos hone, List.cons_append, List.nil_append]
    rw [units_ofNat (by omega)]
    have hascii : v < 0x80 := by omega
    simp [step, start, hascii, hc]
  by_cases htwo : v ≤ 0x7FF
  · simp only [if_neg hone, if_pos htwo, List.cons_append, List.nil_append]
    have hlead : v / 64 % 0x20 + 0xC0 = v / 64 + 0xC0 := by omega
    have hcode : v / 64 * 64 + (v % 64 + 0x80) % 64 = v := by omega
    rw [hlead, units_start (by omega) (start_two (by omega) (by omega)),
      units_last (by omega) (by omega) (by omega), hcode, hc]
  by_cases hthree : v ≤ 0xFFFF
  · simp only [if_neg hone, if_neg htwo, if_pos hthree, List.cons_append, List.nil_append]
    have hlead : v / 4096 % 0x10 + 0xE0 = v / 4096 + 0xE0 := by omega
    have hcode : (v / 4096 * 64 + (v / 64 % 64 + 0x80) % 64) * 64 + (v % 64 + 0x80) % 64 = v := by
      omega
    obtain ⟨low, high, hstart, hlow, hhigh⟩ :=
      start_three (v := v) (by omega) hthree (by omega)
    rw [hlead, units_start (by omega) hstart, units_within (by omega) hlow hhigh,
      units_last (by omega) (by omega) (by omega), hcode, hc]
  · simp only [if_neg hone, if_neg htwo, if_neg hthree, List.cons_append, List.nil_append]
    have hlead : v / 262144 % 0x8 + 0xF0 = v / 262144 + 0xF0 := by omega
    have hcode : ((v / 262144 * 64 + (v / 4096 % 64 + 0x80) % 64) * 64 +
        (v / 64 % 64 + 0x80) % 64) * 64 + (v % 64 + 0x80) % 64 = v := by omega
    obtain ⟨low, high, hstart, hlow, hhigh⟩ := start_four (v := v) (by omega) (by omega)
    rw [hlead, units_start (by omega) hstart, units_within (by omega) hlow hhigh,
      units_within (by omega) (by omega) (by omega), units_last (by omega) (by omega) (by omega),
      hcode, hc]

theorem units_flatMap (chars : List Char) :
    units none (chars.flatMap String.utf8EncodeChar) = chars.map some := by
  induction chars with
  | nil => rfl
  | cons c rest ih => rw [List.flatMap_cons, units_utf8EncodeChar, ih, List.map_cons]

theorem decode?_flatMap (chars : List Char) :
    decode? (chars.flatMap String.utf8EncodeChar) = some (String.ofList chars) := by
  have hall : (chars.map some).mapM id = some chars := by
    induction chars with
    | nil => rfl
    | cons c rest ih => simp [List.mapM_cons, ih]
  rw [decode?, units_flatMap, hall]
  rfl

theorem decode?_encode (text : String) : decode? (encode text) = some text := by
  rw [encode_eq_flatMap, decode?_flatMap, String.ofList_toList]

/-- The bytes of a character past ASCII are past ASCII. -/
theorem byte_of_utf8EncodeChar {c : Char} (h : 0x80 ≤ c.toNat) :
    ∀ b ∈ String.utf8EncodeChar c, 0x80 ≤ b.toNat := by
  have hbyte : ∀ {n : Nat}, 0x80 ≤ n → n < 256 → 0x80 ≤ (UInt8.ofNat n).toNat := by
    intro n hlow hhigh
    rwa [UInt8.toNat_ofNat_of_lt' hhigh]
  have hone : ¬ c.val.toNat ≤ 0x7F := by
    change ¬ c.toNat ≤ 0x7F
    omega
  intro b hb
  simp only [String.utf8EncodeChar, if_neg hone] at hb
  split at hb
  · simp only [List.mem_cons, List.not_mem_nil, or_false] at hb
    rcases hb with rfl | rfl
    all_goals exact hbyte (by omega) (by omega)
  · split at hb
    · simp only [List.mem_cons, List.not_mem_nil, or_false] at hb
      rcases hb with rfl | rfl | rfl
      all_goals exact hbyte (by omega) (by omega)
    · simp only [List.mem_cons, List.not_mem_nil, or_false] at hb
      rcases hb with rfl | rfl | rfl | rfl
      all_goals exact hbyte (by omega) (by omega)

end Utf8
end LiveConfig
