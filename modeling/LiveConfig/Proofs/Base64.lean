import LiveConfig.Text.Base64

/-!
# Base64 has one text for each byte sequence

Decoding accepts exactly the texts that encoding writes (`Base64.decode?_eq_some_iff`):
every symbol stands for one number below 64, padding stands only at the end, and the
bits under the padding are zero.
-/

namespace LiveConfig
namespace Base64

/-! ## Symbols -/

theorem value?_symbol {n : Nat} (h : n < 64) : value? (symbol n) = some n := by
  have hall : ∀ n < 64, value? (symbol n) = some n := by decide +kernel
  exact hall n h

theorem symbol_ne_pad {n : Nat} (h : n < 64) : symbol n ≠ '=' := by
  have hall : ∀ n < 64, symbol n ≠ '=' := by decide +kernel
  exact hall n h

theorem lt_of_value? {c : Char} {n : Nat} (h : value? c = some n) : c.toNat < 128 := by
  refine Nat.lt_of_not_le fun hlarge => ?_
  have hnone : value? c = none := by
    simp only [value?]
    rw [if_neg (by omega), if_neg (by omega), if_neg (by omega), if_neg (by omega),
      if_neg (by omega)]
  rw [hnone] at h
  cases h

theorem symbol_of_value? {c : Char} {n : Nat} (h : value? c = some n) :
    n < 64 ∧ symbol n = c := by
  have hall : ∀ m < 128, ∀ n ∈ value? (Char.ofNat m), n < 64 ∧ symbol n = Char.ofNat m := by
    decide +kernel
  have hchar := hall c.toNat (lt_of_value? h) n
  rw [Char.ofNat_toNat] at hchar
  exact hchar h

/-! ## Groups of symbols

The numbers of a group, read in base 64, are its bytes, read in base 256. -/

section Groups

variable {a b c d : Char} {k l m n : Nat} {x y z : UInt8}

theorem decodeChars?_one (ha : value? a = some k) (hb : value? b = some l)
    (hword : k * 64 + l = x.toNat * 16) : decodeChars? [a, b, '=', '='] = some [x] := by
  simp only [decodeChars?, ha, hb, Option.bind_eq_bind, Option.bind_some, hword]
  have hbyte : x.toNat * 16 / 16 = x.toNat := by omega
  rw [if_pos (by omega), hbyte, UInt8.ofNat_toNat]

theorem decodeChars?_two (ha : value? a = some k) (hb : value? b = some l)
    (hc : value? c = some m) (hpad : c ≠ '=')
    (hword : (k * 64 + l) * 64 + m = (x.toNat * 256 + y.toNat) * 4) :
    decodeChars? [a, b, c, '='] = some [x, y] := by
  have hy := y.toNat_lt
  rw [decodeChars?]
  · simp only [ha, hb, hc, Option.bind_eq_bind, Option.bind_some, hword]
    have hfirst : (x.toNat * 256 + y.toNat) * 4 / 1024 = x.toNat := by omega
    have hsecond : (x.toNat * 256 + y.toNat) * 4 / 4 % 256 = y.toNat := by omega
    rw [if_pos (by omega), hfirst, hsecond, UInt8.ofNat_toNat, UInt8.ofNat_toNat]
  · exact fun h => hpad h

theorem decodeChars?_three (ha : value? a = some k) (hb : value? b = some l)
    (hc : value? c = some m) (hd : value? d = some n) (hpad : d ≠ '=')
    (hword : ((k * 64 + l) * 64 + m) * 64 + n = (x.toNat * 256 + y.toNat) * 256 + z.toNat)
    (rest : List Char) :
    decodeChars? (a :: b :: c :: d :: rest) =
      (decodeChars? rest).map fun bytes => x :: y :: z :: bytes := by
  have hy := y.toNat_lt
  have hz := z.toNat_lt
  rw [decodeChars?]
  · simp only [ha, hb, hc, hd, Option.bind_eq_bind, Option.bind_some, hword]
    have hfirst : ((x.toNat * 256 + y.toNat) * 256 + z.toNat) / 65536 = x.toNat := by omega
    have hsecond : ((x.toNat * 256 + y.toNat) * 256 + z.toNat) / 256 % 256 = y.toNat := by omega
    have hthird : ((x.toNat * 256 + y.toNat) * 256 + z.toNat) % 256 = z.toNat := by omega
    rw [hfirst, hsecond, hthird, UInt8.ofNat_toNat, UInt8.ofNat_toNat, UInt8.ofNat_toNat]
    cases decodeChars? rest with
    | none => rfl
    | some bytes => rfl
  · exact fun _ h _ => hpad h
  · exact fun h _ => hpad h

theorem encodeChars_one (hl : l < 64) (hword : k * 64 + l = x.toNat * 16) :
    encodeChars [x] = [symbol k, symbol l, '=', '='] := by
  have hfirst : x.toNat * 16 / 64 = k := by omega
  have hsecond : x.toNat * 16 % 64 = l := by omega
  simp only [encodeChars, hfirst, hsecond]

theorem encodeChars_two (hl : l < 64) (hm : m < 64)
    (hword : (k * 64 + l) * 64 + m = (x.toNat * 256 + y.toNat) * 4) :
    encodeChars [x, y] = [symbol k, symbol l, symbol m, '='] := by
  have hfirst : (x.toNat * 256 + y.toNat) * 4 / 4096 = k := by omega
  have hsecond : (x.toNat * 256 + y.toNat) * 4 / 64 % 64 = l := by omega
  have hthird : (x.toNat * 256 + y.toNat) * 4 % 64 = m := by omega
  simp only [encodeChars, hfirst, hsecond, hthird]

theorem encodeChars_three (hl : l < 64) (hm : m < 64) (hn : n < 64)
    (hword : ((k * 64 + l) * 64 + m) * 64 + n = (x.toNat * 256 + y.toNat) * 256 + z.toNat)
    (rest : List UInt8) :
    encodeChars (x :: y :: z :: rest) =
      symbol k :: symbol l :: symbol m :: symbol n :: encodeChars rest := by
  have hfirst : ((x.toNat * 256 + y.toNat) * 256 + z.toNat) / 262144 = k := by omega
  have hsecond : ((x.toNat * 256 + y.toNat) * 256 + z.toNat) / 4096 % 64 = l := by omega
  have hthird : ((x.toNat * 256 + y.toNat) * 256 + z.toNat) / 64 % 64 = m := by omega
  have hfourth : ((x.toNat * 256 + y.toNat) * 256 + z.toNat) % 64 = n := by omega
  simp only [encodeChars, hfirst, hsecond, hthird, hfourth]

end Groups

/-! ## Both ways -/

theorem decodeChars?_encodeChars (bytes : List UInt8) :
    decodeChars? (encodeChars bytes) = some bytes := by
  induction bytes using encodeChars.induct with
  | case1 => rfl
  | case2 x =>
      have hx := x.toNat_lt
      exact decodeChars?_one (value?_symbol (by omega)) (value?_symbol (by omega)) (by omega)
  | case3 x y =>
      have hx := x.toNat_lt
      have hy := y.toNat_lt
      exact decodeChars?_two (value?_symbol (by omega)) (value?_symbol (by omega))
        (value?_symbol (by omega)) (symbol_ne_pad (by omega)) (by omega)
  | case4 x y z rest ih =>
      have hx := x.toNat_lt
      have hy := y.toNat_lt
      have hz := z.toNat_lt
      rw [encodeChars, decodeChars?_three (x := x) (y := y) (z := z) (value?_symbol (by omega))
        (value?_symbol (by omega)) (value?_symbol (by omega)) (value?_symbol (by omega))
        (symbol_ne_pad (by omega)) (by omega), ih]
      rfl

theorem eq_encodeChars_of_decodeChars? {text : List Char} {bytes : List UInt8}
    (h : decodeChars? text = some bytes) : text = encodeChars bytes := by
  induction text using decodeChars?.induct generalizing bytes with
  | case1 =>
      cases h
      rfl
  | case2 a b =>
      simp only [decodeChars?, Option.bind_eq_bind, Option.bind_eq_some_iff] at h
      obtain ⟨k, hk, l, hl, h⟩ := h
      obtain ⟨hk64, rfl⟩ := symbol_of_value? hk
      obtain ⟨hl64, rfl⟩ := symbol_of_value? hl
      split at h
      · cases h
        symm
        apply encodeChars_one hl64
        rw [UInt8.toNat_ofNat']
        omega
      · cases h
  | case3 a b c hpad =>
      rw [decodeChars?] at h
      · simp only [Option.bind_eq_bind, Option.bind_eq_some_iff] at h
        obtain ⟨k, hk, l, hl, m, hm, h⟩ := h
        obtain ⟨hk64, rfl⟩ := symbol_of_value? hk
        obtain ⟨hl64, rfl⟩ := symbol_of_value? hl
        obtain ⟨hm64, rfl⟩ := symbol_of_value? hm
        split at h
        · cases h
          symm
          apply encodeChars_two hl64 hm64
          rw [UInt8.toNat_ofNat', UInt8.toNat_ofNat']
          omega
        · cases h
      · exact hpad
  | case4 a b c d rest hone htwo ih =>
      rw [decodeChars?] at h
      · simp only [Option.bind_eq_bind, Option.bind_eq_some_iff] at h
        obtain ⟨k, hk, l, hl, m, hm, n, hn, more, hmore, h⟩ := h
        obtain ⟨hk64, rfl⟩ := symbol_of_value? hk
        obtain ⟨hl64, rfl⟩ := symbol_of_value? hl
        obtain ⟨hm64, rfl⟩ := symbol_of_value? hm
        obtain ⟨hn64, rfl⟩ := symbol_of_value? hn
        cases h
        rw [ih hmore]
        symm
        apply encodeChars_three hl64 hm64 hn64
        rw [UInt8.toNat_ofNat', UInt8.toNat_ofNat', UInt8.toNat_ofNat']
        omega
      · exact hone
      · exact htwo
  | case5 text hnil hone htwo hthree =>
      rw [decodeChars?] at h
      · cases h
      all_goals assumption

theorem decode?_eq_some_iff (text : String) (bytes : List UInt8) :
    decode? text = some bytes ↔ text = encode bytes := by
  unfold decode? encode
  constructor
  · intro h
    rw [← eq_encodeChars_of_decodeChars? h, String.ofList_toList]
  · rintro rfl
    rw [String.toList_ofList]
    exact decodeChars?_encodeChars bytes

-- the bits under the padding have to be zero, and padding cannot be left out
example : decode? "YQ==" = some [0x61] ∧ decode? "YR==" = none ∧ decode? "YQ" = none := by
  decide

end Base64
end LiveConfig
