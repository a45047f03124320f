import LiveConfig.Json.Document
import LiveConfig.Json.Printer
import LiveConfig.Proofs.Utf8

/-!
# Numerals and string literals in JSON

The parser reads back the numeral of an integer of 64 bits
(`Document.parseNumber_numeral`, `Document.number_toDigits`) and the literal of any text
(`Document.parseString_literal`).  Both stand before a rest of the text: a numeral ends
where a rest begins that may stand after a value (`Document.Follows`), a literal at its
quotation mark.  The literal of a text is taken character by character: what the parser
makes of a character's literal does not depend on what follows.
-/

namespace LiveConfig
namespace Document

/-- What may stand after a value: nothing, or what goes on or closes a list or an object. -/
inductive Follows : List UInt8 → Prop
  | nil : Follows []
  | comma (rest : List UInt8) : Follows (0x2C :: rest)
  | bracket (rest : List UInt8) : Follows (0x5D :: rest)
  | brace (rest : List UInt8) : Follows (0x7D :: rest)

/-! ## Numbers -/

/-- The bytes of a decimal numeral. -/
def numeral (n : Nat) : List UInt8 := (Nat.toDigits 10 n).map fun c => UInt8.ofNat c.toNat

theorem toNat_of_mem_toDigits {c : Char} {n : Nat} (h : c ∈ Nat.toDigits 10 n) :
    0x30 ≤ c.toNat ∧ c.toNat ≤ 0x39 := by
  have hdigit := Nat.isDigit_of_mem_toDigits (by decide) (by decide) h
  simp only [Char.isDigit, Bool.and_eq_true, decide_eq_true_eq] at hdigit
  exact hdigit

theorem toNat_digitByte {c : Char} {n : Nat} (h : c ∈ Nat.toDigits 10 n) :
    (UInt8.ofNat c.toNat).toNat = c.toNat := by
  have hrange := toNat_of_mem_toDigits h
  have hbyte : c.toNat < 0x100 := by omega
  exact UInt8.toNat_ofNat_of_lt' hbyte

theorem encode_repr (n : Nat) : Utf8.encode n.repr = numeral n := by
  have hbytes : ∀ digits : List Char, (∀ c ∈ digits, c.toNat ≤ 0x39) →
      digits.flatMap String.utf8EncodeChar = digits.map fun c => UInt8.ofNat c.toNat := by
    intro digits hdigits
    induction digits with
    | nil => rfl
    | cons c rest ih =>
        rw [List.forall_mem_cons] at hdigits
        have hascii : c.toNat < 0x80 := by omega
        rw [List.flatMap_cons, Utf8.utf8EncodeChar_ascii hascii, ih hdigits.2]
        rfl
  rw [Nat.repr_eq_ofList_toDigits, Utf8.encode_ofList]
  exact hbytes _ fun c hc => (toNat_of_mem_toDigits hc).2

theorem isDigitByte_of_mem_numeral {b : UInt8} {n : Nat} (h : b ∈ numeral n) :
    isDigitByte b = true := by
  obtain ⟨c, hc, rfl⟩ := List.mem_map.mp h
  simp only [isDigitByte, Bool.and_eq_true, decide_eq_true_eq, UInt8.le_iff_toNat_le,
    toNat_digitByte hc]
  exact toNat_of_mem_toDigits hc

theorem digits_numeral (n : Nat) {rest : List UInt8} (hrest : Follows rest) :
    digits (numeral n ++ rest) = (Nat.toDigits 10 n, rest) := by
  have hstop : rest.takeWhile isDigitByte = [] ∧ rest.dropWhile isDigitByte = rest := by
    cases hrest <;> exact ⟨rfl, rfl⟩
  have hall : ∀ b ∈ numeral n, isDigitByte b = true := fun b => isDigitByte_of_mem_numeral
  have hchar : ∀ c ∈ Nat.toDigits 10 n, Char.ofNat (UInt8.ofNat c.toNat).toNat = c := by
    intro c hc
    rw [toNat_digitByte hc, Char.ofNat_toNat]
  have hback : (numeral n).map (fun b => Char.ofNat b.toNat) = Nat.toDigits 10 n := by
    rw [numeral, List.map_map]
    exact (List.map_congr_left hchar).trans (List.map_id _)
  rw [digits, List.takeWhile_append_of_pos hall, List.dropWhile_append_of_pos hall, hstop.1,
    hstop.2, List.append_nil, hback]

/-- A numeral has no superfluous zero at its front. -/
theorem head_toDigits {n : Nat} (h : 0 < n) : (Nat.toDigits 10 n).head? ≠ some '0' := by
  induction n using Nat.strongRecOn with
  | ind n ih =>
      by_cases hsmall : n < 10
      · rw [Nat.toDigits_of_lt_base hsmall]
        obtain h | h | h | h | h | h | h | h | h : n = 1 ∨ n = 2 ∨ n = 3 ∨ n = 4 ∨ n = 5 ∨
          n = 6 ∨ n = 7 ∨ n = 8 ∨ n = 9 := by omega
        all_goals subst h; decide
      · have hfront := ih (n / 10) (by omega) (by omega)
        rw [Nat.toDigits_of_base_le (by decide) (by omega), List.head?_append]
        cases hdigits : Nat.toDigits 10 (n / 10) with
        | nil => exact absurd hdigits Nat.toDigits_ne_nil
        | cons c rest =>
            rw [hdigits] at hfront
            simpa using hfront

theorem plain_toDigits (n : Nat) :
    ¬ (Nat.toDigits 10 n = [] ∨
      ((Nat.toDigits 10 n).head? = some '0' ∧ 1 < (Nat.toDigits 10 n).length)) := by
  rintro (hnil | ⟨hzero, hlength⟩)
  · exact Nat.toDigits_ne_nil hnil
  · by_cases hn : n = 0
    · subst hn
      simp at hlength
    · exact head_toDigits (by omega) hzero

theorem le_ofDigitChars (digits : List Char) (n : Nat) : n ≤ Nat.ofDigitChars 10 digits n := by
  rw [Nat.ofDigitChars_eq_ofDigitChars_zero]
  have hpow : 0 < 10 ^ digits.length := Nat.pow_pos (by decide)
  have hmul : n ≤ 10 ^ digits.length * n := Nat.le_mul_of_pos_left n hpow
  omega

theorem significand_eq {digits : List Char} {n : Nat} (count : Nat)
    (h : Nat.ofDigitChars 10 digits n < 0x10000000000000000) :
    significand n count digits = (Nat.ofDigitChars 10 digits n, count + digits.length, []) := by
  induction digits generalizing n count with
  | nil => rfl
  | cons c rest ih =>
      rw [Nat.ofDigitChars_cons] at h ⊢
      have hnext := le_ofDigitChars rest (10 * n + (c.toNat - '0'.toNat))
      have hfits : 10 * n + digitValue c < 0x10000000000000000 := Nat.lt_of_le_of_lt hnext h
      rw [significand]
      simp only [if_pos hfits]
      rw [digitValue, ih (count + 1) h, List.length_cons]
      congr 2
      omega

theorem parseNumber_numeral (negative : Bool) (n : Nat) {rest : List UInt8}
    (hrest : Follows rest) :
    parseNumber negative (numeral n ++ rest) =
      some (number negative (Nat.toDigits 10 n) none none, rest) := by
  rw [parseNumber, digits_numeral n hrest]
  simp only [if_neg (plain_toDigits n)]
  cases hrest <;> rfl

theorem number_toDigits (negative : Bool) {n : Nat} (hn : n < 0x10000000000000000) :
    number negative (Nat.toDigits 10 n) none none =
      if !negative then int n
      else if n = 0 ∨ 0x8000000000000000 < n then float (Double.ofInt n).neg
      else int (-(n : Int)) := by
  have hvalue : Nat.ofDigitChars 10 (Nat.toDigits 10 n) 0 = n := Nat.ofDigitChars_ten_toDigits
  have hfits : Nat.ofDigitChars 10 (Nat.toDigits 10 n) 0 < 0x10000000000000000 := by
    rw [hvalue]
    exact hn
  have hsignificand := significand_eq 0 hfits
  rw [hvalue] at hsignificand
  simp only [number, hsignificand]

/-! ## String literals -/

theorem parsePieces_plain {bytes : List UInt8}
    (h : ∀ b ∈ bytes, 0x20 ≤ b.toNat ∧ b ≠ 0x22 ∧ b ≠ 0x5C) (done : List Piece)
    (rest : List UInt8) :
    parsePieces done (bytes ++ rest) =
      parsePieces ((bytes.map Piece.byte).reverse ++ done) rest := by
  induction bytes generalizing done with
  | nil => rfl
  | cons b bytes ih =>
      rw [List.forall_mem_cons] at h
      obtain ⟨⟨hlow, hquote, hbackslash⟩, hbytes⟩ := h
      have hprintable : ¬ b < 0x20 := by
        rw [UInt8.lt_iff_toNat_lt]
        exact Nat.not_lt.mpr hlow
      have hstep : parsePieces done (b :: (bytes ++ rest)) =
          parsePieces (.byte b :: done) (bytes ++ rest) := by
        rw [parsePieces.eq_def]
        split
        · simp_all
        · simp_all
        · simp_all
        · simp_all
        · rename_i heq
          obtain ⟨rfl, rfl⟩ := List.cons.inj heq
          exact if_neg hprintable
      rw [List.cons_append, hstep, ih hbytes, List.map_cons, List.reverse_cons,
        List.append_assoc]
      rfl

theorem pieceBytes_plain (bytes : List UInt8) (more : List Piece) :
    pieceBytes (bytes.map Piece.byte ++ more) = (pieceBytes more).map (bytes ++ ·) := by
  induction bytes with
  | nil => simp
  | cons b bytes ih =>
      rw [List.map_cons, List.cons_append, pieceBytes, ih, Option.map_map]
      rfl

/-- A unit that is no surrogate stands for its character, whatever follows it. -/
theorem pieceBytes_unit {n : Nat} (h : n < 0xD800) (more : List Piece) :
    pieceBytes (.unit n :: more) =
      (pieceBytes more).map (String.utf8EncodeChar (Char.ofNat n) ++ ·) := by
  have hhigh : ¬ (0xD800 ≤ n ∧ n < 0xDC00) := by omega
  have hlow : ¬ (0xDC00 ≤ n ∧ n < 0xE000) := by omega
  have hnone : ¬ (0xD800 ≤ n ∧ n < 0xE000) := by omega
  cases more with
  | nil => simp only [pieceBytes, if_neg hnone]
  | cons piece more =>
      cases piece with
      | byte b => simp only [pieceBytes, if_neg hnone]
      | unit l => rw [pieceBytes, if_neg hhigh, if_neg hlow]

theorem plain_utf8EncodeChar {c : Char} (hprintable : 0x20 ≤ c.toNat) (hquote : c ≠ '"')
    (hbackslash : c ≠ '\\') :
    ∀ b ∈ String.utf8EncodeChar c, 0x20 ≤ b.toNat ∧ b ≠ 0x22 ∧ b ≠ 0x5C := by
  intro b hb
  rw [Ne, Ne, ← UInt8.toNat_inj, ← UInt8.toNat_inj]
  change 0x20 ≤ b.toNat ∧ ¬ b.toNat = 0x22 ∧ ¬ b.toNat = 0x5C
  by_cases hascii : c.toNat < 0x80
  · have hbyte : b.toNat = c.toNat := by
      have hsmall : c.toNat < 0x100 := by omega
      rw [Utf8.utf8EncodeChar_ascii hascii, List.mem_singleton] at hb
      rw [hb, UInt8.toNat_ofNat_of_lt' hsmall]
    have hcode : ∀ d : Char, c ≠ d → c.toNat ≠ d.toNat := by
      intro d hne heq
      exact hne (Char.toNat_inj.mp heq)
    rw [hbyte]
    exact ⟨hprintable, hcode '"' hquote, hcode '\\' hbackslash⟩
  · have hbyte := Utf8.byte_of_utf8EncodeChar (Nat.le_of_not_lt hascii) b hb
    omega

/-- The bytes of a character in a string literal. -/
def literalOf (c : Char) : List UInt8 := (Json.escapeChar c).flatMap String.utf8EncodeChar

theorem hexDigit_control : ∀ n < 0x20,
    (Json.hexDigit (n / 16)).toNat < 0x80 ∧ (Json.hexDigit n).toNat < 0x80 ∧
      hex4? 0x30 0x30 (UInt8.ofNat (Json.hexDigit (n / 16)).toNat)
        (UInt8.ofNat (Json.hexDigit n).toNat) = some n := by
  decide

/-- Whatever follows it, the parser makes certain pieces of the literal of a character, and
they stand for the character. -/
theorem exists_pieces (c : Char) : ∃ pieces : List Piece,
    (∀ done rest, parsePieces done (literalOf c ++ rest) =
      parsePieces (pieces.reverse ++ done) rest) ∧
    ∀ more, pieceBytes (pieces ++ more) =
      (pieceBytes more).map (String.utf8EncodeChar c ++ ·) := by
  unfold literalOf Json.escapeChar
  split
  · exact ⟨[.byte 0x22], fun _ _ => rfl, fun _ => rfl⟩
  · exact ⟨[.byte 0x5C], fun _ _ => rfl, fun _ => rfl⟩
  · exact ⟨[.byte 0x08], fun _ _ => rfl, fun _ => rfl⟩
  · exact ⟨[.byte 0x09], fun _ _ => rfl, fun _ => rfl⟩
  · exact ⟨[.byte 0x0A], fun _ _ => rfl, fun _ => rfl⟩
  · exact ⟨[.byte 0x0C], fun _ _ => rfl, fun _ => rfl⟩
  · exact ⟨[.byte 0x0D], fun _ _ => rfl, fun _ => rfl⟩
  · rename_i hquote hbackslash _ _ _ _ _
    split
    · rename_i hcontrol
      obtain ⟨hhigh, hlow, hhex⟩ := hexDigit_control c.toNat hcontrol
      refine ⟨[.unit c.toNat], fun done rest => ?_, fun more => ?_⟩
      · simp only [List.flatMap_cons, List.flatMap_nil, Utf8.utf8EncodeChar_ascii hhigh,
          Utf8.utf8EncodeChar_ascii hlow]
        change parsePieces done (0x5C :: 0x75 :: 0x30 :: 0x30 :: _ :: _ :: rest) = _
        rw [parsePieces, hhex]
        rfl
      · rw [List.singleton_append, pieceBytes_unit (by omega), Char.ofNat_toNat]
    · rename_i hprintable
      have hplain := plain_utf8EncodeChar (Nat.le_of_not_lt hprintable) hquote hbackslash
      refine ⟨(String.utf8EncodeChar c).map .byte, fun done rest => ?_, fun more => ?_⟩
      · rw [List.flatMap_singleton]
        exact parsePieces_plain hplain done rest
      · exact pieceBytes_plain _ more

theorem exists_pieces_text (chars : List Char) : ∃ pieces : List Piece,
    (∀ done rest, parsePieces done (chars.flatMap literalOf ++ rest) =
      parsePieces (pieces.reverse ++ done) rest) ∧
    pieceBytes pieces = some (chars.flatMap String.utf8EncodeChar) := by
  induction chars with
  | nil => exact ⟨[], fun _ _ => rfl, rfl⟩
  | cons c chars ih =>
      obtain ⟨first, hfirst, hfirstBytes⟩ := exists_pieces c
      obtain ⟨more, hmore, hmoreBytes⟩ := ih
      refine ⟨first ++ more, fun done rest => ?_, ?_⟩
      · rw [List.flatMap_cons, List.append_assoc, hfirst, hmore, List.reverse_append,
          List.append_assoc]
      · rw [hfirstBytes, hmoreBytes, List.flatMap_cons]
        rfl

theorem parseString_literal (text : String) (rest : List UInt8) :
    parseString (text.toList.flatMap literalOf ++ 0x22 :: rest) = some (some text, rest) := by
  obtain ⟨pieces, hparse, hbytes⟩ := exists_pieces_text text.toList
  rw [parseString, hparse, List.append_nil, parsePieces]
  simp only [List.reverse_reverse, hbytes, Option.bind_some, Utf8.decode?_flatMap,
    String.ofList_toList]

theorem encode_quote (text : String) :
    Utf8.encode (Json.quote text) = 0x22 :: (text.toList.flatMap literalOf ++ [0x22]) := by
  rw [Json.quote, Utf8.encode_ofList, List.cons_append, List.flatMap_cons, List.flatMap_append,
    List.flatMap_assoc]
  rfl

end Document

end LiveConfig
