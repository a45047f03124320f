import LiveConfig.Proofs.JsonLiterals

/-!
# Reading JSON that was written

The parser reads the compact text of a value as the document of that value, if the
numbers of the value are integers of 64 bits and it is not nested too deeply
(`Document.parse?_render`).  The text of a double may round to another double, so
doubles are left out.

The induction is on the value, for any rest that may follow it.  The length of the text
suffices as fuel, since every nested call has read a byte.
-/

namespace LiveConfig

namespace Json

/-- Whether each number in the value satisfies the condition. -/
inductive Numbers (p : Json → Prop) : Json → Prop
  | null : Numbers p null
  | bool (value : Bool) : Numbers p (bool value)
  | int {value : Int} (h : p (int value)) : Numbers p (int value)
  | float {value : Double} (h : p (float value)) : Numbers p (float value)
  | str (value : String) : Numbers p (str value)
  | arr {items : List Json} (h : ∀ x ∈ items, Numbers p x) : Numbers p (arr items)
  | obj {members : List (String × Json)} (h : ∀ e ∈ members, Numbers p e.2) :
      Numbers p (obj members)

/-- A number that is no integer outside of the signed and the unsigned 64-bit range. -/
def InRange : Json → Prop
  | int i => -0x8000000000000000 ≤ i ∧ i < 0x10000000000000000
  | _ => True

/-- A number that is no double. -/
def IsInteger : Json → Prop
  | float _ => False
  | _ => True

def IsExact (number : Json) : Prop := number.InRange ∧ number.IsInteger

mutual

/-- The count of lists and objects around the innermost part of the value. -/
def depth : Json → Nat
  | arr items => itemsDepth items + 1
  | obj members => membersDepth members + 1
  | _ => 0

def itemsDepth : List Json → Nat
  | [] => 0
  | x :: xs => max (depth x) (itemsDepth xs)

def membersDepth : List (String × Json) → Nat
  | [] => 0
  | (_, x) :: xs => max (depth x) (membersDepth xs)

end

end Json

/-! ## The text of a value -/

namespace Json

/-- The bytes of the text of a value. -/
def bytes (value : Json) : List UInt8 := (pieces value).flatMap Utf8.encode

/-- The bytes of the items of a list, with the commas between them and the closing
bracket. -/
def itemBytes : List Json → List UInt8
  | [] => [0x5D]
  | x :: xs => x.bytes ++ (itemPieces xs).flatMap Utf8.encode

/-- The bytes of the members of an object, with the commas between them and the closing
brace. -/
def memberBytes : List (String × Json) → List UInt8
  | [] => [0x7D]
  | (k, x) :: xs =>
    Utf8.encode (quote k) ++ 0x3A :: (x.bytes ++ (memberPieces xs).flatMap Utf8.encode)

theorem encode_render (value : Json) : Utf8.encode value.render = value.bytes :=
  Utf8.encode_join _

theorem bytes_arr (items : List Json) : (arr items).bytes = 0x5B :: itemBytes items := by
  cases items with
  | nil => rfl
  | cons x xs =>
      rw [bytes, pieces, List.flatMap_append, List.flatMap_cons]
      rfl

theorem bytes_obj (members : List (String × Json)) :
    (obj members).bytes = 0x7B :: memberBytes members := by
  cases members with
  | nil => rfl
  | cons e xs =>
      obtain ⟨k, x⟩ := e
      rw [bytes, pieces, List.flatMap_append, List.flatMap_cons, List.flatMap_cons,
        List.flatMap_cons, memberBytes, List.append_assoc, List.append_assoc, List.append_assoc]
      rfl

theorem itemBytes_singleton (x : Json) : itemBytes [x] = x.bytes ++ [0x5D] := rfl

theorem itemBytes_cons_cons (x y : Json) (xs : List Json) :
    itemBytes (x :: y :: xs) = x.bytes ++ 0x2C :: itemBytes (y :: xs) := by
  rw [itemBytes, itemBytes, itemPieces, List.flatMap_append, List.flatMap_cons]
  rfl

theorem memberBytes_singleton (k : String) (x : Json) :
    memberBytes [(k, x)] = Utf8.encode (quote k) ++ 0x3A :: (x.bytes ++ [0x7D]) := rfl

theorem memberBytes_cons_cons (k : String) (x : Json) (e : String × Json)
    (xs : List (String × Json)) :
    memberBytes ((k, x) :: e :: xs) =
      Utf8.encode (quote k) ++ 0x3A :: (x.bytes ++ 0x2C :: memberBytes (e :: xs)) := by
  obtain ⟨l, y⟩ := e
  rw [memberBytes, memberBytes, memberPieces, List.flatMap_append, List.flatMap_cons,
    List.flatMap_cons, List.flatMap_cons, List.append_assoc, List.append_assoc, List.append_assoc]
  rfl

theorem bytes_int (n : Nat) : (int n).bytes = Document.numeral n := by
  have hrepr : Utf8.encode (toString (n : Int)) = Document.numeral n := Document.encode_repr n
  rw [bytes, pieces, List.flatMap_singleton, hrepr]

theorem bytes_negative (n : Nat) : (int (-((n + 1 : Nat) : Int))).bytes =
    0x2D :: Document.numeral (n + 1) := by
  have hrepr : toString (-((n + 1 : Nat) : Int)) = "-" ++ (n + 1).repr := rfl
  rw [bytes, pieces, List.flatMap_singleton, hrepr, Utf8.encode_append, Document.encode_repr]
  rfl

theorem bytes_str (text : String) : (str text).bytes =
    0x22 :: (text.toList.flatMap Document.literalOf ++ [0x22]) := by
  rw [bytes, pieces, List.flatMap_singleton, Document.encode_quote]

end Json

namespace Document

open Json (Numbers IsExact bytes itemBytes memberBytes)

theorem skipSpace_cons {b : UInt8} (h : isSpace b = false) (rest : List UInt8) :
    skipSpace (b :: rest) = b :: rest := by
  simp [skipSpace, h]

theorem digitByte_cases {b : UInt8} (h : isDigitByte b = true) :
    ∃ n < 10, b = UInt8.ofNat (0x30 + n) := by
  simp only [isDigitByte, Bool.and_eq_true, decide_eq_true_eq, UInt8.le_iff_toNat_le] at h
  have hlow : 0x30 ≤ b.toNat := h.1
  have hhigh : b.toNat ≤ 0x39 := h.2
  refine ⟨b.toNat - 0x30, by omega, ?_⟩
  rw [Nat.add_sub_cancel' hlow, UInt8.ofNat_toNat]

theorem isSpace_digitByte {b : UInt8} (h : isDigitByte b = true) : isSpace b = false := by
  have hall : ∀ n < 10, isSpace (UInt8.ofNat (0x30 + n)) = false := by decide
  obtain ⟨n, hn, rfl⟩ := digitByte_cases h
  exact hall n hn

theorem parseValue_digit {b : UInt8} (h : isDigitByte b = true) (fuel depth : Nat)
    (rest : List UInt8) :
    parseValue (fuel + 1) depth (b :: rest) = parseNumber false (b :: rest) := by
  obtain ⟨n, hn, rfl⟩ := digitByte_cases h
  rw [parseValue, skipSpace_cons (isSpace_digitByte h)]
  obtain h | h | h | h | h | h | h | h | h | h : n = 0 ∨ n = 1 ∨ n = 2 ∨ n = 3 ∨ n = 4 ∨
    n = 5 ∨ n = 6 ∨ n = 7 ∨ n = 8 ∨ n = 9 := by omega
  all_goals subst h; rfl

theorem parseValue_quote (fuel depth : Nat) (text : String) (rest : List UInt8) :
    parseValue (fuel + 1) depth (0x22 :: (text.toList.flatMap literalOf ++ 0x22 :: rest)) =
      some (str text, rest) := by
  rw [parseValue]
  change (parseString _).map _ = _
  rw [parseString_literal]
  rfl

theorem parseValue_minus (fuel depth : Nat) (rest : List UInt8) :
    parseValue (fuel + 1) depth (0x2D :: rest) = parseNumber true rest := by
  rw [parseValue]
  rfl

theorem parseValue_bracket {fuel depth : Nat} {b : UInt8} {input after : List UInt8}
    {items : List Document} (hspace : isSpace b = false) (hopen : b ≠ 0x5D)
    (hdepth : depth + 1 < depthLimit)
    (hitems : parseItems fuel (depth + 1) [] (b :: input) = some (items, after)) :
    parseValue (fuel + 1) depth (0x5B :: b :: input) = some (arr items, after) := by
  rw [parseValue, skipSpace_cons (by decide)]
  simp only [skipSpace_cons hspace]
  split
  · rename_i heq
    exact absurd (List.cons.inj heq).1 hopen
  · rw [hitems]
    simp only [if_pos hdepth]

theorem parseValue_brace {fuel depth : Nat} {input after : List UInt8}
    {members : List (String × Document)} (hdepth : depth + 1 < depthLimit)
    (hmembers : parseMembers fuel (depth + 1) [] true (0x22 :: input) =
      some (members, true, after)) :
    parseValue (fuel + 1) depth (0x7B :: 0x22 :: input) = some (obj members, after) := by
  rw [parseValue, skipSpace_cons (by decide)]
  simp only [skipSpace_cons (show isSpace 0x22 = false by decide)]
  split
  · rename_i heq
    exact absurd (List.cons.inj heq).1 (by decide)
  · rw [hmembers]
    simp only [hdepth, and_self, if_true]

section Items

variable {fuel depth : Nat} {input after : List UInt8} {item : Document}

theorem parseItems_last (done : List Document)
    (h : parseValue fuel depth input = some (item, 0x5D :: after)) :
    parseItems (fuel + 1) depth done input = some ((item :: done).reverse, after) := by
  rw [parseItems, h]
  rfl

theorem parseItems_more (done : List Document)
    (h : parseValue fuel depth input = some (item, 0x2C :: after)) :
    parseItems (fuel + 1) depth done input = parseItems fuel depth (item :: done) after := by
  rw [parseItems, h]
  rfl

/-- The bytes of a key and of what follows it. -/
def keyBytes (key : String) (input : List UInt8) : List UInt8 :=
  0x22 :: (key.toList.flatMap literalOf ++ 0x22 :: 0x3A :: input)

theorem parseMembers_last (done : List (String × Document)) (key : String)
    (h : parseValue fuel depth input = some (item, 0x7D :: after)) :
    parseMembers (fuel + 1) depth done true (keyBytes key input) =
      some (((key, item) :: done).reverse, true, after) := by
  rw [parseMembers, keyBytes, skipSpace_cons (by decide)]
  simp only [parseString_literal, skipSpace_cons (show isSpace 0x3A = false by decide), h]
  rfl

theorem parseMembers_more (done : List (String × Document)) (key : String)
    (h : parseValue fuel depth input = some (item, 0x2C :: after)) :
    parseMembers (fuel + 1) depth done true (keyBytes key input) =
      parseMembers fuel depth ((key, item) :: done) true after := by
  rw [parseMembers, keyBytes, skipSpace_cons (by decide)]
  simp only [parseString_literal, skipSpace_cons (show isSpace 0x3A = false by decide), h]
  rfl

end Items

/-- The text of a value begins with no space and no closing bracket. -/
theorem head_bytes {value : Json} (h : value.Numbers IsExact) :
    ∃ b rest, value.bytes = b :: rest ∧ isSpace b = false ∧ b ≠ 0x5D := by
  cases h with
  | null => exact ⟨0x6E, _, rfl, rfl, by decide⟩
  | float h => exact h.2.elim
  | bool b => cases b <;> exact ⟨_, _, rfl, rfl, by decide⟩
  | @int i =>
      cases i with
      | ofNat n =>
          cases hn : numeral n with
          | nil =>
              rw [numeral, List.map_eq_nil_iff] at hn
              exact absurd hn Nat.toDigits_ne_nil
          | cons b rest =>
              have hdigit : isDigitByte b = true :=
                isDigitByte_of_mem_numeral (hn ▸ List.mem_cons_self)
              refine ⟨b, rest, (Json.bytes_int n).trans hn, isSpace_digitByte hdigit, ?_⟩
              rintro rfl
              exact absurd hdigit (by decide)
      | negSucc n => exact ⟨_, _, Json.bytes_negative n, rfl, by decide⟩
  | str text => exact ⟨_, _, Json.bytes_str text, rfl, by decide⟩
  | arr => exact ⟨_, _, Json.bytes_arr _, rfl, by decide⟩
  | obj => exact ⟨_, _, Json.bytes_obj _, rfl, by decide⟩

theorem encode_key (key : String) (input : List UInt8) :
    Utf8.encode (Json.quote key) ++ 0x3A :: input = keyBytes key input := by
  rw [encode_quote, keyBytes, List.cons_append, List.append_assoc]
  rfl

theorem parseValue_int {i : Int} (h : (Json.int i).IsExact) (fuel depth : Nat)
    {rest : List UInt8} (hrest : Follows rest) :
    parseValue (fuel + 1) depth ((Json.int i).bytes ++ rest) = some (int i, rest) := by
  obtain ⟨⟨hlow, hhigh⟩, -⟩ := h
  cases i with
  | ofNat n =>
      have hn : n < 0x10000000000000000 := by
        simp only [Int.ofNat_eq_natCast] at hhigh
        omega
      have hnumber := parseNumber_numeral false n hrest
      rw [number_toDigits false hn] at hnumber
      rw [show (Json.int (Int.ofNat n)).bytes = numeral n from Json.bytes_int n]
      cases hnumeral : numeral n with
      | nil =>
          rw [numeral, List.map_eq_nil_iff] at hnumeral
          exact absurd hnumeral Nat.toDigits_ne_nil
      | cons b tail =>
          have hdigit : isDigitByte b = true :=
            isDigitByte_of_mem_numeral (hnumeral ▸ List.mem_cons_self)
          rw [hnumeral, List.cons_append] at hnumber
          rw [List.cons_append, parseValue_digit hdigit, hnumber]
          rfl
  | negSucc n =>
      have hn : n + 1 ≤ 0x8000000000000000 := by omega
      have hnumber := parseNumber_numeral true (n + 1) hrest
      rw [number_toDigits true (by omega)] at hnumber
      rw [show (Json.int (Int.negSucc n)).bytes = _ from Json.bytes_negative n, List.cons_append,
        parseValue_minus, hnumber]
      have hrange : ¬ (n + 1 = 0 ∨ 0x8000000000000000 < n + 1) := by omega
      simp only [Bool.not_true, Bool.false_eq_true, if_false, if_neg hrange]
      rfl

mutual

theorem parseValue_bytes (value : Json) (fuel depth : Nat) {rest : List UInt8}
    (hexact : value.Numbers IsExact) (hdepth : depth + value.depth < depthLimit)
    (hfuel : value.bytes.length ≤ fuel) (hrest : Follows rest) :
    parseValue fuel depth (value.bytes ++ rest) = some (value.toDocument, rest) := by
  obtain ⟨b, tail, hbytes, -, -⟩ := head_bytes hexact
  obtain _ | fuel := fuel
  · rw [hbytes] at hfuel
    simp at hfuel
  match value, hexact with
  | .null, _ => rfl
  | .bool b, _ => cases b <;> rfl
  | .int i, .int h => exact parseValue_int h fuel depth hrest
  | .float d, .float h => exact h.2.elim
  | .str text, _ =>
      rw [Json.bytes_str, List.cons_append, List.append_assoc]
      exact parseValue_quote fuel depth text rest
  | .arr [], _ =>
      have hempty : depth + 1 < depthLimit := hdepth
      rw [Json.bytes_arr, parseValue]
      change some (if depth + 1 < depthLimit then arr [] else unreadable, rest) = _
      rw [if_pos hempty]
      rfl
  | .arr (x :: xs), .arr hitems =>
      have hnested : depth + 1 + Json.itemsDepth (x :: xs) < depthLimit := by
        rw [Json.depth] at hdepth
        omega
      rw [Json.bytes_arr, List.length_cons] at hfuel
      have hparse := parseItems_bytes (x :: xs) fuel (depth + 1) [] (by simp) hitems hnested
        (Nat.le_of_succ_le_succ hfuel) hrest
      obtain ⟨b, tail, hhead, hspace, hopen⟩ := head_bytes (hitems x List.mem_cons_self)
      rw [Json.bytes_arr]
      rw [itemBytes, hhead, List.cons_append, List.cons_append] at hparse ⊢
      exact parseValue_bracket hspace hopen (by omega) hparse
  | .obj [], _ =>
      have hempty : depth + 1 < depthLimit := hdepth
      rw [Json.bytes_obj, parseValue]
      change some (if depth + 1 < depthLimit then obj [] else unreadable, rest) = _
      rw [if_pos hempty]
      rfl
  | .obj (e :: xs), .obj hmembers =>
      have hnested : depth + 1 + Json.membersDepth (e :: xs) < depthLimit := by
        rw [Json.depth] at hdepth
        omega
      rw [Json.bytes_obj, List.length_cons] at hfuel
      have hparse := parseMembers_bytes (e :: xs) fuel (depth + 1) [] (by simp) hmembers hnested
        (Nat.le_of_succ_le_succ hfuel) hrest
      rw [Json.bytes_obj]
      rw [memberBytes, encode_quote, List.cons_append, List.cons_append] at hparse ⊢
      exact parseValue_brace (by omega) hparse

theorem parseItems_bytes (items : List Json) (fuel depth : Nat) {rest : List UInt8}
    (done : List Document) (hne : items ≠ []) (hexact : ∀ x ∈ items, x.Numbers IsExact)
    (hdepth : depth + Json.itemsDepth items < depthLimit)
    (hfuel : (itemBytes items).length ≤ fuel) (hrest : Follows rest) :
    parseItems fuel depth done (itemBytes items ++ rest) =
      some (done.reverse ++ Json.toDocumentItems items, rest) := by
  match items with
  | [] => exact absurd rfl hne
  | [x] =>
      rw [Json.itemsDepth] at hdepth
      rw [Json.itemBytes_singleton, List.length_append, List.length_singleton] at hfuel
      obtain _ | fuel := fuel
      · omega
      have hx := parseValue_bytes x fuel depth (hexact x List.mem_cons_self) (by omega)
        (Nat.le_of_succ_le_succ hfuel) (.bracket rest)
      rw [Json.itemBytes_singleton, List.append_assoc, List.singleton_append,
        parseItems_last done hx, List.reverse_cons]
      rfl
  | x :: y :: ys =>
      rw [List.forall_mem_cons] at hexact
      rw [Json.itemsDepth] at hdepth
      rw [Json.itemBytes_cons_cons, List.length_append, List.length_cons] at hfuel
      obtain _ | fuel := fuel
      · omega
      have hx := parseValue_bytes x fuel depth hexact.1 (by omega) (by omega)
        (.comma (itemBytes (y :: ys) ++ rest))
      have hrestItems := parseItems_bytes (y :: ys) fuel depth (x.toDocument :: done) (by simp)
        hexact.2 (by omega) (by omega) hrest
      rw [Json.itemBytes_cons_cons, List.append_assoc, List.cons_append,
        parseItems_more done hx, hrestItems, List.reverse_cons, List.append_assoc]
      rfl

theorem parseMembers_bytes (members : List (String × Json)) (fuel depth : Nat)
    {rest : List UInt8} (done : List (String × Document)) (hne : members ≠ [])
    (hexact : ∀ e ∈ members, e.2.Numbers IsExact)
    (hdepth : depth + Json.membersDepth members < depthLimit)
    (hfuel : (memberBytes members).length ≤ fuel) (hrest : Follows rest) :
    parseMembers fuel depth done true (memberBytes members ++ rest) =
      some (done.reverse ++ Json.toDocumentMembers members, true, rest) := by
  match members with
  | [] => exact absurd rfl hne
  | [(k, x)] =>
      rw [Json.membersDepth] at hdepth
      rw [Json.memberBytes_singleton, List.length_append, List.length_cons, List.length_append,
        List.length_singleton] at hfuel
      obtain _ | fuel := fuel
      · omega
      have hx := parseValue_bytes x fuel depth (hexact (k, x) List.mem_cons_self) (by omega)
        (by omega) (.brace rest)
      rw [Json.memberBytes_singleton, List.append_assoc, List.cons_append, List.append_assoc,
        List.singleton_append, encode_key, parseMembers_last done k hx, List.reverse_cons]
      rfl
  | (k, x) :: e :: xs =>
      rw [List.forall_mem_cons] at hexact
      rw [Json.membersDepth] at hdepth
      rw [Json.memberBytes_cons_cons, List.length_append, List.length_cons, List.length_append,
        List.length_cons] at hfuel
      obtain _ | fuel := fuel
      · omega
      have hx := parseValue_bytes x fuel depth hexact.1 (by omega) (by omega)
        (.comma (memberBytes (e :: xs) ++ rest))
      have hrestMembers := parseMembers_bytes (e :: xs) fuel depth ((k, x.toDocument) :: done)
        (by simp) hexact.2 (by omega) (by omega) hrest
      rw [Json.memberBytes_cons_cons, List.append_assoc, List.cons_append, List.append_assoc,
        List.cons_append, encode_key, parseMembers_more done k hx, hrestMembers,
        List.reverse_cons, List.append_assoc]
      rfl

end

theorem parse?_render {value : Json} (hexact : value.Numbers IsExact)
    (hdepth : value.depth < depthLimit) :
    parse? (Utf8.encode value.render) = some value.toDocument := by
  have hvalue := parseValue_bytes value (2 * value.bytes.length + 2) 0 hexact
    (by omega) (by omega) .nil
  rw [List.append_nil] at hvalue
  rw [Json.encode_render, parse?, hvalue]
  rfl

end Document

end LiveConfig
