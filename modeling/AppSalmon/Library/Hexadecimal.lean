import Mathlib.Data.List.Basic
import Mathlib.Data.Nat.Digits.Defs
import Mathlib.Tactic.Ring

/-! Hexadecimal texts, the bytes that they spell and the number that they denote.

The first digit of a text is the most significant one, and a digit may be of
either case. A reader that takes two characters for one integer also takes a
plus sign and a digit.
-/

set_option autoImplicit false

namespace Hexadecimal

/-! ## The bytes of an ASCII text -/

theorem toList_byteArray (bytes : ByteArray) : bytes.toList = bytes.data.toList := by
  -- the loop reads from the front and puts each byte before those it has read
  have loop (i : Nat) (done : List UInt8) :
      ByteArray.toList.loop bytes i done = done.reverse ++ bytes.data.toList.drop i := by
    fun_induction ByteArray.toList.loop bytes i done with
    | case1 i done inside ih =>
      have here : i < bytes.data.toList.length := inside
      have read : bytes.get! i = bytes.data.toList[i] := getElem!_pos bytes.data i inside
      rw [ih, List.reverse_cons, List.append_assoc, List.singleton_append, List.drop_eq_getElem_cons here, read]
    | case2 i done outside =>
      have beyond : bytes.data.toList.length ≤ i := Nat.le_of_not_lt outside
      rw [List.drop_eq_nil_of_le beyond, List.append_nil]
  exact loop 0 []

/-- The bytes of a text, character by character. -/
theorem utf8_toList (text : String) : text.toUTF8.toList = text.toList.flatMap String.utf8EncodeChar := by
  rw [toList_byteArray, String.toUTF8_eq_toByteArray, ← String.utf8Encode_toList, List.utf8Encode,
    List.toList_data_toByteArray]

theorem utf8_injective {first second : String} (same : first.toUTF8.toList = second.toUTF8.toList) : first = second := by
  rw [toList_byteArray, toList_byteArray, Array.toList_inj] at same
  exact String.toByteArray_inj.mp (ByteArray.ext same)

theorem utf8_append (first second : String) :
    (first ++ second).toUTF8.toList = first.toUTF8.toList ++ second.toUTF8.toList := by
  rw [utf8_toList, utf8_toList, utf8_toList, String.toList_append, List.flatMap_append]

theorem utf8_ofUInt8 {byte : UInt8} (ascii : byte < 128) : String.utf8EncodeChar (Char.ofUInt8 byte) = [byte] := by
  have small : byte.toNat ≤ 127 := Nat.le_of_lt_succ (UInt8.lt_iff_toNat_lt.mp ascii)
  have code : (Char.ofUInt8 byte).val = byte.toUInt32 := rfl
  simp [String.utf8EncodeChar, code, small]

/-- A text of ASCII bytes has just these bytes. -/
theorem utf8_ofList {bytes : List UInt8} (ascii : ∀ byte ∈ bytes, byte < 128) :
    (String.ofList (bytes.map Char.ofUInt8)).toUTF8.toList = bytes := by
  rw [utf8_toList, String.toList_ofList]
  induction bytes with
  | nil => rfl
  | cons byte rest ih =>
    rw [List.forall_mem_cons] at ascii
    rw [List.map_cons, List.flatMap_cons, utf8_ofUInt8 ascii.1, ih ascii.2, List.singleton_append]

/-- ASCII characters are those of some bytes. -/
theorem exists_bytes {text : List Char} (ascii : ∀ char ∈ text, char.toNat < 128) :
    ∃ bytes : List UInt8, (∀ byte ∈ bytes, byte < 128) ∧ bytes.map Char.ofUInt8 = text := by
  induction text with
  | nil => exact ⟨[], by simp, rfl⟩
  | cons char rest ih =>
    rw [List.forall_mem_cons] at ascii
    obtain ⟨bytes, small, same⟩ := ih ascii.2
    have number : (UInt8.ofNat char.toNat).toNat = char.toNat :=
      UInt8.toNat_ofNat_of_lt' (Nat.lt_trans ascii.1 (by decide))
    refine ⟨UInt8.ofNat char.toNat :: bytes, ?_, ?_⟩
    · rw [List.forall_mem_cons, UInt8.lt_iff_toNat_lt, number]
      exact ⟨ascii.1, small⟩
    · rw [List.map_cons, same]
      exact congrArg (· :: rest) (Char.toNat_inj.mp number)

/-! ## Digits -/

def lowerDigits : List Char := ['0', '1', '2', '3', '4', '5', '6', '7', '8', '9', 'a', 'b', 'c', 'd', 'e', 'f']

/-- The value of a digit, of either case. -/
def value (digit : Char) : Option Nat := lowerDigits.idxOf? digit.toLower

def lowerDigit (value : Nat) : Char := lowerDigits.getD value '0'

theorem value_eq_some {digit : Char} {n : Nat} (valued : value digit = some n) :
    n < 16 ∧ lowerDigit n = digit.toLower := by
  obtain ⟨inside, here, -⟩ := List.idxOf?_eq_some_iff.mp valued
  exact ⟨inside, (List.getElem_eq_getD '0').symm.trans here⟩

theorem value_lowerDigit {n : Nat} (small : n < 16) : value (lowerDigit n) = some n := by
  have each : ∀ digit : Fin 16, value (lowerDigit digit.val) = some digit.val := by decide
  exact each ⟨n, small⟩

theorem value_plus : value '+' = none := by decide

/-- Digits are ASCII. -/
theorem ascii_of_value {digit : Char} {n : Nat} (valued : value digit = some n) : digit.toNat < 128 := by
  obtain ⟨inside, here, -⟩ := List.idxOf?_eq_some_iff.mp valued
  have each : ∀ lower ∈ lowerDigits, lower.toNat < 128 := by simp [lowerDigits]
  have lower := each _ (List.getElem_mem inside)
  rw [here] at lower
  by_cases capital : digit.val ≥ 65 ∧ digit.val ≤ 90
  · exact Nat.lt_of_le_of_lt (UInt32.le_iff_toNat_le.mp capital.2) (by decide)
  · have unchanged : digit.toLower = digit := dif_neg capital
    rwa [unchanged] at lower

/-! ## The number of a text -/

/-- The number that a text of digits denotes. -/
def number (digits : List Char) : Nat := Nat.ofDigits 16 (digits.map fun digit => (value digit).getD 0).reverse

/-- The number that is stored as these bytes. -/
def stored (bytes : List UInt8) : Nat := Nat.ofDigits 256 (bytes.map UInt8.toNat).reverse

theorem number_cons (digit : Char) (rest : List Char) :
    number (digit :: rest) = number rest + 16 ^ rest.length * (value digit).getD 0 := by
  rw [number, number, List.map_cons, Nat.ofDigits_reverse_cons, List.length_map]

theorem stored_cons (byte : UInt8) (rest : List UInt8) :
    stored (byte :: rest) = stored rest + 256 ^ rest.length * byte.toNat := by
  rw [stored, stored, List.map_cons, Nat.ofDigits_reverse_cons, List.length_map]

/-- As many bytes are told apart by their number. -/
theorem stored_injective {first second : List UInt8} (sized : first.length = second.length)
    (same : stored first = stored second) : first = second := by
  have small (bytes : List UInt8) : ∀ digit ∈ (bytes.map UInt8.toNat).reverse, digit < 256 := by
    intro digit member
    obtain ⟨byte, -, rfl⟩ := List.mem_map.mp (List.mem_reverse.mp member)
    exact byte.toNat_lt
  have reversed := Nat.ofDigits_inj_of_len_eq (by decide) (by simp [sized]) (small first) (small second) same
  exact List.map_injective_iff.mpr (fun _ _ => UInt8.toNat_inj.mp) (List.reverse_inj.mp reversed)

/-! ## Bytes from a text -/

/-- Two digits for each byte, or a plus sign and one digit. -/
inductive Spells : List Char → List UInt8 → Prop where
  | nil : Spells [] []
  | digits {high low : Char} {a b : Nat} {rest : List Char} {bytes : List UInt8} : value high = some a → value low = some b →
      Spells rest bytes → Spells (high :: low :: rest) (UInt8.ofNat (16 * a + b) :: bytes)
  | signed {low : Char} {b : Nat} {rest : List Char} {bytes : List UInt8} : value low = some b →
      Spells rest bytes → Spells ('+' :: low :: rest) (UInt8.ofNat b :: bytes)

/-- Whether a text is made of such pairs. -/
def pairs : List Char → Bool
  | first :: second :: rest => ((value first).isSome || first = '+') && (value second).isSome && pairs rest
  | [_] => false
  | [] => true

/-- What is written for bytes, in lower case. -/
def lowerHex (bytes : List UInt8) : List Char :=
  bytes.flatMap fun byte => [lowerDigit (byte.toNat / 16), lowerDigit (byte.toNat % 16)]

section
variable {text : List Char} {bytes : List UInt8}

/-- Two digits make a byte. -/
theorem toNat_pair {high low : Char} {a b : Nat} (valued : value high = some a) (valued' : value low = some b) :
    (UInt8.ofNat (16 * a + b)).toNat = 16 * a + b := by
  have first := (value_eq_some valued).1
  have second := (value_eq_some valued').1
  have small : 16 * a + b < 256 := by omega
  exact UInt8.toNat_ofNat_of_lt' small

theorem Spells.length (spells : Spells text bytes) : text.length = 2 * bytes.length := by
  induction spells with
  | nil => rfl
  | digits _ _ _ ih | signed _ _ ih =>
    simp only [List.length_cons, ih]
    omega

theorem Spells.ascii (spells : Spells text bytes) : ∀ char ∈ text, char.toNat < 128 := by
  induction spells with
  | nil => simp
  | digits high low _ ih =>
    rw [List.forall_mem_cons, List.forall_mem_cons]
    exact ⟨ascii_of_value high, ascii_of_value low, ih⟩
  | signed low _ ih =>
    rw [List.forall_mem_cons, List.forall_mem_cons]
    exact ⟨by decide, ascii_of_value low, ih⟩

theorem pairs_iff : pairs text = true ↔ ∃ bytes, Spells text bytes := by
  constructor
  · intro paired
    induction text using pairs.induct with
    | case1 first second rest ih =>
      simp only [pairs, Bool.and_eq_true, Bool.or_eq_true, decide_eq_true_eq] at paired
      obtain ⟨⟨lead, low⟩, later⟩ := paired
      obtain ⟨bytes, spells⟩ := ih later
      obtain ⟨b, low⟩ := Option.isSome_iff_exists.mp low
      rcases lead with high | rfl
      · obtain ⟨a, high⟩ := Option.isSome_iff_exists.mp high
        exact ⟨_, .digits high low spells⟩
      · exact ⟨_, .signed low spells⟩
    | case2 => cases paired
    | case3 => exact ⟨[], .nil⟩
  · rintro ⟨bytes, spells⟩
    induction spells with
    | nil => rfl
    | digits high low _ ih => simp [pairs, high, low, ih]
    | signed low _ ih => simp [pairs, low, ih]

/-! ## Texts without signs -/

/-- Only digits. -/
def Digits (text : List Char) : Prop := ∀ char ∈ text, (value char).isSome = true

theorem Digits.plus_not_mem (digits : Digits text) : '+' ∉ text := by
  intro signed
  have valued := digits '+' signed
  rw [value_plus] at valued
  cases valued

theorem Digits.pairs {pieces : Nat} (digits : Digits text) (even : text.length = 2 * pieces) : pairs text = true := by
  induction text using pairs.induct generalizing pieces with
  | case1 first second rest ih =>
    rw [Digits, List.forall_mem_cons, List.forall_mem_cons] at digits
    have shorter : rest.length = 2 * (pieces - 1) := by
      simp only [List.length_cons] at even
      omega
    simp only [Hexadecimal.pairs, digits.1, digits.2.1, ih digits.2.2 shorter, Bool.true_or, Bool.and_self]
  | case2 =>
    rw [List.length_singleton] at even
    omega
  | case3 => rfl

theorem Spells.digits_of_unsigned (spells : Spells text bytes) (unsigned : '+' ∉ text) : Digits text := by
  induction spells with
  | nil => exact fun _ member => (List.not_mem_nil member).elim
  | digits high low _ ih =>
    rw [List.mem_cons, List.mem_cons, not_or, not_or] at unsigned
    rw [Digits, List.forall_mem_cons, List.forall_mem_cons, high, low]
    exact ⟨rfl, rfl, ih unsigned.2.2⟩
  | signed => exact absurd List.mem_cons_self unsigned

/-- What a text of digits spells is the number that it denotes. -/
theorem Spells.stored_eq (spells : Spells text bytes) (digits : Digits text) : stored bytes = number text := by
  induction spells with
  | nil => rfl
  | @digits high low a b rest bytes valued valued' spells ih =>
    rw [Digits, List.forall_mem_cons, List.forall_mem_cons] at digits
    -- a place of the bytes is two places of the digits
    have places : (256 : Nat) ^ bytes.length = 16 ^ rest.length := by
      rw [spells.length, Nat.pow_mul]
    rw [stored_cons, number_cons, number_cons, ih digits.2.2, valued, valued', Option.getD_some, Option.getD_some,
      List.length_cons, toNat_pair valued valued', places, Nat.pow_succ]
    ring
  | signed => exact absurd List.mem_cons_self digits.plus_not_mem

/-- Written again, a text of digits is the same but for the case. -/
theorem Spells.lowerHex_eq (spells : Spells text bytes) (digits : Digits text) : lowerHex bytes = text.map Char.toLower := by
  induction spells with
  | nil => rfl
  | @digits high low a b rest bytes valued valued' spells ih =>
    rw [Digits, List.forall_mem_cons, List.forall_mem_cons] at digits
    obtain ⟨first, upper⟩ := value_eq_some valued
    obtain ⟨second, lower⟩ := value_eq_some valued'
    have quotient : (16 * a + b) / 16 = a := by omega
    have remainder : (16 * a + b) % 16 = b := by omega
    have rest_eq := ih digits.2.2
    rw [lowerHex] at rest_eq ⊢
    rw [List.flatMap_cons, rest_eq, toNat_pair valued valued', quotient, remainder, upper, lower]
    rfl
  | signed => exact absurd List.mem_cons_self digits.plus_not_mem

end

theorem spells_lowerHex (bytes : List UInt8) : Spells (lowerHex bytes) bytes := by
  induction bytes with
  | nil => exact .nil
  | cons byte rest ih =>
    have small := byte.toNat_lt
    have high := value_lowerDigit (n := byte.toNat / 16) (by omega)
    have low := value_lowerDigit (n := byte.toNat % 16) (by omega)
    have whole : UInt8.ofNat (16 * (byte.toNat / 16) + byte.toNat % 16) = byte := by
      rw [Nat.div_add_mod, UInt8.ofNat_toNat]
    have spells := Spells.digits high low ih
    rw [whole] at spells
    exact spells

end Hexadecimal
