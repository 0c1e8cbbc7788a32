import AppSalmon.Config
import AppSalmon.Library.Hexadecimal

/-! Which texts are parsed to a secret hash, and to which one.

Each chunk of two bytes goes through a parser of integers, which takes a plus
sign in front of a single digit. So there are texts that are no digits and are
accepted.
-/

set_option autoImplicit false

namespace AppSalmon

open Hexadecimal

/-! ## Chunk by chunk -/

/-- `slice::chunks`, by two. -/
def chunks : List UInt8 → List (List UInt8)
  | first :: second :: rest => [first, second] :: chunks rest
  | [last] => [[last]]
  | [] => []

/-- `str::from_utf8` -/
def fromUtf8 (chunk : List UInt8) : Option String := String.fromUTF8? chunk.toByteArray

/-- The digits of a number that has to stay below 256. -/
def accumulate (value : Nat) : List UInt8 → Option Nat
  | [] => some value
  | byte :: rest => do
    let digit ← hexDigit byte
    let next := 16 * value + digit.toNat
    -- an overflow is an error like a character that is no digit
    if next < 256 then accumulate next rest else none

/-- `u8::from_str_radix` for hexadecimal digits: an optional plus sign and at least one digit. -/
def fromStrRadix16 (text : String) : Option UInt8 :=
  let bytes := text.toUTF8.toList
  let digits := if bytes.head? = some 43 then bytes.tail else bytes
  if digits = [] then none else (accumulate 0 digits).map UInt8.ofNat

def parseChunk (chunk : List UInt8) : Option UInt8 := (fromUtf8 chunk).bind fromStrRadix16

/-- A byte as a digit is the character as a digit. -/
theorem hexDigit_eq (byte : UInt8) : hexDigit byte = (value (Char.ofUInt8 byte)).map UInt8.ofNat := by
  have each : ∀ n : Fin 256, hexDigit (UInt8.ofNat n.val) = (value (Char.ofUInt8 (UInt8.ofNat n.val))).map UInt8.ofNat := by
    decide +kernel
  have here := each ⟨byte.toNat, byte.toNat_lt⟩
  rwa [UInt8.ofNat_toNat] at here

theorem hexDigit_eq_some {byte digit : UInt8} (valued : hexDigit byte = some digit) : byte < 128 ∧ digit.toNat < 16 := by
  rw [hexDigit_eq, Option.map_eq_some_iff] at valued
  obtain ⟨n, valued, rfl⟩ := valued
  have small := (value_eq_some valued).1
  rw [UInt8.toNat_ofNat_of_lt' (by omega : n < 256)]
  exact ⟨UInt8.lt_iff_toNat_lt.mpr (ascii_of_value valued), small⟩

theorem fromUtf8_eq_some {chunk : List UInt8} {text : String} (decoded : fromUtf8 chunk = some text) :
    text.toUTF8.toList = chunk := by
  unfold fromUtf8 String.fromUTF8? at decoded
  split at decoded
  · cases decoded
    rw [toList_byteArray]
    exact List.toList_data_toByteArray
  · cases decoded

theorem fromUtf8_ascii {chunk : List UInt8} (ascii : ∀ byte ∈ chunk, byte < 128) : ∃ text, fromUtf8 chunk = some text := by
  have bytes : (String.ofList (chunk.map Char.ofUInt8)).toByteArray = chunk.toByteArray := by
    apply ByteArray.ext
    rw [← Array.toList_inj, List.toList_data_toByteArray, ← toList_byteArray, ← String.toUTF8_eq_toByteArray]
    exact utf8_ofList ascii
  have valid : chunk.toByteArray.IsValidUTF8 := bytes ▸ String.isValidUTF8 _
  exact ⟨_, dif_pos valid⟩

/-- Two digits together stay below 256. -/
theorem accumulate_pair {first second : UInt8} : (accumulate 0 [first, second]).map UInt8.ofNat = (do
    let high ← hexDigit first
    let low ← hexDigit second
    return 16 * high + low) := by
  cases left : hexDigit first with
  | none => simp [accumulate, left]
  | some high =>
    cases right : hexDigit second with
    | none => simp [accumulate, left, right]
    | some low =>
      have first_digit := (hexDigit_eq_some left).2
      have second_digit := (hexDigit_eq_some right).2
      -- nothing is lost in the arithmetic of bytes
      have fits : 16 * high.toNat + low.toNat < 256 := by omega
      have byte : UInt8.ofNat (16 * high.toNat + low.toNat) = 16 * high + low := by
        apply UInt8.toNat_inj.mp
        rw [UInt8.toNat_ofNat_of_lt' fits, UInt8.toNat_add, UInt8.toNat_mul]
        change _ = (16 * high.toNat % 256 + low.toNat) % 256
        omega
      simp [accumulate, left, right, fits, byte, high.toNat_lt]

theorem accumulate_single (byte : UInt8) : (accumulate 0 [byte]).map UInt8.ofNat = hexDigit byte := by
  cases valued : hexDigit byte with
  | none => simp [accumulate, valued]
  | some digit => simp [accumulate, valued, digit.toNat_lt]

/-- What is made of a chunk: two digits, or a plus sign and one. -/
theorem byteOfHex_eq (first second : UInt8) : byteOfHex first second = parseChunk [first, second] := by
  unfold parseChunk
  cases decoded : fromUtf8 [first, second] with
  | none =>
    -- the chunk cuts through a character, so one of its bytes is no digit
    have broken : ¬ (first < 128 ∧ second < 128) := by
      rintro ⟨left, right⟩
      have ascii : ∀ byte ∈ [first, second], byte < 128 := by simp [left, right]
      obtain ⟨text, valid⟩ := fromUtf8_ascii ascii
      rw [decoded] at valid
      cases valid
    unfold byteOfHex
    rw [Option.bind_none]
    split
    · next plus =>
      subst plus
      rw [Option.eq_none_iff_forall_ne_some]
      intro digit valued
      exact broken ⟨by decide, (hexDigit_eq_some valued).1⟩
    · cases left : hexDigit first with
      | none => rfl
      | some high =>
        cases right : hexDigit second with
        | none => rfl
        | some low => exact absurd ⟨(hexDigit_eq_some left).1, (hexDigit_eq_some right).1⟩ broken
  | some text =>
    rw [Option.bind_some, fromStrRadix16, fromUtf8_eq_some decoded]
    unfold byteOfHex
    -- with a plus sign in front, the second byte alone is the number
    by_cases plus : first = 43
    · simp [plus, accumulate_single]
    · simp [plus, accumulate_pair]

theorem bytesOfHex_chunks {hex : List UInt8} {pieces : Nat} (even : hex.length = 2 * pieces) :
    bytesOfHex hex = (chunks hex).mapM parseChunk := by
  induction hex using chunks.induct generalizing pieces with
  | case1 first second rest ih =>
    have shorter : rest.length = 2 * (pieces - 1) := by
      simp only [List.length_cons] at even
      omega
    rw [chunks, List.mapM_cons, ← ih shorter, bytesOfHex, byteOfHex_eq]
  | case2 last =>
    rw [List.length_singleton] at even
    omega
  | case3 => rfl

/-- The source, chunk by chunk: `chunks(2)`, and for each of them `from_utf8` and `from_str_radix`. -/
theorem SecretHash.fromHexWithPrefix_chunks (encoded : String) : SecretHash.fromHexWithPrefix encoded = (do
    let hex ← stripPrefix "sha256:".toUTF8.toList encoded.toUTF8.toList
    if hex.length ≠ 64 then none
    else
      let parsed ← (chunks hex).mapM parseChunk
      if size : parsed.length = 32 then some ⟨parsed, size⟩ else none) := by
  unfold SecretHash.fromHexWithPrefix
  congr 1
  funext hex
  by_cases sized : hex.length = 64
  · have even : hex.length = 2 * 32 := sized
    rw [bytesOfHex_chunks even]
  · rw [if_pos sized, if_pos sized]

/-! ## What is accepted -/

theorem byteOfHex_eq_some {first second byte : UInt8} : byteOfHex first second = some byte ↔
    (∃ high low, value (Char.ofUInt8 first) = some high ∧ value (Char.ofUInt8 second) = some low ∧
      UInt8.ofNat (16 * high + low) = byte) ∨
      first = 43 ∧ ∃ low, value (Char.ofUInt8 second) = some low ∧ UInt8.ofNat low = byte := by
  unfold byteOfHex
  by_cases plus : first = 43
  · subst plus
    have unvalued : value (Char.ofUInt8 43) = none := value_plus
    simp [hexDigit_eq, unvalued]
  · rw [if_neg plus, hexDigit_eq, hexDigit_eq]
    cases value (Char.ofUInt8 first) with
    | none => simp [plus]
    | some high =>
      cases value (Char.ofUInt8 second) with
      | none => simp
      | some low => simp [plus]

theorem ofUInt8_eq_plus {byte : UInt8} : Char.ofUInt8 byte = '+' ↔ byte = 43 := by
  constructor
  · intro same
    have numbers := congrArg Char.toNat same
    exact UInt8.toNat_inj.mp numbers
  · rintro rfl
    rfl

theorem bytesOfHex_eq_some {hex bytes : List UInt8} :
    bytesOfHex hex = some bytes ↔ Spells (hex.map Char.ofUInt8) bytes := by
  induction hex using chunks.induct generalizing bytes with
  | case1 first second rest ih =>
    simp only [bytesOfHex, Option.bind_eq_bind, Option.bind_eq_some_iff, List.map_cons]
    constructor
    · rintro ⟨byte, chunk, later, spelled, ⟨⟩⟩
      rcases byteOfHex_eq_some.mp chunk with ⟨high, low, lead, last, rfl⟩ | ⟨rfl, low, last, rfl⟩
      · exact .digits lead last (ih.mp spelled)
      · exact .signed last (ih.mp spelled)
    · intro spells
      -- a pair is read as digits or behind a sign; no character is both
      generalize lead : Char.ofUInt8 first = char at spells
      cases spells with
      | digits high low spells =>
        subst lead
        exact ⟨_, byteOfHex_eq_some.mpr (.inl ⟨_, _, high, low, rfl⟩), _, ih.mpr spells, rfl⟩
      | signed low spells =>
        have plus := ofUInt8_eq_plus.mp lead
        exact ⟨_, byteOfHex_eq_some.mpr (.inr ⟨plus, _, low, rfl⟩), _, ih.mpr spells, rfl⟩
  | case2 last =>
    constructor
    · intro spelled
      cases spelled
    · intro spells
      have even := spells.length
      rw [List.map_cons, List.map_nil, List.length_singleton] at even
      omega
  | case3 =>
    constructor
    · rintro ⟨⟩
      exact .nil
    · rintro ⟨⟩
      rfl

/-- The text behind the prefix. -/
def hashText (digits : List Char) : String := "sha256:" ++ String.ofList digits

theorem hashText_injective {first second : List Char} (same : hashText first = hashText second) : first = second := by
  have texts := (String.append_right_inj "sha256:").mp same
  exact String.ofList_injective texts

theorem stripPrefix_eq_some {lead text rest : List UInt8} : stripPrefix lead text = some rest ↔ text = lead ++ rest := by
  unfold stripPrefix
  constructor
  · intro stripped
    rw [Option.ite_none_right_eq_some, Option.some.injEq] at stripped
    obtain ⟨⟨tail, rfl⟩, rfl⟩ := stripped
    simp
  · rintro rfl
    simp

theorem utf8_hashText {hex : List UInt8} (ascii : ∀ byte ∈ hex, byte < 128) :
    (hashText (hex.map Char.ofUInt8)).toUTF8.toList = "sha256:".toUTF8.toList ++ hex := by
  rw [hashText, utf8_append, utf8_ofList ascii]

/-- Exactly 64 characters, in pairs that each spell a byte. -/
theorem SecretHash.fromHexWithPrefix_eq_some {encoded : String} {hash : SecretHash} :
    SecretHash.fromHexWithPrefix encoded = some hash ↔
      ∃ text, encoded = hashText text ∧ text.length = 64 ∧ Spells text hash.bytes := by
  constructor
  · intro parsed
    simp only [SecretHash.fromHexWithPrefix, Option.bind_eq_bind, Option.bind_eq_some_iff, stripPrefix_eq_some,
      Option.ite_none_left_eq_some, not_not] at parsed
    obtain ⟨hex, whole, sized, bytes, spelled, full⟩ := parsed
    have spells := bytesOfHex_eq_some.mp spelled
    -- digits and signs are ASCII, so no accepted text cuts through a character
    have ascii : ∀ byte ∈ hex, byte < 128 := by
      intro byte member
      exact UInt8.lt_iff_toNat_lt.mpr (spells.ascii _ (List.mem_map_of_mem member))
    split at full
    · cases full
      refine ⟨hex.map Char.ofUInt8, ?_, by rw [List.length_map, sized], spells⟩
      exact utf8_injective (whole.trans (utf8_hashText ascii).symm)
    · cases full
  · rintro ⟨text, rfl, sized, spells⟩
    obtain ⟨hex, ascii, rfl⟩ := exists_bytes spells.ascii
    rw [List.length_map] at sized
    have stripped := stripPrefix_eq_some.mpr (utf8_hashText ascii)
    have spelled := bytesOfHex_eq_some.mpr spells
    rw [SecretHash.fromHexWithPrefix, stripped]
    simp [sized, spelled, hash.size]

/-! ## The documented grammar -/

/-- `format!("sha256:{hex}")`, with two lower-case digits for each byte. -/
def SecretHash.toHexWithPrefix (hash : SecretHash) : String := hashText (lowerHex hash.bytes)

/-- The prefix and 64 hexadecimal digits, which denote the bytes of the hash. -/
def Denotes (encoded : String) (hash : SecretHash) : Prop :=
  ∃ digits, encoded = hashText digits ∧ digits.length = 64 ∧ Digits digits ∧ stored hash.bytes = number digits

/-- This text is accepted exactly where it denotes a hash, and then with that hash; written again, the hash gives the
text back up to letter case. -/
structure FollowsGrammar (encoded : String) : Prop where
  accepts : ∀ hash, SecretHash.fromHexWithPrefix encoded = some hash ↔ Denotes encoded hash
  reencodes : ∀ hash, SecretHash.fromHexWithPrefix encoded = some hash →
    hash.toHexWithPrefix.toList = encoded.toList.map Char.toLower

/-- The prefix and 32 pairs, each of two digits or of a plus sign and a digit, with some plus sign. -/
def Signed (encoded : String) : Prop :=
  ∃ text, encoded = hashText text ∧ text.length = 64 ∧ pairs text = true ∧ '+' ∈ text

theorem SecretHash.fromHexWithPrefix_toHexWithPrefix (hash : SecretHash) :
    SecretHash.fromHexWithPrefix hash.toHexWithPrefix = some hash := by
  have spells := spells_lowerHex hash.bytes
  have sized : (lowerHex hash.bytes).length = 64 := by rw [spells.length, hash.size]
  exact SecretHash.fromHexWithPrefix_eq_some.mpr ⟨_, rfl, sized, spells⟩

/-- What denotes a hash is accepted. -/
theorem Denotes.accepted {encoded : String} {hash : SecretHash} (denotes : Denotes encoded hash) :
    SecretHash.fromHexWithPrefix encoded = some hash := by
  obtain ⟨digits, rfl, sized, only, same⟩ := denotes
  have even : digits.length = 2 * 32 := sized
  obtain ⟨bytes, spells⟩ := pairs_iff.mp (only.pairs even)
  -- as many bytes of the same number are the same bytes
  have full : bytes.length = hash.bytes.length := by
    have spelled := spells.length
    rw [hash.size]
    omega
  obtain rfl := stored_injective full ((spells.stored_eq only).trans same.symm)
  exact SecretHash.fromHexWithPrefix_eq_some.mpr ⟨digits, rfl, sized, spells⟩

/-- What is accepted is signed, or denotes its hash. -/
theorem SecretHash.signed_or_digits {encoded : String} {hash : SecretHash}
    (parsed : SecretHash.fromHexWithPrefix encoded = some hash) :
    Signed encoded ∨ ∃ digits, encoded = hashText digits ∧ digits.length = 64 ∧ Digits digits ∧ Spells digits hash.bytes := by
  obtain ⟨text, rfl, sized, spells⟩ := SecretHash.fromHexWithPrefix_eq_some.mp parsed
  by_cases signed : '+' ∈ text
  · exact .inl ⟨text, rfl, sized, pairs_iff.mpr ⟨_, spells⟩, signed⟩
  · exact .inr ⟨text, rfl, sized, spells.digits_of_unsigned signed, spells⟩

theorem Signed.accepted {encoded : String} (signed : Signed encoded) :
    ∃ hash, SecretHash.fromHexWithPrefix encoded = some hash := by
  obtain ⟨text, rfl, sized, paired, -⟩ := signed
  obtain ⟨bytes, spells⟩ := pairs_iff.mp paired
  have full : bytes.length = 32 := by
    have even := spells.length
    omega
  exact ⟨⟨bytes, full⟩, SecretHash.fromHexWithPrefix_eq_some.mpr ⟨text, rfl, sized, spells⟩⟩

theorem Signed.not_denotes {encoded : String} (signed : Signed encoded) (hash : SecretHash) : ¬ Denotes encoded hash := by
  rintro ⟨digits, rfl, -, only, -⟩
  obtain ⟨text, same, -, -, plus⟩ := signed
  obtain rfl := hashText_injective same
  exact only.plus_not_mem plus

/-- A signed text is accepted, and denotes nothing. -/
theorem Signed.not_followsGrammar {encoded : String} (signed : Signed encoded) : ¬ FollowsGrammar encoded := by
  intro follows
  obtain ⟨hash, parsed⟩ := signed.accepted
  exact signed.not_denotes hash ((follows.accepts hash).mp parsed)

/-- Everything that is accepted at all. -/
theorem SecretHash.accepted_iff {encoded : String} :
    (∃ hash, SecretHash.fromHexWithPrefix encoded = some hash) ↔ Signed encoded ∨ ∃ hash, Denotes encoded hash := by
  constructor
  · rintro ⟨hash, parsed⟩
    refine (SecretHash.signed_or_digits parsed).imp_right ?_
    rintro ⟨digits, rfl, sized, only, spells⟩
    exact ⟨hash, digits, rfl, sized, only, spells.stored_eq only⟩
  · rintro (signed | ⟨hash, denotes⟩)
    · exact signed.accepted
    · exact ⟨hash, denotes.accepted⟩

/-- The grammar is that of the documentation for every text but those with a plus sign in place of a first digit, and
for none of those. -/
theorem followsGrammar_iff_unsigned (encoded : String) : FollowsGrammar encoded ↔ ¬ Signed encoded := by
  constructor
  · exact fun follows signed => signed.not_followsGrammar follows
  · intro unsigned
    constructor
    · intro hash
      constructor
      · intro parsed
        obtain ⟨digits, rfl, sized, only, spells⟩ := (SecretHash.signed_or_digits parsed).resolve_left unsigned
        exact ⟨digits, rfl, sized, only, spells.stored_eq only⟩
      · exact Denotes.accepted
    · intro hash parsed
      obtain ⟨digits, rfl, -, only, spells⟩ := (SecretHash.signed_or_digits parsed).resolve_left unsigned
      -- the prefix is in lower case already
      simp only [SecretHash.toHexWithPrefix, hashText, String.toList_append, String.toList_ofList, List.map_append,
        spells.lowerHex_eq only]
      rfl

/-- The grammar is followed up to signs, the parser being the source's, which goes chunk by chunk; and a hash that is
written is read as itself. -/
theorem follows_grammar_iff (encoded : String) :
    (FollowsGrammar encoded ↔ ¬ Signed encoded) ∧
    SecretHash.fromHexWithPrefix encoded = (do
      let hex ← stripPrefix "sha256:".toUTF8.toList encoded.toUTF8.toList
      if hex.length ≠ 64 then none
      else
        let parsed ← (chunks hex).mapM parseChunk
        if size : parsed.length = 32 then some ⟨parsed, size⟩ else none) ∧
    ∀ hash : SecretHash, hash.toHexWithPrefix = encoded → SecretHash.fromHexWithPrefix encoded = some hash := by
  refine ⟨followsGrammar_iff_unsigned encoded, SecretHash.fromHexWithPrefix_chunks encoded, ?_⟩
  rintro hash rfl
  exact SecretHash.fromHexWithPrefix_toHexWithPrefix hash

/-- Ten, 32 times. -/
def signedText : String := "sha256:+a+a+a+a+a+a+a+a+a+a+a+a+a+a+a+a+a+a+a+a+a+a+a+a+a+a+a+a+a+a+a+a"

/-- It is accepted for the hash that another text denotes, and is not given back. -/
theorem signed_text_accepted :
    SecretHash.fromHexWithPrefix signedText = some ⟨List.replicate 32 10, List.length_replicate⟩ ∧
      ¬ FollowsGrammar signedText := by
  have signed : Signed signedText := ⟨signedText.toList.drop 7, by decide +kernel, by decide +kernel, by decide +kernel,
    by decide +kernel⟩
  exact ⟨by decide +kernel, signed.not_followsGrammar⟩

end AppSalmon
