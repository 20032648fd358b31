import DocSamples.Text.Utf8

/-!
Contract: decoding gives back every text that was encoded.

Owns:
- what the decoding machine does on the bytes of one character, by how many there are;
- the round trip of a text, and from it that different texts have different bytes;
- how long the bytes of a text are.
-/

namespace DocSamples.Utf8

/-! ## Steps of the machine -/

theorem decodeFrom_of_lead {byte : UInt8} {pending : Pending}
    (leads : lead byte = .partly pending) (rest : Bytes) :
    decodeFrom none (byte :: rest) = decodeFrom (some pending) rest := by
  rw [decodeFrom, step, leads]
  rfl

theorem decodeFrom_of_read? {pending : Pending} {byte : UInt8} {outcome : Lead}
    (reads : pending.read? byte = some outcome) (rest : Bytes) :
    decodeFrom (some pending) (byte :: rest) =
      outcome.settle.1 ++ decodeFrom outcome.settle.2 rest := by
  rw [decodeFrom, step, reads]

/-- A further byte carries six bits; between its bounds it is read. -/
theorem read?_continuation {pending : Pending} {bits : Nat} (small : bits < 0x40)
    (inside : pending.low ≤ 0x80 + bits ∧ 0x80 + bits ≤ pending.high) :
    pending.read? (UInt8.ofNat (0x80 + bits)) =
      some (match pending.later with
        | 0 => .complete (Char.ofNat (pending.value * 0x40 + bits))
        | later + 1 => .partly ⟨pending.value * 0x40 + bits, later, 0x80, 0xBF⟩) := by
  have value : (UInt8.ofNat (0x80 + bits)).toNat = 0x80 + bits :=
    UInt8.toNat_ofNat_of_lt (by show _ < 256; omega)
  unfold Pending.read?
  rw [value, if_pos inside, Nat.add_sub_cancel_left]
  cases pending.later with
  | zero => rfl
  | succ later => rfl

private theorem decodeFrom_last {pending : Pending} {bits : Nat} (last : pending.later = 0)
    (small : bits < 0x40)
    (inside : pending.low ≤ 0x80 + bits ∧ 0x80 + bits ≤ pending.high) (rest : Bytes) :
    decodeFrom (some pending) (UInt8.ofNat (0x80 + bits) :: rest) =
      Char.ofNat (pending.value * 0x40 + bits) :: decodeFrom none rest := by
  have reads := read?_continuation small inside
  rw [last] at reads
  rw [decodeFrom_of_read? reads]
  rfl

private theorem decodeFrom_further {pending : Pending} {bits later : Nat}
    (further : pending.later = later + 1) (small : bits < 0x40)
    (inside : pending.low ≤ 0x80 + bits ∧ 0x80 + bits ≤ pending.high) (rest : Bytes) :
    decodeFrom (some pending) (UInt8.ofNat (0x80 + bits) :: rest) =
      decodeFrom (some ⟨pending.value * 0x40 + bits, later, 0x80, 0xBF⟩) rest := by
  have reads := read?_continuation small inside
  rw [further] at reads
  rw [decodeFrom_of_read? reads]
  rfl

/-! ## First bytes -/

private theorem lead_one :
    ∀ code < 0x80, lead (UInt8.ofNat code) = .complete (Char.ofNat code) := by
  decide +kernel

private theorem lead_two : ∀ bits < 0x20, 2 ≤ bits →
    lead (UInt8.ofNat (0xC0 + bits)) = .partly ⟨bits, 0, 0x80, 0xBF⟩ := by
  decide +kernel

/-- Overlong forms and surrogates are kept out by the bounds on the second byte. -/
theorem lead_three : ∀ bits < 0x10, lead (UInt8.ofNat (0xE0 + bits)) =
    .partly ⟨bits, 1, if bits = 0 then 0xA0 else 0x80, if bits = 0xD then 0x9F else 0xBF⟩ := by
  decide +kernel

/-- Overlong forms and numbers above 10FFFF are kept out by the bounds on the second byte. -/
theorem lead_four : ∀ bits < 5, lead (UInt8.ofNat (0xF0 + bits)) =
    .partly ⟨bits, 2, if bits = 0 then 0x90 else 0x80, if bits = 4 then 0x8F else 0xBF⟩ := by
  decide +kernel

/-! ## The round trip -/

/-- The bytes of a character are decoded to it, whatever follows them. -/
theorem decodeFrom_encodeChar (character : Char) (rest : Bytes) :
    decodeFrom none (encodeChar character ++ rest) = character :: decodeFrom none rest := by
  have valid : character.toNat < 0xD800 ∨
      0xDFFF < character.toNat ∧ character.toNat < 0x110000 := character.valid
  have itself : Char.ofNat character.toNat = character := Char.ofNat_toNat character
  unfold encodeChar
  generalize character.toNat = code at valid itself
  by_cases oneByte : code < 0x80
  · rw [if_pos oneByte, List.singleton_append, decodeFrom, step, lead_one code oneByte, itself]
    rfl
  by_cases twoBytes : code < 0x800
  · rw [if_neg oneByte, if_pos twoBytes, List.cons_append, List.singleton_append,
      decodeFrom_of_lead (lead_two (code / 0x40) (by omega) (by omega)),
      decodeFrom_last rfl (Nat.mod_lt _ (by decide)) ⟨by simp, by simp; omega⟩]
    have whole : code / 0x40 * 0x40 + code % 0x40 = code := Nat.div_add_mod' code 0x40
    rw [whole, itself]
  by_cases threeBytes : code < 0x10000
  · have second : (if code / 0x1000 = 0 then 0xA0 else 0x80) ≤ 0x80 + code / 0x40 % 0x40 ∧
        0x80 + code / 0x40 % 0x40 ≤ if code / 0x1000 = 0xD then 0x9F else 0xBF := by
      constructor
      · split <;> omega
      · split <;> omega
    have whole : (code / 0x1000 * 0x40 + code / 0x40 % 0x40) * 0x40 + code % 0x40 = code := by
      omega
    rw [if_neg oneByte, if_neg twoBytes, if_pos threeBytes, List.cons_append, List.cons_append,
      List.singleton_append, decodeFrom_of_lead (lead_three (code / 0x1000) (by omega)),
      decodeFrom_further rfl (Nat.mod_lt _ (by decide)) second,
      decodeFrom_last rfl (Nat.mod_lt _ (by decide)) ⟨by simp, by simp; omega⟩, whole, itself]
  · have second : (if code / 0x40000 = 0 then 0x90 else 0x80) ≤ 0x80 + code / 0x1000 % 0x40 ∧
        0x80 + code / 0x1000 % 0x40 ≤ if code / 0x40000 = 4 then 0x8F else 0xBF := by
      constructor
      · split <;> omega
      · split <;> omega
    have whole : ((code / 0x40000 * 0x40 + code / 0x1000 % 0x40) * 0x40 +
        code / 0x40 % 0x40) * 0x40 + code % 0x40 = code := by
      omega
    rw [if_neg oneByte, if_neg twoBytes, if_neg threeBytes, List.cons_append, List.cons_append,
      List.cons_append, List.singleton_append,
      decodeFrom_of_lead (lead_four (code / 0x40000) (by omega)),
      decodeFrom_further rfl (Nat.mod_lt _ (by decide)) second,
      decodeFrom_further rfl (Nat.mod_lt _ (by decide)) ⟨by simp, by simp; omega⟩,
      decodeFrom_last rfl (Nat.mod_lt _ (by decide)) ⟨by simp, by simp; omega⟩, whole, itself]

theorem decode_encode (text : Text) : decode (encode text) = text := by
  unfold decode encode
  induction text with
  | nil => rfl
  | cons character text inductionHypothesis =>
      rw [List.flatMap_cons, decodeFrom_encodeChar, inductionHypothesis]

theorem encode_injective : Function.Injective encode := by
  intro left right same
  rw [← decode_encode left, same, decode_encode]

/-! ## Lengths -/

theorem encode_append (left right : Text) :
    encode (left ++ right) = encode left ++ encode right :=
  List.flatMap_append

theorem encodeChar_ne_nil (character : Char) : encodeChar character ≠ [] := by
  unfold encodeChar
  dsimp only
  split
  · exact List.cons_ne_nil _ _
  split
  · exact List.cons_ne_nil _ _
  split
  · exact List.cons_ne_nil _ _
  · exact List.cons_ne_nil _ _

theorem encode_length_pos {text : Text} (nonempty : text ≠ []) : 0 < (encode text).length := by
  cases text with
  | nil => exact absurd rfl nonempty
  | cons character text =>
      have bytes := List.length_pos_iff.2 (encodeChar_ne_nil character)
      rw [encode, List.flatMap_cons, List.length_append]
      omega

end DocSamples.Utf8
