import DocSamples.Proofs.Text.Utf8
import Mathlib.Algebra.Group.Nat.Defs
import Mathlib.Tactic.SplitIfs

/-!
Contract: what decoding makes of a byte string, said without the decoding machine.

Owns:
- ill-formed parts, by the characters whose bytes they could begin;
- the decoded text as a relation of bytes and texts, which the machine computes;
- that there is one such text for each byte string;
- ASCII bytes, which stand in no other character, and what they part.

A part is ill-formed where no character stands.  It reaches as far as the bytes could still
become a character, and is one byte where they could not even start one.
-/

namespace DocSamples.Utf8

/-! ## Ill-formed parts -/

/-- Whether bytes stand at the start of the bytes of some character. -/
def Begins (part : Bytes) : Prop :=
  ∃ character, part <+: encodeChar character

structure IllFormedPart (part rest : Bytes) : Prop where
  nonempty : part ≠ []
  noCharacter : ∀ character, part ≠ encodeChar character
  begins : 2 ≤ part.length → Begins part
  maximal : ∀ byte ∈ rest.head?, ¬ Begins (part ++ [byte])

theorem Begins.of_append {front back : Bytes} (begins : Begins (front ++ back)) : Begins front := by
  obtain ⟨character, begun⟩ := begins
  exact ⟨character, (List.prefix_append front back).trans begun⟩

private theorem illFormedPart_of_not_begins {byte : UInt8} (nothing : ¬ Begins [byte])
    (rest : Bytes) :
    IllFormedPart [byte] rest where
  nonempty := List.cons_ne_nil _ _
  noCharacter character same := nothing ⟨character, same ▸ List.prefix_rfl⟩
  begins long := absurd long (by simp)
  maximal next _ begins := nothing begins.of_append

/-- Which text a byte string is decoded to: character by character, and one U+FFFD for each
ill-formed part. -/
inductive Decodes : Bytes → Text → Prop where
  | nil : Decodes [] []
  | character (character : Char) {rest : Bytes} {text : Text} (later : Decodes rest text) :
      Decodes (encodeChar character ++ rest) (character :: text)
  | illFormed {part rest : Bytes} {text : Text} (illFormed : IllFormedPart part rest)
      (later : Decodes rest text) : Decodes (part ++ rest) (replacement :: text)

/-! ## The bytes of a character, by its number -/

def firstNumber (code : Nat) : Nat :=
  if code < 0x80 then code
  else if code < 0x800 then 0xC0 + code / 0x40
  else if code < 0x10000 then 0xE0 + code / 0x1000
  else 0xF0 + code / 0x40000

def furtherCount (code : Nat) : Nat :=
  if code < 0x80 then 0 else if code < 0x800 then 1 else if code < 0x10000 then 2 else 3

/-- The last bytes: six bits each, the lowest in the last. -/
def furtherBytes : (count : Nat) → (code : Nat) → Bytes
  | 0, _ => []
  | later + 1, code =>
    UInt8.ofNat (0x80 + code / 0x40 ^ later % 0x40) :: furtherBytes later code

theorem encodeChar_eq (character : Char) :
    encodeChar character =
      UInt8.ofNat (firstNumber character.toNat) ::
        furtherBytes (furtherCount character.toNat) character.toNat := by
  unfold encodeChar firstNumber furtherCount
  dsimp only
  split_ifs <;> simp [furtherBytes]

theorem valid_toNat (character : Char) : character.toNat.isValidChar :=
  character.valid

theorem firstNumber_lt {code : Nat} (valid : code.isValidChar) : firstNumber code < 256 := by
  unfold Nat.isValidChar at valid
  unfold firstNumber
  split_ifs <;> omega

theorem toNat_furtherByte (code later : Nat) :
    (UInt8.ofNat (0x80 + code / 0x40 ^ later % 0x40)).toNat =
      0x80 + code / 0x40 ^ later % 0x40 := by
  apply UInt8.toNat_ofNat_of_lt
  show _ < 256
  omega

theorem singleton_prefix_iff (byte : UInt8) (character : Char) :
    [byte] <+: encodeChar character ↔ byte.toNat = firstNumber character.toNat := by
  have small := firstNumber_lt (valid_toNat character)
  rw [encodeChar_eq, List.cons_prefix_cons]
  constructor
  · rintro ⟨rfl, -⟩
    exact UInt8.toNat_ofNat_of_lt small
  · intro same
    refine ⟨?_, List.nil_prefix⟩
    rw [← same]
    exact UInt8.ofNat_toNat.symm

/-! ## Characters that are open -/

/-- Whether the character with a number may still come of an open one. -/
def Pending.Admits (pending : Pending) (code : Nat) : Prop :=
  code / 0x40 ^ (pending.later + 1) = pending.value ∧
    pending.low ≤ 0x80 + code / 0x40 ^ pending.later % 0x40 ∧
    0x80 + code / 0x40 ^ pending.later % 0x40 ≤ pending.high

/-- The bytes of an open character that have been read are those of every character that may
still come of it, and of no other. -/
structure Pending.StandsFor (pending : Pending) (part : Bytes) : Prop where
  nonempty : part ≠ []
  within : 0x80 ≤ pending.low ∧ pending.low ≤ pending.high ∧ pending.high ≤ 0xBF
  valid : ∀ code, pending.Admits code → code.isValidChar
  admits : ∀ character, part <+: encodeChar character → pending.Admits character.toNat
  spelled : ∀ character, pending.Admits character.toNat →
    encodeChar character = part ++ furtherBytes (pending.later + 1) character.toNat

private theorem standsFor_of_numbers {pending : Pending} {byte : UInt8}
    (within : 0x80 ≤ pending.low ∧ pending.low ≤ pending.high ∧ pending.high ≤ 0xBF)
    (valid : ∀ code, pending.Admits code → code.isValidChar)
    (numbers : ∀ code, code.isValidChar →
      (byte.toNat = firstNumber code ↔ pending.Admits code))
    (counts : ∀ code, pending.Admits code → furtherCount code = pending.later + 1) :
    pending.StandsFor [byte] where
  nonempty := List.cons_ne_nil _ _
  within := within
  valid := valid
  admits character begun :=
    (numbers _ (valid_toNat character)).1 ((singleton_prefix_iff byte character).1 begun)
  spelled character admitted := by
    have first := (numbers _ (valid_toNat character)).2 admitted
    rw [encodeChar_eq, counts _ admitted, ← first, UInt8.ofNat_toNat]
    rfl

private theorem standsFor_of_lead {byte : UInt8} {pending : Pending}
    (leads : lead byte = .partly pending) : pending.StandsFor [byte] := by
  unfold lead at leads
  dsimp only at leads
  split_ifs at leads <;> simp only [Lead.partly.injEq] at leads <;> subst leads
  all_goals
    apply standsFor_of_numbers
    · dsimp only
      omega
    · intro code
      simp only [Pending.Admits, Nat.isValidChar]
      omega
    · intro code
      simp only [Pending.Admits, Nat.isValidChar, firstNumber]
      split_ifs <;> omega
    · intro code
      simp only [Pending.Admits, furtherCount]
      split_ifs <;> omega

theorem toNat_ofNat {code : Nat} (valid : code.isValidChar) : (Char.ofNat code).toNat = code := by
  unfold Char.ofNat
  rw [dif_pos valid]
  rfl

theorem encodeChar_of_lead {byte : UInt8} {character : Char}
    (leads : lead byte = .complete character) : encodeChar character = [byte] := by
  have ascii : byte.toNat < 0x80 ∧ Char.ofNat byte.toNat = character := by
    unfold lead at leads
    dsimp only at leads
    split_ifs at leads with small
    exact ⟨small, Lead.complete.inj leads⟩
  obtain ⟨small, rfl⟩ := ascii
  have valid : byte.toNat.isValidChar := Or.inl (by omega)
  unfold encodeChar
  dsimp only
  rw [toNat_ofNat valid, if_pos small, UInt8.ofNat_toNat]

private theorem not_begins_of_lead {byte : UInt8} (leads : lead byte = .illFormed) :
    ¬ Begins [byte] := by
  rintro ⟨character, begun⟩
  have first := (singleton_prefix_iff byte character).1 begun
  have valid := valid_toNat character
  unfold lead at leads
  dsimp only at leads
  unfold firstNumber at first
  unfold Nat.isValidChar at valid
  split_ifs at leads first <;> omega

/-! ## Reading a further byte -/

namespace Pending

variable {pending : Pending} {part : Bytes} {byte : UInt8}

private theorem read?_last (accepted : pending.low ≤ byte.toNat ∧ byte.toNat ≤ pending.high)
    (last : pending.later = 0) :
    pending.read? byte =
      some (.complete (Char.ofNat (pending.value * 0x40 + (byte.toNat - 0x80)))) := by
  unfold read?
  dsimp only
  rw [if_pos accepted, last]

private theorem read?_further {later : Nat}
    (accepted : pending.low ≤ byte.toNat ∧ byte.toNat ≤ pending.high)
    (further : pending.later = later + 1) :
    pending.read? byte =
      some (.partly ⟨pending.value * 0x40 + (byte.toNat - 0x80), later, 0x80, 0xBF⟩) := by
  unfold read?
  dsimp only
  rw [if_pos accepted, further]

private theorem read?_refused (refused : ¬ (pending.low ≤ byte.toNat ∧ byte.toNat ≤ pending.high)) :
    pending.read? byte = none :=
  if_neg refused

namespace StandsFor

theorem prefix_iff (stands : pending.StandsFor part) (character : Char) :
    part ++ [byte] <+: encodeChar character ↔
      pending.Admits character.toNat ∧
        0x80 + character.toNat / 0x40 ^ pending.later % 0x40 = byte.toNat := by
  have next : pending.Admits character.toNat →
      (part ++ [byte] <+: encodeChar character ↔
        0x80 + character.toNat / 0x40 ^ pending.later % 0x40 = byte.toNat) := by
    intro admitted
    rw [stands.spelled character admitted, List.prefix_append_right_inj, furtherBytes,
      List.cons_prefix_cons]
    constructor
    · rintro ⟨rfl, -⟩
      exact (toNat_furtherByte _ _).symm
    · intro same
      rw [same, UInt8.ofNat_toNat]
      exact ⟨rfl, List.nil_prefix⟩
  constructor
  · intro begun
    have admitted := stands.admits character ((List.prefix_append part [byte]).trans begun)
    exact ⟨admitted, (next admitted).1 begun⟩
  · rintro ⟨admitted, same⟩
    exact (next admitted).2 same

/-- A byte within the bounds comes next in exactly the characters whose bits go on with those
of the byte. -/
theorem admits_and_iff (stands : pending.StandsFor part)
    (accepted : pending.low ≤ byte.toNat ∧ byte.toNat ≤ pending.high) (code : Nat) :
    pending.Admits code ∧ 0x80 + code / 0x40 ^ pending.later % 0x40 = byte.toNat ↔
      code / 0x40 ^ pending.later = pending.value * 0x40 + (byte.toNat - 0x80) := by
  have within := stands.within
  unfold Admits
  rw [Nat.pow_succ, ← Nat.div_div_eq_div_mul]
  generalize code / 0x40 ^ pending.later = bits
  omega

private theorem not_begins (stands : pending.StandsFor part)
    (refused : ¬ (pending.low ≤ byte.toNat ∧ byte.toNat ≤ pending.high)) :
    ¬ Begins (part ++ [byte]) := by
  rintro ⟨character, begun⟩
  obtain ⟨⟨-, accepted⟩, same⟩ := (stands.prefix_iff character).1 begun
  rw [same] at accepted
  exact refused accepted

private theorem exists_admitted (stands : pending.StandsFor part) :
    ∃ code, pending.Admits code := by
  have within := stands.within
  have positive : 0 < 0x40 ^ pending.later := Nat.pow_pos (by decide)
  refine ⟨(pending.value * 0x40 + (pending.low - 0x80)) * 0x40 ^ pending.later, ?_⟩
  unfold Admits
  rw [Nat.pow_succ, ← Nat.div_div_eq_div_mul, Nat.mul_div_cancel _ positive]
  omega

private theorem begins (stands : pending.StandsFor part) : Begins part := by
  obtain ⟨code, admitted⟩ := stands.exists_admitted
  have number := toNat_ofNat (stands.valid code admitted)
  rw [← number] at admitted
  refine ⟨Char.ofNat code, ?_⟩
  rw [stands.spelled _ admitted]
  exact List.prefix_append part _

private theorem illFormedPart (stands : pending.StandsFor part) {rest : Bytes}
    (stops : ∀ byte ∈ rest.head?, ¬ (pending.low ≤ byte.toNat ∧ byte.toNat ≤ pending.high)) :
    IllFormedPart part rest where
  nonempty := stands.nonempty
  noCharacter character same := by
    have spelled := stands.spelled character (stands.admits character (same ▸ List.prefix_rfl))
    rw [← same, List.self_eq_append_right] at spelled
    exact absurd spelled (List.cons_ne_nil _ _)
  begins _ := stands.begins
  maximal byte next := stands.not_begins (stops byte next)

private theorem encodeChar_eq_of_last (stands : pending.StandsFor part)
    (accepted : pending.low ≤ byte.toNat ∧ byte.toNat ≤ pending.high) (last : pending.later = 0) :
    encodeChar (Char.ofNat (pending.value * 0x40 + (byte.toNat - 0x80))) = part ++ [byte] := by
  generalize named : pending.value * 0x40 + (byte.toNat - 0x80) = code
  have comes := (stands.admits_and_iff accepted code).2 (by rw [last, named]; simp)
  have number := toNat_ofNat (stands.valid code comes.1)
  have begun := (stands.prefix_iff (Char.ofNat code)).2 (by rw [number]; exact comes)
  have spelled := stands.spelled (Char.ofNat code) (by rw [number]; exact comes.1)
  have length := begun.length_le
  apply (List.IsPrefix.eq_of_length begun ?_).symm
  rw [spelled, last]
  simp [furtherBytes]

private theorem further (stands : pending.StandsFor part) {later : Nat}
    (accepted : pending.low ≤ byte.toNat ∧ byte.toNat ≤ pending.high)
    (more : pending.later = later + 1) :
    StandsFor ⟨pending.value * 0x40 + (byte.toNat - 0x80), later, 0x80, 0xBF⟩
      (part ++ [byte]) := by
  have admits_iff : ∀ code,
      Admits ⟨pending.value * 0x40 + (byte.toNat - 0x80), later, 0x80, 0xBF⟩ code ↔
        pending.Admits code ∧ 0x80 + code / 0x40 ^ pending.later % 0x40 = byte.toNat := by
    intro code
    rw [stands.admits_and_iff accepted, more]
    unfold Admits
    dsimp only
    omega
  constructor
  · exact List.append_ne_nil_of_right_ne_nil _ (List.cons_ne_nil _ _)
  · exact ⟨Nat.le_refl 0x80, (by decide : 0x80 ≤ 0xBF), Nat.le_refl 0xBF⟩
  · exact fun code admitted => stands.valid code ((admits_iff code).1 admitted).1
  · exact fun character begun => (admits_iff _).2 ((stands.prefix_iff character).1 begun)
  · intro character admitted
    obtain ⟨before, same⟩ := (admits_iff _).1 admitted
    rw [stands.spelled character before, more, furtherBytes, List.append_assoc]
    rw [more] at same
    rw [same, UInt8.ofNat_toNat]
    rfl

end StandsFor

end Pending

/-! ## The machine -/

private theorem decodeFrom_of_refused {pending : Pending} {byte : UInt8}
    (refused : ¬ (pending.low ≤ byte.toNat ∧ byte.toNat ≤ pending.high)) (rest : Bytes) :
    decodeFrom (some pending) (byte :: rest) = replacement :: decodeFrom none (byte :: rest) := by
  rw [decodeFrom, step, Pending.read?_refused refused]
  rfl

/-- The machine, from the start of a character and from any character that is open.  The second
needs the first of the same bytes: a byte that is refused is read afresh. -/
theorem decodes_decodeFrom (bytes : Bytes) :
    Decodes bytes (decodeFrom none bytes) ∧
      ∀ (pending : Pending) (part : Bytes), pending.StandsFor part →
        Decodes (part ++ bytes) (decodeFrom (some pending) bytes) := by
  induction bytes with
  | nil =>
      refine ⟨.nil, fun pending part stands => ?_⟩
      exact .illFormed (stands.illFormedPart fun byte next => absurd next nofun) .nil
  | cons byte rest inductionHypothesis =>
      obtain ⟨afterwards, within⟩ := inductionHypothesis
      have afresh : Decodes (byte :: rest) (decodeFrom none (byte :: rest)) := by
        cases leads : lead byte with
        | complete character =>
            have decoded := Decodes.character character afterwards
            rw [encodeChar_of_lead leads] at decoded
            rw [decodeFrom, step, leads]
            exact decoded
        | partly pending =>
            rw [decodeFrom_of_lead leads]
            exact within pending [byte] (standsFor_of_lead leads)
        | illFormed =>
            have alone := illFormedPart_of_not_begins (not_begins_of_lead leads) rest
            have decoded := Decodes.illFormed alone afterwards
            rw [decodeFrom, step, leads]
            exact decoded
      refine ⟨afresh, fun pending part stands => ?_⟩
      by_cases accepted : pending.low ≤ byte.toNat ∧ byte.toNat ≤ pending.high
      · have regrouped : part ++ byte :: rest = part ++ [byte] ++ rest := by simp
        rw [regrouped]
        cases more : pending.later with
        | zero =>
            rw [decodeFrom_of_read? (Pending.read?_last accepted more),
              ← stands.encodeChar_eq_of_last accepted more]
            exact .character _ afterwards
        | succ later =>
            rw [decodeFrom_of_read? (Pending.read?_further accepted more)]
            exact within _ _ (stands.further accepted more)
      · rw [decodeFrom_of_refused accepted]
        apply Decodes.illFormed (stands.illFormedPart ?_) afresh
        intro next atHead
        obtain rfl : byte = next := Option.some.inj atHead
        exact accepted

theorem decodes_decode (bytes : Bytes) : Decodes bytes (decode bytes) :=
  (decodes_decodeFrom bytes).1

/-! ## There is one decoded text -/

/-- No character's bytes go on with those of another. -/
theorem eq_of_encodeChar_append {left right : Char} {leftRest rightRest : Bytes}
    (same : encodeChar left ++ leftRest = encodeChar right ++ rightRest) :
    left = right ∧ leftRest = rightRest := by
  have decoded := congrArg (decodeFrom none) same
  rw [decodeFrom_encodeChar, decodeFrom_encodeChar, List.cons.injEq] at decoded
  obtain ⟨rfl, -⟩ := decoded
  exact ⟨rfl, List.append_cancel_left same⟩

private theorem eq_of_begins_encodeChar_append {character : Char} {more : Bytes}
    (begins : Begins (encodeChar character ++ more)) : more = [] := by
  obtain ⟨other, rest, spelled⟩ := begins
  have same : encodeChar character ++ (more ++ rest) = encodeChar other ++ [] := by
    rw [List.append_nil, ← spelled, List.append_assoc]
  exact (List.append_eq_nil_iff.1 (eq_of_encodeChar_append same).2).1

namespace IllFormedPart

variable {part rest : Bytes}

/-- Where a part is ill-formed, no character stands. -/
theorem ne_encodeChar_append (illFormed : IllFormedPart part rest) (character : Char)
    (others : Bytes) : part ++ rest ≠ encodeChar character ++ others := by
  intro same
  rcases List.append_eq_append_iff.1 same with ⟨more, spelled, rfl⟩ | ⟨more, rfl, -⟩
  · cases more with
    | nil => exact illFormed.noCharacter character (by rw [spelled, List.append_nil])
    | cons byte more =>
        apply illFormed.maximal byte rfl
        refine ⟨character, more, ?_⟩
        rw [spelled, List.append_assoc]
        rfl
  · cases more with
    | nil => exact illFormed.noCharacter character (List.append_nil _)
    | cons byte more =>
        have one := List.length_pos_iff.2 (encodeChar_ne_nil character)
        have begins := illFormed.begins (by rw [List.length_append, List.length_cons]; omega)
        exact absurd (eq_of_begins_encodeChar_append begins) (List.cons_ne_nil _ _)

private theorem eq_nil_of_longer {more : Bytes} (short : IllFormedPart part (more ++ rest))
    (long : IllFormedPart (part ++ more) rest) : more = [] := by
  cases more with
  | nil => rfl
  | cons byte more =>
      have one := List.length_pos_iff.2 short.nonempty
      have begins := long.begins (by rw [List.length_append, List.length_cons]; omega)
      rw [← List.singleton_append, ← List.append_assoc] at begins
      exact absurd begins.of_append (short.maximal byte rfl)

private theorem eq_of_append_eq {otherPart otherRest : Bytes} (illFormed : IllFormedPart part rest)
    (other : IllFormedPart otherPart otherRest) (same : part ++ rest = otherPart ++ otherRest) :
    rest = otherRest := by
  rcases List.append_eq_append_iff.1 same with ⟨more, rfl, rfl⟩ | ⟨more, rfl, rfl⟩
  · rw [eq_nil_of_longer illFormed other, List.nil_append]
  · rw [eq_nil_of_longer other illFormed, List.nil_append]

end IllFormedPart

namespace Decodes

/-- What stands at the start of the bytes, and the character that is decoded first. -/
theorem shapes {bytes : Bytes} {text : Text} (decoded : Decodes bytes text) :
    (bytes = [] ∧ text = []) ∨
      (∃ character rest later, bytes = encodeChar character ++ rest ∧ text = character :: later ∧
        Decodes rest later) ∨
      ∃ part rest later, bytes = part ++ rest ∧ text = replacement :: later ∧
        IllFormedPart part rest ∧ Decodes rest later := by
  cases decoded with
  | nil => exact .inl ⟨rfl, rfl⟩
  | character character later => exact .inr (.inl ⟨_, _, _, rfl, rfl, later⟩)
  | illFormed illFormed later => exact .inr (.inr ⟨_, _, _, rfl, rfl, illFormed, later⟩)

private theorem unique {bytes : Bytes} {left right : Text} (leftDecoded : Decodes bytes left)
    (rightDecoded : Decodes bytes right) : left = right := by
  induction leftDecoded generalizing right with
  | nil =>
      rcases rightDecoded.shapes with ⟨-, rfl⟩ | ⟨character, rest, _, same, -, -⟩ |
        ⟨part, rest, _, same, -, illFormed, -⟩
      · rfl
      · exact absurd (List.append_eq_nil_iff.1 same.symm).1 (encodeChar_ne_nil character)
      · exact absurd (List.append_eq_nil_iff.1 same.symm).1 illFormed.nonempty
  | character character _ inductionHypothesis =>
      rcases rightDecoded.shapes with ⟨same, -⟩ | ⟨other, rest, later, same, rfl, decoded⟩ |
        ⟨part, rest, _, same, -, illFormed, -⟩
      · exact absurd (List.append_eq_nil_iff.1 same).1 (encodeChar_ne_nil character)
      · obtain ⟨rfl, rfl⟩ := eq_of_encodeChar_append same
        rw [inductionHypothesis decoded]
      · exact absurd same.symm (illFormed.ne_encodeChar_append character _)
  | illFormed illFormed _ inductionHypothesis =>
      rcases rightDecoded.shapes with ⟨same, -⟩ | ⟨character, rest, _, same, -, -⟩ |
        ⟨part, rest, later, same, rfl, other, decoded⟩
      · exact absurd (List.append_eq_nil_iff.1 same).1 illFormed.nonempty
      · exact absurd same (illFormed.ne_encodeChar_append character _)
      · obtain rfl := illFormed.eq_of_append_eq other same
        rw [inductionHypothesis decoded]

end Decodes

/-- The machine is the only reading of the bytes. -/
theorem decodes_iff (bytes : Bytes) (text : Text) : Decodes bytes text ↔ text = decode bytes := by
  constructor
  · exact fun decoded => decoded.unique (decodes_decode bytes)
  · rintro rfl
    exact decodes_decode bytes

/-! ## Strings -/

private theorem encodeChar_eq_utf8EncodeChar (character : Char) :
    encodeChar character = String.utf8EncodeChar character := by
  have valid := valid_toNat character
  unfold Nat.isValidChar Char.toNat at valid
  unfold encodeChar String.utf8EncodeChar Char.toNat
  generalize character.val.toNat = code at valid ⊢
  dsimp only
  split_ifs <;> grind

/-- The bytes of a text are those of the string of its characters. -/
theorem toUTF8_ofList (text : Text) : (String.ofList text).toUTF8.data.toList = encode text := by
  unfold encode
  rw [String.toUTF8_eq_toByteArray, String.toByteArray_ofList, List.utf8Encode,
    List.data_toByteArray, funext encodeChar_eq_utf8EncodeChar]

/-! ## ASCII bytes -/

section Ascii

variable {byte : UInt8}

private theorem le_toNat_of_mem_furtherBytes {count code : Nat}
    (member : byte ∈ furtherBytes count code) :
    0x80 ≤ byte.toNat := by
  induction count with
  | zero => exact absurd member List.not_mem_nil
  | succ later inductionHypothesis =>
      rcases List.mem_cons.1 member with rfl | further
      · rw [toNat_furtherByte]
        omega
      · exact inductionHypothesis further

/-- A byte below 80 stands in the bytes of its own character only. -/
theorem encodeChar_of_mem (ascii : byte.toNat < 0x80) {character : Char}
    (member : byte ∈ encodeChar character) : encodeChar character = [byte] := by
  have small := firstNumber_lt (valid_toNat character)
  rw [encodeChar_eq] at member ⊢
  rcases List.mem_cons.1 member with rfl | further
  · have first : (UInt8.ofNat (firstNumber character.toNat)).toNat = firstNumber character.toNat :=
      UInt8.toNat_ofNat_of_lt small
    rw [first] at ascii
    have oneByte : furtherCount character.toNat = 0 := by
      unfold firstNumber at ascii
      unfold furtherCount
      split_ifs at ascii ⊢ <;> omega
    rw [oneByte]
    rfl
  · exact absurd (le_toNat_of_mem_furtherBytes further) (by omega)

theorem encodeChar_ascii (ascii : byte.toNat < 0x80) :
    encodeChar (Char.ofNat byte.toNat) = [byte] := by
  apply encodeChar_of_lead
  unfold lead
  dsimp only
  rw [if_pos ascii]

theorem ne_replacement (ascii : byte.toNat < 0x80) : Char.ofNat byte.toNat ≠ replacement := by
  intro same
  have number := congrArg Char.toNat same
  rw [toNat_ofNat (.inl (by omega))] at number
  have large : replacement.toNat = 0xFFFD := rfl
  omega

private theorem IllFormedPart.append_ascii (ascii : byte.toNat < 0x80) {part rest : Bytes}
    (illFormed : IllFormedPart part rest) (back : Bytes) :
    IllFormedPart part (rest ++ byte :: back) where
  nonempty := illFormed.nonempty
  noCharacter := illFormed.noCharacter
  begins := illFormed.begins
  maximal next atHead := by
    cases rest with
    | cons first others => exact illFormed.maximal next atHead
    | nil =>
        obtain rfl : byte = next := Option.some.inj atHead
        rintro ⟨character, begun⟩
        have member : byte ∈ encodeChar character := begun.subset (by simp)
        have length := begun.length_le
        have one := List.length_pos_iff.2 illFormed.nonempty
        rw [encodeChar_of_mem ascii member, List.length_append] at length
        omega

private theorem Decodes.append_ascii (ascii : byte.toNat < 0x80) {front : Bytes} {text : Text}
    (decoded : Decodes front text) (back : Bytes) :
    Decodes (front ++ byte :: back) (text ++ Char.ofNat byte.toNat :: decode back) := by
  induction decoded with
  | nil =>
      have decoded := Decodes.character (Char.ofNat byte.toNat) (decodes_decode back)
      rw [encodeChar_ascii ascii] at decoded
      exact decoded
  | character character _ inductionHypothesis =>
      rw [List.append_assoc]
      exact .character character inductionHypothesis
  | illFormed illFormed _ inductionHypothesis =>
      rw [List.append_assoc]
      exact .illFormed (illFormed.append_ascii ascii back) inductionHypothesis

/-- An ASCII byte parts the bytes: what is decoded before it and after it does not depend on
the other side. -/
theorem decode_append_ascii (ascii : byte.toNat < 0x80) (front back : Bytes) :
    decode (front ++ byte :: back) = decode front ++ Char.ofNat byte.toNat :: decode back :=
  ((decodes_iff _ _).1 ((decodes_decode front).append_ascii ascii back)).symm

/-- Decoding makes no ASCII character of other bytes. -/
theorem Decodes.mem_of_mem (ascii : byte.toNat < 0x80) {bytes : Bytes} {text : Text}
    (decoded : Decodes bytes text) (member : Char.ofNat byte.toNat ∈ text) : byte ∈ bytes := by
  induction decoded with
  | nil => exact absurd member List.not_mem_nil
  | character character _ inductionHypothesis =>
      rcases List.mem_cons.1 member with rfl | later
      · rw [encodeChar_ascii ascii]
        exact List.mem_cons_self
      · exact List.mem_append_right _ (inductionHypothesis later)
  | illFormed _ _ inductionHypothesis =>
      rcases List.mem_cons.1 member with same | later
      · exact absurd same (ne_replacement ascii)
      · exact List.mem_append_right _ (inductionHypothesis later)

private theorem exists_of_decode_eq_cons (ascii : byte.toNat < 0x80) {bytes : Bytes} {text : Text}
    (decoded : decode bytes = Char.ofNat byte.toNat :: text) :
    ∃ rest, bytes = byte :: rest ∧ decode rest = text := by
  have reading := decodes_decode bytes
  rw [decoded] at reading
  rcases reading.shapes with ⟨-, same⟩ | ⟨character, rest, later, rfl, same, laterDecoded⟩ |
    ⟨_, _, _, _, same, -⟩
  · exact absurd same (List.cons_ne_nil _ _)
  · obtain ⟨rfl, rfl⟩ := List.cons.inj same
    rw [encodeChar_ascii ascii]
    exact ⟨rest, rfl, ((decodes_iff _ _).1 laterDecoded).symm⟩
  · exact absurd (List.cons.inj same).1 (ne_replacement ascii)

/-- The ASCII characters at the start of a decoded text stood there as bytes. -/
theorem exists_of_decode_eq_append {front : Bytes} (ascii : ∀ byte ∈ front, byte.toNat < 0x80)
    {bytes : Bytes} {text : Text} (decoded : decode bytes = decode front ++ text) :
    ∃ rest, bytes = front ++ rest ∧ decode rest = text := by
  induction front generalizing bytes with
  | nil => exact ⟨bytes, rfl, decoded⟩
  | cons byte front inductionHypothesis =>
      have first : decode (byte :: front) = Char.ofNat byte.toNat :: decode front :=
        decode_append_ascii (ascii byte List.mem_cons_self) [] front
      rw [first, List.cons_append] at decoded
      obtain ⟨others, rfl, later⟩ :=
        exists_of_decode_eq_cons (ascii byte List.mem_cons_self) decoded
      obtain ⟨rest, rfl, found⟩ := inductionHypothesis
        (fun other member => ascii other (List.mem_cons_of_mem _ member)) later
      exact ⟨rest, rfl, found⟩

end Ascii

end DocSamples.Utf8
