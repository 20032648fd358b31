import DocSamples.Proofs.Document.Revision
import DocSamples.Proofs.Sample.Rendering
import DocSamples.Proofs.Text.Decoding

/-!
Contract: the lines of a document are those of the bytes it was read from.

Owns:
- the lines of a file, as byte strings;
- the lines of a decoded text;
- the lines of a file that a sample stands on;
- documents that were read from a file or given by git.

Damage stays within its line: an ill-formed part ends at the latest in front of a line feed, and
it never becomes one.
-/

namespace DocSamples

/-- The lines of a file: its bytes between line feeds. -/
def physicalLines (bytes : Bytes) : List Bytes :=
  splitAt 0x0A bytes

/-! ## Lines of decoded texts -/

private theorem decode_joinWith (pieces : List Bytes) :
    Utf8.decode (joinWith 0x0A pieces) = joinWith '\n' (pieces.map Utf8.decode) := by
  induction pieces with
  | nil => rfl
  | cons piece pieces inductionHypothesis =>
      cases pieces with
      | nil => rfl
      | cons next pieces =>
          have ascii : (0x0A : UInt8).toNat < 0x80 := by decide
          rw [joinWith, Utf8.decode_append_ascii ascii, inductionHypothesis]
          rfl

/-- The lines of a decoded text are the decoded lines of its bytes. -/
theorem lines_decode (bytes : Bytes) :
    lines (Utf8.decode bytes) = (physicalLines bytes).map Utf8.decode := by
  have whole : Utf8.decode bytes = joinWith '\n' ((physicalLines bytes).map Utf8.decode) := by
    rw [← decode_joinWith, physicalLines, joinWith_splitAt]
  rw [lines, whole]
  apply splitAt_joinWith
  · exact List.map_eq_nil_iff.not.2 (splitAt_ne_nil _ _)
  · intro line member feeds
    obtain ⟨physical, isLine, rfl⟩ := List.mem_map.1 member
    apply notMem_of_mem_splitAt 0x0A isLine
    exact (Utf8.decodes_decode physical).mem_of_mem (by decide) feeds

/-- A line that is read as an indented one starts with the bytes of the indentation. -/
theorem exists_of_decoded_indent {physical : Bytes} {code : Text}
    (decoded : Utf8.decode physical = indent ++ code) :
    ∃ rest, physical = Utf8.encode indent ++ rest ∧ Utf8.decode rest = code := by
  have ascii : ∀ byte ∈ Utf8.encode indent, byte.toNat < 0x80 := by decide +kernel
  rw [← Utf8.decode_encode indent] at decoded
  exact Utf8.exists_of_decode_eq_append ascii decoded

/-! ## Samples of decoded texts -/

/-- The lines of a file that a sample stands on, by their positions from zero: the sample has the
number of the first, each starts with four spaces, and the code is what follows these, decoded
line by line. -/
structure Sample.StandsOn (physical : List Bytes) (positions : List Nat) (sample : Sample) :
    Prop where
  increasing : positions.Pairwise (· < ·)
  line_eq : positions.head?.map (· + 1) = some sample.line
  indented : ∀ position ∈ positions, ∃ code,
    physical[position]? = some (Utf8.encode indent ++ code)
  code_eq : sample.code = positions.flatMap fun position =>
    Utf8.decode ((physical[position]?.getD []).drop indentWidth) ++ ['\n']

private theorem pairwise_of_mem_codeBlocks {lines : List Text} {block : List Nat}
    (member : block ∈ codeBlocks lines) : block.Pairwise (· < ·) := by
  have inOrder : (codePositions lines).Pairwise (· < ·) :=
    List.pairwise_lt_range.sublist List.filter_sublist
  rw [← List.flatten_splitBy (noProseBetween lines) (codePositions lines)] at inOrder
  exact inOrder.sublist (List.sublist_flatten_of_mem member)

/-- A line of code, as bytes: the indentation, and what is decoded to the code. -/
theorem exists_physical_of_isCodeLine {bytes : Bytes} {position : Nat}
    (isCode : isCodeLine (lines (Utf8.decode bytes)) position = true) :
    ∃ rest, (physicalLines bytes)[position]? = some (Utf8.encode indent ++ rest) ∧
      (lines (Utf8.decode bytes))[position]? = some (indent ++ Utf8.decode rest) := by
  obtain ⟨code, found⟩ := exists_code_of_isCodeLine isCode
  have physicalFound := found
  rw [lines_decode, List.getElem?_map, Option.map_eq_some_iff] at physicalFound
  obtain ⟨physical, there, decoded⟩ := physicalFound
  obtain ⟨rest, rfl, rfl⟩ := exists_of_decoded_indent decoded
  exact ⟨rest, there, found⟩

private theorem standsOn_of_mem_codeBlocks {bytes : Bytes} {block : List Nat} (index : Nat)
    (isBlock : block ∈ codeBlocks (lines (Utf8.decode bytes))) :
    Sample.StandsOn (physicalLines bytes) block
      ⟨blockCode (lines (Utf8.decode bytes)) block, firstLineNumber block, index⟩ where
  increasing := pairwise_of_mem_codeBlocks isBlock
  line_eq := by
    obtain ⟨first, others, rfl, -⟩ := exists_of_mem_codeBlocks isBlock
    rfl
  indented position member := by
    obtain ⟨rest, there, -⟩ :=
      exists_physical_of_isCodeLine (isCodeLine_of_mem_codeBlocks isBlock member)
    exact ⟨rest, there⟩
  code_eq := by
    apply List.flatMap_congr
    intro position member
    obtain ⟨rest, there, found⟩ :=
      exists_physical_of_isCodeLine (isCodeLine_of_mem_codeBlocks isBlock member)
    rw [there, found, Option.getD_some, Option.getD_some, Scanner.codeOfLine_indent]
    rfl

/-! ## Documents -/

/-- What a text that was read from bytes keeps of them: it is what the bytes are decoded to, and
nothing else is; well-formed bytes are not changed; it has the decoded lines of the bytes, each by
itself; and its samples stand on these lines. -/
structure KeepsLines (bytes : Bytes) (text : Text) : Prop where
  decodes_iff : ∀ other, Utf8.Decodes bytes other ↔ other = text
  unchanged : ∀ wellFormed : String, wellFormed.toUTF8.data.toList = bytes →
    text = wellFormed.toList
  lines_eq : lines text = (physicalLines bytes).map Utf8.decode
  samples : ∀ (index : Nat) (sample : Sample), (extract text)[index]? = some sample →
    sample.index = index ∧
      ∃ positions ∈ codeBlocks (lines text), sample.StandsOn (physicalLines bytes) positions

private theorem keepsLines_decode (bytes : Bytes) : KeepsLines bytes (Utf8.decode bytes) where
  decodes_iff := Utf8.decodes_iff bytes
  unchanged wellFormed same := by
    have encoded := Utf8.toUTF8_ofList wellFormed.toList
    rw [String.ofList_toList, same] at encoded
    rw [encoded, Utf8.decode_encode]
  lines_eq := lines_decode bytes
  samples index sample found := by
    obtain ⟨block, isBlock, rfl⟩ := extract_getElem? found
    exact ⟨rfl, block, isBlock, standsOn_of_mem_codeBlocks index isBlock⟩

namespace Host

variable {World : Type} (host : Host World)

private theorem readDocument_eq_ok_iff (path : Text) (world : World) (document : Document) :
    host.readDocument path world = .ok document ↔
      ∃ bytes, host.read path world = .ok bytes ∧ document = ⟨path, Utf8.decode bytes⟩ := by
  unfold readDocument
  rcases host.read path world with cause | bytes
  · simp
  · simp [eq_comm]

/-- **Malformed bytes never shift lines.**  Whatever its bytes, a document that is read from a
file, or given by git, has the lines of these bytes, each decoded by itself, and well-formed bytes
are not changed.  So the number of a sample is that of the line in the file, and each line of its
code is one line of the file without its first four bytes, decoded. -/
theorem documents_keepLines :
    (∀ bytes, KeepsLines bytes (Utf8.decode bytes)) ∧
      (∀ path world document, host.readDocument path world = .ok document ↔
        ∃ bytes, host.read path world = .ok bytes ∧
          document = ⟨path, Utf8.decode bytes⟩) ∧
      ∀ reference name world document, (host.fetch reference name world).1 = .ok document ↔
        ∃ output, (host.capture (showCommand reference name) world).1 = .ok output ∧
          output.status = .exited 0 ∧ document = ⟨name, Utf8.decode output.stdout⟩ := by
  refine ⟨keepsLines_decode, host.readDocument_eq_ok_iff, ?_⟩
  intro reference name world document
  rw [host.fetch_eq reference name world]
  exact shownItem_eq_ok_iff reference name _ document

end Host

/-- A character that breaks off in front of a line feed, and one in front of the end. -/
example : lines (Utf8.decode [0xE3, 0x81, 0x0A, 0x0A, 0x20, 0x20, 0x20, 0x20, 0xF0, 0x9F]) =
    [['\uFFFD'], [], [' ', ' ', ' ', ' ', '\uFFFD']] := by
  decide

end DocSamples
