import DocSamples.Proofs.Sample.Extraction
import DocSamples.Proofs.Text.Boundary
import DocSamples.Proofs.Text.Property

/-!
Contract: which programs are only compiled.

Owns:
- the mode of a program, by the place of the word `input` and by the properties of the
  characters around it;
- the mode of a program made of parts, by the modes of the parts;
- the mode of a sample, by the modes of its lines.

Does not own: the search for a word (`Proofs/Text/Word`) or what stands around one
(`Proofs/Text/Boundary`).
-/

namespace DocSamples

/-! ## The word -/

theorem inputWord_ne_nil : inputWord ≠ [] := List.cons_ne_nil _ _

theorem inputWord_solid : ∀ character ∈ inputWord, isWordChar character = true := by
  have solid : inputWord.all isWordChar = true := by decide +kernel
  exact List.all_eq_true.1 solid

theorem isWordChar_lineFeed : isWordChar '\n' = false := by
  decide +kernel

/-- **The programs that are only compiled.**  A program is only compiled exactly if somewhere
in it stands the word `input`, with no character before it or after it that is alphabetic, a
mark, a decimal digit, a connecting punctuation mark or a control of joining; in other words,
if the word stands between two positions that are word boundaries. -/
theorem classify_iff_wholeWord (code : Text) :
    (classify code = .compileOnly ↔
      ∃ front back, code = front ++ "input".toList ++ back ∧
        (∀ last ∈ front.getLast?, ¬ ∃ property : WordProperty, property.holds last = true) ∧
        ∀ first ∈ back.head?, ¬ ∃ property : WordProperty, property.holds first = true) ∧
    (classify code = .compileOnly ↔
      ∃ position, "input".toList <+: code.drop position ∧
        isWordBoundary code position = true ∧
        isWordBoundary code (position + "input".toList.length) = true) := by
  have spelled : "input".toList = inputWord := rfl
  rw [spelled, classify_eq_compileOnly_iff]
  constructor
  · simp only [← isWordChar_eq_false_iff]
    rfl
  · exact holdsWord_iff_boundaries inputWord_ne_nil inputWord_solid code

-- The word after places where its letters are part of longer words.
example : classify "inputinput input_ éinput input()".toList = .compileOnly ∧
    classify "inputinput input_ éinput inputs()".toList = .compileAndRun := by
  decide +kernel

/-! ## Parts -/

/-- No whole word goes across a character that is no word character, and none ends there
that would go on without it. -/
theorem classify_append_separator {separator : Char} (off : isWordChar separator = false)
    (front back : Text) :
    classify (front ++ separator :: back) = .compileOnly ↔
      classify front = .compileOnly ∨ classify back = .compileOnly := by
  simp only [classify_eq_compileOnly_iff]
  exact holdsWord_append_separator inputWord_solid off front back

theorem classify_flatMap_lines (pieces : List Text) :
    classify (pieces.flatMap (· ++ ['\n'])) = .compileOnly ↔
      ∃ piece ∈ pieces, classify piece = .compileOnly := by
  simp only [classify_eq_compileOnly_iff]
  exact holdsWord_flatMap_terminated inputWord_ne_nil inputWord_solid isWordChar_lineFeed pieces

/-! ## Samples -/

private theorem drop_indent (code : Text) : (indent ++ code).drop indentWidth = code := rfl

/-- The mode of a block of code lines is decided by them one by one. -/
theorem classify_blockCode {lines : List Text} {block : List Nat}
    (isBlock : block ∈ codeBlocks lines) :
    classify (blockCode lines block) = .compileOnly ↔
      ∃ position ∈ block, ∃ code, lines[position]? = some (indent ++ code) ∧
        classify code = .compileOnly := by
  have shape : blockCode lines block =
      (block.map fun position => (lines[position]?.getD []).drop indentWidth).flatMap
        (· ++ ['\n']) := by
    rw [List.flatMap_map]
    rfl
  rw [shape, classify_flatMap_lines]
  constructor
  · rintro ⟨piece, isPiece, compileOnly⟩
    obtain ⟨position, member, rfl⟩ := List.mem_map.1 isPiece
    obtain ⟨code, there⟩ :=
      exists_code_of_isCodeLine (isCodeLine_of_mem_codeBlocks isBlock member)
    rw [there, Option.getD_some, drop_indent] at compileOnly
    exact ⟨position, member, code, there, compileOnly⟩
  · rintro ⟨position, member, code, there, compileOnly⟩
    refine ⟨code, List.mem_map.2 ⟨position, member, ?_⟩, compileOnly⟩
    rw [there, Option.getD_some, drop_indent]

/-- **Modes are local to lines.**  With a character between them that is no word character,
such as a line feed, two texts are only compiled exactly if one of them is.  So a program of
lines is only compiled exactly if one of its lines is, whatever their order is and whatever
was merged to get them; and a sample of a document, exactly if one of its code lines is
without its indentation. -/
theorem classify_local :
    (∀ front separator back, isWordChar separator = false →
      (classify (front ++ separator :: back) = .compileOnly ↔
        classify front = .compileOnly ∨ classify back = .compileOnly)) ∧
    isWordChar '\n' = false ∧
    (∀ pieces : List Text,
      classify (pieces.flatMap (· ++ ['\n'])) = .compileOnly ↔
        ∃ piece ∈ pieces, classify piece = .compileOnly) ∧
    ∀ text, ∀ sample ∈ extract text, ∃ block ∈ codeBlocks (lines text),
      sample.line = firstLineNumber block ∧ sample.code = blockCode (lines text) block ∧
        (classify sample.code = .compileOnly ↔
          ∃ position ∈ block, ∃ code, (lines text)[position]? = some (indent ++ code) ∧
            classify code = .compileOnly) := by
  refine ⟨?_, isWordChar_lineFeed, classify_flatMap_lines, ?_⟩
  · intro front separator back off
    exact classify_append_separator off front back
  · intro text sample member
    obtain ⟨index, found⟩ := List.mem_iff_getElem?.1 member
    obtain ⟨block, isBlock, rfl⟩ := extract_getElem? found
    exact ⟨block, isBlock, rfl, rfl, classify_blockCode isBlock⟩

/-- Two paragraphs that are one sample, for only empty lines stand between them; the second
asks for input. -/
theorem classify_local_merged :
    let text := "Ask:\n\n    inputs()\n\n    f.input()\n".toList
    let sample : Sample := ⟨"inputs()\nf.input()\n".toList, 3, 0⟩
    isWordChar '.' = false ∧
      (classify ("f".toList ++ '.' :: "input()".toList) = .compileOnly ↔
        classify "f".toList = .compileOnly ∨ classify "input()".toList = .compileOnly) ∧
      sample ∈ extract text ∧ classify sample.code = .compileOnly ∧
      ∃ block ∈ codeBlocks (lines text),
        sample.line = firstLineNumber block ∧ sample.code = blockCode (lines text) block ∧
          (classify sample.code = .compileOnly ↔
            ∃ position ∈ block, ∃ code, (lines text)[position]? = some (indent ++ code) ∧
              classify code = .compileOnly) := by
  intro text sample
  have member : sample ∈ extract text := by decide +kernel
  obtain ⟨parts, _, _, samples⟩ := classify_local
  exact ⟨by decide +kernel, parts _ _ _ (by decide +kernel), member, by decide +kernel,
    samples text sample member⟩

end DocSamples
