import ChartLint.Proofs.Block.Rows
import ChartLint.Proofs.Validation.Body
import ChartLint.Proofs.Validation.Remark

/-!
Rows of data in documents. The lines between the one that opens a block of rows and the one that closes
it are rows whatever they look like, and the document reports those that have another number of fields
than the header, or than the first row if there is no header.
-/
namespace ChartLint.Validation

/-- A line outside of bodies that opens a block of rows. The header may be empty. -/
structure OpensRows (lines : List (List Char)) (first : Nat) (header : List Char) : Prop where
  isOutside : (blocksBefore lines first).body = none
  opening : ∃ line name, lines[first]? = some line ∧ Block.leading? line = some .csv ∧
    Block.readDeclaration? (Line.afterKeyword line) = some (name, header)

/-- The lines after one that opens a block of rows, with their numbers, up to the closing keyword or the
end of the document. -/
def bodyLines (lines : List (List Char)) (first : Nat) : List (List Char × Nat) :=
  (lines.zipIdx.drop (first + 1)).takeWhile fun row => Block.leading? row.1 != some .endCsv

/-- The header, unless it is empty, and the lines that are not blank. -/
def records (header : List Char) (first : Nat) (body : List (List Char × Nat)) :
    List (List Char × Nat) :=
  (if header.isEmpty then [] else [(header, first)]) ++
    body.filter fun row => !row.1.all Text.isBlank

/-- A line that is read as a row: a body stays open, and nothing changes but what is known of its rows.
All that is reported is a number of fields. -/
def ReadAsRow (catalog : Catalog) (lines : List (List Char)) (number : Nat) : Prop :=
  let before := Scan.readLines catalog (lines.take number)
  ∃ body found, before.blocks.body.isSome = true ∧
    Scan.readLines catalog (lines.take (number + 1)) =
      { before with blocks := { before.blocks with body := some body } }.report found ∧
    ∀ finding ∈ found, finding.issue.code = .csvColumnCount

theorem code_of_mem_row {line : List Char} {number : Nat} {kind : Block.Body.Kind} {finding : Finding}
    (member : finding ∈ (Block.Tracker.readRow line number kind).2) :
    finding.issue.code = .csvColumnCount := by
  obtain ⟨_, _, -, rfl⟩ := Block.Tracker.eq_of_mem_readRow member
  rfl

section Lines

variable {lines : List (List Char)} {number : Nat} {line : List Char}

theorem blocksBefore_succ (isLine : lines[number]? = some line) :
    blocksBefore lines (number + 1) = ((blocksBefore lines number).step line number).1 := by
  have isLength : (lines.take number).length = number :=
    List.length_take_of_le (Nat.le_of_lt (List.getElem?_eq_some_iff.mp isLine).1)
  rw [blocksBefore, List.take_add_one, isLine, Option.toList_some, Block.Tracker.run_concat, isLength,
    Nat.zero_add, blocksBefore]

theorem eventAt?_of_body (isLine : lines[number]? = some line) {body : Block.Body}
    (isBody : (blocksBefore lines number).body = some body) : eventAt? lines number = none := by
  rw [eventAt?, isLine, Option.bind_some, Option.eq_none_iff_forall_ne_some]
  intro event isEvent
  cases isBody.symm.trans (Event.body_eq_none isEvent)

end Lines

section Body

variable {lines : List (List Char)} {first : Nat}

theorem getElem?_bodyLines {index : Nat} {row : List Char × Nat}
    (isRow : (bodyLines lines first)[index]? = some row) :
    lines[first + 1 + index]? = some row.1 ∧ row.2 = first + 1 + index ∧
      Block.leading? row.1 ≠ some .endCsv := by
  have inside := List.mem_takeWhile_imp (List.mem_of_getElem? isRow)
  obtain ⟨rest, isAll⟩ : bodyLines lines first <+: lines.zipIdx.drop (first + 1) :=
    List.takeWhile_prefix _
  have isLine : (lines.zipIdx.drop (first + 1))[index]? = some row := by
    rw [← isAll, List.getElem?_append_left (List.getElem?_eq_some_iff.mp isRow).1, isRow]
  rw [List.getElem?_drop, List.getElem?_zipIdx, Option.map_eq_some_iff] at isLine
  obtain ⟨line, isLine, rfl⟩ := isLine
  exact ⟨isLine, Nat.zero_add _, by simpa using inside⟩

/-- The lines of a body follow each other. -/
theorem map_snd_bodyLines (lines : List (List Char)) (first : Nat) :
    (bodyLines lines first).map Prod.snd =
      List.range' (first + 1) (bodyLines lines first).length := by
  apply List.ext_getElem (by simp)
  intro index isIn _
  rw [List.length_map] at isIn
  have isNumber := (getElem?_bodyLines (List.getElem?_eq_getElem isIn)).2.1
  simpa using isNumber

/-- Whether a line is one of a body. -/
def inBody (lines : List (List Char)) (first number : Nat) : Bool :=
  (bodyLines lines first).any fun row => row.2 == number

theorem inBody_iff {number : Nat} : inBody lines first number = true ↔
    first + 1 ≤ number ∧ number < first + 1 + (bodyLines lines first).length := by
  have member : inBody lines first number = true ↔ number ∈ (bodyLines lines first).map Prod.snd := by
    simp [inBody]
  rw [member, map_snd_bodyLines, List.mem_range'_1]

end Body

section Records

variable {lines : List (List Char)} {first : Nat} {header : List Char}

/-- Each line of a body is one more record, unless it is blank. -/
theorem readRow_records (row : List Char × Nat) (body : List (List Char × Nat)) :
    let read := Block.Tracker.readRow row.1 row.2
      (.rows (Block.columns? (records header first body)))
    read.1 = .rows (Block.columns? (records header first (body ++ [row]))) ∧
      Block.unevenFindings (records header first (body ++ [row])) =
        Block.unevenFindings (records header first body) ++ read.2 := by
  cases isBlank : row.1.all Text.isBlank with
  | true =>
    have same : records header first (body ++ [row]) = records header first body := by
      simp [records, List.filter_append, isBlank, -List.all_eq_true]
    rw [same, Block.Tracker.readRow_blank isBlank]
    exact ⟨rfl, (List.append_nil _).symm⟩
  | false =>
    have more : records header first (body ++ [row]) = records header first body ++ [row] := by
      simp [records, List.filter_append, isBlank, -List.all_eq_false]
    rw [more]
    exact Block.Tracker.readRow_record isBlank row.2 (records header first body)

theorem take_succ_bodyLines {index : Nat} {row : List Char × Nat}
    (isRow : (bodyLines lines first)[index]? = some row) :
    (bodyLines lines first).take (index + 1) = (bodyLines lines first).take index ++ [row] := by
  rw [List.take_add_one, isRow, Option.toList_some]

/-- Before each line of the body, and after the last, the number of fields is known from the records
before it. -/
theorem OpensRows.body_eq (h : OpensRows lines first header) {index : Nat}
    (isIn : index ≤ (bodyLines lines first).length) :
    (blocksBefore lines (first + 1 + index)).body = some
      ⟨.rows (Block.columns? (records header first ((bodyLines lines first).take index))), .endCsv⟩ := by
  induction index with
  | zero =>
    obtain ⟨line, name, isLine, isLeading, isHeader⟩ := h.opening
    rw [Nat.add_zero, blocksBefore_succ isLine,
      Block.Tracker.body_step_csv h.isOutside isLeading isHeader, List.take_zero]
    cases header <;> rfl
  | succ index ih =>
    have isRow := List.getElem?_eq_getElem isIn
    obtain ⟨isLine, isNumber, isOther⟩ := getElem?_bodyLines isRow
    rw [← Nat.add_assoc, blocksBefore_succ isLine,
      Block.Tracker.step_inside _ (ih (Nat.le_of_lt isIn)) isOther, take_succ_bodyLines isRow,
      ← (readRow_records _ _).1, isNumber]

theorem OpensRows.step_eq (h : OpensRows lines first header) {index : Nat} {row : List Char × Nat}
    (isRow : (bodyLines lines first)[index]? = some row) :
    ∃ body, (blocksBefore lines row.2).body.isSome = true ∧
      (blocksBefore lines row.2).step row.1 row.2 =
        ({ blocksBefore lines row.2 with body := some body },
          (Block.Tracker.readRow row.1 row.2 (.rows (Block.columns?
            (records header first ((bodyLines lines first).take index))))).2) := by
  obtain ⟨-, isNumber, isOther⟩ := getElem?_bodyLines isRow
  have isBody := h.body_eq (Nat.le_of_lt (List.getElem?_eq_some_iff.mp isRow).1)
  rw [← isNumber] at isBody
  exact ⟨_, by rw [isBody]; rfl, Block.Tracker.step_inside row.2 isBody isOther⟩

end Records

namespace Scan

variable {lines : List (List Char)} {first : Nat} {header : List Char}

theorem readLines_row (catalog : Catalog) (h : OpensRows lines first header) {row : List Char × Nat}
    (member : row ∈ bodyLines lines first) : ReadAsRow catalog lines row.2 := by
  obtain ⟨index, isRow⟩ := List.mem_iff_getElem?.mp member
  obtain ⟨isLine, isNumber, -⟩ := getElem?_bodyLines isRow
  obtain ⟨body, isSome, isStep⟩ := h.step_eq isRow
  rw [← isNumber] at isLine
  have isBlocks : (readLines catalog (lines.take row.2)).blocks = blocksBefore lines row.2 :=
    blocks_readLines catalog _
  have noEvent : Event.read? (readLines catalog (lines.take row.2)).blocks row.1 row.2 = none := by
    obtain ⟨_, isBody⟩ := Option.isSome_iff_exists.mp isSome
    rw [← eventAt?_eq catalog isLine]
    exact eventAt?_of_body isLine isBody
  refine ⟨body, ((blocksBefore lines row.2).step row.1 row.2).2, by rwa [isBlocks], ?_, ?_⟩
  · rw [readLines_take_succ, isLine]
    dsimp only
    rw [readLine_eq, noEvent]
    dsimp only
    rw [isBlocks, isStep]
  · intro finding member
    rw [isStep] at member
    exact code_of_mem_row member

theorem remarks_row (catalog : Catalog) (h : OpensRows lines first header) {index : Nat}
    {row : List Char × Nat} (isRow : (bodyLines lines first)[index]? = some row) :
    remarks catalog lines row.2 = (Block.Tracker.readRow row.1 row.2 (.rows (Block.columns?
      (records header first ((bodyLines lines first).take index))))).2 := by
  obtain ⟨isLine, isNumber, -⟩ := getElem?_bodyLines isRow
  obtain ⟨body, isSome, isStep⟩ := h.step_eq isRow
  obtain ⟨_, isBody⟩ := Option.isSome_iff_exists.mp isSome
  rw [← isNumber] at isLine
  simp only [remarks, isLine, eventAt?_of_body isLine isBody, blocks_readLines]
  rw [← blocksBefore, isStep]

/-- What the first lines of a document report of the rows of a block. -/
theorem flatMap_remarks_rows (catalog : Catalog) (h : OpensRows lines first header) (number : Nat) :
    ((List.range number).flatMap fun number => if inBody lines first number then
        (remarks catalog lines number).filter (Finding.hasCode [.csvColumnCount]) else []) =
    Block.unevenFindings (records header first
      ((bodyLines lines first).take (number - (first + 1)))) := by
  induction number with
  | zero =>
    rw [Nat.zero_sub, List.take_zero]
    cases header <;> rfl
  | succ number ih =>
    rw [List.range_succ, List.flatMap_append, List.flatMap_singleton, ih]
    by_cases isIn : inBody lines first number = true
    · obtain ⟨after, before⟩ := inBody_iff.mp isIn
      obtain ⟨index, rfl⟩ := Nat.exists_eq_add_of_le after
      have isRow := List.getElem?_eq_getElem (Nat.lt_of_add_lt_add_left before)
      obtain ⟨-, isNumber, -⟩ := getElem?_bodyLines isRow
      rw [if_pos isIn, Nat.add_sub_cancel_left, Nat.add_assoc _ index, Nat.add_sub_cancel_left,
        take_succ_bodyLines isRow, (readRow_records _ _).2, ← remarks_row catalog h isRow, ← isNumber,
        List.filter_eq_self.mpr]
      intro finding member
      rw [remarks_row catalog h isRow] at member
      simp [Finding.hasCode, code_of_mem_row member]
    · have same : (bodyLines lines first).take (number + 1 - (first + 1)) =
          (bodyLines lines first).take (number - (first + 1)) := by
        rw [inBody_iff] at isIn
        rcases Nat.lt_or_ge number (first + 1) with before | after
        · congr 1
          omega
        · rw [List.take_of_length_le (by omega), List.take_of_length_le (by omega)]
      rw [if_neg isIn, List.append_nil, same]

end Scan

/-- A finding that says of a row that it has another number of fields than the first record. -/
def Mismatch (records : List (List Char × Nat)) (row : List Char × Nat) (finding : Finding) : Prop :=
  (∃ expected, Block.columns? records = some expected ∧
    finding.issue = .csvColumnCount expected (Block.fieldCount row.1)) ∧
  Block.Covers row.1 row.2 finding.range

/-- A header is never uneven, and no blank line is. -/
theorem uneven_records_sublist (header : List Char) (first : Nat) (body : List (List Char × Nat)) :
    (Block.uneven (records header first body)).Sublist
      (body.filter fun row => !row.1.all Text.isBlank) := by
  cases header with
  | cons c rest => exact List.filter_sublist
  | nil =>
    rw [records, List.isEmpty_nil, if_pos rfl, List.nil_append]
    cases body.filter fun row => !row.1.all Text.isBlank with
    | nil => exact List.Sublist.refl []
    | cons row later => exact List.filter_sublist.trans (List.sublist_cons_self row later)

section Findings

variable (lines : List (List Char)) (first : Nat) (header : List Char)

theorem forall₂_unevenFindings :
    let all := records header first (bodyLines lines first)
    List.Forall₂ (Mismatch all) (Block.uneven all) (Block.unevenFindings all) := by
  intro all
  have notBlank (row : List Char × Nat) (member : row ∈ Block.uneven all) :
      row.1.all Text.isBlank = false := by
    have isKept := (uneven_records_sublist header first _).subset member
    simpa [-List.all_eq_false] using (List.mem_filter.mp isKept).2
  generalize all = all at *
  cases all with
  | nil => exact .nil
  | cons record later =>
    rw [Block.unevenFindings, Block.columns?, List.head?_cons, Option.map_some, Option.toList_some,
      List.flatMap_singleton, List.forall₂_map_right_iff, List.forall₂_same]
    intro row member
    exact ⟨⟨_, rfl, rfl⟩, Block.covers_rowRange (notBlank row member) row.2⟩

theorem pairwise_unevenFindings :
    (Block.unevenFindings (records header first (bodyLines lines first))).Pairwise
      fun a b => a.range.start ≤ b.range.start := by
  have increasing : (bodyLines lines first).Pairwise fun a b => a.2 < b.2 := by
    rw [← List.pairwise_map, map_snd_bodyLines]
    exact List.pairwise_lt_range'
  have uneven := increasing.sublist
    ((uneven_records_sublist header first _).trans List.filter_sublist)
  rw [Block.unevenFindings]
  cases Block.columns? (records header first (bodyLines lines first)) with
  | none => exact .nil
  | some expected =>
    rw [Option.toList_some, List.flatMap_singleton, List.pairwise_map]
    exact uneven.imp fun before => .inl before

end Findings

/-- In a block of rows, the lines of the body that are not blank have as many fields as the header, or as
the first of them if there is no header. The document reports exactly those that do not, in their order
and each at its own place, and all lines of the body are read as rows. -/
theorem validate_rows (catalog : Catalog) (text : String) {first : Nat} {header : List Char}
    (h : OpensRows (Text.lines (Comment.blank text.toList)) first header) :
    let lines := Text.lines (Comment.blank text.toList)
    let all := records header first (bodyLines lines first)
    List.Forall₂ (Mismatch all) (Block.uneven all)
      ((validate catalog text).findings.filter fun finding =>
        inBody lines first finding.range.start.line && finding.hasCode [.csvColumnCount]) ∧
    ∀ row ∈ bodyLines lines first, ReadAsRow catalog lines row.2 := by
  intro lines all
  refine ⟨?_, fun row member => Scan.readLines_row catalog h member⟩
  have isIn : (bodyLines lines first).length ≤ lines.length - (first + 1) := by
    refine (List.takeWhile_sublist _).length_le.trans ?_
    rw [List.length_drop, List.length_zipIdx]
  rw [validate, ofScan, filter_mergeSort start_trans start_total,
    Scan.filter_findings_on (by decide) catalog lines (inBody lines first),
    Scan.flatMap_remarks_rows catalog h, List.take_of_length_le isIn, List.mergeSort_of_pairwise]
  · exact forall₂_unevenFindings lines first header
  · exact (pairwise_unevenFindings lines first header).imp decide_eq_true

/-- A block without a header that is never closed; among its rows are a blank line, a header of a section
and a closing keyword of another block. -/
def looseRows : String := "csv rows =\n\n a, \"b, c\"\n[widget]\n  1, 2\nendlist, 1, 2"

theorem validate_rows_looseRows :
    let lines := Text.lines (Comment.blank looseRows.toList)
    let all := records [] 0 (bodyLines lines 0)
    OpensRows lines 0 [] ∧
      List.Forall₂ (Mismatch all) [("[widget]".toList, 3), ("endlist, 1, 2".toList, 5)]
        ((validate .builtin looseRows).findings.filter fun finding =>
          inBody lines 0 finding.range.start.line && finding.hasCode [.csvColumnCount]) ∧
      ReadAsRow .builtin lines 3 := by
  intro lines all
  have opens : OpensRows lines 0 [] := by
    refine ⟨rfl, "csv rows =".toList, "rows", ?_, ?_, ?_⟩ <;> decide +kernel
  have areUneven : Block.uneven all = [("[widget]".toList, 3), ("endlist, 1, 2".toList, 5)] := by
    decide +kernel
  have isRow : ("[widget]".toList, 3) ∈ bodyLines lines 0 := by decide +kernel
  obtain ⟨mismatches, areRows⟩ := validate_rows .builtin looseRows opens
  exact ⟨opens, areUneven ▸ mismatches, areRows _ isRow⟩

end ChartLint.Validation
