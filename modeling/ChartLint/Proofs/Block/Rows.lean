import ChartLint.Proofs.Block.Run

/-!
Rows of data. All rows of a body have as many fields as the header, or as the first row if there is no
header; the rows that do not are reported, each at its own place.
-/
namespace ChartLint.Block

/-- Number of fields of a row: one more than the commas that an even number of double quotes
precedes. -/
def fieldCount (row : List Char) : Nat :=
  1 + (List.range row.length).countP fun place =>
    row[place]? == some ',' && (row.take place).count '"' % 2 == 0

/-- A count that starts inside of quotes takes one more quote to come to a comma. -/
theorem columnCount_eq (quoted : Bool) (row : List Char) :
    columnCount quoted row = 1 + (List.range row.length).countP fun place =>
      row[place]? == some ',' && ((row.take place).count '"' + quoted.toNat) % 2 == 0 := by
  induction row generalizing quoted with
  | nil => rfl
  | cons c rest ih =>
    rw [List.length_cons, List.range_succ_eq_map, List.countP_cons, List.countP_map, columnCount]
    by_cases isQuote : c = '"'
    · subst isQuote
      rw [beq_self_eq_true, if_pos rfl, ih]
      cases quoted <;> simp [Function.comp_def, Nat.add_assoc]
    · have noQuote (place : Nat) : ((c :: rest).take (place + 1)).count '"' =
          (rest.take place).count '"' := by
        rw [List.take_succ_cons, List.count_cons_of_ne isQuote]
      simp only [Function.comp_def, Nat.succ_eq_add_one, List.getElem?_cons_succ, noQuote, ih]
      cases quoted <;> by_cases isComma : c = ',' <;> simp [isQuote, isComma, Nat.add_assoc]

theorem fieldCount_eq (row : List Char) : fieldCount row = columnCount false row := by
  simp [fieldCount, columnCount_eq]

section Blanks

variable {blanks : List Char} (areBlank : ∀ c ∈ blanks, Text.isBlank c = true)
include areBlank

theorem columnCount_blanks_append (quoted : Bool) (row : List Char) :
    columnCount quoted (blanks ++ row) = columnCount quoted row := by
  induction blanks with
  | nil => rfl
  | cons c rest ih =>
    obtain ⟨isBlank, areBlank⟩ := List.forall_mem_cons.mp areBlank
    have notQuote : c ≠ '"' := by rintro rfl; cases isBlank
    have notComma : c ≠ ',' := by rintro rfl; cases isBlank
    simp [columnCount, notQuote, notComma, ih areBlank]

theorem columnCount_append_blanks (quoted : Bool) (row : List Char) :
    columnCount quoted (row ++ blanks) = columnCount quoted row := by
  induction row generalizing quoted with
  | nil => simpa [columnCount] using columnCount_blanks_append areBlank quoted []
  | cons c rest ih => simp only [List.cons_append, columnCount, ih]

end Blanks

/-- Blanks around a row are no fields. -/
theorem columnCount_trim (row : List Char) : columnCount false (Text.trim row) = fieldCount row := by
  obtain ⟨trail, framed⟩ := Text.framed_trim row
  rw [fieldCount_eq]
  conv_rhs => rw [framed.isText]
  rw [columnCount_append_blanks framed.trail, columnCount_blanks_append framed.lead]

/-- The place of a line without the blanks around it. -/
def Covers (line : List Char) (number : Nat) (range : Range) : Prop :=
  ∃ lead core trail, Text.Framed line lead core trail ∧ core ≠ [] ∧
    range.start = ⟨number, Text.byteSize lead⟩ ∧ range.stop = ⟨number, Text.byteSize (lead ++ core)⟩

theorem covers_rowRange {line : List Char} (notBlank : line.all Text.isBlank = false) (number : Nat) :
    Covers line number (Tracker.rowRange line number) := by
  obtain ⟨trail, framed⟩ := Text.framed_trim line
  refine ⟨_, _, trail, framed, ?_, rfl, ?_⟩
  · rw [← Text.isEmpty_trim, List.isEmpty_eq_false_iff] at notBlank
    exact notBlank
  · rw [Tracker.rowRange, Range.span, Text.byteSize_append]

/-- The number of fields of records: that of the first. -/
def columns? (records : List (List Char × Nat)) : Option Nat :=
  records.head?.map fun record => fieldCount record.1

/-- The records that have another number of fields than the first. -/
def uneven : List (List Char × Nat) → List (List Char × Nat)
  | [] => []
  | first :: later => later.filter fun record => fieldCount record.1 != fieldCount first.1

/-- What is reported of the lines of a body: that they are uneven, each at its own place. -/
def unevenFindings (records : List (List Char × Nat)) : List Finding :=
  (columns? records).toList.flatMap fun expected => (uneven records).map fun record =>
    ⟨.csvColumnCount expected (fieldCount record.1), Tracker.rowRange record.1 record.2⟩

namespace Tracker

variable {line : List Char}

theorem readRow_blank (isBlank : line.all Text.isBlank = true) (number : Nat) (columns : Option Nat) :
    readRow line number (.rows columns) = (.rows columns, []) := by
  simp only [readRow, Text.isEmpty_trim, isBlank, if_true]

/-- A line that is not blank is one more record. -/
theorem readRow_record (notBlank : line.all Text.isBlank = false) (number : Nat)
    (records : List (List Char × Nat)) :
    (readRow line number (.rows (columns? records))).1 =
        .rows (columns? (records ++ [(line, number)])) ∧
      unevenFindings (records ++ [(line, number)]) =
        unevenFindings records ++ (readRow line number (.rows (columns? records))).2 := by
  simp only [readRow, Text.isEmpty_trim, notBlank, Bool.false_eq_true, if_false, columnCount_trim]
  cases records with
  | nil => exact ⟨rfl, rfl⟩
  | cons first later =>
    refine ⟨rfl, ?_⟩
    by_cases same : fieldCount line = fieldCount first.1
    · simp [unevenFindings, columns?, uneven, same]
    · simp [unevenFindings, columns?, uneven, same]

end Tracker

section Opening

variable {text header : List Char} {name : String}

/-- Rows that are declared with a header are not elsewhere. -/
theorem readSource?_eq_none (h : readDeclaration? text = some (name, header)) :
    readSource? text = none := by
  simp only [readDeclaration?, Option.bind_eq_bind, Option.bind_eq_some_iff] at h
  obtain ⟨⟨found, rest⟩, isName, isValue⟩ := h
  split at isValue
  case h_2 => cases isValue
  case h_1 after isEquals =>
    have noWord : afterWord? "from" rest = none := by
      simp [afterWord?, isEquals, Text.after?]
    simp [readSource?, isName, noWord]

theorem csv_eq (h : readDeclaration? text = some (name, header)) :
    Statement.csv text = .declaration .csv name
      (.body (.rows (if header.isEmpty then none else some (fieldCount header)))) := by
  simp only [Statement.csv, readSource?_eq_none h, h, fieldCount_eq]

/-- The line of a declaration with a header opens a body of rows. -/
theorem Tracker.body_step_csv {tracker : Tracker} {line : List Char} (isOutside : tracker.body = none)
    (isLeading : leading? line = some .csv)
    (isHeader : readDeclaration? (Line.afterKeyword line) = some (name, header)) (number : Nat) :
    (tracker.step line number).1.body = some
      ⟨.rows (if header.isEmpty then none else some (fieldCount header)), .endCsv⟩ := by
  rw [leading?_eq line number, Option.bind_eq_some_iff] at isLeading
  obtain ⟨token, isToken, isKeyword⟩ := isLeading
  have reads : Statement.Reads line number .csv token.range (Statement.csv (Line.afterKeyword line)) :=
    ⟨⟨token, isToken, isKeyword, rfl⟩, rfl⟩
  rw [step_of_reads isOutside reads, csv_eq isHeader]
  rfl

end Opening

end ChartLint.Block
