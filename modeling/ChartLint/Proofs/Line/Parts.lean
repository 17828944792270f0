import ChartLint.Line.Keyword
import ChartLint.Line.Section
import ChartLint.Line.Setting
import ChartLint.Proofs.Text.Case
import ChartLint.Proofs.Text.Part

/-!
Lines in their parts. A line is recognized as a setting, a keyword or a section header exactly if it is
put together from parts of a certain form, and what is read from it are the parts with their places.
-/
namespace ChartLint

namespace Keyword

theorem mem_all (keyword : Keyword) : keyword ∈ all := by
  cases keyword <;> decide

theorem isLower_of_mem_name (keyword : Keyword) : ∀ c ∈ keyword.name.toList, c.isLower = true := by
  have letters : keyword.name.toList.all Char.isLower = true := by cases keyword <;> decide
  exact List.all_eq_true.mp letters

end Keyword

namespace Line

/-- A name as it is written: a run of name characters, or a text without quotes between two of them. -/
inductive WrittenName (name : List Char) : (written : List Char) → (quoted : Bool) → Prop
  | plain : name ≠ [] → (∀ c ∈ name, isNameChar c = true) → WrittenName name name false
  | quoted : '"' ∉ name → WrittenName name ('"' :: name ++ ['"']) true

/-- A setting line in its parts. -/
structure SettingParts where
  indent : List Char
  name : List Char
  written : List Char
  quoted : Bool
  /-- What stands before the equals sign. -/
  gap : List Char
  /-- What stands after it. -/
  pad : List Char
  /-- The value with the blanks behind it. -/
  rest : List Char
  value : List Char
  trail : List Char
  isIndent : ∀ c ∈ indent, Text.isIndent c = true
  isWritten : WrittenName name written quoted
  isGap : ∀ c ∈ gap, Text.isIndent c = true
  isPad : ∀ c ∈ pad, Text.isIndent c = true
  oneLine : '\n' ∉ rest
  starts : ∀ c, rest.head? = some c → Text.isIndent c = false
  trails : Text.Trails rest value trail

namespace SettingParts

/-- All that stands before the value. -/
def before (parts : SettingParts) : List Char :=
  parts.indent ++ parts.written ++ parts.gap ++ '=' :: parts.pad

def line (parts : SettingParts) : List Char := parts.before ++ parts.rest

/-- The setting on a line of these parts. -/
def setting (parts : SettingParts) (number : Nat) : SettingLine where
  name := String.ofList parts.name
  quoted := parts.quoted
  value := String.ofList parts.value
  nameRange := .span number (Text.byteSize parts.indent) (Text.byteSize parts.written)
  valueColumn := Text.byteSize parts.before

end SettingParts

theorem not_isNameChar_of_isIndent {c : Char} (h : Text.isIndent c = true) : isNameChar c = false := by
  rcases Text.isIndent_iff.mp h with rfl | rfl <;> decide

theorem not_isIndent_of_isNameChar {c : Char} (h : isNameChar c = true) : Text.isIndent c = false := by
  by_contra isIndent
  rw [Bool.not_eq_false] at isIndent
  simp [not_isNameChar_of_isIndent isIndent] at h

/-- A written name starts with a quote if it is quoted, and else with a name character. -/
theorem WrittenName.head? {name written : List Char} {quoted : Bool} (h : WrittenName name written quoted)
    (rest : List Char) : ∃ c, (written ++ rest).head? = some c ∧
      if quoted then c = '"' else isNameChar c = true := by
  cases h with
  | plain nonempty areName =>
    obtain ⟨c, name, rfl⟩ := List.exists_cons_of_ne_nil nonempty
    exact ⟨c, rfl, areName c List.mem_cons_self⟩
  | quoted => exact ⟨'"', rfl, rfl⟩

theorem WrittenName.head?_eq_quote {name written : List Char} {quoted : Bool}
    (h : WrittenName name written quoted) (rest : List Char) :
    ((written ++ rest).head? == some '"') = quoted := by
  obtain ⟨c, isFirst, first⟩ := h.head? rest
  rw [isFirst]
  cases quoted with
  | true => simpa using first
  | false =>
    have isOther : c ≠ '"' := by
      rintro rfl
      exact absurd first (by decide)
    simpa using isOther

theorem WrittenName.of_readName? {text name written after : List Char}
    (h : readName? text = some (name, written, after)) :
    text = written ++ after ∧ ∃ quoted, WrittenName name written quoted := by
  unfold readName? at h
  split at h
  case h_1 rest =>
    dsimp only at h
    split at h
    case h_1 => cases h
    case h_2 quote behind isBehind =>
      simp only [Option.some.injEq, Prod.mk.injEq] at h
      obtain ⟨rfl, rfl, rfl⟩ := h
      have leads := Text.leads_takeWhile (· != '"') rest
      rw [isBehind] at leads
      obtain rfl : quote = '"' := by simpa using leads.stops quote rfl
      refine ⟨by simpa using leads.isText, true, .quoted fun member => ?_⟩
      simpa using leads.inside _ member
  case h_2 =>
    simp only [Option.ite_none_left_eq_some, Option.some.injEq, Prod.mk.injEq, List.isEmpty_iff] at h
    obtain ⟨nonempty, rfl, rfl, rfl⟩ := h
    have leads := Text.leads_takeWhile isNameChar text
    exact ⟨leads.isText, false, .plain nonempty leads.inside⟩

/-- A written name is read if what follows does not go on with it. -/
theorem WrittenName.readName?_append {name written after : List Char} {quoted : Bool}
    (h : WrittenName name written quoted) (ends : ∀ c, after.head? = some c → isNameChar c = false) :
    readName? (written ++ after) = some (name, written, after) := by
  cases h with
  | quoted noQuote =>
    have leads := Text.leads_of_not_mem noQuote after
    simp [readName?, leads.takeWhile_eq, leads.dropWhile_eq]
  | plain nonempty areName =>
    have leads : Text.Leads isNameChar (name ++ after) name after := ⟨rfl, areName, ends⟩
    obtain ⟨c, more, rfl⟩ := List.exists_cons_of_ne_nil nonempty
    have isOther : c ≠ '"' := by
      rintro rfl
      exact absurd (areName '"' List.mem_cons_self) (by decide)
    rw [readName?]
    · simp only [leads.takeWhile_eq, leads.dropWhile_eq]
      rfl
    · intro rest isText
      exact isOther (List.cons.inj isText).1

namespace SettingParts

variable (parts : SettingParts)

/-- All that stands behind the name. -/
def afterName : List Char := parts.gap ++ '=' :: (parts.pad ++ parts.rest)

theorem line_eq : parts.line = parts.indent ++ (parts.written ++ parts.afterName) := by
  simp [line, before, afterName]

theorem leads_indent :
    Text.Leads Text.isIndent parts.line parts.indent (parts.written ++ parts.afterName) := by
  obtain ⟨c, isFirst, first⟩ := parts.isWritten.head? parts.afterName
  refine ⟨parts.line_eq, parts.isIndent, fun d isHead => ?_⟩
  obtain rfl := Option.some.inj (isFirst.symm.trans isHead)
  split at first
  · exact first ▸ rfl
  · exact not_isIndent_of_isNameChar first

theorem leads_gap :
    Text.Leads Text.isIndent parts.afterName parts.gap ('=' :: (parts.pad ++ parts.rest)) := by
  refine ⟨rfl, parts.isGap, fun c isHead => ?_⟩
  obtain rfl := Option.some.inj isHead
  rfl

theorem leads_pad : Text.Leads Text.isIndent (parts.pad ++ parts.rest) parts.pad parts.rest :=
  ⟨rfl, parts.isPad, parts.starts⟩

theorem readName?_eq :
    readName? (parts.written ++ parts.afterName) = some (parts.name, parts.written, parts.afterName) := by
  refine parts.isWritten.readName?_append fun c isHead => ?_
  -- The name is followed by a space or a tab, or else by the equals sign.
  cases isGap : parts.gap with
  | nil =>
    rw [afterName, isGap] at isHead
    obtain rfl := Option.some.inj isHead
    decide
  | cons d gap =>
    rw [afterName, isGap] at isHead
    obtain rfl := Option.some.inj isHead
    exact not_isNameChar_of_isIndent (parts.isGap d (isGap ▸ List.mem_cons_self))

theorem setting?_line (number : Nat) : setting? parts.line number = some (parts.setting number) := by
  have isSingle : '='.utf8Size = 1 := rfl
  have isColumn : Text.byteSize parts.before = Text.byteSize parts.indent + Text.byteSize parts.written +
      Text.byteSize parts.gap + 1 + Text.byteSize parts.pad := by
    simp [before, isSingle, Nat.add_assoc]
  have oneLine : parts.rest.contains '\n' = false := by simpa using parts.oneLine
  simp only [setting?, parts.leads_indent.takeWhile_eq, parts.leads_indent.dropWhile_eq, parts.readName?_eq,
    parts.leads_gap.takeWhile_eq, parts.leads_gap.dropWhile_eq, parts.leads_pad.takeWhile_eq,
    parts.leads_pad.dropWhile_eq, parts.trails.trimEnd_eq, oneLine, parts.isWritten.head?_eq_quote,
    Option.bind_eq_bind, Option.bind_some, setting, isColumn]
  rfl

/-- A line that declares a setting has the parts of a setting line. -/
theorem exists_of_setting? {line : List Char} {number : Nat} {setting : SettingLine}
    (h : setting? line number = some setting) :
    ∃ parts : SettingParts, parts.line = line ∧ parts.setting number = setting := by
  have isSetting := h
  simp only [setting?, Option.bind_eq_bind, Option.bind_eq_some_iff] at h
  obtain ⟨⟨name, written, after⟩, isName, h⟩ := h
  obtain ⟨isText, quoted, isWritten⟩ := WrittenName.of_readName? isName
  split at h
  case h_2 => cases h
  case h_1 rest isRest =>
    simp only [Option.ite_none_left_eq_some, Bool.not_eq_true] at h
    obtain ⟨trail, trails⟩ := Text.exists_trails (rest.dropWhile Text.isIndent)
    have indents := Text.leads_takeWhile Text.isIndent line
    have gaps := Text.leads_takeWhile Text.isIndent after
    have pads := Text.leads_takeWhile Text.isIndent rest
    let parts : SettingParts := {
      indent := line.takeWhile Text.isIndent
      name, written, quoted
      gap := after.takeWhile Text.isIndent
      pad := rest.takeWhile Text.isIndent
      rest := rest.dropWhile Text.isIndent
      value := Text.trimEnd (rest.dropWhile Text.isIndent)
      trail
      isIndent := indents.inside
      isWritten
      isGap := gaps.inside
      isPad := pads.inside
      oneLine := by simpa using h.1
      starts := pads.stops
      trails }
    have isLine : parts.line = line := by
      rw [line_eq, afterName, ← pads.isText, ← isRest, ← gaps.isText, ← isText, ← indents.isText]
    have isRead := parts.setting?_line number
    rw [isLine, isSetting, Option.some.injEq] at isRead
    exact ⟨parts, isLine, isRead.symm⟩

end SettingParts

theorem setting?_eq_some_iff {line : List Char} {number : Nat} {setting : SettingLine} :
    setting? line number = some setting ↔
      ∃ parts : SettingParts, parts.line = line ∧ parts.setting number = setting := by
  constructor
  · exact SettingParts.exists_of_setting?
  · rintro ⟨parts, rfl, rfl⟩
    exact parts.setting?_line number

/-- A line that starts with a keyword, in its parts. -/
structure KeywordParts where
  indent : List Char
  word : List Char
  rest : List Char
  keyword : Keyword
  isIndent : ∀ c ∈ indent, Text.isIndent c = true
  starts : ∀ c, (word ++ rest).head? = some c → Text.isIndent c = false
  inside : ∀ c ∈ word, endsWord c = false
  ends : ∀ c, rest.head? = some c → endsWord c = true
  folds : Text.FoldsTo word keyword.name.toList

namespace KeywordParts

def line (parts : KeywordParts) : List Char := parts.indent ++ (parts.word ++ parts.rest)

/-- The keyword on a line of these parts. -/
def token (parts : KeywordParts) (number : Nat) : KeywordToken where
  text := Text.lower (String.ofList parts.word)
  range := .span number (Text.byteSize parts.indent) (Text.byteSize parts.word)

end KeywordParts

theorem keyword?_eq_some_iff {line : List Char} {number : Nat} {token : KeywordToken} :
    keyword? line number = some token ↔
      ∃ parts : KeywordParts, parts.line = line ∧ parts.token number = token := by
  constructor
  · intro h
    simp only [keyword?, Option.ite_none_right_eq_some, Option.some.injEq, List.any_eq_true] at h
    obtain ⟨⟨keyword, -, isSpelled⟩, rfl⟩ := h
    have indents := Text.leads_takeWhile Text.isIndent line
    have ended := Text.leads_takeWhile (fun c => !endsWord c) (line.dropWhile Text.isIndent)
    have isLine : line.takeWhile Text.isIndent ++
        ((line.dropWhile Text.isIndent).takeWhile (fun c => !endsWord c) ++
          (line.dropWhile Text.isIndent).dropWhile fun c => !endsWord c) = line := by
      rw [← ended.isText, ← indents.isText]
    refine ⟨{
      indent := line.takeWhile Text.isIndent
      word := (line.dropWhile Text.isIndent).takeWhile fun c => !endsWord c
      rest := (line.dropWhile Text.isIndent).dropWhile fun c => !endsWord c
      keyword
      isIndent := indents.inside
      starts := ended.isText ▸ indents.stops
      inside := fun c member => by simpa using ended.inside c member
      ends := fun c isHead => by simpa using ended.stops c isHead
      folds := (Text.foldsTo_iff_spells keyword.isLower_of_mem_name).mpr isSpelled }, isLine, rfl⟩
  · rintro ⟨parts, rfl, rfl⟩
    have indents : Text.Leads Text.isIndent parts.line parts.indent (parts.word ++ parts.rest) :=
      ⟨rfl, parts.isIndent, parts.starts⟩
    have ended : Text.Leads (fun c => !endsWord c) (parts.word ++ parts.rest) parts.word parts.rest :=
      ⟨rfl, fun c member => by simp [parts.inside c member], fun c isHead => by simp [parts.ends c isHead]⟩
    have isSpelled : (Keyword.all.any fun keyword => Text.spells parts.word keyword.name) = true :=
      List.any_eq_true.mpr ⟨parts.keyword, parts.keyword.mem_all,
        (Text.foldsTo_iff_spells parts.keyword.isLower_of_mem_name).mp parts.folds⟩
    simp only [keyword?, indents.takeWhile_eq, indents.dropWhile_eq, ended.takeWhile_eq, isSpelled]
    rfl

/-- A line that starts with a section header, in its parts. -/
structure HeaderParts where
  indent : List Char
  name : List Char
  rest : List Char
  isIndent : ∀ c ∈ indent, Text.isIndent c = true
  nonempty : name ≠ []
  areWord : ∀ c ∈ name, Text.isWord c = true

namespace HeaderParts

def line (parts : HeaderParts) : List Char := parts.indent ++ '[' :: (parts.name ++ ']' :: parts.rest)

/-- The header on a line of these parts: its place is the bracket and the name. -/
def header (parts : HeaderParts) (number : Nat) : SectionHeader where
  name := String.ofList parts.name
  range := .span number (Text.byteSize parts.indent) (Text.byteSize ('[' :: parts.name))

theorem leads_indent (parts : HeaderParts) :
    Text.Leads Text.isIndent parts.line parts.indent ('[' :: (parts.name ++ ']' :: parts.rest)) := by
  refine ⟨rfl, parts.isIndent, fun c isHead => ?_⟩
  obtain rfl := Option.some.inj isHead
  rfl

end HeaderParts

theorem sectionHeader?_eq_some_iff {line : List Char} {number : Nat} {header : SectionHeader} :
    sectionHeader? line number = some header ↔
      ∃ parts : HeaderParts, parts.line = line ∧ parts.header number = header := by
  constructor
  · intro h
    unfold sectionHeader? at h
    dsimp only at h
    split at h
    case h_2 => cases h
    case h_1 rest isRest =>
      simp only [Option.ite_none_left_eq_some, Option.some.injEq, Bool.or_eq_true, not_or,
        List.isEmpty_iff, bne_iff_ne, ne_eq, not_not] at h
      obtain ⟨⟨nonempty, isClosed⟩, rfl⟩ := h
      obtain ⟨behind, isBehind⟩ := List.head?_eq_some_iff.mp isClosed
      have indents := Text.leads_takeWhile Text.isIndent line
      have words := Text.leads_takeWhile Text.isWord rest
      refine ⟨{
        indent := line.takeWhile Text.isIndent
        name := rest.takeWhile Text.isWord
        rest := behind
        isIndent := indents.inside
        nonempty
        areWord := words.inside }, ?_, rfl⟩
      rw [HeaderParts.line, ← isBehind, ← words.isText, ← isRest, ← indents.isText]
  · rintro ⟨parts, rfl, rfl⟩
    have indents := parts.leads_indent
    have words : Text.Leads Text.isWord (parts.name ++ ']' :: parts.rest) parts.name
        (']' :: parts.rest) := by
      refine ⟨rfl, parts.areWord, fun c isHead => ?_⟩
      obtain rfl := Option.some.inj isHead
      decide
    have isOpen : (parts.name.isEmpty || (']' :: parts.rest).head? != some ']') = false := by
      simp [parts.nonempty]
    simp only [sectionHeader?, indents.takeWhile_eq, indents.dropWhile_eq, words.takeWhile_eq,
      words.dropWhile_eq, isOpen]
    rfl

/-- A section header starts with a bracket and a setting with its name. -/
theorem SettingParts.line_ne_line (setting : SettingParts) (header : HeaderParts) :
    setting.line ≠ header.line := by
  intro isLine
  have isRest : setting.written ++ setting.afterName =
      '[' :: (header.name ++ ']' :: header.rest) := by
    rw [← setting.leads_indent.dropWhile_eq, isLine, header.leads_indent.dropWhile_eq]
  obtain ⟨c, isFirst, first⟩ := setting.isWritten.head? setting.afterName
  rw [isRest] at isFirst
  obtain rfl := Option.some.inj isFirst
  split at first
  · exact absurd first (by decide)
  · exact absurd first (by decide)

/-- A line is recognized exactly if it has the parts of a setting line, of a line that starts with a keyword or of
a line that starts with a section header, and then the parts are read from it with their places. No line is both
a section header and a setting. -/
theorem recognized_iff_parts (line : List Char) (number : Nat) :
    (∀ setting, setting? line number = some setting ↔
        ∃ parts : SettingParts, parts.line = line ∧ parts.setting number = setting) ∧
      (∀ token, keyword? line number = some token ↔
        ∃ parts : KeywordParts, parts.line = line ∧ parts.token number = token) ∧
      (∀ header, sectionHeader? line number = some header ↔
        ∃ parts : HeaderParts, parts.line = line ∧ parts.header number = header) ∧
      ¬((sectionHeader? line number).isSome ∧ (setting? line number).isSome) := by
  refine ⟨fun _ => setting?_eq_some_iff, fun _ => keyword?_eq_some_iff,
    fun _ => sectionHeader?_eq_some_iff, ?_⟩
  rintro ⟨isHeader, isSetting⟩
  obtain ⟨header, isHeader⟩ := Option.isSome_iff_exists.mp isHeader
  obtain ⟨setting, isSetting⟩ := Option.isSome_iff_exists.mp isSetting
  obtain ⟨headerParts, rfl, -⟩ := sectionHeader?_eq_some_iff.mp isHeader
  obtain ⟨settingParts, isLine, -⟩ := setting?_eq_some_iff.mp isSetting
  exact settingParts.line_ne_line headerParts isLine

/-- Columns count bytes, and an equals sign in quotes belongs to the name. -/
example : setting? "\t\"größe = a\"= b \r".toList 7 =
    some ⟨"größe = a", true, "b", .span 7 1 13, 16⟩ := by
  decide +kernel

example : keyword? " Liſt= a".toList 0 = some ⟨"liſt", .span 0 1 5⟩ ∧ keyword? "lists".toList 0 = none := by
  decide +kernel

end Line

end ChartLint
