import ChartLint.Proofs.Comment.Blank
import ChartLint.Validation
import Mathlib.Data.List.Forall2

/-!
Blanking of bytes. Comments are found and overwritten in the UTF-8 form of a text without decoding it,
and the result is the UTF-8 form of the blanked text.
-/
namespace ChartLint.Comment

def bytes (text : List Char) : List UInt8 := text.flatMap String.utf8EncodeChar

/-- What a byte of a comment becomes. -/
def overwrite (byte : UInt8) : UInt8 := if byte = 0x0A ∨ byte = 0x0D then byte else 0x20

/-- Whether the bytes of the end of a block comment are somewhere. -/
def closesBytes : List UInt8 → Bool
  | [] => false
  | 0x2A :: 0x2F :: _ => true
  | _ :: rest => closesBytes rest

def blankBlockBytes : (inside : Bool) → List UInt8 → List UInt8
  | _, [] => []
  | true, 0x2A :: 0x2F :: rest => 0x20 :: 0x20 :: blankBlockBytes false rest
  | true, byte :: rest => overwrite byte :: blankBlockBytes true rest
  | false, 0x2F :: 0x2A :: rest =>
    if closesBytes rest then 0x20 :: 0x20 :: blankBlockBytes true rest
    else 0x2F :: 0x2A :: blankBlockBytes false rest
  | false, byte :: rest => byte :: blankBlockBytes false rest

def blankMarkedBytes : Spot → List UInt8 → List UInt8
  | _, [] => []
  | spot, byte :: rest =>
    if byte = 0x0A then byte :: blankMarkedBytes .indent rest
    else
      match spot with
      | .indent =>
        if byte = 0x20 ∨ byte = 0x09 then byte :: blankMarkedBytes .indent rest
        else if byte = 0x23 then 0x20 :: blankMarkedBytes .comment rest
        else byte :: blankMarkedBytes .content rest
      | .content => byte :: blankMarkedBytes .content rest
      | .comment => overwrite byte :: blankMarkedBytes .comment rest

/-- Overwrites the comments in the bytes of a document. -/
def blankBytes (document : List UInt8) : List UInt8 :=
  blankMarkedBytes .indent (blankBlockBytes false document)

theorem bytes_cons (c : Char) (text : List Char) :
    bytes (c :: text) = String.utf8EncodeChar c ++ bytes text := List.flatMap_cons

theorem bytes_append (text other : List Char) : bytes (text ++ other) = bytes text ++ bytes other :=
  List.flatMap_append

theorem utf8EncodeChar_ne_nil (c : Char) : String.utf8EncodeChar c ≠ [] := by
  rw [← List.length_pos_iff, String.length_utf8EncodeChar]
  exact c.utf8Size_pos

/-- A character is one byte of its own value, or bytes beyond ASCII. -/
theorem utf8EncodeChar_cases (c : Char) :
    (∃ byte : UInt8, String.utf8EncodeChar c = [byte] ∧ byte.toNat = c.toNat) ∨
      ¬ c.toNat < 0x80 ∧ ∀ byte ∈ String.utf8EncodeChar c, 0x80 ≤ byte.toNat := by
  have isValue : c.val.toNat = c.toNat := rfl
  simp only [String.utf8EncodeChar, isValue]
  split
  · left
    refine ⟨_, rfl, ?_⟩
    rw [UInt8.toNat_ofNat']
    omega
  · right
    refine ⟨by omega, ?_⟩
    split_ifs <;>
      simp only [List.forall_mem_cons, UInt8.toNat_ofNat', List.not_mem_nil, false_imp_iff,
        implies_true, and_true] <;>
      omega

/-- The byte of an ASCII character stands for this character only. -/
theorem eq_ofNat_iff {byte : UInt8} {c : Char} (isValue : byte.toNat = c.toNat) (mark : Char)
    (isAscii : mark.toNat < 0x80) : byte = UInt8.ofNat mark.toNat ↔ c = mark := by
  have isMark : (UInt8.ofNat mark.toNat).toNat = mark.toNat := by
    rw [UInt8.toNat_ofNat']
    omega
  rw [← UInt8.toNat_inj, isMark, isValue, Char.toNat_inj]

theorem cons_of_bytes (mark : Char) (isAscii : mark.toNat < 0x80) {text : List Char}
    {rest : List UInt8} (h : bytes text = UInt8.ofNat mark.toNat :: rest) :
    ∃ more, text = mark :: more := by
  cases text with
  | nil => cases h
  | cons c text =>
    rw [bytes_cons] at h
    rcases utf8EncodeChar_cases c with ⟨byte, isBytes, isValue⟩ | ⟨-, areHigh⟩
    · rw [isBytes] at h
      exact ⟨text, by rw [(eq_ofNat_iff isValue mark isAscii).mp (List.cons.inj h).1]⟩
    · cases isBytes : String.utf8EncodeChar c with
      | nil => exact absurd isBytes (utf8EncodeChar_ne_nil c)
      | cons byte block =>
        rw [isBytes] at h areHigh
        obtain rfl := (List.cons.inj h).1
        have isHigh := areHigh _ List.mem_cons_self
        rw [UInt8.toNat_ofNat'] at isHigh
        omega

/-- Where two characters do not start a text, neither do their bytes. -/
theorem not_pair_of_bytes {byte : UInt8} {c : Char} (isValue : byte.toNat = c.toNat)
    (first second : Char) (areAscii : first.toNat < 0x80 ∧ second.toNat < 0x80) {rest : List Char}
    (isOther : ∀ after, c = first → rest = second :: after → False) (more : List UInt8)
    (isByte : byte = UInt8.ofNat first.toNat)
    (isRest : bytes rest = UInt8.ofNat second.toNat :: more) : False := by
  obtain ⟨after, isText⟩ := cons_of_bytes second areAscii.2 isRest
  exact isOther after ((eq_ofNat_iff isValue first areAscii.1).mp isByte) isText

section High

variable {block : List UInt8} (areHigh : ∀ byte ∈ block, 0x80 ≤ byte.toNat) (rest : List UInt8)

include areHigh

theorem closesBytes_append : closesBytes (block ++ rest) = closesBytes rest := by
  induction block with
  | nil => rfl
  | cons byte block ih =>
    rw [List.forall_mem_cons] at areHigh
    rw [List.cons_append, closesBytes, ih areHigh.2]
    rintro more rfl
    simp at areHigh

theorem blankBlockBytes_append (inside : Bool) :
    blankBlockBytes inside (block ++ rest) =
      (if inside then block.map overwrite else block) ++ blankBlockBytes inside rest := by
  induction block with
  | nil => simp
  | cons byte block ih =>
    rw [List.forall_mem_cons] at areHigh
    cases inside with
    | true =>
      rw [List.cons_append, blankBlockBytes, ih areHigh.2]
      · simp
      · rintro more rfl
        simp at areHigh
    | false =>
      rw [List.cons_append, blankBlockBytes, ih areHigh.2]
      · simp
      · rintro more rfl
        simp at areHigh

theorem blankMarkedBytes_append_comment :
    blankMarkedBytes .comment (block ++ rest) =
      block.map overwrite ++ blankMarkedBytes .comment rest := by
  induction block with
  | nil => rfl
  | cons byte block ih =>
    rw [List.forall_mem_cons] at areHigh
    have isOther : byte ≠ 0x0A := by
      rintro rfl
      simp at areHigh
    simp [blankMarkedBytes, isOther, ih areHigh.2]

theorem blankMarkedBytes_append_content :
    blankMarkedBytes .content (block ++ rest) = block ++ blankMarkedBytes .content rest := by
  induction block with
  | nil => rfl
  | cons byte block ih =>
    rw [List.forall_mem_cons] at areHigh
    have isOther : byte ≠ 0x0A := by
      rintro rfl
      simp at areHigh
    simp [blankMarkedBytes, isOther, ih areHigh.2]

theorem blankMarkedBytes_append_indent (nonempty : block ≠ []) :
    blankMarkedBytes .indent (block ++ rest) = block ++ blankMarkedBytes .content rest := by
  cases block with
  | nil => exact absurd rfl nonempty
  | cons byte block =>
    rw [List.forall_mem_cons] at areHigh
    have isOther (mark : UInt8) (isAscii : mark.toNat < 0x80) : byte ≠ mark := by
      rintro rfl
      omega
    simp [blankMarkedBytes, isOther 0x0A, isOther 0x20, isOther 0x09, isOther 0x23,
      blankMarkedBytes_append_content areHigh.2]

end High

/-- Only line breaks have the bytes of line breaks. -/
theorem isBreak_of_mem {c : Char} {byte : UInt8} (h : byte ∈ String.utf8EncodeChar c)
    (isBreak : byte = 0x0A ∨ byte = 0x0D) : c = '\n' ∨ c = '\r' := by
  rcases utf8EncodeChar_cases c with ⟨_, isBytes, isValue⟩ | ⟨-, areHigh⟩
  · obtain rfl : byte = _ := by simpa [isBytes] using h
    exact isBreak.imp (eq_ofNat_iff isValue '\n' (by decide)).mp
      (eq_ofNat_iff isValue '\r' (by decide)).mp
  · have isHigh := areHigh byte h
    rcases isBreak with rfl | rfl <;> simp at isHigh

theorem bytes_spaces (count : Nat) :
    bytes (List.replicate count ' ') = List.replicate count 0x20 := by
  induction count with
  | zero => rfl
  | succ count ih =>
    rw [List.replicate_succ, List.replicate_succ, bytes_cons, ih]
    rfl

theorem bytes_blankChar (c : Char) :
    bytes (blankChar c) = (String.utf8EncodeChar c).map overwrite := by
  unfold blankChar
  split
  case isTrue isBreak => rcases isBreak with rfl | rfl <;> rfl
  case isFalse isOther =>
    rw [bytes_spaces, eq_comm, List.eq_replicate_iff]
    refine ⟨by rw [List.length_map, String.length_utf8EncodeChar], ?_⟩
    intro other member
    obtain ⟨byte, isByte, rfl⟩ := List.mem_map.mp member
    rw [overwrite, if_neg fun isBreak => isOther (isBreak_of_mem isByte isBreak)]

theorem closesBytes_bytes (text : List Char) : closesBytes (bytes text) = closes text := by
  fun_induction closes text with
  | case1 => rfl
  | case2 rest => rfl
  | case3 c rest isOther ih =>
    rw [← ih, bytes_cons]
    rcases utf8EncodeChar_cases c with ⟨byte, isBytes, isValue⟩ | ⟨-, areHigh⟩
    · rw [isBytes, List.singleton_append, closesBytes]
      exact not_pair_of_bytes isValue '*' '/' (by decide) isOther
    · exact closesBytes_append areHigh (bytes rest)

theorem blankBlockBytes_open (rest : List Char) :
    blankBlockBytes false (bytes ('/' :: '*' :: rest)) =
      if closes rest then 0x20 :: 0x20 :: blankBlockBytes true (bytes rest)
      else 0x2F :: 0x2A :: blankBlockBytes false (bytes rest) := by
  rw [← closesBytes_bytes]
  rfl

theorem blankBlockBytes_bytes (inside : Bool) (text : List Char) :
    blankBlockBytes inside (bytes text) = bytes (blankBlocksFrom inside text) := by
  fun_induction blankBlocksFrom inside text with
  | case1 inside => cases inside <;> rfl
  | case2 rest ih => exact congrArg (0x20 :: 0x20 :: ·) ih
  | case3 c rest isOther ih =>
    rw [bytes_cons, bytes_append, bytes_blankChar, ← ih]
    rcases utf8EncodeChar_cases c with ⟨byte, isBytes, isValue⟩ | ⟨-, areHigh⟩
    · rw [isBytes, List.singleton_append, blankBlockBytes]
      · rfl
      · exact not_pair_of_bytes isValue '*' '/' (by decide) isOther
    · exact blankBlockBytes_append areHigh (bytes rest) true
  | case4 rest isClosed ih =>
    rw [blankBlockBytes_open, if_pos isClosed, ih]
    rfl
  | case5 rest isOpen ih =>
    rw [blankBlockBytes_open, if_neg isOpen, ih]
    rfl
  | case6 c rest isOther ih =>
    rw [bytes_cons, bytes_cons, ← ih]
    rcases utf8EncodeChar_cases c with ⟨byte, isBytes, isValue⟩ | ⟨-, areHigh⟩
    · rw [isBytes, List.singleton_append, blankBlockBytes]
      · rfl
      · exact not_pair_of_bytes isValue '/' '*' (by decide) isOther
    · exact blankBlockBytes_append areHigh (bytes rest) false

theorem blankMarkedBytes_bytes (spot : Spot) (text : List Char) :
    blankMarkedBytes spot (bytes text) = bytes (blankMarkedFrom spot text) := by
  induction text generalizing spot with
  | nil => cases spot <;> rfl
  | cons c rest ih =>
    rw [bytes_cons]
    rcases utf8EncodeChar_cases c with ⟨byte, isBytes, isValue⟩ | ⟨isHigh, areHigh⟩
    · have isSame (other : List Char) : byte :: bytes other = bytes (c :: other) := by
        rw [bytes_cons, isBytes]
        rfl
      have isFeed : byte = 0x0A ↔ c = '\n' := eq_ofNat_iff isValue '\n' (by decide)
      have isHash : byte = 0x23 ↔ c = '#' := eq_ofNat_iff isValue '#' (by decide)
      have isIndent : byte = 0x20 ∨ byte = 0x09 ↔ Text.isIndent c = true := by
        simp only [Text.isIndent, Bool.or_eq_true, beq_iff_eq]
        exact or_congr (eq_ofNat_iff isValue ' ' (by decide)) (eq_ofNat_iff isValue '\t' (by decide))
      rw [isBytes, List.singleton_append]
      cases spot with
      | indent =>
        simp only [blankMarkedBytes, blankMarkedFrom, isFeed, isIndent, isHash, ih, isSame]
        split
        · rfl
        · split
          · rfl
          · split <;> rfl
      | content =>
        simp only [blankMarkedBytes, blankMarkedFrom, isFeed, ih, isSame]
        split <;> rfl
      | comment =>
        simp only [blankMarkedBytes, blankMarkedFrom, isFeed, ih, isSame]
        split
        · rfl
        · rw [bytes_append, bytes_blankChar, isBytes]
          rfl
    · have isOther (mark : Char) (isAscii : mark.toNat < 0x80) : c ≠ mark := by
        rintro rfl
        exact isHigh isAscii
      have isFirst : Text.isIndent c = false := by
        simp [Text.isIndent, isOther ' ' (by decide), isOther '\t' (by decide)]
      cases spot with
      | indent =>
        simp only [blankMarkedFrom, isOther '\n' (by decide), isFirst, isOther '#' (by decide),
          ↓reduceIte, Bool.false_eq_true]
        rw [blankMarkedBytes_append_indent areHigh _ (utf8EncodeChar_ne_nil c), ih, bytes_cons]
      | content =>
        simp only [blankMarkedFrom, isOther '\n' (by decide), ↓reduceIte]
        rw [blankMarkedBytes_append_content areHigh, ih, bytes_cons]
      | comment =>
        simp only [blankMarkedFrom, isOther '\n' (by decide), ↓reduceIte]
        rw [blankMarkedBytes_append_comment areHigh, ih, bytes_append, bytes_blankChar]

/-- The bytes of the blanked text are the bytes of the text with its comments overwritten. -/
theorem blankBytes_bytes (text : List Char) : blankBytes (bytes text) = bytes (blank text) := by
  rw [blankBytes, blankBlockBytes_bytes, blankMarkedBytes_bytes]
  rfl

/-- A byte that stays, or is overwritten and no line break. -/
def Kept (before after : UInt8) : Prop :=
  after = before ∨ after = 0x20 ∧ before ≠ 0x0A ∧ before ≠ 0x0D

theorem kept_overwrite (byte : UInt8) : Kept byte (overwrite byte) := by
  unfold overwrite
  split
  case isTrue => exact .inl rfl
  case isFalse isOther => exact .inr ⟨rfl, not_or.mp isOther⟩

theorem Blanked.kept {text result : List Char} (h : Blanked text result) :
    List.Forall₂ Kept (bytes text) (bytes result) := by
  induction h with
  | nil => exact .nil
  | keep c _ ih =>
    rw [bytes_cons, bytes_cons]
    exact List.rel_append (List.forall₂_same.mpr fun byte _ => .inl rfl) ih
  | blank c _ ih =>
    rw [bytes_cons, bytes_append, bytes_blankChar]
    refine List.rel_append ?_ ih
    rw [List.forall₂_map_right_iff, List.forall₂_same]
    exact fun byte _ => kept_overwrite byte

theorem bytes_toList (text : String) : text.toUTF8.data.toList = bytes text.toList := by
  have isText : text.toUTF8 = text.toList.utf8Encode := by
    rw [String.toUTF8_eq_toByteArray, ← String.toByteArray_ofList, String.ofList_toList]
  rw [isText]
  simp [List.utf8Encode, bytes]

theorem length_bytes (text : List Char) : (bytes text).length = Text.byteSize text := by
  induction text with
  | nil => rfl
  | cons c text ih =>
    rw [bytes_cons, List.length_append, String.length_utf8EncodeChar, ih, Text.byteSize_cons]

theorem utf8ByteSize_ofList (text : List Char) :
    (String.ofList text).utf8ByteSize = Text.byteSize text := by
  have isBytes := bytes_toList (String.ofList text)
  rw [String.toList_ofList] at isBytes
  rw [← length_bytes, ← isBytes]
  rfl

/-- Overwriting the comments in the bytes of a text gives the UTF-8 form of the blanked text. Every byte
stays or becomes a space, line breaks stay, and no closed block comment and no line that a hash starts
is left. Blanking the result changes nothing, and validating it gives what validating the text gives. -/
theorem blank_text (catalog : Catalog) (text : String) :
    let blanked := String.ofList (blank text.toList)
    String.fromUTF8? ⟨(blankBytes text.toUTF8.data.toList).toArray⟩ = some blanked ∧
      blanked.utf8ByteSize = text.utf8ByteSize ∧
      List.Forall₂ Kept text.toUTF8.data.toList blanked.toUTF8.data.toList ∧
      (¬ ∃ before inner after, blank text.toList =
        before ++ "/*".toList ++ inner ++ "*/".toList ++ after) ∧
      (∀ line ∈ Text.lines (blank text.toList), (line.dropWhile Text.isIndent).head? ≠ some '#') ∧
      blank (blank text.toList) = blank text.toList ∧
      validate catalog blanked = validate catalog text := by
  intro blanked
  have isBlanked : blanked.toList = blank text.toList := String.toList_ofList
  have kept : List.Forall₂ Kept text.toUTF8.data.toList blanked.toUTF8.data.toList := by
    rw [bytes_toList, bytes_toList, isBlanked]
    exact (blanked_blank text.toList).kept
  have isBytes : (⟨(blankBytes text.toUTF8.data.toList).toArray⟩ : ByteArray) = blanked.toUTF8 := by
    rw [bytes_toList, blankBytes_bytes, ← isBlanked, ← bytes_toList, Array.toArray_toList]
  refine ⟨?_, kept.length_eq.symm, kept, ?_, ?_, blank_blank text.toList, ?_⟩
  · rw [isBytes, String.toUTF8_eq_toByteArray, String.fromUTF8?, dif_pos blanked.isValidUTF8]
    rfl
  · rintro ⟨before, inner, after, isText⟩
    have isOpen := unclosed_blank text.toList before (inner ++ "*/".toList ++ after) (by simp [isText])
    rw [closes_iff.mpr ⟨inner, after, by simp⟩] at isOpen
    cases isOpen
  · have noneMarked := not_marked_blank text.toList
    rw [(marked_eq_any _).1, List.any_eq_false] at noneMarked
    intro line member
    simpa [isMarked] using noneMarked line member
  · rw [validate, isBlanked, blank_blank, validate]

end ChartLint.Comment
