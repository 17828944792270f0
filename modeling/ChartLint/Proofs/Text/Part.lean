import ChartLint.Text.Blank
import ChartLint.Text.Line
import ChartLint.Text.Piece
import ChartLint.Text.Size
import Mathlib.Data.List.TakeWhile

/-!
Parts of texts: runs of characters at their start, what trimming and a given start leave, and lines.
-/
namespace ChartLint.Text

theorem byteSize_pos {text : List Char} (nonempty : text ≠ []) : 0 < byteSize text := by
  cases text with
  | nil => exact absurd rfl nonempty
  | cons c rest => exact Nat.add_pos_left c.utf8Size_pos _

theorem isIndent_iff {c : Char} : isIndent c = true ↔ c = ' ' ∨ c = '\t' := by
  rw [isIndent, Bool.or_eq_true, beq_iff_eq, beq_iff_eq]

theorem ne_of_isIndent {c d : Char} (h : isIndent c = true) (isOther : isIndent d = false) : c ≠ d := by
  rintro rfl
  cases h.symm.trans isOther

theorem isBlank_of_isIndent {c : Char} (h : isIndent c = true) : isBlank c = true := by
  rcases isIndent_iff.mp h with rfl | rfl <;> rfl

theorem byteSize_of_isIndent {pad : List Char} (h : pad.all isIndent = true) :
    byteSize pad = pad.length := by
  induction pad with
  | nil => rfl
  | cons c pad ih =>
    rw [List.all_cons, Bool.and_eq_true] at h
    have isByte : c.utf8Size = 1 := by rcases isIndent_iff.mp h.1 with rfl | rfl <;> rfl
    rw [byteSize_cons, ih h.2, isByte, List.length_cons, Nat.add_comm]

/-- A text that starts with as many characters of a class as possible. -/
structure Leads (p : Char → Bool) (text run rest : List Char) : Prop where
  isText : text = run ++ rest
  inside : ∀ c ∈ run, p c = true
  stops : ∀ c, rest.head? = some c → p c = false

theorem leads_takeWhile (p : Char → Bool) (text : List Char) :
    Leads p text (text.takeWhile p) (text.dropWhile p) where
  isText := List.takeWhile_append_dropWhile.symm
  inside _ := List.mem_takeWhile_imp
  stops c isHead := by simpa [isHead] using List.head?_dropWhile_not p text

theorem leads_of_not_mem {mark : Char} {run : List Char} (outside : mark ∉ run) (rest : List Char) :
    Leads (· != mark) (run ++ mark :: rest) run (mark :: rest) := by
  refine ⟨rfl, fun c member => ?_, by simp⟩
  rw [bne_iff_ne]
  rintro rfl
  exact outside member

theorem Leads.takeWhile_eq {p : Char → Bool} {text run rest : List Char} (leads : Leads p text run rest) :
    text.takeWhile p = run := by
  rw [leads.isText, List.takeWhile_append_of_pos leads.inside]
  cases rest with
  | nil => simp
  | cons c rest => simp [leads.stops c rfl]

theorem Leads.dropWhile_eq {p : Char → Bool} {text run rest : List Char} (leads : Leads p text run rest) :
    text.dropWhile p = rest := by
  rw [leads.isText, List.dropWhile_append_of_pos leads.inside]
  cases rest with
  | nil => rfl
  | cons c rest => simp [leads.stops c rfl]

/-- Only blanks are cut from the end. -/
theorem exists_trimEnd (text : List Char) :
    ∃ trail, text = trimEnd text ++ trail ∧ ∀ c ∈ trail, isBlank c = true := by
  induction text with
  | nil => exact ⟨[], rfl, List.forall_mem_nil _⟩
  | cons c rest ih =>
    obtain ⟨trail, isRest, blanks⟩ := ih
    rw [trimEnd]
    split
    case h_1 isNil =>
      rw [isNil, List.nil_append] at isRest
      split
      case isTrue isBlank =>
        exact ⟨c :: trail, by rw [isRest]; rfl, List.forall_mem_cons.mpr ⟨isBlank, blanks⟩⟩
      case isFalse => exact ⟨trail, by rw [isRest]; rfl, blanks⟩
    case h_2 => exact ⟨trail, by rw [List.cons_append, ← isRest], blanks⟩

theorem trimEnd_isPrefix (text : List Char) : trimEnd text <+: text := by
  obtain ⟨trail, isText, -⟩ := exists_trimEnd text
  exact ⟨trail, isText.symm⟩

theorem trim_infix (text : List Char) : trim text <:+: text :=
  (trimEnd_isPrefix _).isInfix.trans (List.dropWhile_suffix _).isInfix

/-- No blank ends a trimmed text. -/
theorem not_isBlank_of_getLast? {text : List Char} {c : Char}
    (h : (trimEnd text).getLast? = some c) : isBlank c = false := by
  induction text with
  | nil => simp [trimEnd] at h
  | cons d rest ih =>
    simp only [trimEnd] at h
    split at h
    case h_1 =>
      split at h
      case isTrue => cases h
      case isFalse isOther =>
        obtain rfl := Option.some.inj h
        simpa using isOther
    case h_2 nonempty =>
      rw [List.getLast?_cons_of_ne_nil nonempty] at h
      exact ih h

/-- A text with the blanks at its end apart. -/
structure Trails (text kept trail : List Char) : Prop where
  isText : text = kept ++ trail
  blank : ∀ c ∈ trail, isBlank c = true
  last : ∀ c, kept.getLast? = some c → isBlank c = false

theorem exists_trails (text : List Char) : ∃ trail, Trails text (trimEnd text) trail := by
  obtain ⟨trail, isText, blank⟩ := exists_trimEnd text
  exact ⟨trail, isText, blank, fun _ => not_isBlank_of_getLast?⟩

theorem Trails.trimEnd_eq {text kept trail : List Char} (trails : Trails text kept trail) :
    trimEnd text = kept := by
  obtain ⟨other, trimmed⟩ := exists_trails text
  -- Of two ways to cut the text, what one keeps beyond the other would end in a blank.
  have noMore {front more behind : List Char} (last : ∀ c, (front ++ more).getLast? = some c → isBlank c = false)
      (blank : ∀ c ∈ more ++ behind, isBlank c = true) : more = [] := by
    by_contra nonempty
    have isLast := List.getLast?_eq_some_getLast nonempty
    have member := List.getLast_mem nonempty
    have notBlank := last _ (by rw [List.getLast?_append, isLast, Option.some_or])
    simpa [notBlank] using blank _ (List.mem_append_left behind member)
  rcases List.append_eq_append_iff.mp (trimmed.isText.symm.trans trails.isText) with
    ⟨more, isKept, isOther⟩ | ⟨more, isTrim, isTrail⟩
  · have isNil := noMore (isKept ▸ trails.last) (isOther ▸ trimmed.blank)
    rw [isKept, isNil, List.append_nil]
  · have isNil := noMore (isTrim ▸ trimmed.last) (isTrail ▸ trails.blank)
    rw [isTrim, isNil, List.append_nil]

/-- A text and the blanks around it. -/
structure Framed (text lead core trail : List Char) : Prop where
  isText : text = lead ++ core ++ trail
  lead : ∀ c ∈ lead, isBlank c = true
  trail : ∀ c ∈ trail, isBlank c = true
  first : ∀ c, core.head? = some c → isBlank c = false
  last : ∀ c, core.getLast? = some c → isBlank c = false

theorem framed_trim (text : List Char) :
    ∃ trail, Framed text (text.takeWhile isBlank) (trim text) trail := by
  obtain ⟨trail, isStart, blanks⟩ := exists_trimEnd (trimStart text)
  have isText : text = text.takeWhile isBlank ++ trim text ++ trail := by
    rw [List.append_assoc, trim, ← isStart, trimStart, List.takeWhile_append_dropWhile]
  refine ⟨trail, isText, fun c => List.mem_takeWhile_imp, blanks, fun c isFirst => ?_,
    fun c isLast => not_isBlank_of_getLast? isLast⟩
  have isHead := List.head?_dropWhile_not isBlank text
  have same : (text.dropWhile isBlank).head? = some c := by
    rw [← trimStart, isStart, ← trim, List.head?_append, isFirst, Option.some_or]
  simpa [same] using isHead

/-- Nothing is left of a text of blanks, and of no other. -/
theorem isEmpty_trim (text : List Char) : (trim text).isEmpty = text.all isBlank := by
  obtain ⟨trail, framed⟩ := framed_trim text
  cases isTrim : trim text with
  | nil =>
    have blanks : ∀ c ∈ text, isBlank c = true := by
      rw [framed.isText, isTrim, List.append_nil]
      exact List.forall_mem_append.mpr ⟨framed.lead, framed.trail⟩
    exact (List.all_eq_true.mpr blanks).symm
  | cons c rest =>
    have member : c ∈ text := by
      rw [framed.isText, isTrim]
      simp
    have notBlank := framed.first c (by rw [isTrim]; rfl)
    exact (List.all_eq_false.mpr ⟨c, member, by simp [notBlank]⟩).symm

theorem trimEnd_append {front back : List Char} (nonempty : back ≠ [])
    (notBlank : ∀ c ∈ back, isBlank c = false) : trimEnd (front ++ back) = front ++ back := by
  have kept {c : Char} {rest : List Char} (isKept : trimEnd rest = rest) (nonempty : rest ≠ []) :
      trimEnd (c :: rest) = c :: rest := by
    rw [trimEnd, isKept]
    split
    · exact absurd rfl nonempty
    · rfl
  induction front with
  | nil =>
    induction back with
    | nil => exact absurd rfl nonempty
    | cons c rest ih =>
      cases rest with
      | nil => simp [trimEnd, notBlank c List.mem_cons_self]
      | cons d rest =>
        exact kept (ih (List.cons_ne_nil d rest) fun e member => notBlank e (.tail c member))
          (List.cons_ne_nil d rest)
  | cons c front ih => exact kept ih (List.append_ne_nil_of_right_ne_nil front nonempty)

/-- A text that starts and ends with characters other than blanks is left as it is. -/
theorem trim_append {c : Char} {front back : List Char} (starts : isBlank c = false)
    (nonempty : back ≠ []) (notBlank : ∀ c ∈ back, isBlank c = false) :
    trim (c :: front ++ back) = c :: front ++ back := by
  have isStart : trimStart (c :: front ++ back) = c :: front ++ back := by
    simp [trimStart, starts]
  rw [trim, isStart, trimEnd_append nonempty notBlank]

theorem suffix_of_after? {start text rest : List Char} (h : after? start text = some rest) :
    rest <:+ text := by
  simp only [after?, Option.ite_none_right_eq_some, Option.some.injEq] at h
  exact h.2 ▸ List.drop_suffix _ _

/-- Lines with a text put before the first of them. -/
def prepend (start : List Char) : List (List Char) → List (List Char)
  | [] => [start]
  | line :: more => (start ++ line) :: more

theorem lines_cons (c : Char) (text : List Char) :
    lines (c :: text) =
      if c = '\n' then [] :: lines text
      else if c = '\r' ∧ text.head? = some '\n' then lines text
      else prepend [c] (lines text) := by
  by_cases isFeed : c = '\n'
  · simp [isFeed, lines]
  · by_cases isPair : c = '\r' ∧ text.head? = some '\n'
    · obtain ⟨rfl, isHead⟩ := isPair
      obtain ⟨rest, rfl⟩ := List.head?_eq_some_iff.mp isHead
      simp [lines]
    · rw [if_neg isFeed, if_neg isPair, lines]
      · cases lines text <;> rfl
      · exact isFeed
      · rintro rest rfl rfl
        exact isPair ⟨rfl, rfl⟩

theorem lines_spaces (count : Nat) (text : List Char) :
    lines (List.replicate (count + 1) ' ' ++ text) =
      prepend (List.replicate (count + 1) ' ') (lines text) := by
  induction count with
  | zero => simp [lines_cons]
  | succ count ih =>
    rw [List.replicate_succ, List.cons_append, lines_cons, ih]
    cases lines text <;> simp [prepend]

end ChartLint.Text
