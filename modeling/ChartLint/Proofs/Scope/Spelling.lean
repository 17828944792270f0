import ChartLint.Proofs.Text.Part
import ChartLint.Scope.Token

/-!
How tokens of scope expressions are written. A text reads as a list of tokens if and only if it spells
them: it is made of their texts, in order and with any blanks around them, and no token runs on into
what stands behind it.
-/
namespace ChartLint.Scope.Token

/-- The texts of a token. A literal stands between two quotes of a kind that it does not hold. -/
inductive Written : Token → List Char → Prop
  | identifier {c : Char} {more : List Char} (starts : startsIdentifier c = true)
      (continues : ∀ d ∈ more, continuesIdentifier d = true) :
      Written (.identifier (String.ofList (c :: more))) (c :: more)
  | literal {quote : Char} {text : List Char} (isQuote : quote = '\x27' ∨ quote = '"')
      (outside : quote ∉ text) : Written (.literal (String.ofList text)) (quote :: (text ++ [quote]))
  | equal : Written .equal ['=', '=']
  | notEqual : Written .notEqual ['!', '=']
  | not : Written .not ['!']
  | and : Written .and ['&', '&']
  | or : Written .or ['|', '|']
  | parenOpen : Written .parenOpen ['(']
  | parenClose : Written .parenClose [')']

/-- Whether a text goes on with a character that would belong to the token before it. -/
def runsOn : Token → List Char → Bool
  | identifier _, text => text.head?.any continuesIdentifier
  | not, text => text.head? == some '='
  | _, _ => false

/-- The texts of a list of tokens, with blanks before, between and after them. -/
inductive Spelling : List Token → List Char → Prop
  | nil : Spelling [] []
  | blank {c : Char} {tokens : List Token} {text : List Char} (isBlank : Text.isBlank c = true) :
      Spelling tokens text → Spelling tokens (c :: text)
  | token {token : Token} {tokens : List Token} {word text : List Char} (written : token.Written word)
      (ends : token.runsOn text = false) :
      Spelling tokens text → Spelling (token :: tokens) (word ++ text)

/-! ### One token -/

theorem not_isBlank_of_continuesIdentifier {c : Char} (h : continuesIdentifier c = true) :
    Text.isBlank c = false := by
  have ranges : c.isAlphanum = (decide (c.val ≥ 65 ∧ c.val ≤ 90) ||
      decide (c.val ≥ 97) && decide (c.val ≤ 122) || decide (c.val ≥ 48) && decide (c.val ≤ 57)) := rfl
  rw [continuesIdentifier, ranges] at h
  simp only [Bool.or_eq_true, Bool.and_eq_true, decide_eq_true_eq, ge_iff_le, UInt32.le_iff_toNat_le,
    beq_iff_eq] at h
  change (((65 ≤ c.toNat ∧ c.toNat ≤ 90) ∨ (97 ≤ c.toNat ∧ c.toNat ≤ 122)) ∨
    (48 ≤ c.toNat ∧ c.toNat ≤ 57)) ∨ c = '_' at h
  rcases h with h | rfl
  · simp only [Text.isBlank, Bool.or_eq_false_iff, Bool.and_eq_false_iff, decide_eq_false_iff_not,
      beq_eq_false_iff_ne]
    omega
  · rfl

theorem continuesIdentifier_of_startsIdentifier {c : Char} (h : startsIdentifier c = true) :
    continuesIdentifier c = true := by
  rw [startsIdentifier] at h
  simp [continuesIdentifier, Char.isAlphanum, h]

theorem Written.ne_nil {token : Token} {word : List Char} (written : token.Written word) :
    word ≠ [] := by
  cases written <;> exact List.cons_ne_nil _ _

/-- No token starts with a blank. -/
theorem Written.not_isBlank {token : Token} {word : List Char} {c : Char}
    (written : token.Written word) (first : word.head? = some c) : Text.isBlank c = false := by
  cases written with
  | identifier starts _ =>
    obtain rfl := Option.some.inj first
    exact not_isBlank_of_continuesIdentifier (continuesIdentifier_of_startsIdentifier starts)
  | literal isQuote _ =>
    obtain rfl := Option.some.inj first
    rcases isQuote with rfl | rfl <;> rfl
  | equal | notEqual | not | and | or | parenOpen | parenClose =>
    obtain rfl := Option.some.inj first
    rfl

/-- The text of a token is read as the token, whatever stands behind it. -/
theorem Written.read {token : Token} {word rest text : List Char} {c : Char}
    (written : token.Written word) (ends : token.runsOn text = false)
    (isText : c :: rest = word ++ text) (offset : Nat) :
    read offset c rest = .ok (token, word.length) := by
  cases written with
  | @identifier first more starts continues =>
    obtain ⟨rfl, rfl⟩ := List.cons.inj isText
    have other (d : Char) (no : startsIdentifier d = false) : c ≠ d := by
      rintro rfl
      rw [starts] at no
      cases no
    have leads : Text.Leads continuesIdentifier (more ++ text) more text :=
      ⟨rfl, continues, fun d isHead => by simpa [runsOn, isHead] using ends⟩
    simp [Token.read, other '(' rfl, other ')' rfl, other '=' rfl, other '!' rfl, other '&' rfl,
      other '|' rfl, other '\x27' rfl, other '"' rfl, starts, leads.takeWhile_eq]
  | @literal quote body isQuote outside =>
    obtain ⟨rfl, rfl⟩ := List.cons.inj isText
    have leads := Text.leads_of_not_mem outside text
    rcases isQuote with rfl | rfl <;> simp [Token.read, leads.takeWhile_eq]
  | not =>
    obtain ⟨rfl, rfl⟩ := List.cons.inj isText
    simp [runsOn] at ends
    simp [Token.read, ends]
  | equal | notEqual | and | or | parenOpen | parenClose =>
    obtain ⟨rfl, rfl⟩ := List.cons.inj isText
    simp [Token.read]

/-- A text that starts with a token: the token's own text, which does not run on, and what follows. -/
def Starts (token : Token) (count : Nat) (text : List Char) : Prop :=
  ∃ word rest, text = word ++ rest ∧ token.Written word ∧ token.runsOn rest = false ∧
    word.length = count

theorem starts_literal {quote : Char} {rest : List Char} (isQuote : quote = '\x27' ∨ quote = '"')
    (closed : (rest.takeWhile (· != quote)).length < rest.length) :
    Starts (.literal (String.ofList (rest.takeWhile (· != quote))))
      ((rest.takeWhile (· != quote)).length + 2) (quote :: rest) := by
  have outside : quote ∉ rest.takeWhile (· != quote) := by
    intro member
    simpa using List.mem_takeWhile_imp member
  cases isAfter : rest.dropWhile (· != quote) with
  | nil =>
    have isWhole := List.takeWhile_append_dropWhile (p := (· != quote)) (l := rest)
    rw [isAfter, List.append_nil] at isWhole
    rw [isWhole] at closed
    exact absurd closed (Nat.lt_irrefl _)
  | cons c after =>
    have isClosing : c = quote := by
      simpa [isAfter] using List.head?_dropWhile_not (· != quote) rest
    have isRest : rest = rest.takeWhile (· != quote) ++ quote :: after := by
      rw [← isClosing, ← isAfter, isClosing, List.takeWhile_append_dropWhile]
    exact ⟨_, after, by simpa using isRest, .literal isQuote outside, rfl, by simp⟩

theorem starts_identifier {c : Char} (rest : List Char) (starts : startsIdentifier c = true) :
    Starts (.identifier (String.ofList (c :: rest.takeWhile continuesIdentifier)))
      ((rest.takeWhile continuesIdentifier).length + 1) (c :: rest) := by
  refine ⟨c :: rest.takeWhile continuesIdentifier, rest.dropWhile continuesIdentifier, ?_, ?_, ?_, rfl⟩
  · rw [List.cons_append, List.takeWhile_append_dropWhile]
  · exact .identifier starts fun d member => List.mem_takeWhile_imp member
  · have first := List.head?_dropWhile_not continuesIdentifier rest
    simp only [runsOn]
    cases isFirst : (rest.dropWhile continuesIdentifier).head? with
    | none => rfl
    | some d => simpa [isFirst] using first

theorem starts_pair {token : Token} {a b c : Char} {rest : List Char}
    (written : token.Written [a, b]) (ends : token.runsOn rest.tail = false) (isFirst : (c == a) = true)
    (isSecond : (rest.head? == some b) = true) : Starts token 2 (c :: rest) := by
  cases rest with
  | nil => cases isSecond
  | cons d rest =>
    obtain rfl := beq_iff_eq.mp isFirst
    obtain rfl := Option.some.inj (beq_iff_eq.mp isSecond)
    exact ⟨[c, d], rest, rfl, written, ends, rfl⟩

/-- What is read starts the text. -/
theorem starts_of_read {token : Token} {count offset : Nat} {c : Char} {rest : List Char}
    (h : read offset c rest = .ok (token, count)) : Starts token count (c :: rest) := by
  -- The cases are in the order of the reader, which tries `!=` before `!`.
  unfold Token.read at h
  split at h
  case isTrue isOpen =>
    cases h
    exact ⟨['('], rest, by simpa using isOpen, .parenOpen, rfl, rfl⟩
  split at h
  case isTrue isClose =>
    cases h
    exact ⟨[')'], rest, by simpa using isClose, .parenClose, rfl, rfl⟩
  split at h
  case isTrue isEqual =>
    cases h
    obtain ⟨isFirst, isSecond⟩ := Bool.and_eq_true_iff.mp isEqual
    exact starts_pair .equal rfl isFirst isSecond
  split at h
  case isTrue isFirst =>
    split at h
    case isTrue isSecond =>
      cases h
      exact starts_pair .notEqual rfl isFirst isSecond
    case isFalse alone =>
      cases h
      exact ⟨['!'], rest, by simpa using isFirst, .not, by simpa [runsOn] using alone, rfl⟩
  split at h
  case isTrue isAnd =>
    cases h
    obtain ⟨isFirst, isSecond⟩ := Bool.and_eq_true_iff.mp isAnd
    exact starts_pair .and rfl isFirst isSecond
  split at h
  case isTrue isOr =>
    cases h
    obtain ⟨isFirst, isSecond⟩ := Bool.and_eq_true_iff.mp isOr
    exact starts_pair .or rfl isFirst isSecond
  split at h
  case isTrue isQuote =>
    dsimp only at h
    split at h
    case isTrue closed =>
      cases h
      exact starts_literal (by simpa using isQuote) closed
    case isFalse => cases h
  split at h
  case isTrue starts =>
    cases h
    exact starts_identifier rest starts
  case isFalse => cases h

/-! ### Lists of tokens -/

/-- Blanks before a text spell nothing. -/
theorem spelling_cons_blank {c : Char} (isBlank : Text.isBlank c = true) {tokens : List Token}
    {text : List Char} : Spelling tokens (c :: text) ↔ Spelling tokens text := by
  refine ⟨fun h => ?_, .blank isBlank⟩
  generalize isWhole : c :: text = whole at h
  cases h with
  | nil => cases isWhole
  | blank _ h =>
    obtain ⟨-, rfl⟩ := List.cons.inj isWhole
    exact h
  | @token token tokens word rest written _ _ =>
    cases word with
    | nil => exact absurd rfl written.ne_nil
    | cons d word =>
      obtain ⟨rfl, -⟩ := List.cons.inj isWhole
      rw [written.not_isBlank rfl] at isBlank
      cases isBlank

theorem spelling_nil {tokens : List Token} : Spelling tokens [] ↔ tokens = [] := by
  constructor
  · intro h
    generalize isWhole : [] = whole at h
    cases h with
    | nil => rfl
    | blank => cases isWhole
    | token written => exact absurd (List.append_eq_nil_iff.mp isWhole.symm).1 written.ne_nil
  · rintro rfl
    exact .nil

/-- A text that does not start with a blank spells the token that is read from its start, and more. -/
theorem spelling_cons_iff {c : Char} {rest : List Char} (notBlank : Text.isBlank c = false)
    (offset : Nat) {tokens : List Token} :
    Spelling tokens (c :: rest) ↔ ∃ token count more, read offset c rest = .ok (token, count) ∧
      tokens = token :: more ∧ Spelling more (rest.drop (count - 1)) := by
  constructor
  · intro h
    generalize isWhole : c :: rest = whole at h
    cases h with
    | nil => cases isWhole
    | blank isBlank _ =>
      obtain ⟨rfl, -⟩ := List.cons.inj isWhole
      rw [isBlank] at notBlank
      cases notBlank
    | @token token more word text written ends h =>
      refine ⟨token, word.length, more, written.read ends isWhole offset, rfl, ?_⟩
      cases word with
      | nil => exact absurd rfl written.ne_nil
      | cons d word =>
        obtain ⟨-, rfl⟩ := List.cons.inj isWhole
        simpa using h
  · rintro ⟨token, count, more, isRead, rfl, h⟩
    obtain ⟨word, text, isWhole, written, ends, rfl⟩ := starts_of_read isRead
    cases word with
    | nil => exact absurd rfl written.ne_nil
    | cons d word =>
      obtain ⟨rfl, rfl⟩ := List.cons.inj isWhole
      exact .token written ends (by simpa using h)

theorem listFrom_eq_ok_iff {text : List Char} {offset skip : Nat} {tokens : List Token} :
    listFrom offset skip text = .ok tokens ↔ Spelling tokens (text.drop skip) := by
  induction text generalizing offset skip tokens with
  | nil =>
    rw [listFrom, List.drop_nil, spelling_nil, Except.ok.injEq, eq_comm]
  | cons c rest ih =>
    cases skip with
    | succ skip => simpa [listFrom] using ih
    | zero =>
      simp only [listFrom, Nat.lt_irrefl, if_false, List.drop_zero]
      split
      case isTrue isBlank =>
        rw [spelling_cons_blank isBlank]
        exact ih
      case isFalse notBlank =>
        rw [spelling_cons_iff (Bool.not_eq_true _ ▸ notBlank) offset]
        cases isRead : read offset c rest with
        | error => simp
        | ok result =>
          obtain ⟨token, count⟩ := result
          simp only [Except.ok.injEq, Prod.mk.injEq]
          constructor
          · intro h
            split at h
            · cases h
            case h_2 more isMore =>
              exact ⟨token, count, more, ⟨rfl, rfl⟩, (Except.ok.inj h).symm, ih.mp isMore⟩
          · rintro ⟨_, _, more, ⟨rfl, rfl⟩, rfl, h⟩
            rw [ih.mpr h]

/-- A text reads as tokens if and only if it spells them. -/
theorem list_eq_ok_iff {text : List Char} {tokens : List Token} :
    list text = .ok tokens ↔ Spelling tokens text :=
  listFrom_eq_ok_iff

end ChartLint.Scope.Token
