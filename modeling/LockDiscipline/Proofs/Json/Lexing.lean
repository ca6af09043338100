import Mathlib.Tactic.FinCases
import Mathlib.Tactic.IntervalCases
import LockDiscipline.Proofs.Json.Grammar

/-!
# Cutting texts of JSON

What the grammar says of the parts of a text, the tokens of a text bear out: blanks leave no
token (`tokens_blanks`), a string is one token whatever it holds (`tokens_quoted`), which denotes
what is spelled (`textToken_of_spelled`), and a number is one token if the text that follows
delimits it (`tokens_number`).
-/

namespace LockDiscipline.Json

variable {c : Char} {cs s rest : List Char}

/-- Characters that begin with a lexeme of one token. -/
theorem tokens_of_lexeme {t : Token} (solid : isBlank c = false)
    (lexeme : lexeme c cs = ([t], some rest)) :
  tokens (c :: cs) = t :: tokens rest
  := by
  rw [tokens, if_neg (Bool.eq_false_iff.mp solid)]
  split
  · next none => cases none.symm.trans lexeme
  · next some =>
    cases some.symm.trans lexeme
    rfl

theorem tokens_blanks {w : List Char} (blanks : Blanks w) (rest : List Char) :
  tokens (w ++ rest) = tokens rest
  := by
  induction w with
  | nil => rfl
  | cons c w ih =>
    obtain ⟨first, others⟩ := List.forall_mem_cons.mp blanks
    have blank : isBlank c = true := by
      fin_cases first
      all_goals rfl
    rw [List.cons_append, tokens, if_pos blank, ih others]

/-! ### Strings -/

theorem hexValue?_of_hexDigit {n : Nat} (h : HexDigit c n) :
  hexValue? c = some n
  := by
  have small : ∀ k, ∀ lt : k < smallDigits.length, hexValue? smallDigits[k] = some k := by decide
  have capital : ∀ k, ∀ lt : k < capitalDigits.length, hexValue? capitalDigits[k] = some k := by
    decide
  obtain digit | digit := h
  · obtain ⟨lt, rfl⟩ := List.getElem?_eq_some_iff.mp digit
    exact small n lt
  · obtain ⟨lt, rfl⟩ := List.getElem?_eq_some_iff.mp digit
    exact capital n lt

theorem readHex_of_code {ds : List Char} {n : Nat} (h : Code ds n) (rest : List Char) :
  readHex (ds ++ rest) = .ok (n, rest)
  := by
  obtain ⟨first, second, third, fourth⟩ := h
  simp [readHex, hexValue?_of_hexDigit first, hexValue?_of_hexDigit second,
    hexValue?_of_hexDigit third, hexValue?_of_hexDigit fourth]

theorem letterEscape?_of_mem {x : Char} (h : (c, x) ∈ shortEscapes) :
  c ≠ 'u' ∧ letterEscape? c = some x
  := by
  have all : ∀ p ∈ shortEscapes, p.1 ≠ 'u' ∧ letterEscape? p.1 = some p.2 := by decide
  exact all _ h

theorem isHighSurrogate_iff {n : Nat} :
  isHighSurrogate n = true ↔ 0xd800 ≤ n ∧ n < 0xdc00
  := by simp [isHighSurrogate]

theorem isLowSurrogate_iff {n : Nat} :
  isLowSurrogate n = true ↔ 0xdc00 ≤ n ∧ n < 0xe000
  := by simp [isLowSurrogate]

/-- No character is half a surrogate pair. -/
theorem not_isSurrogate (x : Char) :
  isLowSurrogate x.toNat = false ∧ isHighSurrogate x.toNat = false
  := by
  have valid : x.toNat < 0xd800 ∨ 0xdfff < x.toNat ∧ x.toNat < 0x110000 := x.valid
  rw [Bool.eq_false_iff, Bool.eq_false_iff, ne_eq, ne_eq, isLowSurrogate_iff, isHighSurrogate_iff]
  omega

theorem readEscape_of_mem {x : Char} (h : (c, x) ∈ shortEscapes) (rest : List Char) :
  readEscape (c :: rest) = .ok (x, rest)
  := by
  obtain ⟨letter, stands⟩ := letterEscape?_of_mem h
  simp [readEscape, letter, stands]

theorem readEscape_of_code {ds : List Char} {x : Char} (h : Code ds x.toNat)
    (rest : List Char) :
  readEscape ('u' :: (ds ++ rest)) = .ok (x, rest)
  := by
  obtain ⟨low, high⟩ := not_isSurrogate x
  simp [readEscape, readHex_of_code h, low, high, Char.ofNat_toNat]

/-- The two units of a character are a surrogate pair, and stand for the character. -/
theorem ofSurrogates_units {x : Char} (beyond : 0x10000 ≤ x.toNat) :
  isHighSurrogate (highUnit x) = true ∧ isLowSurrogate (highUnit x) = false
    ∧ isLowSurrogate (lowUnit x) = true ∧ ofSurrogates (highUnit x) (lowUnit x) = x
  := by
  have valid : x.toNat < 0xd800 ∨ 0xdfff < x.toNat ∧ x.toNat < 0x110000 := x.valid
  have split := Nat.div_add_mod (x.toNat - 0x10000) 0x400
  have inside := Nat.mod_lt (x.toNat - 0x10000) (y := 0x400) (by decide)
  refine ⟨?_, ?_, ?_, ?_⟩
  · rw [isHighSurrogate_iff, highUnit]
    omega
  · rw [Bool.eq_false_iff, ne_eq, isLowSurrogate_iff, highUnit]
    omega
  · rw [isLowSurrogate_iff, lowUnit]
    omega
  · have value : 0x10000 + (highUnit x - 0xd800) * 0x400 + (lowUnit x - 0xdc00) = x.toNat := by
      simp only [highUnit, lowUnit]
      omega
    rw [ofSurrogates, value, Char.ofNat_toNat]

theorem readEscape_of_pair {ds es : List Char} {x : Char} (beyond : 0x10000 ≤ x.toNat)
    (high : Code ds (highUnit x)) (low : Code es (lowUnit x)) (rest : List Char) :
  readEscape ('u' :: (ds ++ '\\' :: 'u' :: (es ++ rest))) = .ok (x, rest)
  := by
  obtain ⟨isHigh, notLow, isLow, whole⟩ := ofSurrogates_units beyond
  simp [readEscape, readHex_of_code high, readHex_of_code low, readLow, isHigh, notLow, isLow,
    whole]

theorem readString_plain (h : Plain c) (cs : List Char) :
  readString (c :: cs) = (readString cs).map fun (s, end_) => (c :: s, end_)
  := by
  obtain ⟨printable, noMark, noSlash⟩ := h
  have free : isControl c = false := by simpa [isControl] using printable
  rw [readString, if_neg noMark, if_neg noSlash, if_neg (Bool.eq_false_iff.mp free)]

theorem readString_escape {x : Char} (h : readEscape cs = .ok (x, rest)) :
  readString ('\\' :: cs) = (readString rest).map fun (s, end_) => (x :: s, end_)
  := by
  rw [readString, if_neg (by decide), if_pos rfl]
  split
  · next none => cases none.symm.trans h
  · next some =>
    cases some.symm.trans h
    rfl

/-- What is spelled is read. -/
theorem readString_of_spelled (h : Spelled cs s) (rest : List Char) :
  readString (cs ++ '"' :: rest) = .ok (s, rest)
  := by
  induction h with
  | nil => rw [List.nil_append, readString, if_pos rfl]
  | plain plain _ ih => rw [List.cons_append, readString_plain plain, ih, Except.map]
  | short short _ ih =>
    simp only [List.cons_append]
    rw [readString_escape (readEscape_of_mem short _), ih, Except.map]
  | code code _ ih =>
    simp only [List.cons_append, List.append_assoc]
    rw [readString_escape (readEscape_of_code code _), ih, Except.map]
  | pair beyond high low _ ih =>
    simp only [List.cons_append, List.append_assoc]
    rw [readString_escape (readEscape_of_pair beyond high low _), ih, Except.map]

theorem skipEscape_of_mem {x : Char} (h : (c, x) ∈ shortEscapes) (rest : List Char) :
  skipEscape (c :: rest) = .ok rest
  := by
  obtain ⟨letter, stands⟩ := letterEscape?_of_mem h
  simp [skipEscape, letter, stands]

theorem skipEscape_of_code {ds : List Char} {n : Nat} (h : Code ds n) (rest : List Char) :
  skipEscape ('u' :: (ds ++ rest)) = .ok rest
  := by simp [skipEscape, readHex_of_code h]

theorem skipString_plain (h : Plain c) (cs : List Char) :
  skipString (c :: cs) = skipString cs
  := by
  obtain ⟨printable, noMark, noSlash⟩ := h
  have free : isControl c = false := by simpa [isControl] using printable
  rw [skipString, if_neg noMark, if_neg noSlash, if_neg (Bool.eq_false_iff.mp free)]

theorem skipString_escape (h : skipEscape cs = .ok rest) :
  skipString ('\\' :: cs) = skipString rest
  := by
  rw [skipString, if_neg (by decide), if_pos rfl]
  split
  · next none => cases none.symm.trans h
  · next some =>
    cases some.symm.trans h
    rfl

/-- The end of a string is found, whatever it holds. -/
theorem skipString_of_quotable (h : Quotable cs) (rest : List Char) :
  skipString (cs ++ '"' :: rest) = .ok rest
  := by
  induction h with
  | nil => rw [List.nil_append, skipString, if_pos rfl]
  | plain plain _ ih => rw [List.cons_append, skipString_plain plain, ih]
  | short short _ ih =>
    simp only [List.cons_append]
    rw [skipString_escape (skipEscape_of_mem short _), ih]
  | code code _ ih =>
    simp only [List.cons_append, List.append_assoc]
    rw [skipString_escape (skipEscape_of_code code _), ih]

/-- A string is one token. -/
theorem tokens_quoted (h : Quotable cs) (rest : List Char) :
  tokens (quoted cs ++ rest) = textToken (cs ++ '"' :: rest) :: tokens rest
  := by
  have whole : quoted cs ++ rest = '"' :: (cs ++ '"' :: rest) := by simp [quoted]
  have cut : lexeme '"' (cs ++ '"' :: rest) = string (cs ++ '"' :: rest) := rfl
  rw [whole]
  apply tokens_of_lexeme rfl
  rw [cut, string, skipString_of_quotable h]

/-- The token of a string denotes what is spelled. -/
theorem textToken_of_spelled (h : Spelled cs s) (rest : List Char) :
  textToken (cs ++ '"' :: rest) = .text (String.ofList s)
  := by rw [textToken, readString_of_spelled h]

theorem tokens_spelled (h : Spelled cs s) (rest : List Char) :
  tokens (quoted cs ++ rest) = .text (String.ofList s) :: tokens rest
  := by rw [tokens_quoted h.quotable, textToken_of_spelled h]

/-! ### Numbers -/

theorem mem_of_isDigit (h : c.isDigit = true) :
  c ∈ ['0', '1', '2', '3', '4', '5', '6', '7', '8', '9']
  := by
  obtain ⟨low, high⟩ : 48 ≤ c.toNat ∧ c.toNat ≤ 57 := by
    simpa [Char.isDigit, UInt32.le_iff_toNat_le] using h
  rw [← Char.ofNat_toNat c]
  generalize c.toNat = n at low high
  interval_cases n
  all_goals decide

/-- A number is told by its first character. -/
theorem lexeme_of_numeral (h : c = '-' ∨ c.isDigit = true) (rest : List Char) :
  isBlank c = false ∧ lexeme c rest = number (c :: rest)
  := by
  have mem : c ∈ ['-', '0', '1', '2', '3', '4', '5', '6', '7', '8', '9'] :=
    List.mem_cons.mpr (h.imp_right mem_of_isDigit)
  fin_cases mem
  all_goals exact ⟨rfl, rfl⟩

/-- A row of digits is read to its end. -/
theorem readDigits_append {ds : List Char} (h : Digits ds)
    (ends : ∀ c ∈ rest.head?, c.isDigit = false) :
  readDigits (ds ++ rest) = .ok (ds, rest)
  := by
  obtain ⟨nonempty, all⟩ := h
  cases ds with
  | nil => exact absurd rfl nonempty
  | cons c ds =>
    obtain ⟨first, others⟩ := List.forall_mem_cons.mp all
    have stop : rest.takeWhile Char.isDigit = [] ∧ rest.dropWhile Char.isDigit = rest := by
      cases rest with
      | nil => exact ⟨rfl, rfl⟩
      | cons c rest => simp [ends c rfl]
    rw [List.cons_append, readDigits, if_pos first, List.takeWhile_append_of_pos others,
      List.dropWhile_append_of_pos others, stop.1, stop.2, List.append_nil]

theorem readWhole_append {ds : List Char} (h : Whole ds)
    (ends : ∀ c ∈ rest.head?, c.isDigit = false) :
  readWhole (ds ++ rest) = .ok (ds, rest)
  := by
  cases h with
  | zero =>
    cases rest with
    | nil => rfl
    | cons c rest => simp [readWhole, ends c rfl]
  | digits digits nonzero =>
    rw [List.cons_append, readWhole, if_neg nonzero]
    exact readDigits_append digits ends

theorem readFraction_append {ds : List Char} (h : Fraction ds)
    (ends : ∀ c ∈ rest.head?, c.isDigit = false ∧ c ≠ '.') :
  ∃ read, readFraction (ds ++ rest) = .ok (read, rest)
  := by
  cases h with
  | absent =>
    use []
    cases rest with
    | nil => rfl
    | cons c rest => simp [readFraction, (ends c rfl).2]
  | @present ds digits =>
    use ds
    rw [List.cons_append, readFraction, if_pos rfl]
    exact readDigits_append digits fun c head => (ends c head).1

theorem takeSign_append {sign ds : List Char} (signed : sign ∈ [[], ['-'], ['+']])
    (digits : Digits ds) (rest : List Char) :
  (takeSign (sign ++ ds ++ rest)).2 = ds ++ rest
  := by
  obtain ⟨nonempty, all⟩ := digits
  cases ds with
  | nil => exact absurd rfl nonempty
  | cons c ds =>
    have digit := (List.forall_mem_cons.mp all).1
    have minus : c ≠ '-' := by
      rintro rfl
      cases digit
    have plus : c ≠ '+' := by
      rintro rfl
      cases digit
    fin_cases signed
    · simp [takeSign, minus, plus]
    · rfl
    · rfl

theorem readExponent_append {ds : List Char} (h : Exponent ds) (delimits : Delimits rest) :
  ∃ read, readExponent (ds ++ rest) = .ok (read, rest)
  := by
  cases h with
  | absent =>
    use none
    cases rest with
    | nil => rfl
    | cons c rest =>
      obtain ⟨-, -, small, capital⟩ := delimits c rfl
      simp [readExponent, small, capital]
  | @present e sign ds mark signed digits =>
    have numeral := takeSign_append signed digits rest
    use some ((takeSign (sign ++ ds ++ rest)).1, ds)
    rw [List.append_assoc, List.cons_append, ← List.append_assoc, readExponent, if_pos mark,
      numeral, readDigits_append digits fun c head => (delimits c head).1]

/-- What follows the digits before the point is no digit. -/
theorem head_fraction_append {fraction : List Char} (h : Fraction fraction)
    (ends : ∀ c ∈ rest.head?, c.isDigit = false) :
  ∀ c ∈ (fraction ++ rest).head?, c.isDigit = false
  := by
  cases h with
  | absent => exact ends
  | present digits =>
    rintro c ⟨⟩
    rfl

/-- What follows the digits after the point is neither a digit nor a point. -/
theorem head_exponent_append {exponent : List Char} (h : Exponent exponent)
    (delimits : Delimits rest) :
  ∀ c ∈ (exponent ++ rest).head?, c.isDigit = false ∧ c ≠ '.'
  := by
  cases h with
  | absent => exact fun c head => ⟨(delimits c head).1, (delimits c head).2.1⟩
  | present mark signed digits =>
    rintro c ⟨⟩
    obtain rfl | rfl := mark
    · decide
    · decide

theorem readMagnitude_append {whole fraction exponent : List Char} (negative : Bool)
    (before : Whole whole) (after : Fraction fraction) (power : Exponent exponent)
    (delimits : Delimits rest) :
  ∃ n, readMagnitude negative (whole ++ (fraction ++ (exponent ++ rest))) = .ok (n, rest)
  := by
  have past := head_exponent_append power delimits
  obtain ⟨e, exponentRead⟩ := readExponent_append power delimits
  obtain ⟨f, fractionRead⟩ := readFraction_append after past
  have wholeRead := readWhole_append before
    (head_fraction_append after fun c head => (past c head).1)
  use ⟨negative, whole, f, e⟩
  simp only [readMagnitude, wholeRead, fractionRead, exponentRead]

/-- The digits before the point begin with one. -/
theorem Whole.exists_digit {whole : List Char} (h : Whole whole) :
  ∃ c ds, whole = c :: ds ∧ c.isDigit = true
  := by
  cases h with
  | zero => exact ⟨'0', [], rfl, rfl⟩
  | @digits c ds digits nonzero => exact ⟨c, ds, rfl, digits.2 c List.mem_cons_self⟩

/-- A number begins as one, and is read to its end. -/
theorem Numeric.readNumeral (h : Numeric cs) (delimits : Delimits rest) :
  ∃ c ds n, cs = c :: ds ∧ (c = '-' ∨ c.isDigit = true)
    ∧ readNumeral (cs ++ rest) = .ok (n, rest)
  := by
  obtain @⟨sign, whole, fraction, exponent, signed, before, after, power⟩ := h
  obtain ⟨d, ds, rfl, digit⟩ := before.exists_digit
  fin_cases signed
  · obtain ⟨n, read⟩ := readMagnitude_append false before after power delimits
    have unsigned : d ≠ '-' := by
      rintro rfl
      cases digit
    refine ⟨d, ds ++ fraction ++ exponent, n, rfl, .inr digit, ?_⟩
    simpa [Json.readNumeral, unsigned] using read
  · obtain ⟨n, read⟩ := readMagnitude_append true before after power delimits
    refine ⟨'-', d :: ds ++ fraction ++ exponent, n, rfl, .inl rfl, ?_⟩
    simpa [Json.readNumeral] using read

/-- A number is one token, whether it is in range or not. -/
theorem tokens_number (h : Numeric cs) (delimits : Delimits rest) :
  ∃ t, ((∃ x, t = .number x) ∨ ∃ l, t = .badNumber l) ∧ tokens (cs ++ rest) = t :: tokens rest
  := by
  obtain ⟨c, ds, n, rfl, begins, read⟩ := h.readNumeral delimits
  obtain ⟨solid, cut⟩ := lexeme_of_numeral begins (ds ++ rest)
  rw [List.cons_append] at read ⊢
  rw [number, read] at cut
  cases value : n.number? with
  | some x =>
    use .number x, .inl ⟨x, rfl⟩
    apply tokens_of_lexeme solid
    simp only [cut, value]
  | none =>
    use .badNumber .malformed, .inr ⟨_, rfl⟩
    apply tokens_of_lexeme solid
    simp only [cut, value]

end LockDiscipline.Json
