import LockDiscipline.Json.Numeral

/-!
# Tokens of JSON

`tokens` cuts a text into `Token`s.  A string keeps what it denotes, or how it fails to
denote anything, and so does a number; whether that matters is up to whoever reads the
tokens.  Where the text cannot be cut further, the tokens end: at once if the text has
ended, with `cut` if a literal was cut short by the end of the text, and with `stray` if
what stands there is no token.
-/

namespace LockDiscipline.Json

/-- A token of JSON, or what is left of one. -/
inductive Token where
  | beginObject
  | endObject
  | beginList
  | endList
  | colon
  | comma
  | null
  | boolean (b : Bool)
  | text (s : String)
  | badText (l : Lapse)
  | number (n : Number)
  | badNumber (l : Lapse)
  | cut
  | stray
  deriving DecidableEq, Repr

/-- The characters that may stand between tokens. -/
def isBlank (c : Char) : Bool := c = ' ' || c = '\n' || c = '\t' || c = '\r'

/-- Reads the characters of a word. -/
def readWord : List Char → List Char → Except Lapse (List Char)
  | [], cs => .ok cs
  | _ :: _, [] => .error .ended
  | w :: word, c :: cs => if w = c then readWord word cs else .error .malformed

/-- A literal, when the characters after its first are `word`. -/
def literal (t : Token) (word rest : List Char) : List Token × Option (List Char) :=
  match readWord word rest with
  | .ok rest => ([t], some rest)
  | .error .ended => ([.cut], none)
  | .error .malformed => ([.stray], none)

/-- The token of the string whose characters after the opening mark are `cs`. -/
def textToken (cs : List Char) : Token :=
  match readString cs with
  | .ok (s, _) => .text (String.ofList s)
  | .error l => .badText l

/-- A string, when the characters after the opening mark are `rest`. -/
def string (rest : List Char) : List Token × Option (List Char) :=
  match skipString rest with
  | .ok rest' => ([textToken rest], some rest')
  | .error .ended => ([textToken rest], none)
  | .error .malformed => ([textToken rest, .stray], none)

/-- A number. -/
def number (cs : List Char) : List Token × Option (List Char) :=
  match readNumeral cs with
  | .ok (n, rest) =>
    match n.number? with
    | some x => ([.number x], some rest)
    | none => ([.badNumber .malformed], some rest)
  | .error l => ([.badNumber l, .stray], none)

/-- The token that a character is by itself. -/
def mark? (c : Char) : Option Token :=
  if c = '\x7b' then some .beginObject
  else if c = '\x7d' then some .endObject
  else if c = '[' then some .beginList
  else if c = ']' then some .endList
  else if c = ':' then some .colon
  else if c = ',' then some .comma
  else none

/-- The literal that begins with a character, and the rest of its characters. -/
def word? (c : Char) : Option (Token × List Char) :=
  if c = 'n' then some (.null, ['u', 'l', 'l'])
  else if c = 't' then some (.boolean true, ['r', 'u', 'e'])
  else if c = 'f' then some (.boolean false, ['a', 'l', 's', 'e'])
  else none

/-- The tokens that the characters `c :: rest` begin with, and what follows them; nothing
follows if the text cannot be cut further. -/
def lexeme (c : Char) (rest : List Char) : List Token × Option (List Char) :=
  match mark? c, word? c with
  | some t, _ => ([t], some rest)
  | none, some (t, word) => literal t word rest
  | none, none =>
    if c = '"' then string rest
    else if c = '-' ∨ c.isDigit then number (c :: rest)
    else ([.stray], none)

/-! ### Lengths -/

theorem length_le_of_readWord {word cs rest : List Char} (h : readWord word cs = .ok rest) :
  rest.length ≤ cs.length
  := by
  fun_induction readWord word cs with
  | case1 => cases h; simp
  | case2 => cases h
  | case3 word c cs ih =>
    have := ih h
    simp only [List.length_cons]
    omega
  | case4 => cases h

theorem length_le_of_literal {t : Token} {word cs rest : List Char} {ts : List Token}
    (h : literal t word cs = (ts, some rest)) :
  rest.length ≤ cs.length
  := by
  rw [literal] at h
  split at h
  · next hword =>
    cases h
    exact length_le_of_readWord hword
  · cases h
  · cases h

theorem length_le_of_string {cs rest : List Char} {ts : List Token}
    (h : string cs = (ts, some rest)) :
  rest.length ≤ cs.length
  := by
  rw [string] at h
  split at h
  · next hskip =>
    cases h
    exact Nat.le_of_lt (length_lt_of_skipString hskip)
  · cases h
  · cases h

theorem length_lt_of_number {cs rest : List Char} {ts : List Token}
    (h : number cs = (ts, some rest)) :
  rest.length < cs.length
  := by
  rw [number] at h
  split at h
  · next hread =>
    split at h
    · cases h
      exact length_lt_of_readNumeral hread
    · cases h
      exact length_lt_of_readNumeral hread
  · cases h

theorem length_le_of_lexeme {c : Char} {cs rest : List Char} {ts : List Token}
    (h : lexeme c cs = (ts, some rest)) :
  rest.length ≤ cs.length
  := by
  rw [lexeme] at h
  split at h
  · cases h
    exact Nat.le_refl _
  · exact length_le_of_literal h
  · split at h
    · exact length_le_of_string h
    · split at h
      · exact Nat.le_of_lt_succ (length_lt_of_number h)
      · cases h

/-- The tokens of a text. -/
def tokens (cs : List Char) : List Token :=
  match cs with
  | [] => []
  | c :: rest =>
    if isBlank c then tokens rest
    else
      match _ : lexeme c rest with
      | (ts, none) => ts
      | (ts, some rest) => ts ++ tokens rest
termination_by cs.length
decreasing_by
  · simp
  · have := length_le_of_lexeme ‹_›
    simp only [List.length_cons]
    omega

end LockDiscipline.Json
