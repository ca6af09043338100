/-!
# Strings in JSON

Reading what stands between the quotation marks of a JSON string.  `readString` decodes it,
and refuses the escape of half a surrogate pair; `skipString` only looks for its end, and
lets such an escape pass.  Both give the characters after the closing mark.
-/

namespace LockDiscipline.Json

/-- How a text fails to be JSON: it ends too early, or it cannot be continued to one that
is. -/
inductive Lapse where
  | ended
  | malformed
  deriving DecidableEq, Repr

/-- The value of a hexadecimal digit. -/
def hexValue? (c : Char) : Option Nat :=
  if c.isDigit then some (c.toNat - '0'.toNat)
  else if 'a' ≤ c ∧ c ≤ 'f' then some (c.toNat - 'a'.toNat + 10)
  else if 'A' ≤ c ∧ c ≤ 'F' then some (c.toNat - 'A'.toNat + 10)
  else none

/-- The length of a text in bytes of UTF-8. -/
def byteLength : List Char → Nat
  | [] => 0
  | c :: cs => c.utf8Size + byteLength cs

/-- Reads four hexadecimal digits.  A text of fewer than four bytes has ended too early,
whatever it holds. -/
def readHex : List Char → Except Lapse (Nat × List Char)
  | a :: b :: c :: d :: rest =>
    match hexValue? a, hexValue? b, hexValue? c, hexValue? d with
    | some a, some b, some c, some d => .ok (((a * 16 + b) * 16 + c) * 16 + d, rest)
    | _, _, _, _ => .error .malformed
  | short => .error (if byteLength short < 4 then .ended else .malformed)

/-- Whether a number is the first half of a surrogate pair. -/
def isHighSurrogate (n : Nat) : Bool := 0xd800 ≤ n && n < 0xdc00

/-- Whether a number is the second half of a surrogate pair. -/
def isLowSurrogate (n : Nat) : Bool := 0xdc00 ≤ n && n < 0xe000

/-- The character of a surrogate pair. -/
def ofSurrogates (high low : Nat) : Char :=
  Char.ofNat (0x10000 + (high - 0xd800) * 0x400 + (low - 0xdc00))

/-- Reads the escape of the second half of a surrogate pair. -/
def readLow (high : Nat) : List Char → Except Lapse (Char × List Char)
  | [] => .error .ended
  | [c] => .error (if c = '\\' then .ended else .malformed)
  | c :: d :: rest =>
    if c = '\\' ∧ d = 'u' then
      match readHex rest with
      | .error l => .error l
      | .ok (low, rest) =>
        if isLowSurrogate low then .ok (ofSurrogates high low, rest) else .error .malformed
    else .error .malformed

/-- The character that a letter after a backslash stands for. -/
def letterEscape? (c : Char) : Option Char :=
  if c = '"' ∨ c = '\\' ∨ c = '/' then some c
  else if c = 'b' then some '\x08'
  else if c = 'f' then some '\x0c'
  else if c = 'n' then some '\n'
  else if c = 'r' then some '\r'
  else if c = 't' then some '\t'
  else none

/-- Reads what follows a backslash. -/
def readEscape : List Char → Except Lapse (Char × List Char)
  | [] => .error .ended
  | c :: rest =>
    if c = 'u' then
      match readHex rest with
      | .error l => .error l
      | .ok (n, rest) =>
        if isLowSurrogate n then .error .malformed
        else if isHighSurrogate n then readLow n rest
        else .ok (Char.ofNat n, rest)
    else
      match letterEscape? c with
      | some d => .ok (d, rest)
      | none => .error .malformed

/-- Passes over what follows a backslash. -/
def skipEscape : List Char → Except Lapse (List Char)
  | [] => .error .ended
  | c :: rest =>
    if c = 'u' then
      match readHex rest with
      | .error l => .error l
      | .ok (_, rest) => .ok rest
    else if (letterEscape? c).isSome then .ok rest
    else .error .malformed

/-! ### Lengths -/

theorem length_lt_of_readHex {cs rest : List Char} {n : Nat}
    (h : readHex cs = .ok (n, rest)) :
  rest.length < cs.length
  := by
  unfold readHex at h
  split at h
  · split at h
    · cases h
      simp only [List.length_cons]
      omega
    · cases h
  · cases h

theorem length_lt_of_readLow {high : Nat} {cs rest : List Char} {c : Char}
    (h : readLow high cs = .ok (c, rest)) :
  rest.length < cs.length
  := by
  unfold readLow at h
  split at h
  · cases h
  · cases h
  · split at h
    · split at h
      · cases h
      · next hread =>
        have := length_lt_of_readHex hread
        split at h
        · simp only [Except.ok.injEq, Prod.mk.injEq] at h
          simp only [List.length_cons, ← h.2]
          omega
        · cases h
    · cases h

theorem length_lt_of_readEscape {cs rest : List Char} {c : Char}
    (h : readEscape cs = .ok (c, rest)) :
  rest.length < cs.length
  := by
  unfold readEscape at h
  split at h
  · cases h
  · split at h
    · split at h
      · cases h
      · next hread =>
        have := length_lt_of_readHex hread
        split at h
        · cases h
        · split at h
          · have := length_lt_of_readLow h
            simp only [List.length_cons]
            omega
          · simp only [Except.ok.injEq, Prod.mk.injEq] at h
            simp only [List.length_cons, ← h.2]
            omega
    · split at h
      · cases h
        simp
      · cases h

theorem length_lt_of_skipEscape {cs rest : List Char} (h : skipEscape cs = .ok rest) :
  rest.length < cs.length
  := by
  unfold skipEscape at h
  split at h
  · cases h
  · split at h
    · split at h
      · cases h
      · next hread =>
        have := length_lt_of_readHex hread
        cases h
        simp only [List.length_cons]
        omega
    · split at h
      · cases h
        simp
      · cases h

/-! ### Strings -/

/-- Whether a character may not stand in a string as it is. -/
def isControl (c : Char) : Bool := c.toNat < 0x20

/-- Reads the rest of a string. -/
def readString (cs : List Char) : Except Lapse (List Char × List Char) :=
  match cs with
  | [] => .error .ended
  | c :: rest =>
    if c = '"' then .ok ([], rest)
    else if c = '\\' then
      match _ : readEscape rest with
      | .error l => .error l
      | .ok (d, rest) => (readString rest).map fun (s, end_) => (d :: s, end_)
    else if isControl c then .error .malformed
    else (readString rest).map fun (s, end_) => (c :: s, end_)
termination_by cs.length
decreasing_by
  · have := length_lt_of_readEscape ‹_›
    simp only [List.length_cons]
    omega
  · simp

/-- Passes over the rest of a string. -/
def skipString (cs : List Char) : Except Lapse (List Char) :=
  match cs with
  | [] => .error .ended
  | c :: rest =>
    if c = '"' then .ok rest
    else if c = '\\' then
      match _ : skipEscape rest with
      | .error l => .error l
      | .ok rest => skipString rest
    else if isControl c then .error .malformed
    else skipString rest
termination_by cs.length
decreasing_by
  · have := length_lt_of_skipEscape ‹_›
    simp only [List.length_cons]
    omega
  · simp

theorem length_lt_of_skipString {cs rest : List Char} (h : skipString cs = .ok rest) :
  rest.length < cs.length
  := by
  fun_induction skipString cs with
  | case1 => cases h
  | case2 => cases h; simp
  | case3 => cases h
  | case4 tail rest' hskip _ ih =>
    have := length_lt_of_skipEscape hskip
    have := ih h
    simp only [List.length_cons]
    omega
  | case5 => cases h
  | case6 c tail _ _ _ ih =>
    have := ih h
    simp only [List.length_cons]
    omega

end LockDiscipline.Json
