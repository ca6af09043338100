import LockDiscipline.Settings.Reader

/-!
# The grammar of JSON

What is JSON, said without a reader.  Texts are lists of characters.

* `Blanks` may stand between the parts of a text.
* `Spelled cs s` says that `cs` may stand between quotation marks for the string `s`.  Every
  character may be escaped, in UTF-16 if need be.  `Quotable cs` says less: a code may be half a
  surrogate pair, so that `cs` need not denote anything (`Spelled.quotable`).
* `Numeric` is a number as it may be written.
* `Formed .value` is a value, with lists and objects of any depth in it.

A number ends where the text that follows `Delimits` it.  All other values show their ends
themselves.
-/

namespace LockDiscipline.Json

/-- A row of characters that may stand between the parts of a text. -/
def Blanks (w : List Char) : Prop := ∀ c ∈ w, c ∈ [' ', '\t', '\n', '\r']

instance (w : List Char) : Decidable (Blanks w) := List.decidableBAll _ w

theorem Blanks.nil :
  Blanks []
  := fun _ mem => nomatch mem

/-! ### Strings -/

/-- The small hexadecimal digits in order. -/
def smallDigits : List Char :=
  ['0', '1', '2', '3', '4', '5', '6', '7', '8', '9', 'a', 'b', 'c', 'd', 'e', 'f']

/-- The capital hexadecimal digits in order. -/
def capitalDigits : List Char :=
  ['0', '1', '2', '3', '4', '5', '6', '7', '8', '9', 'A', 'B', 'C', 'D', 'E', 'F']

/-- A character is a hexadecimal digit of the given value. -/
def HexDigit (c : Char) (n : Nat) : Prop :=
  smallDigits[n]? = some c ∨ capitalDigits[n]? = some c

/-- Four characters are the hexadecimal digits of a number. -/
inductive Code : List Char → Nat → Prop where
  | digits {a b c d : Char} {k l m n : Nat} (first : HexDigit a k) (second : HexDigit b l)
      (third : HexDigit c m) (fourth : HexDigit d n) :
    Code [a, b, c, d] (((k * 16 + l) * 16 + m) * 16 + n)

/-- The letters that may follow a backslash, each with the character that it stands for. -/
def shortEscapes : List (Char × Char) :=
  [('"', '"'), ('\\', '\\'), ('/', '/'), ('b', '\x08'), ('f', '\x0c'), ('n', '\n'), ('r', '\r'),
    ('t', '\t')]

/-- A character that may stand in a string as it is. -/
def Plain (c : Char) : Prop := 0x20 ≤ c.toNat ∧ c ≠ '"' ∧ c ≠ '\\'

instance (c : Char) : Decidable (Plain c) := instDecidableAnd

/-- The first unit of the character `x` in UTF-16, if it has two. -/
def highUnit (x : Char) : Nat := 0xd800 + (x.toNat - 0x10000) / 0x400

/-- The second unit of the character `x` in UTF-16, if it has two. -/
def lowUnit (x : Char) : Nat := 0xdc00 + (x.toNat - 0x10000) % 0x400

/-- What may stand between quotation marks for a string. -/
inductive Spelled : List Char → List Char → Prop where
  | nil : Spelled [] []
  | plain {c : Char} {cs s : List Char} (plain : Plain c) (rest : Spelled cs s) :
    Spelled (c :: cs) (c :: s)
  | short {c x : Char} {cs s : List Char} (short : (c, x) ∈ shortEscapes)
      (rest : Spelled cs s) :
    Spelled ('\\' :: c :: cs) (x :: s)
  | code {x : Char} {ds cs s : List Char} (code : Code ds x.toNat) (rest : Spelled cs s) :
    Spelled ('\\' :: 'u' :: ds ++ cs) (x :: s)
  | pair {x : Char} {ds es cs s : List Char} (beyond : 0x10000 ≤ x.toNat)
      (high : Code ds (highUnit x)) (low : Code es (lowUnit x)) (rest : Spelled cs s) :
    Spelled ('\\' :: 'u' :: ds ++ '\\' :: 'u' :: es ++ cs) (x :: s)

/-- What may stand between quotation marks. -/
inductive Quotable : List Char → Prop where
  | nil : Quotable []
  | plain {c : Char} {cs : List Char} (plain : Plain c) (rest : Quotable cs) : Quotable (c :: cs)
  | short {c x : Char} {cs : List Char} (short : (c, x) ∈ shortEscapes) (rest : Quotable cs) :
    Quotable ('\\' :: c :: cs)
  | code {n : Nat} {ds cs : List Char} (code : Code ds n) (rest : Quotable cs) :
    Quotable ('\\' :: 'u' :: ds ++ cs)

/-- What stands for a string may stand between quotation marks. -/
theorem Spelled.quotable {cs s : List Char} (h : Spelled cs s) :
  Quotable cs
  := by
  induction h with
  | nil => exact .nil
  | plain plain _ ih => exact .plain plain ih
  | short short _ ih => exact .short short ih
  | code code _ ih => exact .code code ih
  | pair beyond high low _ ih =>
    rw [List.append_assoc]
    exact .code high (.code low ih)

/-- Characters that may stand in a string as they are stand for themselves. -/
theorem Spelled.of_plain {cs : List Char} (plain : cs.all (Plain ·) = true) :
  Spelled cs cs
  := by
  induction cs with
  | nil => exact .nil
  | cons c cs ih =>
    rw [List.all_cons, Bool.and_eq_true, decide_eq_true_eq] at plain
    exact .plain plain.1 (ih plain.2)

/-- What stands for one string and what stands for another stand for both together. -/
theorem Spelled.append {cs s cs' s' : List Char} (h : Spelled cs s) (h' : Spelled cs' s') :
  Spelled (cs ++ cs') (s ++ s')
  := by
  induction h with
  | nil => exact h'
  | plain plain _ ih => exact .plain plain ih
  | short short _ ih => exact .short short ih
  | code code _ ih =>
    rw [List.append_assoc]
    exact .code code ih
  | pair beyond high low _ ih =>
    rw [List.append_assoc]
    exact .pair beyond high low ih

/-! ### Numbers -/

/-- A row of digits that is not empty. -/
def Digits (ds : List Char) : Prop := ds ≠ [] ∧ ∀ c ∈ ds, c.isDigit = true

-- The row is searched, since a search through all characters would not end in time.
instance (ds : List Char) : Decidable (Digits ds) :=
  @instDecidableAnd _ _ _ (List.decidableBAll _ ds)

/-- The digits before the point.  A zero stands alone. -/
inductive Whole : List Char → Prop where
  | zero : Whole ['0']
  | digits {c : Char} {ds : List Char} (digits : Digits (c :: ds)) (nonzero : c ≠ '0') :
    Whole (c :: ds)

/-- A point with digits after it, or nothing. -/
inductive Fraction : List Char → Prop where
  | absent : Fraction []
  | present {ds : List Char} (digits : Digits ds) : Fraction ('.' :: ds)

/-- An exponent, or nothing. -/
inductive Exponent : List Char → Prop where
  | absent : Exponent []
  | present {e : Char} {sign ds : List Char} (mark : e = 'e' ∨ e = 'E')
      (signed : sign ∈ [[], ['-'], ['+']]) (digits : Digits ds) :
    Exponent (e :: sign ++ ds)

/-- A number as it may be written. -/
inductive Numeric : List Char → Prop where
  | number {sign whole fraction exponent : List Char} (signed : sign ∈ [[], ['-']])
      (before : Whole whole) (after : Fraction fraction) (power : Exponent exponent) :
    Numeric (sign ++ whole ++ fraction ++ exponent)

/-- A text that a number does not go on into. -/
def Delimits (rest : List Char) : Prop :=
  ∀ c ∈ rest.head?, c.isDigit = false ∧ c ≠ '.' ∧ c ≠ 'e' ∧ c ≠ 'E'

/-! ### Values -/

namespace Frame

/-- The bracket that begins a list or an object. -/
def opening : Frame → Char
  | list => '['
  | object => '\x7b'

/-- The bracket that ends a list or an object. -/
def closing : Frame → Char
  | list => ']'
  | object => '\x7d'

end Frame

/-- A string with its quotation marks. -/
def quoted (cs : List Char) : List Char := '"' :: cs ++ ['"']

/-- What a text may be: a value, an element of a list or an object, or what stands between the
brackets of one that is not empty. -/
inductive Shape where
  | value
  | element (f : Frame)
  | row (f : Frame)
  deriving DecidableEq, Repr

/-- A text of JSON. -/
inductive Formed : Shape → List Char → Prop where
  | null : Formed .value ['n', 'u', 'l', 'l']
  | yes : Formed .value ['t', 'r', 'u', 'e']
  | no : Formed .value ['f', 'a', 'l', 's', 'e']
  | number {cs : List Char} (number : Numeric cs) : Formed .value cs
  | string {cs : List Char} (string : Quotable cs) : Formed .value (quoted cs)
  | empty {f : Frame} {w : List Char} (blanks : Blanks w) :
    Formed .value (f.opening :: w ++ [f.closing])
  | full {f : Frame} {cs : List Char} (row : Formed (.row f) cs) :
    Formed .value (f.opening :: cs ++ [f.closing])
  | item {cs : List Char} (value : Formed .value cs) : Formed (.element .list) cs
  | member {n w w' cs : List Char} (name : Quotable n) (past : Blanks w) (between : Blanks w')
      (value : Formed .value cs) :
    Formed (.element .object) (quoted n ++ w ++ ':' :: w' ++ cs)
  | last {f : Frame} {w e w' : List Char} (before : Blanks w) (element : Formed (.element f) e)
      (after : Blanks w') :
    Formed (.row f) (w ++ e ++ w')
  | more {f : Frame} {w e w' cs : List Char} (before : Blanks w)
      (element : Formed (.element f) e) (after : Blanks w') (rest : Formed (.row f) cs) :
    Formed (.row f) (w ++ e ++ w' ++ ',' :: cs)

end LockDiscipline.Json
