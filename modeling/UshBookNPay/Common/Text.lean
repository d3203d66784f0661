import Mathlib.Data.List.Infix

/-!
# Python strings

The string methods the code normalises its labels with, on Unicode code points. Letters outside ASCII
are kept as they are by `lower`, up to the Kelvin sign, the only one whose lower case is a single
ASCII letter, and by `upper`.
-/

namespace Text

def lowerChar (c : Char) : Char := if c = '\u212A' then 'k' else c.toLower

/-- `str.lower` -/
def lower (s : String) : String := String.ofList (s.toList.map lowerChar)

/-- `str.upper` -/
def upper (s : String) : String := String.ofList (s.toList.map Char.toUpper)

/-- `str.isspace` of one character, and `\s` of a regular expression -/
def isSpace (c : Char) : Bool :=
  let n := c.toNat
  (9 ≤ n ∧ n ≤ 13) ∨ (28 ≤ n ∧ n ≤ 32) ∨ n = 133 ∨ n = 160 ∨ n = 0x1680 ∨
    (0x2000 ≤ n ∧ n ≤ 0x200a) ∨ n = 0x2028 ∨ n = 0x2029 ∨ n = 0x202f ∨ n = 0x205f ∨ n = 0x3000

/-- `str.strip` -/
def strip (s : String) : String :=
  String.ofList ((s.toList.dropWhile isSpace).reverse.dropWhile isSpace).reverse

/-- `str.replace` of one character by another -/
def replaceChar (a b : Char) (s : String) : String :=
  String.ofList (s.toList.map fun c => if c = a then b else c)

/-- `sub in s` -/
def isIn (sub s : String) : Bool := decide (sub.toList <:+: s.toList)

/-- `s.startswith(pre)` -/
def startsWith (pre s : String) : Bool := pre.toList.isPrefixOf s.toList

/-- The characters left of a text when `sub` is taken out of it, from the left; the first argument
bounds the number of steps. -/
def removeAllAux (sub : List Char) : ℕ → List Char → List Char
  | 0, cs => cs
  | _ + 1, [] => []
  | n + 1, c :: cs =>
    if sub.isPrefixOf (c :: cs) then removeAllAux sub n ((c :: cs).drop sub.length)
    else c :: removeAllAux sub n cs

/-- `s.replace(sub, "")` -/
def removeAll (sub s : List Char) : List Char := removeAllAux sub s.length s

/-- `sep.join(parts)` -/
def join (sep : String) (parts : List String) : String :=
  String.ofList (List.intercalate sep.toList (parts.map String.toList))

/-- `a or b` on optional strings: the empty string is false. -/
def or (a b : Option String) : Option String :=
  match a with
  | some s => if s = "" then b else a
  | none => b

/-- `s or None` -/
def orNone (s : String) : Option String := if s = "" then none else some s

/-- `bool(a)` -/
def truthy (a : Option String) : Bool := a ≠ none ∧ a ≠ some ""

/-- `a or ""` -/
def orEmpty (a : Option String) : String := (or a (some "")).getD ""

end Text
