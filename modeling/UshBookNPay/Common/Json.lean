import UshBookNPay.Common.Values

/-!
# JSON values

What a JSONB column holds and what `json.loads` returns. Numbers are kept as their text.
-/

inductive Json where
  | null
  | bool (b : Bool)
  | num (lexeme : String)
  | str (s : String)
  | arr (items : List Json)
  | obj (fields : List (String × Json))
  deriving Inhabited

namespace Json

mutual

def decEq : (a b : Json) → Decidable (a = b)
  | .null, .null => .isTrue rfl
  | .bool a, .bool b => decidable_of_iff (a = b) (by simp)
  | .num a, .num b => decidable_of_iff (a = b) (by simp)
  | .str a, .str b => decidable_of_iff (a = b) (by simp)
  | .arr a, .arr b => have := decEqItems a b; decidable_of_iff (a = b) (by simp)
  | .obj a, .obj b => have := decEqFields a b; decidable_of_iff (a = b) (by simp)
  | .null, .bool _ | .null, .num _ | .null, .str _ | .null, .arr _ | .null, .obj _
  | .bool _, .null | .bool _, .num _ | .bool _, .str _ | .bool _, .arr _ | .bool _, .obj _
  | .num _, .null | .num _, .bool _ | .num _, .str _ | .num _, .arr _ | .num _, .obj _
  | .str _, .null | .str _, .bool _ | .str _, .num _ | .str _, .arr _ | .str _, .obj _
  | .arr _, .null | .arr _, .bool _ | .arr _, .num _ | .arr _, .str _ | .arr _, .obj _
  | .obj _, .null | .obj _, .bool _ | .obj _, .num _ | .obj _, .str _ | .obj _, .arr _ =>
    .isFalse (by simp)

def decEqItems : (a b : List Json) → Decidable (a = b)
  | [], [] => .isTrue rfl
  | [], _ :: _ | _ :: _, [] => .isFalse (by simp)
  | a :: as, b :: bs =>
    have := decEq a b
    have := decEqItems as bs
    decidable_of_iff (a = b ∧ as = bs) (by simp)

def decEqFields : (a b : List (String × Json)) → Decidable (a = b)
  | [], [] => .isTrue rfl
  | [], _ :: _ | _ :: _, [] => .isFalse (by simp)
  | (k, a) :: as, (l, b) :: bs =>
    have := decEq a b
    have := decEqFields as bs
    decidable_of_iff ((k = l ∧ a = b) ∧ as = bs) (by simp)

end

instance : DecidableEq Json := decEq

/-- `d[key] = value` on the fields of a dict: a key that is there keeps its place. -/
def setField (fields : List (String × Json)) (key : String) (value : Json) :
    List (String × Json) :=
  if fields.any (·.1 = key) then fields.map fun kv => if kv.1 = key then (key, value) else kv
  else fields ++ [(key, value)]

/-- `d.get(key)` -/
def field? (j : Json) (key : String) : Option Json :=
  match j with
  | .obj fields => fields.lookup key
  | _ => none

/-- `{**(data or {}), key: value}` -/
def withField (data : Option Json) (key : String) (value : Json) : Json :=
  match data with
  | some (.obj fields) => .obj (setField fields key value)
  | _ => .obj [(key, value)]

/-- `{**(data or {}), **fields}` -/
def withFields (data : Option Json) (fields : List (String × Json)) : Json :=
  let base := match data with
    | some (.obj fields) => fields
    | _ => []
  .obj (fields.foldl (fun acc kv => setField acc kv.1 kv.2) base)

/-- A text column as a JSON value. -/
def ofText (s : Option String) : Json := (s.map Json.str).getD .null

/-- `bool(j)` -/
def truthy : Json → Bool
  | .null => false
  | .bool b => b
  | .num lexeme => match parseDecimal lexeme with
    | some x => x.unscaled ≠ 0
    | none => true
  | .str s => s ≠ ""
  | .arr items => items ≠ []
  | .obj fields => fields ≠ []

/-- `repr` of a text. Of the characters that are not printable only those of ASCII are escaped. -/
def reprText (s : String) : String :=
  let apostrophe := Char.ofNat 39
  let quote := if apostrophe ∈ s.toList ∧ '"' ∉ s.toList then '"' else apostrophe
  let hex := fun n : ℕ => (Nat.toDigits 16 n).getLastD '0'
  let escape := fun c : Char =>
    if c = '\\' ∨ c = quote then ['\\', c]
    else if c = '\n' then ['\\', 'n']
    else if c = '\r' then ['\\', 'r']
    else if c = '\t' then ['\\', 't']
    else if c.toNat < 32 ∨ c.toNat = 127 then ['\\', 'x', hex (c.toNat / 16), hex (c.toNat % 16)]
    else [c]
  String.ofList (quote :: s.toList.flatMap escape ++ [quote])

mutual

/-- `repr(j)` -/
def repr : Json → String
  | .null => "None"
  | .bool b => if b then "True" else "False"
  | .num lexeme => lexeme
  | .str s => reprText s
  | .arr items => "[" ++ Text.join ", " (reprItems items) ++ "]"
  | .obj fields => "\x7b" ++ Text.join ", " (reprFields fields) ++ "\x7d"

def reprItems : List Json → List String
  | [] => []
  | j :: items => repr j :: reprItems items

def reprFields : List (String × Json) → List String
  | [] => []
  | (k, j) :: fields => (reprText k ++ ": " ++ repr j) :: reprFields fields

end

/-- `str(j)` -/
def text : Json → String
  | .str s => s
  | j => j.repr

/-! ## `json.loads` -/

/-- The white space of JSON. -/
def isBlank (c : Char) : Bool := c = ' ' ∨ c = '\t' ∨ c = '\n' ∨ c = '\r'

def skipBlank (cs : List Char) : List Char := cs.dropWhile isBlank

def hexDigit? (c : Char) : Option Nat :=
  if c.isDigit then some (c.toNat - '0'.toNat)
  else if 'a' ≤ c ∧ c ≤ 'f' then some (c.toNat - 'a'.toNat + 10)
  else if 'A' ≤ c ∧ c ≤ 'F' then some (c.toNat - 'A'.toNat + 10)
  else none

/-- The four hexadecimal digits of a `\u` escape. -/
def hex4? : List Char → Option (Nat × List Char)
  | a :: b :: c :: d :: rest => do
    let x ← hexDigit? a
    let y ← hexDigit? b
    let z ← hexDigit? c
    let w ← hexDigit? d
    pure (((x * 16 + y) * 16 + z) * 16 + w, rest)
  | _ => none

/-- The body of a string, after its opening quote. A surrogate pair is one character, a lone
surrogate the replacement character. -/
def parseString : Nat → List Char → Option (List Char × List Char)
  | 0, _ => none
  | n + 1, cs =>
    match cs with
    | [] => none
    | '"' :: rest => some ([], rest)
    | '\\' :: 'u' :: rest => do
      let (u, rest) ← hex4? rest
      match rest with
      | '\\' :: 'u' :: rest' =>
        let (v, rest'') ← hex4? rest'
        if 0xD800 ≤ u ∧ u < 0xDC00 ∧ 0xDC00 ≤ v ∧ v < 0xE000 then
          let (s, out) ← parseString n rest''
          pure (Char.ofNat (0x10000 + (u - 0xD800) * 0x400 + (v - 0xDC00)) :: s, out)
        else
          let (s, out) ← parseString n rest
          pure ((if 0xD800 ≤ u ∧ u < 0xE000 then '\uFFFD' else Char.ofNat u) :: s, out)
      | _ =>
        let (s, out) ← parseString n rest
        pure ((if 0xD800 ≤ u ∧ u < 0xE000 then '\uFFFD' else Char.ofNat u) :: s, out)
    | '\\' :: c :: rest => do
      let e ← [('"', '"'), ('\\', '\\'), ('/', '/'), ('b', '\x08'), ('f', '\x0c'), ('n', '\n'),
        ('r', '\r'), ('t', '\t')].lookup c
      let (s, out) ← parseString n rest
      pure (e :: s, out)
    | c :: rest =>
      if c.toNat < 32 then none
      else do
        let (s, out) ← parseString n rest
        pure (c :: s, out)

def spanDigits (cs : List Char) : List Char × List Char := cs.span Char.isDigit

/-- `-?(0|[1-9]\d*)(\.\d+)?([eE][-+]?\d+)?` -/
def parseNumber (cs : List Char) : Option (List Char × List Char) :=
  let (sign, cs) := match cs with
    | '-' :: rest => (['-'], rest)
    | _ => ([], cs)
  let (int, cs) := match cs with
    | '0' :: rest => (['0'], rest)
    | _ => spanDigits cs
  if int = [] then none
  else
    let (frac, cs) := match cs with
      | '.' :: rest =>
        let (ds, rest') := spanDigits rest
        if ds = [] then ([], cs) else ('.' :: ds, rest')
      | _ => ([], cs)
    let (exp, cs) := match cs with
      | e :: rest =>
        if e = 'e' ∨ e = 'E' then
          let (sgn, rest) := match rest with
            | '-' :: r => (['-'], r)
            | '+' :: r => (['+'], r)
            | _ => ([], rest)
          let (ds, rest') := spanDigits rest
          if ds = [] then ([], cs) else (e :: sgn ++ ds, rest')
        else ([], cs)
      | [] => ([], cs)
    some (sign ++ int ++ frac ++ exp, cs)

/-- The constants of `json.loads`, the three it accepts beyond JSON included. -/
def constants : List (String × Json) :=
  [("null", .null), ("true", .bool true), ("false", .bool false), ("NaN", .num "NaN"),
    ("Infinity", .num "Infinity"), ("-Infinity", .num "-Infinity")]

mutual

/-- One value, after its leading white space. The first argument bounds the depth of the calls; the
length of the text is enough. -/
def parseValue : Nat → List Char → Option (Json × List Char)
  | 0, _ => none
  | n + 1, cs =>
    match cs with
    | '"' :: rest => do
      let (s, out) ← parseString (n + 1) rest
      pure (.str (String.ofList s), out)
    | '[' :: rest =>
      match skipBlank rest with
      | ']' :: out => some (.arr [], out)
      | rest => do
        let (items, out) ← parseItems n rest
        pure (.arr items, out)
    | '{' :: rest =>
      match skipBlank rest with
      | '}' :: out => some (.obj [], out)
      | rest => do
        let (fields, out) ← parseFields n [] rest
        pure (.obj fields, out)
    | _ =>
      match constants.find? fun kv => kv.1.toList.isPrefixOf cs with
      | some (k, v) => some (v, cs.drop k.length)
      | none => do
        let (s, out) ← parseNumber cs
        pure (.num (String.ofList s), out)

def parseItems : Nat → List Char → Option (List Json × List Char)
  | 0, _ => none
  | n + 1, cs => do
    let (v, rest) ← parseValue n cs
    match skipBlank rest with
    | ']' :: out => pure ([v], out)
    | ',' :: rest =>
      let (vs, out) ← parseItems n (skipBlank rest)
      pure (v :: vs, out)
    | _ => none

/-- The fields of an object: of a repeated key the last value counts. -/
def parseFields : Nat → List (String × Json) → List Char → Option (List (String × Json) × List Char)
  | 0, _, _ => none
  | n + 1, acc, cs =>
    match cs with
    | '"' :: rest => do
      let (k, rest) ← parseString (n + 1) rest
      match skipBlank rest with
      | ':' :: rest =>
        let (v, rest) ← parseValue n (skipBlank rest)
        let acc := setField acc (String.ofList k) v
        match skipBlank rest with
        | '}' :: out => pure (acc, out)
        | ',' :: rest => parseFields n acc (skipBlank rest)
        | _ => none
      | _ => none
    | _ => none

end

/-- `json.loads`; `none` is a `ValueError`. -/
def loads (s : String) : Option Json := do
  let cs := skipBlank s.toList
  let (v, rest) ← parseValue (2 * cs.length + 2) cs
  if skipBlank rest = [] then pure v else none

end Json
