import TaskMonitor.Library.Cjson

/-! A codec that evaluates: the unformatted text of trees whose numbers are whole, and a
parser of such texts. Runs on concrete messages use it in the library's place. -/

namespace Cjson

open CText

def decimal : Nat → Nat → Text → Text
  | 0, _, digits => digits
  | fuel + 1, n, digits =>
      let digits := UInt8.ofNat (48 + n % 10) :: digits
      if n < 10 then digits else decimal fuel (n / 10) digits

def printNumber (d : ℚ) : Text :=
  if d < 0 then 45 :: decimal 20 (-d).num.toNat [] else decimal 20 d.num.toNat []

def printString (s : Text) : Text :=
  34 :: (s.flatMap fun c => if c = 34 ∨ c = 92 then [92, c] else [c]) ++ [34]

mutual

def printItem : Json → Text
  | .null => text "null"
  | .bool b => if b then text "true" else text "false"
  | .number d => printNumber d
  | .string s => printString s
  | .array items => 91 :: printItems items ++ [93]
  | .object members => 123 :: printMembers members ++ [125]
  | .raw s => s

def printItems : List Json → Text
  | [] => []
  | item :: items => printItem item ++ (if items.isEmpty then [] else 44 :: printItems items)

def printMembers : List (Text × Json) → Text
  | [] => []
  | (key, item) :: members =>
      printString key ++ 58 :: printItem item ++
        (if members.isEmpty then [] else 44 :: printMembers members)

end

def parseDigits (n : Nat) : Text → Nat × Text
  | [] => (n, [])
  | c :: rest =>
      if 48 ≤ c ∧ c ≤ 57 then parseDigits (10 * n + (c.toNat - 48)) rest else (n, c :: rest)

def parseString (done : Text) : Text → Option (Text × Text)
  | [] => none
  | 34 :: rest => some (done.reverse, rest)
  | 92 :: c :: rest => parseString (c :: done) rest
  | c :: rest => parseString (c :: done) rest

mutual

def parseItem : Nat → Text → Option (Json × Text)
  | 0, _ => none
  | _, [] => none
  | fuel + 1, c :: rest =>
      if c = 123 then
        if rest.head? = some 125 then some (.object [], rest.tail) else parseMembers fuel [] rest
      else if c = 91 then
        if rest.head? = some 93 then some (.array [], rest.tail) else parseItems fuel [] rest
      else if c = 34 then (parseString [] rest).map fun (s, rest) => (.string s, rest)
      else if c = 45 then
        let (n, rest) := parseDigits 0 rest
        some (.number (-(n : ℚ)), rest)
      else if 48 ≤ c ∧ c ≤ 57 then
        let (n, rest) := parseDigits 0 (c :: rest)
        some (.number n, rest)
      else if (c :: rest).take 4 = text "null" then some (.null, rest.drop 3)
      else if (c :: rest).take 4 = text "true" then some (.bool true, rest.drop 3)
      else if (c :: rest).take 5 = text "false" then some (.bool false, rest.drop 4)
      else none

def parseItems : Nat → List Json → Text → Option (Json × Text)
  | 0, _, _ => none
  | fuel + 1, done, t =>
      match parseItem fuel t with
      | some (item, 44 :: rest) => parseItems fuel (item :: done) rest
      | some (item, 93 :: rest) => some (.array (item :: done).reverse, rest)
      | _ => none

def parseMembers : Nat → List (Text × Json) → Text → Option (Json × Text)
  | 0, _, _ => none
  | fuel + 1, done, t =>
      match t with
      | 34 :: t =>
          match parseString [] t with
          | some (key, 58 :: t) =>
              match parseItem fuel t with
              | some (item, 44 :: rest) => parseMembers fuel ((key, item) :: done) rest
              | some (item, 125 :: rest) => some (.object ((key, item) :: done).reverse, rest)
              | _ => none
          | _ => none
      | _ => none

end

def textCodec : Codec where
  parse memory := (parseItem (2 * memory.length + 2) (content memory)).map Prod.fst
  print item := ⟨content (printItem item), nul_not_mem_content _⟩

end Cjson
