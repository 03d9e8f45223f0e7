/-!
# Reading JSON text

A reader takes something off the front of a text. What a text is refused for is
decided at the first place where it goes wrong: there it is no JSON, or it ends, or
it is JSON but not what is expected.
-/

namespace ServiceLifecycle.Json

/-- Why a text is not read. -/
inductive ReadError where
  /-- It is not JSON. -/
  | malformed
  /-- It ends too early. -/
  | truncated
  /-- It is JSON so far, but not what is expected. -/
  | mismatched
  deriving DecidableEq, Repr

/-- Takes something off the front of a text. -/
abbrev Reader := StateT (List Char) (Except ReadError)

namespace Reader

/-! ## Characters -/

/-- The characters that may stand between the parts of a JSON text. -/
def isBlank (c : Char) : Bool := c = ' ' || c = '\n' || c = '\t' || c = '\r'

/-- The next character, which is left there. -/
def peek? : Reader (Option Char) := fun cs => .ok (cs.head?, cs)

/-- The next character after any blanks. The blanks are taken, the character is left there. -/
def next? : Reader (Option Char) := fun cs =>
  let rest := cs.dropWhile isBlank
  .ok (rest.head?, rest)

/-- Takes one character. -/
def pass : Reader Unit := fun cs => .ok ((), cs.tail)

/-- Takes a word letter by letter. -/
def word : List Char → Reader Unit
  | [] => pure ()
  | w :: rest => do
      match ← peek? with
      | none => throw .truncated
      | some c => if c = w then pass; word rest else throw .malformed

/-- Takes a mark, blanks before it included. -/
def mark (m : Char) : Reader Unit := do
  match ← next? with
  | none => throw .truncated
  | some c => if c = m then pass else throw .malformed

/-! ## Numbers -/

/-- A number as it is written. -/
structure Numeral where
  isNegative : Bool
  /-- All its digits read as one number. -/
  digits : Nat
  /-- The power of ten by which the digits are to be multiplied. -/
  exponent : Int
  /-- It is written with neither point nor exponent. -/
  isWhole : Bool
  deriving DecidableEq, Repr

/-- The number that some digits stand for. -/
def decimal (digits : List Char) : Nat :=
  digits.foldl (fun n c => 10 * n + (c.toNat - '0'.toNat)) 0

/-- Takes digits, at least one. -/
def someDigits : Reader (List Char) := fun cs =>
  match cs.takeWhile Char.isDigit, cs.dropWhile Char.isDigit with
  | [], [] => .error .truncated
  | [], _ => .error .malformed
  | digits, rest => .ok (digits, rest)

/-- Takes the digits before the point. No zero stands before other digits. -/
def wholePart : Reader (List Char) := do
  let digits ← someDigits
  if digits.head? = some '0' ∧ digits.tail ≠ [] then throw .malformed
  return digits

/-- Takes a point with the digits after it, if there is one. -/
def fraction? : Reader (Option (List Char)) := do
  if (← peek?) = some '.' then
    pass
    return some (← someDigits)
  else return none

/-- Takes an exponent, if there is one. -/
def exponent? : Reader (Option Int) := do
  let e ← peek?
  if e = some 'e' ∨ e = some 'E' then
    pass
    let sign ← peek?
    if sign = some '+' ∨ sign = some '-' then pass
    let size := Int.ofNat (decimal (← someDigits))
    return some (if sign = some '-' then -size else size)
  else return none

/-- The least number that is too large for double precision: half a unit above the largest. -/
def doubleLimit : Nat := Nat.pow 2 1024 - Nat.pow 2 970

/-- Whether a number is too large for double precision. The number of digits decides
unless it is close. -/
def Numeral.isTooLarge (n : Numeral) : Bool :=
  if n.digits = 0 then false
  else
    let places := Int.ofNat (Nat.toDigits 10 n.digits).length + n.exponent
    if places < 300 then false
    else if 310 < places then true
    else if 0 ≤ n.exponent then doubleLimit ≤ n.digits * Nat.pow 10 n.exponent.toNat
    else doubleLimit * Nat.pow 10 (-n.exponent).toNat ≤ n.digits

/-- Takes a number. It has to be one that fits double precision. -/
def numeral : Reader Numeral := do
  let isNegative := (← peek?) = some '-'
  if isNegative then pass
  let whole ← wholePart
  let fraction ← fraction?
  let exponent ← exponent?
  let n : Numeral :=
    { isNegative
      digits := decimal (whole ++ fraction.getD [])
      exponent := exponent.getD 0 - Int.ofNat (fraction.getD []).length
      isWhole := fraction.isNone && exponent.isNone }
  if n.isTooLarge then throw .malformed
  return n

/-! ## Strings -/

/-- The value of a hexadecimal digit of either case. -/
def hexDigit? (c : Char) : Option Nat :=
  if c.isDigit then some (c.toNat - '0'.toNat)
  else if 'a' ≤ c ∧ c ≤ 'f' then some (c.toNat - 'a'.toNat + 10)
  else if 'A' ≤ c ∧ c ≤ 'F' then some (c.toNat - 'A'.toNat + 10)
  else none

/-- The number that four hexadecimal digits stand for. Where fewer than four bytes are
left, the text ends too early. -/
def hexCode : List Char → Except ReadError Nat
  | a :: b :: c :: d :: _ =>
      match [a, b, c, d].mapM hexDigit? with
      | some digits => .ok (digits.foldl (fun n d => 16 * n + d) 0)
      | none => .error .malformed
  | cs => .error (if (String.ofList cs).utf8ByteSize < 4 then .truncated else .malformed)

/-- What an escape of one letter stands for. -/
def letterEscape? (c : Char) : Option Char :=
  match c with
  | '"' | '\\' | '/' => some c
  | 'b' => some '\x08'
  | 'f' => some '\x0c'
  | 'n' => some '\n'
  | 'r' => some '\r'
  | 't' => some '\t'
  | _ => none

/-- Whether a code unit is the first of a pair. -/
def isLeading (n : Nat) : Bool := 0xD800 ≤ n && n ≤ 0xDBFF

/-- Whether a code unit is the second of a pair. -/
def isTrailing (n : Nat) : Bool := 0xDC00 ≤ n && n ≤ 0xDFFF

/-- The character behind a code unit and how many characters its escape takes after the
backslash. The first unit of a pair has to be followed by the escape of the second. -/
def unitEscape (cs : List Char) : Except ReadError (Char × Nat) := do
  let n ← hexCode cs
  if isTrailing n then throw .malformed
  else if !isLeading n then return (Char.ofNat n, 5)
  else
    match cs.drop 4 with
    | [] | ['\\'] => throw .truncated
    | '\\' :: 'u' :: rest =>
        let m ← hexCode rest
        if isTrailing m then
          return (Char.ofNat (0x10000 + (n - 0xD800) * 0x400 + (m - 0xDC00)), 11)
        else throw .malformed
    | _ => throw .malformed

/-- The character behind an escape and how many characters it takes after the backslash. -/
def escape : List Char → Except ReadError (Char × Nat)
  | [] => .error .truncated
  | 'u' :: rest => unitEscape rest
  | c :: _ =>
      match letterEscape? c with
      | some d => .ok (d, 1)
      | none => .error .malformed

/-- How an escape is passed over in a string that is not wanted: code units stand for
themselves, paired or not. -/
def ignoredEscape : List Char → Except ReadError (Char × Nat)
  | 'u' :: rest => (hexCode rest).map fun _ => ('u', 5)
  | cs => escape cs

/-- The rest of a string up to its closing quote, after what has been read of it. -/
def textRest (escape : List Char → Except ReadError (Char × Nat)) (read : List Char) :
    List Char → Except ReadError (String × List Char)
  | [] => .error .truncated
  | c :: rest =>
    if c = '"' then .ok (String.ofList read.reverse, rest)
    else if c = '\\' then
      match escape rest with
      | .error e => .error e
      | .ok (d, n) => textRest escape (d :: read) (rest.drop n)
    else if c.toNat < 0x20 then .error .malformed
    else textRest escape (c :: read) rest
termination_by cs => cs.length
decreasing_by all_goals (simp only [List.length_cons, List.length_drop]; omega)

/-- Takes a string whose opening quote comes next. -/
def quotedText : Reader String := fun cs => textRest escape [] cs.tail

/-! ## Values of no interest -/

/-- Takes a number of no interest, of any size. -/
def ignoredNumeral : Reader Unit := fun cs =>
  let read : Reader Unit := do
    if (← peek?) = some '-' then pass
    let _ ← wholePart
    let _ ← fraction?
    let _ ← exponent?
  match read cs with
  | .ok r => .ok r
  | .error _ => .error .malformed

/-- What stands around a value. -/
inductive Bracket where
  | list
  | object
  deriving DecidableEq, Repr

/-- The mark that closes a bracket. -/
def Bracket.closing : Bracket → Char
  | .list => ']'
  | .object => '}'

/-- Takes the key of a member with the colon after it. -/
def ignoredKey : Reader Unit := do
  match ← next? with
  | none => throw .truncated
  | some c =>
      if c ≠ '"' then throw .malformed
      let _ ← fun cs => textRest ignoredEscape [] cs.tail
      mark ':'

/-- Takes what may stand in front of a value inside a bracket. -/
def ignoredLead : Bracket → Reader Unit
  | .list => pure ()
  | .object => ignoredKey

/-- Takes one value with no bracket in it, or the opening mark of a bracket. -/
def ignoredStart : Reader (Option Bracket) := do
  match ← next? with
  | none => throw .truncated
  | some 'n' => word ['n', 'u', 'l', 'l']; return none
  | some 't' => word ['t', 'r', 'u', 'e']; return none
  | some 'f' => word ['f', 'a', 'l', 's', 'e']; return none
  | some '"' => let _ ← fun cs => textRest ignoredEscape [] cs.tail; return none
  | some '[' => pass; return some .list
  | some '{' => pass; return some .object
  | some c =>
      if c = '-' ∨ c.isDigit then ignoredNumeral; return none
      else throw .malformed

/-- Takes closing marks and a comma as long as there are any, and gives the brackets
that are still open. A comma stands only after a value. -/
def ignoredEnds : List Bracket → Bool → Reader (List Bracket)
  | [], _ => return []
  | b :: outer, afterValue => do
      match ← next? with
      | none => throw .truncated
      | some c =>
          if c = b.closing then pass; ignoredEnds outer true
          else if !afterValue then return b :: outer
          else if c = ',' then pass; return b :: outer
          else throw .malformed

/-- Takes values until no bracket is open, at most so many. -/
def ignoredValues : Nat → List Bracket → Reader Unit
  | 0, _ => throw .truncated
  | values + 1, brackets => do
      let opened ← ignoredStart
      let brackets ← ignoredEnds (opened.toList ++ brackets) opened.isNone
      match brackets with
      | [] => pure ()
      | b :: _ => ignoredLead b; ignoredValues values brackets

/-- Takes a value of no interest, however deep it is nested. -/
def ignored : Reader Unit := fun cs => ignoredValues (cs.length + 1) [] cs

/-! ## Values of a kind -/

/-- There is something else than what is expected. It is told apart from what is not JSON
by reading it, up to a bracket. -/
def mismatch {α : Type} : Reader α := do
  match ← next? with
  | none => throw .truncated
  | some 'n' => word ['n', 'u', 'l', 'l']
  | some 't' => word ['t', 'r', 'u', 'e']
  | some 'f' => word ['f', 'a', 'l', 's', 'e']
  | some '"' => let _ ← quotedText
  | some '[' | some '{' => pure ()
  | some c => if c = '-' ∨ c.isDigit then let _ ← numeral else throw .malformed
  throw .mismatched

/-- Takes a string. -/
def text : Reader String := do
  if (← next?) = some '"' then quotedText else mismatch

/-- Takes a truth value. -/
def flag : Reader Bool := do
  match ← next? with
  | some 't' => word ['t', 'r', 'u', 'e']; return true
  | some 'f' => word ['f', 'a', 'l', 's', 'e']; return false
  | _ => mismatch

/-- Takes a null. -/
def null : Reader Unit := do
  if (← next?) = some 'n' then word ['n', 'u', 'l', 'l'] else mismatch

/-- Takes a natural number below a bound. -/
def natural (bound : Nat) : Reader Nat := do
  match ← next? with
  | some c =>
      if c = '-' ∨ c.isDigit then
        let n ← numeral
        if n.isWhole ∧ !n.isNegative ∧ n.digits < bound then return n.digits
        else throw .mismatched
      else mismatch
  | none => mismatch

/-- Reads all of a text. -/
def readAll {α : Type} (read : Reader α) (text : String) : Except ReadError α := do
  let (a, rest) ← read text.toList
  let (c, _) ← next? rest
  match c with
  | none => return a
  | some _ => throw .malformed

end Reader

end ServiceLifecycle.Json
