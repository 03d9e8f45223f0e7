import ServiceLifecycle.Json.Reader

/-!
# Choices and records in JSON

A choice is written as the name of a variant, or as an object whose only key is that
name. A record is written as an object with a member for each field, in any order,
or as the list of its fields in the order of their declaration.
-/

namespace ServiceLifecycle.Json

open Reader

/-! ## Choices -/

/-- What belongs to a variant. -/
inductive Content (α : Type) where
  /-- Nothing. -/
  | nothing (value : α)
  /-- A text. -/
  | text (value : String → α)

/-- One of several things. -/
abbrev Variants (α : Type) := List (String × Content α)

namespace Variants

variable {α : Type}

/-- The content of a variant. -/
def contentOf (variants : Variants α) (name : String) : Reader (Content α) :=
  match variants.find? fun v => v.1 = name with
  | some v => return v.2
  | none => throw .mismatched

/-- Takes a choice that is written as a name. Nothing may belong to it. -/
def readName (variants : Variants α) : Reader α := do
  match ← variants.contentOf (← text) with
  | .nothing value => return value
  | .text _ => throw .mismatched

/-- Takes what belongs to a variant. Where nothing does, there stands a null. -/
def readContent : Content α → Reader α
  | .nothing value => do null; return value
  | .text value => return value (← text)

/-- Takes a choice. -/
def read (variants : Variants α) : Reader α := do
  match ← next? with
  | none => throw .truncated
  | some '"' => variants.readName
  | some '{' =>
      pass
      let content ← variants.contentOf (← text)
      mark ':'
      let a ← readContent content
      mark '}'
      return a
  | some _ => throw .malformed

/-- The variants of a type whose values all have a name and nothing else. -/
def named (all : List α) (name : α → String) : Variants α :=
  all.map fun a => (name a, .nothing a)

end Variants

/-! ## Separators -/

/-- Whether there is another element in a list. A comma before it is taken. -/
def anotherElement (isFirst : Bool) : Reader Bool := do
  match ← next? with
  | none => throw .truncated
  | some c =>
      if c = ']' then return false
      else if isFirst then return true
      else if c ≠ ',' then throw .malformed
      else
        pass
        match ← next? with
        | none => throw .truncated
        | some d => if d = ']' then throw .malformed else return true

/-- Whether there is another member in an object. A comma before it is taken. Its key
comes next then. -/
def anotherMember (isFirst : Bool) : Reader Bool := do
  match ← next? with
  | none => throw .truncated
  | some c =>
      if c = '}' then return false
      else
        if !isFirst then
          if c ≠ ',' then throw .malformed
          pass
        match ← next? with
        | none => throw .truncated
        | some d => if d = '"' then return true else throw .malformed

/-! ## Records -/

/-- A field of a record. What has been read of the record so far is of type `ρ`. -/
structure Field (ρ : Type) where
  name : String
  /-- Whether the field has been read. -/
  isRead : ρ → Bool
  /-- Takes the value of the field. -/
  read : ρ → Reader ρ

/-- A field that is kept as an optional value. -/
def Field.of {ρ α : Type} (name : String) (get : ρ → Option α) (set : ρ → α → ρ)
    (read : Reader α) : Field ρ :=
  { name, isRead := fun r => (get r).isSome, read := fun r => return set r (← read) }

/-- How a record is written. -/
structure Shape (ρ α : Type) where
  fields : List (Field ρ)
  /-- Whether members that are no fields are passed over. -/
  allowsOthers : Bool := true
  /-- Nothing read so far. -/
  start : ρ
  /-- Makes the record, unless something is missing or out of range. -/
  finish : ρ → Option α

namespace Shape

variable {ρ α : Type}

/-- Takes fields in the order of their declaration, as far as there are any. -/
def readElements : List (Field ρ) → Bool → ρ → Reader ρ
  | [], _, r => return r
  | field :: rest, isFirst, r => do
      if ← anotherElement isFirst then readElements rest false (← field.read r)
      else return r

/-- Takes one member. No field may be given twice. -/
def readMember (shape : Shape ρ α) (r : ρ) : Reader ρ := do
  let key ← quotedText
  match shape.fields.find? fun field => field.name = key with
  | some field =>
      if field.isRead r then throw .mismatched
      mark ':'
      field.read r
  | none =>
      if !shape.allowsOthers then throw .mismatched
      mark ':'
      ignored
      return r

/-- Takes members up to the closing brace, at most so many. -/
def readMembers (shape : Shape ρ α) : Nat → Bool → ρ → Reader ρ
  | 0, _, _ => throw .truncated
  | members + 1, isFirst, r => do
      if ← anotherMember isFirst then
        readMembers shape members false (← shape.readMember r)
      else return r

/-- Makes the record of what has been read. -/
def complete (shape : Shape ρ α) (r : ρ) : Reader α :=
  match shape.finish r with
  | some a => return a
  | none => throw .mismatched

/-- Takes a record. -/
def read (shape : Shape ρ α) : Reader α := do
  match ← next? with
  | some '[' =>
      pass
      let a ← shape.complete (← readElements shape.fields true shape.start)
      mark ']'
      return a
  | some '{' =>
      pass
      let r ← fun cs => readMembers shape (cs.length + 1) true shape.start cs
      let a ← shape.complete r
      mark '}'
      return a
  | _ => mismatch

end Shape

/-! ## Texts by name -/

/-- Takes members with texts up to the closing brace, at most so many. -/
def readTexts : Nat → Bool → List (String × String) → Reader (List (String × String))
  | 0, _, _ => throw .truncated
  | members + 1, isFirst, read => do
      if ← anotherMember isFirst then
        let key ← quotedText
        mark ':'
        let value ← text
        readTexts members false (read ++ [(key, value)])
      else return read

/-- Takes an object all of whose members are texts, as a list of its members. -/
def texts : Reader (List (String × String)) := do
  if (← next?) = some '{' then
    pass
    let members ← fun cs => readTexts (cs.length + 1) true [] cs
    mark '}'
    return members
  else mismatch

end ServiceLifecycle.Json
