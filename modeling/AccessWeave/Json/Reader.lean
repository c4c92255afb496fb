import AccessWeave.Json.Document
import AccessWeave.Json.Escape

/-!
Reading a JSON document, strictly: no comments, no trailing commas, no leading zeros, no raw
control bytes inside strings, and only blanks after the document. Strings and numbers are
kept as they are written. Every step consumes a byte, so the length of the input bounds the
recursion, and nesting has no other bound.
-/

namespace AccessWeave.Json

open Decimal (Digit digitOfByte)

def isJsonBlank (byte : UInt8) : Bool :=
  byte = 0x20 || byte = 0x0A || byte = 0x0D || byte = 0x09

def skipBlanks : List UInt8 → List UInt8
  | [] => []
  | byte :: rest => if isJsonBlank byte then skipBlanks rest else byte :: rest

def readDigits : List UInt8 → List Digit × List UInt8
  | [] => ([], [])
  | byte :: rest =>
      match digitOfByte byte with
      | none => ([], byte :: rest)
      | some digit =>
          let (digits, suffix) := readDigits rest
          (digit :: digits, suffix)

/-- The digits before the point: a zero stands alone. -/
def readWhole (input : List UInt8) : Option (List Digit × List UInt8) :=
  match readDigits input with
  | ([], _) => none
  | ([digit], suffix) => some ([digit], suffix)
  | (digit :: digits, suffix) => if digit.val = 0 then none else some (digit :: digits, suffix)

def readFraction : List UInt8 → Option (List Digit × List UInt8)
  | 0x2E :: rest =>
      match readDigits rest with
      | ([], _) => none
      | (digits, suffix) => some (digits, suffix)
  | input => some ([], input)

def readExponentDigits (negative : Bool) (input : List UInt8) :
    Option (Option Exponent × List UInt8) :=
  match readDigits input with
  | ([], _) => none
  | (digits, suffix) => some (some { negative, digits }, suffix)

def readExponent : List UInt8 → Option (Option Exponent × List UInt8)
  | [] => some (none, [])
  | byte :: rest =>
      if byte = 0x65 || byte = 0x45 then
        match rest with
        | 0x2B :: digits => readExponentDigits false digits
        | 0x2D :: digits => readExponentDigits true digits
        | digits => readExponentDigits false digits
      else some (none, byte :: rest)

def readUnsigned (negative : Bool) (input : List UInt8) :
    Option (NumberLiteral × List UInt8) := do
  let (whole, afterWhole) ← readWhole input
  let (fraction, afterFraction) ← readFraction afterWhole
  let (exponent, suffix) ← readExponent afterFraction
  some ({ negative, whole, fraction, exponent }, suffix)

def readNumber : List UInt8 → Option (NumberLiteral × List UInt8)
  | 0x2D :: rest => readUnsigned true rest
  | input => readUnsigned false input

/-- The bytes up to the closing quotation mark, and what follows it. -/
def readRaw : List UInt8 → Option (List UInt8 × List UInt8)
  | [] => none
  | 0x22 :: rest => some ([], rest)
  | 0x5C :: 0x75 :: a :: b :: c :: d :: rest => do
      let _ ← hexQuad a b c d
      let (raw, suffix) ← readRaw rest
      some (0x5C :: 0x75 :: a :: b :: c :: d :: raw, suffix)
  | 0x5C :: letter :: rest => do
      let _ ← letterEscape letter
      let (raw, suffix) ← readRaw rest
      some (0x5C :: letter :: raw, suffix)
  | byte :: rest =>
      if byte = 0x5C || byte < 0x20 then none
      else do
        let (raw, suffix) ← readRaw rest
        some (byte :: raw, suffix)

def expect (expected input : List UInt8) : Option (List UInt8) :=
  expected.isPrefixOf? input

mutual

/-- The document at the start of the input, after blanks, and what follows it. -/
def readDocument : Nat → List UInt8 → Option (Document × List UInt8)
  | 0, _ => none
  | fuel + 1, input =>
      match skipBlanks input with
      | [] => none
      | 0x22 :: rest => do
          let (raw, suffix) ← readRaw rest
          some (.string raw, suffix)
      | 0x5B :: rest =>
          match skipBlanks rest with
          | 0x5D :: suffix => some (.array [], suffix)
          | _ => do
              let (item, afterItem) ← readDocument fuel rest
              let (items, suffix) ← readItems fuel afterItem
              some (.array (item :: items), suffix)
      | 0x7B :: rest =>
          match skipBlanks rest with
          | 0x7D :: suffix => some (.object [], suffix)
          | _ => do
              let (member, afterMember) ← readMember fuel rest
              let (members, suffix) ← readMembers fuel afterMember
              some (.object (member :: members), suffix)
      | 0x6E :: rest => do
          let suffix ← expect [0x75, 0x6C, 0x6C] rest
          some (.null, suffix)
      | 0x74 :: rest => do
          let suffix ← expect [0x72, 0x75, 0x65] rest
          some (.boolean true, suffix)
      | 0x66 :: rest => do
          let suffix ← expect [0x61, 0x6C, 0x73, 0x65] rest
          some (.boolean false, suffix)
      | start => do
          let (literal, suffix) ← readNumber start
          some (.number literal, suffix)

/-- The items after the first, up to the closing bracket. -/
def readItems : Nat → List UInt8 → Option (List Document × List UInt8)
  | 0, _ => none
  | fuel + 1, input =>
      match skipBlanks input with
      | 0x5D :: suffix => some ([], suffix)
      | 0x2C :: rest => do
          let (item, afterItem) ← readDocument fuel rest
          let (items, suffix) ← readItems fuel afterItem
          some (item :: items, suffix)
      | _ => none

def readMember : Nat → List UInt8 → Option ((List UInt8 × Document) × List UInt8)
  | 0, _ => none
  | fuel + 1, input =>
      match skipBlanks input with
      | 0x22 :: rest => do
          let (name, afterName) ← readRaw rest
          match skipBlanks afterName with
          | 0x3A :: afterColon => do
              let (value, suffix) ← readDocument fuel afterColon
              some ((name, value), suffix)
          | _ => none
      | _ => none

def readMembers : Nat → List UInt8 → Option (List (List UInt8 × Document) × List UInt8)
  | 0, _ => none
  | fuel + 1, input =>
      match skipBlanks input with
      | 0x7D :: suffix => some ([], suffix)
      | 0x2C :: rest => do
          let (member, afterMember) ← readMember fuel rest
          let (members, suffix) ← readMembers fuel afterMember
          some (member :: members, suffix)
      | _ => none

end

def read (input : List UInt8) : Option Document :=
  match readDocument (input.length + 1) input with
  | none => none
  | some (document, suffix) =>
      if (skipBlanks suffix).isEmpty then some document else none

end AccessWeave.Json
