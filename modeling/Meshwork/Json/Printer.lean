import Meshwork.Json

/-! # Writing JSON

Without blanks, or spread over lines with two blanks to the level. Only quotes,
backslashes and control characters are escaped. -/

namespace Meshwork.Json
set_option autoImplicit false

def hexDigit (n : Nat) : UInt8 := if n < 10 then UInt8.ofNat (48 + n) else UInt8.ofNat (87 + n)

def escaped (b : UInt8) : Bytes :=
  if b = 34 then [92, 34]
  else if b = 92 then [92, 92]
  else if b = 8 then [92, 98]
  else if b = 9 then [92, 116]
  else if b = 10 then [92, 110]
  else if b = 12 then [92, 102]
  else if b = 13 then [92, 114]
  else if b < 32 then [92, 117, 48, 48, hexDigit (b.toNat / 16), hexDigit (b.toNat % 16)]
  else [b]

def quoted (content : Bytes) : Bytes := 34 :: content.flatMap escaped ++ [34]

def integerText : Int → Bytes
  | .ofNat n => Bytes.decimal n
  | .negSucc n => 45 :: Bytes.decimal (n + 1)

mutual

def render : Json → Bytes
  | null => Bytes.ofText "null"
  | bool true => Bytes.ofText "true"
  | bool false => Bytes.ofText "false"
  | integer n => integerText n
  | decimal spelling => spelling
  | string content => quoted content
  | array [] => [91, 93]
  | array (v :: vs) => 91 :: render v ++ renderItems vs
  | object [] => [123, 125]
  | object ((name, v) :: ms) => 123 :: quoted name ++ 58 :: render v ++ renderMembers ms

def renderItems : List Json → Bytes
  | [] => [93]
  | v :: vs => 44 :: render v ++ renderItems vs

def renderMembers : List (Bytes × Json) → Bytes
  | [] => [125]
  | (name, v) :: ms => 44 :: quoted name ++ 58 :: render v ++ renderMembers ms

end

/-- A new line with two blanks for every level. -/
def newline (level : Nat) : Bytes := 10 :: List.replicate (2 * level) 32

mutual

/-- The text of a value spread over lines, nested `level` deep. -/
def renderLines (level : Nat) : Json → Bytes
  | array (v :: vs) => 91 :: newline (level + 1) ++ renderLines (level + 1) v ++ itemLines level vs
  | object ((name, v) :: ms) =>
    123 :: newline (level + 1) ++ quoted name ++ [58, 32] ++ renderLines (level + 1) v
      ++ memberLines level ms
  | array [] => [91, 93]
  | object [] => [123, 125]
  | null => render null
  | bool value => render (bool value)
  | integer value => render (integer value)
  | decimal spelling => render (decimal spelling)
  | string content => render (string content)

def itemLines (level : Nat) : List Json → Bytes
  | [] => newline level ++ [93]
  | v :: vs => 44 :: newline (level + 1) ++ renderLines (level + 1) v ++ itemLines level vs

def memberLines (level : Nat) : List (Bytes × Json) → Bytes
  | [] => newline level ++ [125]
  | (name, v) :: ms =>
    44 :: newline (level + 1) ++ quoted name ++ [58, 32] ++ renderLines (level + 1) v
      ++ memberLines level ms

end

def text (j : Json) : String := (render j).text?.getD ""

def lines (j : Json) : String := (renderLines 0 j).text?.getD ""

end Meshwork.Json
