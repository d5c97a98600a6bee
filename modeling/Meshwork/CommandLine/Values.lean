import Meshwork.Error
import Meshwork.Node
import Meshwork.Text.Number

/-! # Values on the command line

How identifiers, topics and frames are typed, and what is said about those
that cannot be read. -/

namespace Meshwork
set_option autoImplicit false

inductive CommandError where
  | invalidNode (text : String)
  | unknownTopic (text : String)
  | hexNotAscii
  | hexOdd (digits : Nat)
  | hexInvalid
  | unreadableConfig (path : String)
  | invalidConfig (path : String)
  | tooFewNodes (count : Nat)
  | mesh (cause : MeshError)
deriving DecidableEq, Repr

def CommandError.message : CommandError → String
  | invalidNode text => "Invalid node ID hex: " ++ text
  | unknownTopic text => "Unknown topic: " ++ text
  | hexNotAscii => "Hex input contains non-ASCII characters"
  | hexOdd digits => "Hex input has an odd number of digits (" ++ toString digits ++ ")"
  | hexInvalid => "Invalid hex value"
  | unreadableConfig path => "Failed to read config " ++ path
  | invalidConfig path => "Invalid config " ++ path
  | tooFewNodes count => "Need at least 2 nodes, got " ++ toString count
  | mesh cause => cause.message

namespace CommandLine

/-- The text behind all marks of hexadecimal in front of it. -/
def unmarked : List Char → List Char
  | '0' :: 'x' :: rest => unmarked rest
  | cs => cs

def lower (text : String) : String := text.map Char.toLower

/-- An identifier in hexadecimal, or the word for everybody. -/
def readNode (text : String) : Except CommandError NodeId :=
  if lower text = "broadcast" then .ok .broadcast
  else
    match Number.below? 16 UInt32.size (unmarked text.toList) with
    | some n => .ok ⟨UInt32.ofNat n⟩
    | none => .error (.invalidNode text)

/-- The topics that go by a name here. -/
def topicNames : List (String × Topic) :=
  [("ping", .ping), ("pong", .pong), ("ack", .ack), ("cmd", .cmd), ("bye", .bye)]

/-- A topic by its byte, in hexadecimal behind a mark. -/
def topicByte? : List Char → Option Nat
  | '0' :: 'x' :: digits => Number.below? 16 256 digits
  | digits => Number.below? 10 256 digits

def readTopic (text : String) : Except CommandError Topic :=
  match topicNames.lookup (lower text) with
  | some topic => .ok topic
  | none =>
    match topicByte? (lower text).toList with
    | some n => .ok (.ofByte (UInt8.ofNat n))
    | none => .error (.unknownTopic text)

/-- The blanks of all scripts. -/
def isBlank (c : Char) : Bool :=
  let n := c.toNat
  (0x09 ≤ n && n ≤ 0x0D) || n == 0x20 || n == 0x85 || n == 0xA0 || n == 0x1680
    || (0x2000 ≤ n && n ≤ 0x200A) || n == 0x2028 || n == 0x2029 || n == 0x202F || n == 0x205F
    || n == 0x3000

/-- The pieces of a text between its blanks; the one being read is reversed. -/
def pieces (piece : List Char) : List Char → List (List Char)
  | [] => [piece.reverse]
  | c :: cs => if isBlank c then piece.reverse :: pieces [] cs else pieces (c :: piece) cs

/-- The digits of all pieces, each behind its marks. -/
def hexDigits (text : String) : List Char := (pieces [] text.toList).flatMap unmarked

/-- Reads bytes of two digits, or of a plus sign and one. -/
def readPairs : List Char → Except CommandError Bytes
  | [] => .ok []
  | [_] => .error .hexInvalid
  | a :: b :: rest =>
    match Number.below? 16 256 [a, b], readPairs rest with
    | some n, .ok bs => .ok (UInt8.ofNat n :: bs)
    | _, _ => .error .hexInvalid

/-- Bytes in hexadecimal, with blanks and marks between them. -/
def readHex (text : String) : Except CommandError Bytes :=
  let digits := hexDigits text
  if digits.any fun c => 0x7F < c.toNat then .error .hexNotAscii
  else if digits.length % 2 = 1 then .error (.hexOdd digits.length)
  else readPairs digits

end CommandLine
end Meshwork
