import Meshwork.Text.Number
import Meshwork.Topic

/-! # Names of topics

A topic with a byte of its own goes by its name, any other by its kind and its
byte. -/

namespace Meshwork.Topic
set_option autoImplicit false

def name : Topic → String
  | reserved value => "Reserved:" ++ toString value.toNat
  | application value => "Application:" ++ toString value.toNat
  | t => t.describe

/-- The byte behind the name of a kind. -/
def numbered? (kind : String) (cs : List Char) : Option UInt8 :=
  if kind.toList.isPrefixOf cs then
    (Number.below? 10 256 (cs.drop kind.toList.length)).map UInt8.ofNat
  else none

def ofName? (text : String) : Option Topic :=
  match named.find? (·.describe == text) with
  | some t => some t
  | none =>
    match numbered? "Reserved:" text.toList, numbered? "Application:" text.toList with
    | some value, _ => some (reserved value)
    | _, some value => some (application value)
    | none, none => none

end Meshwork.Topic
