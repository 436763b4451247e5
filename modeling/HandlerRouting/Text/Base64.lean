/-!
Bytes written in base sixty-four, read leniently: characters of no value are passed over, and a
padded group of four ends the text.
-/

namespace HandlerRouting.Text.Base64

def value? (c : Char) : Option Nat :=
  if 'A' ≤ c ∧ c ≤ 'Z' then some (c.toNat - 0x41)
  else if 'a' ≤ c ∧ c ≤ 'z' then some (c.toNat - 0x61 + 26)
  else if c.isDigit then some (c.toNat - 0x30 + 52)
  else if c = '+' then some 62
  else if c = '/' then some 63
  else none

def bytesFrom (place left pads : Nat) : List Char → Option (List UInt8)
  -- A group that is neither full nor padded spoils the text.
  | [] => if place = 0 then some [] else none
  | c :: rest =>
    if c = '=' then
      if place < 2 then bytesFrom place left pads rest
      else if 4 ≤ place + pads + 1 then some []
      else bytesFrom place left (pads + 1) rest
    else match value? c with
      | none => bytesFrom place left pads rest
      | some value =>
        let byte (high low : Nat) : Option (List UInt8) → Option (List UInt8) :=
          Option.map (UInt8.ofNat (left * high + value / low) :: ·)
        match place with
        | 0 => bytesFrom 1 value 0 rest
        | 1 => byte 4 16 (bytesFrom 2 (value % 16) 0 rest)
        | 2 => byte 16 4 (bytesFrom 3 (value % 4) 0 rest)
        | _ => byte 64 1 (bytesFrom 0 0 0 rest)

def bytes? (s : List Char) : Option (List UInt8) := bytesFrom 0 0 0 s

example : bytes? ['a', 'G', 'k', '='] = some [104, 105] := by decide

example : bytes? ['a', 'G', 'k'] = none := by decide

end HandlerRouting.Text.Base64
