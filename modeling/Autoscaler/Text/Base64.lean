import Autoscaler.Text.Basic

/-!
# Base64

Decoding that passes over code points outside of the alphabet, and stops where the padding completes
a group of four.
-/

namespace Autoscaler.Base64

/-- The six bits that a code point stands for. -/
def sixBits? (c : CodePoint) : Option Nat :=
  if 0x41 ≤ c.val && c.val ≤ 0x5a then some (c.val - 0x41)
  else if 0x61 ≤ c.val && c.val ≤ 0x7a then some (c.val - 0x61 + 26)
  else if c.isDigit then some (c.val - 0x30 + 52)
  else if c.val = 0x2b then some 62
  else if c.val = 0x2f then some 63
  else none

/-- The byte that six bits complete, at a position from one to three in a group of four, and the
bits of those six that are left over. -/
def complete (position left bits : Nat) : UInt8 × Nat :=
  if position = 1 then ((left * 4 + bits / 16).toUInt8, bits % 16)
  else if position = 2 then ((left * 16 + bits / 4).toUInt8, bits % 4)
  else ((left * 64 + bits).toUInt8, 0)

/-- Decodes from a position in a group of four on, with bits left over from before it, after a run
of `pads` padding marks. -/
def decodeFrom? (position left pads : Nat) : Text → Option (List UInt8)
  | [] => if position = 0 then some [] else none
  | c :: s =>
      if c = '=' then
        if position < 2 then decodeFrom? position left pads s
        else if 4 ≤ position + (pads + 1) then some []
        else decodeFrom? position left (pads + 1) s
      else match sixBits? c with
        | none => decodeFrom? position left pads s
        | some bits =>
            if position = 0 then decodeFrom? 1 bits 0 s
            else
              let (byte, left) := complete position left bits
              (decodeFrom? ((position + 1) % 4) left 0 s).map (byte :: ·)

/-- The bytes of a text, unless it ends inside of a group. -/
def decode? (s : Text) : Option (List UInt8) := decodeFrom? 0 0 0 s

end Autoscaler.Base64
