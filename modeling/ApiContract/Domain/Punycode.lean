import ApiContract.Text.Ascii

/-!
# Punycode

A text of any characters is written with ASCII letters, digits and hyphens: first
its ASCII characters, then, after the last hyphen, where the others stand and which
they are, as numbers in a mixed base.
-/

namespace ApiContract
namespace Punycode

/-- The bias for the next number, from the number just coded and the length of the
text. -/
def adapt (delta length : Nat) (isFirst : Bool) : Nat :=
  let delta := if isFirst then delta / 700 else delta / 2
  reduce (delta + delta / length) 0 32
where
  /-- Divides until the number is small, and adds up the steps. -/
  reduce (delta k : Nat) : Nat → Nat
    | 0 => k
    | fuel + 1 =>
        if 455 < delta then reduce (delta / 35) (k + 36) fuel
        else k + 36 * delta / (delta + 38)

/-- The least digit that does not end a number. -/
def threshold (k bias : Nat) : Nat :=
  if k ≤ bias + 1 then 1 else if bias + 26 ≤ k then 26 else k - bias

/-- The value of a digit. -/
def digitValue? (c : Char) : Option Nat :=
  if 'a' ≤ c && c ≤ 'z' then some (c.toNat - 97)
  else if 'A' ≤ c && c ≤ 'Z' then some (c.toNat - 65)
  else if '0' ≤ c && c ≤ '9' then some (c.toNat - 22)
  else none

/-- The digit of a value. -/
def digitOf (n : Nat) : Char :=
  if n < 26 then Char.ofNat (97 + n) else Char.ofNat (22 + n)

/-- Reads a number in the mixed base. -/
def readNumber? (bias i weight k : Nat) : List Char → Option (Nat × List Char)
  | [] => none
  | c :: rest => do
      let digit ← digitValue? c
      let i := i + digit * weight
      let t := threshold k bias
      if Nat.pow 2 32 ≤ i then none
      else if digit < t then return (i, rest)
      else readNumber? bias i (weight * (36 - t)) (k + 36) rest

/-- Reads the characters that are not ASCII and puts them into the text. -/
def decodeFrom (n i bias : Nat) (output : List Nat) (text : List Char) :
    (fuel : Nat) → Option (List Nat)
  | 0 => none
  | fuel + 1 =>
      if text.isEmpty then some output
      else do
        let (next, rest) ← readNumber? bias i 1 36 text
        let length := output.length + 1
        let bias := adapt (next - i) length (i = 0)
        let n := n + next / length
        let i := next % length
        if 0xD800 ≤ n ∧ n < 0xE000 ∨ 0x10FFFF < n then none
        else decodeFrom n (i + 1) bias (output.take i ++ n :: output.drop i) rest fuel

/-- The code points that a text writes. -/
def decode? (text : List Char) : Option (List Nat) :=
  let reversed := text.reverse
  let tail := (reversed.takeWhile (· ≠ '-')).reverse
  let head := ((reversed.dropWhile (· ≠ '-')).drop 1).reverse
  if text.all (fun c => c.toNat < 128) && !(tail.isEmpty && !text.isEmpty && head.isEmpty) then
    decodeFrom 128 0 72 (head.map Char.toNat) tail (tail.length + 1)
  else none

/-- Writes a number in the mixed base. -/
def writeNumber (bias q k : Nat) : (fuel : Nat) → List Char
  | 0 => []
  | fuel + 1 =>
      let t := threshold k bias
      if q < t then [digitOf q]
      else
        let base := 36 - t
        digitOf (t + (q - t) % base) :: writeNumber bias ((q - t) / base) (k + 36) fuel

/-- The state of writing: the next code point, the number of positions passed, the
bias, and how many characters are written. -/
structure Progress where
  delta : Nat
  bias : Nat
  handled : Nat
  written : List Char

/-- Writes all positions of one code point. -/
def writePoint (basic m : Nat) (p : Progress) : List Nat → Progress
  | [] => p
  | n :: rest =>
      if n < m then writePoint basic m { p with delta := p.delta + 1 } rest
      else if n = m then
        let length := p.handled + 1
        writePoint basic m
          { delta := 0
            bias := adapt p.delta length (p.handled = basic)
            handled := length
            written := p.written ++ writeNumber p.bias p.delta 36 32 } rest
      else writePoint basic m p rest

/-- Writes the code points from `n` on, in ascending order. -/
def encodeFrom (text : List Nat) (basic n : Nat) (p : Progress) : (fuel : Nat) → List Char
  | 0 => p.written
  | fuel + 1 =>
      match (text.filter (n ≤ ·)).min? with
      | none => p.written
      | some m =>
          let p := { p with delta := p.delta + (m - n) * (p.handled + 1) }
          let p := writePoint basic m p text
          encodeFrom text basic (m + 1) { p with delta := p.delta + 1 } fuel

/-- The text that writes the code points. -/
def encode (text : List Nat) : List Char :=
  let basic := (text.filter (· < 128)).map Char.ofNat
  let start := if basic.isEmpty then [] else basic ++ ['-']
  encodeFrom text basic.length 128 ⟨0, 72, basic.length, start⟩ (text.length + 1)

end Punycode
end ApiContract
