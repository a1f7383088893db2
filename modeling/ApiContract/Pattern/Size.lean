import ApiContract.Pattern.Basic
import ApiContract.Text.Utf8

/-!
# The size of a pattern's automata

A pattern is usable only if its automata over UTF-8 bytes, one that reads
forwards and one that reads backwards, stay within ten mebibytes.  The sizes are
counted without building them: 32 bytes for a state, 4 for a branch and 8 for a
range of bytes inside a state.
-/

namespace ApiContract
namespace Pattern

/-- The ranges of bytes, one for each byte of a character, that a run of code
points takes. -/
abbrev ByteSequence := List (Nat × Nat)

/-- Splits a range of code points at surrogates and where the number of bytes
changes. -/
def splitByLength (low high : Nat) : List (Nat × Nat) :=
  [(0, 0x7F), (0x80, 0x7FF), (0x800, 0xD7FF), (0xE000, 0xFFFF), (0x10000, 0x10FFFF)].filterMap
    fun part =>
      let l := max low part.1
      let h := min high part.2
      if l ≤ h then some (l, h) else none

/-- Where a range of code points of one length has to be split so that each byte
ranges on its own: the last code point of the first part. -/
def splitPoint? (low high : Nat) : List Nat → Option Nat
  | [] => none
  | block :: blocks =>
      if low / block = high / block then splitPoint? low high blocks
      else if low % block ≠ 0 then some (low / block * block + (block - 1))
      else if high % block ≠ block - 1 then some (high / block * block - 1)
      else splitPoint? low high blocks

/-- Splits a range of code points of one length until each byte ranges on its
own; eight splits in a row are always enough. -/
def splitByBytes (low high : Nat) : (fuel : Nat) → List (Nat × Nat)
  | 0 => [(low, high)]
  | fuel + 1 =>
      if high < 0x80 then [(low, high)]
      else
        match splitPoint? low high [64, 4096, 262144] with
        | some last => splitByBytes low last fuel ++ splitByBytes (last + 1) high fuel
        | none => [(low, high)]

/-- The bytes of a code point, as numbers. -/
def bytesOf (n : Nat) : List Nat :=
  (Utf8.encodeChar (Char.ofNat n)).map (·.toNat)

/-- The sequences of byte ranges of a set of code points. -/
def byteSequences (set : Unicode.Ranges) : List ByteSequence :=
  set.flatMap fun r =>
    (splitByLength r.1 r.2).flatMap fun part =>
      (splitByBytes part.1 part.2 8).map fun q => (bytesOf q.1).zip (bytesOf q.2)

/-- How many leading elements two sequences share. -/
def sharedLength : ByteSequence → ByteSequence → Nat
  | x :: xs, y :: ys => if x = y then sharedLength xs ys + 1 else 0
  | _, _ => 0

/-- The number of distinct beginnings of sequences in order, the empty one
excluded. -/
def beginnings (previous : ByteSequence) : List ByteSequence → Nat
  | [] => 0
  | s :: rest => (s.length - sharedLength previous s) + beginnings s rest

/-- Groups sequences by their first range. -/
def groupByFirst : List ByteSequence → List ((Nat × Nat) × List ByteSequence)
  | [] => []
  | [] :: rest => groupByFirst rest
  | (x :: xs) :: rest =>
      match groupByFirst rest with
      | (y, ys) :: groups =>
          if x = y then (y, xs :: ys) :: groups else (x, [xs]) :: (y, ys) :: groups
      | [] => [(x, [xs])]

/-- A state of a forward automaton: its ranges of bytes and the numbers of the
states that they lead to. -/
abbrev ForwardState := List ((Nat × Nat) × Nat)

/-- The number of the state that reads the sequences, after adding the states that
are missing; state 0 is the end. -/
def addState (states : List ForwardState) (sequences : List ByteSequence) :
    (fuel : Nat) → List ForwardState × Nat
  | 0 => (states, 0)
  | fuel + 1 =>
      let groups := groupByFirst sequences
      if groups.isEmpty then (states, 0)
      else
        let (states, state) := groups.foldl (fun (states, state) g =>
          let (states, target) := addState states g.2 fuel
          (states, state ++ [(g.1, target)])) (states, ([] : ForwardState))
        match states.idxOf? state with
        | some i => (states, i + 1)
        | none => (states ++ [state], states.length + 1)

/-- The direction in which an automaton reads. -/
inductive Direction where
  | forward
  | backward
  deriving DecidableEq

/-- Whether a set is one character alone, which counts as a text. -/
def isSingle : Unicode.Ranges → Bool
  | [(l, h)] => l == h
  | _ => false

/-- The size of the states that read one character of a set. -/
def setSize (direction : Direction) (set : Unicode.Ranges) : Nat :=
  if set.isEmpty then 32
  else if isSingle set then 32 * (bytesOf (set.headD (0, 0)).1).length
  else if set.all (fun r => r.2 < 128) then 64 + 8 * set.length
  else
    let sequences := byteSequences set
    match direction with
    | .backward => 64 + 4 * sequences.length + 32 * beginnings [] sequences
    | .forward =>
        let states := (addState [] sequences 5).1
        states.foldl (fun total s => total + 32 + 8 * s.length) 32

/-- Whether the pattern can match the empty text. -/
def matchesEmpty : Pattern → Bool
  | .empty => true
  | .oneOf _ => false
  | .anchor _ => true
  | .seq first second => first.matchesEmpty && second.matchesEmpty
  | .alt first second => first.matchesEmpty || second.matchesEmpty
  | .repeated body least _ => least = 0 || body.matchesEmpty
  | .group body => body.matchesEmpty

/-- The size of a pattern's automaton.  Only the forward one keeps captures.  Alternatives are
counted one by one, although those with a common beginning share states; so with many of them
the count can be too high. -/
def size (direction : Direction) : Pattern → Nat
  | .empty => 32
  | .oneOf set => setSize direction set
  | .anchor _ => 32
  | .seq first second => first.size direction + second.size direction
  | .alt first second => first.size direction + second.size direction + 72
  | .repeated body least most =>
      let one := body.size direction
      match most with
      | none =>
          if least = 0 then one + (if body.matchesEmpty then 112 else 40)
          else least * one + 40
      | some m =>
          if m = least then (if m = 0 then 32 else m * one)
          else if least = 0 && m = 1 then one + 72
          else least * one + 32 + (m - least) * (one + 40)
  | .group body => body.size direction + (if direction = .forward then 64 else 0)

/-- Whether the automata of the pattern stay within the limit. -/
def fits (pattern : Pattern) : Bool :=
  pattern.size .forward ≤ 10485760 && pattern.size .backward ≤ 10485760

end Pattern
end ApiContract
