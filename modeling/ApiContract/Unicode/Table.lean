/-!
# Sets of code points and their tables

A set of code points is a list of ranges in ascending order, with a gap between
any two.  Tables are kept as text: each number is written in base 32, most
significant digit first, and its last digit is taken from a second alphabet, so
that no separators are needed.
-/

namespace ApiContract
namespace Unicode

/-- A set of code points as ascending ranges that do not touch. -/
abbrev Ranges := List (Nat × Nat)

/-- A run of code points with the same value: the first, the last, the value. -/
structure Run where
  first : Nat
  last : Nat
  value : Nat

namespace Ranges

/-- Whether a code point is in the set. -/
def contains (set : Ranges) (n : Nat) : Bool :=
  set.any fun r => r.1 ≤ n && n ≤ r.2

/-- Adds a range in front of a set all of whose ranges begin after it begins. -/
def push (low high : Nat) : Ranges → Ranges
  | [] => [(low, high)]
  | (l, h) :: rest =>
      if l ≤ high + 1 then push low (max high h) rest else (low, high) :: (l, h) :: rest

/-- The ranges of both lists, each ordered by its first code points, in one. -/
def merge (a b : Ranges) : Ranges :=
  match a, b with
  | [], b => b
  | a, [] => a
  | (al, ah) :: as, (bl, bh) :: bs =>
      if al ≤ bl then (al, ah) :: merge as ((bl, bh) :: bs)
      else (bl, bh) :: merge ((al, ah) :: as) bs
termination_by a.length + b.length

/-- The set of ordered ranges that may overlap. -/
def join (ranges : Ranges) : Ranges :=
  ranges.foldr (fun r set => push r.1 r.2 set) []

/-- The code points in either set. -/
def union (a b : Ranges) : Ranges :=
  join (merge a b)

/-- The code points in neither range of the list, from `next` up to `last`. -/
def gaps (next last : Nat) : Ranges → Ranges
  | [] => if next ≤ last then [(next, last)] else []
  | (l, h) :: rest =>
      if next < l then (next, l - 1) :: gaps (h + 1) last rest else gaps (h + 1) last rest

/-- The code points up to U+10FFFF that are not in the set. -/
def complement (set : Ranges) : Ranges :=
  gaps 0 0x10FFFF set

/-- The code points in both sets. -/
def intersect (a b : Ranges) : Ranges :=
  complement (union (complement a) (complement b))

end Ranges

/-- The value of a digit, and whether it is the last one of its number. -/
def digitOf (c : Char) : Nat × Bool :=
  if '0' ≤ c && c ≤ '9' then (c.toNat - 48, false)
  else if 'a' ≤ c && c ≤ 'v' then (c.toNat - 87, false)
  else if 'A' ≤ c && c ≤ 'Z' then (c.toNat - 65, true)
  else if 'w' ≤ c && c ≤ 'z' then (c.toNat - 93, true)
  else if c = '+' then (30, true)
  else (31, true)

/-- The numbers that digits write; `n` is the value of the digits read so far. -/
def numbersFrom (n : Nat) : List Char → List Nat
  | [] => []
  | c :: rest =>
      let (value, isLast) := digitOf c
      if isLast then (n * 32 + value) :: numbersFrom 0 rest
      else numbersFrom (n * 32 + value) rest

/-- The numbers that a text writes. -/
def numbersOfText (text : String) : List Nat :=
  numbersFrom 0 text.toList

/-- Ranges from the gaps before them and their lengths less one. -/
def rangesFrom (next : Nat) : List Nat → Ranges
  | gap :: more :: rest =>
      let first := next + gap
      (first, first + more) :: rangesFrom (first + more + 1) rest
  | _ => []

/-- The ranges that a text writes. -/
def rangesOfText (text : String) : Ranges :=
  rangesFrom 0 (numbersOfText text)

/-- Adjacent runs from their lengths less one and their values. -/
def runsFrom (next : Nat) : List Nat → List Run
  | more :: value :: rest => ⟨next, next + more, value⟩ :: runsFrom (next + more + 1) rest
  | _ => []

/-- The runs that a text writes, from code point 0 on. -/
def runsOfText (text : String) : List Run :=
  runsFrom 0 (numbersOfText text)

/-- The code points of the runs whose value is wanted. -/
def rangesOfRuns (isWanted : Nat → Bool) (runs : List Run) : Ranges :=
  Ranges.join ((runs.filter fun r => isWanted r.value).map fun r => (r.first, r.last))

/-- A code point moved by a distance, which is even if forward and odd if back. -/
def shift (n distance : Nat) : Nat :=
  if distance % 2 = 0 then n + distance / 2 else n - (distance + 1) / 2

/-- Pairs of a code point and its image, from runs written as the gap before the
first code point, the number less one, the step less one, and the distance. -/
def shiftsFrom (previous : Nat) : List Nat → List (Nat × Nat)
  | gap :: more :: step :: distance :: rest =>
      let first := previous + gap
      (List.range (more + 1)).map (fun i =>
        let n := first + i * (step + 1)
        (n, shift n distance)) ++ shiftsFrom first rest
  | _ => []

/-- The pairs of a code point and its image that a text writes. -/
def shiftsOfText (text : String) : List (Nat × Nat) :=
  shiftsFrom 0 (numbersOfText text)

/-- Sequences, each written as the gap before its key, its length and its members. -/
def sequencesFrom (previous : Nat) (numbers : List Nat) : List (Nat × List Nat) :=
  match numbers with
  | gap :: length :: rest =>
      (previous + gap, rest.take length) :: sequencesFrom (previous + gap) (rest.drop length)
  | _ => []
termination_by numbers.length
decreasing_by simp; omega

/-- The keys and sequences that a text writes. -/
def sequencesOfText (text : String) : List (Nat × List Nat) :=
  sequencesFrom 0 (numbersOfText text)

/-- Runs with gaps between them, written as gap, length less one and value. -/
def valuedRunsFrom (next : Nat) : List Nat → List Run
  | gap :: more :: value :: rest =>
      let first := next + gap
      ⟨first, first + more, value⟩ :: valuedRunsFrom (first + more + 1) rest
  | _ => []

/-- The runs with gaps between them that a text writes. -/
def valuedRunsOfText (text : String) : List Run :=
  valuedRunsFrom 0 (numbersOfText text)

end Unicode
end ApiContract
