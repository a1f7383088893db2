/-!
# UTF-8

Bytes are read as characters either strictly or with each malformed piece
replaced by U+FFFD.  `Utf8.step` reads one character; a malformed piece is the
longest beginning of a character that is there, and at least one byte.
-/

namespace ApiContract
namespace Utf8

/-- Whether a byte continues a character. -/
def isContinuation (b : UInt8) : Bool :=
  0x80 ≤ b && b ≤ 0xBF

/-- The payload of a continuation byte. -/
def payload (b : UInt8) : Nat :=
  b.toNat % 64

/-- The bytes that may follow the first byte of a character of three or four
bytes: overlong forms, surrogates and values above U+10FFFF are excluded. -/
def secondRange (first : UInt8) : UInt8 × UInt8 :=
  if first = 0xE0 then (0xA0, 0xBF)
  else if first = 0xED then (0x80, 0x9F)
  else if first = 0xF0 then (0x90, 0xBF)
  else if first = 0xF4 then (0x80, 0x8F)
  else (0x80, 0xBF)

/-- Reads one character at the head of the bytes: the character, or `none` for a
malformed piece, and how many bytes follow the first one in it. -/
def step (first : UInt8) (rest : List UInt8) : Option Char × Nat :=
  if first < 0x80 then (some (Char.ofNat first.toNat), 0)
  else if 0xC2 ≤ first && first ≤ 0xDF then
    match rest with
    | b :: _ =>
        if isContinuation b then
          (some (Char.ofNat ((first.toNat - 0xC0) * 64 + payload b)), 1)
        else (none, 0)
    | [] => (none, 0)
  else if 0xE0 ≤ first && first ≤ 0xF4 then
    let (low, high) := secondRange first
    match rest with
    | b :: rest =>
        if low ≤ b && b ≤ high then
          match rest with
          | c :: rest =>
              if isContinuation c then
                if first < 0xF0 then
                  (some (Char.ofNat
                    ((first.toNat - 0xE0) * 4096 + payload b * 64 + payload c)), 2)
                else
                  match rest with
                  | d :: _ =>
                      if isContinuation d then
                        (some (Char.ofNat ((first.toNat - 0xF0) * 262144 +
                          payload b * 4096 + payload c * 64 + payload d)), 3)
                      else (none, 2)
                  | [] => (none, 2)
              else (none, 1)
          | [] => (none, 1)
        else (none, 0)
    | [] => (none, 0)
  else (none, 0)

/-- Reads bytes as characters, `none` for each malformed piece. -/
def pieces : List UInt8 → List (Option Char)
  | [] => []
  | first :: rest =>
      let (c, more) := step first rest
      c :: pieces (rest.drop more)
termination_by bytes => bytes.length
decreasing_by simp only [List.length_drop, List.length_cons]; omega

/-- The characters of well-formed bytes. -/
def decode? (bytes : List UInt8) : Option (List Char) :=
  (pieces bytes).mapM id

/-- The characters of bytes, each malformed piece replaced by U+FFFD. -/
def decodeLossy (bytes : List UInt8) : List Char :=
  (pieces bytes).map (·.getD '\uFFFD')

/-- The bytes of a character. -/
def encodeChar (c : Char) : List UInt8 :=
  let n := c.toNat
  if n < 0x80 then [n.toUInt8]
  else if n < 0x800 then [(0xC0 + n / 64).toUInt8, (0x80 + n % 64).toUInt8]
  else if n < 0x10000 then
    [(0xE0 + n / 4096).toUInt8, (0x80 + n / 64 % 64).toUInt8, (0x80 + n % 64).toUInt8]
  else
    [(0xF0 + n / 262144).toUInt8, (0x80 + n / 4096 % 64).toUInt8,
      (0x80 + n / 64 % 64).toUInt8, (0x80 + n % 64).toUInt8]

/-- The bytes of characters. -/
def encode (text : List Char) : List UInt8 :=
  text.flatMap encodeChar

/-- How many bytes a text takes. -/
def size (text : List Char) : Nat :=
  (encode text).length

end Utf8
end ApiContract
