/-!
MurmurHash3 with 32 bits, the variant for 32-bit words. Four bytes at a time, the lowest first, are
mixed into the state; the up to three bytes that remain are mixed in as one word.
-/

namespace FeatureFlags.Murmur3

def rotateLeft (x : UInt32) (n : UInt32) : UInt32 := (x <<< n) ||| (x >>> (32 - n))

/-- The word of four bytes, the lowest first. -/
def word (a b c d : UInt8) : UInt32 :=
  a.toUInt32 ||| (b.toUInt32 <<< 8) ||| (c.toUInt32 <<< 16) ||| (d.toUInt32 <<< 24)

def scramble (k : UInt32) : UInt32 := rotateLeft (k * 0xcc9e2d51) 15 * 0x1b873593

def mix (h k : UInt32) : UInt32 := rotateLeft (h ^^^ scramble k) 13 * 5 + 0xe6546b64

def absorb (h : UInt32) : List UInt8 → UInt32
  | a :: b :: c :: d :: rest => absorb (mix h (word a b c d)) rest
  | [a, b, c] => h ^^^ scramble (word a b c 0)
  | [a, b] => h ^^^ scramble (word a b 0 0)
  | [a] => h ^^^ scramble (word a 0 0 0)
  | [] => h

def finish (h : UInt32) : UInt32 :=
  let h := (h ^^^ (h >>> 16)) * 0x85ebca6b
  let h := (h ^^^ (h >>> 13)) * 0xc2b2ae35
  h ^^^ (h >>> 16)

def hashBytes (seed : UInt32) (bytes : List UInt8) : UInt32 :=
  finish (absorb seed bytes ^^^ bytes.length.toUInt32)

def hash (seed : UInt32) (text : String) : UInt32 :=
  hashBytes seed text.toUTF8.data.toList

end FeatureFlags.Murmur3
