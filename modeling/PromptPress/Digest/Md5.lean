import PromptPress.Text.Digit

/-!
# MD5 digests

The 128-bit digest that names a content.  A message is padded to whole blocks of 64 bytes; each block
is mixed into four words in 64 rounds.
-/

namespace PromptPress.Digest

open PromptPress.Text

/-- How far each of the rounds of a quarter rotates. -/
def shifts : Array UInt32 :=
  #[7, 12, 17, 22, 5, 9, 14, 20, 4, 11, 16, 23, 6, 10, 15, 21]

/-- The additive constants: the integer parts of `2 ^ 32 · |sin i|` for `i = 1, …, 64`. -/
def sines : Array UInt32 :=
  #[0xd76aa478, 0xe8c7b756, 0x242070db, 0xc1bdceee, 0xf57c0faf, 0x4787c62a, 0xa8304613, 0xfd469501,
    0x698098d8, 0x8b44f7af, 0xffff5bb1, 0x895cd7be, 0x6b901122, 0xfd987193, 0xa679438e, 0x49b40821,
    0xf61e2562, 0xc040b340, 0x265e5a51, 0xe9b6c7aa, 0xd62f105d, 0x02441453, 0xd8a1e681, 0xe7d3fbc8,
    0x21e1cde6, 0xc33707d6, 0xf4d50d87, 0x455a14ed, 0xa9e3e905, 0xfcefa3f8, 0x676f02d9, 0x8d2a4c8a,
    0xfffa3942, 0x8771f681, 0x6d9d6122, 0xfde5380c, 0xa4beea44, 0x4bdecfa9, 0xf6bb4b60, 0xbebfbc70,
    0x289b7ec6, 0xeaa127fa, 0xd4ef3085, 0x04881d05, 0xd9d4d039, 0xe6db99e5, 0x1fa27cf8, 0xc4ac5665,
    0xf4292244, 0x432aff97, 0xab9423a7, 0xfc93a039, 0x655b59c3, 0x8f0ccc92, 0xffeff47d, 0x85845dd1,
    0x6fa87e4f, 0xfe2ce6e0, 0xa3014314, 0x4e0811a1, 0xf7537e82, 0xbd3af235, 0x2ad7d2bb, 0xeb86d391]

/-- The four words that a digest is built in. -/
structure Words where
  a : UInt32
  b : UInt32
  c : UInt32
  d : UInt32

/-- The words before the first block. -/
def Words.start : Words := ⟨0x67452301, 0xefcdab89, 0x98badcfe, 0x10325476⟩

/-- Rotates a word to the left. -/
def rotate (x n : UInt32) : UInt32 :=
  (x <<< n) ||| (x >>> (32 - n))

/-- The bits of a natural number as bytes, the low byte first. -/
def littleEndian : (count n : Nat) → List UInt8
  | 0, _ => []
  | count + 1, n => UInt8.ofNat n :: littleEndian count (n / 256)

/-- The message with its padding: a one bit, zeros, and the length in bits. -/
def padded (message : List UInt8) : List UInt8 :=
  let size := message.length
  message ++ 0x80 :: List.replicate ((119 - size % 64) % 64) 0 ++ littleEndian 8 (8 * size)

/-- The words of a text of bytes, the low byte of each first. -/
def wordsOf : List UInt8 → List UInt32
  | a :: b :: c :: d :: rest =>
    (a.toUInt32 ||| (b.toUInt32 <<< 8) ||| (c.toUInt32 <<< 16) ||| (d.toUInt32 <<< 24)) :: wordsOf rest
  | _ => []

/-- One round on the words, with the block they are mixed with. -/
def mix (block : Array UInt32) (w : Words) (i : Nat) : Words :=
  let (f, g) :=
    if i < 16 then ((w.b &&& w.c) ||| (~~~w.b &&& w.d), i)
    else if i < 32 then ((w.d &&& w.b) ||| (~~~w.d &&& w.c), (5 * i + 1) % 16)
    else if i < 48 then (w.b ^^^ w.c ^^^ w.d, (3 * i + 5) % 16)
    else (w.c ^^^ (w.b ||| ~~~w.d), 7 * i % 16)
  let sum := w.a + f + sines.getD i 0 + block.getD g 0
  ⟨w.d, w.b + rotate sum (shifts.getD (i / 16 * 4 + i % 4) 0), w.b, w.c⟩

/-- Mixes one block into the words. -/
def addBlock (w : Words) (block : List UInt32) : Words :=
  let m := (List.range 64).foldl (mix block.toArray) w
  ⟨w.a + m.a, w.b + m.b, w.c + m.c, w.d + m.d⟩

/-- Mixes the blocks of sixteen words; `count` is their number. -/
def addBlocks : (count : Nat) → Words → List UInt32 → Words
  | 0, w, _ => w
  | count + 1, w, words => addBlocks count (addBlock w (words.take 16)) (words.drop 16)

/-- The 16 bytes of the digest of a message. -/
def md5 (message : List UInt8) : List UInt8 :=
  let words := wordsOf (padded message)
  let w := addBlocks (words.length / 16) .start words
  [w.a, w.b, w.c, w.d].flatMap fun x => littleEndian 4 x.toNat

/-- The digest of a message in hexadecimal digits. -/
def md5Hex (message : List UInt8) : List Char :=
  (md5 message).flatMap fun byte => showHex 2 byte.toNat

/-- The bytes of a text in UTF-8. -/
def utf8 (s : String) : List UInt8 :=
  s.toUTF8.toList

/-- The name of a content: the first eight digits of its digest. -/
def contentHash (content : List UInt8) : String :=
  String.ofList ((md5Hex content).take 8)

end PromptPress.Digest
