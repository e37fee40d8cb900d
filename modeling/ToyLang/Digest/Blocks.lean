import ToyLang.Numeral

/-!
# Digests

Digests are made of words: numbers of some bits, which are added and turned, and start from the
bits behind the point of roots of primes.  Most digests fill up the bytes to blocks with their
number at the end, and go through the blocks with a state of words.

## Main definitions

* `turnRight` — a word with its bits turned.
* `wordsOf`, `bytesOfWord` — words as bytes.
* `rootBits` — bits of a root.
* `BlockDigest` — a digest of this kind.
* `md5`, `sha1`, `sha224`, `sha256`, `sha384`, `sha512`, `sm3` — digests.
* `blake2b` — the digest.
-/

namespace ToyLang.Digest

/-! ### Words of bits -/

/-- The lowest bits of a number. -/
def lowBits (bits n : Nat) : Nat := n % twoTo bits

/-- A word with its bits turned to the right. -/
def turnRight (bits n x : Nat) : Nat := (x >>> n) ||| lowBits bits (x <<< (bits - n))

/-- A word with its bits turned to the left. -/
def turnLeft (bits n x : Nat) : Nat := turnRight bits (bits - n) x

/-- A word with all its bits changed. -/
def flipped (bits x : Nat) : Nat := twoTo bits - 1 - x

/-- Bytes as a number, the highest first. -/
def numberOfBytes (bytes : List UInt8) : Nat := bytes.foldl (fun n b => n * 256 + b.toNat) 0

/-- The bytes of a number, the lowest first. -/
def bytesOfNumber (count n : Nat) : List UInt8 :=
  (List.range count).map fun i => UInt8.ofNat (n >>> (8 * i))

/-- The bytes of a word, in one or the other order. -/
def bytesOfWord (bits : Nat) (lowFirst : Bool) (x : Nat) : List UInt8 :=
  let bytes := bytesOfNumber (bits / 8) x
  if lowFirst then bytes else bytes.reverse

/-- The sixteen words from a place of some bytes on. -/
def wordsOf (bits : Nat) (lowFirst : Bool) (bytes : ByteArray) (start : Nat) : Array Nat :=
  let size := bits / 8
  ((List.range 16).map fun i =>
    let place := start + size * i
    let found := (bytes.extract place (place + size)).toList
    numberOfBytes (if lowFirst then found.reverse else found)).toArray

/-! ### Roots of primes -/

/-- The greatest number whose power is not above another, bit by bit. -/
def floorRoot (power n : Nat) : (bits : Nat) → (found : Nat) → Nat
  | 0, found => found
  | bits + 1, found =>
      let next := found + twoTo bits
      floorRoot power n bits (if Nat.pow next power ≤ n then next else found)

/-- The bits behind the point of a root. -/
def rootBits (power bits n : Nat) : Nat :=
  lowBits bits (floorRoot power (n <<< (power * bits)) (bits + 6) 0)

/-- The primes below a limit. -/
def primesBelow (limit : Nat) : List Nat :=
  (List.range limit).filter fun n =>
    2 ≤ n && (List.range n).all fun d => d < 2 || n % d ≠ 0

/-- The first eighty primes. -/
def firstPrimes : List Nat := primesBelow 410

/-! ### Blocks -/

/-- A digest that goes through blocks of sixteen words. -/
structure BlockDigest where
  /-- How many bits a word has. -/
  bits : Nat
  lowFirst : Bool := false
  start : List Nat
  /-- What a block makes of a state. -/
  step : List Nat → Array Nat → List Nat
  /-- How many bytes of the last state are shown. -/
  size : Nat

namespace BlockDigest

/-- Bytes filled up to blocks, with their number of bits at the end. -/
def filled (d : BlockDigest) (bytes : ByteArray) : ByteArray :=
  let block := 2 * d.bits
  let tail := d.bits / 4
  let zeros := (2 * block - 1 - tail - bytes.size % block) % block
  let length := bytesOfNumber tail (8 * bytes.size)
  let length := if d.lowFirst then length else length.reverse
  bytes ++ ⟨(0x80 :: List.replicate zeros 0 ++ length).toArray⟩

/-- The digest of some bytes. -/
def run (d : BlockDigest) (bytes : ByteArray) : List UInt8 :=
  let all := d.filled bytes
  let block := 2 * d.bits
  let state := (List.range (all.size / block)).foldl (fun state i =>
    d.step state (wordsOf d.bits d.lowFirst all (block * i))) d.start
  (state.flatMap (bytesOfWord d.bits d.lowFirst)).take d.size

end BlockDigest

/-- The words of a block and more words that are made of them. -/
def moreWords (m : Array Nat) (count : Nat) (next : Array Nat → Nat) : Array Nat :=
  (List.range (count - m.size)).foldl (fun w _ => w.push (next w)) m

/-- A word that was added some steps ago. -/
def ago (w : Array Nat) (n : Nat) : Nat := w.getD (w.size - n) 0

/-- The sums of the words of two states. -/
def addedWords (bits : Nat) (a b : List Nat) : List Nat :=
  List.zipWith (fun x y => lowBits bits (x + y)) a b

/-! ### Five words -/

/-- The fractional parts of sines from which the rounds of the first digest take their words. -/
def sineWords : Array Nat :=
  #[0xd76aa478, 0xe8c7b756, 0x242070db, 0xc1bdceee, 0xf57c0faf, 0x4787c62a, 0xa8304613, 0xfd469501,
    0x698098d8, 0x8b44f7af, 0xffff5bb1, 0x895cd7be, 0x6b901122, 0xfd987193, 0xa679438e, 0x49b40821,
    0xf61e2562, 0xc040b340, 0x265e5a51, 0xe9b6c7aa, 0xd62f105d, 0x02441453, 0xd8a1e681, 0xe7d3fbc8,
    0x21e1cde6, 0xc33707d6, 0xf4d50d87, 0x455a14ed, 0xa9e3e905, 0xfcefa3f8, 0x676f02d9, 0x8d2a4c8a,
    0xfffa3942, 0x8771f681, 0x6d9d6122, 0xfde5380c, 0xa4beea44, 0x4bdecfa9, 0xf6bb4b60, 0xbebfbc70,
    0x289b7ec6, 0xeaa127fa, 0xd4ef3085, 0x04881d05, 0xd9d4d039, 0xe6db99e5, 0x1fa27cf8, 0xc4ac5665,
    0xf4292244, 0x432aff97, 0xab9423a7, 0xfc93a039, 0x655b59c3, 0x8f0ccc92, 0xffeff47d, 0x85845dd1,
    0x6fa87e4f, 0xfe2ce6e0, 0xa3014314, 0x4e0811a1, 0xf7537e82, 0xbd3af235, 0x2ad7d2bb, 0xeb86d391]

/-- One block of the first digest. -/
def md5Step (state : List Nat) (m : Array Nat) : List Nat :=
  let turns : List (List Nat) :=
    [[7, 12, 17, 22], [5, 9, 14, 20], [4, 11, 16, 23], [6, 10, 15, 21]]
  let round (s : List Nat) (i : Nat) : List Nat := match s with
    | [a, b, c, d] =>
        let (f, g) : Nat × Nat :=
          if i < 16 then ((b &&& c) ||| (flipped 32 b &&& d), i)
          else if i < 32 then ((d &&& b) ||| (flipped 32 d &&& c), (5 * i + 1) % 16)
          else if i < 48 then (b ^^^ c ^^^ d, (3 * i + 5) % 16)
          else (c ^^^ (b ||| flipped 32 d), 7 * i % 16)
        let turn := (turns.getD (i / 16) []).getD (i % 4) 0
        let total := lowBits 32 (a + f + sineWords.getD i 0 + m.getD g 0)
        [d, lowBits 32 (b + turnLeft 32 turn total), b, c]
    | s => s
  addedWords 32 state ((List.range 64).foldl round state)

/-- The first digest, of 128 bits. -/
def md5 : BlockDigest where
  bits := 32
  lowFirst := true
  start := [0x67452301, 0xefcdab89, 0x98badcfe, 0x10325476]
  step := md5Step
  size := 16

/-- One block of the second digest. -/
def sha1Step (state : List Nat) (m : Array Nat) : List Nat :=
  let w := moreWords m 80 fun w => turnLeft 32 1 (ago w 3 ^^^ ago w 8 ^^^ ago w 14 ^^^ ago w 16)
  let round (s : List Nat) (i : Nat) : List Nat := match s with
    | [a, b, c, d, e] =>
        let (f, k) : Nat × Nat :=
          if i < 20 then ((b &&& c) ||| (flipped 32 b &&& d), 0x5a827999)
          else if i < 40 then (b ^^^ c ^^^ d, 0x6ed9eba1)
          else if i < 60 then ((b &&& c) ||| (b &&& d) ||| (c &&& d), 0x8f1bbcdc)
          else (b ^^^ c ^^^ d, 0xca62c1d6)
        [lowBits 32 (turnLeft 32 5 a + f + e + k + w.getD i 0), a, turnLeft 32 30 b, c, d]
    | s => s
  addedWords 32 state ((List.range 80).foldl round state)

/-- The second digest, of 160 bits. -/
def sha1 : BlockDigest where
  bits := 32
  start := [0x67452301, 0xefcdab89, 0x98badcfe, 0x10325476, 0xc3d2e1f0]
  step := sha1Step
  size := 20

/-! ### Eight words -/

/-- How far words are turned: in the state, for the first and the second of both sums, and in the
words of a block, where the last number says how far bits are moved out. -/
structure Turns where
  bits : Nat
  rounds : Nat
  first : Nat × Nat × Nat
  second : Nat × Nat × Nat
  early : Nat × Nat × Nat
  late : Nat × Nat × Nat

/-- The turns of words of 32 bits. -/
def narrowTurns : Turns where
  bits := 32
  rounds := 64
  first := (2, 13, 22)
  second := (6, 11, 25)
  early := (7, 18, 3)
  late := (17, 19, 10)

/-- The turns of words of 64 bits. -/
def wideTurns : Turns where
  bits := 64
  rounds := 80
  first := (28, 34, 39)
  second := (14, 18, 41)
  early := (1, 8, 7)
  late := (19, 61, 6)

/-- The bits behind the points of the cube roots of primes. -/
def cubeRootWords : Array Nat := (firstPrimes.map (rootBits 3 64)).toArray

/-- One block of a digest of eight words. -/
def eightStep (t : Turns) (state : List Nat) (m : Array Nat) : List Nat :=
  let mixed (turns : Nat × Nat × Nat) (x : Nat) : Nat :=
    turnRight t.bits turns.1 x ^^^ turnRight t.bits turns.2.1 x ^^^ turnRight t.bits turns.2.2 x
  let moved (turns : Nat × Nat × Nat) (x : Nat) : Nat :=
    turnRight t.bits turns.1 x ^^^ turnRight t.bits turns.2.1 x ^^^ (x >>> turns.2.2)
  let w := moreWords m t.rounds fun w =>
    lowBits t.bits (moved t.late (ago w 2) + ago w 7 + moved t.early (ago w 15) + ago w 16)
  let round (s : List Nat) (i : Nat) : List Nat := match s with
    | [a, b, c, d, e, f, g, h] =>
        let k := cubeRootWords.getD i 0 >>> (64 - t.bits)
        let t1 := h + mixed t.second e + ((e &&& f) ^^^ (flipped t.bits e &&& g)) + k + w.getD i 0
        let t2 := mixed t.first a + ((a &&& b) ^^^ (a &&& c) ^^^ (b &&& c))
        [lowBits t.bits (t1 + t2), a, b, c, lowBits t.bits (d + t1), e, f, g]
    | s => s
  addedWords t.bits state ((List.range t.rounds).foldl round state)

/-- The bits behind the points of the square roots of eight primes. -/
def squareRootWords (from_ : Nat) : List Nat :=
  ((firstPrimes.drop from_).take 8).map (rootBits 2 64)

/-- The digest of 256 bits. -/
def sha256 : BlockDigest where
  bits := 32
  start := (squareRootWords 0).map (· >>> 32)
  step := eightStep narrowTurns
  size := 32

/-- The digest of 224 bits. -/
def sha224 : BlockDigest :=
  { sha256 with start := (squareRootWords 8).map (lowBits 32), size := 28 }

/-- The digest of 512 bits. -/
def sha512 : BlockDigest where
  bits := 64
  start := squareRootWords 0
  step := eightStep wideTurns
  size := 64

/-- The digest of 384 bits. -/
def sha384 : BlockDigest := { sha512 with start := squareRootWords 8, size := 48 }

/-- One block of the digest that mixes states by their bits. -/
def sm3Step (state : List Nat) (m : Array Nat) : List Nat :=
  let left (n x : Nat) : Nat := turnLeft 32 n x
  let w := moreWords m 68 fun w =>
    let x := ago w 16 ^^^ ago w 9 ^^^ left 15 (ago w 3)
    x ^^^ left 15 x ^^^ left 23 x ^^^ left 7 (ago w 13) ^^^ ago w 6
  let round (s : List Nat) (i : Nat) : List Nat := match s with
    | [a, b, c, d, e, f, g, h] =>
        let early := i < 16
        let k := left (i % 32) (if early then 0x79cc4519 else 0x7a879d8a)
        let s1 := left 7 (lowBits 32 (left 12 a + e + k))
        let s2 := s1 ^^^ left 12 a
        let ff := if early then a ^^^ b ^^^ c else (a &&& b) ||| (a &&& c) ||| (b &&& c)
        let gg := if early then e ^^^ f ^^^ g else (e &&& f) ||| (flipped 32 e &&& g)
        let t1 := lowBits 32 (ff + d + s2 + (w.getD i 0 ^^^ w.getD (i + 4) 0))
        let t2 := lowBits 32 (gg + h + s1 + w.getD i 0)
        [t1, a, left 9 b, c, t2 ^^^ left 9 t2 ^^^ left 17 t2, e, left 19 f, g]
    | s => s
  List.zipWith (· ^^^ ·) state ((List.range 64).foldl round state)

/-- Another digest of 256 bits. -/
def sm3 : BlockDigest where
  bits := 32
  start := [0x7380166f, 0x4914b2b9, 0x172442d7, 0xda8a0600, 0xa96f30bc, 0x163138aa, 0xe38dee4d,
    0xb0fb0e4e]
  step := sm3Step
  size := 32

/-! ### A digest of any length

This digest keeps twice as many words as it shows, and counts the bytes that it has met. -/

/-- In which order the words of a block are taken, round by round. -/
def blakeOrders : List (List Nat) :=
  [[0, 1, 2, 3, 4, 5, 6, 7, 8, 9, 10, 11, 12, 13, 14, 15],
    [14, 10, 4, 8, 9, 15, 13, 6, 1, 12, 0, 2, 11, 7, 5, 3],
    [11, 8, 12, 0, 5, 2, 15, 13, 10, 14, 3, 6, 7, 1, 9, 4],
    [7, 9, 3, 1, 13, 12, 11, 14, 2, 6, 5, 10, 4, 0, 15, 8],
    [9, 0, 5, 7, 2, 4, 10, 15, 14, 1, 11, 12, 6, 8, 3, 13],
    [2, 12, 6, 10, 0, 11, 8, 3, 4, 13, 7, 5, 15, 14, 1, 9],
    [12, 5, 1, 15, 14, 13, 4, 10, 0, 7, 6, 3, 9, 2, 8, 11],
    [13, 11, 7, 14, 12, 1, 3, 9, 5, 0, 15, 4, 8, 6, 2, 10],
    [6, 15, 14, 9, 11, 3, 0, 8, 12, 2, 13, 7, 1, 4, 10, 5],
    [10, 2, 8, 4, 7, 6, 1, 5, 15, 11, 9, 14, 3, 12, 13, 0]]

/-- The places of the words that are mixed in a round: the columns of a square, then its
diagonals. -/
def blakePlaces : List (Nat × Nat × Nat × Nat) :=
  [(0, 4, 8, 12), (1, 5, 9, 13), (2, 6, 10, 14), (3, 7, 11, 15),
    (0, 5, 10, 15), (1, 6, 11, 12), (2, 7, 8, 13), (3, 4, 9, 14)]

/-- Mix two words into four of the state. -/
def blakeMix (v : Array Nat) (places : Nat × Nat × Nat × Nat) (x y : Nat) : Array Nat :=
  let (i, j, k, l) := places
  let get (n : Nat) : Nat := v.getD n 0
  let a := lowBits 64 (get i + get j + x)
  let d := turnRight 64 32 (get l ^^^ a)
  let c := lowBits 64 (get k + d)
  let b := turnRight 64 24 (get j ^^^ c)
  let a := lowBits 64 (a + b + y)
  let d := turnRight 64 16 (d ^^^ a)
  let c := lowBits 64 (c + d)
  let b := turnRight 64 63 (b ^^^ c)
  (((v.setIfInBounds i a).setIfInBounds j b).setIfInBounds k c).setIfInBounds l d

/-- One block, given how many bytes there are up to its end, and whether it is the last. -/
def blakeStep (h : List Nat) (m : Array Nat) (count : Nat) (isLast : Bool) : List Nat :=
  let start := squareRootWords 0
  let second := start.zipIdx.map fun (w, i) =>
    if i = 4 then w ^^^ lowBits 64 count
    else if i = 5 then w ^^^ (count >>> 64)
    else if i = 6 && isLast then flipped 64 w
    else w
  let v := (List.range 12).foldl (fun v round =>
    let order := blakeOrders.getD (round % 10) []
    blakePlaces.zipIdx.foldl (fun v (places, i) =>
      blakeMix v places (m.getD (order.getD (2 * i) 0) 0) (m.getD (order.getD (2 * i + 1) 0) 0)) v)
    (h ++ second).toArray
  h.zipIdx.map fun (w, i) => w ^^^ v.getD i 0 ^^^ v.getD (i + 8) 0

/-- The digest that has a number of bytes. -/
def blake2b (size : Nat) (bytes : ByteArray) : List UInt8 :=
  let start := (squareRootWords 0).zipIdx.map fun (w, i) =>
    if i = 0 then w ^^^ 0x01010000 ^^^ size else w
  let blocks := max 1 ((bytes.size + 127) / 128)
  let filled := bytes ++ ⟨Array.replicate (128 * blocks - bytes.size) 0⟩
  let state := (List.range blocks).foldl (fun h i =>
    let isLast := i + 1 = blocks
    blakeStep h (wordsOf 64 true filled (128 * i))
      (if isLast then bytes.size else 128 * (i + 1)) isLast) start
  (state.flatMap (bytesOfWord 64 true)).take size

end ToyLang.Digest
