import StructuralEdit.Shell.Octets
/-!
Checksums and digests of data.
-/
namespace StructuralEdit.Shell.Digest

def hex (width n : Nat) : Text := padLeft width (digitsIn 16 n) '0'

def bigEndian (size n : Nat) : List Nat :=
  ((List.range size).map fun i => n / Nat.pow 256 i % 256).reverse

def littleEndian (size n : Nat) : List Nat :=
  (List.range size).map fun i => n / Nat.pow 256 i % 256

def fromBigEndian (bs : List Nat) : Nat := bs.foldl (fun n b => n * 256 + b) 0

def bytesOf (t : Text) : List Nat := t.map fun c => c.toNat % 256

/-- Data with a mark, zeros and the number of bits at the end, in blocks. -/
def padded (block sizeBytes : Nat) (order : Nat → Nat → List Nat) (t : Text) : List Nat :=
  let bs := bytesOf t
  let used := bs.length + 1 + sizeBytes
  let zeros := (block - used % block) % block
  bs ++ 128 :: List.replicate zeros 0 ++ order sizeBytes (bs.length * 8)

def blocks (size : Nat) : Nat → List Nat → List (List Nat)
  | 0, _ => []
  | n + 1, bs => if bs.isEmpty then [] else bs.take size :: blocks size n (bs.drop size)

/-! ### Words of 32 bits -/

def word32 (n : Nat) : UInt32 := UInt32.ofNat n

def rotateLeft (x : UInt32) (n : Nat) : UInt32 :=
  (x <<< UInt32.ofNat n) ||| (x >>> UInt32.ofNat (32 - n))

def rotateRight (x : UInt32) (n : Nat) : UInt32 := rotateLeft x (32 - n)

def rotateRight64 (x : UInt64) (n : Nat) : UInt64 :=
  (x >>> UInt64.ofNat n) ||| (x <<< UInt64.ofNat (64 - n))

/-! ### MD5 -/

/-- The integer parts of the absolute sines of 1 to 64, scaled to 32 bits. -/
def sines : Array UInt32 := #[
  0xd76aa478, 0xe8c7b756, 0x242070db, 0xc1bdceee, 0xf57c0faf, 0x4787c62a, 0xa8304613, 0xfd469501,
  0x698098d8, 0x8b44f7af, 0xffff5bb1, 0x895cd7be, 0x6b901122, 0xfd987193, 0xa679438e, 0x49b40821,
  0xf61e2562, 0xc040b340, 0x265e5a51, 0xe9b6c7aa, 0xd62f105d, 0x02441453, 0xd8a1e681, 0xe7d3fbc8,
  0x21e1cde6, 0xc33707d6, 0xf4d50d87, 0x455a14ed, 0xa9e3e905, 0xfcefa3f8, 0x676f02d9, 0x8d2a4c8a,
  0xfffa3942, 0x8771f681, 0x6d9d6122, 0xfde5380c, 0xa4beea44, 0x4bdecfa9, 0xf6bb4b60, 0xbebfbc70,
  0x289b7ec6, 0xeaa127fa, 0xd4ef3085, 0x04881d05, 0xd9d4d039, 0xe6db99e5, 0x1fa27cf8, 0xc4ac5665,
  0xf4292244, 0x432aff97, 0xab9423a7, 0xfc93a039, 0x655b59c3, 0x8f0ccc92, 0xffeff47d, 0x85845dd1,
  0x6fa87e4f, 0xfe2ce6e0, 0xa3014314, 0x4e0811a1, 0xf7537e82, 0xbd3af235, 0x2ad7d2bb, 0xeb86d391]

def shifts5 : Array Nat := #[7, 12, 17, 22, 5, 9, 14, 20, 4, 11, 16, 23, 6, 10, 15, 21]

def md5 (t : Text) : Text :=
  let data := padded 64 8 littleEndian t
  let step (s : UInt32 × UInt32 × UInt32 × UInt32) (block : List Nat) :
      UInt32 × UInt32 × UInt32 × UInt32 :=
    let words := ((blocks 4 17 block).map fun w => word32 (fromBigEndian w.reverse)).toArray
    let (a0, b0, c0, d0) := s
    let (a, b, c, d) := (List.range 64).foldl (fun (a, b, c, d) i =>
      let (f, g) : UInt32 × Nat :=
        if i < 16 then ((b &&& c) ||| (~~~b &&& d), i)
        else if i < 32 then ((d &&& b) ||| (~~~d &&& c), (5 * i + 1) % 16)
        else if i < 48 then (b ^^^ c ^^^ d, (3 * i + 5) % 16)
        else (c ^^^ (b ||| ~~~d), (7 * i) % 16)
      let x := a + f + (sines[i]?).getD 0 + (words[g]?).getD 0
      (d, b + rotateLeft x ((shifts5[i / 16 * 4 + i % 4]?).getD 0), b, c)) (a0, b0, c0, d0)
    (a0 + a, b0 + b, c0 + c, d0 + d)
  let (a, b, c, d) := (blocks 64 (data.length + 1) data).foldl step
    (0x67452301, 0xefcdab89, 0x98badcfe, 0x10325476)
  [a, b, c, d].flatMap fun w => (littleEndian 4 w.toNat).flatMap (hex 2)

/-! ### SHA-1 -/

def sha1 (t : Text) : Text :=
  let data := padded 64 8 bigEndian t
  let step (s : UInt32 × UInt32 × UInt32 × UInt32 × UInt32) (block : List Nat) :
      UInt32 × UInt32 × UInt32 × UInt32 × UInt32 :=
    let first := ((blocks 4 17 block).map fun w => word32 (fromBigEndian w)).toArray
    let words := (List.range 64).foldl (fun (w : Array UInt32) i =>
      let at_ (k : Nat) : UInt32 := (w[i + k]?).getD 0
      w.push (rotateLeft (at_ 13 ^^^ at_ 8 ^^^ at_ 2 ^^^ at_ 0) 1)) first
    let (a0, b0, c0, d0, e0) := s
    let (a, b, c, d, e) := (List.range 80).foldl (fun (a, b, c, d, e) i =>
      let (f, k) : UInt32 × UInt32 :=
        if i < 20 then ((b &&& c) ||| (~~~b &&& d), 0x5a827999)
        else if i < 40 then (b ^^^ c ^^^ d, 0x6ed9eba1)
        else if i < 60 then ((b &&& c) ||| (b &&& d) ||| (c &&& d), 0x8f1bbcdc)
        else (b ^^^ c ^^^ d, 0xca62c1d6)
      (rotateLeft a 5 + f + e + k + (words[i]?).getD 0, a, rotateLeft b 30, c, d))
      (a0, b0, c0, d0, e0)
    (a0 + a, b0 + b, c0 + c, d0 + d, e0 + e)
  let (a, b, c, d, e) := (blocks 64 (data.length + 1) data).foldl step
    (0x67452301, 0xefcdab89, 0x98badcfe, 0x10325476, 0xc3d2e1f0)
  [a, b, c, d, e].flatMap fun w => hex 8 w.toNat

/-! ### SHA-2 -/

def primes (count : Nat) : List Nat :=
  ((List.range 420).drop 2).filter (fun n => ((List.range n).drop 2).all fun d => n % d ≠ 0)
    |>.take count

def root (power bits n : Nat) : Nat :=
  (List.range bits).reverse.foldl (fun r i =>
    let more := r + (1 <<< i)
    if Nat.pow more power ≤ n then more else r) 0

def rootFraction (power bits p : Nat) : Nat :=
  root power (bits + 10) (p <<< (bits * power)) % (1 <<< bits)

def constants32 : Array UInt32 := ((primes 64).map fun p => word32 (rootFraction 3 32 p)).toArray

def constants64 : Array UInt64 :=
  ((primes 80).map fun p => UInt64.ofNat (rootFraction 3 64 p)).toArray

def sha2Short (start : List UInt32) (size : Nat) (t : Text) : Text :=
  let data := padded 64 8 bigEndian t
  let ks := constants32
  let step (s : Array UInt32) (block : List Nat) : Array UInt32 :=
    let first := ((blocks 4 17 block).map fun w => word32 (fromBigEndian w)).toArray
    let words := (List.range 48).foldl (fun (w : Array UInt32) i =>
      let at_ (k : Nat) : UInt32 := (w[i + k]?).getD 0
      let x := at_ 1
      let y := at_ 14
      let s0 := rotateRight x 7 ^^^ rotateRight x 18 ^^^ (x >>> 3)
      let s1 := rotateRight y 17 ^^^ rotateRight y 19 ^^^ (y >>> 10)
      w.push (at_ 0 + s0 + at_ 9 + s1)) first
    let r := (List.range 64).foldl (fun (v : Array UInt32) i =>
      let at_ (k : Nat) : UInt32 := (v[k]?).getD 0
      let a := at_ 0
      let e := at_ 4
      let s1 := rotateRight e 6 ^^^ rotateRight e 11 ^^^ rotateRight e 25
      let choice := (e &&& at_ 5) ^^^ (~~~e &&& at_ 6)
      let t1 := at_ 7 + s1 + choice + (ks[i]?).getD 0 + (words[i]?).getD 0
      let s0 := rotateRight a 2 ^^^ rotateRight a 13 ^^^ rotateRight a 22
      let majority := (a &&& at_ 1) ^^^ (a &&& at_ 2) ^^^ (at_ 1 &&& at_ 2)
      #[t1 + s0 + majority, a, at_ 1, at_ 2, at_ 3 + t1, e, at_ 5, at_ 6]) s
    (s.zip r).map fun (x, y) => x + y
  let s := (blocks 64 (data.length + 1) data).foldl step start.toArray
  (s.toList.flatMap fun w => hex 8 w.toNat).take size

def sha2Long (start : List UInt64) (size : Nat) (t : Text) : Text :=
  let data := padded 128 16 bigEndian t
  let ks := constants64
  let step (s : Array UInt64) (block : List Nat) : Array UInt64 :=
    let first := ((blocks 8 17 block).map fun w => UInt64.ofNat (fromBigEndian w)).toArray
    let words := (List.range 64).foldl (fun (w : Array UInt64) i =>
      let at_ (k : Nat) : UInt64 := (w[i + k]?).getD 0
      let x := at_ 1
      let y := at_ 14
      let s0 := rotateRight64 x 1 ^^^ rotateRight64 x 8 ^^^ (x >>> 7)
      let s1 := rotateRight64 y 19 ^^^ rotateRight64 y 61 ^^^ (y >>> 6)
      w.push (at_ 0 + s0 + at_ 9 + s1)) first
    let r := (List.range 80).foldl (fun (v : Array UInt64) i =>
      let at_ (k : Nat) : UInt64 := (v[k]?).getD 0
      let a := at_ 0
      let e := at_ 4
      let s1 := rotateRight64 e 14 ^^^ rotateRight64 e 18 ^^^ rotateRight64 e 41
      let choice := (e &&& at_ 5) ^^^ (~~~e &&& at_ 6)
      let t1 := at_ 7 + s1 + choice + (ks[i]?).getD 0 + (words[i]?).getD 0
      let s0 := rotateRight64 a 28 ^^^ rotateRight64 a 34 ^^^ rotateRight64 a 39
      let majority := (a &&& at_ 1) ^^^ (a &&& at_ 2) ^^^ (at_ 1 &&& at_ 2)
      #[t1 + s0 + majority, a, at_ 1, at_ 2, at_ 3 + t1, e, at_ 5, at_ 6]) s
    (s.zip r).map fun (x, y) => x + y
  let s := (blocks 128 (data.length + 1) data).foldl step start.toArray
  (s.toList.flatMap fun w => hex 16 w.toNat).take size

def sha256 : Text → Text :=
  sha2Short ((primes 8).map fun p => word32 (rootFraction 2 32 p)) 64

def sha224 : Text → Text :=
  sha2Short ((((primes 16).drop 8).map fun p => word32 (rootFraction 2 64 p))) 56

def sha512 : Text → Text :=
  sha2Long ((primes 8).map fun p => UInt64.ofNat (rootFraction 2 64 p)) 128

def sha384 : Text → Text :=
  sha2Long (((primes 16).drop 8).map fun p => UInt64.ofNat (rootFraction 2 64 p)) 96

/-! ### Checksums -/

def cyclicStep (sum : Nat) (b : Nat) : Nat :=
  (List.range 8).foldl (fun s i =>
    let bit := (b >>> (7 - i)) % 2
    let high := (s >>> 31) % 2
    let s := (s <<< 1) % 4294967296
    if high != bit then s ^^^ 0x04c11db7 else s) sum

def cyclic (t : Text) : Nat :=
  let rec sizeBytes : Nat → Nat → List Nat
    | 0, _ => []
    | fuel + 1, n => if n = 0 then [] else n % 256 :: sizeBytes fuel (n / 256)
  let sum := (bytesOf t ++ sizeBytes 9 t.length).foldl cyclicStep 0
  4294967295 - sum

def turning (t : Text) : Nat :=
  (bytesOf t).foldl (fun s b => (s / 2 + s % 2 * 32768 + b) % 65536) 0

end StructuralEdit.Shell.Digest
