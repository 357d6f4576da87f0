/-!
# SHA-256

The SHA-256 digest of FIPS 180-4: the message is padded with a one bit, zeros and its bit
length to a multiple of 64 octets, and each block is compressed into the eight-word state with
64 rounds of 32-bit modular arithmetic. The digest is the final state, big-endian.

HMAC-SHA256 (`hmacSha256`) is the keyed digest of RFC 2104 over SHA-256: a key longer than a block is first digested, the
key is padded with zeros to one block, and the digest of the message under the inner pad is
digested again under the outer pad.
-/

namespace CampusLedger.Crypto.Sha256

/-- The round constants: the first 32 bits of the fractional parts of the cube roots of the
first 64 primes. -/
def roundConstants : Array UInt32 := #[
  0x428a2f98, 0x71374491, 0xb5c0fbcf, 0xe9b5dba5, 0x3956c25b, 0x59f111f1, 0x923f82a4, 0xab1c5ed5,
  0xd807aa98, 0x12835b01, 0x243185be, 0x550c7dc3, 0x72be5d74, 0x80deb1fe, 0x9bdc06a7, 0xc19bf174,
  0xe49b69c1, 0xefbe4786, 0x0fc19dc6, 0x240ca1cc, 0x2de92c6f, 0x4a7484aa, 0x5cb0a9dc, 0x76f988da,
  0x983e5152, 0xa831c66d, 0xb00327c8, 0xbf597fc7, 0xc6e00bf3, 0xd5a79147, 0x06ca6351, 0x14292967,
  0x27b70a85, 0x2e1b2138, 0x4d2c6dfc, 0x53380d13, 0x650a7354, 0x766a0abb, 0x81c2c92e, 0x92722c85,
  0xa2bfe8a1, 0xa81a664b, 0xc24b8b70, 0xc76c51a3, 0xd192e819, 0xd6990624, 0xf40e3585, 0x106aa070,
  0x19a4c116, 0x1e376c08, 0x2748774c, 0x34b0bcb5, 0x391c0cb3, 0x4ed8aa4a, 0x5b9cca4f, 0x682e6ff3,
  0x748f82ee, 0x78a5636f, 0x84c87814, 0x8cc70208, 0x90befffa, 0xa4506ceb, 0xbef9a3f7, 0xc67178f2]

/-- The initial state: the first 32 bits of the fractional parts of the square roots of the
first eight primes. -/
def initialState : Array UInt32 :=
  #[0x6a09e667, 0xbb67ae85, 0x3c6ef372, 0xa54ff53a, 0x510e527f, 0x9b05688c, 0x1f83d9ab, 0x5be0cd19]

def rotr (x : UInt32) (n : UInt32) : UInt32 := (x >>> n) ||| (x <<< (32 - n))

/-- The word of four big-endian octets. -/
def wordAt (block : Array UInt8) (i : Nat) : UInt32 :=
  (block[4 * i]!.toUInt32 <<< 24) ||| (block[4 * i + 1]!.toUInt32 <<< 16) |||
    (block[4 * i + 2]!.toUInt32 <<< 8) ||| block[4 * i + 3]!.toUInt32

def schedule (block : Array UInt8) : Array UInt32 := Id.run do
  let mut w : Array UInt32 := (List.range 16).toArray.map (wordAt block)
  for i in [16:64] do
    let x := w[i - 15]!
    let y := w[i - 2]!
    let s0 := rotr x 7 ^^^ rotr x 18 ^^^ (x >>> 3)
    let s1 := rotr y 17 ^^^ rotr y 19 ^^^ (y >>> 10)
    w := w.push (w[i - 16]! + s0 + w[i - 7]! + s1)
  return w

def compress (h : Array UInt32) (block : Array UInt8) : Array UInt32 := Id.run do
  let w := schedule block
  let mut a := h[0]!
  let mut b := h[1]!
  let mut c := h[2]!
  let mut d := h[3]!
  let mut e := h[4]!
  let mut f := h[5]!
  let mut g := h[6]!
  let mut k := h[7]!
  for i in [0:64] do
    let s1 := rotr e 6 ^^^ rotr e 11 ^^^ rotr e 25
    let ch := (e &&& f) ^^^ ((~~~ e) &&& g)
    let t1 := k + s1 + ch + roundConstants[i]! + w[i]!
    let s0 := rotr a 2 ^^^ rotr a 13 ^^^ rotr a 22
    let maj := (a &&& b) ^^^ (a &&& c) ^^^ (b &&& c)
    let t2 := s0 + maj
    k := g
    g := f
    f := e
    e := d + t1
    d := c
    c := b
    b := a
    a := t1 + t2
  return #[h[0]! + a, h[1]! + b, h[2]! + c, h[3]! + d, h[4]! + e, h[5]! + f, h[6]! + g, h[7]! + k]

/-- The message padded to whole blocks: a one bit, zeros, and the bit length in 64 bits. -/
def pad (msg : List UInt8) : List UInt8 :=
  let len := msg.length
  let zeros := (64 + 56 - (len + 1) % 64) % 64
  let bits := len * 8
  msg ++ [0x80] ++ List.replicate zeros 0 ++
    (List.range 8).reverse.map fun i => UInt8.ofNat (bits / Nat.pow 256 i % 256)

def blocks (bs : List UInt8) : List (Array UInt8) :=
  (List.range (bs.length / 64)).map fun i => ((bs.drop (64 * i)).take 64).toArray

def digest (msg : List UInt8) : List UInt8 :=
  let h := (blocks (pad msg)).foldl compress initialState
  h.toList.flatMap fun (x : UInt32) =>
    [UInt8.ofNat (x >>> 24).toNat, UInt8.ofNat ((x >>> 16) &&& 0xff).toNat,
      UInt8.ofNat ((x >>> 8) &&& 0xff).toNat, UInt8.ofNat (x &&& 0xff).toNat]

end CampusLedger.Crypto.Sha256

namespace CampusLedger.Crypto

/-- The HMAC-SHA256 tag of a message under a key. -/
def hmacSha256 (key msg : List UInt8) : List UInt8 :=
  let k := if key.length > 64 then Sha256.digest key else key
  let k := k ++ List.replicate (64 - k.length) 0
  let inner := k.map (· ^^^ 0x36)
  let outer := k.map (· ^^^ 0x5c)
  Sha256.digest (outer ++ Sha256.digest (inner ++ msg))

end CampusLedger.Crypto
