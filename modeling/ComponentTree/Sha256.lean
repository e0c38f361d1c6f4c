/-!
The hash function SHA-256. A message is followed by a one bit, zeros and its length in bits up to a
multiple of 64 bytes; each block of 64 bytes is expanded to 64 words, which 64 rounds mix into a
state of eight words.
-/

namespace ComponentTree.Sha256

/-- The eight words of the state. -/
structure State where
  a : UInt32
  b : UInt32
  c : UInt32
  d : UInt32
  e : UInt32
  f : UInt32
  g : UInt32
  h : UInt32
deriving DecidableEq

/-- The state before the first block. -/
def State.start : State :=
  ⟨0x6a09e667, 0xbb67ae85, 0x3c6ef372, 0xa54ff53a, 0x510e527f, 0x9b05688c, 0x1f83d9ab, 0x5be0cd19⟩

/-- The words of a state in order. -/
def State.words (s : State) : List UInt32 :=
  [s.a, s.b, s.c, s.d, s.e, s.f, s.g, s.h]

/-- Adds two states word by word. -/
def State.add (s t : State) : State :=
  ⟨s.a + t.a, s.b + t.b, s.c + t.c, s.d + t.d, s.e + t.e, s.f + t.f, s.g + t.g, s.h + t.h⟩

/-- The constants of the rounds. -/
def roundConstants : Array UInt32 :=
  #[0x428a2f98, 0x71374491, 0xb5c0fbcf, 0xe9b5dba5, 0x3956c25b, 0x59f111f1, 0x923f82a4, 0xab1c5ed5,
    0xd807aa98, 0x12835b01, 0x243185be, 0x550c7dc3, 0x72be5d74, 0x80deb1fe, 0x9bdc06a7, 0xc19bf174,
    0xe49b69c1, 0xefbe4786, 0x0fc19dc6, 0x240ca1cc, 0x2de92c6f, 0x4a7484aa, 0x5cb0a9dc, 0x76f988da,
    0x983e5152, 0xa831c66d, 0xb00327c8, 0xbf597fc7, 0xc6e00bf3, 0xd5a79147, 0x06ca6351, 0x14292967,
    0x27b70a85, 0x2e1b2138, 0x4d2c6dfc, 0x53380d13, 0x650a7354, 0x766a0abb, 0x81c2c92e, 0x92722c85,
    0xa2bfe8a1, 0xa81a664b, 0xc24b8b70, 0xc76c51a3, 0xd192e819, 0xd6990624, 0xf40e3585, 0x106aa070,
    0x19a4c116, 0x1e376c08, 0x2748774c, 0x34b0bcb5, 0x391c0cb3, 0x4ed8aa4a, 0x5b9cca4f, 0x682e6ff3,
    0x748f82ee, 0x78a5636f, 0x84c87814, 0x8cc70208, 0x90befffa, 0xa4506ceb, 0xbef9a3f7, 0xc67178f2]

/-- Turns a word to the right. -/
def rotateRight (x n : UInt32) : UInt32 :=
  (x >>> n) ||| (x <<< (32 - n))

/-- The message, padded to whole blocks. -/
def pad (message : ByteArray) : ByteArray :=
  let zeros := (119 - message.size % 64) % 64
  let bits := 8 * message.size
  let length := (List.range 8).map fun i => UInt8.ofNat (bits >>> (8 * (7 - i)))
  message ++ ⟨(0x80 :: List.replicate zeros 0 ++ length).toArray⟩

/-- The byte at an offset. -/
def byteAt (bytes : ByteArray) (offset : Nat) : UInt32 :=
  if h : offset < bytes.size then bytes[offset].toUInt32 else 0

/-- The word of four bytes at an offset. -/
def wordAt (bytes : ByteArray) (offset : Nat) : UInt32 :=
  (byteAt bytes offset <<< 24) ||| (byteAt bytes (offset + 1) <<< 16)
    ||| (byteAt bytes (offset + 2) <<< 8) ||| byteAt bytes (offset + 3)

/-- The 64 words of the block at an offset. -/
def schedule (bytes : ByteArray) (offset : Nat) : Array UInt32 :=
  let first := ((List.range 16).map fun i => wordAt bytes (offset + 4 * i)).toArray
  (List.range 48).foldl (fun w i =>
    let x := w.getD (i + 1) 0
    let y := w.getD (i + 14) 0
    let s := rotateRight x 7 ^^^ rotateRight x 18 ^^^ (x >>> 3)
    let t := rotateRight y 17 ^^^ rotateRight y 19 ^^^ (y >>> 10)
    w.push (w.getD i 0 + s + w.getD (i + 9) 0 + t)) first

/-- One round. -/
def round (s : State) (constant word : UInt32) : State :=
  let high := rotateRight s.e 6 ^^^ rotateRight s.e 11 ^^^ rotateRight s.e 25
  let choice := (s.e &&& s.f) ^^^ ((s.e ^^^ 0xffffffff) &&& s.g)
  let t := s.h + high + choice + constant + word
  let low := rotateRight s.a 2 ^^^ rotateRight s.a 13 ^^^ rotateRight s.a 22
  let majority := (s.a &&& s.b) ^^^ (s.a &&& s.c) ^^^ (s.b &&& s.c)
  ⟨t + (low + majority), s.a, s.b, s.c, s.d + t, s.e, s.f, s.g⟩

/-- Mixes the block at an offset into the state. -/
def compress (bytes : ByteArray) (s : State) (offset : Nat) : State :=
  let w := schedule bytes offset
  let mixed := (List.range 64).foldl (fun s i =>
    round s (roundConstants.getD i 0) (w.getD i 0)) s
  mixed.add s

/-- The hash of a message. -/
def hash (message : ByteArray) : State :=
  let bytes := pad message
  (List.range (bytes.size / 64)).foldl (fun s i => compress bytes s (64 * i)) .start

/-- A word as eight hexadecimal digits in lower case. -/
def hexWord (w : UInt32) : List Char :=
  (List.range 8).map fun i => Nat.digitChar (w.toNat >>> (4 * (7 - i)) % 16)

/-- The hash of a message in hexadecimal digits. -/
def hexDigest (message : ByteArray) : List Char :=
  (hash message).words.flatMap hexWord

end ComponentTree.Sha256
