import ControlVault.Foundation.Bytes

namespace ControlVault.Foundation

/-!
# The hash function SHA-256

The daemon takes its hash function from a library, and no result about the
daemon depends on which function it is.  This executable definition is there
for concrete runs, so that they compute the digests the real daemon computes.
-/

namespace Sha256

def rotateRight (word amount : Nat) : Nat :=
  (word >>> amount) ||| ((word <<< (32 - amount)) % 2 ^ 32)

def roundConstants : List Nat :=
  [0x428a2f98, 0x71374491, 0xb5c0fbcf, 0xe9b5dba5, 0x3956c25b, 0x59f111f1, 0x923f82a4, 0xab1c5ed5,
   0xd807aa98, 0x12835b01, 0x243185be, 0x550c7dc3, 0x72be5d74, 0x80deb1fe, 0x9bdc06a7, 0xc19bf174,
   0xe49b69c1, 0xefbe4786, 0x0fc19dc6, 0x240ca1cc, 0x2de92c6f, 0x4a7484aa, 0x5cb0a9dc, 0x76f988da,
   0x983e5152, 0xa831c66d, 0xb00327c8, 0xbf597fc7, 0xc6e00bf3, 0xd5a79147, 0x06ca6351, 0x14292967,
   0x27b70a85, 0x2e1b2138, 0x4d2c6dfc, 0x53380d13, 0x650a7354, 0x766a0abb, 0x81c2c92e, 0x92722c85,
   0xa2bfe8a1, 0xa81a664b, 0xc24b8b70, 0xc76c51a3, 0xd192e819, 0xd6990624, 0xf40e3585, 0x106aa070,
   0x19a4c116, 0x1e376c08, 0x2748774c, 0x34b0bcb5, 0x391c0cb3, 0x4ed8aa4a, 0x5b9cca4f, 0x682e6ff3,
   0x748f82ee, 0x78a5636f, 0x84c87814, 0x8cc70208, 0x90befffa, 0xa4506ceb, 0xbef9a3f7, 0xc67178f2]

structure Working where
  (a b c d e f g h : Nat)

def initial : Working :=
  ⟨0x6a09e667, 0xbb67ae85, 0x3c6ef372, 0xa54ff53a, 0x510e527f, 0x9b05688c, 0x1f83d9ab, 0x5be0cd19⟩

def mix (state : Working) (constant word : Nat) : Working :=
  let s1 := rotateRight state.e 6 ^^^ rotateRight state.e 11 ^^^ rotateRight state.e 25
  let choice := (state.e &&& state.f) ^^^ ((state.e ^^^ 0xffffffff) &&& state.g)
  let first := state.h + s1 + choice + constant + word
  let s0 := rotateRight state.a 2 ^^^ rotateRight state.a 13 ^^^ rotateRight state.a 22
  let majority := (state.a &&& state.b) ^^^ (state.a &&& state.c) ^^^ (state.b &&& state.c)
  ⟨(first + s0 + majority) % 2 ^ 32, state.a, state.b, state.c, (state.d + first) % 2 ^ 32,
    state.e, state.f, state.g⟩

/-- The sixteen words of the schedule that are still needed, one position on. -/
def advance (window : List Nat) : List Nat :=
  let w1 := window.getD 1 0
  let w14 := window.getD 14 0
  let s0 := rotateRight w1 7 ^^^ rotateRight w1 18 ^^^ (w1 >>> 3)
  let s1 := rotateRight w14 17 ^^^ rotateRight w14 19 ^^^ (w14 >>> 10)
  window.drop 1 ++ [(window.getD 0 0 + s0 + window.getD 9 0 + s1) % 2 ^ 32]

def rounds : List Nat -> Working -> List Nat -> Working
  | [], state, _ => state
  | constant :: rest, state, window =>
    rounds rest (mix state constant (window.getD 0 0)) (advance window)

def compress (state : Working) (words : List Nat) : Working :=
  let mixed := rounds roundConstants state words
  ⟨(state.a + mixed.a) % 2 ^ 32, (state.b + mixed.b) % 2 ^ 32, (state.c + mixed.c) % 2 ^ 32,
    (state.d + mixed.d) % 2 ^ 32, (state.e + mixed.e) % 2 ^ 32, (state.f + mixed.f) % 2 ^ 32,
    (state.g + mixed.g) % 2 ^ 32, (state.h + mixed.h) % 2 ^ 32⟩

def bigEndian (bytes : Bytes) : Nat :=
  ofLittleEndian bytes.reverse

def pad (message : Bytes) : Bytes :=
  message ++ 0x80 :: List.replicate ((119 - message.length % 64) % 64) 0 ++
    (littleEndian 8 (8 * message.length)).reverse

def wordsOf (block : Bytes) : List Nat :=
  (List.range 16).map (fun index => bigEndian (slice block (4 * index) 4))

def blocks : Nat -> Bytes -> Working -> Working
  | 0, _, state => state
  | count + 1, message, state =>
    blocks count (message.drop 64) (compress state (wordsOf (message.take 64)))

def digest (state : Working) : BitVec 256 :=
  BitVec.ofNat 256 ([state.a, state.b, state.c, state.d, state.e, state.f, state.g, state.h].foldl
    (fun value word => value * 2 ^ 32 + word) 0)

end Sha256

def sha256 (message : Bytes) : BitVec 256 :=
  let padded := Sha256.pad message
  Sha256.digest (Sha256.blocks (padded.length / 64) padded Sha256.initial)

example : sha256 [0x61, 0x62, 0x63] =
    0xba7816bf8f01cfea414140de5dae2223b00361a396177a9cb410ff61f20015ad#256 := by
  decide +kernel

end ControlVault.Foundation
