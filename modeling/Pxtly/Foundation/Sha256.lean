/-
This file gives the hash function SHA-256 on byte strings.
-/

import Pxtly.Foundation.Bytes

namespace Pxtly.Foundation

namespace Sha256

def roundConstants : List UInt32 := [
  0x428a2f98, 0x71374491, 0xb5c0fbcf, 0xe9b5dba5, 0x3956c25b, 0x59f111f1, 0x923f82a4, 0xab1c5ed5,
  0xd807aa98, 0x12835b01, 0x243185be, 0x550c7dc3, 0x72be5d74, 0x80deb1fe, 0x9bdc06a7, 0xc19bf174,
  0xe49b69c1, 0xefbe4786, 0x0fc19dc6, 0x240ca1cc, 0x2de92c6f, 0x4a7484aa, 0x5cb0a9dc, 0x76f988da,
  0x983e5152, 0xa831c66d, 0xb00327c8, 0xbf597fc7, 0xc6e00bf3, 0xd5a79147, 0x06ca6351, 0x14292967,
  0x27b70a85, 0x2e1b2138, 0x4d2c6dfc, 0x53380d13, 0x650a7354, 0x766a0abb, 0x81c2c92e, 0x92722c85,
  0xa2bfe8a1, 0xa81a664b, 0xc24b8b70, 0xc76c51a3, 0xd192e819, 0xd6990624, 0xf40e3585, 0x106aa070,
  0x19a4c116, 0x1e376c08, 0x2748774c, 0x34b0bcb5, 0x391c0cb3, 0x4ed8aa4a, 0x5b9cca4f, 0x682e6ff3,
  0x748f82ee, 0x78a5636f, 0x84c87814, 0x8cc70208, 0x90befffa, 0xa4506ceb, 0xbef9a3f7, 0xc67178f2]

/-- These are the eight working variables. -/
structure State where
  a : UInt32
  b : UInt32
  c : UInt32
  d : UInt32
  e : UInt32
  f : UInt32
  g : UInt32
  h : UInt32

def initial : State where
  a := 0x6a09e667
  b := 0xbb67ae85
  c := 0x3c6ef372
  d := 0xa54ff53a
  e := 0x510e527f
  f := 0x9b05688c
  g := 0x1f83d9ab
  h := 0x5be0cd19

def rotateRight (word count : UInt32) : UInt32 := word >>> count ||| word <<< (32 - count)

def smallSigma0 (word : UInt32) : UInt32 := rotateRight word 7 ^^^ rotateRight word 18 ^^^ word >>> 3
def smallSigma1 (word : UInt32) : UInt32 := rotateRight word 17 ^^^ rotateRight word 19 ^^^ word >>> 10
def bigSigma0 (word : UInt32) : UInt32 :=
  rotateRight word 2 ^^^ rotateRight word 13 ^^^ rotateRight word 22
def bigSigma1 (word : UInt32) : UInt32 :=
  rotateRight word 6 ^^^ rotateRight word 11 ^^^ rotateRight word 25

def choose (x y z : UInt32) : UInt32 := (x &&& y) ^^^ (~~~x &&& z)
def majority (x y z : UInt32) : UInt32 := (x &&& y) ^^^ (x &&& z) ^^^ (y &&& z)

def round (state : State) (constant word : UInt32) : State :=
  let first := state.h + bigSigma1 state.e + choose state.e state.f state.g + constant + word
  let second := bigSigma0 state.a + majority state.a state.b state.c
  ⟨first + second, state.a, state.b, state.c, state.d + first, state.e, state.f, state.g⟩

/-- The window holds the sixteen next words of the message schedule. -/
def rounds : List UInt32 → List UInt32 → State → State
  | constant :: constants, word :: window, state =>
      let next := smallSigma1 (window.getD 13 0) + window.getD 8 0 + smallSigma0 (window.getD 0 0) + word
      rounds constants (window ++ [next]) (round state constant word)
  | _, _, state => state

def words : Nat → Bytes → List UInt32
  | 0, _ => []
  | count + 1, bytes => UInt32.ofNat (readBigEndian (bytes.take 4)) :: words count (bytes.drop 4)

def compress (state : State) (block : Bytes) : State :=
  let last := rounds roundConstants (words 16 block) state
  ⟨state.a + last.a, state.b + last.b, state.c + last.c, state.d + last.d, state.e + last.e,
    state.f + last.f, state.g + last.g, state.h + last.h⟩

/-- A one, zeros, and the length in bits fill the last block. -/
def pad (message : Bytes) : Bytes :=
  message ++ 0x80 :: List.replicate ((119 - message.length % 64) % 64) 0 ++
    bigEndian 8 (8 * message.length)

def blocks : Nat → Bytes → State → State
  | 0, _, state => state
  | count + 1, bytes, state => blocks count (bytes.drop 64) (compress state (bytes.take 64))

def State.bytes (state : State) : Bytes :=
  [state.a, state.b, state.c, state.d, state.e, state.f, state.g, state.h].flatMap
    fun word => bigEndian 4 word.toNat

end Sha256

/-- This is `hashlib.sha256(message).digest()`. -/
def sha256 (message : Bytes) : Bytes :=
  let padded := Sha256.pad message
  (Sha256.blocks (padded.length / 64) padded Sha256.initial).bytes

@[simp] theorem length_sha256 (message : Bytes) : (sha256 message).length = 32 := by
  simp [sha256, Sha256.State.bytes]

example : hex (sha256 (encode "abc")) = "ba7816bf8f01cfea414140de5dae2223b00361a396177a9cb410ff61f20015ad" := by
  decide +kernel

end Pxtly.Foundation
