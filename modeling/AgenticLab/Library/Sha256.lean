import Mathlib.Data.List.GetD

/-! # SHA-256 (FIPS 180-4) on byte lists -/

namespace Sha2

/-- The first 32 bits of the fractional parts of the cube roots of the first 64 primes. -/
def roundConstants : List UInt32 :=
  [0x428a2f98, 0x71374491, 0xb5c0fbcf, 0xe9b5dba5, 0x3956c25b, 0x59f111f1, 0x923f82a4, 0xab1c5ed5,
    0xd807aa98, 0x12835b01, 0x243185be, 0x550c7dc3, 0x72be5d74, 0x80deb1fe, 0x9bdc06a7, 0xc19bf174,
    0xe49b69c1, 0xefbe4786, 0x0fc19dc6, 0x240ca1cc, 0x2de92c6f, 0x4a7484aa, 0x5cb0a9dc, 0x76f988da,
    0x983e5152, 0xa831c66d, 0xb00327c8, 0xbf597fc7, 0xc6e00bf3, 0xd5a79147, 0x06ca6351, 0x14292967,
    0x27b70a85, 0x2e1b2138, 0x4d2c6dfc, 0x53380d13, 0x650a7354, 0x766a0abb, 0x81c2c92e, 0x92722c85,
    0xa2bfe8a1, 0xa81a664b, 0xc24b8b70, 0xc76c51a3, 0xd192e819, 0xd6990624, 0xf40e3585, 0x106aa070,
    0x19a4c116, 0x1e376c08, 0x2748774c, 0x34b0bcb5, 0x391c0cb3, 0x4ed8aa4a, 0x5b9cca4f, 0x682e6ff3,
    0x748f82ee, 0x78a5636f, 0x84c87814, 0x8cc70208, 0x90befffa, 0xa4506ceb, 0xbef9a3f7, 0xc67178f2]

/-- The eight working variables. -/
structure State where
  a : UInt32
  b : UInt32
  c : UInt32
  d : UInt32
  e : UInt32
  f : UInt32
  g : UInt32
  h : UInt32
  deriving DecidableEq

def initialState : State :=
  ⟨0x6a09e667, 0xbb67ae85, 0x3c6ef372, 0xa54ff53a, 0x510e527f, 0x9b05688c, 0x1f83d9ab, 0x5be0cd19⟩

def State.words (s : State) : List UInt32 := [s.a, s.b, s.c, s.d, s.e, s.f, s.g, s.h]

def State.add (s t : State) : State :=
  ⟨s.a + t.a, s.b + t.b, s.c + t.c, s.d + t.d, s.e + t.e, s.f + t.f, s.g + t.g, s.h + t.h⟩

def rotateRight (x : UInt32) (n : UInt32) : UInt32 := x >>> n ||| x <<< (32 - n)

/-- The next word of the message schedule; the words so far are listed backwards. -/
def scheduleWord (words : List UInt32) : UInt32 :=
  let w2 := words.getD 1 0
  let w15 := words.getD 14 0
  let small0 := rotateRight w15 7 ^^^ rotateRight w15 18 ^^^ w15 >>> 3
  let small1 := rotateRight w2 17 ^^^ rotateRight w2 19 ^^^ w2 >>> 10
  words.getD 15 0 + small0 + words.getD 6 0 + small1

def extendSchedule : ℕ → List UInt32 → List UInt32
  | 0, words => words
  | count + 1, words => extendSchedule count (scheduleWord words :: words)

def round (s : State) (constant word : UInt32) : State :=
  let big1 := rotateRight s.e 6 ^^^ rotateRight s.e 11 ^^^ rotateRight s.e 25
  let choice := s.e &&& s.f ^^^ ~~~s.e &&& s.g
  let temp1 := s.h + big1 + choice + constant + word
  let big0 := rotateRight s.a 2 ^^^ rotateRight s.a 13 ^^^ rotateRight s.a 22
  let majority := s.a &&& s.b ^^^ s.a &&& s.c ^^^ s.b &&& s.c
  ⟨temp1 + (big0 + majority), s.a, s.b, s.c, s.d + temp1, s.e, s.f, s.g⟩

def compress (s : State) (block : List UInt32) : State :=
  let words := (extendSchedule 48 block.reverse).reverse
  s.add ((roundConstants.zip words).foldl (fun t pair => round t pair.1 pair.2) s)

def bigEndianBytes : ℕ → ℕ → List UInt8
  | 0, _ => []
  | count + 1, value => bigEndianBytes count (value / 256) ++ [UInt8.ofNat value]

def pad (message : List UInt8) : List UInt8 :=
  message ++ 0x80 :: List.replicate ((119 - message.length % 64) % 64) 0 ++
    bigEndianBytes 8 (8 * message.length)

def bytesToWords : List UInt8 → List UInt32
  | b3 :: b2 :: b1 :: b0 :: rest =>
    (b3.toUInt32 <<< 24 ||| b2.toUInt32 <<< 16 ||| b1.toUInt32 <<< 8 ||| b0.toUInt32) ::
      bytesToWords rest
  | _ => []

/-- Compress `count` blocks of sixteen words. -/
def absorb : ℕ → State → List UInt32 → State
  | 0, s, _ => s
  | count + 1, s, words => absorb count (compress s (words.take 16)) (words.drop 16)

def digest (message : List UInt8) : State :=
  let padded := pad message
  absorb (padded.length / 64) initialState (bytesToWords padded)

def hexCharacters : List Char := "0123456789abcdef".toList

/-- The lowest `count` hexadecimal digits of a number, most significant first. -/
def hexDigits : ℕ → ℕ → List Char
  | 0, _ => []
  | count + 1, value => hexDigits count (value / 16) ++ [hexCharacters.getD (value % 16) '0']

@[simp] theorem hexDigits_length (count value : ℕ) : (hexDigits count value).length = count := by
  induction count generalizing value with
  | zero => rfl
  | succ count ih => simp [hexDigits, ih]

theorem mem_hexDigits {count value : ℕ} {character : Char} (h : character ∈ hexDigits count value) :
    character ∈ hexCharacters := by
  induction count generalizing value with
  | zero => simp [hexDigits] at h
  | succ count ih =>
    rcases List.mem_append.mp h with h | h
    · exact ih h
    · have hlt : value % 16 < hexCharacters.length := Nat.mod_lt _ (by decide)
      rw [List.mem_singleton.mp h, List.getD_eq_getElem _ _ hlt]
      exact List.getElem_mem hlt

def hexdigest (message : List UInt8) : List Char :=
  (digest message).words.flatMap (fun word => hexDigits 8 word.toNat)

@[simp] theorem hexdigest_length (message : List UInt8) : (hexdigest message).length = 64 := by
  simp [hexdigest, State.words]

theorem mem_hexdigest {message : List UInt8} {character : Char}
    (h : character ∈ hexdigest message) : character ∈ hexCharacters := by
  obtain ⟨word, -, hword⟩ := List.mem_flatMap.mp h
  exact mem_hexDigits hword

example : hexdigest [0x61, 0x62, 0x63] =
    "ba7816bf8f01cfea414140de5dae2223b00361a396177a9cb410ff61f20015ad".toList := by
  decide +kernel

end Sha2
