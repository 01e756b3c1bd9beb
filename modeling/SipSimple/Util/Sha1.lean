import SipSimple.Library.BlockStream

/-!
# SHA-1

`util/_sha1.h`, the hash that the file transfers keep while a file is received. The context is the
five state variables, the number of blocks and the bytes of the last block; of the block buffer only
the bytes before `index` are kept. Pickling (`__reduce__`, `__setstate__`) saves just these.
-/

namespace SipSimple

/-- A byte string. -/
abbrev Bytes := List UInt8

namespace Sha1

/-- `state` and `count` of `sha1_context`. -/
structure Variables where
  a : UInt32
  b : UInt32
  c : UInt32
  d : UInt32
  e : UInt32
  count : UInt64
  deriving DecidableEq, Repr

/-- `sha1_context`. -/
abbrev Context := BlockStream Variables UInt8

def blockSize : Nat := 64

/-- `sha1_init`. -/
def init : Context :=
  ⟨⟨0x67452301, 0xEFCDAB89, 0x98BADCFE, 0x10325476, 0xC3D2E1F0, 0⟩, []⟩

/-- `READ_UINT32`. -/
def readUInt32 (p0 p1 p2 p3 : UInt8) : UInt32 :=
  p0.toUInt32 <<< 24 ||| p1.toUInt32 <<< 16 ||| p2.toUInt32 <<< 8 ||| p3.toUInt32

/-- `ROTL32`. -/
def rotl32 (n x : UInt32) : UInt32 := x <<< n ||| x >>> (32 - n)

def f1 (x y z : UInt32) : UInt32 := z ^^^ (x &&& (y ^^^ z))

def f2 (x y z : UInt32) : UInt32 := x ^^^ y ^^^ z

def f3 (x y z : UInt32) : UInt32 := (x &&& y) ||| (z &&& (x ||| y))

def f4 (x y z : UInt32) : UInt32 := f2 x y z

/-- The function and the constant of a round. -/
def roundFunction (i : Nat) : (UInt32 → UInt32 → UInt32 → UInt32) × UInt32 :=
  if i < 20 then (f1, 0x5A827999)
  else if i < 40 then (f2, 0x6ED9EBA1)
  else if i < 60 then (f3, 0x8F1BBCDC)
  else (f4, 0xCA62C1D6)

/-- `expand`: the word of the round, which replaces the one of sixteen rounds ago. -/
def expand (w : List UInt32) (i : Nat) : UInt32 :=
  rotl32 1 (w.getD (i % 16) 0 ^^^ w.getD ((i - 14) % 16) 0 ^^^ w.getD ((i - 8) % 16) 0 ^^^
    w.getD ((i - 3) % 16) 0)

/-- `subRound`, with the variables renamed for the next round. -/
def subRound (s : Variables) (i : Nat) (data : UInt32) : Variables :=
  let (f, k) := roundFunction i
  { s with
    a := s.e + rotl32 5 s.a + f s.b s.c s.d + k + data
    b := s.a
    c := rotl32 30 s.b
    d := s.c
    e := s.d }

/-- The rounds from `i` on, with the sixteen words of the circular buffer. -/
def rounds : Nat → Nat → List UInt32 → Variables → Variables
  | 0, _, _, s => s
  | count + 1, i, w, s =>
      if i < 16 then rounds count (i + 1) w (subRound s i (w.getD i 0))
      else
        let data := expand w i
        rounds count (i + 1) (w.set (i % 16) data) (subRound s i data)

/-- The sixteen words of a block. -/
def words : Nat → Bytes → List UInt32
  | count + 1, p0 :: p1 :: p2 :: p3 :: rest => readUInt32 p0 p1 p2 p3 :: words count rest
  | _, _ => []

/-- `sha1_compress`, and the count of the block. -/
def compress (s : Variables) (input : Bytes) : Variables :=
  let s' := rounds 80 0 (words 16 input) s
  ⟨s.a + s'.a, s.b + s'.b, s.c + s'.c, s.d + s'.d, s.e + s'.e, s.count + 1⟩

/-- `sha1_update`. -/
def update (context : Context) (data : Bytes) : Context :=
  BlockStream.update compress blockSize context data

/-- The bytes of a word, the highest first. -/
def wordBytes (x : UInt32) : Bytes :=
  [(x >>> 24).toUInt8, (x >>> 16).toUInt8, (x >>> 8).toUInt8, x.toUInt8]

/-- `bit_count` in eight bytes. -/
def bitCount (context : Context) : Bytes :=
  let bits := context.state.count <<< 9 ||| context.block.length.toUInt64 <<< 3
  wordBytes (bits >>> 32).toUInt32 ++ wordBytes bits.toUInt32

/-- `sha1_digest`. -/
def digest (context : Context) : Bytes :=
  let block := context.block ++ [0x80]
  let s :=
    if block.length > blockSize - 8 then
      -- no room for the length in this block
      compress (compress context.state (block ++ List.replicate (blockSize - block.length) 0))
        (List.replicate (blockSize - 8) 0 ++ bitCount context)
    else
      compress context.state
        (block ++ List.replicate (blockSize - 8 - block.length) 0 ++ bitCount context)
  wordBytes s.a ++ wordBytes s.b ++ wordBytes s.c ++ wordBytes s.d ++ wordBytes s.e

/-- The context that has been given these bytes. -/
def ofBytes (data : Bytes) : Context := update init data

@[simp] theorem ofBytes_nil : ofBytes [] = init := rfl

/-- **The context depends on the bytes only**, not on the pieces they came in. -/
theorem update_ofBytes (first second : Bytes) :
    update (ofBytes first) second = ofBytes (first ++ second) :=
  BlockStream.update_append (by decide) (by decide) first second

/-- The digest of "abc". -/
example : digest (ofBytes [0x61, 0x62, 0x63]) =
    [0xA9, 0x99, 0x3E, 0x36, 0x47, 0x06, 0x81, 0x6A, 0xBA, 0x3E, 0x25, 0x71, 0x78, 0x50, 0xC2,
      0x6C, 0x9C, 0xD0, 0xD8, 0x9D] := by
  decide +kernel

end Sha1

end SipSimple
