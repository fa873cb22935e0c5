/-!
# Keccak-256

The hash behind address checksums: a sponge over twenty-five 64-bit lanes that
takes in 136 bytes at a time and gives out 32.  Whatever needs the hash takes it
as a `Digest.Hash`, so that facts about checksums hold for any hash of that size.
-/

namespace TimedRelease.Digest

/-- A function from byte strings to 32 bytes. -/
class Hash where
  digest : List UInt8 → Vector UInt8 32

namespace Keccak

/-- The state of the sponge; the lane in column `x` and row `y` has index `x + 5 * y`. -/
abbrev Lanes := Vector UInt64 25

/-- The lane in a column and a row, both counted around. -/
def lane (state : Lanes) (x y : Nat) : UInt64 :=
  state.get ⟨x % 5 + 5 * (y % 5), by omega⟩

/-- Builds a state lane by lane. -/
def build (entry : Nat → Nat → UInt64) : Lanes :=
  Vector.ofFn (fun (index : Fin 25) => entry (index.val % 5) (index.val / 5))

/-- Turns a lane to the left. -/
def rotate (word : UInt64) (amount : Nat) : UInt64 :=
  (word <<< UInt64.ofNat (amount % 64)) ||| (word >>> UInt64.ofNat ((64 - amount % 64) % 64))

/-- The parity of a column. -/
def parity (state : Lanes) (x : Nat) : UInt64 :=
  lane state x 0 ^^^ lane state x 1 ^^^ lane state x 2 ^^^ lane state x 3 ^^^ lane state x 4

/-- How far each lane is turned, by index. -/
def offsets : List Nat :=
  [0, 1, 62, 28, 27, 36, 44, 6, 55, 20, 3, 10, 43, 25, 39, 41, 45, 15, 21, 8, 18, 2, 61, 56, 14]

/-- The constants of the twenty-four rounds. -/
def roundConstants : List UInt64 :=
  [0x0000000000000001, 0x0000000000008082, 0x800000000000808A, 0x8000000080008000,
    0x000000000000808B, 0x0000000080000001, 0x8000000080008081, 0x8000000000008009,
    0x000000000000008A, 0x0000000000000088, 0x0000000080008009, 0x000000008000000A,
    0x000000008000808B, 0x800000000000008B, 0x8000000000008089, 0x8000000000008003,
    0x8000000000008002, 0x8000000000000080, 0x000000000000800A, 0x800000008000000A,
    0x8000000080008081, 0x8000000000008080, 0x0000000080000001, 0x8000000080008008]

/-- Mixes the parities of the two neighbouring columns into each lane. -/
def mixColumns (state : Lanes) : Lanes :=
  build fun x y =>
    lane state x y ^^^ parity state (x + 4) ^^^ rotate (parity state (x + 1)) 1

/-- Turns each lane by its own amount and moves it to its new place. -/
def turnAndMove (state : Lanes) : Lanes :=
  build fun x y =>
    let column := x + 3 * y
    let row := x
    rotate (lane state column row) (offsets.getD (column % 5 + 5 * (row % 5)) 0)

/-- Combines each lane with the next two of its row. -/
def mixRows (state : Lanes) : Lanes :=
  build fun x y => lane state x y ^^^ (~~~ lane state (x + 1) y &&& lane state (x + 2) y)

/-- One round of the permutation. -/
def round (state : Lanes) (constant : UInt64) : Lanes :=
  let mixed := mixRows (turnAndMove (mixColumns state))
  mixed.set 0 (mixed.get 0 ^^^ constant)

/-- The permutation of the sponge. -/
def permute (state : Lanes) : Lanes :=
  roundConstants.foldl round state

/-- The bytes taken in at a time. -/
def rate : Nat := 136

/-- A message filled up to a whole number of blocks. -/
def pad (message : List UInt8) : List UInt8 :=
  let missing := rate - message.length % rate
  if missing = 1 then message ++ [0x81]
  else message ++ 0x01 :: (List.replicate (missing - 2) 0 ++ [0x80])

/-- Eight bytes as a lane, the lowest first. -/
def laneOfBytes (bytes : List UInt8) : UInt64 :=
  bytes.foldr (fun byte word => (word <<< 8) ||| byte.toUInt64) 0

/-- A lane as eight bytes, the lowest first. -/
def byteOfLane (word : UInt64) (index : Nat) : UInt8 :=
  (word >>> UInt64.ofNat (8 * index)).toUInt8

/-- Takes in one block. -/
def absorb (state : Lanes) (block : List UInt8) : Lanes :=
  permute (build fun x y =>
    lane state x y ^^^ laneOfBytes ((block.drop (8 * (x + 5 * y))).take 8))

/-- The 256-bit hash of a byte string. -/
def hash (message : List UInt8) : Vector UInt8 32 :=
  let padded := pad message
  let blocks := (List.range (padded.length / rate)).map fun index =>
    (padded.drop (rate * index)).take rate
  let state := blocks.foldl absorb (Vector.replicate 25 0)
  Vector.ofFn fun (index : Fin 32) => byteOfLane (lane state (index.val / 8) 0) (index.val % 8)

end Keccak

instance : Hash := ⟨Keccak.hash⟩

/-- A byte as two hexadecimal digits. -/
def hexByte (byte : UInt8) : List Char :=
  [Nat.digitChar (byte.toNat / 16), Nat.digitChar (byte.toNat % 16)]

/-- Bytes as hexadecimal digits in small letters. -/
def hexBytes (bytes : List UInt8) : List Char :=
  bytes.flatMap hexByte

end TimedRelease.Digest
