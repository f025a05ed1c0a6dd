import PasswordHashing.Argon2.Block
import PasswordHashing.Argon2.Parameters

/-!
Argon2, version 1.3. Memory is a row of blocks for each thread, filled from left to right
in four slices and as often as `time` says; each block comes from the one on its left and
from another one that either a counter or the block on the left picks. Main statement:
the output is as long as the key length says.
-/

namespace PasswordHashing.Argon2

def version : UInt32 := 0x13

def Variant.code : Variant → UInt32
  | .i => 1
  | .id => 2

def lengthPrefixed (bytes : Bytes) : Bytes := littleEndian32 (.ofNat bytes.length) ++ bytes

/-- Hashes all that was asked for. No secret and an empty one are the same here. -/
def initialHash (v : Variant) (q : Parameters) (secret password salt : Bytes) : Bytes :=
  Blake2b.hash 64 (littleEndian32 q.threads ++ littleEndian32 q.keyLength.toUInt32 ++
    littleEndian32 q.memory ++ littleEndian32 q.time ++ littleEndian32 version ++
    littleEndian32 v.code ++ lengthPrefixed password ++ lengthPrefixed salt ++
    lengthPrefixed secret ++ lengthPrefixed [])

/-! ### Places in memory -/

/-- A row of `rowLength` blocks, four segments long, for each of `rows` threads. -/
structure Shape where
  variant : Variant
  time : Nat
  rows : Nat
  segmentLength : Nat

namespace Shape

def of (v : Variant) (q : Parameters) : Shape where
  variant := v
  time := q.time.toNat
  rows := q.threads.toNat
  segmentLength := q.memory.toNat / (4 * q.threads.toNat)

def rowLength (s : Shape) : Nat := 4 * s.segmentLength

def blockCount (s : Shape) : Nat := s.rows * s.rowLength

end Shape

/-- A segment: one pass over one slice of one row. -/
structure Segment where
  pass : Nat
  slice : Nat
  row : Nat

/-- Argon2id takes its addresses from a counter in the first half of the first pass. -/
def Segment.isIndependent (g : Segment) : Variant → Bool
  | .i => true
  | .id => g.pass == 0 && g.slice < 2

/-- The addresses that a counter gives for a segment, 128 from each block. -/
def Segment.addresses (s : Shape) (g : Segment) : Array UInt64 :=
  (List.range ((s.segmentLength + 127) / 128)).foldl (fun addresses i =>
    let input : Block := Vector.ofFn fun k =>
      (#[g.pass, g.row, g.slice, s.blockCount, s.time, s.variant.code.toNat, i + 1].getD k 0).toUInt64
    addresses ++ (Block.compress Block.zero (Block.compress Block.zero input)).toArray) #[]

/-- The number of blocks in its row that block `index` of a segment may refer to. -/
def Segment.window (s : Shape) (g : Segment) (index : Nat) (sameRow : Bool) : Nat :=
  let finished := if g.pass = 0 then g.slice * s.segmentLength else s.rowLength - s.segmentLength
  if sameRow then finished + index - 1
  else if index = 0 then finished - 1 else finished

/-- The place an address refers to. The low half picks a block of the window, later ones
more often, and the high half picks the row. -/
def Segment.reference (s : Shape) (g : Segment) (index : Nat) (address : UInt64) : Nat :=
  let low := (address &&& 0xFFFFFFFF).toNat
  let high := (address >>> 32).toNat
  let row := if g.pass = 0 ∧ g.slice = 0 then g.row else high % s.rows
  let window := g.window s index (row == g.row)
  let back := (window * ((low * low) >>> 32)) >>> 32
  let start := if g.pass = 0 ∨ g.slice = 3 then 0 else (g.slice + 1) * s.segmentLength
  row * s.rowLength + (start + (window - 1 - back)) % s.rowLength

/-! ### Filling memory -/

abbrev Memory := Array Block

def Memory.block (m : Memory) (place : Nat) : Block := m.getD place Block.zero

/-- From the second pass on, a block is added to what its place held. -/
def fillBlock (s : Shape) (g : Segment) (addresses : Array UInt64) (m : Memory) (index : Nat) :
    Memory :=
  let column := g.slice * s.segmentLength + index
  let place := g.row * s.rowLength + column
  let left := m.block (g.row * s.rowLength + (column + s.rowLength - 1) % s.rowLength)
  let address := if g.isIndependent s.variant then addresses.getD index 0 else left[0]
  let block := left.compress (m.block (g.reference s index address))
  m.setIfInBounds place (if g.pass = 0 then block else block.xor (m.block place))

/-- The first two blocks of each row are there before the first pass. -/
def fillSegment (s : Shape) (m : Memory) (g : Segment) : Memory :=
  let addresses := if g.isIndependent s.variant then g.addresses s else #[]
  let first := if g.pass = 0 ∧ g.slice = 0 then 2 else 0
  Nat.fold (s.segmentLength - first) (fun i _ m => fillBlock s g addresses m (first + i)) m

def startMemory (s : Shape) (hash : Bytes) : Memory :=
  Nat.fold s.rows (fun row _ m =>
    let start := fun column =>
      Block.ofBytes (longHash 1024 (hash ++ littleEndian32 (.ofNat column) ++ littleEndian32 (.ofNat row)))
    (m.setIfInBounds (row * s.rowLength) (start 0)).setIfInBounds (row * s.rowLength + 1) (start 1))
    (Array.replicate s.blockCount Block.zero)

def fill (s : Shape) (m : Memory) : Memory :=
  Nat.fold s.time (fun pass _ m =>
    Nat.fold 4 (fun slice _ m =>
      Nat.fold s.rows (fun row _ m => fillSegment s m { pass, slice, row }) m) m) m

/-- The exclusive or of the last blocks of all rows. -/
def lastBlocks (s : Shape) (m : Memory) : Block :=
  Nat.fold s.rows (fun row _ block => block.xor (m.block (row * s.rowLength + s.rowLength - 1)))
    Block.zero

def derive (v : Variant) (q : Parameters) (secret password salt : Bytes) : Bytes :=
  let s := Shape.of v q
  let m := fill s (startMemory s (initialHash v q secret password salt))
  longHash q.keyLength.toNat (lastBlocks s m).toBytes

@[simp] theorem derive_length (v : Variant) (q : Parameters) (secret password salt : Bytes) :
    (derive v q secret password salt).length = q.keyLength.toNat := longHash_length ..

end PasswordHashing.Argon2
