import Bindery.Effect
import Bindery.Memory
import Bindery.Value.Display
import Bindery.Value.Order
import Bindery.Wire.Pack

/-!
# Linear memory

The memory of a guest. Host addresses mean nothing in it: buffers are staged in a region that grows
upwards, and cross the boundary as offset and length. Offsets and lengths are values, checked before
they are used.

* `LinearMemory`: a memory of fixed size with the top of its staging region. Its size is one that
  memory can have.
* `LinearMemory.read`, `write`: access within bounds.
* `LinearMemory.alloc`, `release`: staging space, given out upwards and taken back down to a mark.
* `Scratch`: staging for one call; `withScratch` takes back what the call staged.
-/

namespace Bindery

/-- The bits that two integers have in common, in two's complement. -/
def bitAnd : Int → Int → Int
  | .ofNat m, .ofNat n => .ofNat (m &&& n)
  | .ofNat m, .negSucc n => .ofNat (m - (m &&& n))
  | .negSucc m, .ofNat n => .ofNat (n - (n &&& m))
  | .negSucc m, .negSucc n => .negSucc (m ||| n)

/-- The memory of a guest. -/
structure LinearMemory where
  size : Nat
  size_le : size ≤ Value.memoryLimit
  cells : Cells
  /-- Where the staging region ends. -/
  top : Value

namespace LinearMemory

instance : Inhabited LinearMemory := ⟨⟨0, Nat.zero_le _, .zero, default⟩⟩

/-- Number of bytes of a page. -/
def page : Nat := 65536

/-- A memory with a number of bytes, if there is room for it. -/
def ofSize (size : Int) (cells : Cells) (top : Value) : Except Fault LinearMemory :=
  match h : Value.sizeOfInt size with
  | .ok n => .ok ⟨n, Value.le_of_sizeOfInt h, cells, top⟩
  | .error e => .error e

/-- A memory filled with a pattern, as often as a page has bytes. -/
def ofPattern (pattern : Bytes) (scratchBase : Value) : Except Fault LinearMemory :=
  let cells := ⟨fun a => pattern.getD (a % pattern.length).toNat 0⟩
  ofSize (page * pattern.length) cells scratchBase

/-- A memory of some pages full of zeros, or of a page for each byte of a pattern. -/
def ofPages (pages scratchBase : Value) : Except Fault LinearMemory := do
  match pages with
  | .bytes pattern | .buffer pattern => ofPattern pattern scratchBase
  | .list pattern => ofPattern (← pattern.mapM Value.toByte) scratchBase
  | _ => ofSize (page * (← pages.index)) .zero scratchBase

/-- Whether a range lies in the memory. -/
def inBounds (m : LinearMemory) (ptr size : Value) : Except Fault Bool := do
  if ← ptr.isNegative then return false
  if ← size.isNegative then return false
  return !(← (Value.int m.size).less (← ptr.plus size))

/-- Fails unless a range lies in the memory. -/
def checkBounds (m : LinearMemory) (ptr size : Value) : Except Fault Unit := do
  if !(← m.inBounds ptr size) then
    throw (.ofKind .internal
      ("linear memory access out of bounds: " ++ (← ptr.spoken) ++ "+" ++ (← size.spoken)))

/-- The bytes of a range. -/
def read (m : LinearMemory) (ptr size : Value) : Except Fault Bytes := do
  m.checkBounds ptr size
  return m.cells.read (← ptr.index) (← size.index).toNat

/-- The memory with other bytes from an offset on. -/
def write (m : LinearMemory) (ptr : Value) (data : Bytes) : Except Fault LinearMemory := do
  m.checkBounds ptr (.int data.length)
  return { m with cells := m.cells.write (← ptr.index) data }

/-- The next offset that is a multiple of an alignment, a power of two. -/
def alignUp (n alignment : Int) : Int := bitAnd (n + alignment - 1) (-alignment)

/-- The alignment of space that is asked for without one. -/
def defaultAlignment : Value := .int 8

/-- A range above the top, which becomes the new top if the range lies in the memory. -/
def alloc (m : LinearMemory) (size : Value) (alignment : Value := defaultAlignment) :
    Except Fault (Value × LinearMemory) := do
  let ptr := Value.int (alignUp (← m.top.index) (← alignment.index))
  m.checkBounds ptr size
  return (ptr, { m with top := ← ptr.plus size })

/-- The memory with the top at a mark. -/
def release (m : LinearMemory) (mark : Value) : LinearMemory := { m with top := mark }

end LinearMemory

namespace Scratch

variable {σ α : Type} (memory : Part σ LinearMemory)

/-- Runs an operation that answers a new memory. -/
def update (f : LinearMemory → Except Fault (α × LinearMemory)) : Act σ α := do
  let (a, m) ← f (← memory.read)
  memory.modify fun _ => m
  return a

/-- Writes bytes. -/
def write (ptr : Value) (data : Bytes) : Act σ Unit :=
  update memory fun m => do return ((), ← m.write ptr data)

/-- The bytes of a range. -/
def read (ptr size : Value) : Act σ Bytes := do (← memory.read).read ptr size

/-- Space of a size, at least one byte. -/
def reserve (size : Value) : Act σ Value := do
  let size := if ← size.less (.int 1) then .int 1 else size
  update memory fun m => m.alloc size

/-- Space of a size, filled with zeros. -/
def alloc (size : Value) : Act σ Value := do
  let ptr ← reserve memory size
  write memory ptr (← Value.zeroBytes (← size.index))
  return ptr

/-- Number of members of a value that has some. -/
def sizeOf (v : Value) : Except Fault Value :=
  match v.length? with
  | some size => .ok (.int size)
  | none => .error .wrongType

/-- Writes the bytes of a value. The range counts first, then the value. -/
def writeValue (ptr v : Value) : Act σ Unit := do
  (← memory.read).checkBounds ptr (← sizeOf v)
  discard (ptr.index : Except Fault Int)
  write memory ptr (← v.plainBytes)

/-- Space with the bytes of a value: its offset and their number. -/
def putValue (v : Value) : Act σ Value := do
  let size ← sizeOf v
  let ptr ← reserve memory size
  writeValue memory ptr v
  return .list [ptr, size]

/-- The value of a slot. -/
def readValue (ptr tag : Value) : Act σ Value := do
  let w ← Wire.ofValue tag
  w.unpack (← read memory ptr (.int w.size))

/-- Runs a body and takes back the space that it staged. -/
def withScratch (body : Act σ α) : Act σ α := do
  let mark := (← memory.read).top
  Act.ensuring body (memory.modify fun m => m.release mark)

end Scratch
end Bindery
