import HandleBridge.Bytes
import HandleBridge.Heap
import HandleBridge.Fault
import HandleBridge.Text.Quoted
import HandleBridge.Text.Utf8

/-
  Byte buffers that the other side reads and fills through their address.

  The content is followed by one nul byte, which its length does not count, so a buffer can also
  be handed on as a nul-terminated string. `reserve` makes room and leaves zeros; the other side
  then writes into the room. A failed `reserve` leaves the buffer as it was.

  The width of an address in bits is a parameter where the size of a block is computed, because
  sizes wrap at that width.
-/

namespace HandleBridge

/-- The longest content, as lengths are 32-bit words. -/
def maxContent : Nat := UInt32.size - 1

/-- Content and closing nul at an address. -/
structure Buffer where
  address : Nat
  data : ByteArray

namespace Buffer

/-- The bytes that content of `n` bytes and its nul take, as a word of `width` bits. -/
def blockSize (width n : Nat) : Nat := (n + 1) % (1 <<< width)

/-- An address for content of `n` bytes and its nul, on a machine with addresses of `width` bits.
A block may take up at most half of the addresses; a block of no bytes needs no memory. -/
def allocateAt (width : Nat) (heap : Allocator) (n : Nat) : Except Fault Nat :=
  if maxContent < n then .error (.outOfMemory n)
  else if blockSize width n = 0 then .ok 1
  else if 1 <<< (width - 1) ≤ blockSize width n then .error (.outOfMemory n)
  else
    match heap (blockSize width n) with
    | some address => .ok address
    | none => .error (.outOfMemory n)

/-- An address for content of `n` bytes with 64-bit addresses. -/
def allocate (heap : Allocator) (n : Nat) : Except Fault Nat := allocateAt 64 heap n

/-- The buffer without content, in a block of its own. -/
def empty (address : Nat) : Buffer := ⟨address, Bytes.zeros 1⟩

/-- A buffer with a copy of `bytes`. -/
def ofBytes (heap : Allocator) (bytes : ByteArray) : Except Fault Buffer :=
  match allocate heap bytes.size with
  | .ok address => .ok ⟨address, bytes.push 0⟩
  | .error cause => .error cause

/-- A buffer with `n` zero bytes, which are made only if there is room for them. -/
def ofZeros (heap : Allocator) (n : Nat) : Except Fault Buffer :=
  match allocate heap n with
  | .ok address => .ok ⟨address, Bytes.zeros (n + 1)⟩
  | .error cause => .error cause

/-- Replaces the content by `n` zero bytes for the other side to fill, on a machine with
addresses of `width` bits. -/
def reserveAt (width : Nat) (heap : Allocator) (n : Nat) : Except Fault Buffer :=
  match allocateAt width heap n with
  | .ok address => .ok ⟨address, Bytes.zeros (blockSize width n)⟩
  | .error cause => .error cause

/-- Replaces the content by `n` zero bytes for the other side to fill. -/
def reserve (heap : Allocator) (n : Nat) : Except Fault Buffer := reserveAt 64 heap n

/-- The content without the nul. -/
def bytes (b : Buffer) : ByteArray := b.data.extract 0 (b.data.size - 1)

/-- The content and its nul. -/
def bytesWithNul (b : Buffer) : ByteArray := b.data

/-- The length of the content, as a word. -/
def len (b : Buffer) : UInt32 := UInt32.ofNat (b.data.size - 1)

/-- The length of the content as it is computed with words of `width` bits. It is `len`, except
where the block is empty and the count of its bytes without the nul wraps. -/
def lenAt (width : Nat) (b : Buffer) : UInt32 :=
  UInt32.ofNat ((b.data.size + ((1 <<< width) - 1)) % (1 <<< width))

def isEmpty (b : Buffer) : Bool := b.data.size == 1

/-- What the other side does: `bytes` go to offset `at` of the content. -/
def write (offset : Nat) (bytes : ByteArray) (b : Buffer) : Buffer :=
  { b with data := Bytes.overwrite b.data offset bytes }

/-- Whether an address lies in the block of a buffer. -/
def covers (b : Buffer) (address : Nat) : Bool :=
  b.address ≤ address && address < b.address + b.data.size

/-- The content as text, with U+FFFD for what is no UTF-8. -/
def text (b : Buffer) : String := Text.Utf8.decodeLossy b.bytes

/-- Length and content, for reports. -/
def report (b : Buffer) : String :=
  s!"CBuffer \x7b len: {b.len.toNat}, content: {Text.quote b.text} \x7d"

/-- Two buffers are equal if their contents are; where they lie does not matter. -/
def sameContent (a b : Buffer) : Bool := a.data.data == b.data.data

theorem bytesWithNul_ofBytes {heap : Allocator} {bytes : ByteArray} {b : Buffer}
    (h : ofBytes heap bytes = .ok b) : b.bytesWithNul = bytes.push 0 := by
  unfold ofBytes at h
  split at h
  · cases h
    rfl
  · cases h

end Buffer

end HandleBridge
