/-!
# Taking bytes in

What a client sends comes in records. A connection takes bytes in by reads: a read gets
bytes of one record, and no more than there is room for. Room is made ahead of a read if
there is less than the read asks for; reads that are filled ask for more the next time,
and after two that are far from it for less.

How much a read gets decides how much of a head is looked at before more arrives, and how
much of a body that nobody wants can be passed over.
-/

namespace EvictionGate.Serving

/-- The block of memory that bytes are taken in to. -/
structure Room where
  /-- The bytes of the block. -/
  size : Nat
  /-- Where in the block the bytes begin that have not been used. -/
  start : Nat
  /-- How many bytes from there on may be filled. -/
  reach : Nat
  /-- Whether bytes of the block have been handed out. -/
  isShared : Bool
  deriving DecidableEq, Repr

namespace Room

/-- No block yet. -/
def absent : Room := ⟨0, 0, 0, false⟩

/-- The size of a block that has grown to hold so many bytes. -/
def grown (size needed : Nat) : Nat :=
  if needed ≤ size then size else max (2 * size) needed

/-- Makes room for `more` bytes after `used` ones. A block of which bytes handed out are
still in use cannot be used again; one that is long used up is used from its start. -/
def reserve (r : Room) (isInUse : Bool) (used more : Nat) : Room :=
  let needed := used + more
  let isUsedUp := used ≤ r.start
  if r.isShared then
    if isInUse then ⟨needed, 0, needed, false⟩
    else if r.start + needed ≤ r.size then { r with reach := needed }
    else if needed ≤ r.size && isUsedUp then { r with start := 0, reach := r.size }
    else
      let size := grown r.size (max (2 * r.size) (r.start + needed))
      { r with size, reach := size - r.start }
  else if needed ≤ r.reach + r.start && isUsedUp then
    { r with start := 0, reach := r.reach + r.start }
  else
    let size := grown r.size (r.start + needed)
    { r with size, reach := size - r.start }

/-- The room after bytes have been handed out. -/
def handOut (r : Room) (count : Nat) : Room :=
  if count = 0 then r
  else { r with start := r.start + count, reach := r.reach - count, isShared := true }

end Room

/-- How many bytes a read asks for. -/
structure Appetite where
  wanted : Nat
  /-- Whether the last read was far from filled. -/
  isFalling : Bool
  deriving DecidableEq, Repr

namespace Appetite

/-- The least that a read asks for. -/
def least : Nat := 8192

/-- The most that a read asks for, and the most bytes that a head may have. -/
def most : Nat := 417792

/-- Before the first read. -/
def start : Appetite := ⟨least, false⟩

/-- Half the greatest power of two that is no more than a number. -/
def below (n : Nat) : Nat := Nat.pow 2 (n.log2 - 1)

/-- After a read that got so many bytes. -/
def after (a : Appetite) (count : Nat) : Appetite :=
  if a.wanted ≤ count then ⟨min (2 * a.wanted) most, false⟩
  else if count < below a.wanted then
    if a.isFalling then ⟨max (below a.wanted) least, false⟩ else { a with isFalling := true }
  else { a with isFalling := false }

end Appetite

/-- What has arrived from a client. -/
structure Intake where
  /-- What has been taken in and not been used. -/
  bytes : List UInt8
  room : Room
  appetite : Appetite
  /-- What has not been taken in; no record is empty. -/
  records : List (List UInt8)
  deriving DecidableEq, Repr

namespace Intake

/-- Nothing has arrived. -/
def empty : Intake := ⟨[], .absent, .start, []⟩

/-- The most bytes of a record. -/
def maxRecord : Nat := 16384

/-- Bytes in records, at most `count` of them. -/
def recordsUpTo : Nat → List UInt8 → List (List UInt8)
  | _, [] => []
  | 0, _ => []
  | count + 1, bs => bs.take maxRecord :: recordsUpTo count (bs.drop maxRecord)

/-- Bytes in as few records as they need. -/
def recordsOf (bs : List UInt8) : List (List UInt8) :=
  recordsUpTo (bs.length / maxRecord + 1) bs

/-- More has arrived. -/
def arrive (i : Intake) (bs : List UInt8) : Intake :=
  { i with records := i.records ++ recordsOf bs }

/-- How many bytes have arrived and have not been used. -/
def size (i : Intake) : Nat :=
  i.records.foldl (fun n record => n + record.length) i.bytes.length

/-- Makes room for a read. `isInUse` says whether bytes that were handed out are still in
use. -/
def prepare (i : Intake) (isInUse : Bool) : Intake :=
  let used := i.bytes.length
  if i.room.reach - used < i.appetite.wanted then
    { i with room := i.room.reserve isInUse used i.appetite.wanted }
  else i

/-- A read into the room that there is; none if there is nothing to be read. -/
def take? (i : Intake) : Option Intake :=
  match i.records with
  | [] => none
  | record :: records =>
    let taken := record.take (i.room.reach - i.bytes.length)
    let left := record.drop taken.length
    some
      { i with
        bytes := i.bytes ++ taken, appetite := i.appetite.after taken.length
        records := if left.isEmpty then records else left :: records }

/-- Reads if nothing is left of what was taken in. -/
def refill (i : Intake) (isInUse : Bool) : Intake :=
  if i.bytes.isEmpty then
    let i := i.prepare isInUse
    i.take?.getD i
  else i

/-- What is left when only the last of the bytes have not been used. -/
def leave (i : Intake) (rest : List UInt8) : Intake :=
  { i with bytes := rest, room := i.room.handOut (i.bytes.length - rest.length) }

end Intake

end EvictionGate.Serving
