import ReleaseGate.History.FilePatch

/-!
# Similarity of contents

How much of one content is found again in another. A content is cut into chunks, at line feeds and
after so many bytes; each chunk counts by a hash, and what two contents have in common is, for each
hash, the lesser of the bytes in their chunks with it.
-/

namespace ReleaseGate.History

open Text (Bytes)

/-- The longest chunk. -/
def chunkSize : Nat := 64

/-- Hashes are less than this number. -/
def hashBase : UInt32 := 107927

/-- Two words that shift into each other, and the bytes that were taken into them. -/
structure ChunkHash where
  low : UInt32
  high : UInt32
  length : Nat

/-- Nothing taken yet. -/
def ChunkHash.empty : ChunkHash := ⟨0, 0, 0⟩

/-- Take a byte. -/
def ChunkHash.push (h : ChunkHash) (b : UInt8) : ChunkHash :=
  ⟨((h.low <<< 7) ^^^ (h.high >>> 25)) + b.toUInt32, (h.high <<< 7) ^^^ (h.low >>> 25),
    h.length + 1⟩

/-- The hash of what was taken. -/
def ChunkHash.value (h : ChunkHash) : Nat := ((h.low + h.high * 97) % hashBase).toNat

/-- The chunks of a content, as their hashes and lengths. Bytes at the end that fill no chunk do not
count. In a text a carriage return before a line feed does not count. -/
def chunksFrom (isText : Bool) (h : ChunkHash) : Bytes → List (Nat × Nat)
  | [] => []
  | b :: bs =>
    if isText && b == 13 && bs.head? == some lineFeed then chunksFrom isText h bs
    else
      let h' := h.push b
      if h'.length < chunkSize && b != lineFeed then chunksFrom isText h' bs
      else (h'.value, h'.length) :: chunksFrom isText .empty bs

/-- Put together the neighbours with one hash. -/
def mergeEqual : List (Nat × Nat) → List (Nat × Nat)
  | [] => []
  | (k, n) :: rest =>
    match mergeEqual rest with
    | (k', n') :: more => if k = k' then (k, n + n') :: more else (k, n) :: (k', n') :: more
    | [] => [(k, n)]

/-- How many bytes of a content lie in chunks of each hash, in the order of the hashes. -/
def census (content : Bytes) : List (Nat × Nat) :=
  mergeEqual
    ((chunksFrom (!isBinary content) .empty content).mergeSort fun x y => x.1 ≤ y.1)

/-- What two censuses have in common. -/
def inCommon : List (Nat × Nat) → List (Nat × Nat) → Nat
  | [], _ => 0
  | _, [] => 0
  | (k, n) :: xs, (l, m) :: ys =>
    if k < l then inCommon xs ((l, m) :: ys)
    else if l < k then inCommon ((k, n) :: xs) ys
    else min n m + inCommon xs ys
termination_by xs ys => xs.length + ys.length

/-- How similar two contents are, in units of `1 / fullScore`. Contents whose sizes alone keep them
below the least score asked for are not looked at. -/
def similarity (least : Nat) (old new : Bytes) : Nat :=
  let larger := max old.length new.length
  let smaller := min old.length new.length
  if larger * (fullScore - least) < (larger - smaller) * fullScore then 0
  else if new.length = 0 then 0
  else inCommon (census old) (census new) * fullScore / larger

end ReleaseGate.History
