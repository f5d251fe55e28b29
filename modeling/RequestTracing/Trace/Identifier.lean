import RequestTracing.Text.Hex

/-!
This module contains the identifiers of traces and spans: their numeric, byte and text forms.
-/

namespace RequestTracing

structure TraceId where
  bits : BitVec 128
  deriving DecidableEq

structure SpanId where
  bits : BitVec 64
  deriving DecidableEq

def bigEndianBytes : Nat → Nat → List (BitVec 8)
  | 0, _ => []
  | count + 1, n => bigEndianBytes count (n / 256) ++ [BitVec.ofNat 8 n]

def ofBigEndianBytes (bytes : List (BitVec 8)) : Nat :=
  bytes.foldl (fun n b => 256 * n + b.toNat) 0

namespace TraceId

def invalid : TraceId :=
  ⟨0⟩

instance : Inhabited TraceId :=
  ⟨invalid⟩

def ofNat (n : Nat) : TraceId :=
  ⟨BitVec.ofNat 128 n⟩

def toNat (id : TraceId) : Nat :=
  id.bits.toNat

def ofParts (high low : BitVec 64) : TraceId :=
  ⟨high ++ low⟩

def high (id : TraceId) : BitVec 64 :=
  id.bits.extractLsb' 64 64

def low (id : TraceId) : BitVec 64 :=
  id.bits.extractLsb' 0 64

def ofBytes (bytes : List (BitVec 8)) : TraceId :=
  ofNat (ofBigEndianBytes bytes)

def toBytes (id : TraceId) : List (BitVec 8) :=
  bigEndianBytes 16 id.toNat

def ofHex? (cs : List Char) : Option TraceId :=
  (Hex.read? 32 cs).map ofNat

def digits (id : TraceId) : List Char :=
  if id.high = 0 then Hex.fixed 16 id.low.toNat else Hex.fixed 32 id.toNat

def toText (id : TraceId) : String :=
  String.ofList id.digits

def shortDigits (id : TraceId) : List Char :=
  Hex.shortest 32 id.toNat

end TraceId

namespace SpanId

def invalid : SpanId :=
  ⟨0⟩

instance : Inhabited SpanId :=
  ⟨invalid⟩

def ofNat (n : Nat) : SpanId :=
  ⟨BitVec.ofNat 64 n⟩

def toNat (id : SpanId) : Nat :=
  id.bits.toNat

def ofBytes (bytes : List (BitVec 8)) : SpanId :=
  ofNat (ofBigEndianBytes bytes)

def toBytes (id : SpanId) : List (BitVec 8) :=
  bigEndianBytes 8 id.toNat

def ofHex? (cs : List Char) : Option SpanId :=
  (Hex.read? 16 cs).map ofNat

def digits (id : SpanId) : List Char :=
  Hex.fixed 16 id.toNat

def toText (id : SpanId) : String :=
  String.ofList id.digits

def shortDigits (id : SpanId) : List Char :=
  Hex.shortest 16 id.toNat

def present (id : Option SpanId) : Option SpanId :=
  id.filter (· ≠ invalid)

end SpanId

end RequestTracing
