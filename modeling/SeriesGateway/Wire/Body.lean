import SeriesGateway.Wire.Decoder

/-! # Response bodies

A body is a sequence of chunks that ends cleanly or with a failure of the
transport. It is decoded chunk by chunk; rows are delivered as soon as they are
complete.
-/

namespace SeriesGateway.Wire

/-- Splits bytes into chunks of a size, the last of which may be shorter. A size
of zero is read as one. -/
def chunked (size : Nat) (bytes : List UInt8) : List (List UInt8) :=
  if bytes.isEmpty then []
  else bytes.take (max size 1) :: chunked size (bytes.drop (max size 1))
termination_by bytes.length
decreasing_by
  rename_i h
  have : 0 < bytes.length := by
    rw [List.length_pos_iff]
    simpa using h
  simp only [List.length_drop]
  omega

/-- A response body and how it ends. -/
structure Body where
  chunks : List (List UInt8)
  failure : Option TransportError
deriving DecidableEq, Repr

/-- Counters of a decoded body. -/
structure Stats where
  rows : Nat
  points : Nat
  bytes : Nat
deriving DecidableEq, Repr

/-- A body of which some chunks have been decoded. -/
structure Reception where
  decoder : Decoder
  /-- The rows delivered so far, in order. -/
  delivered : List Row
  bytes : Nat
deriving DecidableEq, Repr

namespace Reception

def start (shape : RowShape) : Reception := ⟨.new shape, [], 0⟩

/-- Decodes what can be decoded. -/
def drain (reception : Reception) (atEnd : Bool) : Reception × Option DecodeError :=
  let (rows, error, decoder) := reception.decoder.drain atEnd
  ({ reception with decoder, delivered := reception.delivered ++ rows }, error)

/-- Takes the next chunk. -/
def accept (reception : Reception) (chunk : List UInt8) : Reception × Option DecodeError :=
  { reception with
    decoder := reception.decoder.feed chunk
    bytes := reception.bytes + chunk.length }.drain false

/-- Takes note that the body has ended. -/
def finish (reception : Reception) : Reception × Option DecodeError := reception.drain true

def stats (reception : Reception) : Stats :=
  ⟨reception.delivered.length, (reception.delivered.map Row.size).foldr (· + ·) 0, reception.bytes⟩

/-- Takes chunks until one cannot be decoded. -/
def acceptAll (reception : Reception) : List (List UInt8) → Reception × Option DecodeError
  | [] => (reception, none)
  | chunk :: rest =>
    match reception.accept chunk with
    | (after, none) => after.acceptAll rest
    | (after, some error) => (after, some error)

end Reception

namespace Body

/-- Decodes a body: the rows delivered, and the counters or the first error. -/
def decode (shape : RowShape) (body : Body) : List Row × Except FetchError Stats :=
  match (Reception.start shape).acceptAll body.chunks with
  | (reception, some error) => (reception.delivered, .error (.decode error))
  | (reception, none) =>
    match body.failure with
    | some error => (reception.delivered, .error (.transport error))
    | none =>
      match reception.finish with
      | (reception, some error) => (reception.delivered, .error (.decode error))
      | (reception, none) => (reception.delivered, .ok reception.stats)

end Body

end SeriesGateway.Wire
