import SeriesGateway.Json.Document

/-! # Typed values from documents

Decoders walk a document in the order of its text, so the first problem in the
text decides the fault. Records may be written as objects or as arrays of their
fields in declaration order. Members with unknown names are skipped and need
only be JSON; a name that is known may stand once.
-/

namespace SeriesGateway.Json

namespace Document

mutual

/-- The first fault that a consumer meets who skips the document. -/
def skipFault? : Document → Option JsonFault
  | .broken _ skipped => some skipped
  | .array items close => (skipItems? items).or close.fault?
  | .object members close => (skipMembers? members).or close.fault?
  | _ => none

def skipItems? : List Document → Option JsonFault
  | [] => none
  | item :: rest => (skipFault? item).or (skipItems? rest)

def skipMembers? : List (Except JsonFault String × Document) → Option JsonFault
  | [] => none
  | (_, value) :: rest => (skipFault? value).or (skipMembers? rest)

end

/-- The fault of a number for a consumer that wants its value. -/
def numberFault? (literal : Literal) : Option JsonFault :=
  match literal.value with
  | .ok _ => none
  | .error fault => some fault

mutual

/-- The first fault that a consumer meets who keeps the whole document, with room
for so many levels of arrays and objects. -/
def keepFault? : (room : Nat) → Document → Option JsonFault
  | _, .string (.error fault) => some fault
  | _, .number literal => numberFault? literal
  | _, .broken wanted _ => some wanted
  | 0, .array .. => some .malformed
  | room + 1, .array items close => (keepItems? room items).or close.fault?
  | 0, .object .. => some .malformed
  | room + 1, .object members close => (keepMembers? room members).or close.fault?
  | _, _ => none

def keepItems? : (room : Nat) → List Document → Option JsonFault
  | _, [] => none
  | room, item :: rest => (keepFault? room item).or (keepItems? room rest)

def keepMembers? : (room : Nat) → List (Except JsonFault String × Document) → Option JsonFault
  | _, [] => none
  | _, (.error fault, _) :: _ => some fault
  | room, (.ok _, value) :: rest => (keepFault? room value).or (keepMembers? room rest)

end

/-- The fault of a document that stands where a value of another kind is wanted:
a word, string or number is read to its end first. -/
def otherKind : Document → JsonFault
  | .broken wanted _ => wanted
  | .string (.error fault) => fault
  | .number literal => (numberFault? literal).getD .mismatch
  | _ => .mismatch

end Document

/-- Takes a value from a document. -/
abbrev Decoder (α : Type) := Document → Except JsonFault α

namespace Decoder

def bool : Decoder Bool
  | .bool value => .ok value
  | document => .error document.otherKind

def text : Decoder String
  | .string value => value
  | document => .error document.otherKind

def number : Decoder Number
  | .number literal => literal.value
  | document => .error document.otherKind

/-- A whole number below a bound, written without fraction and exponent. -/
def natural (bound : Nat) : Decoder Nat := fun document => do
  match ← number document with
  | .natural n => if n < bound then .ok n else .error .mismatch
  | _ => .error .mismatch

def uint32 : Decoder UInt32 := fun document => (natural UInt32.size document).map UInt32.ofNat

/-- A count that fits in a word of 64 bits. -/
def count : Decoder Nat := natural UInt64.size

/-- A time span in seconds, as any number. -/
def duration : Decoder Duration := fun document => do
  match Duration.ofSample? (← number document).toSample with
  | some duration => .ok duration
  | none => .error .mismatch

/-- A value or null. -/
def optional {α : Type} (decoder : Decoder α) : Decoder (Option α)
  | .null => .ok none
  | document => (decoder document).map some

def closing : Close → Except JsonFault Unit
  | .closed => .ok ()
  | .stuck fault => .error fault
  | .stuckAfterComma fault => .error fault

def list {α : Type} (decoder : Decoder α) : Decoder (List α)
  | .array items close => do
    let values ← items.mapM decoder
    closing close
    return values
  | document => .error document.otherKind

end Decoder

/-- A field of a record: its name, and how its value changes a draft. -/
structure Field (δ : Type) where
  name : String
  set : Document → δ → Except JsonFault δ

/-- A field whose value is stored in the draft. -/
def field {α δ : Type} (name : String) (decoder : Decoder α) (store : α → δ → δ) : Field δ :=
  ⟨name, fun document draft => (decoder document).map fun value => store value draft⟩

/-- How a record is read: from an empty draft, by its fields in declaration order,
to a value unless a required field is missing. -/
structure Record (δ α : Type) where
  start : δ
  fields : List (Field δ)
  finish : δ → Option α

namespace Record

variable {δ α : Type}

/-- Takes the members of an object; `seen` holds the known names so far. -/
def takeMembers (record : Record δ α) (seen : List String) (draft : δ) :
    List (Except JsonFault String × Document) → Except JsonFault δ
  | [] => .ok draft
  | (key, value) :: rest => do
    let name ← key
    match record.fields.find? fun field => field.name == name with
    | none =>
      match value.skipFault? with
      | some fault => .error fault
      | none => takeMembers record seen draft rest
    | some field =>
      if seen.contains name then .error .mismatch
      else
        let draft ← field.set value draft
        takeMembers record (name :: seen) draft rest

/-- Takes the items of an array as values of fields in order. An array that is
longer than the record is malformed. -/
def takeItems (draft : δ) : List (Field δ) → List Document → Close → Except JsonFault δ
  | [], [], .closed => .ok draft
  | [], [], .stuck fault => .error fault
  | [], _, _ => .error .malformed
  | _ :: _, [], close => do
    Decoder.closing close
    return draft
  | field :: fields, item :: items, close => do
    let draft ← field.set item draft
    takeItems draft fields items close

/-- Reads a record. -/
def decode (record : Record δ α) : Decoder α := fun document => do
  let draft ←
    match document with
    | .object members close => do
      let draft ← record.takeMembers [] record.start members
      Decoder.closing close
      pure draft
    | .array items close => takeItems record.start record.fields items close
    | document => .error document.otherKind
  match record.finish draft with
  | some value => .ok value
  | none => .error .mismatch

end Record

/-- Reads a whole text as one value. -/
def decodeText {α : Type} (decoder : Decoder α) (text : String) : Except JsonFault α := do
  let (document, trailing) := read text
  let value ← decoder document
  match trailing with
  | none => .ok value
  | some fault => .error fault

end SeriesGateway.Json
