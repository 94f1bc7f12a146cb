import Interconnect.Chip.Database
import Interconnect.Chip.Payload
import Interconnect.Gzip.Container
/-!
# Chip files

Four bytes of magic, the format version, the hash of the payload, and the payload. A file may be
compressed as a whole.
-/
namespace Interconnect.ChipFile

def magic : List UInt8 := [0x46, 0x43, 0x44, 0x42]

def headerLength : Nat := 24

/-- A payload behind its header. -/
def frame (payload : List UInt8) : List UInt8 :=
  magic ++ Bytes.ofNat 4 formatVersion ++ (ContentHash.ofBytes payload).bytes ++ payload

def encode (r : ChipRecord) : List UInt8 := frame (Payload.chipRecord.write r)

/-- The payload of an uncompressed file and its hash. -/
def unframe (file : List UInt8) : Except ChipError (List UInt8 × ContentHash) :=
  if file.take 4 ≠ magic then .error .badMagic
  else if file.length < headerLength then .error (.truncated file.length)
  else
    let version := Bytes.toNat ((file.drop 4).take 4)
    let stored : ContentHash := ⟨(file.drop 8).take 16⟩
    let payload := file.drop headerLength
    let actual := ContentHash.ofBytes payload
    if version ≠ formatVersion then .error (.version version)
    else if actual ≠ stored then .error (.checksum stored actual)
    else .ok (payload, actual)

/-- The record of an uncompressed file and the hash of its payload. Bytes behind the record do not
matter. A text too long to be held is a fault, not a refusal. -/
def decode (file : List UInt8) : Query (Except ChipError (ChipRecord × ContentHash)) :=
  match unframe file with
  | .error e => .ok (.error e)
  | .ok (payload, hash) => match Payload.chipRecord.read payload with
    | .ok (record, _) => .ok (.ok (record, hash))
    | .error .malformed => .ok (.error .payload)
    | .error (.oversized length) => .error (.oversized length)

def contents (r : ChipRecord) (compress : Bool) : List UInt8 :=
  if compress then Gzip.compress (encode r) else encode r

/-- A file's own bytes, or what they unpack to if they start like a gzip file. -/
def unpack (path : String) (file : List UInt8) : Except ChipError (List UInt8) :=
  if file.take 2 = Gzip.magic then
    match Gzip.decompress? file with
    | some bytes => .ok bytes
    | none => .error (.unreadable path "corrupt gzip stream")
  else .ok file

def load (path : String) (file : List UInt8) : Query (Except ChipError ChipDatabase) :=
  match unpack path file with
  | .error e => .ok (.error e)
  | .ok bytes => do
    return (← decode bytes).bind fun (record, hash) => ChipDatabase.ofRecord record hash

end Interconnect.ChipFile
