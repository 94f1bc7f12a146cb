/-!
# CRC-32

The cyclic redundancy check of gzip files, with the reflected polynomial 0xEDB88320.
-/
namespace Interconnect.Crc32

/-- One division step. -/
def shift (crc : UInt32) : UInt32 :=
  if crc &&& 1 = 1 then crc >>> 1 ^^^ 0xEDB88320 else crc >>> 1

def feed (crc : UInt32) (byte : UInt8) : UInt32 :=
  shift (shift (shift (shift (shift (shift (shift (shift (crc ^^^ byte.toUInt32))))))))

def ofBytes (bytes : List UInt8) : UInt32 := bytes.foldl feed 0xFFFFFFFF ^^^ 0xFFFFFFFF

end Interconnect.Crc32
