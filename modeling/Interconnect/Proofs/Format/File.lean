import Interconnect.Chip.File
import Interconnect.Proofs.Format.Gzip
import Interconnect.Proofs.Format.Payload
/-!
# Chip files read back

A record that fits a file is decoded from it together with the hash of its payload, and loading the
file does what accepting the record under that hash would do. Compression changes nothing: a plain
file starts with the magic of chip files and never like a gzip file.
-/
namespace Interconnect.ChipFile

theorem length_header (payload : List UInt8) :
    (magic ++ Bytes.ofNat 4 formatVersion ++ (ContentHash.ofBytes payload).bytes).length =
      headerLength := by
  simp [magic, headerLength, ContentHash.length_bytes_ofBytes]

theorem unframe_frame (payload : List UInt8) :
    unframe (frame payload) = .ok (payload, ContentHash.ofBytes payload) := by
  have header := length_header payload
  have start : (frame payload).take 4 = magic := rfl
  have long : ¬ (frame payload).length < headerLength := by
    rw [frame, List.length_append, header]
    omega
  have version : Bytes.toNat (((frame payload).drop 4).take 4) = formatVersion := by
    have word : ((frame payload).drop 4).take 4 = Bytes.ofNat 4 formatVersion := rfl
    rw [word, Bytes.toNat_ofNat_of_lt (by decide)]
  have stored : ((frame payload).drop 8).take 16 = (ContentHash.ofBytes payload).bytes :=
    List.take_left' (ContentHash.length_bytes_ofBytes payload)
  have behind : (frame payload).drop headerLength = payload := List.drop_left' header
  simp [unframe, start, long, version, stored, behind]

theorem decode_encode {r : ChipRecord} (fits : r.Fits) :
    decode (encode r) = .ok (.ok (r, ContentHash.ofBytes (Payload.chipRecord.write r))) := by
  have record := Payload.chipRecord_readsBack r fits []
  rw [List.append_nil] at record
  simp [decode, encode, unframe_frame, record]

/-- A plain file is no gzip file, and a gzip file is unpacked. -/
theorem unpack_contents (path : String) (r : ChipRecord) (compress : Bool) :
    unpack path (contents r compress) = .ok (encode r) := by
  cases compress with
  | false => rfl
  | true =>
    have start : (Gzip.compress (encode r)).take 2 = Gzip.magic := rfl
    simp [unpack, contents, start, Gzip.decompress?_compress]

theorem unpack_of_decompress? {file bytes : List UInt8}
    (h : Gzip.decompress? file = some bytes) (path : String) : unpack path file = .ok bytes := by
  rw [unpack, if_pos (Gzip.magic_of_decompress? h), h]

theorem load_of_unpack {path : String} {file : List UInt8} {r : ChipRecord} (fits : r.Fits)
    (h : unpack path file = .ok (encode r)) :
    load path file =
      .ok (ChipDatabase.ofRecord r (ContentHash.ofBytes (Payload.chipRecord.write r))) := by
  rw [load, h]
  simp only [decode_encode fits]
  rfl

/-- Every record that fits a file, accepted or not, comes back from its file with the hash of its
payload. Loading the file accepts or refuses the record under that hash, whether the file is plain,
compressed, or the work of any other compressor that can be undone. -/
theorem file_round_trip {r : ChipRecord} (fits : r.Fits) :
    let hash := ContentHash.ofBytes (Payload.chipRecord.write r)
    decode (encode r) = .ok (.ok (r, hash)) ∧
    (∀ path compress, load path (contents r compress) = .ok (ChipDatabase.ofRecord r hash)) ∧
    ∀ path file, Gzip.decompress? file = some (encode r) →
      load path file = .ok (ChipDatabase.ofRecord r hash) := by
  refine ⟨decode_encode fits, ?plain, ?other⟩
  case plain =>
    intro path compress
    exact load_of_unpack fits (unpack_contents path r compress)
  case other =>
    intro path file h
    exact load_of_unpack fits (unpack_of_decompress? h path)

/-- A record of one tile with numbers on both sides of each class of widths and references that lead
nowhere. -/
def sampleRecord : ChipRecord where
  name := "xc7täst"
  generator := ""
  width := 250
  height := 251
  knownIdCount := 65535
  extraIds := #["A", ""]
  tileTypes := #[{
    typeName := 65536
    bels := #[⟨0, 1, 4294967295, some 7, true, #[⟨3, 900, .inout⟩], some 2⟩]
    wires := #[⟨5, 6, none, #[1, 2, 70000], #[], #[⟨9, 8⟩]⟩]
    pips := #[⟨251, 252, some 0, some 300, .siteEntry, none⟩]
    timingIndex := some 4 }]
  tiles := #[⟨"T", 12, #[⟨"S_X0Y0", "S", "", (-2147483648, 2147483647), some (3, 4)⟩],
    #[none, some 99]⟩]
  nodes := #[⟨77, #[⟨1, 2⟩, ⟨3, 4⟩]⟩]
  timing := some ⟨#[⟨#[⟨#[⟨10, #[⟨11, 12, -126, 127⟩]⟩]⟩]⟩]⟩

theorem file_round_trip_sample :
    let hash := ContentHash.ofBytes (Payload.chipRecord.write sampleRecord)
    sampleRecord.Fits ∧ ¬ sampleRecord.Accepted ∧
    decode (encode sampleRecord) = .ok (.ok (sampleRecord, hash)) ∧
    load "sample" (Gzip.compress (encode sampleRecord)) =
      .ok (ChipDatabase.ofRecord sampleRecord hash) := by
  have fits : sampleRecord.Fits := by decide +kernel
  have refused : ¬ sampleRecord.Accepted := by
    intro h
    have count : Check.record sampleRecord = .error (.knownIdCount 65535) := rfl
    rw [ChipRecord.Accepted, count] at h
    cases h
  obtain ⟨decoded, -, other⟩ := file_round_trip fits
  exact ⟨fits, refused, decoded, other "sample" _ (Gzip.decompress?_compress _)⟩

end Interconnect.ChipFile
