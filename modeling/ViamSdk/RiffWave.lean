import ViamSdk.ByteOrder

/-!
# RIFF files with sound in them

A RIFF file is a chunk whose content is the name of a form and further chunks.
A chunk is its name in four bytes, the size of its content, and the content,
which is padded to an even size.  The form WAVE has a chunk that describes the
samples and one that holds them.

The reader takes a chunk at the end of the file without its padding.
-/

namespace RiffWave

open ByteOrder

/-! ## Chunks -/

structure Chunk where
  id : List UInt8
  size : ℕ
  content : List UInt8
  deriving DecidableEq, Repr

/-- A chunk, with the size that is written for it. -/
def encodeChunk (id : List UInt8) (size : ℕ) (content : List UInt8) :
    List UInt8 :=
  id ++ store .little 4 size ++ content

def readBytes (n : ℕ) (bytes : List UInt8) : Option (List UInt8 × List UInt8) :=
  if n ≤ bytes.length then some (bytes.take n, bytes.drop n) else none

def readWord (w : ℕ) (bytes : List UInt8) : Option (ℕ × List UInt8) :=
  (readBytes w bytes).map fun (word, rest) => (load .little word, rest)

def readChunk (bytes : List UInt8) : Option (Chunk × List UInt8) := do
  let (id, rest) ← readBytes 4 bytes
  let (size, rest) ← readWord 4 rest
  let (content, rest) ← readBytes size rest
  return (⟨id, size, content⟩, rest.drop (size % 2))

/-- The chunks up to the end.  No more are read than there is fuel. -/
def readChunks : ℕ → List UInt8 → Option (List Chunk)
  | _, [] => some []
  | 0, _ :: _ => none
  | fuel + 1, byte :: bytes => do
      let (chunk, rest) ← readChunk (byte :: bytes)
      let chunks ← readChunks fuel rest
      return chunk :: chunks

/-- The content of a RIFF file, and the size that its header gives. -/
structure File where
  size : ℕ
  form : List UInt8
  chunks : List Chunk
  deriving DecidableEq, Repr

/-- `"RIFF"`. -/
def riffId : List UInt8 := [0x52, 0x49, 0x46, 0x46]

def readFile (bytes : List UInt8) : Option File := do
  let (id, rest) ← readBytes 4 bytes
  if id = riffId then
    let (size, rest) ← readWord 4 rest
    let (form, rest) ← readBytes 4 (rest.take size)
    let chunks ← readChunks rest.length rest
    return ⟨size, form, chunks⟩
  else none

/-! ## The form WAVE -/

/-- `"WAVE"`. -/
def waveId : List UInt8 := [0x57, 0x41, 0x56, 0x45]

/-- `"fmt "`. -/
def formatId : List UInt8 := [0x66, 0x6d, 0x74, 0x20]

/-- `"data"`. -/
def dataId : List UInt8 := [0x64, 0x61, 0x74, 0x61]

structure Format where
  tag : ℕ
  channels : ℕ
  sampleRate : ℕ
  byteRate : ℕ
  blockAlign : ℕ
  bitsPerSample : ℕ
  deriving DecidableEq, Repr

inductive SampleFormat where
  | integer (bits : ℕ)
  | float (bits : ℕ)
  deriving DecidableEq, Repr

/-- The tags of integer samples and of IEEE floating-point ones. -/
def Format.sampleFormat (format : Format) : Option SampleFormat :=
  match format.tag with
  | 1 => some (.integer format.bitsPerSample)
  | 3 => some (.float format.bitsPerSample)
  | _ => none

def Format.encode (format : Format) : List UInt8 :=
  store .little 2 format.tag ++ store .little 2 format.channels ++
    store .little 4 format.sampleRate ++ store .little 4 format.byteRate ++
    store .little 2 format.blockAlign ++ store .little 2 format.bitsPerSample

def Format.read (bytes : List UInt8) : Option Format := do
  let (tag, rest) ← readWord 2 bytes
  let (channels, rest) ← readWord 2 rest
  let (sampleRate, rest) ← readWord 4 rest
  let (byteRate, rest) ← readWord 4 rest
  let (blockAlign, rest) ← readWord 2 rest
  let (bitsPerSample, _) ← readWord 2 rest
  return ⟨tag, channels, sampleRate, byteRate, blockAlign, bitsPerSample⟩

structure Wave where
  riffSize : ℕ
  format : Format
  sampleFormat : SampleFormat
  dataSize : ℕ
  samples : List UInt8
  deriving DecidableEq, Repr

def findChunk (id : List UInt8) (chunks : List Chunk) : Option Chunk :=
  chunks.find? fun chunk => chunk.id = id

def read (bytes : List UInt8) : Option Wave := do
  let file ← readFile bytes
  if file.form = waveId then
    let formatChunk ← findChunk formatId file.chunks
    let format ← Format.read formatChunk.content
    let sampleFormat ← format.sampleFormat
    let samples ← findChunk dataId file.chunks
    return ⟨file.size, format, sampleFormat, samples.size, samples.content⟩
  else none

/-! ## Reading back -/

section Chunks

variable {id content rest : List UInt8} {size : ℕ}

theorem readBytes_append
    {n : ℕ} (hcontent : content.length = n) (rest : List UInt8) :
    readBytes n (content ++ rest) = some (content, rest) := by
  subst n
  unfold readBytes
  rw [List.take_left, List.drop_left, List.length_append,
    if_pos (Nat.le_add_right _ _)]

theorem readWord_store
    {w n : ℕ} (hn : n < 256 ^ w) (rest : List UInt8) :
    readWord w (store .little w n ++ rest) = some (n, rest) := by
  unfold readWord
  rw [readBytes_append (length_store .little w n), Option.map_some]
  simp only [load_store hn]

/-- A chunk whose size is even or that ends the bytes is read back. -/
theorem readChunk_encodeChunk
    (hid : id.length = 4) (hsize : size < 256 ^ 4)
    (hcontent : content.length = size) (hpadded : size % 2 = 0 ∨ rest = []) :
    readChunk (encodeChunk id size content ++ rest) =
      some (⟨id, size, content⟩, rest) := by
  have hleft : rest.drop (size % 2) = rest := by
    rcases hpadded with heven | rfl
    · rw [heven, List.drop_zero]
    · exact List.drop_nil
  unfold readChunk encodeChunk
  simp only [List.append_assoc, readBytes_append hid, readWord_store hsize,
    readBytes_append hcontent, Option.bind_eq_bind, Option.bind_some, hleft]
  rfl

theorem readChunks_nil (fuel : ℕ) : readChunks fuel [] = some [] := by
  cases fuel <;> rfl

theorem readChunks_of_readChunk
    {bytes : List UInt8} {chunk : Chunk}
    (hread : readChunk bytes = some (chunk, rest)) {fuel : ℕ}
    {chunks : List Chunk} (hrest : readChunks fuel rest = some chunks) :
    readChunks (fuel + 1) bytes = some (chunk :: chunks) := by
  cases bytes with
  | nil => cases hread
  | cons byte bytes =>
      unfold readChunks
      rw [hread]
      simp only [Option.bind_eq_bind, Option.bind_some]
      rw [hrest]
      rfl

/-- The reader sees as much of the content as the header promises. -/
theorem readFile_encodeChunk
    (hsize : size < 256 ^ 4) :
    readFile (encodeChunk riffId size content) = do
      let (form, rest) ← readBytes 4 (content.take size)
      let chunks ← readChunks rest.length rest
      return ⟨size, form, chunks⟩ := by
  unfold readFile encodeChunk
  have hid : riffId.length = 4 := rfl
  simp only [List.append_assoc, readBytes_append hid, readWord_store hsize,
    Option.bind_eq_bind, Option.bind_some, if_true]

/-- Whatever else is read, the size is the one in the header. -/
theorem riffSize_of_read
    (hsize : size < 256 ^ 4) {wave : Wave}
    (hread : read (encodeChunk riffId size content) = some wave) :
    wave.riffSize = size := by
  unfold read at hread
  rw [readFile_encodeChunk hsize] at hread
  simp only [Option.bind_eq_bind, Option.bind_eq_some_iff] at hread
  rcases hread with ⟨file, ⟨⟨form, rest⟩, -, chunks, -, hfile⟩, hread⟩
  cases hfile
  split at hread
  next =>
    simp only [Option.bind_eq_some_iff] at hread
    rcases hread with ⟨_, -, _, -, _, -, _, -, hwave⟩
    cases hwave
    rfl
  next => cases hread

end Chunks

/-! ## A sound file -/

/-- The fields have the room that a format chunk gives them. -/
structure Format.Fits (format : Format) : Prop where
  tag : format.tag < 256 ^ 2
  channels : format.channels < 256 ^ 2
  sampleRate : format.sampleRate < 256 ^ 4
  byteRate : format.byteRate < 256 ^ 4
  blockAlign : format.blockAlign < 256 ^ 2
  bitsPerSample : format.bitsPerSample < 256 ^ 2

@[simp]
theorem Format.length_encode (format : Format) : format.encode.length = 16 := by
  unfold encode
  simp only [List.length_append, length_store]

theorem Format.read_encode
    {format : Format} (h : format.Fits) : read format.encode = some format := by
  have hlast : store .little 2 format.bitsPerSample =
      store .little 2 format.bitsPerSample ++ [] := (List.append_nil _).symm
  unfold read encode
  rw [hlast]
  simp only [List.append_assoc, readWord_store h.tag, readWord_store h.channels,
    readWord_store h.sampleRate, readWord_store h.byteRate,
    readWord_store h.blockAlign, readWord_store h.bitsPerSample,
    Option.bind_eq_bind, Option.bind_some]
  rfl

/-- A format chunk and a chunk of samples, in a file of the form WAVE. -/
def encode (riffSize : ℕ) (format : Format) (dataSize : ℕ)
    (samples : List UInt8) : List UInt8 :=
  encodeChunk riffId riffSize
    (waveId ++ (encodeChunk formatId 16 format.encode ++
      encodeChunk dataId dataSize samples))

theorem length_encodeChunk
    (id : List UInt8) (size : ℕ) (content : List UInt8) :
    (encodeChunk id size content).length = id.length + 4 + content.length := by
  unfold encodeChunk
  rw [List.length_append, List.length_append, length_store]

theorem length_encode
    (riffSize : ℕ) (format : Format) (dataSize : ℕ) (samples : List UInt8) :
    (encode riffSize format dataSize samples).length = 44 + samples.length := by
  unfold encode
  simp only [length_encodeChunk, List.length_append, Format.length_encode,
    riffId, waveId, formatId, dataId, List.length_cons, List.length_nil]
  omega

/-- With the right sizes, everything is read back. -/
theorem read_encode
    {riffSize : ℕ} {format : Format} {samples : List UInt8}
    (hformat : format.Fits) {sampleFormat : SampleFormat}
    (hsampleFormat : format.sampleFormat = some sampleFormat)
    (hsize : riffSize = 36 + samples.length) (hroom : riffSize < 256 ^ 4) :
    read (encode riffSize format samples.length samples) =
      some ⟨riffSize, format, sampleFormat, samples.length, samples⟩ := by
  have hdata : readChunk (encodeChunk dataId samples.length samples) =
      some (⟨dataId, samples.length, samples⟩, []) := by
    rw [← List.append_nil (encodeChunk dataId samples.length samples)]
    exact readChunk_encodeChunk rfl (by omega) rfl (Or.inr rfl)
  have hfmt : readChunk (encodeChunk formatId 16 format.encode ++
      encodeChunk dataId samples.length samples) =
        some (⟨formatId, 16, format.encode⟩,
          encodeChunk dataId samples.length samples) :=
    readChunk_encodeChunk rfl (by omega) format.length_encode (Or.inl rfl)
  have hchunks (fuel : ℕ) : readChunks (fuel + 1 + 1)
      (encodeChunk formatId 16 format.encode ++
        encodeChunk dataId samples.length samples) =
      some [⟨formatId, 16, format.encode⟩,
        ⟨dataId, samples.length, samples⟩] :=
    readChunks_of_readChunk hfmt
      (readChunks_of_readChunk hdata (readChunks_nil fuel))
  have hlength : (encodeChunk formatId 16 format.encode ++
      encodeChunk dataId samples.length samples).length =
        30 + samples.length + 1 + 1 := by
    simp only [List.length_append, length_encodeChunk, Format.length_encode,
      formatId, dataId, List.length_cons, List.length_nil]
    omega
  have hcontent : (waveId ++ (encodeChunk formatId 16 format.encode ++
      encodeChunk dataId samples.length samples)).length ≤ riffSize := by
    rw [List.length_append, hlength]
    simp only [waveId, List.length_cons, List.length_nil]
    omega
  have hwave : waveId.length = 4 := rfl
  unfold read encode
  rw [readFile_encodeChunk hroom, List.take_of_length_le hcontent,
    readBytes_append hwave]
  simp only [Option.bind_eq_bind, Option.bind_some, Option.pure_def, hlength,
    hchunks]
  have hformatChunk : findChunk formatId [⟨formatId, 16, format.encode⟩,
      ⟨dataId, samples.length, samples⟩] =
        some ⟨formatId, 16, format.encode⟩ := rfl
  have hdataChunk : findChunk dataId [⟨formatId, 16, format.encode⟩,
      ⟨dataId, samples.length, samples⟩] =
        some ⟨dataId, samples.length, samples⟩ := rfl
  simp only [if_true, hformatChunk, hdataChunk, Option.bind_some,
    Format.read_encode hformat, hsampleFormat]

end RiffWave
