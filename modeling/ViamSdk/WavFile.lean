import ViamSdk.Cxx
import ViamSdk.RiffWave

/-!
# Writing WAV files

`write_wav_file` writes a header of 44 bytes, field by field as the host keeps
them, and then the audio data.  It does not ask whether the writes went well.
An odd number of data bytes is left without the byte that pads a chunk, which
the reader forgives, as the data are the last chunk.
-/

namespace ViamSdk

open ByteOrder RiffWave

namespace AudioCodecs

def pcm16 : Str := "pcm16".toList

def pcm32 : Str := "pcm32".toList

def pcm32Float : Str := "pcm32_float".toList

end AudioCodecs

def getBitsPerSample (codec : Str) : Cxx UInt16 :=
  if codec = AudioCodecs.pcm16 then .ok 16
  else if codec = AudioCodecs.pcm32 ∨ codec = AudioCodecs.pcm32Float then .ok 32
  else
    .error (.thrown (.std ("Unsupported codec for WAV file: ".toList ++ codec)))

/-- The header, and the data as far as the header says that there are any. -/
def wavBytes (host : Order) (audioData : List UInt8) (bitsPerSample : UInt16)
    (sampleRateHz : UInt32) (numChannels : UInt16) : List UInt8 :=
  let dataSize := UInt32.ofNat audioData.length
  let byteRate := sampleRateHz * numChannels.toUInt32 *
    (bitsPerSample / 8).toUInt32
  let blockAlign := numChannels * (bitsPerSample / 8)
  let chunkSize := 36 + dataSize
  let subchunk1Size : UInt32 := 16
  let audioFormat : UInt16 := 1
  riffId ++ store host 4 chunkSize.toNat ++ waveId ++
    formatId ++ store host 4 subchunk1Size.toNat ++
    store host 2 audioFormat.toNat ++ store host 2 numChannels.toNat ++
    store host 4 sampleRateHz.toNat ++ store host 4 byteRate.toNat ++
    store host 2 blockAlign.toNat ++ store host 2 bitsPerSample.toNat ++
    dataId ++ store host 4 dataSize.toNat ++ audioData.take dataSize.toNat

/-- The file that is opened: whether that succeeds, and what is in the file
once bytes have been written to it and it is closed. -/
structure OutFile where
  isOpen : Bool
  content : List UInt8 → List UInt8

/-- No write to the open file fails. -/
def OutFile.WritesSucceed (outfile : OutFile) : Prop :=
  outfile.isOpen = true → ∀ bytes, outfile.content bytes = bytes

def OutFile.sound : OutFile := ⟨true, id⟩

theorem OutFile.writesSucceed_sound : OutFile.sound.WritesSucceed :=
  fun _ _ => rfl

/-- The content of the file, where the call returns. -/
def writeWavFile (host : Order) (outfile : OutFile) (filename : Str)
    (audioData : List UInt8) (codec : Str) (sampleRateHz : UInt32)
    (numChannels : UInt16) : Cxx (List UInt8) :=
  if outfile.isOpen then do
    let bitsPerSample ← getBitsPerSample codec
    return outfile.content
      (wavBytes host audioData bitsPerSample sampleRateHz numChannels)
  else
    .error (.thrown (.std
      ("Failed to open file for writing: ".toList ++ filename)))

/-! ## What the file should say -/

def bytesPerSample (codec : Str) : ℕ :=
  if codec = AudioCodecs.pcm16 then 2 else 4

def codecFormat (codec : Str) : SampleFormat :=
  if codec = AudioCodecs.pcm16 then .integer 16
  else if codec = AudioCodecs.pcm32 then .integer 32
  else .float 32

/-- A reader finds in the file what was to be written. -/
def Decodable (audioData : List UInt8) (codec : Str) (sampleRateHz : UInt32)
    (numChannels : UInt16) (file : List UInt8) : Prop :=
  ∃ wave, read file = some wave ∧
    wave.sampleFormat = codecFormat codec ∧
    wave.format.sampleRate = sampleRateHz.toNat ∧
    wave.format.channels = numChannels.toNat ∧
    wave.samples = audioData ∧
    wave.riffSize + 8 = file.length ∧
    wave.dataSize = audioData.length ∧
    wave.format.blockAlign = numChannels.toNat * bytesPerSample codec ∧
    wave.format.byteRate = sampleRateHz.toNat * wave.format.blockAlign

/-- The samples are integers, and no field is too small for what goes into
it. -/
structure FieldsFit (audioData : List UInt8) (codec : Str)
    (sampleRateHz : UInt32) (numChannels : UInt16) : Prop where
  integer : codec ≠ AudioCodecs.pcm32Float
  riffSize : 36 + audioData.length < 256 ^ 4
  blockAlign : numChannels.toNat * bytesPerSample codec < 256 ^ 2
  byteRate : sampleRateHz.toNat * (numChannels.toNat * bytesPerSample codec) <
    256 ^ 4

/-! ## What the file says -/

section File

variable {audioData file : List UInt8} {codec filename : Str} {outfile : OutFile}
  {sampleRateHz : UInt32} {numChannels bitsPerSample : UInt16}

def writtenFormat (bitsPerSample : UInt16) (sampleRateHz : UInt32)
    (numChannels : UInt16) : Format where
  tag := 1
  channels := numChannels.toNat
  sampleRate := sampleRateHz.toNat
  byteRate :=
    (sampleRateHz * numChannels.toUInt32 * (bitsPerSample / 8).toUInt32).toNat
  blockAlign := (numChannels * (bitsPerSample / 8)).toNat
  bitsPerSample := bitsPerSample.toNat

theorem writtenFormat_fits
    (bitsPerSample : UInt16) (sampleRateHz : UInt32) (numChannels : UInt16) :
    (writtenFormat bitsPerSample sampleRateHz numChannels).Fits where
  tag := (by decide : 1 < 256 ^ 2)
  channels := numChannels.toNat_lt
  sampleRate := sampleRateHz.toNat_lt
  byteRate := UInt32.toNat_lt _
  blockAlign := UInt16.toNat_lt _
  bitsPerSample := bitsPerSample.toNat_lt

theorem wavBytes_eq_encode :
    wavBytes .little audioData bitsPerSample sampleRateHz numChannels =
      encode (36 + UInt32.ofNat audioData.length).toNat
        (writtenFormat bitsPerSample sampleRateHz numChannels)
        (UInt32.ofNat audioData.length).toNat
        (audioData.take (UInt32.ofNat audioData.length).toNat) := by
  unfold wavBytes encode encodeChunk Format.encode writtenFormat
  simp only [List.append_assoc]
  rfl

theorem supported_of_ok
    (hbits : getBitsPerSample codec = .ok bitsPerSample) :
    (codec = AudioCodecs.pcm16 ∧ bitsPerSample = 16) ∨
      (codec = AudioCodecs.pcm32 ∧ bitsPerSample = 32) ∨
      (codec = AudioCodecs.pcm32Float ∧ bitsPerSample = 32) := by
  unfold getBitsPerSample at hbits
  split at hbits
  next hcodec =>
    cases hbits
    exact Or.inl ⟨hcodec, rfl⟩
  next =>
    split at hbits
    next hcodec =>
      cases hbits
      exact Or.inr (hcodec.imp (⟨·, rfl⟩) (⟨·, rfl⟩))
    next => cases hbits

theorem toNat_div_eight
    (hbits : getBitsPerSample codec = .ok bitsPerSample) :
    (bitsPerSample / 8).toNat = bytesPerSample codec := by
  rcases supported_of_ok hbits with ⟨rfl, rfl⟩ | ⟨rfl, rfl⟩ | ⟨rfl, rfl⟩ <;> rfl

/-- The file never says that its samples are floating-point ones. -/
theorem sampleFormat_iff
    (hbits : getBitsPerSample codec = .ok bitsPerSample) :
    SampleFormat.integer bitsPerSample.toNat = codecFormat codec ↔
      codec ≠ AudioCodecs.pcm32Float := by
  rcases supported_of_ok hbits with ⟨rfl, rfl⟩ | ⟨rfl, rfl⟩ | ⟨rfl, rfl⟩
  · exact iff_of_true rfl (by decide)
  · exact iff_of_true rfl (by decide)
  · exact iff_of_false (fun h => SampleFormat.noConfusion h) (by simp)

theorem blockAlign_iff
    (hbits : getBitsPerSample codec = .ok bitsPerSample) :
    (numChannels * (bitsPerSample / 8)).toNat =
        numChannels.toNat * bytesPerSample codec ↔
      numChannels.toNat * bytesPerSample codec < 256 ^ 2 := by
  rw [UInt16.toNat_mul, toNat_div_eight hbits]
  exact Nat.mod_eq_iff_lt (by omega)

theorem byteRate_iff
    (hbits : getBitsPerSample codec = .ok bitsPerSample) :
    (sampleRateHz * numChannels.toUInt32 * (bitsPerSample / 8).toUInt32).toNat =
        sampleRateHz.toNat * (numChannels.toNat * bytesPerSample codec) ↔
      sampleRateHz.toNat * (numChannels.toNat * bytesPerSample codec) <
        256 ^ 4 := by
  rw [UInt32.toNat_mul, UInt32.toNat_mul, UInt16.toNat_toUInt32,
    UInt16.toNat_toUInt32, toNat_div_eight hbits, Nat.mod_mul_mod,
    Nat.mul_assoc]
  exact Nat.mod_eq_iff_lt (by omega)

theorem length_take_toNat
    (audioData : List UInt8) :
    (audioData.take (UInt32.ofNat audioData.length).toNat).length =
      (UInt32.ofNat audioData.length).toNat := by
  rw [List.length_take, UInt32.toNat_ofNat']
  exact Nat.min_eq_left (Nat.mod_le _ _)

theorem read_wavBytes
    (hfits : 36 + (UInt32.ofNat audioData.length).toNat < 256 ^ 4) :
    read (wavBytes .little audioData bitsPerSample sampleRateHz numChannels) =
      some
        { riffSize := 36 + (UInt32.ofNat audioData.length).toNat
          format := writtenFormat bitsPerSample sampleRateHz numChannels
          sampleFormat := .integer bitsPerSample.toNat
          dataSize := (UInt32.ofNat audioData.length).toNat
          samples :=
            audioData.take (UInt32.ofNat audioData.length).toNat } := by
  have hlength := length_take_toNat audioData
  have hsize : (36 + UInt32.ofNat audioData.length).toNat =
      36 + (UInt32.ofNat audioData.length).toNat := by
    rw [UInt32.toNat_add]
    exact Nat.mod_eq_of_lt hfits
  have hsamples : 36 + (UInt32.ofNat audioData.length).toNat =
      36 + (audioData.take (UInt32.ofNat audioData.length).toNat).length := by
    rw [hlength]
  have hread := read_encode
    (writtenFormat_fits bitsPerSample sampleRateHz numChannels) rfl hsamples
    hfits
  rw [hlength] at hread
  rw [wavBytes_eq_encode, hsize]
  exact hread

/-- A header whose size has been carried past 32 bits is wrong. -/
theorem not_decodable_of_wrapped
    (hwraps : 256 ^ 4 ≤ 36 + (UInt32.ofNat audioData.length).toNat) :
    ¬ Decodable audioData codec sampleRateHz numChannels
      (wavBytes .little audioData bitsPerSample sampleRateHz numChannels) := by
  rintro ⟨wave, hread, -, -, -, -, hriff, -⟩
  rw [wavBytes_eq_encode] at hread hriff
  rw [length_encode, length_take_toNat] at hriff
  unfold encode at hread
  rw [riffSize_of_read (UInt32.toNat_lt _) hread] at hriff
  have hlt : (36 + UInt32.ofNat audioData.length).toNat < 256 ^ 4 :=
    UInt32.toNat_lt _
  omega

theorem dataSize_iff :
    (UInt32.ofNat audioData.length).toNat = audioData.length ↔
      audioData.length < 256 ^ 4 := by
  rw [UInt32.toNat_ofNat']
  exact Nat.mod_eq_iff_lt (by omega)

theorem decodable_wavBytes_iff
    (hbits : getBitsPerSample codec = .ok bitsPerSample) :
    Decodable audioData codec sampleRateHz numChannels
        (wavBytes .little audioData bitsPerSample sampleRateHz numChannels) ↔
      FieldsFit audioData codec sampleRateHz numChannels := by
  have hnarrowed : (UInt32.ofNat audioData.length).toNat ≤
      audioData.length := by
    rw [UInt32.toNat_ofNat']
    exact Nat.mod_le _ _
  by_cases hfits : 36 + (UInt32.ofNat audioData.length).toNat < 256 ^ 4
  · constructor
    · rintro ⟨wave, hread, hformat, -, -, -, -, hdata, halign, hrate⟩
      rw [read_wavBytes hfits, Option.some.injEq] at hread
      subst hread
      rw [halign] at hrate
      constructor
      · exact (sampleFormat_iff hbits).mp hformat
      · simp only at hdata
        omega
      · exact (blockAlign_iff hbits).mp halign
      · exact (byteRate_iff hbits).mp hrate
    · intro h
      have hdata : (UInt32.ofNat audioData.length).toNat =
          audioData.length := by
        have hroom := h.riffSize
        exact dataSize_iff.mpr (by omega)
      have halign := (blockAlign_iff hbits).mpr h.blockAlign
      have hlength : (wavBytes .little audioData bitsPerSample sampleRateHz
          numChannels).length = 44 + audioData.length := by
        rw [wavBytes_eq_encode, length_encode, length_take_toNat, hdata]
      refine ⟨_, read_wavBytes hfits, (sampleFormat_iff hbits).mpr h.integer,
        rfl, rfl, ?_, ?_, hdata, halign, ?_⟩
      · rw [hdata, List.take_length]
      · change 36 + (UInt32.ofNat audioData.length).toNat + 8 = _
        rw [hlength, hdata]
        omega
      · change _ = _ * (numChannels * (bitsPerSample / 8)).toNat
        rw [halign]
        exact (byteRate_iff hbits).mpr h.byteRate
  · refine iff_of_false (not_decodable_of_wrapped (by omega)) ?_
    intro h
    have hroom := h.riffSize
    omega

/-- The header always says that the samples are integers, and its fields are
products and sums that wrap around. -/
theorem decodable_iff_fieldsFit
    (hwrites : outfile.WritesSucceed)
    (hwritten : writeWavFile .little outfile filename audioData codec
      sampleRateHz numChannels = .ok file) :
    Decodable audioData codec sampleRateHz numChannels file ↔
      FieldsFit audioData codec sampleRateHz numChannels := by
  unfold writeWavFile at hwritten
  split at hwritten
  next hopen =>
    cases hbits : getBitsPerSample codec with
    | error fault =>
        rw [hbits] at hwritten
        cases hwritten
    | ok bitsPerSample =>
        rw [hbits] at hwritten
        cases hwritten
        rw [hwrites hopen]
        exact decodable_wavBytes_iff hbits
  next => cases hwritten

end File

theorem decodable_stereo :
    Decodable [1, 0, 255, 255] AudioCodecs.pcm16 8000 2
        (wavBytes .little [1, 0, 255, 255] 16 8000 2) ↔
      FieldsFit [1, 0, 255, 255] AudioCodecs.pcm16 8000 2 :=
  decodable_iff_fieldsFit OutFile.writesSucceed_sound
    (rfl : writeWavFile .little .sound "stereo.wav".toList [1, 0, 255, 255]
      AudioCodecs.pcm16 8000 2 = .ok _)

/-- A single floating-point sample is taken for an integer. -/
theorem not_decodable_float :
    ∃ file, writeWavFile .little .sound "float.wav".toList [0, 0, 128, 63]
        AudioCodecs.pcm32Float 48000 1 = .ok file ∧
      ¬ Decodable [0, 0, 128, 63] AudioCodecs.pcm32Float 48000 1 file := by
  refine ⟨_, rfl, ?_⟩
  rintro ⟨wave, hread, hformat, -⟩
  cases hread
  cases hformat

end ViamSdk
