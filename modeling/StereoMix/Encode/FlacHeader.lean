import StereoMix.Encode.FlacEnc
import StereoMix.Lib.ExtendedUtf8
import StereoMix.Lib.FlacFormat

/-!
# Checksums, STREAMINFO and the frame header

Each writer of `flac_enc.rs` appends a bit string (`BitWriter.Appends`) that the matching reader of the
reference decoder reads (`BitReader.Reads`): the checksums are the format's, STREAMINFO and the frame
header read back as the values they were written from.
-/

namespace StereoMix.Encode

open BitString BitReader FlacFormat BitWriter

/-! ## Checksums -/

theorem crc8Step_eq (crc : BitVec 8) : crc8Step crc = Crc.shift 0x07#8 crc := by
  have msb : (crc &&& 0x80#8 ≠ 0#8) ↔ crc.msb = true := by
    revert crc; decide
  simp only [crc8Step, Crc.shift, msb]

theorem crc16Step_eq (crc : BitVec 16) : crc16Step crc = Crc.shift 0x8005#16 crc := by
  have msb : (crc &&& 0x8000#16 ≠ 0#16) ↔ crc.msb = true := by
    rw [show 0x8000#16 = BitVec.twoPow 16 15 from rfl, BitVec.and_twoPow, BitVec.msb_eq_getLsbD_last]
    cases crc.getLsbD 15 <;> simp
  simp only [crc16Step, Crc.shift, msb]

/-- `crc8` is the division by the format's polynomial. -/
theorem crc8_eq (data : List (BitVec 8)) : crc8 data = Crc.crc 0x07#8 (ofBytes data) := by
  rw [Crc.crc_ofBytes _ (by omega), crc8, show crc8Step = Crc.shift 0x07#8 from funext crc8Step_eq]
  simp

/-- `crc16` is the division by the format's polynomial. -/
theorem crc16_eq (data : List (BitVec 8)) : crc16 data = Crc.crc 0x8005#16 (ofBytes data) := by
  rw [Crc.crc_ofBytes _ (by omega), crc16, show crc16Step = Crc.shift 0x8005#16 from funext crc16Step_eq]
  rfl

/-! ## STREAMINFO -/

/-- The bytes of STREAMINFO are its fields, end to end. -/
theorem ofBytes_buildStreaminfo (minBlock maxBlock : BitVec 16) (sampleRate : BitVec 32)
    (channels bitsPerSample : BitVec 16) (totalSamples : BitVec 64) :
    ofBytes (buildStreaminfo minBlock maxBlock sampleRate channels bitsPerSample totalSamples) =
      ofNat 16 minBlock.toNat ++ (ofNat 16 maxBlock.toNat ++ (ofNat 24 0 ++ (ofNat 24 0 ++
        (ofNat 20 sampleRate.toNat ++ (ofNat 3 (channels - 1#16).toNat ++
          (ofNat 5 (bitsPerSample - 1#16).toNat ++ (ofNat 36 totalSamples.toNat ++ ofNat 128 0))))))) := by
  simp only [buildStreaminfo, ofBytes_append, ofBytes_cons, ofBytes_nil]
  simp only [ofNat, BitVec.testBit_toNat]
  simp

/-- STREAMINFO reads back as what it was built from, the total cut to its 36 bits. -/
theorem reads_buildStreaminfo {minBlock maxBlock channels bitsPerSample : BitVec 16} {sampleRate : BitVec 32}
    {totalSamples : BitVec 64} (rate : sampleRate.toNat < 2 ^ 20) (chans : 1 ≤ channels.toNat ∧ channels.toNat ≤ 8)
    (depth : 1 ≤ bitsPerSample.toNat ∧ bitsPerSample.toNat ≤ 32) :
    Reads streamInfo
      (ofBytes (buildStreaminfo minBlock maxBlock sampleRate channels bitsPerSample totalSamples))
      ⟨minBlock.toNat, maxBlock.toNat, 0, 0, sampleRate.toNat, channels.toNat, bitsPerSample.toNat,
        totalSamples.toNat % 2 ^ 36, 0⟩ := by
  have ch : (channels - 1#16).toNat = channels.toNat - 1 := by bv_omega
  have bps : (bitsPerSample - 1#16).toNat = bitsPerSample.toNat - 1 := by bv_omega
  rw [ofBytes_buildStreaminfo, ch, bps, streamInfo, ← ofNat_mod 36]
  refine (reads_nat minBlock.isLt).bind ((reads_nat maxBlock.isLt).bind ((reads_nat (by omega)).bind
    ((reads_nat (by omega)).bind ((reads_nat rate).bind ((reads_nat (by omega)).bind ((reads_nat (by omega)).bind
    ((reads_nat (Nat.mod_lt _ (Nat.two_pow_pos 36))).bind ((reads_nat (by omega)).last ?_))))))))
  rw [Nat.sub_add_cancel chans.1, Nat.sub_add_cancel depth.1]
  exact .pure _

/-! ## The frame header -/

/-- The block-size code announces a trailing byte, two trailing bytes, or the size itself. -/
theorem blockSizeCode_cases (bs : Nat) :
    (blockSizeCode bs = 6#8 ∧ bs ≤ 256) ∨ blockSizeCode bs = 7#8 ∨
      (blockSizeCode bs ≠ 6#8 ∧ blockSizeCode bs ≠ 7#8 ∧ (blockSizeCode bs).toNat < 16 ∧
        blockSizeField (blockSizeCode bs).toNat = pure bs) := by
  unfold blockSizeCode
  split
  all_goals try exact .inr (.inr ⟨by decide, by decide, by decide, by simp [blockSizeField]⟩)
  split
  · exact .inl ⟨rfl, by assumption⟩
  · exact .inr (.inl rfl)

/-- The block-size code and its trailing bytes stand for the block size. -/
theorem blockSize_field (w : BitWriter) {bs : Nat} (low : 1 ≤ bs) (high : bs ≤ 65536) :
    (blockSizeCode bs).toNat < 16 ∧ ∃ b, 8 ∣ b.length ∧
      Appends w (if blockSizeCode bs = 6#8 then w.writeBits (BitVec.ofNat 64 (bs - 1)) 8
        else if blockSizeCode bs = 7#8 then w.writeBits (BitVec.ofNat 64 (bs - 1)) 16 else w) b ∧
      Reads (blockSizeField (blockSizeCode bs).toNat) b bs := by
  have value : (BitVec.ofNat 64 (bs - 1)).toNat = bs - 1 := by
    rw [BitVec.toNat_ofNat]; omega
  rcases blockSizeCode_cases bs with ⟨code, small⟩ | code | ⟨not6, not7, bound, field⟩
  · have field := (reads_nat (n := 8) (v := bs - 1) (by omega)).map (· + 1)
    rw [Nat.sub_add_cancel low] at field
    have reader : blockSizeField (6#8).toNat = (do return (← nat 8) + 1) := by simp [blockSizeField]
    rw [code, if_pos rfl, reader]
    exact ⟨by decide, _, by simp, appends_field w (by rw [value]; omega), field⟩
  · have field := (reads_nat (n := 16) (v := bs - 1) (by omega)).map (· + 1)
    rw [Nat.sub_add_cancel low] at field
    have reader : blockSizeField (7#8).toNat = (do return (← nat 16) + 1) := by simp [blockSizeField]
    rw [code, if_neg (by decide), if_pos rfl, reader]
    exact ⟨by decide, _, by simp, appends_field w (by rw [value]; omega), field⟩
  · rw [if_neg not6, if_neg not7, field]
    exact ⟨bound, [], by simp, .refl w, .pure bs⟩

/-- The sample-rate code announces the rate in kHz, in Hz, in tens of Hz, or the rate itself. -/
theorem sampleRateCode_cases (sr : BitVec 32) :
    (sampleRateCode sr = 12#8 ∧ sr % 1000#32 = 0#32 ∧ sr / 1000#32 ≤ 255#32) ∨
    (sampleRateCode sr = 13#8 ∧ sr ≤ 65535#32) ∨ sampleRateCode sr = 14#8 ∨
      (sampleRateCode sr ≠ 12#8 ∧ sampleRateCode sr ≠ 13#8 ∧ sampleRateCode sr ≠ 14#8 ∧
        (sampleRateCode sr).toNat < 16 ∧ rateField (sampleRateCode sr).toNat = pure (some sr.toNat)) := by
  unfold sampleRateCode
  split
  all_goals try
    rename_i rate
    exact .inr (.inr (.inr ⟨by decide, by decide, by decide, by decide, by simp [rateField, rateTable, rate]⟩))
  split
  · rename_i khz
    exact .inl ⟨rfl, khz⟩
  · split
    · exact .inr (.inl ⟨rfl, by assumption⟩)
    · exact .inr (.inr (.inl rfl))

/-- The rate a frame header states: for code 14 the tens of Hz, in 16 bits. -/
def statedRate (sr : BitVec 32) : Nat :=
  if sampleRateCode sr = 14#8 then 10 * (sr.toNat / 10 % 2 ^ 16) else sr.toNat

/-- The sample-rate code and its trailing bytes stand for the stated rate. -/
theorem sampleRate_field (w : BitWriter) (sr : BitVec 32) :
    (sampleRateCode sr).toNat < 16 ∧ ∃ b, 8 ∣ b.length ∧
      Appends w (if sampleRateCode sr = 12#8 then w.writeBits ((sr / 1000#32).setWidth 64) 8
        else if sampleRateCode sr = 13#8 then w.writeBits (sr.setWidth 64) 16
        else if sampleRateCode sr = 14#8 then w.writeBits ((sr / 10#32).setWidth 64) 16 else w) b ∧
      Reads (rateField (sampleRateCode sr).toNat) b (some (statedRate sr)) := by
  have range := sr.isLt
  rcases sampleRateCode_cases sr with ⟨code, khz, small⟩ | ⟨code, small⟩ | code | ⟨not12, not13, not14, bound, field⟩
  · have stated : statedRate sr = 1000 * (sr.toNat / 1000) := by
      have exact_khz : sr.toNat % 1000 = 0 := by simpa using congrArg BitVec.toNat khz
      rw [statedRate, code, if_neg (by decide)]
      omega
    have fits : sr.toNat / 1000 < 2 ^ 8 := by
      have : sr.toNat / 1000 ≤ 255 := by simpa [BitVec.le_def] using small
      omega
    have reader : rateField (12#8).toNat = (do return some (1000 * (← nat 8))) := by simp [rateField]
    rw [code, if_pos rfl, reader, stated]
    exact ⟨by decide, _, by simp, appends_field w (by simp; omega), (reads_nat fits).map fun v => some (1000 * v)⟩
  · have stated : statedRate sr = sr.toNat := by
      rw [statedRate, code, if_neg (by decide)]
    have fits : sr.toNat < 2 ^ 16 := by
      have : sr.toNat ≤ 65535 := by simpa [BitVec.le_def] using small
      omega
    have reader : rateField (13#8).toNat = (do return some (← nat 16)) := by simp [rateField]
    rw [code, if_neg (by decide), if_pos rfl, reader, stated]
    exact ⟨by decide, _, by simp, appends_field w (by simp; omega), (reads_nat fits).map some⟩
  · have fits : sr.toNat / 10 % 2 ^ 16 < 2 ^ 16 := Nat.mod_lt _ (Nat.two_pow_pos 16)
    have reader : rateField (14#8).toNat = (do return some (10 * (← nat 16))) := by simp [rateField]
    rw [statedRate, code, if_neg (by decide), if_neg (by decide), if_pos rfl, if_pos rfl, reader]
    exact ⟨by decide, _, by simp, appends_field w (by simp), (reads_nat fits).map fun v => some (10 * v)⟩
  · rw [statedRate, if_neg not12, if_neg not13, if_neg not14, if_neg not14, field]
    exact ⟨bound, [], by simp, .refl w, .pure _⟩

/-! ## The frame number -/

/-- Continuation bytes add their groups of six bits. -/
theorem reads_continuation (rest : List (BitVec 8)) (v : Nat) (continues : ∀ b ∈ rest, b.toNat / 64 = 2) :
    Reads (continuation rest.length v) (ofBytes rest) (rest.foldl (fun v b => v * 64 + b.toNat % 64) v) := by
  induction rest generalizing v with
  | nil => exact .pure v
  | cons b rest ih =>
    have mark : b.toNat >>> 6 = 2 := by
      rw [Nat.shiftRight_eq_div_pow]
      exact continues b List.mem_cons_self
    have bits : ofNat 8 b.toNat = ofNat 2 2 ++ ofNat 6 (b.toNat % 64) := by
      rw [ofNat_add 2 6, mark]
      exact congrArg _ (ofNat_mod 6 b.toNat).symm
    rw [ofBytes_cons, bits, List.append_assoc, List.length_cons, continuation, List.foldl_cons]
    refine (reads_nat (by omega)).bind (.check rfl ((reads_nat (Nat.mod_lt _ (by omega))).bind ?_))
    exact ih _ fun c member => continues c (List.mem_cons_of_mem b member)

/-- The format reads what a lead byte announces. -/
theorem reads_codedNumber {lead : BitVec 8} {rest : List (BitVec 8)}
    (announces : ExtendedUtf8.announced lead = some rest.length) (continues : ∀ b ∈ rest, b.toNat / 64 = 2) :
    Reads codedNumber (ofBytes (lead :: rest)) (ExtendedUtf8.value lead rest) := by
  have behind := reads_continuation rest (lead.toNat - ExtendedUtf8.mark rest.length) continues
  apply (reads_nat lead.isLt).bind
  unfold ExtendedUtf8.value
  generalize count : rest.length = k at announces behind ⊢
  unfold ExtendedUtf8.announced at announces
  split_ifs at announces with one stray two three four five six seven <;> cases announces
  · obtain rfl := List.length_eq_zero_iff.1 count
    rw [if_pos one]
    exact .pure _
  · rw [if_neg one, if_neg stray, if_pos two]
    exact behind
  · rw [if_neg one, if_neg stray, if_neg two, if_pos three]
    exact behind
  · rw [if_neg one, if_neg stray, if_neg two, if_neg three, if_pos four]
    exact behind
  · rw [if_neg one, if_neg stray, if_neg two, if_neg three, if_neg four, if_pos five]
    exact behind
  · rw [if_neg one, if_neg stray, if_neg two, if_neg three, if_neg four, if_neg five, if_pos six]
    exact behind
  · rw [if_neg one, if_neg stray, if_neg two, if_neg three, if_neg four, if_neg five, if_neg six, if_pos seven]
    rw [seven] at behind ⊢
    exact behind

/-- How many continuation bytes the coder writes. -/
def continuationBytes (val : BitVec 32) : Nat :=
  if val < 0x80#32 then 0
  else if val < 0x800#32 then 1
  else if val < 0x10000#32 then 2
  else if val < 0x200000#32 then 3
  else 4

/-- A byte of the coder. -/
theorem appends_byte (w : BitWriter) (b : BitVec 32) :
    Appends w (w.writeBits (b.setWidth 64) 8) (ofBytes [b.setWidth 8]) := by
  rw [ofBytes_cons, ofBytes_nil, List.append_nil]
  apply appends_field w
  rw [BitVec.toNat_setWidth, BitVec.toNat_setWidth, Nat.mod_mod_of_dvd _ (Nat.pow_dvd_pow 2 (by omega))]

theorem toNat_shift (val : BitVec 32) (k : Nat) : (val >>> (6 * k)).toNat = val.toNat / 64 ^ k := by
  rw [BitVec.toNat_ushiftRight, Nat.shiftRight_eq_div_pow, Nat.pow_mul]

/-- The marker bits of a lead byte absorb the bits of the number that they meet. -/
theorem setWidth_lead {k : Nat} (low : 1 ≤ k) (high : k ≤ 4) (val : BitVec 32) :
    (BitVec.ofNat 32 (ExtendedUtf8.mark k) ||| val >>> (6 * k)).setWidth 8 = ExtendedUtf8.lead k val.toNat := by
  have absorbs : ∀ x : BitVec 8, BitVec.ofNat 8 (ExtendedUtf8.mark k) ||| x =
      BitVec.ofNat 8 (ExtendedUtf8.mark k + x.toNat % 2 ^ (7 - k)) := by
    interval_cases k <;> decide
  have bits : 2 ^ (7 - k) ∣ 2 ^ 8 := Nat.pow_dvd_pow 2 (by omega)
  rw [BitVec.setWidth_or, BitVec.setWidth_ofNat_of_le (by omega), absorbs, BitVec.toNat_setWidth,
    Nat.mod_mod_of_dvd _ bits, toNat_shift]
  rfl

theorem setWidth_group (x : BitVec 32) :
    (0x80#32 ||| (x &&& 0x3F#32)).setWidth 8 = BitVec.ofNat 8 (0x80 + x.toNat % 64) := by
  have group : ∀ y : BitVec 8, 0x80#8 ||| (y &&& 0x3F#8) = BitVec.ofNat 8 (0x80 + y.toNat % 64) := by decide
  rw [BitVec.setWidth_or, BitVec.setWidth_and, BitVec.setWidth_ofNat_of_le (by omega),
    BitVec.setWidth_ofNat_of_le (by omega), group, BitVec.toNat_setWidth, Nat.mod_mod_of_dvd _ (by decide)]

/-- The coder writes the form with that many, whatever the number. -/
theorem appends_form (w : BitWriter) (val : BitVec 32) :
    Appends w (writeUtf8Coded w val) (ofBytes (ExtendedUtf8.form (continuationBytes val) val.toNat)) := by
  have lead (w : BitWriter) {k : Nat} (low : 1 ≤ k) (high : k ≤ 4) : Appends w
      (w.writeBits ((BitVec.ofNat 32 (ExtendedUtf8.mark k) ||| val >>> (6 * k)).setWidth 64) 8)
      (ofBytes [ExtendedUtf8.lead k val.toNat]) := by
    rw [← setWidth_lead low high]
    exact appends_byte w _
  have group (w : BitWriter) (k : Nat) : Appends w
      (w.writeBits ((0x80#32 ||| ((val >>> (6 * k)) &&& 0x3F#32)).setWidth 64) 8)
      (ofBytes [BitVec.ofNat 8 (0x80 + val.toNat / 64 ^ k % 64)]) := by
    rw [← toNat_shift, ← setWidth_group]
    exact appends_byte w _
  have last (w : BitWriter) : Appends w (w.writeBits ((0x80#32 ||| (val &&& 0x3F#32)).setWidth 64) 8)
      (ofBytes [BitVec.ofNat 8 (0x80 + val.toNat / 64 ^ 0 % 64)]) := by
    simpa using group w 0
  unfold writeUtf8Coded continuationBytes
  split
  · rename_i small
    have below : val.toNat < 128 := BitVec.lt_def.1 small
    have whole : [val.setWidth 8] = ExtendedUtf8.form 0 val.toNat := by
      rw [ExtendedUtf8.form, ExtendedUtf8.lead, ExtendedUtf8.continuations]
      congr 1
      apply BitVec.eq_of_toNat_eq
      simp [ExtendedUtf8.mark]
      omega
    rw [← whole]
    exact appends_byte w val
  split
  · exact (lead w (k := 1) (by omega) (by omega)).trans (last _)
  split
  · exact (lead w (k := 2) (by omega) (by omega)).trans ((group _ 1).trans (last _))
  split
  · exact (lead w (k := 3) (by omega) (by omega)).trans ((group _ 2).trans ((group _ 1).trans (last _)))
  · exact (lead w (k := 4) (by omega) (by omega)).trans
      ((group _ 3).trans ((group _ 2).trans ((group _ 1).trans (last _))))

theorem continuationBytes_le (val : BitVec 32) : continuationBytes val ≤ 4 := by
  unfold continuationBytes
  split_ifs <;> omega

/-- No shorter form has room for the number. -/
theorem least_continuationBytes (val : BitVec 32) : ExtendedUtf8.least (continuationBytes val) ≤ val.toNat := by
  unfold continuationBytes
  split_ifs <;> simp [BitVec.lt_def, ExtendedUtf8.least] at * <;> omega

/-- The form has room for the number, up to 26 bits. -/
theorem lt_least_continuationBytes {val : BitVec 32} (range : val.toNat < 2 ^ 26) :
    val.toNat < ExtendedUtf8.least (continuationBytes val + 1) := by
  unfold continuationBytes
  split_ifs <;> simp [BitVec.lt_def, ExtendedUtf8.least] at * <;> omega

theorem wellFormed_coded {val : BitVec 32} (range : val.toNat < 2 ^ 26) :
    ExtendedUtf8.WellFormed (ExtendedUtf8.lead (continuationBytes val) val.toNat)
      (ExtendedUtf8.continuations (continuationBytes val) val.toNat) :=
  ExtendedUtf8.wellFormed_form ((continuationBytes_le val).trans (by omega)) (least_continuationBytes val)
    (lt_least_continuationBytes range)

theorem reads_coded {val : BitVec 32} (range : val.toNat < 2 ^ 26) :
    Reads codedNumber (ofBytes (ExtendedUtf8.form (continuationBytes val) val.toNat)) val.toNat := by
  have short : continuationBytes val ≤ 6 := (continuationBytes_le val).trans (by omega)
  have coded := wellFormed_coded range
  have reads := reads_codedNumber coded.announces coded.continues
  rwa [ExtendedUtf8.value_form short (lt_least_continuationBytes range)] at reads

/-- The frame number is coded as a lead byte and continuation bytes that read back as the number. -/
theorem appends_writeUtf8Coded (w : BitWriter) {val : BitVec 32} (range : val.toNat < 2 ^ 26) :
    ∃ b, 8 ∣ b.length ∧ Appends w (writeUtf8Coded w val) b ∧ Reads codedNumber b val.toNat := by
  refine ⟨_, ?_, appends_form w val, reads_coded range⟩
  rw [length_ofBytes]
  exact Nat.dvd_mul_right _ _

/-! ## The whole header -/

/-- **The frame header.** The format's decoder reads back the block size, the channel count, the sample size,
the frame number and the stated rate. -/
theorem appends_writeFrameHeader (w : BitWriter) (info : StreamInfo) {bs depth : Nat} {channels bps : BitVec 16}
    (sr : BitVec 32) {num : BitVec 32} (low : 1 ≤ bs) (high : bs ≤ 65536)
    (chans : 1 ≤ channels.toNat ∧ channels.toNat ≤ 8) (range : num.toNat < 2 ^ 26)
    (size : sampleSize info (sampleSizeCode bps).toNat = some depth) :
    ∃ b, 8 ∣ b.length ∧ Appends w (writeFrameHeader w bs channels sr bps num) b ∧
      Reads (header info) b ⟨num.toNat, bs, some (statedRate sr), channels.toNat, depth⟩ := by
  have ch : (channels - 1#16).toNat = channels.toNat - 1 := by bv_omega
  have code : (sampleSizeCode bps).toNat < 8 := by
    unfold sampleSizeCode; split <;> decide
  have narrow {n v : Nat} (small : v < 2 ^ n) (fits : n ≤ 64) : v % 2 ^ 64 % 2 ^ n = v := by
    rw [Nat.mod_mod_of_dvd _ (Nat.pow_dvd_pow 2 fits), Nat.mod_eq_of_lt small]
  unfold writeFrameHeader
  extract_lets w1 bsCode srCode w2 w3 w4 w5 w6 w7 w8
  obtain ⟨sizeBound, bSize, sizeWhole, appSize, readSize⟩ := blockSize_field w7 low high
  obtain ⟨rateBound, bRate, rateWhole, appRate, readRate⟩ := sampleRate_field w8 sr
  obtain ⟨bNum, numWhole, appNum, readNum⟩ := appends_writeUtf8Coded w6 range
  have app1 : Appends w w1 (ofNat 14 0x3FFE ++ (ofNat 1 0 ++ ofNat 1 0)) := appends_writeBits w _ 16
  have app2 : Appends w1 w2 (ofNat 4 (blockSizeCode bs).toNat) :=
    appends_field w1 (by rw [BitVec.toNat_setWidth, narrow sizeBound (by omega)])
  have app3 : Appends w2 w3 (ofNat 4 (sampleRateCode sr).toNat) :=
    appends_field w2 (by rw [BitVec.toNat_setWidth, narrow rateBound (by omega)])
  have app4 : Appends w3 w4 (ofNat 4 (channels.toNat - 1)) :=
    appends_field w3 (by rw [BitVec.toNat_setWidth, ch, narrow (by omega) (by omega)])
  have app5 : Appends w4 w5 (ofNat 3 (sampleSizeCode bps).toNat) :=
    appends_field w4 (by rw [BitVec.toNat_setWidth, narrow code (by omega)])
  have app6 : Appends w5 w6 (ofNat 1 0) := appends_writeBits w5 _ 1
  have app := app1.trans (app2.trans (app3.trans (app4.trans (app5.trans (app6.trans
    (appNum.trans (appSize.trans appRate)))))))
  refine ⟨_, ?_, app, ?_⟩
  · simp only [List.length_append, length_ofNat]
    omega
  · simp only [List.append_assoc]
    unfold header
    refine (reads_nat (by omega)).bind (.check rfl ((reads_nat (by omega)).bind (.check rfl
      ((reads_nat (by omega)).bind (.check rfl ((reads_nat sizeBound).bind ((reads_nat rateBound).bind
      ((reads_nat (show _ < 2 ^ 4 by omega)).bind (.check (by omega) ((reads_nat code).bind ((reads_nat (by omega)).bind
      (.check rfl (readNum.bind (readSize.bind (readRate.last ?_)))))))))))))))
    refine .check (by simp [size]) ?_
    rw [size, Nat.sub_add_cancel chans.1]
    exact .pure _

end StereoMix.Encode
