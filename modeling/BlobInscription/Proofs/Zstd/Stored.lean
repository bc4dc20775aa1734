import BlobInscription.Bytes.Lemmas
import BlobInscription.Proofs.Zstd.Growth

namespace BlobInscription.Zstd

open Traversal

theorem loadLE_append (front field rest : Bytes) :
    loadLE (front ++ (field ++ rest)).toArray front.length field.length = Bytes.toNatLE field := by
  induction field generalizing front with
  | nil => rfl
  | cons b field ih =>
      have hlater := ih (front ++ [b])
      rw [List.append_assoc, List.length_append] at hlater
      rw [List.length_cons, loadLE, Bytes.toNatLE]
      congr 1
      · simp
      · rw [← hlater]
        rfl

theorem extract_append (front block rest : Bytes) :
    (front ++ (block ++ rest)).toArray.extract front.length (front.length + block.length) =
      block.toArray := by
  rw [List.extract_toArray]
  simp

section Header

variable {data : Array UInt8} {flag size : Nat} {field rest : Bytes}

theorem read_singleSegment (hmagic : loadLE data 0 4 = magicNumber)
    (hdescriptor : loadLE data 4 1 = 64 * flag + 32)
    (hlong : 5 + contentSizeWidth flag true ≤ data.size)
    (hsize : contentSizeOf (contentSizeWidth flag true)
      (loadLE data 5 (contentSizeWidth flag true)) = some size) :
    FrameHeader.read data = .ok ⟨5 + contentSizeWidth flag true, size, 0, some size, false⟩ := by
  have hsegment : (64 * flag + 32) / 32 % 2 = 1 := by omega
  have hdictionary : (64 * flag + 32) % 4 = 0 := by omega
  have hwidth : (64 * flag + 32) / 64 = flag := by omega
  have hreserved : (64 * flag + 32) / 8 % 2 = 0 := by omega
  have hchecked : (64 * flag + 32) / 4 % 2 = 0 := by omega
  have hwindow : loadLE data 5 0 = 0 := rfl
  simp only [FrameHeader.read, check_bind_eq_ok, hmagic, hdescriptor, hsegment, hdictionary, hwidth,
    hreserved, dictionaryWidth, beq_self_eq_true, if_true, Nat.add_zero, hwindow, hsize]
  refine ⟨?_, ?_, by decide, ?_⟩
  · simp
    omega
  · omega
  · rw [hchecked]
    rfl

theorem exists_singleSegmentHeader (h : size < 2 ^ 64) : ∃ flag field, flag < 4 ∧
    field.length = contentSizeWidth flag true ∧
    contentSizeOf field.length (Bytes.toNatLE field) = some size ∧
    singleSegmentHeader size =
      Bytes.ofNatLE 4 magicNumber ++ UInt8.ofNat (64 * flag + 32) :: field := by
  by_cases hbyte : size < 256
  · refine ⟨0, Bytes.ofNatLE 1 size, by decide, Bytes.length_ofNatLE _ _, ?_, ?_⟩
    · rw [Bytes.length_ofNatLE, Bytes.toNatLE_ofNatLE, Nat.mod_eq_of_lt (by omega)]
      rfl
    · rw [singleSegmentHeader, if_pos hbyte]
      rfl
  by_cases hpair : size < 65536 + 256
  · refine ⟨1, Bytes.ofNatLE 2 (size - 256), by decide, Bytes.length_ofNatLE _ _, ?_, ?_⟩
    · rw [Bytes.length_ofNatLE, Bytes.toNatLE_ofNatLE, Nat.mod_eq_of_lt (by omega)]
      have hsize : size - 256 + 256 = size := by omega
      exact congrArg some hsize
    · rw [singleSegmentHeader, if_neg hbyte, if_pos hpair]
      rfl
  by_cases hfour : size < Nat.pow 2 32
  · refine ⟨2, Bytes.ofNatLE 4 size, by decide, Bytes.length_ofNatLE _ _, ?_, ?_⟩
    · rw [Nat.pow_eq] at hfour
      rw [Bytes.length_ofNatLE, Bytes.toNatLE_ofNatLE, Nat.mod_eq_of_lt (by omega)]
      rfl
    · rw [singleSegmentHeader, if_neg hbyte, if_neg hpair, if_pos hfour]
      rfl
  · refine ⟨3, Bytes.ofNatLE 8 size, by decide, Bytes.length_ofNatLE _ _, ?_, ?_⟩
    · rw [Bytes.length_ofNatLE, Bytes.toNatLE_ofNatLE, Nat.mod_eq_of_lt (by omega)]
      rfl
    · rw [singleSegmentHeader, if_neg hbyte, if_neg hpair, if_neg hfour]
      rfl

theorem loadLE_singleSegmentHeader (size : Nat) (rest : Bytes) :
    loadLE (singleSegmentHeader size ++ rest).toArray 0 4 = magicNumber := by
  have hlt : magicNumber < 256 ^ 4 := by decide
  have hload := fun later => loadLE_append [] (Bytes.ofNatLE 4 magicNumber) later
  simp only [Bytes.length_ofNatLE, Bytes.toNatLE_ofNatLE, Nat.mod_eq_of_lt hlt, List.nil_append,
    List.length_nil] at hload
  rw [singleSegmentHeader, List.append_assoc]
  exact hload _

theorem read_singleSegmentHeader (h : size < 2 ^ 64) (rest : Bytes) :
    (singleSegmentHeader size).length ≤ 13 ∧
      FrameHeader.read (singleSegmentHeader size ++ rest).toArray =
        .ok ⟨(singleSegmentHeader size).length, size, 0, some size, false⟩ := by
  have hmagic := loadLE_singleSegmentHeader size rest
  obtain ⟨flag, field, hflag, hfield, hsize, hheader⟩ := exists_singleSegmentHeader h
  have hlength : (singleSegmentHeader size).length = 5 + field.length := by
    rw [hheader, List.length_append, Bytes.length_ofNatLE, List.length_cons]
    omega
  have hwidth : field.length ≤ 8 := by
    rw [hfield, contentSizeWidth.eq_def]
    split
    · decide
    · decide
    · decide
    · decide
  have hbyte : (UInt8.ofNat (64 * flag + 32)).toNat = 64 * flag + 32 := by
    rw [UInt8.toNat_ofNat']
    omega
  have hdescriptor : loadLE (singleSegmentHeader size ++ rest).toArray 4 1 = 64 * flag + 32 := by
    have hload := loadLE_append (Bytes.ofNatLE 4 magicNumber) [UInt8.ofNat (64 * flag + 32)]
      (field ++ rest)
    rw [Bytes.length_ofNatLE, List.length_singleton, Bytes.toNatLE, Bytes.toNatLE, hbyte] at hload
    rw [hheader, List.append_assoc]
    exact hload
  have hcontent : loadLE (singleSegmentHeader size ++ rest).toArray 5 field.length =
      Bytes.toNatLE field := by
    have hload := loadLE_append
      (Bytes.ofNatLE 4 magicNumber ++ [UInt8.ofNat (64 * flag + 32)]) field rest
    rw [List.length_append, Bytes.length_ofNatLE] at hload
    rw [hheader]
    simpa using hload
  refine ⟨by omega, ?_⟩
  rw [hlength, hfield]
  apply read_singleSegment hmagic hdescriptor
  · rw [List.size_toArray, List.length_append, hlength, hfield]
    omega
  · rw [← hfield, hcontent]
    exact hsize

end Header

section Blocks

variable {data : Array UInt8} {total : Nat} {c : Context}

theorem decodeBlocks_stored {last : Nat} {front block rest : Bytes} (limit fuel : Nat)
    (hlast : last < 2) (hblock : block.length ≤ maxBlockSize)
    (htotal : c.content.size + block.length ≤ total)
    (hdata : data =
      (front ++ (Bytes.ofNatLE 3 (8 * block.length + last) ++ (block ++ rest))).toArray) :
    decodeBlocks data limit total (fuel + 1) front.length c =
      if last = 1 then .ok (c.content ++ block.toArray, front.length + (3 + block.length))
      else decodeBlocks data limit total fuel (front.length + (3 + block.length))
        { c with content := c.content ++ block.toArray } := by
  have hlt : 8 * block.length + last < 256 ^ 3 := by
    rw [maxBlockSize] at hblock
    omega
  have hheader : loadLE data front.length 3 = 8 * block.length + last := by
    have hload := loadLE_append front (Bytes.ofNatLE 3 (8 * block.length + last)) (block ++ rest)
    rwa [Bytes.length_ofNatLE, Bytes.toNatLE_ofNatLE, Nat.mod_eq_of_lt hlt, ← hdata] at hload
  have hsize : (8 * block.length + last) / 8 = block.length := by omega
  have hkind : (8 * block.length + last) / 2 % 4 = 0 := by omega
  have hflag : (8 * block.length + last) % 2 = last := by omega
  have hlong : front.length + 3 + block.length ≤ data.size := by
    simp only [hdata, List.size_toArray, List.length_append, Bytes.length_ofNatLE]
    omega
  have hextract : data.extract (front.length + 3) (front.length + 3 + block.length) =
      block.toArray := by
    have hbehind := extract_append (front ++ Bytes.ofNatLE 3 (8 * block.length + last)) block rest
    rwa [List.append_assoc, ← hdata, List.length_append, Bytes.length_ofNatLE] at hbehind
  have hread : readBlock data limit total front.length c = .ok
      ({ c with content := c.content ++ block.toArray }, front.length + (3 + block.length)) := by
    simp only [readBlock, hheader, hsize, hkind]
    rw [if_neg (by omega), if_neg (by omega), hextract, Nat.add_assoc]
  rw [decodeBlocks_succ, if_neg (by omega), hread, hheader, hflag]
  rfl

theorem exists_storedBlocks_succ (bound : Nat) (content : Bytes) : ∃ block rest,
    block ++ rest = content ∧ block.length ≤ maxBlockSize ∧
    ((rest = [] ∧ storedBlocks (bound + 1) content =
        Bytes.ofNatLE 3 (8 * block.length + 1) ++ (block ++ [])) ∨
      (block.length = maxBlockSize ∧ storedBlocks (bound + 1) content =
        Bytes.ofNatLE 3 (8 * block.length + 0) ++ (block ++ storedBlocks bound rest))) := by
  refine ⟨content.take maxBlockSize, content.drop maxBlockSize, List.take_append_drop _ _,
    List.length_take_le _ _, ?_⟩
  rw [storedBlocks]
  split
  · rename_i hempty
    exact .inl ⟨List.isEmpty_iff.mp hempty, by rw [List.append_nil]⟩
  · rename_i hmore
    have hpos : 0 < (content.drop maxBlockSize).length := by
      rw [List.length_pos_iff, ne_eq, ← List.isEmpty_iff]
      exact hmore
    refine .inr ⟨?_, by rw [List.append_assoc, Nat.add_zero]⟩
    rw [List.length_drop] at hpos
    rw [List.length_take]
    omega

/-- Stored blocks append their content, in whatever context they are decoded. -/
theorem decodeBlocks_storedBlocks {front content : Bytes} {bound fuel : Nat} (limit : Nat)
    (hcontent : content.length ≤ bound) (hfuel : bound < fuel)
    (htotal : c.content.size + content.length ≤ total)
    (hdata : data = (front ++ storedBlocks bound content).toArray) :
    ∃ place, decodeBlocks data limit total fuel front.length c =
      .ok (c.content ++ content.toArray, place) := by
  induction bound generalizing content fuel front c with
  | zero =>
      obtain rfl := List.eq_nil_of_length_eq_zero (Nat.le_zero.mp hcontent)
      obtain ⟨fuel, rfl⟩ := Nat.exists_eq_add_one.mpr hfuel
      have hempty : data = (front ++ (Bytes.ofNatLE 3 (8 * 0 + 1) ++ ([] ++ []))).toArray := hdata
      exact ⟨_, decodeBlocks_stored limit fuel Nat.one_lt_two (Nat.zero_le _) htotal hempty⟩
  | succ bound ih =>
      obtain ⟨fuel, rfl⟩ := Nat.exists_eq_add_one.mpr (Nat.zero_lt_of_lt hfuel)
      obtain ⟨block, rest, rfl, hblock, hcases⟩ := exists_storedBlocks_succ bound content
      rw [List.length_append] at hcontent htotal
      have hfits : c.content.size + block.length ≤ total := by omega
      rcases hcases with ⟨rfl, hlast⟩ | ⟨hfull, hmore⟩
      · rw [hlast] at hdata
        rw [List.append_nil]
        exact ⟨_, decodeBlocks_stored limit fuel Nat.one_lt_two hblock hfits hdata⟩
      · rw [hmore] at hdata
        have hbehind : data = ((front ++ (Bytes.ofNatLE 3 (8 * block.length + 0) ++ block)) ++
            storedBlocks bound rest).toArray := by
          rw [hdata]
          simp only [List.append_assoc]
        have hshorter : rest.length ≤ bound := by
          rw [maxBlockSize] at hfull
          omega
        have hgrown : (c.content ++ block.toArray).size + rest.length ≤ total := by
          rw [Array.size_append, List.size_toArray, Nat.add_assoc]
          exact htotal
        obtain ⟨place, hlater⟩ := @ih { c with content := c.content ++ block.toArray } _ rest fuel
          hshorter (Nat.lt_of_succ_lt_succ hfuel) hgrown hbehind
        rw [List.length_append, List.length_append, Bytes.length_ofNatLE] at hlater
        refine ⟨place, ?_⟩
        rw [decodeBlocks_stored limit fuel Nat.zero_lt_two hblock hfits hdata,
          if_neg (by decide), hlater]
        simp

theorem le_length_storedBlocks {content : Bytes} {bound : Nat} (h : content.length ≤ bound) :
    content.length ≤ (storedBlocks bound content).length := by
  induction bound generalizing content with
  | zero => omega
  | succ bound ih =>
      obtain ⟨block, rest, rfl, -, hcases⟩ := exists_storedBlocks_succ bound content
      rw [List.length_append] at h ⊢
      rcases hcases with ⟨rfl, hlast⟩ | ⟨hfull, hmore⟩
      · rw [hlast, List.length_append, List.length_append]
        omega
      · have hshorter : rest.length ≤ bound := by
          rw [maxBlockSize] at hfull
          omega
        have hlater := ih hshorter
        rw [hmore, List.length_append, List.length_append]
        omega

end Blocks

variable {content : Bytes}

theorem declaredSize_compress (h : content.length < 2 ^ 64 - 2) :
    declaredSize (compress content) = .ok (some content.length) := by
  have hlt : content.length < 2 ^ 64 := by omega
  obtain ⟨hshort, -⟩ := read_singleSegmentHeader hlt []
  obtain ⟨rest, hhead⟩ : ∃ rest,
      (compress content).take 18 = singleSegmentHeader content.length ++ rest := by
    rw [compress, List.take_append, List.take_of_length_le (by omega)]
    exact ⟨_, rfl⟩
  obtain ⟨-, hread⟩ := read_singleSegmentHeader hlt rest
  have hframe : ¬ (8 ≤ (singleSegmentHeader content.length ++ rest).toArray.size ∧
      magicNumber / 16 = skippableMagicNumber / 16) := by
    rintro ⟨-, hskippable⟩
    exact absurd hskippable (by decide)
  simp only [declaredSize, hhead, hread, loadLE_singleSegmentHeader, if_neg hframe]
  change (if content.length = Nat.pow 2 64 - 1 then _ else if content.length = Nat.pow 2 64 - 2
    then _ else _) = _
  rw [Nat.pow_eq, if_neg (by omega), if_neg (by omega)]
  rfl

theorem decompress_compress (h : content.length < 2 ^ 64 - 2) :
    decompress (compress content) = .ok content := by
  simp only [decompress, bind_eq_ok]
  refine ⟨_, declaredSize_compress h, ?_⟩
  split
  · rename_i hnone
    cases hnone
  · rename_i hempty
    rw [Option.some.injEq] at hempty
    rw [List.eq_nil_of_length_eq_zero hempty]
    rfl
  · rename_i total hpos htotal
    obtain rfl := Option.some.inj htotal
    obtain ⟨-, hread⟩ := read_singleSegmentHeader (Nat.lt_of_lt_of_le h (Nat.sub_le _ _))
      (storedBlocks content.length content)
    have hfuel : content.length < (compress content).toArray.size := by
      have hblocks := le_length_storedBlocks (Nat.le_refl content.length)
      have hmagic : 4 ≤ (singleSegmentHeader content.length).length := by
        rw [singleSegmentHeader, List.length_append, Bytes.length_ofNatLE]
        omega
      rw [List.size_toArray, compress, List.length_append]
      omega
    have hstart : (⟨#[], none, none, .start⟩ : Context).content.size + content.length ≤
        content.length := Nat.le_of_eq (Nat.zero_add _)
    obtain ⟨place, hblocks⟩ := decodeBlocks_storedBlocks (min content.length maxBlockSize)
      (Nat.le_refl content.length) hfuel hstart rfl
    simp only [check_bind_eq_ok, bind_eq_ok]
    refine ⟨_, hread, by simp, ⟨_, place⟩, hblocks, ?_, ?_⟩
    · simp
    · simp [pure, Except.pure]

end BlobInscription.Zstd
