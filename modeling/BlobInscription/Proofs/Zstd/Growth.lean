import BlobInscription.Proofs.Traversal
import BlobInscription.Zstd.Frame
import Mathlib.Logic.Relation

/-!
How the content of a frame grows. Literals, sequences and blocks of every type keep within the size
that the frame declares, at every place where the decoder stops between two blocks.
-/

namespace BlobInscription.Zstd

open Traversal

namespace Sequences

@[simp] theorem size_copyMatch (offset length : Nat) (content : Array UInt8) :
    (copyMatch offset length content).size = content.size + length := by
  induction length generalizing content with
  | zero => rfl
  | succ length ih =>
      rw [copyMatch, ih, Array.size_push]
      omega

variable {literals content content' : Array UInt8} {tables : Tables} {limit count : Nat}
  {states : States} {bits bits' : BackwardBits} {progress progress' : Progress}

theorem size_execute {literalLength offset matchLength literalsUsed : Nat}
    (h : execute literals limit literalLength offset matchLength content literalsUsed =
      .ok content') :
    content'.size = content.size + literalLength + matchLength ∧ content'.size ≤ limit := by
  simp only [execute, check_bind_eq_ok] at h
  obtain ⟨hlimit, hliterals, -, hcopied⟩ := h
  cases hcopied
  rw [size_copyMatch, Array.size_append, Array.size_extract]
  omega

theorem size_decode (hlimit : progress.content.size ≤ limit)
    (h : decode tables literals limit count states bits progress = .ok (progress', bits')) :
    progress'.content.size ≤ limit := by
  induction count generalizing states bits progress with
  | zero =>
      cases h
      exact hlimit
  | succ count ih =>
      simp only [decode, check_bind_eq_ok, bind_eq_ok] at h
      obtain ⟨-, content, hcontent, hrest⟩ := h
      obtain ⟨-, hsize⟩ := size_execute hcontent
      split at hrest
      · cases hrest
        exact hsize
      · exact ih hsize hrest

theorem size_decodeStream {data : Array UInt8} (hlimit : progress.content.size ≤ limit)
    (h : decodeStream tables literals limit count data progress = .ok progress') :
    progress'.content.size ≤ limit := by
  simp only [decodeStream, bind_eq_ok] at h
  obtain ⟨bits, -, ⟨progress', bits'⟩, hdecode, hend⟩ := h
  split at hend
  · cases hend
    exact size_decode hlimit hdecode
  · cases hend

end Sequences

namespace Huffman

variable {t : Table} {data done done' : Array UInt8} {count : Nat}

theorem size_decodeSymbols (t : Table) (count : Nat) (bits : BackwardBits) (done : Array UInt8) :
    (decodeSymbols t count bits done).1.size = done.size + count := by
  induction count generalizing bits done with
  | zero => rfl
  | succ count ih =>
      rw [decodeSymbols, ih, Array.size_push]
      omega

theorem size_decodeStream (h : decodeStream t data count done = .ok done') :
    done'.size = done.size + count := by
  simp only [decodeStream, bind_eq_ok] at h
  obtain ⟨bits, -, hend⟩ := h
  split at hend
  · cases hend
    exact size_decodeSymbols t count bits done
  · cases hend

theorem size_decodeFourStreams (h : decodeFourStreams t data count = .ok done) :
    done.size = count := by
  simp only [decodeFourStreams, check_bind_eq_ok, bind_eq_ok] at h
  obtain ⟨-, -, hquarters, first, hfirst, second, hsecond, third, hthird, hlast⟩ := h
  rw [size_decodeStream hlast, size_decodeStream hthird, size_decodeStream hsecond,
    size_decodeStream hfirst, Array.size_empty]
  omega

end Huffman

namespace Literals

variable {data : Array UInt8} {tree? : Option Huffman.Table} {limit : Nat} {literals : Literals}

theorem size_readStreams {tree : Huffman.Table} {streams : Array UInt8} {size used : Nat}
    {four : Bool} (h : (if four then do
        let bytes ← Huffman.decodeFourStreams tree streams size
        pure (⟨bytes, some tree, used⟩ : Literals)
      else do
        let bytes ← Huffman.decodeStream tree streams size #[]
        pure (⟨bytes, some tree, used⟩ : Literals)) = .ok literals) :
    literals.bytes.size = size := by
  split at h
  · obtain ⟨bytes, hbytes, hliterals⟩ := bind_eq_ok.mp h
    cases hliterals
    exact Huffman.size_decodeFourStreams hbytes
  · obtain ⟨bytes, hbytes, hliterals⟩ := bind_eq_ok.mp h
    cases hliterals
    have hsize := Huffman.size_decodeStream hbytes
    simpa using hsize

theorem size_readCoded (h : readCoded data tree? limit = .ok literals) :
    literals.bytes.size ≤ limit := by
  simp only [readCoded, check_bind_eq_ok, bind_eq_ok] at h
  obtain ⟨-, ⟨size, codedSize, headerSize, four⟩, -, hlimit, -, -, h⟩ := h
  have hsize : literals.bytes.size = size := by
    split at h
    · obtain ⟨⟨tree, treeSize⟩, -, h⟩ := bind_eq_ok.mp h
      exact size_readStreams (check_bind_eq_ok.mp h).2
    · obtain ⟨⟨tree, treeSize⟩, -, h⟩ := bind_eq_ok.mp h
      exact size_readStreams (check_bind_eq_ok.mp h).2
  rw [hsize]
  exact Nat.le_of_not_lt hlimit

theorem size_read (h : read data tree? limit = .ok literals) : literals.bytes.size ≤ limit := by
  simp only [read, check_bind_eq_ok] at h
  obtain ⟨-, h⟩ := h
  split at h
  · simp only [check_bind_eq_ok, bind_eq_ok] at h
    obtain ⟨⟨size, headerSize⟩, -, hlimit, hliterals⟩ := h
    cases hliterals
    rw [Array.size_extract]
    omega
  · simp only [check_bind_eq_ok, bind_eq_ok] at h
    obtain ⟨⟨size, headerSize⟩, -, hlimit, hliterals⟩ := h
    split at hliterals
    · cases hliterals
    · cases hliterals
      rw [Array.size_replicate]
      omega
  · exact size_readCoded h

end Literals

theorem size_decodeBlock {data : Array UInt8} {limit total : Nat} {c c' : Context}
    (htotal : c.content.size ≤ total) (h : decodeBlock data limit total c = .ok c') :
    c'.content.size ≤ total := by
  simp only [decodeBlock, check_bind_eq_ok, bind_eq_ok] at h
  obtain ⟨-, literals, hliterals, ⟨count, countSize⟩, -, h⟩ := h
  have hsize := Literals.size_read hliterals
  split at h
  · simp only [check_bind_eq_ok] at h
    obtain ⟨-, hc⟩ := h
    cases hc
    rw [Array.size_append]
    omega
  · simp only [check_bind_eq_ok, bind_eq_ok] at h
    obtain ⟨⟨tables, place⟩, -, progress, -, hfits, hc⟩ := h
    cases hc
    exact Nat.le_of_not_lt hfits

section Blocks

variable {data : Array UInt8} {limit total bound place place' : Nat} {c c' : Context}

/-- The block at `place`: the context and the place behind it. -/
def readBlock (data : Array UInt8) (limit total place : Nat) (c : Context) :
    Except Error (Context × Nat) :=
  let header := loadLE data place 3
  let size := header / 8
  let start := place + 3
  match header / 2 % 4 with
  | 0 =>
      if data.size < start + size then .error .truncated
      else if total < c.content.size + size then .error .size
      else .ok ({ c with content := c.content ++ data.extract start (start + size) }, start + size)
  | 1 =>
      match data[start]? with
      | none => .error .truncated
      | some byte =>
          if total < c.content.size + size then .error .size
          else .ok ({ c with content := c.content ++ Array.replicate size byte }, start + 1)
  | 2 =>
      if data.size < start + size then .error .truncated
      else (decodeBlock (data.extract start (start + size)) limit total c).map (·, start + size)
  | _ => .error .corrupted

theorem decodeBlocks_succ (data : Array UInt8) (limit total bound place : Nat) (c : Context) :
    decodeBlocks data limit total (bound + 1) place c =
      if data.size < place + 3 then .error .truncated
      else
        readBlock data limit total place c >>= fun next =>
          if loadLE data place 3 % 2 = 1 then .ok (next.1.content, next.2)
          else decodeBlocks data limit total bound next.2 next.1 := by
  simp only [decodeBlocks, readBlock]
  split
  · rfl
  · -- the type of the block decides on both sides at once
    generalize loadLE data place 3 / 2 % 4 = kind
    rcases kind with _ | _ | _ | kind
    · change (if _ then _ else _) = ((if _ then _ else _) >>= _)
      split
      · rfl
      · split
        · rfl
        · rfl
    · cases data[place + 3]? with
      | none => rfl
      | some byte =>
          change (if _ then _ else _) = ((if _ then _ else _) >>= _)
          split
          · rfl
          · rfl
    · change (if _ then _ else _) = ((if _ then _ else _) >>= _)
      split
      · rfl
      · cases decodeBlock (data.extract (place + 3) (place + 3 + loadLE data place 3 / 8)) limit
          total c with
        | error e => rfl
        | ok c => rfl
    · rfl

/-- A block appends bytes, stored or repeated, as far as there is room, or is decoded. -/
theorem readBlock_cases (h : readBlock data limit total place c = .ok (c', place')) :
    place + 3 ≤ place' ∧
      ((∃ more, c' = { c with content := c.content ++ more } ∧ (c.content ++ more).size ≤ total) ∨
        ∃ block, decodeBlock block limit total c = .ok c') := by
  simp only [readBlock] at h
  split at h
  · split at h
    · cases h
    · split at h
      · cases h
      · cases h
        refine ⟨Nat.le_add_right _ _, .inl ⟨_, rfl, ?_⟩⟩
        rw [Array.size_append, Array.size_extract]
        omega
  · split at h
    · cases h
    · split at h
      · cases h
      · cases h
        refine ⟨Nat.le_add_right _ _, .inl ⟨_, rfl, ?_⟩⟩
        rw [Array.size_append, Array.size_replicate]
        omega
  · split at h
    · cases h
    · obtain ⟨c₁, hblock, hc⟩ := map_eq_ok.mp h
      cases hc
      exact ⟨Nat.le_add_right _ _, .inr ⟨_, hblock⟩⟩
  · cases h

theorem size_readBlock (htotal : c.content.size ≤ total)
    (h : readBlock data limit total place c = .ok (c', place')) : c'.content.size ≤ total := by
  obtain ⟨-, ⟨more, rfl, hsize⟩ | ⟨block, hblock⟩⟩ := readBlock_cases h
  · exact hsize
  · exact size_decodeBlock htotal hblock

/-- One block is decoded. -/
def Advances (data : Array UInt8) (limit total : Nat) (s s' : Context × Nat) : Prop :=
  readBlock data limit total s.2 s.1 = .ok s'

/-- However many blocks are decoded, the content stays within the size that is declared. -/
theorem size_of_advances {s s' : Context × Nat} (htotal : s.1.content.size ≤ total)
    (h : Relation.ReflTransGen (Advances data limit total) s s') : s'.1.content.size ≤ total := by
  induction h with
  | refl => exact htotal
  | tail _ hstep ih => exact size_readBlock ih hstep

/-- What a run of the decoder returns, it has reached block by block. -/
theorem advances_of_decodeBlocks {content : Array UInt8}
    (h : decodeBlocks data limit total bound place c = .ok (content, place')) :
    ∃ c', c'.content = content ∧
      Relation.ReflTransGen (Advances data limit total) (c, place) (c', place') := by
  induction bound generalizing place c with
  | zero => cases h
  | succ bound ih =>
      rw [decodeBlocks_succ] at h
      split at h
      · cases h
      · obtain ⟨⟨c₁, behind⟩, hblock, hrest⟩ := bind_eq_ok.mp h
        have hstep : Advances data limit total (c, place) (c₁, behind) := hblock
        dsimp only at hrest
        split at hrest
        · cases hrest
          exact ⟨c₁, rfl, .single hstep⟩
        · obtain ⟨c', hcontent, hmore⟩ := ih hrest
          exact ⟨c', hcontent, .head hstep hmore⟩

end Blocks

section Frames

variable {frame content : Bytes} {total : Nat} {c : Context}

/-- The decoder comes by this context on its way through the blocks of a frame that declares `total`
bytes. -/
def Visits (frame : Bytes) (total : Nat) (c : Context) : Prop :=
  declaredSize frame = .ok (some total) ∧
    ∃ header place, FrameHeader.read frame.toArray = .ok header ∧
      Relation.ReflTransGen
        (Advances frame.toArray (min header.windowSize maxBlockSize) total)
        (⟨#[], none, none, .start⟩, header.size) (c, place)

theorem size_of_visits (h : Visits frame total c) : c.content.size ≤ total := by
  obtain ⟨-, header, place, -, hsteps⟩ := h
  exact size_of_advances (Nat.zero_le _) hsteps

theorem exists_of_decompress (h : decompress frame = .ok content) :
    declaredSize frame = .ok (some content.length) ∧
      (content = [] ∨ ∃ c, Visits frame content.length c ∧ c.content.toList = content) := by
  simp only [decompress, bind_eq_ok] at h
  obtain ⟨declared, hdeclared, h⟩ := h
  split at h
  · cases h
  · cases h
    exact ⟨hdeclared, .inl rfl⟩
  · rename_i total hpos
    simp only [check_bind_eq_ok, bind_eq_ok] at h
    obtain ⟨header, hheader, -, ⟨decoded, place⟩, hblocks, hsize, h⟩ := h
    obtain ⟨c, rfl, hsteps⟩ := advances_of_decodeBlocks hblocks
    have hcontent : c.content.toList = content := by
      split at h
      · simp only [check_bind_eq_ok] at h
        exact Except.ok.inj h.2.2
      · exact Except.ok.inj h
    obtain rfl : content.length = total := by
      rw [← hcontent, Array.length_toList]
      exact not_not.mp hsize
    exact ⟨hdeclared, .inr ⟨c, ⟨hdeclared, header, place, hheader, hsteps⟩, hcontent⟩⟩

end Frames

end BlobInscription.Zstd
