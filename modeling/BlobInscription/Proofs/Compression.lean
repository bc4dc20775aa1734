import BlobInscription.Proofs.Extraction
import BlobInscription.Proofs.Zstd.Stored

namespace BlobInscription

open Traversal

namespace FrameFormat

variable {format : FrameFormat} {blob : Bytes}

/-- Content that is decompressed from a frame with a declared size has this size. -/
def KeepsSize (format : FrameFormat) : Prop :=
  ∀ frame size content, format.declaredSize frame = .ok (some size) →
    format.decompress frame = .ok content → content.length = size

/-- The frame of this blob declares its length, and is decompressed to it. -/
structure Restores (format : FrameFormat) (blob : Bytes) : Prop where
  declared : format.declaredSize (format.compress blob) = .ok (some blob.length)
  decompressed : format.decompress (format.compress blob) = .ok blob

theorem keepsSize_zstd : FrameFormat.zstd.KeepsSize := by
  intro frame size content hsize hcontent
  obtain ⟨hlength, -⟩ := Zstd.exists_of_decompress hcontent
  exact Option.some.inj (Except.ok.inj (hlength.symm.trans hsize))

theorem restores_zstd (h : blob.length < 2 ^ 64 - 2) : FrameFormat.zstd.Restores blob :=
  ⟨Zstd.declaredSize_compress h, Zstd.decompress_compress h⟩

end FrameFormat

theorem Scanner.blob_of_extractOne {s : Scanner} {entry : AnnotatedTransaction}
    {envelope : Envelope} {found : Blob}
    (henvelope : Envelope.ofTransaction entry.transaction s.rollup = .ok envelope)
    (h : s.extractOne entry = .ok (some found)) :
    found.blob = s.compressor.restore envelope.body := by
  rw [extractOne, henvelope] at h
  dsimp only at h
  rw [Compressor.restore]
  cases hbody : s.compressor.decompress envelope.body with
  | ok blob =>
      simp only [hbody] at h
      split at h
      · cases h
        rfl
      · obtain ⟨id, -, hfound⟩ := map_eq_ok.mp h
        cases hfound
  | error e =>
      simp only [hbody] at h
      split at h
      · obtain ⟨id, -, hfound⟩ := map_eq_ok.mp h
        cases hfound
        rfl
      · obtain ⟨id, -, hfound⟩ := map_eq_ok.mp h
        cases hfound

namespace Compressor

variable {format : FrameFormat} {maxBlobSize : Int} {body blob : Bytes}

section Decompress

/-- The reasons for which a body is refused. -/
inductive Refuses (format : FrameFormat) (maxBlobSize : Int) (body : Bytes) :
    CompressionError → Prop
  | notAFrame {e : Zstd.Error} (hdeclared : format.declaredSize body = .error e) :
      Refuses format maxBlobSize body .notAFrame
  | undeclaredSize (hdeclared : format.declaredSize body = .ok none) :
      Refuses format maxBlobSize body .undeclaredSize
  | tooLarge {size : Nat} (hdeclared : format.declaredSize body = .ok (some size))
      (hlarge : maxBlobSize < size) :
      Refuses format maxBlobSize body (.tooLarge size maxBlobSize)
  | undecodable {size : Nat} {e : Zstd.Error}
      (hdeclared : format.declaredSize body = .ok (some size)) (hfits : size ≤ maxBlobSize)
      (hcontent : format.decompress body = .error e) :
      Refuses format maxBlobSize body .undecodable

theorem decompress_cases (format : FrameFormat) (maxBlobSize : Int) (body : Bytes) :
    (∃ e, (ofFormat format maxBlobSize).decompress body = .error e ∧
      Refuses format maxBlobSize body e) ∨
    ∃ size blob, (ofFormat format maxBlobSize).decompress body = .ok blob ∧
      format.declaredSize body = .ok (some size) ∧ (size : Int) ≤ maxBlobSize ∧
      format.decompress body = .ok blob := by
  simp only [ofFormat]
  split
  · rename_i hdeclared
    exact .inl ⟨_, rfl, .notAFrame hdeclared⟩
  · rename_i hdeclared
    exact .inl ⟨_, rfl, .undeclaredSize hdeclared⟩
  · rename_i size hdeclared
    split
    · rename_i hlarge
      exact .inl ⟨_, rfl, .tooLarge hdeclared hlarge⟩
    · rename_i hfits
      have hfits : (size : Int) ≤ maxBlobSize := Int.not_lt.mp hfits
      cases hcontent : format.decompress body with
      | error e => exact .inl ⟨_, rfl, .undecodable hdeclared hfits hcontent⟩
      | ok blob => exact .inr ⟨size, blob, rfl, hdeclared, hfits, rfl⟩

/-- Whatever the body, decompression is refused for one of four reasons, or returns as many bytes as
the frame declares, which is within the ceiling. The decoder of Zstandard frames keeps to this, and
between any two blocks on its way holds no more than the ceiling allows. -/
theorem decompress_bounded (maxBlobSize : Int) (body : Bytes) :
    (∀ format : FrameFormat, format.KeepsSize →
      (∃ e, (ofFormat format maxBlobSize).decompress body = .error e ∧
        Refuses format maxBlobSize body e) ∨
      ∃ blob, (ofFormat format maxBlobSize).decompress body = .ok blob ∧
        format.declaredSize body = .ok (some blob.length) ∧ (blob.length : Int) ≤ maxBlobSize) ∧
    FrameFormat.zstd.KeepsSize ∧
    ∀ size c, Zstd.Visits body size c → (size : Int) ≤ maxBlobSize →
      (c.content.size : Int) ≤ maxBlobSize := by
  refine ⟨?_, FrameFormat.keepsSize_zstd, ?_⟩
  · intro format hkeeps
    rcases decompress_cases format maxBlobSize body with
      hrefused | ⟨size, blob, hblob, hdeclared, hfits, hcontent⟩
    · exact .inl hrefused
    · obtain rfl := hkeeps body size blob hdeclared hcontent
      exact .inr ⟨blob, hblob, hdeclared, hfits⟩
  · intro size c hvisits hfits
    have hsize := Zstd.size_of_visits hvisits
    omega

theorem decompress_bounded_run :
    let body : Bytes := [0x28, 0xb5, 0x2f, 0xfd, 0x20, 5, 43, 0, 0, 7]
    let blob : Bytes := [7, 7, 7, 7, 7]
    FrameFormat.zstd.KeepsSize ∧
    (zstd 5).decompress body = .ok blob ∧
      Zstd.declaredSize body = .ok (some blob.length) ∧ (blob.length : Int) ≤ 5 ∧
      (∃ c, Zstd.Visits body 5 c ∧ c.content.toList = blob ∧ (c.content.size : Int) ≤ 5) ∧
    (zstd 4).decompress body = .error (.tooLarge 5 4) ∧
      Refuses .zstd 4 body (.tooLarge 5 4) := by
  intro body blob
  obtain ⟨hbounded, hkeeps, hvisits⟩ := decompress_bounded 5 body
  obtain ⟨hbounded', -, -⟩ := decompress_bounded 4 body
  have hread : Zstd.decompress body = .ok blob := by decide +kernel
  have hblob : (zstd 5).decompress body = .ok blob := by decide +kernel
  have hlarge : (zstd 4).decompress body = .error (.tooLarge 5 4) := by decide +kernel
  obtain ⟨hdeclared, hnil | ⟨c, hc, hcontent⟩⟩ := Zstd.exists_of_decompress hread
  · exact absurd hnil (List.cons_ne_nil _ _)
  refine ⟨hkeeps, hblob, hdeclared, by decide,
    ⟨c, hc, hcontent, hvisits 5 c hc (Int.le_refl 5)⟩, hlarge, ?_⟩
  rcases hbounded' .zstd hkeeps with ⟨e, he, hrefuses⟩ | ⟨blob', hblob', -⟩
  · cases he.symm.trans hlarge
    exact hrefuses
  · cases hblob'.symm.trans hlarge

end Decompress

section Restore

theorem decompress_of_restores (h : format.Restores blob) (maxBlobSize : Int) :
    (ofFormat format maxBlobSize).decompress (format.compress blob) =
      if maxBlobSize < blob.length then .error (.tooLarge blob.length maxBlobSize)
      else .ok blob := by
  simp only [ofFormat, h.declared, h.decompressed]
  rfl

theorem decompress_eq_ok_of_restores_iff (h : format.Restores blob) (maxBlobSize : Int) :
    (ofFormat format maxBlobSize).decompress (format.compress blob) = .ok blob ↔
      (blob.length : Int) ≤ maxBlobSize := by
  rw [decompress_of_restores h]
  split
  · rename_i hlarge
    simpa using hlarge
  · rename_i hfits
    simpa using hfits

/-- The body of a blob is decompressed to it exactly when the blob does not exceed the ceiling.
Otherwise it is refused as too large, and a scan takes an empty blob in its place. -/
theorem decompress_compress_iff (format : FrameFormat) (maxBlobSize : Int) (blob body : Bytes)
    (hrestores : format.Restores blob)
    (hbody : (ofFormat format maxBlobSize).compress blob = .ok body) :
    ((ofFormat format maxBlobSize).decompress body = .ok blob ↔
      (blob.length : Int) ≤ maxBlobSize) ∧
    (maxBlobSize < blob.length → (ofFormat format maxBlobSize).decompress body =
      .error (.tooLarge blob.length maxBlobSize)) ∧
    ∀ rollup entry envelope found,
      Envelope.ofTransaction entry.transaction rollup = .ok envelope → envelope.body = body →
      Scanner.extractOne ⟨rollup, ofFormat format maxBlobSize⟩ entry = .ok (some found) →
      found.blob = if maxBlobSize < blob.length then [] else blob := by
  obtain rfl := Except.ok.inj hbody
  have hreturned := decompress_of_restores hrestores maxBlobSize
  refine ⟨decompress_eq_ok_of_restores_iff hrestores maxBlobSize, ?_, ?_⟩
  · intro hlarge
    rw [hreturned, if_pos hlarge]
  · rintro rollup entry envelope found henvelope hsame hfound
    rw [Scanner.blob_of_extractOne henvelope hfound, hsame, restore, hreturned]
    by_cases hlarge : maxBlobSize < blob.length
    · rw [if_pos hlarge, if_pos hlarge]
    · rw [if_neg hlarge, if_neg hlarge]

theorem decompress_compress_iff_three :
    let blob : Bytes := [1, 2, 3]
    let body := Zstd.compress blob
    let script : Bytes := [0, 0x63, 1, 1, 1, 0x72, 1, 2, 64] ++ List.replicate 64 5 ++ [1, 3, 33] ++
      List.replicate 33 2 ++ [1, 4, 0, 0, 12] ++ body ++ [0x68]
    let tx : Transaction := {
      version := 2
      inputs := [{ prevout := ⟨List.replicate 32 7, 1⟩, witness := [script, [0xc0]] }]
      outputs := [] }
    let entry : AnnotatedTransaction :=
      { transaction := tx, sender? := some [2], hash? := some [3] }
    FrameFormat.zstd.Restores blob ∧
    (zstd 3).compress blob = .ok body ∧ (zstd 3).decompress body = .ok blob ∧
    (zstd 2).compress blob = .ok body ∧ (zstd 2).decompress body = .error (.tooLarge 3 2) ∧
    Envelope.ofTransaction tx "r" = .ok ⟨body, List.replicate 64 5, List.replicate 33 2⟩ ∧
    ∃ found, Scanner.extractOne ⟨"r", zstd 2⟩ entry = .ok (some found) ∧ found.blob = [] := by
  intro blob body script tx entry
  have hrestores : FrameFormat.zstd.Restores blob := FrameFormat.restores_zstd (by decide)
  obtain ⟨hrestored, -⟩ := decompress_compress_iff .zstd 3 blob body hrestores rfl
  obtain ⟨-, hrefused, hscan⟩ := decompress_compress_iff .zstd 2 blob body hrestores rfl
  have henvelope : Envelope.ofTransaction tx "r" =
      .ok ⟨body, List.replicate 64 5, List.replicate 33 2⟩ := by decide +kernel
  have hfound : Scanner.extractOne ⟨"r", zstd 2⟩ entry = .ok (some ⟨[], [2], [3]⟩) := by
    decide +kernel
  exact ⟨hrestores, rfl, hrestored.mpr (by decide), rfl, hrefused (by decide), henvelope, _,
    hfound, hscan "r" entry _ _ henvelope rfl hfound⟩

/-- Below a ceiling of nothing, one byte is compressed to a body that is refused. -/
theorem zstd_refuses_own_body :
    ∃ body, (zstd 0).compress [1] = .ok body ∧ (zstd 0).decompress body = .error (.tooLarge 1 0) ∧
      (zstd 0).restore body = [] :=
  ⟨Zstd.compress [1], by decide +kernel⟩

end Restore

end Compressor

end BlobInscription
