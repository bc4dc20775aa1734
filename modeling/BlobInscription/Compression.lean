import BlobInscription.Zstd.Frame

/-!
Compression of blobs before they are inscribed. Bodies on the chain come from anyone, so a frame
that does not declare its content size, or declares too much, is refused before it is decoded.
-/

namespace BlobInscription

inductive CompressionError
  | notAFrame
  | undeclaredSize
  | tooLarge (declared : Nat) (limit : Int)
  | undecodable
  | refused (reason : String)
  deriving DecidableEq, Repr

def CompressionError.message : CompressionError → String
  | notAFrame => "Body is not a zstd frame"
  | undeclaredSize => "zstd frame does not declare its content size"
  | tooLarge declared limit => s!"Declared blob size {declared} exceeds the {limit}-byte limit"
  | undecodable => "zstd decompression failed"
  | refused reason => reason

/-- A pair of functions between blobs and bodies. -/
structure Compressor where
  compress : Bytes → Except CompressionError Bytes
  decompress : Bytes → Except CompressionError Bytes

/-- A format of frames that may declare the size of their content. -/
structure FrameFormat where
  compress : Bytes → Bytes
  declaredSize : Bytes → Except Zstd.Error (Option Nat)
  decompress : Bytes → Except Zstd.Error Bytes

def FrameFormat.zstd : FrameFormat where
  compress := Zstd.compress
  declaredSize := Zstd.declaredSize
  decompress := Zstd.decompress

namespace Compressor

def defaultMaxBlobSize : Int := 16 * 1024 * 1024

/-- The compressor of a frame format with a ceiling on what frames may declare. -/
def ofFormat (format : FrameFormat) (maxBlobSize : Int) : Compressor where
  compress blob := .ok (format.compress blob)
  decompress body :=
    match format.declaredSize body with
    | .error _ => .error .notAFrame
    | .ok none => .error .undeclaredSize
    | .ok (some declared) =>
        if maxBlobSize < declared then .error (.tooLarge declared maxBlobSize)
        else (format.decompress body).mapError fun _ => .undecodable

/-- The compressor of Zstandard frames. -/
def zstd (maxBlobSize : Int) : Compressor :=
  ofFormat .zstd maxBlobSize

def standard : Compressor :=
  zstd defaultMaxBlobSize

/-- Keeps blobs as they are. -/
def identity : Compressor where
  compress := .ok
  decompress := .ok

/-- Refuses everything. -/
def refusing (reason : String) : Compressor where
  compress _ := .error (.refused reason)
  decompress _ := .error (.refused reason)

end Compressor

end BlobInscription
