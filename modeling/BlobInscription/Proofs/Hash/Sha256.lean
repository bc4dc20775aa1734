import BlobInscription.Hash.Sha256

/-!
SHA-256 over natural numbers. Each word is computed before it is used and is a numeral from then on,
so that proofs can evaluate digests.
-/

namespace BlobInscription.Sha256

/-- The function at a number that is computed first. -/
def computed {α : Type} (n : Nat) (f : Nat → α) : α :=
  match n with
  | 0 => f 0
  | n + 1 => f (n + 1)

@[simp] theorem computed_eq {α : Type} (n : Nat) (f : Nat → α) : computed n f = f n := by
  cases n <;> rfl

namespace Numeric

def sum (x y : Nat) : Nat :=
  (x + y) % 0x100000000

def rotateRight (x n : Nat) : Nat :=
  x >>> n ||| x <<< (32 - n) % 0x100000000

def mixed (e f g h kw : Nat) : Nat :=
  sum (sum (sum h (rotateRight e 6 ^^^ rotateRight e 11 ^^^ rotateRight e 25))
    ((e &&& f) ^^^ ((0xffffffff - e) &&& g))) kw

def folded (a b c : Nat) : Nat :=
  sum (rotateRight a 2 ^^^ rotateRight a 13 ^^^ rotateRight a 22)
    ((a &&& b) ^^^ (a &&& c) ^^^ (b &&& c))

def nextWord (v x y z : Nat) : Nat :=
  sum (sum (sum v (rotateRight x 7 ^^^ rotateRight x 18 ^^^ (x >>> 3))) y)
    (rotateRight z 17 ^^^ rotateRight z 19 ^^^ (z >>> 10))

-- The window is in sixteen arguments, since a list would keep every word behind the words that were
-- appended after it.
def rounds : (constants : List UInt32) → (u₀ u₁ u₂ u₃ u₄ u₅ u₆ u₇ v₀ v₁ v₂ v₃ v₄ v₅ v₆ v₇ : Nat) →
    (a b c d e f g h : Nat) → State
  | [], _, _, _, _, _, _, _, _, _, _, _, _, _, _, _, _, a, b, c, d, e, f, g, h =>
      ⟨.ofNat a, .ofNat b, .ofNat c, .ofNat d, .ofNat e, .ofNat f, .ofNat g, .ofNat h⟩
  | k :: ks, u₀, u₁, u₂, u₃, u₄, u₅, u₆, u₇, v₀, v₁, v₂, v₃, v₄, v₅, v₆, v₇,
      a, b, c, d, e, f, g, h =>
      computed (mixed e f g h (sum k.toNat u₀)) fun t =>
        computed (sum t (folded a b c)) fun a' =>
          computed (sum d t) fun e' =>
            computed (nextWord u₀ u₁ v₁ v₆) fun w =>
              rounds ks u₁ u₂ u₃ u₄ u₅ u₆ u₇ v₀ v₁ v₂ v₃ v₄ v₅ v₆ v₇ w a' a b c e' e f g

def compress (window : List UInt32) (s : State) : State :=
  match window with
  | [u₀, u₁, u₂, u₃, u₄, u₅, u₆, u₇, v₀, v₁, v₂, v₃, v₄, v₅, v₆, v₇] =>
      rounds roundConstants u₀.toNat u₁.toNat u₂.toNat u₃.toNat u₄.toNat u₅.toNat u₆.toNat u₇.toNat
        v₀.toNat v₁.toNat v₂.toNat v₃.toNat v₄.toNat v₅.toNat v₆.toNat v₇.toNat
        s.a.toNat s.b.toNat s.c.toNat s.d.toNat s.e.toNat s.f.toNat s.g.toNat s.h.toNat
  | window => Sha256.rounds roundConstants window s

def absorb : (count : Nat) → Bytes → State → State
  | 0, _, s => s
  | count + 1, bytes, s =>
      absorb count (bytes.drop 64) (s.add (compress (words (bytes.take 64)) s))

def digest (message : Bytes) : Bytes :=
  let length := message.length
  let padded := message ++ padding length
  (absorb (padded.length / 64) padded initial).toBytes

theorem toNat_rotateRight {n : UInt32} (x : UInt32) (hpos : 0 < n.toNat) (hlt : n.toNat < 32) :
    (Sha256.rotateRight x n).toNat = rotateRight x.toNat n.toNat := by
  have hle : n ≤ 32 := UInt32.le_iff_toNat_le.mpr (Nat.le_of_lt hlt)
  have hsub : (32 - n).toNat = 32 - n.toNat := UInt32.toNat_sub_of_le 32 n hle
  have hmod : (32 - n.toNat) % 32 = 32 - n.toNat := Nat.mod_eq_of_lt (by omega)
  rw [Sha256.rotateRight, UInt32.toNat_or, UInt32.toNat_shiftRight, UInt32.toNat_shiftLeft, hsub,
    hmod, Nat.mod_eq_of_lt hlt]
  rfl

theorem toNat_round (s : State) (k w : UInt32) :
    let t := mixed s.e.toNat s.f.toNat s.g.toNat s.h.toNat (sum k.toNat w.toNat)
    (s.round (k + w)).a.toNat = sum t (folded s.a.toNat s.b.toNat s.c.toNat) ∧
      (s.round (k + w)).e.toNat = sum s.d.toNat t := by
  simp [State.round, mixed, folded, sum, toNat_rotateRight]

theorem toNat_nextWord (u₀ u₁ u₂ u₃ u₄ u₅ u₆ u₇ v₀ v₁ v₂ v₃ v₄ v₅ v₆ v₇ : UInt32) :
    (Sha256.nextWord [u₀, u₁, u₂, u₃, u₄, u₅, u₆, u₇, v₀, v₁, v₂, v₃, v₄, v₅, v₆, v₇]).toNat =
      nextWord u₀.toNat u₁.toNat v₁.toNat v₆.toNat := by
  simp [Sha256.nextWord, nextWord, sum, toNat_rotateRight]

theorem rounds_toNat (ks : List UInt32)
    (u₀ u₁ u₂ u₃ u₄ u₅ u₆ u₇ v₀ v₁ v₂ v₃ v₄ v₅ v₆ v₇ : UInt32) (s : State) :
    rounds ks u₀.toNat u₁.toNat u₂.toNat u₃.toNat u₄.toNat u₅.toNat u₆.toNat u₇.toNat
        v₀.toNat v₁.toNat v₂.toNat v₃.toNat v₄.toNat v₅.toNat v₆.toNat v₇.toNat
        s.a.toNat s.b.toNat s.c.toNat s.d.toNat s.e.toNat s.f.toNat s.g.toNat s.h.toNat =
      Sha256.rounds ks [u₀, u₁, u₂, u₃, u₄, u₅, u₆, u₇, v₀, v₁, v₂, v₃, v₄, v₅, v₆, v₇] s := by
  induction ks generalizing u₀ u₁ u₂ u₃ u₄ u₅ u₆ u₇ v₀ v₁ v₂ v₃ v₄ v₅ v₆ v₇ s with
  | nil => simp [rounds, Sha256.rounds]
  | cons k ks ih =>
      obtain ⟨ha, he⟩ := toNat_round s k u₀
      have hw := toNat_nextWord u₀ u₁ u₂ u₃ u₄ u₅ u₆ u₇ v₀ v₁ v₂ v₃ v₄ v₅ v₆ v₇
      rw [rounds, computed_eq, computed_eq, computed_eq, computed_eq, ← ha, ← he, ← hw]
      exact ih _ _ _ _ _ _ _ _ _ _ _ _ _ _ _ _ (s.round (k + u₀))

theorem compress_eq (window : List UInt32) (s : State) :
    compress window s = Sha256.rounds roundConstants window s := by
  unfold compress
  split
  · exact rounds_toNat _ _ _ _ _ _ _ _ _ _ _ _ _ _ _ _ _ s
  · rfl

theorem absorb_eq (count : Nat) (bytes : Bytes) (s : State) :
    absorb count bytes s = Sha256.absorb count bytes s := by
  induction count generalizing bytes s with
  | zero => rfl
  | succ count ih => rw [absorb, Sha256.absorb, ih, compress_eq]

theorem digest_eq : digest = Sha256.digest := by
  funext message
  rw [digest, absorb_eq]
  rfl

end Numeric

theorem double_eq : double = fun message => Numeric.digest (Numeric.digest message) := by
  rw [Numeric.digest_eq]
  rfl

end BlobInscription.Sha256
