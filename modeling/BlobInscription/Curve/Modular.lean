namespace BlobInscription.Modular

/-- The power `base ^ e` modulo `m`, from the low `bits` bits of `e`. -/
def powBits (m : Nat) : (bits base e : Nat) → Nat
  | 0, _, _ => 1 % m
  | bits + 1, base, e =>
      let rest := powBits m bits (base * base % m) (e / 2)
      if e % 2 = 1 then base * rest % m else rest

/-- The power `base ^ e` modulo `m`. -/
def pow (m base e : Nat) : Nat :=
  powBits m (e.log2 + 1) (base % m) e

/-- The inverse of `a` modulo a prime `m`. -/
def inverse (m a : Nat) : Nat :=
  pow m a (m - 2)

/-- The difference of two residues. -/
def sub (m a b : Nat) : Nat :=
  (a + (m - b % m)) % m

end BlobInscription.Modular
