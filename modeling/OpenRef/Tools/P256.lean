import OpenRef.Base
import OpenRef.Lib.BigEndian
import OpenRef.Lib.Ecdsa
import OpenRef.Lib.Jacobian
import OpenRef.Lib.Pratt
import OpenRef.Lib.ShortCurve
/-!
# ECDSA over P-256 in the slot packager (tools/package_rt595_signed_slot.py:29-84, :134-182)

The packager has its own arithmetic on the curve P-256, signs with a deterministic nonce and the
smaller of the two values of `s`, and verifies without the private key. SHA-256 and HMAC-SHA-256
are parameters.

`verify_sign`: what `_sign` makes, `_verify` accepts under the public key of the same scalar. It rests
on the curve: `P` and `N` are prime (`primes`), and the base point has order `N` (`order_g`).
-/

namespace OpenRef.Tools

open ShortCurve (Coords Stands curve)

namespace P256

/-! ## The curve -/

/-- `P` (:29). -/
def p : ℕ := 0xFFFFFFFF00000001000000000000000000000000FFFFFFFFFFFFFFFFFFFFFFFF
/-- `A` (:30). -/
def a : ℤ := p - 3
/-- `B` (:31). -/
def b : ℤ := 0x5AC635D8AA3A93E7B3EBBD55769886BC651D06B0CC53B0F63BCE3C3E27D2604B
/-- `N` (:32). -/
def n : ℕ := 0xFFFFFFFF00000000FFFFFFFFFFFFFFFFBCE6FAADA7179E84F3B9CAC2FC632551
/-- `G` (:33-34). -/
def g : ℤ × ℤ := (0x6B17D1F2E12C4247F8BCE6E563A440F277037D812DEB33A0F4A13945D898C296,
  0x4FE342E2FE1A7F9B8EE7EB4A7C0F9E162BCE33576B315ECECBB6406837BF51F5)

/-- `_point_add` (:60-74). -/
def pointAdd (u v : Coords) : Option Coords := ShortCurve.add p a u v

/-- `_point_mul` (:77-84). -/
def pointMul (k : ℕ) (point : Coords) : Option Coords := ShortCurve.mul p a k point

/-- Certificates of `P` and `N`. -/
def certificate : List Pratt.Line :=
  [⟨3, 2, [2]⟩, ⟨5, 2, [2, 2]⟩, ⟨7, 3, [2, 3]⟩, ⟨11, 2, [2, 5]⟩, ⟨13, 2, [2, 2, 3]⟩, ⟨17, 3, [2, 2, 2, 2]⟩,
   ⟨19, 2, [2, 3, 3]⟩, ⟨23, 5, [2, 11]⟩, ⟨29, 2, [2, 2, 7]⟩, ⟨31, 3, [2, 3, 5]⟩, ⟨37, 2, [2, 2, 3, 3]⟩,
   ⟨41, 6, [2, 2, 2, 5]⟩, ⟨43, 3, [2, 3, 7]⟩, ⟨53, 2, [2, 2, 13]⟩, ⟨71, 7, [2, 5, 7]⟩, ⟨97, 5, [2, 2, 2, 2, 2, 3]⟩,
   ⟨107, 2, [2, 53]⟩, ⟨127, 3, [2, 3, 3, 7]⟩, ⟨131, 2, [2, 5, 13]⟩, ⟨151, 6, [2, 3, 5, 5]⟩, ⟨157, 5, [2, 2, 3, 13]⟩,
   ⟨173, 2, [2, 2, 43]⟩, ⟨181, 2, [2, 2, 3, 3, 5]⟩, ⟨197, 2, [2, 2, 7, 7]⟩, ⟨229, 6, [2, 2, 3, 19]⟩,
   ⟨241, 7, [2, 2, 2, 2, 3, 5]⟩, ⟨257, 3, [2, 2, 2, 2, 2, 2, 2, 2]⟩, ⟨263, 5, [2, 131]⟩, ⟨311, 17, [2, 5, 31]⟩,
   ⟨313, 10, [2, 2, 2, 3, 13]⟩, ⟨337, 10, [2, 2, 2, 2, 3, 7]⟩, ⟨373, 2, [2, 2, 3, 31]⟩,
   ⟨641, 3, [2, 2, 2, 2, 2, 2, 2, 5]⟩, ⟨661, 2, [2, 2, 3, 5, 11]⟩, ⟨727, 5, [2, 3, 11, 11]⟩,
   ⟨757, 2, [2, 2, 3, 3, 3, 7]⟩, ⟨919, 7, [2, 3, 3, 3, 17]⟩, ⟨1087, 3, [2, 3, 181]⟩,
   ⟨1201, 11, [2, 2, 2, 2, 3, 5, 5]⟩, ⟨1297, 10, [2, 2, 2, 2, 3, 3, 3, 3]⟩, ⟨1511, 11, [2, 5, 151]⟩,
   ⟨1531, 2, [2, 3, 3, 5, 17]⟩, ⟨2411, 6, [2, 5, 241]⟩, ⟨3023, 5, [2, 1511]⟩, ⟨3407, 5, [2, 13, 131]⟩,
   ⟨3677, 2, [2, 2, 919]⟩, ⟨3769, 7, [2, 2, 2, 3, 157]⟩, ⟨4349, 2, [2, 2, 1087]⟩, ⟨9547, 2, [2, 3, 37, 43]⟩,
   ⟨16879, 3, [2, 3, 29, 97]⟩, ⟨17449, 14, [2, 2, 2, 3, 727]⟩, ⟨18169, 11, [2, 2, 2, 3, 757]⟩,
   ⟨38189, 2, [2, 2, 9547]⟩, ⟨65537, 3, [2, 2, 2, 2, 2, 2, 2, 2, 2, 2, 2, 2, 2, 2, 2, 2]⟩,
   ⟨78283, 3, [2, 3, 3, 4349]⟩, ⟨104471, 11, [2, 5, 31, 337]⟩, ⟨126241, 7, [2, 2, 2, 2, 2, 3, 5, 263]⟩,
   ⟨155317, 5, [2, 2, 3, 7, 43, 43]⟩, ⟨490463, 14, [2, 7, 53, 661]⟩, ⟨704251, 2, [2, 3, 3, 5, 5, 5, 313]⟩,
   ⟨3969899, 2, [2, 19, 104471]⟩, ⟨6700417, 5, [2, 2, 2, 2, 2, 2, 2, 3, 17449]⟩, ⟨9350987, 2, [2, 17, 229, 1201]⟩,
   ⟨187019741, 2, [2, 2, 5, 9350987]⟩, ⟨191039911, 3, [2, 3, 5, 41, 155317]⟩,
   ⟨204061199, 11, [2, 11, 23, 107, 3769]⟩, ⟨311245691, 2, [2, 5, 7, 17, 29, 29, 311]⟩,
   ⟨622491383, 5, [2, 311245691]⟩, ⟨34282281433, 17, [2, 2, 2, 3, 7, 204061199]⟩,
   ⟨66417393611, 6, [2, 5, 53, 173, 197, 3677]⟩, ⟨1002328039319, 19, [2, 126241, 3969899]⟩,
   ⟨11290956913871, 13, [2, 5, 17, 66417393611]⟩, ⟨46076956964474543, 5, [2, 23, 18169, 78283, 704251]⟩,
   ⟨208150935158385979, 2, [2, 3, 11, 43, 127, 3023, 191039911]⟩,
   ⟨2624747550333869278416773953, 7, [2, 2, 2, 2, 2, 2, 3, 3, 1297, 16879, 208150935158385979]⟩,
   ⟨774023187263532362759620327192479577272145303, 3, [2, 3, 3, 2411, 34282281433, 11290956913871, 46076956964474543]⟩,
   ⟨835945042244614951780389953367877943453916927241, 11, [2, 2, 2, 3, 3, 3, 5, 774023187263532362759620327192479577272145303]⟩,
   ⟨115792089210356248762697446949407573529996955224135760342422259061068512044369, 7, [2, 2, 2, 2, 3, 71, 131, 373, 3407, 17449, 38189, 187019741, 622491383, 1002328039319, 2624747550333869278416773953]⟩,
   ⟨115792089210356248762697446949407573530086143415290314195533631308867097853951, 6, [2, 3, 5, 5, 17, 257, 641, 1531, 65537, 490463, 6700417, 835945042244614951780389953367877943453916927241]⟩]

theorem prime_of_certificate {q : ℕ} (h : certificate.any (fun l => l.number = q) = true) : q.Prime := by
  have hcertificate : Pratt.proves [2] certificate = true := by decide +kernel
  have htwo : ∀ q ∈ [2], q.Prime := by
    intro q hq
    rw [List.mem_singleton.1 hq]
    exact Nat.prime_two
  obtain ⟨l, hl, hq⟩ := List.any_eq_true.1 h
  rw [← of_decide_eq_true hq]
  exact Pratt.prime_of_proves htwo hcertificate l hl

instance prime_p : Fact p.Prime := ⟨prime_of_certificate (by decide +kernel)⟩

instance prime_n : Fact n.Prime := ⟨prime_of_certificate (by decide +kernel)⟩

/-! ## The group -/

/-- On the curve, by the test of `_verify` and `parse_pem`. -/
def onCurve (x y : ℤ) : Prop := (y ^ 2 - x ^ 3 - a * x - b) % p = 0

instance (x y : ℤ) : Decidable (onCurve x y) := inferInstanceAs (Decidable (_ = _))

theorem nonsingular_iff (x y : ℤ) : (curve p a b).Nonsingular x y ↔ onCurve x y :=
  ShortCurve.nonsingular_iff (by decide +kernel) x y

theorem nonsingular_g : (curve p a b).Nonsingular (g.1 : ZMod p) (g.2 : ZMod p) :=
  (nonsingular_iff g.1 g.2).2 (by decide +kernel)

/-- The base point. -/
def gPoint : (curve p a b).Point := .some _ _ nonsingular_g

theorem stands_g : Stands b (some g) gPoint :=
  .affine nonsingular_g (by decide +kernel) (by decide +kernel) rfl rfl

/-- **The base point has order `N`.** -/
theorem order_g : n • gPoint = 0 := by
  have hzero : ShortCurve.isZero p a b (g.1, g.2) 256 n = true := by decide +kernel
  exact ShortCurve.nsmul_of_isZero nonsingular_g hzero

/-! ## Signatures -/

/-- The digests of the standard library: `hashlib.sha256(..).digest()` and `hmac.new(.., hashlib.sha256).digest()`. -/
structure Digests where
  sha256 : List U8 → Bytes 32
  hmac : List U8 → List U8 → Bytes 32

/-- The loop of `_rfc6979` (:140-146); `turns` bounds it. -/
def nonceLoop (h : Digests) : ℕ → List U8 → List U8 → Option ℕ
  | 0, _, _ => none
  | turns + 1, k, v =>
    let v := (h.hmac k v).bytes
    let candidate := BigEndian.ofBytes v
    if 1 ≤ candidate ∧ candidate < n then some candidate
    else
      let k := (h.hmac k (v ++ [0])).bytes
      nonceLoop h turns k (h.hmac k v).bytes

/-- `_rfc6979` (:132-146). -/
def rfc6979 (h : Digests) (turns d : ℕ) (digest : List U8) : Option ℕ :=
  let x := BigEndian.toBytes 32 d
  let h1 := BigEndian.toBytes 32 (BigEndian.ofBytes digest % n)
  let v := List.replicate 32 (1 : U8)
  let k := (h.hmac (List.replicate 32 0) (v ++ [0] ++ x ++ h1)).bytes
  let v := (h.hmac k v).bytes
  let k := (h.hmac k (v ++ [1] ++ x ++ h1)).bytes
  nonceLoop h turns k (h.hmac k v).bytes

/-- `_sign` (:149-158): nothing where it raises, or where the nonce loop takes more turns. -/
def sign (h : Digests) (turns d : ℕ) (data : List U8) : Option (List U8) := do
  let digest := (h.sha256 data).bytes
  let z : ℤ := BigEndian.ofBytes digest
  let nonce ← rfc6979 h turns d digest
  let (x, _) ← (← pointMul nonce (some g))
  let r := x % n
  let s := (← modInverse nonce n) * (z + r * d) % n
  if r = 0 ∨ s = 0 then none
  else
    let s := min s (n - s)
    some (BigEndian.toBytes 32 r.toNat ++ BigEndian.toBytes 32 s.toNat)

/-- `_verify` (:161-173): nothing where it raises. -/
def verify (sha256 : List U8 → Bytes 32) (publicKey data signature : List U8) : Option Bool :=
  if publicKey.length ≠ 64 ∨ signature.length ≠ 64 then some false
  else
    let q : ℤ × ℤ := (BigEndian.ofBytes (publicKey.take 32), BigEndian.ofBytes (publicKey.drop 32))
    if p ≤ q.1 ∨ p ≤ q.2 ∨ ¬ onCurve q.1 q.2 then some false
    else
      let r : ℤ := BigEndian.ofBytes (signature.take 32)
      let s : ℤ := BigEndian.ofBytes (signature.drop 32)
      if ¬ (1 ≤ r ∧ r < n ∧ 1 ≤ s ∧ s ≤ n / 2) then some false
      else do
        let z : ℤ := BigEndian.ofBytes (sha256 data).bytes
        let w ← modInverse s n
        let point ← pointAdd (← pointMul (z * w % n).toNat (some g)) (← pointMul (r * w % n).toNat (some q))
        match point with
        | none => some false
        | some (x, _) => some (x % n = r)

/-- The public key of a scalar, as `_parse_private_pem` derives it (:114-116). -/
def publicKey (d : ℕ) : Option (List U8) := do
  let (x, y) ← (← pointMul d (some g))
  some (BigEndian.toBytes 32 x.toNat ++ BigEndian.toBytes 32 y.toNat)

/-! ## What is signed is verified -/

theorem nonceLoop_range {h : Digests} {nonce : ℕ} : ∀ {turns : ℕ} {k v : List U8}, nonceLoop h turns k v = some nonce →
    1 ≤ nonce ∧ nonce < n
  | 0, _, _, hn => by cases hn
  | turns + 1, k, v, hn => by
    unfold nonceLoop at hn
    dsimp only at hn
    split at hn
    · next hrange => exact Option.some.inj hn ▸ hrange
    · exact nonceLoop_range hn

/-- A multiple of the base point below its order. -/
theorem pointMul_g {k : ℕ} (hpos : 1 ≤ k) (hlt : k < n) : ∃ x y : ℤ, pointMul k (some g) = some (some (x, y)) ∧
    (0 ≤ x ∧ x < p) ∧ (0 ≤ y ∧ y < p) ∧ onCurve x y ∧ Stands b (some (x, y)) (k • gPoint) := by
  obtain ⟨w, hw, hstands⟩ := ShortCurve.mul_stands stands_g k
  have hne : gPoint ≠ 0 := WeierstrassCurve.Affine.Point.some_ne_zero nonsingular_g
  obtain ⟨x, y, rfl, hx, hy, hpoint⟩ := hstands.exists_pair (Ecdsa.nsmul_ne_zero order_g hne hpos hlt)
  exact ⟨x, y, hw, hx, hy, (nonsingular_iff x y).1 hpoint, hstands⟩

/-- What `_sign` returns. -/
theorem sign_some {h : Digests} {turns d : ℕ} {data signature : List U8} (hs : sign h turns d data = some signature) :
    ∃ (nonce : ℕ) (x y i s : ℤ), (1 ≤ nonce ∧ nonce < n) ∧ pointMul nonce (some g) = some (some (x, y)) ∧
      modInverse nonce n = some i ∧ s = i * (BigEndian.ofBytes (h.sha256 data).bytes + x % n * d) % n ∧ x % n ≠ 0 ∧ s ≠ 0 ∧
      signature = BigEndian.toBytes 32 (x % n).toNat ++ BigEndian.toBytes 32 (min s (n - s)).toNat := by
  unfold sign at hs
  simp only [Option.bind_eq_bind, Option.bind_eq_some_iff] at hs
  obtain ⟨nonce, hnonce, point, hpoint, ⟨x, y⟩, rfl, i, hi, hrest⟩ := hs
  split at hrest
  · cases hrest
  · next hne =>
    rw [not_or] at hne
    exact ⟨nonce, x, y, i, _, nonceLoop_range hnonce, hpoint, hi, rfl, hne.1, hne.2, (Option.some.inj hrest).symm⟩

/-- A signature is made where the nonce, its point and its inverse are there and neither half is zero. -/
theorem exists_sign {h : Digests} {turns d nonce : ℕ} {data : List U8} {x y i : ℤ}
    (hnonce : rfc6979 h turns d (h.sha256 data).bytes = some nonce) (hpoint : pointMul nonce (some g) = some (some (x, y)))
    (hi : modInverse nonce n = some i) (hr : x % n ≠ 0)
    (hs : i * (BigEndian.ofBytes (h.sha256 data).bytes + x % n * d) % n ≠ 0) :
    ∃ signature, sign h turns d data = some signature := by
  unfold sign
  simp only [Option.bind_eq_bind, hnonce, hpoint, hi, Option.bind_some, if_neg (not_or.2 ⟨hr, hs⟩)]
  exact ⟨_, rfl⟩

/-- A multiple of the base point that is known. -/
theorem pointMul_known {k : ℕ} {x y : ℤ} (hx : 0 ≤ x ∧ x < p) (hy : 0 ≤ y ∧ y < p)
    (h : ShortCurve.isMultiple p a b (g.1, g.2) 256 k x y = true) : pointMul k (some g) = some (some (x, y)) :=
  ShortCurve.mul_of_isMultiple nonsingular_g (by decide +kernel) (by decide +kernel) hx hy h

theorem p_lt : p < 256 ^ 32 := by decide +kernel

theorem n_lt : n < 256 ^ 32 := by decide +kernel

theorem n_odd : n % 2 = 1 := by decide +kernel

/-- A number below `2 ^ 256` in 32 bytes. -/
theorem ofBytes_toBytes_int {m : ℕ} {x : ℤ} (hm : m < 256 ^ 32) (hx : 0 ≤ x ∧ x < m) :
    (BigEndian.ofBytes (BigEndian.toBytes 32 x.toNat) : ℤ) = x := by
  rw [BigEndian.ofBytes_toBytes (by omega), Int.toNat_of_nonneg hx.1]

/-- Two numbers in 64 bytes are read back. -/
theorem halves {m : ℕ} {x y : ℤ} (hm : m < 256 ^ 32) (hx : 0 ≤ x ∧ x < m) (hy : 0 ≤ y ∧ y < m) {bytes : List U8}
    (h : bytes = BigEndian.toBytes 32 x.toNat ++ BigEndian.toBytes 32 y.toNat) :
    bytes.length = 64 ∧ (BigEndian.ofBytes (bytes.take 32) : ℤ) = x ∧ (BigEndian.ofBytes (bytes.drop 32) : ℤ) = y := by
  have hlength : (BigEndian.toBytes 32 x.toNat).length = 32 := BigEndian.length_toBytes _ _
  rw [h, List.length_append, List.take_left' hlength, List.drop_left' hlength]
  exact ⟨by simp, ofBytes_toBytes_int hm hx, ofBytes_toBytes_int hm hy⟩

/-- A residue multiplies as the number. -/
theorem toNat_emod_nsmul {P : (curve p a b).Point} (hP : n • P = 0) (i : ℤ) : (i % n).toNat • P = i • P := by
  obtain ⟨hnonneg, -⟩ := ShortCurve.emod_range (p := n) i
  rw [← natCast_zsmul, Int.toNat_of_nonneg hnonneg]
  exact Ecdsa.zsmul_congr hP (ShortCurve.cast_emod i)

/-- The point that `_verify` computes has the `x` of the nonce's point. -/
theorem verify_point {z r s w x y qx qy : ℤ} {d nonce : ℕ} (hw : (w : ZMod n) * s = 1)
    (hs : (s : ZMod n) * (nonce : ℤ) = z + r * (d : ℤ) ∨ (s : ZMod n) * (nonce : ℤ) = -(z + r * (d : ℤ)))
    (hq : Stands b (some (qx, qy)) (d • gPoint)) (hx : Stands b (some (x, y)) (nonce • gPoint)) :
    ∃ u v y', pointMul (z * w % n).toNat (some g) = some u ∧ pointMul (r * w % n).toNat (some (qx, qy)) = some v ∧
      pointAdd u v = some (some (x, y')) := by
  have horder : n • d • gPoint = 0 := by rw [nsmul_left_comm, order_g, nsmul_zero]
  obtain ⟨u, hu, hustands⟩ := ShortCurve.mul_stands stands_g (z * w % n).toNat
  obtain ⟨v, hv, hvstands⟩ := ShortCurve.mul_stands hq (r * w % n).toNat
  obtain ⟨c, hc, hcstands⟩ := ShortCurve.add_stands hustands hvstands
  have hsum := Ecdsa.verifier_point order_g hw hs
  rw [natCast_zsmul, natCast_zsmul] at hsum
  rw [toNat_emod_nsmul order_g, toNat_emod_nsmul horder] at hcstands
  obtain ⟨y', rfl⟩ := hx.same_x hcstands hsum
  exact ⟨u, v, y', hu, hv, hc⟩

/-- The `s` that `_sign` returns is the smaller one of two, each of which solves its equation up to the sign. -/
theorem low_s {z r s i : ℤ} {d nonce : ℕ} (hnonce : 1 ≤ nonce ∧ nonce < n) (hi : modInverse nonce n = some i)
    (hs : s = i * (z + r * d) % n) (hs0 : s ≠ 0) :
    (1 ≤ min s (n - s) ∧ min s (n - s) ≤ n / 2) ∧
      (((min s (n - s) : ℤ) : ZMod n) * (nonce : ℤ) = z + r * (d : ℤ) ∨
        ((min s (n - s) : ℤ) : ZMod n) * (nonce : ℤ) = -(z + r * (d : ℤ))) := by
  have hne : ((nonce : ℤ) : ZMod n) ≠ 0 := by
    intro h0
    have hzero := ShortCurve.emod_eq_zero.2 h0
    rw [Int.emod_eq_of_lt (by omega) (by omega)] at hzero
    omega
  obtain ⟨i', hi', hinv⟩ := modInverse_prime hne
  obtain rfl : i = i' := Option.some.inj (hi.symm.trans hi')
  have hrange := ShortCurve.emod_range (p := n) (i * (z + r * d))
  rw [← hs] at hrange
  have hsolves : (s : ZMod n) * (nonce : ℤ) = z + r * (d : ℤ) := by
    have hcancel : ((nonce : ℤ) : ZMod n)⁻¹ * (nonce : ℤ) = 1 := inv_mul_cancel₀ hne
    rw [hs, ShortCurve.cast_emod, Int.cast_mul, Int.cast_add, Int.cast_mul, hinv]
    linear_combination ((z : ZMod n) + r * (d : ℤ)) * hcancel
  have hodd := n_odd
  refine ⟨⟨by omega, by omega⟩, ?_⟩
  rcases min_choice s (n - s) with hmin | hmin
  · left
    rw [hmin, hsolves]
  · right
    rw [hmin, Int.cast_sub, Int.cast_natCast, ZMod.natCast_self, zero_sub, neg_mul, hsolves]

/-- **What `_sign` makes, `_verify` accepts** under the public key of the scalar. -/
theorem verify_sign {h : Digests} {turns d : ℕ} {data key signature : List U8} (hd : 1 ≤ d ∧ d < n)
    (hkey : publicKey d = some key) (hs : sign h turns d data = some signature) :
    verify h.sha256 key data signature = some true := by
  obtain ⟨nonce, x, y, i, s, hnonce, hpoint, hi, hseq, hr0, hs0, hsig⟩ := sign_some hs
  obtain ⟨qx, qy, hq, hqx, hqy, hcurve, hqstands⟩ := pointMul_g hd.1 hd.2
  obtain ⟨x', y', hpoint', -, -, -, hxstands⟩ := pointMul_g hnonce.1 hnonce.2
  have hsame : (x', y') = (x, y) := Option.some.inj (Option.some.inj (hpoint'.symm.trans hpoint))
  rw [hsame] at hxstands
  have hkeyeq : key = BigEndian.toBytes 32 qx.toNat ++ BigEndian.toBytes 32 qy.toNat := by
    unfold publicKey at hkey
    rw [hq] at hkey
    exact (Option.some.inj hkey).symm
  have hr := ShortCurve.emod_range (p := n) x
  obtain ⟨⟨hlow, hhigh⟩, hsolves⟩ := low_s hnonce hi hseq hs0
  generalize min s (n - s) = t at hsig hlow hhigh hsolves
  have htn : 0 ≤ t ∧ t < n := by
    have hodd := n_odd
    omega
  have ht : (t : ZMod n) ≠ 0 := by
    intro h0
    have hzero := ShortCurve.emod_eq_zero.2 h0
    rw [Int.emod_eq_of_lt htn.1 htn.2] at hzero
    omega
  obtain ⟨w, hw, hinv⟩ := modInverse_prime ht
  have hcancel : (w : ZMod n) * t = 1 := by
    rw [hinv]
    exact inv_mul_cancel₀ ht
  obtain ⟨u, v, yr, hu, hv, hsum⟩ := verify_point hcancel hsolves hqstands hxstands
  obtain ⟨hkeylength, hkeyx, hkeyy⟩ := halves p_lt hqx hqy hkeyeq
  obtain ⟨hsiglength, hsigr, hsigs⟩ := halves n_lt hr htn hsig
  unfold verify
  rw [hkeyx, hkeyy, hsigr, hsigs, if_neg (by omega)]
  dsimp only
  rw [if_neg (by rw [not_or, not_or, not_not]; exact ⟨Int.not_le.2 hqx.2, Int.not_le.2 hqy.2, hcurve⟩),
    if_neg (by rw [not_not]; exact ⟨by omega, hr.2, hlow, hhigh⟩), hw]
  simp only [Option.bind_eq_bind, Option.bind_some, hu, hv, hsum, decide_true]

end P256

end OpenRef.Tools
