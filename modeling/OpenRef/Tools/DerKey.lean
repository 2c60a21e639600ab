import OpenRef.Tools.P256
/-!
# Keys of the release tools (tools/package_rt595_signed_slot.py:39-58, :88-129, tools/provision_rt595_trust_anchor.py:12-42)

A private key is a PKCS#8 structure and a public key a SubjectPublicKeyInfo, both in DER and in
PEM. The two scripts have a DER reader each, which differ in one text. Python's exceptions are
`Except String` with the text of the exception; what the standard library does with a text is a
parameter (`PythonLibrary`), of which nothing is assumed.

`parsePrivatePem_spec`: the scalar is in range, and the public key is the one of the scalar.
-/

namespace OpenRef.Tools

open P256 (Digests)

/-- `if not c: raise ValueError(message)`. -/
def require (c : Bool) (message : String) : Except String Unit := if c then .ok () else .error message

/-- A value, or an exception. -/
def orRaise {α : Type} (message : String) : Option α → Except String α
  | some a => .ok a
  | none => .error message

theorem bind_eq_ok {α β : Type} {x : Except String α} {f : α → Except String β} {b : β} :
    (x >>= f) = .ok b ↔ ∃ a, x = .ok a ∧ f a = .ok b := by
  cases x with
  | error e =>
    constructor
    · intro h
      cases h
    · rintro ⟨a, h, -⟩
      cases h
  | ok a =>
    constructor
    · exact fun h => ⟨a, rfl, h⟩
    · rintro ⟨a', h, hf⟩
      cases h
      exact hf

theorem require_eq_ok {c : Bool} {message : String} {u : Unit} : require c message = .ok u ↔ c = true := by
  unfold require
  cases c <;> simp

theorem orRaise_eq_ok {α : Type} {message : String} {o : Option α} {a : α} : orRaise message o = .ok a ↔ o = some a := by
  cases o <;> simp [orRaise]

/-- What the tools take from Python's standard library besides digests. -/
structure PythonLibrary extends Digests where
  /-- `int(text, 0)`. -/
  intLiteral : String → Option ℤ
  /-- `uuid.UUID(text).bytes`. -/
  uuidBytes : String → Option (List U8)
  /-- `bytes.fromhex(text)`. -/
  fromHex : String → Option (List U8)
  /-- The text between the lines of a PEM file with this label, by `re.fullmatch`. -/
  pemBody : String → String → Option String
  /-- `base64.b64decode("".join(text.split()), validate=True)`. -/
  fromBase64 : String → Option (List U8)

/-! ## DER -/

/-- `f"{tag:02x}"`. -/
def hexByte (tag : U8) : String := String.ofList [Nat.digitChar (tag.toNat / 16), Nat.digitChar (tag.toNat % 16)]

/-- The end of both readers: a value of this length. -/
def derValue (data : List U8) (offset length : ℕ) : Except String (List U8 × ℕ) :=
  if data.length < offset + length then .error "truncated DER value"
  else .ok ((data.drop offset).take length, offset + length)

/-- Both readers, with the text for another tag. -/
def derRead (unexpected : U8 → String) (data : List U8) (offset : ℕ) (tag : U8) : Except String (List U8 × ℕ) :=
  if data.length ≤ offset ∨ data.getD offset 0 ≠ tag then .error (unexpected tag)
  else if data.length ≤ offset + 1 then .error "truncated DER length"
  else
    let length := (data.getD (offset + 1) 0).toNat
    if 128 ≤ length then
      let count := length - 128
      if count = 0 ∨ 2 < count ∨ data.length < offset + 2 + count then .error "invalid DER length"
      else
        let length := BigEndian.ofBytes ((data.drop (offset + 2)).take count)
        if length < 128 then .error "non-canonical DER length" else derValue data (offset + 2 + count) length
    else derValue data (offset + 2) length

/-- `_tlv` of the packager. -/
def packagerTlv (data : List U8) (offset : ℕ) (tag : U8) : Except String (List U8 × ℕ) :=
  derRead (fun tag => "expected DER tag 0x" ++ hexByte tag) data offset tag

/-- `tlv` of the trust anchor tool. -/
def anchorTlv (data : List U8) (offset : ℕ) (tag : U8) : Except String (List U8 × ℕ) :=
  derRead (fun _ => "unexpected DER tag") data offset tag

/-- `OID_EC`, `EC_PUBLIC_KEY`. -/
def oidEc : List U8 := [0x06, 0x07, 0x2a, 0x86, 0x48, 0xce, 0x3d, 0x02, 0x01]
/-- `OID_P256`, `PRIME256V1`. -/
def oidP256 : List U8 := [0x06, 0x08, 0x2a, 0x86, 0x48, 0xce, 0x3d, 0x03, 0x01, 0x07]

/-- `bytes((0x06, len(oid))) + oid`. -/
def oidBytes (oid : List U8) : Except String (List U8) :=
  if oid.length < 256 then .ok ([0x06, BitVec.ofNat 8 oid.length] ++ oid) else .error "bytes must be in range(0, 256)"

/-- The algorithm of a key, for both readers. -/
def checkAlgorithm (tlv : List U8 → ℕ → U8 → Except String (List U8 × ℕ)) (algorithm : List U8) (message : String) :
    Except String Unit := do
  let (oid1, q) ← tlv algorithm 0 0x06
  let (oid2, q) ← tlv algorithm q 0x06
  require (q = algorithm.length) message
  require ((← oidBytes oid1) = oidEc) message
  require ((← oidBytes oid2) = oidP256) message

/-- The DER bytes in a PEM text. -/
def pemBytes (lib : PythonLibrary) (label message text : String) : Except String (List U8) := do
  let body ← orRaise message (lib.pemBody label text)
  orRaise "invalid PEM base64" (lib.fromBase64 body)

/-! ## Keys -/

/-- `_parse_private_pem` (:88-129). -/
def parsePrivatePem (lib : PythonLibrary) (text : String) : Except String (ℕ × List U8) := do
  let der ← pemBytes lib "PRIVATE KEY" "expected one unencrypted PKCS#8 PRIVATE KEY" text
  let (outer, finish) ← packagerTlv der 0 0x30
  require (finish = der.length) "trailing PKCS#8 data"
  let (version, pos) ← packagerTlv outer 0 0x02
  let (algorithm, pos) ← packagerTlv outer pos 0x30
  let (secret, pos) ← packagerTlv outer pos 0x04
  require (pos = outer.length && version = [0x00]) "unsupported PKCS#8 structure"
  checkAlgorithm packagerTlv algorithm "private key must be EC prime256v1/P-256"
  let (ec, finish) ← packagerTlv secret 0 0x30
  require (finish = secret.length) "trailing EC private-key data"
  let (ecVersion, q) ← packagerTlv ec 0 0x02
  let (scalar, q) ← packagerTlv ec q 0x04
  require (ecVersion = [0x01] && scalar.length = 32 &&
    (1 ≤ BigEndian.ofBytes scalar && BigEndian.ofBytes scalar < P256.n)) "invalid P-256 private scalar"
  let d := BigEndian.ofBytes scalar
  let key ← orRaise "cannot unpack non-iterable NoneType object" (P256.publicKey d)
  if q ≠ ec.length then do
    let (tagged, q) ← packagerTlv ec q 0xa1
    let (bits, finish) ← packagerTlv tagged 0 0x03
    require (q = ec.length && finish = tagged.length && bits = [0x00, 0x04] ++ key)
      "EC public key does not match private scalar"
    .ok (d, key)
  else .ok (d, key)

/-- `parse_pem` (:26-42). -/
def parsePem (lib : PythonLibrary) (text : String) : Except String (List U8 × List U8) := do
  require (¬ "PRIVATE KEY".toList <:+: text.toList) "private keys are forbidden"
  let der ← pemBytes lib "PUBLIC KEY" "expected one PEM PUBLIC KEY (SubjectPublicKeyInfo)" text
  let (outer, finish) ← anchorTlv der 0 0x30
  require (finish = der.length) "trailing DER data"
  let (algorithm, pos) ← anchorTlv outer 0 0x30
  checkAlgorithm anchorTlv algorithm "key must be EC prime256v1/P-256"
  let (bits, pos) ← anchorTlv outer pos 0x03
  require (pos = outer.length && bits.length = 66 && bits.getD 0 0 = 0 && bits.getD 1 0 = 4)
    "expected uncompressed P-256 public point"
  let raw := bits.drop 2
  let x : ℤ := BigEndian.ofBytes (raw.take 32)
  let y : ℤ := BigEndian.ofBytes (raw.drop 32)
  require (x < P256.p && y < P256.p && P256.onCurve x y) "public point is not on P-256"
  .ok (der, raw)

/-- A private key that is accepted. -/
theorem parsePrivatePem_spec {lib : PythonLibrary} {text : String} {d : ℕ} {key : List U8}
    (h : parsePrivatePem lib text = .ok (d, key)) : (1 ≤ d ∧ d < P256.n) ∧ P256.publicKey d = some key := by
  unfold parsePrivatePem at h
  simp only [bind_eq_ok, require_eq_ok, orRaise_eq_ok, Bool.and_eq_true, decide_eq_true_eq] at h
  obtain ⟨_, -, _, -, _, -, _, -, _, -, _, -, _, -, _, -, _, -, _, -, _, -, scalar, -, _, ⟨-, hrange⟩, key', hkey, hrest⟩ := h
  have hresult : (BigEndian.ofBytes scalar.1, key') = (d, key) := by
    split at hrest
    · simp only [bind_eq_ok] at hrest
      obtain ⟨_, -, _, -, _, -, hok⟩ := hrest
      exact Except.ok.inj hok
    · exact Except.ok.inj hrest
  obtain ⟨rfl, rfl⟩ := Prod.mk.inj hresult
  exact ⟨hrange, hkey⟩

end OpenRef.Tools
