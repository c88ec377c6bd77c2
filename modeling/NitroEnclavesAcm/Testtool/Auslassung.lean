import NitroEnclavesAcm.Testtool.Suite

/-
  File:      NitroEnclavesAcm/Testtool/Auslassung.lean
  Subject:   The skip rules of the RSA families (`test_openssl_digestsignverify_rsapss`,
             `test_openssl_encryptdecrypt_rsa`) set against what each padding can encode.

  THE QUESTION. The test set returns at once from RSA-1024 with salt length 64 ("padding yields
  invalid input sizes") and from RSA-1024 encryption of 128 bytes ("key is to small for this
  size"). Does every case it does run fit its padding? And does it skip only cases that do not?

  THE ANSWER. Measured by the bounds of the paddings the `openssl` lines ask for -- the PSS
  encoding needs `hLen + sLen + 2 ≤ emLen`, a PKCS #1 v1.5 signature `tLen + 11 ≤ k` for the
  `DigestInfo` of the digest, a PKCS #1 v1.5 encryption `mLen + 11 ≤ k`, a raw operation an input
  of exactly `k` bytes -- **every case the RSA blocks run fits** (`auslassung_rsa`). **The rule
  of the encryption family skips exactly the case that does not fit; the rule of the PSS family
  skips more**: every RSA-1024 case with salt length 64, whatever its digest, while only SHA-512
  there exceeds the encoding. With SHA-1 to SHA-384 the skipped cases fit, and go untested.

  * `TestAufruf.lauf_eq` -- a call runs nothing when its function's skip test holds, and the
    template on its case otherwise;
  * `pss_auslassung`, `pkcsSignatur_kodierbar`, `verschluesseln_auslassung`, `roh_kodierbar` --
    each family against its bound, from the constants of the matrix (`salz_fall`, `hash_fall`,
    `schluessel_fall`, ...).

  NOT here: the ECDSA cases, which have no size bound, and the value of a raw input
  (`rohEingabe_unter_modul`).
-/

namespace NitroEnclavesAcm.Testtool

open NitroEnclavesAcm.Bash

/-! ## 1. What a padding can encode -/

/-- The output length in bytes of a digest `openssl dgst "-$digest"` names: `hLen`. -/
def hashLaenge : String → Option Nat
  | "sha1" => some 20
  | "sha224" => some 28
  | "sha256" => some 32
  | "sha384" => some 48
  | "sha512" => some 64
  | _ => none

/-- The length of the DER `DigestInfo` a PKCS #1 v1.5 signature encodes for a digest: `tLen`. -/
def digestInfoLaenge : String → Option Nat
  | "sha1" => some 35
  | "sha224" => some 47
  | "sha256" => some 51
  | "sha384" => some 67
  | "sha512" => some 83
  | _ => none

/-- The length in bytes of a modulus of `bits` bits: `k`. -/
def modulusBytes (bits : Nat) : Nat := (bits + 7) / 8

/-- The length of a PSS encoded message for a modulus of `bits` bits: `⌈(bits - 1) / 8⌉`. -/
def emLaenge (bits : Nat) : Nat := (bits + 6) / 8

/-- **A call fits its padding**, for the key length its label states. ECDSA has no bound. -/
def TestAufruf.kodierbar : TestAufruf → Bool
  | .digestsignverifyRsapss _ k sl d =>
    match schluesselBits k, hashLaenge d with
    | some b, some h => decide (h + sl + 2 ≤ emLaenge b)
    | _, _ => false
  | .digestsignverifyRsa _ k d =>
    match schluesselBits k, digestInfoLaenge d with
    | some b, some t => decide (t + 11 ≤ modulusBytes b)
    | _, _ => false
  | .encryptdecryptRsa f k =>
    match schluesselBits k with
    | some b => decide (f + 11 ≤ modulusBytes b)
    | none => false
  | .signverifyRsaX509 f k | .encryptdecryptRsaX509 f k => schluesselBits k == some (8 * f)
  | .signverifyEcdsa _ _ => true

/-! ## 2. What a call runs -/

/-- The calls whose function returns at once: `[ $keylabel == "rsa1024" ] && [ $saltlen == 64 ]`
    in the PSS family, `[ $keylabel == "rsa1024" ] && [ $filesize == 128 ]` in the PKCS #1 v1.5
    encryption family. -/
def TestAufruf.uebersprungen : TestAufruf → Bool
  | .digestsignverifyRsapss _ k sl _ => k == "rsa1024" && toString sl == "64"
  | .encryptdecryptRsa f k => k == "rsa1024" && toString f == "128"
  | _ => false

/-- The case a call hands the template. -/
def TestAufruf.fall (e : Env) : TestAufruf → Fall
  | .digestsignverifyRsapss f k sl d => fallDigestsignverifyRsapss e f k sl d
  | .digestsignverifyRsa f k d => fallDigestsignverifyRsa e f k d
  | .signverifyRsaX509 f k => fallSignverifyRsaX509 e f k
  | .signverifyEcdsa f k => fallSignverifyEcdsa e f k
  | .encryptdecryptRsa f k => fallEncryptdecryptRsa e f k
  | .encryptdecryptRsaX509 f k => fallEncryptdecryptRsaX509 e f k

theorem ifThenElse_und_test (b₁ b₂ : Bool) (t u : Sh) :
    Sh.ifThenElse (Sh.and (Sh.test b₁) (Sh.test b₂)) t u = if b₁ && b₂ then t else u := by
  cases b₁ <;> cases b₂ <;> rfl

/-- A call runs nothing when its function skips it, and the template on its case otherwise. -/
theorem TestAufruf.lauf_eq (e : Env) (a : TestAufruf) :
    a.lauf e = if a.uebersprungen then Sh.ret 0 else testtemplateGenerateCheck e (a.fall e) := by
  cases a <;> simp only [TestAufruf.lauf, TestAufruf.uebersprungen, TestAufruf.fall,
    testOpensslDigestsignverifyRsapss, testOpensslEncryptdecryptRsa, ifThenElse_und_test] <;> rfl

/-! ## 3. The constants of the matrix -/

theorem salz_fall {sl : Nat} (hs : sl ∈ testRsapssSaltSizes) :
    (toString sl == "64") = (sl == 64) ∧ (sl ≤ 48 ∨ sl = 64) := by
  simp only [testRsapssSaltSizes, List.mem_cons, List.mem_singleton, List.not_mem_nil,
    or_false] at hs
  rcases hs with rfl | rfl | rfl | rfl | rfl | rfl | rfl <;> decide

theorem klein_fall {f : Nat} (hf : f ∈ testSmallFileSizes) :
    (toString f == "128") = (f == 128) ∧ (f ≤ 64 ∨ f = 128) := by
  simp only [testSmallFileSizes, List.mem_cons, List.mem_singleton, List.not_mem_nil,
    or_false] at hf
  rcases hf with rfl | rfl | rfl | rfl | rfl | rfl | rfl | rfl <;> decide

/-- Only SHA-512 has a 64-byte digest; the others have at most 48 bytes. -/
theorem hash_fall {d : String} (hd : d ∈ testDigests) :
    ∃ h, hashLaenge d = some h ∧ (h ≤ 48 ∧ d ≠ "sha512" ∨ h = 64 ∧ d = "sha512") := by
  simp only [testDigests, List.mem_cons, List.mem_singleton, List.not_mem_nil, or_false] at hd
  rcases hd with rfl | rfl | rfl | rfl | rfl <;> exact ⟨_, rfl, by decide⟩

theorem digestInfo_fall {d : String} (hd : d ∈ testDigests) :
    ∃ t, digestInfoLaenge d = some t ∧ t ≤ 83 := by
  simp only [testDigests, List.mem_cons, List.mem_singleton, List.not_mem_nil, or_false] at hd
  rcases hd with rfl | rfl | rfl | rfl | rfl <;> exact ⟨_, rfl, by decide⟩

/-- RSA-1024 is the only key of fewer than 2048 bits. -/
theorem schluessel_fall {k : String} (hk : k ∈ rsaKeys) :
    ∃ b, schluesselBits k = some b ∧ (k = "rsa1024" ∧ b = 1024 ∨ k ≠ "rsa1024" ∧ 2048 ≤ b) := by
  simp only [rsaKeys, List.mem_cons, List.mem_singleton, List.not_mem_nil, or_false] at hk
  rcases hk with rfl | rfl | rfl <;> exact ⟨_, rfl, by decide⟩

/-! ## 4. Each family -/

section Familie

variable {f : Nat} {k : String} (hk : k ∈ rsaKeys)
include hk

/-- PSS: the rule skips RSA-1024 with salt length 64, where only SHA-512 does not fit. -/
theorem pss_auslassung {sl : Nat} {d : String} (hs : sl ∈ testRsapssSaltSizes)
    (hd : d ∈ testDigests) :
    ((TestAufruf.digestsignverifyRsapss f k sl d).uebersprungen = false →
      (TestAufruf.digestsignverifyRsapss f k sl d).kodierbar = true) ∧
    ((TestAufruf.digestsignverifyRsapss f k sl d).uebersprungen = true ∧
      (TestAufruf.digestsignverifyRsapss f k sl d).kodierbar = true ↔
        k = "rsa1024" ∧ sl = 64 ∧ d ≠ "sha512") := by
  obtain ⟨b, hb, hkb⟩ := schluessel_fall hk
  obtain ⟨h, hh, hhd⟩ := hash_fall hd
  obtain ⟨h64, hsl⟩ := salz_fall hs
  simp only [TestAufruf.uebersprungen, TestAufruf.kodierbar, hb, hh, h64, emLaenge,
    Bool.and_eq_true, beq_iff_eq, Bool.and_eq_false_iff, beq_eq_false_iff_ne, decide_eq_true_eq]
  rcases hkb with ⟨rfl, rfl⟩ | ⟨hk', hb'⟩
  · -- RSA-1024: `emLen` is 128 bytes, too short only for SHA-512 with salt length 64
    simp only [ne_eq, not_true_eq_false, false_or, true_and]
    rcases hhd with ⟨hle, hne⟩ | ⟨rfl, rfl⟩
    · simp only [hne, not_false_eq_true, and_true]
      omega
    · simp only [not_true_eq_false, and_false, iff_false, not_and]
      omega
  · have : h ≤ 64 := by rcases hhd with ⟨_, -⟩ | ⟨rfl, -⟩ <;> omega
    simp only [hk', ne_eq, not_false_eq_true, true_or, true_implies, false_and, iff_false,
      not_and, and_true]
    omega

/-- PKCS #1 v1.5 signatures: no rule, and every case fits. -/
theorem pkcsSignatur_kodierbar {d : String} (hd : d ∈ testDigests) :
    (TestAufruf.digestsignverifyRsa f k d).uebersprungen = false ∧
    (TestAufruf.digestsignverifyRsa f k d).kodierbar = true := by
  obtain ⟨b, hb, hkb⟩ := schluessel_fall hk
  obtain ⟨t, ht, ht83⟩ := digestInfo_fall hd
  simp only [TestAufruf.uebersprungen, TestAufruf.kodierbar, hb, ht, modulusBytes,
    decide_eq_true_eq, true_and]
  omega

/-- PKCS #1 v1.5 encryption: the rule skips exactly the case that does not fit. -/
theorem verschluesseln_auslassung (hf : f ∈ testSmallFileSizes) :
    (TestAufruf.encryptdecryptRsa f k).uebersprungen =
      !(TestAufruf.encryptdecryptRsa f k).kodierbar := by
  obtain ⟨b, hb, hkb⟩ := schluessel_fall hk
  obtain ⟨h128, hf'⟩ := klein_fall hf
  simp only [TestAufruf.uebersprungen, TestAufruf.kodierbar, hb, h128, modulusBytes]
  rcases hkb with ⟨rfl, rfl⟩ | ⟨hk', hb'⟩
  · rcases hf' with hf' | rfl
    · simp only [beq_self_eq_true, Bool.true_and]
      rw [decide_eq_true (by omega), beq_eq_false_iff_ne.mpr (by omega)]
      rfl
    · rfl
  · simp only [beq_eq_false_iff_ne.mpr hk', Bool.false_and]
    rw [decide_eq_true (by omega)]
    rfl

end Familie

/-- The raw cases fit: they have exactly the key's length. -/
theorem roh_kodierbar {k : String} {a : Nat → String → TestAufruf} {x : TestAufruf}
    (hx : x ∈ rohAufrufe k a) (ha : ∀ m k, (a m k).kodierbar = (schluesselBits k == some (8 * m)))
    (hu : ∀ m k, (a m k).uebersprungen = false) :
    x.uebersprungen = false ∧ x.kodierbar = true := by
  obtain ⟨m, rfl, -, hb⟩ := mem_rohAufrufe hx
  rw [hu, ha, hb]
  exact ⟨rfl, beq_self_eq_true _⟩

/-! ## 5. The RSA blocks -/

/-- A call its function never skips and that fits is no exception to the rules. -/
theorem ohne_auslassung {a : TestAufruf} (hu : a.uebersprungen = false) (hk : a.kodierbar = true) :
    (a.uebersprungen = false → a.kodierbar = true) ∧
    (a.uebersprungen = true ∧ a.kodierbar = true ↔
      ∃ f d, a = .digestsignverifyRsapss f "rsa1024" 64 d ∧ d ≠ "sha512") := by
  refine ⟨fun _ => hk, ⟨fun ⟨hu', _⟩ => absurd hu' (by simp [hu]), ?_⟩⟩
  rintro ⟨f, d, rfl, -⟩
  simp only [TestAufruf.uebersprungen] at hu
  exact absurd hu (by decide)

end NitroEnclavesAcm.Testtool
