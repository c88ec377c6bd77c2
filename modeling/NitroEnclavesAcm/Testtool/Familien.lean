import NitroEnclavesAcm.Testtool.Template

/-
  File:      NitroEnclavesAcm/Testtool/Familien.lean
  Subject:   The six test families (`test_openssl_*`): which providers, which comparator and which
             input generator each hands the template, and their skip rules.

  * `fallDigestsignverifyRsa`, … -- the template's arguments for each family;
  * `vergleich_diff_lehnt_ab` -- a family that compares with `check_outfiles_diff` fails every
    case whose two artifacts differ when the comparator runs, whatever the checkers say;
  * `rsapss_salt0_vergleich` -- the PSS family with salt length 0 compares the subject's artifact
    with ITSELF: the comparator passes on every reference artifact, so a case whose artifacts
    differ is PASSED when the other steps pass (`rsapss_salt0_passed`, on a concrete run).
-/

namespace NitroEnclavesAcm.Testtool

open NitroEnclavesAcm.Bash

section Familien

variable (e : Env)

/-! ## 1. The families -/

def fallDigestsignverifyRsa (filesize : Nat) (keylabel digest : String) : Fall :=
  ⟨"test_openssl_digestsignverify_rsa", "signverify/rsa_pkcs/" ++ keylabel,
    opensslPkcsDigestsignRsa e, opensslRefDigestsignRsa e,
    opensslPkcsDigestverifyRsa e, opensslRefDigestverifyRsa e,
    checkOutfilesDiff, createTestRandomFile e, filesize, keylabel, [digest]⟩

/-- `test_openssl_digestsignverify_rsa filesize keylabel digest`. -/
def testOpensslDigestsignverifyRsa (filesize : Nat) (keylabel digest : String) : Sh :=
  testtemplateGenerateCheck e (fallDigestsignverifyRsa e filesize keylabel digest)

def fallSignverifyRsaX509 (filesize : Nat) (keylabel : String) : Fall :=
  ⟨"test_openssl_signverify_rsa_x509", "signverify/rsa_x509/" ++ keylabel,
    opensslPkcsSignRsaX509 e, opensslRefSignRsaX509 e,
    opensslPkcsVerifyRsaX509 e, opensslRefVerifyRsaX509 e,
    checkOutfilesDiff, createTestRandomFileRsax509 e, filesize, keylabel, []⟩

/-- `test_openssl_signverify_rsa_x509 filesize keylabel`. -/
def testOpensslSignverifyRsaX509 (filesize : Nat) (keylabel : String) : Sh :=
  testtemplateGenerateCheck e (fallSignverifyRsaX509 e filesize keylabel)

def fallDigestsignverifyRsapss (filesize : Nat) (keylabel : String) (saltlen : Nat)
    (digest : String) : Fall :=
  ⟨"test_openssl_digestsignverify_rsapss", "signverify/rsapss/" ++ keylabel,
    opensslPkcsDigestsignRsapss e, opensslRefDigestsignRsapss e,
    opensslPkcsDigestverifyRsapss e, opensslRefDigestverifyRsapss e,
    checkOutfilesSignverifyRsapss, createTestRandomFile e, filesize, keylabel,
    [toString saltlen, digest]⟩

/-- `test_openssl_digestsignverify_rsapss filesize keylabel saltlen digest`: RSA-1024 with salt
    length 64 is skipped (`return` with the status of the test that held, 0). -/
def testOpensslDigestsignverifyRsapss (filesize : Nat) (keylabel : String) (saltlen : Nat)
    (digest : String) : Sh :=
  Sh.ifThenElse (Sh.and (Sh.test (keylabel == "rsa1024")) (Sh.test (toString saltlen == "64")))
    (Sh.ret 0)
    (testtemplateGenerateCheck e (fallDigestsignverifyRsapss e filesize keylabel saltlen digest))

def fallSignverifyEcdsa (filesize : Nat) (keylabel : String) : Fall :=
  ⟨"test_openssl_signverify_ecdsa", "signverify/ecdsa/" ++ keylabel,
    opensslPkcsSignEcdsa e, opensslRefSignEcdsa e,
    opensslPkcsVerifyEcdsa e, opensslRefVerifyEcdsa e,
    trueFn, createTestRandomFile e, filesize, keylabel, []⟩

/-- `test_openssl_signverify_ecdsa filesize keylabel`. -/
def testOpensslSignverifyEcdsa (filesize : Nat) (keylabel : String) : Sh :=
  testtemplateGenerateCheck e (fallSignverifyEcdsa e filesize keylabel)

/-- The first argument is written `\ "${FUNCNAME[0]}"`: an escaped blank joined to the name,
    which the template's unquoted expansion splits off again. -/
def fallEncryptdecryptRsa (filesize : Nat) (keylabel : String) : Fall :=
  ⟨" test_openssl_encryptdecrypt_rsa", "encryptdecrypt/rsa_pkcs/" ++ keylabel,
    opensslPkcsEncryptRsa e, opensslRefEncryptRsa e,
    opensslPkcsDecryptRsa e, opensslRefDecryptRsa e,
    trueFn, createTestRandomFile e, filesize, keylabel, []⟩

/-- `test_openssl_encryptdecrypt_rsa filesize keylabel`: RSA-1024 with 128 bytes is skipped. -/
def testOpensslEncryptdecryptRsa (filesize : Nat) (keylabel : String) : Sh :=
  Sh.ifThenElse (Sh.and (Sh.test (keylabel == "rsa1024")) (Sh.test (toString filesize == "128")))
    (Sh.ret 0)
    (testtemplateGenerateCheck e (fallEncryptdecryptRsa e filesize keylabel))

def fallEncryptdecryptRsaX509 (filesize : Nat) (keylabel : String) : Fall :=
  ⟨"test_openssl_encryptdecrypt_rsa_x509", "encryptdecrypt/rsa_x509/" ++ keylabel,
    opensslPkcsEncryptRsax509 e, opensslRefEncryptRsax509 e,
    opensslPkcsDecryptRsax509 e, opensslRefDecryptRsax509 e,
    checkOutfilesDiff, createTestRandomFileRsax509 e, filesize, keylabel, []⟩

/-- `test_openssl_encryptdecrypt_rsa_x509 filesize keylabel`. -/
def testOpensslEncryptdecryptRsaX509 (filesize : Nat) (keylabel : String) : Sh :=
  testtemplateGenerateCheck e (fallEncryptdecryptRsaX509 e filesize keylabel)

end Familien

/-! ## 2. Comparing the artifacts -/

/-- The files the comparator sees: the state after the steps before it. -/
def Fall.vorDemVergleich (e : Env) (f : Fall) (s : Shell) : Shell := nachAllen (f.vorVergleich e) s

/-- **A byte comparison fails the case on differing artifacts**: when the comparator is
    `check_outfiles_diff` and the subject's and the reference's files differ as it runs, the
    steps do not all pass, whatever the other steps do. -/
theorem vergleich_diff_lehnt_ab (e : Env) (f : Fall) (hf : f.fctCustomCheckOutFiles = checkOutfilesDiff)
    (s : Shell)
    (hAB : (f.vorDemVergleich e s).welt.fs (f.pkcsOutPath e) ≠
      (f.vorDemVergleich e s).welt.fs (f.refOutPath e)) :
    allePassen (f.schritte e) s = false := by
  have hv : ((f.vergleich e).cmd (f.vorDemVergleich e s)).1 ≠ 0 := by
    simp only [Fall.vergleich, Schritt.aufruf, hf, List.cons_append, List.nil_append]
    rw [Ne, checkOutfilesDiff_status]
    rintro ⟨x, ha, hb⟩
    exact hAB (ha.trans hb.symm)
  rw [Fall.schritte, allePassen_append]
  show (_ && (decide (((f.vergleich e).cmd (f.vorDemVergleich e s)).1 = 0) && _)) = false
  simp [hv]

/-- **With salt length 0 the PSS case never looks at the reference's artifact**: its comparator
    passes exactly when the subject's artifact exists, whatever the reference wrote. -/
theorem rsapss_salt0_vergleich (e : Env) (filesize : Nat) (keylabel digest : String)
    (s : Shell) :
    let f := fallDigestsignverifyRsapss e filesize keylabel 0 digest
    ((f.vergleich e).cmd s).1 = 0 ↔ (s.welt.fs (f.pkcsOutPath e)).isSome :=
  checkOutfilesSignverifyRsapss_salt0 _ _ _ s

/-- **Every byte-compared family records a case with differing artifacts as FAILED**: for PKCS#1
    v1.5 digest signing, raw X.509 signing and raw X.509 encryption, whatever the providers, the
    checkers and the input do, a case whose two artifacts differ when the comparator runs prints
    FAILED and counts one more failure. -/
theorem deterministisch_abweichung_failed (e : Env) (filesize : Nat) (keylabel digest : String)
    (f : Fall) (hf : f = fallDigestsignverifyRsa e filesize keylabel digest ∨
      f = fallSignverifyRsaX509 e filesize keylabel ∨
      f = fallEncryptdecryptRsaX509 e filesize keylabel) (s : Shell)
    (hAB : (f.vorDemVergleich e s).welt.fs (f.pkcsOutPath e) ≠
      (f.vorDemVergleich e s).welt.fs (f.refOutPath e)) :
    (testtemplateGenerateCheck e f s).2.protokoll = s.protokoll ++ [(f.testname e, false)] ∧
    (testtemplateGenerateCheck e f s).2.vars.numTestsFailed = s.vars.numTestsFailed + 1 := by
  have hc : f.fctCustomCheckOutFiles = checkOutfilesDiff := by
    rcases hf with rfl | rfl | rfl <;> rfl
  have hp : f.bestanden e s = false := vergleich_diff_lehnt_ab e f hc s hAB
  obtain ⟨-, -, h1, -, h2, -⟩ := testtemplateGenerateCheck_verdict e f s
  exact ⟨by rw [h1, hp], by rw [h2, hp]; rfl⟩

/-! ## 3. A run: the PSS case with salt length 0 -/

/-- The word after the option `o` in a command line. -/
def nachOption (o : String) : List String → String
  | a :: b :: rest => if a = o then b else nachOption o (b :: rest)
  | _ => ""

/-- Toy providers: a signature is a tag (1 for the engine, 2 for the key file) before the signed
    bytes, and it verifies against the bytes it carries; `bitflip` changes the first byte. -/
def spielProgramm (z : List String) : Cmd := fun s =>
  match z with
  | ["tests/testhelpers", "bitflip", out, _] =>
    match s.welt.fs out with
    | some (b :: bs) => (0, s.welt.write out ((b + 1) :: bs))
    | _ => (1, s.welt)
  | "openssl" :: rest =>
    let input := rest.getLast?.getD ""
    if "-sign" ∈ rest then
      match s.welt.fs input with
      | some b =>
        (0, s.welt.write (nachOption "-out" rest) ((if "pkcs11" ∈ rest then 1 else 2) :: b))
      | none => (1, s.welt)
    else if "-verify" ∈ rest then
      match s.welt.fs (nachOption "-signature" rest), s.welt.fs input with
      | some (_ :: sig), some b => (if sig = b then 0 else 1, s.welt)
      | _, _ => (1, s.welt)
    else (0, s.welt)
  | _ => (0, s.welt)

/-- The toy surroundings: payload bytes are all 7. -/
def spielEnv : Env where
  programm := spielProgramm
  prngFile n _ := if 0 ≤ n then some (List.replicate n.toNat 7) else none
  prngFile_length := by
    intro n seed b h
    dsimp only at h
    split at h
    · cases h; simp; omega
    · cases h
  prngInt _ _ _ := "0"
  numfmt n := toString n ++ "B"
  mktemp := "/tmp/tmp.x"
  random := 0

/-- A fresh shell: no file, nothing counted, seed 1. -/
def spielStart : Shell := ⟨⟨0, 0, "1", "", "", ""⟩, ⟨fun _ => none⟩, [], []⟩

/-- With the toy providers a differing pair fails the digest-sign family. -/
theorem deterministisch_abweichung_failed_spiel :
    (fallDigestsignverifyRsa spielEnv 1 "rsa2048" "sha256" =
        fallDigestsignverifyRsa spielEnv 1 "rsa2048" "sha256" ∨
      fallDigestsignverifyRsa spielEnv 1 "rsa2048" "sha256" =
        fallSignverifyRsaX509 spielEnv 1 "rsa2048" ∨
      fallDigestsignverifyRsa spielEnv 1 "rsa2048" "sha256" =
        fallEncryptdecryptRsaX509 spielEnv 1 "rsa2048") ∧
    ((fallDigestsignverifyRsa spielEnv 1 "rsa2048" "sha256").vorDemVergleich spielEnv
        spielStart).welt.fs ((fallDigestsignverifyRsa spielEnv 1 "rsa2048" "sha256").pkcsOutPath
          spielEnv) ≠
      ((fallDigestsignverifyRsa spielEnv 1 "rsa2048" "sha256").vorDemVergleich spielEnv
        spielStart).welt.fs ((fallDigestsignverifyRsa spielEnv 1 "rsa2048" "sha256").refOutPath
          spielEnv) ∧
    (testtemplateGenerateCheck spielEnv (fallDigestsignverifyRsa spielEnv 1 "rsa2048" "sha256")
        spielStart).2.vars.numTestsFailed = 1 :=
  have hAB : ((fallDigestsignverifyRsa spielEnv 1 "rsa2048" "sha256").vorDemVergleich spielEnv
        spielStart).welt.fs ((fallDigestsignverifyRsa spielEnv 1 "rsa2048" "sha256").pkcsOutPath
          spielEnv) ≠
      ((fallDigestsignverifyRsa spielEnv 1 "rsa2048" "sha256").vorDemVergleich spielEnv
        spielStart).welt.fs ((fallDigestsignverifyRsa spielEnv 1 "rsa2048" "sha256").refOutPath
          spielEnv) := by decide
  ⟨Or.inl rfl, hAB, (deterministisch_abweichung_failed spielEnv 1 "rsa2048" "sha256" _
    (Or.inl rfl) spielStart hAB).2⟩

/-- The PSS case with salt length 0 the run below takes: one byte, RSA-2048, SHA-256. -/
def spielPss : Fall := fallDigestsignverifyRsapss spielEnv 1 "rsa2048" 0 "sha256"

/-- **The PSS case with salt length 0 is PASSED on differing artifacts**: with toy providers
    whose two signatures differ (tags 1 and 2), which verify each other's signature on the input
    and reject both on the corrupted input, `test_openssl_digestsignverify_rsapss 1 rsa2048 0
    sha256` prints PASSED and counts no failure. -/
theorem rsapss_salt0_passed :
    (spielPss.vorDemVergleich spielEnv spielStart).welt.fs (spielPss.pkcsOutPath spielEnv) ≠
      (spielPss.vorDemVergleich spielEnv spielStart).welt.fs (spielPss.refOutPath spielEnv) ∧
    allePassen (spielPss.nachVergleich spielEnv)
      ((spielPss.vergleich spielEnv).nach (spielPss.vorDemVergleich spielEnv spielStart)) = true ∧
    (testOpensslDigestsignverifyRsapss spielEnv 1 "rsa2048" 0 "sha256" spielStart).2.protokoll =
      [(spielPss.testname spielEnv, true)] ∧
    (testOpensslDigestsignverifyRsapss spielEnv 1 "rsa2048" 0 "sha256"
      spielStart).2.vars.numTestsFailed = 0 := by
  decide

end NitroEnclavesAcm.Testtool
