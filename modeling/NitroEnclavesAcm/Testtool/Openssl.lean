import NitroEnclavesAcm.Testtool.Umgebung

/-
  File:      NitroEnclavesAcm/Testtool/Openssl.lean
  Subject:   The operation providers: the `openssl_pkcs_*` (subject, through the pkcs11 engine) and
             `openssl_ref_*` (reference, with the key files on disk) shell functions, and the
             comparators the test families hand the template.

  Every provider is one `openssl` command line built from its positional parameters
  (`opensslAufruf`), the raw verifiers and the decrypters that command followed by
  `&& diff "$input" "$out"` (`opensslUndDiff`). Each keeps its own definition under its source
  name, with its own command line and output file.

  * `checkOutfilesDiff` -- `diff "$pkcs_out" "$ref_out"`;
  * `checkOutfilesSignverifyRsapss` -- for salt length 0, `diff "$pkcs_out" "$pkcs_out"`: the
    SUBJECT's file against ITSELF (`checkOutfilesSignverifyRsapss_salt0`);
  * `trueFn` -- the builtin `true`, the comparator of the randomised families.
-/

namespace NitroEnclavesAcm.Testtool

open NitroEnclavesAcm.Bash

section Anbieter

variable (e : Env)

/-- A provider that runs one `openssl` command line built from its parameters. -/
def opensslAufruf (name : String) (zeile : List String → List String) : ShFn :=
  ⟨name, fun a => e.programm ("openssl" :: zeile a)⟩

/-- A provider that runs `openssl …` and then `diff "$input" "$out"` on what it wrote. -/
def opensslUndDiff (name : String) (zeile : List String → List String)
    (out : List String → String) : ShFn :=
  ⟨name, fun a => Cmd.and (e.programm ("openssl" :: zeile a)) (diff (arg a 1) (out a))⟩

/-! ## 1. RSA PKCS#1 v1.5 digest sign -/

def opensslRefDigestsignRsa : ShFn := opensslAufruf e "openssl_ref_digestsign_rsa" fun a =>
  ["dgst", "-" ++ arg a 3, "-sign", getKeyFile (arg a 0) "private", "-out", arg a 2, arg a 1]

/-- `$options` is never set: its unquoted expansion is no word. -/
def opensslRefDigestverifyRsa : ShFn := opensslAufruf e "openssl_ref_digestverify_rsa" fun a =>
  ["dgst", "-" ++ arg a 3, "-verify", getKeyFile (arg a 0) "public", "-signature", arg a 2,
    arg a 1]

def opensslPkcsDigestsignRsa : ShFn := opensslAufruf e "openssl_pkcs_digestsign_rsa" fun a =>
  ["dgst", "-" ++ arg a 3, "-keyform", "engine", "-engine", "pkcs11",
    "-sign", getKeyPkcsUri (arg a 0) "private", "-out", arg a 2, arg a 1]

def opensslPkcsDigestverifyRsa : ShFn := opensslAufruf e "openssl_pkcs_digestverify_rsa" fun a =>
  ["dgst", "-" ++ arg a 3, "-keyform", "engine", "-engine", "pkcs11",
    "-verify", getKeyPkcsUri (arg a 0) "public", "-signature", arg a 2, arg a 1]

/-! ## 2. Raw (X.509) RSA sign -/

def opensslRefSignRsaX509 : ShFn := opensslAufruf e "openssl_ref_sign_rsa_x509" fun a =>
  ["rsautl", "-sign", "-inkey", getKeyFile (arg a 0) "private", "-out", arg a 2, "-in", arg a 1,
    "-raw"]

def opensslRefVerifyRsaX509 : ShFn := opensslUndDiff e "openssl_ref_verify_rsa_x509"
  (fun a => ["rsautl", "-verify", "-inkey", getKeyFile (arg a 0) "public", "-in", arg a 2,
    "-out", arg a 2 ++ ".refverify", "-pubin", "-raw"])
  (fun a => arg a 2 ++ ".refverify")

def opensslPkcsSignRsaX509 : ShFn := opensslAufruf e "openssl_pkcs_sign_rsa_x509" fun a =>
  ["rsautl", "-keyform", "engine", "-engine", "pkcs11", "-sign", "-inkey",
    getKeyPkcsUri (arg a 0) "private", "-out", arg a 2, "-in", arg a 1, "-raw"]

def opensslPkcsVerifyRsaX509 : ShFn := opensslUndDiff e "openssl_pkcs_verify_rsa_x509"
  (fun a => ["rsautl", "-keyform", "engine", "-engine", "pkcs11", "-verify", "-inkey",
    getKeyPkcsUri (arg a 0) "public", "-in", arg a 2, "-out", arg a 2 ++ ".pkcsverify", "-pubin",
    "-raw"])
  (fun a => arg a 2 ++ ".pkcsverify")

/-! ## 3. RSA-PSS digest sign: parameters keylabel, input, file, saltlen, digest -/

def opensslRefDigestsignRsapss : ShFn := opensslAufruf e "openssl_ref_digestsign_rsapss" fun a =>
  ["dgst", "-" ++ arg a 4, "-sign", getKeyFile (arg a 0) "private",
    "-sigopt", "rsa_padding_mode:pss", "-sigopt", "rsa_pss_saltlen:" ++ arg a 3,
    "-out", arg a 2, arg a 1]

def opensslRefDigestverifyRsapss : ShFn :=
  opensslAufruf e "openssl_ref_digestverify_rsapss" fun a =>
    ["dgst", "-" ++ arg a 4, "-verify", getKeyFile (arg a 0) "public",
      "-sigopt", "rsa_padding_mode:pss", "-sigopt", "rsa_pss_saltlen:" ++ arg a 3,
      "-signature", arg a 2, arg a 1]

def opensslPkcsDigestsignRsapss : ShFn :=
  opensslAufruf e "openssl_pkcs_digestsign_rsapss" fun a =>
    ["dgst", "-" ++ arg a 4, "-keyform", "engine", "-engine", "pkcs11",
      "-sign", getKeyPkcsUri (arg a 0) "private", "-sigopt", "rsa_padding_mode:pss",
      "-sigopt", "rsa_pss_saltlen:" ++ arg a 3, "-sigopt", "digest:" ++ arg a 4,
      "-out", arg a 2, arg a 1]

def opensslPkcsDigestverifyRsapss : ShFn :=
  opensslAufruf e "openssl_pkcs_digestverify_rsapss" fun a =>
    ["dgst", "-" ++ arg a 4, "-keyform", "engine", "-engine", "pkcs11",
      "-verify", getKeyPkcsUri (arg a 0) "public", "-sigopt", "rsa_padding_mode:pss",
      "-sigopt", "rsa_pss_saltlen:" ++ arg a 3, "-sigopt", "digest:" ++ arg a 4,
      "-signature", arg a 2, arg a 1]

/-! ## 4. ECDSA -/

def opensslPkcsSignEcdsa : ShFn := opensslAufruf e "openssl_pkcs_sign_ecdsa" fun a =>
  ["dgst", "-keyform", "engine", "-engine", "pkcs11", "-sign", getKeyPkcsUri (arg a 0) "private",
    "-out", arg a 2, arg a 1]

def opensslPkcsVerifyEcdsa : ShFn := opensslAufruf e "openssl_pkcs_verify_ecdsa" fun a =>
  ["dgst", "-keyform", "engine", "-engine", "pkcs11", "-verify",
    getKeyPkcsUri (arg a 0) "public", "-signature", arg a 2, arg a 1]

/-- The signature reaches its file through `> "$outsign"`. -/
def opensslRefSignEcdsa : ShFn := opensslAufruf e "openssl_ref_sign_ecdsa" fun a =>
  ["dgst", "-sign", getKeyFile (arg a 0) "private", arg a 1, ">", arg a 2]

def opensslRefVerifyEcdsa : ShFn := opensslAufruf e "openssl_ref_verify_ecdsa" fun a =>
  ["dgst", "-verify", getKeyFile (arg a 0) "public", "-signature", arg a 2, arg a 1]

/-! ## 5. RSA encrypt and decrypt -/

def opensslPkcsEncryptRsa : ShFn := opensslAufruf e "openssl_pkcs_encrypt_rsa" fun a =>
  ["pkeyutl", "-encrypt", "-keyform", "engine", "-engine", "pkcs11", "-pubin", "-inkey",
    getKeyPkcsUri (arg a 0) "public", "-out", arg a 2, "-in", arg a 1]

def opensslPkcsDecryptRsa : ShFn := opensslUndDiff e "openssl_pkcs_decrypt_rsa"
  (fun a => ["pkeyutl", "-decrypt", "-keyform", "engine", "-engine", "pkcs11", "-inkey",
    getKeyPkcsUri (arg a 0) "private", "-out", arg a 2 ++ ".pkcsdecrypted", "-in", arg a 2])
  (fun a => arg a 2 ++ ".pkcsdecrypted")

def opensslRefEncryptRsa : ShFn := opensslAufruf e "openssl_ref_encrypt_rsa" fun a =>
  ["pkeyutl", "-encrypt", "-pubin", "-inkey", getKeyFile (arg a 0) "public", "-out", arg a 2,
    "-in", arg a 1]

def opensslRefDecryptRsa : ShFn := opensslUndDiff e "openssl_ref_decrypt_rsa"
  (fun a => ["pkeyutl", "-decrypt", "-inkey", getKeyFile (arg a 0) "private",
    "-out", arg a 2 ++ ".refdecrypted", "-in", arg a 2])
  (fun a => arg a 2 ++ ".refdecrypted")

def opensslPkcsEncryptRsax509 : ShFn := opensslAufruf e "openssl_pkcs_encrypt_rsax509" fun a =>
  ["pkeyutl", "-encrypt", "-keyform", "engine", "-engine", "pkcs11", "-pubin", "-inkey",
    getKeyPkcsUri (arg a 0) "public", "-out", arg a 2, "-in", arg a 1,
    "-pkeyopt", "rsa_padding_mode:none"]

/-- `local outdec="$sign.pkcsdecrypted"`: `$sign` is set by no caller, so the decrypted file is
    `.pkcsdecrypted` in the working directory. -/
def opensslPkcsDecryptRsax509 : ShFn := opensslUndDiff e "openssl_pkcs_decrypt_rsax509"
  (fun a => ["pkeyutl", "-decrypt", "-keyform", "engine", "-engine", "pkcs11", "-inkey",
    getKeyPkcsUri (arg a 0) "private", "-out", ".pkcsdecrypted", "-in", arg a 2,
    "-pkeyopt", "rsa_padding_mode:none"])
  (fun _ => ".pkcsdecrypted")

def opensslRefEncryptRsax509 : ShFn := opensslAufruf e "openssl_ref_encrypt_rsax509" fun a =>
  ["pkeyutl", "-encrypt", "-pubin", "-inkey", getKeyFile (arg a 0) "public", "-out", arg a 2,
    "-in", arg a 1, "-pkeyopt", "rsa_padding_mode:none"]

/-- As for the subject: `$sign` is unset, the file is `.refdecrypted`. -/
def opensslRefDecryptRsax509 : ShFn := opensslUndDiff e "openssl_ref_decrypt_rsax509"
  (fun a => ["pkeyutl", "-decrypt", "-inkey", getKeyFile (arg a 0) "private",
    "-out", ".refdecrypted", "-in", arg a 2, "-pkeyopt", "rsa_padding_mode:none"])
  (fun _ => ".refdecrypted")

end Anbieter

/-! ## 6. Comparators -/

/-- `check_outfiles_diff pkcs_out ref_out`. -/
def checkOutfilesDiff : ShFn := ⟨"check_outfiles_diff", fun a => diff (arg a 0) (arg a 1)⟩

/-- `check_outfiles_signverify_rsapss pkcs_out ref_out saltlen`: for salt length 0 it echoes
    "Checking that the resulting files are identical as no salt is used" and runs
    `diff "$pkcs_out" "$pkcs_out"`; otherwise it only echoes. `[ "$saltlen" -eq 0 ]` holds of the
    integer 0 only. -/
def checkOutfilesSignverifyRsapss : ShFn :=
  ⟨"check_outfiles_signverify_rsapss", fun a =>
    if ganzzahl? (arg a 2) = some 0 then diff (arg a 0) (arg a 0) else Cmd.ok⟩

/-- The builtin `true`, handed over as the comparator where none is wanted. -/
def trueFn : ShFn := ⟨"true", fun _ => Cmd.ok⟩

/-- `check_outfiles_diff` accepts exactly two files with the same bytes. -/
theorem checkOutfilesDiff_status (pkcsOut refOut : String) (rest : List String) (s : Shell) :
    (checkOutfilesDiff.run (pkcsOut :: refOut :: rest) s).1 = 0 ↔
      ∃ x, s.welt.fs pkcsOut = some x ∧ s.welt.fs refOut = some x :=
  diff_status_eq_zero pkcsOut refOut s

/-- **With salt length 0 the PSS comparator looks at the subject's file only**: it accepts as soon
    as that file exists, whatever the reference's file holds. -/
theorem checkOutfilesSignverifyRsapss_salt0 (pkcsOut refOut : String) (rest : List String)
    (s : Shell) :
    (checkOutfilesSignverifyRsapss.run (pkcsOut :: refOut :: "0" :: rest) s).1 = 0 ↔
      (s.welt.fs pkcsOut).isSome := by
  have h0 : ganzzahl? "0" = some 0 := by decide
  simp only [checkOutfilesSignverifyRsapss, arg, List.getD_cons_succ, List.getD_cons_zero, h0,
    if_true, diff_status_eq_zero]
  cases s.welt.fs pkcsOut <;> simp

end NitroEnclavesAcm.Testtool
