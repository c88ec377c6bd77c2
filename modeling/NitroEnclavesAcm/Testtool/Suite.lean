import NitroEnclavesAcm.Testtool.Familien
import NitroEnclavesAcm.Testtool.Nutzlast

/-
  File:      NitroEnclavesAcm/Testtool/Suite.lean
  Subject:   The `openssl` test set: `cmd_openssl` with its option loop, the environment and key
             provisioning it runs around the cases, its loops over the test matrix, and the
             certificate export cases.

  `cmd_openssl` reads its options, starts the enclave (`prepare_test_env`), and then for each key
  provisions a token, runs the cases of that key in nested `for` loops and an `if … elif … fi`
  chain, and releases the token. **The loops run a list of cases**: followed by any command, each
  per-key block does what one loop over `rsaSignaturAufrufe` (resp. `rsaVerschluesselAufrufe`)
  does (`rsaSignaturBlock_gleich`, `rsaVerschluesselBlock_gleich`), so a fact about the cases is
  a fact about the list.

  * `rohEingabe_unter_modul` -- every raw X.509 case the blocks run has as many payload bytes as
    its key's modulus, and the payload `0x41 …` is below every modulus of that length.

  NOT here: the messages `echo` prints, the usage text, the global `certlabel` that
  `get_cert_file` sets (nothing reads it).
-/

namespace NitroEnclavesAcm.Testtool

open NitroEnclavesAcm.Bash

/-- Run the external command line `z`: it goes on the spur, the outside decides its effect. -/
def Env.befehl (e : Env) (z : List String) : Sh := Sh.call z (e.programm z)

/-! ## 1. Options -/

/-- The variable the option `o` of a `case $1 in` sets to `x`. -/
def setzeOption (v : Vars) (o x : String) : Vars :=
  if o = "--kms-key-id" then { v with keyId := x }
  else if o = "--kms-region" then { v with region := x }
  else if o = "--key-label" then { v with keylabel := x }
  else v

/-- `while [[ "$#" -gt 0 ]]; do case $1 in … esac; shift; done` over the options `erlaubt`: an
    option sets its variable to the next word and both are shifted away; an option with no word
    after it sets the variable empty, and the second `shift` fails (status 1) and ends the loop;
    any other word prints the usage and `die`s. -/
def optionenLesen (erlaubt : List String) : List String → Sh
  | [] => Sh.ret 0
  | [o] => if o ∈ erlaubt then Sh.seq (Sh.set (setzeOption · o "")) (Sh.ret 1) else die 1
  | o :: x :: rest =>
    if o ∈ erlaubt then Sh.seq (Sh.set (setzeOption · o x)) (optionenLesen erlaubt rest)
    else die 1

/-! ## 2. The environment and the keys -/

section Umfeld

variable (e : Env)

/-- `prepare_test_env`: create the key database directory or die; start the enclave, and if that
    fails stop and start it again, dying on either failure. -/
def prepareTestEnv : Sh :=
  Sh.seq (Sh.seqS (e.befehl ["mkdir", "-p", keyDbDir]) okOrDie) <|
  Sh.seqS (e.befehl ["p11ne-cli", "start"]) fun st =>
    Sh.ifThen (Sh.test (st != 0))
      (Sh.seq (Sh.seqS (e.befehl ["p11ne-cli", "stop"]) okOrDie)
        (Sh.seqS (e.befehl ["p11ne-cli", "start"]) okOrDie))

/-- `cleanup_test_env`: stop the enclave, remove the key database and the certificates. -/
def cleanupTestEnv : Sh :=
  Sh.folge <| List.map e.befehl
    [["p11ne-cli", "stop"], ["rm", "-rf", keyDbDir], ["rm", "-rf", certsDir]]

/-- `p11ne-cli init-token` for the key database of `keylabel`. -/
def initTokenZeile (keylabel : String) : List String :=
  ["p11ne-cli", "init-token", "--key-db", keyDbDir ++ "/" ++ keylabel ++ ".db", "--label",
    tokenLabel, "--pin", pin]

/-- `provision_key` and `provision_key_w_cert`: six arguments or `die`; read the options; pack the
    key with the `p11ne-db pack-key` line `packZeile` makes of the variables, or `die`; init the
    token; `return 0`. -/
def provisionKeyMit (packZeile : Vars → List String) (args : List String) : Sh :=
  Sh.seq (Sh.ifThen (Sh.test (args.length != 6)) (die 1)) <|
  Sh.seq (optionenLesen ["--kms-key-id", "--kms-region", "--key-label"] args) <|
  Sh.seq (Sh.lies fun v => Sh.seqS (e.befehl (packZeile v)) okOrDie) <|
  Sh.seq (Sh.lies fun v => e.befehl (initTokenZeile v.keylabel)) <|
  Sh.ret 0

/-- `provision_key --kms-key-id … --kms-region … --key-label …`. -/
def provisionKey : List String → Sh :=
  provisionKeyMit e fun v => ["p11ne-db", "pack-key", "--id", "1", "--label", v.keylabel,
    "--key-file", getKeyFile v.keylabel "private", "--out-file", keyDbDir ++ "/" ++ v.keylabel,
    "--kms-key-id", v.keyId, "--kms-region", v.region]

/-- `provision_key_w_cert`: the key and certificate chain of `create_test_certs`. -/
def provisionKeyWCert : List String → Sh :=
  provisionKeyMit e fun v => ["p11ne-db", "pack-key", "--id", "1", "--label", v.keylabel,
    "--key-file", getCertFileKey v.keylabel, "--cert-file", getCertFile v.keylabel,
    "--out-file", keyDbDir ++ "/" ++ v.keylabel, "--kms-key-id", v.keyId, "--kms-region", v.region]

/-- `cleanup_key --key-label …`: two arguments or `die`; release the token. -/
def cleanupKey (args : List String) : Sh :=
  Sh.seq (Sh.ifThen (Sh.test (args.length != 2)) (die 1)) <|
  Sh.seq (optionenLesen ["--key-label"] args) <|
  e.befehl ["p11ne-cli", "release-token", "--label", tokenLabel, "--pin", pin]

/-- The arguments `cmd_openssl` provisions the key `label` with. -/
def provisionArgs (v : Vars) (label : String) : List String :=
  ["--kms-key-id", v.keyId, "--kms-region", v.region, "--key-label", label]

/-- The subject line of the certificates `create_test_certs` makes. -/
def subj (o cn : String) : String :=
  "/C=US/ST=Washington/L=Seattle/O=" ++ o ++ "/CN=" ++ cn

/-- `create_test_certs`: a root CA, two intermediates, a leaf and an unrelated self-signed
    certificate, then the chains. The model has no working directory: inside `pushd` every
    command, `cp` and `cat` included, is the command line it runs, with the names relative to
    `$CERTS_DIR` as the source writes them; no status is checked. -/
def createTestCerts : Sh :=
  Sh.folge <| List.map e.befehl
    [["mkdir", "-p", certsDir], ["pushd", certsDir],
     ["openssl", "req", "-new", "-newkey", "rsa:4096", "-nodes", "-out", "root_ca.csr", "-keyout",
      "root_ca_key.pem", "-extensions", "v3_ca", "-subj", subj "Certificate Testing" "root_ca"],
     ["openssl", "x509", "-signkey", "root_ca_key.pem", "-days", "180", "-req", "-in",
      "root_ca.csr", "-set_serial", "01", "-out", "root_ca_cert.pem"],
     ["openssl", "req", "-new", "-newkey", "rsa:4096", "-nodes", "-out", "intermediate_01.csr",
      "-keyout", "intermediate_01_key.pem", "-subj", subj "Certificate Testing" "intermediate_01"],
     ["openssl", "x509", "-CA", "root_ca_cert.pem", "-CAkey", "root_ca_key.pem", "-days", "90",
      "-req", "-in", "intermediate_01.csr", "-set_serial", "02", "-out",
      "intermediate_01_cert.pem"],
     ["openssl", "req", "-new", "-newkey", "rsa:4096", "-nodes", "-out", "intermediate_02.csr",
      "-keyout", "intermediate_02_key.pem", "-subj", subj "Certificate Testing" "intermediate_02"],
     ["openssl", "x509", "-CA", "intermediate_01_cert.pem", "-CAkey", "intermediate_01_key.pem",
      "-days", "60", "-req", "-in", "intermediate_02.csr", "-set_serial", "03", "-out",
      "intermediate_02_cert.pem"],
     ["openssl", "req", "-new", "-newkey", "rsa:4096", "-nodes", "-out", "leaf.csr", "-keyout",
      "leaf_key.pem", "-subj", subj "Certificate Testing" "leaf"],
     ["openssl", "x509", "-CA", "intermediate_02_cert.pem", "-CAkey", "intermediate_02_key.pem",
      "-days", "30", "-req", "-in", "leaf.csr", "-set_serial", "04", "-out", "leaf_cert.pem"],
     ["openssl", "req", "-new", "-newkey", "rsa:4096", "-nodes", "-out", "combo_breaker.csr",
      "-keyout", "combo_breaker_key.pem", "-subj", subj "Breakage Testing" "combo_breaker"],
     ["openssl", "x509", "-signkey", "combo_breaker_key.pem", "-days", "180", "-req", "-in",
      "combo_breaker.csr", "-set_serial", "99", "-out", "combo_breaker_cert.pem"],
     ["cp", "root_ca_cert.pem", "selfsigned_cert.pem"],
     ["cp", "root_ca_key.pem", "selfsigned_key.pem"],
     ["cat", "leaf_cert.pem", "intermediate_02_cert.pem", "intermediate_01_cert.pem", ">",
      "noroot_chain_cert.pem"],
     ["cp", "leaf_key.pem", "noroot_chain_key.pem"],
     ["cat", "leaf_cert.pem", "intermediate_02_cert.pem", "intermediate_01_cert.pem",
      "root_ca_cert.pem", ">", "valid_chain_cert.pem"],
     ["cp", "leaf_key.pem", "valid_chain_key.pem"],
     ["cat", "leaf_cert.pem", "combo_breaker_cert.pem", "root_ca_cert.pem", ">",
      "invalid_chain_cert.pem"],
     ["cp", "leaf_key.pem", "invalid_chain_key.pem"],
     ["rm", "-rf", "leaf_*.pem", "leaf.csr"],
     ["rm", "-rf", "intermediate_*.pem", "intermediate_*.csr"],
     ["rm", "-rf", "root_ca_*.pem", "root_ca.csr"],
     ["rm", "-rf", "combo_breaker_*.pem", "combo_breaker.csr"],
     ["popd"]]

end Umfeld

/-! ## 3. The certificate export cases -/

section Zertifikate

variable (e : Env)

/-- `p11tool --export "$URI_TOKEN;$URI_CERT"`. -/
def p11toolExport : Sh := e.befehl ["p11tool", "--export", uriToken ++ ";" ++ uriCert]

/-- One certificate case: provision the chain `label`, export the certificate, log the export's
    status under `testname`, release the token. -/
def testX509 (label testname : String) : Sh :=
  Sh.seq (Sh.lies fun v => provisionKeyWCert e (provisionArgs v label)) <|
  Sh.seq (Sh.seqS (p11toolExport e) (logTestResult testname)) <|
  cleanupKey e ["--key-label", label]

/-- `test_x509_invalid_chain`, the negative case: `if [ $? -ne 0 ]; then log_test_result … 0;
    else log_test_result … $?; fi`, where the `else` branch's `$?` is the status of the test. -/
def testX509InvalidChain : Sh :=
  Sh.seq (Sh.lies fun v => provisionKeyWCert e (provisionArgs v "invalid_chain")) <|
  Sh.seq (Sh.seqS (p11toolExport e) fun st =>
    Sh.seqS (Sh.test (st != 0)) fun t =>
      if t = 0 then logTestResult "test_x509_invalid_chain" 0
      else logTestResult "test_x509_invalid_chain" t) <|
  cleanupKey e ["--key-label", "invalid_chain"]

/-- The certificate cases, run when `yum list installed gnutls-utils` succeeds. -/
def x509Tests : Sh :=
  Sh.folge [createTestCerts e, testX509 e "selfsigned" "test_x509_single_cert",
    testX509 e "valid_chain" "test_x509_valid_chain",
    testX509 e "noroot_chain" "test_x509_noroot_chain", testX509InvalidChain e]

end Zertifikate

/-! ## 4. The test matrix -/

/-- A call of one of the six test functions, with its arguments. -/
inductive TestAufruf where
  | digestsignverifyRsapss (filesize : Nat) (keylabel : String) (saltlen : Nat) (digest : String)
  | digestsignverifyRsa (filesize : Nat) (keylabel digest : String)
  | signverifyRsaX509 (filesize : Nat) (keylabel : String)
  | signverifyEcdsa (filesize : Nat) (keylabel : String)
  | encryptdecryptRsa (filesize : Nat) (keylabel : String)
  | encryptdecryptRsaX509 (filesize : Nat) (keylabel : String)
  deriving DecidableEq, Repr

/-- Run the call. -/
def TestAufruf.lauf (e : Env) : TestAufruf → Sh
  | .digestsignverifyRsapss f k sl d => testOpensslDigestsignverifyRsapss e f k sl d
  | .digestsignverifyRsa f k d => testOpensslDigestsignverifyRsa e f k d
  | .signverifyRsaX509 f k => testOpensslSignverifyRsaX509 e f k
  | .signverifyEcdsa f k => testOpensslSignverifyEcdsa e f k
  | .encryptdecryptRsa f k => testOpensslEncryptdecryptRsa e f k
  | .encryptdecryptRsaX509 f k => testOpensslEncryptdecryptRsaX509 e f k

/-- `if [ "$rsa_key" == "rsa1024" ]; then t 128 "rsa1024"; elif … rsa2048 …; elif … rsa4096 …;
    fi`: the raw case of the key, with the key's length in bytes ("the length of the input file
    must be equal to the length of the key"). -/
def rohKette (rsaKey : String) (t : Nat → String → Sh) : Sh :=
  Sh.ifThenElse (Sh.test (rsaKey == "rsa1024")) (t 128 "rsa1024") <|
  Sh.ifThenElse (Sh.test (rsaKey == "rsa2048")) (t 256 "rsa2048") <|
  Sh.ifThen (Sh.test (rsaKey == "rsa4096")) (t 512 "rsa4096")

/-- The calls `rohKette` makes. -/
def rohAufrufe (rsaKey : String) (a : Nat → String → TestAufruf) : List TestAufruf :=
  if rsaKey == "rsa1024" then [a 128 "rsa1024"]
  else if rsaKey == "rsa2048" then [a 256 "rsa2048"]
  else if rsaKey == "rsa4096" then [a 512 "rsa4096"] else []

section Matrix

variable (e : Env)

/-- The signing cases of one RSA key in `cmd_openssl`: PSS over sizes, digests and salt
    lengths, PKCS#1 v1.5 over sizes and digests, then the raw case. -/
def rsaSignaturBlock (rsaKey : String) : Sh :=
  Sh.seq (Sh.forIn testLargeFileSizes fun fsize => Sh.forIn testDigests fun digest =>
      Sh.forIn testRsapssSaltSizes fun slen =>
        testOpensslDigestsignverifyRsapss e fsize rsaKey slen digest) <|
  Sh.seq (Sh.forIn testLargeFileSizes fun fsize => Sh.forIn testDigests fun digest =>
      testOpensslDigestsignverifyRsa e fsize rsaKey digest) <|
  rohKette rsaKey (testOpensslSignverifyRsaX509 e)

/-- The encryption cases of one RSA key: PKCS#1 v1.5 over the small sizes, then the raw case. -/
def rsaVerschluesselBlock (rsaKey : String) : Sh :=
  Sh.seq (Sh.forIn testSmallFileSizes fun fsize => testOpensslEncryptdecryptRsa e fsize rsaKey) <|
  rohKette rsaKey (testOpensslEncryptdecryptRsaX509 e)

/-- `cmd_openssl`. -/
def cmdOpenssl (args : List String) : Sh :=
  Sh.seq (optionenLesen ["--kms-key-id", "--kms-region"] args) <|
  Sh.seq (prepareTestEnv e) <|
  Sh.seq (Sh.forIn rsaKeys fun rsaKey =>
    Sh.seq (Sh.lies fun v => Sh.seqS (provisionKey e (provisionArgs v rsaKey)) okOrDie) <|
    Sh.seq (rsaSignaturBlock e rsaKey) <|
    cleanupKey e ["--key-label", rsaKey]) <|
  Sh.seq (Sh.forIn ecdsaKeys fun ecKey =>
    Sh.seq (Sh.lies fun v => provisionKey e (provisionArgs v ecKey)) <|
    Sh.seq (Sh.forIn testEcdsaFileSizes fun fsize => testOpensslSignverifyEcdsa e fsize ecKey) <|
    cleanupKey e ["--key-label", ecKey]) <|
  Sh.seq (Sh.forIn rsaKeys fun rsaKey =>
    Sh.seq (Sh.lies fun v => provisionKey e (provisionArgs v rsaKey)) <|
    Sh.seq (rsaVerschluesselBlock e rsaKey) <|
    cleanupKey e ["--key-label", rsaKey]) <|
  Sh.seq (Sh.ifThen (e.befehl ["yum", "list", "installed", "gnutls-utils"]) (x509Tests e)) <|
  cleanupTestEnv e

end Matrix

/-- The signing cases of one RSA key, as a list. -/
def rsaSignaturAufrufe (rsaKey : String) : List TestAufruf :=
  (testLargeFileSizes.flatMap fun fsize => testDigests.flatMap fun digest =>
    testRsapssSaltSizes.map fun slen => .digestsignverifyRsapss fsize rsaKey slen digest) ++
  ((testLargeFileSizes.flatMap fun fsize => testDigests.map fun digest =>
    .digestsignverifyRsa fsize rsaKey digest) ++
  rohAufrufe rsaKey .signverifyRsaX509)

/-- The encryption cases of one RSA key, as a list. -/
def rsaVerschluesselAufrufe (rsaKey : String) : List TestAufruf :=
  (testSmallFileSizes.map fun fsize => .encryptdecryptRsa fsize rsaKey) ++
  rohAufrufe rsaKey .encryptdecryptRsaX509

/-! ## 5. The blocks run the lists -/

theorem rohKette_gleich (e : Env) (rsaKey : String) (t : Nat → String → Sh)
    (a : Nat → String → TestAufruf) (h : ∀ m k, t m k = (a m k).lauf e) :
    Sh.Gleich (rohKette rsaKey t) (Sh.forIn (rohAufrufe rsaKey a) (TestAufruf.lauf e)) :=
  have h₁ : ∀ m k, Sh.Gleich (t m k) (Sh.forIn [a m k] (TestAufruf.lauf e)) := fun m k =>
    .of_eq ((h m k).trans (Sh.forIn_singleton _ _).symm)
  .ifThenElse_test _ (h₁ _ _) (.ifThenElse_test _ (h₁ _ _) (.ifThen_test _ (h₁ _ _)))

/-- A loop whose body is one call does what the loop over the list of calls does. -/
theorem forIn_gleich_map {α : Type} (e : Env) (xs : List α) (a : α → TestAufruf) :
    Sh.Gleich (Sh.forIn xs fun x => (a x).lauf e) (Sh.forIn (xs.map a) (TestAufruf.lauf e)) :=
  .of_eq (Sh.forIn_map _ _ _).symm

theorem rsaSignaturBlock_gleich (e : Env) (rsaKey : String) :
    Sh.Gleich (rsaSignaturBlock e rsaKey)
      (Sh.forIn (rsaSignaturAufrufe rsaKey) (TestAufruf.lauf e)) := by
  refine .trans ?_ (Sh.Gleich.forIn_append _ _ _).symm
  refine .seq ?_ (.trans (.seq ?_ ?_) (Sh.Gleich.forIn_append _ _ _).symm)
  · exact .forIn_flatMap (fun fsize => .forIn_flatMap (fun digest => forIn_gleich_map e _
      fun slen => .digestsignverifyRsapss fsize rsaKey slen digest) _) _
  · exact .forIn_flatMap (fun fsize => forIn_gleich_map e _
      fun digest => .digestsignverifyRsa fsize rsaKey digest) _
  · exact rohKette_gleich e rsaKey _ .signverifyRsaX509 fun _ _ => rfl

theorem rsaVerschluesselBlock_gleich (e : Env) (rsaKey : String) :
    Sh.Gleich (rsaVerschluesselBlock e rsaKey)
      (Sh.forIn (rsaVerschluesselAufrufe rsaKey) (TestAufruf.lauf e)) :=
  .trans (.seq (forIn_gleich_map e _ fun fsize => .encryptdecryptRsa fsize rsaKey)
      (rohKette_gleich e rsaKey _ .encryptdecryptRsaX509 fun _ _ => rfl))
    (Sh.Gleich.forIn_append _ _ _).symm

/-! ## 6. The raw cases -/

/-- The modulus length an RSA key's label states: `rsa1024` is the key of 1024 bits. The key
    files are not in the repository; their names are the record of their size. -/
def schluesselBits (keylabel : String) : Option Nat :=
  match keylabel.data with
  | 'r' :: 's' :: 'a' :: cs => ziffern cs none
  | _ => none

/-- Every call of the raw chain is for the key itself, with its modulus length in bytes. -/
theorem mem_rohAufrufe {rsaKey : String} {a : Nat → String → TestAufruf} {b : TestAufruf}
    (h : b ∈ rohAufrufe rsaKey a) :
    ∃ m, b = a m rsaKey ∧ 0 < m ∧ schluesselBits rsaKey = some (8 * m) := by
  unfold rohAufrufe at h
  split_ifs at h with h₁ h₂ h₃ <;> simp only [beq_iff_eq, List.mem_singleton, List.not_mem_nil] at *
  · exact ⟨128, by rw [h, h₁], by decide, by rw [h₁]; rfl⟩
  · exact ⟨256, by rw [h, h₂], by decide, by rw [h₂]; rfl⟩
  · exact ⟨512, by rw [h, h₃], by decide, by rw [h₃]; rfl⟩

theorem rohAufrufe_rsaKeys {rsaKey : String} (h : rsaKey ∈ rsaKeys) (a : Nat → String → TestAufruf) :
    ∃ m, schluesselBits rsaKey = some (8 * m) ∧ a m rsaKey ∈ rohAufrufe rsaKey a := by
  simp only [rsaKeys, List.mem_cons, List.mem_singleton, List.not_mem_nil, or_false] at h
  rcases h with rfl | rfl | rfl
  · exact ⟨128, rfl, by simp [rohAufrufe]⟩
  · exact ⟨256, rfl, by simp [rohAufrufe]⟩
  · exact ⟨512, rfl, by simp [rohAufrufe]⟩

/-! ## 7. The suite keeps the bookkeeping -/

section Buchfuehrung

variable (e : Env)

theorem buchfuehrung_befehl (z : List String) : Haelt buchfuehrung (e.befehl z) := Haelt.call _ _

theorem buchfuehrung_folge_befehl (zs : List (List String)) :
    Haelt buchfuehrung (Sh.folge (zs.map e.befehl)) :=
  Haelt.folge fun _ h => by
    obtain ⟨z, -, rfl⟩ := List.mem_map.mp h
    exact buchfuehrung_befehl e z

theorem setzeOption_zaehler (v : Vars) (o x : String) :
    (setzeOption v o x).numTestsPassed = v.numTestsPassed ∧
      (setzeOption v o x).numTestsFailed = v.numTestsFailed := by
  unfold setzeOption
  split_ifs <;> exact ⟨rfl, rfl⟩

theorem buchfuehrung_optionenLesen (erlaubt : List String) :
    ∀ args, Haelt buchfuehrung (optionenLesen erlaubt args)
  | [] => Haelt.ret 0
  | [_] => .ite (.seq (.set fun v => setzeOption_zaehler v _ _) (.ret 1))
      (buchfuehrung_die (by decide))
  | _ :: _ :: rest => .ite (.seq (.set fun v => setzeOption_zaehler v _ _)
      (buchfuehrung_optionenLesen erlaubt rest)) (buchfuehrung_die (by decide))

theorem buchfuehrung_prepareTestEnv : Haelt buchfuehrung (prepareTestEnv e) :=
  .seq (.seqS (buchfuehrung_befehl e _) buchfuehrung_okOrDie) <|
    .seqS (buchfuehrung_befehl e _) fun _ => .ifThen (.test _)
      (.seq (.seqS (buchfuehrung_befehl e _) buchfuehrung_okOrDie)
        (.seqS (buchfuehrung_befehl e _) buchfuehrung_okOrDie))

theorem buchfuehrung_provisionKeyMit (packZeile : Vars → List String) (args : List String) :
    Haelt buchfuehrung (provisionKeyMit e packZeile args) :=
  .seq (.ifThen (.test _) (buchfuehrung_die (by decide))) <|
  .seq (buchfuehrung_optionenLesen _ _) <|
  .seq (.lies fun _ => .seqS (buchfuehrung_befehl e _) buchfuehrung_okOrDie) <|
  .seq (.lies fun _ => buchfuehrung_befehl e _) (.ret 0)

theorem buchfuehrung_cleanupKey (args : List String) : Haelt buchfuehrung (cleanupKey e args) :=
  .seq (.ifThen (.test _) (buchfuehrung_die (by decide))) <|
    .seq (buchfuehrung_optionenLesen _ _) (buchfuehrung_befehl e _)

theorem buchfuehrung_x509Tests : Haelt buchfuehrung (x509Tests e) := by
  have hx : ∀ label testname, Haelt buchfuehrung (testX509 e label testname) := fun _ _ =>
    .seq (.lies fun _ => buchfuehrung_provisionKeyMit e _ _) <|
      .seq (.seqS (buchfuehrung_befehl e _) (buchfuehrung_logTestResult _))
        (buchfuehrung_cleanupKey e _)
  have hi : Haelt buchfuehrung (testX509InvalidChain e) :=
    .seq (.lies fun _ => buchfuehrung_provisionKeyMit e _ _) <|
      .seq (.seqS (buchfuehrung_befehl e _) fun _ => .seqS (.test _) fun _ =>
        .ite (buchfuehrung_logTestResult _ _) (buchfuehrung_logTestResult _ _))
        (buchfuehrung_cleanupKey e _)
  refine Haelt.folge fun c h => ?_
  simp only [List.mem_cons, List.mem_singleton, List.not_mem_nil, or_false] at h
  rcases h with rfl | rfl | rfl | rfl | rfl
  · exact buchfuehrung_folge_befehl e _
  · exact hx _ _
  · exact hx _ _
  · exact hx _ _
  · exact hi

theorem buchfuehrung_lauf : ∀ a : TestAufruf, Haelt buchfuehrung (a.lauf e)
  | .digestsignverifyRsapss .. =>
    .ifThenElse (.and (.test _) (.test _)) (.ret 0) (buchfuehrung_testtemplateGenerateCheck e _)
  | .digestsignverifyRsa .. => buchfuehrung_testtemplateGenerateCheck e _
  | .signverifyRsaX509 .. => buchfuehrung_testtemplateGenerateCheck e _
  | .signverifyEcdsa .. => buchfuehrung_testtemplateGenerateCheck e _
  | .encryptdecryptRsa .. =>
    .ifThenElse (.and (.test _) (.test _)) (.ret 0) (buchfuehrung_testtemplateGenerateCheck e _)
  | .encryptdecryptRsaX509 .. => buchfuehrung_testtemplateGenerateCheck e _

/-- **`cmd_openssl` keeps the bookkeeping**: every verdict line it prints, over the whole run, is
    counted in the counter of its verdict, and every abort carries a non-zero code. -/
theorem buchfuehrung_cmdOpenssl (args : List String) : Haelt buchfuehrung (cmdOpenssl e args) :=
  .seq (buchfuehrung_optionenLesen _ _) <|
  .seq (buchfuehrung_prepareTestEnv e) <|
  .seq (.forIn (fun k => .seq (.lies fun _ => .seqS (buchfuehrung_provisionKeyMit e _ _)
      buchfuehrung_okOrDie) <|
    .seq (Sh.Gleich.buchfuehrung (rsaSignaturBlock_gleich e k)
      (.forIn (buchfuehrung_lauf e) _)) (buchfuehrung_cleanupKey e _)) _) <|
  .seq (.forIn (fun k => .seq (.lies fun _ => buchfuehrung_provisionKeyMit e _ _) <|
    .seq (.forIn (fun _ => buchfuehrung_lauf e (.signverifyEcdsa _ k)) _)
      (buchfuehrung_cleanupKey e _)) _) <|
  .seq (.forIn (fun k => .seq (.lies fun _ => buchfuehrung_provisionKeyMit e _ _) <|
    .seq (Sh.Gleich.buchfuehrung (rsaVerschluesselBlock_gleich e k)
      (.forIn (buchfuehrung_lauf e) _)) (buchfuehrung_cleanupKey e _)) _) <|
  .seq (.ifThen (buchfuehrung_befehl e _) (buchfuehrung_x509Tests e))
    (buchfuehrung_folge_befehl e _)

end Buchfuehrung

end NitroEnclavesAcm.Testtool
