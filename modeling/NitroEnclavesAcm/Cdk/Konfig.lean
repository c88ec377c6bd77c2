import Mathlib.Data.List.Dedup

/-
  File:      NitroEnclavesAcm/Cdk/Konfig.lean
  Subject:   The configuration of the CDK app (`config/types.ts`), the values JavaScript reads it
             with, its default (`config/default-config.ts`), and `ConfigValidator`.

  A configuration is plain data; what may be left out in TypeScript (`certificateName?`, …) is an
  `Option`. The checks read fields the way JavaScript does: `if (x)` is true of a set, non-empty
  string (`wahr`), `a || b` falls back on `b` when `a` is not (`oder`).

  * `validateCertificateStack_doppelt` -- the certificate check throws its duplicate error
    exactly when, outside a destroy, two entries share a domain name: `new Set(names).size` is
    `names.dedup.length`, which equals `names.length` exactly when the names are distinct
    (`length_dedup_eq_iff_nodup`).
-/

namespace NitroEnclavesAcm.Cdk

/-! ## 1. JavaScript values -/

/-- `if (x)` on an optional string: it is set and not empty. -/
def wahr : Option String → Bool
  | some s => !s.isEmpty
  | none => false

/-- `x || fallback` on an optional string. -/
def oder (x : Option String) (fallback : String) : String :=
  if wahr x then x.getD "" else fallback

/-- A fallback that is not empty makes `x || fallback` not empty. -/
theorem isEmpty_oder (x : Option String) {fallback : String} (h : fallback.isEmpty = false) :
    (oder x fallback).isEmpty = false := by
  cases x with
  | none => exact h
  | some s => by_cases hs : s.isEmpty <;> simp [oder, wahr, hs, h]

/-- `${x}` of an optional boolean in a template literal. -/
def boolText : Option Bool → String
  | some true => "true"
  | some false => "false"
  | none => "undefined"

/-! ## 2. The configuration -/

/-- `CertificateConfig`: one certificate, to create or, with `existingCertificateArn`, to use. -/
structure CertificateConfig where
  certificateName : Option String
  domainName : String
  isPrivate : Option Bool
  hostedZoneId : Option String
  validationType : Option String
  pcaArn : Option String
  existingCertificateArn : Option String
  deriving DecidableEq, Repr

structure CertificateStackConfig where
  stackName : String
  certificates : List CertificateConfig
  deriving DecidableEq, Repr

structure RoleConfig where
  stackName : String
  roleName : Option String
  deriving DecidableEq, Repr

structure InstanceConfig where
  stackName : String
  instanceName : Option String
  keyPairName : String
  serverType : String
  amiType : String
  instanceType : String
  encryptVolume : Bool
  allowSSHPort : Bool
  deriving DecidableEq, Repr

/-- `NitroEnclavesAcmStreamlineConfig`. -/
structure NitroEnclavesAcmStreamlineConfig where
  certificateConfig : CertificateStackConfig
  roleConfig : Option RoleConfig
  instanceConfig : InstanceConfig
  region : String
  account : String
  deriving DecidableEq, Repr

/-- The certificates the app creates: the entries without a (truthy) `existingCertificateArn`,
    in their order (`certificatesToCreate`). -/
def zuErstellen (cs : List CertificateConfig) : List CertificateConfig :=
  cs.filter fun c => !wahr c.existingCertificateArn

/-- The entries that name an existing certificate, in their order. -/
def vorhandene (cs : List CertificateConfig) : List CertificateConfig :=
  cs.filter fun c => wahr c.existingCertificateArn

/-! ## 3. `ConfigValidator` -/

/-- The checks `validateCertificateStack` makes of one entry, each throwing its message. -/
def pruefeZertifikat (c : CertificateConfig) : Except String Unit :=
  if wahr c.existingCertificateArn then pure ()
  else if c.domainName.isEmpty then throw "domainName is required in CertificateStack."
  else match c.isPrivate with
    | none => throw "isPrivate is required in CertificateStack."
    | some true =>
      if !wahr c.pcaArn then
        throw "pcaArn is required for private certificates in CertificateStack."
      else if wahr c.validationType then
        throw "validationType should not be specified for private certificates in CertificateStack."
      else if wahr c.hostedZoneId then
        throw "hostedZoneId should not be specified for private certificates in CertificateStack."
      else pure ()
    | some false =>
      if wahr c.pcaArn then
        throw "pcaArn should not be specified for public certificates in CertificateStack."
      else if wahr c.hostedZoneId && wahr c.validationType then
        throw ("validationType should not be specified when Route53 is the DNS provider " ++
          "(hostedZoneId is present) in CertificateStack.")
      else if !wahr c.hostedZoneId && !wahr c.validationType then
        throw ("Either hostedZoneId or validationType must be specified for public certificates " ++
          "in CertificateStack.")
      else if wahr c.validationType && !(c.validationType.getD "" ∈ ["DNS", "EMAIL"]) then
        throw "validationType must be either \"DNS\" or \"EMAIL\" in CertificateStack."
      else pure ()

/-- The error of two entries with one domain name. -/
def doppeltFehler : String := "Duplicate domain names are not allowed in CertificateStack."

/-- `ConfigValidator.validateCertificateStack`: outside a destroy, the domain names of ALL entries
    must be distinct (`new Set(domainNames).size`), then every entry passes its checks. -/
def validateCertificateStack (config : NitroEnclavesAcmStreamlineConfig)
    (isDestroySubcommand : Bool) : Except String Unit :=
  if isDestroySubcommand then pure ()
  else
    let domainNames := config.certificateConfig.certificates.map (·.domainName)
    if domainNames.length ≠ domainNames.dedup.length then throw doppeltFehler
    else config.certificateConfig.certificates.forM pruefeZertifikat

/-- `ConfigValidator.validateRoleStack`: nothing yet. -/
def validateRoleStack (_config : NitroEnclavesAcmStreamlineConfig) (_isDestroySubcommand : Bool) :
    Except String Unit := pure ()

/-- `ConfigValidator.validateInstanceStack`. -/
def validateInstanceStack (config : NitroEnclavesAcmStreamlineConfig)
    (isDestroySubcommand : Bool) : Except String Unit :=
  if isDestroySubcommand then pure ()
  else if config.instanceConfig.serverType ∉ ["NGINX", "APACHE"] then
    throw "Invalid server type. Must be NGINX or APACHE."
  else if config.instanceConfig.amiType ∉ ["AL2", "AL2023"] then
    throw "Invalid AMI type. Must be AL2 or AL2023."
  else if config.instanceConfig.keyPairName.isEmpty then
    throw "EC2 keyPairName is required in InstanceStack."
  else if config.instanceConfig.instanceType.isEmpty then
    throw "instanceType is required in InstanceStack."
  else pure ()

/-- `ConfigValidator.validateEnv`. -/
def validateEnv (config : NitroEnclavesAcmStreamlineConfig) (_isDestroySubcommand : Bool) :
    Except String Unit :=
  if config.region.isEmpty then throw "AWS region must be specified."
  else if config.account.isEmpty then throw "AWS account must be specified."
  else pure ()

/-- The messages of the checks of one entry. -/
def zertifikatFehler : List String :=
  ["domainName is required in CertificateStack.",
   "isPrivate is required in CertificateStack.",
   "pcaArn is required for private certificates in CertificateStack.",
   "validationType should not be specified for private certificates in CertificateStack.",
   "hostedZoneId should not be specified for private certificates in CertificateStack.",
   "pcaArn should not be specified for public certificates in CertificateStack.",
   "validationType should not be specified when Route53 is the DNS provider " ++
     "(hostedZoneId is present) in CertificateStack.",
   "Either hostedZoneId or validationType must be specified for public certificates " ++
     "in CertificateStack.",
   "validationType must be either \"DNS\" or \"EMAIL\" in CertificateStack."]

theorem pruefeZertifikat_fehler {c : CertificateConfig} {m : String}
    (h : pruefeZertifikat c = .error m) : m ∈ zertifikatFehler := by
  unfold pruefeZertifikat at h
  repeat' split at h
  all_goals cases h
  all_goals decide

/-- A check run over a list fails only with the message of an entry it fails on. -/
theorem forM_fehler {α : Type} (f : α → Except String Unit) (m : String) :
    ∀ cs : List α, cs.forM f = .error m → ∃ c ∈ cs, f c = .error m
  | [], h => by cases h
  | c :: cs, h => by
    simp only [List.forM] at h
    cases hc : f c with
    | error e =>
      rw [hc] at h
      cases h
      exact ⟨c, List.mem_cons_self _ _, hc⟩
    | ok _ =>
      rw [hc] at h
      obtain ⟨c', hc', h'⟩ := forM_fehler f m cs h
      exact ⟨c', List.mem_cons_of_mem _ hc', h'⟩

theorem length_dedup_eq_iff_nodup {α : Type} [DecidableEq α] (l : List α) :
    l.length = l.dedup.length ↔ l.Nodup :=
  ⟨fun h => (List.dedup_sublist l).eq_of_length h.symm ▸ List.nodup_dedup l,
    fun h => by rw [h.dedup]⟩

/-- **The duplicate check**: `validateCertificateStack` throws `doppeltFehler` exactly when it is
    not a destroy and two entries share a domain name. -/
theorem validateCertificateStack_doppelt (config : NitroEnclavesAcmStreamlineConfig)
    (isDestroySubcommand : Bool) :
    validateCertificateStack config isDestroySubcommand = .error doppeltFehler ↔
      isDestroySubcommand = false ∧
        ¬(config.certificateConfig.certificates.map (·.domainName)).Nodup := by
  unfold validateCertificateStack
  cases isDestroySubcommand with
  | true => exact ⟨fun h => (nomatch h), fun h => (nomatch h.1)⟩
  | false =>
    simp only [Bool.false_eq_true, if_false, true_and, ← length_dedup_eq_iff_nodup]
    split_ifs with h
    · exact ⟨fun _ => h, fun _ => rfl⟩
    · refine ⟨fun e => ?_, fun h' => (h' (not_not.mp h)).elim⟩
      obtain ⟨c, -, hc⟩ := forM_fehler _ _ _ e
      exact absurd (pruefeZertifikat_fehler hc) (by decide)

/-! ## 4. The default configuration -/

/-- `getDefaultConfig()`, reading the environment variables `env`: two private certificates from
    one private CA, an NGINX instance on Amazon Linux 2023. -/
def getDefaultConfig (env : String → Option String) : NitroEnclavesAcmStreamlineConfig where
  certificateConfig :=
    { stackName := "CertificateStack"
      certificates :=
        [ { certificateName := some "AcmneCertificate1"
            domainName := oder (env "DOMAIN_NAME_1") "example1.com"
            isPrivate := some true
            hostedZoneId := none
            validationType := none
            pcaArn := some (oder (env "PCA_ARN")
              "arn:aws:acm-pca:us-east-1:123456789:certificate-authority/xxx-yyyy")
            existingCertificateArn := none },
          { certificateName := some "AcmneCertificate2"
            domainName := oder (env "DOMAIN_NAME_2") "example2.com"
            isPrivate := some true
            hostedZoneId := none
            validationType := none
            pcaArn := some (oder (env "PCA_ARN")
              "arn:aws:acm-pca:us-east-1:123456789:certificate-authority/xxx-yyyy")
            existingCertificateArn := none } ] }
  roleConfig := some { stackName := "RoleStack", roleName := some "AcmneRole" }
  instanceConfig :=
    { stackName := "InstanceStack"
      instanceName := some "AcmneInstance"
      keyPairName := oder (env "KEY_PAIR_NAME") "my-key-pair-name"
      serverType := "NGINX"
      amiType := "AL2023"
      instanceType := "c5.xlarge"
      encryptVolume := false
      allowSSHPort := false }
  region := oder (env "AWS_REGION") "us-east-1"
  account := oder (env "AWS_ACCOUNT") "123456789"

end NitroEnclavesAcm.Cdk
