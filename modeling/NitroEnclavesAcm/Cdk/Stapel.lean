import Mathlib.Data.Nat.Digits
import Mathlib.Tactic.IntervalCases
import Mathlib.Tactic.Ring
import NitroEnclavesAcm.Cdk.Konfig

/-
  File:      NitroEnclavesAcm/Cdk/Stapel.lean
  Subject:   The three CDK stacks (`lib/certificate-stack.ts`, `lib/role-stack.ts`, the
             `InstanceStack` of `lib/certificate-stack.ts`): the constructs each creates from its
             properties, as data.

  A certificate the app creates has no ARN until it is deployed: the app passes on its token
  `certificateArn`, which `Arn.zertifikat` stands for. **`CertificateStack` creates one
  certificate per entry, in order, each for the entry's domain** (`certificateStack_eq`,
  `domainName_zertifikateAb`): every branch of the loop body (Route53, DNS or e-mail validation,
  private CA) pushes exactly one ARN.

  **The role may read exactly the certificates associated with it** (`roleStack_rechte`): its
  policy grants `s3:GetObject` on the bucket and `kms:Decrypt` on the key of each association,
  `iam:GetRole` on itself, and nothing else; the associations' construct ids and the KMS
  statements' sids are pairwise distinct, as the numbers they end in are (`kennung_inj`).

  * `getUserData_eq` -- the user data is a head, one piece per certificate (its `acm.yaml`
    token and web-server stanza, both with the index `i + 1` and the certificate's own ARN and
    domain), and a tail.

  NOT here: the `CfnOutput`s of the certificate and role stacks, the VPC and security group
  lookups, the instance architecture CDK reads from the instance type, and the split of the user
  data into lines. Constructing a CDK construct is taken never to fail.
-/

namespace NitroEnclavesAcm.Cdk

/-! ## 1. Certificates and ARNs -/

/-- How a new certificate is issued. -/
inductive Ausstellung where
  /-- Public, validated in the Route53 zone `hostedZoneId`, looked up as the construct `zone`. -/
  | route53 (zone hostedZoneId : String)
  /-- Public, validated by DNS records. -/
  | dns
  /-- Public, validated by e-mail. -/
  | email
  /-- Private, issued by the CA `pcaArn`, looked up as the construct `ca`. -/
  | privat (ca : String) (pcaArn : Option String)
  deriving DecidableEq, Repr

/-- A certificate construct: its id (`certificateName`), its domain, how it is issued. -/
structure Zertifikat where
  id : Option String
  domainName : String
  ausstellung : Ausstellung
  deriving DecidableEq, Repr

/-- An ARN as the app passes it on: a string of the configuration, or the token `certificateArn`
    of a certificate the stack `stack` creates, which the deployment resolves. -/
inductive Arn where
  | text (s : String)
  | zertifikat (stack : String) (z : Zertifikat)
  deriving DecidableEq, Repr

/-- A certificate as `createCertificateStack` hands it to the other stacks: a `CertificateConfig`
    with only its ARN, domain and privacy set. -/
structure Eintrag where
  existingCertificateArn : Arn
  domainName : String
  isPrivate : Option Bool
  deriving DecidableEq, Repr

/-- What the stacks leave to the outside. -/
structure Umgebung where
  /-- The files `readFileSync` reads, by path. -/
  lesen : String → String
  /-- The text CDK writes into a string for the ARN token of a certificate of a stack. -/
  token : String → Zertifikat → String

/-- `cert.existingCertificateArn!` inside a string. -/
def Arn.alsText (u : Umgebung) : Arn → String
  | .text s => s
  | .zertifikat stack z => u.token stack z

/-! ## 2. `CertificateStack` -/

/-- The certificate the loop body of `CertificateStack` creates from `certConfig` at `index`. -/
def zertifikatAus (certConfig : CertificateConfig) (index : Nat) : Zertifikat :=
  if certConfig.isPrivate ≠ some true then
    if wahr certConfig.hostedZoneId then
      ⟨certConfig.certificateName, certConfig.domainName,
        .route53 ("HostedZone-" ++ toString index) (certConfig.hostedZoneId.getD "")⟩
    else
      ⟨certConfig.certificateName, certConfig.domainName,
        if certConfig.validationType = some "DNS" then .dns else .email⟩
  else
    ⟨certConfig.certificateName, certConfig.domainName,
      .privat ("CertificateAuthority-" ++ toString index) certConfig.pcaArn⟩

@[simp] theorem zertifikatAus_domainName (c : CertificateConfig) (index : Nat) :
    (zertifikatAus c index).domainName = c.domainName := by
  unfold zertifikatAus
  split_ifs <;> rfl

structure CertificateStack where
  id : String
  zertifikate : List Zertifikat
  certificateArns : List Arn
  deriving DecidableEq, Repr

/-- The certificate push of one loop turn. -/
def CertificateStack.push (st : CertificateStack) (z : Zertifikat) : CertificateStack :=
  { st with zertifikate := st.zertifikate ++ [z],
            certificateArns := st.certificateArns ++ [.zertifikat st.id z] }

/-- `props?.certificates.forEach((certConfig, index) => …)`, from position `index` on. -/
def certificateStackSchleife : Nat → List CertificateConfig → CertificateStack → CertificateStack
  | _, [], st => st
  | index, c :: cs, st => certificateStackSchleife (index + 1) cs (st.push (zertifikatAus c index))

/-- `new CertificateStack(app, id, { certificates })`. -/
def certificateStack (id : String) (certificates : List CertificateConfig) : CertificateStack :=
  certificateStackSchleife 0 certificates ⟨id, [], []⟩

/-- The certificates the loop creates from position `index` on. -/
def zertifikateAb : Nat → List CertificateConfig → List Zertifikat
  | _, [] => []
  | index, c :: cs => zertifikatAus c index :: zertifikateAb (index + 1) cs

theorem domainName_zertifikateAb (index : Nat) (cs : List CertificateConfig) :
    (zertifikateAb index cs).map (·.domainName) = cs.map (·.domainName) := by
  induction cs generalizing index with
  | nil => rfl
  | cons c cs ih => simp [zertifikateAb, ih]

@[simp] theorem length_zertifikateAb (index : Nat) (cs : List CertificateConfig) :
    (zertifikateAb index cs).length = cs.length := by
  simpa using congrArg List.length (domainName_zertifikateAb index cs)

theorem certificateStackSchleife_eq (index : Nat) (cs : List CertificateConfig)
    (st : CertificateStack) :
    certificateStackSchleife index cs st =
      { st with zertifikate := st.zertifikate ++ zertifikateAb index cs,
                certificateArns := st.certificateArns ++
                  (zertifikateAb index cs).map (.zertifikat st.id) } := by
  induction cs generalizing index st with
  | nil => simp [certificateStackSchleife, zertifikateAb]
  | cons c cs ih => simp [certificateStackSchleife, zertifikateAb, ih, CertificateStack.push]

/-- **One certificate per entry, in order**: the stack's certificates are those of
    `zertifikateAb`, and its ARNs their tokens. -/
theorem certificateStack_eq (id : String) (cs : List CertificateConfig) :
    certificateStack id cs =
      ⟨id, zertifikateAb 0 cs, (zertifikateAb 0 cs).map (.zertifikat id)⟩ := by
  simp [certificateStack, certificateStackSchleife_eq]

/-! ## 3. `RoleStack` -/

/-- What a policy statement of the role grants access to. -/
inductive Ressource where
  /-- `arn:aws:s3:::${association.attrCertificateS3BucketName}/*`. -/
  | s3Objekte (association : String)
  /-- `arn:aws:kms:${region}:*:key/${association.attrEncryptionKmsKeyId}`. -/
  | kmsSchluessel (region association : String)
  /-- `role.roleArn`. -/
  | rolle
  deriving DecidableEq, Repr

structure Policy where
  sid : Option String
  actions : List String
  resources : List Ressource
  deriving DecidableEq, Repr

structure RoleStack where
  id : String
  roleName : String
  /-- The `EnclaveCertificateIamRoleAssociation`s: construct id and certificate ARN. -/
  associations : List (String × Arn)
  policies : List Policy
  deriving DecidableEq, Repr

/-- `new RoleStack(app, id, { env, certificateArns, roleName })`: the role, one association per
    ARN, for each association the S3 and KMS statements, then `iam:GetRole`. -/
def roleStack (id region roleName : String) (certificateArns : List Arn) : RoleStack :=
  let associations := certificateArns.mapIdx fun index certArn =>
    ("EnclaveCertificateIamRoleAssociation-" ++ toString index, certArn)
  { id, roleName, associations
    policies := (associations.mapIdx fun index association =>
        [⟨none, ["s3:GetObject"], [.s3Objekte association.1]⟩,
         ⟨some ("VisualEditor" ++ toString index), ["kms:Decrypt"],
           [.kmsSchluessel region association.1]⟩]).flatten ++
      [⟨none, ["iam:GetRole"], [.rolle]⟩] }

/-- What the role's policy grants: each action of a statement on each of its resources. -/
def RoleStack.rechte (rs : RoleStack) : List (String × Ressource) :=
  rs.policies.flatMap fun p => p.actions.flatMap fun a => p.resources.map (a, ·)

/-- The number a list of decimal digits spells, most significant first. -/
def ziffernWert (ds : List Char) : Nat := ds.foldl (fun acc c => 10 * acc + (c.toNat - 48)) 0

theorem foldl_ziffern (ds : List Char) (a : Nat) :
    ds.foldl (fun acc c => 10 * acc + (c.toNat - 48)) a = a * 10 ^ ds.length + ziffernWert ds := by
  induction ds generalizing a with
  | nil => simp [ziffernWert]
  | cons c ds ih =>
    have hc : ziffernWert (c :: ds) = ds.foldl (fun acc c => 10 * acc + (c.toNat - 48))
        (10 * 0 + (c.toNat - 48)) := rfl
    rw [List.foldl_cons, ih, hc, ih, List.length_cons, pow_succ]
    ring

theorem digitChar_wert {d : Nat} (h : d < 10) : (Nat.digitChar d).toNat - 48 = d := by
  interval_cases d <;> rfl

/-- `Nat.toDigitsCore` puts the digits of `n` before `ds`, given fuel beyond `n`. -/
theorem ziffernWert_toDigitsCore : ∀ (f n : Nat) (ds : List Char), n < f →
    ziffernWert (Nat.toDigitsCore 10 f n ds) = n * 10 ^ ds.length + ziffernWert ds
  | 0, _, _, h => absurd h (Nat.not_lt_zero _)
  | f + 1, n, ds, h => by
    have hd : ziffernWert (Nat.digitChar (n % 10) :: ds) =
        n % 10 * 10 ^ ds.length + ziffernWert ds := by
      rw [ziffernWert, List.foldl_cons, foldl_ziffern, digitChar_wert (Nat.mod_lt _ (by norm_num))]
      simp
    rw [Nat.toDigitsCore]
    split_ifs with h0
    · rw [hd, Nat.mod_eq_of_lt (by omega)]
    · rw [ziffernWert_toDigitsCore f (n / 10) _ (by omega), hd, List.length_cons, pow_succ]
      conv_rhs => rw [← Nat.div_add_mod n 10]
      ring

theorem ziffernWert_toDigits (n : Nat) : ziffernWert (Nat.toDigits 10 n) = n := by
  simpa [ziffernWert] using ziffernWert_toDigitsCore (n + 1) n [] (Nat.lt_succ_self n)

/-- **Ids ending in different numbers differ**: `toString` on `Nat` is injective. -/
theorem kennung_inj (pre : String) {i j : Nat} (h : pre ++ toString i = pre ++ toString j) :
    i = j := by
  have hd : Nat.toDigits 10 i = Nat.toDigits 10 j := List.append_cancel_left (congrArg String.data h)
  rw [← ziffernWert_toDigits i, hd, ziffernWert_toDigits]

section MapIdx

variable {α β γ : Type}

theorem map_mapIdx (f : Nat → α → β) (h : β → γ) (l : List α) :
    (l.mapIdx f).map h = l.mapIdx fun i a => h (f i a) :=
  (List.mapIdx_eq_iff.mpr fun i => by simp [Function.comp_def]).symm

theorem nodup_mapIdx {f : Nat → α → β} (hf : ∀ i j a b, f i a = f j b → i = j) :
    ∀ l : List α, (l.mapIdx f).Nodup
  | [] => List.nodup_nil
  | a :: l => by
    rw [List.mapIdx_cons, List.nodup_cons]
    refine ⟨fun hm => ?_, nodup_mapIdx (fun i j a b he => Nat.succ.inj (hf _ _ _ _ he)) l⟩
    obtain ⟨i, _, he⟩ := List.mem_mapIdx.mp hm
    exact Nat.succ_ne_zero i (hf _ _ _ _ he)

theorem filterMap_flatten_mapIdx (g : Nat → α → γ) {f : Nat → α → List β} {p : β → Option γ}
    (hf : ∀ i a, (f i a).filterMap p = [g i a]) :
    ∀ l : List α, ((l.mapIdx f).flatten).filterMap p = l.mapIdx g
  | [] => rfl
  | a :: l => by
    rw [List.mapIdx_cons, List.flatten_cons, List.filterMap_append, hf, List.mapIdx_cons,
      filterMap_flatten_mapIdx (fun i => g (i + 1)) (fun i a => hf (i + 1) a) l]
    rfl

theorem flatMap_flatten_mapIdx (H : α → List γ) {f : Nat → α → List β} {G : β → List γ}
    (hf : ∀ i a, (f i a).flatMap G = H a) :
    ∀ l : List α, ((l.mapIdx f).flatten).flatMap G = l.flatMap H
  | [] => rfl
  | a :: l => by
    rw [List.mapIdx_cons, List.flatten_cons, List.flatMap_append, hf,
      flatMap_flatten_mapIdx H (fun i a => hf (i + 1) a) l]
    rfl

end MapIdx

theorem associations_nodup (id region roleName : String) (certificateArns : List Arn) :
    ((roleStack id region roleName certificateArns).associations.map (·.1)).Nodup := by
  simp only [roleStack, map_mapIdx]
  exact nodup_mapIdx (fun _ _ _ _ h => kennung_inj _ h) _

/-- The S3 and KMS statements of each association, then `iam:GetRole`. -/
theorem rechte_roleStack (id region roleName : String) (certificateArns : List Arn) :
    (roleStack id region roleName certificateArns).rechte =
      ((roleStack id region roleName certificateArns).associations.flatMap fun a =>
        [("s3:GetObject", .s3Objekte a.1), ("kms:Decrypt", .kmsSchluessel region a.1)]) ++
        [("iam:GetRole", .rolle)] := by
  simp only [RoleStack.rechte, roleStack]
  rw [List.flatMap_append, flatMap_flatten_mapIdx fun a =>
    [("s3:GetObject", .s3Objekte a.1), ("kms:Decrypt", .kmsSchluessel region a.1)]]
  case hf => exact fun _ _ => rfl
  rfl

/-- **The role may read exactly the certificates associated with it**: for every list of ARNs,
    the associations have pairwise distinct construct ids and the KMS statements pairwise
    distinct sids, and the role is granted `s3:GetObject` on the bucket and `kms:Decrypt` on the
    key of each association, in order, then `iam:GetRole` on itself, and nothing else. -/
theorem roleStack_rechte (id region roleName : String) (certificateArns : List Arn) :
    ((roleStack id region roleName certificateArns).associations.map (·.1)).Nodup ∧
    ((roleStack id region roleName certificateArns).policies.filterMap (·.sid)).Nodup ∧
    (roleStack id region roleName certificateArns).rechte =
      ((roleStack id region roleName certificateArns).associations.flatMap fun a =>
        [("s3:GetObject", .s3Objekte a.1), ("kms:Decrypt", .kmsSchluessel region a.1)]) ++
        [("iam:GetRole", .rolle)] := by
  refine ⟨associations_nodup id region roleName certificateArns, ?_,
    rechte_roleStack id region roleName certificateArns⟩
  simp only [roleStack]
  rw [List.filterMap_append, filterMap_flatten_mapIdx fun i _ => "VisualEditor" ++ toString i]
  case hf => exact fun _ _ => rfl
  simpa using nodup_mapIdx (fun _ _ _ _ h => kennung_inj _ h) _

/-! ## 4. `InstanceStack` -/

structure InstanceProps where
  instanceName : String
  /-- The role stack whose instance profile the instance gets. -/
  instanceProfile : String
  keyPairName : String
  serverType : String
  amiType : String
  instanceType : String
  certificates : List Eintrag
  encryptVolume : Bool
  allowSSHPort : Bool

structure InstanceStack where
  id : String
  props : InstanceProps
  ingressPorts : List Nat
  amazonLinux2 : Bool
  userData : String
  certificateOutputs : List (String × String)

section UserData

variable (u : Umgebung)

/-- `src/assets/user-data-scripts`. -/
def baseFolder : String := "src/assets/user-data-scripts"

/-- The folder of the scripts for an AMI and a web server. -/
def userDataOrdner (amiType serverType : String) : String :=
  baseFolder ++ "/" ++ amiType ++ "/" ++ serverType

/-- The piece of the user data for the certificate `cert` at `index`: its `acm.yaml` token, its
    web-server stanza, and for a private certificate its `/etc/hosts` line. -/
def stueck (folder : String) (index : Nat) (cert : Eintrag) : String :=
  (((u.lesen (folder ++ "/acm/label.sh")).replace "CERTIFICATE_ARN_PLACEHOLDER"
      (cert.existingCertificateArn.alsText u)).replace "INDEX_PLACEHOLDER" (toString (index + 1))) ++
  (((u.lesen (folder ++ "/conf/stanza.sh")).replace "DOMAIN_NAME_PLACEHOLDER"
      cert.domainName).replace "INDEX_PLACEHOLDER" (toString (index + 1))) ++
  if cert.isPrivate = some true then
    (u.lesen (baseFolder ++ "/private-cert-conf.sh")).replace "DOMAIN_NAME_PLACEHOLDER"
      cert.domainName
  else ""

/-- `props.certificates.forEach((cert, index) => { combinedConfig += … })`, from `index` on. -/
def stueckeSchleife (folder : String) : Nat → List Eintrag → String → String
  | _, [], acc => acc
  | index, cert :: certs, acc =>
    stueckeSchleife folder (index + 1) certs (acc ++ stueck u folder index cert)

/-- The dependencies, the `acm.yaml` base and the web-server configuration for all domains. -/
def userDataKopf (folder : String) (certificates : List Eintrag) : String :=
  u.lesen (folder ++ "/install-dependencies.sh") ++ u.lesen (folder ++ "/acm/base.sh") ++
    (u.lesen (folder ++ "/conf/base.sh")).replace "DOMAIN_NAME_PLACEHOLDER"
      (" ".intercalate (certificates.map (·.domainName)))

/-- The OpenSSL configuration and the start of the ACM service. -/
def userDataFuss (folder : String) : String :=
  u.lesen (folder ++ "/openssl-conf.sh") ++ u.lesen (baseFolder ++ "/start-acm-service.sh")

/-- `getUserData(props)`: the commands the instance runs at its first start. -/
def getUserData (amiType serverType : String) (certificates : List Eintrag) : String :=
  stueckeSchleife u (userDataOrdner amiType serverType) 0 certificates
      (userDataKopf u (userDataOrdner amiType serverType) certificates) ++
    userDataFuss u (userDataOrdner amiType serverType)

theorem stueckeSchleife_eq (folder : String) (index : Nat) (certs : List Eintrag) (acc : String) :
    stueckeSchleife u folder index certs acc =
      (certs.mapIdx fun i cert => stueck u folder (index + i) cert).foldl (· ++ ·) acc := by
  induction certs generalizing index acc with
  | nil => rfl
  | cons cert certs ih =>
    rw [stueckeSchleife, ih, List.mapIdx_cons, List.foldl_cons, Nat.add_zero]
    congr 2
    funext i c
    rw [Nat.add_assoc, Nat.add_comm 1 i]

/-- **The user data, piece by piece**: after the head, the `i`th piece is that of the `i`th
    certificate, with the index `i + 1`. -/
theorem getUserData_eq (amiType serverType : String) (certificates : List Eintrag) :
    getUserData u amiType serverType certificates =
      (certificates.mapIdx (stueck u (userDataOrdner amiType serverType))).foldl
        (· ++ ·) (userDataKopf u (userDataOrdner amiType serverType) certificates) ++
        userDataFuss u (userDataOrdner amiType serverType) := by
  simp only [getUserData, stueckeSchleife_eq, Nat.zero_add]

end UserData

/-- `new InstanceStack(app, id, props)`. -/
def instanceStack (u : Umgebung) (id : String) (props : InstanceProps) : InstanceStack where
  id := id
  props := props
  ingressPorts := [80, 443] ++ if props.allowSSHPort then [22] else []
  amazonLinux2 := props.amiType = "AL2"
  userData := getUserData u props.amiType props.serverType props.certificates
  certificateOutputs := props.certificates.mapIdx fun index cert =>
    ("Certificate-" ++ toString index, "Domain: " ++ cert.domainName ++ ", Private: " ++
      boolText cert.isPrivate)

end NitroEnclavesAcm.Cdk
