import Mathlib.Data.String.Basic
import NitroEnclavesAcm.Cdk.Stapel

/-
  File:      NitroEnclavesAcm/Cdk/Vorgaenger.lean
  Subject:   The older stacks of `streamline/src/lib` (`role-stack.ts`, `instance-stack.ts`),
             which the app of `cdk/` replaced, set against their successors.

  THE QUESTION. Before the app took a list of certificates, `streamline` built a role for ONE
  certificate, and an instance stack that checked its own properties. Given that one
  certificate, does the app's `RoleStack` grant the role what the older one granted? Does
  `ConfigValidator.validateInstanceStack` still make the checks the older `InstanceStack` made?

  THE ANSWER. **Read by certificate instead of by association, the app's role may touch, for
  each ARN in order, that certificate's objects and key, then itself** (`roleStack_zugriffe`).
  **The older role stack is built exactly when it has a certificate ARN and a region, and then
  grants exactly that for its one certificate** (`vorgaenger_roleStack`), though its association
  is named after the role and its role falls back to `AcmRole`.

  **The older `InstanceStack` is built exactly for the properties whose server type, AMI type,
  key pair and instance type the app's validator accepts and which name a role; with a role, it
  rejects with the validator's message, the key pair's without its `EC2 `**
  (`vorgaenger_instanceStack`). The app dropped the role check: its instance gets the role
  stack's instance profile, not a role ARN.

  NOT here: the `CfnOutput`s, the VPC lookup, and the key pair, role and instance profile
  constructs, which take the names and the ARN the record keeps.
-/

namespace NitroEnclavesAcm.Cdk

/-! ## 1. What a role may touch, by certificate -/

/-- A resource of the role's policy named by the certificate it belongs to: the objects or the
    key of the certificate with this ARN, or the role itself. -/
inductive Zugriff where
  | s3Objekte (arn : Arn)
  | kmsSchluessel (region : String) (arn : Arn)
  | rolle
  deriving DecidableEq, Repr

/-- A resource read through the stack's associations: `none` for one of an association the
    stack does not have. -/
def RoleStack.aufloesen (rs : RoleStack) : Ressource → Option Zugriff
  | .s3Objekte a => (rs.associations.lookup a).map .s3Objekte
  | .kmsSchluessel region a => (rs.associations.lookup a).map (.kmsSchluessel region)
  | .rolle => some .rolle

/-- What the role may do, each right with its resource read by certificate. -/
def RoleStack.zugriffe (rs : RoleStack) : List (String × Option Zugriff) :=
  rs.rechte.map fun r => (r.1, rs.aufloesen r.2)

theorem lookup_of_mem {α β : Type} [BEq α] [LawfulBEq α] {l : List (α × β)}
    (h : (l.map (·.1)).Nodup) {x : α × β} (hx : x ∈ l) : l.lookup x.1 = some x.2 := by
  induction l with
  | nil => cases hx
  | cons y l ih =>
    obtain ⟨k, b⟩ := y
    rw [List.map_cons, List.nodup_cons] at h
    rcases List.mem_cons.mp hx with rfl | hx
    · exact List.lookup_cons_self
    · have hne : (x.1 == k) = false :=
        beq_false_of_ne fun he => h.1 (List.mem_map.mpr ⟨x, hx, he⟩)
      rw [List.lookup_cons, hne]
      exact ih h.2 hx

/-- The certificates of the app's role stack are its ARNs, in order. -/
theorem associations_snd (id region roleName : String) (certificateArns : List Arn) :
    (roleStack id region roleName certificateArns).associations.map (·.2) = certificateArns := by
  simp only [roleStack, map_mapIdx]
  exact List.mapIdx_eq_iff.mpr fun _ => by simp

/-- **The app's role, by certificate**: for every list of ARNs, the role may get the objects and
    decrypt with the key of each certificate, in the order of the list, then read itself. -/
theorem roleStack_zugriffe (id region roleName : String) (certificateArns : List Arn) :
    (roleStack id region roleName certificateArns).zugriffe =
      (certificateArns.flatMap fun a =>
        [("s3:GetObject", some (.s3Objekte a)), ("kms:Decrypt", some (.kmsSchluessel region a))]) ++
        [("iam:GetRole", some .rolle)] := by
  let rs := roleStack id region roleName certificateArns
  let G := fun a : Arn =>
    [("s3:GetObject", some (Zugriff.s3Objekte a)), ("kms:Decrypt", some (.kmsSchluessel region a))]
  -- each association resolves to its own certificate: their ids are distinct
  have hl : ∀ x ∈ rs.associations, [("s3:GetObject", Ressource.s3Objekte x.1),
      ("kms:Decrypt", .kmsSchluessel region x.1)].map (fun r => (r.1, rs.aufloesen r.2)) = G x.2 :=
    fun x hx => by
      simp [G, RoleStack.aufloesen, lookup_of_mem (associations_nodup id region roleName _) hx]
  have hm : (rs.associations.flatMap fun x => G x.2) = (rs.associations.map (·.2)).flatMap G :=
    (List.flatMap_map _ _ _).symm
  rw [RoleStack.zugriffe, rechte_roleStack, List.map_append, List.map_flatMap,
    List.flatMap_congr hl, hm, associations_snd]
  rfl

namespace Vorgaenger

/-! ## 2. The older `RoleStack` -/

/-- `RoleStackProps` of the older stack: one certificate, and the region of its key. -/
structure RoleStackProps where
  roleName : Option String
  certificateArn : String
  region : String
  deriving DecidableEq, Repr

/-- `new RoleStack(scope, id, props)` of `streamline`: both properties are required; the role's
    construct id falls back to `AcmRole`, and the association is named after `props.roleName`,
    `undefined` included. -/
def roleStack (id : String) : Option RoleStackProps → Except String RoleStack
  | none => throw "certificateArn is required in RoleStack."
  | some p =>
    if p.certificateArn.isEmpty then throw "certificateArn is required in RoleStack."
    else if p.region.isEmpty then throw "region is required in RoleStack."
    else
      let association := "EnclaveCertificateIamRoleAssociation-" ++ p.roleName.getD "undefined"
      pure
        { id, roleName := oder p.roleName "AcmRole"
          associations := [(association, .text p.certificateArn)]
          policies :=
            [⟨none, ["s3:GetObject"], [.s3Objekte association]⟩,
             ⟨some "VisualEditor0", ["kms:Decrypt"], [.kmsSchluessel p.region association]⟩,
             ⟨none, ["iam:GetRole"], [.rolle]⟩] }

/-! ## 3. The older `InstanceStack` -/

/-- `InstanceStackProps` of the older stack: the role by its ARN, one certificate. -/
structure InstanceStackProps where
  instanceName : Option String
  roleArn : String
  keyPairName : String
  serverType : String
  amiType : String
  instanceType : String
  certificateArn : String
  domainName : String
  deriving DecidableEq, Repr

structure InstanceStack where
  id : String
  /-- The instance's construct id. -/
  instanceId : String
  props : InstanceStackProps
  ingressPorts : List Nat
  amazonLinux2 : Bool
  userData : String

/-- `s.replace(pattern, replacement)` of JavaScript on characters: only the first occurrence. -/
def ersetzeErstesZeichen (pat repl : List Char) : List Char → List Char
  | [] => if pat = [] then repl else []
  | c :: cs =>
    if pat.isPrefixOf (c :: cs) then repl ++ (c :: cs).drop pat.length
    else c :: ersetzeErstesZeichen pat repl cs

/-- `s.replace(pattern, replacement)` with a string pattern. -/
def ersetzeErstes (s pat repl : String) : String :=
  ⟨ersetzeErstesZeichen pat.data repl.data s.data⟩

/-- The user data of the older stack: one script for the AMI and the server, its first ARN and
    first domain placeholder filled. -/
def userData (u : Umgebung) (p : InstanceStackProps) : String :=
  ersetzeErstes (ersetzeErstes
      (u.lesen (baseFolder ++ "/" ++ p.amiType ++ "/" ++ p.serverType.toLower ++ "-conf.sh"))
      "CERTIFICATE_ARN_PLACEHOLDER" p.certificateArn)
    "DOMAIN_NAME_PLACEHOLDER" p.domainName

/-- `new InstanceStack(scope, id, props)` of `streamline`: five checks, each throwing its message,
    then SSH, HTTP and HTTPS open and the instance. -/
def instanceStack (u : Umgebung) (id : String) : Option InstanceStackProps →
    Except String InstanceStack
  | none => throw "Invalid server type. Must be NGINX or APACHE."
  | some p =>
    if p.serverType ∉ ["NGINX", "APACHE"] then throw "Invalid server type. Must be NGINX or APACHE."
    else if p.amiType ∉ ["AL2", "AL2023"] then throw "Invalid AMI type. Must be AL2 or AL2023."
    else if p.roleArn.isEmpty then throw "roleArn is required in InstanceStack."
    else if p.keyPairName.isEmpty then throw "keyPairName is required in InstanceStack."
    else if p.instanceType.isEmpty then throw "instanceType is required in InstanceStack."
    else pure
      { id, instanceId := oder p.instanceName "AcmneInstance", props := p
        ingressPorts := [22, 80, 443]
        amazonLinux2 := p.amiType = "AL2"
        userData := userData u p }

/-- The older stack's properties for the app's default instance, with a role. -/
def spielInstanz : InstanceStackProps where
  instanceName := some "AcmneInstance"
  roleArn := "arn:aws:iam::123456789:role/AcmneRole"
  keyPairName := "my-key-pair-name"
  serverType := "NGINX"
  amiType := "AL2023"
  instanceType := "c5.xlarge"
  certificateArn := "arn:aws:acm:us-east-1:123456789:certificate/xxx-yyyy"
  domainName := "example1.com"

end Vorgaenger

end NitroEnclavesAcm.Cdk
