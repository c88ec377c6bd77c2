import NitroEnclavesAcm.Cdk.Stapel

/-
  File:      NitroEnclavesAcm/Cdk/Namen.lean
  Subject:   The construct ids of `CertificateStack` (`lib/certificate-stack.ts`), against the
             checks of `ConfigValidator.validateCertificateStack`.

  THE QUESTION. One turn of the loop of `CertificateStack` creates up to four constructs in the
  stack: the Route53 zone `HostedZone-${index}` or the CA `CertificateAuthority-${index}` it
  looks up, the certificate, whose id is the entry's `certificateName`, and the outputs
  `CertificateArn-${index}` and `DomainName-${index}`. The children of one scope need pairwise
  distinct ids. When are they, and does the validator see to it?

  THE ANSWER. **The stack's construct ids are pairwise distinct exactly when the entries'
  `certificateName`s are, and none of them is an id the loop makes itself**
  (`konstruktIds_nodup_iff`); the ids the loop makes never collide, as their prefixes differ and
  the numbers they end in do (`kennung_eq`). The validator does not check this: **it never reads
  `certificateName`** (`validateCertificateStack_mitNamen`), so **every configuration with two
  certificates to create has a renaming the validator judges alike whose stack has two
  constructs of one id** (`validateCertificateStack_namensgleich`).

  * `Ausstellung.nachschlag` -- the construct a certificate's issuance looks up
  * `konstruktIds` -- the ids of the constructs of the loop turns, in the order they are created
  * `erzeugt` -- the ids among them the loop makes from its index
  * `konstruktIds_perm` -- the ids are the names and the ids the loop makes, reordered
  * `erzeugt_nodup` -- the ids the loop makes are pairwise distinct
  * `NitroEnclavesAcmStreamlineConfig.mitNamen` -- a configuration with its entries renamed

  NOT here: what CDK does with an id that is `undefined`, which the model keeps as `none`.
-/

namespace NitroEnclavesAcm.Cdk

/-! ## 1. The ids of one loop turn -/

/-- The ids of the constructs a certificate's issuance looks up: its Route53 zone or its CA. -/
def Ausstellung.nachschlag : Ausstellung → List String
  | .route53 zone _ => [zone]
  | .privat ca _ => [ca]
  | .dns | .email => []

/-- The ids of the two `CfnOutput`s of loop turn `index`. -/
def ausgaben (index : Nat) : List String :=
  ["CertificateArn-" ++ toString index, "DomainName-" ++ toString index]

/-- The ids of the constructs the loop turns from `index` on create, in order: per turn the zone
    or CA it looks up, the certificate, and the two outputs. -/
def konstruktIds : Nat → List Zertifikat → List (Option String)
  | _, [] => []
  | index, z :: zs =>
    z.ausstellung.nachschlag.map some ++ z.id :: (ausgaben index).map some ++
      konstruktIds (index + 1) zs

/-- The ids among them the loop makes from its index: all but the certificates'. -/
def erzeugt : Nat → List Zertifikat → List String
  | _, [] => []
  | index, z :: zs => z.ausstellung.nachschlag ++ ausgaben index ++ erzeugt (index + 1) zs

@[simp] theorem zertifikatAus_id (c : CertificateConfig) (index : Nat) :
    (zertifikatAus c index).id = c.certificateName := by
  unfold zertifikatAus
  split_ifs <;> rfl

theorem id_zertifikateAb (index : Nat) (cs : List CertificateConfig) :
    (zertifikateAb index cs).map (·.id) = cs.map (·.certificateName) := by
  induction cs generalizing index with
  | nil => rfl
  | cons c cs ih => simp [zertifikateAb, ih]

/-- The construct ids are the certificates' ids and the ids the loop makes, reordered. -/
theorem konstruktIds_perm (index : Nat) (zs : List Zertifikat) :
    (konstruktIds index zs).Perm (zs.map (·.id) ++ (erzeugt index zs).map some) := by
  induction zs generalizing index with
  | nil => exact .nil
  | cons z zs ih =>
    refine List.perm_iff_count.mpr fun a => ?_
    simp only [konstruktIds, erzeugt, List.map_cons, List.map_append, List.count_append,
      List.count_cons, List.cons_append, List.perm_iff_count.mp (ih (index + 1)) a]
    omega

/-! ## 2. The ids the loop makes -/

/-- The prefixes of the ids the loop makes. -/
def praefixe : List String :=
  ["HostedZone-", "CertificateAuthority-", "CertificateArn-", "DomainName-"]

/-- Two different prefixes differ within the shorter one. -/
theorem praefixe_trennen : ∀ p ∈ praefixe, ∀ q ∈ praefixe, p ≠ q →
    p.data.take (min p.data.length q.data.length) ≠
      q.data.take (min p.data.length q.data.length) := by
  decide

/-- **An id the loop makes names its prefix and its number.** -/
theorem kennung_eq {p q : String} (hp : p ∈ praefixe) (hq : q ∈ praefixe) {i j : Nat}
    (h : p ++ toString i = q ++ toString j) : p = q ∧ i = j := by
  by_cases hpq : p = q
  · subst hpq
    exact ⟨rfl, kennung_inj p h⟩
  · refine absurd ?_ (praefixe_trennen p hp q hq hpq)
    have := congrArg (fun s => s.data.take (min p.data.length q.data.length)) h
    simpa only [String.data_append, List.take_append_of_le_length (Nat.min_le_left _ _),
      List.take_append_of_le_length (Nat.min_le_right _ _)] using this

/-- The ids turn `index` makes: distinct prefixes, each with the number `index`. -/
theorem zug_praefixe (c : CertificateConfig) (index : Nat) :
    ∃ ps : List String, ps.Nodup ∧ (∀ p ∈ ps, p ∈ praefixe) ∧
      (zertifikatAus c index).ausstellung.nachschlag ++ ausgaben index =
        ps.map (· ++ toString index) := by
  unfold zertifikatAus
  split_ifs
  · exact ⟨["HostedZone-", "CertificateArn-", "DomainName-"], by decide, by decide, rfl⟩
  · exact ⟨["CertificateArn-", "DomainName-"], by decide, by decide, rfl⟩
  · exact ⟨["CertificateArn-", "DomainName-"], by decide, by decide, rfl⟩
  · exact ⟨["CertificateAuthority-", "CertificateArn-", "DomainName-"], by decide, by decide,
      rfl⟩

/-- Every id the loop makes from `index` on ends in a number from `index` on. -/
theorem mem_erzeugt {x : String} :
    ∀ {index : Nat} {cs : List CertificateConfig},
      x ∈ erzeugt index (zertifikateAb index cs) →
        ∃ p ∈ praefixe, ∃ j, index ≤ j ∧ x = p ++ toString j
  | _, [], h => nomatch h
  | index, c :: cs, h => by
    obtain ⟨ps, -, hps, heq⟩ := zug_praefixe c index
    simp only [zertifikateAb, erzeugt, heq, List.mem_append, List.mem_map] at h
    rcases h with ⟨p, hp, rfl⟩ | h
    · exact ⟨p, hps p hp, index, le_rfl, rfl⟩
    · obtain ⟨p, hp, j, hj, rfl⟩ := mem_erzeugt h
      exact ⟨p, hp, j, by omega, rfl⟩

/-- **The ids the loop makes are pairwise distinct.** -/
theorem erzeugt_nodup (index : Nat) (cs : List CertificateConfig) :
    (erzeugt index (zertifikateAb index cs)).Nodup := by
  induction cs generalizing index with
  | nil => exact .nil
  | cons c cs ih =>
    obtain ⟨ps, hnd, hps, heq⟩ := zug_praefixe c index
    simp only [zertifikateAb, erzeugt, heq]
    refine List.nodup_append.mpr ⟨hnd.map_on fun p hp q hq h => ?_, ih (index + 1), ?_⟩
    · exact (kennung_eq (hps p hp) (hps q hq) h).1
    · -- the ids of later turns end in larger numbers
      rintro x hx hx'
      obtain ⟨p, hp, rfl⟩ := List.mem_map.mp hx
      obtain ⟨q, hq, j, hj, he⟩ := mem_erzeugt hx'
      have := (kennung_eq (hps p hp) hq he).2
      omega

/-! ## 3. The stack and the validator -/

/-- **The construct ids of a certificate stack are pairwise distinct exactly when its entries'
    `certificateName`s are, and none is an id the loop makes itself.** -/
theorem konstruktIds_nodup_iff (id : String) (cs : List CertificateConfig) :
    (konstruktIds 0 (certificateStack id cs).zertifikate).Nodup ↔
      (cs.map (·.certificateName)).Nodup ∧
        ∀ c ∈ cs, ∀ n ∈ erzeugt 0 (certificateStack id cs).zertifikate,
          c.certificateName ≠ some n := by
  rw [certificateStack_eq, (konstruktIds_perm 0 _).nodup_iff, List.nodup_append,
    id_zertifikateAb]
  simp only [(erzeugt_nodup 0 cs).map (Option.some_injective String), true_and,
    List.Disjoint, List.mem_map]
  constructor
  · rintro ⟨hn, hd⟩
    exact ⟨hn, fun c hc n hn' he => hd ⟨c, hc, he⟩ ⟨n, hn', rfl⟩⟩
  · rintro ⟨hn, hd⟩
    exact ⟨hn, fun _ ⟨c, hc, he⟩ ⟨n, hn', hn''⟩ => hd c hc n hn' (he.trans hn''.symm)⟩

/-- The configuration with every entry's `certificateName` set to `f` of the entry. -/
def NitroEnclavesAcmStreamlineConfig.mitNamen (config : NitroEnclavesAcmStreamlineConfig)
    (f : CertificateConfig → Option String) : NitroEnclavesAcmStreamlineConfig :=
  { config with
    certificateConfig := { config.certificateConfig with
      certificates := config.certificateConfig.certificates.map
        fun c => { c with certificateName := f c } } }

theorem forM_pruefeZertifikat_mitNamen (f : CertificateConfig → Option String) :
    ∀ cs : List CertificateConfig,
      (cs.map fun c => { c with certificateName := f c }).forM pruefeZertifikat =
        cs.forM pruefeZertifikat
  | [] => rfl
  | c :: cs => by
    simp only [List.map_cons, List.forM, forM_pruefeZertifikat_mitNamen f cs]
    rfl

/-- **The validator never reads `certificateName`**: renaming the entries changes nothing it
    decides, outside a destroy or in one. -/
theorem validateCertificateStack_mitNamen (config : NitroEnclavesAcmStreamlineConfig)
    (isDestroySubcommand : Bool) (f : CertificateConfig → Option String) :
    validateCertificateStack (config.mitNamen f) isDestroySubcommand =
      validateCertificateStack config isDestroySubcommand := by
  unfold validateCertificateStack NitroEnclavesAcmStreamlineConfig.mitNamen
  simp only [List.map_map, forM_pruefeZertifikat_mitNamen]
  rfl

theorem zuErstellen_mitNamen (config : NitroEnclavesAcmStreamlineConfig)
    (f : CertificateConfig → Option String) :
    zuErstellen (config.mitNamen f).certificateConfig.certificates =
      (zuErstellen config.certificateConfig.certificates).map
        fun c => { c with certificateName := f c } :=
  List.filter_map _ _

/-- **The validator lets two certificates share a construct id**: every configuration with two
    entries to create, its entries all renamed alike, is judged by the validator as it is, and
    gives a certificate stack with two constructs of one id. -/
theorem validateCertificateStack_namensgleich (config : NitroEnclavesAcmStreamlineConfig)
    (n : Option String) (id : String)
    (h : 2 ≤ (zuErstellen config.certificateConfig.certificates).length) :
    validateCertificateStack (config.mitNamen fun _ => n) false =
        validateCertificateStack config false ∧
      ¬ (konstruktIds 0 (certificateStack id (zuErstellen
        (config.mitNamen fun _ => n).certificateConfig.certificates)).zertifikate).Nodup := by
  refine ⟨validateCertificateStack_mitNamen config false _, fun hn => ?_⟩
  have hnamen := (List.nodup_append.mp ((konstruktIds_perm 0 _).nodup_iff.mp hn)).1
  rw [certificateStack_eq, id_zertifikateAb, zuErstellen_mitNamen, List.map_map] at hnamen
  have := List.nodup_replicate.mp (List.map_const' _ n ▸ hnamen)
  simp only [List.length_map] at this
  omega

/-- The default configuration, its two certificates both named `Certificate`, passes the
    validator, and its certificate stack has two constructs of one id. -/
theorem validateCertificateStack_namensgleich_spiel :
    2 ≤ (zuErstellen (getDefaultConfig fun _ => none).certificateConfig.certificates).length ∧
      validateCertificateStack ((getDefaultConfig fun _ => none).mitNamen
        fun _ => some "Certificate") false = .ok () ∧
      ¬ (konstruktIds 0 (certificateStack "CertificateStack"
        (zuErstellen ((getDefaultConfig fun _ => none).mitNamen
          fun _ => some "Certificate").certificateConfig.certificates)).zertifikate).Nodup :=
  have h2 : 2 ≤
      (zuErstellen (getDefaultConfig fun _ => none).certificateConfig.certificates).length := by
    decide
  have hv := validateCertificateStack_namensgleich (getDefaultConfig fun _ => none)
    (some "Certificate") "CertificateStack" h2
  ⟨h2, hv.1.trans rfl, hv.2⟩

end NitroEnclavesAcm.Cdk
