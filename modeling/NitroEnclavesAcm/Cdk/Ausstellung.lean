import NitroEnclavesAcm.Cdk.App

/-
  File:      NitroEnclavesAcm/Cdk/Ausstellung.lean
  Subject:   How the certificates of `CertificateStack` are issued, against what their entries of
             the configuration ask for (`lib/certificate-stack.ts`, `ConfigValidator`).

  THE QUESTION. The loop of `CertificateStack` decides by two defaults: an entry that is not
  (truthily) private gets a public certificate, and a public one without a Route53 zone is
  validated by DNS only when `validationType === 'DNS'`, by e-mail otherwise. An entry with no
  `isPrivate`, or with a misspelt `validationType`, would silently get a public certificate
  validated by e-mail. Can a deployment do that?

  THE ANSWER. No. **In every deployment that succeeds outside a destroy, each certificate the
  stack creates is for its entry's domain and issued as the entry asks** (`deploy_ausstellung`):
  by the private CA of its `pcaArn`, in the Route53 zone of its `hostedZoneId`, or validated by
  DNS or e-mail as its `validationType` says; and every entry to create asks for one of these.
  `ConfigValidator.validateCertificateStack` runs before the stack is built and rejects every
  entry for which the defaults would decide (`zertifikatAus_gewuenscht`).

  * `CertificateConfig.gewuenscht` -- how an entry's fields ask to issue its certificate
  * `Ausstellung.art` -- how a certificate construct is issued, without its construct ids
  * `zertifikatAus_gewuenscht` -- one entry the validator accepts
  * `zertifikateAb_art` -- the loop, by induction over the entries
  * `zuErstellen_geprueft` -- every entry to create has passed the validator

  NOT here: a destroy, which checks nothing, and the certificates' names.
-/

namespace NitroEnclavesAcm.Cdk

/-! ## 1. What an entry asks for -/

/-- How a certificate is issued: by a private CA, in a Route53 zone, by DNS or by e-mail. -/
inductive Art where
  | privat (pcaArn : String)
  | route53 (hostedZoneId : String)
  | dns
  | email
  deriving DecidableEq, Repr

/-- What an entry's fields ask for: `isPrivate` chooses between the private CA of `pcaArn` and a
    public certificate, which a `hostedZoneId` validates in its Route53 zone and otherwise
    `validationType` validates; `none` where they name no such way. -/
def CertificateConfig.gewuenscht (c : CertificateConfig) : Option Art :=
  match c.isPrivate with
  | some true => c.pcaArn.map .privat
  | some false =>
    if wahr c.hostedZoneId then some (.route53 (c.hostedZoneId.getD ""))
    else if c.validationType = some "DNS" then some .dns
    else if c.validationType = some "EMAIL" then some .email
    else none
  | none => none

/-- How a certificate construct is issued. -/
def Ausstellung.art : Ausstellung → Option Art
  | .route53 _ hostedZoneId => some (.route53 hostedZoneId)
  | .dns => some .dns
  | .email => some .email
  | .privat _ pcaArn => pcaArn.map .privat

/-! ## 2. One entry -/

/-- **An entry the validator accepts is issued as it asks**, at every index of the loop. -/
theorem zertifikatAus_gewuenscht {c : CertificateConfig} (hv : pruefeZertifikat c = .ok ())
    (he : wahr c.existingCertificateArn = false) (index : Nat) :
    (zertifikatAus c index).ausstellung.art = c.gewuenscht ∧ c.gewuenscht.isSome := by
  unfold pruefeZertifikat at hv
  rw [he, if_neg Bool.false_ne_true] at hv
  unfold zertifikatAus CertificateConfig.gewuenscht
  rcases hp : c.isPrivate with _ | _ | _ <;> simp only [hp] at hv ⊢
  · split_ifs at hv
  · -- public: a zone, or a method that is DNS or EMAIL
    split_ifs at hv with h₀ h₁ h₂ h₃ h₄
    by_cases hz : wahr c.hostedZoneId
    · simp [hz, Ausstellung.art]
    · have hw : wahr c.validationType = true := by simpa [hz] using h₃
      have hm : c.validationType.getD "" ∈ ["DNS", "EMAIL"] := by
        simpa [hw, or_iff_not_imp_left] using h₄
      cases hvt : c.validationType with
      | none => simp [hvt, wahr] at hw
      | some vt =>
        simp only [hvt, Option.getD_some, List.mem_cons, List.mem_singleton, List.not_mem_nil,
          or_false] at hm
        rcases hm with rfl | rfl <;> simp [hz, Ausstellung.art]
  · -- private: a CA
    split_ifs at hv with h₀ h₁ h₂ h₃
    cases hpca : c.pcaArn with
    | none => simp [hpca, wahr] at h₁
    | some p => simp [Ausstellung.art]

/-! ## 3. The stack -/

/-- A loop of checks that passes has passed each of them. -/
theorem forM_ok {α : Type} (f : α → Except String Unit) :
    ∀ cs : List α, cs.forM f = .ok () → ∀ c ∈ cs, f c = .ok ()
  | [], _ => nofun
  | c :: cs, h => by
    simp only [List.forM] at h
    cases hc : f c with
    | error e => rw [hc] at h; cases h
    | ok u =>
      rw [hc] at h
      intro x hx
      rcases List.mem_cons.mp hx with rfl | hx
      · exact hc
      · exact forM_ok f cs h x hx

/-- The certificates the loop creates from entries the validator accepts, read as the entries
    are: each for its entry's domain and issued as it asks. -/
theorem zertifikateAb_art :
    ∀ (index : Nat) (cs : List CertificateConfig),
      (∀ c ∈ cs, pruefeZertifikat c = .ok () ∧ wahr c.existingCertificateArn = false) →
      (zertifikateAb index cs).map (fun z => (z.domainName, z.ausstellung.art)) =
        cs.map fun c => (c.domainName, c.gewuenscht)
  | _, [], _ => rfl
  | index, c :: cs, h => by
    obtain ⟨hv, he⟩ := h c (List.mem_cons_self _ _)
    simp only [zertifikateAb, List.map_cons, zertifikatAus_domainName,
      (zertifikatAus_gewuenscht hv he index).1,
      zertifikateAb_art (index + 1) cs fun c hc => h c (List.mem_cons_of_mem _ hc)]

/-- The entries to create of a configuration the validator accepts, outside a destroy. -/
theorem zuErstellen_geprueft {config : NitroEnclavesAcmStreamlineConfig}
    (hv : validateCertificateStack config false = .ok ()) :
    ∀ c ∈ zuErstellen config.certificateConfig.certificates,
      pruefeZertifikat c = .ok () ∧ wahr c.existingCertificateArn = false := by
  intro c hc
  obtain ⟨hm, he⟩ := List.mem_filter.mp hc
  unfold validateCertificateStack at hv
  simp only [Bool.false_eq_true, if_false] at hv
  split_ifs at hv
  exact ⟨forM_ok _ _ hv c hm, by simpa using he⟩

/-- **Every certificate is issued as its entry asks**: for every configuration and every
    environment, when a new app deploys outside a destroy, the certificates its certificate stack
    creates are, in order, one per entry to create, each for the entry's domain and issued as
    the entry asks, and every entry to create asks for a way to issue it. -/
theorem deploy_ausstellung (u : Umgebung) (config : NitroEnclavesAcmStreamlineConfig)
    (st : Streamline) (app : App) (hst : Streamline.neu config false = .ok st)
    (h : deploy u st = .ok app) :
    ((app.certificateStack.map (·.zertifikate)).getD []).map
        (fun z => (z.domainName, z.ausstellung.art)) =
      (zuErstellen config.certificateConfig.certificates).map
        (fun c => (c.domainName, c.gewuenscht)) ∧
    ∀ c ∈ zuErstellen config.certificateConfig.certificates, c.gewuenscht.isSome := by
  obtain rfl := Streamline.neu_ok hst
  obtain ⟨st', hc, -, hstack, -⟩ := deploy_ok h
  obtain ⟨-, -, hz⟩ := createCertificateStack_ok hc
  rw [hstack, hz]
  -- with an entry to create, the validator has passed
  have hv : 0 < (zuErstellen config.certificateConfig.certificates).length →
      validateCertificateStack config false = .ok () := fun hpos => by
    rw [createCertificateStack_neu, if_pos hpos] at hc
    cases hv : validateCertificateStack config false with
    | error e => rw [hv] at hc; cases hc
    | ok u => rfl
  rcases Nat.eq_zero_or_pos (zuErstellen config.certificateConfig.certificates).length
    with h0 | hpos
  · rw [List.eq_nil_of_length_eq_zero h0]
    exact ⟨rfl, nofun⟩
  · have hg := zuErstellen_geprueft (hv hpos)
    exact ⟨zertifikateAb_art 0 _ hg, fun c hc =>
      (zertifikatAus_gewuenscht (hg c hc).1 (hg c hc).2 0).2⟩

/-- The default configuration deploys, and its two certificates are issued as its entries ask. -/
theorem deploy_ausstellung_spiel :
    ∃ app, Streamline.neu (getDefaultConfig fun _ => none) false =
        .ok ⟨getDefaultConfig fun _ => none, false, [], none⟩ ∧
      deploy ⟨fun _ => "", fun _ _ => ""⟩ ⟨getDefaultConfig fun _ => none, false, [], none⟩ =
        .ok app ∧
      ((app.certificateStack.map (·.zertifikate)).getD []).map
          (fun z => (z.domainName, z.ausstellung.art)) =
        (zuErstellen (getDefaultConfig fun _ => none).certificateConfig.certificates).map
          (fun c => (c.domainName, c.gewuenscht)) :=
  have hneu : Streamline.neu (getDefaultConfig fun _ => none) false =
      .ok ⟨getDefaultConfig fun _ => none, false, [], none⟩ := rfl
  have ⟨app, happ⟩ := deploy_gelingt ⟨fun _ => "", fun _ _ => ""⟩ (getDefaultConfig fun _ => none)
    false (fun _ => rfl) rfl
  ⟨app, hneu, happ,
    (deploy_ausstellung ⟨fun _ => "", fun _ _ => ""⟩ _ _ app hneu happ).1⟩

end NitroEnclavesAcm.Cdk
