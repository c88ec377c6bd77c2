import NitroEnclavesAcm.Testtool.Token

/-
  File:      NitroEnclavesAcm/Testtool/Kms.lean
  Subject:   The KMS key and region of `testtool openssl --kms-key-id … --kms-region …` reach every
             key the suite packs.

  `cmd_openssl` reads `--kms-key-id` and `--kms-region` into the globals `key_id` and `region`.
  Every `provision_key` (and `provision_key_w_cert`) call hands them on as
  `--kms-key-id "$key_id" --kms-region "$region"`, reads them back into the SAME globals with its
  own option loop, and packs the key with `p11ne-db pack-key … --kms-key-id "$key_id"
  --kms-region "$region"`. Nothing else writes the two globals: a case keeps them (`fallRegel`),
  `cleanup_key` accepts only `--key-label`. **So every `p11ne-db` line of a run of
  `testtool openssl …` ends with the KMS key and region its command line gave, the last value of
  each option winning** (`testtool_kms`).

  * `optionWert` -- the value the option loop leaves for an option;
  * `optionenLesen_wert` -- the loop runs no command line and, when it returns, leaves
    `optionWert` in both globals, whatever options it accepts;
  * `ohneDb`, `kmsRegel` -- two rules of runs: keep the globals and run no `p11ne-db` line; from
    a state whose globals hold a key and a region, keep them and end each `p11ne-db` line with
    them;
  * `kms_provisionKeyMit` -- `provision_key` rewrites the globals with the values it was handed,
    which are theirs;
  * `PacktMit` -- the same, with the KMS arguments a function of the globals at the start: the
    option loop is such a function (`PacktMit.optionen`), and the commands before it in
    `main` keep the globals (`PacktMit.davor`).

  NOT here: what `p11ne-db` does with the key, and a KMS key that does not exist.
-/

namespace NitroEnclavesAcm.Testtool

open NitroEnclavesAcm.Bash

/-! ## 1. The option loop -/

/-- The value the option loop leaves for the option `o`, starting from `alt`: the word after its
    last occurrence in an option position, `""` when it is the last word. -/
def optionWert (o : String) : List String → String → String
  | [], alt => alt
  | [o'], alt => if o' = o then "" else alt
  | o' :: x :: rest, alt => optionWert o rest (if o' = o then x else alt)

@[simp] theorem setzeOption_keyId (v : Vars) (o x : String) :
    (setzeOption v o x).keyId = if o = "--kms-key-id" then x else v.keyId := by
  unfold setzeOption
  split_ifs <;> simp_all

@[simp] theorem setzeOption_region (v : Vars) (o x : String) :
    (setzeOption v o x).region = if o = "--kms-region" then x else v.region := by
  unfold setzeOption
  split_ifs <;> simp_all

/-- **The loop reads the last value of each option**: it runs no command line, and when it
    returns, `key_id` and `region` hold `optionWert` of their options, whatever options it
    accepts. -/
theorem optionenLesen_wert (erlaubt : List String) : ∀ (args : List String) (s : Shell),
    (optionenLesen erlaubt args s).2.spur = s.spur ∧
    ∀ n, (optionenLesen erlaubt args s).1 = .fertig n →
      (optionenLesen erlaubt args s).2.vars.keyId = optionWert "--kms-key-id" args s.vars.keyId ∧
      (optionenLesen erlaubt args s).2.vars.region = optionWert "--kms-region" args s.vars.region
  | [], _ => ⟨rfl, fun _ _ => ⟨rfl, rfl⟩⟩
  | [o], s => by
    unfold optionenLesen
    split_ifs
    · exact ⟨rfl, fun _ _ => by simp [optionWert]⟩
    · exact ⟨rfl, fun _ h => nomatch h⟩
  | o :: x :: rest, s => by
    unfold optionenLesen
    split_ifs
    · have ih := optionenLesen_wert erlaubt rest { s with vars := setzeOption s.vars o x }
      simp only [Sh.seq_apply, Sh.set_apply, weiter_fertig]
      exact ⟨ih.1, fun n h => by simpa [optionWert] using ih.2 n h⟩
    · exact ⟨rfl, fun _ h => nomatch h⟩

/-! ## 2. The KMS rule -/

/-- The KMS arguments a `p11ne-db pack-key` line ends with. -/
def kmsArgs (keyId region : String) : List String :=
  ["--kms-key-id", keyId, "--kms-region", region]

/-- **The KMS rule**: from a state whose globals hold `keyId` and `region`, a run keeps them when
    it returns, and each `p11ne-db` line it runs ends with their KMS arguments. -/
def kmsRegel (keyId region : String) : Laufregel where
  R s r := s.vars.keyId = keyId → s.vars.region = region →
    (∀ n, r.1 = .fertig n → r.2.vars.keyId = keyId ∧ r.2.vars.region = region) ∧
    ∃ neu, r.2.spur = s.spur ++ neu ∧
      ∀ z ∈ neu, z.head? = some "p11ne-db" → (kmsArgs keyId region).IsSuffix z
  ret _ _ hk hr := ⟨fun _ _ => ⟨hk, hr⟩, [], by simp, nofun⟩
  trans n h₁ h₂ hk hr := by
    obtain ⟨v₁, n₁, e₁, l₁⟩ := h₁ hk hr
    obtain ⟨k₁, r₁⟩ := v₁ n rfl
    obtain ⟨v₂, n₂, e₂, l₂⟩ := h₂ k₁ r₁
    refine ⟨v₂, n₁ ++ n₂, by rw [e₂, e₁, List.append_assoc], fun z hz => ?_⟩
    rcases List.mem_append.mp hz with hz | hz
    exacts [l₁ z hz, l₂ z hz]

/-- **A run that packs nothing**: it keeps `key_id` and `region` when it returns and runs no
    `p11ne-db` line. -/
def ohneDb : Laufregel where
  R s r := (∀ n, r.1 = .fertig n →
      r.2.vars.keyId = s.vars.keyId ∧ r.2.vars.region = s.vars.region) ∧
    ∃ neu, r.2.spur = s.spur ++ neu ∧ ∀ z ∈ neu, z.head? ≠ some "p11ne-db"
  ret _ _ := ⟨fun _ _ => ⟨rfl, rfl⟩, [], by simp, nofun⟩
  trans n h₁ h₂ := by
    obtain ⟨v₁, n₁, e₁, l₁⟩ := h₁
    obtain ⟨k₁, r₁⟩ := v₁ n rfl
    obtain ⟨v₂, n₂, e₂, l₂⟩ := h₂
    refine ⟨fun m hm => ⟨(v₂ m hm).1.trans k₁, (v₂ m hm).2.trans r₁⟩, n₁ ++ n₂,
      by rw [e₂, e₁, List.append_assoc], fun z hz => ?_⟩
    rcases List.mem_append.mp hz with hz | hz
    exacts [l₁ z hz, l₂ z hz]

section Kms

variable (e : Env) {keyId region : String}

theorem kms_of_ohneDb {c : Sh} (h : Haelt ohneDb c) : Haelt (kmsRegel keyId region) c :=
  fun s hk hr => by
    obtain ⟨v, neu, hs, hz⟩ := h s
    exact ⟨fun n hn => ⟨(v n hn).1.trans hk, (v n hn).2.trans hr⟩, neu, hs,
      fun z h hd => absurd hd (hz z h)⟩

/-- A case keeps the globals and runs no `p11ne-db` line. -/
theorem ohneDb_of_fall {c : Sh} (h : Haelt fallRegel c) : Haelt ohneDb c := fun s => by
  obtain ⟨-, k, r, neu, hs, hz⟩ := h s
  exact ⟨fun _ _ => ⟨k, r⟩, neu, hs, fun z h => (hz z h).2⟩

theorem ohneDb_call {z : List String} (c : Cmd) (hz : z.head? ≠ some "p11ne-db") :
    Haelt ohneDb (Sh.call z c) := fun _ =>
  ⟨fun _ _ => ⟨rfl, rfl⟩, [z], rfl, fun _ h => List.mem_singleton.mp h ▸ hz⟩

theorem ohneDb_exit (n : UInt8) : Haelt ohneDb (Sh.exit n) := fun _ =>
  ⟨(fun _ h => nomatch h), [], by simp, nofun⟩

theorem ohneDb_okOrDie (c : UInt8) : Haelt ohneDb (okOrDie c) :=
  Haelt.ite (Haelt.ret 0) (ohneDb_exit c)

theorem ohneDb_folge_befehl {zs : List (List String)} (h : ∀ z ∈ zs, z.head? ≠ some "p11ne-db") :
    Haelt ohneDb (Sh.folge (zs.map e.befehl)) :=
  Haelt.folge fun _ hc => by
    obtain ⟨z, hz, rfl⟩ := List.mem_map.mp hc
    exact ohneDb_call _ (h z hz)

/-- Setting an option other than the two KMS options keeps the globals. -/
theorem ohneDb_setzeOption {o x : String} (hk : o ≠ "--kms-key-id") (hr : o ≠ "--kms-region") :
    Haelt ohneDb (Sh.set (setzeOption · o x)) := fun _ =>
  ⟨fun _ _ => by simp [hk, hr], [], by simp, nofun⟩

/-- An option loop that accepts neither KMS option keeps the globals. -/
theorem ohneDb_optionenLesen (erlaubt : List String) (hk : "--kms-key-id" ∉ erlaubt)
    (hr : "--kms-region" ∉ erlaubt) : ∀ args, Haelt ohneDb (optionenLesen erlaubt args)
  | [] => Haelt.ret 0
  | [o] => by
    unfold optionenLesen
    split_ifs with ho
    · exact .seq (ohneDb_setzeOption (fun h => hk (h ▸ ho)) (fun h => hr (h ▸ ho))) (.ret 1)
    · exact ohneDb_exit 1
  | o :: _ :: rest => by
    unfold optionenLesen
    split_ifs with ho
    · exact .seq (ohneDb_setzeOption (fun h => hk (h ▸ ho)) (fun h => hr (h ▸ ho)))
        (ohneDb_optionenLesen erlaubt hk hr rest)
    · exact ohneDb_exit 1

theorem ohneDb_cleanupKey (args : List String) : Haelt ohneDb (cleanupKey e args) :=
  .seq (.ifThen (.test _) (ohneDb_exit 1)) <|
    .seq (ohneDb_optionenLesen ["--key-label"] (by decide) (by decide) args)
      (ohneDb_call _ (by decide))

/-- A line built from the globals that ends with their KMS arguments. -/
theorem kms_pack {packZeile : Vars → List String}
    (hp : ∀ v, (kmsArgs v.keyId v.region).IsSuffix (packZeile v)) :
    Haelt (kmsRegel keyId region) (Sh.lies fun v => e.befehl (packZeile v)) := fun s hk hr =>
  ⟨fun _ _ => ⟨hk, hr⟩, [packZeile s.vars], rfl, fun z h _ => by
    rw [List.mem_singleton.mp h, ← hk, ← hr]
    exact hp s.vars⟩

/-! ## 3. Provisioning -/

/-- **`provision_key` packs with the globals it was handed**: reading its options back, it sets
    `key_id` and `region` to the values they held, and its `p11ne-db` line ends with them. -/
theorem kms_provisionKeyMit {packZeile : Vars → List String}
    (hp : ∀ v, (kmsArgs v.keyId v.region).IsSuffix (packZeile v)) (label : String) :
    Haelt (kmsRegel keyId region)
      (Sh.lies fun v => provisionKeyMit e packZeile (provisionArgs v label)) := by
  have h : (Sh.lies fun v => provisionKeyMit e packZeile (provisionArgs v label)) =
      (Sh.seq (Sh.lies fun v => optionenLesen ["--kms-key-id", "--kms-region", "--key-label"]
        (provisionArgs v label)) <|
      Sh.seq (Sh.seqS (Sh.lies fun v => e.befehl (packZeile v)) okOrDie) <|
      Sh.seq (Sh.lies fun v => e.befehl (initTokenZeile v.keylabel)) (Sh.ret 0)) := rfl
  have ho : Haelt (kmsRegel keyId region) (Sh.lies fun v =>
      optionenLesen ["--kms-key-id", "--kms-region", "--key-label"] (provisionArgs v label)) :=
    fun s hk hr => by
      obtain ⟨hs, hw⟩ := optionenLesen_wert ["--kms-key-id", "--kms-region", "--key-label"]
        (provisionArgs s.vars label) s
      exact ⟨fun n h => by rw [← hk, ← hr]; exact hw n h, [], by simpa using hs, nofun⟩
  rw [h]
  exact .seq ho (.seq (.seqS (kms_pack e hp) fun c => kms_of_ohneDb (ohneDb_okOrDie c))
    (kms_of_ohneDb (.seq (.lies fun _ => ohneDb_call _ (by simp [initTokenZeile])) (.ret 0))))

theorem kms_provisionKey (label : String) :
    Haelt (kmsRegel keyId region) (Sh.lies fun v => provisionKey e (provisionArgs v label)) :=
  kms_provisionKeyMit e (fun _ => by exact List.suffix_iff_eq_drop.mpr rfl) label

theorem kms_provisionKeyWCert (label : String) :
    Haelt (kmsRegel keyId region) (Sh.lies fun v => provisionKeyWCert e (provisionArgs v label)) :=
  kms_provisionKeyMit e (fun _ => by exact List.suffix_iff_eq_drop.mpr rfl) label

/-! ## 4. The run -/

theorem kms_x509Tests : Haelt (kmsRegel keyId region) (x509Tests e) := by
  have hx : ∀ label testname, Haelt (kmsRegel keyId region) (testX509 e label testname) :=
    fun label _ => .seq (kms_provisionKeyWCert e label) <| kms_of_ohneDb <|
      .seq (.seqS (ohneDb_call _ (by decide)) fun _ => ohneDb_of_fall (fall_logTestResult _ _))
        (ohneDb_cleanupKey e _)
  have hi : Haelt (kmsRegel keyId region) (testX509InvalidChain e) :=
    .seq (kms_provisionKeyWCert e _) <| kms_of_ohneDb <|
      .seq (.seqS (ohneDb_call _ (by decide)) fun _ => .seqS (.test _) fun _ =>
        .ite (ohneDb_of_fall (fall_logTestResult _ _)) (ohneDb_of_fall (fall_logTestResult _ _)))
        (ohneDb_cleanupKey e _)
  refine Haelt.folge fun c h => ?_
  simp only [List.mem_cons, List.mem_singleton, List.not_mem_nil, or_false] at h
  rcases h with rfl | rfl | rfl | rfl | rfl
  · exact kms_of_ohneDb (ohneDb_folge_befehl e (by decide))
  · exact hx _ _
  · exact hx _ _
  · exact hx _ _
  · exact hi

/-- From `s` the spur grew by lines whose `p11ne-db` lines end with the KMS arguments `fk` and
    `fr` make of the globals of `s`. -/
def PacktMit (fk fr : String → String) (s : Shell) (r : Ausgang × Shell) : Prop :=
  ∃ neu, r.2.spur = s.spur ++ neu ∧ ∀ z ∈ neu, z.head? = some "p11ne-db" →
    (kmsArgs (fk s.vars.keyId) (fr s.vars.region)).IsSuffix z

/-- A command that keeps any values of the globals and packs with them, before one that packs
    with `fk` and `fr` of them. -/
theorem PacktMit.davor {fk fr : String → String} {a b : Sh} (ha : Haelt ohneDb a)
    (hb : ∀ t, PacktMit fk fr t (b t)) (s : Shell) : PacktMit fk fr s (Sh.seq a b s) := by
  have h := ha s
  simp only [Sh.seq_apply]
  rcases ea : a s with ⟨n | n, t⟩ <;> rw [ea] at h <;> obtain ⟨hv, neu, hs, hz⟩ := h <;>
    simp only [weiter_fertig, weiter_exit]
  · obtain ⟨hk, hr⟩ : t.vars.keyId = s.vars.keyId ∧ t.vars.region = s.vars.region := hv n rfl
    obtain ⟨neu', ht, hz'⟩ := hb t
    rw [hk, hr] at hz'
    have hs' : t.spur = s.spur ++ neu := hs
    refine ⟨neu ++ neu', by rw [ht, hs', List.append_assoc], fun z h => ?_⟩
    rcases List.mem_append.mp h with h | h
    exacts [fun hd => absurd hd (hz z h), hz' z h]
  · exact ⟨neu, hs, fun z h hd => absurd hd (hz z h)⟩

/-- The option loop of `cmd_openssl`, followed by a command that keeps any values of the
    globals: its `p11ne-db` lines end with the values the options gave. -/
theorem PacktMit.optionen {rest : Sh} (h : ∀ k r, Haelt (kmsRegel k r) rest) (args : List String)
    (s : Shell) :
    PacktMit (optionWert "--kms-key-id" args) (optionWert "--kms-region" args) s
      (Sh.seq (optionenLesen ["--kms-key-id", "--kms-region"] args) rest s) := by
  obtain ⟨hs, hw⟩ := optionenLesen_wert ["--kms-key-id", "--kms-region"] args s
  simp only [Sh.seq_apply]
  rcases ho : optionenLesen ["--kms-key-id", "--kms-region"] args s with ⟨n | n, t⟩ <;>
    rw [ho] at hs hw <;> dsimp only at hs hw <;> simp only [weiter_fertig, weiter_exit]
  · obtain ⟨hk, hr⟩ := hw n rfl
    obtain ⟨-, neu, ht, hz⟩ := h _ _ t hk hr
    exact ⟨neu, by rw [ht, hs], hz⟩
  · exact ⟨[], by rw [hs, List.append_nil], nofun⟩

/-- **`cmd_openssl` packs every key with the KMS key and region of its options.** -/
theorem kms_cmdOpenssl (args : List String) (s : Shell) :
    PacktMit (optionWert "--kms-key-id" args) (optionWert "--kms-region" args) s
      (cmdOpenssl e args s) := by
  refine PacktMit.optionen (fun k r => ?_) args s
  simp only [provisionKey, provisionKeyMit_okOrDie]
  exact .seq (kms_of_ohneDb (.seq (.seqS (ohneDb_call _ (by decide)) ohneDb_okOrDie) <|
      .seqS (ohneDb_call _ (by decide)) fun _ => .ifThen (.test _)
        (.seq (.seqS (ohneDb_call _ (by decide)) ohneDb_okOrDie)
          (.seqS (ohneDb_call _ (by decide)) ohneDb_okOrDie)))) <|
    .seq (.forIn (fun k => .seq (kms_provisionKey e k) <| kms_of_ohneDb <|
      .seq (ohneDb_of_fall (fall_rsaSignaturBlock e k)) (ohneDb_cleanupKey e _)) _) <|
    .seq (.forIn (fun k => .seq (kms_provisionKey e k) <| kms_of_ohneDb <|
      .seq (.forIn (fun _ => ohneDb_of_fall (fall_lauf e (.signverifyEcdsa _ k))) _)
        (ohneDb_cleanupKey e _)) _) <|
    .seq (.forIn (fun k => .seq (kms_provisionKey e k) <| kms_of_ohneDb <|
      .seq (ohneDb_of_fall (fall_rsaVerschluesselBlock e k)) (ohneDb_cleanupKey e _)) _) <|
    .seq (.ifThen (kms_of_ohneDb (ohneDb_call _ (by decide))) (kms_x509Tests e))
      (kms_of_ohneDb (ohneDb_folge_befehl e (by decide)))

/-- The group of `testtool openssl …`: `prng_seed` is set, the test set runs. -/
theorem kms_gruppe (opts : List String) (s : Shell) :
    PacktMit (optionWert "--kms-key-id" opts) (optionWert "--kms-region" opts) s
      (gruppe e ("openssl" :: opts) s) := by
  obtain ⟨neu, hs, hz⟩ := kms_cmdOpenssl e opts
    { s with vars := { s.vars with prngSeed := toString e.random } }
  refine ⟨neu, ?_, hz⟩
  rw [gruppe_openssl]
  rcases h : cmdOpenssl e opts { s with vars := { s.vars with prngSeed := toString e.random } }
    with ⟨_ | _, t⟩ <;> rw [h] at hs
  · simp only [weiter_fertig]
    split_ifs <;> exact hs
  · exact hs

end Kms

/-- **Every key `testtool openssl …` packs is packed with the KMS key and region of its command
    line**: for every list of options, every behaviour of the programs and every state, each
    `p11ne-db` line the run executes ends with `--kms-key-id K --kms-region R`, where `K` and `R`
    are the values of the last `--kms-key-id` and `--kms-region` among the options (the value
    `key_id` and `region` had, when the option is not given). -/
theorem testtool_kms (e : Env) (opts : List String) (s : Shell) :
    ∃ neu, (main e ("openssl" :: opts) s).2.spur = s.spur ++ neu ∧
      ∀ z ∈ neu, z.head? = some "p11ne-db" →
        (kmsArgs (optionWert "--kms-key-id" opts s.vars.keyId)
          (optionWert "--kms-region" opts s.vars.region)).IsSuffix z := by
  refine PacktMit.davor (.ifThen (.test _) (ohneDb_exit 1)) (PacktMit.davor
    (.seqS (.test _) ohneDb_okOrDie) (PacktMit.davor
    (.seqS (ohneDb_call _ (by decide)) ohneDb_okOrDie) (PacktMit.davor
    (ohneDb_call _ (by decide)) fun t => ?_))) s
  obtain ⟨neu, hs, hz⟩ := kms_gruppe e opts t
  exact ⟨neu ++ [teeZeile], by simp [Env.befehl, hs], fun z h hd => by
    rcases List.mem_append.mp h with h | h
    exacts [hz z h hd, absurd (List.mem_singleton.mp h ▸ hd) (by decide)]⟩

end NitroEnclavesAcm.Testtool
