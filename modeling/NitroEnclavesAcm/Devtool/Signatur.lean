import NitroEnclavesAcm.Devtool.Ordnung

/-
  File:      NitroEnclavesAcm/Devtool/Signatur.lean
  Subject:   The signing globals of `devtool build` (`tools/devtool`, `build_eif`): which words
             every `nitro-cli build-enclave` of a run is signed with.

  THE QUESTION. The usage calls `dev-image` "the development version (i.e. not signed)" and
  `production-image` the signed one. `build_eif` signs through two globals,
  `signing_extra_docker_args` and `signing_extra_build_args`, which it sets when its signing
  directory is not empty and never resets; `build_al2_setup` builds its image with
  `cmd_build dev-image`. Which words does an image of a run carry?

  THE ANSWER. **The globals, once set, sign every image after them** (`cmdBuild_signiert`): in
  every run of `cmd_build`, every `nitro-cli build-enclave` carries the words of the
  `production-image` of its arguments when one was given with a non-empty directory, and
  otherwise the globals the run started with. With `production-image` and `al2-setup` in one
  call, the `dev-image` that `build_al2_setup` builds is signed too.

  **The rule** (`signatur g`): every EIF build a run appends carries `g`, and a run that starts
  with the globals `g` ends with them. Every line but `nitro-cli` keeps it (`grundregel_signatur`),
  so `Devtool/Ordnung.lean`'s lemmas give it for all of the tool but `build_eif`, which is
  carried through its steps as a `Tripel` (`buildEif_tripel`).
-/

namespace NitroEnclavesAcm.Devtool

open Bash (Skript Ausgang)
open Bash.Skript

variable (w : Werkbank)

/-! ## 1. The rule -/

/-- The two signing globals. -/
def Werkstatt.signing (s : Werkstatt) : String × String :=
  (s.signingExtraDockerArgs, s.signingExtraBuildArgs)

/-- The values `build_eif dir cert key` gives the signing globals. -/
def signingWorte (dir cert key : String) : String × String :=
  ("-v " ++ dir ++ ":" ++ dir, "--private-key " ++ key ++ " --signing-certificate " ++ cert)

/-- **The signing rule for the words `g`**: every EIF build the run appends carries `g`, and a
    run that starts with the globals `g` ends with them. -/
def signatur (g : String × String) : Regel Werkstatt where
  R s r := ∃ neu, r.2.spur = s.spur ++ neu ∧
    (∀ e ∈ neu, ∀ d b, e.1 = .nitroBuild d b → (d, b) = g) ∧ (s.signing = g → r.2.signing = g)
  ret s _ := ⟨[], by simp, by simp, id⟩
  trans _ := by
    rintro ⟨n₁, h₁, e₁, g₁⟩ ⟨n₂, h₂, e₂, g₂⟩
    dsimp only at h₁ e₁ g₁
    exact ⟨n₁ ++ n₂, by rw [h₂, h₁, List.append_assoc],
      fun e he => (List.mem_append.mp he).elim (e₁ e) (e₂ e), g₂ ∘ g₁⟩

/-- A line that builds no EIF signs nothing. -/
theorem nitro_nicht {b : Befehl} (hb : b.istEif = false) {n : UInt8} {g : String × String} :
    ∀ e ∈ [(b, n)], ∀ d c, e.1 = .nitroBuild d c → (d, c) = g := by
  rintro e he d c h
  rw [List.mem_singleton.mp he] at h
  subst h
  cases hb

/-- **Every line but `nitro-cli` keeps the signing rule**: none touches the globals. -/
theorem grundregel_signatur (g : String × String) : Grundregel w (signatur g) where
  zeile b hb s := by
    refine ⟨[(b, w.status s.spur b)], ?_, nitro_nicht (Befehl.istEif_of_imBau hb), ?_⟩ <;>
      by_cases h : w.status s.spur b = 0 <;> simp [pruefe, okOrDie, h, Werkstatt.signing]
  ungeprueft b hb _ s :=
    ⟨[(b, w.status s.spur b)], rfl, nitro_nicht (Befehl.istEif_of_imBau hb), id⟩
  abbruch n s := by
    unfold okOrDie
    split <;> exact ⟨[], by simp, by simp, id⟩

variable {w}

/-- Keeping the rule keeps the globals `g`. -/
theorem Tripel.behaelt {g : String × String} {a : Skript Werkstatt} (h : Haelt (signatur g) a) :
    Tripel (signatur g) (fun s => s.signing = g) a (fun s => s.signing = g) := fun s hs =>
  ⟨h s, fun _ _ e => by
    obtain ⟨_, _, _, hg⟩ := h s
    rw [e] at hg
    exact hg hs⟩

/-- `nitro-cli build-enclave` signs with the globals as they are. -/
theorem nitro_signatur (g : String × String) :
    Tripel (signatur g) (fun s => s.signing = g)
      (pruefe (lies fun s => befehl w (.nitroBuild s.signingExtraDockerArgs
        s.signingExtraBuildArgs))) (fun s => s.signing = g) := fun s hs => by
  have hn : ∀ e ∈ [((Befehl.nitroBuild s.signingExtraDockerArgs s.signingExtraBuildArgs),
      w.status s.spur (.nitroBuild s.signingExtraDockerArgs s.signingExtraBuildArgs))],
      ∀ d c, e.1 = .nitroBuild d c → (d, c) = g := by
    rintro e he d c h
    rw [List.mem_singleton.mp he] at h
    cases h
    exact hs
  refine ⟨⟨_, ?_, hn, ?_⟩, ?_⟩ <;>
    by_cases h : w.status s.spur (.nitroBuild s.signingExtraDockerArgs
      s.signingExtraBuildArgs) = 0 <;> simp [pruefe, okOrDie, h, Werkstatt.signing, ← hs]

/-! ## 2. `build_eif` -/

/-- **`build_eif` from `P` to `Q`**: every step before the assignment keeps `P`, the assignment
    goes from `P` to `Q`, and `nitro-cli` and what follows it keep `Q`. -/
theorem buildEif_tripel {g : String × String} {P Q : Werkstatt → Prop}
    (hP : ∀ {a}, Haelt (signatur g) a → Tripel (signatur g) P a P)
    (hQ : ∀ {a}, Haelt (signatur g) a → Tripel (signatur g) Q a Q)
    {bauen : List String → Skript Werkstatt} (hb : Haelt (signatur g) (bauen encArgs))
    {dir cert key : String}
    (hsign : Tripel (signatur g) P (ifThen (test (dir != "")) (setzeSigning dir cert key)) Q)
    (hnitro : Tripel (signatur g) Q (pruefe (lies fun s => befehl w (.nitroBuild
      s.signingExtraDockerArgs s.signingExtraBuildArgs))) Q) :
    Tripel (signatur g) P (buildEif w bauen dir cert key) Q := by
  have G := grundregel_signatur w g
  unfold buildEif
  rw [pruefe_and]
  exact Tripel.seq (hP G.ensureEnclaveCtr_haelt) <| Tripel.seq (hP G.ensureParentCtr_haelt) <|
    Tripel.seq (hP (Haelt.seq (G.zeile _ rfl) (G.zeile _ rfl))) <|
    Tripel.seq (hP (G.pruefe_haelt hb)) <| Tripel.seq (hP (G.zeile _ rfl)) <|
    Tripel.seq (hP (G.zeile _ rfl)) <|
    Tripel.seq (hP (Haelt.and (Haelt.test _) G.die_haelt)) <| Tripel.seq hsign <|
    Tripel.seq hnitro <| hQ (Haelt.seq (Haelt.ret 0) (Haelt.seq (Haelt.ret 0)
      (G.ungeprueft _ rfl rfl)))

/-- With a signing directory, `build_eif` sets the globals to its words before `nitro-cli`. -/
theorem buildEif_signiert {dir cert key : String} (hd : dir ≠ "")
    {bauen : List String → Skript Werkstatt}
    (hb : Haelt (signatur (signingWorte dir cert key)) (bauen encArgs)) :
    Tripel (signatur (signingWorte dir cert key)) (fun _ => True) (buildEif w bauen dir cert key)
      (fun s => s.signing = signingWorte dir cert key) := by
  refine buildEif_tripel Tripel.of_haelt Tripel.behaelt hb ?_ (nitro_signatur _)
  rw [bne_iff_ne.mpr hd, ifThen_test_true]
  exact fun s _ => ⟨⟨[], by simp [setzeSigning], by simp, fun _ => rfl⟩, fun _ _ e => by cases e; rfl⟩

/-- Without one, it keeps the globals. -/
theorem buildEif_behaelt {g : String × String} {cert key : String}
    {bauen : List String → Skript Werkstatt} (hb : Haelt (signatur g) (bauen encArgs)) :
    Tripel (signatur g) (fun s => s.signing = g) (buildEif w bauen "" cert key)
      (fun s => s.signing = g) :=
  buildEif_tripel Tripel.behaelt Tripel.behaelt hb (Tripel.behaelt (Haelt.ret 0)) (nitro_signatur _)

/-! ## 3. `build_al2_setup` and `cmd_build` -/

/-- `build_al2_setup` keeps the globals, and signs its image with them. -/
theorem buildAl2Setup_behaelt {g : String × String} {bauen : List String → Skript Werkstatt}
    (hp : Haelt (signatur g) (bauen parentArgs))
    (hd : Tripel (signatur g) (fun s => s.signing = g) (bauen devArgs) (fun s => s.signing = g)) :
    Tripel (signatur g) (fun s => s.signing = g) (buildAl2Setup w bauen)
      (fun s => s.signing = g) := by
  have G := grundregel_signatur w g
  unfold buildAl2Setup
  rw [pruefe_and, pruefe_and]
  exact Tripel.seq (Tripel.behaelt (Haelt.seq (G.zeile _ rfl) (G.zeile _ rfl))) <|
    Tripel.seq (Tripel.behaelt (G.pruefe_haelt hp)) <|
    Tripel.seq (Tripel.seqS hd fun n => Tripel.behaelt (G.abbruch n)) <|
    Tripel.behaelt <| Haelt.seq G.installs_haelt <| Haelt.seq (G.ungeprueft _ rfl rfl) <|
    Haelt.seq (Haelt.seq (G.zeile _ rfl) (G.zeile _ rfl)) <|
    Haelt.seq (G.ungeprueft _ rfl rfl) (Haelt.ret 0)

/-- A body of `cmd_build` that signs nothing keeps the globals. -/
theorem cmdBuildMit_behaelt {g : String × String} {o : BuildLokale}
    (ho : ¬(o.eif = true ∧ o.eifSigningDir ≠ "")) {bauen : List String → Skript Werkstatt}
    (he : Haelt (signatur g) (bauen encArgs)) (hp : Haelt (signatur g) (bauen parentArgs))
    (hd : Tripel (signatur g) (fun s => s.signing = g) (bauen devArgs) (fun s => s.signing = g)) :
    Tripel (signatur g) (fun s => s.signing = g) (cmdBuildMit w bauen o)
      (fun s => s.signing = g) := by
  have G := grundregel_signatur w g
  refine Tripel.seq (Tripel.behaelt (G.cmdBuildBins_haelt o)) (Tripel.seq ?_
    (Tripel.ifThen_test _ (buildAl2Setup_behaelt hp hd) (Tripel.behaelt (Haelt.ret 0))))
  cases hi : o.eif
  · exact Tripel.behaelt (Haelt.ret 0)
  · rw [show o.eifSigningDir = "" by simpa [hi] using ho]
    exact buildEif_behaelt he

/-- A body of `cmd_build` with a signing directory signs every image with its words. -/
theorem cmdBuildMit_signiert {o : BuildLokale} (ho : o.eif = true ∧ o.eifSigningDir ≠ "")
    {bauen : List String → Skript Werkstatt}
    (he : ∀ g, Haelt (signatur g) (bauen encArgs)) (hp : ∀ g, Haelt (signatur g) (bauen parentArgs))
    (hd : ∀ g, Tripel (signatur g) (fun s => s.signing = g) (bauen devArgs)
      (fun s => s.signing = g)) :
    Tripel (signatur (signingWorte o.eifSigningDir o.eifSigningCert o.eifSigningKey))
      (fun _ => True) (cmdBuildMit w bauen o)
      (fun s => s.signing = signingWorte o.eifSigningDir o.eifSigningCert o.eifSigningKey) := by
  have G := grundregel_signatur w (signingWorte o.eifSigningDir o.eifSigningCert
    o.eifSigningKey)
  unfold cmdBuildMit
  rw [ho.1, ifThen_test_true]
  exact Tripel.seq (Tripel.of_haelt (G.cmdBuildBins_haelt o)) <|
    Tripel.seq (buildEif_signiert ho.2 (he _)) <|
    Tripel.ifThen_test _ (buildAl2Setup_behaelt (hp _) (hd _)) (Tripel.behaelt (Haelt.ret 0))

/-- `cmd_build dev-image` keeps the globals and signs with them. -/
theorem cmdBuild_dev_behaelt (g : String × String) : ∀ n,
    Tripel (signatur g) (fun s => s.signing = g) (cmdBuild w n devArgs) (fun s => s.signing = g)
  | 0 => Tripel.behaelt (grundregel_signatur w g).die_haelt
  | n + 1 => by
    have G := grundregel_signatur w g
    simp only [cmdBuild, cmdBuildLokale_devArgs]
    exact cmdBuildMit_behaelt (by simp)
      (G.cmdBuild_blatt_haelt n cmdBuildLokale_encArgs rfl rfl)
      (G.cmdBuild_blatt_haelt n cmdBuildLokale_parentArgs rfl rfl) (cmdBuild_dev_behaelt g n)

/-! ## 4. Every run of `devtool build` -/

variable (w)

/-- The words the images of `cmd_build` with the locals `o` carry, from the state `s`: those of
    its `production-image` when it has a signing directory, else the globals it starts with. -/
def signingNach (s : Werkstatt) (o : BuildLokale) : String × String :=
  if o.eif = true ∧ o.eifSigningDir ≠ "" then
    signingWorte o.eifSigningDir o.eifSigningCert o.eifSigningKey
  else s.signing

/-- **The signing globals sign every image after them**: in every run of `cmd_build`, on every
    machine and from every state, every `nitro-cli build-enclave` the run appends carries the
    words of the arguments' `production-image` when it has a signing directory, and otherwise the
    globals the run started with -- the image `build_al2_setup` builds with `dev-image` too. -/
theorem cmdBuild_signiert (n : Nat) (args : List String) (s : Werkstatt) :
    ∃ neu, (cmdBuild w n args s).2.spur = s.spur ++ neu ∧
      ∀ e ∈ neu, ∀ d b, e.1 = .nitroBuild d b →
        ∃ o, cmdBuildLokale args = .ok o ∧ (d, b) = signingNach s o := by
  cases n with
  | zero => exact ⟨[], by simp [cmdBuild, die], by simp⟩
  | succ n =>
    cases h : cmdBuildLokale args with
    | error => exact ⟨[], by simp [cmdBuild, h, die], by simp⟩
    | ok o =>
      have he := fun g => (grundregel_signatur w g).cmdBuild_blatt_haelt n
        cmdBuildLokale_encArgs rfl rfl
      have hp := fun g => (grundregel_signatur w g).cmdBuild_blatt_haelt n
        cmdBuildLokale_parentArgs rfl rfl
      have R : (signatur (signingNach s o)).R s (cmdBuildMit w (cmdBuild w n) o s) := by
        unfold signingNach
        split
        · exact (cmdBuildMit_signiert ‹_› he hp (cmdBuild_dev_behaelt · n) s trivial).1
        · exact (cmdBuildMit_behaelt ‹_› (he _) (hp _) (cmdBuild_dev_behaelt _ n) s rfl).1
      obtain ⟨neu, hneu, hnitro, -⟩ := R
      simp only [cmdBuild, h]
      exact ⟨neu, hneu, fun e he' d b hd => ⟨o, rfl, hnitro e he' d b hd⟩⟩

end NitroEnclavesAcm.Devtool
