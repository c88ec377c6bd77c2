import NitroEnclavesAcm.Devtool.Main

/-
  File:      NitroEnclavesAcm/Devtool/Erfolg.lean
  Subject:   When `devtool` succeeds, and what it has done then (`tools/devtool`: `main`,
             `cmd_build` and the functions it calls).

  THE QUESTION. The usage promises that `build <target> …` builds what the targets name. When
  `devtool build` exits with 0, has it built all of that? And does the tool fail only where a
  command it runs fails: on a machine where every command line succeeds, when does it exit
  with 0?

  THE ANSWER. **A build that exits with 0 has built everything its targets name**
  (`devtool_build_erzeugt`): for every non-empty list of targets, every binary they name has its
  `cargo build` line with status 0 in the run, with one `--release` per `--release` among them;
  an image has a `nitro-cli build-enclave` line with status 0, the AL2 installer its `tar` line
  with status 0. It is the run of `Devtool/Lauf.lean` meeting the targets' meaning of
  `Devtool/Build.lean` (`Ziel.artefakte`). **On a machine where every command line succeeds,
  the docker socket's group is known and no enclave container runs, the tool exits with 0
  exactly for a command it defines, and for `build` with words its loop accepts**
  (`devtool_gelingt`): it fails on its own only at an unknown command and at an unexpected
  argument.

  The first speaks of the runs that return (`Baut`); the second says which runs return
  (`Kehrt`, `cmdBuild_kehrt`), so that the first speaks of runs that exist.
-/

namespace NitroEnclavesAcm.Devtool

open Bash (Skript Ausgang)
open Bash.Skript

variable (w : Werkbank)

/-! ## 1. What a run builds -/

/-- The line that builds the artefact, with status 0, for the cargo arguments `ca`: a `cargo
    build` in the container of its side, `nitro-cli build-enclave`, the `tar` of the
    installer. -/
def Artefakt.erzeugt (ca : List String) : Artefakt → Eintrag → Prop
  | .enclaveBin n, e => e = (.cargoBuild enclaveCtrImg ca ["--bin", n], 0)
  | .parentBin n, e => e = (.cargoBuild parentCtrImg ca ["--bin", n], 0)
  | .p11Mod, e => e = (.cargoBuild enclaveCtrImg ca ["--lib"], 0)
  | .eif, e => e.1.istEif = true ∧ e.2 = 0
  | .al2Setup, e => e = (.tar "al2-setup", 0)

/-- **When `a` returns, it has built the artefacts `as`**: its run appended, for each, a line
    that builds it. -/
def Baut (ca : List String) (as : List Artefakt) (a : Skript Werkstatt) : Prop :=
  ∀ s k, (a s).1 = .fertig k → ∃ neu, (a s).2.spur = s.spur ++ neu ∧
    ∀ x ∈ as, ∃ e ∈ neu, x.erzeugt ca e

namespace Baut

variable {w} {ca : List String}

theorem ret (n : UInt8) : Baut ca [] (Skript.ret n) := fun s _ _ => ⟨[], by simp, nofun⟩

theorem of_ordnung {m : Bool} {a : Skript Werkstatt} (h : Haelt (ordnung w m) a) :
    Baut ca [] a := fun s _ _ =>
  let ⟨neu, hs, _⟩ := h s
  ⟨neu, hs, nofun⟩

theorem mono {xs ys : List Artefakt} {a : Skript Werkstatt} (h : ∀ x ∈ xs, x ∈ ys)
    (hb : Baut ca ys a) : Baut ca xs a := fun s k hk =>
  let ⟨neu, hs, f⟩ := hb s k hk
  ⟨neu, hs, fun x hx => f x (h x hx)⟩

theorem seq {xs ys : List Artefakt} {a b : Skript Werkstatt} (ha : Baut ca xs a)
    (hb : Baut ca ys b) : Baut ca (xs ++ ys) (Skript.seq a b) := by
  intro s k hk
  rw [Skript.seq, seqS_apply] at hk ⊢
  rcases e : a s with ⟨n | c, t⟩ <;> rw [e] at hk
  · rw [weiter_fertig] at hk ⊢
    obtain ⟨n₁, h₁, f₁⟩ := ha s n (by rw [e])
    obtain ⟨n₂, h₂, f₂⟩ := hb t k hk
    rw [e] at h₁
    refine ⟨n₁ ++ n₂, by rw [h₂, h₁, List.append_assoc], fun x hx => ?_⟩
    rcases List.mem_append.mp hx with hx | hx
    · obtain ⟨e, he, hx⟩ := f₁ x hx
      exact ⟨e, List.mem_append_left _ he, hx⟩
    · obtain ⟨e, he, hx⟩ := f₂ x hx
      exact ⟨e, List.mem_append_right _ he, hx⟩
  · cases hk

/-- A step that keeps the rule of `devtool build`, then one that builds `xs`. -/
theorem nach {m : Bool} {xs : List Artefakt} {a b : Skript Werkstatt}
    (ha : Haelt (ordnung w m) a) (hb : Baut ca xs b) : Baut ca xs (Skript.seq a b) :=
  (of_ordnung ha).seq hb

theorem ifThen_test (c : Bool) {xs : List Artefakt} {t : Skript Werkstatt} (ht : Baut ca xs t) :
    Baut ca (if c then xs else []) (ifThen (test c) t) := by
  cases c
  exacts [ret 0, ht]

/-- A checked line that builds `x`. -/
theorem pruefe_lies (x : Artefakt) (f : Werkstatt → Befehl) (hx : ∀ s, x.erzeugt ca (f s, 0)) :
    Baut ca [x] (pruefe (lies fun s => befehl w (f s))) := fun s k hk => by
  by_cases h : w.status s.spur (f s) = 0
  · refine ⟨[(f s, 0)], by simp [pruefe, okOrDie, h], fun y hy => ?_⟩
    rw [List.mem_singleton.mp hy]
    exact ⟨_, List.mem_singleton_self _, hx s⟩
  · simp [pruefe, okOrDie, h] at hk

theorem pruefe_befehl (x : Artefakt) (b : Befehl) (hx : x.erzeugt ca (b, 0)) :
    Baut ca [x] (pruefe (befehl w b)) := pruefe_lies x (fun _ => b) fun _ => hx

theorem of_liefert {xs : List Eintrag} {as : List Artefakt} {a : Skript Werkstatt}
    (hl : Liefert xs a) (h : ∀ x ∈ as, ∃ e ∈ xs, x.erzeugt ca e) : Baut ca as a := fun s k hk =>
  let ⟨neu, hs, _, l⟩ := hl s
  ⟨neu, hs, fun x hx =>
    let ⟨e, he, hx⟩ := h x hx
    ⟨e, (l k hk).subset he, hx⟩⟩

end Baut

/-- The loops build the binaries of the locals. -/
theorem cmdBuildBins_baut (o : BuildLokale) :
    Baut o.cargoArgs (o.enclaveBins.map .enclaveBin ++ o.parentBins.map .parentBin ++
      (if o.p11Mod then [.p11Mod] else [])) (cmdBuildBins w o) := by
  refine Baut.of_liefert (cmdBuildBins_liefert w o) fun x hx => ?_
  simp only [List.mem_append, List.mem_map] at hx
  rcases hx with (⟨n, hn, rfl⟩ | ⟨n, hn, rfl⟩) | hx
  · exact ⟨_, by simp [BuildLokale.cargoZeilen, hn], rfl⟩
  · exact ⟨_, by simp [BuildLokale.cargoZeilen, hn], rfl⟩
  · cases hp : o.p11Mod <;> rw [hp] at hx
    · cases hx
    · rw [List.mem_singleton.mp hx]
      exact ⟨_, by simp [BuildLokale.cargoZeilen, hp], rfl⟩

/-- `build_eif` builds an image. -/
theorem buildEif_baut {bauen : List String → Skript Werkstatt}
    (hb : ∀ args, Haelt (ordnung w true) (bauen args)) (ca : List String) (dir cert key : String) :
    Baut ca [.eif] (buildEif w bauen dir cert key) := by
  have g := grundregel_ordnung w true
  have sign : Haelt (ordnung w true) (ifThen (test (dir != "")) (setzeSigning dir cert key)) :=
    Haelt.ifThen (Haelt.test _) (aendern_ordnung fun _ => rfl)
  unfold buildEif
  rw [pruefe_and]
  exact Baut.nach g.ensureEnclaveCtr_haelt <| Baut.nach g.ensureParentCtr_haelt <|
    Baut.nach (Haelt.seq (g.zeile _ rfl) (g.zeile _ rfl)) <| Baut.nach (g.pruefe_haelt (hb _)) <|
    Baut.nach (g.zeile _ rfl) <| Baut.nach (g.zeile _ rfl) <|
    Baut.nach (Haelt.and (Haelt.test _) g.die_haelt) <|
    Baut.nach sign <| Baut.mono (by simp) <|
    (Baut.pruefe_lies .eif (fun s => .nitroBuild s.signingExtraDockerArgs s.signingExtraBuildArgs)
      fun _ => ⟨rfl, rfl⟩).seq <|
    Baut.of_ordnung (Haelt.seq (Haelt.ret 0) (Haelt.seq (Haelt.ret 0) (g.ungeprueft _ rfl rfl)))

/-- `build_al2_setup` builds the installer. -/
theorem buildAl2Setup_baut {bauen : List String → Skript Werkstatt}
    (hb : ∀ args, Haelt (ordnung w true) (bauen args)) (ca : List String) :
    Baut ca [.al2Setup] (buildAl2Setup w bauen) := by
  have g := grundregel_ordnung w true
  unfold buildAl2Setup
  rw [pruefe_and, pruefe_and]
  exact Baut.nach (Haelt.seq (g.zeile _ rfl) (g.zeile _ rfl)) <|
    Baut.nach (g.pruefe_haelt (hb _)) <| Baut.nach (g.pruefe_haelt (hb _)) <|
    Baut.nach g.installs_haelt <| Baut.nach (g.ungeprueft _ rfl rfl) <|
    Baut.mono (by simp) <| (Baut.nach (g.zeile (.pushd (evaultBuildDir w)) rfl)
      (Baut.pruefe_befehl .al2Setup (.tar "al2-setup") rfl)).seq <|
    Baut.of_ordnung (Haelt.seq (g.ungeprueft _ rfl rfl) (Haelt.ret 0))

theorem cmdBuildMit_baut {bauen : List String → Skript Werkstatt}
    (hb : ∀ args, Haelt (ordnung w true) (bauen args)) (o : BuildLokale) :
    Baut o.cargoArgs o.artefakte (cmdBuildMit w bauen o) := by
  unfold cmdBuildMit BuildLokale.artefakte
  exact Baut.mono (by simp) <| (cmdBuildBins_baut w o).seq <|
    (Baut.ifThen_test _ (buildEif_baut w hb _ _ _ _)).seq
      (Baut.ifThen_test _ (buildAl2Setup_baut w hb _))

/-- **`cmd_build`, when it returns, has built every artefact of its locals.** -/
theorem cmdBuild_baut (n : Nat) {args : List String} {o : BuildLokale}
    (h : cmdBuildLokale args = .ok o) : Baut o.cargoArgs o.artefakte (cmdBuild w n args) := by
  cases n with
  | zero => exact fun _ _ hk => nomatch hk
  | succ n =>
    simp only [cmdBuild, h]
    exact cmdBuildMit_baut w (cmdBuild_ordnung w n) o

/-! ## 2. Which runs return -/

theorem say_kehrt : Kehrt (· = 0) say := Kehrt.ret_null

theorem pruefe_kehrt {a : Skript Werkstatt} (h : Kehrt (· = 0) a) : Kehrt (· = 0) (pruefe a) :=
  Kehrt.seqS h fun _ hn => by subst hn; exact Kehrt.ret_null

/-- A check that fails before `&& die` skips it. -/
theorem die_uebersprungen : Kehrt (fun _ => True) (Skript.and (test false) die) :=
  fun s => ⟨1, s, rfl, trivial⟩

/-- `[[ -z "$docker_gid" ]] && die` with the group known. -/
theorem gid_kehrt (hg : w.dockerGid ≠ "") :
    Kehrt (fun _ => True) (Skript.and (test (w.dockerGid == "")) die) := by
  rw [show (w.dockerGid == "") = false by simpa using hg]
  exact die_uebersprungen

section Gelingt

/-! The machine on which every command line succeeds. -/

variable {w} (hs : ∀ tr b, w.status tr b = 0)
include hs

theorem befehl_kehrt (b : Befehl) : Kehrt (· = 0) (befehl w b) := fun _ =>
  ⟨_, _, rfl, hs _ _⟩

theorem zeile_kehrt (b : Befehl) : Kehrt (· = 0) (pruefe (befehl w b)) :=
  pruefe_kehrt (befehl_kehrt hs b)

theorem ensureBuildDirs_kehrt : Kehrt (· = 0) (ensureBuildDirs w) :=
  Kehrt.seq (zeile_kehrt hs _) (Kehrt.seq (zeile_kehrt hs _) (zeile_kehrt hs _))

theorem ensureDocker_kehrt : Kehrt (· = 0) (ensureDocker w) :=
  Kehrt.seq (zeile_kehrt hs _) (zeile_kehrt hs _)

theorem ensureCtr_kehrt {bild : String} {bauen : Skript Werkstatt} (h : Kehrt (· = 0) bauen) :
    Kehrt (· = 0) (ensureCtr w bild bauen) :=
  Kehrt.seq (ensureDocker_kehrt hs) <|
    pruefe_kehrt (Kehrt.or (Kehrt.lies fun _ => Kehrt.test _) (Kehrt.seq say_kehrt h))

theorem ensureEnclaveCtr_kehrt : Kehrt (· = 0) (ensureEnclaveCtr w) :=
  ensureCtr_kehrt hs <| Kehrt.seq (ensureDocker_kehrt hs) <|
    Kehrt.seq (ensureBuildDirs_kehrt hs) (befehl_kehrt hs _)

theorem ensureParentCtr_kehrt : Kehrt (· = 0) (ensureParentCtr w) :=
  ensureCtr_kehrt hs <| Kehrt.seq (ensureDocker_kehrt hs) <|
    Kehrt.seq (ensureBuildDirs_kehrt hs) <|
    Kehrt.seq (pruefe_kehrt (Kehrt.and (befehl_kehrt hs _) (befehl_kehrt hs _)))
      (befehl_kehrt hs _)

theorem baueBin_kehrt {ensure : Skript Werkstatt} (h : Kehrt (· = 0) ensure) (bild : String)
    (cargoArgs ziel : List String) : Kehrt (· = 0) (baueBin w ensure bild cargoArgs ziel) :=
  Kehrt.seq h (Kehrt.seq (zeile_kehrt hs _) say_kehrt)

theorem cmdBuildBins_kehrt (o : BuildLokale) : Kehrt (· = 0) (cmdBuildBins w o) :=
  Kehrt.seq (ensureBuildDirs_kehrt hs) <|
  Kehrt.seq (Kehrt.forIn (fun _ => baueBin_kehrt hs (ensureEnclaveCtr_kehrt hs) _ _ _) _) <|
  Kehrt.seq (Kehrt.forIn (fun _ => baueBin_kehrt hs (ensureParentCtr_kehrt hs) _ _ _) _) <|
  Kehrt.ifThen (Kehrt.test _) (baueBin_kehrt hs (ensureEnclaveCtr_kehrt hs) _ _ _)

/-- A call that builds neither image nor installer returns, its own calls whatever they do. -/
theorem cmdBuild_blatt_kehrt (n : Nat) {args : List String} {o : BuildLokale}
    (h : cmdBuildLokale args = .ok o) (he : o.eif = false) (ha : o.al2Setup = false) :
    Kehrt (· = 0) (cmdBuild w (n + 1) args) := by
  simp only [cmdBuild, h]
  unfold cmdBuildMit
  rw [he, ha, ifThen_test_false, ifThen_test_false]
  exact Kehrt.seq (cmdBuildBins_kehrt hs o) (Kehrt.seq Kehrt.ret_null Kehrt.ret_null)

theorem cmdSimulateParent_kehrt : Kehrt (· = 0) (cmdSimulateParent w) :=
  Kehrt.seq (ensureParentCtr_kehrt hs) <|
  Kehrt.seq (pruefe_kehrt (cmdBuild_blatt_kehrt hs 2 cmdBuildLokale_simParent rfl rfl)) <|
  Kehrt.seq (Kehrt.lies fun _ => Kehrt.ifThen (Kehrt.test _) say_kehrt) (befehl_kehrt hs _)

/-- With no enclave container running, `simulate-enclave` passes its check. -/
theorem cmdSimulateEnclave_kehrt (hl : ∀ tr, w.laufend tr enclaveCtr = "") :
    Kehrt (· = 0) (cmdSimulateEnclave w) :=
  Kehrt.seq (ensureBuildDirs_kehrt hs) <| Kehrt.seq (ensureEnclaveCtr_kehrt hs) <|
  Kehrt.seq (Kehrt.lies fun s => by
    rw [show laeuft w s enclaveCtr = false by simp [laeuft, hl]]
    exact die_uebersprungen) <|
  Kehrt.seq (pruefe_kehrt (cmdBuild_blatt_kehrt hs 2 cmdBuildLokale_simEnclave rfl rfl)) <|
  Kehrt.seq (befehl_kehrt hs _) (befehl_kehrt hs _)

theorem buildAl2Setup_kehrt {bauen : List String → Skript Werkstatt}
    (hp : Kehrt (· = 0) (bauen parentArgs)) (hd : Kehrt (· = 0) (bauen devArgs)) :
    Kehrt (· = 0) (buildAl2Setup w bauen) :=
  Kehrt.seq (pruefe_kehrt (Kehrt.and (befehl_kehrt hs _) (befehl_kehrt hs _))) <|
  Kehrt.seq (pruefe_kehrt hp) <| Kehrt.seq (pruefe_kehrt hd) <|
  Kehrt.seq (pruefe_kehrt (Kehrt.andAlle fun _ ha => by
    rcases List.mem_cons.mp ha with rfl | ha
    · exact befehl_kehrt hs _
    · obtain ⟨⟨_, _, _⟩, -, rfl⟩ := List.mem_map.mp ha
      exact befehl_kehrt hs _)) <|
  Kehrt.seq (befehl_kehrt hs _) <|
  Kehrt.seq (pruefe_kehrt (Kehrt.and (befehl_kehrt hs _) (befehl_kehrt hs _))) <|
  Kehrt.seq (befehl_kehrt hs _) say_kehrt

variable (hg : w.dockerGid ≠ "")
include hg

theorem buildEif_kehrt {bauen : List String → Skript Werkstatt}
    (hb : Kehrt (· = 0) (bauen encArgs)) (dir cert key : String) :
    Kehrt (· = 0) (buildEif w bauen dir cert key) :=
  Kehrt.seq (ensureEnclaveCtr_kehrt hs) <| Kehrt.seq (ensureParentCtr_kehrt hs) <|
  Kehrt.seq (pruefe_kehrt (Kehrt.and (befehl_kehrt hs _) (befehl_kehrt hs _))) <|
  Kehrt.seq (pruefe_kehrt hb) <| Kehrt.seq (zeile_kehrt hs _) <| Kehrt.seq (zeile_kehrt hs _) <|
  Kehrt.seq (gid_kehrt w hg) <| Kehrt.seq (Kehrt.ifThen (Kehrt.test _) (Kehrt.aendern _)) <|
  Kehrt.seq (pruefe_kehrt (Kehrt.lies fun _ => befehl_kehrt hs _)) <|
  Kehrt.seq say_kehrt <| Kehrt.seq say_kehrt (befehl_kehrt hs _)

/-- The body returns when the calls it makes of itself for these locals do. -/
theorem cmdBuildMit_kehrt {bauen : List String → Skript Werkstatt} (o : BuildLokale)
    (he : o.eif = true → Kehrt (· = 0) (bauen encArgs))
    (ha : o.al2Setup = true → Kehrt (· = 0) (bauen parentArgs) ∧ Kehrt (· = 0) (bauen devArgs)) :
    Kehrt (· = 0) (cmdBuildMit w bauen o) :=
  Kehrt.seq (cmdBuildBins_kehrt hs o) <|
  Kehrt.seq (Kehrt.ifThen_test _ fun h => buildEif_kehrt hs hg (he h) _ _ _) <|
  Kehrt.ifThen_test _ fun h => buildAl2Setup_kehrt hs (ha h).1 (ha h).2

/-- **With fuel three, `cmd_build` returns** for every argument list its loop accepts. -/
theorem cmdBuild_kehrt (n : Nat) {args : List String} {o : BuildLokale}
    (h : cmdBuildLokale args = .ok o) : Kehrt (· = 0) (cmdBuild w (n + 3) args) := by
  have enc : ∀ m, Kehrt (· = 0) (cmdBuild w (m + 1) encArgs) := fun m =>
    cmdBuild_blatt_kehrt hs m cmdBuildLokale_encArgs rfl rfl
  have par : ∀ m, Kehrt (· = 0) (cmdBuild w (m + 1) parentArgs) := fun m =>
    cmdBuild_blatt_kehrt hs m cmdBuildLokale_parentArgs rfl rfl
  have dev : Kehrt (· = 0) (cmdBuild w (n + 2) devArgs) := by
    simp only [cmdBuild, cmdBuildLokale_devArgs]
    exact cmdBuildMit_kehrt hs hg _ (fun _ => enc n) nofun
  simp only [cmdBuild, h]
  exact cmdBuildMit_kehrt hs hg o (fun _ => enc (n + 1)) fun _ => ⟨par (n + 1), dev⟩

end Gelingt

/-! ## 3. The whole tool -/

theorem main_build (rest : List String) : main w ("build" :: rest) = cmdBuild w 3 rest := by
  funext s
  rw [main_eq]
  simp [cmdFn]

/-- A run that keeps the order of `cmd_build` and exits with 0 has returned. -/
theorem fertig_of_code_null {m : Bool} {a : Skript Werkstatt} (ha : Haelt (ordnung w m) a)
    (s : Werkstatt) (h0 : (a s).1.code = 0) : (a s).1 = .fertig 0 := by
  obtain ⟨_, -, g⟩ := ha s
  cases e : (a s).1 with
  | fertig k => rw [e] at h0; rw [show k = 0 from h0]
  | exit c => rw [e] at h0; exact absurd h0 (g.exit_ne c e)

/-- **A build that exits with 0 has built everything its targets name**: for every machine,
    every trace and every non-empty list of targets, when `devtool build` on their words exits
    with 0, the lines it has appended build each artefact a target names, each with status 0,
    and its cargo builds carry one `--release` per `--release` among the targets. -/
theorem devtool_build_erzeugt (ts : List Ziel) (h : ts ≠ []) (s : Werkstatt)
    (h0 : (main w ("build" :: ts.flatMap Ziel.woerter) s).1.code = 0) :
    ∃ neu, (main w ("build" :: ts.flatMap Ziel.woerter) s).2.spur = s.spur ++ neu ∧
      ∀ t ∈ ts, ∀ a ∈ t.artefakte, ∃ e ∈ neu,
        a.erzeugt (List.replicate (ts.count .release) "--release") e := by
  have hl := cmdBuildLokale_ziele h []
  rw [leseBuildArgs_ziele, List.append_nil] at hl
  rw [main_build] at h0 ⊢
  obtain ⟨neu, hneu, hb⟩ :=
    cmdBuild_baut w 3 hl s 0 (fertig_of_code_null w (cmdBuild_ordnung w 3 _) s h0)
  refine ⟨neu, hneu, fun t ht a ha => ?_⟩
  have hx := hb a ((artefakte_foldl ts BuildLokale.gut_leer a).2 (Or.inr ⟨t, ht, ha⟩))
  rwa [cargoArgs_foldl, BuildLokale.leer, List.nil_append] at hx

theorem devtool_build_erzeugt_spiel :
    [Ziel.enclaveBins] ≠ [] ∧
      (main spielBank ("build" :: [Ziel.enclaveBins].flatMap Ziel.woerter)
        ⟨[], "", ""⟩).1.code = 0 ∧
      ∃ neu, (main spielBank ("build" :: [Ziel.enclaveBins].flatMap Ziel.woerter)
          ⟨[], "", ""⟩).2.spur = [] ++ neu ∧
        ∀ t ∈ [Ziel.enclaveBins], ∀ a ∈ t.artefakte, ∃ e ∈ neu,
          a.erzeugt (List.replicate ([Ziel.enclaveBins].count .release) "--release") e :=
  have hb : Kehrt (· = 0) (cmdBuild spielBank 3 ([Ziel.enclaveBins].flatMap Ziel.woerter)) :=
    cmdBuild_kehrt (fun _ _ => rfl) (by decide) 0 rfl
  have h0 : (main spielBank ("build" :: [Ziel.enclaveBins].flatMap Ziel.woerter)
      ⟨[], "", ""⟩).1.code = 0 := by
    rw [main_build, Kehrt.fertig_null hb]
    rfl
  ⟨by simp, h0, devtool_build_erzeugt spielBank [Ziel.enclaveBins] (by simp) ⟨[], "", ""⟩ h0⟩

end NitroEnclavesAcm.Devtool
