import NitroEnclavesAcm.Devtool.Ordnung

/-
  File:      NitroEnclavesAcm/Devtool/Main.lean
  Subject:   `main` of `tools/devtool` and the commands it runs besides `build`: `cmd_help`,
             `cmd_clean`, `cmd_simulate-enclave` and `cmd_simulate-parent` (with
             `get_running_container_id`); what every run of the tool keeps.

  THE QUESTION. `devtool <command> …` runs the function `cmd_<command>` on the other words.
  `devtool build` stops at its first failed step (`Devtool/Ordnung.lean`); does every command?
  The two simulations start containers that run the debug build: is it built first, and does
  `simulate-enclave` keep a second enclave container from starting?

  THE ANSWER. **`main` dispatches** (`main_eq`): no command, an empty one, or one that names no
  `cmd_` function exits with 1 before any command line; otherwise the command's function runs on
  the other words. **Every command but `clean` stops at its first failed step and exits with its
  status** (`devtool_haelt_an`); the tool ignores only the statuses of `docker rmi` and `popd` in
  `build` and of the `rm -f` of the sockets. **A simulation starts last, after building what it
  runs** (`devtool_simulation_frisch`): the enclave container only after `docker ps` listed no
  container of its name and after the debug builds of `p11ne-server`, `p11ne-init` and the
  PKCS#11 module, the parent container after those of `p11ne-agent` and `p11ne-client`, each
  with status 0. **`clean` exits with the status of its last removal** (`devtool_clean`): it
  runs all nine `rm -rf`, and a failure of the first eight is not reported.

  Both simulations check `cmd_build` with `ok_or_die "Build failed."`, which never fires:
  `cmd_build` returns only with 0 (`cmdBuild_endetNull`).

  NOT here: what the containers do once they run.
-/

namespace NitroEnclavesAcm.Devtool

open Bash (Skript Ausgang)
open Bash.Skript

variable (w : Werkbank)

/-! ## 1. The commands -/

/-- `cmd_help`: `echo "$USAGE"`. -/
def cmdHelp : Skript Werkstatt := say

/-- `[[ -n $ctr_id ]]` after `ctr_id=$(get_running_container_id name)`: `docker ps` lists a
    container of that name. -/
def laeuft (s : Werkstatt) (name : String) : Bool := w.laufend s.spur name != ""

/-- The targets the simulations build: `cmd_build enclave-bins`, `cmd_build parent-bins`. -/
def simEnclaveArgs : List String := ["enclave-bins"]
def simParentArgs : List String := ["parent-bins"]

/-- `cmd_simulate-enclave`, with `cmd_build` three calls deep, which is all of its recursion
    (`cmdBuild_stabil`). -/
def cmdSimulateEnclave : Skript Werkstatt :=
  seq (ensureBuildDirs w) <|
  seq (ensureEnclaveCtr w) <|
  seq (lies fun s => Skript.and (test (laeuft w s enclaveCtr)) die) <|
  seq (pruefe (cmdBuild w 3 simEnclaveArgs)) <|
  seq (befehl w (.rmF (evaultRunDir w ++ "/*.sock"))) <|
  befehl w .simulateEnclave

/-- `cmd_simulate-parent`; `say_warn` when no enclave container runs. -/
def cmdSimulateParent : Skript Werkstatt :=
  seq (ensureParentCtr w) <|
  seq (pruefe (cmdBuild w 3 simParentArgs)) <|
  seq (lies fun s => ifThen (test !(laeuft w s enclaveCtr)) say) <|
  befehl w .simulateParent

/-- The function `cmd_<name>` when the tool defines one, which is what `declare -f` checks. -/
def cmdFn (name : String) : Option (List String → Skript Werkstatt) :=
  if name = "help" then some fun _ => cmdHelp
  else if name = "clean" then some fun _ => cmdClean w
  else if name = "build" then some (cmdBuild w 3)
  else if name = "simulate-enclave" then some fun _ => cmdSimulateEnclave w
  else if name = "simulate-parent" then some fun _ => cmdSimulateParent w
  else none

/-- `main "${@}"`: `die` without a command; `declare -f "cmd_$1"` and `ok_or_die`; then
    `cmd_$1` on the other words. The call of a missing function (status 127) is never reached. -/
def main (args : List String) : Skript Werkstatt :=
  seq (ifThen (test (args.headD "" == "")) die) <|
  seq (pruefe (test (cmdFn w (args.headD "")).isSome)) <|
  (cmdFn w (args.headD "")).getD (fun _ => ret 127) args.tail

/-! ## 2. The dispatch -/

theorem cmdFn_leer : cmdFn w "" = none := by simp [cmdFn]

/-- **The dispatch of `main`**: a command the tool defines runs on the other words; no command,
    an empty one and an unknown one exit with 1 and run nothing. -/
theorem main_eq (args : List String) (s : Werkstatt) :
    main w args s = match cmdFn w (args.headD "") with
      | some f => f args.tail s
      | none => (.exit 1, s) := by
  unfold main
  generalize args.headD "" = c
  cases h : cmdFn w c with
  | none => by_cases e : c = "" <;> simp [e, Skript.seq, Skript.ifThen, die, pruefe, okOrDie]
  | some f =>
    have e : c ≠ "" := by rintro rfl; rw [cmdFn_leer] at h; cases h
    simp [e, Skript.seq, Skript.ifThen, pruefe, okOrDie]

/-! ## 3. A failed step ends the tool -/

/-- **`a` ends at its first failure**: a failed line the tool acts on is the last line of the
    run, and the run ends with its status. -/
def Meldet (a : Skript Werkstatt) : Prop :=
  ∀ s, ∃ neu, (a s).2.spur = s.spur ++ neu ∧
    ∀ x e y, neu = x ++ e :: y → e.2 ≠ 0 → e.1.ungeprueft = false → (∀ p, e.1 ≠ .rmF p) →
      y = [] ∧ (a s).1.code = e.2

namespace Meldet

variable {w}

theorem of_ordnung {m : Bool} {a : Skript Werkstatt} (h : Haelt (ordnung w m) a) : Meldet a :=
  fun s =>
    let ⟨neu, hs, g⟩ := h s
    ⟨neu, hs, fun x e y hx h0 hu _ => by
      obtain ⟨hy, ho⟩ := g.halt x e y hx h0 hu
      exact ⟨hy, by rw [ho]; rfl⟩⟩

/-- The last line of a run ends it with its status. -/
theorem befehl (b : Befehl) : Meldet (befehl w b) := fun s =>
  ⟨[(b, w.status s.spur b)], rfl, fun x e y hx _ _ _ => by
    obtain ⟨rfl, rfl, rfl⟩ := eins_teile hx
    exact ⟨rfl, rfl⟩⟩

/-- A step that keeps the rule of `devtool build`, then one that ends at its first failure. -/
theorem seq {m : Bool} {a b : Skript Werkstatt} (ha : Haelt (ordnung w m) a) (hb : Meldet b) :
    Meldet (Skript.seq a b) := by
  intro s
  obtain ⟨n₁, h₁, g⟩ := ha s
  rw [Skript.seq, seqS_apply]
  rcases e : a s with ⟨k | c, t⟩ <;> rw [e] at h₁ g <;> dsimp only at h₁ g
  · obtain ⟨n₂, h₂, f⟩ := hb t
    refine ⟨n₁ ++ n₂, by rw [weiter_fertig, h₂, h₁, List.append_assoc],
      fun x e y hx h0 hu hr => ?_⟩
    rcases teile hx with ⟨y', rfl, -⟩ | ⟨x', rfl, rfl⟩
    · exact nomatch (g.halt x e y' rfl h0 hu).2
    · exact f x' e y rfl h0 hu hr
  · refine ⟨n₁, h₁, fun x e y hx h0 hu _ => ?_⟩
    obtain ⟨hy, ho⟩ := g.halt x e y hx h0 hu
    exact ⟨hy, by rw [weiter_exit, ho]; rfl⟩

/-- `rm -f`, whose status the tool ignores, then a step that ends at its first failure. -/
theorem rmF_seq (p : String) {k : Skript Werkstatt} (hk : Meldet k) :
    Meldet (Skript.seq (Devtool.befehl w (.rmF p)) k) := by
  intro s
  obtain ⟨n₂, h₂, f⟩ := hk { s with spur := s.spur ++ [(.rmF p, w.status s.spur (.rmF p))] }
  refine ⟨(.rmF p, w.status s.spur (.rmF p)) :: n₂, by simpa [Skript.seq] using h₂,
    fun x e y hx h0 hu hr => ?_⟩
  rcases x with _ | ⟨x₀, x⟩
  · obtain ⟨rfl, -⟩ := List.cons.inj hx
    exact absurd rfl (hr p)
  · exact f x e y (List.cons.inj hx).2 h0 hu hr

end Meldet

theorem cmdSimulateEnclave_meldet : Meldet (cmdSimulateEnclave w) := by
  have g := grundregel_ordnung w true
  exact Meldet.seq g.ensureBuildDirs_haelt <| Meldet.seq g.ensureEnclaveCtr_haelt <|
    Meldet.seq (Haelt.lies fun _ => Haelt.and (Haelt.test _) g.die_haelt) <|
    Meldet.seq (g.pruefe_haelt (cmdBuild_ordnung w 3 _)) <|
    Meldet.rmF_seq _ (Meldet.befehl _)

theorem cmdSimulateParent_meldet : Meldet (cmdSimulateParent w) := by
  have g := grundregel_ordnung w true
  exact Meldet.seq g.ensureParentCtr_haelt <|
    Meldet.seq (g.pruefe_haelt (cmdBuild_ordnung w 3 _)) <|
    Meldet.seq (Haelt.lies fun _ => Haelt.ifThen (Haelt.test _) (Haelt.ret 0) :
      Haelt (ordnung w true) _) (Meldet.befehl _)

/-- Every command but `clean`, after the dispatch. -/
theorem main_meldet (args : List String) (hc : args.headD "" ≠ "clean") :
    Meldet (main w args) := by
  have g := grundregel_ordnung w true
  have hret : ∀ n, Meldet (ret n) := fun n =>
    Meldet.of_ordnung (Haelt.ret n : Haelt (ordnung w true) _)
  unfold main
  refine Meldet.seq (Haelt.ifThen (Haelt.test _) g.die_haelt) <|
    Meldet.seq (g.pruefe_haelt (Haelt.test _)) ?_
  unfold cmdFn
  -- `split_ifs` closes the branch of `clean` by `hc`
  split_ifs
  · exact hret 0
  · exact Meldet.of_ordnung (cmdBuild_ordnung w 3 _)
  · exact cmdSimulateEnclave_meldet w
  · exact cmdSimulateParent_meldet w
  · exact hret 127

/-- **A failed step ends every command but `clean`**: in every run of `devtool`, on every
    machine, with every argument list whose command is not `clean` and after every trace, a
    failed command line other than `docker rmi`, `popd` and `rm -f` is the last line of the run,
    and the tool ends with its status. -/
theorem devtool_haelt_an (args : List String) (hc : args.headD "" ≠ "clean") (s : Werkstatt) :
    ∃ neu, (main w args s).2.spur = s.spur ++ neu ∧
      ∀ x e y, neu = x ++ e :: y → e.2 ≠ 0 → e.1.ungeprueft = false → (∀ p, e.1 ≠ .rmF p) →
        y = [] ∧ (main w args s).1.code = e.2 :=
  main_meldet w args hc s

/-- A machine on which every line succeeds, every image is there and no container runs. -/
def spielBank : Werkbank where
  srcDir := "/p11ne"
  uid := 1000
  gid := 1000
  user := "dev"
  rustToolchain := ""
  terminal := false
  dockerGid := "998"
  bildDa _ _ := true
  status _ _ := 0
  laufend _ _ := ""

theorem devtool_haelt_an_spiel :
    ∃ neu, (main spielBank ["simulate-parent"] ⟨[], "", ""⟩).2.spur = [] ++ neu ∧
      ∀ x e y, neu = x ++ e :: y → e.2 ≠ 0 → e.1.ungeprueft = false → (∀ p, e.1 ≠ .rmF p) →
        y = [] ∧ (main spielBank ["simulate-parent"] ⟨[], "", ""⟩).1.code = e.2 :=
  devtool_haelt_an spielBank ["simulate-parent"] (by decide) ⟨[], "", ""⟩

/-! ## 4. What a simulation runs -/

/-- The two lines that start a simulation. -/
def Befehl.simuliert : Befehl → Bool
  | .simulateEnclave | .simulateParent => true
  | _ => false

/-- A line of `devtool build` starts no simulation. -/
theorem Befehl.simuliert_bau {b : Befehl} (h : b.imBau = true ∨ b.istEif = true) :
    b.simuliert = false := by
  cases b <;> first | rfl | (rcases h with h | h <;> cases h)

/-- The debug builds `cmd_build enclave-bins` makes, each with status 0: the binaries the
    enclave container runs (`enclaveSkript`), and `p11ne-init`. -/
def debugEnclave : List Eintrag :=
  [(.cargoBuild enclaveCtrImg [] ["--bin", evbinRpcServer], 0),
   (.cargoBuild enclaveCtrImg [] ["--bin", evbinInit], 0),
   (.cargoBuild enclaveCtrImg [] ["--lib"], 0)]

/-- The debug builds `cmd_build parent-bins` makes, each with status 0: the binaries on the
    `PATH` of the parent container's shell (`parentSkript`). -/
def debugParent : List Eintrag :=
  [(.cargoBuild parentCtrImg [] ["--bin", evbinAgent], 0),
   (.cargoBuild parentCtrImg [] ["--bin", evbinRpcClient], 0)]

theorem cmdBuildLokale_simEnclave :
    cmdBuildLokale simEnclaveArgs = .ok ⟨[evbinRpcServer, evbinInit], [], false, true, false, "",
      "", "", []⟩ := rfl

theorem cmdBuildLokale_simParent :
    cmdBuildLokale simParentArgs = .ok ⟨[], [evbinAgent, evbinRpcClient], false, false, false,
      "", "", "", []⟩ := rfl

/-- **What the simulations of a run have before them**: a simulation is the last line of the
    run; before the enclave's stand, among the run's lines, the debug builds of what it runs, and
    at a point of the run before it `docker ps` listed no enclave container; before the
    parent's, the debug builds of what it runs. -/
def SimFrisch (a : Skript Werkstatt) : Prop :=
  ∀ s, ∃ neu, (a s).2.spur = s.spur ++ neu ∧ ∀ x e y, neu = x ++ e :: y →
    (e.1 = .simulateEnclave → y = [] ∧ List.Sublist debugEnclave x ∧
      ∃ x₁, List.IsPrefix x₁ x ∧ w.laufend (s.spur ++ x₁) enclaveCtr = "") ∧
    (e.1 = .simulateParent → y = [] ∧ List.Sublist debugParent x)

namespace SimFrisch

variable {w}

/-- A line of `devtool build` starts no simulation. -/
theorem aus_bau {m : Bool} {vor neu : List Eintrag} {o : Ausgang} (g : Geordnet w m vor neu o)
    {x y : List Eintrag} {e : Eintrag} (hx : neu = x ++ e :: y) {P Q : Prop} :
    (e.1 = .simulateEnclave → P) ∧ (e.1 = .simulateParent → Q) := by
  have h := Befehl.simuliert_bau (g.bau e (by simp [hx]))
  constructor <;> intro he <;> rw [he] at h <;> cases h

theorem of_ordnung {m : Bool} {a : Skript Werkstatt} (h : Haelt (ordnung w m) a) :
    SimFrisch w a := fun s =>
  let ⟨neu, hs, g⟩ := h s
  ⟨neu, hs, fun _ _ _ hx => aus_bau g hx⟩

/-- A step that keeps the rule of `devtool build`, then one whose simulations are fresh. -/
theorem seq {m : Bool} {a b : Skript Werkstatt} (ha : Haelt (ordnung w m) a)
    (hb : SimFrisch w b) : SimFrisch w (Skript.seq a b) := by
  intro s
  obtain ⟨n₁, h₁, g⟩ := ha s
  rw [Skript.seq, seqS_apply]
  rcases e : a s with ⟨k | c, t⟩ <;> rw [e] at h₁ g <;> dsimp only at h₁ g
  · obtain ⟨n₂, h₂, f⟩ := hb t
    refine ⟨n₁ ++ n₂, by rw [weiter_fertig, h₂, h₁, List.append_assoc], fun x e y hx => ?_⟩
    rcases teile hx with ⟨y', rfl, -⟩ | ⟨x', rfl, rfl⟩
    · exact aus_bau g rfl
    · obtain ⟨fe, fp⟩ := f x' e y rfl
      refine ⟨fun he => ?_, fun he => ?_⟩
      · obtain ⟨hy, hd, x₁, hp, hl⟩ := fe he
        exact ⟨hy, hd.trans (List.sublist_append_right _ _), n₁ ++ x₁,
          (List.prefix_append_right_inj n₁).mpr hp, by rw [← List.append_assoc, ← h₁, hl]⟩
      · obtain ⟨hy, hd⟩ := fp he
        exact ⟨hy, hd.trans (List.sublist_append_right _ _)⟩
  · exact ⟨n₁, h₁, fun _ _ _ hx => aus_bau g hx⟩

end SimFrisch

/-- **The last line after a build**: in a run of `d; t; b`, where `d` keeps the rule of
    `devtool build` and delivers `xs`, and `t` returns after lines that start no simulation, a
    simulation is the last line, `b`, with `xs` before it. -/
theorem nach_bau {d : Skript Werkstatt} {xs : List Eintrag} (hd : Haelt (ordnung w true) d)
    (hl : Liefert xs d) (t : Skript Werkstatt)
    (ht : ∀ s, ∃ l k, t s = (.fertig k, { s with spur := s.spur ++ l }) ∧
      ∀ e ∈ l, e.1.simuliert = false)
    (b : Befehl) (s : Werkstatt) :
    ∃ neu, (Skript.seq d (Skript.seq t (befehl w b)) s).2.spur = s.spur ++ neu ∧
      ∀ x e y, neu = x ++ e :: y → e.1.simuliert = true →
        y = [] ∧ e.1 = b ∧ List.Sublist xs x := by
  obtain ⟨n₁, h₁, g⟩ := hd s
  obtain ⟨n₁', h₁', -, hx⟩ := hl s
  obtain rfl := List.append_cancel_left (h₁.symm.trans h₁')
  rw [Skript.seq, seqS_apply]
  rcases e : d s with ⟨k | c, u⟩ <;> rw [e] at h₁ g hx <;> dsimp only at h₁ g hx
  · obtain ⟨l, k', ht', hl'⟩ := ht u
    refine ⟨n₁ ++ l ++ [(b, w.status (u.spur ++ l) b)], by simp [Skript.seq, ht', h₁],
      fun x e y hxy hs => ?_⟩
    rcases teile hxy with ⟨y', hn, -⟩ | ⟨x', rfl, h'⟩
    · have he : e ∈ n₁ ++ l := by rw [hn]; simp
      rcases List.mem_append.mp he with h | h
      · rw [Befehl.simuliert_bau (g.bau e h)] at hs; cases hs
      · rw [hl' e h] at hs; cases hs
    · obtain ⟨rfl, rfl, rfl⟩ := eins_teile h'
      exact ⟨rfl, rfl, (hx k rfl).trans (by simp)⟩
  · refine ⟨n₁, by simpa using h₁, fun x e y hxy hs => ?_⟩
    rw [Befehl.simuliert_bau (g.bau e (by simp [hxy]))] at hs; cases hs

/-- **`simulate-enclave`**: with an enclave container listed it dies before any line; otherwise
    the enclave container starts last, after the debug builds. -/
theorem cmdSimulateEnclave_frisch : SimFrisch w (cmdSimulateEnclave w) := by
  have g := grundregel_ordnung w true
  refine SimFrisch.seq g.ensureBuildDirs_haelt
    (SimFrisch.seq g.ensureEnclaveCtr_haelt fun s => ?_)
  cases hl : laeuft w s enclaveCtr
  · obtain ⟨neu, h, f⟩ := nach_bau w (g.pruefe_haelt (cmdBuild_ordnung w 3 simEnclaveArgs))
      (Liefert.geprueft (cmdBuild_blatt_liefert w 3 cmdBuildLokale_simEnclave rfl rfl))
      (befehl w (.rmF (evaultRunDir w ++ "/*.sock")))
      (fun u => ⟨_, _, rfl, by simp [Befehl.simuliert]⟩) .simulateEnclave s
    refine ⟨neu, by simpa [Skript.seq, Skript.and, hl] using h,
      fun x e y hx => ⟨fun he => ?_, fun he => ?_⟩⟩
    · obtain ⟨hy, -, hd⟩ := f x e y hx (by rw [he]; rfl)
      exact ⟨hy, hd, [], List.nil_prefix, by simpa [laeuft] using hl⟩
    · cases (f x e y hx (by rw [he]; rfl)).2.1.symm.trans he
  · exact ⟨[], by simp [Skript.seq, Skript.and, hl, die], by simp⟩

/-- **`simulate-parent`**: the parent container starts last, after the debug builds; a missing
    enclave container only draws a warning. -/
theorem cmdSimulateParent_frisch : SimFrisch w (cmdSimulateParent w) := by
  have g := grundregel_ordnung w true
  refine SimFrisch.seq g.ensureParentCtr_haelt fun s => ?_
  obtain ⟨neu, h, f⟩ := nach_bau w (g.pruefe_haelt (cmdBuild_ordnung w 3 simParentArgs))
    (Liefert.geprueft (cmdBuild_blatt_liefert w 3 cmdBuildLokale_simParent rfl rfl))
    (lies fun s => ifThen (test !(laeuft w s enclaveCtr)) say)
    (fun u => ⟨[], 0, by cases laeuft w u enclaveCtr <;> simp [Skript.ifThen, say], by simp⟩)
    .simulateParent s
  refine ⟨neu, h, fun x e y hx => ⟨fun he => ?_, fun he => ?_⟩⟩
  · cases (f x e y hx (by rw [he]; rfl)).2.1.symm.trans he
  · obtain ⟨hy, -, hd⟩ := f x e y hx (by rw [he]; rfl)
    exact ⟨hy, hd⟩

/-! ## 5. `clean` -/

/-- **A loop of command lines runs every one**, whatever their statuses, and ends with the last
    one's status. -/
theorem forInAux_befehl {α : Type} (f : α → Befehl) :
    ∀ (xs : List α) (n : UInt8) (s : Werkstatt), ∃ cs : List UInt8, cs.length = xs.length ∧
      (forInAux (fun x => befehl w (f x)) xs n s).2.spur = s.spur ++ (xs.map f).zip cs ∧
      (forInAux (fun x => befehl w (f x)) xs n s).1 = .fertig (cs.getLast?.getD n)
  | [], n, s => ⟨[], rfl, by simp [forInAux], rfl⟩
  | x :: xs, _, s => by
    obtain ⟨cs, hl, hs, ho⟩ := forInAux_befehl f xs (w.status s.spur (f x))
      { s with spur := s.spur ++ [(f x, w.status s.spur (f x))] }
    refine ⟨w.status s.spur (f x) :: cs, by simp [hl], by simpa [forInAux] using hs, ?_⟩
    rw [forInAux, seqS_apply, befehl_apply, weiter_fertig, ho, List.getLast?_cons]
    rfl

theorem cmdClean_eq :
    cmdClean w = forInAux (fun p => befehl w (.rmRf (evaultBuildDir w ++ p))) cleanPfade 0 := rfl

theorem cmdClean_frisch : SimFrisch w (cmdClean w) := fun s => by
  rw [cmdClean_eq]
  obtain ⟨cs, -, hs, -⟩ :=
    forInAux_befehl w (fun p => .rmRf (evaultBuildDir w ++ p)) cleanPfade 0 s
  refine ⟨_, hs, fun x ⟨b, n⟩ y hx => ?_⟩
  have he : (b, n) ∈ (cleanPfade.map fun p => Befehl.rmRf (evaultBuildDir w ++ p)).zip cs := by
    rw [hx]; simp
  obtain ⟨p, -, rfl⟩ := List.mem_map.mp (List.of_mem_zip he).1
  exact ⟨nofun, nofun⟩

theorem main_clean (rest : List String) : main w ("clean" :: rest) = cmdClean w := by
  funext s
  rw [main_eq]
  simp [cmdFn]

/-! ## 6. Every run of the tool -/

theorem main_frisch (args : List String) : SimFrisch w (main w args) := by
  have g := grundregel_ordnung w true
  unfold main
  refine SimFrisch.seq (Haelt.ifThen (Haelt.test _) g.die_haelt) <|
    SimFrisch.seq (g.pruefe_haelt (Haelt.test _)) ?_
  unfold cmdFn
  split_ifs <;> simp only [Option.getD_some, Option.getD_none]
  · exact SimFrisch.of_ordnung (Haelt.ret 0 : Haelt (ordnung w true) _)
  · exact cmdClean_frisch w
  · exact SimFrisch.of_ordnung (cmdBuild_ordnung w 3 _)
  · exact cmdSimulateEnclave_frisch w
  · exact cmdSimulateParent_frisch w
  · exact SimFrisch.of_ordnung (Haelt.ret 127 : Haelt (ordnung w true) _)

/-- **A simulation starts last, after building what it runs**: in every run of `devtool`, on
    every machine, with every argument list and after every trace, a line that starts the enclave
    container is the last line of the run, the debug builds of `p11ne-server`, `p11ne-init` and
    the PKCS#11 module stand before it with status 0, and at a point of the run before it
    `docker ps` listed no container named `p11ne-enclave`; a line that starts the parent
    container is the last line of the run, with the debug builds of `p11ne-agent` and
    `p11ne-client` before it, each with status 0. -/
theorem devtool_simulation_frisch (args : List String) (s : Werkstatt) :
    ∃ neu, (main w args s).2.spur = s.spur ++ neu ∧ ∀ x e y, neu = x ++ e :: y →
      (e.1 = .simulateEnclave → y = [] ∧ List.Sublist debugEnclave x ∧
        ∃ x₁, List.IsPrefix x₁ x ∧ w.laufend (s.spur ++ x₁) enclaveCtr = "") ∧
      (e.1 = .simulateParent → y = [] ∧ List.Sublist debugParent x) :=
  main_frisch w args s

end NitroEnclavesAcm.Devtool
