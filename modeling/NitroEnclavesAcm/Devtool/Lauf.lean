import NitroEnclavesAcm.Bash.Skript
import NitroEnclavesAcm.Devtool.Build
import NitroEnclavesAcm.Testtool.Template

/-
  File:      NitroEnclavesAcm/Devtool/Lauf.lean
  Subject:   What `devtool build` runs (`tools/devtool`): `cmd_build` after its loop, and the
             functions it calls -- `ensure_build_dirs`, `ensure_docker`, `ensure_enclave_ctr`,
             `ensure_parent_ctr`, `build_enclave_ctr`, `build_parent_ctr`, `build_eif`,
             `build_al2_setup` -- with `die` and `ok_or_die`; and `cmd_clean`.

  **The state** (`Werkstatt`) is the TRACE, each command line that ran with its status, oldest
  first, and the two globals `signing_extra_docker_args` and `signing_extra_build_args` that
  `build_eif` sets and never resets. A command line is a `Befehl`, by the line of the source it
  comes from; `Befehl.zeile` spells its words. **The machine** (`Werkbank`) answers what the
  script asks of it: the source tree, `id -u`, `id -g`, `whoami`, `RUST_TOOLCHAIN`, `[[ -t 1 ]]`,
  the group of the docker socket, and, given the trace so far, whether `docker images -q`
  lists an image, which containers `docker ps` lists by name, and the status of each command
  line.

  **`cmd_build` calls itself** through `build_eif` (`cmd_build --release enclave-bins`) and
  `build_al2_setup` (`cmd_build --release parent-bins`, `cmd_build dev-image`). `cmdBuildMit`
  is its body with the recursive call as a parameter, `cmdBuild` ties the knot with fuel, and
  **three calls deep is the whole recursion** (`cmdBuild_stabil`): more fuel runs the same. A
  run out of fuel dies; from fuel three on, more fuel changes nothing.

  NOT here: what the tool prints (`say` and its kin are `echo`s, status 0) and the redirections
  of output to `/dev/null`; the outputs of `whoami`, `id` and `cut -d " " -f4` are single words;
  a command substitution is not a line of the trace; the `sh -c` scripts of the two simulations
  are spelled with their blanks collapsed, and `$USER` in the parent's prompt is `whoami`'s
  word. `main` and the other commands are in `Devtool/Main.lean`; `get_user_confirmation` is
  never called.
-/
namespace NitroEnclavesAcm.Devtool

open Bash Skript

/-! ## 1. The machine -/

def enclaveCtrVersion : String := "2"
def parentCtrVersion : String := "3"
def enclaveCtr : String := "p11ne-enclave"
def enclaveCtrImg : String := enclaveCtr ++ ":" ++ enclaveCtrVersion
def parentCtr : String := "p11ne-parent"
def parentCtrImg : String := parentCtr ++ ":" ++ parentCtrVersion
def ctrSrcDir : String := "/p11ne.src"
def ctrBuildDir : String := ctrSrcDir ++ "/build"
def ctrRunDir : String := ctrBuildDir ++ "/run"
def eifTag : String := "p11ne-eif-tmp-ctr:latest"

/-- A command line `devtool` runs, by the line of the source it comes from. -/
inductive Befehl where
  | mkdir (pfad : String)
  | whichDocker
  | dockerPs
  | rmRf (pfad : String)
  | cpRf (von nach : String)
  | dockerBuild (tag : String) (buildArgs : List String) (kontext : String)
  | cargoBuild (bild : String) (cargoArgs ziel : List String)
  | cpF (von : List String) (nach : String)
  | nitroBuild (dockerArgs buildArgs : String)
  | dockerRmi (tag : String)
  | pushd (pfad : String)
  | popd
  | install (modus von nach : String)
  | tar (name : String)
  | rmF (muster : String)
  | simulateEnclave
  | simulateParent
  deriving DecidableEq, Repr

/-- An entry of the trace: a command line that ran, and its status. -/
abbrev Eintrag := Befehl × UInt8

/-- The state of a run: the trace, oldest first, and the globals `build_eif` sets. -/
structure Werkstatt where
  spur : List Eintrag
  signingExtraDockerArgs : String
  signingExtraBuildArgs : String

/-- What the tool reads of the machine it runs on: `EVAULT_SRC_DIR`, `id -u`, `id -g`, `whoami`,
    the environment's `RUST_TOOLCHAIN` (empty: unset), `[[ -t 1 ]]`, the group `ls -n` shows for
    the docker socket; and, given the trace so far, whether `docker images -q` lists an image,
    the status of a command line, and the IDs `docker ps --filter "name=…"` prints for a
    container name. -/
structure Werkbank where
  srcDir : String
  uid : Nat
  gid : Nat
  user : String
  rustToolchain : String
  terminal : Bool
  dockerGid : String
  bildDa : List Eintrag → String → Bool
  status : List Eintrag → Befehl → UInt8
  laufend : List Eintrag → String → String

variable (w : Werkbank)

def evaultBuildDir : String := w.srcDir ++ "/build"
def evaultRunDir : String := evaultBuildDir w ++ "/run"

/-- `CTR_HOME`: `/root` for root, the user's home otherwise. -/
def ctrHome : String := if w.uid = 0 then "/root" else "/home/" ++ w.user

/-- `P11NE_RUST_TOOLCHAIN=${RUST_TOOLCHAIN:-1.71.0}`. -/
def p11neRustToolchain : String := if w.rustToolchain = "" then "1.71.0" else w.rustToolchain

/-- `$interactive`, unquoted: no word, or `-it` on a terminal. -/
def interaktiv : List String := if w.terminal then ["-it"] else []

/-- The binaries of a debug build, as the containers see them. -/
def debugDir : String := ctrBuildDir ++ "/target/debug"

/-- The script the enclave container runs: the RPC server, then `p11-kit server` with the
    PKCS#11 module, both from the debug build. -/
def enclaveSkript : String :=
  debugDir ++ "/" ++ evbinRpcServer ++ " unix " ++ ctrRunDir ++
    "/rpc.sock & p11-kit server -n unix:path=./p11kit.sock --provider \"" ++ debugDir ++ "/" ++
    evbinP11Mod ++ "\" -f -v pkcs11:"

/-- The script the parent container runs: the p11-kit module file for the enclave's socket, then
    a shell with the debug build on its `PATH`. -/
def parentSkript : String :=
  "echo \"remote:unix:path=" ++ ctrRunDir ++
    "/p11kit.sock\" | sudo tee /etc/pkcs11/modules/p11ne.module > /dev/null; " ++
    "echo \"module:p11ne\" | sudo tee -a /etc/pkcs11/modules/p11ne.module > /dev/null; " ++
    "PS1=\"[" ++ w.user ++ "@p11ne-parent \\W] \" PATH=\"$PATH:" ++ debugDir ++ ":" ++
    ctrSrcDir ++ "/tools\" bash"

/-- The words of a command line. An unquoted `$signing_extra_…` is split at blanks
    (`Testtool.woerter`); an output redirection to a data file ends the line. -/
def Befehl.zeile : Befehl → List String
  | .mkdir p => ["mkdir", "-p", p]
  | .whichDocker => ["which", "docker"]
  | .dockerPs => ["docker", "ps"]
  | .rmRf p => ["rm", "-rf", p]
  | .cpRf a b => ["cp", "-rf", a, b]
  | .dockerBuild t as k => ["docker", "build", "-t", t] ++ as.flatMap (["--build-arg", ·]) ++ [k]
  | .cargoBuild b as z =>
    ["docker", "run", "--rm"] ++ interaktiv w ++
      ["-v", w.srcDir ++ ":" ++ ctrSrcDir,
       "-v", evaultBuildDir w ++ "/cargo-registry:" ++ ctrHome w ++ "/.cargo/registry",
       "--workdir", ctrSrcDir, b, "cargo", "build"] ++ as ++ z
  | .cpF as b => ["cp", "-f"] ++ as ++ [b]
  | .nitroBuild d b =>
    ["docker", "run", "--rm"] ++ interaktiv w ++
      ["-v", "/var/run/docker.sock:/var/run/docker.sock", "-v", w.srcDir ++ ":" ++ ctrSrcDir] ++
      Testtool.woerter d ++
      ["--user", toString w.uid ++ ":" ++ toString w.gid, "--group-add=" ++ w.dockerGid,
       parentCtrImg, "nitro-cli", "build-enclave", "--docker-uri", eifTag] ++
      Testtool.woerter b ++
      ["--output-file", ctrBuildDir ++ "/p11ne.eif", ">",
       evaultBuildDir w ++ "/image-measurements.json"]
  | .dockerRmi t => ["docker", "rmi", t]
  | .pushd p => ["pushd", p]
  | .popd => ["popd"]
  | .install m a b => ["install", "-D", "-m", m, a, b]
  | .tar n => ["tar", "--owner=0", "--group=0", "-czf", n ++ ".tar.gz", n]
  | .rmF m => ["rm", "-f", m]
  | .simulateEnclave =>
    ["docker", "run", "--rm", "-it", "--name", enclaveCtr,
     "--env", "EVAULT_BIN_DIR=" ++ debugDir, "--env", "EVAULT_RUN_DIR=" ++ ctrRunDir,
     "--workdir", ctrRunDir, "-v", w.srcDir ++ ":" ++ ctrSrcDir, enclaveCtrImg,
     "sh", "-c", enclaveSkript]
  | .simulateParent =>
    ["docker", "run", "--rm", "-it", "--env", "EVAULT_DEVENV=y",
     "--env", "EVAULT_DEVENV_RPC_SOCK=" ++ ctrRunDir ++ "/rpc.sock",
     "-v", w.srcDir ++ ":" ++ ctrSrcDir, parentCtrImg, "sh", "-c", parentSkript w]

/-! ## 2. Primitives -/

/-- Run the command line `b`: the machine answers with its status, and the line goes on the
    trace. -/
def befehl (b : Befehl) : Skript Werkstatt := fun s =>
  (.fertig (w.status s.spur b), { s with spur := s.spur ++ [(b, w.status s.spur b)] })

/-- `say "…"`: an `echo`. -/
def say : Skript Werkstatt := ret 0

/-- `die "…"`: `exit 1`. -/
def die : Skript Werkstatt := exit 1

/-- `ok_or_die "…"` after a command that ended with `n`: `die -c n` unless `n` is 0. -/
def okOrDie (n : UInt8) : Skript Werkstatt := if n = 0 then ret 0 else exit n

/-- `a; ok_or_die "…"`. -/
def pruefe (a : Skript Werkstatt) : Skript Werkstatt := seqS a okOrDie

@[simp] theorem befehl_apply (b : Befehl) (s : Werkstatt) :
    befehl w b s =
      (.fertig (w.status s.spur b), { s with spur := s.spur ++ [(b, w.status s.spur b)] }) := rfl

/-- **`a; ok_or_die`, pushed inward**: checking a sequence checks its last command. -/
theorem pruefe_seqS (a : Skript Werkstatt) (k : UInt8 → Skript Werkstatt) :
    pruefe (seqS a k) = seqS a fun n => pruefe (k n) := by
  funext s
  simp only [pruefe, seqS_apply]
  rcases a s with ⟨_ | _, _⟩ <;> rfl

theorem pruefe_seq (a b : Skript Werkstatt) : pruefe (seq a b) = seq a (pruefe b) :=
  pruefe_seqS a _

/-- `a && b; ok_or_die` is `a; ok_or_die; b; ok_or_die`: a failing `a` dies with its status
    either way. -/
theorem pruefe_and (a b : Skript Werkstatt) :
    pruefe (Skript.and a b) = seq (pruefe a) (pruefe b) := by
  funext s
  simp only [pruefe, Skript.and, seq, seqS_apply]
  rcases a s with ⟨n | _, _⟩
  · by_cases h : n = 0 <;> simp [h, okOrDie]
  · rfl

theorem pruefe_ret_zero : pruefe (ret 0) = ret 0 := rfl

theorem pruefe_andAlle (as : List (Skript Werkstatt)) :
    pruefe (andAlle as) = as.foldr (fun a r => seq (pruefe a) r) (ret 0) := by
  induction as with
  | nil => rfl
  | cons a as ih => rw [andAlle, pruefe_and, ih, List.foldr_cons]

theorem pruefe_or (a b : Skript Werkstatt) :
    pruefe (Skript.or a b) = seqS a fun n => if n = 0 then ret 0 else pruefe b := by
  rw [Skript.or, pruefe_seqS]
  exact congrArg (seqS a) (funext fun n => by by_cases h : n = 0 <;> simp [h, pruefe_ret_zero])

/-! ## 3. The functions -/

/-- `ensure_build_dirs`. -/
def ensureBuildDirs : Skript Werkstatt :=
  seq (pruefe (befehl w (.mkdir (evaultBuildDir w)))) <|
  seq (pruefe (befehl w (.mkdir (evaultRunDir w)))) <|
  pruefe (befehl w (.mkdir (evaultBuildDir w ++ "/cargo-registry")))

/-- `ensure_docker`. -/
def ensureDocker : Skript Werkstatt :=
  seq (pruefe (befehl w .whichDocker)) (pruefe (befehl w .dockerPs))

/-- The `--build-arg`s of both dev containers. -/
def ctrBuildArgs : List String :=
  ["USER=" ++ w.user, "USER_ID=" ++ toString w.uid, "GROUP_ID=" ++ toString w.gid,
   "RUST_TOOLCHAIN=" ++ p11neRustToolchain w, "CTR_HOME=" ++ ctrHome w]

/-- `build_parent_ctr`: its status is `docker build`'s. -/
def buildParentCtr : Skript Werkstatt :=
  seq (ensureDocker w) <|
  seq (ensureBuildDirs w) <|
  seq (pruefe (Skript.and (befehl w (.rmRf (evaultBuildDir w ++ "/parent.ctx")))
    (befehl w (.cpRf (w.srcDir ++ "/env/parent") (evaultBuildDir w ++ "/parent.ctx"))))) <|
  befehl w (.dockerBuild parentCtrImg (ctrBuildArgs w) (evaultBuildDir w ++ "/parent.ctx"))

/-- `build_enclave_ctr`: its status is `docker build`'s. -/
def buildEnclaveCtr : Skript Werkstatt :=
  seq (ensureDocker w) <|
  seq (ensureBuildDirs w) <|
  befehl w (.dockerBuild enclaveCtrImg (ctrBuildArgs w) (w.srcDir ++ "/env/enclave"))

/-- `ensure_enclave_ctr` and `ensure_parent_ctr`, which differ only in the image and the
    function that builds it: `[[ $(docker images -q "$IMG" | wc -l) -gt 0 ]] || { say …; build; }`
    and `ok_or_die`. -/
def ensureCtr (bild : String) (bauen : Skript Werkstatt) : Skript Werkstatt :=
  seq (ensureDocker w) <|
  pruefe (Skript.or (lies fun s => test (w.bildDa s.spur bild)) (seq say bauen))

/-- `ensure_enclave_ctr`. -/
def ensureEnclaveCtr : Skript Werkstatt := ensureCtr w enclaveCtrImg (buildEnclaveCtr w)

/-- `ensure_parent_ctr`. -/
def ensureParentCtr : Skript Werkstatt := ensureCtr w parentCtrImg (buildParentCtr w)

def eifCtx : String := evaultBuildDir w ++ "/eif.ctx"

/-- `bins` of `build_eif`: the three release binaries of the enclave image. -/
def releaseBins : List String :=
  [evaultBuildDir w ++ "/target/release/" ++ evbinRpcServer,
   evaultBuildDir w ++ "/target/release/" ++ evbinInit,
   evaultBuildDir w ++ "/target/release/" ++ evbinP11Mod]

def eifBuildArgs : List String :=
  ["BASE_IMG=" ++ enclaveCtrImg, "EVBIN_RPC_SERVER=" ++ evbinRpcServer,
   "EVBIN_INIT=" ++ evbinInit, "EVBIN_P11_MOD=" ++ evbinP11Mod]

/-- The two assignments of `build_eif` to the signing globals. -/
def setzeSigning (dir cert key : String) : Skript Werkstatt :=
  aendern fun s => { s with
    signingExtraDockerArgs := "-v " ++ dir ++ ":" ++ dir
    signingExtraBuildArgs := "--private-key " ++ key ++ " --signing-certificate " ++ cert }

/-- `build_eif dir cert key`, with `bauen` for its call of `cmd_build`. The line of
    `nitro-cli build-enclave` reads the signing globals as they are when it runs. -/
def buildEif (bauen : List String → Skript Werkstatt) (dir cert key : String) :
    Skript Werkstatt :=
  seq (ensureEnclaveCtr w) <|
  seq (ensureParentCtr w) <|
  seq (pruefe (Skript.and (befehl w (.rmRf (eifCtx w)))
    (befehl w (.cpRf (w.srcDir ++ "/env/eif") (eifCtx w))))) <|
  seq (pruefe (bauen ["--release", "enclave-bins"])) <|
  seq (pruefe (befehl w (.cpF (releaseBins w) (eifCtx w ++ "/")))) <|
  seq (pruefe (befehl w (.dockerBuild eifTag eifBuildArgs (eifCtx w)))) <|
  seq (Skript.and (test (w.dockerGid == "")) die) <|
  seq (ifThen (test (dir != "")) (setzeSigning dir cert key)) <|
  seq (pruefe (lies fun s =>
    befehl w (.nitroBuild s.signingExtraDockerArgs s.signingExtraBuildArgs))) <|
  seq say <|
  seq say <|
  befehl w (.dockerRmi eifTag)

def al2SetupDir : String := evaultBuildDir w ++ "/al2-setup"
def myDataDir : String := "/usr/share/nitro_enclaves/p11ne"
def mySysconfDir : String := "/etc/nitro_enclaves"

/-- The `install -D -m mode from to` lines of `build_al2_setup`, in order. -/
def al2Installs : List (String × String × String) :=
  [("0755", evaultBuildDir w ++ "/target/release/" ++ evbinRpcClient,
      "install/usr/bin/" ++ evbinRpcClient),
   ("0755", w.srcDir ++ "/tools/p11ne-cli", "install/usr/bin/p11ne-cli"),
   ("0755", w.srcDir ++ "/tools/p11ne-db", "install/usr/bin/p11ne-db"),
   ("0644", evaultBuildDir w ++ "/p11ne.eif", "install" ++ myDataDir ++ "/p11ne.eif"),
   ("0644", evaultBuildDir w ++ "/image-measurements.json",
      "install/" ++ myDataDir ++ "/image-measurements.json"),
   ("0755", evaultBuildDir w ++ "/target/release/" ++ evbinAgent,
      "install/usr/bin/" ++ evbinAgent),
   ("0644", w.srcDir ++ "/src/vtok_agent/service/nitro-enclaves-acm.service",
      "install/usr/lib/systemd/system/nitro-enclaves-acm.service"),
   ("0644", w.srcDir ++ "/src/vtok_agent/service/acm.example.yaml",
      "install" ++ myDataDir ++ "/acm.example.yaml"),
   ("0644", w.srcDir ++ "/src/vtok_agent/service/acm.example.yaml",
      "install" ++ mySysconfDir ++ "/acm.example.yaml"),
   ("0644", w.srcDir ++ "/THIRD-PARTY-LICENSES",
      "install/usr/share/licenses/aws-nitro-enclaves-acm-1.0/THIRD-PARTY-LICENSES"),
   ("0644", w.srcDir ++ "/LICENSE",
      "install/usr/share/licenses/aws-nitro-enclaves-acm-1.0/LICENSE"),
   ("0755", w.srcDir ++ "/env/parent/setup.sh", "./setup.sh")]

/-- `build_al2_setup`, with `bauen` for its two calls of `cmd_build`; `popd` is not checked. -/
def buildAl2Setup (bauen : List String → Skript Werkstatt) : Skript Werkstatt :=
  seq (pruefe (Skript.and (befehl w (.rmRf (al2SetupDir w))) (befehl w (.mkdir (al2SetupDir w))))) <|
  seq (pruefe (bauen ["--release", "parent-bins"])) <|
  seq (pruefe (bauen ["dev-image"])) <|
  seq (pruefe (andAlle (befehl w (.pushd (al2SetupDir w)) ::
    (al2Installs w).map fun (m, a, b) => befehl w (.install m a b)))) <|
  seq (befehl w .popd) <|
  seq (pruefe (Skript.and (befehl w (.pushd (evaultBuildDir w))) (befehl w (.tar "al2-setup")))) <|
  seq (befehl w .popd) <|
  say

/-- The body of a loop of `cmd_build` over the binaries of one side: the side's container, then
    `cargo build` in it. -/
def baueBin (ensure : Skript Werkstatt) (bild : String) (cargoArgs ziel : List String) :
    Skript Werkstatt :=
  seq ensure <| seq (pruefe (befehl w (.cargoBuild bild cargoArgs ziel))) say

/-- The binaries `cmd_build` builds from its locals: `ensure_build_dirs`, the loops over the
    binaries of each side, and the PKCS#11 library. The `if [[ -t 1 ]]` that sets
    `$interactive` is in `interaktiv`. -/
def cmdBuildBins (o : BuildLokale) : Skript Werkstatt :=
  seq (ensureBuildDirs w) <|
  seq (forIn o.enclaveBins fun b =>
    baueBin w (ensureEnclaveCtr w) enclaveCtrImg o.cargoArgs ["--bin", b]) <|
  seq (forIn o.parentBins fun b =>
    baueBin w (ensureParentCtr w) parentCtrImg o.cargoArgs ["--bin", b]) <|
  ifThen (test o.p11Mod) (baueBin w (ensureEnclaveCtr w) enclaveCtrImg o.cargoArgs ["--lib"])

/-- `cmd_build` after its loop, from the locals the loop left: the binaries, the image and the
    installer, with `bauen` for the calls of `cmd_build` in `build_eif` and `build_al2_setup`. -/
def cmdBuildMit (bauen : List String → Skript Werkstatt) (o : BuildLokale) : Skript Werkstatt :=
  seq (cmdBuildBins w o) <|
  seq (ifThen (test o.eif) (buildEif w bauen o.eifSigningDir o.eifSigningCert o.eifSigningKey)) <|
  ifThen (test o.al2Setup) (buildAl2Setup w bauen)

/-- `cmd_build args` with `fuel` calls of itself left: the default of `all` and the loop
    (`cmdBuildLokale`, which dies at an unexpected word), then the body. Out of fuel it dies. -/
def cmdBuild : Nat → List String → Skript Werkstatt
  | 0, _ => die
  | n + 1, args =>
    match cmdBuildLokale args with
    | .ok o => cmdBuildMit w (cmdBuild n) o
    | .error _ => die

/-- What `cmd_clean` removes, under the build directory. -/
def cleanPfade : List String :=
  ["/target", "/cargo-registry", "/parent.ctx", "/eif.ctx", "/al2-setup", "/al2-setup.tar.gz",
   "/aws-nitro-enclaves-cli", "/p11ne.eif", "/image-measurements.json"]

/-- `cmd_clean`: an unchecked `rm -rf` of each. -/
def cmdClean : Skript Werkstatt :=
  forIn cleanPfade fun p => befehl w (.rmRf (evaultBuildDir w ++ p))

/-! ## 4. Three calls deep -/

/-- The words of the three calls `cmd_build` makes of itself. -/
def encArgs : List String := ["--release", "enclave-bins"]
def parentArgs : List String := ["--release", "parent-bins"]
def devArgs : List String := ["dev-image"]

/-- The body calls itself only in `build_eif`, with `encArgs`, and in `build_al2_setup`, with
    `parentArgs` and `devArgs`: two recursions that agree there run the same. -/
theorem cmdBuildMit_kongr {b₁ b₂ : List String → Skript Werkstatt} (o : BuildLokale)
    (henc : o.eif = true → b₁ encArgs = b₂ encArgs)
    (hal2 : o.al2Setup = true → b₁ parentArgs = b₂ parentArgs ∧ b₁ devArgs = b₂ devArgs) :
    cmdBuildMit w b₁ o = cmdBuildMit w b₂ o := by
  simp only [encArgs, parentArgs, devArgs] at henc hal2
  unfold cmdBuildMit
  cases he : o.eif <;> cases ha : o.al2Setup <;>
    simp only [ifThen_test_false, ifThen_test_true, buildEif, buildAl2Setup]
  · rw [(hal2 ha).1, (hal2 ha).2]
  · rw [henc he]
  · rw [henc he, (hal2 ha).1, (hal2 ha).2]

/-- The locals of the three calls: none builds the installer, only `dev-image` an image. -/
theorem cmdBuildLokale_encArgs :
    cmdBuildLokale encArgs = .ok ⟨[evbinRpcServer, evbinInit], [], false, true, false, "", "", "",
      ["--release"]⟩ := rfl

theorem cmdBuildLokale_parentArgs :
    cmdBuildLokale parentArgs = .ok ⟨[], [evbinAgent, evbinRpcClient], false, false, false, "",
      "", "", ["--release"]⟩ := rfl

theorem cmdBuildLokale_devArgs :
    cmdBuildLokale devArgs = .ok ⟨[], [], false, false, true, "", "", "", []⟩ := rfl

/-- A call that builds no image and no installer calls nothing: one level of fuel is all. -/
theorem cmdBuild_blatt (n : Nat) {args : List String} {o : BuildLokale}
    (h : cmdBuildLokale args = .ok o) (he : o.eif = false) (ha : o.al2Setup = false) :
    cmdBuild w (n + 1) args = cmdBuild w 1 args := by
  simp only [cmdBuild, h]
  exact cmdBuildMit_kongr w o (by simp [he]) (by simp [ha])

theorem cmdBuild_dev (n : Nat) : cmdBuild w (n + 2) devArgs = cmdBuild w 2 devArgs := by
  simp only [cmdBuild, cmdBuildLokale_devArgs]
  exact cmdBuildMit_kongr w _ (fun _ => cmdBuild_blatt w n cmdBuildLokale_encArgs rfl rfl) nofun

/-- **Three calls deep is the whole recursion of `cmd_build`**: for every machine and every
    argument list, any fuel from three on runs the same. -/
theorem cmdBuild_stabil (n : Nat) (args : List String) :
    cmdBuild w (n + 3) args = cmdBuild w 3 args := by
  have enc : ∀ m, cmdBuild w (m + 1) encArgs = cmdBuild w 1 encArgs := fun m =>
    cmdBuild_blatt w m cmdBuildLokale_encArgs rfl rfl
  have par : ∀ m, cmdBuild w (m + 1) parentArgs = cmdBuild w 1 parentArgs := fun m =>
    cmdBuild_blatt w m cmdBuildLokale_parentArgs rfl rfl
  cases h : cmdBuildLokale args with
  | error => simp only [cmdBuild, h]
  | ok o =>
    simp only [cmdBuild, h]
    exact cmdBuildMit_kongr w o (fun _ => (enc (n + 1)).trans (enc 1).symm)
      fun _ => ⟨(par (n + 1)).trans (par 1).symm, cmdBuild_dev w n⟩

end NitroEnclavesAcm.Devtool
