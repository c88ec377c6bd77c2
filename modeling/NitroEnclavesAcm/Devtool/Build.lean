import Mathlib.Data.List.Basic

/-
  File:      NitroEnclavesAcm/Devtool/Build.lean
  Subject:   The arguments of `devtool build` (`tools/devtool`, `cmd_build`): the default for no
             argument or `all`, and the loop `while [[ $# -gt 0 ]]; do case "$1" in … esac; shift;
             done` that reads the targets into the locals of `cmd_build`.

  THE QUESTION. The usage promises `build [--release] [<target>] … [<target>]`, each target one
  of `p11ne-client`, `p11ne-server`, `p11ne-init`, `libvtok_p11.so`, `dev-image`,
  `production-image` (with the signing directory, key and certificate), `enclave-bins`,
  `parent-bins`, `all`, `al2-setup`, and that no argument means `all`. Which words does the loop
  accept, and what does it make of them?

  THE ANSWER. **The loop reads the words of any list of targets back as those targets, one after
  the other** (`leseBuildArgs_ziele`): `production-image` takes the next three words whatever
  they are, every other target its one word. Its locals then name **exactly the artefacts the
  targets name** (`artefakte_ziele`): the two group targets reset a list of binaries, but only to
  the binaries of their side, so no binary a target asks for is lost; the build is a release
  build exactly when `--release` is among them, and the image is signed with the words of the
  last `production-image`.

  `all` is not a word of the loop. `cmd_build` looks for it only as the FIRST word, and then
  builds the release of everything whatever follows; after any target it is an unexpected
  argument, and `cmd_build` dies (`cmdBuild_all_nur_vorn`), so the usage's own
  `build --release all` fails.

  NOT here: what `cmd_build` runs once the locals are set (`Devtool/Lauf.lean`), the other
  commands of the tool, and `bin_dir`, which only names the output in messages.
-/

namespace NitroEnclavesAcm.Devtool

/-! ## 1. The loop -/

def myName : String := "p11ne devtool"
def evbinAgent : String := "p11ne-agent"
def evbinRpcClient : String := "p11ne-client"
def evbinRpcServer : String := "p11ne-server"
def evbinInit : String := "p11ne-init"
def evbinP11Mod : String := "libvtok_p11.so"

/-- The locals of `cmd_build` that the loop sets. -/
structure BuildLokale where
  enclaveBins : List String
  parentBins : List String
  al2Setup : Bool
  p11Mod : Bool
  eif : Bool
  eifSigningDir : String
  eifSigningCert : String
  eifSigningKey : String
  cargoArgs : List String
  deriving DecidableEq, Repr

/-- The locals as `local …` leaves them: empty. -/
def BuildLokale.leer : BuildLokale := ⟨[], [], false, false, false, "", "", "", []⟩

/-- The case of the loop for a word other than `production-image`; `none` for a word only `*)`
    matches. -/
def einfacheWirkung (a : String) : Option (BuildLokale → BuildLokale) :=
  if a = evbinAgent then some fun o => { o with parentBins := o.parentBins ++ [evbinAgent] }
  else if a = evbinRpcClient then some fun o => { o with parentBins := o.parentBins ++ [evbinRpcClient] }
  else if a = evbinRpcServer then some fun o => { o with enclaveBins := o.enclaveBins ++ [evbinRpcServer] }
  else if a = evbinInit then some fun o => { o with enclaveBins := o.enclaveBins ++ [evbinInit] }
  else if a = evbinP11Mod then some fun o => { o with p11Mod := true }
  else if a = "dev-image" then some fun o => { o with eif := true }
  else if a = "enclave-bins" then
    some fun o => { o with enclaveBins := [evbinRpcServer, evbinInit], p11Mod := true }
  else if a = "parent-bins" then some fun o => { o with parentBins := [evbinAgent, evbinRpcClient] }
  else if a = "al2-setup" then some fun o => { o with al2Setup := true }
  else if a = "--release" then some fun o => { o with cargoArgs := o.cargoArgs ++ ["--release"] }
  else none

/-- The case `production-image`: `eif=y` and the signing words `$2`, `$3`, `$4`. -/
def signiert (o : BuildLokale) (dir cert key : String) : BuildLokale :=
  { o with eif := true, eifSigningDir := dir, eifSigningCert := cert, eifSigningKey := key }

/-- The message of `die` at a word no case matches. -/
def unerwartet (a : String) : String :=
  "Unexpected argument: " ++ a ++ ". Use `" ++ myName ++ " help` for help."

/-- The loop. After `production-image`, `shift 3` moves past its three words when at least two
    follow it (with exactly two, the closing `shift` finds nothing left); with fewer, `shift 3`
    fails and changes nothing, and only the closing `shift` runs, so the next word is read as a
    target. At a word no case matches, `die` (status 1) with `unerwartet`. -/
def leseBuildArgs : BuildLokale → List String → Except String BuildLokale
  | o, [] => .ok o
  | o, "production-image" :: d :: c :: k :: rest => leseBuildArgs (signiert o d c k) rest
  | o, ["production-image", d, c] => leseBuildArgs (signiert o d c "") []
  | o, "production-image" :: rest =>
    leseBuildArgs (signiert o (rest.getD 0 "") (rest.getD 1 "") (rest.getD 2 "")) rest
  | o, a :: rest =>
    match einfacheWirkung a with
    | some f => leseBuildArgs (f o) rest
    | none => .error (unerwartet a)

/-- `cmd_build --release enclave-bins parent-bins dev-image al2-setup`. -/
def standardArgs : List String := ["--release", "enclave-bins", "parent-bins", "dev-image", "al2-setup"]

/-- `cmd_build args` up to its loop: with no argument or `all` first it calls itself with
    `standardArgs` (which start with neither, so that call goes to the loop), and otherwise runs
    the loop on `args`. The error is the message `cmd_build` dies with. -/
def cmdBuildLokale (args : List String) : Except String BuildLokale :=
  if args = [] ∨ args.getD 0 "" = "all" then leseBuildArgs .leer standardArgs
  else leseBuildArgs .leer args

/-! ## 2. The targets -/

/-- A target of the usage other than `all`, and `--release`; `p11ne-agent` is read by the loop
    though the usage does not list it. -/
inductive Ziel where
  | agent | client | server | init | p11Mod | devImage
  | productionImage (dir cert key : String)
  | enclaveBins | parentBins | al2Setup | release
  deriving DecidableEq, Repr

/-- The words of a target on the command line. -/
def Ziel.woerter : Ziel → List String
  | .agent => [evbinAgent]
  | .client => [evbinRpcClient]
  | .server => [evbinRpcServer]
  | .init => [evbinInit]
  | .p11Mod => [evbinP11Mod]
  | .devImage => ["dev-image"]
  | .productionImage d c k => ["production-image", d, c, k]
  | .enclaveBins => ["enclave-bins"]
  | .parentBins => ["parent-bins"]
  | .al2Setup => ["al2-setup"]
  | .release => ["--release"]

/-- What a target sets: a binary appended to its side's list, a group target resetting its
    side's list to all of that side, a flag, or the signing words. -/
def Ziel.wirkung : Ziel → BuildLokale → BuildLokale
  | .agent, o => { o with parentBins := o.parentBins ++ [evbinAgent] }
  | .client, o => { o with parentBins := o.parentBins ++ [evbinRpcClient] }
  | .server, o => { o with enclaveBins := o.enclaveBins ++ [evbinRpcServer] }
  | .init, o => { o with enclaveBins := o.enclaveBins ++ [evbinInit] }
  | .p11Mod, o => { o with p11Mod := true }
  | .devImage, o => { o with eif := true }
  | .productionImage d c k, o => signiert o d c k
  | .enclaveBins, o => { o with enclaveBins := [evbinRpcServer, evbinInit], p11Mod := true }
  | .parentBins, o => { o with parentBins := [evbinAgent, evbinRpcClient] }
  | .al2Setup, o => { o with al2Setup := true }
  | .release, o => { o with cargoArgs := o.cargoArgs ++ ["--release"] }

/-- **The loop reads a target's words as the target**, whatever follows them. -/
theorem leseBuildArgs_ziel (t : Ziel) (o : BuildLokale) (rest : List String) :
    leseBuildArgs o (t.woerter ++ rest) = leseBuildArgs (t.wirkung o) rest := by
  cases t <;> rfl

/-- **The loop reads the words of a list of targets as those targets**, one after the other. -/
theorem leseBuildArgs_ziele (ts : List Ziel) (o : BuildLokale) (rest : List String) :
    leseBuildArgs o (ts.flatMap Ziel.woerter ++ rest) =
      leseBuildArgs (ts.foldl (fun o t => t.wirkung o) o) rest := by
  induction ts generalizing o with
  | nil => rfl
  | cons t ts ih => rw [List.flatMap_cons, List.append_assoc, leseBuildArgs_ziel, ih]; rfl

/-! ## 3. What the targets ask for -/

/-- What `devtool build` builds: a binary of the enclave side or of the parent side, the PKCS#11
    module, the enclave image, the AL2 installer. -/
inductive Artefakt where
  | enclaveBin (name : String)
  | parentBin (name : String)
  | p11Mod
  | eif
  | al2Setup
  deriving DecidableEq, Repr

/-- What a target asks for, as the usage describes it. -/
def Ziel.artefakte : Ziel → List Artefakt
  | .agent => [.parentBin evbinAgent]
  | .client => [.parentBin evbinRpcClient]
  | .server => [.enclaveBin evbinRpcServer]
  | .init => [.enclaveBin evbinInit]
  | .p11Mod => [.p11Mod]
  | .devImage => [.eif]
  | .productionImage _ _ _ => [.eif]
  | .enclaveBins => [.enclaveBin evbinRpcServer, .enclaveBin evbinInit, .p11Mod]
  | .parentBins => [.parentBin evbinAgent, .parentBin evbinRpcClient]
  | .al2Setup => [.al2Setup]
  | .release => []

/-- The signing words of a target. -/
def Ziel.signatur : Ziel → Option (String × String × String)
  | .productionImage d c k => some (d, c, k)
  | _ => none

/-- What `cmd_build` builds from its locals. -/
def BuildLokale.artefakte (o : BuildLokale) : List Artefakt :=
  o.enclaveBins.map .enclaveBin ++ o.parentBins.map .parentBin ++
    (if o.p11Mod then [.p11Mod] else []) ++ (if o.eif then [.eif] else []) ++
    (if o.al2Setup then [.al2Setup] else [])

section Mitglied

variable (o : BuildLokale)

@[simp] theorem BuildLokale.enclaveBin_mem (n : String) :
    .enclaveBin n ∈ o.artefakte ↔ n ∈ o.enclaveBins := by
  simp [BuildLokale.artefakte]

@[simp] theorem BuildLokale.parentBin_mem (n : String) :
    .parentBin n ∈ o.artefakte ↔ n ∈ o.parentBins := by
  simp [BuildLokale.artefakte]

@[simp] theorem BuildLokale.p11Mod_mem : .p11Mod ∈ o.artefakte ↔ o.p11Mod = true := by
  simp [BuildLokale.artefakte]

@[simp] theorem BuildLokale.eif_mem : .eif ∈ o.artefakte ↔ o.eif = true := by
  simp [BuildLokale.artefakte]

@[simp] theorem BuildLokale.al2Setup_mem : .al2Setup ∈ o.artefakte ↔ o.al2Setup = true := by
  simp [BuildLokale.artefakte]

end Mitglied

/-- The signing words in the locals. -/
def BuildLokale.signatur (o : BuildLokale) : String × String × String :=
  (o.eifSigningDir, o.eifSigningCert, o.eifSigningKey)

/-- **Locals the loop can reach**: each list of binaries holds binaries of its own side only. -/
structure BuildLokale.Gut (o : BuildLokale) : Prop where
  enclave : ∀ b ∈ o.enclaveBins, b = evbinRpcServer ∨ b = evbinInit
  parent : ∀ b ∈ o.parentBins, b = evbinAgent ∨ b = evbinRpcClient

theorem BuildLokale.gut_leer : BuildLokale.leer.Gut := ⟨nofun, nofun⟩

/-- Appending a binary of the side keeps a list of that side's binaries. -/
theorem seite_append {l : List String} {x y z : String} (h : ∀ b ∈ l, b = y ∨ b = z)
    (hx : x = y ∨ x = z) : ∀ b ∈ l ++ [x], b = y ∨ b = z := by
  simp only [List.mem_append, List.mem_singleton]
  rintro b (hb | rfl)
  exacts [h b hb, hx]

theorem Ziel.wirkung_gut (t : Ziel) {o : BuildLokale} (h : o.Gut) : (t.wirkung o).Gut := by
  obtain ⟨he, hp⟩ := h
  cases t <;> constructor <;> simp only [Ziel.wirkung, signiert] <;>
    first
    | exact he | exact hp
    | exact seite_append he (.inl rfl) | exact seite_append he (.inr rfl)
    | exact seite_append hp (.inl rfl) | exact seite_append hp (.inr rfl)
    | simp

theorem Ziel.artefakte_wirkung (t : Ziel) {o : BuildLokale} (h : o.Gut) (a : Artefakt) :
    a ∈ (t.wirkung o).artefakte ↔ a ∈ o.artefakte ∨ a ∈ t.artefakte := by
  cases t <;> cases a <;> simp [Ziel.artefakte, Ziel.wirkung, signiert]
  -- the group targets: the old list held only binaries of the side
  exacts [h.enclave _, h.parent _]

/-! ## 4. A list of targets -/

theorem artefakte_foldl (ts : List Ziel) {o : BuildLokale} (h : o.Gut) (a : Artefakt) :
    a ∈ (ts.foldl (fun o t => t.wirkung o) o).artefakte ↔
      a ∈ o.artefakte ∨ ∃ t ∈ ts, a ∈ t.artefakte := by
  induction ts generalizing o with
  | nil => simp
  | cons t ts ih =>
    rw [List.foldl_cons, ih (t.wirkung_gut h), t.artefakte_wirkung h]
    simp [or_assoc]

theorem cargoArgs_foldl (ts : List Ziel) (o : BuildLokale) :
    (ts.foldl (fun o t => t.wirkung o) o).cargoArgs =
      o.cargoArgs ++ List.replicate (ts.count .release) "--release" := by
  induction ts generalizing o with
  | nil => simp
  | cons t ts ih =>
    rw [List.foldl_cons, ih]
    cases t <;> simp [Ziel.wirkung, signiert, List.count_cons, List.replicate_succ]

theorem signatur_foldl (ts : List Ziel) (o : BuildLokale) :
    (ts.foldl (fun o t => t.wirkung o) o).signatur =
      (ts.filterMap Ziel.signatur).getLastD o.signatur := by
  induction ts generalizing o with
  | nil => rfl
  | cons t ts ih =>
    rw [List.foldl_cons, ih]
    cases t <;> first | rfl | exact (List.getLastD_cons _ _ _).symm

/-- A list of targets is not read as `all`: it goes to the loop. -/
theorem cmdBuildLokale_ziele {ts : List Ziel} (h : ts ≠ []) (rest : List String) :
    cmdBuildLokale (ts.flatMap Ziel.woerter ++ rest) =
      leseBuildArgs .leer (ts.flatMap Ziel.woerter ++ rest) := by
  obtain ⟨t, ts, rfl⟩ := List.exists_cons_of_ne_nil h
  rw [cmdBuildLokale, if_neg]
  cases t <;> simp [Ziel.woerter, evbinAgent, evbinRpcClient, evbinRpcServer, evbinInit, evbinP11Mod]

/-- **`devtool build` builds exactly what its targets name**: for every non-empty list of
    targets, `cmd_build` reads its words without error, and the locals it leaves build exactly
    the artefacts the targets name, pass `--release` to cargo once per `--release` among them,
    and sign the image with the words of the last `production-image`. -/
theorem artefakte_ziele (ts : List Ziel) (h : ts ≠ []) :
    ∃ o, cmdBuildLokale (ts.flatMap Ziel.woerter) = .ok o ∧
      (∀ a, a ∈ o.artefakte ↔ ∃ t ∈ ts, a ∈ t.artefakte) ∧
      o.cargoArgs = List.replicate (ts.count .release) "--release" ∧
      o.signatur = (ts.filterMap Ziel.signatur).getLastD ("", "", "") := by
  have hl := cmdBuildLokale_ziele h []
  rw [leseBuildArgs_ziele, List.append_nil] at hl
  refine ⟨_, hl, fun a => ?_, cargoArgs_foldl ts _, signatur_foldl ts _⟩
  rw [artefakte_foldl ts BuildLokale.gut_leer]
  simp [BuildLokale.artefakte, BuildLokale.leer]

/-- A signed image and the enclave binaries, in one call. -/
theorem artefakte_ziele_signiert :
    ∃ o, cmdBuildLokale ["production-image", "keys", "cert.pem", "key.pem", "enclave-bins"] =
      .ok o ∧ o.signatur = ("keys", "cert.pem", "key.pem") :=
  let ⟨o, h, _, _, hs⟩ :=
    artefakte_ziele [.productionImage "keys" "cert.pem" "key.pem", .enclaveBins] (by simp)
  ⟨o, h, hs⟩

/-! ## 5. `all` -/

/-- **`all` counts only as the first word**: there it builds, whatever follows it, what no
    argument builds, the release of every artefact; after any list of targets, `cmd_build` dies
    on it. -/
theorem cmdBuild_all_nur_vorn :
    (∀ rest, cmdBuildLokale ("all" :: rest) = cmdBuildLokale []) ∧
    (∃ o, cmdBuildLokale [] = .ok o ∧ o.cargoArgs = ["--release"] ∧
      o.artefakte = [.enclaveBin evbinRpcServer, .enclaveBin evbinInit, .parentBin evbinAgent,
        .parentBin evbinRpcClient, .p11Mod, .eif, .al2Setup]) ∧
    ∀ (ts : List Ziel) (rest : List String), ts ≠ [] →
      cmdBuildLokale (ts.flatMap Ziel.woerter ++ "all" :: rest) = .error (unerwartet "all") := by
  refine ⟨fun rest => by simp [cmdBuildLokale], ⟨_, rfl, rfl, rfl⟩, fun ts rest h => ?_⟩
  rw [cmdBuildLokale_ziele h, leseBuildArgs_ziele]
  rfl

/-- The usage's `build --release all`. -/
theorem cmdBuild_all_release :
    cmdBuildLokale ["--release", "all"] = .error (unerwartet "all") :=
  cmdBuild_all_nur_vorn.2.2 [.release] [] (List.cons_ne_nil _ _)

end NitroEnclavesAcm.Devtool
