import NitroEnclavesAcm.Devtool.Lauf

/-
  File:      NitroEnclavesAcm/Devtool/Ordnung.lean
  Subject:   What every run of `devtool build` keeps (`tools/devtool`, `cmd_build` and the
             functions it calls), over every machine, every argument list and every trace
             before it.

  THE QUESTION. `devtool build` runs a few dozen command lines: directories, the dev
  containers, `cargo build` in them, and for an image `build_eif`, which copies release binaries
  into a context and runs `nitro-cli build-enclave` on it. After almost every line stands
  `ok_or_die`. Does a failed step always stop the build? And is an enclave image (EIF) ever
  built from binaries that this run did not build?

  THE ANSWER. **A failed step ends the run** (`cmdBuild_haelt_an`): a command line that fails,
  other than `docker rmi` at the end of `build_eif` and `popd`, is the last line of the run, and
  the run exits with its status; otherwise `cmd_build` returns 0. **An EIF is built only from
  fresh release binaries** (`cmdBuild_eif_frisch`): before every `nitro-cli build-enclave`, and
  after the one before it, stand the release builds of `p11ne-server`, `p11ne-init` and the
  PKCS#11 library in the enclave container and the copy of the three release binaries into the
  EIF context, each with status 0.

  Both are one rule (`ordnung`) that every function keeps, proved from one lemma per primitive:
  `ok_or_die` is pushed inward (`pruefe_and`, `pruefe_or`), and `build_eif` is proved along its
  steps with what each leaves for the next (`HaeltAb.seqS`, `Liefert`).

  NOT here: what the machine answers; the properties hold whatever the statuses are.
-/

namespace NitroEnclavesAcm.Devtool

open Bash (Skript Ausgang)
open Bash.Skript

variable (w : Werkbank)

/-! ## 1. The EIF builds and the checked lines -/

/-- `nitro-cli build-enclave`, the one line that builds an enclave image. -/
def Befehl.istEif : Befehl → Bool
  | .nitroBuild _ _ => true
  | _ => false

/-- The two lines whose status the tool ignores: `docker rmi` at the end of `build_eif`, and
    `popd`. -/
def Befehl.ungeprueft : Befehl → Bool
  | .dockerRmi _ | .popd => true
  | _ => false

/-- A line of `devtool build` other than `nitro-cli build-enclave`: every line but the EIF
    build, the `rm -f` of the sockets and the two simulations. -/
def Befehl.imBau : Befehl → Bool
  | .nitroBuild _ _ | .rmF _ | .simulateEnclave | .simulateParent => false
  | _ => true

theorem Befehl.istEif_of_imBau {b : Befehl} (h : b.imBau = true) : b.istEif = false := by
  cases b <;> first | rfl | cases h

/-- One step of `seitEif`: an EIF build forgets what came before it. -/
def merke (acc : List Eintrag) (e : Eintrag) : List Eintrag :=
  if e.1.istEif then [] else acc ++ [e]

/-- The trace since its last EIF build. -/
def seitEif (tr : List Eintrag) : List Eintrag := tr.foldl merke []

/-- The release builds of `cmd_build --release enclave-bins`, each with status 0. -/
def releaseBuilds : List Eintrag :=
  [(.cargoBuild enclaveCtrImg ["--release"] ["--bin", evbinRpcServer], 0),
   (.cargoBuild enclaveCtrImg ["--release"] ["--bin", evbinInit], 0),
   (.cargoBuild enclaveCtrImg ["--release"] ["--lib"], 0)]

/-- What an EIF build needs before it: the release builds, then the copy of their binaries into
    the EIF context, each with status 0. -/
def frisch : List Eintrag := releaseBuilds ++ [(.cpF (releaseBins w) (eifCtx w ++ "/"), 0)]

/-- The trace `tr` has fresh binaries for an EIF build. -/
def Bereit (tr : List Eintrag) : Prop := List.Sublist (frisch w) (seitEif tr)

theorem foldl_merke {neu : List Eintrag} (h : ∀ e ∈ neu, e.1.istEif = false) (acc) :
    neu.foldl merke acc = acc ++ neu := by
  induction neu generalizing acc with
  | nil => simp
  | cons e neu ih =>
    rw [List.foldl_cons, merke, if_neg (by simp [h e (List.mem_cons_self _ _)]),
      ih fun x hx => h x (List.mem_cons_of_mem _ hx), List.append_assoc, List.singleton_append]

/-- Lines without an EIF build add to the trace since the last one. -/
theorem seitEif_append {tr neu : List Eintrag} (h : ∀ e ∈ neu, e.1.istEif = false) :
    seitEif (tr ++ neu) = seitEif tr ++ neu := by
  rw [seitEif, List.foldl_append, foldl_merke h]; rfl

/-! ## 2. What every line keeps -/

/-- **A rule every line of `devtool build` keeps that builds no EIF**: a checked line
    (`b; ok_or_die`), one of the two unchecked lines, and `ok_or_die` itself. Every function of
    `devtool build` but `build_eif` is made of these, so it keeps every such rule
    (`Grundregel.ensureCtr_haelt`, …). -/
structure Grundregel (L : Regel Werkstatt) : Prop where
  zeile : ∀ b : Befehl, b.imBau = true → Haelt L (pruefe (befehl w b))
  ungeprueft : ∀ b : Befehl, b.imBau = true → b.ungeprueft = true → Haelt L (befehl w b)
  abbruch : ∀ n, Haelt L (okOrDie n)

/-- `&&`-chains checked as a whole, pushed inward (`pruefe_andAlle`). -/
theorem haelt_foldr_pruefe {L : Regel Werkstatt} {as : List (Skript Werkstatt)}
    (h : ∀ a ∈ as, Haelt L (pruefe a)) : Haelt L (as.foldr (fun a r => seq (pruefe a) r) (ret 0)) := by
  induction as with
  | nil => exact Haelt.ret 0
  | cons a as ih =>
    exact Haelt.seq (h a (List.mem_cons_self _ _)) (ih fun b hb => h b (List.mem_cons_of_mem _ hb))

namespace Grundregel

variable {w} {L : Regel Werkstatt} (hL : Grundregel w L)
include hL

theorem pruefe_haelt {a : Skript Werkstatt} (h : Haelt L a) : Haelt L (pruefe a) :=
  Haelt.seqS h hL.abbruch

theorem die_haelt : Haelt L die := hL.abbruch 1

theorem ensureBuildDirs_haelt : Haelt L (ensureBuildDirs w) :=
  Haelt.seq (hL.zeile _ rfl) (Haelt.seq (hL.zeile _ rfl) (hL.zeile _ rfl))

theorem ensureDocker_haelt : Haelt L (ensureDocker w) := Haelt.seq (hL.zeile _ rfl) (hL.zeile _ rfl)

theorem buildEnclaveCtr_haelt : Haelt L (pruefe (buildEnclaveCtr w)) := by
  rw [buildEnclaveCtr, pruefe_seq, pruefe_seq]
  exact Haelt.seq hL.ensureDocker_haelt (Haelt.seq hL.ensureBuildDirs_haelt (hL.zeile _ rfl))

theorem buildParentCtr_haelt : Haelt L (pruefe (buildParentCtr w)) := by
  rw [buildParentCtr, pruefe_seq, pruefe_seq, pruefe_seq, pruefe_and]
  exact Haelt.seq hL.ensureDocker_haelt (Haelt.seq hL.ensureBuildDirs_haelt
    (Haelt.seq (Haelt.seq (hL.zeile _ rfl) (hL.zeile _ rfl)) (hL.zeile _ rfl)))

theorem ensureCtr_haelt {bild : String} {bauen : Skript Werkstatt} (h : Haelt L (pruefe bauen)) :
    Haelt L (ensureCtr w bild bauen) := by
  rw [ensureCtr, pruefe_or, pruefe_seq]
  exact Haelt.seq hL.ensureDocker_haelt (Haelt.seqS (Haelt.lies fun _ => Haelt.test _)
    fun _ => Haelt.ite (Haelt.ret 0) (Haelt.seq (Haelt.ret 0) h))

theorem ensureEnclaveCtr_haelt : Haelt L (ensureEnclaveCtr w) :=
  hL.ensureCtr_haelt hL.buildEnclaveCtr_haelt

theorem ensureParentCtr_haelt : Haelt L (ensureParentCtr w) :=
  hL.ensureCtr_haelt hL.buildParentCtr_haelt

theorem baueBin_haelt {ensure : Skript Werkstatt} (he : Haelt L ensure) (bild : String)
    (cargoArgs ziel : List String) : Haelt L (baueBin w ensure bild cargoArgs ziel) :=
  Haelt.seq he (Haelt.seq (hL.zeile _ rfl) (Haelt.ret 0))

/-- The `pushd && install && …` chain of `build_al2_setup`, checked. -/
theorem installs_haelt : Haelt L (pruefe (andAlle (befehl w (.pushd (al2SetupDir w)) ::
    (al2Installs w).map fun (m, a, b) => befehl w (.install m a b)))) := by
  rw [pruefe_andAlle]
  refine haelt_foldr_pruefe fun a ha => ?_
  rcases List.mem_cons.mp ha with rfl | ha
  · exact hL.zeile _ rfl
  · obtain ⟨⟨_, _, _⟩, -, rfl⟩ := List.mem_map.mp ha
    exact hL.zeile _ rfl

/-- Everything `build_al2_setup` runs besides its calls of `cmd_build`. -/
theorem buildAl2Setup_haelt {bauen : List String → Skript Werkstatt}
    (hp : Haelt L (bauen ["--release", "parent-bins"])) (hd : Haelt L (bauen ["dev-image"])) :
    Haelt L (buildAl2Setup w bauen) := by
  unfold buildAl2Setup
  rw [pruefe_and, pruefe_and]
  exact Haelt.seq (Haelt.seq (hL.zeile _ rfl) (hL.zeile _ rfl)) <|
    Haelt.seq (hL.pruefe_haelt hp) <| Haelt.seq (hL.pruefe_haelt hd) <|
    Haelt.seq hL.installs_haelt <| Haelt.seq (hL.ungeprueft _ rfl rfl) <|
    Haelt.seq (Haelt.seq (hL.zeile _ rfl) (hL.zeile _ rfl)) <|
    Haelt.seq (hL.ungeprueft _ rfl rfl) (Haelt.ret 0)

/-- The binaries of `cmd_build`. -/
theorem cmdBuildBins_haelt (o : BuildLokale) : Haelt L (cmdBuildBins w o) :=
  Haelt.seq hL.ensureBuildDirs_haelt <|
  Haelt.seq (Haelt.forIn (fun _ => hL.baueBin_haelt hL.ensureEnclaveCtr_haelt _ _ _) _) <|
  Haelt.seq (Haelt.forIn (fun _ => hL.baueBin_haelt hL.ensureParentCtr_haelt _ _ _) _) <|
  Haelt.ifThen (Haelt.test _) (hL.baueBin_haelt hL.ensureEnclaveCtr_haelt _ _ _)

/-- **A call of `cmd_build` that builds neither image nor installer keeps every such rule**, its
    own calls whatever they do: `cmd_build --release enclave-bins` and
    `cmd_build --release parent-bins`. -/
theorem cmdBuild_blatt_haelt (n : Nat) {args : List String} {o : BuildLokale}
    (h : cmdBuildLokale args = .ok o) (he : o.eif = false) (ha : o.al2Setup = false) :
    Haelt L (cmdBuild w n args) := by
  cases n with
  | zero => exact hL.die_haelt
  | succ n =>
    simp only [cmdBuild, h]
    unfold cmdBuildMit
    rw [he, ha, ifThen_test_false, ifThen_test_false]
    exact Haelt.seq (hL.cmdBuildBins_haelt o) (Haelt.seq (Haelt.ret 0) (Haelt.ret 0))

end Grundregel

/-! ## 3. The rule of `devtool build` -/

/-- Where `e` stands in a list of one. -/
theorem eins_teile {α : Type} {v e : α} {a b : List α} (h : [v] = a ++ e :: b) :
    a = [] ∧ e = v ∧ b = [] := by
  rcases a with _ | ⟨x, _ | ⟨y, a⟩⟩ <;> simp_all

/-- Where `e` stands in `l₁ ++ l₂`. -/
theorem teile {α : Type} {l₁ l₂ a b : List α} {e : α} (h : l₁ ++ l₂ = a ++ e :: b) :
    (∃ b', l₁ = a ++ e :: b' ∧ b = b' ++ l₂) ∨ ∃ a', a = l₁ ++ a' ∧ l₂ = a' ++ e :: b := by
  rcases List.append_eq_append_iff.mp h with ⟨a', rfl, rfl⟩ | ⟨_ | ⟨x, c⟩, rfl, h'⟩
  · exact .inr ⟨a', rfl, rfl⟩
  · exact .inr ⟨[], by simp, by simpa using h'.symm⟩
  · obtain ⟨rfl, rfl⟩ := List.cons_eq_cons.mp h'
    exact .inl ⟨c, rfl, rfl⟩

/-- **What a run appended and how it ended**: `neu`, appended to the trace `vor`, ended with
    `o`. A failed line the tool checks is the last of `neu`, and the run exits with its status;
    an exit code is never 0; every EIF build in `neu` has fresh binaries before it; every line is
    one of `devtool build`. Without `mitEif`, `neu` builds no EIF. -/
structure Geordnet (mitEif : Bool) (vor neu : List Eintrag) (o : Ausgang) : Prop where
  halt : ∀ a e b, neu = a ++ e :: b → e.2 ≠ 0 → e.1.ungeprueft = false →
    b = [] ∧ o = .exit e.2
  exit_ne : ∀ c, o = .exit c → c ≠ 0
  eif : ∀ a e b, neu = a ++ e :: b → e.1.istEif = true → Bereit w (vor ++ a)
  bau : ∀ e ∈ neu, e.1.imBau = true ∨ e.1.istEif = true
  ohne : mitEif = false → ∀ e ∈ neu, e.1.istEif = false

theorem Geordnet.append {m : Bool} {vor n₁ n₂ : List Eintrag} {k : UInt8} {o : Ausgang}
    (h₁ : Geordnet w m vor n₁ (.fertig k)) (h₂ : Geordnet w m (vor ++ n₁) n₂ o) :
    Geordnet w m vor (n₁ ++ n₂) o where
  halt a e b h he hu := by
    rcases teile h with ⟨b', rfl, -⟩ | ⟨a', rfl, rfl⟩
    · exact nomatch (h₁.halt a e b' rfl he hu).2
    · exact h₂.halt a' e b rfl he hu
  exit_ne := h₂.exit_ne
  eif a e b h he := by
    rcases teile h with ⟨b', rfl, -⟩ | ⟨a', rfl, rfl⟩
    · exact h₁.eif a e b' rfl he
    · rw [← List.append_assoc]
      exact h₂.eif a' e b rfl he
  bau e he := (List.mem_append.mp he).elim (h₁.bau e) (h₂.bau e)
  ohne hm e he := (List.mem_append.mp he).elim (h₁.ohne hm e) (h₂.ohne hm e)

/-- **The rule of `devtool build`**: the run appended lines to the trace, and they are
    `Geordnet`. -/
def ordnung (mitEif : Bool) : Regel Werkstatt where
  R s r := ∃ neu, r.2.spur = s.spur ++ neu ∧ Geordnet w mitEif s.spur neu r.1
  ret s _ := ⟨[], by simp, ⟨by simp, (fun _ h => nomatch h), by simp, by simp, by simp⟩⟩
  trans _ := by
    rintro ⟨n₁, h₁, g₁⟩ ⟨n₂, h₂, g₂⟩
    dsimp only at h₁ g₁
    rw [h₁] at h₂ g₂
    exact ⟨n₁ ++ n₂, by rw [h₂, List.append_assoc], g₁.append w g₂⟩

/-- One line `b` with status `n`, ended with `o`. -/
theorem geordnet_eins {m : Bool} {vor : List Eintrag} {b : Befehl} {n : UInt8} {o : Ausgang}
    (hh : n ≠ 0 → b.ungeprueft = false → o = .exit n) (hx : ∀ c, o = .exit c → c ≠ 0)
    (he : b.istEif = true → Bereit w vor) (hb : b.imBau = true ∨ b.istEif = true)
    (hm : m = false → b.istEif = false) :
    Geordnet w m vor [(b, n)] o where
  halt a e c h h0 hu := by
    obtain ⟨rfl, rfl, rfl⟩ := eins_teile h
    exact ⟨rfl, hh h0 hu⟩
  exit_ne := hx
  eif a e c h hb := by
    obtain ⟨rfl, rfl, -⟩ := eins_teile h
    simpa using he hb
  bau e he' := by
    rw [List.mem_singleton.mp he']
    exact hb
  ohne hm' e he' := by
    rw [List.mem_singleton.mp he']
    exact hm hm'

/-- Without an EIF build the rule holds with one. -/
theorem ordnung_mit {a : Skript Werkstatt} (h : Haelt (ordnung w false) a) :
    Haelt (ordnung w true) a := fun s =>
  let ⟨neu, hs, g⟩ := h s
  ⟨neu, hs, g.halt, g.exit_ne, g.eif, g.bau, nofun⟩

/-! ## 4. Its primitives -/

section Primitive

variable {w} {m : Bool}

theorem exit_ordnung {n : UInt8} (h : n ≠ 0) : Haelt (ordnung w m) (Skript.exit n) := fun s =>
  ⟨[], by simp, ⟨by simp, fun _ e => by cases e; exact h, by simp, by simp, by simp⟩⟩

theorem aendern_ordnung {f : Werkstatt → Werkstatt} (hf : ∀ s, (f s).spur = s.spur) :
    Haelt (ordnung w m) (Skript.aendern f) := fun s =>
  ⟨[], by simp [hf], ⟨by simp, (fun _ h => nomatch h), by simp, by simp, by simp⟩⟩

variable (w m)

/-- **Every line but `nitro-cli` keeps the rule**: a checked line ends the run when it fails, an
    unchecked one does not count. -/
theorem grundregel_ordnung : Grundregel w (ordnung w m) where
  zeile b hb s := by
    have he := Befehl.istEif_of_imBau hb
    refine ⟨[(b, w.status s.spur b)], ?_,
      geordnet_eins w ?_ ?_ (by simp [he]) (.inl hb) fun _ => he⟩ <;>
      by_cases h : w.status s.spur b = 0 <;> simp [pruefe, okOrDie, h]
  ungeprueft b hb hu s :=
    have he := Befehl.istEif_of_imBau hb
    ⟨[(b, w.status s.spur b)], rfl,
      geordnet_eins w (by simp [hu]) (fun _ h => nomatch h) (by simp [he]) (.inl hb) fun _ => he⟩
  abbruch n := by
    unfold okOrDie
    split
    exacts [Haelt.ret 0, exit_ordnung ‹_›]

variable {w}

/-- **`nitro-cli build-enclave`, checked, from a trace with fresh binaries**, and whatever keeps
    the rule after it. -/
theorem nitro_ordnung {k : UInt8 → Skript Werkstatt} (hk : ∀ n, Haelt (ordnung w true) (k n)) :
    HaeltAb (ordnung w true) (fun s => Bereit w s.spur)
      (seqS (pruefe (lies fun s => befehl w (.nitroBuild s.signingExtraDockerArgs
        s.signingExtraBuildArgs))) k) := by
  refine Skript.HaeltAb.seqS (fun s hs => ?_) (fun _ _ _ _ _ => trivial) fun n => (hk n).ab
  refine ⟨[(.nitroBuild s.signingExtraDockerArgs s.signingExtraBuildArgs,
      w.status s.spur (.nitroBuild s.signingExtraDockerArgs s.signingExtraBuildArgs))], ?_,
    geordnet_eins w ?_ ?_ (fun _ => hs) (.inr rfl) nofun⟩ <;>
    by_cases h : w.status s.spur (.nitroBuild s.signingExtraDockerArgs
      s.signingExtraBuildArgs) = 0 <;> simp [pruefe, okOrDie, h]

end Primitive

/-! ## 5. What a step leaves for the next -/

/-- **`a` builds no EIF, and when it returns it has appended `xs`**, in this order among the
    lines it ran. -/
def Liefert (xs : List Eintrag) (a : Skript Werkstatt) : Prop :=
  ∀ s, ∃ neu, (a s).2.spur = s.spur ++ neu ∧ (∀ e ∈ neu, e.1.istEif = false) ∧
    ∀ n, (a s).1 = .fertig n → List.Sublist xs neu

namespace Liefert

variable {w}

theorem ret (n : UInt8) : Liefert [] (Skript.ret n) := fun s =>
  ⟨[], by simp, by simp, fun _ _ => List.nil_sublist _⟩

theorem of_ordnung {a : Skript Werkstatt} (h : Haelt (ordnung w false) a) : Liefert [] a :=
  fun s =>
    let ⟨neu, hs, g⟩ := h s
    ⟨neu, hs, g.ohne rfl, fun _ _ => List.nil_sublist _⟩

theorem exit {xs : List Eintrag} (n : UInt8) : Liefert xs (Skript.exit n) := fun s =>
  ⟨[], by simp, by simp, fun _ h => nomatch h⟩

theorem seqS {xs ys : List Eintrag} {a : Skript Werkstatt} {k : UInt8 → Skript Werkstatt}
    (ha : Liefert xs a) (hk : ∀ n, Liefert ys (k n)) :
    Liefert (xs ++ ys) (Skript.seqS a k) := by
  intro s
  obtain ⟨n₁, h₁, o₁, l₁⟩ := ha s
  rw [seqS_apply]
  rcases e : a s with ⟨n | c, t⟩ <;> rw [e] at h₁ l₁ <;> dsimp only at h₁ l₁
  · obtain ⟨n₂, h₂, o₂, l₂⟩ := hk n t
    rw [h₁] at h₂
    refine ⟨n₁ ++ n₂, by rw [weiter_fertig, h₂, List.append_assoc], ?_,
      fun k hk => (l₁ n rfl).append (l₂ k hk)⟩
    simpa only [List.mem_append] using fun e he => he.elim (o₁ e) (o₂ e)
  · exact ⟨n₁, h₁, o₁, fun _ h => nomatch h⟩

theorem seq {xs ys : List Eintrag} {a b : Skript Werkstatt} (ha : Liefert xs a)
    (hb : Liefert ys b) : Liefert (xs ++ ys) (Skript.seq a b) := seqS ha fun _ => hb

/-- A checked line with status 0 is on the trace when the run goes on. -/
theorem pruefe_befehl (b : Befehl) (hb : b.istEif = false) :
    Liefert [(b, 0)] (pruefe (befehl w b)) := fun s => by
  refine ⟨[(b, w.status s.spur b)], ?_, by simp [hb], ?_⟩ <;>
    by_cases h : w.status s.spur b = 0 <;> simp [pruefe, okOrDie, h]

/-- `ok_or_die` after a step keeps what it delivers. -/
theorem geprueft {xs : List Eintrag} {a : Skript Werkstatt} (h : Liefert xs a) :
    Liefert xs (Devtool.pruefe a) := by
  have h' := seqS h fun n => show Liefert [] (okOrDie n) by
    unfold okOrDie; split
    exacts [ret 0, exit n]
  rwa [List.append_nil] at h'

theorem forIn {α : Type} {f : α → List Eintrag} {body : α → Skript Werkstatt}
    (hb : ∀ x, Liefert (f x) (body x)) (xs : List α) :
    Liefert (xs.flatMap f) (Skript.forIn xs body) := by
  unfold Skript.forIn
  generalize (0 : UInt8) = n
  induction xs generalizing n with
  | nil => exact ret n
  | cons x xs ih => exact seqS (hb x) ih

/-- After a step that delivered `xs`, the trace since the last EIF build ends with lines that
    hold `xs`. -/
theorem seit {xs : List Eintrag} {a : Skript Werkstatt} (h : Liefert xs a) {s t : Werkstatt}
    {n : UInt8} (e : a s = (.fertig n, t)) :
    ∃ neu, seitEif t.spur = seitEif s.spur ++ neu ∧ List.Sublist xs neu := by
  obtain ⟨neu, hs, ho, hl⟩ := h s
  rw [e] at hs hl
  exact ⟨neu, by rw [hs, seitEif_append ho], hl n rfl⟩

end Liefert

/-- A step that builds no EIF keeps the trace ready for one. -/
theorem bereit_ordnung {a : Skript Werkstatt} {k : UInt8 → Skript Werkstatt}
    (ha : Haelt (ordnung w false) a)
    (hk : ∀ n, HaeltAb (ordnung w true) (fun s => Bereit w s.spur) (k n)) :
    HaeltAb (ordnung w true) (fun s => Bereit w s.spur) (seqS a k) := by
  refine Skript.HaeltAb.seqS (ordnung_mit w ha).ab (fun s n t hs e => ?_) hk
  obtain ⟨neu, ht, -⟩ := (Liefert.of_ordnung ha).seit e
  exact hs.trans (by rw [ht]; exact List.sublist_append_left _ _)

/-- The copy of the release binaries into the EIF context makes a trace that holds the release
    builds ready. -/
theorem kopie_ordnung {k : UInt8 → Skript Werkstatt}
    (hk : ∀ n, HaeltAb (ordnung w true) (fun s => Bereit w s.spur) (k n)) :
    HaeltAb (ordnung w true) (fun s => List.Sublist releaseBuilds (seitEif s.spur))
      (seqS (pruefe (befehl w (.cpF (releaseBins w) (eifCtx w ++ "/")))) k) := by
  refine Skript.HaeltAb.seqS
    ((grundregel_ordnung w true).zeile (.cpF (releaseBins w) (eifCtx w ++ "/")) rfl).ab
    (fun s n t hs e => ?_) hk
  obtain ⟨neu, ht, hn⟩ := (Liefert.pruefe_befehl (.cpF (releaseBins w) (eifCtx w ++ "/")) rfl).seit e
  rw [Bereit, ht]
  exact hs.append hn

/-- A checked step that delivers the release builds makes the trace hold them. -/
theorem nach_release_ordnung {a : Skript Werkstatt} {k : UInt8 → Skript Werkstatt}
    (ha : Haelt (ordnung w true) a) (hl : Liefert releaseBuilds a)
    (hk : ∀ n, HaeltAb (ordnung w true) (fun s => List.Sublist releaseBuilds (seitEif s.spur)) (k n)) :
    Haelt (ordnung w true) (seqS (pruefe a) k) := by
  have h : HaeltAb (ordnung w true) (fun _ => True) (seqS (pruefe a) k) :=
    Skript.HaeltAb.seqS ((grundregel_ordnung w true).pruefe_haelt ha).ab (fun _ _ _ _ e => by
      obtain ⟨neu, ht, hn⟩ := (Liefert.geprueft hl).seit e
      rw [ht]
      exact hn.trans (List.sublist_append_right _ _)) hk
  exact fun s => h s trivial

/-! ## 6. `build_eif` and `cmd_build` -/

/-- **`build_eif`, step by step**: its call of `cmd_build` delivers the release builds, the copy
    after it makes the trace ready for `nitro-cli build-enclave`, and the steps between build no
    EIF. -/
theorem buildEif_ordnung {bauen : List String → Skript Werkstatt}
    (hb : ∀ args, Haelt (ordnung w true) (bauen args))
    (hl : Liefert releaseBuilds (bauen ["--release", "enclave-bins"])) (dir cert key : String) :
    Haelt (ordnung w true) (buildEif w bauen dir cert key) := by
  have g := grundregel_ordnung w true
  have gid : Haelt (ordnung w false) (Skript.and (test (w.dockerGid == "")) die) :=
    Haelt.and (Haelt.test _) (grundregel_ordnung w false).die_haelt
  have sign : Haelt (ordnung w false) (ifThen (test (dir != "")) (setzeSigning dir cert key)) :=
    Haelt.ifThen (Haelt.test _) (aendern_ordnung fun _ => rfl)
  refine Haelt.seq g.ensureEnclaveCtr_haelt (Haelt.seq g.ensureParentCtr_haelt
    (Haelt.seq ?_ (nach_release_ordnung w (hb _) hl fun _ => kopie_ordnung w fun _ =>
      bereit_ordnung w ((grundregel_ordnung w false).zeile _ rfl) fun _ =>
      bereit_ordnung w gid fun _ => bereit_ordnung w sign fun _ => nitro_ordnung fun _ =>
      Haelt.seq (Haelt.ret 0) (Haelt.seq (Haelt.ret 0) (g.ungeprueft _ rfl rfl)))))
  rw [pruefe_and]
  exact Haelt.seq (g.zeile _ rfl) (g.zeile _ rfl)

theorem cmdBuildMit_ordnung {bauen : List String → Skript Werkstatt}
    (hb : ∀ args, Haelt (ordnung w true) (bauen args))
    (hl : Liefert releaseBuilds (bauen ["--release", "enclave-bins"])) (o : BuildLokale) :
    Haelt (ordnung w true) (cmdBuildMit w bauen o) :=
  Haelt.seq ((grundregel_ordnung w true).cmdBuildBins_haelt o) <|
  Haelt.seq (Haelt.ifThen (Haelt.test _) (buildEif_ordnung w hb hl _ _ _)) <|
  Haelt.ifThen (Haelt.test _) ((grundregel_ordnung w true).buildAl2Setup_haelt (hb _) (hb _))

/-- The `cargo build` lines of `cmd_build`'s loops for the locals `o`, each with status 0: the
    enclave binaries, the parent binaries, then the PKCS#11 library. -/
def BuildLokale.cargoZeilen (o : BuildLokale) : List Eintrag :=
  o.enclaveBins.map (fun b => (.cargoBuild enclaveCtrImg o.cargoArgs ["--bin", b], 0)) ++
    o.parentBins.map (fun b => (.cargoBuild parentCtrImg o.cargoArgs ["--bin", b], 0)) ++
    if o.p11Mod then [(.cargoBuild enclaveCtrImg o.cargoArgs ["--lib"], 0)] else []

/-- **The loops of `cmd_build` deliver every binary of its locals**, in order, each with
    status 0. -/
theorem cmdBuildBins_liefert (o : BuildLokale) : Liefert o.cargoZeilen (cmdBuildBins w o) := by
  have g := grundregel_ordnung w false
  have bin : ∀ {ens : Skript Werkstatt} (bild : String) (z : List String),
      Haelt (ordnung w false) ens →
      Liefert [(.cargoBuild bild o.cargoArgs z, 0)] (baueBin w ens bild o.cargoArgs z) :=
    fun bild z h => by
      simpa using (Liefert.of_ordnung h).seq
        ((Liefert.pruefe_befehl (.cargoBuild bild o.cargoArgs z) rfl).seq (Liefert.ret 0))
  have lib : Liefert (if o.p11Mod then [(.cargoBuild enclaveCtrImg o.cargoArgs ["--lib"], 0)]
      else []) (ifThen (test o.p11Mod)
        (baueBin w (ensureEnclaveCtr w) enclaveCtrImg o.cargoArgs ["--lib"])) := by
    cases o.p11Mod
    exacts [Liefert.ret 0, bin _ _ g.ensureEnclaveCtr_haelt]
  unfold cmdBuildBins BuildLokale.cargoZeilen
  rw [List.map_eq_flatMap, List.map_eq_flatMap]
  simpa using (Liefert.of_ordnung g.ensureBuildDirs_haelt).seq <|
    (Liefert.forIn (fun _ => bin _ _ g.ensureEnclaveCtr_haelt) _).seq <|
    (Liefert.forIn (fun _ => bin _ _ g.ensureParentCtr_haelt) _).seq lib

/-- A call of `cmd_build` that builds neither image nor installer delivers its binaries. -/
theorem cmdBuild_blatt_liefert (n : Nat) {args : List String} {o : BuildLokale}
    (h : cmdBuildLokale args = .ok o) (he : o.eif = false) (ha : o.al2Setup = false) :
    Liefert o.cargoZeilen (cmdBuild w n args) := by
  cases n with
  | zero => exact Liefert.exit 1
  | succ n =>
    simp only [cmdBuild, h]
    unfold cmdBuildMit
    rw [he, ha, ifThen_test_false, ifThen_test_false]
    simpa using (cmdBuildBins_liefert w o).seq ((Liefert.ret 0).seq (Liefert.ret 0))

/-- **The call in `build_eif` delivers the release builds**: `cmd_build --release enclave-bins`
    builds no EIF, and when it returns it has built `p11ne-server`, `p11ne-init` and the PKCS#11
    library in the enclave container, each with status 0. -/
theorem cmdBuild_release (n : Nat) : Liefert releaseBuilds (cmdBuild w n encArgs) :=
  cmdBuild_blatt_liefert w n cmdBuildLokale_encArgs rfl rfl

theorem cmdBuild_ordnung : ∀ n args, Haelt (ordnung w true) (cmdBuild w n args)
  | 0, _ => (grundregel_ordnung w true).die_haelt
  | n + 1, args => by
    simp only [cmdBuild]
    split
    · exact cmdBuildMit_ordnung w (cmdBuild_ordnung n) (cmdBuild_release w n) _
    · exact (grundregel_ordnung w true).die_haelt

/-! ## 7. What `cmd_build` returns -/

/-- `a`, when it returns, returns 0. -/
def EndetNull (a : Skript Werkstatt) : Prop := ∀ s k, (a s).1 = .fertig k → k = 0

theorem EndetNull.ret : EndetNull (Skript.ret 0) := fun _ _ h => by cases h; rfl

theorem EndetNull.seq {a b : Skript Werkstatt} (hb : EndetNull b) : EndetNull (Skript.seq a b) := by
  intro s k h
  rw [Skript.seq, seqS_apply] at h
  rcases e : a s with ⟨_ | _, t⟩ <;> rw [e] at h
  · exact hb t k h
  · cases h

/-- The body ends with `if [[ "$al2_setup" = y ]]; then build_al2_setup; fi`, and
    `build_al2_setup` with `say`. -/
theorem cmdBuildMit_endetNull (bauen : List String → Skript Werkstatt) (o : BuildLokale) :
    EndetNull (cmdBuildMit w bauen o) := by
  unfold cmdBuildMit
  repeat apply EndetNull.seq
  cases o.al2Setup
  · exact EndetNull.ret
  · unfold buildAl2Setup
    repeat apply EndetNull.seq
    exact EndetNull.ret

theorem cmdBuild_endetNull : ∀ n args, EndetNull (cmdBuild w n args)
  | 0, _ => fun _ _ h => nomatch h
  | n + 1, args => by
    simp only [cmdBuild]
    split
    · exact cmdBuildMit_endetNull w _ _
    · exact fun _ _ h => nomatch h

/-! ## 8. Every run of `devtool build` -/

/-- **A failed step ends `devtool build`**: in every run of `cmd_build`, on every machine and
    after every trace, a command line that fails, other than `docker rmi` and `popd`, is the last
    line of the run, and the run exits with its status; every exit code is non-zero, and a run
    that returns returns 0. -/
theorem cmdBuild_haelt_an (n : Nat) (args : List String) (s : Werkstatt) :
    ∃ neu, (cmdBuild w n args s).2.spur = s.spur ++ neu ∧
      (∀ a e b, neu = a ++ e :: b → e.2 ≠ 0 → e.1.ungeprueft = false →
        b = [] ∧ (cmdBuild w n args s).1 = .exit e.2) ∧
      (∀ c, (cmdBuild w n args s).1 = .exit c → c ≠ 0) ∧
      ∀ k, (cmdBuild w n args s).1 = .fertig k → k = 0 :=
  let ⟨neu, h, g⟩ := cmdBuild_ordnung w n args s
  ⟨neu, h, g.halt, g.exit_ne, cmdBuild_endetNull w n args s⟩

/-- **An EIF is built only from fresh release binaries**: in every run of `cmd_build`, on every
    machine and after every trace, before each `nitro-cli build-enclave` the run appends, and
    after the EIF build before it, stand the release builds of `p11ne-server`, `p11ne-init` and
    the PKCS#11 library in the enclave container and then the copy of the three release
    binaries into the EIF context, each with status 0. -/
theorem cmdBuild_eif_frisch (n : Nat) (args : List String) (s : Werkstatt) :
    ∃ neu, (cmdBuild w n args s).2.spur = s.spur ++ neu ∧
      ∀ a e b, neu = a ++ e :: b → e.1.istEif = true →
        List.Sublist (frisch w) (seitEif (s.spur ++ a)) :=
  let ⟨neu, h, g⟩ := cmdBuild_ordnung w n args s
  ⟨neu, h, g.eif⟩

end NitroEnclavesAcm.Devtool
