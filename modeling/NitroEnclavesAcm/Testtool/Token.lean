import NitroEnclavesAcm.Testtool.Main

/-
  File:      NitroEnclavesAcm/Testtool/Token.lean
  Subject:   The token of the p11ne enclave over a whole run of `testtool`: every
             `p11ne-cli init-token` is released by `p11ne-cli release-token` before the next one,
             and no run, not even an aborted one, leaves a token behind.

  `cmd_openssl` brackets the cases of each key between `provision_key` (pack the key, init the
  token) and `cleanup_key` (release it), and the certificate cases the same way with
  `provision_key_w_cert`. Between the two only cases run, and a case never exits
  (`testtemplate_generate_check` returns to the suite); `provision_key` dies only BEFORE the token
  is initialized, when the key does not pack, and `cleanup_key`, called with its two words,
  never dies. **So the token lines of every run of `testtool`, whatever its arguments, the
  programs and the state it starts from, are init, release, init, release, …, ending with a
  release** (`testtool_token`).

  * `tokenSchritt`, `tokenLauf` -- what a command line does to the token, and the machine that
    holds it: free or held; an init while held or a release while free is an error;
  * `TokenWeg`, `Fuehrt` -- a run's new spur takes the token from one state to another; a command
    does so from every state, ending free whenever it exits;
  * `tokenFrei`, `fallRegel` -- two rules of runs: from free to free; what a case does (it
    returns, keeps `key_id` and `region`, and runs no line of the p11ne tools);
  * `provisionKeyMit_okOrDie` -- `provision_key` returns 0 whenever it returns (its last command
    is `return 0`), so the `ok_or_die` after it never fires, whatever `init-token` did;
  * `klammer` -- open, run without exiting, release: from free to free.

  NOT here: which key each token is for, and what the enclave does with a token the commands
  pass to it.
-/

namespace NitroEnclavesAcm.Testtool

open NitroEnclavesAcm.Bash

/-! ## 1. The token machine -/

/-- What a command line does to the enclave's token. -/
inductive TokenSchritt where
  /-- `p11ne-cli init-token …` -/
  | belegen
  /-- `p11ne-cli release-token …` -/
  | freigeben
  deriving DecidableEq, Repr

/-- The token step of a command line, if it is one. -/
def tokenSchritt : List String → Option TokenSchritt
  | "p11ne-cli" :: "init-token" :: _ => some .belegen
  | "p11ne-cli" :: "release-token" :: _ => some .freigeben
  | _ => none

/-- The token held (`true`) or free after the steps, from `gehalten`; `none` when a step does not
    fit: an init while a token is held, a release while none is. -/
def tokenLauf (gehalten : Bool) : List TokenSchritt → Option Bool
  | [] => some gehalten
  | x :: rest =>
    match gehalten, x with
    | false, .belegen => tokenLauf true rest
    | true, .freigeben => tokenLauf false rest
    | _, _ => none

theorem tokenSchritt_kopf {z : List String} (h : z.head? ≠ some "p11ne-cli") :
    tokenSchritt z = none := by
  unfold tokenSchritt
  split <;> simp_all

theorem tokenLauf_append (b : Bool) (l₁ l₂ : List TokenSchritt) :
    tokenLauf b (l₁ ++ l₂) = (tokenLauf b l₁).bind (tokenLauf · l₂) := by
  induction l₁ generalizing b with
  | nil => rfl
  | cons x l ih => cases b <;> cases x <;> simp [tokenLauf, ih]

/-- **From free to free is init, release, init, release, …** -/
theorem tokenLauf_paare : ∀ l, tokenLauf false l = some false →
    ∃ n, l = (List.replicate n [TokenSchritt.belegen, .freigeben]).flatten
  | [], _ => ⟨0, rfl⟩
  | .belegen :: .freigeben :: rest, h =>
    have ⟨n, hn⟩ := tokenLauf_paare rest h
    ⟨n + 1, by rw [hn, List.replicate_succ, List.flatten_cons]; rfl⟩
  | [.belegen], h | .belegen :: .belegen :: _, h | .freigeben :: _, h => by
    simp [tokenLauf] at h

/-! ## 2. Runs -/

/-- From `s` to `t` the spur grew by lines whose token steps take the token from `a` to `b`. -/
def TokenWeg (a b : Bool) (s t : Shell) : Prop :=
  ∃ neu : List (List String), t.spur = s.spur ++ neu ∧
    tokenLauf a (neu.filterMap tokenSchritt) = some b

namespace TokenWeg

theorem gleich {s t : Shell} (b : Bool) (h : t.spur = s.spur) : TokenWeg b b s t :=
  ⟨[], by rw [h, List.append_nil], rfl⟩

theorem trans {a b c : Bool} {s t u : Shell} :
    TokenWeg a b s t → TokenWeg b c t u → TokenWeg a c s u := by
  rintro ⟨n₁, h₁, l₁⟩ ⟨n₂, h₂, l₂⟩
  exact ⟨n₁ ++ n₂, by rw [h₂, h₁, List.append_assoc],
    by rw [List.filterMap_append, tokenLauf_append, l₁]; exact l₂⟩

/-- Lines that are no token steps leave the token as it is. -/
theorem ohne {b : Bool} {s t : Shell} {neu : List (List String)} (h : t.spur = s.spur ++ neu)
    (hn : ∀ z ∈ neu, tokenSchritt z = none) : TokenWeg b b s t :=
  ⟨neu, h, by rw [List.filterMap_eq_nil_iff.mpr hn]; rfl⟩

end TokenWeg

/-- The token after a run: as the command leaves it when it returns, free when it exits. -/
def nachLauf (b : Bool) : Ausgang → Bool
  | .fertig _ => b
  | .exit _ => false

@[simp] theorem nachLauf_false (o : Ausgang) : nachLauf false o = false := by
  cases o <;> rfl

/-- From every state in which the token is `a`, the command leaves it `b` when it returns, and
    free when it exits. -/
def Fuehrt (a b : Bool) (c : Sh) : Prop := ∀ s, TokenWeg a (nachLauf b (c s).1) s (c s).2

/-- **The token rule**: what a run does takes the token from free to free. -/
def tokenFrei : Laufregel where
  R s r := TokenWeg false false s r.2
  ret _ _ := TokenWeg.gleich false rfl
  trans _ h₁ h₂ := h₁.trans h₂

/-- A command line of neither p11ne tool. -/
def ohneP11ne (z : List String) : Prop := z.head? ≠ some "p11ne-cli" ∧ z.head? ≠ some "p11ne-db"

/-- **The rule of a case**: a run that returns, keeps `key_id` and `region`, and runs no line of
    the p11ne tools. -/
def fallRegel : Laufregel where
  R s r := (∃ n, r.1 = .fertig n) ∧ r.2.vars.keyId = s.vars.keyId ∧
    r.2.vars.region = s.vars.region ∧ ∃ neu, r.2.spur = s.spur ++ neu ∧ ∀ z ∈ neu, ohneP11ne z
  ret s n := ⟨⟨n, rfl⟩, rfl, rfl, [], by simp, nofun⟩
  trans _ h₁ h₂ := by
    obtain ⟨-, k₁, r₁, n₁, h₁, l₁⟩ := h₁
    obtain ⟨hf, k₂, r₂, n₂, h₂, l₂⟩ := h₂
    refine ⟨hf, k₂.trans k₁, r₂.trans r₁, n₁ ++ n₂, by rw [h₂, h₁, List.append_assoc],
      fun z hz => ?_⟩
    rcases List.mem_append.mp hz with hz | hz
    exacts [l₁ z hz, l₂ z hz]

namespace Fuehrt

theorem seq {a b c : Bool} {x y : Sh} (hx : Fuehrt a b x) (hy : Fuehrt b c y) :
    Fuehrt a c (Sh.seq x y) := by
  intro s
  have h := hx s
  simp only [Sh.seq_apply]
  rcases e : x s with ⟨_ | n, t⟩ <;> rw [e] at h
  · exact h.trans (hy t)
  · exact h

theorem lies {a b : Bool} {k : Vars → Sh} (hk : ∀ v, Fuehrt a b (k v)) : Fuehrt a b (Sh.lies k) :=
  fun s => hk s.vars s

theorem call {a b : Bool} {z : List String} {c : Cmd}
    (h : tokenLauf a ([z].filterMap tokenSchritt) = some b) : Fuehrt a b (Sh.call z c) :=
  fun _ => ⟨[z], rfl, h⟩

/-- A case leaves the token as it is. -/
theorem of_fall {b : Bool} {c : Sh} (h : Haelt fallRegel c) : Fuehrt b b c := by
  intro s
  obtain ⟨⟨n, hn⟩, -, -, neu, hs, hz⟩ := h s
  rw [hn]
  exact TokenWeg.ohne hs fun z h => tokenSchritt_kopf (hz z h).1

theorem haelt {c : Sh} (h : Fuehrt false false c) : Haelt tokenFrei c := fun s => by
  have h' := h s
  rw [nachLauf_false] at h'
  exact h'

theorem of_haelt {c : Sh} (h : Haelt tokenFrei c) : Fuehrt false false c := fun s => by
  rw [nachLauf_false]
  exact h s

end Fuehrt

/-- **Open, run, release**: a command that opens the token (returning with it held, or exiting
    with it free), then one that runs no token line and returns, then one that releases it,
    take the token from free to free. -/
theorem klammer {p m c : Sh} (hp : Fuehrt false true p) (hm : Haelt fallRegel m)
    (hc : Fuehrt true false c) : Haelt tokenFrei (Sh.seq p (Sh.seq m c)) :=
  (hp.seq ((Fuehrt.of_fall hm).seq hc)).haelt

/-! ## 3. The commands -/

section Befehle

variable (e : Env)

theorem tokenFrei_call {z : List String} (c : Cmd) (hz : tokenSchritt z = none) :
    Haelt tokenFrei (Sh.call z c) := fun _ => TokenWeg.ohne rfl (by simpa using hz)

theorem tokenFrei_set (f : Vars → Vars) : Haelt tokenFrei (Sh.set f) := fun _ =>
  TokenWeg.gleich false rfl

theorem tokenFrei_exit (n : UInt8) : Haelt tokenFrei (Sh.exit n) := fun _ =>
  TokenWeg.gleich false rfl

theorem tokenFrei_okOrDie (c : UInt8) : Haelt tokenFrei (okOrDie c) :=
  Haelt.ite (Haelt.ret 0) (tokenFrei_exit c)

theorem tokenFrei_folge_befehl {zs : List (List String)} (h : ∀ z ∈ zs, tokenSchritt z = none) :
    Haelt tokenFrei (Sh.folge (zs.map e.befehl)) :=
  Haelt.folge fun _ hc => by
    obtain ⟨z, hz, rfl⟩ := List.mem_map.mp hc
    exact tokenFrei_call _ (h z hz)

theorem ohneP11ne_cons {a : String} (h₁ : a ≠ "p11ne-cli") (h₂ : a ≠ "p11ne-db")
    (rest : List String) : ohneP11ne (a :: rest) :=
  ⟨by simpa using h₁, by simpa using h₂⟩

theorem fall_call {z : List String} (c : Cmd) (hz : ohneP11ne z) : Haelt fallRegel (Sh.call z c) :=
  fun _ => ⟨⟨_, rfl⟩, rfl, rfl, [z], rfl, by simpa using hz⟩

theorem fall_logTestResult (testname : String) (c : UInt8) :
    Haelt fallRegel (logTestResult testname c) := fun _ =>
  ⟨⟨0, rfl⟩, by unfold logTestResult; split <;> rfl, by unfold logTestResult; split <;> rfl, [],
    by simp [logTestResult], nofun⟩

theorem fall_subshell {a : Sh} (ha : Haelt fallRegel a) : Haelt fallRegel (Sh.subshell a) :=
  fun s => ⟨⟨_, rfl⟩, rfl, rfl, (ha s).2.2.2⟩

theorem tokenFrei_optionenLesen (erlaubt : List String) :
    ∀ args, Haelt tokenFrei (optionenLesen erlaubt args)
  | [] => Haelt.ret 0
  | [_] => .ite (.seq (tokenFrei_set _) (.ret 1)) (tokenFrei_exit 1)
  | _ :: _ :: rest => .ite (.seq (tokenFrei_set _) (tokenFrei_optionenLesen erlaubt rest))
      (tokenFrei_exit 1)

theorem tokenFrei_prepareTestEnv : Haelt tokenFrei (prepareTestEnv e) :=
  .seq (.seqS (tokenFrei_call _ (by rfl)) tokenFrei_okOrDie) <|
    .seqS (tokenFrei_call _ (by rfl)) fun _ => .ifThen (.test _)
      (.seq (.seqS (tokenFrei_call _ (by rfl)) tokenFrei_okOrDie)
        (.seqS (tokenFrei_call _ (by rfl)) tokenFrei_okOrDie))

theorem tokenFrei_cleanupTestEnv : Haelt tokenFrei (cleanupTestEnv e) :=
  tokenFrei_folge_befehl e (by decide)

/-! ## 4. Provisioning and release -/

/-- **`provision_key` returns 0 whenever it returns**: its last command is `return 0`, so the
    `ok_or_die "Cannot provision openssl test keys."` after it never fires, whatever
    `p11ne-cli init-token` returned. -/
theorem provisionKeyMit_okOrDie (packZeile : Vars → List String) (args : List String) :
    Sh.seqS (provisionKeyMit e packZeile args) okOrDie = provisionKeyMit e packZeile args := by
  simp only [provisionKeyMit, Sh.seq, Sh.seqS_assoc]
  rfl

/-- `provision_key` opens the token: it dies before `init-token` or returns holding it. -/
theorem provisionKeyMit_oeffnet {packZeile : Vars → List String}
    (hp : ∀ v, tokenSchritt (packZeile v) = none) (args : List String) :
    Fuehrt false true (provisionKeyMit e packZeile args) :=
  (Fuehrt.of_haelt (.ifThen (.test _) (tokenFrei_exit 1))).seq <|
  (Fuehrt.of_haelt (tokenFrei_optionenLesen _ args)).seq <|
  (Fuehrt.of_haelt (.lies fun v => .seqS (tokenFrei_call _ (hp v)) tokenFrei_okOrDie)).seq <|
  (Fuehrt.lies fun _ => Fuehrt.call (by rfl)).seq (Fuehrt.of_fall (Haelt.ret 0))

/-- `cleanup_key --key-label …` releases the token and returns. -/
theorem cleanupKey_schliesst (label : String) :
    Fuehrt true false (cleanupKey e ["--key-label", label]) := fun _ =>
  ⟨_, rfl, rfl⟩

/-! ## 5. The cases -/

/-- The names of the functions a case is handed: the input generator, the two providers, the
    two checkers and the comparator. -/
def Fall.namen (f : Fall) : List String :=
  [f.fctPrngInputfile.name, f.fctGeneratorPkcs.name, f.fctGeneratorRef.name,
    f.fctCheckerPkcs.name, f.fctCheckerRef.name, f.fctCustomCheckOutFiles.name]

/-- **A case returns, keeps the KMS variables and runs no p11ne line**, when none of its
    functions is a p11ne tool: the group of the template runs only the functions it is handed,
    `bitflip` and `diff`, and `log_test_result` returns. -/
theorem fall_testtemplateGenerateCheck (f : Fall)
    (hf : ∀ n ∈ f.namen, n ≠ "p11ne-cli" ∧ n ≠ "p11ne-db") :
    Haelt fallRegel (testtemplateGenerateCheck e f) := by
  have hfn : ∀ (g : ShFn) (args : List String), g.name ∈ f.namen →
      Haelt fallRegel (g.aufruf args) := fun _ args hg =>
    fall_call _ (ohneP11ne_cons (hf _ hg).1 (hf _ hg).2 args)
  unfold testtemplateGenerateCheck testtemplateBlock
  refine .seqS (.and (fall_call _ (ohneP11ne_cons (hf _ (by simp [Fall.namen])).1
      (hf _ (by simp [Fall.namen])).2 _))
    (.and (.ifThen (.test _) (.and (fall_call _ (ohneP11ne_cons (by decide) (by decide) _))
      (fall_subshell (.not (fall_call _ (ohneP11ne_cons (by decide) (by decide) _))))))
    (.and (hfn _ _ (by simp [Fall.namen])) (.and (hfn _ _ (by simp [Fall.namen]))
    (.and (hfn _ _ (by simp [Fall.namen])) (.and (hfn _ _ (by simp [Fall.namen]))
    (.and (hfn _ _ (by simp [Fall.namen])) (.ifThen (.test _)
      (.and (fall_subshell (.not (hfn _ _ (by simp [Fall.namen]))))
        (fall_subshell (.not (hfn _ _ (by simp [Fall.namen]))))))))))))) (fall_logTestResult _)

theorem fall_lauf : ∀ a : TestAufruf, Haelt fallRegel (a.lauf e)
  | .digestsignverifyRsapss .. => .ifThenElse (.and (.test _) (.test _)) (.ret 0)
      (fall_testtemplateGenerateCheck e _ (of_decide_eq_true rfl))
  | .digestsignverifyRsa .. => fall_testtemplateGenerateCheck e _ (of_decide_eq_true rfl)
  | .signverifyRsaX509 .. => fall_testtemplateGenerateCheck e _ (of_decide_eq_true rfl)
  | .signverifyEcdsa .. => fall_testtemplateGenerateCheck e _ (of_decide_eq_true rfl)
  | .encryptdecryptRsa .. => .ifThenElse (.and (.test _) (.test _)) (.ret 0)
      (fall_testtemplateGenerateCheck e _ (of_decide_eq_true rfl))
  | .encryptdecryptRsaX509 .. => fall_testtemplateGenerateCheck e _ (of_decide_eq_true rfl)

theorem fall_rohKette (rsaKey : String) {t : Nat → String → Sh} (ht : ∀ m k, Haelt fallRegel (t m k)) :
    Haelt fallRegel (rohKette rsaKey t) :=
  .ifThenElse (.test _) (ht _ _) (.ifThenElse (.test _) (ht _ _) (.ifThen (.test _) (ht _ _)))

theorem fall_rsaSignaturBlock (rsaKey : String) : Haelt fallRegel (rsaSignaturBlock e rsaKey) :=
  .seq (.forIn (fun _ => .forIn (fun _ => .forIn (fun _ =>
    fall_lauf e (.digestsignverifyRsapss _ _ _ _)) _) _) _) <|
  .seq (.forIn (fun _ => .forIn (fun _ => fall_lauf e (.digestsignverifyRsa _ _ _)) _) _) <|
  fall_rohKette rsaKey fun _ _ => fall_lauf e (.signverifyRsaX509 _ _)

theorem fall_rsaVerschluesselBlock (rsaKey : String) :
    Haelt fallRegel (rsaVerschluesselBlock e rsaKey) :=
  .seq (.forIn (fun _ => fall_lauf e (.encryptdecryptRsa _ _)) _) <|
  fall_rohKette rsaKey fun _ _ => fall_lauf e (.encryptdecryptRsaX509 _ _)

/-! ## 6. The whole run -/

theorem provisionKey_oeffnet (args : List String) : Fuehrt false true (provisionKey e args) :=
  provisionKeyMit_oeffnet e (fun _ => by rfl) args

theorem provisionKeyWCert_oeffnet (args : List String) :
    Fuehrt false true (provisionKeyWCert e args) :=
  provisionKeyMit_oeffnet e (fun _ => by rfl) args

theorem provisionKey_okOrDie_oeffnet (args : List String) :
    Fuehrt false true (Sh.seqS (provisionKey e args) okOrDie) := by
  rw [provisionKey, provisionKeyMit_okOrDie]
  exact provisionKey_oeffnet e args

theorem tokenFrei_x509Tests : Haelt tokenFrei (x509Tests e) := by
  have hp : ∀ label, Fuehrt false true
      (Sh.lies fun v => provisionKeyWCert e (provisionArgs v label)) := fun _ =>
    Fuehrt.lies fun _ => provisionKeyWCert_oeffnet e _
  have hx : ∀ label testname, Haelt tokenFrei (testX509 e label testname) := fun label _ =>
    klammer (hp label) (.seqS (fall_call _ (ohneP11ne_cons (by decide) (by decide) _)) (fall_logTestResult _))
      (cleanupKey_schliesst e label)
  have hi : Haelt tokenFrei (testX509InvalidChain e) :=
    klammer (hp _) (.seqS (fall_call _ (ohneP11ne_cons (by decide) (by decide) _)) fun _ =>
      .seqS (.test _) fun _ => .ite (fall_logTestResult _ _) (fall_logTestResult _ _))
      (cleanupKey_schliesst e _)
  refine Haelt.folge fun c h => ?_
  simp only [List.mem_cons, List.mem_singleton, List.not_mem_nil, or_false] at h
  rcases h with rfl | rfl | rfl | rfl | rfl
  · exact tokenFrei_folge_befehl e (by decide)
  · exact hx _ _
  · exact hx _ _
  · exact hx _ _
  · exact hi

/-- **`cmd_openssl` takes the token from free to free**: each key's cases run between the
    provisioning and the release of its token, and the certificate cases likewise. -/
theorem tokenFrei_cmdOpenssl (args : List String) : Haelt tokenFrei (cmdOpenssl e args) :=
  .seq (tokenFrei_optionenLesen _ _) <|
  .seq (tokenFrei_prepareTestEnv e) <|
  .seq (.forIn (fun k => klammer (Fuehrt.lies fun _ => provisionKey_okOrDie_oeffnet e _)
    (fall_rsaSignaturBlock e k) (cleanupKey_schliesst e k)) _) <|
  .seq (.forIn (fun k => klammer (Fuehrt.lies fun _ => provisionKey_oeffnet e _)
    (.forIn (fun _ => fall_lauf e (.signverifyEcdsa _ _)) _) (cleanupKey_schliesst e k)) _) <|
  .seq (.forIn (fun k => klammer (Fuehrt.lies fun _ => provisionKey_oeffnet e _)
    (fall_rsaVerschluesselBlock e k) (cleanupKey_schliesst e k)) _) <|
  .seq (.ifThen (tokenFrei_call _ (by rfl)) (tokenFrei_x509Tests e)) (tokenFrei_cleanupTestEnv e)

theorem tokenFrei_subshell {a : Sh} (ha : Haelt tokenFrei a) : Haelt tokenFrei (Sh.subshell a) :=
  fun s => ha s

theorem tokenFrei_gruppe (args : List String) : Haelt tokenFrei (gruppe e args) := by
  refine .seq (tokenFrei_set _) (.seq ?_ (.ifThen (.test _)
    (.seq (.ret 0) (.lies fun _ => .ifThen (.test _) (tokenFrei_exit _)))))
  unfold cmdFn
  split_ifs
  exacts [tokenFrei_cmdOpenssl e _, Haelt.ret 0, Haelt.ret 127]

theorem tokenFrei_main (args : List String) : Haelt tokenFrei (main e args) :=
  .seq (.ifThen (.test _) (tokenFrei_exit 1)) <|
  .seq (.seqS (.test _) tokenFrei_okOrDie) <|
  .seq (.seqS (tokenFrei_call _ (by rfl)) tokenFrei_okOrDie) <|
  .seq (tokenFrei_call _ (by rfl)) fun s =>
    (tokenFrei_subshell (tokenFrei_gruppe e args) s).trans
      (tokenFrei_subshell (tokenFrei_call _ (by rfl)) _)

end Befehle

/-- **No run of `testtool` leaves a token behind**: for every argument list, every behaviour of
    the programs it runs and every state it starts from, whether the run ends or aborts, the
    `p11ne-cli init-token` and `p11ne-cli release-token` lines among the command lines it runs
    are, in order, init, release, init, release, …, as many releases as inits. -/
theorem testtool_token (e : Env) (args : List String) (s : Shell) :
    ∃ neu n, (main e args s).2.spur = s.spur ++ neu ∧
      neu.filterMap tokenSchritt =
        (List.replicate n [TokenSchritt.belegen, .freigeben]).flatten := by
  obtain ⟨neu, hs, hl⟩ := tokenFrei_main e args s
  obtain ⟨n, hn⟩ := tokenLauf_paare _ hl
  exact ⟨neu, n, hs, hn⟩

end NitroEnclavesAcm.Testtool
