import NitroEnclavesAcm.Testtool.Suite

/-
  File:      NitroEnclavesAcm/Testtool/Main.lean
  Subject:   `main` and the exit status of the `testtool` process: the test set runs in a group
             `{ … }` piped into `tee $OVERALL_LOG_FILE`, and the process ends with the pipeline's
             status.

  The group computes the status the usage promises: **it is 0 exactly when the test set ran to
  its end and every verdict it printed is PASSED** (`gruppe_status_null_gdw`), by the bookkeeping
  of `cmd_openssl` (`buchfuehrung_cmdOpenssl`): a FAILED line is counted, so the group runs
  `exit $EXIT_CODE_FAILED_TESTS`, and an abort exits with the non-zero code of `die`.

  But the group is the left side of a pipeline, a subshell, and without `pipefail` a pipeline's
  status is its right side's. **The process ends with `tee`'s status, whatever the group did**
  (`testtool_status_tee`): `exit 2` and every `die` of the test set end only the subshell.

  * `intercalate_openssl_ne_help` -- `"$*"` of `openssl …` is not `help`, so the summary and the
    failure check run.
-/

namespace NitroEnclavesAcm.Testtool

open NitroEnclavesAcm.Bash

/-! ## 1. `main` -/

/-- `cmd_help`: prints the usage. -/
def cmdHelp : List String → Sh := fun _ => Sh.ret 0

/-- The shell function `cmd_<name>` when the script defines one (what `declare -f` checks). -/
def cmdFn (e : Env) (name : String) : Option (List String → Sh) :=
  if name = "openssl" then some (cmdOpenssl e) else if name = "help" then some cmdHelp else none

/-- The group of `main`: `prng_seed=$RANDOM`; `cmd_"$@"`; unless `"$*"` is `help`, the summary and
    `exit $EXIT_CODE_FAILED_TESTS` when a test failed. A name with no function is not found
    (status 127). -/
def gruppe (e : Env) (args : List String) : Sh :=
  Sh.seq (Sh.set fun v => { v with prngSeed := toString e.random }) <|
  Sh.seq ((cmdFn e (arg args 0)).getD (fun _ => Sh.ret 127) args.tail) <|
  Sh.ifThen (Sh.test (" ".intercalate args != "help")) <|
    Sh.seq testResultsSummary <|
    Sh.lies fun v => Sh.ifThen (Sh.test (v.numTestsFailed != 0)) (Sh.exit exitCodeFailedTests)

/-- `cd "$(dirname "$0")/.."`. -/
def cdZeile : List String := ["cd", "$(dirname \"$0\")/.."]

/-- `tee $OVERALL_LOG_FILE`. -/
def teeZeile : List String := ["tee", overallLogFile]

/-- `main "${@}"`: arguments or `die`; a known command or `die` with the status of `declare -f`;
    change directory or `die`; create the results directory; then the group, piped into `tee`. -/
def main (e : Env) (args : List String) : Sh :=
  Sh.seq (Sh.ifThen (Sh.test (args.length == 0)) (die 1)) <|
  Sh.seq (Sh.seqS (Sh.test (cmdFn e (arg args 0)).isSome) okOrDie) <|
  Sh.seq (Sh.seqS (e.befehl cdZeile) okOrDie) <|
  Sh.seq (e.befehl ["mkdir", "-p", resultDir]) <|
  Sh.pipe (gruppe e args) (e.befehl teeZeile)

/-- The globals as the script sets them before it calls `main`; `key_id`, `region` and
    `keylabel` are unset. -/
def startVars : Vars := ⟨0, 0, "none", "", "", ""⟩

/-! ## 2. The group -/

theorem intercalate_go_length (sep : String) :
    ∀ (as : List String) (acc : String), acc.length ≤ (String.intercalate.go acc sep as).length
  | [], _ => le_refl _
  | a :: as, acc => le_trans (by simp only [String.length_append]; omega)
      (intercalate_go_length sep as (acc ++ sep ++ a))

theorem intercalate_openssl_ne_help (opts : List String) :
    " ".intercalate ("openssl" :: opts) ≠ "help" := fun h => by
  have := intercalate_go_length " " opts "openssl"
  rw [← String.intercalate.eq_2, h] at this
  exact absurd this (by decide)

/-- The group of `testtool openssl …`: the test set, then, unless it exited, `exit 2` when a test
    failed. -/
theorem gruppe_openssl (e : Env) (opts : List String) (s : Shell) :
    gruppe e ("openssl" :: opts) s =
      weiter (cmdOpenssl e opts { s with vars := { s.vars with prngSeed := toString e.random } })
        fun _ t => if t.vars.numTestsFailed = 0 then (.fertig 0, t)
          else (.exit exitCodeFailedTests, t) := by
  have h : (" ".intercalate ("openssl" :: opts) != "help") = true :=
    bne_iff_ne.mpr (intercalate_openssl_ne_help opts)
  simp only [gruppe, cmdFn, arg, List.getD_cons_zero, if_true, Option.getD_some, List.tail_cons,
    Sh.seq_apply, Sh.set_apply, weiter_fertig, Sh.ifThen_apply, Sh.test_apply, h,
    testResultsSummary, Sh.ret_apply, Sh.lies_apply, Sh.exit_apply]
  congr 1
  funext _ t
  by_cases h0 : t.vars.numTestsFailed = 0 <;> simp [h0]

/-! ## 3. The process -/

/-- Surroundings in which `mkdir -p tests/db` fails and every other program succeeds. -/
def abbruchEnv : Env :=
  { spielEnv with
    programm := fun z s => (if z = ["mkdir", "-p", keyDbDir] then 1 else 0, s.welt) }

/-- `testtool openssl --kms-key-id K --kms-region R`. -/
def opensslArgs : List String := ["openssl", "--kms-key-id", "K", "--kms-region", "R"]

/-- The script's start: its globals, no file, nothing run or printed. -/
def skriptStart : Shell := ⟨startVars, ⟨fun _ => none⟩, [], []⟩

/-- **The process ends with `tee`'s status, whatever the test set did**: for every run of
    `testtool openssl …` that gets past `cd`, the status is the one `tee` returns; when
    `prepare_test_env` dies because `mkdir -p tests/db` fails, the group exits with 1 and the
    process still ends with 0. -/
theorem testtool_status_tee :
    (∀ (e : Env) (opts : List String) (s : Shell), (e.programm cdZeile s).1 = 0 →
      ∃ t, (main e ("openssl" :: opts) s).1 = .fertig (e.programm teeZeile t).1) ∧
    (gruppe abbruchEnv opensslArgs skriptStart).1 = .exit 1 ∧
    (main abbruchEnv opensslArgs skriptStart).1 = .fertig 0 := by
  refine ⟨fun e opts s hcd => ?_, by decide, by decide⟩
  have h : main e ("openssl" :: opts) s = Sh.seq (Sh.seqS (e.befehl cdZeile) okOrDie)
      (Sh.seq (e.befehl ["mkdir", "-p", resultDir])
        (Sh.pipe (gruppe e ("openssl" :: opts)) (e.befehl teeZeile))) s := rfl
  rw [h]
  simp only [Sh.seq_apply, Sh.seqS_apply, Env.befehl, Sh.call_apply, hcd, weiter_fertig, okOrDie,
    if_true, Sh.ret_apply]
  exact ⟨_, rfl⟩

/-- `testtool openssl …` with the failing `mkdir`, through the general statement. -/
theorem testtool_status_tee_abbruch :
    ∃ t, (main abbruchEnv opensslArgs skriptStart).1 =
      .fertig (abbruchEnv.programm teeZeile t).1 :=
  testtool_status_tee.1 abbruchEnv _ skriptStart (by decide)

end NitroEnclavesAcm.Testtool
