import NitroEnclavesAcm.Bash.Lauf

/-
  File:      NitroEnclavesAcm/Testtool/Umgebung.lean
  Subject:   The test tool's surroundings: its constants, the external programs it calls, the file
             tools whose meaning the harness relies on (`diff`, `cp`, `cat`), and its small helpers
             (`create_test_random_file*`, `bitflip`, `log_test_result`, `die`, `ok_or_die`).

  * `Env` -- what the model leaves to the outside: every external program, by its command line;
    the `testhelpers` binary's `prng_file` (bytes of the requested length, a function of size and
    seed), its `prng_int`, `numfmt`, `mktemp`, `$RANDOM`;
  * `diff`, `cp`, `catTeile` -- the GNU tools as the harness uses them: `diff` has status 0 on two
    equal files, 1 on two different ones, 2 when one is missing (`diff_status_eq_zero`);
  * `ShFn` -- a shell function the template is handed by NAME (`fct_generator_pkcs="$3"` …) and
    runs by that name: the name and what the function does with its arguments.
-/

namespace NitroEnclavesAcm.Testtool

open NitroEnclavesAcm.Bash

/-! ## 1. Constants -/

def myName : String := "testtool"
def resultDir : String := "tests/results"
def overallLogFile : String := resultDir ++ "/logs"
def helperPath : String := "tests/testhelpers"
def testLargeFileSizes : List Nat := [0, 32, 256, 1024, 4096, 16000]
def testSmallFileSizes : List Nat := [1, 2, 4, 8, 16, 32, 64, 128]
def testEcdsaFileSizes : List Nat := [1, 2, 4, 8, 16, 32, 55]
def testRsapssSaltSizes : List Nat := [0, 1, 2, 4, 16, 48, 64]
def testDigests : List String := ["sha1", "sha224", "sha256", "sha384", "sha512"]
def pin : String := "1234"
def keyid : String := "%01"
def tokenLabel : String := "test-token"
def uriToken : String :=
  "pkcs11:model=p11ne-token;manufacturer=Amazon;serial=EVT00;token=" ++ tokenLabel ++
    ";pin-value=" ++ pin ++ ";id=" ++ keyid
def uriCert : String := "object=acm-ne-cert-0;type=cert"
def keysDir : String := "./tests/keys/"
def keyDbDir : String := "tests/db"
def certsDir : String := "./tests/certs/"
def rsaKeys : List String := ["rsa1024", "rsa2048", "rsa4096"]
def ecdsaKeys : List String := ["secp384r1", "secp521r1", "prime256v1"]
def exitCodeInvalidParams : UInt8 := 1
def exitCodeFailedTests : UInt8 := 2

def getKeyFile (keylabel keytype : String) : String :=
  keysDir ++ "/" ++ keylabel ++ "_" ++ keytype ++ "key.pem"

def getCertFile (certlabel : String) : String := certsDir ++ "/" ++ certlabel ++ "_cert.pem"

def getCertFileKey (keylabel : String) : String := certsDir ++ "/" ++ keylabel ++ "_key.pem"

def getKeyPkcsUri (keylabel keytype : String) : String :=
  uriToken ++ ";object=" ++ keylabel ++ ";type=" ++ keytype

/-- The decimal digits `cs`, read onto `acc` (`none`: no digit yet); a non-digit spoils all. -/
def ziffern : List Char → Option Nat → Option Nat
  | [], acc => acc
  | c :: cs, acc =>
    if c.isDigit then ziffern cs (some (acc.getD 0 * 10 + (c.toNat - '0'.toNat))) else none

/-- The integer an operand of `[ … -eq … ]` stands for: an optional sign and decimal digits;
    `none` for anything else, on which the test fails. -/
def ganzzahl? (x : String) : Option Int :=
  match x.data with
  | '-' :: cs => (ziffern cs none).map fun n => -(n : Int)
  | '+' :: cs => (ziffern cs none).map fun n => (n : Int)
  | cs => (ziffern cs none).map fun n => (n : Int)

/-! ## 2. The outside -/

/-- What the model leaves to the outside world. -/
structure Env where
  /-- An external program, by its command line: what it does to the files and its status. -/
  programm : List String → Cmd
  /-- The bytes `tests/testhelpers prng_file` writes, by size and seed; `none`: it fails. -/
  prngFile : Int → String → Option Bytes
  /-- Modelled from the spec: the helper binary is not in the repository; its `prng_file` writes
      exactly the requested number of bytes (spec 4.1). -/
  prngFile_length : ∀ n seed b, prngFile n seed = some b → (b.length : Int) = n
  /-- The standard output of `tests/testhelpers prng_int seed start end`. -/
  prngInt : String → Nat → Nat → String
  /-- The standard output of `numfmt --to=iec-i --suffix=B --format="%1f" size`. -/
  numfmt : Nat → String
  /-- The directory `mktemp -d` prints. -/
  mktemp : String
  /-- `$RANDOM` when `main` reads it. -/
  random : Nat

/-- `diff a b`: 0 on equal files, 1 on different ones, 2 (trouble) when one is missing. -/
def diff (a b : String) : Cmd := fun s =>
  match s.welt.fs a, s.welt.fs b with
  | some x, some y => (if x = y then 0 else 1, s.welt)
  | _, _ => (2, s.welt)

/-- `cp src dst`. -/
def cp (src dst : String) : Cmd := fun s =>
  match s.welt.fs src with
  | some b => (0, s.welt.write dst b)
  | none => (1, s.welt)

/-- `cat part … > dst`, with each part already read (`none`: a missing file, which `cat` reports
    and skips). -/
def catTeile (teile : List (Option Bytes)) (dst : String) : Cmd := fun s =>
  (if teile.all Option.isSome then 0 else 1, s.welt.write dst (teile.filterMap id).flatten)

/-- `cat f … > dst`. -/
def cat (quellen : List String) (dst : String) : Cmd := fun s =>
  catTeile (quellen.map s.welt.fs) dst s

theorem diff_status_eq_zero (a b : String) (s : Shell) :
    (diff a b s).1 = 0 ↔ ∃ x, s.welt.fs a = some x ∧ s.welt.fs b = some x := by
  unfold diff
  split
  · rename_i x y h1 h2
    rw [h1, h2]
    by_cases h : x = y <;> simp [h, eq_comm]
  · rename_i h
    exact ⟨fun h2 => absurd h2 (by decide : (2 : UInt8) ≠ 0), fun ⟨x, ha, hb⟩ => (h x x ha hb).elim⟩

@[simp] theorem diff_welt (a b : String) (s : Shell) : (diff a b s).2 = s.welt := by
  unfold diff; split <;> rfl

/-- A shell function handed to the template by name: `$fct_generator_pkcs "$keylabel" …` runs
    the function whose name the variable holds. -/
structure ShFn where
  name : String
  run : List String → Cmd

/-- The `i`th positional parameter of a shell function (`""` when absent). -/
def arg (args : List String) (i : Nat) : String := args.getD i ""

/-- Run the shell function `f` with `args`: the spur records its name and arguments. -/
def ShFn.aufruf (f : ShFn) (args : List String) : Sh := Sh.call (f.name :: args) (f.run args)

/-- The input generator handed to the template (`fct_prng_inputfile`), called with the input
    path and the payload size; the size is the template's number, passed on as it is. -/
structure Erzeuger where
  name : String
  run : String → Nat → Cmd

/-! ## 3. Helpers -/

section Helfer

variable (e : Env)

/-- `$HELPER_PATH prng_file "$outputfile" "$size" "$prng_seed"`. -/
def prngFileCmd (outputfile : String) (size : Int) : Cmd := fun s =>
  match e.prngFile size s.vars.prngSeed with
  | some b => (0, s.welt.write outputfile b)
  | none => (1, s.welt)

/-- `create_test_random_file outputfile size`. -/
def createTestRandomFile : Erzeuger :=
  ⟨"create_test_random_file", fun outputfile size => prngFileCmd e outputfile size⟩

/-- `create_test_random_file_rsax509 outputfile size`: `$((size-1))` bytes from the helper into a
    file in a fresh temporary directory, then `cat <(echo -n 'A') "$tmpfile" >$outputfile`. -/
def createTestRandomFileRsax509 : Erzeuger :=
  ⟨"create_test_random_file_rsax509", fun outputfile size =>
    let tmpfile := e.mktemp ++ "/input"
    Cmd.and (prngFileCmd e tmpfile ((size : Int) - 1))
      (fun s => catTeile [some [0x41], s.welt.fs tmpfile] outputfile s)⟩

/-- `bitflip inputfile outputfile start end`. The status of `local bit=$(…)` is `local`'s, 0,
    whatever `prng_int` did; `echo` succeeds. -/
def bitflip (inputfile outputfile : String) (start stop : Nat) : Cmd :=
  Cmd.and (cp inputfile outputfile) fun s =>
    e.programm [helperPath, "bitflip", outputfile, e.prngInt s.vars.prngSeed start stop] s

end Helfer

/-- `log_test_result testname exitcode`: counts the case and prints its verdict line. -/
def logTestResult (testname : String) (testExitcode : UInt8) : Sh := fun s =>
  (.fertig 0,
    { s with
      vars := if testExitcode = 0 then { s.vars with numTestsPassed := s.vars.numTestsPassed + 1 }
        else { s.vars with numTestsFailed := s.vars.numTestsFailed + 1 }
      protokoll := s.protokoll ++ [(testname, decide (testExitcode = 0))] })

/-- `test_results_summary`: prints the two counters. -/
def testResultsSummary : Sh := Sh.ret 0

/-- `die [-c code] message`: `exit` with the code (1 without `-c`); the message goes to standard
    error. -/
def die (code : UInt8) : Sh := Sh.exit code

/-- `ok_or_die message`, run right after a command with status `code` (`$?`). -/
def okOrDie (code : UInt8) : Sh := if code = 0 then Sh.ret 0 else die code

theorem logTestResult_protokoll (testname : String) (c : UInt8) (s : Shell) :
    (logTestResult testname c s).2.protokoll = s.protokoll ++ [(testname, decide (c = 0))] := rfl

theorem logTestResult_passed (testname : String) (c : UInt8) (s : Shell) :
    (logTestResult testname c s).2.vars.numTestsPassed =
      s.vars.numTestsPassed + if c = 0 then 1 else 0 := by
  by_cases h : c = 0 <;> simp [logTestResult, h]

theorem logTestResult_failed (testname : String) (c : UInt8) (s : Shell) :
    (logTestResult testname c s).2.vars.numTestsFailed =
      s.vars.numTestsFailed + if c = 0 then 0 else 1 := by
  by_cases h : c = 0 <;> simp [logTestResult, h]

theorem buchfuehrung_logTestResult (testname : String) (c : UInt8) :
    Haelt buchfuehrung (logTestResult testname c) := fun s =>
  ⟨⟨[(testname, decide (c = 0))], rfl, by
      by_cases h : c = 0 <;> simp [logTestResult, h]⟩, fun _ h => nomatch h⟩

theorem buchfuehrung_die {c : UInt8} (h : c ≠ 0) : Haelt buchfuehrung (die c) := Haelt.exit h

theorem buchfuehrung_okOrDie (c : UInt8) : Haelt buchfuehrung (okOrDie c) := by
  unfold okOrDie
  split
  · exact Haelt.ret 0
  · exact buchfuehrung_die ‹_›

end NitroEnclavesAcm.Testtool
