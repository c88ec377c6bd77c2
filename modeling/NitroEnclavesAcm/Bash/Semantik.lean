import Mathlib.Data.List.Basic

/-
  File:      NitroEnclavesAcm/Bash/Semantik.lean
  Subject:   The fragment of bash the test tool (`tests/testtool`) is written in, as a shallow
             embedding: a command is a function from the shell's state to an outcome and a new state.

  * `Welt` -- the files, by path; they survive a subshell;
  * `Vars` -- the test tool's global variables the model reads; a subshell loses what it set;
  * `Shell` -- variables, files, the SPUR (the command lines the shell ran, oldest first) and the
    PROTOKOLL (the verdict lines `log_test_result` printed); spur and protokoll, like files,
    survive a subshell;
  * `Ausgang` -- a command finished with a status (`fertig`), or it ran `exit`;
  * `Cmd` -- an external program, or a shell function that only runs external programs: it
    finishes with a status and may write files, never runs `exit`, never sets a variable;
  * `Sh` -- a shell command, with the combinators of the script: `;` (`seqS`, which hands `$?` on),
    `&&`, `||`, `!`, `if`, `( … )`, `… | …` (without `pipefail` and without `lastpipe`: both sides
    run in subshells and the status is the right side's), `for`, `exit`.

  NOT here: what a command prints, but for the verdict lines. Standard output and standard error
  (the summary, the per-case logs, the error messages of `die`) are not modelled; `echo`, `printf` and the redirections of output
  to a log always succeed. A redirection of a command's output to a data file is part of that
  command's line (`>` and the file as its last two words).
-/

namespace NitroEnclavesAcm.Bash

/-- The contents of a file. -/
abbrev Bytes := List UInt8

/-- The files the harness reads and writes, by path (`none`: no such file). -/
structure Welt where
  fs : String → Option Bytes

/-- Write `b` to the file `p`, replacing what it held. -/
def Welt.write (w : Welt) (p : String) (b : Bytes) : Welt :=
  ⟨fun q => if q = p then some b else w.fs q⟩

@[simp] theorem Welt.write_fs_self (w : Welt) (p : String) (b : Bytes) :
    (w.write p b).fs p = some b := by simp [Welt.write]

@[simp] theorem Welt.write_fs_ne (w : Welt) {p q : String} (b : Bytes) (h : q ≠ p) :
    (w.write p b).fs q = w.fs q := by simp [Welt.write, h]

/-- The test tool's global variables that its functions read. -/
structure Vars where
  numTestsPassed : Nat
  numTestsFailed : Nat
  prngSeed : String
  keyId : String
  region : String
  keylabel : String

/-- The state of the shell: variables, files, the command lines run so far, and the verdicts
    printed so far (test name, `true` for PASSED). -/
structure Shell where
  vars : Vars
  welt : Welt
  spur : List (List String)
  protokoll : List (String × Bool)

/-- How a command ended: it finished with a status, or it ran `exit` with a code. Statuses are
    the 8-bit exit statuses of the shell. -/
inductive Ausgang where
  | fertig (status : UInt8)
  | exit (code : UInt8)
  deriving DecidableEq, Repr

/-- The status the parent sees: a subshell that ran `exit n` ends with status `n`. -/
def Ausgang.code : Ausgang → UInt8
  | .fertig n => n
  | .exit n => n

@[simp] theorem Ausgang.code_fertig (n : UInt8) : (Ausgang.fertig n).code = n := rfl
@[simp] theorem Ausgang.code_exit (n : UInt8) : (Ausgang.exit n).code = n := rfl

/-- An external program, or a shell function that only runs external programs and returns their
    status: it reads the shell's state and finishes with a status and the files it leaves. -/
def Cmd := Shell → UInt8 × Welt

/-- A shell command. -/
def Sh := Shell → Ausgang × Shell

/-! ## 1. Commands that never exit -/

namespace Cmd

/-- `echo …`, `true`: succeeds and changes no file. -/
def ok : Cmd := fun s => (0, s.welt)

/-- `a && b` inside a shell function. -/
def and (a b : Cmd) : Cmd := fun s =>
  let r := a s
  if r.1 = 0 then b { s with welt := r.2 } else r

/-- `! a`: status 0 exactly when `a` failed. -/
def not (a : Cmd) : Cmd := fun s =>
  let r := a s
  (if r.1 = 0 then 1 else 0, r.2)

@[simp] theorem ok_apply (s : Shell) : ok s = (0, s.welt) := rfl

theorem and_apply (a b : Cmd) (s : Shell) :
    and a b s = if (a s).1 = 0 then b { s with welt := (a s).2 } else a s := rfl

@[simp] theorem not_apply (a : Cmd) (s : Shell) :
    not a s = (if (a s).1 = 0 then 1 else 0, (a s).2) := rfl

end Cmd

/-! ## 2. Shell commands -/

/-- Hand the outcome of a command to what follows it: after `fertig n` the rest runs with
    `$? = n`; after `exit` nothing runs. -/
def weiter : Ausgang × Shell → (UInt8 → Sh) → Ausgang × Shell
  | (.fertig n, s), k => k n s
  | (.exit n, s), _ => (.exit n, s)

@[simp] theorem weiter_fertig (n : UInt8) (s : Shell) (k : UInt8 → Sh) :
    weiter (.fertig n, s) k = k n s := rfl

@[simp] theorem weiter_exit (n : UInt8) (s : Shell) (k : UInt8 → Sh) :
    weiter (.exit n, s) k = (.exit n, s) := rfl

namespace Sh

/-- A builtin that finishes with status `n` and changes nothing (`return n`, `[ … ]`). -/
def ret (n : UInt8) : Sh := fun s => (.fertig n, s)

/-- `exit n`. -/
def exit (n : UInt8) : Sh := fun s => (.exit n, s)

/-- `[ … ]`: status 0 when the test holds, 1 otherwise. -/
def test (b : Bool) : Sh := ret (if b then 0 else 1)

/-- An assignment to global variables. -/
def set (f : Vars → Vars) : Sh := fun s => (.fertig 0, { s with vars := f s.vars })

/-- A command built from the current values of the variables (`"$key_id"` in an argument). -/
def lies (k : Vars → Sh) : Sh := fun s => k s.vars s

/-- Run the command line `z`, whose effect is `c`; the line goes on the spur. -/
def call (z : List String) (c : Cmd) : Sh := fun s =>
  (.fertig (c s).1, { s with welt := (c s).2, spur := s.spur ++ [z] })

/-- `a; k $?`: run `a`, then `k` with its status, unless `a` ran `exit`. -/
def seqS (a : Sh) (k : UInt8 → Sh) : Sh := fun s => weiter (a s) k

/-- `a; b`. -/
def seq (a b : Sh) : Sh := seqS a fun _ => b

/-- `a && b`: `b` runs only after `a` succeeded; otherwise the status is `a`'s. -/
def and (a b : Sh) : Sh := seqS a fun n => if n = 0 then b else ret n

/-- `a || b`. -/
def or (a b : Sh) : Sh := seqS a fun n => if n = 0 then ret 0 else b

/-- `! a`. -/
def not (a : Sh) : Sh := seqS a fun n => ret (if n = 0 then 1 else 0)

/-- `if c; then t; fi`: status 0 when the condition fails. -/
def ifThen (c t : Sh) : Sh := seqS c fun n => if n = 0 then t else ret 0

/-- `if c; then t; else e; fi`. -/
def ifThenElse (c t e : Sh) : Sh := seqS c fun n => if n = 0 then t else e

/-- `( a )`: `a` runs in a copy of the shell; its variables are lost, its files and the command
    lines it ran stay, and an `exit` in it only ends the copy. -/
def subshell (a : Sh) : Sh := fun s =>
  (.fertig (a s).1.code, { (a s).2 with vars := s.vars })

/-- `a | b` without `pipefail` or `lastpipe`: both sides run in subshells and the pipeline's
    status is `b`'s. -/
def pipe (a b : Sh) : Sh := fun s => subshell b (subshell a s).2

/-- The loop behind `for x in xs; do body; done`, carrying the status of the last body run. -/
def forInAux {α : Type} (body : α → Sh) : List α → UInt8 → Sh
  | [], n => ret n
  | x :: xs, _ => seqS (body x) (forInAux body xs)

/-- `for x in xs; do body; done`: status of the last body run, 0 when none ran. -/
def forIn {α : Type} (xs : List α) (body : α → Sh) : Sh := forInAux body xs 0

/-- `a; b; …`: the commands one after the other, the status the last one's. -/
def folge (cs : List Sh) : Sh := forIn cs id

@[simp] theorem ret_apply (n : UInt8) (s : Shell) : ret n s = (.fertig n, s) := rfl
@[simp] theorem exit_apply (n : UInt8) (s : Shell) : Sh.exit n s = (.exit n, s) := rfl
@[simp] theorem test_apply (b : Bool) (s : Shell) :
    test b s = (.fertig (if b then 0 else 1), s) := rfl
@[simp] theorem lies_apply (k : Vars → Sh) (s : Shell) : lies k s = k s.vars s := rfl
@[simp] theorem set_apply (f : Vars → Vars) (s : Shell) :
    set f s = (.fertig 0, { s with vars := f s.vars }) := rfl
@[simp] theorem call_apply (z : List String) (c : Cmd) (s : Shell) :
    call z c s = (.fertig (c s).1, { s with welt := (c s).2, spur := s.spur ++ [z] }) := rfl
@[simp] theorem seqS_apply (a : Sh) (k : UInt8 → Sh) (s : Shell) :
    seqS a k s = weiter (a s) k := rfl
@[simp] theorem seq_apply (a b : Sh) (s : Shell) : seq a b s = weiter (a s) fun _ => b := rfl
@[simp] theorem and_apply (a b : Sh) (s : Shell) :
    Sh.and a b s = weiter (a s) fun n => if n = 0 then b else ret n := rfl
@[simp] theorem or_apply (a b : Sh) (s : Shell) :
    Sh.or a b s = weiter (a s) fun n => if n = 0 then ret 0 else b := rfl
@[simp] theorem not_apply (a : Sh) (s : Shell) :
    Sh.not a s = weiter (a s) fun n => ret (if n = 0 then 1 else 0) := rfl
@[simp] theorem ifThen_apply (c t : Sh) (s : Shell) :
    ifThen c t s = weiter (c s) fun n => if n = 0 then t else ret 0 := rfl
@[simp] theorem ifThenElse_apply (c t e : Sh) (s : Shell) :
    ifThenElse c t e s = weiter (c s) fun n => if n = 0 then t else e := rfl
@[simp] theorem subshell_apply (a : Sh) (s : Shell) :
    subshell a s = (.fertig (a s).1.code, { (a s).2 with vars := s.vars }) := rfl
@[simp] theorem pipe_apply (a b : Sh) (s : Shell) : pipe a b s = subshell b (subshell a s).2 := rfl
@[simp] theorem forInAux_nil {α : Type} (body : α → Sh) (n : UInt8) :
    forInAux body [] n = ret n := rfl
@[simp] theorem forInAux_cons {α : Type} (body : α → Sh) (x : α) (xs : List α) (n : UInt8) :
    forInAux body (x :: xs) n = seqS (body x) (forInAux body xs) := rfl

end Sh

end NitroEnclavesAcm.Bash
