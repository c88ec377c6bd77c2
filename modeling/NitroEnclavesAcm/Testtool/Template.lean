import NitroEnclavesAcm.Testtool.Openssl

/-
  File:      NitroEnclavesAcm/Testtool/Template.lean
  Subject:   THE DIFFERENTIAL TEST TEMPLATE (`testtemplate_generate_check`), as the script writes it,
             and the chain of steps it runs.

  * `testtemplateBlock` -- the `{ … } >$logfile 2>&1` group of the template, clause by clause: the
    `&&` chain with its two `if [ "$filesize" -gt 0 ]` blocks and its `( ! … )` subshells;
  * `kette`, `allePassen`, `gelaufen` -- a chain of steps: each runs on the state the one before it
    left, the first that fails ends it; `kette_lauf` says what a chain does from every state;
  * `Fall.schritte` -- the steps of one case in spec order: generate the input; for a non-empty
    payload, corrupt it and check the copy differs; subject and reference generate; compare;
    cross-check; for a non-empty payload, both checkers must reject the corrupted input;
  * `testtemplateBlock_eq_kette` -- the group IS the chain of `Fall.schritte`, for every payload
    size, so `testtemplateGenerateCheck_verdict` reads the whole case off the chain.

  NOT here: the directory `create_test_dir` makes and the lines `echo` writes to the case's log;
  the files have no directories in this model, and every `echo` in the chain succeeds.
-/

namespace NitroEnclavesAcm.Testtool

open NitroEnclavesAcm.Bash

/-- Split the characters `cs` into words at blanks, tabs and newlines; `w` is the word being read,
    backwards. -/
def woerterAux : List Char → List Char → List String
  | [], w => if w = [] then [] else [String.mk w.reverse]
  | c :: cs, w =>
    if c = ' ' ∨ c = '\t' ∨ c = '\n' then
      if w = [] then woerterAux cs [] else String.mk w.reverse :: woerterAux cs []
    else woerterAux cs (c :: w)

/-- The words of an unquoted expansion: the text split at blanks, tabs and newlines. -/
def woerter (x : String) : List String := woerterAux x.data []

/-- `generate_test_name`: `local IFS="_"; echo "$*"`. -/
def generateTestName (ws : List String) : String := "_".intercalate ws

/-- The arguments of `testtemplate_generate_check`, in its order: base name, family, the five
    functions and the input generator handed over by name, payload size, key label, and the
    test-specific arguments. -/
structure Fall where
  testBasename : String
  testFamily : String
  fctGeneratorPkcs : ShFn
  fctGeneratorRef : ShFn
  fctCheckerPkcs : ShFn
  fctCheckerRef : ShFn
  fctCustomCheckOutFiles : ShFn
  fctPrngInputfile : Erzeuger
  filesize : Nat
  keylabel : String
  testargs : List String

/-! ## 1. The template as written -/

namespace Fall

variable (e : Env) (f : Fall)

/-- `$testargs`: the arguments after the tenth, joined by `local testargs="$@"` and split again
    where the template expands them unquoted. -/
def argsW : List String := woerter (" ".intercalate f.testargs)

/-- `generate_test_name $test_basename $keylabel $filesize_humanreadable $testargs`. -/
def testname : String :=
  generateTestName (woerter f.testBasename ++ woerter f.keylabel ++ woerter (e.numfmt f.filesize) ++
    f.argsW)

def testDir : String := resultDir ++ "/" ++ f.testFamily ++ "/" ++ f.testname e
def inputpath : String := f.testDir e ++ "/input"
def corruptedinputpath : String := f.testDir e ++ "/input_corrupted"
def pkcsOutPath : String := f.testDir e ++ "/input.pkcsout"
def refOutPath : String := f.testDir e ++ "/input.refout"

/-- `bitflip "$inputpath" "$corruptedinputpath" 0 $((8* $filesize))`, as a line. -/
def kippZeile : List String :=
  ["bitflip", f.inputpath e, f.corruptedinputpath e, "0", toString (8 * f.filesize)]

end Fall

/-- The group `{ … } >$logfile 2>&1` of `testtemplate_generate_check`. -/
def testtemplateBlock (e : Env) (f : Fall) : Sh :=
  Sh.and (Sh.call [f.fctPrngInputfile.name, f.inputpath e, toString f.filesize]
      (f.fctPrngInputfile.run (f.inputpath e) f.filesize)) <|
  Sh.and (Sh.ifThen (Sh.test (decide (0 < f.filesize)))
      (Sh.and (Sh.call (f.kippZeile e)
          (bitflip e (f.inputpath e) (f.corruptedinputpath e) 0 (8 * f.filesize)))
        (Sh.subshell (Sh.not (Sh.call ["diff", f.inputpath e, f.corruptedinputpath e]
          (diff (f.inputpath e) (f.corruptedinputpath e))))))) <|
  Sh.and (f.fctGeneratorPkcs.aufruf ([f.keylabel, f.inputpath e, f.pkcsOutPath e] ++ f.argsW)) <|
  Sh.and (f.fctGeneratorRef.aufruf ([f.keylabel, f.inputpath e, f.refOutPath e] ++ f.argsW)) <|
  Sh.and (f.fctCustomCheckOutFiles.aufruf ([f.pkcsOutPath e, f.refOutPath e] ++ f.argsW)) <|
  Sh.and (f.fctCheckerRef.aufruf ([f.keylabel, f.inputpath e, f.pkcsOutPath e] ++ f.argsW)) <|
  Sh.and (f.fctCheckerPkcs.aufruf ([f.keylabel, f.inputpath e, f.refOutPath e] ++ f.argsW)) <|
  Sh.ifThen (Sh.test (decide (0 < f.filesize)))
    (Sh.and (Sh.subshell (Sh.not (f.fctCheckerRef.aufruf
        ([f.keylabel, f.corruptedinputpath e, f.pkcsOutPath e] ++ f.argsW))))
      (Sh.subshell (Sh.not (f.fctCheckerPkcs.aufruf
        ([f.keylabel, f.corruptedinputpath e, f.refOutPath e] ++ f.argsW)))))

/-- `testtemplate_generate_check`: the group, then `exitcode=$?` and
    `log_test_result "$testname" "$exitcode"`. -/
def testtemplateGenerateCheck (e : Env) (f : Fall) : Sh :=
  Sh.seqS (testtemplateBlock e f) (logTestResult (f.testname e))

/-! ## 2. Chains of steps -/

/-- A step of a chain: the command line it runs and what that command does. -/
structure Schritt where
  zeile : List String
  cmd : Cmd

/-- The step running the shell function `f` with `args`. -/
def Schritt.aufruf (f : ShFn) (args : List String) : Schritt := ⟨f.name :: args, f.run args⟩

/-- `( ! st )`: the same line, succeeding exactly when `st` fails. -/
def Schritt.nicht (st : Schritt) : Schritt := ⟨st.zeile, Cmd.not st.cmd⟩

/-- The state after `st` ran from `s`. -/
def Schritt.nach (st : Schritt) (s : Shell) : Shell :=
  { s with welt := (st.cmd s).2, spur := s.spur ++ [st.zeile] }

/-- `st₁ && st₂ && …`. -/
def kette : List Schritt → Sh
  | [] => Sh.ret 0
  | st :: rest => Sh.and (Sh.call st.zeile st.cmd) (kette rest)

/-- Every step succeeds, each on the state the ones before it left. -/
def allePassen : List Schritt → Shell → Bool
  | [], _ => true
  | st :: rest, s => (st.cmd s).1 = 0 && allePassen rest (st.nach s)

/-- The state after all the steps ran, one after the other. -/
def nachAllen : List Schritt → Shell → Shell
  | [], s => s
  | st :: rest, s => nachAllen rest (st.nach s)

/-- **The steps that run**: each in turn, up to and including the first that fails. -/
def gelaufen : List Schritt → Shell → List Schritt
  | [], _ => []
  | st :: rest, s => st :: if (st.cmd s).1 = 0 then gelaufen rest (st.nach s) else []

/-- The state a chain leaves from `s`: the files `w` and the lines of the steps that ran. -/
def kettenEnde (L : List Schritt) (s : Shell) (w : Welt) : Shell :=
  { s with welt := w, spur := s.spur ++ (gelaufen L s).map Schritt.zeile }

@[simp] theorem kettenEnde_vars (L : List Schritt) (s : Shell) (w : Welt) :
    (kettenEnde L s w).vars = s.vars := rfl
@[simp] theorem kettenEnde_protokoll (L : List Schritt) (s : Shell) (w : Welt) :
    (kettenEnde L s w).protokoll = s.protokoll := rfl
@[simp] theorem kettenEnde_spur (L : List Schritt) (s : Shell) (w : Welt) :
    (kettenEnde L s w).spur = s.spur ++ (gelaufen L s).map Schritt.zeile := rfl

@[simp] theorem Schritt.nach_vars (st : Schritt) (s : Shell) : (st.nach s).vars = s.vars := rfl
@[simp] theorem Schritt.nach_protokoll (st : Schritt) (s : Shell) :
    (st.nach s).protokoll = s.protokoll := rfl
@[simp] theorem Schritt.nach_spur (st : Schritt) (s : Shell) :
    (st.nach s).spur = s.spur ++ [st.zeile] := rfl

theorem allePassen_append (L₁ L₂ : List Schritt) (s : Shell) :
    allePassen (L₁ ++ L₂) s = (allePassen L₁ s && allePassen L₂ (nachAllen L₁ s)) := by
  induction L₁ generalizing s with
  | nil => rfl
  | cons st rest ih =>
    simp only [List.cons_append, allePassen, nachAllen, List.append_eq, ih, Bool.and_assoc]

/-- **What a chain does, from every state**: it finishes (never exits) with a status that is 0
    exactly when every step passes; it changes no variable and prints no verdict; its spur is the
    lines of the steps that ran. -/
theorem kette_lauf (L : List Schritt) (s : Shell) :
    ∃ c w, kette L s = (.fertig c, kettenEnde L s w) ∧ (c = 0 ↔ allePassen L s = true) := by
  induction L generalizing s with
  | nil => exact ⟨0, s.welt, by simp [kette, kettenEnde, gelaufen], by simp [allePassen]⟩
  | cons st rest ih =>
    by_cases h : (st.cmd s).1 = 0
    · obtain ⟨c, w, hk, hc⟩ := ih (st.nach s)
      refine ⟨c, w, ?_, by simp [allePassen, h, hc]⟩
      simp only [kette, Sh.and_apply, Sh.call_apply, weiter_fertig, h, if_true]
      exact hk.trans (by simp [kettenEnde, Schritt.nach, gelaufen, h])
    · refine ⟨(st.cmd s).1, (st.cmd s).2, ?_, by simp [allePassen, h]⟩
      simp [kette, kettenEnde, gelaufen, h]

/-- The steps that ran are a prefix of the chain: all of it when every step passes, otherwise
    the passing steps before the first failing one, and that one. -/
theorem gelaufen_eq (L : List Schritt) (s : Shell) :
    (allePassen L s = true → gelaufen L s = L) ∧
    (allePassen L s = false → ∃ vor st nach, L = vor ++ st :: nach ∧
      gelaufen L s = vor ++ [st] ∧ allePassen vor s = true ∧
      (st.cmd (nachAllen vor s)).1 ≠ 0) := by
  induction L generalizing s with
  | nil => simp [allePassen, gelaufen]
  | cons st rest ih =>
    by_cases h : (st.cmd s).1 = 0
    · obtain ⟨h1, h2⟩ := ih (st.nach s)
      refine ⟨fun hp => ?_, fun hp => ?_⟩
      · simp only [allePassen, h, decide_True, Bool.true_and] at hp
        simp [gelaufen, h, h1 hp]
      · simp only [allePassen, h, decide_True, Bool.true_and] at hp
        obtain ⟨vor, st', nach, hL, hg, hv, hf⟩ := h2 hp
        exact ⟨st :: vor, st', nach, by simp [hL], by simp [gelaufen, h, hg],
          by simp [allePassen, h, hv], hf⟩
    · refine ⟨fun hp => by simp [allePassen, h] at hp, fun _ => ?_⟩
      exact ⟨[], st, rest, rfl, by simp [gelaufen, h], rfl, h⟩

/-! ## 3. The steps of one case -/

namespace Fall

variable (e : Env) (f : Fall)

def erzeugen : Schritt :=
  ⟨[f.fctPrngInputfile.name, f.inputpath e, toString f.filesize],
    f.fctPrngInputfile.run (f.inputpath e) f.filesize⟩
def kippen : Schritt :=
  ⟨f.kippZeile e, bitflip e (f.inputpath e) (f.corruptedinputpath e) 0 (8 * f.filesize)⟩
def verschieden : Schritt :=
  Schritt.nicht ⟨["diff", f.inputpath e, f.corruptedinputpath e],
    diff (f.inputpath e) (f.corruptedinputpath e)⟩
def pkcsErzeugt : Schritt :=
  .aufruf f.fctGeneratorPkcs ([f.keylabel, f.inputpath e, f.pkcsOutPath e] ++ f.argsW)
def refErzeugt : Schritt :=
  .aufruf f.fctGeneratorRef ([f.keylabel, f.inputpath e, f.refOutPath e] ++ f.argsW)
def vergleich : Schritt :=
  .aufruf f.fctCustomCheckOutFiles ([f.pkcsOutPath e, f.refOutPath e] ++ f.argsW)
def refPrueft : Schritt :=
  .aufruf f.fctCheckerRef ([f.keylabel, f.inputpath e, f.pkcsOutPath e] ++ f.argsW)
def pkcsPrueft : Schritt :=
  .aufruf f.fctCheckerPkcs ([f.keylabel, f.inputpath e, f.refOutPath e] ++ f.argsW)
def refLehntAb : Schritt :=
  (Schritt.aufruf f.fctCheckerRef ([f.keylabel, f.corruptedinputpath e, f.pkcsOutPath e] ++
    f.argsW)).nicht
def pkcsLehntAb : Schritt :=
  (Schritt.aufruf f.fctCheckerPkcs ([f.keylabel, f.corruptedinputpath e, f.refOutPath e] ++
    f.argsW)).nicht

/-- The steps before the comparator: generate the input; for a non-empty payload corrupt a copy
    and check it differs; the subject generates, the reference generates. -/
def vorVergleich : List Schritt :=
  f.erzeugen e :: (if 0 < f.filesize then [f.kippen e, f.verschieden e] else []) ++
    [f.pkcsErzeugt e, f.refErzeugt e]

/-- The steps after the comparator: the reference checks the subject's artifact and the subject
    the reference's, against the input; for a non-empty payload both must then REJECT their
    artifact against the corrupted input. -/
def nachVergleich : List Schritt :=
  [f.refPrueft e, f.pkcsPrueft e] ++
    if 0 < f.filesize then [f.refLehntAb e, f.pkcsLehntAb e] else []

/-- **The steps of one case**, in the order of spec 4.4. -/
def schritte : List Schritt := f.vorVergleich e ++ f.vergleich e :: f.nachVergleich e

/-- The case passes: every step of it, in order. -/
def bestanden (s : Shell) : Bool := allePassen (f.schritte e) s

theorem schritte_null (h : f.filesize = 0) :
    f.schritte e = [f.erzeugen e, f.pkcsErzeugt e, f.refErzeugt e, f.vergleich e,
      f.refPrueft e, f.pkcsPrueft e] := by
  simp [schritte, vorVergleich, nachVergleich, h]

theorem schritte_pos (h : 0 < f.filesize) :
    f.schritte e = [f.erzeugen e, f.kippen e, f.verschieden e, f.pkcsErzeugt e, f.refErzeugt e,
      f.vergleich e, f.refPrueft e, f.pkcsPrueft e, f.refLehntAb e, f.pkcsLehntAb e] := by
  simp [schritte, vorVergleich, nachVergleich, h]

end Fall

/-- **The template's group is the chain of the case's steps**, for every payload size: the
    `if [ "$filesize" -gt 0 ]` blocks add the corruption and the negative checks exactly when the
    payload is not empty, and each `( ! … )` is the step that succeeds when its checker fails. -/
theorem testtemplateBlock_eq_kette (e : Env) (f : Fall) :
    testtemplateBlock e f = kette (f.schritte e) := by
  rcases Nat.eq_zero_or_pos f.filesize with h | h
  · rw [Fall.schritte_null e f h]
    simp only [testtemplateBlock, h, lt_irrefl, decide_False, Sh.ifThen_test_false,
      Sh.ret_zero_and, Sh.and_ret_zero, kette, ShFn.aufruf, Fall.erzeugen, Fall.pkcsErzeugt,
      Fall.refErzeugt, Fall.vergleich, Fall.refPrueft, Fall.pkcsPrueft, Schritt.aufruf]
  · rw [Fall.schritte_pos e f h]
    simp only [testtemplateBlock, h, decide_True, Sh.ifThen_test_true, Sh.subshell_not_call,
      Sh.and_assoc, Sh.and_ret_zero, kette, ShFn.aufruf, Fall.erzeugen, Fall.kippen,
      Fall.verschieden, Fall.pkcsErzeugt, Fall.refErzeugt, Fall.vergleich, Fall.refPrueft,
      Fall.pkcsPrueft, Fall.refLehntAb, Fall.pkcsLehntAb, Schritt.aufruf, Schritt.nicht]

/-- The whole template from a state: the group's chain, then `log_test_result` with its status. -/
theorem buchfuehrung_kette : ∀ L : List Schritt, Haelt buchfuehrung (kette L)
  | [] => Haelt.ret 0
  | _ :: rest => Haelt.and (Haelt.call _ _) (buchfuehrung_kette rest)

/-- A case keeps the bookkeeping: it prints one verdict line and counts it. -/
theorem buchfuehrung_testtemplateGenerateCheck (e : Env) (f : Fall) :
    Haelt buchfuehrung (testtemplateGenerateCheck e f) := by
  unfold testtemplateGenerateCheck
  rw [testtemplateBlock_eq_kette]
  exact Haelt.seqS (buchfuehrung_kette _) (buchfuehrung_logTestResult _)

theorem testtemplateGenerateCheck_lauf (e : Env) (f : Fall) (s : Shell) :
    ∃ c w, testtemplateBlock e f s = (.fertig c, kettenEnde (f.schritte e) s w) ∧
      (c = 0 ↔ allePassen (f.schritte e) s = true) ∧
      testtemplateGenerateCheck e f s =
        logTestResult (f.testname e) c (kettenEnde (f.schritte e) s w) := by
  obtain ⟨c, w, hk, hc⟩ := kette_lauf (f.schritte e) s
  rw [← testtemplateBlock_eq_kette] at hk
  exact ⟨c, w, hk, hc, by simp only [testtemplateGenerateCheck, Sh.seqS_apply, hk, weiter_fertig]⟩

/-- **THE TEMPLATE'S VERDICT**, for every case, every payload size, every state and every behaviour
    of the functions it is handed: the group hands `log_test_result` a status that is 0 exactly
    when every step of `Fall.schritte` passes in order; the template returns to the suite (it
    never exits) having printed that verdict and counted it; the steps that ran are those up to
    and including the first failing one and no other; the corruption and the two negative checks
    are among the steps exactly when the payload is not empty. -/
theorem testtemplateGenerateCheck_verdict (e : Env) (f : Fall) (s : Shell) :
    (∃ c, (testtemplateBlock e f s).1 = .fertig c ∧ (c = 0 ↔ f.bestanden e s = true)) ∧
    (testtemplateGenerateCheck e f s).1 = .fertig 0 ∧
    (testtemplateGenerateCheck e f s).2.protokoll =
      s.protokoll ++ [(f.testname e, f.bestanden e s)] ∧
    (testtemplateGenerateCheck e f s).2.vars.numTestsPassed =
      s.vars.numTestsPassed + (if f.bestanden e s then 1 else 0) ∧
    (testtemplateGenerateCheck e f s).2.vars.numTestsFailed =
      s.vars.numTestsFailed + (if f.bestanden e s then 0 else 1) ∧
    (testtemplateGenerateCheck e f s).2.spur =
      s.spur ++ (gelaufen (f.schritte e) s).map Schritt.zeile ∧
    (f.bestanden e s = true → gelaufen (f.schritte e) s = f.schritte e) ∧
    (f.bestanden e s = false → ∃ vor st nach, f.schritte e = vor ++ st :: nach ∧
      gelaufen (f.schritte e) s = vor ++ [st] ∧ allePassen vor s = true ∧
      (st.cmd (nachAllen vor s)).1 ≠ 0) ∧
    (f.filesize = 0 → f.schritte e = [f.erzeugen e, f.pkcsErzeugt e, f.refErzeugt e,
      f.vergleich e, f.refPrueft e, f.pkcsPrueft e]) ∧
    (0 < f.filesize → f.schritte e = [f.erzeugen e, f.kippen e, f.verschieden e,
      f.pkcsErzeugt e, f.refErzeugt e, f.vergleich e, f.refPrueft e, f.pkcsPrueft e,
      f.refLehntAb e, f.pkcsLehntAb e]) := by
  obtain ⟨c, w, hb, hc, ht⟩ := testtemplateGenerateCheck_lauf e f s
  have hd : decide (c = 0) = f.bestanden e s := by
    by_cases h : c = 0 <;> simp_all [Fall.bestanden]
  refine ⟨⟨c, by rw [hb], hc⟩, by rw [ht]; rfl,
    by rw [ht, logTestResult_protokoll, hd, kettenEnde_protokoll],
    by rw [ht, logTestResult_passed, ← hd]; by_cases h : c = 0 <;> simp [h],
    by rw [ht, logTestResult_failed, ← hd]; by_cases h : c = 0 <;> simp [h],
    by rw [ht]; rfl, (gelaufen_eq _ s).1, (gelaufen_eq _ s).2,
    Fall.schritte_null e f, Fall.schritte_pos e f⟩

end NitroEnclavesAcm.Testtool
