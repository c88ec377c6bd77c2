import NitroEnclavesAcm.Bash.Semantik

/-
  File:      NitroEnclavesAcm/Bash/Lauf.lean
  Subject:   What a whole run keeps, and when two commands do the same.

  A `Laufregel` relates the state a command starts from to the outcome and state it ends in; it
  holds of doing nothing and composes over `;`. **Every command built from the combinators keeps
  a rule once its primitive commands do** (`Haelt.seqS`, `Haelt.forIn`, …), so a rule is proved
  of a whole program from one lemma per primitive.

  * `buchfuehrung` -- the bookkeeping of the test tool: every verdict line a command prints is
    counted in `num_tests_passed` or `num_tests_failed`, nothing else is, and every `exit` carries
    a non-zero code;
  * `Sh.Gleich` -- two commands that do the same, their final status aside; a congruence for `;`
    and `for`, under which nested loops are one loop over the flattened list
    (`Sh.Gleich.forIn_flatMap`).
-/

namespace NitroEnclavesAcm.Bash

/-! ## 1. Rules a run keeps -/

/-- **A rule about runs**: a relation between the state a command starts from and the outcome and
    state it ends in, which doing nothing satisfies and which composes over `;`. -/
structure Laufregel where
  R : Shell → Ausgang × Shell → Prop
  ret : ∀ s n, R s (.fertig n, s)
  trans : ∀ {s t r} n, R s (.fertig n, t) → R t r → R s r

/-- `a` keeps the rule `L`, from every state. -/
def Haelt (L : Laufregel) (a : Sh) : Prop := ∀ s, L.R s (a s)

namespace Haelt

variable {L : Laufregel}

theorem ret (n : UInt8) : Haelt L (Sh.ret n) := fun s => L.ret s n

theorem test (b : Bool) : Haelt L (Sh.test b) := ret _

theorem lies {k : Vars → Sh} (hk : ∀ v, Haelt L (k v)) : Haelt L (Sh.lies k) := fun s =>
  hk s.vars s

theorem seqS {a : Sh} {k : UInt8 → Sh} (ha : Haelt L a) (hk : ∀ n, Haelt L (k n)) :
    Haelt L (Sh.seqS a k) := by
  intro s
  have h := ha s
  simp only [Sh.seqS_apply]
  rcases e : a s with ⟨o, t⟩
  rw [e] at h
  cases o with
  | fertig n => exact L.trans n h (hk n t)
  | exit n => exact h

theorem ite {p : Prop} [Decidable p] {a b : Sh} (ha : Haelt L a) (hb : Haelt L b) :
    Haelt L (if p then a else b) := by
  split <;> assumption

theorem seq {a b : Sh} (ha : Haelt L a) (hb : Haelt L b) : Haelt L (Sh.seq a b) :=
  seqS ha fun _ => hb

theorem and {a b : Sh} (ha : Haelt L a) (hb : Haelt L b) : Haelt L (Sh.and a b) :=
  seqS ha fun _ => ite hb (ret _)

theorem not {a : Sh} (ha : Haelt L a) : Haelt L (Sh.not a) := seqS ha fun _ => ret _

theorem ifThen {c t : Sh} (hc : Haelt L c) (ht : Haelt L t) : Haelt L (Sh.ifThen c t) :=
  seqS hc fun _ => ite ht (ret _)

theorem ifThenElse {c t e : Sh} (hc : Haelt L c) (ht : Haelt L t) (he : Haelt L e) :
    Haelt L (Sh.ifThenElse c t e) :=
  seqS hc fun _ => ite ht he

theorem forInAux {α : Type} {body : α → Sh} (hb : ∀ x, Haelt L (body x)) :
    ∀ (xs : List α) (n : UInt8), Haelt L (Sh.forInAux body xs n)
  | [], n => ret n
  | x :: xs, _ => seqS (hb x) (forInAux hb xs)

theorem forIn {α : Type} {body : α → Sh} (hb : ∀ x, Haelt L (body x)) (xs : List α) :
    Haelt L (Sh.forIn xs body) := forInAux hb xs 0

theorem folge {cs : List Sh} (hc : ∀ c ∈ cs, Haelt L c) : Haelt L (Sh.folge cs) := by
  unfold Sh.folge Sh.forIn
  generalize (0 : UInt8) = n
  induction cs generalizing n with
  | nil => exact ret n
  | cons c cs ih =>
    exact seqS (hc c (List.mem_cons_self _ _)) (ih fun c' h => hc c' (List.mem_cons_of_mem _ h))

end Haelt

/-! ## 2. Bookkeeping -/

/-- From `s` to `t` the protokoll grew by the lines `neu`, and the two counters by the number of
    PASSED and of FAILED lines among them. -/
def Gezaehlt (s t : Shell) : Prop :=
  ∃ neu : List (String × Bool), t.protokoll = s.protokoll ++ neu ∧
    t.vars.numTestsPassed = s.vars.numTestsPassed + neu.countP (·.2) ∧
    t.vars.numTestsFailed = s.vars.numTestsFailed + neu.countP (!·.2)

theorem Gezaehlt.refl (s : Shell) : Gezaehlt s s := ⟨[], by simp⟩

theorem Gezaehlt.trans {s t u : Shell} : Gezaehlt s t → Gezaehlt t u → Gezaehlt s u := by
  rintro ⟨n₁, hp₁, ha₁, hb₁⟩ ⟨n₂, hp₂, ha₂, hb₂⟩
  refine ⟨n₁ ++ n₂, by rw [hp₂, hp₁, List.append_assoc], ?_, ?_⟩ <;>
    simp only [List.countP_append] <;> omega

/-- **The bookkeeping of the test tool**: every verdict line is counted, in the counter of its
    verdict, nothing else is, and an `exit` carries a non-zero code. -/
def buchfuehrung : Laufregel where
  R s r := Gezaehlt s r.2 ∧ ∀ c, r.1 = .exit c → c ≠ 0
  ret s _ := ⟨Gezaehlt.refl s, fun _ h => nomatch h⟩
  trans _ h₁ h₂ := ⟨h₁.1.trans h₂.1, h₂.2⟩

namespace Haelt

theorem exit {n : UInt8} (h : n ≠ 0) : Haelt buchfuehrung (Sh.exit n) := fun s =>
  ⟨Gezaehlt.refl s, fun _ e => by cases e; exact h⟩

theorem call (z : List String) (c : Cmd) : Haelt buchfuehrung (Sh.call z c) := fun _ =>
  ⟨⟨[], by simp⟩, fun _ h => nomatch h⟩

theorem set {f : Vars → Vars}
    (hf : ∀ v, (f v).numTestsPassed = v.numTestsPassed ∧ (f v).numTestsFailed = v.numTestsFailed) :
    Haelt buchfuehrung (Sh.set f) := fun s =>
  ⟨⟨[], by simp [hf]⟩, fun _ h => nomatch h⟩

/-- A subshell that prints no verdict keeps the bookkeeping: its variables are dropped. -/
theorem subshell {a : Sh} (ha : ∀ s, (a s).2.protokoll = s.protokoll) :
    Haelt buchfuehrung (Sh.subshell a) := fun s =>
  ⟨⟨[], by simp [ha]⟩, fun _ h => nomatch h⟩

end Haelt

/-! ## 3. Equations between commands -/

namespace Sh

theorem and_assoc (a b c : Sh) : Sh.and (Sh.and a b) c = Sh.and a (Sh.and b c) := by
  funext s
  simp only [and_apply]
  rcases a s with ⟨_ | n, s'⟩
  · simp only [weiter_fertig]
    split
    · rfl
    · rename_i h; simp [h]
  · rfl

theorem and_ret_zero (a : Sh) : Sh.and a (Sh.ret 0) = a := by
  funext s
  simp only [and_apply]
  rcases a s with ⟨_ | n, s'⟩
  · simp only [weiter_fertig]
    split <;> simp_all
  · rfl

theorem ret_zero_and (b : Sh) : Sh.and (Sh.ret 0) b = b := rfl

theorem seqS_assoc (a : Sh) (k k' : UInt8 → Sh) :
    Sh.seqS (Sh.seqS a k) k' = Sh.seqS a fun n => Sh.seqS (k n) k' := by
  funext s
  simp only [seqS_apply]
  rcases a s with ⟨_ | n, s'⟩ <;> rfl

theorem seq_assoc (a b c : Sh) : Sh.seq (Sh.seq a b) c = Sh.seq a (Sh.seq b c) :=
  seqS_assoc a _ _

/-- Followed by another command, a loop's final status is lost: where it started from does not
    matter. -/
theorem seq_forInAux {α : Type} (body : α → Sh) (L : List α) (m n : UInt8) (c : Sh) :
    Sh.seq (Sh.forInAux body L m) c = Sh.seq (Sh.forInAux body L n) c := by
  cases L <;> rfl

theorem ifThen_test_true (t : Sh) : Sh.ifThen (Sh.test true) t = t := rfl

theorem ifThen_test_false (t : Sh) : Sh.ifThen (Sh.test false) t = Sh.ret 0 := rfl

theorem forIn_map {α β : Type} (body : β → Sh) (g : α → β) (xs : List α) :
    Sh.forIn (xs.map g) body = Sh.forIn xs fun x => body (g x) := by
  unfold forIn
  generalize (0 : UInt8) = n
  induction xs generalizing n with
  | nil => rfl
  | cons x xs ih => exact congrArg (Sh.seqS _) (funext ih)

theorem forIn_singleton {α : Type} (body : α → Sh) (x : α) : Sh.forIn [x] body = body x := by
  funext s
  simp only [forIn, forInAux_cons, seqS_apply, forInAux_nil]
  rcases body x s with ⟨_ | _, _⟩ <;> rfl

/-- `( ! cmd )` for an external command: its line runs, and the status is turned around. -/
theorem subshell_not_call (z : List String) (c : Cmd) :
    Sh.subshell (Sh.not (Sh.call z c)) = Sh.call z (Cmd.not c) := rfl

end Sh

/-! ## 4. Equal up to the status

A command followed by another leaves only its effect: its status is lost. Two commands that
agree whatever follows them are `Gleich`; the loops of `cmd_openssl` are `Gleich` to one loop
over the list of cases they run. -/

/-- `a` and `b` do the same, their final status aside: followed by any command they agree. -/
def Sh.Gleich (a b : Sh) : Prop := ∀ c, Sh.seq a c = Sh.seq b c

namespace Sh.Gleich

variable {a a' b b' d : Sh}

theorem refl (a : Sh) : Gleich a a := fun _ => rfl

theorem of_eq (h : a = b) : Gleich a b := h ▸ refl a

theorem symm (h : Gleich a b) : Gleich b a := fun c => (h c).symm

theorem trans (h₁ : Gleich a b) (h₂ : Gleich b d) : Gleich a d := fun c => (h₁ c).trans (h₂ c)

theorem seq (ha : Gleich a a') (hb : Gleich b b') : Gleich (Sh.seq a b) (Sh.seq a' b') := by
  intro c
  rw [Sh.seq_assoc, Sh.seq_assoc, ha, hb]

theorem forIn_cons {α : Type} (body : α → Sh) (x : α) (xs : List α) :
    Gleich (Sh.forIn (x :: xs) body) (Sh.seq (body x) (Sh.forIn xs body)) := by
  intro c
  simp only [Sh.forIn, Sh.forInAux_cons, Sh.seq, Sh.seqS_assoc]
  exact congrArg (Sh.seqS _) (funext fun m => Sh.seq_forInAux body xs m 0 c)

theorem forIn {α : Type} {body body' : α → Sh} (h : ∀ x, Gleich (body x) (body' x)) (xs : List α) :
    Gleich (Sh.forIn xs body) (Sh.forIn xs body') := by
  induction xs with
  | nil => exact refl _
  | cons x xs ih => exact (forIn_cons _ x xs).trans (((h x).seq ih).trans (forIn_cons _ x xs).symm)

theorem forIn_append {α : Type} (body : α → Sh) (L₁ L₂ : List α) :
    Gleich (Sh.forIn (L₁ ++ L₂) body) (Sh.seq (Sh.forIn L₁ body) (Sh.forIn L₂ body)) := by
  induction L₁ with
  | nil => exact refl _
  | cons x xs ih =>
    refine (forIn_cons body x _).trans (((refl _).seq ih).trans ?_)
    rw [← Sh.seq_assoc]
    exact (forIn_cons body x xs).symm.seq (refl _)

/-- **Nested loops run the flattened list**: `for x in xs; do B x; done`, where each `B x` does
    what the loop over `f x` does, does what the loop over `xs.flatMap f` does. -/
theorem forIn_flatMap {α β : Type} {body : β → Sh} {B : α → Sh} {f : α → List β}
    (h : ∀ x, Gleich (B x) (Sh.forIn (f x) body)) (xs : List α) :
    Gleich (Sh.forIn xs B) (Sh.forIn (xs.flatMap f) body) := by
  induction xs with
  | nil => exact refl _
  | cons x xs ih =>
    rw [List.flatMap_cons]
    exact (forIn_cons B x xs).trans (((h x).seq ih).trans (forIn_append body _ _).symm)

/-- `if [ b ]; then t; else u; fi` does what the loop over the cases of the branch taken does. -/
theorem ifThenElse_test {α : Type} {body : α → Sh} {t u : Sh} {L₁ L₂ : List α} (b : Bool)
    (ht : Gleich t (Sh.forIn L₁ body)) (hu : Gleich u (Sh.forIn L₂ body)) :
    Gleich (Sh.ifThenElse (Sh.test b) t u) (Sh.forIn (if b then L₁ else L₂) body) := by
  cases b
  · exact hu
  · exact ht

theorem ifThen_test {α : Type} {body : α → Sh} {t : Sh} {L : List α} (b : Bool)
    (ht : Gleich t (Sh.forIn L body)) :
    Gleich (Sh.ifThen (Sh.test b) t) (Sh.forIn (if b then L else []) body) := by
  cases b
  · exact refl _
  · exact ht

/-- **The bookkeeping does not look at the final status**: a command that does what a
    bookkeeping command does, its status aside, keeps the bookkeeping too. -/
theorem buchfuehrung {a b : Sh} (h : Gleich a b) (hb : Haelt buchfuehrung b) :
    Haelt buchfuehrung a := by
  intro s
  have e : Sh.seq a (Sh.ret 0) s = Sh.seq b (Sh.ret 0) s := by rw [h]
  obtain ⟨hz, hx⟩ := hb s
  revert e hz hx
  simp only [Sh.seq_apply]
  rcases a s with ⟨_ | c, t⟩ <;> rcases b s with ⟨_ | d, u⟩ <;>
    simp only [weiter_fertig, weiter_exit, Sh.ret_apply, Prod.mk.injEq, reduceCtorEq,
      Ausgang.exit.injEq, false_and, IsEmpty.forall_iff, and_imp]
  · rintro - rfl hz -
    exact ⟨hz, fun _ h => nomatch h⟩
  · rintro rfl rfl hz hx
    exact ⟨hz, fun _ h => hx _ (Ausgang.exit.inj h)⟩

end Sh.Gleich

end NitroEnclavesAcm.Bash
