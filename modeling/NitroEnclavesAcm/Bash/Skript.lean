import NitroEnclavesAcm.Bash.Semantik

/-
  File:      NitroEnclavesAcm/Bash/Skript.lean
  Subject:   The fragment of bash of `Bash/Semantik.lean` over ANY state: for a script whose
             globals are not the test tool's (`tools/devtool`).

  `Sh` fixes the state to the test tool's shell. `Skript σ` is a command over a state `σ`, with
  the same outcomes (`Ausgang`) and the same combinators: `;` (`seqS`, which hands `$?` on),
  `&&`, `||`, `if`, `for`, `exit`, an assignment to globals (`aendern`) and a command built from
  the current state (`lies`).

  The rules of `Bash/Lauf.lean` come with it. A `Regel` relates the state a command starts from
  to the outcome and state it ends in; it holds of doing nothing and composes over `;`, so that
  **a rule is proved of a whole script from one lemma per primitive** (`Haelt.seqS`,
  `Haelt.forIn`, …). `HaeltAb` is a rule from the states a precondition admits, for a primitive
  that keeps the rule only where an earlier step has prepared the state (`HaeltAb.seqS`); a
  `Tripel` adds what a command leaves when it returns (`Tripel.seqS`), and `Kehrt` says that a
  command returns at all (`Kehrt.seqS`).
-/

namespace NitroEnclavesAcm.Bash

/-- A shell command over the state `σ`. -/
def Skript (σ : Type) := σ → Ausgang × σ

namespace Skript

variable {σ : Type}

/-! ## 1. Combinators -/

/-- Hand the outcome of a command to what follows it: after `fertig n` the rest runs with
    `$? = n`; after `exit` nothing runs. -/
def weiter : Ausgang × σ → (UInt8 → Skript σ) → Ausgang × σ
  | (.fertig n, s), k => k n s
  | (.exit n, s), _ => (.exit n, s)

@[simp] theorem weiter_fertig (n : UInt8) (s : σ) (k : UInt8 → Skript σ) :
    weiter (.fertig n, s) k = k n s := rfl

@[simp] theorem weiter_exit (n : UInt8) (s : σ) (k : UInt8 → Skript σ) :
    weiter (.exit n, s) k = (.exit n, s) := rfl

/-- A builtin that finishes with status `n` and changes nothing (`return n`, `echo`). -/
def ret (n : UInt8) : Skript σ := fun s => (.fertig n, s)

/-- `exit n`. -/
def exit (n : UInt8) : Skript σ := fun s => (.exit n, s)

/-- `[[ … ]]`: status 0 when the test holds, 1 otherwise. -/
def test (b : Bool) : Skript σ := ret (if b then 0 else 1)

/-- An assignment to globals. -/
def aendern (f : σ → σ) : Skript σ := fun s => (.fertig 0, f s)

/-- A command built from the current state (`"$var"` in an argument). -/
def lies (k : σ → Skript σ) : Skript σ := fun s => k s s

/-- `a; k $?`: run `a`, then `k` with its status, unless `a` ran `exit`. -/
def seqS (a : Skript σ) (k : UInt8 → Skript σ) : Skript σ := fun s => weiter (a s) k

/-- `a; b`. -/
def seq (a b : Skript σ) : Skript σ := seqS a fun _ => b

/-- `a && b`: `b` runs only after `a` succeeded; otherwise the status is `a`'s. -/
def and (a b : Skript σ) : Skript σ := seqS a fun n => if n = 0 then b else ret n

/-- `a || b`. -/
def or (a b : Skript σ) : Skript σ := seqS a fun n => if n = 0 then ret 0 else b

/-- `if c; then t; fi`: status 0 when the condition fails. -/
def ifThen (c t : Skript σ) : Skript σ := seqS c fun n => if n = 0 then t else ret 0

/-- `a && b && …`. The shell reads it as `(a && b) && …`, which runs and ends as
    `a && (b && …)`. -/
def andAlle : List (Skript σ) → Skript σ
  | [] => ret 0
  | a :: as => and a (andAlle as)

/-- The loop behind `for x in xs; do body; done`, carrying the status of the last body run. -/
def forInAux {α : Type} (body : α → Skript σ) : List α → UInt8 → Skript σ
  | [], n => ret n
  | x :: xs, _ => seqS (body x) (forInAux body xs)

/-- `for x in xs; do body; done`: status of the last body run, 0 when none ran. -/
def forIn {α : Type} (xs : List α) (body : α → Skript σ) : Skript σ := forInAux body xs 0

@[simp] theorem ret_apply (n : UInt8) (s : σ) : ret n s = (.fertig n, s) := rfl
@[simp] theorem exit_apply (n : UInt8) (s : σ) : Skript.exit n s = (.exit n, s) := rfl
@[simp] theorem test_apply (b : Bool) (s : σ) :
    test b s = (.fertig (if b then 0 else 1), s) := rfl
@[simp] theorem aendern_apply (f : σ → σ) (s : σ) : aendern f s = (.fertig 0, f s) := rfl
@[simp] theorem lies_apply (k : σ → Skript σ) (s : σ) : lies k s = k s s := rfl
@[simp] theorem seqS_apply (a : Skript σ) (k : UInt8 → Skript σ) (s : σ) :
    seqS a k s = weiter (a s) k := rfl

theorem ifThen_test_true (t : Skript σ) : ifThen (test true) t = t := rfl

theorem ifThen_test_false (t : Skript σ) : ifThen (test false) t = ret 0 := rfl

/-! ## 2. Rules a run keeps -/

/-- **A rule about runs**: a relation between the state a command starts from and the outcome
    and state it ends in, which doing nothing satisfies and which composes over `;`. -/
structure Regel (σ : Type) where
  R : σ → Ausgang × σ → Prop
  ret : ∀ s n, R s (.fertig n, s)
  trans : ∀ {s t r} n, R s (.fertig n, t) → R t r → R s r

/-- `a` keeps the rule `L` from every state `P` admits. -/
def HaeltAb (L : Regel σ) (P : σ → Prop) (a : Skript σ) : Prop := ∀ s, P s → L.R s (a s)

/-- `a` keeps the rule `L` from every state. -/
def Haelt (L : Regel σ) (a : Skript σ) : Prop := ∀ s, L.R s (a s)

namespace Haelt

variable {L : Regel σ}

theorem ab {P : σ → Prop} {a : Skript σ} (h : Haelt L a) : HaeltAb L P a := fun s _ => h s

theorem ret (n : UInt8) : Haelt L (Skript.ret n : Skript σ) := fun s => L.ret s n

theorem test (b : Bool) : Haelt L (Skript.test b : Skript σ) := ret _

theorem lies {k : σ → Skript σ} (hk : ∀ v, Haelt L (k v)) : Haelt L (Skript.lies k) := fun s =>
  hk s s

theorem seqS {a : Skript σ} {k : UInt8 → Skript σ} (ha : Haelt L a) (hk : ∀ n, Haelt L (k n)) :
    Haelt L (Skript.seqS a k) := by
  intro s
  have h := ha s
  rw [seqS_apply]
  rcases e : a s with ⟨o, t⟩
  rw [e] at h
  cases o with
  | fertig n => exact L.trans n h (hk n t)
  | exit n => exact h

theorem ite {p : Prop} [Decidable p] {a b : Skript σ} (ha : Haelt L a) (hb : Haelt L b) :
    Haelt L (if p then a else b) := by
  split <;> assumption

theorem seq {a b : Skript σ} (ha : Haelt L a) (hb : Haelt L b) : Haelt L (Skript.seq a b) :=
  seqS ha fun _ => hb

theorem and {a b : Skript σ} (ha : Haelt L a) (hb : Haelt L b) : Haelt L (Skript.and a b) :=
  seqS ha fun _ => ite hb (ret _)

theorem ifThen {c t : Skript σ} (hc : Haelt L c) (ht : Haelt L t) :
    Haelt L (Skript.ifThen c t) :=
  seqS hc fun _ => ite ht (ret _)

theorem forInAux {α : Type} {body : α → Skript σ} (hb : ∀ x, Haelt L (body x)) :
    ∀ (xs : List α) (n : UInt8), Haelt L (Skript.forInAux body xs n)
  | [], n => ret n
  | x :: xs, _ => seqS (hb x) (forInAux hb xs)

theorem forIn {α : Type} {body : α → Skript σ} (hb : ∀ x, Haelt L (body x)) (xs : List α) :
    Haelt L (Skript.forIn xs body) := forInAux hb xs 0

end Haelt

/-- **A step that prepares the next one**: `a` keeps the rule from the states `P` admits and,
    when it finishes, leaves a state `Q` admits, from which `k` keeps the rule. -/
theorem HaeltAb.seqS {L : Regel σ} {P Q : σ → Prop} {a : Skript σ} {k : UInt8 → Skript σ}
    (ha : HaeltAb L P a) (hq : ∀ s n t, P s → a s = (.fertig n, t) → Q t)
    (hk : ∀ n, HaeltAb L Q (k n)) : HaeltAb L P (Skript.seqS a k) := by
  intro s hs
  have h := ha s hs
  rw [seqS_apply]
  rcases e : a s with ⟨o, t⟩
  rw [e] at h
  cases o with
  | fertig n => exact L.trans n h (hk n t (hq s n t hs e))
  | exit n => exact h

/-- **A triple**: from the states `P` admits, `a` keeps the rule `L` and, when it returns, leaves
    a state `Q` admits. -/
def Tripel (L : Regel σ) (P : σ → Prop) (a : Skript σ) (Q : σ → Prop) : Prop :=
  ∀ s, P s → L.R s (a s) ∧ ∀ n t, a s = (.fertig n, t) → Q t

namespace Tripel

variable {L : Regel σ} {P Q R : σ → Prop}

theorem of_haelt {a : Skript σ} (h : Haelt L a) : Tripel L (fun _ => True) a (fun _ => True) :=
  fun s _ => ⟨h s, fun _ _ _ => trivial⟩

theorem seqS {a : Skript σ} {k : UInt8 → Skript σ} (ha : Tripel L P a Q)
    (hk : ∀ n, Tripel L Q (k n) R) : Tripel L P (Skript.seqS a k) R := by
  intro s hs
  obtain ⟨h, hq⟩ := ha s hs
  rw [seqS_apply]
  rcases e : a s with ⟨n | c, t⟩ <;> rw [e] at h
  · obtain ⟨hk₁, hk₂⟩ := hk n t (hq n t e)
    exact ⟨L.trans n h hk₁, hk₂⟩
  · exact ⟨h, fun _ _ h => nomatch h⟩

theorem seq {a b : Skript σ} (ha : Tripel L P a Q) (hb : Tripel L Q b R) :
    Tripel L P (Skript.seq a b) R := seqS ha fun _ => hb

/-- `if [[ … ]]; then t; fi`, whichever way the test goes. -/
theorem ifThen_test (b : Bool) {t : Skript σ} (ht : Tripel L P t Q) (h0 : Tripel L P (ret 0) Q) :
    Tripel L P (ifThen (test b) t) Q := by
  cases b <;> assumption

end Tripel

/-! ## 4. Runs that return -/

/-- **`a` returns** from every state, with a status `P` admits. A rule (`Regel`) speaks of the
    runs that return; this says that they do. -/
def Kehrt (P : UInt8 → Prop) (a : Skript σ) : Prop := ∀ s, ∃ k t, a s = (.fertig k, t) ∧ P k

namespace Kehrt

variable {P Q : UInt8 → Prop}

theorem ret {n : UInt8} (h : P n) : Kehrt P (Skript.ret n : Skript σ) := fun s => ⟨n, s, rfl, h⟩

theorem ret_null : Kehrt (· = 0) (Skript.ret 0 : Skript σ) := ret rfl

/-- A run that returns 0 from every state ends with the status 0. -/
theorem fertig_null {a : Skript σ} (h : Kehrt (· = 0) a) (s : σ) : (a s).1 = .fertig 0 := by
  obtain ⟨_, _, e, hk⟩ := h s
  rw [e]
  exact congrArg Ausgang.fertig hk

theorem test (b : Bool) : Kehrt (fun _ => True) (Skript.test b : Skript σ) := fun s =>
  ⟨_, s, rfl, trivial⟩

theorem aendern (f : σ → σ) : Kehrt (· = 0) (Skript.aendern f) := fun s => ⟨0, f s, rfl, rfl⟩

theorem lies {k : σ → Skript σ} (h : ∀ v, Kehrt P (k v)) : Kehrt P (Skript.lies k) := fun s =>
  h s s

theorem seqS {a : Skript σ} {k : UInt8 → Skript σ} (ha : Kehrt P a)
    (hk : ∀ n, P n → Kehrt Q (k n)) : Kehrt Q (Skript.seqS a k) := fun s => by
  obtain ⟨n, t, e, hn⟩ := ha s
  rw [seqS_apply, e, weiter_fertig]
  exact hk n hn t

theorem seq {a b : Skript σ} (ha : Kehrt P a) (hb : Kehrt Q b) : Kehrt Q (Skript.seq a b) :=
  seqS ha fun _ _ => hb

theorem and {a b : Skript σ} (ha : Kehrt (· = 0) a) (hb : Kehrt (· = 0) b) :
    Kehrt (· = 0) (Skript.and a b) :=
  seqS ha fun _ hn => by rw [if_pos hn]; exact hb

theorem or {a b : Skript σ} (ha : Kehrt P a) (hb : Kehrt (· = 0) b) :
    Kehrt (· = 0) (Skript.or a b) :=
  seqS ha fun _ _ => by split; exacts [ret rfl, hb]

theorem ifThen {c t : Skript σ} (hc : Kehrt P c) (ht : Kehrt (· = 0) t) :
    Kehrt (· = 0) (Skript.ifThen c t) :=
  seqS hc fun _ _ => by split; exacts [ht, ret rfl]

/-- A branch on a known truth value needs its body to return only when it is taken. -/
theorem ifThen_test (b : Bool) {t : Skript σ} (ht : b = true → Kehrt (· = 0) t) :
    Kehrt (· = 0) (Skript.ifThen (Skript.test b) t) := by
  cases b
  exacts [ret rfl, ht rfl]

theorem forInAux {α : Type} {body : α → Skript σ} (hb : ∀ x, Kehrt P (body x)) :
    ∀ (xs : List α) {n : UInt8}, P n → Kehrt P (Skript.forInAux body xs n)
  | [], _, hn => ret hn
  | x :: xs, _, _ => seqS (hb x) fun _ hn => forInAux hb xs hn

theorem forIn {α : Type} {body : α → Skript σ} (hb : ∀ x, Kehrt (· = 0) (body x)) (xs : List α) :
    Kehrt (· = 0) (Skript.forIn xs body) := forInAux hb xs rfl

theorem andAlle {as : List (Skript σ)} (h : ∀ a ∈ as, Kehrt (· = 0) a) :
    Kehrt (· = 0) (Skript.andAlle as) := by
  induction as with
  | nil => exact ret rfl
  | cons a as ih =>
    exact and (h a (List.mem_cons_self _ _)) (ih fun b hb => h b (List.mem_cons_of_mem _ hb))

end Kehrt

end Skript

end NitroEnclavesAcm.Bash
